/- module: EasyTierEdge/Secure/ReplayWindow
   source: cloudflare/wasm/src/secure.rs, ReplayWindow256
   digest: The 256-wide replay bitmap and what an accepted sequence number says about it. -/

import EasyTierEdge.Packet
import Mathlib.Data.Set.Insert

set_option autoImplicit false
set_option relaxedAutoImplicit false

namespace EasyTierEdge.Secure.ReplayWindow

open Packet (usizeSize)

/-- The 32 bitmap bytes; bit `i` stands for the sequence number `i` below the maximum. -/
abbrev Bitmap := Vector UInt8 32

structure ReplayWindow256 where
  maxSeq : UInt64
  bitmap : Bitmap
  valid : Bool
  deriving DecidableEq

def zeroBitmap : Bitmap := Vector.replicate 32 0

/-- `bitmap[i]`; every index the code uses is in bounds. -/
def byteAt (b : Bitmap) (i : Nat) : UInt8 := b[i]?.getD 0

/-- A narrowing cast to the 32-bit `usize` of wasm32. -/
def asUsize (x : UInt64) : Nat := x.toNat % usizeSize

/-- The descending in-place byte move of `shift_right`. -/
def moveBytes (byteShift : Nat) (b : Bitmap) : Bitmap :=
  (List.range 32).reverse.foldl (fun b i =>
    b.setIfInBounds i (if i ≥ byteShift then byteAt b (i - byteShift) else 0)) b

/-- The ascending bit-carry loop of `shift_right`; the second component is `carry`. -/
def carryBits (bitShift : Nat) (b : Bitmap) : Bitmap × UInt8 :=
  (List.range 32).foldl (fun (b, carry) i =>
    let byte := byteAt b i
    let nextCarry := byte >>> UInt8.ofNat (8 - bitShift)
    (b.setIfInBounds i ((byte <<< UInt8.ofNat bitShift) ||| carry), nextCarry)) (b, 0)

namespace ReplayWindow256

def default : ReplayWindow256 := ⟨0, zeroBitmap, false⟩

instance : Inhabited ReplayWindow256 := ⟨default⟩

def clear (_ : ReplayWindow256) : ReplayWindow256 := default

def testBit (w : ReplayWindow256) (idx : Nat) : Bool :=
  (byteAt w.bitmap (idx / 8) >>> UInt8.ofNat (idx % 8)) &&& 1 == 1

def setBit (w : ReplayWindow256) (idx : Nat) : ReplayWindow256 :=
  let marked := byteAt w.bitmap (idx / 8) ||| ((1 : UInt8) <<< UInt8.ofNat (idx % 8))
  { w with bitmap := w.bitmap.setIfInBounds (idx / 8) marked }

def shiftRight (w : ReplayWindow256) (shift : Nat) : ReplayWindow256 :=
  if shift = 0 then w
  else if shift ≥ 256 then { w with bitmap := zeroBitmap }
  else
    let byteShift := shift / 8
    let bitShift := shift % 8
    let moved := if byteShift > 0 then moveBytes byteShift w.bitmap else w.bitmap
    { w with bitmap := if bitShift > 0 then (carryBits bitShift moved).1 else moved }

def canAccept (w : ReplayWindow256) (seq : UInt64) : Bool :=
  if !w.valid || seq > w.maxSeq then true
  else
    let delta := asUsize (w.maxSeq - seq)
    delta < 256 && !w.testBit delta

def accept (w : ReplayWindow256) (seq : UInt64) : Bool × ReplayWindow256 :=
  if !w.valid then
    (true, setBit { w with valid := true, maxSeq := seq } 0)
  else if seq > w.maxSeq then
    (true, setBit { w.shiftRight (asUsize (seq - w.maxSeq)) with maxSeq := seq } 0)
  else
    let delta := asUsize (w.maxSeq - seq)
    if delta ≥ 256 || w.testBit delta then (false, w) else (true, w.setBit delta)

end ReplayWindow256

private theorem byteAt_setIfInBounds (b : Bitmap) (i j : Nat) (x : UInt8) (hi : i < 32) :
    byteAt (b.setIfInBounds i x) j = if j = i then x else byteAt b j := by
  unfold byteAt
  rw [Vector.getElem?_setIfInBounds]
  by_cases h : i = j
  · subst h
    simp [hi]
  · have h' : ¬ j = i := fun e => h e.symm
    rw [if_neg h, if_neg h']

private theorem byteAt_zeroBitmap (i : Nat) : byteAt zeroBitmap i = 0 := by
  unfold byteAt zeroBitmap
  by_cases h : i < 32
  · simp [h]
  · simp [h]

/-- Bit `k` of a byte, as the code reads it. -/
private def bit (x : UInt8) (k : Nat) : Bool := (x >>> UInt8.ofNat k) &&& 1 == 1

private theorem bit_eq_testBit (x : UInt8) (k : Nat) (hk : k < 8) :
    bit x k = x.toNat.testBit k := by
  have shift : (UInt8.ofNat k).toNat % 8 = k := by
    simp only [UInt8.toNat_ofNat', Nat.reducePow]
    omega
  have value : ((x >>> UInt8.ofNat k) &&& 1).toNat = x.toNat / 2 ^ k % 2 := by
    rw [UInt8.toNat_and, UInt8.toNat_shiftRight, shift, Nat.shiftRight_eq_div_pow]
    exact Nat.and_one_is_mod _
  rw [Nat.testBit_eq_decide_div_mod_eq, ← value, bit]
  rw [Bool.eq_iff_iff, beq_iff_eq, decide_eq_true_eq, ← UInt8.toNat_inj]
  rfl

private theorem testBit_eq_bit (w : ReplayWindow256) (idx : Nat) :
    w.testBit idx = bit (byteAt w.bitmap (idx / 8)) (idx % 8) := rfl

private theorem bit_zero (k : Nat) (hk : k < 8) : bit 0 k = false := by
  rw [bit_eq_testBit 0 k hk]
  exact Nat.zero_testBit k

private theorem bit_or (x y : UInt8) (k : Nat) (hk : k < 8) :
    bit (x ||| y) k = (bit x k || bit y k) := by
  rw [bit_eq_testBit _ k hk, bit_eq_testBit _ k hk, bit_eq_testBit _ k hk, UInt8.toNat_or,
    Nat.testBit_or]

private theorem bit_shiftLeft (x : UInt8) (b k : Nat) (hb : b < 8) (hk : k < 8) :
    bit (x <<< UInt8.ofNat b) k = (decide (b ≤ k) && bit x (k - b)) := by
  have shift : (UInt8.ofNat b).toNat % 8 = b := by
    simp only [UInt8.toNat_ofNat', Nat.reducePow]
    omega
  rw [bit_eq_testBit _ k hk, UInt8.toNat_shiftLeft, shift, Nat.testBit_mod_two_pow,
    Nat.testBit_shiftLeft]
  by_cases h : b ≤ k
  · rw [bit_eq_testBit x (k - b) (by omega)]
    simp [hk, h]
  · simp [h]

private theorem bit_shiftRight (x : UInt8) (c k : Nat) (hc : c < 8) (hk : k < 8) :
    bit (x >>> UInt8.ofNat c) k = (decide (k + c < 8) && bit x (k + c)) := by
  have shift : (UInt8.ofNat c).toNat % 8 = c := by
    simp only [UInt8.toNat_ofNat', Nat.reducePow]
    omega
  rw [bit_eq_testBit _ k hk, UInt8.toNat_shiftRight, shift, Nat.testBit_shiftRight]
  by_cases h : k + c < 8
  · rw [bit_eq_testBit x (k + c) h, Nat.add_comm c k]
    simp [h]
  · have small : x.toNat < 2 ^ (c + k) :=
      lt_of_lt_of_le x.toNat_lt (Nat.pow_le_pow_right (by omega) (by omega))
    rw [Nat.testBit_lt_two_pow small]
    simp [h]

private theorem moveBytes_fold (n byteShift : Nat) (hn : n ≤ 32) (b : Bitmap) (j : Nat) :
    byteAt ((List.range n).reverse.foldl (fun b i =>
        b.setIfInBounds i (if i ≥ byteShift then byteAt b (i - byteShift) else 0)) b) j =
      if j < n then (if j ≥ byteShift then byteAt b (j - byteShift) else 0) else byteAt b j := by
  induction n generalizing b with
  | zero => simp
  | succ n ih =>
    rw [List.range_succ, List.reverse_append, List.reverse_singleton, List.singleton_append,
      List.foldl_cons, ih (by omega)]
    by_cases below : j < n
    · have source : j - byteShift ≠ n := by omega
      rw [if_pos below, if_pos (by omega : j < n + 1),
        byteAt_setIfInBounds _ _ _ _ (by omega), if_neg source]
    · rw [if_neg below, byteAt_setIfInBounds _ _ _ _ (by omega)]
      by_cases at_n : j = n
      · subst at_n
        rw [if_pos rfl, if_pos (by omega : j < j + 1)]
      · rw [if_neg at_n, if_neg (by omega : ¬ j < n + 1)]

private theorem byteAt_moveBytes (byteShift : Nat) (b : Bitmap) (j : Nat) (hj : j < 32) :
    byteAt (moveBytes byteShift b) j =
      if j ≥ byteShift then byteAt b (j - byteShift) else 0 := by
  unfold moveBytes
  rw [moveBytes_fold 32 byteShift le_rfl, if_pos hj]

private theorem carryBits_fold (n bitShift : Nat) (hn : n ≤ 32) (b : Bitmap) :
    let r := (List.range n).foldl (fun (p : Bitmap × UInt8) i =>
      (p.1.setIfInBounds i ((byteAt p.1 i <<< UInt8.ofNat bitShift) ||| p.2),
        byteAt p.1 i >>> UInt8.ofNat (8 - bitShift))) (b, 0)
    (∀ j, byteAt r.1 j = if j < n then
        (byteAt b j <<< UInt8.ofNat bitShift) |||
          (if j = 0 then 0 else byteAt b (j - 1) >>> UInt8.ofNat (8 - bitShift))
      else byteAt b j) ∧
    r.2 = if n = 0 then 0 else byteAt b (n - 1) >>> UInt8.ofNat (8 - bitShift) := by
  induction n with
  | zero => simp
  | succ n ih =>
    obtain ⟨bytes, carry⟩ := ih (by omega)
    rw [List.range_succ, List.foldl_append, List.foldl_cons, List.foldl_nil]
    have here := bytes n
    rw [if_neg (by omega)] at here
    constructor
    · intro j
      rw [byteAt_setIfInBounds _ _ _ _ (by omega), here, carry]
      by_cases at_n : j = n
      · subst at_n
        rw [if_pos rfl, if_pos (by omega : j < j + 1)]
      · rw [if_neg at_n, bytes j]
        by_cases below : j < n
        · rw [if_pos below, if_pos (by omega : j < n + 1)]
        · rw [if_neg below, if_neg (by omega : ¬ j < n + 1)]
    · rw [here]
      simp

/-- The carry loop shifts each byte and lets its top bits enter the next byte. -/
private theorem byteAt_carryBits (bitShift : Nat) (b : Bitmap) (j : Nat) (hj : j < 32) :
    byteAt (carryBits bitShift b).1 j =
      (byteAt b j <<< UInt8.ofNat bitShift) |||
        (if j = 0 then 0 else byteAt b (j - 1) >>> UInt8.ofNat (8 - bitShift)) := by
  have h := (carryBits_fold 32 bitShift le_rfl b).1 j
  rw [if_pos hj] at h
  exact h

private theorem bit_carryBits (bitShift : Nat) (hb : 0 < bitShift) (hb' : bitShift < 8)
    (b : Bitmap) (i : Nat) (hi : i < 256) :
    bit (byteAt (carryBits bitShift b).1 (i / 8)) (i % 8) =
      (decide (bitShift ≤ i) && bit (byteAt b ((i - bitShift) / 8)) ((i - bitShift) % 8)) := by
  have hk : i % 8 < 8 := by omega
  rw [byteAt_carryBits _ _ _ (by omega), bit_or _ _ _ hk, bit_shiftLeft _ _ _ hb' hk]
  by_cases inside : bitShift ≤ i % 8
  · -- the bit stays in its byte and nothing is carried over it
    have quotient : (i - bitShift) / 8 = i / 8 := by omega
    have remainder : (i - bitShift) % 8 = i % 8 - bitShift := by omega
    have incoming : bit (if i / 8 = 0 then (0 : UInt8)
        else byteAt b (i / 8 - 1) >>> UInt8.ofNat (8 - bitShift)) (i % 8) = false := by
      by_cases first : i / 8 = 0
      · rw [if_pos first]
        exact bit_zero _ hk
      · rw [if_neg first, bit_shiftRight _ _ _ (by omega) hk]
        simp only [Bool.and_eq_false_imp, decide_eq_true_eq]
        omega
    rw [incoming, quotient, remainder]
    simp only [inside, decide_true, Bool.true_and, Bool.or_false]
    rw [decide_eq_true (by omega : bitShift ≤ i), Bool.true_and]
  · by_cases first : i / 8 = 0
    · have below : ¬ bitShift ≤ i := by omega
      rw [if_pos first, bit_zero _ hk]
      simp [inside, below]
    · have quotient : (i - bitShift) / 8 = i / 8 - 1 := by omega
      have remainder : (i - bitShift) % 8 = i % 8 + (8 - bitShift) := by omega
      rw [if_neg first, bit_shiftRight _ _ _ (by omega) hk, quotient, remainder]
      simp only [inside, decide_false, Bool.false_and, Bool.false_or]
      rw [decide_eq_true (by omega : i % 8 + (8 - bitShift) < 8),
        decide_eq_true (by omega : bitShift ≤ i)]

private theorem bit_moveBytes (byteShift : Nat) (b : Bitmap) (i : Nat) (hi : i < 256) :
    bit (byteAt (moveBytes byteShift b) (i / 8)) (i % 8) =
      (decide (8 * byteShift ≤ i) &&
        bit (byteAt b ((i - 8 * byteShift) / 8)) ((i - 8 * byteShift) % 8)) := by
  rw [byteAt_moveBytes _ _ _ (by omega)]
  by_cases above : i / 8 ≥ byteShift
  · have quotient : (i - 8 * byteShift) / 8 = i / 8 - byteShift := by omega
    have remainder : (i - 8 * byteShift) % 8 = i % 8 := by omega
    rw [if_pos above, quotient, remainder, decide_eq_true (by omega : 8 * byteShift ≤ i),
      Bool.true_and]
  · rw [if_neg above, bit_zero _ (by omega), decide_eq_false (by omega), Bool.false_and]

namespace ReplayWindow256

/-- `shift_right` is one shift of the whole 256-bit map towards older positions. -/
theorem testBit_shiftRight_eq (w : ReplayWindow256) (shift i : Nat) (hi : i < 256) :
    (w.shiftRight shift).testBit i = (decide (shift ≤ i) && w.testBit (i - shift)) := by
  unfold shiftRight
  by_cases zero : shift = 0
  · subst zero
    simp
  rw [if_neg zero]
  by_cases large : shift ≥ 256
  · rw [if_pos large, testBit_eq_bit]
    simp only [byteAt_zeroBitmap]
    rw [bit_zero _ (by omega), decide_eq_false (by omega), Bool.false_and]
  rw [if_neg large]
  simp only [testBit_eq_bit]
  by_cases bits : shift % 8 > 0
  · by_cases bytes : shift / 8 > 0
    · simp only [if_pos bits, if_pos bytes]
      rw [bit_carryBits _ bits (by omega) _ _ hi]
      by_cases reach : shift % 8 ≤ i
      · rw [bit_moveBytes _ _ _ (by omega), decide_eq_true reach, Bool.true_and]
        have sum : i - shift % 8 - 8 * (shift / 8) = i - shift := by omega
        have same : (8 * (shift / 8) ≤ i - shift % 8) ↔ shift ≤ i := by omega
        rw [sum, decide_eq_decide.mpr same]
      · rw [decide_eq_false reach, decide_eq_false (by omega : ¬ shift ≤ i), Bool.false_and,
          Bool.false_and]
    · have small : shift % 8 = shift := by omega
      simp only [if_pos bits, if_neg bytes]
      rw [bit_carryBits _ bits (by omega) _ _ hi, small]
  · have bytes : shift / 8 > 0 := by omega
    have whole : 8 * (shift / 8) = shift := by omega
    simp only [if_neg bits, if_pos bytes]
    rw [bit_moveBytes _ _ _ hi, whole]

/-- Position `i` holds afterwards what position `i - shift` held before, and nothing else is set. -/
theorem shiftRight_bits (w : ReplayWindow256) (shift : Nat) :
    (∀ i, i < 256 →
      ((w.shiftRight shift).testBit i = true ↔ shift ≤ i ∧ w.testBit (i - shift) = true)) ∧
    (256 ≤ shift → (w.shiftRight shift).bitmap = zeroBitmap) := by
  constructor
  · intro i inside
    rw [testBit_shiftRight_eq w shift i inside, Bool.and_eq_true, decide_eq_true_eq]
  · intro large
    have moved : ¬ shift = 0 := by omega
    unfold shiftRight
    rw [if_neg moved, if_pos large]

/-- Positions 3 and 250 of a window, moved by 12. -/
theorem shiftRight_bits_twelve :
    (((default.setBit 3).setBit 250).shiftRight 12).testBit 15 = true ∧
      (((default.setBit 3).setBit 250).shiftRight 12).testBit 255 = false := by
  have bits := (shiftRight_bits ((default.setBit 3).setBit 250) 12).1
  constructor
  · exact (bits 15 (by decide)).mpr ⟨by decide, by decide⟩
  · rw [← Bool.not_eq_true]
    intro set
    exact absurd ((bits 255 (by decide)).mp set).2 (by decide)

theorem testBit_setBit (w : ReplayWindow256) (idx i : Nat) (hidx : idx < 256) :
    (w.setBit idx).testBit i = (decide (i = idx) || w.testBit i) := by
  simp only [testBit_eq_bit, setBit]
  rw [byteAt_setIfInBounds _ _ _ _ (by omega)]
  by_cases byte : i / 8 = idx / 8
  · have one (k : Nat) (hk : k < 8) : bit 1 k = decide (k = 0) := by
      rw [bit_eq_testBit 1 k hk]
      have value : (1 : UInt8).toNat = 2 ^ 0 := rfl
      rw [value, Nat.testBit_two_pow]
      exact decide_eq_decide.mpr eq_comm
    rw [if_pos byte, bit_or _ _ _ (by omega), bit_shiftLeft _ _ _ (by omega) (by omega),
      one _ (by omega), byte, Bool.or_comm]
    congr 1
    rw [← Bool.decide_and]
    apply decide_eq_decide.mpr
    omega
  · rw [if_neg byte, decide_eq_false (by omega), Bool.false_or]

@[simp] theorem setBit_maxSeq (w : ReplayWindow256) (idx : Nat) :
    (w.setBit idx).maxSeq = w.maxSeq := rfl

@[simp] theorem setBit_valid (w : ReplayWindow256) (idx : Nat) :
    (w.setBit idx).valid = w.valid := rfl

@[simp] theorem shiftRight_valid (w : ReplayWindow256) (shift : Nat) :
    (w.shiftRight shift).valid = w.valid := by
  unfold shiftRight
  split
  · rfl
  · split <;> rfl

theorem canAccept_eq_accept (w : ReplayWindow256) (seq : UInt64) :
    w.canAccept seq = (w.accept seq).1 := by
  unfold canAccept accept
  by_cases valid : w.valid = true
  · by_cases newer : seq > w.maxSeq
    · simp [valid, newer]
    · simp only [valid, newer, Bool.not_true, decide_false, Bool.or_self, Bool.false_eq_true,
        if_false]
      split
      · rename_i h
        simp only [Bool.or_eq_true, decide_eq_true_eq] at h
        rcases h with far | set
        · simp only [Bool.and_eq_false_imp, decide_eq_true_eq]
          omega
        · simp [set]
      · rename_i h
        simp only [Bool.or_eq_true, decide_eq_true_eq, not_or, Bool.not_eq_true] at h
        simp only [h.2, Bool.not_false, Bool.and_true, decide_eq_true_eq]
        omega
  · simp [valid]

/-- The window remembers the delivered set: a valid window has every delivered number at or
below its maximum and marks those of the last 256; an invalid one has delivered nothing. -/
def Covers (w : ReplayWindow256) (delivered : Set UInt64) : Prop :=
  ∀ s ∈ delivered, w.valid = true ∧ s.toNat ≤ w.maxSeq.toNat ∧
    (w.maxSeq.toNat - s.toNat < 256 → w.testBit (w.maxSeq.toNat - s.toNat) = true)

/-- `seq` lies so far behind the maximum that its distance, truncated to `usize`, looks as
if it were inside the window. -/
def Aliased (w : ReplayWindow256) (seq : UInt64) : Prop :=
  w.valid = true ∧ seq ≤ w.maxSeq ∧ usizeSize ≤ w.maxSeq.toNat - seq.toNat ∧
    (w.maxSeq.toNat - seq.toNat) % usizeSize < 256

instance (w : ReplayWindow256) (seq : UInt64) : Decidable (Aliased w seq) :=
  inferInstanceAs (Decidable (_ ∧ _ ∧ _ ∧ _))

theorem covers_empty (w : ReplayWindow256) : w.Covers ∅ := by
  intro s hs
  exact hs.elim

theorem Covers.mono {w : ReplayWindow256} {S T : Set UInt64} (h : w.Covers T) (sub : S ⊆ T) :
    w.Covers S :=
  fun s hs => h s (sub hs)

theorem accept_false {w : ReplayWindow256} {seq : UInt64} (h : (w.accept seq).1 = false) :
    (w.accept seq).2 = w := by
  unfold accept at h ⊢
  split at h
  · simp at h
  · split at h
    · simp at h
    · rename_i valid newer
      rw [if_neg valid, if_neg newer]
      dsimp only at h ⊢
      split at h
      · rename_i refuse
        rw [if_pos refuse]
      · simp at h

private theorem covers_accept_empty {w : ReplayWindow256} {seq : UInt64} {delivered : Set UInt64}
    (covers : w.Covers delivered) (valid : ¬ w.valid = true) :
    seq ∉ delivered ∧ (w.accept seq).2.Covers (insert seq delivered) := by
  have nothing : ∀ s, s ∉ delivered := fun s hs => valid (covers s hs).1
  refine ⟨nothing seq, ?_⟩
  intro s hs
  rcases hs with rfl | hs
  · have new : (w.accept s).2 = setBit { w with valid := true, maxSeq := s } 0 := by
      simp [accept, valid]
    rw [new]
    refine ⟨rfl, le_rfl, fun _ => ?_⟩
    rw [testBit_setBit _ _ _ (by omega)]
    simp
  · exact (nothing s hs).elim

private theorem covers_accept_newer {w : ReplayWindow256} {seq : UInt64} {delivered : Set UInt64}
    (covers : w.Covers delivered) (valid : w.valid = true) (newer : seq > w.maxSeq) :
    seq ∉ delivered ∧ (w.accept seq).2.Covers (insert seq delivered) := by
  have seqLt := seq.toNat_lt
  have newerNat : w.maxSeq.toNat < seq.toNat := UInt64.lt_iff_toNat_lt.mp newer
  have jump : (seq - w.maxSeq).toNat = seq.toNat - w.maxSeq.toNat :=
    UInt64.toNat_sub_of_le _ _ (UInt64.le_iff_toNat_le.mpr (by omega))
  have new : (w.accept seq).2 =
      setBit { w.shiftRight (asUsize (seq - w.maxSeq)) with maxSeq := seq } 0 := by
    simp [accept, valid, newer]
  rw [new]
  constructor
  · intro hs
    have := (covers seq hs).2.1
    omega
  · intro s hs
    refine ⟨by simpa using valid, ?_⟩
    simp only [setBit_maxSeq]
    rcases hs with rfl | hs
    · refine ⟨le_rfl, fun _ => ?_⟩
      rw [testBit_setBit _ _ _ (by omega)]
      simp
    · obtain ⟨-, below, marked⟩ := covers s hs
      refine ⟨by omega, fun close => ?_⟩
      rw [testBit_setBit _ _ _ (by omega)]
      -- a number still inside the window was moved by an untruncated shift
      have exact : asUsize (seq - w.maxSeq) = seq.toNat - w.maxSeq.toNat := by
        unfold asUsize usizeSize
        rw [jump]
        omega
      have moved := testBit_shiftRight_eq w (asUsize (seq - w.maxSeq))
        (seq.toNat - s.toNat) close
      have old : w.testBit (w.maxSeq.toNat - s.toNat) = true := marked (by omega)
      have place : seq.toNat - s.toNat - (seq.toNat - w.maxSeq.toNat) =
          w.maxSeq.toNat - s.toNat := by omega
      rw [exact, place, old, decide_eq_true (by omega : seq.toNat - w.maxSeq.toNat ≤
        seq.toNat - s.toNat)] at moved
      rw [exact]
      change (decide _ || (w.shiftRight (seq.toNat - w.maxSeq.toNat)).testBit _) = true
      rw [moved]
      simp

private theorem covers_accept_older {w : ReplayWindow256} {seq : UInt64} {delivered : Set UInt64}
    (covers : w.Covers delivered) (near : ¬ w.Aliased seq) (valid : w.valid = true)
    (newer : ¬ seq > w.maxSeq) (h : (w.accept seq).1 = true) :
    seq ∉ delivered ∧ (w.accept seq).2.Covers (insert seq delivered) := by
  have olderNat : seq.toNat ≤ w.maxSeq.toNat := by
    have := UInt64.lt_iff_toNat_lt.not.mp newer
    omega
  have dist : (w.maxSeq - seq).toNat = w.maxSeq.toNat - seq.toNat :=
    UInt64.toNat_sub_of_le _ _ (UInt64.le_iff_toNat_le.mpr olderNat)
  have decide_accept : ¬ (asUsize (w.maxSeq - seq) ≥ 256 ||
      w.testBit (asUsize (w.maxSeq - seq))) = true := by
    intro refuse
    simp [accept, valid, newer, refuse] at h
  have new : (w.accept seq).2 = w.setBit (asUsize (w.maxSeq - seq)) := by
    simp [accept, valid, newer, decide_accept]
  simp only [Bool.or_eq_true, decide_eq_true_eq, not_or, Bool.not_eq_true] at decide_accept
  obtain ⟨inside, free⟩ := decide_accept
  have exact : asUsize (w.maxSeq - seq) = w.maxSeq.toNat - seq.toNat := by
    have trunc : asUsize (w.maxSeq - seq) = (w.maxSeq.toNat - seq.toNat) % usizeSize := by
      unfold asUsize
      rw [dist]
    rw [trunc]
    apply Nat.mod_eq_of_lt
    by_contra wide
    exact near ⟨valid, UInt64.le_iff_toNat_le.mpr olderNat, by omega, by rw [← trunc]; omega⟩
  rw [exact] at inside free
  rw [new, exact]
  constructor
  · intro hs
    have marked := (covers seq hs).2.2 (by omega)
    rw [free] at marked
    exact Bool.noConfusion marked
  · intro s hs
    refine ⟨by simpa using valid, ?_⟩
    simp only [setBit_maxSeq]
    rcases hs with rfl | hs
    · refine ⟨olderNat, fun _ => ?_⟩
      rw [testBit_setBit _ _ _ (by omega)]
      simp
    · obtain ⟨-, below, marked⟩ := covers s hs
      refine ⟨below, fun close => ?_⟩
      rw [testBit_setBit _ _ _ (by omega), marked close]
      simp

theorem accept_true {w : ReplayWindow256} {seq : UInt64} {delivered : Set UInt64}
    (covers : w.Covers delivered) (near : ¬ w.Aliased seq) (h : (w.accept seq).1 = true) :
    seq ∉ delivered ∧ (w.accept seq).2.Covers (insert seq delivered) := by
  by_cases valid : w.valid = true
  · by_cases newer : seq > w.maxSeq
    · exact covers_accept_newer covers valid newer
    · exact covers_accept_older covers near valid newer h
  · exact covers_accept_empty covers valid

end ReplayWindow256

end EasyTierEdge.Secure.ReplayWindow
