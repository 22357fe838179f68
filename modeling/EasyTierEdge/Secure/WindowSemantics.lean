/- module: EasyTierEdge/Secure/WindowSemantics
   source: cloudflare/wasm/src/secure.rs, ReplayWindow256
   digest: The replay window against the set of the numbers it has accepted. -/

import EasyTierEdge.Lib.Machine
import EasyTierEdge.Secure.ReplayWindow

set_option autoImplicit false
set_option relaxedAutoImplicit false

namespace EasyTierEdge.Secure.WindowSemantics

open Lib.Machine
open Packet (usizeSize)
open ReplayWindow ReplayWindow256

/-! The reference: a list of accepted numbers. -/

/-- A number is due if it was not accepted yet and is above the largest accepted one less 256. -/
def Fresh (accepted : List UInt64) (seq : UInt64) : Prop :=
  seq ∉ accepted ∧ (accepted = [] ∨ ∃ largest ∈ accepted, (∀ a ∈ accepted, a ≤ largest) ∧
    (largest.toNat : Int) - 256 < seq.toNat)

/-! The window as a machine. -/

def step (w : ReplayWindow256) (seq : UInt64) : ReplayWindow256 := (w.accept seq).2

/-- The numbers that a window accepts from a sequence. -/
def acceptedIn (seqs : List UInt64) : List UInt64 :=
  log step (fun w seq => if (w.accept seq).1 then some seq else none) ReplayWindow256.default seqs

def distance (a b : UInt64) : Nat := (a.toNat - b.toNat) + (b.toNat - a.toNat)

/-- A distance that does not fit into `usize` and looks like one inside the window. -/
def Narrowed (w : ReplayWindow256) (seq : UInt64) : Prop :=
  w.valid = true ∧ usizeSize ≤ distance seq w.maxSeq ∧ distance seq w.maxSeq % usizeSize < 256

instance instDecidableNarrowed (w : ReplayWindow256) (seq : UInt64) : Decidable (Narrowed w seq) :=
  inferInstanceAs (Decidable (_ ∧ _ ∧ _))

/-- The window stands for the accepted numbers. -/
structure Represents (w : ReplayWindow256) (accepted : List UInt64) : Prop where
  empty : w.valid = false → accepted = []
  newest : w.valid = true → w.maxSeq ∈ accepted ∧ ∀ a ∈ accepted, a ≤ w.maxSeq
  bits : ∀ i < 256, w.testBit i = true ↔ ∃ a ∈ accepted, a.toNat + i = w.maxSeq.toNat

private theorem represents_default : Represents ReplayWindow256.default [] where
  empty _ := rfl
  newest valid := by cases valid
  bits i inside := by
    have clear : ReplayWindow256.default.testBit i = false := by
      have zero := testBit_shiftRight_eq ReplayWindow256.default 256 i inside
      have beyond : ¬ 256 ≤ i := by omega
      rw [decide_eq_false beyond, Bool.false_and] at zero
      exact zero
    rw [clear]
    simp

section Steps

variable {w : ReplayWindow256} {accepted : List UInt64} {seq : UInt64}

private theorem marked_bits {w' : ReplayWindow256} {d k : Nat} (represents : Represents w accepted)
    (inside : k < 256) (place : seq.toNat + k = w.maxSeq.toNat + d)
    (shifted : ∀ i < 256, w'.testBit i = (decide (d ≤ i) && w.testBit (i - d))) (i : Nat)
    (small : i < 256) :
    (w'.setBit k).testBit i = true ↔
      ∃ a ∈ accepted ++ [seq], a.toNat + i = w.maxSeq.toNat + d := by
  rw [testBit_setBit _ _ _ inside, shifted i small, Bool.or_eq_true, Bool.and_eq_true,
    decide_eq_true_eq, decide_eq_true_eq]
  constructor
  · rintro (rfl | ⟨far, old⟩)
    · exact ⟨seq, by simp, place⟩
    · obtain ⟨a, member, sum⟩ := (represents.bits (i - d) (by omega)).mp old
      exact ⟨a, List.mem_append_left _ member, by omega⟩
  · rintro ⟨a, member, sum⟩
    rcases List.mem_append.mp member with old | new
    · right
      have valid : w.valid = true := by
        by_contra invalid
        rw [represents.empty (Bool.not_eq_true _ ▸ invalid)] at old
        cases old
      have below := UInt64.le_iff_toNat_le.mp ((represents.newest valid).2 a old)
      refine ⟨by omega, ?_⟩
      exact (represents.bits (i - d) (by omega)).mpr ⟨a, old, by omega⟩
    · obtain rfl := List.mem_singleton.mp new
      left
      omega

private theorem fresh_iff (represents : Represents w accepted) (valid : w.valid = true) :
    Fresh accepted seq ↔ seq ∉ accepted ∧ w.maxSeq.toNat < seq.toNat + 256 := by
  obtain ⟨member, newest⟩ := represents.newest valid
  refine and_congr_right fun _ => ?_
  constructor
  · rintro (rfl | ⟨largest, inside, all, close⟩)
    · cases member
    · have le := UInt64.le_iff_toNat_le.mp (all _ member)
      omega
  · intro close
    exact Or.inr ⟨w.maxSeq, member, newest, by omega⟩

private theorem accept_first (represents : Represents w accepted) (invalid : w.valid = false) :
    (w.accept seq).1 = true ∧ Fresh accepted seq ∧ Represents (w.accept seq).2 [seq] := by
  have nothing := represents.empty invalid
  subst nothing
  have new : w.accept seq = (true, setBit { w with valid := true, maxSeq := seq } 0) := by
    simp [accept, invalid]
  rw [new]
  refine ⟨rfl, ⟨List.not_mem_nil, Or.inl rfl⟩, ?_, ?_, ?_⟩
  · intro impossible
    cases impossible
  · intro _
    refine ⟨List.mem_singleton.mpr rfl, ?_⟩
    intro a member
    rw [List.mem_singleton.mp member]
    exact UInt64.le_refl _
  · intro i inside
    have clear : w.testBit i = false := by
      rw [Bool.eq_false_iff]
      intro set
      obtain ⟨a, member, _⟩ := (represents.bits i inside).mp set
      cases member
    rw [testBit_setBit _ _ _ (by omega)]
    change (decide (i = 0) || w.testBit i) = true ↔ ∃ a ∈ [seq], a.toNat + i = seq.toNat
    rw [clear, Bool.or_false, decide_eq_true_eq]
    constructor
    · rintro rfl
      exact ⟨seq, List.mem_singleton.mpr rfl, rfl⟩
    · rintro ⟨a, member, sum⟩
      obtain rfl := List.mem_singleton.mp member
      omega

private theorem accept_newer (represents : Represents w accepted) (valid : w.valid = true)
    (newer : w.maxSeq < seq) (exact : ¬ Narrowed w seq) :
    (w.accept seq).1 = true ∧ Fresh accepted seq ∧
      Represents (w.accept seq).2 (accepted ++ [seq]) := by
  have above := UInt64.lt_iff_toNat_lt.mp newer
  have jump : (seq - w.maxSeq).toNat = seq.toNat - w.maxSeq.toNat :=
    UInt64.toNat_sub_of_le _ _ (UInt64.le_iff_toNat_le.mpr (by omega))
  have new : w.accept seq =
      (true, setBit { w.shiftRight (asUsize (seq - w.maxSeq)) with maxSeq := seq } 0) := by
    simp [accept, valid, newer]
  -- A jump that is cut off still moves everything out of the window.
  have shifted : ∀ i < 256, (w.shiftRight (asUsize (seq - w.maxSeq))).testBit i =
      (decide (seq.toNat - w.maxSeq.toNat ≤ i) &&
        w.testBit (i - (seq.toNat - w.maxSeq.toNat))) := by
    intro i inside
    rw [testBit_shiftRight_eq _ _ _ inside, asUsize, jump]
    by_cases wide : usizeSize ≤ seq.toNat - w.maxSeq.toNat
    · have far : 256 ≤ (seq.toNat - w.maxSeq.toNat) % usizeSize := by
        by_contra near
        refine exact ⟨valid, ?_, ?_⟩
        · rw [distance]
          omega
        · have same : distance seq w.maxSeq = seq.toNat - w.maxSeq.toNat := by
            rw [distance]
            omega
          rw [same]
          omega
      have size : usizeSize = 4294967296 := rfl
      rw [decide_eq_false (by omega), decide_eq_false (by omega), Bool.false_and, Bool.false_and]
    · rw [Nat.mod_eq_of_lt (not_le.mp wide)]
  obtain ⟨_, newest⟩ := represents.newest valid
  rw [new]
  refine ⟨rfl, ?_, ?_, ?_, ?_⟩
  · rw [fresh_iff represents valid]
    refine ⟨?_, by omega⟩
    intro member
    have le := UInt64.le_iff_toNat_le.mp (newest seq member)
    omega
  · intro impossible
    rw [setBit_valid] at impossible
    change (w.shiftRight _).valid = false at impossible
    rw [shiftRight_valid, valid] at impossible
    cases impossible
  · intro _
    rw [setBit_maxSeq]
    refine ⟨List.mem_append_right _ (List.mem_singleton.mpr rfl), ?_⟩
    intro a member
    show a ≤ seq
    rcases List.mem_append.mp member with old | new
    · exact UInt64.le_trans (newest a old) (UInt64.le_of_lt newer)
    · rw [List.mem_singleton.mp new]
      exact UInt64.le_refl _
  · intro i inside
    rw [setBit_maxSeq]
    have sum : seq.toNat = w.maxSeq.toNat + (seq.toNat - w.maxSeq.toNat) := by omega
    have bits := @marked_bits w accepted seq
      { w.shiftRight (asUsize (seq - w.maxSeq)) with maxSeq := seq } _ 0 represents (by omega) sum
      shifted i inside
    rw [bits, ← sum]

private theorem accept_older (represents : Represents w accepted) (valid : w.valid = true)
    (older : seq ≤ w.maxSeq) (exact : ¬ Narrowed w seq) :
    ((w.accept seq).1 = true ↔ Fresh accepted seq) ∧
      Represents (w.accept seq).2 (if (w.accept seq).1 then accepted ++ [seq] else accepted) := by
  have below := UInt64.le_iff_toNat_le.mp older
  have not_newer : ¬ seq > w.maxSeq := UInt64.not_lt.mpr older
  have gap : (w.maxSeq - seq).toNat = w.maxSeq.toNat - seq.toNat :=
    UInt64.toNat_sub_of_le _ _ (UInt64.le_iff_toNat_le.mpr below)
  obtain ⟨member, newest⟩ := represents.newest valid
  by_cases far : 256 ≤ w.maxSeq.toNat - seq.toNat
  · have cut : 256 ≤ asUsize (w.maxSeq - seq) := by
      rw [asUsize, gap]
      by_contra near
      have size : usizeSize = 4294967296 := rfl
      have same : distance seq w.maxSeq = w.maxSeq.toNat - seq.toNat := by
        rw [distance]
        omega
      rw [size] at near
      refine exact ⟨valid, ?_, ?_⟩
      · rw [same, size]
        omega
      · rw [same, size]
        omega
    have refused : w.accept seq = (false, w) := by
      simp [accept, valid, not_newer, cut]
    rw [refused, fresh_iff represents valid]
    refine ⟨?_, represents⟩
    constructor
    · intro impossible
      cases impossible
    · rintro ⟨_, close⟩
      omega
  · have place : asUsize (w.maxSeq - seq) = w.maxSeq.toNat - seq.toNat := by
      have size : usizeSize = 4294967296 := rfl
      rw [asUsize, gap, size]
      omega
    have seen : w.testBit (w.maxSeq.toNat - seq.toNat) = true ↔ seq ∈ accepted := by
      rw [represents.bits _ (by omega)]
      constructor
      · rintro ⟨a, inside, sum⟩
        have same : a = seq := UInt64.toNat_inj.mp (by omega)
        exact same ▸ inside
      · intro inside
        exact ⟨seq, inside, by omega⟩
    rw [fresh_iff represents valid]
    by_cases again : w.testBit (w.maxSeq.toNat - seq.toNat) = true
    · have refused : w.accept seq = (false, w) := by
        simp [accept, valid, not_newer, place, again]
      rw [refused]
      refine ⟨?_, represents⟩
      constructor
      · intro impossible
        cases impossible
      · rintro ⟨unseen, _⟩
        exact absurd (seen.mp again) unseen
    · have inside : ¬ 256 ≤ asUsize (w.maxSeq - seq) := by
        rw [place]
        exact far
      have marked : w.accept seq = (true, w.setBit (w.maxSeq.toNat - seq.toNat)) := by
        simp only [accept, valid, not_newer, place, again, Bool.not_true, Bool.false_eq_true,
          if_false, decide_eq_false far, ge_iff_le, Bool.or_self]
      rw [marked]
      refine ⟨?_, ?_, ?_, ?_⟩
      · constructor
        · intro _
          exact ⟨fun inside => again (seen.mpr inside), by omega⟩
        · intro _
          rfl
      · intro impossible
        rw [setBit_valid, valid] at impossible
        cases impossible
      · intro _
        rw [setBit_maxSeq]
        refine ⟨List.mem_append_left _ member, ?_⟩
        intro a inside
        rcases List.mem_append.mp inside with old | new
        · exact newest a old
        · rw [List.mem_singleton.mp new]
          exact older
      · intro i small
        rw [setBit_maxSeq]
        have bits := @marked_bits w accepted seq w 0 (w.maxSeq.toNat - seq.toNat) represents
          (by omega) (by omega) (by simp) i small
        exact bits

/-- One call answers as the reference does, and the window stands for the numbers after it. -/
private theorem accept_represents (represents : Represents w accepted) (exact : ¬ Narrowed w seq) :
    ((w.accept seq).1 = true ↔ Fresh accepted seq) ∧
      Represents (w.accept seq).2 (if (w.accept seq).1 then accepted ++ [seq] else accepted) := by
  by_cases valid : w.valid = true
  · by_cases newer : w.maxSeq < seq
    · obtain ⟨answer, fresh, after⟩ := accept_newer represents valid newer exact
      rw [answer, if_pos rfl]
      exact ⟨iff_of_true rfl fresh, after⟩
    · exact accept_older represents valid (UInt64.not_lt.mp newer) exact
  · have invalid := Bool.not_eq_true _ ▸ valid
    obtain ⟨answer, fresh, after⟩ := @accept_first w accepted seq represents invalid
    rw [answer, if_pos rfl, represents.empty invalid]
    exact ⟨iff_of_true rfl (represents.empty invalid ▸ fresh), after⟩

end Steps

/-! The run. -/

private theorem represents_run {seqs : List UInt64}
    (exact : AllSteps step (fun _ w seq => ¬ Narrowed w seq) ReplayWindow256.default seqs) :
    Represents (run step ReplayWindow256.default seqs) (acceptedIn seqs) := by
  refine @history_invariant _ _ step _ ReplayWindow256.default
    (fun seqs w => Represents w (acceptedIn seqs)) represents_default ?_ seqs exact
  intro pre seq represents near
  have after := (accept_represents represents near).2
  rw [acceptedIn, log_snoc]
  show Represents ((run step ReplayWindow256.default pre).accept seq).2 _
  cases answer : ((run step ReplayWindow256.default pre).accept seq).1 with
  | true =>
    rw [answer] at after
    exact after
  | false =>
    rw [answer] at after
    simpa [acceptedIn] using after

/-- As long as no distance is cut off by `usize`, every call answers as the reference does. -/
theorem window_exact {seqs : List UInt64}
    (exact : AllSteps step (fun _ w seq => ¬ Narrowed w seq) ReplayWindow256.default seqs) :
    AllSteps step (fun pre w seq => ((w.accept seq).1 = true ↔ Fresh (acceptedIn pre) seq) ∧
      w.canAccept seq = (w.accept seq).1) ReplayWindow256.default seqs := by
  intro pre seq post split
  subst split
  refine ⟨?_, canAccept_eq_accept _ _⟩
  exact (accept_represents (represents_run exact.append_left) (exact pre seq post rfl)).1

/-! A sequence with jumps, repetitions and numbers on both edges of the window. -/

def shortSeqs : List UInt64 := [5, 300, 44, 45, 300, 5_000_000_300, 5_000_000_045]

theorem window_exact_shortSeqs :
    AllSteps step (fun pre w seq => ((w.accept seq).1 = true ↔ Fresh (acceptedIn pre) seq) ∧
      w.canAccept seq = (w.accept seq).1) ReplayWindow256.default shortSeqs :=
  window_exact (allSteps_of_check (fun _ w seq => !decide (Narrowed w seq)) (by simp)
    (by decide +kernel))

/-- A number `2^32 + 5` below the maximum is taken for one that is 5 below it. -/
theorem window_narrowed : ¬ ∀ seqs : List UInt64, AllSteps step (fun pre w seq =>
      ((w.accept seq).1 = true ↔ Fresh (acceptedIn pre) seq) ∧ w.canAccept seq = (w.accept seq).1)
    ReplayWindow256.default seqs := by
  intro claim
  have second := (claim [4_294_967_301, 0] [4_294_967_301] 0 [] rfl).1
  have accepted : acceptedIn [4_294_967_301] = [4_294_967_301] := by decide +kernel
  rw [accepted] at second
  have answer : ((run step ReplayWindow256.default [4_294_967_301]).accept 0).1 = true := by
    decide +kernel
  obtain ⟨_, empty | ⟨largest, member, _, close⟩⟩ := second.mp answer
  · cases empty
  · obtain rfl := List.mem_singleton.mp member
    have value : (4_294_967_301 : UInt64).toNat = 4_294_967_301 := rfl
    have zero : (0 : UInt64).toNat = 0 := rfl
    omega

end EasyTierEdge.Secure.WindowSemantics
