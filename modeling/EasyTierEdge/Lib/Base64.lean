/- module: EasyTierEdge/Lib/Base64
   layer: library
   digest: Base64, as it is written, as it is read strictly, and as it is read forgivingly. -/

import Mathlib.Tactic.IntervalCases
import Mathlib.Data.List.Basic

set_option autoImplicit false
set_option relaxedAutoImplicit false

namespace EasyTierEdge.Lib.Base64

/-- The padding sign. -/
def pad : Nat := 61

/-- The character code of a digit. -/
def digit (n : Nat) : Nat :=
  if n < 26 then 65 + n
  else if n < 52 then 71 + n
  else if n < 62 then n - 4
  else if n = 62 then 43
  else 47

/-- The digit that a character code stands for. -/
def valueOf (c : Nat) : Option Nat :=
  if 65 ≤ c ∧ c ≤ 90 then some (c - 65)
  else if 97 ≤ c ∧ c ≤ 122 then some (c - 71)
  else if 48 ≤ c ∧ c ≤ 57 then some (c + 4)
  else if c = 43 then some 62
  else if c = 47 then some 63
  else none

/-- The bytes that digits hold. Bits that fill no byte are dropped. -/
def bytesOf : List Nat → List UInt8
  | w :: x :: y :: z :: rest =>
    UInt8.ofNat (w * 4 + x / 16) :: UInt8.ofNat (x % 16 * 16 + y / 4) ::
      UInt8.ofNat (y % 4 * 64 + z) :: bytesOf rest
  | [w, x, y] => [UInt8.ofNat (w * 4 + x / 16), UInt8.ofNat (x % 16 * 16 + y / 4)]
  | [w, x] => [UInt8.ofNat (w * 4 + x / 16)]
  | _ => []

/-- Base64 with padding. -/
def encode : List UInt8 → List Nat
  | a :: b :: c :: rest =>
    digit (a.toNat / 4) :: digit (a.toNat % 4 * 16 + b.toNat / 16) ::
      digit (b.toNat % 16 * 4 + c.toNat / 64) :: digit (c.toNat % 64) :: encode rest
  | [a, b] =>
    [digit (a.toNat / 4), digit (a.toNat % 4 * 16 + b.toNat / 16), digit (b.toNat % 16 * 4), pad]
  | [a] => [digit (a.toNat / 4), digit (a.toNat % 4 * 16), pad, pad]
  | [] => []

/-- The last four characters; padding stands for bits that are zero. -/
def decodeLast (a b c d : Nat) : Option (List UInt8) := do
  let w ← valueOf a
  let x ← valueOf b
  if c = pad ∧ d = pad then
    if x % 16 = 0 then some (bytesOf [w, x]) else none
  else do
    let y ← valueOf c
    if d = pad then
      if y % 4 = 0 then some (bytesOf [w, x, y]) else none
    else do
      let z ← valueOf d
      return bytesOf [w, x, y, z]

/-- Strict reading: padding is required where it belongs and refused elsewhere, and what fills no
byte must be zero. -/
def decode : List Nat → Option (List UInt8)
  | [] => some []
  | [a, b, c, d] => decodeLast a b c d
  | a :: b :: c :: d :: rest => do
    let w ← valueOf a
    let x ← valueOf b
    let y ← valueOf c
    let z ← valueOf d
    return bytesOf [w, x, y, z] ++ (← decode rest)
  | _ => none

def isSpace (c : Nat) : Bool := c = 9 || c = 10 || c = 12 || c = 13 || c = 32

/-- At most two padding signs are removed, and only from whole groups of four. -/
def unpad (data : List Nat) : List Nat :=
  if data.length % 4 = 0 then
    if data.drop (data.length - 2) = [pad, pad] then data.dropLast.dropLast
    else if data.getLast? = some pad then data.dropLast
    else data
  else data

/-- Forgiving reading: spaces are skipped, padding may be left out, and bits that fill no byte are
dropped. -/
def forgivingDecode (data : List Nat) : Option (List UInt8) :=
  let digits := unpad (data.filter fun c => !isSpace c)
  if digits.length % 4 = 1 then none else (digits.mapM valueOf).map bytesOf

/-! Digits. -/

private theorem valueOf_digit {n : Nat} (small : n < 64) : valueOf (digit n) = some n := by
  interval_cases n
  all_goals rfl

private theorem digit_valueOf {c n : Nat} (read : valueOf c = some n) : n < 64 ∧ digit n = c := by
  unfold valueOf at read
  split at read
  · cases Option.some.inj read
    rw [digit, if_pos (by omega)]
    omega
  split at read
  · cases Option.some.inj read
    rw [digit, if_neg (by omega), if_pos (by omega)]
    omega
  split at read
  · cases Option.some.inj read
    rw [digit, if_neg (by omega), if_neg (by omega), if_pos (by omega)]
    omega
  split at read
  · rename_i plus
    cases Option.some.inj read
    exact ⟨by omega, plus.symm⟩
  split at read
  · rename_i slash
    cases Option.some.inj read
    exact ⟨by omega, slash.symm⟩
  · cases read

private theorem digit_ne_pad {n : Nat} (small : n < 64) : digit n ≠ pad := by
  intro same
  have read := valueOf_digit small
  rw [same] at read
  cases read

private theorem digit_small (n : Nat) (small : n < 64) : digit n < 128 := by
  unfold digit
  split_ifs
  all_goals omega

private theorem digit_not_space {n : Nat} (small : n < 64) : isSpace (digit n) = false := by
  interval_cases n
  all_goals rfl

/-! Groups of four digits. -/

private theorem ofNat_eq {n : Nat} {a : UInt8} (same : n = a.toNat) : UInt8.ofNat n = a := by
  rw [same, UInt8.ofNat_toNat]

private theorem bytesOf_three (a b c : UInt8) (rest : List Nat) :
    bytesOf (a.toNat / 4 :: (a.toNat % 4 * 16 + b.toNat / 16) ::
      (b.toNat % 16 * 4 + c.toNat / 64) :: c.toNat % 64 :: rest) = a :: b :: c :: bytesOf rest := by
  have small_b := b.toNat_lt
  have small_c := c.toNat_lt
  rw [bytesOf, ofNat_eq (a := a), ofNat_eq (a := b), ofNat_eq (a := c)]
  · omega
  · omega
  · omega

private theorem bytesOf_two (a b : UInt8) :
    bytesOf [a.toNat / 4, a.toNat % 4 * 16 + b.toNat / 16, b.toNat % 16 * 4] = [a, b] := by
  have small_b := b.toNat_lt
  rw [bytesOf, ofNat_eq (a := a), ofNat_eq (a := b)]
  · omega
  · omega

private theorem bytesOf_one (a : UInt8) : bytesOf [a.toNat / 4, a.toNat % 4 * 16] = [a] := by
  rw [bytesOf, ofNat_eq (a := a)]
  omega

section Digits

variable {w x y z : Nat} (small_w : w < 64) (small_x : x < 64)

include small_w small_x

private theorem encode_one (filled : x % 16 = 0) :
    encode (bytesOf [w, x]) = [digit w, digit x, pad, pad] := by
  have first : (w * 4 + x / 16) % 2 ^ 8 = w * 4 + x / 16 := Nat.mod_eq_of_lt (by omega)
  have high : (w * 4 + x / 16) / 4 = w := by omega
  have low : (w * 4 + x / 16) % 4 * 16 = x := by omega
  rw [bytesOf, encode, UInt8.toNat_ofNat', first, high, low]

variable (small_y : y < 64)

include small_y

private theorem encode_two (filled : y % 4 = 0) :
    encode (bytesOf [w, x, y]) = [digit w, digit x, digit y, pad] := by
  have first : (w * 4 + x / 16) % 2 ^ 8 = w * 4 + x / 16 := Nat.mod_eq_of_lt (by omega)
  have second : (x % 16 * 16 + y / 4) % 2 ^ 8 = x % 16 * 16 + y / 4 := Nat.mod_eq_of_lt (by omega)
  have one : (w * 4 + x / 16) / 4 = w := by omega
  have two : (w * 4 + x / 16) % 4 * 16 + (x % 16 * 16 + y / 4) / 16 = x := by omega
  have three : (x % 16 * 16 + y / 4) % 16 * 4 = y := by omega
  rw [bytesOf, encode, UInt8.toNat_ofNat', UInt8.toNat_ofNat', first, second, one, two, three]

private theorem encode_three (small_z : z < 64) (rest : List UInt8) :
    encode (bytesOf [w, x, y, z] ++ rest) =
      digit w :: digit x :: digit y :: digit z :: encode rest := by
  have first : (w * 4 + x / 16) % 2 ^ 8 = w * 4 + x / 16 := Nat.mod_eq_of_lt (by omega)
  have second : (x % 16 * 16 + y / 4) % 2 ^ 8 = x % 16 * 16 + y / 4 := Nat.mod_eq_of_lt (by omega)
  have third : (y % 4 * 64 + z) % 2 ^ 8 = y % 4 * 64 + z := Nat.mod_eq_of_lt (by omega)
  have one : (w * 4 + x / 16) / 4 = w := by omega
  have two : (w * 4 + x / 16) % 4 * 16 + (x % 16 * 16 + y / 4) / 16 = x := by omega
  have three : (x % 16 * 16 + y / 4) % 16 * 4 + (y % 4 * 64 + z) / 64 = y := by omega
  have four : (y % 4 * 64 + z) % 64 = z := by omega
  show encode (_ :: _ :: _ :: rest) = _
  rw [encode, UInt8.toNat_ofNat', UInt8.toNat_ofNat', UInt8.toNat_ofNat', first, second, third, one,
    two, three, four]

private theorem decode_three (small_z : z < 64) (rest : List Nat) :
    decode (digit w :: digit x :: digit y :: digit z :: rest) =
      (decode rest).map (bytesOf [w, x, y, z] ++ ·) := by
  cases rest with
  | nil =>
    simp [decode, decodeLast, valueOf_digit small_w, valueOf_digit small_x, valueOf_digit small_y,
      valueOf_digit small_z, digit_ne_pad small_y, digit_ne_pad small_z]
  | cons e rest =>
    simp [decode, valueOf_digit small_w, valueOf_digit small_x, valueOf_digit small_y,
      valueOf_digit small_z, Option.map_eq_bind]

private theorem decode_two (filled : y % 4 = 0) :
    decode [digit w, digit x, digit y, pad] = some (bytesOf [w, x, y]) := by
  simp [decode, decodeLast, valueOf_digit small_w, valueOf_digit small_x, valueOf_digit small_y,
    digit_ne_pad small_y, filled]

omit small_y in
private theorem decode_one (filled : x % 16 = 0) :
    decode [digit w, digit x, pad, pad] = some (bytesOf [w, x]) := by
  simp [decode, decodeLast, valueOf_digit small_w, valueOf_digit small_x, filled]

end Digits

/-! What is written is read. -/

theorem decode_encode (bytes : List UInt8) : decode (encode bytes) = some bytes := by
  induction bytes using encode.induct with
  | case1 a b c rest ih =>
    have small_a := a.toNat_lt
    have small_b := b.toNat_lt
    have small_c := c.toNat_lt
    rw [encode, decode_three (by omega) (by omega) (by omega) (by omega), ih, bytesOf_three]
    rfl
  | case2 a b =>
    have small_a := a.toNat_lt
    have small_b := b.toNat_lt
    rw [encode, decode_two (by omega) (by omega) (by omega) (by omega), bytesOf_two]
  | case3 a =>
    have small_a := a.toNat_lt
    rw [encode, decode_one (by omega) (by omega) (by omega), bytesOf_one]
  | case4 => rfl

private theorem encode_decodeLast {a b c d : Nat} {bytes : List UInt8}
    (read : decodeLast a b c d = some bytes) : encode bytes = [a, b, c, d] := by
  unfold decodeLast at read
  simp only [Option.bind_eq_bind, Option.bind_eq_some_iff] at read
  obtain ⟨w, first, x, second, read⟩ := read
  obtain ⟨small_w, rfl⟩ := digit_valueOf first
  obtain ⟨small_x, rfl⟩ := digit_valueOf second
  split at read
  · rename_i padded
    obtain ⟨rfl, rfl⟩ := padded
    split at read
    · rename_i filled
      cases read
      exact encode_one small_w small_x filled
    · cases read
  · simp only [Option.bind_eq_some_iff] at read
    obtain ⟨y, third, read⟩ := read
    obtain ⟨small_y, rfl⟩ := digit_valueOf third
    split at read
    · rename_i padded
      subst padded
      split at read
      · rename_i filled
        cases read
        exact encode_two small_w small_x small_y filled
      · cases read
    · simp only [Option.bind_eq_some_iff] at read
      obtain ⟨z, fourth, read⟩ := read
      obtain ⟨small_z, rfl⟩ := digit_valueOf fourth
      cases read
      exact encode_three small_w small_x small_y small_z []

theorem encode_decode {data : List Nat} {bytes : List UInt8}
    (read : decode data = some bytes) :
    encode bytes = data := by
  induction data using decode.induct generalizing bytes with
  | case1 =>
    cases read
    rfl
  | case2 a b c d => exact encode_decodeLast read
  | case3 a b c d rest last ih =>
    rw [decode] at read
    · simp only [Option.bind_eq_bind, Option.bind_eq_some_iff] at read
      obtain ⟨w, first, x, second, y, third, z, fourth, more, after, read⟩ := read
      obtain ⟨small_w, rfl⟩ := digit_valueOf first
      obtain ⟨small_x, rfl⟩ := digit_valueOf second
      obtain ⟨small_y, rfl⟩ := digit_valueOf third
      obtain ⟨small_z, rfl⟩ := digit_valueOf fourth
      cases read
      rw [encode_three small_w small_x small_y small_z, ih after]
    · exact last
  | case4 data other others others' =>
    rw [decode] at read
    · cases read
    · exact other
    · exact others
    · exact others'

theorem decode_eq_some_iff {data : List Nat} {bytes : List UInt8} :
    decode data = some bytes ↔ data = encode bytes := by
  constructor
  · exact fun read => (encode_decode read).symm
  · rintro rfl
    exact decode_encode bytes

/-! Forgiving reading. -/

/-- What is written is digits that hold the bytes, padded to whole groups of four. -/
structure Padded (bytes : List UInt8) (digits : List Nat) (k : Nat) : Prop where
  written : encode bytes = digits.map digit ++ List.replicate k pad
  small : ∀ n ∈ digits, n < 64
  held : bytesOf digits = bytes
  whole : (digits.length + k) % 4 = 0
  few : k ≤ 2

private theorem encode_padded (bytes : List UInt8) : ∃ digits k, Padded bytes digits k := by
  induction bytes using encode.induct with
  | case1 a b c rest ih =>
    obtain ⟨digits, k, padded⟩ := ih
    have small_a := a.toNat_lt
    have small_b := b.toNat_lt
    have small_c := c.toNat_lt
    refine ⟨_, k, ?_, ?_, (bytesOf_three a b c digits).trans (by rw [padded.held]), ?_, padded.few⟩
    · rw [encode, padded.written]
      rfl
    · simp only [List.forall_mem_cons]
      exact ⟨by omega, by omega, by omega, by omega, padded.small⟩
    · have whole := padded.whole
      simp only [List.length_cons]
      omega
  | case2 a b =>
    have small_a := a.toNat_lt
    have small_b := b.toNat_lt
    refine ⟨_, 1, rfl, ?_, bytesOf_two a b, by simp, by omega⟩
    simp only [List.forall_mem_cons]
    exact ⟨by omega, by omega, by omega, by simp⟩
  | case3 a =>
    have small_a := a.toNat_lt
    refine ⟨_, 2, rfl, ?_, bytesOf_one a, by simp, by omega⟩
    simp only [List.forall_mem_cons]
    exact ⟨by omega, by omega, by simp⟩
  | case4 => exact ⟨[], 0, rfl, by simp, rfl, rfl, by omega⟩

private theorem last_digit {digits : List Nat} (small : ∀ n ∈ digits, n < 64) :
    (digits.map digit).getLast? ≠ some pad := by
  intro last
  obtain ⟨n, member, same⟩ := List.mem_map.mp (List.mem_of_getLast? last)
  exact digit_ne_pad (small n member) same

private theorem unpad_padded {digits : List Nat} {k : Nat} (small : ∀ n ∈ digits, n < 64)
    (whole : (digits.length + k) % 4 = 0) (few : k ≤ 2) :
    unpad (digits.map digit ++ List.replicate k pad) = digits.map digit := by
  have last := last_digit small
  generalize written : digits.map digit = data at last ⊢
  have length : data.length = digits.length := by
    rw [← written, List.length_map]
  have aligned : (data ++ List.replicate k pad).length % 4 = 0 := by
    rw [List.length_append, List.length_replicate, length]
    exact whole
  unfold unpad
  rw [if_pos aligned]
  obtain rfl | rfl | rfl : k = 0 ∨ k = 1 ∨ k = 2 := by omega
  · rw [List.replicate_zero, List.append_nil]
    split
    · rename_i ended
      refine absurd ?_ last
      rw [← List.take_append_drop (data.length - 2) data, ended]
      simp
    · rfl
  · have two : 2 ≤ data.length := by omega
    split
    · rename_i ended
      refine absurd ?_ last
      have before : data.drop (data.length - 1) = [pad] := by
        have dropped : (data ++ [pad]).drop ((data ++ [pad]).length - 2) =
            data.drop (data.length - 1) ++ [pad] := by
          rw [List.drop_append_of_le_length (by simp)]
          simp
        exact List.append_cancel_right (dropped.symm.trans ended)
      rw [← List.take_append_drop (data.length - 1) data, before]
      simp
    · simp
  · simp

private theorem filter_padded {digits : List Nat} {k : Nat} (small : ∀ n ∈ digits, n < 64) :
    (digits.map digit ++ List.replicate k pad).filter (fun c => !isSpace c) =
      digits.map digit ++ List.replicate k pad := by
  refine List.filter_eq_self.mpr fun c member => ?_
  rcases List.mem_append.mp member with written | padding
  · obtain ⟨n, held, rfl⟩ := List.mem_map.mp written
    rw [digit_not_space (small n held)]
    rfl
  · rw [List.eq_of_mem_replicate padding]
    rfl

theorem encode_ascii (bytes : List UInt8) : ∀ c ∈ encode bytes, c < 128 := by
  obtain ⟨digits, k, padded⟩ := encode_padded bytes
  intro c member
  rw [padded.written] at member
  rcases List.mem_append.mp member with written | padding
  · obtain ⟨n, held, rfl⟩ := List.mem_map.mp written
    exact digit_small n (padded.small n held)
  · rw [List.eq_of_mem_replicate padding]
    decide

private theorem mapM_valueOf {digits : List Nat} (small : ∀ n ∈ digits, n < 64) :
    (digits.map digit).mapM valueOf = some digits := by
  induction digits with
  | nil => rfl
  | cons n rest ih =>
    rw [List.map_cons, List.mapM_cons, valueOf_digit (small n List.mem_cons_self),
      ih fun m member => small m (List.mem_cons_of_mem n member)]
    rfl

theorem forgivingDecode_encode (bytes : List UInt8) :
    forgivingDecode (encode bytes) = some bytes := by
  obtain ⟨digits, k, padded⟩ := encode_padded bytes
  have aligned : ¬ (digits.map digit).length % 4 = 1 := by
    have whole := padded.whole
    have few := padded.few
    rw [List.length_map]
    omega
  unfold forgivingDecode
  simp only [padded.written, filter_padded padded.small,
    unpad_padded padded.small padded.whole padded.few, mapM_valueOf padded.small, if_neg aligned,
    Option.map_some, padded.held]

end EasyTierEdge.Lib.Base64
