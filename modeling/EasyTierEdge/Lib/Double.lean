/- module: EasyTierEdge/Lib/Double
   layer: library
   digest: Double-precision numbers, rounded from rationals and read from decimal digits. -/

import EasyTierEdge.Lib.Utf16
import Mathlib.Data.Int.Log
import Mathlib.Data.Rat.Floor
import Mathlib.Tactic.NormNum

set_option autoImplicit false
set_option relaxedAutoImplicit false

namespace EasyTierEdge.Lib.Double

open Utf16 (Units)

/-- A double, by its exact value; zeros are not told apart. -/
inductive Number
  | nan
  | infinite (negative : Bool)
  | finite (value : ℚ)
  deriving DecidableEq

/-- The nearest integer, the even one of two. -/
def roundHalfEven (q : ℚ) : ℤ :=
  let rest := q - ⌊q⌋
  if rest < 1 / 2 then ⌊q⌋
  else if 1 / 2 < rest then ⌊q⌋ + 1
  else if ⌊q⌋ % 2 = 0 then ⌊q⌋
  else ⌊q⌋ + 1

/-- The exponent of the last place of a double of this size. -/
def lastPlace (size : ℚ) : ℤ := max (Int.log 2 size - 52) (-1074)

/-- The double nearest to a rational. -/
def round (q : ℚ) : Number :=
  let place : ℚ := 2 ^ lastPlace |q|
  let nearest : ℚ := roundHalfEven (q / place) * place
  if (2 : ℚ) ^ 1024 ≤ |nearest| then .infinite (q < 0) else .finite nearest

def Number.isInteger : Number → Bool
  | .finite value => value.den = 1
  | _ => false

def Number.isSafeInteger : Number → Bool
  | .finite value => value.den = 1 && |value| ≤ 2 ^ 53 - 1
  | _ => false

/-! Digits. -/

def isDigit (u : UInt16) : Bool := 48 ≤ u.toNat && u.toNat ≤ 57

def natOf (digits : Units) : Nat := digits.foldl (fun n u => 10 * n + (u.toNat - 48)) 0

/-- The number of decimal digits and a decimal exponent. -/
def ofDecimal (negative : Bool) (digits : Nat) (exponent : ℤ) : Number :=
  round ((if negative then -1 else 1) * digits * 10 ^ exponent)

/-- A sign, if there is one that is allowed. -/
def sign (plus : Bool) : Units → Bool × Units
  | [] => (false, [])
  | u :: rest =>
    if u = 45 then (true, rest)
    else if plus ∧ u = 43 then (false, rest)
    else (false, u :: rest)

/-- The decimal exponent, if there is one. -/
def exponent : Units → Option (ℤ × Units)
  | [] => some (0, [])
  | u :: rest =>
    if u = 101 ∨ u = 69 then
      let (negative, digits) := sign true rest
      if digits.takeWhile isDigit = [] then none
      else
        let size : ℤ := natOf (digits.takeWhile isDigit)
        some (if negative then -size else size, digits.dropWhile isDigit)
    else some (0, u :: rest)

/-! Numeric strings. -/

/-- White space and line ends. -/
def isBlank (u : UInt16) : Bool :=
  9 ≤ u.toNat && u.toNat ≤ 13 || 0x2000 ≤ u.toNat && u.toNat ≤ 0x200A ||
    u.toNat ∈ [0x20, 0xA0, 0x1680, 0x2028, 0x2029, 0x202F, 0x205F, 0x3000, 0xFEFF]

def trim (s : Units) : Units := ((s.dropWhile isBlank).reverse.dropWhile isBlank).reverse

/-- The value of a digit, whatever the base. -/
def digitValue (u : UInt16) : Nat :=
  if isDigit u then u.toNat - 48
  else if 65 ≤ u.toNat ∧ u.toNat ≤ 90 then u.toNat - 55
  else if 97 ≤ u.toNat ∧ u.toNat ≤ 122 then u.toNat - 87
  else 36

/-- A natural number in another base, behind its prefix. -/
def ofDigits (base : Nat) (digits : Units) : Number :=
  if digits = [] ∨ digits.any fun u => base ≤ digitValue u then .nan
  else round ((digits.foldl (fun n u => base * n + digitValue u) 0 : Nat) : ℚ)

/-- The digits behind a decimal point, which may be missing. -/
def part : Units → Units × Units
  | [] => ([], [])
  | u :: rest =>
    if u = 46 then (rest.takeWhile isDigit, rest.dropWhile isDigit) else ([], u :: rest)

/-- A decimal literal behind its sign. -/
def unsigned (negative : Bool) (s : Units) : Number :=
  if s = [73, 110, 102, 105, 110, 105, 116, 121] then .infinite negative
  else
    let whole := s.takeWhile isDigit
    let (part, rest) := part (s.dropWhile isDigit)
    if whole = [] ∧ part = [] then .nan
    else
      match exponent rest with
      | some (e, []) => ofDecimal negative (natOf (whole ++ part)) (e - part.length)
      | _ => .nan

/-- The base that a letter behind a leading zero stands for. -/
def radix (u : UInt16) : Option Nat :=
  if u = 120 ∨ u = 88 then some 16
  else if u = 111 ∨ u = 79 then some 8
  else if u = 98 ∨ u = 66 then some 2
  else none

/-- `Number` of a string. -/
def ofText (s : Units) : Number :=
  match trim s with
  | [] => .finite 0
  | u :: rest =>
    match if u = 48 then rest.head?.bind radix else none with
    | some base => ofDigits base rest.tail
    | none =>
      let (negative, digits) := sign true (u :: rest)
      unsigned negative digits

/-! Small integers are exact. -/

private theorem roundHalfEven_intCast (z : ℤ) : roundHalfEven z = z := by
  have floor : ⌊(z : ℚ)⌋ = z := Int.floor_intCast z
  unfold roundHalfEven
  rw [floor, sub_self]
  norm_num

private theorem round_natCast {n : Nat} (small : n < 2 ^ 53) : round n = .finite n := by
  have size : |(n : ℚ)| = n := abs_of_nonneg (Nat.cast_nonneg n)
  have log : Int.log 2 (n : ℚ) = Nat.log 2 n := Int.log_natCast 2 n
  have digits : Nat.log 2 n ≤ 52 := by
    rcases Nat.eq_zero_or_pos n with rfl | positive
    · simp
    · exact Nat.le_of_lt_succ ((Nat.log_lt_iff_lt_pow (by decide) positive.ne').mpr small)
  obtain ⟨k, sum⟩ := Nat.exists_eq_add_of_le digits
  have place : lastPlace |(n : ℚ)| = -(k : ℤ) := by
    rw [lastPlace, size, log]
    omega
  have whole : (n : ℚ) / 2 ^ (-(k : ℤ)) = ((n * 2 ^ k : ℕ) : ℤ) := by
    rw [zpow_neg, zpow_natCast, div_inv_eq_mul]
    push_cast
    rfl
  unfold round
  simp only [place, whole, roundHalfEven_intCast]
  have back : (((n * 2 ^ k : ℕ) : ℤ) : ℚ) * 2 ^ (-(k : ℤ)) = n := by
    rw [← whole, div_mul_cancel₀]
    exact zpow_ne_zero _ two_ne_zero
  rw [back, size, if_neg]
  have bound : (n : ℚ) < 2 ^ 53 := by exact_mod_cast small
  have huge : (2 : ℚ) ^ 53 ≤ 2 ^ 1024 := pow_le_pow_right₀ (by norm_num) (by norm_num)
  exact not_le.mpr (lt_of_lt_of_le bound huge)

theorem ofDecimal_natural {n : Nat} (small : n < 2 ^ 53) : ofDecimal false n 0 = .finite n := by
  rw [← round_natCast small, ofDecimal]
  simp

end EasyTierEdge.Lib.Double
