/- module: EasyTierEdge/Lib/Endian
   layer: library
   digest: Fixed-width base-256 encodings of natural numbers in either byte order. -/

import Mathlib.Data.Nat.Digits.Lemmas

set_option autoImplicit false
set_option relaxedAutoImplicit false

namespace EasyTierEdge.Lib.Endian

/-- The `n` low-order base-256 digits of `x`, least significant first. -/
def toLe : Nat → Nat → List UInt8
  | 0, _ => []
  | n + 1, x => UInt8.ofNat x :: toLe n (x / 256)

/-- The number written by little-endian bytes. -/
def ofLe (bytes : List UInt8) : Nat := Nat.ofDigits 256 (bytes.map UInt8.toNat)

/-- Big-endian digits: the most significant byte comes first. -/
def toBe (n x : Nat) : List UInt8 := (toLe n x).reverse

def ofBe (bytes : List UInt8) : Nat := ofLe bytes.reverse

@[simp] theorem toLe_length (n x : Nat) : (toLe n x).length = n := by
  induction n generalizing x with
  | zero => rfl
  | succ n ih => simp [toLe, ih]

@[simp] theorem toBe_length (n x : Nat) : (toBe n x).length = n := by
  simp [toBe]

@[simp] theorem ofLe_nil : ofLe [] = 0 := rfl

@[simp] theorem ofLe_cons (b : UInt8) (bytes : List UInt8) :
    ofLe (b :: bytes) = b.toNat + 256 * ofLe bytes := by
  simp [ofLe, Nat.ofDigits_cons]

theorem ofLe_lt (bytes : List UInt8) : ofLe bytes < 256 ^ bytes.length := by
  have digits : ∀ d ∈ bytes.map UInt8.toNat, d < 256 := by
    intro d hd
    obtain ⟨b, -, rfl⟩ := List.mem_map.mp hd
    exact b.toNat_lt
  simpa [ofLe] using Nat.ofDigits_lt_base_pow_length (by omega) digits

theorem ofLe_toLe (n x : Nat) : ofLe (toLe n x) = x % 256 ^ n := by
  induction n generalizing x with
  | zero => simp [toLe, Nat.mod_one]
  | succ n ih =>
    rw [toLe, ofLe_cons, ih, Nat.pow_succ', Nat.mod_mul]
    simp

theorem toLe_ofLe (bytes : List UInt8) : toLe bytes.length (ofLe bytes) = bytes := by
  induction bytes with
  | nil => rfl
  | cons b bytes ih =>
    have low := b.toNat_lt
    have head : UInt8.ofNat (b.toNat + 256 * ofLe bytes) = b := by
      apply UInt8.toNat_inj.mp
      simp only [UInt8.toNat_ofNat', Nat.reducePow]
      omega
    have tail : (b.toNat + 256 * ofLe bytes) / 256 = ofLe bytes := by omega
    rw [List.length_cons, ofLe_cons, toLe, head, tail, ih]

theorem ofBe_toBe (n x : Nat) : ofBe (toBe n x) = x % 256 ^ n := by
  rw [ofBe, toBe, List.reverse_reverse, ofLe_toLe]

end EasyTierEdge.Lib.Endian
