/- module: EasyTierEdge/Lib/Saturating
   layer: library
   digest: Saturating arithmetic on machine integers. -/

import Mathlib.Algebra.Group.Nat.Defs

set_option autoImplicit false
set_option relaxedAutoImplicit false

namespace EasyTierEdge.Lib.Saturating

/-- `u64::saturating_sub`. -/
def saturatingSub (a b : UInt64) : UInt64 := if b ≤ a then a - b else 0

/-- `u64::saturating_add`. -/
def saturatingAdd (a b : UInt64) : UInt64 := if a ≤ a + b then a + b else UInt64.ofNat (2 ^ 64 - 1)

/-- `u64::saturating_mul`. -/
def saturatingMul (a b : UInt64) : UInt64 := UInt64.ofNat (min (a.toNat * b.toNat) (2 ^ 64 - 1))

/-- `u32::saturating_add`. -/
def saturatingAdd32 (a b : UInt32) : UInt32 :=
  if a ≤ a + b then a + b else UInt32.ofNat (2 ^ 32 - 1)

/-- `u32::saturating_sub`. -/
def saturatingSub32 (a b : UInt32) : UInt32 := if b ≤ a then a - b else 0

theorem toNat_saturatingSub (a b : UInt64) :
    (saturatingSub a b).toNat = a.toNat - b.toNat := by
  unfold saturatingSub
  split
  · rename_i le
    exact UInt64.toNat_sub_of_le a b le
  · rename_i lt
    rw [UInt64.not_le, UInt64.lt_iff_toNat_lt] at lt
    have zero : (0 : UInt64).toNat = 0 := rfl
    omega

theorem saturatingSub_mono {a a' b : UInt64} (later : a ≤ a') :
    saturatingSub a b ≤ saturatingSub a' b := by
  rw [UInt64.le_iff_toNat_le] at later ⊢
  rw [toNat_saturatingSub, toNat_saturatingSub]
  omega

end EasyTierEdge.Lib.Saturating
