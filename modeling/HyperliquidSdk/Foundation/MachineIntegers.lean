import Mathlib.Algebra.Group.Int.Defs
import Mathlib.Algebra.Group.Nat.Defs

/-!
# Conversions of machine integers

Conversions to `uint64_t` are taken modulo `2 ^ 64`.
-/

set_option autoImplicit false

namespace Foundation

theorem toNat_ofInt (value : Int) : (UInt64.ofInt value).toNat = (value % 2 ^ 64).toNat := by
  have lower : 0 ≤ value % 2 ^ 64 := Int.emod_nonneg _ (by decide)
  have upper : value % 2 ^ 64 < 2 ^ 64 := Int.emod_lt_of_pos _ (by decide)
  rw [UInt64.ofInt, UInt64.toNat_ofNat']
  omega

theorem ofInt_eq_iff (first second : Int) :
    UInt64.ofInt first = UInt64.ofInt second ↔ first % 2 ^ 64 = second % 2 ^ 64 := by
  have lower (value : Int) : 0 ≤ value % 2 ^ 64 := Int.emod_nonneg _ (by decide)
  rw [← UInt64.toNat_inj, toNat_ofInt, toNat_ofInt]
  constructor
  · intro same
    rw [← Int.toNat_of_nonneg (lower first), same, Int.toNat_of_nonneg (lower second)]
  · intro same
    rw [same]

theorem toUInt64_eq_ofInt (value : Int64) : value.toUInt64 = .ofInt value.toInt := by
  rw [← UInt64.toNat_inj, UInt64.ofInt, UInt64.toNat_ofNat', ← Int64.toNat_toBitVec,
    ← Int64.toInt_toBitVec, BitVec.toInt_eq_toNat_bmod]
  have bounded := value.toBitVec.isLt
  have same := @Int.bmod_emod value.toBitVec.toNat (2 ^ 64)
  omega

/-- A `long long` in range is converted to its value modulo `2 ^ 64`. -/
theorem toUInt64_ofInt {value : Int} (lower : -2 ^ 63 ≤ value) (upper : value < 2 ^ 63) :
    (Int64.ofInt value).toUInt64.toNat = (value % 2 ^ 64).toNat := by
  rw [toUInt64_eq_ofInt, toNat_ofInt, Int64.toInt_ofInt_of_le lower upper]

/-- A number that is not negative survives an `int` on its way to a `uint64_t` if it fits. -/
theorem toUInt64_toInt32_iff {value : Nat} (bounded : value < 2 ^ 63) :
    (Int64.ofInt value).toInt32.toInt64.toUInt64.toNat = value ↔ value < 2 ^ 31 := by
  rw [toUInt64_eq_ofInt, toNat_ofInt, Int32.toInt_toInt64, Int64.toInt_toInt32,
    Int64.toInt_ofInt_of_le (by omega) (by omega), Int.bmod_def]
  split
  · omega
  · omega

end Foundation
