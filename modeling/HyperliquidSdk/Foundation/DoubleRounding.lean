import HyperliquidSdk.Foundation.Significand
import Mathlib.Algebra.Order.Field.Rat
import Mathlib.Tactic.FieldSimp
import Mathlib.Tactic.Linarith
import Mathlib.Tactic.Positivity
import Mathlib.Tactic.Ring

/-!
# Rounding twice

A magnitude is rounded to a multiple of a spacing and then to a whole number of ones. When
the result is a whole number nearest to the magnitude itself.
-/

set_option autoImplicit false

namespace Foundation

/-- A magnitude is within half a unit of so many ones. -/
def IsNearest (one number magnitude : Nat) : Prop :=
  2 * (number * one) ≤ 2 * magnitude + one ∧ 2 * magnitude ≤ 2 * (number * one) + one

/-- A magnitude lies below a half and its rounding goes up to that half: `spacing` is the
distance of the rounded magnitudes, and a tie goes up when the half is an even multiple. -/
def RoundsUpToHalf (one spacing magnitude : Nat) : Prop :=
  2 * (magnitude % one) < one ∧
    (one < 2 * (magnitude % one) + spacing ∨
      one = 2 * (magnitude % one) + spacing ∧ one / 2 / spacing % 2 = 0)

section RoundedTwice

variable {spacing halves magnitude quotient r part k T number w : Nat}

/-- The rounding to a multiple went up, and the multiple is a half. -/
def Exceptional (halves quotient T number : Nat) : Prop :=
  T = quotient + 1 ∧ 2 * halves * number = quotient + 1 + halves

theorem isNearest_iff_not_exceptional (split : spacing * quotient + r = magnitude)
    (remainder : r < spacing) (rounded : T = quotient ∨ T = quotient + 1)
    (whole : 2 * halves * number + w = T + halves) (rest : w < 2 * halves) :
    IsNearest (2 * (spacing * halves)) number magnitude ↔
      ¬ Exceptional halves quotient T number := by
  have scaled : number * (2 * (spacing * halves)) = spacing * (2 * halves * number) := by ring
  unfold IsNearest Exceptional
  rw [scaled]
  generalize 2 * halves * number = multiple at *
  by_cases exceptional : T = quotient + 1 ∧ multiple = quotient + 1 + halves
  · have moved : spacing * multiple = spacing * quotient + spacing + spacing * halves := by
      rw [exceptional.2, Nat.mul_add, Nat.mul_add, Nat.mul_one]
    constructor
    · intro nearest
      omega
    · intro absurdity
      exact absurd exceptional absurdity
  · have lower : multiple ≤ quotient + halves := by omega
    have upper : quotient + 1 ≤ multiple + halves := by omega
    have scaledLower := Nat.mul_le_mul_left spacing lower
    have scaledUpper := Nat.mul_le_mul_left spacing upper
    rw [Nat.mul_add] at scaledLower
    rw [Nat.mul_add, Nat.mul_add, Nat.mul_one] at scaledUpper
    constructor
    · intro nearest
      exact exceptional
    · intro ordinary
      omega

/-- The multiple is a half exactly when the part of the quotient reaches it. -/
theorem multiple_eq_iff (parts : 2 * halves * k + part = quotient) (short : part < 2 * halves)
    (up : T = quotient + 1) (whole : 2 * halves * number + w = T + halves) (rest : w < 2 * halves) :
    2 * halves * number = quotient + 1 + halves ↔ part + 1 = halves := by
  constructor
  · intro half
    have above : k < number := by
      by_contra low
      have scaled := Nat.mul_le_mul_left (2 * halves) (Nat.le_of_not_lt low)
      omega
    have below : number < k + 2 := by
      by_contra high
      have scaled := Nat.mul_le_mul_left (2 * halves) (Nat.le_of_not_lt high)
      rw [Nat.mul_add] at scaled
      omega
    obtain rfl : number = k + 1 := by omega
    rw [Nat.mul_add] at half
    omega
  · intro reaches
    have above : k < number := by
      by_contra low
      have scaled := Nat.mul_le_mul_left (2 * halves) (Nat.le_of_not_lt low)
      omega
    have scaled := Nat.mul_le_mul_left (2 * halves) (show k + 1 ≤ number from above)
    rw [Nat.mul_add] at scaled
    omega

/-- The part of the quotient reaches a half when the magnitude is at most a spacing below. -/
theorem part_of_below (remainder : r < spacing)
    (below : 2 * (r + spacing * part) < 2 * (spacing * halves))
    (near : 2 * (spacing * halves) ≤ 2 * (r + spacing * part) + spacing) : part + 1 = halves := by
  have small : part < halves := by
    by_contra large
    have scaled := Nat.mul_le_mul_left spacing (Nat.le_of_not_lt large)
    omega
  have large : halves < part + 2 := by
    by_contra small
    have scaled := Nat.mul_le_mul_left spacing (Nat.le_of_not_lt small)
    rw [Nat.mul_add] at scaled
    omega
  omega

/-- Rounding twice, first to a multiple of a spacing that divides a half and then to a whole
number, finds a nearest number except just below a half. -/
theorem isNearest_rounded_iff {spacing halves : Nat} (magnitude : Nat) (positive : 0 < spacing)
    (some : 0 < halves) :
    IsNearest (2 * (spacing * halves)) ((roundHalfEven magnitude spacing + halves) / (2 * halves))
        magnitude ↔
      ¬ RoundsUpToHalf (2 * (spacing * halves)) spacing magnitude := by
  have split := Nat.div_add_mod magnitude spacing
  have remainder := Nat.mod_lt magnitude positive
  have parts := Nat.div_add_mod (magnitude / spacing) (2 * halves)
  have short := Nat.mod_lt (magnitude / spacing) (show 0 < 2 * halves by omega)
  have fraction : magnitude % (2 * (spacing * halves)) =
      magnitude % spacing + spacing * (magnitude / spacing % (2 * halves)) := by
    rw [← Nat.mod_mul]
    congr 1
    ring
  have halfCount : 2 * (spacing * halves) / 2 / spacing = halves := by
    rw [Nat.mul_div_cancel_left _ (by decide), Nat.mul_div_cancel_left _ positive]
  have rounded := roundHalfEven_cases magnitude spacing
  have whole := Nat.div_add_mod (roundHalfEven magnitude spacing + halves) (2 * halves)
  have rest := Nat.mod_lt (roundHalfEven magnitude spacing + halves)
    (show 0 < 2 * halves by omega)
  rw [isNearest_iff_not_exceptional split remainder (by omega) whole rest, not_iff_not]
  unfold RoundsUpToHalf Exceptional
  rw [fraction, halfCount]
  have even : 2 * halves * (magnitude / spacing / (2 * halves)) =
      2 * (halves * (magnitude / spacing / (2 * halves))) := Nat.mul_assoc ..
  constructor
  · rintro ⟨up, half⟩
    have reaches := (multiple_eq_iff parts short up whole rest).mp half
    have scaled := congrArg (spacing * ·) reaches
    simp only [Nat.mul_add, Nat.mul_one] at scaled
    omega
  · rintro ⟨below, near⟩
    have reaches := part_of_below remainder below (by omega)
    have scaled := congrArg (spacing * ·) reaches
    simp only [Nat.mul_add, Nat.mul_one] at scaled
    have up : roundHalfEven magnitude spacing = magnitude / spacing + 1 := by omega
    exact ⟨up, (multiple_eq_iff parts short up whole rest).mpr reaches⟩

end RoundedTwice

/-! ## Spacings of whole ones -/

/-- A magnitude is within half of a one of a multiple of the spacing. -/
def NearMultiple (one spacing magnitude : Nat) : Prop :=
  2 * (magnitude % spacing) ≤ one ∨ 2 * spacing ≤ 2 * (magnitude % spacing) + one

instance (one number magnitude : Nat) : Decidable (IsNearest one number magnitude) :=
  inferInstanceAs (Decidable (_ ∧ _))

instance (one spacing magnitude : Nat) : Decidable (RoundsUpToHalf one spacing magnitude) :=
  inferInstanceAs (Decidable (_ ∧ _))

instance (one spacing magnitude : Nat) : Decidable (NearMultiple one spacing magnitude) :=
  inferInstanceAs (Decidable (_ ∨ _))

theorem isNearest_multiple_iff {one factor : Nat} (magnitude : Nat) (positive : 0 < one)
    (some : 0 < factor) :
    IsNearest one (roundHalfEven magnitude (one * factor) * factor) magnitude ↔
      NearMultiple one (one * factor) magnitude := by
  have long : one ≤ one * factor := Nat.le_mul_of_pos_right one some
  have split := Nat.div_add_mod magnitude (one * factor)
  have remainder := Nat.mod_lt magnitude (Nat.lt_of_lt_of_le positive long)
  have scaled (count : Nat) : count * factor * one = one * factor * count := by ring
  have rounded := roundHalfEven_cases magnitude (one * factor)
  unfold IsNearest NearMultiple
  rw [scaled]
  obtain ⟨down, below⟩ | ⟨up, above⟩ := rounded
  · rw [down]
    omega
  · rw [up, Nat.mul_add, Nat.mul_one]
    omega

/-- A number near a magnitude that is a multiple of the spacing makes the magnitude near. -/
theorem nearMultiple_of_isNearest {one number spacing magnitude : Nat}
    (divides : spacing ∣ number * one) (long : one ≤ spacing) (positive : 0 < one)
    (nearest : IsNearest one number magnitude) : NearMultiple one spacing magnitude := by
  obtain ⟨count, multiple⟩ := divides
  unfold IsNearest at nearest
  rw [multiple] at nearest
  have split := Nat.div_add_mod magnitude spacing
  have remainder := Nat.mod_lt magnitude (Nat.lt_of_lt_of_le positive long)
  unfold NearMultiple
  by_cases lower : count ≤ magnitude / spacing
  · have scaled := Nat.mul_le_mul_left spacing lower
    by_cases upper : magnitude / spacing ≤ count
    · obtain rfl := Nat.le_antisymm lower upper
      omega
    · have next := Nat.mul_le_mul_left spacing (Nat.lt_of_not_le upper)
      rw [Nat.succ_eq_add_one, Nat.mul_add, Nat.mul_one] at next
      omega
  · have next := Nat.mul_le_mul_left spacing (Nat.lt_of_not_le lower)
    rw [Nat.succ_eq_add_one, Nat.mul_add, Nat.mul_one] at next
    omega

/-! ## Distances -/

theorem abs_sub_div_iff {one : Nat} (some : 0 < one) (number magnitude : Nat) :
    |(number : ℚ) - magnitude / one| ≤ 1 / 2 ↔ IsNearest one number magnitude := by
  have positive : (0 : ℚ) < one := by exact_mod_cast some
  have difference : (number : ℚ) - magnitude / one =
      (number * one - magnitude) / one := by field_simp
  rw [difference, abs_div, abs_of_pos positive, div_le_iff₀ positive, abs_le, IsNearest]
  constructor
  · rintro ⟨lower, upper⟩
    constructor
    · have real : (2 * (number * one) : ℚ) ≤ 2 * magnitude + one := by linarith
      exact_mod_cast real
    · have real : (2 * magnitude : ℚ) ≤ 2 * (number * one) + one := by linarith
      exact_mod_cast real
  · rintro ⟨upper, lower⟩
    have realUpper : (2 * (number * one) : ℚ) ≤ 2 * magnitude + one := by
      exact_mod_cast upper
    have realLower : (2 * magnitude : ℚ) ≤ 2 * (number * one) + one := by
      exact_mod_cast lower
    constructor <;> linarith

theorem abs_add_div_iff {one : Nat} (some : 0 < one) (number magnitude : Nat) :
    |(number : ℚ) + magnitude / one| ≤ 1 / 2 ↔
      2 * (number * one) + 2 * magnitude ≤ one := by
  have positive : (0 : ℚ) < one := by exact_mod_cast some
  have sum : (number : ℚ) + magnitude / one =
      (number * one + magnitude) / one := by field_simp
  have nonnegative : (0 : ℚ) ≤ (number * one + magnitude) / one := by positivity
  rw [sum, abs_of_nonneg nonnegative, div_le_iff₀ positive]
  constructor
  · intro below
    have real : (2 * (number * one) + 2 * magnitude : ℚ) ≤ one := by linarith
    exact_mod_cast real
  · intro below
    have real : (2 * (number * one) + 2 * magnitude : ℚ) ≤ one := by
      exact_mod_cast below
    linarith

end Foundation
