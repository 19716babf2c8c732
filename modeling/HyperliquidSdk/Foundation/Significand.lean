import HyperliquidSdk.Foundation.Binary64
import Mathlib.Data.Rat.Defs

/-!
# Significands and rounding

Magnitudes with a significand of so many bits, and what rounding to the nearest multiple
of a spacing does to a magnitude.
-/

set_option autoImplicit false

namespace Foundation

/-- The places are a variable here, so that no power is computed. -/
theorem unitsPerOne_eq : ∃ places, places = 1074 ∧ unitsPerOne = 2 ^ places := ⟨1074, rfl, rfl⟩

theorem unitsPerOne_pos : 0 < unitsPerOne := by
  obtain ⟨places, -, ones⟩ := unitsPerOne_eq
  rw [ones]
  exact Nat.two_pow_pos places

/-- The places by which a magnitude is longer than so many bits. -/
def excessOver (precision units : Nat) : Nat := units.log2 + 1 - precision

/-- The magnitude has a significand of so many bits. -/
def HasPrecision (precision units : Nat) : Prop := 2 ^ excessOver precision units ∣ units

instance (precision units : Nat) : Decidable (HasPrecision precision units) :=
  inferInstanceAs (Decidable (_ ∣ _))

theorem significand_lt (precision units : Nat) :
    units / 2 ^ excessOver precision units < 2 ^ precision := by
  rw [Nat.div_lt_iff_lt_mul (Nat.two_pow_pos _), ← Nat.pow_add]
  refine Nat.lt_of_lt_of_le Nat.lt_log2_self (Nat.pow_le_pow_right Nat.zero_lt_two ?_)
  unfold excessOver
  omega

theorem le_significand {precision units : Nat} (positive : 0 < precision)
    (long : excessOver precision units ≠ 0) :
    2 ^ (precision - 1) ≤ units / 2 ^ excessOver precision units := by
  have nonzero : units ≠ 0 := by
    rintro rfl
    simp [excessOver] at long
    omega
  rw [Nat.le_div_iff_mul_le (Nat.two_pow_pos _), ← Nat.pow_add]
  refine le_trans (Nat.pow_le_pow_right Nat.zero_lt_two ?_) (Nat.log2_self_le nonzero)
  unfold excessOver at *
  omega

theorem IsMagnitude.hasPrecision {units : Nat} (valid : IsMagnitude units) :
    HasPrecision 53 units := by
  obtain ⟨digits, shift, bounded, rfl⟩ := valid.significand
  by_cases zero : digits * 2 ^ shift = 0
  · simp [zero, HasPrecision]
  by_cases full : digits = 2 ^ 53
  · rw [HasPrecision, excessOver, full, ← Nat.pow_add, Nat.log2_two_pow]
    apply Nat.pow_dvd_pow
    omega
  · have short : (digits * 2 ^ shift).log2 < 53 + shift := by
      rw [Nat.log2_lt zero, Nat.pow_add]
      exact Nat.mul_lt_mul_of_pos_right (by omega) (Nat.two_pow_pos _)
    apply Nat.dvd_mul_left_of_dvd
    apply Nat.pow_dvd_pow
    unfold excessOver
    omega

theorem log2_lt_of_scaled {magnitude bits places : Nat} (nonzero : magnitude ≠ 0)
    (small : magnitude < 2 ^ bits * 2 ^ places) : magnitude.log2 < bits + places := by
  rw [Nat.log2_lt nonzero, Nat.pow_add]
  exact small

theorem le_log2_of_scaled {magnitude bits places : Nat} (nonzero : magnitude ≠ 0)
    (large : 2 ^ bits * 2 ^ places ≤ magnitude) : bits + places ≤ magnitude.log2 := by
  rw [Nat.le_log2 nonzero, Nat.pow_add]
  exact large

/-- The exact value of a finite `double`. -/
def Double.exact : Double → Option ℚ
  | .finite negative units _ => some (Double.signedUnits negative units / unitsPerOne)
  | .infinity _ | .nan => none

/-! ## Rounding -/

/-- Rounding goes to the lower multiple or to the next one. -/
theorem roundHalfEven_cases (numerator denominator : Nat) :
    roundHalfEven numerator denominator = numerator / denominator ∧
        (2 * (numerator % denominator) < denominator ∨
          2 * (numerator % denominator) = denominator ∧ numerator / denominator % 2 = 0) ∨
      roundHalfEven numerator denominator = numerator / denominator + 1 ∧
        (denominator < 2 * (numerator % denominator) ∨
          2 * (numerator % denominator) = denominator ∧ numerator / denominator % 2 = 1) := by
  simp only [roundHalfEven]
  split
  · next below => exact .inl ⟨rfl, below⟩
  · next above => exact .inr ⟨rfl, by omega⟩

theorem roundHalfEven_scaled (numerator denominator : Nat) {scale : Nat} (positive : 0 < scale) :
    roundHalfEven (numerator * scale) (denominator * scale) =
      roundHalfEven numerator denominator := by
  simp only [roundHalfEven, Nat.mul_div_mul_right _ _ positive, Nat.mul_mod_mul_right]
  have below : 2 * (numerator % denominator * scale) < denominator * scale ↔
      2 * (numerator % denominator) < denominator := by
    rw [← Nat.mul_assoc, Nat.mul_lt_mul_right positive]
  have half : 2 * (numerator % denominator * scale) = denominator * scale ↔
      2 * (numerator % denominator) = denominator := by
    rw [← Nat.mul_assoc, Nat.mul_left_inj (Nat.pos_iff_ne_zero.mp positive)]
  simp only [below, half]

theorem roundUnits_cancel (numerator denominator : Nat) {scale : Nat} (positive : 0 < scale) :
    roundUnits (numerator * scale) (denominator * scale) = roundUnits numerator denominator := by
  simp only [roundUnits, Nat.mul_div_mul_right _ _ positive,
    Nat.mul_right_comm denominator scale, roundHalfEven_scaled _ _ positive]

/-- A fraction of units rounds like its whole number of units, when it is one. -/
theorem roundUnits_scaled (units : Nat) {scale : Nat} (positive : 0 < scale) :
    roundUnits (units * scale) scale = roundUnits units 1 := by
  have cancelled := roundUnits_cancel units 1 positive
  rwa [Nat.one_mul] at cancelled

/-- The multiple of the spacing of the doubles to which a magnitude is rounded. -/
theorem roundUnits_eq (units : Nat) :
    roundUnits units 1 =
      roundHalfEven units (2 ^ excessBits units) * 2 ^ excessBits units := by
  rw [roundUnits, Nat.div_one, Nat.one_mul]

theorem roundUnits_of_hasPrecision {units : Nat} (precise : HasPrecision 53 units) :
    roundUnits units 1 = units := by
  have divides : 2 ^ excessBits units ∣ units := precise
  have remainder := Nat.mod_eq_zero_of_dvd divides
  have positive := Nat.two_pow_pos (excessBits units)
  rw [roundUnits_eq]
  obtain ⟨lower, -⟩ | ⟨-, above⟩ := roundHalfEven_cases units (2 ^ excessBits units)
  · rw [lower, Nat.div_mul_cancel divides]
  · omega

/-! ## Rounding and the order -/

theorem roundHalfEven_bounds (numerator denominator : Nat) :
    numerator / denominator ≤ roundHalfEven numerator denominator ∧
      roundHalfEven numerator denominator ≤ numerator / denominator + 1 := by
  obtain ⟨lower, -⟩ | ⟨upper, -⟩ := roundHalfEven_cases numerator denominator
  · omega
  · omega

theorem div_le_div_of_mul_le {first second firstDenominator secondDenominator : Nat}
    (firstPositive : 0 < firstDenominator) (secondPositive : 0 < secondDenominator)
    (le : first * secondDenominator ≤ second * firstDenominator) :
    first / firstDenominator ≤ second / secondDenominator := by
  rw [Nat.le_div_iff_mul_le secondPositive]
  refine Nat.le_of_mul_le_mul_right ?_ firstPositive
  calc first / firstDenominator * secondDenominator * firstDenominator
      = first / firstDenominator * firstDenominator * secondDenominator := Nat.mul_right_comm _ _ _
    _ ≤ first * secondDenominator := Nat.mul_le_mul_right _ (Nat.div_mul_le_self _ _)
    _ ≤ second * firstDenominator := le

/-- A larger fraction is not rounded to a smaller number. -/
theorem roundHalfEven_mono {first second firstDenominator secondDenominator : Nat}
    (firstPositive : 0 < firstDenominator) (secondPositive : 0 < secondDenominator)
    (le : first * secondDenominator ≤ second * firstDenominator) :
    roundHalfEven first firstDenominator ≤ roundHalfEven second secondDenominator := by
  have quotients := div_le_div_of_mul_le firstPositive secondPositive le
  have lower := roundHalfEven_bounds first firstDenominator
  have upper := roundHalfEven_bounds second secondDenominator
  by_cases smaller : first / firstDenominator < second / secondDenominator
  · omega
  · have same : first / firstDenominator = second / secondDenominator := by omega
    -- in one unit, the remainders are compared
    have remainders : first % firstDenominator * secondDenominator ≤
        second % secondDenominator * firstDenominator := by
      have splitFirst := congrArg (· * secondDenominator) (Nat.div_add_mod first firstDenominator)
      have splitSecond := congrArg (· * firstDenominator) (Nat.div_add_mod second secondDenominator)
      have whole : firstDenominator * (second / secondDenominator) * secondDenominator =
          secondDenominator * (second / secondDenominator) * firstDenominator := by ac_rfl
      simp only [same, Nat.add_mul] at splitFirst splitSecond
      omega
    rcases roundHalfEven_cases first firstDenominator with ⟨down, -⟩ | ⟨up, above⟩
    · omega
    · rcases roundHalfEven_cases second secondDenominator with ⟨down, below⟩ | ⟨upSecond, -⟩
      · exfalso
        have middle : firstDenominator * secondDenominator ≤
            2 * (second % secondDenominator) * firstDenominator := by
          have half : firstDenominator ≤ 2 * (first % firstDenominator) := by omega
          have scaled := Nat.mul_le_mul_right secondDenominator half
          rw [Nat.mul_assoc] at scaled
          rw [Nat.mul_assoc]
          omega
        rcases above with above | ⟨half, odd⟩
        · have scaled := Nat.mul_lt_mul_of_pos_right above secondPositive
          have least : 2 * (second % secondDenominator) ≤ secondDenominator := by omega
          have most := Nat.mul_le_mul_right firstDenominator least
          rw [Nat.mul_assoc] at scaled
          rw [Nat.mul_assoc, Nat.mul_comm secondDenominator] at most
          omega
        · rcases below with below | ⟨-, even⟩
          · have scaled := Nat.mul_lt_mul_of_pos_right below firstPositive
            rw [Nat.mul_comm secondDenominator] at scaled
            omega
          · omega
      · omega

theorem two_pow_excessBits_le {magnitude : Nat} (positive : 0 < magnitude) :
    2 ^ excessBits magnitude ≤ magnitude := by
  refine le_trans (Nat.pow_le_pow_right Nat.zero_lt_two ?_) (Nat.log2_self_le positive.ne')
  unfold excessBits
  omega

/-- What is at least one unit is not rounded to zero. -/
theorem roundUnits_pos {numerator denominator : Nat} (large : 0 < numerator / denominator) :
    0 < roundUnits numerator denominator := by
  have bounds := roundHalfEven_bounds numerator
    (denominator * 2 ^ excessBits (numerator / denominator))
  have significand : 0 < numerator / (denominator * 2 ^ excessBits (numerator / denominator)) := by
    rw [← Nat.div_div_eq_div_mul]
    exact Nat.div_pos (two_pow_excessBits_le large) (Nat.two_pow_pos _)
  exact Nat.mul_pos (by omega) (Nat.two_pow_pos _)

theorem excessBits_mono {first second : Nat} (le : first ≤ second) :
    excessBits first ≤ excessBits second := by
  rcases Nat.eq_zero_or_pos first with rfl | positive
  · exact Nat.zero_le _
  · have logarithms : first.log2 ≤ second.log2 :=
      (Nat.le_log2 (by omega)).mpr ((Nat.log2_self_le positive.ne').trans le)
    unfold excessBits
    omega

/-- A larger magnitude is not rounded to a smaller one. -/
theorem roundUnits_mono {first second firstDenominator secondDenominator : Nat}
    (firstPositive : 0 < firstDenominator) (secondPositive : 0 < secondDenominator)
    (le : first * secondDenominator ≤ second * firstDenominator) :
    roundUnits first firstDenominator ≤ roundUnits second secondDenominator := by
  have quotients : first / firstDenominator ≤ second / secondDenominator :=
    div_le_div_of_mul_le firstPositive secondPositive le
  have shifts := excessBits_mono quotients
  unfold roundUnits
  by_cases same : excessBits (first / firstDenominator) = excessBits (second / secondDenominator)
  · rw [same]
    refine Nat.mul_le_mul_right _ (roundHalfEven_mono ?_ ?_ ?_)
    · exact Nat.mul_pos firstPositive (Nat.two_pow_pos _)
    · exact Nat.mul_pos secondPositive (Nat.two_pow_pos _)
    · rw [← Nat.mul_assoc, ← Nat.mul_assoc]
      exact Nat.mul_le_mul_right _ le
  · -- a longer significand starts above where the shorter one ends
    have most : roundHalfEven first (firstDenominator * 2 ^ excessBits (first / firstDenominator)) ≤
        2 ^ 53 := by
      refine roundHalfEven_le ?_
      rw [← Nat.div_div_eq_div_mul]
      exact div_excessBits_lt _
    have least : 2 ^ 52 ≤ second / secondDenominator / 2 ^ excessBits (second / secondDenominator) :=
      le_significand (by decide) (show excessBits _ ≠ 0 by omega)
    have bounds := roundHalfEven_bounds second
      (secondDenominator * 2 ^ excessBits (second / secondDenominator))
    rw [← Nat.div_div_eq_div_mul] at bounds
    calc roundHalfEven first (firstDenominator * 2 ^ excessBits (first / firstDenominator)) *
          2 ^ excessBits (first / firstDenominator)
        ≤ 2 ^ 53 * 2 ^ excessBits (first / firstDenominator) := Nat.mul_le_mul_right _ most
      _ = 2 ^ 52 * 2 ^ (excessBits (first / firstDenominator) + 1) := by
          rw [← Nat.pow_add, ← Nat.pow_add]
          congr 1
          omega
      _ ≤ 2 ^ 52 * 2 ^ excessBits (second / secondDenominator) :=
          Nat.mul_le_mul_left _ (Nat.pow_le_pow_right Nat.zero_lt_two (by omega))
      _ ≤ _ := Nat.mul_le_mul_right _ (by omega)

/-! ## Differences and comparisons -/

namespace Double

theorem ofUnits_self (negative : Bool) {units : Nat} (valid : IsMagnitude units) :
    ofUnits negative units 1 = .finite negative units valid := by
  simp only [ofUnits, roundUnits_of_hasPrecision valid.hasPrecision, dif_pos valid.bounded]

theorem abs_ofUnits (negative : Bool) (numerator denominator : Nat) :
    (ofUnits negative numerator denominator).abs = ofUnits false numerator denominator := by
  unfold ofUnits
  split
  · rfl
  · rfl

/-- The difference of finite numbers is rounded once. -/
theorem abs_sub_finite (first second : Bool) {firstUnits secondUnits : Nat}
    (firstValid : IsMagnitude firstUnits) (secondValid : IsMagnitude secondUnits) :
    ((finite first firstUnits firstValid).sub (finite second secondUnits secondValid)).abs =
      ofUnits false (signedUnits first firstUnits - signedUnits second secondUnits).natAbs 1 := by
  have opposite : signedUnits first firstUnits + signedUnits (!second) secondUnits =
      signedUnits first firstUnits - signedUnits second secondUnits := by
    cases second with
    | true => simp [signedUnits]
    | false => simp [signedUnits, Int.sub_eq_add_neg]
  simp only [sub, neg, add, opposite]
  split
  · next zero => rw [zero, abs_ofUnits, Int.natAbs_zero]
  · rw [ofSignedUnits, abs_ofUnits]

/-- Rounding keeps the order of numbers that are not negative. -/
theorem ge_ofUnits {first second firstDenominator secondDenominator : Nat}
    (firstPositive : 0 < firstDenominator) (secondPositive : 0 < secondDenominator)
    (le : second * firstDenominator ≤ first * secondDenominator) :
    (ofUnits false first firstDenominator).ge (ofUnits false second secondDenominator) = true := by
  have rounded := roundUnits_mono secondPositive firstPositive le
  unfold ofUnits
  split
  · next bounded =>
      rw [dif_pos (rounded.trans bounded)]
      simpa [ge, signedUnits] using rounded
  · split
    · rfl
    · rfl

end Double

end Foundation
