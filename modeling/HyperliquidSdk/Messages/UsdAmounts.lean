import HyperliquidSdk.Foundation.DoubleRounding
import HyperliquidSdk.Foundation.MachineIntegers
import HyperliquidSdk.Messages.ExchangeRequestBuilder
import Mathlib.Data.Rat.Floor

/-!
# USD amounts

The three builders that turn an amount of dollars into raw units of a millionth, with a
multiplication of doubles, `llround` and a conversion to `uint64_t`.
-/

set_option autoImplicit false

namespace HyperliquidSdk.Messages

open Foundation

/-! ## The product and its rounding -/

/-- The distance of the doubles next to a magnitude. -/
def spacing (magnitude : Nat) : Nat := 2 ^ excessBits magnitude

theorem spacing_pos (magnitude : Nat) : 0 < spacing magnitude := Nat.two_pow_pos _

/-- The whole number of ones that `llround` gives for a magnitude. -/
def nearestOnes (magnitude : Nat) : Nat :=
  (2 * magnitude + unitsPerOne) / (2 * unitsPerOne)

theorem unitsPerOne_eq_double {magnitude : Nat} (small : magnitude < 2 ^ 52 * unitsPerOne) :
    ∃ halves, 0 < halves ∧ unitsPerOne = 2 * (spacing magnitude * halves) := by
  obtain ⟨places, count, ones⟩ := unitsPerOne_eq
  have exponent : excessBits magnitude < places := by
    by_cases zero : magnitude = 0
    · simp [zero, excessBits, count]
    · rw [ones] at small
      have log := log2_lt_of_scaled zero small
      unfold excessBits
      omega
  refine ⟨2 ^ (places - 1 - excessBits magnitude), Nat.two_pow_pos _, ?_⟩
  rw [ones, spacing, ← Nat.pow_add, ← Nat.pow_succ']
  exact congrArg (2 ^ ·) (by omega)

theorem spacing_eq_multiple {magnitude : Nat} (large : 2 ^ 52 * unitsPerOne ≤ magnitude) :
    ∃ factor, 0 < factor ∧ spacing magnitude = unitsPerOne * factor := by
  have nonzero : magnitude ≠ 0 := by
    have positive := Nat.mul_pos (Nat.two_pow_pos 52) unitsPerOne_pos
    omega
  obtain ⟨places, count, ones⟩ := unitsPerOne_eq
  have exponent : places ≤ excessBits magnitude := by
    rw [ones] at large
    have log := le_log2_of_scaled nonzero large
    unfold excessBits
    omega
  refine ⟨2 ^ (excessBits magnitude - places), Nat.two_pow_pos _, ?_⟩
  rw [ones, spacing, ← Nat.pow_add, Nat.add_sub_cancel' exponent]

theorem nearestOnes_small {magnitude : Nat} (small : magnitude < 2 ^ 52 * unitsPerOne) :
    IsNearest unitsPerOne (nearestOnes (roundUnits magnitude 1)) magnitude ↔
      ¬ RoundsUpToHalf unitsPerOne (spacing magnitude) magnitude := by
  obtain ⟨halves, some, ones⟩ := unitsPerOne_eq_double small
  have number : nearestOnes (roundUnits magnitude 1) =
      (roundHalfEven magnitude (spacing magnitude) + halves) / (2 * halves) := by
    have numerator : 2 * roundUnits magnitude 1 + unitsPerOne =
        2 * spacing magnitude * (roundHalfEven magnitude (spacing magnitude) + halves) := by
      rw [roundUnits_eq, ones, ← spacing]
      ring
    have denominator : 2 * unitsPerOne = 2 * spacing magnitude * (2 * halves) := by
      rw [ones]
      ring
    rw [nearestOnes, numerator, denominator,
      Nat.mul_div_mul_left _ _ (Nat.mul_pos Nat.zero_lt_two (spacing_pos magnitude))]
  rw [number, ones]
  exact isNearest_rounded_iff magnitude (spacing_pos magnitude) some

theorem nearestOnes_large {magnitude : Nat} (large : 2 ^ 52 * unitsPerOne ≤ magnitude) :
    IsNearest unitsPerOne (nearestOnes (roundUnits magnitude 1)) magnitude ↔
      NearMultiple unitsPerOne (spacing magnitude) magnitude := by
  obtain ⟨factor, some, multiple⟩ := spacing_eq_multiple large
  have number : nearestOnes (roundUnits magnitude 1) =
      roundHalfEven magnitude (unitsPerOne * factor) * factor := by
    have numerator : 2 * roundUnits magnitude 1 + unitsPerOne = unitsPerOne +
        2 * unitsPerOne * (roundHalfEven magnitude (unitsPerOne * factor) * factor) := by
      rw [roundUnits_eq, ← spacing, multiple]
      ring
    rw [nearestOnes, numerator, Nat.add_mul_div_left _ _
      (Nat.mul_pos Nat.zero_lt_two unitsPerOne_pos), Nat.div_eq_of_lt, Nat.zero_add]
    have positive := unitsPerOne_pos
    omega
  rw [number, multiple]
  exact isNearest_multiple_iff magnitude unitsPerOne_pos some

/-! ## The emitted number -/

/-- The units of `usd * 1e6` before it is rounded. -/
def exactProduct (units : Nat) : Nat := units * 10 ^ 6

theorem scaledOne_le_maxUnits : 2 ^ 63 * unitsPerOne ≤ maxUnits := by
  obtain ⟨places, count, ones⟩ := unitsPerOne_eq
  obtain ⟨exponent, exponentCount, largest⟩ :
      ∃ exponent, exponent = 2045 ∧ maxUnits = (2 ^ 53 - 1) * 2 ^ exponent := ⟨2045, rfl, rfl⟩
  rw [ones, largest, ← Nat.pow_add]
  calc 2 ^ (63 + places) ≤ 2 ^ exponent := Nat.pow_le_pow_right Nat.zero_lt_two (by omega)
    _ ≤ (2 ^ 53 - 1) * 2 ^ exponent := Nat.le_mul_of_pos_left _ (by decide)

theorem million_isMagnitude : IsMagnitude (10 ^ 6 * unitsPerOne) where
  significand := by
    obtain ⟨places, -, ones⟩ := unitsPerOne_eq
    exact ⟨10 ^ 6, places, by decide, by rw [ones]⟩
  bounded := Nat.le_trans (Nat.mul_le_mul_right _ (by decide)) scaledOne_le_maxUnits

theorem million_eq : million = .finite false (10 ^ 6 * unitsPerOne) million_isMagnitude :=
  Double.ofUnits_self false million_isMagnitude

theorem mul_million (negative : Bool) (units : Nat) (valid : IsMagnitude units) :
    (Double.finite negative units valid).mul million =
      .ofUnits negative (exactProduct units) 1 := by
  have scaled : units * (10 ^ 6 * unitsPerOne) = exactProduct units * unitsPerOne :=
    (Nat.mul_assoc ..).symm
  rw [million_eq, Double.mul, Bool.xor_false, scaled, Double.ofUnits, Double.ofUnits]
  simp only [roundUnits_scaled _ unitsPerOne_pos]

/-- What the conversions make of a rounded product. -/
def converted (negative : Bool) (rounded : Nat) : Nat :=
  if 2 ^ 63 ≤ nearestOnes rounded then 2 ^ 63
  else if negative ∧ nearestOnes rounded ≠ 0 then 2 ^ 64 - nearestOnes rounded
  else nearestOnes rounded

theorem le_nearestOnes {number magnitude : Nat} (large : number * unitsPerOne ≤ magnitude) :
    number ≤ nearestOnes magnitude := by
  rw [nearestOnes, Nat.le_div_iff_mul_le (Nat.mul_pos Nat.zero_lt_two unitsPerOne_pos)]
  have scaled : number * (2 * unitsPerOne) = 2 * (number * unitsPerOne) := by ring
  omega

theorem llround_finite (negative : Bool) (units : Nat) (valid : IsMagnitude units) :
    (Double.finite negative units valid).llround.toUInt64.toNat = converted negative units := by
  have ones : (2 * units + unitsPerOne) / (2 * unitsPerOne) = nearestOnes units := rfl
  simp only [Double.llround, ones, converted]
  generalize nearestOnes units = number
  cases negative with
  | false =>
      simp only [Bool.false_eq_true, if_false, false_and]
      by_cases large : 2 ^ 63 ≤ number
      · rw [if_pos large, if_neg (by omega)]
        rfl
      · rw [if_neg large, if_pos (by omega), toUInt64_ofInt (by omega) (by omega)]
        omega
  | true =>
      simp only [if_true, true_and]
      by_cases inRange : number ≤ 2 ^ 63
      · rw [if_pos (by omega), toUInt64_ofInt (by omega) (by omega)]
        split_ifs <;> omega
      · rw [if_neg (by omega), if_pos (by omega)]
        rfl

theorem llround_ofUnits (negative : Bool) (product : Nat) :
    (Double.ofUnits negative product 1).llround.toUInt64.toNat =
      converted negative (roundUnits product 1) := by
  unfold Double.ofUnits
  split
  · exact llround_finite negative _ _
  · next overflow =>
      have large : 2 ^ 63 ≤ nearestOnes (roundUnits product 1) :=
        le_nearestOnes (Nat.le_trans scaledOne_le_maxUnits (Nat.le_of_not_le overflow))
      rw [converted, if_pos large]
      rfl

theorem nearestOnes_lt {number magnitude : Nat}
    (small : 2 * magnitude + unitsPerOne < 2 * (number * unitsPerOne)) :
    nearestOnes magnitude < number := by
  rw [nearestOnes, Nat.div_lt_iff_lt_mul (Nat.mul_pos Nat.zero_lt_two unitsPerOne_pos)]
  have scaled : number * (2 * unitsPerOne) = 2 * (number * unitsPerOne) := by ring
  omega

theorem roundUnits_le (magnitude : Nat) : roundUnits magnitude 1 ≤ magnitude + spacing magnitude := by
  have split := Nat.div_add_mod magnitude (spacing magnitude)
  have count : roundHalfEven magnitude (spacing magnitude) ≤ magnitude / spacing magnitude + 1 := by
    obtain ⟨down, -⟩ | ⟨up, -⟩ := roundHalfEven_cases magnitude (spacing magnitude)
    · omega
    · omega
  have scaled := Nat.mul_le_mul_left (spacing magnitude) count
  rw [Nat.mul_add, Nat.mul_one] at scaled
  rw [roundUnits_eq, ← spacing, Nat.mul_comm]
  omega

/-! ## Amounts that are not negative -/

theorem converted_small {product : Nat} (small : product < 2 ^ 52 * unitsPerOne) :
    converted false (roundUnits product 1) = nearestOnes (roundUnits product 1) := by
  obtain ⟨halves, some, ones⟩ := unitsPerOne_eq_double small
  have short : spacing product ≤ spacing product * halves := Nat.le_mul_of_pos_right _ some
  have rounded := roundUnits_le product
  have below : nearestOnes (roundUnits product 1) < 2 ^ 63 := nearestOnes_lt (by omega)
  rw [converted, if_neg (Nat.not_le.mpr below), if_neg (by simp)]

/-- The number out of range that `llround` falls back to is a multiple of the spacing near it. -/
theorem spacing_dvd_limit {product : Nat} (bounded : 2 * product ≤ (2 ^ 64 + 1) * unitsPerOne) :
    spacing product ∣ 2 ^ 63 * unitsPerOne := by
  have positive := unitsPerOne_pos
  have small : product < 2 ^ 64 * unitsPerOne := by omega
  obtain ⟨places, -, ones⟩ := unitsPerOne_eq
  rw [ones] at small ⊢
  rw [spacing, ← Nat.pow_add]
  apply Nat.pow_dvd_pow
  by_cases zero : product = 0
  · simp [zero, excessBits]
  · have log := log2_lt_of_scaled zero small
    unfold excessBits
    omega

theorem isNearest_converted_large {product : Nat} (large : 2 ^ 52 * unitsPerOne ≤ product) :
    IsNearest unitsPerOne (converted false (roundUnits product 1)) product ↔
      NearMultiple unitsPerOne (spacing product) product ∧
        2 * product ≤ (2 ^ 64 + 1) * unitsPerOne := by
  have ordinary := nearestOnes_large large
  obtain ⟨factor, some, multiple⟩ := spacing_eq_multiple large
  have long : unitsPerOne ≤ spacing product := multiple ▸ Nat.le_mul_of_pos_right _ some
  by_cases high : 2 ^ 63 ≤ nearestOnes (roundUnits product 1)
  · rw [converted, if_pos high]
    constructor
    · intro nearest
      have bounded : 2 * product ≤ (2 ^ 64 + 1) * unitsPerOne := by
        have upper := nearest.2
        omega
      exact ⟨nearMultiple_of_isNearest (spacing_dvd_limit bounded) long unitsPerOne_pos nearest,
        bounded⟩
    · rintro ⟨near, bounded⟩
      have nearest := ordinary.mpr near
      have scaled := Nat.mul_le_mul_right unitsPerOne high
      unfold IsNearest at nearest ⊢
      omega
  · rw [converted, if_neg high, if_neg (by simp), ordinary]
    constructor
    · intro near
      have nearest := (ordinary.mpr near).2
      have scaled := Nat.mul_le_mul_right unitsPerOne (Nat.le_of_lt (Nat.lt_of_not_le high))
      exact ⟨near, by omega⟩
    · intro both
      exact both.1

/-! ## Negative amounts -/

theorem converted_eq_zero_iff (product : Nat) :
    converted true product = 0 ↔ nearestOnes product = 0 := by
  unfold converted
  split_ifs with large small
  · have nonzero : nearestOnes product ≠ 0 := by omega
    exact iff_of_false (by decide) nonzero
  · exact iff_of_false (by omega) small.2
  · rfl

/-- Below a half, the half is an even multiple of the spacing. -/
theorem half_spacings_even {magnitude : Nat} (less : 2 * magnitude < unitsPerOne) :
    unitsPerOne / 2 / spacing magnitude % 2 = 0 := by
  obtain ⟨places, count, ones⟩ := unitsPerOne_eq
  have exponent : excessBits magnitude + 2 ≤ places := by
    by_cases zero : magnitude = 0
    · simp [zero, excessBits, count]
    · have small : magnitude < 2 ^ 0 * 2 ^ places := by omega
      have log := log2_lt_of_scaled zero small
      unfold excessBits
      omega
  have multiple : unitsPerOne = 2 * (spacing magnitude * (2 * 2 ^ (places - 2 - excessBits magnitude))) := by
    rw [ones, spacing, ← Nat.pow_succ', ← Nat.pow_add, ← Nat.pow_succ']
    exact congrArg (2 ^ ·) (by omega)
  rw [multiple, Nat.mul_div_cancel_left _ Nat.zero_lt_two,
    Nat.mul_div_cancel_left _ (spacing_pos magnitude), Nat.mul_mod_right]

theorem roundUnits_half {magnitude : Nat} (half : 2 * magnitude = unitsPerOne) :
    roundUnits magnitude 1 = magnitude := by
  obtain ⟨places, count, ones⟩ := unitsPerOne_eq
  have exponents : places = places - 1 + 1 := by omega
  have power : magnitude = 2 ^ (places - 1) := by
    rw [ones, exponents, Nat.pow_succ'] at half
    exact Nat.eq_of_mul_eq_mul_left Nat.zero_lt_two half
  apply roundUnits_of_hasPrecision
  rw [HasPrecision, excessOver, power, Nat.log2_two_pow]
  exact Nat.pow_dvd_pow 2 (by omega)

/-- Only what rounds to zero is emitted for a negative amount without a wrap. -/
theorem negative_iff (product : Nat) :
    2 * (converted true (roundUnits product 1) * unitsPerOne) + 2 * product ≤ unitsPerOne ↔
      2 * product + spacing product < unitsPerOne := by
  have positive := unitsPerOne_pos
  constructor
  · intro nearest
    have zero : converted true (roundUnits product 1) = 0 := by
      by_contra nonzero
      have scaled := Nat.mul_le_mul_right unitsPerOne (Nat.pos_of_ne_zero nonzero)
      omega
    rw [zero] at nearest
    have small : product < 2 ^ 52 * unitsPerOne := by omega
    have noOnes := (converted_eq_zero_iff _).mp zero
    have below := (nearestOnes_small small).mp (by rw [noOnes]; unfold IsNearest; omega)
    have fraction : product % unitsPerOne = product := Nat.mod_eq_of_lt (by omega)
    unfold RoundsUpToHalf at below
    rw [fraction] at below
    rcases Nat.lt_or_ge (2 * product) unitsPerOne with less | half
    · have even := half_spacings_even less
      omega
    · have rounded := roundUnits_half (show 2 * product = unitsPerOne by omega)
      rw [rounded, nearestOnes, show 2 * product = unitsPerOne by omega, ← Nat.two_mul,
        Nat.div_self (by omega)] at noOnes
      cases noOnes
  · intro below
    have small : product < 2 ^ 52 * unitsPerOne := by omega
    have fraction : product % unitsPerOne = product := Nat.mod_eq_of_lt (by omega)
    have nearest := (nearestOnes_small small).mpr (by
      unfold RoundsUpToHalf
      rw [fraction]
      omega)
    have noOnes : nearestOnes (roundUnits product 1) = 0 := by
      by_contra nonzero
      have scaled := Nat.mul_le_mul_right unitsPerOne (Nat.pos_of_ne_zero nonzero)
      have upper := nearest.1
      omega
    rw [(converted_eq_zero_iff _).mpr noOnes]
    omega

/-! ## The builders -/

/-- The conversions keep the amount: a negative one is less than half a raw unit, by more
than half the spacing of the doubles at the product; a product below `2 ^ 52` is not so
close below a half that it is rounded up to it; a larger one is within half a raw unit of a
`double` and at most half a raw unit above `2 ^ 63`. -/
def ScalesRight : Double → Prop
  | .finite negative units _ =>
      let product := exactProduct units
      if negative then 2 * product + spacing product < unitsPerOne
      else if product < 2 ^ 52 * unitsPerOne then
        ¬ RoundsUpToHalf unitsPerOne (spacing product) product
      else
        NearMultiple unitsPerOne (spacing product) product ∧
          2 * product ≤ (2 ^ 64 + 1) * unitsPerOne
  | .infinity _ | .nan => False

/-- The number is nearest to the amount in raw units. -/
def IsNearestRaw (emitted : UInt64) (usd : Double) : Prop :=
  ∃ amount, usd.exact = some amount ∧ |(emitted.toNat : ℚ) - amount * 10 ^ 6| ≤ 1 / 2

/-- The member of the built action is a number nearest to the amount in raw units. -/
def EmitsNearest (built : Json) (key : String) (usd : Double) : Prop :=
  ∃ action emitted, built.member? "action" = some action ∧
    action.member? key = some (.unsigned emitted) ∧ IsNearestRaw emitted usd

theorem isNearestRaw_finite_iff (emitted : UInt64) (negative : Bool) (units : Nat)
    (valid : IsMagnitude units) :
    IsNearestRaw emitted (.finite negative units valid) ↔
      if negative then
        2 * (emitted.toNat * unitsPerOne) + 2 * exactProduct units ≤ unitsPerOne
      else IsNearest unitsPerOne emitted.toNat (exactProduct units) := by
  have amount : IsNearestRaw emitted (.finite negative units valid) ↔
      |(emitted.toNat : ℚ) - Double.signedUnits negative units / unitsPerOne * 10 ^ 6| ≤ 1 / 2 := by
    constructor
    · rintro ⟨amount, exact, near⟩
      obtain rfl := Option.some.inj exact
      exact near
    · intro near
      exact ⟨_, rfl, near⟩
  rw [amount]
  cases negative with
  | true =>
      have added : (emitted.toNat : ℚ) - Double.signedUnits true units / unitsPerOne * 10 ^ 6 =
          emitted.toNat + exactProduct units / unitsPerOne := by
        rw [Double.signedUnits, if_pos rfl, exactProduct]
        push_cast
        ring
      rw [added, abs_add_div_iff unitsPerOne_pos, if_pos rfl]
  | false =>
      have subtracted : (emitted.toNat : ℚ) - Double.signedUnits false units / unitsPerOne * 10 ^ 6 =
          emitted.toNat - exactProduct units / unitsPerOne := by
        rw [Double.signedUnits, if_neg Bool.false_ne_true, exactProduct]
        push_cast
        ring
      rw [subtracted, abs_sub_div_iff unitsPerOne_pos, if_neg Bool.false_ne_true]

theorem isNearestRaw_iff (usd : Double) :
    IsNearestRaw (usd.mul million).llround.toUInt64 usd ↔ ScalesRight usd := by
  cases usd with
  | infinity negative => exact iff_of_false (fun ⟨_, absurd, _⟩ => by cases absurd) id
  | nan => exact iff_of_false (fun ⟨_, absurd, _⟩ => by cases absurd) id
  | finite negative units valid =>
      rw [isNearestRaw_finite_iff, mul_million, llround_ofUnits]
      cases negative with
      | true => exact negative_iff (exactProduct units)
      | false =>
          simp only [Bool.false_eq_true, if_false, ScalesRight]
          by_cases small : exactProduct units < 2 ^ 52 * unitsPerOne
          · rw [if_pos small, converted_small small]
            exact nearestOnes_small small
          · rw [if_neg small]
            exact isNearest_converted_large (Nat.le_of_not_lt small)

/-- Each of the three builders emits a number nearest to the requested amount exactly when
the conversions keep the amount. -/
theorem usd_amounts_nearest_iff (transfer : VaultTransferRequest)
    (subTransfer : SubAccountTransferRequest) (creation : CreateVaultRequest) :
    (EmitsNearest (vaultTransfer transfer) "usd" transfer.usd ↔ ScalesRight transfer.usd) ∧
    (EmitsNearest (subAccountTransfer subTransfer) "usd" subTransfer.usd ↔
      ScalesRight subTransfer.usd) ∧
    (EmitsNearest (createVault creation) "initialUsd" creation.initialUsd ↔
      ScalesRight creation.initialUsd) := by
  have emits {built : Json} {key : String} {action : Json} {usd : Double}
      (member : built.member? "action" = some action)
      (number : action.member? key = some (rawUsd usd)) :
      EmitsNearest built key usd ↔ ScalesRight usd := by
    rw [← isNearestRaw_iff]
    constructor
    · rintro ⟨found, emitted, taken, read, near⟩
      rw [member] at taken
      obtain rfl := Option.some.inj taken
      rw [number] at read
      obtain rfl := Json.unsigned.inj (Option.some.inj read)
      exact near
    · intro near
      exact ⟨action, _, member, number, near⟩
  refine ⟨?_, ?_, ?_⟩
  · exact emits rfl rfl
  · exact emits rfl rfl
  · exact emits rfl rfl

theorem five_isMagnitude : IsMagnitude (5 * unitsPerOne) where
  significand := by
    obtain ⟨places, -, ones⟩ := unitsPerOne_eq
    exact ⟨5, places, by decide, by rw [ones]⟩
  bounded := Nat.le_trans (Nat.mul_le_mul_right _ (by decide)) scaledOne_le_maxUnits

/-- A transfer of minus five dollars. -/
def negativeTransfer : VaultTransferRequest where
  vaultAddress := utf8 "0x1111111111111111111111111111111111111111"
  isDeposit := true
  usd := .finite true (5 * unitsPerOne) five_isMagnitude

/-- Minus five dollars are sent as more than eighteen trillion. -/
theorem negativeTransfer_wraps :
    rawUsd negativeTransfer.usd = .unsigned 18446744073704551616 ∧
      ¬ EmitsNearest (vaultTransfer negativeTransfer) "usd" negativeTransfer.usd := by
  have wrapped : rawUsd negativeTransfer.usd = .unsigned 18446744073704551616 :=
    congrArg Json.unsigned (by decide +kernel)
  refine ⟨wrapped, ?_⟩
  rintro ⟨action, emitted, taken, read, near⟩
  obtain rfl := Option.some.inj taken
  have number : emitted = 18446744073704551616 := by
    rw [show Json.member? "usd" _ = some (rawUsd negativeTransfer.usd) from rfl, wrapped] at read
    exact (Json.unsigned.inj (Option.some.inj read)).symm
  rw [number, negativeTransfer, isNearestRaw_finite_iff, if_pos rfl] at near
  revert near
  decide +kernel

end HyperliquidSdk.Messages
