import HyperliquidSdk.Foundation.DecimalText
import HyperliquidSdk.Messages.ExchangeRequestBuilder
import Mathlib.Algebra.Order.Field.Basic
import Mathlib.Algebra.Order.Field.Rat

/-!
# The text of a price

What `floatToWire` leaves of a number that it accepts.
-/

set_option autoImplicit false

namespace HyperliquidSdk.Messages

open Foundation

/-! ## The buffer -/

/-- The buffer holds the digits of a number, with the point unless it was cut before that. -/
structure Buffered (number : PlainDecimal) (buffer : Bytes) : Prop where
  leading : NoLeadingZero number.whole
  whole_short : number.whole.length ≤ 63
  decimals_short : number.decimals.length ≤ 8
  shape : buffer = number.pointedText ∨ buffer = number.text ∧ number.decimals = []

theorem signText_length (negative : Bool) : (signText negative).length ≤ 1 := by
  cases negative with
  | true => exact Nat.le_refl 1
  | false => exact Nat.zero_le 1

theorem buffered_fixedText (negative : Bool) {units : Nat} (valid : IsMagnitude units) :
    ∃ number : PlainDecimal, number.negative = negative ∧
      Buffered number ((fixedText 8 (.finite negative units valid)).take 63) := by
  have printed (scaled : Nat) (digits : scaled = roundHalfEven (units * 10 ^ 8) unitsPerOne) :
      fixedText 8 (.finite negative units valid) =
        signText negative ++ (decimalDigits (scaled / 10 ^ 8) ++
          46 :: padLeft 8 48 (decimalDigits (scaled % 10 ^ 8))) := by
    rw [digits]
    simp only [fixedText, signText, List.append_assoc]
    rfl
  rw [printed _ rfl]
  generalize roundHalfEven (units * 10 ^ 8) unitsPerOne = scaled
  have wholeDigits := decimalDigits_digits (scaled / 10 ^ 8)
  have wholeNonempty := decimalDigits_ne_nil (scaled / 10 ^ 8)
  have leading := decimalDigits_noLeadingZero (scaled / 10 ^ 8)
  have decimalsDigits := padLeft_digits 8 (decimalDigits_digits (scaled % 10 ^ 8))
  have decimalsLength := padLeft_length 48 (decimalDigits_length_le (by decide : 0 < 8)
    (Nat.mod_lt scaled (Nat.pow_pos (by decide))))
  generalize decimalDigits (scaled / 10 ^ 8) = whole at *
  generalize padLeft 8 48 (decimalDigits (scaled % 10 ^ 8)) = decimals at *
  have signLength := signText_length negative
  rw [List.take_append, List.take_of_length_le (by omega), List.take_append]
  by_cases cut : 63 - (signText negative).length ≤ whole.length
  · -- not even the point is left
    refine ⟨⟨negative, whole.take (63 - (signText negative).length), [], wholeDigits.take _, ?_,
      by simp [AllDigits]⟩, rfl, leading.take _, ?_, by simp, .inr ⟨?_, rfl⟩⟩
    · rw [ne_eq, List.take_eq_nil_iff, not_or]
      exact ⟨by omega, wholeNonempty⟩
    · rw [List.length_take]
      omega
    · rw [Nat.sub_eq_zero_of_le cut, List.take_zero, List.append_nil]
      rfl
  · obtain ⟨room, isRoom⟩ : ∃ room, 63 - (signText negative).length - whole.length = room + 1 :=
      ⟨63 - (signText negative).length - whole.length - 1, by omega⟩
    refine ⟨⟨negative, whole, decimals.take room, wholeDigits, wholeNonempty,
      decimalsDigits.take _⟩, rfl, leading, by dsimp only; omega, ?_, .inl ?_⟩
    · rw [List.length_take]
      omega
    · rw [isRoom, List.take_succ_cons, List.take_of_length_le (by omega : whole.length ≤ _)]
      rfl

theorem Buffered.stod {number : PlainDecimal} {buffer : Bytes} (buffered : Buffered number buffer) :
    stod buffer = stod number.text := by
  rcases buffered.shape with rfl | ⟨rfl, -⟩
  · exact number.stod_pointedText
  · rfl

/-! ## Zeros after the point -/

theorem point_not_mem {text : Bytes} (digits : AllDigits text) : (46 : UInt8) ∉ text := by
  intro present
  cases digits 46 present

theorem point_not_mem_signText (negative : Bool) : (46 : UInt8) ∉ signText negative := by
  cases negative with
  | true => decide
  | false => decide

theorem normalizeDecimal_pointed (start : Bytes) {kept : Bytes} (keptDigits : AllDigits kept)
    (notZero : kept.getLast? ≠ some 48) (count : Nat) :
    normalizeDecimal (start ++ 46 :: (kept ++ List.replicate count 48)) =
      if kept = [] then start else start ++ 46 :: kept := by
  have reversed : (start ++ 46 :: (kept ++ List.replicate count 48)).reverse =
      List.replicate count 48 ++ (kept.reverse ++ 46 :: start.reverse) := by
    simp
  unfold normalizeDecimal
  rw [if_pos (by simp), reversed]
  cases isKept : kept.reverse with
  | nil =>
      rw [if_pos (List.reverse_eq_nil_iff.mp isKept), List.nil_append,
        dropWhile_zeros _ (by simp)]
      exact start.reverse_reverse
  | cons last others =>
      have present : last ∈ kept := by
        rw [← List.mem_reverse, isKept]
        exact List.mem_cons_self
      have isLast : kept.getLast? = some last := by rw [← List.head?_reverse, isKept]; rfl
      rw [if_neg (by rintro rfl; cases isKept), dropWhile_zeros]
      · have notPoint : last ≠ 46 := by
          rintro rfl
          exact point_not_mem keptDigits present
        rw [List.cons_append]
        split
        · next same => exact absurd (List.cons.inj same).1 notPoint
        · rw [← List.cons_append, ← isKept]
          simp
      · rw [List.cons_append, List.head?_cons, ← isLast]
        exact notZero

/-- Stripping the zeros changes neither the sign nor the value. -/
theorem Buffered.normalize {number : PlainDecimal} {buffer : Bytes}
    (buffered : Buffered number buffer) :
    ∃ stripped : PlainDecimal, stripped.negative = number.negative ∧
      stripped.whole = number.whole ∧ stripped.decimals.length ≤ 8 ∧
      stripped.decimals.getLast? ≠ some 48 ∧ normalizeDecimal buffer = stripped.text ∧
      Foundation.stod buffer = Foundation.stod stripped.text := by
  rw [buffered.stod]
  rcases buffered.shape with pointed | ⟨whole, none⟩
  · obtain ⟨kept, count, decimals, notZero⟩ := exists_trailing_zeros number.decimals
    have keptDigits : AllDigits kept := fun byte present =>
      number.decimals_digits byte (decimals ▸ List.mem_append_left _ present)
    have short := buffered.decimals_short
    rw [decimals, List.length_append] at short
    refine ⟨{ number with decimals := kept, decimals_digits := keptDigits }, rfl, rfl, by
      dsimp only; omega, notZero, ?_, number.stod_trailing_zeros kept count decimals keptDigits⟩
    rw [pointed, PlainDecimal.pointedText, decimals, ← List.append_assoc,
      normalizeDecimal_pointed _ keptDigits notZero]
    simp only [PlainDecimal.text, PlainDecimal.magnitude]
    split
    · rfl
    · rw [List.append_assoc]
  · refine ⟨number, rfl, rfl, buffered.decimals_short, by rw [none]; simp, ?_, rfl⟩
    have noPoint : (46 : UInt8) ∉ buffer := by
      rw [whole, PlainDecimal.text, PlainDecimal.magnitude, if_pos none, List.mem_append, not_or]
      exact ⟨point_not_mem_signText _, point_not_mem number.whole_digits⟩
    rw [normalizeDecimal, if_neg noPoint, whole]

/-! ## The check -/

theorem floatToWire_of_stod {x read : Double}
    (parsed : stod ((fixedText 8 x).take 63) = .ok read) :
    floatToWire x =
      if (read.sub x).abs.ge wireTolerance then
        .error (.invalidArgument (utf8 "floatToWire causes rounding: " ++ fixedText 6 x))
      else .ok (normalizeDecimal ((fixedText 8 x).take 63)) := by
  simp only [floatToWire, parsed, Except.mapError, bind, Except.bind]
  split
  · rfl
  · rfl

theorem isMagnitude_zero : IsMagnitude 0 := ⟨⟨0, 0, Nat.zero_le _, rfl⟩, Nat.zero_le _⟩

theorem stod_negative_zero : stod (utf8 "-0") = .ok (.finite true 0 isMagnitude_zero) := by
  decide +kernel

/-- What passes the check is nearer than the tolerance. -/
theorem difference_lt {units : Nat}
    (passes : (Double.ofUnits false units 1).ge wireTolerance = false) :
    units * 10 ^ 12 < unitsPerOne := by
  by_contra large
  have rejected := @Double.ge_ofUnits units unitsPerOne 1 (10 ^ 12) Nat.one_pos
    (Nat.pow_pos (by decide)) (by omega)
  rw [← wireTolerance, passes] at rejected
  cases rejected

theorem abs_exact_sub_lt {first second : Int}
    (near : (first - second).natAbs * 10 ^ 12 < unitsPerOne) :
    |(first : ℚ) / unitsPerOne - second / unitsPerOne| < 1 / 10 ^ 12 := by
  have positive : (0 : ℚ) < unitsPerOne := Nat.cast_pos.mpr unitsPerOne_pos
  rw [← sub_div, abs_div, abs_of_pos positive, div_lt_div_iff₀ positive (by norm_num), one_mul]
  have cast : |(first : ℚ) - second| = (first - second).natAbs := by
    rw [← Int.cast_sub, ← Int.cast_abs, Int.abs_eq_natAbs, Int.cast_natCast]
  rw [cast]
  exact_mod_cast near

/-! ## Canonical decimals -/

/-- A rejection, or a canonical decimal that is near the number when it is read in this way. -/
def EmitsCanonical (Reads : CanonicalDecimal → ℚ → Prop) (x : Double) : Prop :=
  (∃ message, floatToWire x = .error (.invalidArgument message)) ∨
    ∃ number : CanonicalDecimal, floatToWire x = .ok number.text ∧ number.decimals.length ≤ 8 ∧
      ∃ value read, x.exact = some value ∧ Reads number read ∧ |read - value| < 1 / 10 ^ 12

theorem EmitsCanonical.ok {Reads : CanonicalDecimal → ℚ → Prop} {x : Double} {wire : Bytes}
    (emits : EmitsCanonical Reads x) (accepted : floatToWire x = .ok wire) :
    ∃ number : CanonicalDecimal, wire = number.text ∧ number.decimals.length ≤ 8 ∧
      ∃ value read, x.exact = some value ∧ Reads number read ∧ |read - value| < 1 / 10 ^ 12 := by
  rcases emits with ⟨message, rejected⟩ | ⟨number, emitted, properties⟩
  · rw [rejected] at accepted
    cases accepted
  · rw [emitted] at accepted
    exact ⟨number, (Except.ok.inj accepted).symm, properties⟩

/-- Read as the number that it names. -/
def Names (number : CanonicalDecimal) (read : ℚ) : Prop := read = number.value

/-- Read back as a `double`. -/
def ReadsBack (number : CanonicalDecimal) (read : ℚ) : Prop :=
  ∃ double, stod number.text = .ok double ∧ double.exact = some read

/-- The text of a negative zero passes the check only for a number below the tolerance. -/
theorem not_negative_zero {number : PlainDecimal} {units readUnits : Nat}
    {readValid : IsMagnitude readUnits} (valid : IsMagnitude units)
    (notTiny : number.negative = true →
      (Double.finite false units valid).ge wireTolerance = true)
    (parsed : stod number.text = .ok (.finite number.negative readUnits readValid))
    (passes : (Double.ofUnits false (Double.signedUnits number.negative readUnits -
      Double.signedUnits number.negative units).natAbs 1).ge wireTolerance = false) :
    number.text ≠ utf8 "-0" := by
  intro isZero
  rw [isZero, stod_negative_zero] at parsed
  obtain ⟨negative, rfl⟩ := Double.finite.inj (Except.ok.inj parsed)
  rw [← negative] at passes notTiny
  have difference : (Double.signedUnits true 0 - Double.signedUnits true units).natAbs = units := by
    simp [Double.signedUnits]
  rw [difference, Double.ofUnits_self _ valid, notTiny rfl] at passes
  cases passes

theorem floatToWire_canonical (negative : Bool) (units : Nat) (valid : IsMagnitude units)
    (notTiny : negative = true → (Double.finite false units valid).ge wireTolerance = true) :
    EmitsCanonical ReadsBack (.finite negative units valid) := by
  obtain ⟨number, rfl, buffered⟩ := buffered_fixedText negative valid
  obtain ⟨stripped, sign, whole, short, notZero, wire, same⟩ := buffered.normalize
  have leading : NoLeadingZero stripped.whole := whole ▸ buffered.leading
  have wholeShort : stripped.whole.length ≤ 200 := by
    have := buffered.whole_short
    rw [whole]
    omega
  obtain ⟨readUnits, readValid, parsed⟩ := stripped.stod_text_ok wholeShort (by omega)
  have checked := floatToWire_of_stod (same.trans parsed)
  cases check : (Double.sub (.finite stripped.negative readUnits readValid)
      (.finite number.negative units valid)).abs.ge wireTolerance with
  | true => exact .inl ⟨_, checked.trans (if_pos check)⟩
  | false =>
      rw [check, if_neg (by decide), wire] at checked
      rw [Double.abs_sub_finite] at check
      have notNegativeZero := not_negative_zero valid (sign ▸ notTiny) parsed (sign ▸ check)
      refine .inr ⟨⟨stripped, leading, notZero, notNegativeZero⟩, checked, short, _, _, rfl,
        ⟨_, parsed, rfl⟩, ?_⟩
      exact abs_exact_sub_lt (difference_lt check)

theorem isMagnitude_one : IsMagnitude unitsPerOne where
  significand := by
    obtain ⟨places, -, ones⟩ := unitsPerOne_eq
    exact ⟨1, places, by decide, by rw [ones, Nat.one_mul]⟩
  bounded := by decide +kernel

theorem floatToWire_canonical_minus_one :
    EmitsCanonical ReadsBack (.finite true unitsPerOne isMagnitude_one) :=
  floatToWire_canonical true unitsPerOne isMagnitude_one (fun _ => by decide +kernel)

/-- The `double` written `61000.1`. -/
def farFromDecimal : Double := .ofUnits false (610001 * unitsPerOne) 10

/-- The check is on the double read back, so the decimal itself may be further away, and what
is not a number passes it like a negative zero does. -/
theorem floatToWire_not_exact :
    ¬ EmitsCanonical Names farFromDecimal ∧ ¬ EmitsCanonical Names .nan ∧
      ¬ EmitsCanonical Names (.infinity false) ∧
      ¬ EmitsCanonical Names (.finite true 0 isMagnitude_zero) := by
  refine ⟨?decimal, ?nan, ?infinity, ?negativeZero⟩
  case decimal =>
    have wire : floatToWire farFromDecimal = .ok (utf8 "61000.1") := by decide +kernel
    have far : (farFromDecimal.exact.map fun value =>
        decide (|(Double.signedUnits false 610001 : ℚ) / 10 ^ 1 - value| < 1 / 10 ^ 12)) =
        some false := by
      decide +kernel
    intro emits
    obtain ⟨number, emitted, -, value, read, exact, rfl, near⟩ := emits.ok wire
    have sign : readSign number.text = (false, utf8 "61000.1") := by rw [← emitted]; decide
    have mantissa : readMantissa 10 (utf8 "61000.1") = some (610001, 1, []) := by decide
    rw [number.value_eq sign mantissa] at near
    rw [exact] at far
    exact of_decide_eq_false (Option.some.inj far) near
  case nan =>
    have wire : floatToWire .nan = .ok (utf8 "nan") := by decide +kernel
    intro emits
    obtain ⟨-, -, -, value, -, exact, -⟩ := emits.ok wire
    cases exact
  case infinity =>
    have wire : floatToWire (.infinity false) = .ok (utf8 "inf") := by decide +kernel
    intro emits
    obtain ⟨-, -, -, value, -, exact, -⟩ := emits.ok wire
    cases exact
  case negativeZero =>
    have wire : floatToWire (.finite true 0 isMagnitude_zero) = .ok (utf8 "-0") := by
      decide +kernel
    intro emits
    obtain ⟨number, emitted, -⟩ := emits.ok wire
    exact number.no_negative_zero emitted.symm

end HyperliquidSdk.Messages
