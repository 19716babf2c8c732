import HyperliquidSdk.Foundation.Numeral
import HyperliquidSdk.Foundation.OnDemand
import HyperliquidSdk.Foundation.Significand
import Mathlib.Data.List.Induction
import Mathlib.Data.List.TakeWhile

/-!
# Decimal numbers as text

Digits with a sign before them and a point among them, and what the conversions of the
library make of such a text.
-/

set_option autoImplicit false

namespace Foundation

/-! ## Digits -/

def digitOf (byte : UInt8) : Nat := byte.toNat - 48

def AllDigits (text : Bytes) : Prop := ∀ byte ∈ text, isDigit byte = true

instance (text : Bytes) : Decidable (AllDigits text) :=
  inferInstanceAs (Decidable (∀ byte ∈ text, isDigit byte = true))

def digitsValue (digits : Bytes) : Nat := numeral 10 (digits.map digitOf)

theorem isDigit_iff (byte : UInt8) : isDigit byte = true ↔ 48 ≤ byte.toNat ∧ byte.toNat ≤ 57 := by
  simp [isDigit, UInt8.le_iff_toNat_le]

theorem digit?_of_isDigit {byte : UInt8} (digit : isDigit byte = true) :
    digit? 10 byte = some (digitOf byte) := by
  have small := (isDigit_iff byte).mp digit
  unfold digit? hexDigit?
  rw [if_pos digit, Option.filter_some, if_pos]
  · rfl
  · simp only [decide_eq_true_eq]
    omega

theorem digit?_of_not_isDigit {byte : UInt8} (other : isDigit byte = false) :
    digit? 10 byte = none := by
  unfold digit? hexDigit?
  rw [if_neg (by simp [other])]
  split
  · next letter =>
      have large : 97 ≤ byte.toNat := by
        simp [UInt8.le_iff_toNat_le] at letter
        exact letter.1
      simp only [Option.filter_some, decide_eq_true_eq]
      exact if_neg (by omega)
  · split
    · next letter =>
        have large : 65 ≤ byte.toNat := by
          simp [UInt8.le_iff_toNat_le] at letter
          exact letter.1
        simp only [Option.filter_some, decide_eq_true_eq]
        exact if_neg (by omega)
    · rfl

theorem digitsValue_cons (byte : UInt8) (digits : Bytes) :
    digitsValue (byte :: digits) = digitOf byte * 10 ^ digits.length + digitsValue digits := by
  unfold digitsValue
  rw [List.map_cons, numeral_cons, List.length_map]

theorem digitsValue_append (leading digits : Bytes) :
    digitsValue (leading ++ digits) =
      digitsValue leading * 10 ^ digits.length + digitsValue digits := by
  unfold digitsValue
  rw [List.map_append, numeral_append, List.length_map]

theorem digitsValue_lt {digits : Bytes} (allDigits : AllDigits digits) :
    digitsValue digits < 10 ^ digits.length := by
  unfold digitsValue
  rw [← List.length_map digitOf]
  refine numeral_lt (by decide) fun digit present => ?_
  obtain ⟨byte, isByte, rfl⟩ := List.mem_map.mp present
  have small := (isDigit_iff byte).mp (allDigits byte isByte)
  unfold digitOf
  omega

/-- The digits of a text are read up to the first byte that is none. -/
theorem readDigits_digits {digits rest : Bytes} (allDigits : AllDigits digits)
    (stop : ∀ byte ∈ rest.head?, isDigit byte = false) (value count : Nat) :
    readDigits 10 (digits ++ rest) value count =
      (value * 10 ^ digits.length + digitsValue digits, count + digits.length, rest) := by
  induction digits generalizing value count with
  | nil =>
      rw [List.nil_append, List.length_nil, Nat.pow_zero, Nat.mul_one]
      cases rest with
      | nil => rfl
      | cons byte rest =>
          have other := digit?_of_not_isDigit (stop byte rfl)
          simp only [readDigits, other]
          rfl
  | cons byte digits ih =>
      have all := List.forall_mem_cons.mp allDigits
      simp only [List.cons_append, readDigits, digit?_of_isDigit all.1]
      rw [ih all.2, digitsValue_cons, List.length_cons, Nat.pow_succ]
      congr 1
      · ring
      · congr 1
        omega

/-- No zero leads the digits, unless it is the only one. -/
def NoLeadingZero (digits : Bytes) : Prop := digits.head? = some 48 → digits = [48]

theorem NoLeadingZero.take {digits : Bytes} (leading : NoLeadingZero digits) (count : Nat) :
    NoLeadingZero (digits.take count) := by
  intro first
  cases count with
  | zero => cases first
  | succ count =>
      have only : digits = [48] := leading (by
        rw [List.head?_take, if_neg (Nat.succ_ne_zero count)] at first
        exact first)
      rw [only, List.take_succ_cons, List.take_nil]

theorem AllDigits.take {digits : Bytes} (allDigits : AllDigits digits) (count : Nat) :
    AllDigits (digits.take count) :=
  fun byte present => allDigits byte (List.mem_of_mem_take present)

/-! ### The digits of a number -/

theorem decimalDigits_digits (value : Nat) : AllDigits (decimalDigits value) := by
  intro byte present
  obtain ⟨digit, isDigit, rfl⟩ := List.mem_map.mp present
  have bounds := Nat.isDigit_of_mem_toDigits (by decide) (by decide) isDigit
  simp only [Char.isDigit, Bool.and_eq_true, decide_eq_true_eq, UInt32.le_iff_toNat_le, ge_iff_le]
    at bounds
  have lower : 48 ≤ digit.toNat := bounds.1
  have upper : digit.toNat ≤ 57 := bounds.2
  rw [isDigit_iff, UInt8.toNat_ofNat']
  omega

theorem decimalDigits_ne_nil (value : Nat) : decimalDigits value ≠ [] := by
  unfold decimalDigits
  rw [ne_eq, List.map_eq_nil_iff]
  exact Nat.toDigits_ne_nil

theorem decimalDigits_head {value : Nat} (positive : 0 < value) :
    (decimalDigits value).head? ≠ some 48 := by
  induction value using Nat.strongRecOn with
  | ind value ih =>
      unfold decimalDigits at *
      rw [Nat.toDigits_eq_if (by decide)]
      split
      · next small =>
          intro first
          have zero : (UInt8.ofNat value.digitChar.toNat).toNat = (48 : UInt8).toNat :=
            congrArg UInt8.toNat (Option.some.inj first)
          rw [Nat.toNat_digitChar_of_lt_ten small, UInt8.toNat_ofNat',
            show (48 : UInt8).toNat = 48 from rfl] at zero
          omega
      · next large =>
          rw [List.map_append, List.head?_append_of_ne_nil]
          · exact ih (value / 10) (by omega) (by omega)
          · rw [ne_eq, List.map_eq_nil_iff]
            exact Nat.toDigits_ne_nil

theorem decimalDigits_noLeadingZero (value : Nat) : NoLeadingZero (decimalDigits value) := by
  intro first
  rcases Nat.eq_zero_or_pos value with rfl | positive
  · rfl
  · exact absurd first (decimalDigits_head positive)

theorem padLeft_digits (width : Nat) {digits : Bytes} (allDigits : AllDigits digits) :
    AllDigits (padLeft width 48 digits) := by
  intro byte present
  rcases List.mem_append.mp present with filler | digit
  · obtain rfl := (List.mem_replicate.mp filler).2
    decide
  · exact allDigits byte digit

theorem padLeft_length {width : Nat} (filler : UInt8) {text : Bytes} (short : text.length ≤ width) :
    (padLeft width filler text).length = width := by
  unfold padLeft
  rw [List.length_append, List.length_replicate]
  omega

theorem decimalDigits_length_le {value width : Nat} (positive : 0 < width)
    (small : value < 10 ^ width) : (decimalDigits value).length ≤ width := by
  unfold decimalDigits
  rw [List.length_map]
  exact (Nat.length_toDigits_le_iff (by decide) positive).mpr small

/-! ### Zeros at the end -/

theorem digitsValue_zeros (digits : Bytes) (count : Nat) :
    digitsValue (digits ++ List.replicate count 48) = digitsValue digits * 10 ^ count := by
  rw [digitsValue_append, List.length_replicate]
  induction count with
  | zero => rfl
  | succ count ih =>
      rw [List.replicate_succ, digitsValue_cons, show digitOf 48 = 0 from rfl, Nat.zero_mul,
        Nat.zero_add]
      omega

theorem exists_trailing_zeros (digits : Bytes) :
    ∃ kept count, digits = kept ++ List.replicate count 48 ∧ kept.getLast? ≠ some 48 := by
  induction digits using List.reverseRecOn with
  | nil => exact ⟨[], 0, rfl, by simp⟩
  | append_singleton digits last ih =>
      by_cases zero : last = 48
      · obtain ⟨kept, count, rfl, notZero⟩ := ih
        refine ⟨kept, count + 1, ?_, notZero⟩
        rw [zero, List.append_assoc, ← List.replicate_succ']
      · refine ⟨digits ++ [last], 0, (List.append_nil _).symm, ?_⟩
        rw [List.getLast?_concat]
        exact fun same => zero (Option.some.inj same)

theorem dropWhile_zeros (count : Nat) {text : Bytes} (other : text.head? ≠ some 48) :
    (List.replicate count 48 ++ text).dropWhile (· = 48) = text := by
  induction count with
  | zero =>
      cases text with
      | nil => rfl
      | cons byte rest =>
          refine List.dropWhile_cons_of_neg ?_
          simpa using other
  | succ count ih =>
      rw [List.replicate_succ, List.cons_append, List.dropWhile_cons_of_pos (by decide), ih]

/-! ## Mantissas -/

theorem point_starts (decimals : Bytes) : ∀ byte ∈ ((46 : UInt8) :: decimals).head?, byte = 46 :=
  fun _ first => (Option.some.inj first).symm

theorem point_stops (decimals : Bytes) (byte : UInt8)
    (first : byte ∈ ((46 : UInt8) :: decimals).head?) : isDigit byte = false := by
  rw [point_starts decimals byte first]
  decide

theorem readMantissa_whole {whole : Bytes} (allDigits : AllDigits whole) (nonempty : whole ≠ []) :
    readMantissa 10 whole = some (digitsValue whole, 0, []) := by
  have read := @readDigits_digits whole [] allDigits (fun _ none => by cases none) 0 0
  rw [List.append_nil, Nat.zero_mul, Nat.zero_add, Nat.zero_add] at read
  have positive := List.length_pos_iff.mpr nonempty
  simp only [readMantissa, read]
  exact if_neg (by omega)

theorem readMantissa_pointed {whole decimals : Bytes} (wholeDigits : AllDigits whole)
    (nonempty : whole ≠ []) (decimalsDigits : AllDigits decimals) :
    readMantissa 10 (whole ++ 46 :: decimals) =
      some (digitsValue (whole ++ decimals), decimals.length, []) := by
  have read := readDigits_digits wholeDigits (point_stops decimals) 0 0
  have readDecimals := @readDigits_digits decimals [] decimalsDigits (fun _ none => by cases none)
    (digitsValue whole) 0
  rw [Nat.zero_mul, Nat.zero_add, Nat.zero_add] at read
  rw [List.append_nil, Nat.zero_add, ← digitsValue_append] at readDecimals
  have positive := List.length_pos_iff.mpr nonempty
  simp only [readMantissa, read, readDecimals]
  exact if_neg (by omega)

/-! ## Texts that start with a digit -/

/-- A digit, and no `x` after it. -/
def StartsWithDigit (text : Bytes) : Prop :=
  ∃ first rest, text = first :: rest ∧ isDigit first = true ∧
    ∀ second ∈ rest.head?, lowerCase second ≠ 120

theorem lowerCase_digit {byte : UInt8} (digit : isDigit byte = true) : lowerCase byte = byte := by
  have small := (isDigit_iff byte).mp digit
  unfold lowerCase
  rw [if_neg]
  simp only [Bool.and_eq_true, decide_eq_true_eq, UInt8.le_iff_toNat_le, not_and]
  intro large
  have : (65 : UInt8).toNat = 65 := rfl
  omega

theorem startsWithDigit_append {whole tail : Bytes} (wholeDigits : AllDigits whole)
    (nonempty : whole ≠ []) (pointed : ∀ byte ∈ tail.head?, byte = 46) :
    StartsWithDigit (whole ++ tail) := by
  obtain ⟨first, rest, rfl⟩ := List.exists_cons_of_ne_nil nonempty
  have digits := List.forall_mem_cons.mp wholeDigits
  refine ⟨first, rest ++ tail, rfl, digits.1, fun second isSecond => ?_⟩
  cases rest with
  | nil =>
      rw [pointed second isSecond]
      decide
  | cons next others =>
      obtain rfl := Option.some.inj isSecond
      have digit := digits.2 next List.mem_cons_self
      rw [lowerCase_digit digit]
      rintro rfl
      cases digit

/-- No word of letters starts with a digit. -/
theorem startsWith_digit {letter : UInt8} (word : Bytes) (isLetter : isDigit letter = false)
    {first : UInt8} (rest : Bytes) (digit : isDigit first = true) :
    startsWith (letter :: word) (first :: rest) = false := by
  unfold startsWith
  rw [decide_eq_false_iff_not, List.length_cons, List.take_succ_cons, List.map_cons,
    lowerCase_digit digit]
  intro same
  obtain rfl := (List.cons.inj same).1
  rw [digit] at isLetter
  cases isLetter

theorem startsWith_hexadecimal {text : Bytes} (starts : StartsWithDigit text) :
    startsWith (utf8 "0x") text = false := by
  obtain ⟨first, rest, rfl, digit, notX⟩ := starts
  unfold startsWith
  rw [decide_eq_false_iff_not]
  cases rest with
  | nil =>
      intro same
      cases (List.cons.inj same).2
  | cons second rest =>
      intro same
      have isX := (List.cons.inj (List.cons.inj same).2).1
      exact notX second rfl isX

/-- The sign of a text that is not written for positive numbers. -/
def signText (negative : Bool) : Bytes := if negative then [45] else []

theorem readSign_signText (negative : Bool) {text : Bytes} (starts : StartsWithDigit text) :
    readSign (signText negative ++ text) = (negative, text) := by
  obtain ⟨first, rest, rfl, digit, -⟩ := starts
  cases negative with
  | true => rfl
  | false =>
      rw [signText, if_neg (by decide), List.nil_append]
      unfold readSign
      split
      · next same =>
          obtain rfl := (List.cons.inj same).1
          cases digit
      · next same =>
          obtain rfl := (List.cons.inj same).1
          cases digit
      · rfl

/-- No blank is before the sign. -/
theorem dropWhile_isSpace_signed (negative : Bool) {text : Bytes} (starts : StartsWithDigit text) :
    (signText negative ++ text).dropWhile isSpace = signText negative ++ text := by
  obtain ⟨first, rest, rfl, digit, -⟩ := starts
  have small := (isDigit_iff first).mp digit
  cases negative with
  | true => rfl
  | false =>
      have notSpace : isSpace first = false := by
        have different : first ≠ 32 := by
          rintro rfl
          cases digit
        have above : ¬ first.toNat ≤ 13 := by omega
        simp [isSpace, different, UInt8.le_iff_toNat_le, above]
      rw [signText, if_neg (by decide), List.nil_append,
        List.dropWhile_cons_of_neg (by simp [notSpace])]

theorem stod_signed (negative : Bool) {text : Bytes} (starts : StartsWithDigit text) :
    stod (signText negative ++ text) = convertDecimal negative text := by
  have notHexadecimal := startsWith_hexadecimal starts
  unfold stod
  rw [dropWhile_isSpace_signed negative starts, readSign_signText negative starts]
  obtain ⟨first, rest, rfl, digit, -⟩ := starts
  have notInf : startsWith (utf8 "inf") (first :: rest) = false :=
    startsWith_digit _ (by decide) rest digit
  have notNan : startsWith (utf8 "nan") (first :: rest) = false :=
    startsWith_digit _ (by decide) rest digit
  dsimp only
  rw [if_neg (by simp [notInf]), if_neg (by simp [notNan]), if_neg (by simp [notHexadecimal])]

/-! ## Integers of a document -/

/-- The token is the number, written with digits only. -/
structure IsInteger (value : Nat) (token : Bytes) : Prop where
  digits : AllDigits token
  nonempty : token ≠ []
  named : digitsValue token = value

namespace IsInteger

variable {value : Nat} {token : Bytes}

theorem readDigits_token (isInteger : IsInteger value token) :
    readDigits 10 token 0 0 = (value, token.length, []) := by
  have read := @readDigits_digits token [] isInteger.digits (fun _ none => by cases none) 0 0
  rwa [List.append_nil, Nat.zero_mul, Nat.zero_add, Nat.zero_add, isInteger.named] at read

theorem parseUInt64_token (isInteger : IsInteger value token) (bounded : value < 2 ^ 64) :
    OnDemand.parseUInt64 token = .ok (.ofNat value) := by
  have positive := List.length_pos_iff.mpr isInteger.nonempty
  unfold OnDemand.parseUInt64
  rw [isInteger.readDigits_token]
  dsimp only
  rw [if_neg (by omega), if_pos bounded]

theorem parseInt64_token (isInteger : IsInteger value token) (bounded : value < 2 ^ 63) :
    OnDemand.parseInt64 token = .ok (.ofInt value) := by
  have positive := List.length_pos_iff.mpr isInteger.nonempty
  have starts := @startsWithDigit_append token [] isInteger.digits isInteger.nonempty
    (fun _ none => by cases none)
  have sign := readSign_signText false starts
  rw [signText, if_neg (by decide), List.nil_append, List.append_nil] at sign
  unfold OnDemand.parseInt64
  rw [sign]
  dsimp only
  rw [isInteger.readDigits_token]
  simp only [Bool.false_eq_true, if_false]
  rw [if_neg (by omega), if_pos (by omega)]

end IsInteger

/-! ## Conversions -/

theorem convertScaled_eq (negative : Bool) (digits base : Nat) (exponent : Int) :
    convertScaled negative digits base exponent =
      convertFraction negative (digits * base ^ exponent.toNat * unitsPerOne)
        (base ^ (-exponent).toNat) := by
  unfold convertScaled
  split
  · next positive => rw [show (-exponent).toNat = 0 by omega, Nat.pow_zero]
  · next below => rw [show exponent.toNat = 0 by omega, Nat.pow_zero, Nat.mul_one]

/-- A mantissa without an exponent after it is converted as a fraction. -/
theorem stod_mantissa (negative : Bool) {text : Bytes} (starts : StartsWithDigit text)
    {digits fraction : Nat} (mantissa : readMantissa 10 text = some (digits, fraction, [])) :
    stod (signText negative ++ text) =
      convertFraction negative (digits * unitsPerOne) (10 ^ fraction) := by
  have exponent : readExponent 101 [] - (fraction : Int) = -(fraction : Int) := by
    rw [show readExponent 101 [] = 0 from rfl, Int.zero_sub]
  rw [stod_signed _ starts]
  unfold convertDecimal
  rw [mantissa]
  dsimp only
  rw [exponent, convertScaled_eq, Int.neg_neg, Int.toNat_natCast,
    show (-(fraction : Int)).toNat = 0 by omega, Nat.pow_zero, Nat.mul_one]

theorem underflows_cancel (numerator denominator : Nat) {scale : Nat} (positive : 0 < scale) :
    underflows (numerator * scale) (denominator * scale) = underflows numerator denominator := by
  unfold underflows
  rw [Nat.mul_mod_mul_right, ← Nat.mul_assoc, roundHalfEven_scaled _ _ positive]
  congr 1
  simp only [ne_eq, Nat.mul_eq_zero, positive.ne', or_false]

theorem ofUnits_cancel (negative : Bool) (numerator denominator : Nat) {scale : Nat}
    (positive : 0 < scale) :
    Double.ofUnits negative (numerator * scale) (denominator * scale) =
      .ofUnits negative numerator denominator := by
  simp only [Double.ofUnits, roundUnits_cancel _ _ positive]

theorem convertFraction_cancel (negative : Bool) (numerator denominator : Nat) {scale : Nat}
    (positive : 0 < scale) :
    convertFraction negative (numerator * scale) (denominator * scale) =
      convertFraction negative numerator denominator := by
  unfold convertFraction
  rw [underflows_cancel _ _ positive, roundUnits_cancel _ _ positive,
    ofUnits_cancel _ _ _ positive]

theorem convertFraction_eq_ok {negative : Bool} {numerator denominator : Nat} {value : Double}
    (converted : convertFraction negative numerator denominator = .ok value) :
    underflows numerator denominator = false ∧ roundUnits numerator denominator ≤ maxUnits ∧
      value = .ofUnits negative numerator denominator := by
  unfold convertFraction at converted
  split at converted
  · cases converted
  · next normal =>
      split at converted
      · cases converted
      · next bounded =>
          exact ⟨by simpa using normal, by omega, (Except.ok.inj converted).symm⟩

/-- What `stod` converts is zero only if its digits are. -/
theorem roundUnits_ne_zero {numerator denominator : Nat} (positive : 0 < denominator)
    (nonzero : numerator ≠ 0) (normal : underflows numerator denominator = false) :
    roundUnits numerator denominator ≠ 0 := by
  have large : 0 < numerator / denominator := by
    refine Nat.div_pos ?_ positive
    rcases Nat.eq_zero_or_pos (numerator % denominator) with exact | inexact
    · exact Nat.le_of_dvd (Nat.pos_of_ne_zero nonzero) (Nat.dvd_of_mod_eq_zero exact)
    · have many : ¬ roundHalfEven (2 * numerator) denominator < 2 ^ 53 := by
        simpa [underflows, inexact.ne'] using normal
      have bounds := roundHalfEven_bounds (2 * numerator) denominator
      have twice : 2 ≤ 2 * numerator / denominator := by omega
      rw [Nat.le_div_iff_mul_le positive] at twice
      omega
  exact (roundUnits_pos large).ne'

/-- What `stod` converts is in the range of `from_chars`. -/
theorem inRange_of_converted {negative : Bool} {digits scale denominator : Nat} {value : Double}
    (scaled : 0 < scale) (positive : 0 < denominator)
    (converted : convertFraction negative (digits * scale * unitsPerOne) denominator = .ok value) :
    ¬ (roundUnits (digits * scale * unitsPerOne) denominator > maxUnits ∨
      digits ≠ 0 ∧ roundUnits (digits * scale * unitsPerOne) denominator = 0) := by
  obtain ⟨normal, bounded, -⟩ := convertFraction_eq_ok converted
  intro outside
  rcases outside with above | ⟨nonzero, vanishes⟩
  · omega
  · refine roundUnits_ne_zero positive ?_ normal vanishes
    exact (Nat.mul_pos (Nat.mul_pos (Nat.pos_of_ne_zero nonzero) scaled) unitsPerOne_pos).ne'

theorem fromChars_mantissa (negative : Bool) {text : Bytes} (starts : StartsWithDigit text)
    {digits fraction : Nat} {tail : Bytes} {exponent : Int}
    (mantissa : readMantissa 10 text = some (digits, fraction, tail))
    (isExponent : readExponent 101 tail - fraction = exponent)
    (inRange : ¬ (roundUnits (digits * 10 ^ exponent.toNat * unitsPerOne)
        (10 ^ (-exponent).toNat) > maxUnits ∨
      digits ≠ 0 ∧ roundUnits (digits * 10 ^ exponent.toNat * unitsPerOne)
        (10 ^ (-exponent).toNat) = 0)) :
    fromChars (signText negative ++ text) =
      some (.ofUnits negative (digits * 10 ^ exponent.toNat * unitsPerOne)
        (10 ^ (-exponent).toNat)) := by
  obtain ⟨first, rest, rfl, digit, -⟩ := starts
  have notInf : startsWith (utf8 "inf") (first :: rest) = false :=
    startsWith_digit _ (by decide) rest digit
  have notNan : startsWith (utf8 "nan") (first :: rest) = false :=
    startsWith_digit _ (by decide) rest digit
  subst isExponent
  unfold fromChars signText
  cases negative with
  | true =>
      rw [if_pos rfl, List.singleton_append]
      split
      next same =>
        split at same
        · next minus =>
            obtain rfl := (List.cons.inj minus).2
            obtain ⟨rfl, rfl⟩ := Prod.mk.inj same
            rw [if_neg (by simp [notInf]), if_neg (by simp [notNan]), mantissa]
            dsimp only
            rw [if_neg inRange]
        · next noMinus => exact absurd rfl (noMinus _)
  | false =>
      rw [if_neg (by decide), List.nil_append]
      split
      next same =>
        split at same
        · next minus =>
            obtain rfl := (List.cons.inj minus).1
            cases digit
        · obtain ⟨rfl, rfl⟩ := Prod.mk.inj same
          rw [if_neg (by simp [notInf]), if_neg (by simp [notNan]), mantissa]
          dsimp only
          rw [if_neg inRange]

/-- `from_chars` on such a text, which converts as `stod` does if that converts. -/
theorem fromChars_signed (negative : Bool) {text : Bytes} (starts : StartsWithDigit text)
    {value : Double} (converted : convertDecimal negative text = .ok value) :
    fromChars (signText negative ++ text) = some value := by
  unfold convertDecimal at converted
  cases parsed : readMantissa 10 text with
  | none =>
      rw [parsed] at converted
      cases converted
  | some mantissa =>
      obtain ⟨digits, fraction, tail⟩ := mantissa
      rw [parsed] at converted
      dsimp only at converted
      rw [convertScaled_eq] at converted
      have inRange := inRange_of_converted (Nat.pow_pos (by decide)) (Nat.pow_pos (by decide))
        converted
      obtain ⟨-, -, isValue⟩ := convertFraction_eq_ok converted
      rw [isValue]
      exact fromChars_mantissa negative starts parsed rfl inRange

/-! ## Decimal numbers -/

/-- A decimal number: whether it is negative, its digits, and those after its point, which is
written only if there are any. -/
structure PlainDecimal where
  negative : Bool
  whole : Bytes
  decimals : Bytes
  whole_digits : AllDigits whole
  whole_nonempty : whole ≠ []
  decimals_digits : AllDigits decimals

namespace PlainDecimal

/-- The number without its sign. -/
def magnitude (number : PlainDecimal) : Bytes :=
  if number.decimals = [] then number.whole else number.whole ++ 46 :: number.decimals

def text (number : PlainDecimal) : Bytes := signText number.negative ++ number.magnitude

theorem startsWithDigit (number : PlainDecimal) : StartsWithDigit number.magnitude := by
  unfold magnitude
  split
  · have starts := @startsWithDigit_append number.whole [] number.whole_digits
      number.whole_nonempty (fun _ none => by cases none)
    rwa [List.append_nil] at starts
  · exact startsWithDigit_append number.whole_digits number.whole_nonempty (point_starts _)

theorem readMantissa_magnitude (number : PlainDecimal) :
    readMantissa 10 number.magnitude =
      some (digitsValue (number.whole ++ number.decimals), number.decimals.length, []) := by
  unfold magnitude
  split
  · next integer =>
      rw [readMantissa_whole number.whole_digits number.whole_nonempty, integer, List.append_nil]
      rfl
  · exact readMantissa_pointed number.whole_digits number.whole_nonempty number.decimals_digits

theorem stod_text (number : PlainDecimal) :
    stod number.text =
      convertFraction number.negative
        (digitsValue (number.whole ++ number.decimals) * unitsPerOne)
        (10 ^ number.decimals.length) :=
  stod_mantissa _ number.startsWithDigit number.readMantissa_magnitude

/-- What `stod` converts, `from_chars` converts to the same. -/
theorem fromChars_of_stod (number : PlainDecimal) {value : Double}
    (converted : stod number.text = .ok value) : fromChars number.text = some value := by
  unfold text at *
  rw [stod_signed _ number.startsWithDigit] at converted
  exact fromChars_signed _ number.startsWithDigit converted

theorem text_ne_nil (number : PlainDecimal) : number.text ≠ [] := by
  obtain ⟨first, rest, same, -⟩ := number.startsWithDigit
  unfold text
  rw [same]
  exact List.append_ne_nil_of_right_ne_nil _ (List.cons_ne_nil first rest)

/-- Is the text that of a decimal number? -/
def isText (text : Bytes) : Bool :=
  let body := (readSign text).2
  let decimals := (body.dropWhile isDigit).drop 1
  text.head? ≠ some 43 && body.takeWhile isDigit ≠ [] &&
    (body.dropWhile isDigit = [] ||
      body.dropWhile isDigit = 46 :: decimals && decimals ≠ [] && decimals.all isDigit)

theorem of_isText {text : Bytes} (isNumber : isText text = true) :
    ∃ number : PlainDecimal, number.text = text := by
  simp only [isText, Bool.and_eq_true, Bool.or_eq_true, decide_eq_true_eq] at isNumber
  obtain ⟨⟨notPlus, nonempty⟩, shape⟩ := isNumber
  have signed : text = signText (readSign text).1 ++ (readSign text).2 := by
    unfold readSign
    split
    · rfl
    · simp at notPlus
    · rfl
  have wholeDigits : AllDigits ((readSign text).2.takeWhile isDigit) :=
    fun _ present => List.mem_takeWhile_imp present
  have split := List.takeWhile_append_dropWhile (p := isDigit) (l := (readSign text).2)
  generalize (readSign text).1 = negative at signed
  generalize (readSign text).2.takeWhile isDigit = whole at *
  generalize ((readSign text).2.dropWhile isDigit).drop 1 = decimals at shape
  rcases shape with integer | ⟨⟨pointed, some⟩, digits⟩
  · refine ⟨⟨negative, whole, [], wholeDigits, nonempty, by simp [AllDigits]⟩, ?_⟩
    rw [signed, ← split, integer, List.append_nil]
    rfl
  · refine ⟨⟨negative, whole, decimals, wholeDigits, nonempty, List.all_eq_true.mp digits⟩, ?_⟩
    rw [signed, ← split, pointed, PlainDecimal.text, magnitude, if_neg some]

/-- The number that the text names. -/
def value (number : PlainDecimal) : ℚ :=
  Double.signedUnits number.negative (digitsValue (number.whole ++ number.decimals)) /
    10 ^ number.decimals.length

/-- The number with its point, also where no digit is after it. -/
def pointedText (number : PlainDecimal) : Bytes :=
  signText number.negative ++ (number.whole ++ 46 :: number.decimals)

theorem stod_pointedText (number : PlainDecimal) : stod number.pointedText = stod number.text := by
  rw [stod_text]
  unfold pointedText
  refine stod_mantissa _ ?_ ?_
  · exact startsWithDigit_append number.whole_digits number.whole_nonempty (point_starts _)
  · exact readMantissa_pointed number.whole_digits number.whole_nonempty number.decimals_digits

/-- Zeros after the last decimal do not change what is converted. -/
theorem stod_trailing_zeros (number : PlainDecimal) (kept : Bytes) (count : Nat)
    (decimals : number.decimals = kept ++ List.replicate count 48) (keptDigits : AllDigits kept) :
    stod number.text = stod ({ number with decimals := kept, decimals_digits := keptDigits } :
      PlainDecimal).text := by
  rw [stod_text, stod_text, decimals, ← List.append_assoc, digitsValue_zeros, List.length_append,
    List.length_replicate, Nat.pow_add, Nat.mul_right_comm]
  exact convertFraction_cancel _ _ _ (Nat.pow_pos (by decide))

/-- A number of moderate length is in the range of the doubles. -/
theorem stod_text_ok (number : PlainDecimal) (short : number.whole.length ≤ 200)
    (few : number.decimals.length ≤ 200) :
    ∃ units valid, stod number.text = .ok (.finite number.negative units valid) := by
  have digits : AllDigits (number.whole ++ number.decimals) :=
    List.forall_mem_append.mpr ⟨number.whole_digits, number.decimals_digits⟩
  have below := digitsValue_lt digits
  rw [List.length_append, Nat.pow_add] at below
  rw [stod_text]
  generalize digitsValue (number.whole ++ number.decimals) = value at below ⊢
  have positive : 0 < 10 ^ number.decimals.length := Nat.pow_pos (by decide)
  have normal : underflows (value * unitsPerOne) (10 ^ number.decimals.length) = false := by
    unfold underflows
    rcases Nat.eq_zero_or_pos value with rfl | nonzero
    · simp
    · have least : 2 ^ 53 * 10 ^ 200 ≤ 2 * unitsPerOne := by decide +kernel
      have scale : 2 ^ 53 * 10 ^ number.decimals.length ≤ 2 ^ 53 * 10 ^ 200 :=
        Nat.mul_le_mul_left _ (Nat.pow_le_pow_right (by decide) few)
      have large : 2 * unitsPerOne ≤ 2 * (value * unitsPerOne) :=
        Nat.mul_le_mul_left _ (Nat.le_mul_of_pos_left _ nonzero)
      have quotient := (Nat.le_div_iff_mul_le positive).mpr (scale.trans (least.trans large))
      have bounds := roundHalfEven_bounds (2 * (value * unitsPerOne)) (10 ^ number.decimals.length)
      rw [Bool.and_eq_false_iff]
      exact .inr (decide_eq_false (by omega))
  have bounded : roundUnits (value * unitsPerOne) (10 ^ number.decimals.length) ≤ maxUnits := by
    have most : 10 ^ 200 * unitsPerOne ≤ maxUnits := by decide +kernel
    have scale : 10 ^ number.whole.length ≤ 10 ^ 200 := Nat.pow_le_pow_right (by decide) short
    have precise : roundUnits maxUnits 1 = maxUnits := by decide +kernel
    rw [← precise]
    refine roundUnits_mono positive Nat.one_pos ?_
    calc value * unitsPerOne * 1
        = value * unitsPerOne := Nat.mul_one _
      _ ≤ 10 ^ number.whole.length * 10 ^ number.decimals.length * unitsPerOne :=
          Nat.mul_le_mul_right _ below.le
      _ = 10 ^ number.whole.length * unitsPerOne * 10 ^ number.decimals.length :=
          Nat.mul_right_comm _ _ _
      _ ≤ maxUnits * 10 ^ number.decimals.length :=
          Nat.mul_le_mul_right _ ((Nat.mul_le_mul_right _ scale).trans most)
  refine ⟨_, roundUnits_isMagnitude bounded, ?_⟩
  unfold convertFraction
  rw [if_neg (by simp [normal]), if_neg (by omega), Double.ofUnits, dif_pos bounded]

/-- The text of a number determines its value. -/
theorem value_eq (number : PlainDecimal) {negative : Bool} {magnitude : Bytes}
    (sign : readSign number.text = (negative, magnitude)) {digits fraction : Nat} {rest : Bytes}
    (mantissa : readMantissa 10 magnitude = some (digits, fraction, rest)) :
    number.value = Double.signedUnits negative digits / 10 ^ fraction := by
  unfold text at sign
  rw [readSign_signText _ number.startsWithDigit] at sign
  obtain ⟨rfl, rfl⟩ := Prod.mk.inj sign
  rw [number.readMantissa_magnitude] at mantissa
  obtain ⟨rfl, rest⟩ := Prod.mk.inj (Option.some.inj mantissa)
  obtain ⟨rfl, -⟩ := Prod.mk.inj rest
  rfl

end PlainDecimal

/-- A decimal number as it is written without a redundant zero. -/
structure CanonicalDecimal extends PlainDecimal where
  no_leading_zero : NoLeadingZero whole
  no_trailing_zero : decimals.getLast? ≠ some 48
  no_negative_zero : toPlainDecimal.text ≠ utf8 "-0"

end Foundation
