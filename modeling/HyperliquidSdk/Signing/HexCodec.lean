import HyperliquidSdk.Foundation.Numeral
import HyperliquidSdk.Signing.SigningHelpers

/-!
# The hexadecimal codec

What `hexToBytes` accepts, and how it inverts `toHex` and `toHexPadded`.
-/

set_option autoImplicit false

namespace HyperliquidSdk.Signing

open Foundation

/-! ## Hexadecimal text -/

def lowerHexDigits : Bytes := utf8 "0123456789abcdef"

def IsHexDigit (digit : UInt8) : Prop := lowerCase digit ∈ lowerHexDigits

instance (digit : UInt8) : Decidable (IsHexDigit digit) := inferInstanceAs (Decidable (_ ∈ _))

def hexValue (digit : UInt8) : Nat := lowerHexDigits.idxOf (lowerCase digit)

/-- The number that the digits write. -/
def hexNumber (digits : Bytes) : Nat := numeral 16 (digits.map hexValue)

/-- The bytes as one number, the most significant byte first. -/
def bigEndianValue (bytes : Bytes) : Nat := numeral 256 (bytes.map UInt8.toNat)

/-- An optional `0x` or `0X` before nothing but hexadecimal digits. -/
structure HexText (text digits : Bytes) : Prop where
  marked : text = digits ∨ text = utf8 "0x" ++ digits ∨ text = utf8 "0X" ++ digits
  hexadecimal : ∀ digit ∈ digits, IsHexDigit digit

/-- An odd number of digits is read with a zero before it. -/
def evenDigits (digits : Bytes) : Bytes :=
  if digits.length % 2 ≠ 0 then 48 :: digits else digits

theorem hexDigit?_eq (digit : UInt8) :
    hexDigit? digit = if IsHexDigit digit then some (hexValue digit) else none := by
  have all : ∀ number : Fin 256, hexDigit? (UInt8.ofFin number) =
      if IsHexDigit (UInt8.ofFin number) then some (hexValue (UInt8.ofFin number)) else none := by
    decide +kernel
  exact all digit.toFin

theorem lower_hexDigit (nibble : Fin 16) :
    lowerCase (nibbleToHexChar nibble) = nibbleToHexChar nibble ∧
      hexValue (nibbleToHexChar nibble) = nibble ∧ IsHexDigit (nibbleToHexChar nibble) := by
  revert nibble
  decide +kernel

theorem nibbleToHexChar_hexValue {digit : UInt8} (hexadecimal : IsHexDigit digit) :
    hexValue digit < 16 ∧ nibbleToHexChar (hexValue digit) = lowerCase digit := by
  have all : ∀ number : Fin 256, IsHexDigit (UInt8.ofFin number) →
      hexValue (UInt8.ofFin number) < 16 ∧
        nibbleToHexChar (hexValue (UInt8.ofFin number)) = lowerCase (UInt8.ofFin number) := by
    decide +kernel
  exact all digit.toFin hexadecimal

theorem hexNumber_lowerCase (digits : Bytes) :
    hexNumber (digits.map lowerCase) = hexNumber digits := by
  have all : ∀ number : Fin 256,
      hexValue (lowerCase (UInt8.ofFin number)) = hexValue (UInt8.ofFin number) := by
    decide +kernel
  have same : hexValue ∘ lowerCase = hexValue := funext fun digit => all digit.toFin
  rw [hexNumber, List.map_map, same, hexNumber]

/-! ## What is written -/

theorem nibbles_of_byte (byte : UInt8) : byte.toNat / 16 < 16 ∧ byte.toNat % 16 < 16 := by
  have bounded := byte.toNat_lt
  omega

theorem hexDigits_length (data : Bytes) : (hexDigits data).length = 2 * data.length := by
  induction data with
  | nil => rfl
  | cons byte data ih =>
      rw [hexDigits, List.flatMap_cons, List.length_append, ← hexDigits, ih, List.length_cons]
      simp only [List.length_cons, List.length_nil]
      omega

theorem hexDigits_hexadecimal (data : Bytes) : ∀ digit ∈ hexDigits data, IsHexDigit digit := by
  intro digit present
  obtain ⟨byte, -, written⟩ := List.mem_flatMap.mp present
  obtain ⟨high, low⟩ := nibbles_of_byte byte
  simp only [List.mem_cons, List.not_mem_nil, or_false] at written
  obtain rfl | rfl := written
  · exact (lower_hexDigit ⟨_, high⟩).2.2
  · exact (lower_hexDigit ⟨_, low⟩).2.2

theorem hexNumber_hexDigits (data : Bytes) : hexNumber (hexDigits data) = bigEndianValue data := by
  have values : (hexDigits data).map hexValue =
      (data.map UInt8.toNat).flatMap fun value => [value / 16, value % 16] := by
    rw [hexDigits, List.map_flatMap, List.flatMap_map]
    congr 1
    funext byte
    obtain ⟨high, low⟩ := nibbles_of_byte byte
    have highValue := (lower_hexDigit ⟨_, high⟩).2.1
    have lowValue := (lower_hexDigit ⟨_, low⟩).2.1
    simp only at highValue lowValue
    simp [highValue, lowValue]
  rw [hexNumber, values, numeral_pairs]
  rfl

/-! ## What is read -/

theorem hexCharToNibble_eq_ok_iff {digit : UInt8} {nibble : Nat} :
    hexCharToNibble digit = .ok nibble ↔ IsHexDigit digit ∧ nibble = hexValue digit := by
  unfold hexCharToNibble
  rw [hexDigit?_eq]
  by_cases hexadecimal : IsHexDigit digit
  · simp [hexadecimal, eq_comm]
  · simp [hexadecimal]

theorem hexCharToNibble_throws {byte : UInt8} {exception : Exception}
    (thrown : hexCharToNibble byte = .error exception) :
    ∃ what, exception = .invalidArgument what := by
  unfold hexCharToNibble at thrown
  split at thrown
  · cases thrown
  · exact ⟨_, (Except.error.inj thrown).symm⟩

theorem pairsToBytes_throws {digits : Bytes} {exception : Exception}
    (thrown : pairsToBytes digits = .error exception) :
    ∃ what, exception = .invalidArgument what := by
  fun_induction pairsToBytes digits with
  | case1 high low rest ih =>
      rcases bind_eq_error thrown with failed | ⟨highNibble, -, thrown⟩
      · exact hexCharToNibble_throws failed
      rcases bind_eq_error thrown with failed | ⟨lowNibble, -, thrown⟩
      · exact hexCharToNibble_throws failed
      rcases bind_eq_error thrown with failed | ⟨bytes, -, thrown⟩
      · exact ih failed
      · cases thrown
  | case2 digits short => cases thrown

theorem hexToBytes_throws {hex : Bytes} {exception : Exception}
    (thrown : hexToBytes hex = .error exception) : ∃ what, exception = .invalidArgument what :=
  pairsToBytes_throws thrown

theorem pairsToBytes_cons {high low : UInt8} (highHex : IsHexDigit high) (lowHex : IsHexDigit low)
    (rest : Bytes) :
    pairsToBytes (high :: low :: rest) = do
      let bytes ← pairsToBytes rest
      return UInt8.ofNat (16 * hexValue high + hexValue low) :: bytes := by
  rw [pairsToBytes, hexCharToNibble_eq_ok_iff.mpr ⟨highHex, rfl⟩,
    hexCharToNibble_eq_ok_iff.mpr ⟨lowHex, rfl⟩]
  rfl

/-- Reading is the inverse of writing. -/
theorem pairsToBytes_hexDigits (data : Bytes) : pairsToBytes (hexDigits data) = .ok data := by
  induction data with
  | nil => rfl
  | cons byte data ih =>
      obtain ⟨high, low⟩ := nibbles_of_byte byte
      obtain ⟨-, highValue, highHex⟩ := lower_hexDigit ⟨_, high⟩
      obtain ⟨-, lowValue, lowHex⟩ := lower_hexDigit ⟨_, low⟩
      have whole : UInt8.ofNat (16 * (byte.toNat / 16) + byte.toNat % 16) = byte := by
        rw [Nat.div_add_mod, UInt8.ofNat_toNat]
      have read := pairsToBytes_cons highHex lowHex (hexDigits data)
      rw [highValue, lowValue, ih, whole] at read
      exact read

/-- Writing is the inverse of reading, up to the case of the digits. -/
theorem pairsToBytes_hexadecimal {digits : Bytes} (even : digits.length % 2 = 0)
    (hexadecimal : ∀ digit ∈ digits, IsHexDigit digit) :
    ∃ bytes, pairsToBytes digits = .ok bytes ∧ hexDigits bytes = digits.map lowerCase := by
  fun_induction pairsToBytes digits with
  | case1 high low rest ih =>
      have highHex := hexadecimal high (by simp)
      have lowHex := hexadecimal low (by simp)
      obtain ⟨bytes, read, written⟩ := ih
        (by simp only [List.length_cons] at even; omega)
        (fun digit present => hexadecimal digit (by simp [present]))
      obtain ⟨highBound, highChar⟩ := nibbleToHexChar_hexValue highHex
      obtain ⟨lowBound, lowChar⟩ := nibbleToHexChar_hexValue lowHex
      refine ⟨_, by rw [← pairsToBytes, pairsToBytes_cons highHex lowHex, read]; rfl, ?_⟩
      have byte : (UInt8.ofNat (16 * hexValue high + hexValue low)).toNat =
          16 * hexValue high + hexValue low := by
        rw [UInt8.toNat_ofNat']
        omega
      rw [hexDigits, List.flatMap_cons, ← hexDigits, byte, written,
        show (16 * hexValue high + hexValue low) / 16 = hexValue high by omega,
        show (16 * hexValue high + hexValue low) % 16 = hexValue low by omega, highChar, lowChar]
      rfl
  | case2 digits short =>
      cases digits with
      | nil => exact ⟨[], rfl, rfl⟩
      | cons high digits =>
          cases digits with
          | nil => cases even
          | cons low rest => exact (short high low rest rfl).elim

theorem hexadecimal_of_pairsToBytes {digits bytes : Bytes} (even : digits.length % 2 = 0)
    (read : pairsToBytes digits = .ok bytes) : ∀ digit ∈ digits, IsHexDigit digit := by
  fun_induction pairsToBytes digits generalizing bytes with
  | case1 high low rest ih =>
      obtain ⟨highNibble, highRead, read⟩ := bind_eq_ok read
      obtain ⟨lowNibble, lowRead, read⟩ := bind_eq_ok read
      obtain ⟨others, othersRead, -⟩ := bind_eq_ok read
      have others := ih (by simp only [List.length_cons] at even; omega) othersRead
      simp only [List.mem_cons, forall_eq_or_imp]
      exact ⟨(hexCharToNibble_eq_ok_iff.mp highRead).1, (hexCharToNibble_eq_ok_iff.mp lowRead).1,
        others⟩
  | case2 digits short =>
      cases digits with
      | nil => exact fun digit present => nomatch present
      | cons high digits =>
          cases digits with
          | nil => cases even
          | cons low rest => exact (short high low rest rfl).elim

/-! ## The mark -/

def withoutMark : Bytes → Bytes
  | 48 :: 120 :: rest | 48 :: 88 :: rest => rest
  | hex => hex

theorem hexToBytes_eq (hex : Bytes) :
    hexToBytes hex = pairsToBytes (evenDigits (withoutMark hex)) := by
  unfold hexToBytes evenDigits
  fun_cases withoutMark hex with
  | case1 | case2 => rfl
  | case3 lowerMark upperMark => simp

theorem evenDigits_length (digits : Bytes) :
    (evenDigits digits).length % 2 = 0 ∧
      (evenDigits digits).length / 2 = (digits.length + 1) / 2 := by
  unfold evenDigits
  split
  · rw [List.length_cons]
    omega
  · omega

theorem mem_evenDigits {digits : Bytes} (hexadecimal : ∀ digit ∈ digits, IsHexDigit digit) :
    ∀ digit ∈ evenDigits digits, IsHexDigit digit := by
  have zero : IsHexDigit 48 := by decide +kernel
  unfold evenDigits
  split
  · simpa only [List.mem_cons, forall_eq_or_imp] using ⟨zero, hexadecimal⟩
  · exact hexadecimal

theorem hexadecimal_of_evenDigits {digits : Bytes}
    (hexadecimal : ∀ digit ∈ evenDigits digits, IsHexDigit digit) :
    ∀ digit ∈ digits, IsHexDigit digit := by
  intro digit present
  apply hexadecimal
  unfold evenDigits
  split
  · exact List.mem_cons_of_mem _ present
  · exact present

theorem hexNumber_evenDigits (digits : Bytes) : hexNumber (evenDigits digits) = hexNumber digits := by
  unfold evenDigits
  split
  · exact numeral_zero_cons 16 _
  · rfl

theorem utf8_marks : utf8 "0x" = [48, 120] ∧ utf8 "0X" = [48, 88] := by decide +kernel

/-- The letter of the mark is no digit, so the mark is never part of the number. -/
theorem HexText.withoutMark_eq {text digits : Bytes} (written : HexText text digits) :
    withoutMark text = digits := by
  have notDigit : ¬ IsHexDigit 120 ∧ ¬ IsHexDigit 88 := by decide +kernel
  obtain ⟨lowerMark, upperMark⟩ := utf8_marks
  rcases written.marked with rfl | rfl | rfl
  · unfold withoutMark
    split
    · exact absurd (written.hexadecimal 120 (by simp)) notDigit.1
    · exact absurd (written.hexadecimal 88 (by simp)) notDigit.2
    · rfl
  · rw [lowerMark]
    rfl
  · rw [upperMark]
    rfl

theorem hexText_withoutMark {text : Bytes}
    (hexadecimal : ∀ digit ∈ withoutMark text, IsHexDigit digit) :
    HexText text (withoutMark text) := by
  refine ⟨?_, hexadecimal⟩
  obtain ⟨lowerMark, upperMark⟩ := utf8_marks
  unfold withoutMark
  split
  · exact .inr (.inl (by rw [lowerMark]; rfl))
  · exact .inr (.inr (by rw [upperMark]; rfl))
  · exact .inl rfl

/-! ## The codec -/

theorem HexText.read {text digits : Bytes} (written : HexText text digits) :
    ∃ bytes, hexToBytes text = .ok bytes ∧
      hexDigits bytes = (evenDigits digits).map lowerCase := by
  rw [hexToBytes_eq, written.withoutMark_eq]
  exact pairsToBytes_hexadecimal (evenDigits_length digits).1 (mem_evenDigits written.hexadecimal)

theorem HexText.decoded {text digits : Bytes} (written : HexText text digits) :
    ∃ bytes, hexToBytes text = .ok bytes ∧ bytes.length = (digits.length + 1) / 2 ∧
      bigEndianValue bytes = hexNumber digits ∧
      toHexPadded bytes = utf8 "0x" ++ (evenDigits digits).map lowerCase := by
  obtain ⟨bytes, read, lower⟩ := written.read
  have length := hexDigits_length bytes
  rw [lower, List.length_map] at length
  refine ⟨bytes, read, ?_, ?_, ?_⟩
  · have half := (evenDigits_length digits).2
    omega
  · rw [← hexNumber_hexDigits, lower, hexNumber_lowerCase, hexNumber_evenDigits]
  · rw [toHexPadded, lower]

theorem hexText_of_read {text bytes : Bytes} (read : hexToBytes text = .ok bytes) :
    HexText text (withoutMark text) := by
  rw [hexToBytes_eq] at read
  exact hexText_withoutMark (hexadecimal_of_evenDigits
    (hexadecimal_of_pairsToBytes (evenDigits_length _).1 read))

theorem hexToBytes_toHexPadded (data : Bytes) : hexToBytes (toHexPadded data) = .ok data := by
  have written : HexText (toHexPadded data) (hexDigits data) :=
    ⟨.inr (.inl rfl), hexDigits_hexadecimal data⟩
  have even : evenDigits (hexDigits data) = hexDigits data := by
    rw [evenDigits, hexDigits_length]
    simp
  rw [hexToBytes_eq, written.withoutMark_eq, even, pairsToBytes_hexDigits]

theorem hexNumber_dropWhile (digits : Bytes) :
    hexNumber (digits.dropWhile (· = 48)) = hexNumber digits := by
  induction digits with
  | nil => rfl
  | cons digit digits ih =>
      by_cases zero : digit = 48
      · rw [List.dropWhile_cons_of_pos (by simpa using zero), zero, ih]
        exact (numeral_zero_cons 16 _).symm
      · rw [List.dropWhile_cons_of_neg (by simpa using zero)]

/-- The digits without leading zeros still write the same number. -/
theorem toHex_digits (data : Bytes) :
    ∃ digits, toHex data = utf8 "0x" ++ digits ∧ HexText (toHex data) digits ∧
      hexNumber digits = bigEndianValue data ∧
      (digits = [48] ∨ ∃ first rest, digits = first :: rest ∧ first ≠ 48) := by
  have value : hexNumber ((hexDigits data).dropWhile (· = 48)) = bigEndianValue data :=
    (hexNumber_dropWhile _).trans (hexNumber_hexDigits data)
  unfold toHex
  split
  case h_1 zeros =>
    rw [zeros] at value
    have text : utf8 "0x0" = utf8 "0x" ++ [48] := by decide +kernel
    have zero : ∀ digit ∈ ([48] : Bytes), IsHexDigit digit := by decide +kernel
    exact ⟨[48], text, ⟨.inr (.inl text), zero⟩, value, .inl rfl⟩
  case h_2 significant =>
    have hexadecimal : ∀ digit ∈ (hexDigits data).dropWhile (· = 48), IsHexDigit digit :=
      fun digit present =>
        hexDigits_hexadecimal data digit ((List.dropWhile_suffix _).subset present)
    refine ⟨_, rfl, ⟨.inr (.inl rfl), hexadecimal⟩, value, .inr ?_⟩
    cases digits : (hexDigits data).dropWhile (· = 48) with
    | nil => exact absurd digits significant
    | cons first rest =>
        have kept := List.head?_dropWhile_not (fun digit : UInt8 => decide (digit = 48)) (hexDigits data)
        rw [digits] at kept
        exact ⟨first, rest, rfl, by simpa using kept⟩

/-- `hexToBytes` inverts both ways of writing, and reads exactly the hexadecimal texts. -/
theorem hex_codec (data text : Bytes) :
    hexToBytes (toHexPadded data) = .ok data ∧
    (∃ bytes, hexToBytes (toHex data) = .ok bytes ∧ bigEndianValue bytes = bigEndianValue data) ∧
    (toHex data = utf8 "0x0" ∨
      ∃ first rest, toHex data = utf8 "0x" ++ first :: rest ∧ first ≠ 48) ∧
    ((∃ bytes, hexToBytes text = .ok bytes) ↔ ∃ digits, HexText text digits) ∧
    (∀ digits, HexText text digits → ∃ bytes, hexToBytes text = .ok bytes ∧
      bytes.length = (digits.length + 1) / 2 ∧ bigEndianValue bytes = hexNumber digits ∧
      toHexPadded bytes = utf8 "0x" ++ (evenDigits digits).map lowerCase) ∧
    ((∀ digits, ¬ HexText text digits) →
      ∃ what, hexToBytes text = .error (.invalidArgument what)) := by
  refine ⟨hexToBytes_toHexPadded data, ?_, ?_, ⟨?_, ?_⟩, fun digits => HexText.decoded, ?_⟩
  · obtain ⟨digits, -, written, value, -⟩ := toHex_digits data
    obtain ⟨bytes, read, -, number, -⟩ := written.decoded
    exact ⟨bytes, read, number.trans value⟩
  · obtain ⟨digits, text, -, -, rfl | ⟨first, rest, rfl, significant⟩⟩ := toHex_digits data
    · exact .inl (text.trans (by decide +kernel))
    · exact .inr ⟨first, rest, text, significant⟩
  · intro ⟨bytes, read⟩
    exact ⟨_, hexText_of_read read⟩
  · intro ⟨digits, written⟩
    obtain ⟨bytes, read, -⟩ := written.read
    exact ⟨bytes, read⟩
  · intro malformed
    cases read : hexToBytes text with
    | ok bytes => exact absurd (hexText_of_read read) (malformed _)
    | error exception =>
        obtain ⟨what, rfl⟩ := hexToBytes_throws read
        exact ⟨what, rfl⟩

end HyperliquidSdk.Signing
