import HyperliquidSdk.Foundation.Binary64
import HyperliquidSdk.Foundation.Bytes

/-!
# Numbers as text

The C library conversions between numbers and text in the C locale: `printf` of
a fixed number of decimals, `std::stod`, `std::from_chars` and `std::stoi`.
-/

set_option autoImplicit false

namespace Foundation

def digitByte (digit : Nat) : UInt8 := UInt8.ofNat (48 + digit)

def isDigit (byte : UInt8) : Bool := 48 ≤ byte && byte ≤ 57

def decimalDigits (value : Nat) : Bytes :=
  (Nat.toDigits 10 value).map fun digit => UInt8.ofNat digit.toNat

def padLeft (width : Nat) (filler : UInt8) (text : Bytes) : Bytes :=
  List.replicate (width - text.length) filler ++ text

def intText (value : Int) : Bytes :=
  if value < 0 then utf8 "-" ++ decimalDigits value.natAbs else decimalDigits value.natAbs

/-- `printf("%.*f", decimals, value)` for `0 < decimals`: the exact value, rounded
half to even. -/
def fixedText (decimals : Nat) : Double → Bytes
  | .finite negative units _ =>
      let scaled := roundHalfEven (units * 10 ^ decimals) unitsPerOne
      (if negative then utf8 "-" else []) ++ decimalDigits (scaled / 10 ^ decimals) ++ utf8 "." ++
        padLeft decimals (digitByte 0) (decimalDigits (scaled % 10 ^ decimals))
  | .infinity negative => if negative then utf8 "-inf" else utf8 "inf"
  | .nan => utf8 "nan"

/-- What a conversion of the standard library throws. -/
inductive ConversionError where
  | invalidArgument
  | outOfRange
  deriving DecidableEq, Repr

def isSpace (byte : UInt8) : Bool :=
  byte = 32 || 9 ≤ byte && byte ≤ 13

def hexDigit? (byte : UInt8) : Option Nat :=
  if isDigit byte then some (byte.toNat - 48)
  else if 97 ≤ byte && byte ≤ 102 then some (byte.toNat - 87)
  else if 65 ≤ byte && byte ≤ 70 then some (byte.toNat - 55)
  else none

def digit? (base : Nat) (byte : UInt8) : Option Nat :=
  (hexDigit? byte).filter (· < base)

/-- The longest run of digits: their value, their number and the rest. -/
def readDigits (base : Nat) : Bytes → Nat → Nat → Nat × Nat × Bytes
  | [], value, count => (value, count, [])
  | byte :: rest, value, count =>
      match digit? base byte with
      | some digit => readDigits base rest (value * base + digit) (count + 1)
      | none => (value, count, byte :: rest)

def lowerCase (byte : UInt8) : UInt8 :=
  if 65 ≤ byte && byte ≤ 90 then byte + 32 else byte

/-- Does the text start with the lower-case word, in any case? -/
def startsWith (word text : Bytes) : Bool :=
  (text.take word.length).map lowerCase = word

def readSign : Bytes → Bool × Bytes
  | 45 :: rest => (true, rest)
  | 43 :: rest => (false, rest)
  | text => (false, text)

/-- An exponent counts only when digits follow its mark. -/
def readExponent (mark : UInt8) : Bytes → Int
  | byte :: rest =>
      if lowerCase byte = mark then
        let (negative, digits) := readSign rest
        let (value, _, _) := readDigits 10 digits 0 0
        if negative then -value else value
      else 0
  | [] => 0

/-- A number `digits * base ^ -fraction`, with at least one digit, and its tail. -/
def readMantissa (base : Nat) (text : Bytes) : Option (Nat × Nat × Bytes) :=
  let (whole, wholeCount, rest) := readDigits base text 0 0
  let (digits, fraction, rest) :=
    match rest with
    | 46 :: decimals => readDigits base decimals whole 0
    | _ => (whole, 0, rest)
  if wholeCount + fraction = 0 then none else some (digits, fraction, rest)

/-- A subnormal result that is not exact, judged after rounding to 53 bits. -/
def underflows (numerator denominator : Nat) : Bool :=
  numerator % denominator ≠ 0 && roundHalfEven (2 * numerator) denominator < 2 ^ 53

def convertFraction (negative : Bool) (numerator denominator : Nat) :
    Except ConversionError Double :=
  if underflows numerator denominator then .error .outOfRange
  else if roundUnits numerator denominator > maxUnits then .error .outOfRange
  else .ok (.ofUnits negative numerator denominator)

/-- `digits * base ^ exponent` as a fraction of units. -/
def convertScaled (negative : Bool) (digits base : Nat) (exponent : Int) :
    Except ConversionError Double :=
  if 0 ≤ exponent then
    convertFraction negative (digits * base ^ exponent.toNat * unitsPerOne) 1
  else convertFraction negative (digits * unitsPerOne) (base ^ (-exponent).toNat)

def convertDecimal (negative : Bool) (text : Bytes) : Except ConversionError Double :=
  match readMantissa 10 text with
  | none => .error .invalidArgument
  | some (digits, fraction, rest) =>
      convertScaled negative digits 10 (readExponent 101 rest - fraction)

def convertHexadecimal (negative : Bool) (text : Bytes) : Option (Except ConversionError Double) :=
  (readMantissa 16 text).map fun (digits, fraction, rest) =>
    convertScaled negative digits 2 (readExponent 112 rest - 4 * fraction)

/-- `std::stod`: the longest prefix that is a number, and a throw when there is
none or when `strtod` reports `ERANGE`. -/
def stod (text : Bytes) : Except ConversionError Double :=
  let (negative, body) := readSign (text.dropWhile isSpace)
  if startsWith (utf8 "inf") body then .ok (.infinity negative)
  else if startsWith (utf8 "nan") body then .ok .nan
  else if startsWith (utf8 "0x") body then
    -- without a digit after it, the prefix is the number zero and the rest is ignored
    (convertHexadecimal negative (body.drop 2)).getD (.ok (.ofUnits negative 0 1))
  else convertDecimal negative body

/-- `std::from_chars` for a double: the longest prefix that is a number, which starts with
no blank and no plus sign. Without one, or out of range, the target stays as it is. -/
def fromChars (text : Bytes) : Option Double :=
  let (negative, body) :=
    match text with
    | 45 :: rest => (true, rest)
    | _ => (false, text)
  if startsWith (utf8 "inf") body then some (.infinity negative)
  else if startsWith (utf8 "nan") body then some .nan
  else
    match readMantissa 10 body with
    | none => none
    | some (digits, fraction, rest) =>
        let exponent := readExponent 101 rest - fraction
        let numerator := digits * 10 ^ exponent.toNat * unitsPerOne
        let denominator := 10 ^ (-exponent).toNat
        let units := roundUnits numerator denominator
        if units > maxUnits ∨ digits ≠ 0 ∧ units = 0 then none
        else some (.ofUnits negative numerator denominator)

/-- `std::stoi`. -/
def stoi (text : Bytes) : Except ConversionError Int :=
  let (negative, body) := readSign (text.dropWhile isSpace)
  let (magnitude, count, _) := readDigits 10 body 0 0
  let value : Int := if negative then -magnitude else magnitude
  if count = 0 then .error .invalidArgument
  else if -2 ^ 31 ≤ value ∧ value < 2 ^ 31 then .ok value
  else .error .outOfRange

end Foundation
