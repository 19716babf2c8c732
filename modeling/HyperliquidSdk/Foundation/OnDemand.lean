import HyperliquidSdk.Foundation.NumberText

/-!
# On-demand JSON values

A JSON document that passed validation, and how the on-demand interface of the parser
reads it: a value is converted when it is asked for, and an object is searched from the
place where the last search ended.
-/

set_option autoImplicit false

namespace Foundation.OnDemand

/-- The error codes that reading a value can give. -/
inductive Error where
  | incorrectType
  | noSuchField
  | numberError
  | numberOutOfRange
  | invalidDocument
  deriving DecidableEq, Repr

/-- A key as it is written, which a search compares, and as it reads. -/
structure Key where
  raw : Bytes
  unescaped : Bytes

/-- `raw` is the text of the value where the value does not determine it. -/
inductive Value where
  | null
  | boolean (value : Bool)
  | number (token : Bytes)
  | string (raw value : Bytes)
  | array (raw : Bytes) (items : List Value)
  | object (raw : Bytes) (fields : List (Key × Value))

/-- The fields of an object from the place where the next search starts. -/
abbrev Object := List (Key × Value)

namespace Object

/-- `find_field_unordered`: a search that finds nothing ends where it started. -/
def find (key : Bytes) (object : Object) : Option (Value × Object) :=
  match object.span fun field => field.1.raw ≠ key with
  | (_, []) => none
  | (skipped, found :: rest) => some (found.2, rest ++ skipped ++ [found])

end Object

def parseUInt64 (token : Bytes) : Except Error UInt64 :=
  match readDigits 10 token 0 0 with
  | (value, count, []) =>
      if count = 0 then .error .incorrectType
      else if value < 2 ^ 64 then .ok (.ofNat value)
      else .error .numberOutOfRange
  | _ => .error .incorrectType

def parseInt64 (token : Bytes) : Except Error Int64 :=
  let (negative, digits) := readSign token
  match readDigits 10 digits 0 0 with
  | (magnitude, count, []) =>
      let value : Int := if negative then -magnitude else magnitude
      if count = 0 then .error .incorrectType
      else if -2 ^ 63 ≤ value ∧ value < 2 ^ 63 then .ok (.ofInt value)
      else .error .numberOutOfRange
  | _ => .error .incorrectType

/-- The double nearest to the number, or an error if it is too large for one. -/
def parseDouble (token : Bytes) : Except Error Double :=
  let (negative, body) := readSign token
  match readMantissa 10 body with
  | none => .error .numberError
  | some (digits, fraction, rest) =>
      let exponent := readExponent 101 rest - fraction
      let numerator := digits * 10 ^ exponent.toNat * unitsPerOne
      let denominator := 10 ^ (-exponent).toNat
      if roundUnits numerator denominator > maxUnits then .error .numberError
      else .ok (.ofUnits negative numerator denominator)

namespace Value

def isNull : Value → Bool
  | .null => true
  | _ => false

def getBool : Value → Except Error Bool
  | .boolean value => .ok value
  | _ => .error .incorrectType

def getUInt64 : Value → Except Error UInt64
  | .number token => parseUInt64 token
  | _ => .error .incorrectType

def getInt64 : Value → Except Error Int64
  | .number token => parseInt64 token
  | _ => .error .incorrectType

def getDouble : Value → Except Error Double
  | .number token => parseDouble token
  | _ => .error .incorrectType

def getString : Value → Except Error Bytes
  | .string _ value => .ok value
  | _ => .error .incorrectType

def getArray : Value → Except Error (List Value)
  | .array _ items => .ok items
  | _ => .error .incorrectType

def getObject : Value → Except Error Object
  | .object _ fields => .ok fields
  | _ => .error .incorrectType

/-- `to_json_string`: the text of the value in the document. -/
def toJsonString : Value → Bytes
  | .null => utf8 "null"
  | .boolean true => utf8 "true"
  | .boolean false => utf8 "false"
  | .number token => token
  | .string raw _ => raw
  | .array raw _ => raw
  | .object raw _ => raw

/-! ## Values written without blanks -/

/-- A string that needs no escapes. -/
def ofText (text : String) : Value := .string (utf8 ("\"" ++ text ++ "\"")) (utf8 text)

def ofMembers (members : List (String × Value)) : Value :=
  let texts := members.map fun member =>
    utf8 ("\"" ++ member.1 ++ "\":") ++ member.2.toJsonString
  .object (utf8 "\x7b" ++ List.intercalate (utf8 ",") texts ++ utf8 "\x7d")
    (members.map fun member => (⟨utf8 member.1, utf8 member.1⟩, member.2))

def ofItems (items : List Value) : Value :=
  .array (utf8 "[" ++ List.intercalate (utf8 ",") (items.map toJsonString) ++ utf8 "]") items

end Value

/-- A parser that knows these documents by their texts. -/
def recorded (documents : List Value) (text : Bytes) : Except Error Value :=
  match documents.find? fun value => value.toJsonString = text with
  | some value => .ok value
  | none => .error .invalidDocument

theorem recorded_self (value : Value) : recorded [value] value.toJsonString = .ok value := by
  simp [recorded]

end Foundation.OnDemand
