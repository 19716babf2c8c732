import HyperliquidSdk.Foundation.OnDemand
import HyperliquidSdk.Foundation.OrderedJson
import HyperliquidSdk.Foundation.Program

/-!
# Decoders of response documents

The helpers that the parsers of `RestApiMessageParser` share. The functions of the
standard library that throw something else than a `simdjson_error` are calls of a
program, so that a parser can be asked which of them it makes.
-/

set_option autoImplicit false

namespace HyperliquidSdk.Rest

open Foundation Foundation.OnDemand

inductive Conversion where
  | stod (text : Bytes)
  | stoi (text : Bytes)
  | substr (text : Bytes) (position count : Nat)
  deriving DecidableEq, Repr

@[reducible] def Conversion.Answer : Conversion → Type
  | .stod _ => Double
  | .stoi _ => Int
  | .substr _ _ _ => Bytes

abbrev Conversions := Program Conversion Conversion.Answer

def throwsAs (function : String) : ConversionError → Exception
  | .invalidArgument => .invalidArgument (utf8 function)
  | .outOfRange => .outOfRange (utf8 function)

def substr (text : Bytes) (position count : Nat) : Result Bytes :=
  if position ≤ text.length then .ok ((text.drop position).take count)
  else .error (.outOfRange (utf8 "basic_string::substr"))

def convert : (conversion : Conversion) → Result conversion.Answer
  | .stod text => (stod text).mapError (throwsAs "stod")
  | .stoi text => (stoi text).mapError (throwsAs "stoi")
  | .substr text position count => substr text position count

/-- What a conversion gives; one that throws is answered by a zero. -/
def answerOf (conversion : Conversion) : conversion.Answer :=
  match convert conversion with
  | .ok answer => answer
  | .error _ =>
      match conversion with
      | .stod _ => Double.zero
      | .stoi _ => (0 : Int)
      | .substr _ _ _ => ([] : Bytes)

theorem answerOf_agrees : Program.Agrees convert answerOf := by
  intro conversion result converted
  unfold answerOf
  rw [converted]

/-- A decoder throws `simdjson_error`s, which leaves what it has written to the response.
It knows the object that it reads, with the place where the next search starts. -/
abbrev Decoder (ρ : Type) := StateT Object (ExceptT Error (StateT ρ Conversions))

variable {ρ σ α β : Type}

def perform (conversion : Conversion) : Decoder ρ conversion.Answer :=
  StateT.lift (ExceptT.lift (StateT.lift (Program.ask conversion)))

/-- Decode another object; the place in the outer one stays. -/
def within (object : Object) (decoder : Decoder ρ α) : Decoder ρ α := do
  let outer ← getThe Object
  set object
  let decoded ← decoder
  set outer
  return decoded

/-- Decode an object into a value of its own, which is there even if that fails. -/
def attempt (object : Object) (initial : σ) (decoder : Decoder σ Unit) :
    Conversions (Except Error Unit × σ) :=
  (decoder.run' object).run.run initial

/-- `try` and `catch` around a part of a decoder: the error is logged. -/
def logged (decoder : Decoder ρ Unit) : Decoder ρ Unit := tryCatch decoder fun _ => pure ()

/-! ## Numbers -/

def toDouble (text : Bytes) : Decoder ρ Double :=
  if text.isEmpty then return .zero else perform (.stod text)

/-- The number of a value that is written as a string or as a number. -/
def toNumber (value : Value) : Decoder ρ Double :=
  match value.getString with
  | .ok text => toDouble text
  | .error _ => value.getDouble

/-- `static_cast<int>(value.get_int64())`. -/
def getInt (value : Value) : Except Error Int32 := Int64.toInt32 <$> value.getInt64

/-! ## Fields of an object -/

def field (key : String) : Decoder ρ Value := do
  match (← getThe Object).find (utf8 key) with
  | some (value, rest) =>
      set rest
      return value
  | none => throw .noSuchField

/-- A field that is read only if it is there and has the type. -/
def optionalField (read : Value → Except Error α) (key : String) :
    Decoder ρ (Option α) := do
  match (← getThe Object).find (utf8 key) with
  | some (value, rest) =>
      set rest
      return (read value).toOption
  | none => return none

/-- A field that is there and not null. -/
def presentField (key : String) : Decoder ρ (Option Value) := do
  let value ← optionalField .ok key
  return value.filter fun value => !value.isNull

def stringField (key : String) : Decoder ρ Bytes := do (← field key).getString

def boolField (key : String) : Decoder ρ Bool := do (← field key).getBool

def uint64Field (key : String) : Decoder ρ UInt64 := do (← field key).getUInt64

def int64Field (key : String) : Decoder ρ Int64 := do (← field key).getInt64

def intField (key : String) : Decoder ρ Int32 := do getInt (← field key)

def arrayField (key : String) : Decoder ρ (List Value) := do (← field key).getArray

def objectField (key : String) : Decoder ρ Object := do (← field key).getObject

def doubleField (key : String) : Decoder ρ Double := do toDouble (← stringField key)

def parseNumberField (key : String) : Decoder ρ Double := do toNumber (← field key)

/-- `sideStr.size() > 0 ? sideStr[0] : '?'`. -/
def sideField (key : String) : Decoder ρ UInt8 := do return (← stringField key).headD 63

/-! ## Arrays -/

def doubleOf (value : Value) : Decoder ρ Double := do toDouble (← value.getString)

/-- An array that is read as a pair; one that is too short is skipped. -/
def parsePair (readFirst : Value → Except Error α) (readSecond : Value → Decoder ρ β)
    (entry : Value) : Decoder ρ (Option (α × β)) := do
  match ← entry.getArray with
  | [] => return none
  | first :: rest =>
      let first ← readFirst first
      match rest with
      | [] => return none
      | second :: _ =>
          let second ← readSecond second
          return some (first, second)

/-- The first two elements of an array; one that is missing keeps its initial value. -/
def firstTwo (read : Value → Except Error α) (initial : α) : List Value → Except Error (α × α)
  | [] => return (initial, initial)
  | [first] => do return (← read first, initial)
  | first :: second :: _ => do return (← read first, ← read second)

/-! ## Documents -/

/-- What a parser has after `iterate`: `validateStructure` reads the whole document
before the decoder does. -/
def decodeDocument (document : Bytes → Except Error Value) (initial : ρ) (message : Bytes)
    (decoder : Value → Decoder ρ Unit) : Conversions (Except Error Unit × ρ) :=
  match document message with
  | .error error => pure (.error error, initial)
  | .ok value => attempt [] initial (decoder value)

/-- A parser that logs a `simdjson_error` and returns what it has. -/
def parseDocument (document : Bytes → Except Error Value) (initial : ρ) (message : Bytes)
    (decoder : Value → Decoder ρ Unit) : Conversions ρ := do
  let (_, response) ← decodeDocument document initial message decoder
  return response

end HyperliquidSdk.Rest
