import HyperliquidSdk.Foundation.OnDemand

/-!
# Reading objects

A reader goes through the fields of an object by name. What it has written to a value of
its own is there after an error as well. It makes no call that could throw anything else
than an error of the JSON interface.
-/

set_option autoImplicit false

namespace Foundation.OnDemand

abbrev Reader (ρ : Type) := StateT Object (ExceptT Error (StateM ρ))

namespace Reader

variable {ρ α : Type}

/-- What a reader makes of an object and of a value. -/
def read (object : Object) (initial : ρ) (reader : Reader ρ α) : Except Error α × ρ :=
  (reader.run' object).run.run initial

/-- Read another object; the place in the outer one stays. -/
def within (object : Object) (reader : Reader ρ α) : Reader ρ α := do
  let outer ← getThe Object
  set object
  let result ← reader
  set outer
  return result

/-- `try` and `catch` around a part of a reader: the error is logged. -/
def attempted (reader : Reader ρ α) : Reader ρ (Option α) :=
  tryCatch (some <$> reader) fun _ => return none

def field (key : String) : Reader ρ Value := do
  match (← getThe Object).find (utf8 key) with
  | some (value, rest) =>
      set rest
      return value
  | none => throw .noSuchField

/-- A field that is read only if it is there and has the type. -/
def optionalField (convert : Value → Except Error α) (key : String) : Reader ρ (Option α) := do
  match (← getThe Object).find (utf8 key) with
  | some (value, rest) =>
      set rest
      return (convert value).toOption
  | none => return none

def stringField (key : String) : Reader ρ Bytes := do (← field key).getString

def boolField (key : String) : Reader ρ Bool := do (← field key).getBool

def uint64Field (key : String) : Reader ρ UInt64 := do (← field key).getUInt64

def doubleField (key : String) : Reader ρ Double := do (← field key).getDouble

def arrayField (key : String) : Reader ρ (List Value) := do (← field key).getArray

def objectField (key : String) : Reader ρ Object := do (← field key).getObject

end Reader

end Foundation.OnDemand
