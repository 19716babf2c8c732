import HyperliquidSdk.Foundation.Binary64
import HyperliquidSdk.Foundation.Bytes

/-!
# Ordered JSON values

The part of `nlohmann::ordered_json` that builds and reads values. An object is
the list of its members in insertion order, and a key finds its first member.
-/

set_option autoImplicit false

namespace Foundation

/-- The C++ exceptions, with the identifiers of the JSON library's own. What the
library leaves undefined is an outcome of its own. -/
inductive Exception where
  | invalidArgument (what : Bytes)
  | outOfRange (what : Bytes)
  | runtimeError (what : Bytes)
  | jsonTypeError (id : Nat)
  | jsonOutOfRange (id : Nat)
  | undefinedBehaviour
  deriving DecidableEq, Repr

abbrev Result := Except Exception

@[simp] theorem ok_bind {α β : Type} (value : α) (next : α → Result β) :
    (Except.ok value >>= next) = next value := rfl

@[simp] theorem error_bind {α β : Type} (exception : Exception) (next : α → Result β) :
    ((Except.error exception : Result α) >>= next) = .error exception := rfl

@[simp] theorem throw_eq_error {α : Type} (exception : Exception) :
    (throw exception : Result α) = .error exception := rfl

@[simp] theorem map_error {α β : Type} (change : α → β) (exception : Exception) :
    (change <$> (Except.error exception : Result α)) = .error exception := rfl

theorem bind_eq_ok {α β : Type} {computation : Result α} {next : α → Result β} {value : β}
    (succeeded : (computation >>= next) = .ok value) :
    ∃ intermediate, computation = .ok intermediate ∧ next intermediate = .ok value := by
  cases computation with
  | error exception => cases succeeded
  | ok intermediate => exact ⟨intermediate, rfl, succeeded⟩

theorem bind_eq_error {α β : Type} {computation : Result α} {next : α → Result β}
    {exception : Exception} (thrown : (computation >>= next) = .error exception) :
    computation = .error exception ∨
      ∃ intermediate, computation = .ok intermediate ∧ next intermediate = .error exception := by
  cases computation with
  | error failure => exact .inl (by rw [Except.error.inj thrown])
  | ok intermediate => exact .inr ⟨intermediate, rfl, thrown⟩

theorem map_eq_ok {α β : Type} {change : α → β} {computation : Result α} {value : β}
    (succeeded : change <$> computation = .ok value) :
    ∃ returned, computation = .ok returned ∧ value = change returned := by
  cases computation with
  | error exception => cases succeeded
  | ok returned => exact ⟨returned, rfl, (Except.ok.inj succeeded).symm⟩

theorem ok_of_toOption_eq {α : Type} {first second : Result α} {value : α}
    (same : first.toOption = second.toOption) (returns : first = .ok value) :
    second = .ok value := by
  subst returns
  cases second with
  | error exception => cases same
  | ok other => rw [Option.some.inj same]

theorem toOption_eq_some_iff {ε α : Type} {extracted : Except ε α} {value : α} :
    extracted.toOption = some value ↔ extracted = .ok value := by
  cases extracted <;> simp [Except.toOption]

theorem toOption_eq_none {α : Type} {computation : Result α}
    (throws : ∀ value, computation ≠ .ok value) : computation.toOption = none := by
  cases computation with
  | error exception => rfl
  | ok value => exact absurd rfl (throws value)

inductive Json where
  | null
  | boolean (value : Bool)
  | integer (value : Int64)
  | unsigned (value : UInt64)
  | float (value : Double)
  | string (value : Bytes)
  | array (items : List Json)
  | object (members : List (String × Json))

namespace Json

/-- The string value of a source literal. -/
def text (literal : String) : Json := .string (utf8 literal)

def assign (key : String) (value : Json) : List (String × Json) → List (String × Json)
  | [] => [(key, value)]
  | (name, old) :: rest =>
      if name = key then (name, value) :: rest else (name, old) :: assign key value rest

/-- `json[key] = value`. -/
def set (json : Json) (key : String) (value : Json) : Result Json :=
  match json with
  | .null => .ok (.object [(key, value)])
  | .object members => .ok (.object (assign key value members))
  | _ => .error (.jsonTypeError 305)

@[simp] theorem set_object (members : List (String × Json)) (key : String) (value : Json) :
    (object members).set key value = .ok (.object (assign key value members)) := rfl

def setOptional (json : Json) (key : String) (value : Option Json) : Result Json :=
  match value with
  | some value => json.set key value
  | none => .ok json

/-- The member an object has under the key. -/
def member? (key : String) : Json → Option Json
  | .object members => members.lookup key
  | _ => none

@[simp] theorem member?_object (key : String) (members : List (String × Json)) :
    (object members).member? key = members.lookup key := rfl

/-- `json[key]` on a value that may change: a missing member is created as null. -/
def index (key : String) : Json → Result Json
  | .null => .ok .null
  | .object members => .ok ((members.lookup key).getD .null)
  | _ => .error (.jsonTypeError 305)

@[simp] theorem index_object (members : List (String × Json)) (key : String) :
    (object members).index key = .ok ((members.lookup key).getD .null) := rfl

/-- `json[key]` on a constant value. -/
def indexConst (key : String) : Json → Result Json
  | .object members =>
      match members.lookup key with
      | some value => .ok value
      | none => .error .undefinedBehaviour
  | _ => .error (.jsonTypeError 305)

/-- `json.at(key)`. -/
def atKey (key : String) : Json → Result Json
  | .object members =>
      match members.lookup key with
      | some value => .ok value
      | none => .error (.jsonOutOfRange 403)
  | _ => .error (.jsonTypeError 304)

def contains (key : String) (json : Json) : Bool := (json.member? key).isSome

/-- `json.erase(key)`. -/
def erase (key : String) : Json → Result Json
  | .object members => .ok (.object (members.eraseP fun member => member.1 = key))
  | _ => .error (.jsonTypeError 307)

def getString : Json → Result Bytes
  | .string value => .ok value
  | _ => .error (.jsonTypeError 302)

def getBool : Json → Result Bool
  | .boolean value => .ok value
  | _ => .error (.jsonTypeError 302)

/-- `get<uint64_t>()`: a number is converted as by `static_cast`. -/
def getUInt64 : Json → Result UInt64
  | .unsigned value => .ok value
  | .integer value => .ok value.toUInt64
  | .float (.finite false units _) =>
      if units / unitsPerOne < 2 ^ 64 then .ok (.ofNat (units / unitsPerOne))
      else .error .undefinedBehaviour
  | .float (.finite true units _) =>
      if units < unitsPerOne then .ok 0 else .error .undefinedBehaviour
  | .float _ => .error .undefinedBehaviour
  | _ => .error (.jsonTypeError 302)

theorem lookup_assign_self (key : String) (value : Json) (members : List (String × Json)) :
    (assign key value members).lookup key = some value := by
  induction members with
  | nil => simp [assign]
  | cons member rest ih =>
      simp only [assign]
      split
      · next same => simp [same]
      · next different => rw [List.lookup_cons, beq_eq_false_iff_ne.mpr (Ne.symm different), ih]

theorem lookup_cons_of_ne {key other : String} {value : Json} {members : List (String × Json)}
    (different : other ≠ key) : ((key, value) :: members).lookup other = members.lookup other := by
  rw [List.lookup_cons, beq_eq_false_iff_ne.mpr different]

theorem lookup_assign_of_ne {key other : String} (value : Json) (members : List (String × Json))
    (different : other ≠ key) :
    (assign key value members).lookup other = members.lookup other := by
  induction members with
  | nil => exact lookup_cons_of_ne different
  | cons member rest ih =>
      obtain ⟨name, old⟩ := member
      simp only [assign]
      split
      · next same =>
          have absent : other ≠ name := fun equal => different (equal.trans same)
          rw [lookup_cons_of_ne absent, lookup_cons_of_ne absent]
      · rw [List.lookup_cons, List.lookup_cons, ih]

/-- A successful assignment changes one member. -/
theorem set_eq_ok {key : String} {value before after : Json}
    (assigned : before.set key value = .ok after) :
    after.member? key = some value ∧
      ∀ other, other ≠ key → after.member? other = before.member? other := by
  cases before with
  | null =>
      obtain rfl := Except.ok.inj assigned
      exact ⟨lookup_assign_self key value [], fun other different =>
        lookup_assign_of_ne value [] different⟩
  | object members =>
      obtain rfl := Except.ok.inj assigned
      exact ⟨lookup_assign_self key value members, fun other different =>
        lookup_assign_of_ne value members different⟩
  | boolean _ => cases assigned
  | integer _ => cases assigned
  | unsigned _ => cases assigned
  | float _ => cases assigned
  | string _ => cases assigned
  | array _ => cases assigned

theorem setOptional_other {key other : String} {value : Option Json} {before after : Json}
    (assigned : before.setOptional key value = .ok after) (different : other ≠ key) :
    after.member? other = before.member? other := by
  cases value with
  | none => rw [Except.ok.inj assigned]
  | some value => exact (set_eq_ok assigned).2 other different

theorem index_eq_ok {key : String} {json value : Json} (indexed : json.index key = .ok value) :
    value = (json.member? key).getD .null := by
  cases json with
  | null => exact (Except.ok.inj indexed).symm
  | object members => exact (Except.ok.inj indexed).symm
  | boolean _ => cases indexed
  | integer _ => cases indexed
  | unsigned _ => cases indexed
  | float _ => cases indexed
  | string _ => cases indexed
  | array _ => cases indexed

theorem atKey_eq_ok {key : String} {json value : Json} (found : json.atKey key = .ok value) :
    json.member? key = some value := by
  cases json with
  | object members =>
      cases present : members.lookup key with
      | none => simp only [atKey, present] at found; cases found
      | some other =>
          simp only [atKey, present] at found
          rw [member?_object, present, Except.ok.inj found]
  | null => cases found
  | boolean _ => cases found
  | integer _ => cases found
  | unsigned _ => cases found
  | float _ => cases found
  | string _ => cases found
  | array _ => cases found

theorem getString_eq_ok {json : Json} {value : Bytes} (read : json.getString = .ok value) :
    json = .string value := by
  cases json with
  | string _ => rw [Except.ok.inj read]
  | null => cases read
  | boolean _ => cases read
  | integer _ => cases read
  | unsigned _ => cases read
  | float _ => cases read
  | array _ => cases read
  | object _ => cases read

end Json

end Foundation
