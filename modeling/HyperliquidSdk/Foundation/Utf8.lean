import HyperliquidSdk.Foundation.OrderedJson

/-!
# UTF-8

Which byte strings are UTF-8, and which JSON values hold no other strings. The keys
of an object are literals of the source and need no check.
-/

set_option autoImplicit false

namespace Foundation

/-- So many bytes of a character are owed, the next one between the bounds. -/
def utf8Owed : Nat → UInt8 → UInt8 → Bytes → Bool
  | 0, _, _, [] => true
  | _ + 1, _, _, [] => false
  | 0, _, _, byte :: rest =>
      if byte < 0x80 then utf8Owed 0 0x80 0xbf rest
      else if 0xc2 ≤ byte ∧ byte ≤ 0xdf then utf8Owed 1 0x80 0xbf rest
      else if byte = 0xe0 then utf8Owed 2 0xa0 0xbf rest
      else if byte = 0xed then utf8Owed 2 0x80 0x9f rest
      else if 0xe1 ≤ byte ∧ byte ≤ 0xef then utf8Owed 2 0x80 0xbf rest
      else if byte = 0xf0 then utf8Owed 3 0x90 0xbf rest
      else if 0xf1 ≤ byte ∧ byte ≤ 0xf3 then utf8Owed 3 0x80 0xbf rest
      else if byte = 0xf4 then utf8Owed 3 0x80 0x8f rest
      else false
  | owed + 1, low, high, byte :: rest =>
      low ≤ byte && byte ≤ high && utf8Owed owed 0x80 0xbf rest

def isUtf8 (bytes : Bytes) : Bool := utf8Owed 0 0x80 0xbf bytes

theorem isUtf8_of_ascii {bytes : Bytes} (ascii : ∀ byte ∈ bytes, byte < 0x80) :
    isUtf8 bytes = true := by
  induction bytes with
  | nil => rfl
  | cons byte rest ih =>
      unfold isUtf8 utf8Owed
      rw [if_pos (ascii byte (List.mem_cons_self ..))]
      exact ih fun other present => ascii other (List.mem_cons_of_mem _ present)

namespace Json

mutual

/-- Every string that the value holds is UTF-8. -/
def isUtf8 : Json → Bool
  | .string value => Foundation.isUtf8 value
  | .array items => itemsUtf8 items
  | .object members => membersUtf8 [] members
  | .null | .boolean _ | .integer _ | .unsigned _ | .float _ => true

def itemsUtf8 : List Json → Bool
  | [] => true
  | item :: rest => isUtf8 item && itemsUtf8 rest

/-- A key has one member: the names seen so far are skipped. -/
def membersUtf8 (seen : List String) : List (String × Json) → Bool
  | [] => true
  | (name, value) :: rest =>
      (seen.contains name || isUtf8 value) && membersUtf8 (name :: seen) rest

end

theorem membersUtf8_iff (seen : List String) (members : List (String × Json)) :
    membersUtf8 seen members = true ↔
      ∀ key value, key ∉ seen → members.lookup key = some value → value.isUtf8 = true := by
  induction members generalizing seen with
  | nil => simp [membersUtf8]
  | cons member rest ih =>
      obtain ⟨name, first⟩ := member
      simp only [membersUtf8, Bool.and_eq_true, Bool.or_eq_true, List.contains_iff_mem, ih]
      constructor
      · intro ⟨head, tail⟩ key value unseen found
        by_cases same : key = name
        · subst same
          simp only [List.lookup_cons_self, Option.some.injEq] at found
          exact found ▸ head.resolve_left unseen
        · rw [lookup_cons_of_ne same] at found
          exact tail key value (by simp [same, unseen]) found
      · intro all
        refine ⟨?_, ?_⟩
        · by_cases present : name ∈ seen
          · exact .inl present
          · exact .inr (all name first present (List.lookup_cons_self ..))
        · intro key value unseen found
          have different : key ≠ name := fun same => unseen (same ▸ List.mem_cons_self ..)
          have fresh : key ∉ seen := fun present => unseen (List.mem_cons_of_mem _ present)
          exact all key value fresh ((lookup_cons_of_ne different).trans found)

/-- The strings under other keys than these are UTF-8. -/
def isUtf8Except (keys : List String) : Json → Prop
  | .object members =>
      ∀ key value, key ∉ keys → members.lookup key = some value → value.isUtf8 = true
  | json => json.isUtf8 = true

theorem isUtf8Except_nil (json : Json) : json.isUtf8Except [] ↔ json.isUtf8 = true := by
  cases json with
  | object members => exact (membersUtf8_iff [] members).symm
  | _ => rfl

theorem isUtf8Except_assign (keys : List String) (key : String) (value : Json)
    (members : List (String × Json)) :
    (object (assign key value members)).isUtf8Except keys ↔
      (key ∉ keys → value.isUtf8 = true) ∧ (object members).isUtf8Except (key :: keys) := by
  constructor
  · intro all
    refine ⟨fun kept => all key value kept (lookup_assign_self key value members), ?_⟩
    intro other found unseen present
    rw [List.mem_cons, not_or] at unseen
    exact all other found unseen.2
      ((lookup_assign_of_ne value members unseen.1).trans present)
  · intro ⟨own, others⟩ other found unseen present
    by_cases same : other = key
    · subst same
      rw [lookup_assign_self, Option.some.injEq] at present
      exact present ▸ own unseen
    · rw [lookup_assign_of_ne value members same] at present
      exact others other found (by simp [same, unseen]) present

/-- An assignment adds its value and hides the member it replaces. -/
theorem isUtf8Except_set {keys : List String} {key : String} {value before after : Json}
    (assigned : before.set key value = .ok after) :
    after.isUtf8Except keys ↔
      (key ∉ keys → value.isUtf8 = true) ∧ before.isUtf8Except (key :: keys) := by
  cases before with
  | object members =>
      obtain rfl := Except.ok.inj assigned
      exact isUtf8Except_assign keys key value members
  | null =>
      obtain rfl := Except.ok.inj assigned
      have empty : (object []).isUtf8Except (key :: keys) := fun _ _ _ absent => by cases absent
      have fresh := isUtf8Except_assign keys key value []
      exact fresh.trans ⟨fun all => ⟨all.1, rfl⟩, fun all => ⟨all.1, empty⟩⟩
  | boolean _ => cases assigned
  | integer _ => cases assigned
  | unsigned _ => cases assigned
  | float _ => cases assigned
  | string _ => cases assigned
  | array _ => cases assigned

theorem isUtf8Except_setOptional {keys : List String} {key : String} {value : Option Json}
    {before after : Json} (assigned : before.setOptional key value = .ok after) :
    after.isUtf8Except keys ↔
      (key ∉ keys → ∀ given ∈ value, given.isUtf8 = true) ∧
        before.isUtf8Except ((value.map fun _ => key).toList ++ keys) := by
  cases value with
  | none =>
      obtain rfl := Except.ok.inj assigned
      simp
  | some given => simpa using isUtf8Except_set assigned

end Json

end Foundation
