import Mathlib.Data.List.Basic

/-!
# Maps filled by registrations

A key may be registered as a name, which overwrites, or as an alias, which yields to
everything that is there.
-/

set_option autoImplicit false

namespace Foundation

section FirstAndLast

variable {α : Type}

/-- The first element of the list of which `p` holds. -/
def IsFirst (p : α → Prop) (elements : List α) (element : α) : Prop :=
  ∃ before after, elements = before ++ element :: after ∧ p element ∧ ∀ other ∈ before, ¬ p other

/-- The last element of the list of which `p` holds. -/
def IsLast (p : α → Prop) (elements : List α) (element : α) : Prop :=
  ∃ before after, elements = before ++ element :: after ∧ p element ∧ ∀ other ∈ after, ¬ p other

theorem isFirst_nil {p : α → Prop} {element : α} : ¬ IsFirst p [] element := by
  rintro ⟨before, after, split, -⟩
  exact List.append_ne_nil_of_right_ne_nil before (List.cons_ne_nil element after) split.symm

theorem isFirst_cons_iff {p : α → Prop} {head element : α} {rest : List α} :
    IsFirst p (head :: rest) element ↔
      p head ∧ element = head ∨ ¬ p head ∧ IsFirst p rest element := by
  constructor
  · rintro ⟨before, after, split, holds, others⟩
    cases before with
    | nil =>
        obtain ⟨rfl, rfl⟩ := List.cons.inj split
        exact .inl ⟨holds, rfl⟩
    | cons first before =>
        obtain ⟨rfl, rfl⟩ := List.cons.inj split
        rw [List.forall_mem_cons] at others
        exact .inr ⟨others.1, before, after, rfl, holds, others.2⟩
  · rintro (⟨holds, rfl⟩ | ⟨fails, before, after, rfl, holds, others⟩)
    · exact ⟨[], rest, rfl, holds, by simp⟩
    · exact ⟨head :: before, after, rfl, holds, List.forall_mem_cons.mpr ⟨fails, others⟩⟩

theorem isFirst_reverse_iff {p : α → Prop} {elements : List α} {element : α} :
    IsFirst p elements.reverse element ↔ IsLast p elements element := by
  constructor
  · rintro ⟨before, after, split, holds, others⟩
    refine ⟨after.reverse, before.reverse, ?_, holds, fun other member =>
      others other (List.mem_reverse.mp member)⟩
    rw [← List.reverse_reverse elements, split]
    simp
  · rintro ⟨before, after, rfl, holds, others⟩
    exact ⟨after.reverse, before.reverse, by simp, holds, fun other member =>
      others other (List.mem_reverse.mp member)⟩

end FirstAndLast

section Registration

variable {κ ν : Type} [BEq κ]

/-- Insert a value or assign to the one that is there. -/
def assign (map : List (κ × ν)) (key : κ) (value : ν) : List (κ × ν) := (key, value) :: map

/-- Insert a value unless there is one. -/
def insertNew (map : List (κ × ν)) (key : κ) (value : ν) : List (κ × ν) :=
  if (map.lookup key).isSome then map else (key, value) :: map

theorem lookup_assign (map : List (κ × ν)) (key other : κ) (value : ν) :
    (assign map key value).lookup other = if other == key then some value else map.lookup other := by
  rw [assign, List.lookup_cons]
  cases other == key with
  | true => rfl
  | false => rfl

/-- The value registered last under a key. -/
def lastOf (entries : List (κ × ν)) (key : κ) : Option ν := entries.reverse.lookup key

/-- The map that names and aliases registered so far, in this order, have to give: the last
value of a name, and where there is no name, the first of an alias. -/
def Reflects (map names aliases : List (κ × ν)) : Prop :=
  ∀ key, map.lookup key = (lastOf names key).or (aliases.lookup key)

theorem lastOf_append_singleton (entries : List (κ × ν)) (key other : κ) (value : ν) :
    lastOf (entries ++ [(key, value)]) other =
      if other == key then some value else lastOf entries other := by
  rw [lastOf, List.reverse_append]
  exact lookup_assign entries.reverse key other value

theorem Reflects.nil : Reflects ([] : List (κ × ν)) [] [] := fun _ => rfl

theorem Reflects.assign {map names aliases : List (κ × ν)} (reflects : Reflects map names aliases)
    (key : κ) (value : ν) :
    Reflects (assign map key value) (names ++ [(key, value)]) aliases := by
  intro other
  rw [lookup_assign, lastOf_append_singleton, reflects other]
  cases other == key with
  | true => rfl
  | false => rfl

theorem Reflects.assign_all {map names aliases : List (κ × ν)}
    (reflects : Reflects map names aliases) (entries : List (κ × ν)) :
    Reflects (entries.foldl (fun map entry => Foundation.assign map entry.1 entry.2) map)
      (names ++ entries) aliases := by
  induction entries generalizing map names with
  | nil => rwa [List.append_nil]
  | cons entry rest ih =>
      have following := ih (reflects.assign entry.1 entry.2)
      rwa [List.append_assoc] at following

variable [LawfulBEq κ]

theorem lookup_insertNew (map : List (κ × ν)) (key other : κ) (value : ν) :
    (insertNew map key value).lookup other =
      (map.lookup other).or (if other == key then some value else none) := by
  unfold insertNew
  by_cases same : other = key
  · subst same
    cases found : map.lookup other with
    | none => simp
    | some present => simp [found]
  · have differs : (other == key) = false := beq_eq_false_iff_ne.mpr same
    cases (map.lookup key).isSome with
    | true => simp [differs]
    | false => simpa [differs, assign] using lookup_assign map key other value

theorem Reflects.insertNew {map names aliases : List (κ × ν)}
    (reflects : Reflects map names aliases) (key : κ) (value : ν) :
    Reflects (insertNew map key value) names (aliases ++ [(key, value)]) := by
  intro other
  rw [lookup_insertNew, List.lookup_append, reflects other, Option.or_assoc]
  have entry := lookup_assign [] key other value
  rw [List.lookup_nil] at entry
  rw [← entry, Foundation.assign]

theorem lookup_filterMap_eq_some_iff {α : Type} {entry : α → Option (κ × ν)} {key : κ} {value : ν}
    {elements : List α} :
    (elements.filterMap entry).lookup key = some value ↔
      ∃ element, IsFirst (fun element => ∃ value, entry element = some (key, value)) elements
        element ∧ entry element = some (key, value) := by
  induction elements with
  | nil =>
      refine iff_of_false (by simp) ?_
      rintro ⟨element, first, -⟩
      exact isFirst_nil first
  | cons head rest ih =>
      simp only [isFirst_cons_iff]
      cases registered : entry head with
      | none =>
          rw [List.filterMap_cons_none registered, ih]
          simp
      | some pair =>
          rw [List.filterMap_cons_some registered]
          by_cases same : key = pair.1
          · subst same
            rw [List.lookup_cons_self]
            constructor
            · intro equal
              refine ⟨head, .inl ⟨⟨pair.2, rfl⟩, rfl⟩, ?_⟩
              rw [registered, ← Option.some.inj equal]
            · rintro ⟨element, ⟨-, rfl⟩ | ⟨fails, -⟩, equal⟩
              · rw [registered] at equal
                rw [Option.some.inj equal]
              · exact (fails ⟨pair.2, rfl⟩).elim
          · have other : (pair :: rest.filterMap entry).lookup key =
                (rest.filterMap entry).lookup key :=
              (lookup_assign _ pair.1 key pair.2).trans (if_neg (by simpa using same))
            have differs : ∀ value, some pair ≠ some (key, value) := by
              rintro value equal
              exact same (congrArg Prod.fst (Option.some.inj equal)).symm
            rw [other, ih]
            simp [differs]

theorem lookup_filterMap_eq_none_iff {α : Type} {entry : α → Option (κ × ν)} {key : κ}
    {elements : List α} :
    (elements.filterMap entry).lookup key = none ↔
      ∀ element ∈ elements, ∀ value, entry element ≠ some (key, value) := by
  rw [List.lookup_eq_none_iff]
  constructor
  · intro absent element member value equal
    have found := absent (key, value) (List.mem_filterMap.mpr ⟨element, member, equal⟩)
    exact bne_iff_ne.mp found rfl
  · intro absent other member
    obtain ⟨source, listed, equal⟩ := List.mem_filterMap.mp member
    rw [bne_iff_ne]
    rintro rfl
    exact absent source listed other.2 equal

theorem lastOf_map_eq_some_iff {α : Type} {entry : α → κ × ν} {key : κ} {value : ν}
    {elements : List α} :
    lastOf (elements.map entry) key = some value ↔
      ∃ element, IsLast (fun element => (entry element).1 = key) elements element ∧
        (entry element).2 = value := by
  rw [lastOf, ← List.map_reverse, ← List.filterMap_eq_map', lookup_filterMap_eq_some_iff]
  simp only [Option.some.injEq, Prod.ext_iff, exists_and_left, exists_eq', and_true,
    isFirst_reverse_iff]
  constructor
  · rintro ⟨element, last, -, equal⟩
    exact ⟨element, last, equal⟩
  · rintro ⟨element, last, equal⟩
    obtain ⟨before, after, split, named, others⟩ := last
    exact ⟨element, ⟨before, after, split, named, others⟩, named, equal⟩

theorem lastOf_map_eq_none_iff {α : Type} {entry : α → κ × ν} {key : κ} {elements : List α} :
    lastOf (elements.map entry) key = none ↔ ∀ element ∈ elements, (entry element).1 ≠ key := by
  rw [lastOf, List.lookup_eq_none_iff]
  simp only [List.mem_reverse, List.forall_mem_map, bne_iff_ne, ne_comm]

end Registration

end Foundation
