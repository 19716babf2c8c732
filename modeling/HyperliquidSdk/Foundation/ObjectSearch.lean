import HyperliquidSdk.Foundation.OnDemand
import Mathlib.Data.List.Nodup
import Mathlib.Data.List.TakeDrop
import Mathlib.Data.List.TakeWhile

/-!
# Searches in an object

A search gives the first field with the name from where the last one ended. After it, the
object has the same fields in another order.
-/

set_option autoImplicit false

namespace Foundation.OnDemand.Object

theorem find_eq_some_iff {name : Bytes} {object rest : Object} {member : Value} :
    object.find name = some (member, rest) ↔
      ∃ skipped key others, object = skipped ++ (key, member) :: others ∧ key.raw = name ∧
        (∀ field ∈ skipped, field.1.raw ≠ name) ∧ rest = others ++ skipped ++ [(key, member)] := by
  unfold find
  rw [List.span_eq_takeWhile_dropWhile]
  have whole := List.takeWhile_append_dropWhile
    (p := fun field : Key × Value => decide (field.1.raw ≠ name)) (l := object)
  have before : ∀ field ∈ object.takeWhile fun field => field.1.raw ≠ name, field.1.raw ≠ name :=
    fun field present => by simpa using List.mem_takeWhile_imp present
  constructor
  · intro found
    cases following : object.dropWhile fun field => field.1.raw ≠ name with
    | nil =>
        rw [following] at found
        cases found
    | cons field others =>
        have named := List.head?_dropWhile_not
          (fun field : Key × Value => decide (field.1.raw ≠ name)) object
        rw [following] at named whole found
        obtain ⟨key, value⟩ := field
        cases found
        exact ⟨_, key, others, whole.symm, by simpa using named, before, rfl⟩
  · intro ⟨skipped, key, others, split, named, notBefore, after⟩
    have all : ∀ field ∈ skipped, decide (field.1.raw ≠ name) = true :=
      fun field present => by simpa using notBefore field present
    rw [split, List.takeWhile_append_of_pos all, List.dropWhile_append_of_pos all]
    simp [named, after]

theorem find_eq_none_iff {name : Bytes} {object : Object} :
    object.find name = none ↔ ∀ field ∈ object, field.1.raw ≠ name := by
  unfold find
  rw [List.span_eq_takeWhile_dropWhile]
  cases following : object.dropWhile fun field => field.1.raw ≠ name with
  | nil =>
      have all := List.dropWhile_eq_nil_iff.mp following
      simpa [following] using all
  | cons field others =>
      have named := List.head?_dropWhile_not
        (fun field : Key × Value => decide (field.1.raw ≠ name)) object
      rw [following] at named
      have present : field ∈ object :=
        (List.dropWhile_suffix _).subset (following ▸ List.mem_cons_self)
      refine iff_of_false (by simp) fun none => ?_
      simp [none field present] at named

/-- The object after a search has the fields it had. -/
theorem find_perm {name : Bytes} {object rest : Object} {member : Value}
    (found : object.find name = some (member, rest)) : rest.Perm object := by
  obtain ⟨skipped, key, others, rfl, -, -, rfl⟩ := find_eq_some_iff.mp found
  rw [List.append_assoc]
  exact List.perm_append_comm.trans (by simp)

theorem find_mem {name : Bytes} {object rest : Object} {member : Value}
    (found : object.find name = some (member, rest)) :
    ∃ key, (key, member) ∈ object ∧ key.raw = name := by
  obtain ⟨skipped, key, others, rfl, named, -, -⟩ := find_eq_some_iff.mp found
  exact ⟨key, by simp, named⟩

/-- The value is of the type that the conversion asks for. -/
def Gives {α : Type} (convert : Value → Except Error α) (value : Value) : Prop :=
  ∃ result, convert value = .ok result

/-- The object has a field of the name, and whatever has the name is of the kind. -/
structure Holds (object : Object) (name : Bytes) (Kind : Value → Prop) : Prop where
  present : ∃ field ∈ object, field.1.raw = name
  kind : ∀ field ∈ object, field.1.raw = name → Kind field.2

theorem Holds.of_only {object : Object} {name : Bytes} {Kind : Value → Prop} {key : Key}
    {member : Value} (only : (object.filter fun field => field.1.raw = name) = [(key, member)])
    (kind : Kind member) : object.Holds name Kind := by
  have isField : (key, member) ∈ object.filter fun field => field.1.raw = name :=
    only ▸ List.mem_singleton_self _
  obtain ⟨present, isNamed⟩ := List.mem_filter.mp isField
  refine ⟨⟨_, present, by simpa using isNamed⟩, fun field isPresent sameName => ?_⟩
  have kept : field ∈ object.filter fun field => field.1.raw = name :=
    List.mem_filter.mpr ⟨isPresent, by simpa using sameName⟩
  rw [only] at kept
  obtain rfl := List.mem_singleton.mp kept
  exact kind

/-- A search changes the order only. -/
theorem Holds.perm {object rest : Object} {name : Bytes} {Kind : Value → Prop}
    (holds : object.Holds name Kind) (same : rest.Perm object) : rest.Holds name Kind := by
  obtain ⟨field, isField, named⟩ := holds.present
  exact ⟨⟨field, same.mem_iff.mpr isField, named⟩,
    fun other isOther => holds.kind other (same.mem_iff.mp isOther)⟩

theorem Holds.find {object : Object} {name : Bytes} {Kind : Value → Prop}
    (holds : object.Holds name Kind) :
    ∃ member rest, object.find name = some (member, rest) ∧ Kind member ∧ rest.Perm object := by
  cases found : object.find name with
  | none =>
      obtain ⟨field, isField, named⟩ := holds.present
      exact absurd named (find_eq_none_iff.mp found field isField)
  | some outcome =>
      obtain ⟨member, rest⟩ := outcome
      obtain ⟨key, isField, named⟩ := find_mem found
      exact ⟨member, rest, rfl, holds.kind _ isField named, find_perm found⟩

/-! ## Two places in an object -/

/-- Searches from the one place and from the other find the same members of the object. -/
structure SearchesAlike (start : Object) (Places : Object → Object → Prop) : Prop where
  perm : ∀ {first second : Object}, Places first second → first.Perm start
  found : ∀ {first second rest otherRest : Object} {name : Bytes} {member otherMember : Value},
    Places first second → first.find name = some (member, rest) →
    second.find name = some (otherMember, otherRest) →
      otherMember = member ∧ Places rest otherRest
  absent : ∀ {first second : Object} {name : Bytes}, Places first second →
    (first.find name = none ↔ second.find name = none)

/-- Both are at one place. -/
def SamePlace (start first second : Object) : Prop := second = first ∧ first.Perm start

theorem samePlace_alike (start : Object) : start.SearchesAlike (SamePlace start) where
  perm same := same.2
  found same inFirst inSecond := by
    obtain ⟨rfl, perm⟩ := same
    rw [inFirst] at inSecond
    cases inSecond
    exact ⟨rfl, rfl, (find_perm inFirst).trans perm⟩
  absent same := by rw [same.1]

/-- They may be anywhere. -/
def AnyPlaces (start first second : Object) : Prop := first.Perm start ∧ second.Perm start

/-- No two fields have one name. -/
def DistinctNames (object : Object) : Prop := (object.map fun field => field.1.raw).Nodup

theorem DistinctNames.unique {object : Object} (distinct : object.DistinctNames)
    {first second : Key} {member other : Value} (isFirst : (first, member) ∈ object)
    (isSecond : (second, other) ∈ object) (same : first.raw = second.raw) : other = member :=
  (Prod.mk.inj (List.inj_on_of_nodup_map distinct isSecond isFirst same.symm)).2

theorem anyPlaces_alike {start : Object} (distinct : start.DistinctNames) :
    start.SearchesAlike (AnyPlaces start) where
  perm places := places.1
  found places inFirst inSecond := by
    obtain ⟨first, isFirst, firstNamed⟩ := find_mem inFirst
    obtain ⟨second, isSecond, secondNamed⟩ := find_mem inSecond
    refine ⟨?_, (find_perm inFirst).trans places.1, (find_perm inSecond).trans places.2⟩
    exact distinct.unique (places.1.mem_iff.mp isFirst) (places.2.mem_iff.mp isSecond)
      (firstNamed.trans secondNamed.symm)
  absent places := by
    rw [find_eq_none_iff, find_eq_none_iff]
    have same := places.1.trans places.2.symm
    exact ⟨fun none field present => none field (same.mem_iff.mpr present),
      fun none field present => none field (same.mem_iff.mp present)⟩

/-- Either none of the two searches finds the name, or both find the same member. -/
theorem SearchesAlike.find {start : Object} {Places : Object → Object → Prop}
    (alike : start.SearchesAlike Places) {first second : Object} (places : Places first second)
    (name : Bytes) :
    first.find name = none ∧ second.find name = none ∨
      ∃ member rest otherRest, first.find name = some (member, rest) ∧
        second.find name = some (member, otherRest) ∧ Places rest otherRest := by
  cases inFirst : first.find name with
  | none => exact .inl ⟨rfl, (alike.absent places).mp inFirst⟩
  | some step =>
      obtain ⟨member, rest⟩ := step
      cases inSecond : second.find name with
      | none =>
          rw [(alike.absent places).mpr inSecond] at inFirst
          cases inFirst
      | some otherStep =>
          obtain ⟨otherMember, otherRest⟩ := otherStep
          obtain ⟨rfl, next⟩ := alike.found places inFirst inSecond
          exact .inr ⟨otherMember, rest, otherRest, rfl, rfl, next⟩

theorem SearchesAlike.member {start : Object} {Places : Object → Object → Prop}
    (alike : start.SearchesAlike Places) {first second rest : Object} {name : Bytes}
    {member : Value} (places : Places first second) (found : first.find name = some (member, rest)) :
    ∃ key, (key, member) ∈ start ∧ key.raw = name := by
  obtain ⟨key, present, named⟩ := find_mem found
  exact ⟨key, (alike.perm places).mem_iff.mp present, named⟩

/-! ## Searches one after the other -/

/-- What is found under the name when these names are looked up in turn. -/
def seek (name : String) : List String → Object → Option Value
  | [], _ => none
  | next :: names, object =>
      match object.find (utf8 next) with
      | none => if next = name then none else seek name names object
      | some (member, rest) => if next = name then some member else seek name names rest

/-- Some of the searches are done, and these names are still to be looked up from here. -/
structure Ahead (order : List String) (start : Object) (names : List String) (object : Object) :
    Prop where
  perm : object.Perm start
  same : ∀ name ∈ names, seek name order start = seek name names object

namespace Ahead

variable {order names : List String} {start object : Object} {next : String}

theorem all (order : List String) (object : Object) : Ahead order object order object :=
  ⟨.refl object, fun _ _ => rfl⟩

theorem found (ahead : Ahead order start (next :: names) object) (fresh : next ∉ names)
    {member : Value} {rest : Object} (found : object.find (utf8 next) = some (member, rest)) :
    seek next order start = some member ∧ Ahead order start names rest := by
  refine ⟨?_, (find_perm found).trans ahead.perm, fun name listed => ?_⟩
  · rw [ahead.same next (List.mem_cons_self ..), seek, found]
    exact if_pos rfl
  · have other : next ≠ name := fun same => fresh (same ▸ listed)
    rw [ahead.same name (List.mem_cons_of_mem _ listed), seek, found]
    exact if_neg other

theorem absent (ahead : Ahead order start (next :: names) object) (fresh : next ∉ names)
    (absent : object.find (utf8 next) = none) :
    seek next order start = none ∧ Ahead order start names object := by
  refine ⟨?_, ahead.perm, fun name listed => ?_⟩
  · rw [ahead.same next (List.mem_cons_self ..), seek, absent]
    exact if_pos rfl
  · have other : next ≠ name := fun same => fresh (same ▸ listed)
    rw [ahead.same name (List.mem_cons_of_mem _ listed), seek, absent]
    exact if_neg other

end Ahead

theorem seek_mem {name : String} {names : List String} {object : Object} {member : Value}
    (found : seek name names object = some member) :
    ∃ key, (key, member) ∈ object ∧ key.raw = utf8 name := by
  induction names generalizing object with
  | nil => cases found
  | cons next names ih =>
      rw [seek] at found
      cases search : object.find (utf8 next) with
      | none =>
          rw [search] at found
          exact ih (Option.ite_none_left_eq_some.mp found).2
      | some step =>
          obtain ⟨other, rest⟩ := step
          simp only [search] at found
          split_ifs at found with isNext
          · obtain rfl := Option.some.inj found
            exact isNext ▸ find_mem search
          · obtain ⟨key, present, named⟩ := ih found
            exact ⟨key, (find_perm search).mem_iff.mp present, named⟩

/-- A name that some field has is found. -/
theorem seek_isSome {name : String} {names : List String} (listed : name ∈ names) {object : Object}
    (present : ∃ field ∈ object, field.1.raw = utf8 name) : (seek name names object).isSome := by
  induction names generalizing object with
  | nil => exact absurd listed List.not_mem_nil
  | cons next names ih =>
      rw [seek]
      cases search : object.find (utf8 next) with
      | none =>
          have other : next ≠ name := by
            rintro rfl
            obtain ⟨field, isField, named⟩ := present
            exact find_eq_none_iff.mp search field isField named
          dsimp only
          rw [if_neg other]
          exact ih ((List.mem_cons.mp listed).resolve_left (Ne.symm other)) present
      | some step =>
          obtain ⟨member, rest⟩ := step
          dsimp only
          split_ifs with isNext
          · rfl
          · obtain ⟨field, isField, named⟩ := present
            exact ih ((List.mem_cons.mp listed).resolve_left (Ne.symm isNext))
              ⟨field, (find_perm search).mem_iff.mpr isField, named⟩

/-- Where no two fields have one name, the order of the searches does not matter. -/
theorem DistinctNames.seek_eq {object : Object} (distinct : object.DistinctNames) {name : String}
    {names others : List String} (listed : name ∈ names) (otherListed : name ∈ others) :
    seek name names object = seek name others object := by
  by_cases present : ∃ field ∈ object, field.1.raw = utf8 name
  · obtain ⟨member, found⟩ := Option.isSome_iff_exists.mp (seek_isSome listed present)
    obtain ⟨other, otherFound⟩ := Option.isSome_iff_exists.mp (seek_isSome otherListed present)
    obtain ⟨key, isMember, named⟩ := seek_mem found
    obtain ⟨otherKey, isOther, otherNamed⟩ := seek_mem otherFound
    rw [found, otherFound, distinct.unique isMember isOther (named.trans otherNamed.symm)]
  · have missing (order : List String) : seek name order object = none := by
      rw [Option.eq_none_iff_forall_ne_some]
      intro member found
      obtain ⟨key, isField, named⟩ := seek_mem found
      exact present ⟨_, isField, named⟩
    rw [missing names, missing others]

end Foundation.OnDemand.Object
