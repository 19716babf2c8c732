import HyperliquidSdk.Foundation.OrderedJson
import Mathlib.Data.List.Forall2

/-!
# Traversals that throw

A traversal returns when every element's computation returns, and throws when one throws.
-/

set_option autoImplicit false

namespace Foundation

def Throws {α : Type} (computation : Result α) : Prop :=
  ∃ exception, computation = .error exception

section Traversal

variable {α β : Type}

theorem not_throws_iff {computation : Result α} :
    ¬ Throws computation ↔ ∃ value, computation = .ok value := by
  cases computation with
  | error exception =>
      refine iff_of_false (fun returns => returns ⟨exception, rfl⟩) ?_
      rintro ⟨value, equal⟩
      cases equal
  | ok value =>
      refine iff_of_true ?_ ⟨value, rfl⟩
      rintro ⟨exception, equal⟩
      cases equal

theorem throws_bind_iff {computation : Result α} {next : α → Result β} :
    Throws (computation >>= next) ↔
      Throws computation ∨ ∃ value, computation = .ok value ∧ Throws (next value) := by
  constructor
  · rintro ⟨exception, thrown⟩
    rcases bind_eq_error thrown with failed | ⟨value, returned, failed⟩
    · exact .inl ⟨exception, failed⟩
    · exact .inr ⟨value, returned, exception, failed⟩
  · rintro (⟨exception, rfl⟩ | ⟨value, rfl, thrown⟩)
    · exact ⟨exception, rfl⟩
    · exact thrown

theorem not_throws_ok {value : α} : ¬ Throws (.ok value : Result α) :=
  not_throws_iff.mpr ⟨value, rfl⟩

theorem mapM_eq_ok_iff {next : α → Result β} {elements : List α} {results : List β} :
    elements.mapM next = .ok results ↔
      List.Forall₂ (fun element result => next element = .ok result) elements results := by
  induction elements generalizing results with
  | nil =>
      rw [List.mapM_nil, List.forall₂_nil_left_iff]
      exact ⟨fun equal => (Except.ok.inj equal).symm, fun equal => congrArg Except.ok equal.symm⟩
  | cons element rest ih =>
      rw [List.mapM_cons]
      constructor
      · intro returned
        obtain ⟨result, first, returned⟩ := bind_eq_ok returned
        obtain ⟨others, following, returned⟩ := bind_eq_ok returned
        obtain rfl := Except.ok.inj returned
        exact .cons first (ih.mp following)
      · intro each
        cases each with
        | cons first following => rw [first, ok_bind, ih.mpr following]; rfl

theorem throws_mapM_iff {next : α → Result β} {elements : List α} :
    Throws (elements.mapM next) ↔ ∃ element ∈ elements, Throws (next element) := by
  induction elements with
  | nil =>
      rw [List.mapM_nil]
      exact iff_of_false not_throws_ok (by simp)
  | cons element rest ih =>
      rw [List.mapM_cons, throws_bind_iff]
      simp only [List.mem_cons, exists_eq_or_imp]
      constructor
      · rintro (thrown | ⟨result, first, thrown⟩)
        · exact .inl thrown
        · rcases throws_bind_iff.mp thrown with failed | ⟨others, -, absurd⟩
          · exact .inr (ih.mp failed)
          · exact (not_throws_ok absurd).elim
      · rintro (thrown | later)
        · exact .inl thrown
        · by_cases thrown : Throws (next element)
          · exact .inl thrown
          · obtain ⟨result, first⟩ := not_throws_iff.mp thrown
            exact .inr ⟨result, first, throws_bind_iff.mpr (.inl (ih.mpr later))⟩

theorem returns_bind_iff {computation : Result α} {next : α → Result β} :
    (∃ value, (computation >>= next) = .ok value) ↔
      ∃ middle, computation = .ok middle ∧ ∃ value, next middle = .ok value := by
  constructor
  · intro ⟨value, returned⟩
    obtain ⟨middle, first, second⟩ := bind_eq_ok returned
    exact ⟨middle, first, value, second⟩
  · intro ⟨middle, first, returned⟩
    subst first
    exact returned

/-- A fold returns if each step returns, whatever the steps before it made. -/
theorem returns_foldlM_iff {step : β → α → Result β} {Returns : α → Prop}
    (each : ∀ state element, (∃ value, step state element = .ok value) ↔ Returns element)
    (elements : List α) :
    ∀ state, (∃ value, elements.foldlM step state = .ok value) ↔
      ∀ element ∈ elements, Returns element := by
  induction elements with
  | nil =>
      intro state
      exact iff_of_true ⟨state, rfl⟩ fun _ impossible => absurd impossible List.not_mem_nil
  | cons element rest ih =>
      intro state
      rw [List.foldlM_cons, returns_bind_iff, List.forall_mem_cons, ← each state element]
      constructor
      · intro ⟨middle, stepped, returned⟩
        exact ⟨⟨middle, stepped⟩, (ih middle).mp returned⟩
      · intro ⟨⟨middle, stepped⟩, others⟩
        exact ⟨middle, stepped, (ih middle).mpr others⟩

/-! ## Prefixes -/

variable {Decodes : α → β → Prop}

theorem exists_forall₂ {elements : List α}
    (each : ∀ element ∈ elements, ∃ result, Decodes element result) :
    ∃ results, List.Forall₂ Decodes elements results := by
  induction elements with
  | nil => exact ⟨[], .nil⟩
  | cons element elements ih =>
      have each := List.forall_mem_cons.mp each
      obtain ⟨result, decodes⟩ := each.1
      obtain ⟨results, others⟩ := ih each.2
      exact ⟨result :: results, .cons decodes others⟩

/-- The results are the decodings of the first elements, one by one. -/
def DecodesPrefix (Decodes : α → β → Prop) (elements : List α) (results : List β) : Prop :=
  ∃ decoded, decoded <+: elements ∧ List.Forall₂ Decodes decoded results

theorem decodesPrefix_nil (elements : List α) : DecodesPrefix Decodes elements [] :=
  ⟨[], List.nil_prefix, .nil⟩

theorem DecodesPrefix.cons {element : α} {elements : List α} {result : β} {results : List β}
    (first : Decodes element result) (others : DecodesPrefix Decodes elements results) :
    DecodesPrefix Decodes (element :: elements) (result :: results) := by
  obtain ⟨decoded, before, each⟩ := others
  exact ⟨element :: decoded, List.prefix_cons_inj element |>.mpr before, .cons first each⟩

theorem DecodesPrefix.of_forall₂ {elements : List α} {results : List β}
    (each : List.Forall₂ Decodes elements results) : DecodesPrefix Decodes elements results :=
  ⟨elements, List.prefix_rfl, each⟩

theorem DecodesPrefix.map {γ : Type} {elements : List α} {results : List β}
    (decodes : DecodesPrefix Decodes elements results) (change : α → γ) (Weaker : γ → β → Prop)
    (implies : ∀ element result, Decodes element result → Weaker (change element) result) :
    DecodesPrefix Weaker (elements.map change) results := by
  obtain ⟨decoded, before, each⟩ := decodes
  exact ⟨decoded.map change, before.map change,
    List.forall₂_map_left_iff.mpr (each.imp fun element result => implies element result)⟩

theorem DecodesPrefix.get {elements : List α} {results : List β}
    (decodes : DecodesPrefix Decodes elements results) {index : Nat} {result : β}
    (found : results[index]? = some result) :
    ∃ element, elements[index]? = some element ∧ Decodes element result := by
  obtain ⟨decoded, ⟨rest, rfl⟩, each⟩ := decodes
  induction each generalizing index with
  | nil => cases found
  | cons first others ih =>
      cases index with
      | zero => exact ⟨_, rfl, Option.some.inj found ▸ first⟩
      | succ index => exact ih found

end Traversal

end Foundation
