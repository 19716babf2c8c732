import Mathlib.Data.List.Basic
import Mathlib.Data.List.Induction

/-!
# Histories

A history is the list of the entries that a run has made, the oldest first. A property
of an entry may depend on the entries before it.
-/

set_option autoImplicit false

namespace Foundation

variable {α β : Type} {property other : List α → α → Prop} {history : List α}

/-- Every entry has the property after the entries before it. -/
def Throughout (property : List α → α → Prop) (history : List α) : Prop :=
  ∀ earlier entry later, history = earlier ++ entry :: later → property earlier entry

theorem throughout_nil : Throughout property [] := by
  intro earlier entry later impossible
  exact absurd impossible.symm (by simp)

theorem throughout_concat {entry : α} :
    Throughout property (history ++ [entry]) ↔
      Throughout property history ∧ property history entry := by
  constructor
  · intro holds
    constructor
    · intro earlier middle later split
      apply holds earlier middle (later ++ [entry])
      rw [split, List.append_assoc, List.cons_append]
    · exact holds history entry [] rfl
  · rintro ⟨holds, last⟩ earlier middle later split
    rcases List.eq_nil_or_concat later with rfl | ⟨front, final, rfl⟩
    · obtain ⟨rfl, same⟩ := List.append_inj' split rfl
      obtain rfl := List.singleton_inj.mp same
      exact last
    · have shorter : history ++ [entry] = (earlier ++ middle :: front) ++ [final] := by
        rw [split, List.concat_eq_append, List.append_assoc, List.cons_append]
      exact holds earlier middle front (List.append_inj' shorter rfl).1

theorem Throughout.imp (holds : Throughout property history)
    (weaker : ∀ earlier entry, property earlier entry → other earlier entry) :
    Throughout other history :=
  fun earlier entry later split => weaker earlier entry (holds earlier entry later split)

/-- If of the selected entries only the first emits anything, and that once, then one
thing is emitted at most. -/
theorem Throughout.emitted_le_one {select : α → Bool} {emit : α → List β}
    (holds : Throughout (fun earlier entry => select entry = true →
      (emit entry).length ≤ 1 ∧ ((∃ before ∈ earlier, select before = true) → emit entry = []))
      history) :
    ((history.filter select).flatMap emit).length ≤ 1 := by
  induction history using List.reverseRecOn with
  | nil => exact Nat.zero_le 1
  | append_singleton history entry ih =>
      obtain ⟨before, last⟩ := throughout_concat.mp holds
      rw [List.filter_append, List.flatMap_append]
      by_cases selected : select entry = true
      · obtain ⟨once, silent⟩ := last selected
        rcases List.eq_nil_or_concat (history.filter select) with none | ⟨front, final, some⟩
        · rw [none, List.filter_cons_of_pos selected]
          simpa using once
        · have member : final ∈ history.filter select := by rw [some]; simp
          obtain ⟨inHistory, isSelected⟩ := List.mem_filter.mp member
          have nothing := silent ⟨final, inHistory, isSelected⟩
          rw [List.filter_cons_of_pos selected]
          simpa [nothing] using ih before
      · rw [List.filter_cons_of_neg selected]
        simpa using ih before

end Foundation
