import Mathlib.Data.List.Nodup
import Mathlib.Data.Vector.Defs

/-!
# Relocation in place

A loop that overwrites one cell after the other, each with what it found in the cell before.
When no cell is visited twice, every cell ends with a value that was there at the start.
-/

set_option autoImplicit false

namespace Foundation

variable {α β : Type} {n : Nat}

/-- The loop holds one value while it goes through the steps. -/
def relocate (change : β → α → α) (steps : List (Fin n × β)) (held : α)
    (cells : Vector α n) :
    Vector α n :=
  (steps.foldl (fun (held, cells) (place, tag) =>
    (cells[place.val], cells.set place.val (change tag held))) (held, cells)).2

/-- The cell from which the last value comes to the place, and by which step. -/
def origin (steps : List (Fin n × β)) (start place : Fin n) : Option (Fin n × β) :=
  match steps with
  | [] => none
  | (next, tag) :: rest => if place = next then some (start, tag) else origin rest next place

theorem relocate_cons (change : β → α → α) (place : Fin n) (tag : β) (rest : List (Fin n × β))
    (held : α) (cells : Vector α n) :
    relocate change ((place, tag) :: rest) held cells =
      relocate change rest cells[place.val] (cells.set place.val (change tag held)) := rfl

theorem origin_eq_none {steps : List (Fin n × β)} {place : Fin n}
    (elsewhere : place ∉ steps.map Prod.fst) (start : Fin n) :
    origin steps start place = none := by
  induction steps generalizing start with
  | nil => rfl
  | cons step rest ih =>
      rw [List.map_cons, List.mem_cons, not_or] at elsewhere
      simp only [origin]
      rw [if_neg elsewhere.1]
      exact ih elsewhere.2 step.1

/-- The cells that are still to be visited hold what they held at the start. -/
theorem getElem_relocate_of_agree (change : β → α → α) {steps : List (Fin n × β)}
    (distinct : (steps.map Prod.fst).Nodup) {initial cells : Vector α n}
    (agree : ∀ place ∈ steps.map Prod.fst, cells[place.val] = initial[place.val])
    (start place : Fin n) :
    (relocate change steps initial[start.val] cells)[place.val] =
      match origin steps start place with
      | some (source, tag) => change tag initial[source.val]
      | none => cells[place.val] := by
  induction steps generalizing start cells with
  | nil => rfl
  | cons step rest ih =>
      obtain ⟨next, tag⟩ := step
      rw [List.map_cons, List.nodup_cons] at distinct
      rw [relocate_cons, agree next (by simp),
        @ih distinct.2 (cells.set next.val (change tag initial[start.val])) ?_ next]
      · simp only [origin]
        by_cases here : place = next
        · rw [here, if_pos rfl, origin_eq_none distinct.1]
          exact Vector.getElem_set_self next.isLt
        · rw [if_neg here]
          cases origin rest next place with
          | none => exact Vector.getElem_set_ne _ _ (fun same => here (Fin.ext same.symm))
          | some found => rfl
      · intro other later
        have apart : next.val ≠ other.val := fun same => distinct.1 (Fin.ext same ▸ later)
        rw [Vector.getElem_set_ne _ _ apart]
        exact agree other (List.mem_cons_of_mem _ later)

theorem getElem_relocate (change : β → α → α) {steps : List (Fin n × β)}
    (distinct : (steps.map Prod.fst).Nodup) (cells : Vector α n) (start place : Fin n) :
    (relocate change steps cells[start.val] cells)[place.val] =
      match origin steps start place with
      | some (source, tag) => change tag cells[source.val]
      | none => cells[place.val] :=
  getElem_relocate_of_agree change distinct (fun _ _ => rfl) start place

end Foundation
