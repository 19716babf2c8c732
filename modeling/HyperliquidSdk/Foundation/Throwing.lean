/-!
# Stateful computations that may throw

What a computation did to the state before it threw stays done. The computations that throw
nothing but certain exceptions are closed under all constructs.
-/

set_option autoImplicit false

namespace Foundation

abbrev Throwing (ε σ : Type) := ExceptT ε (StateM σ)

namespace Throwing

variable {ε σ τ α β : Type}

theorem bind_run (first : Throwing ε σ α) (next : α → Throwing ε σ β) (before : σ) :
    (first >>= next).run before =
      match first.run before with
      | (.ok value, after) => (next value).run after
      | (.error thrown, after) => (.error thrown, after) := by
  rw [ExceptT.run_bind]
  cases outcome : first.run before with
  | mk result after =>
      cases result with
      | ok value => simp [bind, StateT.bind, outcome]
      | error thrown =>
          simp only [bind, StateT.bind, outcome]
          rfl

theorem tryCatch_run (body : Throwing ε σ α) (handle : ε → Throwing ε σ α) (before : σ) :
    (tryCatch body handle).run before =
      match body.run before with
      | (.ok value, after) => (.ok value, after)
      | (.error thrown, after) => (handle thrown).run after := by
  rw [ExceptT.run_tryCatch]
  cases outcome : body.run before with
  | mk result after =>
      cases result with
      | ok value =>
          simp only [bind, StateT.bind, outcome]
          rfl
      | error thrown => simp [bind, StateT.bind, outcome]

@[simp] theorem pure_run (value : α) (before : σ) :
    (pure value : Throwing ε σ α).run before = (.ok value, before) := rfl

@[simp] theorem throw_run (thrown : ε) (before : σ) :
    (throw thrown : Throwing ε σ α).run before = (.error thrown, before) := rfl

@[simp] theorem get_run (before : σ) :
    (get : Throwing ε σ σ).run before = (.ok before, before) := rfl

@[simp] theorem set_run (after before : σ) :
    (set after : Throwing ε σ PUnit).run before = (.ok ⟨⟩, after) := rfl

/-! ## What is thrown -/

/-- Wherever it is started, the computation throws nothing that is not allowed. -/
def ThrowsOnly (allowed : ε → Prop) (body : Throwing ε σ α) : Prop :=
  ∀ before thrown, (body.run before).1 = .error thrown → allowed thrown

namespace ThrowsOnly

variable {allowed : ε → Prop}

theorem pure (value : α) : ThrowsOnly allowed (pure value : Throwing ε σ α) := by
  intro before thrown impossible
  cases impossible

theorem throw {thrown : ε} (isAllowed : allowed thrown) :
    ThrowsOnly allowed (throw thrown : Throwing ε σ α) := by
  intro before other same
  obtain rfl := Except.error.inj same
  exact isAllowed

theorem bind {first : Throwing ε σ α} {next : α → Throwing ε σ β}
    (start : ThrowsOnly allowed first) (continued : ∀ value, ThrowsOnly allowed (next value)) :
    ThrowsOnly allowed (first >>= next) := by
  intro before thrown
  rw [bind_run]
  have thrownFirst := start before
  cases outcome : first.run before with
  | mk result after =>
      rw [outcome] at thrownFirst
      cases result with
      | ok value => exact continued value after thrown
      | error other =>
          intro same
          obtain rfl := Except.error.inj same
          exact thrownFirst other rfl

theorem ite {condition : Prop} [Decidable condition] {yes no : Throwing ε σ α}
    (whenTrue : condition → ThrowsOnly allowed yes)
    (whenFalse : ¬ condition → ThrowsOnly allowed no) :
    ThrowsOnly allowed (if condition then yes else no) := by
  split
  · next holds => exact whenTrue holds
  · next fails => exact whenFalse fails

theorem forM {body : α → Throwing ε σ PUnit} (each : ∀ item, ThrowsOnly allowed (body item))
    (items : List α) : ThrowsOnly allowed (items.forM body) := by
  induction items with
  | nil => exact pure _
  | cons item items ih => exact bind (each item) fun _ => ih

theorem foldlM {step : τ → α → Throwing ε σ τ}
    (each : ∀ target item, ThrowsOnly allowed (step target item)) (items : List α) :
    ∀ target, ThrowsOnly allowed (items.foldlM step target) := by
  induction items with
  | nil => exact pure
  | cons item items ih => exact fun target => bind (each target item) ih

end ThrowsOnly

end Throwing

end Foundation
