import Mathlib.Logic.Relation

/-!
# Labelled transition systems

A system is given by a partial step function: the result `none` says that the
action is not enabled in that state. A run records its actions in order, so
that hypotheses about an environment are hypotheses about the actions taken.
-/

set_option autoImplicit false

namespace Foundation

universe u v w

/-- A partial step function; `none` marks an action that is not enabled. -/
abbrev StepFunction (State : Type u) (Action : Type v) := State → Action → Option State

/-- `Run step initial actions final` executes `actions` from `initial` in order. -/
inductive Run {State : Type u} {Action : Type v} (step : StepFunction State Action) :
    State → List Action → State → Prop where
  | nil {state : State} : Run step state [] state
  | cons {state middle final : State} {action : Action} {actions : List Action} :
      step state action = some middle → Run step middle actions final →
      Run step state (action :: actions) final

/-- A state is reachable when some run from the initial state ends in it. -/
def Reachable {State : Type u} {Action : Type v} (step : StepFunction State Action)
    (initial state : State) : Prop :=
  ∃ actions, Run step initial actions state

/-- Execute a list of actions; `none` when one of them is not enabled. -/
def execute {State : Type u} {Action : Type v} (step : StepFunction State Action) :
    State → List Action → Option State
  | state, [] => some state
  | state, action :: actions => (step state action).bind fun next => execute step next actions

/-- What the steps of an execution give out, in order. -/
def outputs {State : Type u} {Action : Type v} {Output : Type w} (step : StepFunction State Action)
    (output : State → Action → List Output) : State → List Action → List Output
  | _, [] => []
  | state, action :: actions => output state action ++
      (step state action).elim [] fun next => outputs step output next actions

/-- The system in which an action is enabled only where `allowed` holds. -/
def guarded {State : Type u} {Action : Type v} (allowed : State → Action → Bool)
    (step : StepFunction State Action) : StepFunction State Action :=
  fun state action => if allowed state action then step state action else none

section

variable {State : Type u} {Action : Type v} {step : StepFunction State Action}

theorem Run.single {state next : State} {action : Action}
    (taken : step state action = some next) : Run step state [action] next :=
  .cons taken .nil

/-- Runs are exactly the successful executions. -/
theorem execute_eq_some {initial final : State} {actions : List Action} :
    execute step initial actions = some final ↔ Run step initial actions final := by
  constructor
  · intro executed
    induction actions generalizing initial with
    | nil => cases executed; exact .nil
    | cons action actions ih =>
        obtain ⟨next, taken, rest⟩ := Option.bind_eq_some_iff.mp executed
        exact .cons taken (ih rest)
  · intro run
    induction run with
    | nil => rfl
    | cons taken _ ih => exact Option.bind_eq_some_iff.mpr ⟨_, taken, ih⟩

/-- What every taken step preserves holds at the end of the run. The step
premise may use that the action is one of those the run takes. -/
theorem Run.preserves {invariant : State → Prop} {initial final : State}
    {actions : List Action} (run : Run step initial actions final)
    (preserved : ∀ state action next, action ∈ actions → invariant state →
      step state action = some next → invariant next)
    (start : invariant initial) : invariant final := by
  induction run with
  | nil => exact start
  | cons taken _ ih =>
      apply ih
      · intro state action next member
        exact preserved state action next (List.mem_cons_of_mem _ member)
      · exact preserved _ _ _ List.mem_cons_self start taken

/-- A reflexive and transitive relation that every step respects relates the
two ends of a run. -/
theorem Run.relates {relation : State → State → Prop} {initial final : State}
    {actions : List Action} (run : Run step initial actions final)
    (refl : ∀ state, relation state state)
    (trans : ∀ first second third, relation first second → relation second third →
      relation first third)
    (respected : ∀ state action next, step state action = some next → relation state next) :
    relation initial final := by
  induction run with
  | nil => exact refl _
  | cons taken _ ih => exact trans _ _ _ (respected _ _ _ taken) ih

/-- What relates the actions so far to the state, and is kept by one more step, relates
the actions of a run to its end. -/
theorem Run.tracks {tracks : List Action → State → Prop} {initial final : State}
    {actions : List Action} (run : Run step initial actions final)
    (kept : ∀ past state action next, action ∈ actions → tracks past state →
      step state action = some next → tracks (past ++ [action]) next)
    (start : tracks [] initial) : tracks actions final := by
  have later (past : List Action) (begun : tracks past initial) :
      tracks (past ++ actions) final := by
    clear start
    induction run generalizing past with
    | nil => rwa [List.append_nil]
    | cons taken _ ih =>
        rw [List.append_cons]
        apply ih
        · intro past state action next member
          exact kept past state action next (List.mem_cons_of_mem _ member)
        · exact kept _ _ _ _ List.mem_cons_self begun taken
  exact later [] start

/-- What relates the outputs so far to the state, and is kept by one more step with its own
output, relates the outputs of a run to its end. -/
theorem Run.accumulates {Output : Type w} {output : State → Action → List Output}
    {holds : List Output → State → Prop} {initial final : State} {actions : List Action}
    (run : Run step initial actions final)
    (kept : ∀ past state action next, holds past state → step state action = some next →
      holds (past ++ output state action) next)
    (start : holds [] initial) : holds (outputs step output initial actions) final := by
  have later (past : List Output) (begun : holds past initial) :
      holds (past ++ outputs step output initial actions) final := by
    clear start
    induction run generalizing past with
    | nil =>
        rw [outputs, List.append_nil]
        exact begun
    | cons taken _ ih =>
        rw [outputs, taken, Option.elim_some, ← List.append_assoc]
        exact ih _ (kept _ _ _ _ begun taken)
  exact later [] start

/-- A part of the state that moves only with the actions of its own runs as a system of its
own, on those actions. -/
theorem Run.project {Part : Type u} {Own : Type v} {view : State → Part}
    {own : Action → Option Own} {component : StepFunction Part Own} {initial final : State}
    {actions : List Action} (run : Run step initial actions final)
    (moves : ∀ state action next ownAction, own action = some ownAction →
      step state action = some next → component (view state) ownAction = some (view next))
    (rests : ∀ state action next, own action = none → step state action = some next →
      view next = view state) :
    Run component (view initial) (actions.filterMap own) (view final) := by
  induction run with
  | nil => exact .nil
  | @cons state middle final action actions taken _ ih =>
      cases owned : own action with
      | none =>
          rw [List.filterMap_cons_none owned, ← rests _ _ _ owned taken]
          exact ih
      | some ownAction =>
          rw [List.filterMap_cons_some owned]
          exact .cons (moves _ _ _ _ owned taken) ih

/-- The invariant rule: initial and preserved by every step, so true of every
reachable state. -/
theorem Reachable.invariant {invariant : State → Prop} {initial state : State}
    (reached : Reachable step initial state) (start : invariant initial)
    (preserved : ∀ state action next, invariant state → step state action = some next →
      invariant next) : invariant state := by
  obtain ⟨actions, run⟩ := reached
  exact run.preserves (fun state action next _ => preserved state action next) start

theorem guarded_eq_some {allowed : State → Action → Bool} {state next : State}
    {action : Action} :
    guarded allowed step state action = some next ↔
      allowed state action = true ∧ step state action = some next := by
  unfold guarded
  split
  · next holds => simp [holds]
  · next fails => simp [fails]

end

end Foundation
