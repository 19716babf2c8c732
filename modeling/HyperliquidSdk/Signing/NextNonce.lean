import HyperliquidSdk.Foundation.TransitionSystem
import Mathlib.Algebra.Group.Int.Defs
import Mathlib.Algebra.Group.Nat.Defs
import Mathlib.Data.List.Nodup
import Mathlib.Data.List.Perm.Subperm
import Mathlib.Logic.Function.Basic

/-!
# Nonce allocation

`nextNonce` of `Signing.cpp` as a transition system over its atomic steps. The
only shared object is the function-local `lastNonce`; every call keeps its own
`now` and `prev`. Each call has an identity of its own, so a thread is just an
order in which some of these calls happen to run, and any number of threads is
covered.
-/

set_option autoImplicit false

namespace HyperliquidSdk.Signing.NextNonce

open Foundation

/-- One execution of `nextNonce`, whichever thread makes it. -/
abbrev CallId := Nat

/-- How far a call has come, with the locals that are live there. -/
inductive Phase where
  | idle
  | clockRead (now : UInt64)
  | trying (now prev : UInt64)
  | returned (nonce : UInt64)
  deriving DecidableEq, Repr

/-- `lastNonce` with its modification order, the phase of every call, and two
logs: the calls in the order in which they start, and the nonces in the order
of the successful exchanges. -/
structure State where
  lastNonce : UInt64
  history : List UInt64
  phase : CallId → Phase
  started : List CallId
  issued : List (CallId × UInt64)

/-- `static std::atomic<uint64_t> lastNonce{0}` before the first call. -/
def initial : State where
  lastNonce := 0
  history := [0]
  phase := fun _ => .idle
  started := []
  issued := []

inductive Action where
  | readClock (call : CallId) (now : UInt64)
  | load (call : CallId) (observed : UInt64)
  | exchangeSucceeds (call : CallId)
  | exchangeFails (call : CallId) (observed : UInt64)
  deriving DecidableEq, Repr

/-- `next = now > prev ? now : prev + 1`, wrapping as `uint64_t` does. -/
def nextValue (now prev : UInt64) : UInt64 :=
  if now > prev then now else prev + 1

def State.setPhase (state : State) (call : CallId) (phase : Phase) : State :=
  { state with phase := Function.update state.phase call phase }

/-- The atomic steps of the body of `nextNonce`. All its accesses are relaxed:
the load and a failing exchange may observe any value of the modification
order, and an exchange may also fail spuriously, on the value it expected. -/
def step : StepFunction State Action
  | state, .readClock call now =>
      match state.phase call with
      | .idle => some { state.setPhase call (.clockRead now) with
          started := state.started ++ [call] }
      | _ => none
  | state, .load call observed =>
      match state.phase call with
      | .clockRead now =>
          if observed ∈ state.history then some (state.setPhase call (.trying now observed))
          else none
      | _ => none
  | state, .exchangeSucceeds call =>
      match state.phase call with
      | .trying now prev =>
          if state.lastNonce = prev then
            some { state.setPhase call (.returned (nextValue now prev)) with
              lastNonce := nextValue now prev
              history := nextValue now prev :: state.history
              issued := state.issued ++ [(call, nextValue now prev)] }
          else none
      | _ => none
  | state, .exchangeFails call observed =>
      match state.phase call with
      | .trying now _ =>
          if observed ∈ state.history then some (state.setPhase call (.trying now observed))
          else none
      | _ => none

@[simp] theorem setPhase_self (state : State) (call : CallId) (phase : Phase) :
    (state.setPhase call phase).phase call = phase := by
  simp [State.setPhase]

theorem setPhase_of_ne (state : State) {call other : CallId} (phase : Phase)
    (different : other ≠ call) :
    (state.setPhase call phase).phase other = state.phase other := by
  simp [State.setPhase, different]

/-- Everything a step can do, guards included. -/
theorem step_cases {state next : State} {action : Action}
    (taken : step state action = some next) :
    (∃ call now, action = .readClock call now ∧ state.phase call = .idle ∧
      next = { state.setPhase call (.clockRead now) with
        started := state.started ++ [call] }) ∨
    (∃ call now observed, action = .load call observed ∧
      state.phase call = .clockRead now ∧
      next = state.setPhase call (.trying now observed)) ∨
    (∃ call now, action = .exchangeSucceeds call ∧
      state.phase call = .trying now state.lastNonce ∧
      next = { state.setPhase call (.returned (nextValue now state.lastNonce)) with
        lastNonce := nextValue now state.lastNonce
        history := nextValue now state.lastNonce :: state.history
        issued := state.issued ++ [(call, nextValue now state.lastNonce)] }) ∨
    (∃ call now prev observed, action = .exchangeFails call observed ∧
      state.phase call = .trying now prev ∧
      next = state.setPhase call (.trying now observed)) := by
  cases action with
  | readClock call now =>
      simp only [step] at taken
      split at taken
      · exact .inl ⟨call, now, rfl, ‹_›, (Option.some.inj taken).symm⟩
      · cases taken
  | load call observed =>
      simp only [step] at taken
      split at taken
      · split at taken
        · exact .inr (.inl ⟨call, _, observed, rfl, ‹_›, (Option.some.inj taken).symm⟩)
        · cases taken
      · cases taken
  | exchangeSucceeds call =>
      simp only [step] at taken
      split at taken
      · next now prev phase =>
          split at taken
          · next current =>
              subst current
              exact .inr (.inr (.inl ⟨call, now, rfl, phase, (Option.some.inj taken).symm⟩))
          · cases taken
      · cases taken
  | exchangeFails call observed =>
      simp only [step] at taken
      split at taken
      · split at taken
        · exact .inr (.inr (.inr ⟨call, _, _, observed, rfl, ‹_›,
            (Option.some.inj taken).symm⟩))
        · cases taken
      · cases taken

/-- The clock readings below `2 ^ 63` milliseconds. -/
def ClockInRange (actions : List Action) : Prop :=
  ∀ call now, Action.readClock call now ∈ actions → now.toNat < 2 ^ 63

/-- What relates `lastNonce` to the locals of every call and to the two logs.
`bounded` is what keeps `prev + 1` from wrapping: `lastNonce` is at most one
clock reading plus one increment for each nonce already issued. -/
structure Invariant (state : State) : Prop where
  bounded : state.lastNonce.toNat < 2 ^ 63 + state.issued.length
  increasing : (state.issued.map Prod.snd).Pairwise (· < ·)
  issuedLe : ∀ entry ∈ state.issued, entry.2 ≤ state.lastNonce
  issuedOnce : (state.issued.map Prod.fst).Nodup
  issuedStarted : ∀ entry ∈ state.issued, entry.1 ∈ state.started
  active : ∀ call, state.phase call ≠ .idle → call ∈ state.started
  clockRead : ∀ call now, state.phase call = .clockRead now → now.toNat < 2 ^ 63
  trying : ∀ call now prev, state.phase call = .trying now prev → now.toNat < 2 ^ 63
  returned : ∀ call nonce, state.phase call = .returned nonce ↔ (call, nonce) ∈ state.issued

theorem initial_invariant : Invariant initial where
  bounded := by simp [initial]
  increasing := by simp [initial]
  issuedLe := by simp [initial]
  issuedOnce := by simp [initial]
  issuedStarted := by simp [initial]
  active := by simp [initial]
  clockRead := by simp [initial]
  trying := by simp [initial]
  returned := by simp [initial]

/-- No more nonces are issued than calls are started. -/
theorem Invariant.issued_length_le {state : State} (valid : Invariant state) :
    state.issued.length ≤ state.started.length := by
  have included : state.issued.map Prod.fst ⊆ state.started := by
    intro call member
    obtain ⟨entry, issued, rfl⟩ := List.mem_map.mp member
    exact valid.issuedStarted entry issued
  simpa using (List.subperm_of_subset valid.issuedOnce included).length_le

/-- Without wrap-around the next value is above the one it replaces. -/
theorem lt_nextValue {now prev : UInt64} (room : prev.toNat + 1 < 2 ^ 64) :
    prev < nextValue now prev := by
  unfold nextValue
  split
  · next later => exact later
  · rw [UInt64.lt_iff_toNat_lt, UInt64.toNat_add]
    simp only [UInt64.reduceToNat]
    omega

theorem nextValue_bounded {now prev : UInt64} {count : Nat} (clock : now.toNat < 2 ^ 63)
    (bounded : prev.toNat < 2 ^ 63 + count) :
    (nextValue now prev).toNat < 2 ^ 63 + (count + 1) := by
  unfold nextValue
  split
  · omega
  · have incremented : (prev + 1).toNat ≤ prev.toNat + 1 := by
      rw [UInt64.toNat_add]
      exact Nat.mod_le _ _
    omega

/-- A phase change that neither starts nor ends a call keeps the invariant. -/
theorem Invariant.setPhase_trying {state : State} (valid : Invariant state) {call : CallId}
    {now observed : UInt64} (present : state.phase call ≠ .idle)
    (unfinished : ∀ nonce, state.phase call ≠ .returned nonce) (clock : now.toNat < 2 ^ 63) :
    Invariant (state.setPhase call (.trying now observed)) where
  bounded := valid.bounded
  increasing := valid.increasing
  issuedLe := valid.issuedLe
  issuedOnce := valid.issuedOnce
  issuedStarted := valid.issuedStarted
  active := by
    intro other phase
    by_cases same : other = call
    · exact same ▸ valid.active call present
    · rw [setPhase_of_ne _ _ same] at phase
      exact valid.active other phase
  clockRead := by
    intro other reading phase
    by_cases same : other = call
    · simp [same] at phase
    · rw [setPhase_of_ne _ _ same] at phase
      exact valid.clockRead other reading phase
  trying := by
    intro other reading prev phase
    by_cases same : other = call
    · simp only [same, setPhase_self, Phase.trying.injEq] at phase
      exact phase.1 ▸ clock
    · rw [setPhase_of_ne _ _ same] at phase
      exact valid.trying other reading prev phase
  returned := by
    intro other nonce
    by_cases same : other = call
    · subst same
      have absent := (valid.returned other nonce).not.mp (unfinished nonce)
      simpa [State.setPhase] using absent
    · rw [setPhase_of_ne _ _ same]
      exact valid.returned other nonce

private theorem Invariant.start {state : State} (valid : Invariant state) {call : CallId}
    {now : UInt64} (fresh : state.phase call = .idle) (clock : now.toNat < 2 ^ 63) :
    Invariant { state.setPhase call (.clockRead now) with
      started := state.started ++ [call] } where
  bounded := valid.bounded
  increasing := valid.increasing
  issuedLe := valid.issuedLe
  issuedOnce := valid.issuedOnce
  issuedStarted := fun entry issued => List.mem_append_left _ (valid.issuedStarted entry issued)
  active := by
    intro other phase
    by_cases same : other = call
    · simp [same]
    · have before : state.phase other ≠ .idle := by
        simpa [setPhase_of_ne state (.clockRead now) same] using phase
      exact List.mem_append_left _ (valid.active other before)
  clockRead := by
    intro other reading phase
    by_cases same : other = call
    · simp only [same, setPhase_self, Phase.clockRead.injEq] at phase
      exact phase ▸ clock
    · exact valid.clockRead other reading (by
        simpa only [setPhase_of_ne state (.clockRead now) same] using phase)
  trying := by
    intro other reading prev phase
    by_cases same : other = call
    · simp [same] at phase
    · exact valid.trying other reading prev (by
        simpa only [setPhase_of_ne state (.clockRead now) same] using phase)
  returned := by
    intro other nonce
    by_cases same : other = call
    · subst same
      have absent := (valid.returned other nonce).not.mp (by simp [fresh])
      simpa [State.setPhase] using absent
    · change (state.setPhase call (.clockRead now)).phase other = .returned nonce ↔
        (other, nonce) ∈ state.issued
      rw [setPhase_of_ne _ _ same]
      exact valid.returned other nonce

private theorem Invariant.exchange {state : State} (valid : Invariant state) {call : CallId}
    {now : UInt64} (attempt : state.phase call = .trying now state.lastNonce)
    (room : state.lastNonce.toNat + 1 < 2 ^ 64) :
    Invariant { state.setPhase call (.returned (nextValue now state.lastNonce)) with
      lastNonce := nextValue now state.lastNonce
      history := nextValue now state.lastNonce :: state.history
      issued := state.issued ++ [(call, nextValue now state.lastNonce)] } where
  bounded := by
    simpa using nextValue_bounded (valid.trying _ _ _ attempt) valid.bounded
  increasing := by
    simp only [List.map_append, List.map_cons, List.map_nil, List.pairwise_append,
      List.pairwise_singleton, List.mem_singleton, true_and]
    refine ⟨valid.increasing, ?_⟩
    rintro earlier member _ rfl
    obtain ⟨entry, issued, rfl⟩ := List.mem_map.mp member
    exact UInt64.lt_of_le_of_lt (valid.issuedLe entry issued) (lt_nextValue room)
  issuedLe := by
    intro entry member
    rcases List.mem_append.mp member with earlier | latest
    · exact UInt64.le_of_lt
        (UInt64.lt_of_le_of_lt (valid.issuedLe entry earlier) (lt_nextValue room))
    · rw [List.mem_singleton.mp latest]
      exact UInt64.le_refl _
  issuedOnce := by
    simp only [List.map_append, List.map_cons, List.map_nil, List.nodup_append,
      List.mem_singleton]
    refine ⟨valid.issuedOnce, List.nodup_singleton _, ?_⟩
    rintro earlier member _ rfl rfl
    obtain ⟨⟨other, nonce⟩, issued, same⟩ := List.mem_map.mp member
    simp only at same
    have finished := (valid.returned other nonce).mpr issued
    rw [same, attempt] at finished
    cases finished
  issuedStarted := by
    intro entry member
    rcases List.mem_append.mp member with earlier | latest
    · exact valid.issuedStarted entry earlier
    · rw [List.mem_singleton.mp latest]
      exact valid.active call (by simp [attempt])
  active := by
    intro other phase
    by_cases same : other = call
    · exact same ▸ valid.active call (by simp [attempt])
    · exact valid.active other (by
        simpa only [setPhase_of_ne state (.returned _) same] using phase)
  clockRead := by
    intro other reading phase
    by_cases same : other = call
    · simp [same] at phase
    · exact valid.clockRead other reading (by
        simpa only [setPhase_of_ne state (.returned _) same] using phase)
  trying := by
    intro other reading prev phase
    by_cases same : other = call
    · simp [same] at phase
    · exact valid.trying other reading prev (by
        simpa only [setPhase_of_ne state (.returned _) same] using phase)
  returned := by
    intro other nonce
    by_cases same : other = call
    · subst same
      have absent := (valid.returned other nonce).not.mp (by simp [attempt])
      simp [absent, eq_comm]
    · have unchanged : ((state.setPhase call (.returned (nextValue now state.lastNonce))).phase
          other = .returned nonce) ↔ (other, nonce) ∈ state.issued := by
        simpa only [setPhase_of_ne state (.returned _) same] using valid.returned other nonce
      simpa [same] using unchanged

/-- The logs only grow. -/
def Extends (state next : State) : Prop :=
  state.started <+: next.started ∧ state.issued <+: next.issued

theorem step_extends {state next : State} {action : Action}
    (taken : step state action = some next) : Extends state next := by
  rcases step_cases taken with ⟨_, _, _, _, rfl⟩ | ⟨_, _, _, _, _, rfl⟩ | ⟨_, _, _, _, rfl⟩ |
    ⟨_, _, _, _, _, _, rfl⟩
  · exact ⟨List.prefix_append _ _, List.prefix_rfl⟩
  · exact ⟨List.prefix_rfl, List.prefix_rfl⟩
  · exact ⟨List.prefix_rfl, List.prefix_append _ _⟩
  · exact ⟨List.prefix_rfl, List.prefix_rfl⟩

theorem run_extends {state final : State} {actions : List Action}
    (run : Run step state actions final) : Extends state final :=
  run.relates (fun _ => ⟨List.prefix_rfl, List.prefix_rfl⟩)
    (fun _ _ _ first second => ⟨first.1.trans second.1, first.2.trans second.2⟩)
    (fun _ _ _ => step_extends)

/-- One step keeps the invariant as long as fewer than `2 ^ 63` calls started. -/
theorem step_invariant {state next : State} {action : Action} (valid : Invariant state)
    (clock : ∀ call now, action = .readClock call now → now.toNat < 2 ^ 63)
    (few : state.started.length < 2 ^ 63) (taken : step state action = some next) :
    Invariant next := by
  rcases step_cases taken with ⟨call, now, performed, fresh, rfl⟩ |
    ⟨call, now, observed, _, read, rfl⟩ | ⟨call, now, _, attempt, rfl⟩ |
    ⟨call, now, prev, observed, _, attempt, rfl⟩
  · exact valid.start fresh (clock call now performed)
  · exact valid.setPhase_trying (by simp [read]) (by simp [read]) (valid.clockRead _ _ read)
  · have issued := valid.issued_length_le
    have bounded := valid.bounded
    exact valid.exchange attempt (by omega)
  · exact valid.setPhase_trying (by simp [attempt]) (by simp [attempt])
      (valid.trying _ _ _ attempt)

/-- The invariant holds at the end of every run with fewer than `2 ^ 63` calls. -/
theorem run_invariant {state final : State} {actions : List Action}
    (run : Run step state actions final) (clocks : ClockInRange actions)
    (few : final.started.length < 2 ^ 63) (start : Invariant state) : Invariant final := by
  induction run with
  | nil => exact start
  | @cons state middle final action actions taken rest ih =>
      have grown := Nat.le_trans (step_extends taken).1.length_le (run_extends rest).1.length_le
      refine ih (fun call now member => clocks call now (List.mem_cons_of_mem _ member)) few ?_
      refine step_invariant start ?_ (by omega) taken
      intro call now performed
      exact clocks call now (performed ▸ List.mem_cons_self)

/-- A nonce issued after `middle` is above every nonce issued before it. -/
theorem later_nonce_lt {middle final : State} (grown : Extends middle final)
    (valid : Invariant final) {early late : CallId} {earlyNonce lateNonce : UInt64}
    (before : (early, earlyNonce) ∈ middle.issued)
    (notYet : ∀ nonce, (late, nonce) ∉ middle.issued)
    (after : (late, lateNonce) ∈ final.issued) : earlyNonce < lateNonce := by
  obtain ⟨suffix, split⟩ := grown.2
  have order := valid.increasing
  rw [← split, List.map_append, List.pairwise_append] at order
  rw [← split, List.mem_append] at after
  rcases after with member | member
  · exact absurd member (notYet lateNonce)
  · exact order.2.2 _ (List.mem_map.mpr ⟨_, before, rfl⟩) _ (List.mem_map.mpr ⟨_, member, rfl⟩)

/-- Nonces never repeat or go back, whatever the interleaving and the clock. The
run is cut at an arbitrary state `middle`, so the last part compares a call that
had returned there with one that had not yet started. -/
theorem nonces_never_repeat_or_go_back {middle final : State} {before after : List Action}
    (first : Run step initial before middle) (second : Run step middle after final)
    (clocks : ClockInRange (before ++ after)) (few : final.started.length < 2 ^ 63) :
    (∀ call nonce, final.phase call = .returned nonce ↔ (call, nonce) ∈ final.issued) ∧
    (final.issued.map Prod.snd).Pairwise (· < ·) ∧
    (∀ call other nonce otherNonce, final.phase call = .returned nonce →
      final.phase other = .returned otherNonce → call ≠ other → nonce ≠ otherNonce) ∧
    (∀ early late earlyNonce lateNonce, middle.phase early = .returned earlyNonce →
      middle.phase late = .idle → final.phase late = .returned lateNonce →
      earlyNonce < lateNonce) := by
  have grown := run_extends second
  have middleFew := Nat.lt_of_le_of_lt grown.1.length_le few
  have middleValid := run_invariant first
    (fun call now member => clocks call now (List.mem_append_left _ member)) middleFew
    initial_invariant
  have valid := run_invariant second
    (fun call now member => clocks call now (List.mem_append_right _ member)) few middleValid
  refine ⟨valid.returned, valid.increasing, ?_, ?_⟩
  · intro call other nonce otherNonce callReturned otherReturned different same
    have distinct := valid.increasing.imp (fun {_ _} less => UInt64.ne_of_lt less)
    have issued := (valid.returned call nonce).mp callReturned
    have otherIssued := (valid.returned other otherNonce).mp otherReturned
    have entry := List.inj_on_of_nodup_map distinct issued otherIssued same
    exact different (congrArg Prod.fst entry)
  · intro early late earlyNonce lateNonce earlyReturned lateIdle lateReturned
    refine later_nonce_lt grown valid ((middleValid.returned _ _).mp earlyReturned) ?_
      ((valid.returned _ _).mp lateReturned)
    intro nonce issued
    have finished := (middleValid.returned late nonce).mpr issued
    rw [lateIdle] at finished
    cases finished

/-- Two overlapping calls with the same clock reading ... -/
def overlapStart : List Action :=
  [.readClock 0 5, .readClock 1 5, .load 0 0, .load 1 0, .exchangeSucceeds 0]

/-- ... where the second exchange fails first, and a later call whose clock has
stepped back. -/
def overlapRest : List Action :=
  [.exchangeFails 1 5, .exchangeSucceeds 1, .readClock 2 3, .load 2 0, .exchangeFails 2 6,
    .exchangeSucceeds 2]

theorem nonces_never_repeat_or_go_back_overlapping :
    ∃ middle final, Run step initial overlapStart middle ∧ Run step middle overlapRest final ∧
      final.issued = [(0, 5), (1, 6), (2, 7)] ∧
      (final.issued.map Prod.snd).Pairwise (· < ·) := by
  have clocks : ClockInRange (overlapStart ++ overlapRest) := by
    intro call now member
    simp only [overlapStart, overlapRest, List.cons_append, List.nil_append, List.mem_cons,
      List.not_mem_nil, Action.readClock.injEq, reduceCtorEq, or_false, false_or] at member
    rcases member with ⟨_, rfl⟩ | ⟨_, rfl⟩ | ⟨_, rfl⟩ <;> decide
  exact ⟨_, _, execute_eq_some.mp rfl, execute_eq_some.mp rfl, rfl,
    (@nonces_never_repeat_or_go_back _ _ overlapStart overlapRest (execute_eq_some.mp rfl)
      (execute_eq_some.mp rfl) clocks (by decide)).2.1⟩

end HyperliquidSdk.Signing.NextNonce
