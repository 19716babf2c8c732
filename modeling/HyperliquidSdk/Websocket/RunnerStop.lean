import HyperliquidSdk.Websocket.WebsocketRunner
import Mathlib.Data.List.Count

/-!
# Stopping the runner

Every step keeps at most one connection attempt or connection alive. From there
`stop` is settled: the `doClose` it posts is final exactly where it finds a live
connection or nothing to stop. An attempt that is under way is not stopped.
-/

set_option autoImplicit false

namespace HyperliquidSdk.Websocket.WebsocketRunner

open Foundation

def Operation.isChain : Operation → Bool
  | .resolve | .connect _ | .sslHandshake _ | .wsHandshake _ => true
  | .read _ | .write _ _ | .close _ => false

def Wait.isLive : Wait → Bool
  | .waiting | .expired => true
  | .cancelled => false

/-- The steps of a connection attempt under way, and the reconnect timers that
will still start one. -/
def State.attempts (state : State) : Nat :=
  state.operations.countP Operation.isChain + state.reconnectWaits.countP Wait.isLive

theorem countP_erase_add {α : Type} [DecidableEq α] (counted : α → Bool) {item : α}
    {items : List α} (member : item ∈ items) :
    (items.erase item).countP counted + (if counted item then 1 else 0) =
      items.countP counted := by
  rw [(List.perm_cons_erase member).countP_eq, List.countP_cons]

theorem countP_isLive_cancel_le (waits : List Wait) :
    (waits.map Wait.cancel).countP Wait.isLive ≤ waits.countP Wait.isLive := by
  rw [List.countP_map]
  apply List.countP_mono_left
  intro wait _ live
  cases wait with
  | waiting => rfl
  | expired => rfl
  | cancelled => cases live

section Attempts

variable (state : State)

@[simp] theorem attempts_record (event : Event) :
    (state.record event).attempts = state.attempts := rfl

@[simp] theorem attempts_post (function : Posted) :
    (state.post function).attempts = state.attempts := rfl

@[simp] theorem attempts_cancelPingTimer :
    (cancelPingTimer state).attempts = state.attempts := rfl

@[simp] theorem attempts_push (message : Message) :
    (push message state).attempts = state.attempts := rfl

@[simp] theorem attempts_begin (operation : Operation) :
    (state.begin operation).attempts =
      state.attempts + if operation.isChain then 1 else 0 := by
  simp only [State.begin, State.attempts, List.countP_cons]
  omega

theorem attempts_cancelReconnectTimer_le :
    (cancelReconnectTimer state).attempts ≤ state.attempts :=
  Nat.add_le_add_left (countP_isLive_cancel_le _) _

end Attempts

def Event.isConnecting : Event → Bool
  | .resolveStarted | .connectStarted | .onWsConnected => true
  | _ => false

/-- No attempt is started and no connection reported between the two states. -/
def NoConnectionSince (earlier later : State) : Prop :=
  ∃ events, later.trace = earlier.trace ++ events ∧
    ∀ event ∈ events, event.isConnecting = false

theorem NoConnectionSince.of_eq {earlier later : State} (same : later.trace = earlier.trace) :
    NoConnectionSince earlier later :=
  ⟨[], by simpa using same, by simp⟩

theorem NoConnectionSince.single {earlier later : State} {event : Event}
    (appended : later.trace = earlier.trace ++ [event]) (silent : event.isConnecting = false) :
    NoConnectionSince earlier later :=
  ⟨[event], appended, by simpa using silent⟩

theorem NoConnectionSince.trans {first second third : State}
    (left : NoConnectionSince first second) (right : NoConnectionSince second third) :
    NoConnectionSince first third := by
  obtain ⟨leftEvents, leftTrace, leftSilent⟩ := left
  obtain ⟨rightEvents, rightTrace, rightSilent⟩ := right
  refine ⟨leftEvents ++ rightEvents, by rw [rightTrace, leftTrace, List.append_assoc], ?_⟩
  intro event member
  rcases List.mem_append.mp member with earlier | later
  · exact leftSilent event earlier
  · exact rightSilent event later

theorem NoConnectionSince.drop {earlier later : State} (silent : NoConnectionSince earlier later) :
    ∀ event ∈ later.trace.drop earlier.trace.length, event.isConnecting = false := by
  obtain ⟨events, trace, quiet⟩ := silent
  rw [trace, List.drop_left]
  exact quiet

/-- At most one attempt or connection is alive, none before `start`, and only a
connection is being closed. -/
structure Lifecycle (state : State) : Prop where
  single : state.attempts + state.connected.toNat ≤ 1
  stoppingConnected : state.stopping = true → state.connected = true
  beforeStart : state.io = .notStarted → state.attempts = 0 ∧ state.connected = false

/-- Neither an attempt nor a connection is alive, as where a handler fails. -/
structure Idle (state : State) : Prop where
  started : state.io ≠ .notStarted
  noAttempt : state.attempts = 0
  disconnected : state.connected = false
  notStopping : state.stopping = false

/-- What a step that leaves attempts and connection alone does. -/
structure Unaffected (state next : State) : Prop where
  io : next.io = state.io
  attempts : next.attempts = state.attempts
  connected : next.connected = state.connected
  stopping : next.stopping = state.stopping
  silent : NoConnectionSince state next

theorem Unaffected.refl (state : State) : Unaffected state state :=
  ⟨rfl, rfl, rfl, rfl, .of_eq rfl⟩

theorem Unaffected.trans {first second third : State} (left : Unaffected first second)
    (right : Unaffected second third) : Unaffected first third where
  io := right.io.trans left.io
  attempts := right.attempts.trans left.attempts
  connected := right.connected.trans left.connected
  stopping := right.stopping.trans left.stopping
  silent := left.silent.trans right.silent

theorem Lifecycle.unaffected {state next : State} (valid : Lifecycle state)
    (same : Unaffected state next) : Lifecycle next where
  single := by rw [same.attempts, same.connected]; exact valid.single
  stoppingConnected := by rw [same.stopping, same.connected]; exact valid.stoppingConnected
  beforeStart := by rw [same.io, same.attempts, same.connected]; exact valid.beforeStart

theorem doWrite_unaffected (state : State) : Unaffected state (doWrite state) := by
  unfold doWrite
  split
  · exact ⟨rfl, rfl, rfl, rfl, .of_eq rfl⟩
  · exact ⟨rfl, by simp [State.attempts, State.begin, Operation.isChain], rfl, rfl, .of_eq rfl⟩

theorem doRead_unaffected (state : State) : Unaffected state (doRead state) where
  io := rfl
  attempts := by simp [doRead, Operation.isChain]
  connected := rfl
  stopping := rfl
  silent := .of_eq rfl

theorem startPingTimer_unaffected (state : State) : Unaffected state (startPingTimer state) := by
  unfold startPingTimer
  split
  · exact .refl state
  · exact ⟨rfl, rfl, rfl, rfl, .of_eq rfl⟩

theorem pushAndWrite_unaffected (message : Message) (state : State) :
    Unaffected state (pushAndWrite message state) := by
  have pushed : Unaffected state (push message state) :=
    ⟨rfl, rfl, rfl, rfl, .single rfl rfl⟩
  simp only [pushAndWrite]
  split
  · exact pushed.trans (doWrite_unaffected _)
  · exact pushed

theorem onWrite_unaffected (ec : Option ErrorCode) (state : State) :
    Unaffected state (onWrite ec state) := by
  unfold onWrite
  split
  · exact .refl state
  · cases ec with
    | some _ => exact ⟨rfl, rfl, rfl, rfl, .of_eq rfl⟩
    | none =>
        have popped : Unaffected state { state with writeQueue := state.writeQueue.tail } :=
          ⟨rfl, rfl, rfl, rfl, .of_eq rfl⟩
        exact popped.trans (doWrite_unaffected _)

theorem attempts_cancelReconnectTimer_idle {state : State} (noAttempt : state.attempts = 0) :
    (cancelReconnectTimer state).attempts = 0 :=
  Nat.le_zero.mp (noAttempt ▸ attempts_cancelReconnectTimer_le state)

/-! ## The lifecycle invariant -/

theorem Idle.scheduleReconnect {state : State} (idle : Idle state) :
    Lifecycle (scheduleReconnect state) := by
  have cancelled : (cancelReconnectTimer (cancelPingTimer state)).attempts = 0 :=
    attempts_cancelReconnectTimer_idle idle.noAttempt
  unfold WebsocketRunner.scheduleReconnect
  rw [if_neg (by simp [idle.notStopping])]
  constructor
  · have flag : (cancelReconnectTimer (cancelPingTimer state)).connected.toNat = 0 := by
      simp [cancelReconnectTimer, cancelPingTimer, idle.disconnected]
    simp only [State.attempts, List.countP_cons, Wait.isLive, if_true] at cancelled ⊢
    omega
  · intro stopping
    exact absurd (idle.notStopping.symm.trans stopping) (by decide)
  · intro notStarted
    exact absurd notStarted idle.started

theorem Idle.begin {state : State} (idle : Idle state) (operation : Operation) :
    Lifecycle (state.begin operation) where
  single := by
    have flag : (state.begin operation).connected.toNat = 0 := by
      simp [State.begin, idle.disconnected]
    rw [attempts_begin, idle.noAttempt]
    split <;> omega
  stoppingConnected := fun stopping => absurd (idle.notStopping.symm.trans stopping) (by decide)
  beforeStart := fun notStarted => absurd notStarted idle.started

theorem Idle.onWsHandshake {state : State} (idle : Idle state) (ec : Option ErrorCode)
    (now : Int) : Lifecycle (onWsHandshake ec now state) := by
  cases ec with
  | some _ => exact idle.scheduleReconnect
  | none =>
      have up : Lifecycle ({ onPongReceived now (cancelReconnectTimer state) with
          connected := true, reconnectAttempts := 0 }.record .onWsConnected) :=
        ⟨Nat.add_le_add (Nat.le_of_eq (attempts_cancelReconnectTimer_idle idle.noAttempt))
          (Nat.le_refl 1), fun _ => rfl, fun notStarted => absurd notStarted idle.started⟩
      simp only [WebsocketRunner.onWsHandshake]
      apply Lifecycle.unaffected _ ((startPingTimer_unaffected _).trans (doRead_unaffected _))
      split
      · exact up
      · exact up.unaffected (doWrite_unaffected _)

theorem Idle.doReconnect {state : State} (idle : Idle state) : Lifecycle (doReconnect state) := by
  have reset : Idle (cancelReconnectTimer state) :=
    ⟨idle.started, attempts_cancelReconnectTimer_idle idle.noAttempt, idle.disconnected,
      idle.notStopping⟩
  have resolving := reset.begin .resolve
  unfold WebsocketRunner.doReconnect
  rw [if_neg (by simp [idle.disconnected])]
  exact ⟨resolving.single, resolving.stoppingConnected, resolving.beforeStart⟩

/-- A connected runner has nothing else alive, so losing the connection leaves it idle. -/
theorem Lifecycle.noAttempt {state : State} (valid : Lifecycle state)
    (connected : state.connected = true) : state.attempts = 0 := by
  have single := valid.single
  simp only [connected, Bool.toNat_true] at single
  omega

theorem Lifecycle.started {state : State} (valid : Lifecycle state)
    (connected : state.connected = true) : state.io ≠ .notStarted := by
  intro notStarted
  exact absurd ((valid.beforeStart notStarted).2.symm.trans connected) (by decide)

/-- With an attempt alive there is no connection, and nothing is being stopped. -/
theorem Lifecycle.flags {state : State} (valid : Lifecycle state) (alive : 0 < state.attempts) :
    state.connected = false ∧ state.stopping = false := by
  have disconnected : state.connected = false := by
    cases connected : state.connected with
    | false => rfl
    | true => exact absurd (valid.noAttempt connected) (Nat.ne_of_gt alive)
  refine ⟨disconnected, ?_⟩
  cases stopping : state.stopping with
  | false => rfl
  | true => exact absurd (disconnected.symm.trans (valid.stoppingConnected stopping)) (by decide)

theorem attempts_pos_of_chain {state : State} {operation : Operation}
    (member : operation ∈ state.operations) (chain : operation.isChain = true) :
    0 < state.attempts :=
  Nat.add_pos_left (List.countP_pos_iff.mpr ⟨operation, member, chain⟩) _

theorem attempts_pos_of_wait {state : State} {wait : Wait} (member : wait ∈ state.reconnectWaits)
    (live : wait.isLive = true) : 0 < state.attempts :=
  Nat.add_pos_right _ (List.countP_pos_iff.mpr ⟨wait, member, live⟩)

/-- A handler of the chain runs with its own operation as the only live one. -/
theorem Lifecycle.take_chain {state : State} (valid : Lifecycle state) {operation : Operation}
    (running : state.io = .running) (member : operation ∈ state.operations)
    (chain : operation.isChain = true) :
    Idle { state with operations := state.operations.erase operation } := by
  obtain ⟨disconnected, notStopping⟩ := valid.flags (attempts_pos_of_chain member chain)
  refine ⟨by simp [running], ?_, disconnected, notStopping⟩
  have count := countP_erase_add Operation.isChain member
  have single := valid.single
  simp only [chain, if_true] at count
  simp only [State.attempts] at single ⊢
  omega

theorem take_unaffected {state : State} {operation : Operation}
    (member : operation ∈ state.operations) (stream : operation.isChain = false) :
    Unaffected state { state with operations := state.operations.erase operation } where
  io := rfl
  attempts := by
    have count := countP_erase_add Operation.isChain member
    simp only [stream, Bool.false_eq_true, if_false, Nat.add_zero] at count
    simp only [State.attempts, count]
  connected := rfl
  stopping := rfl
  silent := .of_eq rfl

theorem observe_unaffected (completion : Completion) (state : State) :
    Unaffected state (completion.observe state) := by
  cases completion with
  | write stream message ec =>
      cases ec with
      | none => exact ⟨rfl, rfl, rfl, rfl, .single rfl rfl⟩
      | some _ => exact .refl state
  | _ => exact .refl state

theorem Lifecycle.onRead {state : State} (valid : Lifecycle state) (ec : Option ErrorCode)
    (received : Bytes) : Lifecycle (onRead ec received state) := by
  simp only [WebsocketRunner.onRead]
  split
  · exact valid.unaffected ⟨rfl, rfl, rfl, rfl, .of_eq rfl⟩
  · next active =>
      cases ec with
      | none =>
          simp only
          refine Lifecycle.unaffected ?_ (doRead_unaffected _)
          exact valid.unaffected ⟨rfl, rfl, rfl, rfl, .single rfl rfl⟩
      | some errMsg =>
          simp only
          split
          · exact valid.unaffected
              ⟨rfl, by simp [Operation.isChain, State.attempts, State.begin], rfl, rfl, .of_eq rfl⟩
          · next running =>
              have connected : state.connected = true := by
                cases connected : state.connected with
                | true => rfl
                | false => simp [connected, running] at active
              exact Idle.scheduleReconnect ⟨valid.started connected, valid.noAttempt connected, rfl,
                Bool.eq_false_iff.mpr running⟩

theorem Lifecycle.onClose {state : State} (valid : Lifecycle state) :
    Lifecycle (onClose state) where
  single := Nat.le_trans (Nat.le_add_right state.attempts _) valid.single
  stoppingConnected := by simp [WebsocketRunner.onClose]
  beforeStart := fun notStarted => ⟨(valid.beforeStart notStarted).1, rfl⟩

theorem Lifecycle.complete {state : State} (valid : Lifecycle state) (completion : Completion)
    (running : state.io = .running) (member : completion.operation ∈ state.operations) :
    Lifecycle (completion.handle (completion.observe
      { state with operations := state.operations.erase completion.operation })) := by
  cases completion with
  | resolve ec =>
      have idle := valid.take_chain running member rfl
      cases ec with
      | some _ => exact idle.scheduleReconnect
      | none =>
          have connecting := idle.begin (.connect state.ws)
          exact ⟨connecting.single, connecting.stoppingConnected, connecting.beforeStart⟩
  | connect stream ec sniSet =>
      have idle := valid.take_chain running member rfl
      cases ec with
      | some _ => exact idle.scheduleReconnect
      | none =>
          cases sniSet with
          | true => exact idle.begin _
          | false => exact idle.scheduleReconnect
  | sslHandshake stream ec =>
      have idle := valid.take_chain running member rfl
      cases ec with
      | some _ => exact idle.scheduleReconnect
      | none => exact idle.begin _
  | wsHandshake stream ec now =>
      exact (valid.take_chain running member rfl).onWsHandshake ec now
  | read stream ec received =>
      exact (valid.unaffected (take_unaffected member rfl)).onRead ec received
  | write stream message ec =>
      have taken := valid.unaffected (take_unaffected member rfl)
      exact (taken.unaffected (observe_unaffected _ _)).unaffected (onWrite_unaffected ec _)
  | close stream ec => exact (valid.unaffected (take_unaffected member rfl)).onClose

theorem attempts_reconnectExpires {state : State} (member : .waiting ∈ state.reconnectWaits) :
    State.attempts { state with
      reconnectWaits := .expired :: state.reconnectWaits.erase .waiting } = state.attempts := by
  have count := countP_erase_add Wait.isLive member
  simp only [Wait.isLive, if_true] at count
  simp only [State.attempts, List.countP_cons, Wait.isLive, if_true]
  omega

theorem attempts_reconnectFires {state : State} {aborted : Bool}
    (member : firing aborted ∈ state.reconnectWaits) :
    State.attempts { state with
      reconnectWaits := state.reconnectWaits.erase (firing aborted) } +
        (!aborted).toNat = state.attempts := by
  have count := countP_erase_add Wait.isLive member
  simp only [State.attempts]
  cases aborted with
  | true =>
      simp only [firing, if_true, Wait.isLive, Bool.false_eq_true, if_false] at count
      simp only [firing, if_true, Bool.not_true, Bool.toNat_false]
      omega
  | false =>
      simp only [firing, if_true, Wait.isLive, Bool.false_eq_true, if_false] at count
      simp only [firing, Bool.false_eq_true, if_false, Bool.not_false, Bool.toNat_true]
      omega

/-- The handler of an expired reconnect timer runs with that timer as the only
live attempt. -/
theorem Lifecycle.take_wait {state : State} (valid : Lifecycle state)
    (running : state.io = .running) (member : firing false ∈ state.reconnectWaits) :
    Idle { state with reconnectWaits := state.reconnectWaits.erase (firing false) } := by
  obtain ⟨disconnected, notStopping⟩ := valid.flags (attempts_pos_of_wait member rfl)
  have count := attempts_reconnectFires member
  have single := valid.single
  simp only [Bool.not_false, Bool.toNat_true] at count
  exact ⟨by simp [running], by omega, disconnected, notStopping⟩

theorem Lifecycle.reconnectFires {state : State} (valid : Lifecycle state) {aborted : Bool}
    (running : state.io = .running) (member : firing aborted ∈ state.reconnectWaits) :
    Lifecycle (if !aborted && !state.stopping then
      doReconnect { state with reconnectWaits := state.reconnectWaits.erase (firing aborted) }
      else { state with reconnectWaits := state.reconnectWaits.erase (firing aborted) }) := by
  cases aborted with
  | false =>
      have idle := valid.take_wait running member
      rw [if_pos (by simpa using idle.notStopping)]
      exact idle.doReconnect
  | true => exact valid.unaffected ⟨rfl, attempts_reconnectFires member, rfl, rfl, .of_eq rfl⟩

theorem Lifecycle.doPing {state : State} (valid : Lifecycle state) (now : Int) :
    Lifecycle (doPing now state) := by
  unfold WebsocketRunner.doPing
  split
  · exact valid
  · next active =>
      simp only [Bool.or_eq_true, Bool.not_eq_true', not_or, Bool.not_eq_true,
        Bool.not_eq_false] at active
      split
      · exact Idle.scheduleReconnect
          ⟨valid.started active.2, valid.noAttempt active.2, rfl, active.1⟩
      · exact valid.unaffected ⟨rfl, rfl, rfl, rfl, .of_eq rfl⟩

theorem Lifecycle.doClose {state : State} (valid : Lifecycle state) : Lifecycle (doClose state) := by
  unfold WebsocketRunner.doClose
  split
  · exact valid
  · next active =>
      simp only [Bool.or_eq_true, Bool.not_eq_true', not_or, Bool.not_eq_false] at active
      exact ⟨valid.single, fun _ => active.1, valid.beforeStart⟩

theorem Lifecycle.runPosted {state : State} (valid : Lifecycle state) (function : Posted) :
    Lifecycle (runPosted function state) := by
  cases function with
  | send message => exact valid.unaffected (pushAndWrite_unaffected message state)
  | ping =>
      exact valid.unaffected
        ((pushAndWrite_unaffected pingMsg state).trans (startPingTimer_unaffected _))
  | doClose => exact valid.doClose

theorem Lifecycle.stop {state : State} (valid : Lifecycle state) : Lifecycle (stop state) := by
  have fewer := attempts_cancelReconnectTimer_le state
  have cancelled : Lifecycle (cancelPingTimer (cancelReconnectTimer state)) := by
    constructor
    · exact Nat.le_trans (Nat.add_le_add_right fewer _) valid.single
    · exact valid.stoppingConnected
    · intro notStarted
      obtain ⟨noAttempt, disconnected⟩ := valid.beforeStart notStarted
      exact ⟨attempts_cancelReconnectTimer_idle noAttempt, disconnected⟩
  simp only [WebsocketRunner.stop]
  split
  · exact cancelled.unaffected ⟨rfl, rfl, rfl, rfl, .of_eq rfl⟩
  · exact cancelled

theorem step_lifecycle {state next : State} {action : Action} (valid : Lifecycle state)
    (taken : step state action = some next) : Lifecycle next := by
  cases action with
  | start =>
      obtain ⟨notStarted, rfl⟩ := Option.ite_some_none_eq_some.mp taken
      obtain ⟨noAttempt, disconnected⟩ := valid.beforeStart notStarted
      have notStopping : state.stopping = false := by
        cases stopping : state.stopping with
        | false => rfl
        | true =>
            exact absurd (disconnected.symm.trans (valid.stoppingConnected stopping)) (by decide)
      have idle : Idle { state with io := .running } :=
        ⟨by simp, noAttempt, disconnected, notStopping⟩
      have resolving := idle.begin .resolve
      exact ⟨resolving.single, resolving.stoppingConnected, resolving.beforeStart⟩
  | send message =>
      obtain rfl := Option.some.inj taken
      exact valid.unaffected ⟨rfl, rfl, rfl, rfl, .of_eq rfl⟩
  | stop =>
      obtain rfl := Option.some.inj taken
      exact valid.stop
  | complete completion =>
      obtain ⟨⟨running, member⟩, rfl⟩ := Option.ite_some_none_eq_some.mp taken
      exact valid.complete completion running member
  | reconnectExpires =>
      obtain ⟨⟨_, member⟩, rfl⟩ := Option.ite_some_none_eq_some.mp taken
      exact valid.unaffected ⟨rfl, attempts_reconnectExpires member, rfl, rfl, .of_eq rfl⟩
  | reconnectFires aborted =>
      obtain ⟨⟨running, member⟩, rfl⟩ := Option.ite_some_none_eq_some.mp taken
      exact valid.reconnectFires running member
  | pingExpires =>
      obtain ⟨_, rfl⟩ := Option.ite_some_none_eq_some.mp taken
      exact valid.unaffected ⟨rfl, rfl, rfl, rfl, .of_eq rfl⟩
  | pingFires aborted now =>
      obtain ⟨_, rfl⟩ := Option.ite_some_none_eq_some.mp taken
      have fired : Lifecycle { state with pingWaits := state.pingWaits.erase (firing aborted) } :=
        valid.unaffected ⟨rfl, rfl, rfl, rfl, .of_eq rfl⟩
      split
      · exact fired.doPing now
      · exact fired
  | run function =>
      obtain ⟨_, rfl⟩ := Option.ite_some_none_eq_some.mp taken
      have dequeued : Lifecycle { state with posted := state.posted.erase function } :=
        valid.unaffected ⟨rfl, rfl, rfl, rfl, .of_eq rfl⟩
      exact dequeued.runPosted function
  | pong now =>
      obtain ⟨_, rfl⟩ := Option.ite_some_none_eq_some.mp taken
      exact valid.unaffected ⟨rfl, rfl, rfl, rfl, .of_eq rfl⟩
  | ioRunReturns =>
      obtain ⟨_, rfl⟩ := Option.ite_some_none_eq_some.mp taken
      exact ⟨valid.single, valid.stoppingConnected, fun notStarted => by cases notStarted⟩

theorem initial_lifecycle : Lifecycle initial :=
  ⟨by decide, by decide, fun _ => by decide⟩

theorem reachable_lifecycle {state : State} (reached : Reachable step initial state) :
    Lifecycle state :=
  reached.invariant initial_lifecycle (fun _ _ _ valid taken => step_lifecycle valid taken)

/-! ## After the close has run -/

/-- Nothing will connect any more: no attempt is alive, and a connection that is
still up is being closed. -/
structure Settled (state : State) : Prop where
  started : state.io ≠ .notStarted
  noAttempt : state.attempts = 0
  closing : state.connected = state.stopping

theorem Settled.unaffected {state next : State} (settled : Settled state)
    (same : Unaffected state next) : Settled next where
  started := same.io ▸ settled.started
  noAttempt := same.attempts.trans settled.noAttempt
  closing := (same.connected.trans settled.closing).trans same.stopping.symm

/-- A settled runner stays settled and does not connect. -/
def StaysSettled (state next : State) : Prop :=
  Settled next ∧ NoConnectionSince state next

theorem Unaffected.staysSettled {state next : State} (same : Unaffected state next)
    (settled : Settled state) : StaysSettled state next :=
  ⟨settled.unaffected same, same.silent⟩

theorem Settled.onRead {state : State} (settled : Settled state) (ec : Option ErrorCode)
    (received : Bytes) : StaysSettled state (onRead ec received state) := by
  simp only [WebsocketRunner.onRead]
  split
  · exact Unaffected.staysSettled ⟨rfl, rfl, rfl, rfl, .of_eq rfl⟩ settled
  · next active =>
      have stopping : state.stopping = true := by
        cases stopping : state.stopping with
        | true => rfl
        | false => simp [settled.closing, stopping] at active
      cases ec with
      | none =>
          have delivered : Unaffected state
              { state.record (.onWsMessage (state.readBuf ++ received)) with readBuf := [] } :=
            ⟨rfl, rfl, rfl, rfl, .single rfl rfl⟩
          exact (delivered.trans (doRead_unaffected _)).staysSettled settled
      | some errMsg =>
          simp only [stopping, if_true]
          exact Unaffected.staysSettled
            ⟨rfl, by simp [Operation.isChain, State.attempts, State.begin], rfl, stopping.symm,
              .of_eq rfl⟩ settled

theorem Settled.complete {state : State} (settled : Settled state) (completion : Completion)
    (member : completion.operation ∈ state.operations) :
    StaysSettled state (completion.handle (completion.observe
      { state with operations := state.operations.erase completion.operation })) := by
  have idle : completion.operation.isChain = false := by
    cases chain : completion.operation.isChain with
    | false => rfl
    | true => exact absurd settled.noAttempt (Nat.ne_of_gt (attempts_pos_of_chain member chain))
  have taken := take_unaffected member idle
  cases completion with
  | resolve ec => cases idle
  | connect stream ec sniSet => cases idle
  | sslHandshake stream ec => cases idle
  | wsHandshake stream ec now => cases idle
  | read stream ec received => exact (settled.unaffected taken).onRead ec received
  | write stream message ec =>
      exact ((taken.trans (observe_unaffected _ _)).trans
        (onWrite_unaffected ec _)).staysSettled settled
  | close stream ec =>
      have remaining := settled.unaffected taken
      exact ⟨⟨remaining.started, remaining.noAttempt, rfl⟩, .single rfl rfl⟩

theorem Settled.runPosted {state : State} (settled : Settled state) (function : Posted) :
    StaysSettled state (runPosted function state) := by
  cases function with
  | send message => exact (pushAndWrite_unaffected message state).staysSettled settled
  | ping =>
      exact ((pushAndWrite_unaffected pingMsg state).trans
        (startPingTimer_unaffected _)).staysSettled settled
  | doClose =>
      have ignored : (!state.connected || state.stopping) = true := by
        rw [settled.closing]
        exact Bool.not_or_self _
      simp only [WebsocketRunner.runPosted, doClose, ignored, if_true]
      exact (Unaffected.refl state).staysSettled settled

theorem Settled.stop {state : State} (settled : Settled state) :
    StaysSettled state (stop state) := by
  have noAttempt := attempts_cancelReconnectTimer_idle settled.noAttempt
  simp only [WebsocketRunner.stop]
  split
  · exact ⟨⟨settled.started, noAttempt, settled.closing⟩, .of_eq rfl⟩
  · exact ⟨⟨settled.started, noAttempt, settled.closing⟩, .of_eq rfl⟩

theorem settled_step {state next : State} {action : Action} (settled : Settled state)
    (taken : step state action = some next) : StaysSettled state next := by
  cases action with
  | start => exact absurd (Option.ite_some_none_eq_some.mp taken).1 settled.started
  | send message =>
      obtain rfl := Option.some.inj taken
      exact Unaffected.staysSettled ⟨rfl, rfl, rfl, rfl, .of_eq rfl⟩ settled
  | stop =>
      obtain rfl := Option.some.inj taken
      exact settled.stop
  | complete completion =>
      obtain ⟨⟨_, member⟩, rfl⟩ := Option.ite_some_none_eq_some.mp taken
      exact settled.complete completion member
  | reconnectExpires =>
      obtain ⟨⟨_, member⟩, _⟩ := Option.ite_some_none_eq_some.mp taken
      exact absurd settled.noAttempt (Nat.ne_of_gt (attempts_pos_of_wait member rfl))
  | reconnectFires aborted =>
      obtain ⟨⟨_, member⟩, rfl⟩ := Option.ite_some_none_eq_some.mp taken
      cases aborted with
      | false => exact absurd settled.noAttempt (Nat.ne_of_gt (attempts_pos_of_wait member rfl))
      | true =>
          have count := attempts_reconnectFires member
          exact Unaffected.staysSettled ⟨rfl, count, rfl, rfl, .of_eq rfl⟩ settled
  | pingExpires =>
      obtain ⟨_, rfl⟩ := Option.ite_some_none_eq_some.mp taken
      exact Unaffected.staysSettled ⟨rfl, rfl, rfl, rfl, .of_eq rfl⟩ settled
  | pingFires aborted now =>
      obtain ⟨_, rfl⟩ := Option.ite_some_none_eq_some.mp taken
      have ignored : (!aborted && !state.stopping && state.connected) = false := by
        rw [settled.closing, Bool.and_assoc, Bool.not_and_self, Bool.and_false]
      simp only [ignored, Bool.false_eq_true, if_false]
      exact Unaffected.staysSettled ⟨rfl, rfl, rfl, rfl, .of_eq rfl⟩ settled
  | run function =>
      obtain ⟨_, rfl⟩ := Option.ite_some_none_eq_some.mp taken
      have dequeued : Settled { state with posted := state.posted.erase function } :=
        settled.unaffected ⟨rfl, rfl, rfl, rfl, .of_eq rfl⟩
      exact dequeued.runPosted function
  | pong now =>
      obtain ⟨_, rfl⟩ := Option.ite_some_none_eq_some.mp taken
      exact Unaffected.staysSettled ⟨rfl, rfl, rfl, rfl, .of_eq rfl⟩ settled
  | ioRunReturns =>
      obtain ⟨_, rfl⟩ := Option.ite_some_none_eq_some.mp taken
      exact ⟨⟨by simp, settled.noAttempt, settled.closing⟩, .of_eq rfl⟩

theorem settled_run {state final : State} {actions : List Action}
    (run : Run step state actions final) (settled : Settled state) :
    StaysSettled state final := by
  induction run with
  | nil => exact ⟨settled, .of_eq rfl⟩
  | cons taken _ ih =>
      obtain ⟨nextSettled, silent⟩ := settled_step settled taken
      obtain ⟨finalSettled, rest⟩ := ih nextSettled
      exact ⟨finalSettled, silent.trans rest⟩

/-! ## An attempt under way is not stopped -/

/-- Some continuation from the state starts another attempt. -/
def AttemptsAgain (state : State) : Prop :=
  ∃ actions final events, Run step state actions final ∧
    final.trace = state.trace ++ events ++ [.resolveStarted]

theorem AttemptsAgain.not_silent {state : State} (again : AttemptsAgain state) :
    ¬∀ actions final, Run step state actions final → NoConnectionSince state final := by
  intro silent
  obtain ⟨actions, final, events, run, trace⟩ := again
  have member : .resolveStarted ∈ final.trace.drop state.trace.length := by
    rw [trace, List.append_assoc, List.drop_left]
    exact List.mem_append_right _ List.mem_cons_self
  exact absurd ((silent actions final run).drop _ member) (by decide)

theorem AttemptsAgain.prepend {state next : State} {action : Action} {events : List Event}
    (taken : step state action = some next) (trace : next.trace = state.trace ++ events)
    (again : AttemptsAgain next) : AttemptsAgain state := by
  obtain ⟨actions, final, later, run, appended⟩ := again
  refine ⟨action :: actions, final, events ++ later, .cons taken run, ?_⟩
  rw [appended, trace, List.append_assoc state.trace]

/-- Running, not connected and not being stopped, like a runner with a live attempt. -/
structure Unstopped (state : State) : Prop where
  running : state.io = .running
  disconnected : state.connected = false
  notStopping : state.stopping = false

theorem Unstopped.expired {state : State} (unstopped : Unstopped state)
    (member : .expired ∈ state.reconnectWaits) : AttemptsAgain state := by
  refine ⟨[.reconnectFires false], _, [], .single (if_pos ⟨unstopped.running, member⟩), ?_⟩
  simp [unstopped.disconnected, unstopped.notStopping, doReconnect, doResolve, State.begin,
    State.record, cancelReconnectTimer]

theorem Unstopped.waiting {state : State} (unstopped : Unstopped state)
    (member : .waiting ∈ state.reconnectWaits) : AttemptsAgain state := by
  have taken : step state .reconnectExpires = some _ := if_pos ⟨unstopped.running, member⟩
  apply AttemptsAgain.prepend taken (List.append_nil _).symm
  apply Unstopped.expired
  · exact ⟨unstopped.running, unstopped.disconnected, unstopped.notStopping⟩
  · exact List.mem_cons_self

/-- A completion that fails a step of the chain. -/
def Operation.failure (errMsg : ErrorCode) : Operation → Completion
  | .resolve => .resolve (some errMsg)
  | .connect stream => .connect stream (some errMsg) false
  | .sslHandshake stream => .sslHandshake stream (some errMsg)
  | .wsHandshake stream => .wsHandshake stream (some errMsg) 0
  | .read stream => .read stream (some errMsg) []
  | .write stream message => .write stream message (some errMsg)
  | .close stream => .close stream (some errMsg)

theorem handle_failure {operation : Operation} (chain : operation.isChain = true)
    (errMsg : ErrorCode) (state : State) :
    (operation.failure errMsg).handle ((operation.failure errMsg).observe state) =
      scheduleReconnect state := by
  cases operation with
  | resolve => rfl
  | connect stream => rfl
  | sslHandshake stream => rfl
  | wsHandshake stream => rfl
  | read stream => cases chain
  | write stream message => cases chain
  | close stream => cases chain

theorem operation_failure (operation : Operation) (errMsg : ErrorCode) :
    (operation.failure errMsg).operation = operation := by
  cases operation <;> rfl

theorem Unstopped.chain {state : State} (unstopped : Unstopped state) {operation : Operation}
    (member : operation ∈ state.operations) (chain : operation.isChain = true) :
    AttemptsAgain state := by
  have same := operation_failure operation []
  have taken : step state (.complete (operation.failure [])) =
      some (scheduleReconnect { state with operations := state.operations.erase operation }) := by
    simp only [step, same]
    rw [if_pos ⟨unstopped.running, member⟩, handle_failure chain]
  have scheduled : scheduleReconnect
      { state with operations := state.operations.erase operation } = _ :=
    if_neg (by simp [unstopped.notStopping])
  rw [scheduled] at taken
  apply AttemptsAgain.prepend taken rfl
  apply Unstopped.waiting
  · exact ⟨unstopped.running, unstopped.disconnected, unstopped.notStopping⟩
  · exact List.mem_cons_self

theorem Unstopped.attemptsAgain {state : State} (unstopped : Unstopped state)
    (alive : 0 < state.attempts) : AttemptsAgain state := by
  rcases Nat.add_pos_iff_pos_or_pos.mp alive with chain | waits
  · obtain ⟨operation, member, chain⟩ := List.countP_pos_iff.mp chain
    exact unstopped.chain member chain
  · obtain ⟨wait, member, live⟩ := List.countP_pos_iff.mp waits
    cases wait with
    | waiting => exact unstopped.waiting member
    | expired => exact unstopped.expired member
    | cancelled => cases live

/-- The `doClose` posted by `stop` is final exactly where it finds a connection,
or neither a step of the chain nor a reconnect timer to stop. -/
theorem stop_final_iff {before : List Action} {state closed : State}
    (reached : Run step initial before state) (ran : step state (.run .doClose) = some closed) :
    (∀ after final, Run step closed after final → NoConnectionSince closed final) ↔
      state.connected = true ∨ state.attempts = 0 := by
  have valid := reachable_lifecycle ⟨before, reached⟩
  obtain ⟨⟨running, _⟩, rfl⟩ := Option.ite_some_none_eq_some.mp ran
  have started : state.io ≠ .notStarted := by simp [running]
  simp only [runPosted, doClose]
  constructor
  · intro silent
    rcases Nat.eq_zero_or_pos state.attempts with none | alive
    · exact .inr none
    · obtain ⟨disconnected, notStopping⟩ := valid.flags alive
      rw [if_pos (by simp [disconnected])] at silent
      have unstopped : Unstopped { state with posted := state.posted.erase .doClose } :=
        ⟨running, disconnected, notStopping⟩
      exact absurd silent (unstopped.attemptsAgain alive).not_silent
  · intro stoppable after final run
    refine (settled_run run ?_).2
    have noAttempt : state.attempts = 0 := stoppable.elim valid.noAttempt id
    split
    · next ignored =>
        refine ⟨started, noAttempt, ?_⟩
        cases stopping : state.stopping with
        | true => exact valid.stoppingConnected stopping
        | false => simpa [stopping] using ignored
    · next active =>
        simp only [Bool.or_eq_true, Bool.not_eq_true', not_or, Bool.not_eq_false] at active
        exact ⟨started, noAttempt, active.1⟩

/-- `stop` while the host name is being resolved. -/
def stopWhileResolving : List Action :=
  [.start, .stop]

/-- The attempt that goes on after the close. -/
def attemptSucceeds : List Action :=
  [.complete (.resolve none), .complete (.connect 0 none true), .complete (.sslHandshake 0 none),
    .complete (.wsHandshake 0 none 0)]

theorem stop_while_resolving_not_final :
    ¬∀ before state closed after final, Run step initial before state →
      step state (.run .doClose) = some closed → Run step closed after final →
      NoConnectionSince closed final := by
  intro silent
  have connectsAnyway := silent stopWhileResolving _ _ attemptSucceeds _
    (execute_eq_some.mp rfl) rfl (execute_eq_some.mp rfl)
  exact absurd (connectsAnyway.drop .onWsConnected (by decide)) (by decide)

/-- `stop` on a live connection. -/
def stopWhileConnected : List Action :=
  .start :: attemptSucceeds ++ [.stop]

theorem stop_final_iff_connected :
    ∃ state closed, Run step initial stopWhileConnected state ∧
      step state (.run .doClose) = some closed ∧
      ∀ after final, Run step closed after final → NoConnectionSince closed final := by
  refine ⟨_, _, execute_eq_some.mp rfl, rfl, ?_⟩
  exact (@stop_final_iff stopWhileConnected _ _ (execute_eq_some.mp rfl) rfl).mpr (.inl rfl)

end HyperliquidSdk.Websocket.WebsocketRunner
