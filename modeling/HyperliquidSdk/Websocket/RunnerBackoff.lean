import HyperliquidSdk.Foundation.History
import HyperliquidSdk.Websocket.RunnerStop
import Mathlib.Algebra.Group.Nat.Defs

/-!
# Backoff

The delay before each attempt doubles with every failure since the last connection, up to a
minute. The shift in the source is capped before the delay is, so it cannot overflow.
-/

set_option autoImplicit false

namespace HyperliquidSdk.Websocket.WebsocketRunner

open Foundation

def nextFailures (failures : Nat) : Event → Nat
  | .reconnectScheduled _ => failures + 1
  | .onWsConnected => 0
  | _ => failures

/-- The reconnects that a trace has scheduled since its last connection. -/
def failuresSince (trace : List Event) : Nat := trace.foldl nextFailures 0

/-- The delay that the failures before it call for. -/
def IsBackoff (earlier : List Event) (event : Event) : Prop :=
  ∀ secs, event = .reconnectScheduled secs →
    secs = min (2 ^ (failuresSince earlier + 1)) maxBackoffSecs

theorem failuresSince_concat (trace : List Event) (event : Event) :
    failuresSince (trace ++ [event]) = nextFailures (failuresSince trace) event := by
  rw [failuresSince, List.foldl_append]
  rfl

theorem delaySecs_eq (failures : Nat) : delaySecs failures = min (2 ^ failures) maxBackoffSecs := by
  rw [delaySecs, Nat.one_shiftLeft]
  rcases Nat.le_total failures 16 with small | large
  · rw [Nat.min_eq_left small]
  · have capped : maxBackoffSecs ≤ 2 ^ 16 := by decide
    have longer : 2 ^ 16 ≤ 2 ^ failures := Nat.pow_le_pow_right (by decide) large
    rw [Nat.min_eq_right large, Nat.min_eq_right capped,
      Nat.min_eq_right (Nat.le_trans capped longer)]

structure Backoff (state : State) : Prop where
  counted : state.reconnectAttempts = failuresSince state.trace
  doubling : Throughout IsBackoff state.trace

namespace Backoff

variable {state next : State}

theorem frame (valid : Backoff state) (attempts : next.reconnectAttempts = state.reconnectAttempts)
    (trace : next.trace = state.trace) : Backoff next where
  counted := by rw [attempts, trace, valid.counted]
  doubling := by rw [trace]; exact valid.doubling

/-- An event that is neither a connection nor a failure. -/
theorem append (valid : Backoff state) {event : Event}
    (attempts : next.reconnectAttempts = state.reconnectAttempts)
    (trace : next.trace = state.trace ++ [event])
    (other : ∀ failures, nextFailures failures event = failures) : Backoff next where
  counted := by rw [attempts, trace, failuresSince_concat, other, valid.counted]
  doubling := by
    rw [trace]
    refine throughout_concat.mpr ⟨valid.doubling, ?_⟩
    rintro secs rfl
    exact absurd (other 0) (Nat.succ_ne_zero 0)

theorem failed (valid : Backoff state)
    (attempts : next.reconnectAttempts = state.reconnectAttempts + 1)
    (trace : next.trace =
      state.trace ++ [.reconnectScheduled (delaySecs (state.reconnectAttempts + 1))]) :
    Backoff next where
  counted := by rw [attempts, trace, failuresSince_concat, valid.counted]; rfl
  doubling := by
    rw [trace]
    refine throughout_concat.mpr ⟨valid.doubling, ?_⟩
    rintro secs same
    cases same
    rw [← valid.counted]
    exact delaySecs_eq _

theorem scheduleReconnect (valid : Backoff state) : Backoff (scheduleReconnect state) := by
  rw [WebsocketRunner.scheduleReconnect]
  split
  · exact valid
  · exact valid.failed rfl rfl

theorem connected (valid : Backoff state) (attempts : next.reconnectAttempts = 0)
    (trace : next.trace = state.trace ++ [.onWsConnected]) : Backoff next where
  counted := by rw [attempts, trace, failuresSince_concat]; rfl
  doubling := by
    rw [trace]
    exact throughout_concat.mpr ⟨valid.doubling, fun _ same => nomatch same⟩

theorem doWrite (valid : Backoff state) : Backoff (doWrite state) := by
  rw [WebsocketRunner.doWrite]
  split
  · exact valid.frame rfl rfl
  · exact valid.frame rfl rfl

theorem startPingTimer (valid : Backoff state) : Backoff (startPingTimer state) := by
  rw [WebsocketRunner.startPingTimer]
  split
  · exact valid
  · exact valid.frame rfl rfl

theorem pushAndWrite (valid : Backoff state) (message : Message) :
    Backoff (pushAndWrite message state) := by
  have pushed : Backoff (push message state) := valid.append rfl rfl fun _ => rfl
  simp only [WebsocketRunner.pushAndWrite]
  split
  · exact pushed.doWrite
  · exact pushed

theorem doReconnect (valid : Backoff state) : Backoff (doReconnect state) := by
  rw [WebsocketRunner.doReconnect]
  split
  · exact valid
  · exact valid.append rfl rfl fun _ => rfl

theorem onWsHandshake (valid : Backoff state) (ec : Option ErrorCode) (now : Int) :
    Backoff (onWsHandshake ec now state) := by
  cases ec with
  | some errMsg => exact valid.scheduleReconnect
  | none =>
      have up : Backoff ({ onPongReceived now (cancelReconnectTimer state) with
          connected := true, reconnectAttempts := 0 }.record .onWsConnected) :=
        valid.connected rfl rfl
      simp only [WebsocketRunner.onWsHandshake]
      refine frame (startPingTimer ?_) rfl rfl
      split
      · exact up
      · exact up.doWrite

theorem onRead (valid : Backoff state) (ec : Option ErrorCode) (received : Bytes) :
    Backoff (onRead ec received state) := by
  simp only [WebsocketRunner.onRead]
  split
  · exact valid.frame rfl rfl
  · cases ec with
    | none => exact valid.append rfl rfl fun _ => rfl
    | some errMsg =>
        simp only
        split
        · exact valid.frame rfl rfl
        · refine scheduleReconnect ?_
          exact valid.append rfl rfl fun _ => rfl

theorem onWrite (valid : Backoff state) (ec : Option ErrorCode) : Backoff (onWrite ec state) := by
  simp only [WebsocketRunner.onWrite]
  split
  · exact valid
  · cases ec with
    | none => exact doWrite (valid.frame rfl rfl)
    | some errMsg => exact valid.frame rfl rfl

theorem observe (valid : Backoff state) (completion : Completion) :
    Backoff (completion.observe state) := by
  cases completion with
  | write stream message ec =>
      cases ec with
      | none => exact valid.append rfl rfl fun _ => rfl
      | some errMsg => exact valid
  | _ => exact valid

theorem handle (valid : Backoff state) (completion : Completion) :
    Backoff (completion.handle state) := by
  cases completion with
  | resolve ec =>
      cases ec with
      | none => exact valid.append rfl rfl fun _ => rfl
      | some errMsg => exact valid.scheduleReconnect
  | connect stream ec sniSet =>
      cases ec with
      | none =>
          cases sniSet with
          | false => exact valid.scheduleReconnect
          | true => exact valid.frame rfl rfl
      | some errMsg => exact valid.scheduleReconnect
  | sslHandshake stream ec =>
      cases ec with
      | none => exact valid.frame rfl rfl
      | some errMsg => exact valid.scheduleReconnect
  | wsHandshake stream ec now => exact valid.onWsHandshake ec now
  | read stream ec received => exact valid.onRead ec received
  | write stream message ec => exact valid.onWrite ec
  | close stream ec => exact valid.append rfl rfl fun _ => rfl

theorem doPing (valid : Backoff state) (now : Int) : Backoff (doPing now state) := by
  rw [WebsocketRunner.doPing]
  split
  · exact valid
  · split
    · refine scheduleReconnect ?_
      exact valid.append rfl rfl fun _ => rfl
    · exact valid.frame rfl rfl

theorem runPosted (valid : Backoff state) (function : Posted) :
    Backoff (runPosted function state) := by
  cases function with
  | send message => exact valid.pushAndWrite message
  | ping => exact (valid.pushAndWrite pingMsg).startPingTimer
  | doClose =>
      simp only [WebsocketRunner.runPosted, doClose]
      split
      · exact valid
      · exact valid.frame rfl rfl

theorem step {action : Action} (valid : Backoff state)
    (taken : step state action = some next) : Backoff next := by
  cases action with
  | start =>
      obtain ⟨_, rfl⟩ := Option.ite_some_none_eq_some.mp taken
      exact valid.append rfl rfl fun _ => rfl
  | send message =>
      obtain rfl := Option.some.inj taken
      exact valid.frame rfl rfl
  | stop =>
      obtain rfl := Option.some.inj taken
      simp only [stop]
      split
      · exact valid.frame rfl rfl
      · exact valid.frame rfl rfl
  | complete completion =>
      obtain ⟨_, rfl⟩ := Option.ite_some_none_eq_some.mp taken
      have begun : Backoff { state with
          operations := state.operations.erase completion.operation } := valid.frame rfl rfl
      exact (begun.observe completion).handle completion
  | reconnectFires aborted =>
      obtain ⟨_, rfl⟩ := Option.ite_some_none_eq_some.mp taken
      split
      · exact doReconnect (valid.frame rfl rfl)
      · exact valid.frame rfl rfl
  | pingFires aborted now =>
      obtain ⟨_, rfl⟩ := Option.ite_some_none_eq_some.mp taken
      split
      · refine doPing ?_ now
        exact valid.frame rfl rfl
      · exact valid.frame rfl rfl
  | run function =>
      obtain ⟨_, rfl⟩ := Option.ite_some_none_eq_some.mp taken
      refine runPosted ?_ function
      exact valid.frame rfl rfl
  | _ =>
      obtain ⟨_, rfl⟩ := Option.ite_some_none_eq_some.mp taken
      exact valid.frame rfl rfl

end Backoff

/-- In every reachable state the counter holds the failures since the last connection, and
every delay ever reported is two to the power of the failures up to it, or a minute. -/
theorem delays_double {state : State} (reached : Reachable step initial state) :
    state.reconnectAttempts = failuresSince state.trace ∧ Throughout IsBackoff state.trace := by
  have valid : Backoff state :=
    reached.invariant ⟨rfl, throughout_nil⟩ fun _ _ _ valid taken => valid.step taken
  exact ⟨valid.counted, valid.doubling⟩

/-- The host name cannot be resolved twice, and then it can. -/
def resolvesAtLast : List Action :=
  [.start, .complete (.resolve (some [])), .reconnectExpires, .reconnectFires false,
    .complete (.resolve (some [])), .reconnectExpires, .reconnectFires false,
    .complete (.resolve none)]

theorem delays_double_twice :
    ∃ state, execute step initial resolvesAtLast = some state ∧ state.reconnectAttempts = 2 ∧
      .reconnectScheduled 4 ∈ state.trace ∧ Throughout IsBackoff state.trace :=
  ⟨_, rfl, rfl, by decide, (delays_double ⟨resolvesAtLast, execute_eq_some.mp rfl⟩).2⟩

end HyperliquidSdk.Websocket.WebsocketRunner
