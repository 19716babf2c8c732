import HyperliquidSdk.Websocket.RunnerStop
import Mathlib.Data.List.DropRight

/-!
# The keepalive

A ping timer fires again and again while the connection is up. It drops the connection when
the peer has given no sign of life for too long, and only then.
-/

set_option autoImplicit false

namespace HyperliquidSdk.Websocket.WebsocketRunner

open Foundation

/-- The time of a pong, or of the handshake, that the action brings. -/
def Action.sign? : Action → Option Int
  | .pong now => some now
  | .complete (.wsHandshake _ none now) => some now
  | _ => none

def State.IsUp (state : State) : Prop := state.connected = true ∧ state.stopping = false

/-- The keepalive of a connection that is still up is as it was. -/
def Quiet (state next : State) : Prop :=
  next.IsUp → state.IsUp ∧ next.lastPongTime = state.lastPongTime ∧
    next.pendingPong = state.pendingPong

theorem Quiet.of_eq {state next : State} (connected : next.connected = state.connected)
    (stopping : next.stopping = state.stopping) (last : next.lastPongTime = state.lastPongTime)
    (pending : next.pendingPong = state.pendingPong) : Quiet state next :=
  fun up => ⟨⟨connected ▸ up.1, stopping ▸ up.2⟩, last, pending⟩

theorem Quiet.trans {first second third : State} (left : Quiet first second)
    (right : Quiet second third) : Quiet first third := by
  intro up
  obtain ⟨upBetween, last, pending⟩ := right up
  obtain ⟨upFirst, lastBetween, pendingBetween⟩ := left upBetween
  exact ⟨upFirst, last.trans lastBetween, pending.trans pendingBetween⟩

section Handlers

variable {state : State}

end Handlers

/-- What a step does to the keepalive of a connection that is up after it. -/
structure Kept (state : State) (action : Action) (next : State) : Prop where
  fresh : ∀ now, action.sign? = some now → next.lastPongTime = now ∧ next.pendingPong = false
  up : action.sign? = none → state.IsUp
  last : action.sign? = none → next.lastPongTime = state.lastPongTime
  pending : action.sign? = none → (next.pendingPong = true ↔
    state.pendingPong = true ∨ ∃ now, action = .pingFires false now)

theorem Quiet.kept {state next : State} {action : Action} (quiet : Quiet state next)
    (up : next.IsUp) (noSign : action.sign? = none)
    (noPing : ∀ now, action ≠ .pingFires false now) : Kept state action next := by
  obtain ⟨upBefore, last, pending⟩ := quiet up
  refine ⟨fun now sign => ?_, fun _ => upBefore, fun _ => last, fun _ => ?_⟩
  · cases noSign.symm.trans sign
  · rw [pending]
    exact ⟨.inl, fun either => either.resolve_right fun ⟨now, ping⟩ => noPing now ping⟩

end HyperliquidSdk.Websocket.WebsocketRunner
