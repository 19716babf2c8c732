import HyperliquidSdk.Foundation.Bytes
import HyperliquidSdk.Foundation.TransitionSystem

/-!
# The websocket runner

`WebsocketRunner.cpp` as a transition system. One thread runs the handlers of
the `io_context`, each to its end, so a handler is one step; `send` and `stop`
may be called by any thread between two of them. The work that Asio still owes
a handler call is part of the state, and any of it may complete next, with
success or with an error.

The stream behind `ws_` is known by a number: `doReconnect` replaces it, and the
operations of earlier streams may still be outstanding. Destroying a timer
cancels its wait like `cancel()` does, so a wait that is still `waiting` always
belongs to the timer that the pointer holds.

A callback of the listener returns: an exception that it throws would leave the handler and
end `io_context::run`, and no step does that.
-/

set_option autoImplicit false

namespace HyperliquidSdk.Websocket.WebsocketRunner

open Foundation

abbrev StreamId := Nat

abbrev Message := Bytes

/-- The text of `error_code::message()`; a handler sees `none` on success. -/
abbrev ErrorCode := Bytes

/-- The asynchronous operations on the resolver and on a stream. -/
inductive Operation where
  | resolve
  | connect (stream : StreamId)
  | sslHandshake (stream : StreamId)
  | wsHandshake (stream : StreamId)
  | read (stream : StreamId)
  | write (stream : StreamId) (message : Message)
  | close (stream : StreamId)
  deriving DecidableEq, Repr

/-- A cancelled wait completes with `operation_aborted`. A wait whose timer has
expired is past cancelling: its handler is queued with success. -/
inductive Wait where
  | waiting
  | expired
  | cancelled
  deriving DecidableEq, Repr

/-- The functions handed to `net::post`. -/
inductive Posted where
  | send (message : Message)
  | ping
  | doClose
  deriving DecidableEq, Repr

inductive IoContext where
  | notStarted
  | running
  | stopped
  deriving DecidableEq, Repr

/-- What an observer of the listener and of the wire can see, in order. A pushed
message carries the stream that is current at the push: the queue is cleared
exactly where the stream is replaced, so the number tells since which clear. -/
inductive Event where
  | resolveStarted
  | connectStarted
  | reconnectScheduled (delaySecs : Nat)
  | onWsConnected
  | onWsDisconnected (hasError : Bool) (errMsg : Bytes)
  | onWsMessage (message : Bytes)
  | pushed (stream : StreamId) (message : Message)
  | written (stream : StreamId) (message : Message)
  deriving DecidableEq, Repr

structure State where
  io : IoContext
  operations : List Operation
  reconnectWaits : List Wait
  pingWaits : List Wait
  posted : List Posted
  ws : StreamId
  readBuf : Bytes
  writeQueue : List Message
  writing : Bool
  connected : Bool
  stopping : Bool
  reconnectAttempts : Nat
  lastPongTime : Int
  pendingPong : Bool
  trace : List Event
  deriving DecidableEq, Repr

def initial : State where
  io := .notStarted
  operations := []
  reconnectWaits := []
  pingWaits := []
  posted := []
  ws := 0
  readBuf := []
  writeQueue := []
  writing := false
  connected := false
  stopping := false
  reconnectAttempts := 0
  lastPongTime := 0
  pendingPong := false
  trace := []

def maxBackoffSecs : Nat := 60

/-- `PONG_TIMEOUT_SECS` on the nanosecond scale of `steady_clock`. -/
def pongTimeoutNanos : Int := 10 * 1000000000

def pingMsg : Message := utf8 "\x7b\"method\":\"ping\"\x7d"

def State.begin (state : State) (operation : Operation) : State :=
  { state with operations := operation :: state.operations }

def State.post (state : State) (function : Posted) : State :=
  { state with posted := function :: state.posted }

def State.record (state : State) (event : Event) : State :=
  { state with trace := state.trace ++ [event] }

def Wait.cancel : Wait → Wait
  | .waiting => .cancelled
  | wait => wait

def cancelReconnectTimer (state : State) : State :=
  { state with reconnectWaits := state.reconnectWaits.map Wait.cancel }

def cancelPingTimer (state : State) : State :=
  { state with pingWaits := state.pingWaits.map Wait.cancel }

def push (message : Message) (state : State) : State :=
  { state with
    writeQueue := state.writeQueue ++ [message]
    trace := state.trace ++ [.pushed state.ws message] }

def doResolve (state : State) : State :=
  (state.record .resolveStarted).begin .resolve

def doRead (state : State) : State :=
  state.begin (.read state.ws)

def doWrite (state : State) : State :=
  match state.writeQueue with
  | [] => { state with writing := false }
  | front :: _ => { state with writing := true }.begin (.write state.ws front)

def pushAndWrite (message : Message) (state : State) : State :=
  let state := push message state
  if state.connected && !state.writing then doWrite state else state

/-- `min(1 << min(reconnectAttempts_, 16), MAX_BACKOFF_SECS)`. -/
def delaySecs (reconnectAttempts : Nat) : Nat :=
  min (1 <<< min reconnectAttempts 16) maxBackoffSecs

def scheduleReconnect (state : State) : State :=
  if state.stopping then state
  else
    let state := cancelReconnectTimer (cancelPingTimer state)
    let attempts := state.reconnectAttempts + 1
    { state with
      reconnectAttempts := attempts
      reconnectWaits := .waiting :: state.reconnectWaits
      trace := state.trace ++ [.reconnectScheduled (delaySecs attempts)] }

/-- Closing the old socket leaves its operations outstanding; how they complete
is not determined. -/
def doReconnect (state : State) : State :=
  if state.connected then state
  else
    doResolve { cancelReconnectTimer state with
      pendingPong := false
      writing := false
      readBuf := []
      writeQueue := []
      ws := state.ws + 1 }

def startPingTimer (state : State) : State :=
  if state.stopping || !state.connected then state
  else
    let state := cancelPingTimer state
    { state with pingWaits := .waiting :: state.pingWaits }

/-- Also the control callback: both see a pong at `now`. -/
def onPongReceived (now : Int) (state : State) : State :=
  { state with lastPongTime := now, pendingPong := false }

def onResolve (ec : Option ErrorCode) (state : State) : State :=
  match ec with
  | some _ => scheduleReconnect state
  | none => (state.record .connectStarted).begin (.connect state.ws)

/-- `sniSet` is the result of `SSL_set_tlsext_host_name`. -/
def onConnect (ec : Option ErrorCode) (sniSet : Bool) (state : State) : State :=
  match ec with
  | some _ => scheduleReconnect state
  | none =>
      if sniSet then state.begin (.sslHandshake state.ws) else scheduleReconnect state

def onSslHandshake (ec : Option ErrorCode) (state : State) : State :=
  match ec with
  | some _ => scheduleReconnect state
  | none => state.begin (.wsHandshake state.ws)

def onWsHandshake (ec : Option ErrorCode) (now : Int) (state : State) : State :=
  match ec with
  | some _ => scheduleReconnect state
  | none =>
      let state := onPongReceived now (cancelReconnectTimer state)
      let state := { state with connected := true, reconnectAttempts := 0 }.record .onWsConnected
      let state := if state.writeQueue.isEmpty then state else doWrite state
      doRead (startPingTimer state)

/-- The source reports `websocket::error::closed` in a branch of its own, which
does the same as the branch for every other error. -/
def onRead (ec : Option ErrorCode) (received : Bytes) (state : State) : State :=
  let state := { state with readBuf := state.readBuf ++ received }
  -- stale callback from a cancelled or replaced stream
  if !state.connected && !state.stopping then state
  else
    match ec with
    | some errMsg =>
        if state.stopping then state.begin (.close state.ws)
        else
          scheduleReconnect
            { state.record (.onWsDisconnected true errMsg) with connected := false }
    | none => doRead { state.record (.onWsMessage state.readBuf) with readBuf := [] }

def onClose (state : State) : State :=
  { state.record (.onWsDisconnected false []) with connected := false, stopping := false }

def onWrite (ec : Option ErrorCode) (state : State) : State :=
  if !state.connected then state
  else
    match ec with
    | some _ => { state with writing := false }
    | none => doWrite { state with writeQueue := state.writeQueue.tail }

/-- Cancelling the operations of the stream leaves them outstanding, to complete
in any way. -/
def doClose (state : State) : State :=
  if !state.connected || state.stopping then state
  else { cancelPingTimer state with stopping := true }

def doPing (now : Int) (state : State) : State :=
  if state.stopping || !state.connected then state
  else if state.pendingPong && decide (now - state.lastPongTime > pongTimeoutNanos) then
    scheduleReconnect
      { state.record (.onWsDisconnected true (utf8 "Pong timeout")) with connected := false }
  else { state with pendingPong := true }.post .ping

def runPosted (function : Posted) (state : State) : State :=
  match function with
  | .send message => pushAndWrite message state
  | .ping => startPingTimer (pushAndWrite pingMsg state)
  | .doClose => doClose state

def stop (state : State) : State :=
  let state := cancelPingTimer (cancelReconnectTimer state)
  if state.io ≠ .stopped ∧ state.stopping = false then state.post .doClose else state

/-- An asynchronous operation that completes, with what its handler is given. -/
inductive Completion where
  | resolve (ec : Option ErrorCode)
  | connect (stream : StreamId) (ec : Option ErrorCode) (sniSet : Bool)
  | sslHandshake (stream : StreamId) (ec : Option ErrorCode)
  | wsHandshake (stream : StreamId) (ec : Option ErrorCode) (now : Int)
  | read (stream : StreamId) (ec : Option ErrorCode) (received : Bytes)
  | write (stream : StreamId) (message : Message) (ec : Option ErrorCode)
  | close (stream : StreamId) (ec : Option ErrorCode)
  deriving DecidableEq, Repr

def Completion.operation : Completion → Operation
  | .resolve _ => .resolve
  | .connect stream _ _ => .connect stream
  | .sslHandshake stream _ => .sslHandshake stream
  | .wsHandshake stream _ _ => .wsHandshake stream
  | .read stream _ _ => .read stream
  | .write stream message _ => .write stream message
  | .close stream _ => .close stream

/-- What has happened on the wire when the handler runs. -/
def Completion.observe : Completion → State → State
  | .write stream message none, state => state.record (.written stream message)
  | _, state => state

/-- The handlers work on the stream that is current when they run. -/
def Completion.handle : Completion → State → State
  | .resolve ec => onResolve ec
  | .connect _ ec sniSet => onConnect ec sniSet
  | .sslHandshake _ ec => onSslHandshake ec
  | .wsHandshake _ ec now => onWsHandshake ec now
  | .read _ ec received => onRead ec received
  | .write _ _ ec => onWrite ec
  | .close _ _ => onClose

inductive Action where
  | start
  | send (message : Message)
  | stop
  | complete (completion : Completion)
  | reconnectExpires
  | reconnectFires (aborted : Bool)
  | pingExpires
  | pingFires (aborted : Bool) (now : Int)
  | run (function : Posted)
  | pong (now : Int)
  | ioRunReturns
  deriving DecidableEq, Repr

/-- The wait that a timer handler ends. -/
def firing (aborted : Bool) : Wait :=
  if aborted then .cancelled else .expired

/-- `steady_timer::async_wait` handlers do nothing on `operation_aborted`. -/
def step : StepFunction State Action
  | state, .start =>
      if state.io = .notStarted then some (doResolve { state with io := .running }) else none
  | state, .send message => some (state.post (.send message))
  | state, .stop => some (stop state)
  | state, .complete completion =>
      if state.io = .running ∧ completion.operation ∈ state.operations then
        some (completion.handle (completion.observe
          { state with operations := state.operations.erase completion.operation }))
      else none
  | state, .reconnectExpires =>
      if state.io = .running ∧ .waiting ∈ state.reconnectWaits then
        some { state with reconnectWaits := .expired :: state.reconnectWaits.erase .waiting }
      else none
  | state, .reconnectFires aborted =>
      if state.io = .running ∧ firing aborted ∈ state.reconnectWaits then
        let fired := { state with reconnectWaits := state.reconnectWaits.erase (firing aborted) }
        some (if !aborted && !state.stopping then doReconnect fired else fired)
      else none
  | state, .pingExpires =>
      if state.io = .running ∧ .waiting ∈ state.pingWaits then
        some { state with pingWaits := .expired :: state.pingWaits.erase .waiting }
      else none
  | state, .pingFires aborted now =>
      if state.io = .running ∧ firing aborted ∈ state.pingWaits then
        let fired := { state with pingWaits := state.pingWaits.erase (firing aborted) }
        some (if !aborted && !state.stopping && state.connected then doPing now fired else fired)
      else none
  | state, .run function =>
      if state.io = .running ∧ function ∈ state.posted then
        some (runPosted function { state with posted := state.posted.erase function })
      else none
  | state, .pong now =>
      if state.io = .running then some (onPongReceived now state) else none
  | state, .ioRunReturns =>
      if state.io = .running ∧ state.operations = [] ∧ state.reconnectWaits = [] ∧
          state.pingWaits = [] ∧ state.posted = [] then
        some { state with io := .stopped }
      else none

end HyperliquidSdk.Websocket.WebsocketRunner
