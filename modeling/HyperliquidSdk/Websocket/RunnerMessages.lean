import HyperliquidSdk.Websocket.RunnerWriteQueue

/-!
# The way of a message

A message that was sent waits to be pushed, waits in the queue, or was written on the
current stream. Only the replacement of the stream takes it from there.
-/

set_option autoImplicit false

namespace HyperliquidSdk.Websocket.WebsocketRunner

open Foundation

/-- The runner still has the message, or has written it on the current stream. -/
def State.Carries (state : State) (message : Message) : Prop :=
  .send message ∈ state.posted ∨ message ∈ state.writeQueue ∨
    message ∈ state.writtenOn state.ws

/-- A step that takes away neither a posted function nor a message. -/
structure Keeps (state next : State) : Prop where
  ws : next.ws = state.ws
  posted : state.posted ⊆ next.posted
  writeQueue : state.writeQueue ⊆ next.writeQueue
  trace : state.trace <+: next.trace

theorem Keeps.refl (state : State) : Keeps state state :=
  ⟨rfl, List.Subset.refl _, List.Subset.refl _, List.prefix_rfl⟩

theorem Keeps.trans {first second third : State} (left : Keeps first second)
    (right : Keeps second third) : Keeps first third where
  ws := right.ws.trans left.ws
  posted := List.Subset.trans left.posted right.posted
  writeQueue := List.Subset.trans left.writeQueue right.writeQueue
  trace := left.trace.trans right.trace

/-- What was written on a stream stays written. -/
theorem writtenOn_subset {state next : State} (trace : state.trace <+: next.trace)
    (stream : StreamId) : state.writtenOn stream ⊆ next.writtenOn stream := by
  obtain ⟨events, appended⟩ := trace
  unfold State.writtenOn
  rw [← appended, List.filterMap_append]
  exact List.subset_append_left _ _

theorem Keeps.carries {state next : State} (keeps : Keeps state next) {message : Message}
    (carried : state.Carries message) : next.Carries message := by
  rcases carried with posted | queued | written
  · exact .inl (keeps.posted posted)
  · exact .inr (.inl (keeps.writeQueue queued))
  · exact .inr (.inr (keeps.ws ▸ writtenOn_subset keeps.trace state.ws written))

section Handlers

variable (state : State)

/-- A change of the other fields. -/
theorem keeps_of_eq {state next : State} (ws : next.ws = state.ws)
    (posted : next.posted = state.posted) (writeQueue : next.writeQueue = state.writeQueue)
    (trace : next.trace = state.trace) : Keeps state next :=
  ⟨ws, posted ▸ List.Subset.refl _, writeQueue ▸ List.Subset.refl _, trace ▸ List.prefix_rfl⟩

theorem record_keeps (event : Event) : Keeps state (state.record event) :=
  ⟨rfl, List.Subset.refl _, List.Subset.refl _, List.prefix_append _ _⟩

theorem begin_keeps (operation : Operation) : Keeps state (state.begin operation) :=
  keeps_of_eq rfl rfl rfl rfl

theorem post_keeps (function : Posted) : Keeps state (state.post function) :=
  ⟨rfl, List.subset_cons_self _ _, List.Subset.refl _, List.prefix_rfl⟩

theorem push_keeps (message : Message) : Keeps state (push message state) :=
  ⟨rfl, List.Subset.refl _, List.subset_append_left _ _, List.prefix_append _ _⟩

theorem doWrite_keeps : Keeps state (doWrite state) := by
  unfold doWrite
  split
  · exact keeps_of_eq rfl rfl rfl rfl
  · exact keeps_of_eq rfl rfl rfl rfl

theorem pushAndWrite_keeps (message : Message) : Keeps state (pushAndWrite message state) := by
  simp only [pushAndWrite]
  split
  · exact (push_keeps state message).trans (doWrite_keeps _)
  · exact push_keeps state message

theorem mem_pushAndWrite (message : Message) :
    message ∈ (pushAndWrite message state).writeQueue := by
  have pushed : message ∈ (push message state).writeQueue :=
    List.mem_append_right _ (List.mem_singleton_self message)
  simp only [pushAndWrite]
  split
  · exact (doWrite_keeps _).writeQueue pushed
  · exact pushed

theorem startPingTimer_keeps : Keeps state (startPingTimer state) := by
  unfold startPingTimer
  split
  · exact .refl state
  · exact keeps_of_eq rfl rfl rfl rfl

theorem scheduleReconnect_keeps : Keeps state (scheduleReconnect state) := by
  unfold scheduleReconnect
  split
  · exact .refl state
  · exact ⟨rfl, List.Subset.refl _, List.Subset.refl _, List.prefix_append _ _⟩

theorem disconnect_keeps (hasError : Bool) (errMsg : Bytes) :
    Keeps state { state.record (.onWsDisconnected hasError errMsg) with connected := false } :=
  (record_keeps state _).trans (keeps_of_eq rfl rfl rfl rfl)

theorem onWsHandshake_keeps (ec : Option ErrorCode) (now : Int) :
    Keeps state (onWsHandshake ec now state) := by
  cases ec with
  | some _ => exact scheduleReconnect_keeps state
  | none =>
      simp only [onWsHandshake]
      have connects : Keeps state ({ onPongReceived now (cancelReconnectTimer state) with
          connected := true, reconnectAttempts := 0 }.record .onWsConnected) :=
        ⟨rfl, List.Subset.refl _, List.Subset.refl _, List.prefix_append _ _⟩
      refine Keeps.trans ?_ ((startPingTimer_keeps _).trans (begin_keeps _ _))
      split
      · exact connects
      · exact connects.trans (doWrite_keeps _)

theorem onRead_keeps (ec : Option ErrorCode) (received : Bytes) :
    Keeps state (onRead ec received state) := by
  have buffered : Keeps state { state with readBuf := state.readBuf ++ received } :=
    keeps_of_eq rfl rfl rfl rfl
  unfold onRead
  simp only
  split
  · exact buffered
  · cases ec with
    | some errMsg =>
        simp only
        split
        · exact buffered.trans (begin_keeps _ _)
        · exact buffered.trans ((disconnect_keeps _ _ _).trans (scheduleReconnect_keeps _))
    | none =>
        refine (buffered.trans (record_keeps _ (.onWsMessage (state.readBuf ++ received)))).trans ?_
        exact keeps_of_eq rfl rfl rfl rfl

theorem doPing_keeps (now : Int) : Keeps state (doPing now state) := by
  unfold doPing
  split
  · exact .refl state
  · split
    · exact (disconnect_keeps _ _ _).trans (scheduleReconnect_keeps _)
    · exact ⟨rfl, List.subset_cons_self _ _, List.Subset.refl _, List.prefix_rfl⟩

theorem doClose_keeps : Keeps state (doClose state) := by
  unfold doClose
  split
  · exact .refl state
  · exact keeps_of_eq rfl rfl rfl rfl

theorem onClose_keeps : Keeps state (onClose state) :=
  ⟨rfl, List.Subset.refl _, List.Subset.refl _, List.prefix_append _ _⟩

theorem onResolve_keeps (ec : Option ErrorCode) : Keeps state (onResolve ec state) := by
  cases ec with
  | some _ => exact scheduleReconnect_keeps state
  | none => exact (record_keeps state _).trans (begin_keeps _ _)

theorem onConnect_keeps (ec : Option ErrorCode) (sniSet : Bool) :
    Keeps state (onConnect ec sniSet state) := by
  cases ec with
  | some _ => exact scheduleReconnect_keeps state
  | none =>
      cases sniSet with
      | true => exact begin_keeps state _
      | false => exact scheduleReconnect_keeps state

theorem onSslHandshake_keeps (ec : Option ErrorCode) : Keeps state (onSslHandshake ec state) := by
  cases ec with
  | some _ => exact scheduleReconnect_keeps state
  | none => exact begin_keeps state _

theorem stop_keeps : Keeps state (stop state) := by
  simp only [stop]
  split
  · exact ⟨rfl, List.subset_cons_self _ _, List.Subset.refl _, List.prefix_rfl⟩
  · exact keeps_of_eq rfl rfl rfl rfl

end Handlers

/-- A written message leaves the queue for the log of its stream. -/
theorem onWrite_carries {state : State} (valid : Transmitting state) {stream : StreamId}
    {message : Message} (member : .write stream message ∈ state.operations) (ec : Option ErrorCode)
    {other : Message} (carried : state.Carries other) :
    (onWrite ec (state.takeWrite stream message ec)).Carries other := by
  have taken : Keeps state (state.takeWrite stream message ec) := by
    refine ⟨ws_takeWrite .., ?_, ?_, ?_⟩
    · cases ec with
      | none => exact List.Subset.refl _
      | some _ => exact List.Subset.refl _
    · rw [writeQueue_takeWrite]
      exact List.Subset.refl _
    · cases ec with
      | none => exact List.prefix_append _ _
      | some _ => exact List.prefix_rfl
  unfold onWrite
  split
  · exact taken.carries carried
  · next up =>
      cases ec with
      | some errMsg => exact (taken.trans (keeps_of_eq rfl rfl rfl rfl)).carries carried
      | none =>
          rw [connected_takeWrite] at up
          have connected : state.connected = true := by simpa using up
          have current : stream = state.ws :=
            valid.serving.connection.connectedCurrent connected _ member stream rfl
          obtain ⟨rest, queue⟩ := List.head?_eq_some_iff.mp
            (valid.queue.front message (current ▸ mem_writes member))
          refine (doWrite_keeps _).carries ?_
          rcases taken.carries carried with posted | queued | written
          · exact .inl posted
          · rw [writeQueue_takeWrite, queue, List.mem_cons] at queued
            rcases queued with rfl | later
            · refine .inr (.inr ?_)
              change other ∈ (state.takeWrite stream other none).writtenOn state.ws
              rw [writtenOn_takeWrite, if_pos ⟨current, rfl⟩]
              exact List.mem_append_right _ (List.mem_singleton_self _)
            · refine .inr (.inl ?_)
              change other ∈ (state.takeWrite stream message none).writeQueue.tail
              rw [writeQueue_takeWrite, queue]
              exact later
          · exact .inr (.inr written)

theorem complete_carries {state : State} (valid : Transmitting state) (completion : Completion)
    (member : completion.operation ∈ state.operations) {message : Message}
    (carried : state.Carries message) :
    (completion.handle (completion.observe
      { state with operations := state.operations.erase completion.operation })).Carries
        message := by
  have taken : Keeps state
      { state with operations := state.operations.erase completion.operation } :=
    keeps_of_eq rfl rfl rfl rfl
  cases completion with
  | resolve ec => exact (taken.trans (onResolve_keeps _ ec)).carries carried
  | connect stream ec sniSet => exact (taken.trans (onConnect_keeps _ ec sniSet)).carries carried
  | sslHandshake stream ec => exact (taken.trans (onSslHandshake_keeps _ ec)).carries carried
  | wsHandshake stream ec now => exact (taken.trans (onWsHandshake_keeps _ ec now)).carries carried
  | read stream ec received => exact (taken.trans (onRead_keeps _ ec received)).carries carried
  | write stream written ec => exact onWrite_carries valid member ec carried
  | close stream ec => exact (taken.trans (onClose_keeps _)).carries carried

theorem runPosted_keeps (function : Posted) (state : State) :
    Keeps state (runPosted function state) := by
  cases function with
  | send message => exact pushAndWrite_keeps state message
  | ping => exact (pushAndWrite_keeps state pingMsg).trans (startPingTimer_keeps _)
  | doClose => exact doClose_keeps state

/-- A function that is taken to be run pushes the message that it was posted for. -/
theorem run_carries {state : State} (function : Posted) {message : Message}
    (carried : state.Carries message) :
    (runPosted function { state with posted := state.posted.erase function }).Carries message := by
  by_cases sends : function = .send message
  · subst sends
    exact .inr (.inl (mem_pushAndWrite _ message))
  · refine (runPosted_keeps function _).carries ?_
    rcases carried with posted | other
    · exact .inl ((List.mem_erase_of_ne (Ne.symm sends)).mpr posted)
    · exact .inr other

/-- The step replaces the stream. -/
def replaces (state : State) : Action → Bool
  | .reconnectFires aborted => !aborted && !state.stopping && !state.connected
  | _ => false

theorem doReconnect_carries {state : State} {message : Message} (carried : state.Carries message)
    (posted : state.connected = false → .send message ∈ state.posted) :
    (doReconnect state).Carries message := by
  unfold doReconnect
  split
  · exact carried
  · next down => exact .inl (posted (by simpa using down))

/-- Of the messages that the runner carries, a step loses none, but when it replaces the stream
it loses those that were pushed. -/
theorem step_carries {state next : State} {action : Action} (valid : Transmitting state)
    (taken : step state action = some next) {message : Message} (carried : state.Carries message)
    (posted : replaces state action = true → .send message ∈ state.posted) : next.Carries message := by
  cases action with
  | start =>
      obtain ⟨-, rfl⟩ := Option.ite_some_none_eq_some.mp taken
      exact ((record_keeps _ .resolveStarted).trans (begin_keeps _ _)).carries carried
  | send _ =>
      obtain rfl := Option.some.inj taken
      exact (post_keeps state _).carries carried
  | stop =>
      obtain rfl := Option.some.inj taken
      exact (stop_keeps state).carries carried
  | complete completion =>
      obtain ⟨⟨-, member⟩, rfl⟩ := Option.ite_some_none_eq_some.mp taken
      exact complete_carries valid completion member carried
  | reconnectExpires =>
      obtain ⟨-, rfl⟩ := Option.ite_some_none_eq_some.mp taken
      exact carried
  | reconnectFires aborted =>
      obtain ⟨-, rfl⟩ := Option.ite_some_none_eq_some.mp taken
      split
      · next fires =>
          simp only [Bool.and_eq_true, Bool.not_eq_true'] at fires
          refine doReconnect_carries carried fun down => posted ?_
          change (!aborted && !state.stopping && !state.connected) = true
          rw [fires.1, fires.2, show state.connected = false from down]
          rfl
      · exact carried
  | pingExpires =>
      obtain ⟨-, rfl⟩ := Option.ite_some_none_eq_some.mp taken
      exact carried
  | pingFires aborted now =>
      obtain ⟨-, rfl⟩ := Option.ite_some_none_eq_some.mp taken
      split
      · exact (doPing_keeps _ now).carries carried
      · exact carried
  | run function =>
      obtain ⟨-, rfl⟩ := Option.ite_some_none_eq_some.mp taken
      exact run_carries function carried
  | pong _ =>
      obtain ⟨-, rfl⟩ := Option.ite_some_none_eq_some.mp taken
      exact carried
  | ioRunReturns =>
      obtain ⟨-, rfl⟩ := Option.ite_some_none_eq_some.mp taken
      exact carried

end HyperliquidSdk.Websocket.WebsocketRunner
