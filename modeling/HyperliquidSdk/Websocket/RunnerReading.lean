import HyperliquidSdk.Websocket.RunnerConnection

/-!
# Reading messages

Every read starts with an empty buffer, so the listener is handed the messages of the
peer whole. It gets those that arrive while the connection is up, in order, between the
callbacks of that connection.
-/

set_option autoImplicit false

namespace HyperliquidSdk.Websocket.WebsocketRunner

open Foundation

/-- The buffer is emptied where the stream is replaced, and the read that is aborted there
brings nothing more. -/
def staleSilent : State → Action → Bool
  | state, .complete (.read stream _ received) => stream = state.ws || received.isEmpty
  | _, _ => true

def receivingStep : StepFunction State Action :=
  guarded staleSilent fencedStep

/-- The message that a read brings while the connection is up. -/
def arriving : State → Action → List Bytes
  | state, .complete (.read _ none received) => if state.connected then [received] else []
  | _, _ => []

/-- Follow the callbacks of the listener: whether the connection is there, and the messages
so far. A message without a connection is a callback out of turn. -/
def nextDelivery : Bool × List Bytes → Event → Option (Bool × List Bytes)
  | (up, messages), .onWsMessage message =>
      if up then some (up, messages ++ [message]) else none
  | (up, messages), event => (nextConnection up event).map fun next => (next, messages)

def deliveryAfter (trace : List Event) : Option (Bool × List Bytes) :=
  trace.foldlM nextDelivery (false, [])

theorem deliveryAfter_append {trace : List Event} {delivered : Bool × List Bytes}
    (before : deliveryAfter trace = some delivered) (event : Event) :
    deliveryAfter (trace ++ [event]) = nextDelivery delivered event := by
  have followed : trace.foldlM nextDelivery (false, []) = some delivered := before
  simp [deliveryAfter, List.foldlM_append, followed]

/-- The operation reads into the buffer, or leads to the one that does. -/
def Operation.fills (stream : StreamId) (operation : Operation) : Bool :=
  operation.isChain || decide (operation = .read stream)

/-- The listener has been told of `messages`, and the next message finds the buffer empty. -/
structure Inbox (messages : List Bytes) (state : State) : Prop where
  empty : ∀ operation ∈ state.operations, operation.fills state.ws = true → state.readBuf = []
  delivery : deliveryAfter state.trace = some (state.connected, messages)

section Handlers

variable {messages : List Bytes} {state next : State}

/-- The listener is not called, and no operation that fills the buffer is begun. -/
theorem Inbox.frame (inbox : Inbox messages state) (ws : next.ws = state.ws)
    (readBuf : next.readBuf = state.readBuf) (connected : next.connected = state.connected)
    (trace : deliveryAfter next.trace = deliveryAfter state.trace)
    (operations : ∀ operation ∈ next.operations, operation.fills state.ws = true →
      operation ∈ state.operations) : Inbox messages next where
  empty := by
    intro operation member fills
    rw [ws] at fills
    rw [readBuf]
    exact inbox.empty operation (operations operation member fills) fills
  delivery := by rw [trace, connected, inbox.delivery]

theorem Inbox.silentEvent (inbox : Inbox messages state) {event : Event}
    (silent : ∀ delivered, nextDelivery delivered event = some delivered) :
    deliveryAfter (state.trace ++ [event]) = deliveryAfter state.trace := by
  rw [deliveryAfter_append inbox.delivery, silent, inbox.delivery]

theorem Inbox.take (inbox : Inbox messages state) (operation : Operation) :
    Inbox messages { state with operations := state.operations.erase operation } :=
  inbox.frame rfl rfl rfl rfl fun _ member _ => List.mem_of_mem_erase member

theorem Inbox.scheduleReconnect (inbox : Inbox messages state) :
    Inbox messages (scheduleReconnect state) := by
  unfold WebsocketRunner.scheduleReconnect
  split
  · exact inbox
  · exact inbox.frame rfl rfl rfl (inbox.silentEvent fun _ => rfl) fun _ member _ => member

theorem Inbox.startPingTimer (inbox : Inbox messages state) :
    Inbox messages (startPingTimer state) := by
  unfold WebsocketRunner.startPingTimer
  split
  · exact inbox
  · exact inbox.frame rfl rfl rfl rfl fun _ member _ => member

/-- The next link of a chain finds the buffer as the last one did. -/
theorem Inbox.begin (inbox : Inbox messages state) {operation : Operation}
    (empty : operation.fills state.ws = true → state.readBuf = []) :
    Inbox messages (state.begin operation) where
  empty := by
    intro other member fills
    rcases List.mem_cons.mp member with rfl | earlier
    · exact empty fills
    · exact inbox.empty other earlier fills
  delivery := inbox.delivery

theorem Inbox.doWrite (inbox : Inbox messages state) : Inbox messages (doWrite state) := by
  unfold WebsocketRunner.doWrite
  split
  · exact inbox.frame rfl rfl rfl rfl fun _ member _ => member
  · have writing : Inbox messages { state with writing := true } :=
      inbox.frame rfl rfl rfl rfl fun _ member _ => member
    exact writing.begin fun fills => absurd fills (by simp [Operation.fills, Operation.isChain])

theorem Inbox.pushAndWrite (inbox : Inbox messages state) (message : Message) :
    Inbox messages (pushAndWrite message state) := by
  have pushed : Inbox messages (push message state) :=
    inbox.frame rfl rfl rfl (inbox.silentEvent fun _ => rfl) fun _ member _ => member
  simp only [WebsocketRunner.pushAndWrite]
  split
  · exact pushed.doWrite
  · exact pushed

theorem Inbox.disconnect (inbox : Inbox messages state) (connected : state.connected = true)
    (hasError : Bool) (errMsg : Bytes) :
    Inbox messages
      { state.record (.onWsDisconnected hasError errMsg) with connected := false } where
  empty := inbox.empty
  delivery := by
    have up := inbox.delivery
    rw [connected] at up
    exact deliveryAfter_append up _

theorem Inbox.onWrite (inbox : Inbox messages state) (ec : Option ErrorCode) :
    Inbox messages (onWrite ec state) := by
  unfold WebsocketRunner.onWrite
  split
  · exact inbox
  · cases ec with
    | some _ => exact inbox.frame rfl rfl rfl rfl fun _ member _ => member
    | none =>
        have popped : Inbox messages { state with writeQueue := state.writeQueue.tail } :=
          inbox.frame rfl rfl rfl rfl fun _ member _ => member
        exact popped.doWrite

theorem Inbox.observe (inbox : Inbox messages state) (completion : Completion) :
    Inbox messages (completion.observe state) := by
  cases completion with
  | write stream message ec =>
      cases ec with
      | none => exact inbox.frame rfl rfl rfl (inbox.silentEvent fun _ => rfl) fun _ member _ => member
      | some _ => exact inbox
  | _ => exact inbox

/-- A connection starts with nothing in the buffer. -/
theorem Inbox.onWsHandshake (inbox : Inbox messages state) (disconnected : state.connected = false)
    (empty : state.readBuf = []) (ec : Option ErrorCode) (now : Int) :
    Inbox messages (onWsHandshake ec now state) := by
  cases ec with
  | some _ => exact inbox.scheduleReconnect
  | none =>
      have down := inbox.delivery
      rw [disconnected] at down
      have connects : Inbox messages ({ onPongReceived now (cancelReconnectTimer state) with
          connected := true, reconnectAttempts := 0 }.record .onWsConnected) :=
        ⟨fun _ _ _ => empty, deliveryAfter_append down _⟩
      simp only [WebsocketRunner.onWsHandshake]
      split
      · refine connects.startPingTimer.begin fun _ => ?_
        unfold WebsocketRunner.startPingTimer
        split
        · exact empty
        · exact empty
      · refine connects.doWrite.startPingTimer.begin fun _ => ?_
        unfold WebsocketRunner.startPingTimer WebsocketRunner.doWrite
        split
        · split
          · exact empty
          · exact empty
        · split
          · exact empty
          · exact empty

/-- Neither a link of a chain nor a read on the current stream is left. -/
theorem Inbox.of_none (delivery : deliveryAfter state.trace = some (state.connected, messages))
    (noChain : ∀ operation ∈ state.operations, ¬ operation.isChain = true)
    (noRead : state.operations.countP (Operation.readsOrCloses state.ws) = 0) :
    Inbox messages state where
  empty := by
    intro operation member fills
    rcases Bool.or_eq_true_iff.mp fills with chain | reads
    · exact absurd chain (noChain operation member)
    · obtain rfl := of_decide_eq_true reads
      exact absurd (decide_eq_true rfl) (List.countP_eq_zero.mp noRead _ member)
  delivery := delivery

/-- Where a read of the current stream was outstanding, no other operation fills the buffer. -/
theorem Connection.no_fills (valid : Connection state) (member : .read state.ws ∈ state.operations)
    (delivery : deliveryAfter next.trace = some (next.connected, messages))
    (operations : next.operations = state.operations.erase (.read state.ws))
    (ws : next.ws = state.ws) : Inbox messages next := by
  apply Inbox.of_none delivery
  · intro operation remains chain
    rw [operations] at remains
    have linked := valid.chainOnly ⟨operation, List.mem_of_mem_erase remains, chain⟩ _ member rfl
    cases linked
  · have count := countP_erase_add (Operation.readsOrCloses state.ws) member
    have once := valid.readsOnce
    have reads : Operation.readsOrCloses state.ws (.read state.ws) = true := decide_eq_true rfl
    rw [if_pos reads] at count
    rw [operations, ws]
    omega

/-- A read that completes: its message is handed on whole, or nothing is. -/
theorem Inbox.onRead (inbox : Inbox messages state) (serving : Serving state) {stream : StreamId}
    (member : .read stream ∈ state.operations) (ec : Option ErrorCode) (received : Bytes)
    (silent : staleSilent state (.complete (.read stream ec received)) = true) :
    Inbox (messages ++ arriving state (.complete (.read stream ec received)))
      (onRead ec received { state with operations := state.operations.erase (.read stream) }) := by
  have valid := serving.connection
  simp only [WebsocketRunner.onRead]
  split
  · next inactive =>
      have disconnected : state.connected = false := by simp_all
      have nothing : arriving state (.complete (.read stream ec received)) = [] := by
        cases ec with
        | none => simp [arriving, disconnected]
        | some _ => rfl
      rw [nothing, List.append_nil]
      by_cases current : stream = state.ws
      · subst current
        exact valid.no_fills member inbox.delivery rfl rfl
      · have empty : received = [] := by simpa [staleSilent, current] using silent
        rw [empty]
        exact (inbox.take _).frame rfl (List.append_nil _) rfl rfl fun _ other _ => other
  · next active =>
      have connected : state.connected = true := by
        cases stopping : state.stopping with
        | true => exact serving.lifecycle.stoppingConnected stopping
        | false => simpa [stopping] using active
      obtain rfl := valid.connectedCurrent connected _ member stream rfl
      have up := inbox.delivery
      rw [connected] at up
      cases ec with
      | none =>
          have empty := inbox.empty _ member (by simp [Operation.fills])
          have arrived : arriving state (.complete (.read state.ws none received)) = [received] :=
            if_pos connected
          rw [arrived]
          have delivered := deliveryAfter_append up (.onWsMessage (state.readBuf ++ received))
          rw [empty, List.nil_append] at delivered
          refine @Inbox.begin _ { State.record _ _ with readBuf := [] } ?_ _ fun _ => rfl
          refine ⟨fun _ _ _ => rfl, ?_⟩
          rw [empty, List.nil_append]
          exact delivered.trans (by rw [connected]; rfl)
      | some errMsg =>
          rw [show arriving state (.complete (.read state.ws (some errMsg) received)) = [] from rfl,
            List.append_nil]
          simp only
          split
          · refine Inbox.begin ?_ fun fills => absurd fills (by simp [Operation.fills, Operation.isChain])
            exact valid.no_fills member inbox.delivery rfl rfl
          · apply Inbox.scheduleReconnect
            exact valid.no_fills member (deliveryAfter_append up _) rfl rfl

theorem Inbox.doReconnect (inbox : Inbox messages state) : Inbox messages (doReconnect state) := by
  unfold WebsocketRunner.doReconnect
  split
  · exact inbox
  · exact ⟨fun _ _ _ => rfl, (inbox.silentEvent fun _ => rfl).trans inbox.delivery⟩

theorem Inbox.doPing (inbox : Inbox messages state) (now : Int) :
    Inbox messages (doPing now state) := by
  unfold WebsocketRunner.doPing
  split
  · exact inbox
  · next active =>
      have connected : state.connected = true := by simp_all
      split
      · exact (inbox.disconnect connected true _).scheduleReconnect
      · exact inbox.frame rfl rfl rfl rfl fun _ member _ => member

theorem Inbox.runPosted (inbox : Inbox messages state) (function : Posted) :
    Inbox messages (runPosted function state) := by
  cases function with
  | send message => exact inbox.pushAndWrite message
  | ping => exact (inbox.pushAndWrite pingMsg).startPingTimer
  | doClose =>
      simp only [WebsocketRunner.runPosted, doClose]
      split
      · exact inbox
      · exact inbox.frame rfl rfl rfl rfl fun _ member _ => member

/-- Only a read that completes hands a message on. -/
theorem Inbox.complete (inbox : Inbox messages state) (serving : Serving state)
    (completion : Completion) (running : state.io = .running)
    (member : completion.operation ∈ state.operations)
    (silent : staleSilent state (.complete completion) = true) :
    Inbox (messages ++ arriving state (.complete completion))
      (completion.handle (completion.observe
        { state with operations := state.operations.erase completion.operation })) := by
  have taken := inbox.take completion.operation
  have same : messages ++ [] = messages := List.append_nil messages
  cases completion with
  | resolve ec =>
      refine same.symm ▸ ?_
      cases ec with
      | some _ => exact taken.scheduleReconnect
      | none =>
          have empty := inbox.empty _ member rfl
          have recorded : Inbox messages (State.record
              { state with operations := state.operations.erase .resolve } .connectStarted) :=
            taken.frame rfl rfl rfl (taken.silentEvent fun _ => rfl) fun _ other _ => other
          exact recorded.begin fun _ => empty
  | connect stream ec sniSet =>
      refine same.symm ▸ ?_
      cases ec with
      | some _ => exact taken.scheduleReconnect
      | none =>
          cases sniSet with
          | false => exact taken.scheduleReconnect
          | true =>
              have empty := inbox.empty _ member rfl
              exact taken.begin fun _ => empty
  | sslHandshake stream ec =>
      refine same.symm ▸ ?_
      cases ec with
      | some _ => exact taken.scheduleReconnect
      | none =>
          have empty := inbox.empty _ member rfl
          exact taken.begin fun _ => empty
  | wsHandshake stream ec now =>
      have idle := serving.lifecycle.take_chain running member rfl
      have empty := inbox.empty _ member rfl
      exact same.symm ▸ taken.onWsHandshake idle.disconnected empty ec now
  | read stream ec received => exact inbox.onRead serving member ec received silent
  | write stream message ec => exact same.symm ▸ (taken.observe _).onWrite ec
  | close stream ec =>
      have connected := serving.lifecycle.stoppingConnected
        (serving.connection.closing stream member)
      have closed := taken.disconnect connected false []
      exact same.symm ▸ closed.frame rfl rfl rfl rfl fun _ other _ => other

theorem step_inbox {action : Action} (inbox : Inbox messages state) (serving : Serving state)
    (taken : receivingStep state action = some next) :
    Inbox (messages ++ arriving state action) next := by
  obtain ⟨silent, taken⟩ := guarded_eq_some.mp taken
  obtain ⟨-, taken⟩ := guarded_eq_some.mp taken
  have same : messages ++ [] = messages := List.append_nil messages
  cases action with
  | start =>
      obtain ⟨notStarted, rfl⟩ := Option.ite_some_none_eq_some.mp taken
      have empty : state.readBuf = [] := by rw [serving.untouched notStarted]; rfl
      have recorded : Inbox messages (State.record { state with io := .running } .resolveStarted) :=
        inbox.frame rfl rfl rfl (inbox.silentEvent fun _ => rfl) fun _ member _ => member
      exact same.symm ▸ recorded.begin fun _ => empty
  | send message =>
      obtain rfl := Option.some.inj taken
      exact same.symm ▸ inbox.frame rfl rfl rfl rfl fun _ member _ => member
  | stop =>
      obtain rfl := Option.some.inj taken
      refine same.symm ▸ ?_
      simp only [stop]
      split
      · exact inbox.frame rfl rfl rfl rfl fun _ member _ => member
      · exact inbox.frame rfl rfl rfl rfl fun _ member _ => member
  | complete completion =>
      obtain ⟨⟨running, member⟩, rfl⟩ := Option.ite_some_none_eq_some.mp taken
      exact inbox.complete serving completion running member silent
  | reconnectExpires =>
      obtain ⟨-, rfl⟩ := Option.ite_some_none_eq_some.mp taken
      exact same.symm ▸ inbox.frame rfl rfl rfl rfl fun _ member _ => member
  | reconnectFires aborted =>
      obtain ⟨-, rfl⟩ := Option.ite_some_none_eq_some.mp taken
      have fired : Inbox messages { state with
          reconnectWaits := state.reconnectWaits.erase (firing aborted) } :=
        inbox.frame rfl rfl rfl rfl fun _ member _ => member
      refine same.symm ▸ ?_
      split
      · exact fired.doReconnect
      · exact fired
  | pingExpires =>
      obtain ⟨-, rfl⟩ := Option.ite_some_none_eq_some.mp taken
      exact same.symm ▸ inbox.frame rfl rfl rfl rfl fun _ member _ => member
  | pingFires aborted now =>
      obtain ⟨-, rfl⟩ := Option.ite_some_none_eq_some.mp taken
      have fired : Inbox messages { state with
          pingWaits := state.pingWaits.erase (firing aborted) } :=
        inbox.frame rfl rfl rfl rfl fun _ member _ => member
      refine same.symm ▸ ?_
      split
      · exact fired.doPing now
      · exact fired
  | run function =>
      obtain ⟨-, rfl⟩ := Option.ite_some_none_eq_some.mp taken
      have dequeued : Inbox messages { state with posted := state.posted.erase function } :=
        inbox.frame rfl rfl rfl rfl fun _ member _ => member
      exact same.symm ▸ dequeued.runPosted function
  | pong now =>
      obtain ⟨-, rfl⟩ := Option.ite_some_none_eq_some.mp taken
      exact same.symm ▸ inbox.frame rfl rfl rfl rfl fun _ member _ => member
  | ioRunReturns =>
      obtain ⟨-, rfl⟩ := Option.ite_some_none_eq_some.mp taken
      exact same.symm ▸ inbox.frame rfl rfl rfl rfl fun _ member _ => member

end Handlers

/-- In every run the listener is handed exactly the messages that arrive while the connection
is up, whole and in order, each between the callbacks of a connection. -/
theorem messages_arrive_whole {actions : List Action} {state : State}
    (run : Run receivingStep initial actions state) :
    deliveryAfter state.trace =
      some (state.connected, outputs receivingStep arriving initial actions) := by
  have tracked := @Run.accumulates _ _ receivingStep _ arriving
    (fun past state => Serving state ∧ Inbox past state) _ _ _ run
    (fun past state action next held taken =>
      ⟨step_serving held.1 (guarded_eq_some.mp taken).2, step_inbox held.2 held.1 taken⟩)
    ⟨initial_serving, ⟨fun _ _ _ => rfl, rfl⟩⟩
  exact tracked.2.delivery

/-- A message on each of two connections, and one that comes between them. -/
def messagesOnTwoConnections : List Action :=
  .start :: attemptSucceeds ++
    [.complete (.read 0 none (utf8 "first")), .pingExpires, .pingFires false 0, .run .ping,
      .pingExpires, .pingFires false 20000000000, .complete (.read 0 none (utf8 "late")),
      .reconnectExpires, .reconnectFires false, .complete (.write 0 pingMsg none),
      .complete (.resolve none), .complete (.connect 1 none true),
      .complete (.sslHandshake 1 none), .complete (.wsHandshake 1 none 0),
      .complete (.read 1 none (utf8 "second"))]

theorem messages_arrive_whole_twoConnections :
    ∃ state, execute receivingStep initial messagesOnTwoConnections = some state ∧
      deliveryAfter state.trace = some (true, [utf8 "first", utf8 "second"]) := by
  have connected : (execute receivingStep initial messagesOnTwoConnections).map
      State.connected = some true := by decide
  obtain ⟨state, executed, up⟩ := Option.map_eq_some_iff.mp connected
  have arrived : outputs receivingStep arriving initial messagesOnTwoConnections =
      [utf8 "first", utf8 "second"] := by decide
  refine ⟨state, executed, ?_⟩
  rw [messages_arrive_whole (execute_eq_some.mp executed), up, arrived]

end HyperliquidSdk.Websocket.WebsocketRunner
