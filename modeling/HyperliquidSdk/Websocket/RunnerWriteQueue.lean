import HyperliquidSdk.Websocket.RunnerConnection

/-!
# The write queue

Beast allows one outstanding write on a stream. The handlers keep to it, and each
stream transmits a prefix of what was pushed while it was current: the front of
the queue is in flight, and everything before it has been written.
-/

set_option autoImplicit false

namespace HyperliquidSdk.Websocket.WebsocketRunner

open Foundation

def Operation.isWrite : Operation → Bool
  | .write _ _ => true
  | _ => false

def Operation.writesOn (stream : StreamId) : Operation → Bool
  | .write other _ => other = stream
  | _ => false

/-- The outstanding writes on all streams. -/
def State.writes (state : State) : List Operation :=
  state.operations.filter Operation.isWrite

def Event.pushedOn? (stream : StreamId) : Event → Option Message
  | .pushed other message => if other = stream then some message else none
  | _ => none

def Event.writtenOn? (stream : StreamId) : Event → Option Message
  | .written other message => if other = stream then some message else none
  | _ => none

/-- The messages pushed since the queue was cleared for the stream. -/
def State.pushedOn (state : State) (stream : StreamId) : List Message :=
  state.trace.filterMap (Event.pushedOn? stream)

/-- The messages whose writes on the stream completed with success. -/
def State.writtenOn (state : State) (stream : StreamId) : List Message :=
  state.trace.filterMap (Event.writtenOn? stream)

/-- The queue belongs to the current stream until its connection is lost. -/
def State.isLive (state : State) : Prop :=
  state.connected = true ∨ ∃ operation ∈ state.operations, operation.isChain = true

theorem writes_erase {operations : List Operation} {operation : Operation}
    (other : operation.isWrite = false) :
    (operations.erase operation).filter Operation.isWrite =
      operations.filter Operation.isWrite := by
  rw [← List.erase_filter]
  apply List.erase_of_not_mem
  intro member
  exact absurd (other.symm.trans (List.of_mem_filter member)) (by decide)

theorem writes_begin {state : State} {operation : Operation} (other : operation.isWrite = false) :
    (state.begin operation).writes = state.writes :=
  List.filter_cons_of_neg (by simp [other])

/-- What the writes in flight and the log of the trace have in common, whatever
has become of the connection. -/
structure Flight (state : State) : Prop where
  transmitted : ∀ stream, state.writtenOn stream <+: state.pushedOn stream
  inFlight : ∀ stream message, .write stream message ∈ state.writes →
    state.writtenOn stream ++ [message] <+: state.pushedOn stream
  once : ∀ stream, state.writes.countP (Operation.writesOn stream) ≤ 1
  front : ∀ message, .write state.ws message ∈ state.writes →
    state.writeQueue.head? = some message
  future : ∀ stream, state.ws < stream →
    state.pushedOn stream = [] ∧ state.writtenOn stream = []

/-- While the current stream lives, the queue holds what is left to transmit and
`writing_` tells whether its front is in flight. -/
structure Queue (state : State) : Prop extends Flight state where
  balance : state.isLive →
    state.pushedOn state.ws = state.writtenOn state.ws ++ state.writeQueue
  writing : state.isLive →
    (state.writing = true ↔ ∃ message, .write state.ws message ∈ state.writes)

/-- A step that touches neither the writes nor the queue. -/
structure SameQueue (state next : State) : Prop where
  writes : next.writes = state.writes
  ws : next.ws = state.ws
  writeQueue : next.writeQueue = state.writeQueue
  writing : next.writing = state.writing
  pushed : ∀ stream, next.pushedOn stream = state.pushedOn stream
  written : ∀ stream, next.writtenOn stream = state.writtenOn stream
  live : next.isLive → state.isLive

theorem SameQueue.refl (state : State) : SameQueue state state :=
  ⟨rfl, rfl, rfl, rfl, fun _ => rfl, fun _ => rfl, id⟩

theorem SameQueue.trans {first second third : State} (left : SameQueue first second)
    (right : SameQueue second third) : SameQueue first third where
  writes := right.writes.trans left.writes
  ws := right.ws.trans left.ws
  writeQueue := right.writeQueue.trans left.writeQueue
  writing := right.writing.trans left.writing
  pushed := fun stream => (right.pushed stream).trans (left.pushed stream)
  written := fun stream => (right.written stream).trans (left.written stream)
  live := fun alive => left.live (right.live alive)

theorem Queue.same {state next : State} (valid : Queue state) (same : SameQueue state next) :
    Queue next where
  transmitted := by
    intro stream
    rw [same.pushed, same.written]
    exact valid.transmitted stream
  inFlight := by
    intro stream message member
    rw [same.pushed, same.written]
    exact valid.inFlight stream message (same.writes ▸ member)
  once := by
    intro stream
    rw [same.writes]
    exact valid.once stream
  front := by
    rw [same.writes, same.ws, same.writeQueue]
    exact valid.front
  future := by
    intro stream later
    rw [same.pushed, same.written]
    exact valid.future stream (same.ws ▸ later)
  balance := by
    intro alive
    rw [same.pushed, same.written, same.ws, same.writeQueue]
    exact valid.balance (same.live alive)
  writing := by
    intro alive
    rw [same.writes, same.writing, same.ws]
    exact valid.writing (same.live alive)

def Event.isTransfer : Event → Bool
  | .pushed _ _ | .written _ _ => true
  | _ => false

theorem pushedOn_record (state : State) (event : Event) (stream : StreamId) :
    (state.record event).pushedOn stream =
      state.pushedOn stream ++ (event.pushedOn? stream).toList := by
  simp only [State.record, State.pushedOn, List.filterMap_append]
  cases pushed : event.pushedOn? stream with
  | none => simp [pushed]
  | some message => simp [pushed]

theorem writtenOn_record (state : State) (event : Event) (stream : StreamId) :
    (state.record event).writtenOn stream =
      state.writtenOn stream ++ (event.writtenOn? stream).toList := by
  simp only [State.record, State.writtenOn, List.filterMap_append]
  cases written : event.writtenOn? stream with
  | none => simp [written]
  | some message => simp [written]

theorem record_sameQueue (state : State) (event : Event) (other : event.isTransfer = false) :
    SameQueue state (state.record event) where
  writes := rfl
  ws := rfl
  writeQueue := rfl
  writing := rfl
  pushed := by
    intro stream
    rw [pushedOn_record]
    cases event with
    | pushed _ _ => cases other
    | _ => exact List.append_nil _
  written := by
    intro stream
    rw [writtenOn_record]
    cases event with
    | written _ _ => cases other
    | _ => exact List.append_nil _
  live := id

theorem begin_sameQueue (state : State) {operation : Operation}
    (other : operation.isWrite = false) (link : operation.isChain = false) :
    SameQueue state (state.begin operation) where
  writes := writes_begin other
  ws := rfl
  writeQueue := rfl
  writing := rfl
  pushed := fun _ => rfl
  written := fun _ => rfl
  live := by
    rintro (up | ⟨started, member, chain⟩)
    · exact .inl up
    · rcases List.mem_cons.mp member with rfl | earlier
      · exact absurd (link.symm.trans chain) (by decide)
      · exact .inr ⟨started, earlier, chain⟩

theorem take_sameQueue (state : State) (operation : Operation)
    (other : operation.isWrite = false) :
    SameQueue state { state with operations := state.operations.erase operation } where
  writes := writes_erase other
  ws := rfl
  writeQueue := rfl
  writing := rfl
  pushed := fun _ => rfl
  written := fun _ => rfl
  live := by
    rintro (up | ⟨remaining, member, chain⟩)
    · exact .inl up
    · exact .inr ⟨remaining, List.mem_of_mem_erase member, chain⟩

/-- The next step of a chain leaves the stream live. -/
theorem chain_sameQueue {state : State} {operation : Operation} (following : Operation)
    (member : operation ∈ state.operations) (chain : operation.isChain = true)
    (link : following.isChain = true) :
    SameQueue state (State.begin
      { state with operations := state.operations.erase operation } following) where
  writes := by
    have write : following.isWrite = false := by cases following <;> first | rfl | cases link
    have taken : operation.isWrite = false := by cases operation <;> first | rfl | cases chain
    exact (writes_begin write).trans (writes_erase taken)
  ws := rfl
  writeQueue := rfl
  writing := rfl
  pushed := fun _ => rfl
  written := fun _ => rfl
  live := fun _ => .inr ⟨operation, member, chain⟩

theorem disconnect_sameQueue (state : State) (hasError : Bool) (errMsg : Bytes) :
    SameQueue state
      { state.record (.onWsDisconnected hasError errMsg) with connected := false } := by
  have recorded := record_sameQueue state (.onWsDisconnected hasError errMsg) rfl
  refine ⟨rfl, rfl, rfl, rfl, recorded.pushed, recorded.written, ?_⟩
  rintro (up | chain)
  · cases up
  · exact .inr chain

theorem scheduleReconnect_sameQueue (state : State) :
    SameQueue state (scheduleReconnect state) := by
  unfold scheduleReconnect
  split
  · exact .refl state
  · have recorded := record_sameQueue state
      (.reconnectScheduled (delaySecs (state.reconnectAttempts + 1))) rfl
    exact ⟨rfl, rfl, rfl, rfl, recorded.pushed, recorded.written, id⟩

theorem startPingTimer_sameQueue (state : State) : SameQueue state (startPingTimer state) := by
  unfold startPingTimer
  split
  · exact .refl state
  · exact ⟨rfl, rfl, rfl, rfl, fun _ => rfl, fun _ => rfl, id⟩

theorem onRead_sameQueue (ec : Option ErrorCode) (received : Bytes) (state : State) :
    SameQueue state (onRead ec received state) := by
  have buffered : SameQueue state { state with readBuf := state.readBuf ++ received } :=
    ⟨rfl, rfl, rfl, rfl, fun _ => rfl, fun _ => rfl, id⟩
  simp only [onRead]
  split
  · exact buffered
  · cases ec with
    | none =>
        have recorded := record_sameQueue state
          (.onWsMessage (state.readBuf ++ received)) rfl
        have consumed : SameQueue state
            { state.record (.onWsMessage (state.readBuf ++ received)) with readBuf := [] } :=
          ⟨rfl, rfl, rfl, rfl, recorded.pushed, recorded.written, id⟩
        exact consumed.trans (begin_sameQueue _ rfl rfl)
    | some errMsg =>
        simp only
        split
        · exact buffered.trans (begin_sameQueue _ rfl rfl)
        · exact (buffered.trans (disconnect_sameQueue _ true errMsg)).trans
            (scheduleReconnect_sameQueue _)

theorem doPing_sameQueue (now : Int) (state : State) : SameQueue state (doPing now state) := by
  unfold doPing
  split
  · exact .refl state
  · split
    · exact (disconnect_sameQueue state true _).trans (scheduleReconnect_sameQueue _)
    · exact ⟨rfl, rfl, rfl, rfl, fun _ => rfl, fun _ => rfl, id⟩

theorem doClose_sameQueue (state : State) : SameQueue state (doClose state) := by
  unfold doClose
  split
  · exact .refl state
  · exact ⟨rfl, rfl, rfl, rfl, fun _ => rfl, fun _ => rfl, id⟩

theorem onClose_sameQueue (state : State) : SameQueue state (onClose state) := by
  have lost := disconnect_sameQueue state false []
  exact ⟨rfl, rfl, rfl, rfl, lost.pushed, lost.written, lost.live⟩

/-! ## The steps that move the queue -/

theorem Queue.push {state : State} (valid : Queue state) (message : Message) :
    Queue (push message state) := by
  have pushed : ∀ stream, (WebsocketRunner.push message state).pushedOn stream =
      state.pushedOn stream ++ if state.ws = stream then [message] else [] := by
    intro stream
    refine (pushedOn_record state (.pushed state.ws message) stream).trans ?_
    simp only [Event.pushedOn?]
    split <;> rfl
  have written : ∀ stream, (WebsocketRunner.push message state).writtenOn stream =
      state.writtenOn stream := fun stream =>
    (writtenOn_record state (.pushed state.ws message) stream).trans (List.append_nil _)
  refine ⟨⟨?_, ?_, valid.once, ?_, ?_⟩, ?_, valid.writing⟩
  · intro stream
    rw [pushed, written]
    exact (valid.transmitted stream).trans (List.prefix_append _ _)
  · intro stream front member
    rw [pushed, written]
    exact (valid.inFlight stream front member).trans (List.prefix_append _ _)
  · intro front member
    have head := valid.front front member
    simp only [WebsocketRunner.push, List.head?_append, head, Option.some_or]
  · intro stream later
    have other : state.ws ≠ stream := Nat.ne_of_lt later
    rw [pushed, written, if_neg other, List.append_nil]
    exact valid.future stream later
  · intro alive
    have current : (WebsocketRunner.push message state).ws = state.ws := rfl
    rw [current, pushed, written, if_pos rfl, valid.balance alive, List.append_assoc]
    rfl

/-- With no write in flight the front of the queue may be written next. -/
theorem Flight.doWrite {state : State} (flight : Flight state)
    (free : ∀ message, .write state.ws message ∉ state.writes)
    (balance : state.pushedOn state.ws = state.writtenOn state.ws ++ state.writeQueue) :
    Queue (doWrite state) := by
  unfold WebsocketRunner.doWrite
  split
  · refine ⟨⟨flight.transmitted, flight.inFlight, flight.once, flight.front, flight.future⟩,
      fun _ => balance, fun _ => ?_⟩
    constructor
    · intro writing
      cases writing
    · rintro ⟨message, member⟩
      exact absurd member (free message)
  · next front rest queue =>
      have writes : (State.begin { state with writing := true } (.write state.ws front)).writes =
          .write state.ws front :: state.writes := rfl
      refine ⟨⟨flight.transmitted, ?_, ?_, ?_, flight.future⟩, fun _ => balance, fun _ => ?_⟩
      · intro stream message member
        rw [writes] at member
        rcases List.mem_cons.mp member with same | earlier
        · obtain ⟨rfl, rfl⟩ := Operation.write.inj same
          change state.writtenOn state.ws ++ [message] <+: state.pushedOn state.ws
          rw [balance, queue]
          exact ⟨rest, by simp⟩
        · exact flight.inFlight stream message earlier
      · intro stream
        rw [writes]
        by_cases same : state.ws = stream
        · have none : state.writes.countP (Operation.writesOn stream) = 0 := by
            apply List.countP_eq_zero.mpr
            intro operation member writesOn
            cases operation with
            | write other message =>
                have current : other = state.ws := (of_decide_eq_true writesOn).trans same.symm
                exact free message (current ▸ member)
            | _ => cases writesOn
          rw [List.countP_cons, none]
          split <;> omega
        · rw [List.countP_cons_of_neg (by simpa [Operation.writesOn] using same)]
          exact flight.once stream
      · intro message member
        rw [writes] at member
        rcases List.mem_cons.mp member with same | earlier
        · obtain ⟨_, rfl⟩ := Operation.write.inj same
          exact congrArg List.head? queue
        · exact absurd earlier (free message)
      · constructor
        · exact fun _ => ⟨front, List.mem_cons_self⟩
        · exact fun _ => rfl

theorem Queue.pushAndWrite {state : State} (valid : Queue state) (message : Message) :
    Queue (pushAndWrite message state) := by
  simp only [WebsocketRunner.pushAndWrite]
  split
  · next writes =>
      obtain ⟨connected, idle⟩ := Bool.and_eq_true_iff.mp writes
      have pushed := valid.push message
      have live : (WebsocketRunner.push message state).isLive := .inl connected
      refine pushed.toFlight.doWrite ?_ (pushed.balance live)
      intro front member
      have writing := (pushed.writing live).mpr ⟨front, member⟩
      rw [writing] at idle
      cases idle
  · exact valid.push message

/-- The state in which the handler of a completed write runs. -/
def State.takeWrite (state : State) (stream : StreamId) (message : Message)
    (ec : Option ErrorCode) : State :=
  (Completion.write stream message ec).observe
    { state with operations := state.operations.erase (.write stream message) }

section TakeWrite

variable (state : State) (stream : StreamId) (message : Message) (ec : Option ErrorCode)

theorem operations_takeWrite : (state.takeWrite stream message ec).operations =
    state.operations.erase (.write stream message) := by
  cases ec with
  | none => rfl
  | some _ => rfl

theorem writes_takeWrite : (state.takeWrite stream message ec).writes =
    state.writes.erase (.write stream message) := by
  unfold State.writes
  rw [operations_takeWrite, List.erase_filter]

theorem ws_takeWrite : (state.takeWrite stream message ec).ws = state.ws := by
  cases ec with
  | none => rfl
  | some _ => rfl

theorem writeQueue_takeWrite :
    (state.takeWrite stream message ec).writeQueue = state.writeQueue := by
  cases ec with
  | none => rfl
  | some _ => rfl

theorem writing_takeWrite : (state.takeWrite stream message ec).writing = state.writing := by
  cases ec with
  | none => rfl
  | some _ => rfl

theorem connected_takeWrite :
    (state.takeWrite stream message ec).connected = state.connected := by
  cases ec with
  | none => rfl
  | some _ => rfl

theorem pushedOn_takeWrite (other : StreamId) :
    (state.takeWrite stream message ec).pushedOn other = state.pushedOn other := by
  cases ec with
  | none => exact (pushedOn_record _ (.written stream message) other).trans (List.append_nil _)
  | some _ => rfl

theorem writtenOn_takeWrite (other : StreamId) :
    (state.takeWrite stream message ec).writtenOn other = state.writtenOn other ++
      if stream = other ∧ ec = none then [message] else [] := by
  cases ec with
  | none =>
      refine (writtenOn_record _ (.written stream message) other).trans ?_
      simp only [Event.writtenOn?, and_true]
      split <;> rfl
  | some errMsg =>
      rw [if_neg (by simp), List.append_nil]
      rfl

end TakeWrite

theorem mem_writes {state : State} {stream : StreamId} {message : Message}
    (member : .write stream message ∈ state.operations) :
    .write stream message ∈ state.writes :=
  List.mem_filter.mpr ⟨member, rfl⟩

/-- Whatever the outcome, a completed write was the only one on its stream. -/
theorem Flight.takeWrite_free {state : State} (flight : Flight state) {stream : StreamId}
    {message : Message} (member : .write stream message ∈ state.operations)
    (ec : Option ErrorCode) :
    ∀ other, .write stream other ∉ (state.takeWrite stream message ec).writes := by
  intro other remains
  rw [writes_takeWrite] at remains
  have count := countP_erase_add (Operation.writesOn stream) (mem_writes member)
  have once := flight.once stream
  have positive : 0 < (state.writes.erase (.write stream message)).countP
      (Operation.writesOn stream) :=
    List.countP_pos_iff.mpr ⟨_, remains, decide_eq_true rfl⟩
  simp only [Operation.writesOn, decide_true, if_true] at count
  omega

theorem Flight.takeWrite {state : State} (flight : Flight state) {stream : StreamId}
    {message : Message} (bounded : stream ≤ state.ws)
    (member : .write stream message ∈ state.operations) (ec : Option ErrorCode) :
    Flight (state.takeWrite stream message ec) := by
  have free := flight.takeWrite_free member ec
  have writes := writes_takeWrite state stream message ec
  constructor
  · intro other
    rw [writtenOn_takeWrite, pushedOn_takeWrite]
    split
    · next same => exact same.1 ▸ flight.inFlight stream message (mem_writes member)
    · rw [List.append_nil]
      exact flight.transmitted other
  · intro other front remains
    have different : stream ≠ other := fun same => free front (same ▸ remains)
    rw [writtenOn_takeWrite, pushedOn_takeWrite, if_neg (fun same => different same.1),
      List.append_nil]
    exact flight.inFlight other front (List.mem_of_mem_erase (writes ▸ remains))
  · intro other
    rw [writes]
    exact Nat.le_trans List.erase_sublist.countP_le (flight.once other)
  · intro front remains
    rw [ws_takeWrite, writes] at remains
    rw [writeQueue_takeWrite]
    exact flight.front front (List.mem_of_mem_erase remains)
  · intro other later
    rw [ws_takeWrite] at later
    have different : stream ≠ other := Nat.ne_of_lt (Nat.lt_of_le_of_lt bounded later)
    rw [writtenOn_takeWrite, pushedOn_takeWrite, if_neg (fun same => different same.1),
      List.append_nil]
    exact flight.future other later

/-- A write that completes while the chain is on its way to a new connection
belongs to an earlier stream. -/
theorem Queue.takeWrite_disconnected {state : State} (valid : Queue state)
    (connection : Connection state) {stream : StreamId} {message : Message}
    (member : .write stream message ∈ state.operations) (disconnected : state.connected = false)
    (ec : Option ErrorCode) : Queue (state.takeWrite stream message ec) := by
  have earlier : (state.takeWrite stream message ec).isLive →
      state.isLive ∧ stream ≠ state.ws := by
    rintro (connected | ⟨operation, remains, link⟩)
    · rw [connected_takeWrite, disconnected] at connected
      cases connected
    · rw [operations_takeWrite] at remains
      have chain : ∃ operation ∈ state.operations, operation.isChain = true :=
        ⟨operation, List.mem_of_mem_erase remains, link⟩
      refine ⟨.inr chain, ?_⟩
      intro current
      cases connection.chainOnly chain _ member (congrArg some current)
  refine ⟨valid.toFlight.takeWrite (connection.streamsLe _ member stream rfl) member ec, ?_, ?_⟩
  · intro live
    obtain ⟨before, different⟩ := earlier live
    rw [ws_takeWrite, writtenOn_takeWrite, pushedOn_takeWrite, writeQueue_takeWrite,
      if_neg (fun same => different same.1), List.append_nil]
    exact valid.balance before
  · intro live
    obtain ⟨before, different⟩ := earlier live
    rw [ws_takeWrite, writes_takeWrite, writing_takeWrite, valid.writing before]
    have other : ∀ front, (.write state.ws front : Operation) ≠ .write stream message :=
      fun front same => different (Operation.write.inj same).1.symm
    constructor
    · rintro ⟨front, included⟩
      exact ⟨front, (List.mem_erase_of_ne (other front)).mpr included⟩
    · rintro ⟨front, remains⟩
      exact ⟨front, List.mem_of_mem_erase remains⟩

/-- While connected the completed write was the front of the queue. -/
theorem Queue.onWrite {state : State} (valid : Queue state) (connection : Connection state)
    {stream : StreamId} {message : Message} (member : .write stream message ∈ state.operations)
    (ec : Option ErrorCode) : Queue (onWrite ec (state.takeWrite stream message ec)) := by
  have flight := valid.toFlight.takeWrite (connection.streamsLe _ member stream rfl) member ec
  have free := valid.toFlight.takeWrite_free member ec
  have connected := connected_takeWrite state stream message ec
  unfold WebsocketRunner.onWrite
  cases up : state.connected with
  | false =>
      rw [if_pos (by simp [connected, up])]
      exact valid.takeWrite_disconnected connection member up ec
  | true =>
      rw [if_neg (by simp [connected, up])]
      have current := connection.connectedCurrent up _ member stream rfl
      have balance := valid.balance (.inl up)
      have free : ∀ front, .write state.ws front ∉ (state.takeWrite stream message ec).writes :=
        current ▸ free
      cases ec with
      | some errMsg =>
          refine ⟨⟨flight.transmitted, flight.inFlight, flight.once, flight.front,
            flight.future⟩, fun _ => balance, fun _ => ?_⟩
          constructor
          · intro writing
            cases writing
          · rintro ⟨front, remains⟩
            exact absurd remains (free front)
      | none =>
          have front := valid.front message (current ▸ mem_writes member)
          obtain ⟨rest, queue⟩ : ∃ rest, state.writeQueue = message :: rest :=
            List.head?_eq_some_iff.mp front
          have popped : Flight { state.takeWrite stream message none with
              writeQueue := state.writeQueue.tail } :=
            ⟨flight.transmitted, flight.inFlight, flight.once,
              fun other remains => absurd remains (free other), flight.future⟩
          refine popped.doWrite free ?_
          change (state.takeWrite stream message none).pushedOn state.ws =
            (state.takeWrite stream message none).writtenOn state.ws ++ state.writeQueue.tail
          rw [pushedOn_takeWrite, writtenOn_takeWrite, if_pos ⟨current, rfl⟩, balance, queue,
            List.append_assoc]
          rfl

theorem Queue.doReconnect {state : State} (valid : Queue state) (connection : Connection state)
    (disconnected : state.connected = false) : Queue (doReconnect state) := by
  have none : ∀ message, .write (state.ws + 1) message ∉ state.writes := by
    intro message member
    have bounded := connection.streamsLe _ (List.mem_of_mem_filter member) _ rfl
    exact absurd bounded (Nat.not_succ_le_self _)
  have recorded := record_sameQueue state .resolveStarted rfl
  have fresh := valid.future (state.ws + 1) (Nat.lt_succ_self _)
  have same : Flight (state.record .resolveStarted) := (valid.same recorded).toFlight
  unfold WebsocketRunner.doReconnect
  rw [if_neg (by simp [disconnected])]
  refine ⟨⟨same.transmitted, same.inFlight, same.once, ?_, ?_⟩, fun _ => ?_, fun _ => ?_⟩
  · intro message member
    exact absurd member (none message)
  · intro stream later
    exact same.future stream (Nat.lt_of_succ_lt later)
  · exact ((recorded.pushed _).trans fresh.1).trans
      ((congrArg (· ++ []) ((recorded.written _).trans fresh.2)).symm)
  · constructor
    · intro writing
      cases writing
    · rintro ⟨message, member⟩
      exact absurd member (none message)

theorem Queue.onWsHandshake {state : State} (valid : Queue state) {stream : StreamId}
    (member : .wsHandshake stream ∈ state.operations) (ec : Option ErrorCode) (now : Int)
    (alone : ec = none → state.operations.erase (.wsHandshake stream) = []) :
    Queue (onWsHandshake ec now
      { state with operations := state.operations.erase (.wsHandshake stream) }) := by
  cases ec with
  | some _ =>
      exact valid.same ((take_sameQueue state _ rfl).trans (scheduleReconnect_sameQueue _))
  | none =>
      have taken := take_sameQueue state (.wsHandshake stream) rfl
      have recorded := record_sameQueue state .onWsConnected rfl
      have up : Queue ({ onPongReceived now (cancelReconnectTimer
          { state with operations := state.operations.erase (.wsHandshake stream) }) with
          connected := true, reconnectAttempts := 0 }.record .onWsConnected) :=
        valid.same ⟨taken.writes, rfl, rfl, rfl, recorded.pushed, recorded.written,
          fun _ => .inr ⟨_, member, rfl⟩⟩
      simp only [WebsocketRunner.onWsHandshake]
      refine Queue.same ?_ ((startPingTimer_sameQueue _).trans (begin_sameQueue _ rfl rfl))
      split
      · exact up
      · refine up.toFlight.doWrite ?_ (up.balance (.inl rfl))
        intro message included
        have remains := List.mem_of_mem_filter included
        simp [State.record, onPongReceived, cancelReconnectTimer, alone rfl] at remains

theorem Queue.complete {state : State} (valid : Queue state) (connection : Connection state)
    (lifecycle : Lifecycle state) (completion : Completion) (running : state.io = .running)
    (member : completion.operation ∈ state.operations)
    (fence : abortedFirst state (.complete completion) = true) :
    Queue (completion.handle (completion.observe
      { state with operations := state.operations.erase completion.operation })) := by
  cases completion with
  | resolve ec =>
      cases ec with
      | some _ =>
          exact valid.same ((take_sameQueue state _ rfl).trans (scheduleReconnect_sameQueue _))
      | none =>
          have recorded := record_sameQueue state .connectStarted rfl
          have connecting := chain_sameQueue (.connect state.ws) member rfl rfl
          exact valid.same ⟨connecting.writes, rfl, rfl, rfl, recorded.pushed, recorded.written,
            connecting.live⟩
  | connect stream ec sniSet =>
      have failed := (take_sameQueue state (.connect stream) rfl).trans
        (scheduleReconnect_sameQueue _)
      cases ec with
      | some _ => exact valid.same failed
      | none =>
          cases sniSet with
          | true => exact valid.same (chain_sameQueue _ member rfl rfl)
          | false => exact valid.same failed
  | sslHandshake stream ec =>
      cases ec with
      | some _ =>
          exact valid.same ((take_sameQueue state _ rfl).trans (scheduleReconnect_sameQueue _))
      | none => exact valid.same (chain_sameQueue _ member rfl rfl)
  | wsHandshake stream ec now =>
      refine valid.onWsHandshake member ec now ?_
      rintro rfl
      exact connection.alone lifecycle running member (of_abortedFirst fence)
  | read stream ec received =>
      exact valid.same ((take_sameQueue state _ rfl).trans (onRead_sameQueue ec received _))
  | write stream message ec => exact valid.onWrite connection member ec
  | close stream ec => exact valid.same ((take_sameQueue state _ rfl).trans (onClose_sameQueue _))

theorem Queue.runPosted {state : State} (valid : Queue state) (function : Posted) :
    Queue (runPosted function state) := by
  cases function with
  | send message => exact valid.pushAndWrite message
  | ping => exact (valid.pushAndWrite pingMsg).same (startPingTimer_sameQueue _)
  | doClose => exact valid.same (doClose_sameQueue state)

/-- A queue that nothing was pushed to or taken from. -/
theorem Queue.ofEmpty {state : State} (writes : state.writes = []) (queue : state.writeQueue = [])
    (writing : state.writing = false) (pushed : ∀ stream, state.pushedOn stream = [])
    (written : ∀ stream, state.writtenOn stream = []) : Queue state where
  transmitted := by simp [written]
  inFlight := by simp [writes]
  once := by simp [writes]
  front := by simp [writes]
  future := fun stream _ => ⟨pushed stream, written stream⟩
  balance := fun _ => by rw [pushed, written, queue]; rfl
  writing := fun _ => by simp [writes, writing]

theorem step_queue {state next : State} {action : Action} (valid : Queue state)
    (serving : Serving state) (fence : abortedFirst state action = true)
    (taken : step state action = some next) : Queue next := by
  cases action with
  | start =>
      obtain ⟨notStarted, rfl⟩ := Option.ite_some_none_eq_some.mp taken
      rw [serving.untouched notStarted]
      exact .ofEmpty rfl rfl rfl (fun _ => rfl) (fun _ => rfl)
  | send message =>
      obtain rfl := Option.some.inj taken
      exact valid.same ⟨rfl, rfl, rfl, rfl, fun _ => rfl, fun _ => rfl, id⟩
  | stop =>
      obtain rfl := Option.some.inj taken
      simp only [stop]
      split
      · exact valid.same ⟨rfl, rfl, rfl, rfl, fun _ => rfl, fun _ => rfl, id⟩
      · exact valid.same ⟨rfl, rfl, rfl, rfl, fun _ => rfl, fun _ => rfl, id⟩
  | complete completion =>
      obtain ⟨⟨running, member⟩, rfl⟩ := Option.ite_some_none_eq_some.mp taken
      exact valid.complete serving.connection serving.lifecycle completion running member fence
  | reconnectExpires =>
      obtain ⟨_, rfl⟩ := Option.ite_some_none_eq_some.mp taken
      exact valid.same ⟨rfl, rfl, rfl, rfl, fun _ => rfl, fun _ => rfl, id⟩
  | reconnectFires aborted =>
      obtain ⟨⟨running, member⟩, rfl⟩ := Option.ite_some_none_eq_some.mp taken
      have fired : Queue { state with
          reconnectWaits := state.reconnectWaits.erase (firing aborted) } :=
        valid.same ⟨rfl, rfl, rfl, rfl, fun _ => rfl, fun _ => rfl, id⟩
      split
      · next fires =>
          simp only [Bool.and_eq_true, Bool.not_eq_true'] at fires
          obtain ⟨rfl, _⟩ := fires
          have idle := serving.lifecycle.take_wait running member
          exact fired.doReconnect (serving.connection.frame rfl rfl rfl rfl rfl) idle.disconnected
      · exact fired
  | pingExpires =>
      obtain ⟨_, rfl⟩ := Option.ite_some_none_eq_some.mp taken
      exact valid.same ⟨rfl, rfl, rfl, rfl, fun _ => rfl, fun _ => rfl, id⟩
  | pingFires aborted now =>
      obtain ⟨_, rfl⟩ := Option.ite_some_none_eq_some.mp taken
      have fired : Queue { state with pingWaits := state.pingWaits.erase (firing aborted) } :=
        valid.same ⟨rfl, rfl, rfl, rfl, fun _ => rfl, fun _ => rfl, id⟩
      split
      · exact fired.same (doPing_sameQueue now _)
      · exact fired
  | run function =>
      obtain ⟨_, rfl⟩ := Option.ite_some_none_eq_some.mp taken
      have dequeued : Queue { state with posted := state.posted.erase function } :=
        valid.same ⟨rfl, rfl, rfl, rfl, fun _ => rfl, fun _ => rfl, id⟩
      exact dequeued.runPosted function
  | pong now =>
      obtain ⟨_, rfl⟩ := Option.ite_some_none_eq_some.mp taken
      exact valid.same ⟨rfl, rfl, rfl, rfl, fun _ => rfl, fun _ => rfl, id⟩
  | ioRunReturns =>
      obtain ⟨_, rfl⟩ := Option.ite_some_none_eq_some.mp taken
      exact valid.same ⟨rfl, rfl, rfl, rfl, fun _ => rfl, fun _ => rfl, id⟩

structure Transmitting (state : State) : Prop where
  serving : Serving state
  queue : Queue state

theorem initial_transmitting : Transmitting initial where
  serving := initial_serving
  queue := .ofEmpty rfl rfl rfl (fun _ => rfl) (fun _ => rfl)

theorem step_transmitting {state next : State} {action : Action} (valid : Transmitting state)
    (taken : fencedStep state action = some next) : Transmitting next := by
  obtain ⟨fence, stepped⟩ := guarded_eq_some.mp taken
  exact ⟨step_serving valid.serving taken, step_queue valid.queue valid.serving fence stepped⟩

theorem reachable_transmitting {state : State} (reached : Reachable fencedStep initial state) :
    Transmitting state :=
  reached.invariant initial_transmitting (fun _ _ _ valid taken => step_transmitting valid taken)

/-- In every reachable state at most one write is outstanding on the current
stream and it is the front of the queue, and what was written on any stream is a
prefix of what was pushed since the queue was cleared for it. -/
theorem write_queue_is_fifo {state : State} (reached : Reachable fencedStep initial state) :
    state.operations.countP (Operation.writesOn state.ws) ≤ 1 ∧
      (∀ message, .write state.ws message ∈ state.operations →
        state.writeQueue.head? = some message) ∧
      ∀ stream, state.writtenOn stream <+: state.pushedOn stream := by
  have valid := (reachable_transmitting reached).queue
  refine ⟨?_, fun message member => valid.front message (mem_writes member), valid.transmitted⟩
  refine Nat.le_trans (Nat.le_of_eq ?_) (valid.once state.ws)
  rw [State.writes, List.countP_filter]
  apply List.countP_congr
  intro operation _
  cases operation <;> simp [Operation.writesOn, Operation.isWrite]

/-- A write error between two sends on a connection, and a write of it that
succeeds after the pong timeout. -/
def writeErrorThenPongTimeout : List Action :=
  .start :: attemptSucceeds ++
    [.send [1], .run (.send [1]), .complete (.write 0 [1] none), .send [2], .run (.send [2]),
      .complete (.write 0 [2] (some [])), .send [3], .run (.send [3]), .pingExpires,
      .pingFires false 0, .run .ping, .pingExpires, .pingFires false 20000000000,
      .complete (.write 0 [2] none)]

theorem write_queue_is_fifo_lossy :
    ∃ state, execute fencedStep initial writeErrorThenPongTimeout = some state ∧
      state.writtenOn 0 = [[1], [2]] ∧ state.pushedOn 0 = [[1], [2], [3], pingMsg] ∧
      state.writtenOn 0 <+: state.pushedOn 0 :=
  ⟨_, rfl, rfl, rfl, (write_queue_is_fifo
    ⟨writeErrorThenPongTimeout, execute_eq_some.mp rfl⟩).2.2 0⟩

end HyperliquidSdk.Websocket.WebsocketRunner
