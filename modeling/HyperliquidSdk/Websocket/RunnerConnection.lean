import HyperliquidSdk.Websocket.RunnerStop

/-!
# One connection at a time

What the handlers keep when the operations that `doReconnect` aborts complete
before the replacing stream finishes its handshake. The listener then sees
connections and disconnections in turn, and one read at a time is outstanding.
-/

set_option autoImplicit false

namespace HyperliquidSdk.Websocket.WebsocketRunner

open Foundation

def Operation.stream : Operation → Option StreamId
  | .resolve => none
  | .connect stream | .sslHandshake stream | .wsHandshake stream => some stream
  | .read stream | .write stream _ | .close stream => some stream

/-- The operations of earlier streams have completed when a websocket handshake
succeeds. -/
def abortedFirst : State → Action → Bool
  | state, .complete (.wsHandshake stream none _) =>
      state.operations.all fun operation => operation.stream.all fun other => stream ≤ other
  | _, _ => true

def fencedStep : StepFunction State Action :=
  guarded abortedFirst step

/-- Follow the callbacks of the listener: `up` is whether it was last told that
the connection is there, and `none` is a callback out of turn. -/
def nextConnection (up : Bool) : Event → Option Bool
  | .onWsConnected => if up then none else some true
  | .onWsDisconnected _ _ => if up then some false else none
  | _ => some up

def connectionAfter (trace : List Event) : Option Bool :=
  trace.foldlM nextConnection false

def Operation.readsOrCloses (stream : StreamId) : Operation → Bool
  | .read other | .close other => other = stream
  | _ => false

def Operation.readsFrom (stream : StreamId) : Operation → Bool
  | .read other => other = stream
  | _ => false

theorem stream_of_readsOrCloses {operation : Operation} {stream : StreamId}
    (reads : operation.readsOrCloses stream = true) : operation.stream = some stream := by
  cases operation with
  | read other => exact congrArg some (of_decide_eq_true reads)
  | close other => exact congrArg some (of_decide_eq_true reads)
  | _ => cases reads

theorem readsFrom_le (operations : List Operation) (stream : StreamId) :
    operations.countP (Operation.readsFrom stream) ≤
      operations.countP (Operation.readsOrCloses stream) := by
  apply List.countP_mono_left
  intro operation _ reads
  cases operation with
  | read other => exact reads
  | _ => cases reads

theorem connectionAfter_append {trace : List Event} {up : Bool}
    (before : connectionAfter trace = some up) (event : Event) :
    connectionAfter (trace ++ [event]) = nextConnection up event := by
  have followed : trace.foldlM nextConnection false = some up := before
  simp [connectionAfter, List.foldlM_append, followed]

/-! ## Before the start -/

theorem io_scheduleReconnect (state : State) : (scheduleReconnect state).io = state.io := by
  unfold scheduleReconnect
  split
  · rfl
  · rfl

theorem io_onWsHandshake (ec : Option ErrorCode) (now : Int) (state : State) :
    (onWsHandshake ec now state).io = state.io := by
  cases ec with
  | some _ => exact io_scheduleReconnect state
  | none =>
      refine (doRead_unaffected _).io.trans ((startPingTimer_unaffected _).io.trans ?_)
      split
      · rfl
      · exact (doWrite_unaffected _).io

theorem io_onRead (ec : Option ErrorCode) (received : Bytes) (state : State) :
    (onRead ec received state).io = state.io := by
  simp only [onRead]
  split
  · rfl
  · cases ec with
    | none => rfl
    | some _ =>
        simp only
        split
        · rfl
        · exact io_scheduleReconnect _

theorem io_handle (completion : Completion) (state : State) :
    (completion.handle (completion.observe state)).io = state.io := by
  have observed := (observe_unaffected completion state).io
  cases completion with
  | resolve ec =>
      cases ec with
      | none => rfl
      | some _ => exact io_scheduleReconnect state
  | connect stream ec sniSet =>
      cases ec with
      | some _ => exact io_scheduleReconnect state
      | none =>
          cases sniSet with
          | true => rfl
          | false => exact io_scheduleReconnect state
  | sslHandshake stream ec =>
      cases ec with
      | none => rfl
      | some _ => exact io_scheduleReconnect state
  | wsHandshake stream ec now => exact io_onWsHandshake ec now state
  | read stream ec received => exact io_onRead ec received state
  | write stream message ec => exact (onWrite_unaffected ec _).io.trans observed
  | close stream ec => rfl

theorem io_doReconnect (state : State) : (doReconnect state).io = state.io := by
  unfold doReconnect
  split
  · rfl
  · rfl

theorem io_doPing (now : Int) (state : State) : (doPing now state).io = state.io := by
  unfold doPing
  split
  · rfl
  · split
    · exact io_scheduleReconnect _
    · rfl

theorem io_runPosted (function : Posted) (state : State) :
    (runPosted function state).io = state.io := by
  cases function with
  | send message => exact (pushAndWrite_unaffected message state).io
  | ping => exact ((pushAndWrite_unaffected pingMsg state).trans (startPingTimer_unaffected _)).io
  | doClose =>
      simp only [runPosted, doClose]
      split
      · rfl
      · rfl

/-- Before `start` only functions are posted. -/
def Untouched (state : State) : Prop :=
  state.io = .notStarted → state = { initial with posted := state.posted }

theorem step_untouched {state next : State} {action : Action} (untouched : Untouched state)
    (taken : step state action = some next) : Untouched next := by
  intro notStarted
  cases action with
  | start =>
      obtain ⟨_, rfl⟩ := Option.ite_some_none_eq_some.mp taken
      cases notStarted
  | send message =>
      obtain rfl := Option.some.inj taken
      have same := untouched notStarted
      rw [same]
      rfl
  | stop =>
      obtain rfl := Option.some.inj taken
      have before : state.io = .notStarted := by
        simp only [stop] at notStarted
        split at notStarted
        · exact notStarted
        · exact notStarted
      have same := untouched before
      rw [same]
      rfl
  | complete completion =>
      obtain ⟨⟨running, _⟩, rfl⟩ := Option.ite_some_none_eq_some.mp taken
      rw [io_handle] at notStarted
      cases running.symm.trans notStarted
  | reconnectExpires =>
      obtain ⟨⟨running, _⟩, rfl⟩ := Option.ite_some_none_eq_some.mp taken
      cases running.symm.trans notStarted
  | reconnectFires aborted =>
      obtain ⟨⟨running, _⟩, rfl⟩ := Option.ite_some_none_eq_some.mp taken
      have same : state.io = .notStarted := by
        split at notStarted
        · rw [io_doReconnect] at notStarted
          exact notStarted
        · exact notStarted
      cases running.symm.trans same
  | pingExpires =>
      obtain ⟨⟨running, _⟩, rfl⟩ := Option.ite_some_none_eq_some.mp taken
      cases running.symm.trans notStarted
  | pingFires aborted now =>
      obtain ⟨⟨running, _⟩, rfl⟩ := Option.ite_some_none_eq_some.mp taken
      have same : state.io = .notStarted := by
        split at notStarted
        · rw [io_doPing] at notStarted
          exact notStarted
        · exact notStarted
      cases running.symm.trans same
  | run function =>
      obtain ⟨⟨running, _⟩, rfl⟩ := Option.ite_some_none_eq_some.mp taken
      rw [io_runPosted] at notStarted
      cases running.symm.trans notStarted
  | pong now =>
      obtain ⟨running, rfl⟩ := Option.ite_some_none_eq_some.mp taken
      cases running.symm.trans notStarted
  | ioRunReturns =>
      obtain ⟨_, rfl⟩ := Option.ite_some_none_eq_some.mp taken
      cases notStarted

/-! ## Streams, reads and callbacks -/

structure Connection (state : State) : Prop where
  streamsLe : ∀ operation ∈ state.operations, ∀ stream,
    operation.stream = some stream → stream ≤ state.ws
  connectedCurrent : state.connected = true → ∀ operation ∈ state.operations, ∀ stream,
    operation.stream = some stream → stream = state.ws
  chainOnly : (∃ operation ∈ state.operations, operation.isChain = true) →
    ∀ operation ∈ state.operations, operation.stream = some state.ws →
      operation.isChain = true
  chainCurrent : ∀ operation ∈ state.operations, operation.isChain = true → ∀ stream,
    operation.stream = some stream → stream = state.ws
  readsOnce : state.operations.countP (Operation.readsOrCloses state.ws) ≤ 1
  closing : ∀ stream, .close stream ∈ state.operations → state.stopping = true
  alternating : connectionAfter state.trace = some state.connected

/-- A step that touches neither the operations nor the flags. -/
theorem Connection.frame {state next : State} (valid : Connection state)
    (operations : next.operations = state.operations) (ws : next.ws = state.ws)
    (connected : next.connected = state.connected) (stopping : next.stopping = state.stopping)
    (trace : connectionAfter next.trace = connectionAfter state.trace) : Connection next where
  streamsLe := by rw [operations, ws]; exact valid.streamsLe
  connectedCurrent := by rw [operations, ws, connected]; exact valid.connectedCurrent
  chainOnly := by rw [operations, ws]; exact valid.chainOnly
  chainCurrent := by rw [operations, ws]; exact valid.chainCurrent
  readsOnce := by rw [operations, ws]; exact valid.readsOnce
  closing := by rw [operations, stopping]; exact valid.closing
  alternating := by rw [trace, connected]; exact valid.alternating

theorem Connection.silentEvent {state : State} (valid : Connection state) {event : Event}
    (silent : ∀ up, nextConnection up event = some up) :
    connectionAfter (state.trace ++ [event]) = connectionAfter state.trace := by
  rw [connectionAfter_append valid.alternating, silent, valid.alternating]

theorem Connection.take {state : State} (valid : Connection state) (operation : Operation) :
    Connection { state with operations := state.operations.erase operation } where
  streamsLe := fun other member => valid.streamsLe other (List.mem_of_mem_erase member)
  connectedCurrent := fun connected other member =>
    valid.connectedCurrent connected other (List.mem_of_mem_erase member)
  chainOnly := by
    rintro ⟨other, member, chain⟩ another included
    exact valid.chainOnly ⟨other, List.mem_of_mem_erase member, chain⟩ another
      (List.mem_of_mem_erase included)
  chainCurrent := fun other member => valid.chainCurrent other (List.mem_of_mem_erase member)
  readsOnce := Nat.le_trans (List.erase_sublist.countP_le) valid.readsOnce
  closing := fun stream member => valid.closing stream (List.mem_of_mem_erase member)
  alternating := valid.alternating

theorem Connection.scheduleReconnect {state : State} (valid : Connection state) :
    Connection (scheduleReconnect state) := by
  unfold WebsocketRunner.scheduleReconnect
  split
  · exact valid
  · exact valid.frame rfl rfl rfl rfl (valid.silentEvent fun _ => rfl)

theorem Connection.startPingTimer {state : State} (valid : Connection state) :
    Connection (startPingTimer state) := by
  unfold WebsocketRunner.startPingTimer
  split
  · exact valid
  · exact valid.frame rfl rfl rfl rfl rfl

theorem no_chain {state : State} (noAttempt : state.attempts = 0) :
    ∀ operation ∈ state.operations, ¬operation.isChain = true := by
  intro operation member chain
  exact absurd noAttempt (Nat.ne_of_gt (attempts_pos_of_chain member chain))

/-- While connected, an operation of the current stream other than a second read
or close may start. -/
theorem Connection.beginStream {state : State} (valid : Connection state)
    (connected : state.connected = true) (noAttempt : state.attempts = 0)
    {operation : Operation} (stream : operation.stream = some state.ws)
    (link : operation.isChain = false)
    (single : operation.readsOrCloses state.ws = true →
      state.operations.countP (Operation.readsOrCloses state.ws) = 0)
    (closing : ∀ closed, operation = .close closed → state.stopping = true) :
    Connection (state.begin operation) where
  streamsLe := by
    intro other member closed same
    rcases List.mem_cons.mp member with rfl | earlier
    · exact Nat.le_of_eq (Option.some.inj (same.symm.trans stream))
    · exact valid.streamsLe other earlier closed same
  connectedCurrent := by
    intro _ other member closed same
    rcases List.mem_cons.mp member with rfl | earlier
    · exact Option.some.inj (same.symm.trans stream)
    · exact valid.connectedCurrent connected other earlier closed same
  chainOnly := by
    rintro ⟨other, member, chain⟩
    rcases List.mem_cons.mp member with rfl | earlier
    · exact absurd (link.symm.trans chain) (by decide)
    · exact absurd chain (no_chain noAttempt other earlier)
  chainCurrent := by
    intro other member chain
    rcases List.mem_cons.mp member with rfl | earlier
    · exact absurd (link.symm.trans chain) (by decide)
    · exact absurd chain (no_chain noAttempt other earlier)
  readsOnce := by
    have once := valid.readsOnce
    simp only [State.begin, List.countP_cons]
    split
    · next reads => exact Nat.le_of_eq (congrArg (· + 1) (single reads))
    · exact once
  closing := by
    intro closed member
    rcases List.mem_cons.mp member with same | earlier
    · exact closing closed same.symm
    · exact valid.closing closed earlier
  alternating := valid.alternating

theorem Connection.doWrite {state : State} (valid : Connection state)
    (connected : state.connected = true) (noAttempt : state.attempts = 0) :
    Connection (doWrite state) := by
  unfold WebsocketRunner.doWrite
  split
  · exact valid.frame rfl rfl rfl rfl rfl
  · have writing : Connection { state with writing := true } := valid.frame rfl rfl rfl rfl rfl
    refine writing.beginStream connected noAttempt rfl rfl ?_ ?_
    · intro reads
      cases reads
    · intro closed same
      cases same

theorem reads_doWrite (state : State) (stream : StreamId) :
    (doWrite state).operations.countP (Operation.readsOrCloses stream) =
      state.operations.countP (Operation.readsOrCloses stream) := by
  unfold doWrite
  split
  · rfl
  · exact List.countP_cons_of_neg (by simp [Operation.readsOrCloses])

/-- Connected, with neither a read nor a close outstanding. -/
structure Up (state : State) : Prop where
  valid : Connection state
  connected : state.connected = true
  noAttempt : state.attempts = 0
  noRead : state.operations.countP (Operation.readsOrCloses state.ws) = 0

theorem Up.doRead {state : State} (up : Up state) : Connection (doRead state) := by
  refine up.valid.beginStream up.connected up.noAttempt rfl rfl (fun _ => up.noRead) ?_
  intro closed same
  cases same

theorem Up.doWrite {state : State} (up : Up state) : Up (doWrite state) where
  valid := up.valid.doWrite up.connected up.noAttempt
  connected := (doWrite_unaffected state).connected.trans up.connected
  noAttempt := (doWrite_unaffected state).attempts.trans up.noAttempt
  noRead := by
    have ws : (WebsocketRunner.doWrite state).ws = state.ws := by
      unfold WebsocketRunner.doWrite
      split
      · rfl
      · rfl
    rw [ws, reads_doWrite]
    exact up.noRead

theorem Up.startPingTimer {state : State} (up : Up state) : Up (startPingTimer state) where
  valid := up.valid.startPingTimer
  connected := (startPingTimer_unaffected state).connected.trans up.connected
  noAttempt := (startPingTimer_unaffected state).attempts.trans up.noAttempt
  noRead := by
    unfold WebsocketRunner.startPingTimer
    split
    · exact up.noRead
    · exact up.noRead

theorem Connection.push {state : State} (valid : Connection state) (message : Message) :
    Connection (push message state) :=
  valid.frame rfl rfl rfl rfl (valid.silentEvent fun _ => rfl)

theorem Connection.pushAndWrite {state : State} (valid : Connection state)
    (lifecycle : Lifecycle state) (message : Message) :
    Connection (pushAndWrite message state) := by
  simp only [WebsocketRunner.pushAndWrite]
  split
  · next writes =>
      have connected : state.connected = true := (Bool.and_eq_true_iff.mp writes).1
      exact (valid.push message).doWrite connected (lifecycle.noAttempt connected)
  · exact valid.push message

/-- The next step of a chain on a stream that has seen nothing else. -/
theorem Connection.beginChain {state : State} (valid : Connection state)
    (disconnected : state.connected = false)
    (fresh : ∀ operation ∈ state.operations, operation.stream = some state.ws →
      operation.isChain = true)
    {operation : Operation} (chain : operation.isChain = true)
    (current : ∀ stream, operation.stream = some stream → stream = state.ws) :
    Connection (state.begin operation) where
  streamsLe := by
    intro other member stream same
    rcases List.mem_cons.mp member with rfl | earlier
    · exact Nat.le_of_eq (current stream same)
    · exact valid.streamsLe other earlier stream same
  connectedCurrent := fun connected => absurd (disconnected.symm.trans connected) (by decide)
  chainOnly := by
    intro _ other member same
    rcases List.mem_cons.mp member with rfl | earlier
    · exact chain
    · exact fresh other earlier same
  chainCurrent := by
    intro other member link stream same
    rcases List.mem_cons.mp member with rfl | earlier
    · exact current stream same
    · exact valid.chainCurrent other earlier link stream same
  readsOnce := by
    have reads : ¬operation.readsOrCloses state.ws = true := by
      cases operation with
      | resolve => simp [Operation.readsOrCloses]
      | connect stream => simp [Operation.readsOrCloses]
      | sslHandshake stream => simp [Operation.readsOrCloses]
      | wsHandshake stream => simp [Operation.readsOrCloses]
      | read stream => cases chain
      | write stream message => cases chain
      | close stream => cases chain
    simpa only [State.begin, List.countP_cons_of_neg reads] using valid.readsOnce
  closing := by
    intro stream member
    rcases List.mem_cons.mp member with rfl | earlier
    · cases chain
    · exact valid.closing stream earlier
  alternating := valid.alternating

theorem Connection.disconnect {state : State} (valid : Connection state)
    (connected : state.connected = true) (hasError : Bool) (errMsg : Bytes) :
    Connection { state.record (.onWsDisconnected hasError errMsg) with connected := false } where
  streamsLe := valid.streamsLe
  connectedCurrent := by simp
  chainOnly := valid.chainOnly
  chainCurrent := valid.chainCurrent
  readsOnce := valid.readsOnce
  closing := valid.closing
  alternating := by
    have up := valid.alternating
    rw [connected] at up
    exact connectionAfter_append up _

theorem of_abortedFirst {state : State} {stream : StreamId} {now : Int}
    (fence : abortedFirst state (.complete (.wsHandshake stream none now)) = true) :
    ∀ operation ∈ state.operations, ∀ other, operation.stream = some other → stream ≤ other := by
  intro operation member other streamed
  have later := List.all_eq_true.mp fence operation member
  simpa [streamed] using later

/-- With the fence a websocket handshake succeeds as the only operation left. -/
theorem Connection.alone {state : State} (valid : Connection state) (lifecycle : Lifecycle state)
    (running : state.io = .running) {stream : StreamId}
    (member : .wsHandshake stream ∈ state.operations)
    (fence : ∀ operation ∈ state.operations, ∀ other,
      operation.stream = some other → stream ≤ other) :
    state.operations.erase (.wsHandshake stream) = [] := by
  have idle := lifecycle.take_chain running member rfl
  have current := valid.chainCurrent _ member rfl stream rfl
  apply List.eq_nil_iff_forall_not_mem.mpr
  intro operation remains
  have included := List.mem_of_mem_erase remains
  cases streamed : operation.stream with
  | none =>
      cases operation with
      | resolve => exact no_chain idle.noAttempt _ remains rfl
      | _ => cases streamed
  | some other =>
      have same : other = state.ws := Nat.le_antisymm
        (valid.streamsLe operation included other streamed)
        (current ▸ fence operation included other streamed)
      have chain := valid.chainOnly ⟨_, member, rfl⟩ operation included (same ▸ streamed)
      exact no_chain idle.noAttempt operation remains chain

theorem Connection.onWsHandshake {state : State} (valid : Connection state)
    (idle : Idle state) (ec : Option ErrorCode) (now : Int)
    (alone : ec = none → state.operations = []) : Connection (onWsHandshake ec now state) := by
  cases ec with
  | some _ => exact valid.scheduleReconnect
  | none =>
      have operations := alone rfl
      have down := valid.alternating
      rw [idle.disconnected] at down
      have up : Up ({ onPongReceived now (cancelReconnectTimer state) with
          connected := true, reconnectAttempts := 0 }.record .onWsConnected) := by
        refine ⟨⟨?_, ?_, ?_, ?_, ?_, ?_, ?_⟩, rfl, ?_, ?_⟩
        · exact valid.streamsLe
        · simp [operations, State.record, onPongReceived, cancelReconnectTimer]
        · exact valid.chainOnly
        · exact valid.chainCurrent
        · exact valid.readsOnce
        · exact valid.closing
        · exact connectionAfter_append down _
        · exact attempts_cancelReconnectTimer_idle idle.noAttempt
        · simp [operations, State.record, onPongReceived, cancelReconnectTimer]
      simp only [WebsocketRunner.onWsHandshake]
      split
      · exact up.startPingTimer.doRead
      · exact up.doWrite.startPingTimer.doRead

/-- While connected, a read or close that completes was the only one. -/
theorem Connection.take_read {state : State} (valid : Connection state)
    (connected : state.connected = true) {operation : Operation}
    (member : operation ∈ state.operations) {stream : StreamId}
    (reads : operation.readsOrCloses stream = true) :
    (state.operations.erase operation).countP (Operation.readsOrCloses state.ws) = 0 := by
  have current := valid.connectedCurrent connected operation member stream
    (stream_of_readsOrCloses reads)
  have count := countP_erase_add (Operation.readsOrCloses state.ws) member
  have once := valid.readsOnce
  rw [current] at reads
  simp only [reads, if_true] at count
  omega

theorem Connection.onRead {state : State} (valid : Connection state) (lifecycle : Lifecycle state)
    {stream : StreamId} (member : .read stream ∈ state.operations) (ec : Option ErrorCode)
    (received : Bytes) :
    Connection (onRead ec received
      { state with operations := state.operations.erase (.read stream) }) := by
  have taken := valid.take (.read stream)
  simp only [WebsocketRunner.onRead]
  split
  · exact taken.frame rfl rfl rfl rfl rfl
  · next active =>
      have connected : state.connected = true := by
        cases stopping : state.stopping with
        | true => exact lifecycle.stoppingConnected stopping
        | false => simpa [stopping] using active
      have noRead := valid.take_read connected member (decide_eq_true rfl)
      have noAttempt : State.attempts
          { state with operations := state.operations.erase (.read stream) } = 0 :=
        (take_unaffected member rfl).attempts.trans (lifecycle.noAttempt connected)
      cases ec with
      | none =>
          apply Up.doRead
          refine ⟨?_, connected, noAttempt, noRead⟩
          exact taken.frame rfl rfl rfl rfl (taken.silentEvent fun _ => rfl)
      | some errMsg =>
          simp only
          split
          · next stopping =>
              have buffered : Connection { state with
                  operations := state.operations.erase (.read stream)
                  readBuf := state.readBuf ++ received } := taken.frame rfl rfl rfl rfl rfl
              exact buffered.beginStream connected noAttempt rfl rfl (fun _ => noRead)
                (fun _ _ => stopping)
          · have buffered : Connection { state with
                operations := state.operations.erase (.read stream)
                readBuf := state.readBuf ++ received } := taken.frame rfl rfl rfl rfl rfl
            exact (buffered.disconnect connected true errMsg).scheduleReconnect

theorem Connection.onClose {state : State} (valid : Connection state) (lifecycle : Lifecycle state)
    {stream : StreamId} (member : .close stream ∈ state.operations) :
    Connection (onClose { state with operations := state.operations.erase (.close stream) }) := by
  have connected := lifecycle.stoppingConnected (valid.closing stream member)
  have closed := (valid.take (.close stream)).disconnect connected false []
  have noClose := valid.take_read connected member (decide_eq_true rfl)
  refine ⟨closed.streamsLe, closed.connectedCurrent, closed.chainOnly, closed.chainCurrent,
    closed.readsOnce, ?_, closed.alternating⟩
  intro other remains
  have current := valid.connectedCurrent connected _ (List.mem_of_mem_erase remains) other rfl
  exact absurd noClose (Nat.ne_of_gt
    (List.countP_pos_iff.mpr ⟨_, remains, by simp [Operation.readsOrCloses, current]⟩))

theorem Connection.observe {state : State} (valid : Connection state) (completion : Completion) :
    Connection (completion.observe state) := by
  cases completion with
  | write stream message ec =>
      cases ec with
      | none => exact valid.frame rfl rfl rfl rfl (valid.silentEvent fun _ => rfl)
      | some _ => exact valid
  | _ => exact valid

theorem Connection.onWrite {state : State} (valid : Connection state) (lifecycle : Lifecycle state)
    (ec : Option ErrorCode) : Connection (onWrite ec state) := by
  unfold WebsocketRunner.onWrite
  split
  · exact valid
  · next up =>
      have connected : state.connected = true := by simpa using up
      cases ec with
      | some _ => exact valid.frame rfl rfl rfl rfl rfl
      | none =>
          have popped : Connection { state with writeQueue := state.writeQueue.tail } :=
            valid.frame rfl rfl rfl rfl rfl
          exact popped.doWrite connected (lifecycle.noAttempt connected)

/-- The operations that a stream in the chain has seen belong to the chain. -/
theorem Connection.fresh {state : State} (valid : Connection state) {operation : Operation}
    (member : operation ∈ state.operations) (chain : operation.isChain = true) :
    ∀ other ∈ state.operations.erase operation, other.stream = some state.ws →
      other.isChain = true :=
  fun other remains => valid.chainOnly ⟨operation, member, chain⟩ other
    (List.mem_of_mem_erase remains)

theorem Connection.complete {state : State} (valid : Connection state)
    (lifecycle : Lifecycle state) (completion : Completion) (running : state.io = .running)
    (member : completion.operation ∈ state.operations)
    (fence : abortedFirst state (.complete completion) = true) :
    Connection (completion.handle (completion.observe
      { state with operations := state.operations.erase completion.operation })) := by
  have taken := valid.take completion.operation
  cases completion with
  | resolve ec =>
      have idle := lifecycle.take_chain running member rfl
      cases ec with
      | some _ => exact taken.scheduleReconnect
      | none =>
          have recorded : Connection (State.record
              { state with operations := state.operations.erase .resolve } .connectStarted) :=
            taken.frame rfl rfl rfl rfl (taken.silentEvent fun _ => rfl)
          apply recorded.beginChain idle.disconnected (valid.fresh member rfl) rfl
          exact fun stream same => (Option.some.inj same).symm
  | connect stream ec sniSet =>
      have idle := lifecycle.take_chain running member rfl
      cases ec with
      | some _ => exact taken.scheduleReconnect
      | none =>
          cases sniSet with
          | false => exact taken.scheduleReconnect
          | true =>
              apply taken.beginChain idle.disconnected (valid.fresh member rfl) rfl
              exact fun stream same => (Option.some.inj same).symm
  | sslHandshake stream ec =>
      have idle := lifecycle.take_chain running member rfl
      cases ec with
      | some _ => exact taken.scheduleReconnect
      | none =>
          apply taken.beginChain idle.disconnected (valid.fresh member rfl) rfl
          exact fun stream same => (Option.some.inj same).symm
  | wsHandshake stream ec now =>
      refine taken.onWsHandshake (lifecycle.take_chain running member rfl) ec now ?_
      rintro rfl
      exact valid.alone lifecycle running member (of_abortedFirst fence)
  | read stream ec received => exact valid.onRead lifecycle member ec received
  | write stream message ec =>
      have alive := lifecycle.unaffected (take_unaffected member rfl)
      exact (taken.observe _).onWrite (alive.unaffected (observe_unaffected _ _)) ec
  | close stream ec => exact valid.onClose lifecycle member

theorem Connection.doReconnect {state : State} (valid : Connection state) (idle : Idle state) :
    Connection (doReconnect state) := by
  unfold WebsocketRunner.doReconnect
  rw [if_neg (by simp [idle.disconnected])]
  have later : ∀ operation ∈ state.operations, ∀ stream, operation.stream = some stream →
      stream < state.ws + 1 := fun operation member stream streamed =>
    Nat.lt_succ_of_le (valid.streamsLe operation member stream streamed)
  constructor
  · intro operation member stream streamed
    rcases List.mem_cons.mp member with rfl | earlier
    · cases streamed
    · exact Nat.le_of_lt (later operation earlier stream streamed)
  · exact fun connected => absurd (idle.disconnected.symm.trans connected) (by decide)
  · intro _ operation member streamed
    rcases List.mem_cons.mp member with rfl | earlier
    · rfl
    · exact absurd (later operation earlier _ streamed) (Nat.lt_irrefl _)
  · intro operation member chain stream streamed
    rcases List.mem_cons.mp member with rfl | earlier
    · cases streamed
    · exact absurd chain (no_chain idle.noAttempt operation earlier)
  · refine Nat.le_trans (Nat.le_of_eq (List.countP_eq_zero.mpr ?_)) (Nat.zero_le 1)
    intro operation member reads
    rcases List.mem_cons.mp member with rfl | earlier
    · cases reads
    · exact absurd (later operation earlier _ (stream_of_readsOrCloses reads)) (Nat.lt_irrefl _)
  · intro stream member
    rcases List.mem_cons.mp member with same | earlier
    · cases same
    · exact valid.closing stream earlier
  · exact valid.alternating ▸ valid.silentEvent fun _ => rfl

theorem Connection.doPing {state : State} (valid : Connection state) (now : Int) :
    Connection (doPing now state) := by
  unfold WebsocketRunner.doPing
  split
  · exact valid
  · next active =>
      split
      · have connected : state.connected = true := by
          simp only [Bool.or_eq_true, Bool.not_eq_true', not_or, Bool.not_eq_false] at active
          exact active.2
        exact (valid.disconnect connected true _).scheduleReconnect
      · exact valid.frame rfl rfl rfl rfl rfl

theorem Connection.doClose {state : State} (valid : Connection state) :
    Connection (doClose state) := by
  unfold WebsocketRunner.doClose
  split
  · exact valid
  · exact ⟨valid.streamsLe, valid.connectedCurrent, valid.chainOnly, valid.chainCurrent,
      valid.readsOnce, fun _ _ => rfl, valid.alternating⟩

theorem Connection.runPosted {state : State} (valid : Connection state)
    (lifecycle : Lifecycle state) (function : Posted) : Connection (runPosted function state) := by
  cases function with
  | send message => exact valid.pushAndWrite lifecycle message
  | ping => exact (valid.pushAndWrite lifecycle pingMsg).startPingTimer
  | doClose => exact valid.doClose

theorem Connection.start {state : State} (untouched : state = { initial with
    posted := state.posted }) : Connection (doResolve { state with io := .running }) := by
  rw [untouched]
  constructor
  · simp [doResolve, State.begin, State.record, initial, Operation.stream]
  · simp [doResolve, State.begin, State.record, initial, Operation.stream]
  · simp [doResolve, State.begin, State.record, initial, Operation.stream]
  · simp [doResolve, State.begin, State.record, initial, Operation.stream]
  · simp [doResolve, State.begin, State.record, initial, Operation.readsOrCloses]
  · simp [doResolve, State.begin, State.record, initial]
  · rfl

theorem step_connection {state next : State} {action : Action} (valid : Connection state)
    (lifecycle : Lifecycle state) (untouched : Untouched state)
    (fence : abortedFirst state action = true) (taken : step state action = some next) :
    Connection next := by
  cases action with
  | start =>
      obtain ⟨notStarted, rfl⟩ := Option.ite_some_none_eq_some.mp taken
      exact .start (untouched notStarted)
  | send message =>
      obtain rfl := Option.some.inj taken
      exact valid.frame rfl rfl rfl rfl rfl
  | stop =>
      obtain rfl := Option.some.inj taken
      simp only [stop]
      split
      · exact valid.frame rfl rfl rfl rfl rfl
      · exact valid.frame rfl rfl rfl rfl rfl
  | complete completion =>
      obtain ⟨⟨running, member⟩, rfl⟩ := Option.ite_some_none_eq_some.mp taken
      exact valid.complete lifecycle completion running member fence
  | reconnectExpires =>
      obtain ⟨_, rfl⟩ := Option.ite_some_none_eq_some.mp taken
      exact valid.frame rfl rfl rfl rfl rfl
  | reconnectFires aborted =>
      obtain ⟨⟨running, member⟩, rfl⟩ := Option.ite_some_none_eq_some.mp taken
      have fired : Connection { state with
          reconnectWaits := state.reconnectWaits.erase (firing aborted) } :=
        valid.frame rfl rfl rfl rfl rfl
      split
      · next fires =>
          simp only [Bool.and_eq_true, Bool.not_eq_true'] at fires
          obtain ⟨rfl, _⟩ := fires
          exact fired.doReconnect (lifecycle.take_wait running member)
      · exact fired
  | pingExpires =>
      obtain ⟨_, rfl⟩ := Option.ite_some_none_eq_some.mp taken
      exact valid.frame rfl rfl rfl rfl rfl
  | pingFires aborted now =>
      obtain ⟨_, rfl⟩ := Option.ite_some_none_eq_some.mp taken
      have fired : Connection { state with
          pingWaits := state.pingWaits.erase (firing aborted) } :=
        valid.frame rfl rfl rfl rfl rfl
      split
      · exact fired.doPing now
      · exact fired
  | run function =>
      obtain ⟨_, rfl⟩ := Option.ite_some_none_eq_some.mp taken
      have dequeued : Connection { state with posted := state.posted.erase function } :=
        valid.frame rfl rfl rfl rfl rfl
      have alive : Lifecycle { state with posted := state.posted.erase function } :=
        lifecycle.unaffected ⟨rfl, rfl, rfl, rfl, .of_eq rfl⟩
      exact dequeued.runPosted alive function
  | pong now =>
      obtain ⟨_, rfl⟩ := Option.ite_some_none_eq_some.mp taken
      exact valid.frame rfl rfl rfl rfl rfl
  | ioRunReturns =>
      obtain ⟨_, rfl⟩ := Option.ite_some_none_eq_some.mp taken
      exact valid.frame rfl rfl rfl rfl rfl

/-- What holds in every reachable state of the fenced runner. -/
structure Serving (state : State) : Prop where
  lifecycle : Lifecycle state
  untouched : Untouched state
  connection : Connection state

theorem initial_serving : Serving initial where
  lifecycle := initial_lifecycle
  untouched := fun _ => rfl
  connection := by
    constructor
    · simp [initial]
    · simp [initial]
    · simp [initial]
    · simp [initial]
    · simp [initial]
    · simp [initial]
    · rfl

theorem step_serving {state next : State} {action : Action} (serving : Serving state)
    (taken : fencedStep state action = some next) : Serving next := by
  obtain ⟨fence, taken⟩ := guarded_eq_some.mp taken
  exact ⟨step_lifecycle serving.lifecycle taken, step_untouched serving.untouched taken,
    step_connection serving.connection serving.lifecycle serving.untouched fence taken⟩

theorem reachable_serving {state : State} (reached : Reachable fencedStep initial state) :
    Serving state :=
  reached.invariant initial_serving (fun _ _ _ serving taken => step_serving serving taken)

/-- In every reachable state at most one attempt, reconnect timer or connection
is in progress and at most one read is outstanding on the current stream, and the
listener has been told of connections and disconnections in turn. -/
theorem one_connection_at_a_time {state : State} (reached : Reachable fencedStep initial state) :
    state.attempts + state.connected.toNat ≤ 1 ∧
      state.operations.countP (Operation.readsFrom state.ws) ≤ 1 ∧
      connectionAfter state.trace = some state.connected := by
  have serving := reachable_serving reached
  refine ⟨serving.lifecycle.single, ?_, serving.connection.alternating⟩
  exact Nat.le_trans (readsFrom_le _ _) serving.connection.readsOnce

/-- A pong timeout, with the old read completing late and a second connection. -/
def reconnectAfterPongTimeout : List Action :=
  .start :: attemptSucceeds ++
    [.pingExpires, .pingFires false 0, .run .ping, .pingExpires, .pingFires false 20000000000,
      .reconnectExpires, .reconnectFires false, .complete (.read 0 (some []) []),
      .complete (.write 0 pingMsg none), .complete (.resolve none),
      .complete (.connect 1 none true), .complete (.sslHandshake 1 none),
      .complete (.wsHandshake 1 none 0)]

theorem one_connection_at_a_time_reconnected :
    ∃ state, execute fencedStep initial reconnectAfterPongTimeout = some state ∧
      state.connected = true ∧ state.ws = 1 ∧ connectionAfter state.trace = some true :=
  ⟨_, rfl, rfl, rfl, (one_connection_at_a_time
    ⟨reconnectAfterPongTimeout, execute_eq_some.mp rfl⟩).2.2⟩

end HyperliquidSdk.Websocket.WebsocketRunner
