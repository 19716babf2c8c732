import HyperliquidSdk.Websocket.PostResponseDispatchProperties
import HyperliquidSdk.Websocket.RunnerMessages
import HyperliquidSdk.Websocket.SignAndSend

/-!
# Requests whose message is lost

The map of pending requests together with the runner: any number of threads in
`signAndSend`, the handlers of the runner, and the messages that it receives. An entry is
kept until the response comes, but `doReconnect` clears the queue and replaces the
connection without a look at the map.
-/

set_option autoImplicit false

namespace HyperliquidSdk.Websocket.OrphanedRequests

open Foundation Foundation.OnDemand

/-- How far a call of `signAndSend` is. -/
inductive Stage where
  | tookId
  | recorded
  | sent (message : Bytes)
  | failed
  deriving DecidableEq, Repr

structure Request where
  postRequestId : Int32
  info : PostRequestInfo
  stage : Stage

/-- `WebsocketApi::Impl` with the calls of its callbacks, and the runner. An exception that
leaves `onWsMessage` terminates the process. -/
structure State where
  impl : Impl
  runner : WebsocketRunner.State
  events : List Event
  stopping : Bool
  terminated : Bool
  requests : List Request

def initial : State where
  impl := idle
  runner := WebsocketRunner.initial
  events := []
  stopping := false
  terminated := false
  requests := []

inductive Action where
  | takeId (info : PostRequestInfo)
  | record (index : Nat)
  | send (index : Nat) (message : Bytes)
  | dumpFails (index : Nat)
  | stop
  | runner (action : WebsocketRunner.Action)

namespace State

def atStage (state : State) (index : Nat) (stage : Stage) : Option Request :=
  state.requests[index]?.filter fun request => request.stage = stage

def advance (state : State) (index : Nat) (request : Request) (stage : Stage) : State :=
  { state with requests := state.requests.set index { request with stage } }

def entry (state : State) (request : Request) : Option PostRequestInfo :=
  state.impl.postRequestInfo (postRequestKey request.postRequestId)

end State

/-- The messages that a step of the runner hands to `onWsMessage`. -/
def received (before after : WebsocketRunner.State) : List Bytes :=
  (after.trace.drop before.trace.length).filterMap fun event =>
    match event with
    | .onWsMessage message => some message
    | _ => none

section Steps

variable (simdjson : Simdjson) (listener : Listener)

def receive (state : State) (message : Bytes) : State :=
  if state.terminated then state
  else
    let ran := (onWsMessage simdjson listener state.stopping message).run
      ⟨state.impl.postRequestInfo, state.events⟩
    { state with
      impl := { state.impl with postRequestInfo := ran.2.postRequestInfo }
      events := ran.2.events
      terminated := !ran.1.isOk }

def step : StepFunction State Action := fun state action =>
  if state.terminated then none
  else
    match action with
    | .takeId info =>
        let (postRequestId, impl) := state.impl.fetchAdd
        some { state with
          impl
          requests := state.requests ++ [{ postRequestId, info, stage := .tookId }] }
    | .record index =>
        (state.atStage index .tookId).map fun request =>
          { state.advance index request .recorded with
            impl := state.impl.record request.postRequestId request.info }
    | .send index message =>
        (state.atStage index .recorded).bind fun request =>
          (WebsocketRunner.step state.runner (.send message)).map fun runner =>
            { state.advance index request (.sent message) with
              impl := state.impl.send message
              runner }
    | .dumpFails index =>
        (state.atStage index .recorded).map fun request => state.advance index request .failed
    | .stop => some { state with stopping := true }
    | .runner action =>
        (WebsocketRunner.step state.runner action).map fun runner =>
          (received state.runner runner).foldl (receive simdjson listener) { state with runner }

end Steps

/-- The message of the request is on its way from `signAndSend`, or the runner carries it. -/
def Request.Homed (runner : WebsocketRunner.State) (request : Request) : Prop :=
  match request.stage with
  | .recorded => True
  | .sent message => runner.Carries message
  | _ => False

/-- Every entry belongs to a request whose message is not lost. -/
def NoOrphans (state : State) : Prop :=
  ∀ id info, state.impl.postRequestInfo id = some info →
    ∃ request ∈ state.requests, postRequestKey request.postRequestId = id ∧
      request.info = info ∧ request.Homed state.runner

/-- The message of the request has not been pushed yet. -/
def Request.isUnpushed (runner : WebsocketRunner.State) (request : Request) : Bool :=
  match request.stage with
  | .sent message => decide (.send message ∈ runner.posted)
  | _ => true

/-- Every message can be serialized; and where the stream is replaced, each request that has
been pushed is answered. Writes on a replaced stream complete before the next handshake does. -/
def nothingLost (state : State) (action : Action) : Bool :=
  match action with
  | .dumpFails _ => false
  | .runner action =>
      WebsocketRunner.abortedFirst state.runner action &&
        (!WebsocketRunner.replaces state.runner action ||
          state.requests.all fun request =>
            (state.entry request).isNone || request.isUnpushed state.runner)
  | _ => true

/-! ## A received message only removes entries -/

section Receive

variable {simdjson : Simdjson} {listener : Listener} {message : Bytes}

/-- What the handling leaves in the map was there before. -/
def Removes (before after : PendingRequests) : Prop :=
  ∀ id info, after id = some info → before id = some info

theorem removes_consume (handling : Handling) (id : UInt64) :
    Removes handling.postRequestInfo (handling.consume id).postRequestInfo := by
  intro other info present
  by_cases same : other = id
  · subst same
    simp at present
  · simpa [same] using present

theorem handlePostChannelMessage_removes (handling : Handling) :
    Removes handling.postRequestInfo
      ((handlePostChannelMessage simdjson listener message).run handling).2.postRequestInfo := by
  cases isId : simdjson.postId message with
  | error error =>
      rw [handle_unread listener isId]
      exact fun _ _ present => present
  | ok id =>
      cases pending : handling.postRequestInfo id with
      | none =>
          rw [handle_unknown listener isId pending]
          exact fun _ _ present => present
      | some info =>
          cases extracted : simdjson.postPayload message with
          | error error =>
              rw [handle_withoutPayload listener isId pending extracted]
              exact removes_consume handling id
          | ok payload =>
              obtain ⟨exit, typed, -, ran⟩ := handle_answered listener isId pending extracted
              rw [ran]
              exact removes_consume handling id

theorem onWsMessage_removes (handling : Handling) (stopping : Bool) :
    Removes handling.postRequestInfo
      ((onWsMessage simdjson listener stopping message).run handling).2.postRequestInfo := by
  cases stopping with
  | true =>
      rw [onWsMessage_stopping]
      exact fun _ _ present => present
  | false =>
      by_cases isPost : simdjson.channel message = .ok (utf8 "post")
      · have removes : Removes handling.postRequestInfo
            ((handlePostChannelMessage simdjson listener message).run handling).2.postRequestInfo :=
          handlePostChannelMessage_removes handling
        cases ran : (handlePostChannelMessage simdjson listener message).run handling with
        | mk exit after =>
            obtain ⟨final, fallback, -, ranAll⟩ := onWsMessage_post listener isPost ran
            rw [ran] at removes
            rw [ranAll]
            exact removes
      · rw [onWsMessage_other listener isPost]
        exact fun _ _ present => present

/-- Receiving changes neither the calls nor the runner. -/
structure Received (before after : State) : Prop where
  requests : after.requests = before.requests
  runner : after.runner = before.runner
  entries : Removes before.impl.postRequestInfo after.impl.postRequestInfo

theorem receive_received (state : State) : Received state (receive simdjson listener state message) := by
  unfold receive
  split
  · exact ⟨rfl, rfl, fun _ _ present => present⟩
  · exact ⟨rfl, rfl, onWsMessage_removes _ state.stopping⟩

theorem foldl_receive_received (messages : List Bytes) (state : State) :
    Received state (messages.foldl (receive simdjson listener) state) := by
  induction messages generalizing state with
  | nil => exact ⟨rfl, rfl, fun _ _ present => present⟩
  | cons message rest ih =>
      have first : Received state (receive simdjson listener state message) :=
        receive_received state
      have following := ih (receive simdjson listener state message)
      exact ⟨following.requests.trans first.requests, following.runner.trans first.runner,
        fun id info present => first.entries id info (following.entries id info present)⟩

end Receive

/-! ## The invariant -/

structure Invariant (state : State) : Prop where
  runner : WebsocketRunner.Transmitting state.runner
  homed : NoOrphans state

theorem initial_invariant : Invariant initial where
  runner := WebsocketRunner.initial_transmitting
  homed := by
    intro id info present
    cases present

section Preservation

variable {state : State}

theorem atStage_eq_some {index : Nat} {stage : Stage} {request : Request} :
    state.atStage index stage = some request ↔
      state.requests[index]? = some request ∧ request.stage = stage := by
  unfold State.atStage
  rw [Option.filter_eq_some_iff, decide_eq_true_iff]

/-- The other calls stay when one goes on. -/
theorem mem_advance {index : Nat} {request other : Request} {stage : Stage}
    (present : state.requests[index]? = some request) (member : other ∈ state.requests)
    (different : other ≠ request) : other ∈ (state.advance index request stage).requests := by
  obtain ⟨position, found⟩ := List.mem_iff_getElem?.mp member
  refine List.mem_iff_getElem?.mpr ⟨position, ?_⟩
  have apart : index ≠ position := by
    rintro rfl
    exact different (Option.some.inj (found.symm.trans present))
  unfold State.advance
  rw [List.getElem?_set_ne apart]
  exact found

theorem mem_advance_self {index : Nat} {request : Request} {stage : Stage}
    (present : state.requests[index]? = some request) :
    { request with stage } ∈ (state.advance index request stage).requests := by
  obtain ⟨inside, -⟩ := List.getElem?_eq_some_iff.mp present
  exact List.mem_iff_getElem?.mpr ⟨index, by simp [State.advance, inside]⟩

/-- A request that has its home keeps it while the runner loses nothing. -/
theorem Request.Homed.mono {request : Request} {runner next : WebsocketRunner.State}
    (homed : request.Homed runner)
    (carries : ∀ message, request.stage = .sent message → runner.Carries message →
      next.Carries message) : request.Homed next := by
  unfold Request.Homed at homed ⊢
  cases stage : request.stage with
  | sent message =>
      rw [stage] at homed
      exact carries message stage homed
  | recorded => trivial
  | tookId => rw [stage] at homed; exact homed
  | failed => rw [stage] at homed; exact homed

theorem Invariant.takeId (invariant : Invariant state) (request : Request) (impl : Impl)
    (entries : impl.postRequestInfo = state.impl.postRequestInfo) :
    Invariant { state with impl, requests := state.requests ++ [request] } where
  runner := invariant.runner
  homed := by
    intro id info present
    rw [entries] at present
    obtain ⟨other, member, key, same, homed⟩ := invariant.homed id info present
    exact ⟨other, List.mem_append_left _ member, key, same, homed⟩

theorem Invariant.record (invariant : Invariant state) {index : Nat} {request : Request}
    (found : state.atStage index .tookId = some request) :
    Invariant { state.advance index request .recorded with
      impl := state.impl.record request.postRequestId request.info } where
  runner := invariant.runner
  homed := by
    obtain ⟨present, stage⟩ := atStage_eq_some.mp found
    intro id info entry
    by_cases own : id = postRequestKey request.postRequestId
    · subst own
      have recorded : request.info = info := by simpa [Impl.record] using entry
      exact ⟨_, mem_advance_self present, rfl, recorded, trivial⟩
    · have before : state.impl.postRequestInfo id = some info := by
        simpa [Impl.record, own] using entry
      obtain ⟨other, member, key, same, homed⟩ := invariant.homed id info before
      have different : other ≠ request := by
        rintro rfl
        simp [Request.Homed, stage] at homed
      exact ⟨other, mem_advance present member different, key, same, homed⟩

theorem Invariant.send (invariant : Invariant state) {index : Nat} {request : Request}
    {message : Bytes} (found : state.atStage index .recorded = some request)
    {runner : WebsocketRunner.State}
    (posted : WebsocketRunner.step state.runner (.send message) = some runner) :
    Invariant { state.advance index request (.sent message) with
      impl := state.impl.send message
      runner } where
  runner := WebsocketRunner.step_transmitting invariant.runner (guarded_eq_some.mpr ⟨rfl, posted⟩)
  homed := by
    obtain ⟨present, stage⟩ := atStage_eq_some.mp found
    have carries : ∀ other, state.runner.Carries other → runner.Carries other := fun other carried =>
      WebsocketRunner.step_carries invariant.runner posted carried nofun
    intro id info entry
    obtain ⟨other, member, key, same, homed⟩ := invariant.homed id info entry
    by_cases own : other = request
    · subst own
      refine ⟨_, mem_advance_self present, key, same, ?_⟩
      obtain rfl := Option.some.inj posted
      exact .inl List.mem_cons_self
    · exact ⟨other, mem_advance present member own, key, same,
        homed.mono fun sent _ => carries sent⟩

/-- The messages whose requests have an entry are carried on. -/
theorem carries_of_nothingLost (invariant : Invariant state) {action : WebsocketRunner.Action}
    {runner : WebsocketRunner.State} (lossless : nothingLost state (.runner action) = true)
    (taken : WebsocketRunner.step state.runner action = some runner) {request : Request}
    (member : request ∈ state.requests) (pending : state.entry request ≠ none) {message : Bytes}
    (sent : request.stage = .sent message) (carried : state.runner.Carries message) :
    runner.Carries message := by
  refine WebsocketRunner.step_carries invariant.runner taken carried fun replaced => ?_
  simp only [nothingLost, replaced, Bool.and_eq_true, Bool.not_true, Bool.false_or,
    List.all_eq_true, Bool.or_eq_true, Option.isNone_iff_eq_none] at lossless
  have unpushed := (lossless.2 request member).resolve_left pending
  simpa [Request.isUnpushed, sent] using unpushed

theorem Invariant.runs (invariant : Invariant state) {action : WebsocketRunner.Action}
    {runner : WebsocketRunner.State} (lossless : nothingLost state (.runner action) = true)
    (taken : WebsocketRunner.step state.runner action = some runner) :
    Invariant { state with runner } where
  runner := by
    have fence : WebsocketRunner.abortedFirst state.runner action = true := by
      simp only [nothingLost, Bool.and_eq_true] at lossless
      exact lossless.1
    exact WebsocketRunner.step_transmitting invariant.runner (guarded_eq_some.mpr ⟨fence, taken⟩)
  homed := by
    intro id info entry
    obtain ⟨request, member, key, same, homed⟩ := invariant.homed id info entry
    have pending : state.entry request ≠ none := by
      rw [State.entry, key]
      exact Option.ne_none_iff_exists'.mpr ⟨info, entry⟩
    exact ⟨request, member, key, same, homed.mono fun message sent carried =>
      carries_of_nothingLost invariant lossless taken member pending sent carried⟩

theorem Invariant.received (invariant : Invariant state) {after : State}
    (received : Received state after) : Invariant after where
  runner := received.runner ▸ invariant.runner
  homed := by
    intro id info entry
    obtain ⟨request, member, key, same, homed⟩ :=
      invariant.homed id info (received.entries id info entry)
    exact ⟨request, received.requests ▸ member, key, same, received.runner ▸ homed⟩

end Preservation

section Runs

variable {simdjson : Simdjson} {listener : Listener} {state next : State}

theorem step_invariant {action : Action} (invariant : Invariant state)
    (lossless : nothingLost state action = true)
    (taken : step simdjson listener state action = some next) : Invariant next := by
  obtain ⟨-, taken⟩ := Option.ite_none_left_eq_some.mp taken
  cases action with
  | takeId info =>
      obtain rfl := Option.some.inj taken
      exact invariant.takeId _ _ rfl
  | record index =>
      obtain ⟨request, found, rfl⟩ := Option.map_eq_some_iff.mp taken
      exact invariant.record found
  | send index message =>
      obtain ⟨request, found, taken⟩ := Option.bind_eq_some_iff.mp taken
      obtain ⟨runner, posted, rfl⟩ := Option.map_eq_some_iff.mp taken
      exact invariant.send found posted
  | dumpFails index => cases lossless
  | stop =>
      obtain rfl := Option.some.inj taken
      exact ⟨invariant.runner, invariant.homed⟩
  | runner action =>
      obtain ⟨runner, stepped, rfl⟩ := Option.map_eq_some_iff.mp taken
      exact (invariant.runs lossless stepped).received (foldl_receive_received _ _)

theorem reachable_invariant
    (reached : Reachable (guarded nothingLost (step simdjson listener)) initial state) :
    Invariant state := by
  refine reached.invariant initial_invariant ?_
  intro before action after invariant taken
  obtain ⟨lossless, stepped⟩ := guarded_eq_some.mp taken
  exact step_invariant invariant lossless stepped

/-- A step discards no message of a request that has an entry. -/
theorem step_discards_nothing {action : Action} (invariant : Invariant state)
    (lossless : nothingLost state action = true)
    (taken : step simdjson listener state action = some next) {request : Request}
    (member : request ∈ state.requests) (pending : state.entry request ≠ none) {message : Bytes}
    (sent : request.stage = .sent message) (carried : state.runner.Carries message) :
    next.runner.Carries message := by
  obtain ⟨-, taken⟩ := Option.ite_none_left_eq_some.mp taken
  cases action with
  | takeId info =>
      obtain rfl := Option.some.inj taken
      exact carried
  | record index =>
      obtain ⟨_, -, rfl⟩ := Option.map_eq_some_iff.mp taken
      exact carried
  | send index other =>
      obtain ⟨_, -, taken⟩ := Option.bind_eq_some_iff.mp taken
      obtain ⟨runner, posted, rfl⟩ := Option.map_eq_some_iff.mp taken
      exact WebsocketRunner.step_carries invariant.runner posted carried nofun
  | dumpFails index => cases lossless
  | stop =>
      obtain rfl := Option.some.inj taken
      exact carried
  | runner action =>
      obtain ⟨runner, stepped, rfl⟩ := Option.map_eq_some_iff.mp taken
      rw [(foldl_receive_received _ _).runner]
      exact carries_of_nothingLost invariant lossless stepped member pending sent carried

end Runs

/-- Where every message can be serialized and every request that was pushed is answered before
the stream is replaced, each entry belongs to a request whose message is not lost, and no
message is discarded while its request has an entry. -/
theorem no_orphaned_requests (simdjson : Simdjson) (listener : Listener) (state : State)
    (reached : Reachable (guarded nothingLost (step simdjson listener)) initial state) :
    NoOrphans state ∧
      ∀ action next, guarded nothingLost (step simdjson listener) state action = some next →
        ∀ request ∈ state.requests, ∀ message, request.stage = .sent message →
          state.entry request ≠ none → state.runner.Carries message →
          next.runner.Carries message := by
  have invariant := reachable_invariant reached
  refine ⟨invariant.homed, ?_⟩
  intro action next taken request member message sent pending carried
  obtain ⟨lossless, stepped⟩ := guarded_eq_some.mp taken
  exact step_discards_nothing invariant lossless stepped member pending sent carried

/-! ## A request during a reconnect -/

/-- A client that receives nothing, and a listener that does not throw. -/
def silentStep : StepFunction State Action :=
  step (.ofDocuments fun _ => .error .invalidDocument) fun _ _ => none

/-- The first attempt fails, and a request is sent while the reconnect timer waits. -/
def sentBetweenAttempts : List Action :=
  [.runner .start, .runner (.complete (.resolve (some []))), .takeId ⟨.l2Book, some 7⟩,
    .record 0, .send 0 dumpedL2Book]

/-- The timer expires before the message is pushed, and it is written on the new stream. -/
def pushedAfterwards : List Action :=
  sentBetweenAttempts ++
    [.runner .reconnectExpires, .runner (.reconnectFires false),
      .runner (.complete (.resolve none)), .runner (.complete (.connect 1 none true)),
      .runner (.complete (.sslHandshake 1 none)), .runner (.complete (.wsHandshake 1 none 0)),
      .runner (.run (.send dumpedL2Book)), .runner (.complete (.write 1 dumpedL2Book none))]

theorem no_orphaned_requests_pushedAfterwards :
    ∃ state, Reachable (guarded nothingLost silentStep) initial state ∧
      state.runner.writtenOn 1 = [dumpedL2Book] ∧ NoOrphans state := by
  have executed : (execute (guarded nothingLost silentStep) initial pushedAfterwards).map
      (fun state => state.runner.writtenOn 1) = some [dumpedL2Book] := by decide +kernel
  obtain ⟨state, ran, written⟩ := Option.map_eq_some_iff.mp executed
  have reached : Reachable (guarded nothingLost silentStep) initial state :=
    ⟨_, execute_eq_some.mp ran⟩
  exact ⟨state, reached, written, (no_orphaned_requests _ _ state reached).1⟩

/-- The message is pushed before the timer expires. -/
def pushedBefore : List Action :=
  sentBetweenAttempts ++
    [.runner (.run (.send dumpedL2Book)), .runner .reconnectExpires,
      .runner (.reconnectFires false)]

def isDisconnection : WebsocketRunner.Event → Bool
  | .onWsDisconnected _ _ => true
  | _ => false

/-- The entry is there, nobody was told, and the runner has nothing. -/
def isLost (state : State) : Bool :=
  decide (state.impl.postRequestInfo 0 = some ⟨.l2Book, some 7⟩) && state.events.isEmpty &&
    !state.runner.trace.any isDisconnection &&
    (state.requests.all fun request => request.stage = .sent dumpedL2Book) &&
    state.runner.posted.isEmpty && state.runner.writeQueue.isEmpty &&
    (state.runner.writtenOn state.runner.ws).isEmpty

/-- The queue is cleared with the message in it; the entry stays, and no callback was called. -/
theorem pushed_before_is_lost :
    ∃ state, Reachable silentStep initial state ∧
      state.impl.postRequestInfo 0 = some ⟨.l2Book, some 7⟩ ∧ state.events = [] ∧
      state.runner.trace.any isDisconnection = false ∧ ¬ NoOrphans state := by
  have executed : (execute silentStep initial pushedBefore).map isLost = some true := by
    decide +kernel
  obtain ⟨state, ran, observed⟩ := Option.map_eq_some_iff.mp executed
  simp only [isLost, Bool.and_eq_true, decide_eq_true_eq, List.isEmpty_iff, List.all_eq_true,
    Bool.not_eq_true', and_assoc] at observed
  obtain ⟨entry, silent, connected, sent, posted, queue, written⟩ := observed
  refine ⟨state, ⟨_, execute_eq_some.mp ran⟩, entry, silent, connected, ?_⟩
  intro noOrphans
  obtain ⟨request, member, -, -, homed⟩ := noOrphans 0 _ entry
  simp [Request.Homed, sent request member, WebsocketRunner.State.Carries, posted, queue,
    written] at homed

end HyperliquidSdk.Websocket.OrphanedRequests
