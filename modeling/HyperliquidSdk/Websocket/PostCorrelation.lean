import HyperliquidSdk.Foundation.History
import HyperliquidSdk.Foundation.TransitionSystem
import HyperliquidSdk.Websocket.PostResponseDispatchProperties

/-!
# Requests and their responses

The websocket client with any number of threads in `signAndSend`, its io thread and its
peer, as a transition system. A call of `signAndSend` takes an id, records its entry and
queues its message in three steps, and calls are known by the order in which they took
their ids. The io thread handles a message in one step: of what the threads share it
uses only the entry that it takes in the locked section.
-/

set_option autoImplicit false

namespace HyperliquidSdk.Websocket.PostCorrelation

open Foundation Foundation.OnDemand

/-- How far a call is, and whether its message has reached the peer. -/
inductive Phase where
  | tookId
  | recorded
  | queued
  | received
  | failed
  deriving DecidableEq, Repr

structure Request where
  postRequestId : Int32
  info : PostRequestInfo
  phase : Phase

/-- What a post message did. `request` is the call that had the id by then, if any. -/
structure Response where
  message : Bytes
  request : Option Nat
  before : PendingRequests
  after : PendingRequests
  callbacks : List Event

/-- An exception that leaves `onWsMessage` terminates the process. -/
structure State where
  impl : Impl
  events : List Event
  stopping : Bool
  terminated : Bool
  requests : List Request
  responses : List Response

inductive Action where
  | takeId (info : PostRequestInfo)
  | record (index : Nat)
  | queue (index : Nat) (message : Bytes)
  | dumpFails (index : Nat)
  | deliver (index : Nat)
  | receive (message : Bytes)
  | stop

def initial : State where
  impl := { postRequestCounter := 0, postRequestInfo := fun _ => none, sent := [] }
  events := []
  stopping := false
  terminated := false
  requests := []
  responses := []

namespace State

def handling (state : State) : Handling where
  postRequestInfo := state.impl.postRequestInfo
  events := state.events

/-- The call, if it is in this phase. -/
def atPhase (state : State) (index : Nat) (phase : Phase) : Option Request :=
  state.requests[index]?.filter fun request => request.phase = phase

def advance (state : State) (index : Nat) (request : Request) (phase : Phase) : State :=
  { state with requests := state.requests.set index { request with phase } }

end State

variable (simdjson : Simdjson) (listener : Listener)

/-- The call whose id the response has on the wire. -/
def answeredRequest (requests : List Request) (message : Bytes) : Option Nat :=
  match simdjson.postId message with
  | .ok id => requests.findIdx? fun request => (id.toNat : Int) = request.postRequestId.toInt
  | .error _ => none

/-- The record of a post message, which a client that is stopping ignores. -/
def responseTo (state : State) (message : Bytes) (after : Handling) : List Response :=
  if state.stopping = false ∧ simdjson.channel message = .ok (utf8 "post") then
    [{ message
       request := answeredRequest simdjson state.requests message
       before := state.impl.postRequestInfo
       after := after.postRequestInfo
       callbacks := after.events.drop state.events.length }]
  else []

def receive (state : State) (message : Bytes) : State :=
  let ran := (onWsMessage simdjson listener state.stopping message).run state.handling
  { state with
    impl := { state.impl with postRequestInfo := ran.2.postRequestInfo }
    events := ran.2.events
    terminated := !ran.1.isOk
    responses := state.responses ++ responseTo simdjson state message ran.2 }

def step : StepFunction State Action := fun state action =>
  if state.terminated then none
  else
    match action with
    | .takeId info =>
        let (postRequestId, impl) := state.impl.fetchAdd
        some { state with
          impl
          requests := state.requests ++ [{ postRequestId, info, phase := .tookId }] }
    | .record index =>
        (state.atPhase index .tookId).map fun request =>
          { state.advance index request .recorded with
            impl := state.impl.record request.postRequestId request.info }
    | .queue index message =>
        (state.atPhase index .recorded).map fun request =>
          { state.advance index request .queued with impl := state.impl.send message }
    | .dumpFails index =>
        (state.atPhase index .recorded).map fun request => state.advance index request .failed
    | .deliver index =>
        (state.atPhase index .queued).map fun request => state.advance index request .received
    | .receive message => some (receive simdjson listener state message)
    | .stop => some { state with stopping := true }

/-- The peer answers requests that it has received, and may use ids that were not issued.
Its responses have an id and a payload. -/
def peerMaySend (state : State) (message : Bytes) : Bool :=
  if simdjson.channel message = .ok (utf8 "post") then
    (simdjson.postId message).isOk && (simdjson.postPayload message).isOk &&
      match answeredRequest simdjson state.requests message with
      | some index => (state.atPhase index .received).isSome
      | none => true
  else true

/-- Fewer than 2^31 requests, and responses of such a peer. -/
def assumed (state : State) (action : Action) : Bool :=
  match action with
  | .takeId _ => state.requests.length + 1 < 2 ^ 31
  | .receive message => peerMaySend simdjson state message
  | _ => true

/-! ## What holds of the responses -/

/-- The `onPostResponse(raw)` callbacks of the message. -/
def raws (response : Response) : List (Bytes × RestEndpointType × Option UInt64) :=
  response.callbacks.filterMap rawCallback

/-- The typed callbacks of the message carry the correlation id of the request. -/
def TypedAs (info : PostRequestInfo) (response : Response) : Prop :=
  ∀ typed correlationId, .onTypedPostResponse typed correlationId ∈ response.callbacks →
    correlationId = info.correlationId

/-- The message changed nothing and went to `onMessage` and nowhere else. -/
structure ToOnMessage (response : Response) : Prop where
  unchanged : response.after = response.before
  called : response.callbacks ≠ []
  only : ∀ callback ∈ response.callbacks, callback = .onMessage response.message

/-- A response to a request is delivered once, as that request; any other goes to
`onMessage`. -/
structure Correct (requests : List Request) (earlier : List Response) (response : Response) :
    Prop where
  delivered : ∀ index, response.request = some index →
    (∀ before ∈ earlier, before.request ≠ some index) →
    ∃ request payload, requests[index]? = some request ∧
      raws response = [(payload, request.info.type, request.info.correlationId)] ∧
      TypedAs request.info response
  passedOn : (response.request = none ∨
    ∃ before ∈ earlier, before.request = response.request) → ToOnMessage response

def Answered (responses : List Response) (index : Nat) : Prop :=
  ∃ response ∈ responses, response.request = some index

/-- The entry of a call is there from the step that records it until the first response. -/
structure Invariant (state : State) : Prop where
  counter : state.impl.postRequestCounter = Int32.ofNat state.requests.length
  few : state.requests.length < 2 ^ 31
  numbered : ∀ index request, state.requests[index]? = some request →
    request.postRequestId = Int32.ofNat index
  awaiting : ∀ index request, state.requests[index]? = some request →
    request.phase ≠ .tookId → ¬ Answered state.responses index →
    state.impl.postRequestInfo (.ofNat index) = some request.info
  absent : ∀ index request, state.requests[index]? = some request →
    request.phase = .tookId ∨ Answered state.responses index →
    state.impl.postRequestInfo (.ofNat index) = none
  unissued : ∀ id : UInt64, state.requests.length ≤ id.toNat →
    state.impl.postRequestInfo id = none
  answered : ∀ index, Answered state.responses index →
    ∃ request, state.requests[index]? = some request ∧ request.phase = .received
  correct : Throughout (Correct state.requests) state.responses

section Steps

variable {simdjson : Simdjson} {listener : Listener} {state : State}

theorem Invariant.congr (invariant : Invariant state) {other : State}
    (counter : other.impl.postRequestCounter = state.impl.postRequestCounter)
    (entries : other.impl.postRequestInfo = state.impl.postRequestInfo)
    (requests : other.requests = state.requests) (responses : other.responses = state.responses) :
    Invariant other := by
  constructor
  case counter => rw [counter, requests, invariant.counter]
  case few => rw [requests]; exact invariant.few
  case numbered => rw [requests]; exact invariant.numbered
  case awaiting => rw [requests, responses, entries]; exact invariant.awaiting
  case absent => rw [requests, responses, entries]; exact invariant.absent
  case unissued => rw [requests, entries]; exact invariant.unissued
  case answered => rw [requests, responses]; exact invariant.answered
  case correct => rw [requests, responses]; exact invariant.correct

theorem atPhase_eq_some {index : Nat} {phase : Phase} {request : Request} :
    state.atPhase index phase = some request ↔
      state.requests[index]? = some request ∧ request.phase = phase := by
  unfold State.atPhase
  rw [Option.filter_eq_some_iff, decide_eq_true_iff]

theorem getElem?_concat_eq_some {requests : List Request} {new request : Request} {index : Nat} :
    (requests ++ [new])[index]? = some request ↔
      requests[index]? = some request ∨ index = requests.length ∧ new = request := by
  rcases Nat.lt_trichotomy index requests.length with before | rfl | after
  · rw [List.getElem?_append_left before]
    simp [Nat.ne_of_lt before]
  · simp
  · have longer : (requests ++ [new]).length ≤ index := by
      rw [List.length_append]
      exact after
    rw [List.getElem?_eq_none longer, List.getElem?_eq_none (Nat.le_of_lt after)]
    simp [Nat.ne_of_gt after]

theorem getElem?_advance {index other : Nat} {request found : Request} {phase : Phase}
    (present : state.requests[index]? = some request) :
    (state.advance index request phase).requests[other]? = some found ↔
      other = index ∧ found = { request with phase } ∨
        other ≠ index ∧ state.requests[other]? = some found := by
  obtain ⟨inside, -⟩ := List.getElem?_eq_some_iff.mp present
  unfold State.advance
  rw [List.getElem?_set]
  by_cases same : index = other
  · subst same
    simp [inside, eq_comm]
  · simp [same, Ne.symm same]

/-! ## Ids -/

theorem ofNat_inj_of_lt {first second : Nat} (firstSmall : first < 2 ^ 31)
    (secondSmall : second < 2 ^ 31) (same : UInt64.ofNat first = .ofNat second) :
    first = second := by
  have sameNat := congrArg UInt64.toNat same
  rwa [UInt64.toNat_ofNat_of_lt' (Nat.lt_trans firstSmall (by decide)),
    UInt64.toNat_ofNat_of_lt' (Nat.lt_trans secondSmall (by decide))] at sameNat

/-- An id is the same number as the key of its entry. -/
theorem postRequestKey_ofNat {index : Nat} (small : index < 2 ^ 31) :
    postRequestKey (Int32.ofNat index) = UInt64.ofNat index := by
  have wide : (Int32.ofNat index).toInt64 = Int64.ofNat index := by
    apply Int64.toInt.inj
    rw [Int32.toInt_toInt64, Int32.toInt_ofNat_of_lt small, Int64.toInt_ofNat_of_lt (by omega)]
  unfold postRequestKey
  rw [wide, Int64.toUInt64_ofNat']

theorem Invariant.small (invariant : Invariant state) {index : Nat} {request : Request}
    (present : state.requests[index]? = some request) : index < 2 ^ 31 :=
  Nat.lt_trans (List.getElem?_eq_some_iff.mp present).1 invariant.few

theorem Invariant.wireId (invariant : Invariant state) {index : Nat} {request : Request}
    (present : state.requests[index]? = some request) :
    request.postRequestId.toInt = index := by
  rw [invariant.numbered index request present,
    Int32.toInt_ofNat_of_lt (invariant.small present)]

theorem Invariant.answeredRequest_eq_some (invariant : Invariant state) {message : Bytes}
    {id : UInt64} {index : Nat} (isId : simdjson.postId message = .ok id)
    (found : answeredRequest simdjson state.requests message = some index) :
    id = .ofNat index := by
  unfold answeredRequest at found
  rw [isId] at found
  obtain ⟨inside, matched, -⟩ := List.findIdx?_eq_some_iff_getElem.mp found
  have wire := invariant.wireId (List.getElem?_eq_getElem inside)
  rw [decide_eq_true_iff, wire] at matched
  rw [← Int.ofNat.inj matched, UInt64.ofNat_toNat]

theorem Invariant.answeredRequest_eq_none (invariant : Invariant state) {message : Bytes}
    {id : UInt64} (isId : simdjson.postId message = .ok id)
    (missing : answeredRequest simdjson state.requests message = none) :
    state.requests.length ≤ id.toNat := by
  unfold answeredRequest at missing
  rw [isId] at missing
  by_contra inside
  rw [Nat.not_le] at inside
  have wire := invariant.wireId (List.getElem?_eq_getElem inside)
  have unmatched := List.findIdx?_eq_none_iff.mp missing _ (List.getElem_mem inside)
  rw [decide_eq_false_iff_not] at unmatched
  exact unmatched wire.symm

/-! ## The steps of a call -/

/-- The calls of one list are those of another, with their places and entries. -/
def Extends (requests extended : List Request) : Prop :=
  ∀ (index : Nat) (request : Request), requests[index]? = some request →
    ∃ later : Request, extended[index]? = some later ∧ later.info = request.info

theorem Correct.extend {requests extended : List Request} {earlier : List Response}
    {response : Response} (correct : Correct requests earlier response)
    (kept : Extends requests extended) : Correct extended earlier response := by
  constructor
  · intro index isRequest first
    obtain ⟨request, payload, present, delivered⟩ := correct.delivered index isRequest first
    obtain ⟨later, isLater, sameInfo⟩ := kept index request present
    exact ⟨later, payload, isLater, by rwa [sameInfo]⟩
  · exact correct.passedOn

theorem extends_concat (requests : List Request) (new : Request) :
    Extends requests (requests ++ [new]) :=
  fun _ request present => ⟨request, getElem?_concat_eq_some.mpr (.inl present), rfl⟩

theorem extends_advance {index : Nat} {request : Request} {phase : Phase}
    (present : state.requests[index]? = some request) :
    Extends state.requests (state.advance index request phase).requests := by
  intro other found isFound
  by_cases same : other = index
  · subst same
    obtain rfl := Option.some.inj (present.symm.trans isFound)
    exact ⟨_, (getElem?_advance present).mpr (.inl ⟨rfl, rfl⟩), rfl⟩
  · exact ⟨found, (getElem?_advance present).mpr (.inr ⟨same, isFound⟩), rfl⟩

theorem Invariant.notAnswered (invariant : Invariant state) {index : Nat} {request : Request}
    (present : state.requests[index]? = some request) (notReceived : request.phase ≠ .received) :
    ¬ Answered state.responses index := by
  intro answered
  obtain ⟨other, isOther, received⟩ := invariant.answered index answered
  obtain rfl := Option.some.inj (present.symm.trans isOther)
  exact notReceived received

theorem Invariant.takeId (invariant : Invariant state) (info : PostRequestInfo)
    (few : state.requests.length + 1 < 2 ^ 31) :
    Invariant { state with
      impl := state.impl.fetchAdd.2
      requests := state.requests ++
        [{ postRequestId := state.impl.fetchAdd.1, info, phase := .tookId }] } := by
  constructor
  case counter =>
    show state.impl.postRequestCounter + 1 = _
    rw [invariant.counter, List.length_append, List.length_singleton, Int32.ofNat_add]
    rfl
  case few =>
    rw [List.length_append, List.length_singleton]
    exact few
  case numbered =>
    intro index request present
    obtain before | ⟨rfl, rfl⟩ := getElem?_concat_eq_some.mp present
    · exact invariant.numbered index request before
    · exact invariant.counter
  case awaiting =>
    intro index request present recorded notAnswered
    obtain before | ⟨rfl, rfl⟩ := getElem?_concat_eq_some.mp present
    · exact invariant.awaiting index request before recorded notAnswered
    · exact absurd rfl recorded
  case absent =>
    intro index request present without
    obtain before | ⟨rfl, rfl⟩ := getElem?_concat_eq_some.mp present
    · exact invariant.absent index request before without
    · apply invariant.unissued
      rw [UInt64.toNat_ofNat_of_lt' (Nat.lt_trans invariant.few (by decide))]
  case unissued =>
    intro id beyond
    rw [List.length_append] at beyond
    exact invariant.unissued id (Nat.le_of_add_right_le beyond)
  case answered =>
    intro index answered
    obtain ⟨request, present, received⟩ := invariant.answered index answered
    exact ⟨request, getElem?_concat_eq_some.mpr (.inl present), received⟩
  case correct =>
    exact invariant.correct.imp fun _ _ correct => correct.extend (extends_concat _ _)

/-- A later step of a call, after which its entry is there. -/
theorem Invariant.advance (invariant : Invariant state) {index : Nat} {request : Request}
    {source target : Phase} {impl : Impl} (isAt : state.atPhase index source = some request)
    (notReceived : source ≠ .received) (recorded : target ≠ .tookId)
    (sameCounter : impl.postRequestCounter = state.impl.postRequestCounter)
    (entry : impl.postRequestInfo =
      Function.update state.impl.postRequestInfo (.ofNat index) (some request.info)) :
    Invariant { state.advance index request target with impl } := by
  obtain ⟨present, rfl⟩ := atPhase_eq_some.mp isAt
  have unanswered := invariant.notAnswered present notReceived
  have sameLength : (state.advance index request target).requests.length =
      state.requests.length := List.length_set
  have elsewhere : ∀ other found, other ≠ index → state.requests[other]? = some found →
      impl.postRequestInfo (.ofNat other) = state.impl.postRequestInfo (.ofNat other) := by
    intro other found different isFound
    rw [entry, Function.update_of_ne]
    exact fun same =>
      different (ofNat_inj_of_lt (invariant.small isFound) (invariant.small present) same)
  constructor
  case counter =>
    show impl.postRequestCounter = Int32.ofNat (state.advance index request target).requests.length
    rw [sameLength, sameCounter, invariant.counter]
  case few =>
    show (state.advance index request target).requests.length < 2 ^ 31
    rw [sameLength]
    exact invariant.few
  case numbered =>
    intro other found isFound
    obtain ⟨rfl, rfl⟩ | ⟨-, before⟩ := (getElem?_advance present).mp isFound
    · exact invariant.numbered other request present
    · exact invariant.numbered other found before
  case awaiting =>
    intro other found isFound isRecorded notAnswered
    show impl.postRequestInfo _ = _
    obtain ⟨rfl, rfl⟩ | ⟨different, before⟩ := (getElem?_advance present).mp isFound
    · rw [entry, Function.update_self]
    · rw [elsewhere other found different before]
      exact invariant.awaiting other found before isRecorded notAnswered
  case absent =>
    intro other found isFound without
    show impl.postRequestInfo _ = _
    obtain ⟨rfl, rfl⟩ | ⟨different, before⟩ := (getElem?_advance present).mp isFound
    · obtain impossible | answered := without
      · exact absurd impossible recorded
      · exact absurd answered unanswered
    · rw [elsewhere other found different before]
      exact invariant.absent other found before without
  case unissued =>
    intro id beyond
    rw [show ({ state.advance index request target with impl } : State).requests.length =
      state.requests.length from sameLength] at beyond
    show impl.postRequestInfo id = none
    rw [entry, Function.update_of_ne]
    · exact invariant.unissued id beyond
    · rintro rfl
      rw [UInt64.toNat_ofNat_of_lt' (Nat.lt_trans (invariant.small present) (by decide))] at beyond
      exact absurd (List.getElem?_eq_some_iff.mp present).1 (Nat.not_lt.mpr beyond)
  case answered =>
    intro other answered
    obtain ⟨found, isFound, received⟩ := invariant.answered other answered
    refine ⟨found, (getElem?_advance present).mpr (.inr ⟨?_, isFound⟩), received⟩
    rintro rfl
    exact unanswered answered
  case correct =>
    exact invariant.correct.imp fun _ _ correct => correct.extend (extends_advance present)

theorem Invariant.recordKey (invariant : Invariant state) {index : Nat} {request : Request}
    {phase : Phase} (isAt : state.atPhase index phase = some request) :
    postRequestKey request.postRequestId = .ofNat index := by
  obtain ⟨present, -⟩ := atPhase_eq_some.mp isAt
  rw [invariant.numbered index request present, postRequestKey_ofNat (invariant.small present)]

/-- A call that has recorded its entry and has no response keeps it. -/
theorem Invariant.entry_eq (invariant : Invariant state) {index : Nat} {request : Request}
    {phase : Phase} (isAt : state.atPhase index phase = some request)
    (recorded : phase ≠ .tookId) (notReceived : phase ≠ .received) :
    state.impl.postRequestInfo =
      Function.update state.impl.postRequestInfo (.ofNat index) (some request.info) := by
  obtain ⟨present, rfl⟩ := atPhase_eq_some.mp isAt
  exact (Function.update_eq_self_iff.mpr (invariant.awaiting index request present recorded
    (invariant.notAnswered present notReceived)).symm).symm

/-! ## Messages -/

theorem answered_concat {responses : List Response} {response : Response} {index : Nat} :
    Answered (responses ++ [response]) index ↔
      Answered responses index ∨ response.request = some index := by
  unfold Answered
  constructor
  · rintro ⟨found, member, isRequest⟩
    obtain earlier | last := List.mem_append.mp member
    · exact .inl ⟨found, earlier, isRequest⟩
    · rw [List.mem_singleton.mp last] at isRequest
      exact .inr isRequest
  · rintro (⟨found, member, isRequest⟩ | isRequest)
    · exact ⟨found, List.mem_append_left _ member, isRequest⟩
    · exact ⟨response, by simp, isRequest⟩

/-- A post message that is passed on is no first response. -/
theorem Invariant.passOn (invariant : Invariant state) {response : Response}
    {events : List Event} {terminated : Bool}
    (notFirst : ∀ index, response.request = some index → Answered state.responses index)
    (toOnMessage : ToOnMessage response) :
    Invariant { state with events, terminated, responses := state.responses ++ [response] } := by
  have sameAnswered : ∀ index, Answered (state.responses ++ [response]) index ↔
      Answered state.responses index :=
    fun index => answered_concat.trans (or_iff_left_of_imp (notFirst index))
  constructor
  case counter => exact invariant.counter
  case few => exact invariant.few
  case numbered => exact invariant.numbered
  case awaiting =>
    intro index request present recorded notAnswered
    exact invariant.awaiting index request present recorded
      fun answered => notAnswered ((sameAnswered index).mpr answered)
  case absent =>
    intro index request present without
    exact invariant.absent index request present (without.imp_right (sameAnswered index).mp)
  case unissued => exact invariant.unissued
  case answered => exact fun index answered => invariant.answered index ((sameAnswered index).mp answered)
  case correct =>
    refine throughout_concat.mpr ⟨invariant.correct, ?_, fun _ => toOnMessage⟩
    intro index isRequest first
    obtain ⟨before, member, sameRequest⟩ := notFirst index isRequest
    exact absurd sameRequest (first before member)

/-- The first response to a request that the peer has received takes its entry. -/
theorem Invariant.deliver (invariant : Invariant state) {response : Response} {index : Nat}
    {request : Request} {payload : Bytes} {events : List Event} {terminated : Bool}
    (isAt : state.atPhase index .received = some request)
    (unanswered : ¬ Answered state.responses index)
    (isRequest : response.request = some index)
    (delivered : raws response = [(payload, request.info.type, request.info.correlationId)])
    (typed : TypedAs request.info response) :
    Invariant { state with
      impl := { state.impl with
        postRequestInfo := Function.update state.impl.postRequestInfo (.ofNat index) none }
      events
      terminated
      responses := state.responses ++ [response] } := by
  obtain ⟨present, received⟩ := atPhase_eq_some.mp isAt
  have answeredIff : ∀ other, Answered (state.responses ++ [response]) other ↔
      Answered state.responses other ∨ index = other := by
    intro other
    rw [answered_concat, isRequest, Option.some_inj]
  have elsewhere : ∀ other found, other ≠ index → state.requests[other]? = some found →
      Function.update state.impl.postRequestInfo (.ofNat index) none (.ofNat other) =
        state.impl.postRequestInfo (.ofNat other) := by
    intro other found different isFound
    rw [Function.update_of_ne]
    exact fun same =>
      different (ofNat_inj_of_lt (invariant.small isFound) (invariant.small present) same)
  constructor
  case counter => exact invariant.counter
  case few => exact invariant.few
  case numbered => exact invariant.numbered
  case awaiting =>
    intro other found isFound recorded notAnswered
    have different : other ≠ index :=
      fun same => notAnswered ((answeredIff other).mpr (.inr same.symm))
    refine (elsewhere other found different isFound).trans ?_
    exact invariant.awaiting other found isFound recorded
      fun answered => notAnswered ((answeredIff other).mpr (.inl answered))
  case absent =>
    intro other found isFound without
    by_cases same : other = index
    · subst same
      exact Function.update_self ..
    · refine (elsewhere other found same isFound).trans ?_
      apply invariant.absent other found isFound
      exact without.imp_right fun answered =>
        ((answeredIff other).mp answered).resolve_right (Ne.symm same)
  case unissued =>
    intro id beyond
    show Function.update state.impl.postRequestInfo (.ofNat index) none id = none
    by_cases same : id = .ofNat index
    · subst same
      exact Function.update_self ..
    · rw [Function.update_of_ne same]
      exact invariant.unissued id beyond
  case answered =>
    intro other answered
    obtain before | rfl := (answeredIff other).mp answered
    · exact invariant.answered other before
    · exact ⟨request, present, received⟩
  case correct =>
    refine throughout_concat.mpr ⟨invariant.correct, ?_, ?_⟩
    · intro other isOther _
      obtain rfl := Option.some.inj (isRequest.symm.trans isOther)
      exact ⟨request, payload, present, delivered, typed⟩
    · rintro (none | ⟨before, member, sameRequest⟩)
      · rw [isRequest] at none
        cases none
      · exact absurd ⟨before, member, sameRequest.trans isRequest⟩ unanswered

/-- The record of a post message whose handler ends in `after` with these callbacks. -/
theorem receive_post {message : Bytes} {exit : Except Thrown Unit} {after : Handling}
    {callbacks : List Event} (running : state.stopping = false)
    (isPost : simdjson.channel message = .ok (utf8 "post"))
    (ran : (handlePostChannelMessage simdjson listener message).run state.handling = (exit, after))
    (called : after.events = state.events ++ callbacks) :
    ∃ events terminated fallback, (fallback = [] ∨ fallback = [.onMessage message]) ∧
      receive simdjson listener state message =
        { state with
          impl := { state.impl with postRequestInfo := after.postRequestInfo }
          events
          terminated
          responses := state.responses ++
            [{ message
               request := answeredRequest simdjson state.requests message
               before := state.impl.postRequestInfo
               after := after.postRequestInfo
               callbacks := callbacks ++ fallback }] } := by
  obtain ⟨final, fallback, isFallback, ranAll⟩ := onWsMessage_post listener isPost ran
  refine ⟨after.events ++ fallback, !final.isOk, fallback, isFallback, ?_⟩
  simp [receive, responseTo, running, isPost, ranAll, called]

theorem filterMap_rawCallback_fallback {message : Bytes} {fallback : List Event}
    (isFallback : fallback = [] ∨ fallback = [.onMessage message]) :
    fallback.filterMap rawCallback = [] := by
  obtain rfl | rfl := isFallback
  · rfl
  · rfl

/-- The callbacks of a handler that found the entry. -/
theorem typedAs_answered {info : PostRequestInfo} {message payload : Bytes}
    {typed fallback : List Event} (callback : TypedCallback info.correlationId typed)
    (isFallback : fallback = [] ∨ fallback = [.onMessage message]) {response : Response}
    (called : response.callbacks =
      .onPostResponse payload info.type info.correlationId :: typed ++ fallback) :
    TypedAs info response := by
  intro answer correlationId member
  rw [called, List.cons_append, List.mem_cons, List.mem_append] at member
  rcases member with isRaw | isTyped | other
  · cases isRaw
  · rcases callback with rfl | ⟨delivered, rfl⟩
    · cases isTyped
    · cases List.mem_singleton.mp isTyped
      rfl
  · rcases isFallback with rfl | rfl
    · cases other
    · cases List.mem_singleton.mp other

/-- A response that finds no entry. -/
theorem Invariant.receiveUnknown (invariant : Invariant state) {message : Bytes} {id : UInt64}
    (running : state.stopping = false)
    (isPost : simdjson.channel message = .ok (utf8 "post"))
    (isId : simdjson.postId message = .ok id)
    (unknown : state.impl.postRequestInfo id = none)
    (notFirst : ∀ index, answeredRequest simdjson state.requests message = some index →
      Answered state.responses index) :
    Invariant (receive simdjson listener state message) := by
  have absent : state.handling.postRequestInfo id = none := unknown
  obtain ⟨events, terminated, fallback, isFallback, received⟩ := receive_post running isPost
    (handle_unknown listener isId absent) rfl
  rw [received]
  refine invariant.passOn notFirst ⟨rfl, by simp, ?_⟩
  intro callback member
  obtain rfl | rfl := isFallback <;> simpa using member

/-- A response that finds its entry. -/
theorem Invariant.receiveAnswer (invariant : Invariant state) {message payload : Bytes}
    {index : Nat} {request : Request} (running : state.stopping = false)
    (isPost : simdjson.channel message = .ok (utf8 "post"))
    (isId : simdjson.postId message = .ok (.ofNat index))
    (extracted : simdjson.postPayload message = .ok payload)
    (isAt : state.atPhase index .received = some request)
    (unanswered : ¬ Answered state.responses index)
    (isRequest : answeredRequest simdjson state.requests message = some index) :
    Invariant (receive simdjson listener state message) := by
  obtain ⟨present, isReceived⟩ := atPhase_eq_some.mp isAt
  have pending : state.handling.postRequestInfo (.ofNat index) = some request.info :=
    invariant.awaiting index request present (by rw [isReceived]; decide) unanswered
  obtain ⟨exit, typed, callback, ran⟩ := handle_answered listener isId pending extracted
  obtain ⟨events, terminated, fallback, isFallback, received⟩ :=
    receive_post running isPost ran rfl
  rw [received]
  refine invariant.deliver isAt unanswered isRequest (?_ : raws _ = [(payload, _, _)])
    (typedAs_answered callback isFallback rfl)
  unfold raws
  rw [List.filterMap_append, List.filterMap_cons, rawCallbacks_typed callback,
    filterMap_rawCallback_fallback isFallback]
  rfl

theorem Invariant.receivePost (invariant : Invariant state) {message : Bytes}
    (running : state.stopping = false)
    (isPost : simdjson.channel message = .ok (utf8 "post"))
    (allowed : peerMaySend simdjson state message = true) :
    Invariant (receive simdjson listener state message) := by
  unfold peerMaySend at allowed
  rw [if_pos isPost, Bool.and_eq_true, Bool.and_eq_true] at allowed
  obtain ⟨⟨hasId, hasPayload⟩, wasReceived⟩ := allowed
  cases isId : simdjson.postId message with
  | error error =>
      rw [isId] at hasId
      cases hasId
  | ok id =>
      cases extracted : simdjson.postPayload message with
      | error error =>
          rw [extracted] at hasPayload
          cases hasPayload
      | ok payload =>
          cases isRequest : answeredRequest simdjson state.requests message with
          | none =>
              have beyond := invariant.answeredRequest_eq_none isId isRequest
              apply invariant.receiveUnknown running isPost isId (invariant.unissued id beyond)
              intro index impossible
              rw [isRequest] at impossible
              cases impossible
          | some index =>
              rw [isRequest] at wasReceived
              obtain ⟨request, isAt⟩ := Option.isSome_iff_exists.mp wasReceived
              obtain rfl := invariant.answeredRequest_eq_some isId isRequest
              by_cases answered : Answered state.responses index
              · have absent := invariant.absent index request (atPhase_eq_some.mp isAt).1
                  (.inr answered)
                apply invariant.receiveUnknown running isPost isId absent
                intro other isOther
                obtain rfl := Option.some.inj (isRequest.symm.trans isOther)
                exact answered
              · exact invariant.receiveAnswer running isPost isId extracted isAt answered isRequest

/-- A message that is not recorded leaves the requests and the entries alone. -/
theorem Invariant.receive (invariant : Invariant state) {message : Bytes}
    (allowed : peerMaySend simdjson state message = true) :
    Invariant (receive simdjson listener state message) := by
  by_cases recorded : state.stopping = false ∧ simdjson.channel message = .ok (utf8 "post")
  · exact invariant.receivePost recorded.1 recorded.2 allowed
  · have sameEntries : ((onWsMessage simdjson listener state.stopping message).run
        state.handling).2.postRequestInfo = state.impl.postRequestInfo := by
      cases stopping : state.stopping with
      | true => rfl
      | false => exact onWsMessage_other listener fun isPost => recorded ⟨stopping, isPost⟩
    have sameResponses : (PostCorrelation.receive simdjson listener state message).responses =
        state.responses := by
      show state.responses ++ responseTo simdjson state message _ = _
      unfold responseTo
      rw [if_neg recorded, List.append_nil]
    exact invariant.congr rfl sameEntries rfl sameResponses

/-! ## Runs -/

theorem initial_invariant : Invariant initial := by
  constructor
  case counter => rfl
  case few => decide
  case numbered => exact fun _ _ impossible => by cases impossible
  case awaiting => exact fun _ _ impossible => by cases impossible
  case absent => exact fun _ _ impossible => by cases impossible
  case unissued => exact fun _ _ => rfl
  case answered =>
    rintro index ⟨response, impossible, -⟩
    exact absurd impossible List.not_mem_nil
  case correct => exact throughout_nil

theorem step_invariant {action : Action} {next : State} (invariant : Invariant state)
    (taken : guarded (assumed simdjson) (step simdjson listener) state action = some next) :
    Invariant next := by
  obtain ⟨allowed, taken⟩ := guarded_eq_some.mp taken
  unfold step at taken
  split at taken
  · cases taken
  · cases action with
    | takeId info =>
        obtain rfl := Option.some.inj taken
        exact invariant.takeId info (decide_eq_true_iff.mp allowed)
    | record index =>
        obtain ⟨request, isAt, rfl⟩ := Option.map_eq_some_iff.mp taken
        have entry : (state.impl.record request.postRequestId request.info).postRequestInfo =
            Function.update state.impl.postRequestInfo (.ofNat index) (some request.info) := by
          rw [← invariant.recordKey isAt]
          rfl
        exact invariant.advance isAt (by decide) (by decide) rfl entry
    | queue index message =>
        obtain ⟨request, isAt, rfl⟩ := Option.map_eq_some_iff.mp taken
        exact invariant.advance isAt (by decide) (by decide) rfl
          (invariant.entry_eq isAt (by decide) (by decide))
    | dumpFails index =>
        obtain ⟨request, isAt, rfl⟩ := Option.map_eq_some_iff.mp taken
        exact invariant.advance isAt (by decide) (by decide) rfl
          (invariant.entry_eq isAt (by decide) (by decide))
    | deliver index =>
        obtain ⟨request, isAt, rfl⟩ := Option.map_eq_some_iff.mp taken
        exact invariant.advance isAt (by decide) (by decide) rfl
          (invariant.entry_eq isAt (by decide) (by decide))
    | receive message =>
        obtain rfl := Option.some.inj taken
        exact invariant.receive allowed
    | stop =>
        obtain rfl := Option.some.inj taken
        exact invariant.congr rfl rfl rfl rfl

theorem reachable_invariant
    (reached : Reachable (guarded (assumed simdjson) (step simdjson listener)) initial state) :
    Invariant state :=
  reached.invariant initial_invariant fun _ _ _ invariant taken => step_invariant invariant taken

/-- What correlates the requests of a run with the responses to them. -/
structure Correlated (state : State) : Prop where
  idsDistinct : (state.requests.map Request.postRequestId).Nodup
  asRequested : ∀ response ∈ state.responses, ∀ index, response.request = some index →
    ∃ request, state.requests[index]? = some request ∧
      (∀ raw ∈ raws response, raw.2 = (request.info.type, request.info.correlationId)) ∧
      TypedAs request.info response
  answeredOnce : ∀ index,
    ((state.responses.filter fun response => response.request = some index).flatMap raws).length ≤ 1
  firstIsKnown : Throughout (fun earlier response => ∀ index, response.request = some index →
    (∀ before ∈ earlier, before.request ≠ some index) →
    ∃ request payload, state.requests[index]? = some request ∧
      raws response = [(payload, request.info.type, request.info.correlationId)] ∧
      TypedAs request.info response) state.responses
  othersPassedOn : Throughout (fun earlier response =>
    (response.request = none ∨ ∃ before ∈ earlier, before.request = response.request) →
    ToOnMessage response) state.responses

theorem ToOnMessage.raws_eq_nil {response : Response} (toOnMessage : ToOnMessage response) :
    raws response = [] := by
  unfold raws
  rw [List.filterMap_eq_nil_iff]
  intro callback member
  rw [toOnMessage.only callback member]
  rfl

theorem ToOnMessage.typedAs {response : Response} (toOnMessage : ToOnMessage response)
    (info : PostRequestInfo) : TypedAs info response := by
  intro typed correlationId member
  cases toOnMessage.only _ member

theorem Invariant.idsDistinct (invariant : Invariant state) :
    (state.requests.map Request.postRequestId).Nodup := by
  refine List.pairwise_iff_getElem.mpr fun first second firstInside secondInside before same => ?_
  rw [List.length_map] at firstInside secondInside
  rw [List.getElem_map, List.getElem_map] at same
  have firstWire := invariant.wireId (List.getElem?_eq_getElem firstInside)
  have secondWire := invariant.wireId (List.getElem?_eq_getElem secondInside)
  rw [same, secondWire] at firstWire
  omega

theorem Invariant.asRequested (invariant : Invariant state) :
    ∀ response ∈ state.responses, ∀ index, response.request = some index →
      ∃ request, state.requests[index]? = some request ∧
        (∀ raw ∈ raws response, raw.2 = (request.info.type, request.info.correlationId)) ∧
        TypedAs request.info response := by
  intro response member index isRequest
  obtain ⟨request, present, -⟩ := invariant.answered index ⟨response, member, isRequest⟩
  obtain ⟨earlier, later, split⟩ := List.append_of_mem member
  have correct := invariant.correct earlier response later split
  refine ⟨request, present, ?_⟩
  by_cases repeated : ∃ before ∈ earlier, before.request = some index
  · have toOnMessage := correct.passedOn (.inr (isRequest ▸ repeated))
    rw [toOnMessage.raws_eq_nil]
    exact ⟨fun _ impossible => absurd impossible List.not_mem_nil, toOnMessage.typedAs _⟩
  · obtain ⟨first, payload, isFirst, delivered, typed⟩ := correct.delivered index isRequest
      fun before isBefore same => repeated ⟨before, isBefore, same⟩
    obtain rfl := Option.some.inj (present.symm.trans isFirst)
    rw [delivered]
    refine ⟨fun raw isRaw => ?_, typed⟩
    rw [List.mem_singleton.mp isRaw]

theorem Invariant.answeredOnce (invariant : Invariant state) (index : Nat) :
    ((state.responses.filter fun response => response.request = some index).flatMap raws).length ≤
      1 := by
  apply Throughout.emitted_le_one
  intro earlier response later split isRequest
  have correct := invariant.correct earlier response later split
  rw [decide_eq_true_iff] at isRequest
  by_cases repeated : ∃ before ∈ earlier, before.request = some index
  · rw [(correct.passedOn (.inr (isRequest ▸ repeated))).raws_eq_nil]
    exact ⟨Nat.zero_le 1, fun _ => rfl⟩
  · obtain ⟨request, payload, -, delivered, -⟩ := correct.delivered index isRequest
      fun before isBefore same => repeated ⟨before, isBefore, same⟩
    rw [delivered]
    refine ⟨Nat.le_refl 1, fun selected => absurd ?_ repeated⟩
    simpa using selected

theorem posts_correlate (simdjson : Simdjson) (listener : Listener) (state : State)
    (reached : Reachable (guarded (assumed simdjson) (step simdjson listener)) initial state) :
    Correlated state := by
  have invariant := reachable_invariant reached
  exact {
    idsDistinct := invariant.idsDistinct
    asRequested := invariant.asRequested
    answeredOnce := invariant.answeredOnce
    firstIsKnown := invariant.correct.imp fun _ _ correct => correct.delivered
    othersPassedOn := invariant.correct.imp fun _ _ correct => correct.passedOn }

/-- The answer of the peer to a request with this id, and its payload. -/
def answerPayload : Value := .ofMembers [("type", .ofText "meta"), ("data", .null)]

def answer (id : String) : Value :=
  postMessage id [("type", .ofText "info"), ("payload", answerPayload)]

def answers : Simdjson :=
  .ofDocuments (recorded ([answer "0", answer "1", answer "9", answerPayload, .null]))

/-- Two calls that overlap, with responses in the other order, one to an id that is not
issued and one sent twice. -/
def overlapping : List Action :=
  [.takeId ⟨.allMids, some 7⟩, .takeId ⟨.spotMeta, none⟩, .record 1, .record 0, .queue 1 [],
    .queue 0 [], .deliver 1, .deliver 0, .receive (answer "1").toJsonString,
    .receive (answer "9").toJsonString, .receive (answer "0").toJsonString,
    .receive (answer "1").toJsonString]

theorem posts_correlate_overlapping :
    ∃ state, execute (guarded (assumed answers) (step answers quiet)) initial overlapping =
        some state ∧
      state.responses.map raws =
        [[(answerPayload.toJsonString, .spotMeta, none)], [],
          [(answerPayload.toJsonString, .allMids, some 7)], []] ∧
      Correlated state := by
  have responses : (execute (guarded (assumed answers) (step answers quiet)) initial
      overlapping).map (fun state => state.responses.map raws) =
      some [[(answerPayload.toJsonString, .spotMeta, none)], [],
        [(answerPayload.toJsonString, .allMids, some 7)], []] := by decide +kernel
  obtain ⟨state, executed, answered⟩ := Option.map_eq_some_iff.mp responses
  exact ⟨state, executed, answered,
    posts_correlate answers quiet state ⟨overlapping, execute_eq_some.mp executed⟩⟩

end Steps

/-! ## The steps together -/

section SignAndSend

open Signing

variable {primitives : Primitives} {dump : Json → Result Bytes} {config : ApiConfig}
  {type : RestEndpointType} {body payload : Json} {vaultAddress : Option Bytes}
  {expiresAfter correlationId : Option UInt64} {nonce : UInt64} {state : State}

/-- The last step of a call whose payload is this one. -/
def lastStep (dump : Json → Result Bytes) (state : State) (type : RestEndpointType)
    (payload : Json) : Action :=
  match dump (wrapped type state.impl.postRequestCounter payload) with
  | .ok message => .queue state.requests.length message
  | .error _ => .dumpFails state.requests.length

theorem atPhase_advance {index : Nat} {request : Request} {phase : Phase}
    (present : state.requests[index]? = some request) :
    (state.advance index request phase).atPhase index phase = some { request with phase } :=
  atPhase_eq_some.mpr ⟨(getElem?_advance present).mpr (.inl ⟨rfl, rfl⟩), rfl⟩

/-- The steps of a call, if nothing comes between them, do what `signAndSend` does. -/
theorem signAndSend_run (simdjson : Simdjson) (listener : Listener)
    (prepared : prepareBodyForType primitives config type body vaultAddress expiresAfter nonce =
      .ok payload)
    (running : state.terminated = false) :
    ∃ final, Run (step simdjson listener) state
        [.takeId ⟨type, correlationId⟩, .record state.requests.length,
          lastStep dump state type payload] final ∧
      final.impl = (signAndSend primitives dump config type body vaultAddress expiresAfter
        correlationId nonce state.impl).2 := by
  let request : Request := ⟨state.impl.postRequestCounter, ⟨type, correlationId⟩, .tookId⟩
  let took : State := { state with
    impl := state.impl.fetchAdd.2, requests := state.requests ++ [request] }
  have present : took.requests[state.requests.length]? = some request :=
    getElem?_concat_eq_some.mpr (.inr ⟨rfl, rfl⟩)
  let entered : State := { took.advance state.requests.length request .recorded with
    impl := took.impl.record request.postRequestId request.info }
  have takes : step simdjson listener state (.takeId ⟨type, correlationId⟩) = some took := by
    simp [step, running, took, request, Impl.fetchAdd]
  have isAt : took.atPhase state.requests.length .tookId = some request :=
    atPhase_eq_some.mpr ⟨present, rfl⟩
  have records : step simdjson listener took (.record state.requests.length) = some entered := by
    simp [step, isAt, entered, show took.terminated = false from running]
  have isEntered : entered.atPhase state.requests.length .recorded =
      some { request with phase := .recorded } := atPhase_advance present
  have stillRunning : entered.terminated = false := running
  unfold lastStep
  simp only [signAndSend, prepared]
  cases dumped : dump (wrapped type state.impl.postRequestCounter payload) with
  | ok message =>
      let queued : State :=
        { entered.advance state.requests.length { request with phase := .recorded } .queued with
          impl := entered.impl.send message }
      have queues : step simdjson listener entered (.queue state.requests.length message) =
          some queued := by
        simp [step, isEntered, stillRunning, queued]
      refine ⟨queued, .cons takes (.cons records (.cons queues .nil)), ?_⟩
      simp only [Impl.fetchAdd, dumped]
      rfl
  | error exception =>
      let failed : State :=
        entered.advance state.requests.length { request with phase := .recorded } .failed
      have fails : step simdjson listener entered (.dumpFails state.requests.length) =
          some failed := by
        simp [step, isEntered, stillRunning, failed]
      refine ⟨failed, .cons takes (.cons records (.cons fails .nil)), ?_⟩
      simp only [Impl.fetchAdd, dumped]
      rfl

end SignAndSend

end HyperliquidSdk.Websocket.PostCorrelation
