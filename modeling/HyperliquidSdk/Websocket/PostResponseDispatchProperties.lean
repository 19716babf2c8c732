import HyperliquidSdk.Foundation.Throwing
import HyperliquidSdk.Websocket.PostResponseDispatch

/-!
# What a post message does

`handlePostChannelMessage` in its four cases, and when a pending request is consumed
without a callback.
-/

set_option autoImplicit false

namespace HyperliquidSdk.Websocket

open Foundation Foundation.OnDemand Foundation.Throwing Rest Handler

namespace Handling

/-- The entry of the id is erased. -/
def consume (handling : Handling) (id : UInt64) : Handling :=
  { handling with postRequestInfo := Function.update handling.postRequestInfo id none }

def log (handling : Handling) (event : Event) : Handling :=
  { handling with events := handling.events ++ [event] }

@[simp] theorem consume_events (handling : Handling) (id : UInt64) :
    (handling.consume id).events = handling.events := rfl

@[simp] theorem consume_postRequestInfo (handling : Handling) (id : UInt64) :
    (handling.consume id).postRequestInfo = Function.update handling.postRequestInfo id none := rfl

@[simp] theorem log_events (handling : Handling) (event : Event) :
    (handling.log event).events = handling.events ++ [event] := rfl

@[simp] theorem log_postRequestInfo (handling : Handling) (event : Event) :
    (handling.log event).postRequestInfo = handling.postRequestInfo := rfl

theorem consume_eq_self {handling : Handling} {id : UInt64}
    (absent : handling.postRequestInfo id = none) : handling.consume id = handling := by
  unfold consume
  rw [Function.update_eq_self_iff.mpr absent.symm]

end Handling

/-! ## Running a handler -/

section Run

variable {α β : Type} (handling : Handling)

@[simp] theorem value_ok_run (read : α) :
    (value (.ok read)).run handling = (.ok read, handling) := rfl

@[simp] theorem value_error_run (error : Error) :
    (value (.error error : Except Error α)).run handling =
      (.error (.simdjson error), handling) := rfl

@[simp] theorem record_run (event : Event) :
    (record event).run handling = (.ok (), handling.log event) := rfl

@[simp] theorem takePending_run (id : UInt64) :
    (takePending id).run handling =
      (.ok (handling.postRequestInfo id), handling.consume id) := rfl

/-- How a callback after the events of the state exits. -/
def Listener.exit (listener : Listener) (events : List Event) (event : Event) :
    Except Thrown Unit :=
  match listener events event with
  | none => .ok ()
  | some thrown => .error thrown

@[simp] theorem notify_run (listener : Listener) (event : Event) :
    (notify listener event).run handling =
      (listener.exit handling.events event, handling.log event) := by
  unfold notify Listener.exit
  rw [bind_run]
  show (ExceptT.run (match listener handling.events event with
    | none => pure ()
    | some thrown => throw thrown : Handler Unit)) (handling.log event) = _
  cases listener handling.events event <;> rfl

theorem converted_run (program : Conversions α) :
    (converted program).run handling = match program.run convert with
      | .ok value => (.ok value, handling)
      | .error exception => (.error (.exception exception), handling) := by
  unfold converted
  cases program.run convert <;> rfl

end Run

/-! ## The cases of a post message -/

section Cases

variable {simdjson : Simdjson} (listener : Listener) {rawMessage : Bytes} (handling : Handling)

/-- The callbacks of the typed dispatch: one at most. -/
def TypedCallback (correlationId : Option UInt64) (events : List Event) : Prop :=
  events = [] ∨ ∃ response, events = [.onTypedPostResponse response correlationId]

theorem parsed_run {α : Type} (program : Conversions α) (overload : α → TypedResponse)
    (correlationId : Option UInt64) :
    ∃ exit typed, TypedCallback correlationId typed ∧
      (do
        let response ← converted program
        notify listener (.onTypedPostResponse (overload response) correlationId)).run handling =
        (exit, { handling with events := handling.events ++ typed }) := by
  rw [bind_run, converted_run]
  cases program.run convert with
  | ok response => exact ⟨_, [_], .inr ⟨overload response, rfl⟩, notify_run ..⟩
  | error exception =>
      refine ⟨.error (.exception exception), [], .inl rfl, ?_⟩
      rw [List.append_nil]

theorem dispatchInfoPostResponse_run (type : RestEndpointType) (payloadJson : Bytes)
    (correlationId : Option UInt64) :
    ∃ exit typed, TypedCallback correlationId typed ∧
      (dispatchInfoPostResponse simdjson listener type payloadJson correlationId).run handling =
        (exit, { handling with events := handling.events ++ typed }) := by
  unfold dispatchInfoPostResponse
  cases simdjson.infoData payloadJson with
  | error error => exact ⟨.ok (), [], .inl rfl, by rw [List.append_nil]; rfl⟩
  | ok dataJson =>
      cases selected : infoParser simdjson.document type dataJson with
      | none =>
          simp only [selected]
          exact ⟨.ok (), [], .inl rfl, by rw [List.append_nil]; rfl⟩
      | some parser =>
          simp only [selected]
          exact parsed_run listener handling parser id correlationId

theorem dispatchExchangeActionPostResponse_run (type : RestEndpointType) (payloadJson : Bytes)
    (correlationId : Option UInt64) :
    ∃ exit typed, TypedCallback correlationId typed ∧
      (dispatchExchangeActionPostResponse simdjson listener type payloadJson
        correlationId).run handling =
        (exit, { handling with events := handling.events ++ typed }) :=
  parsed_run listener handling (parseSimpleResponse simdjson.document payloadJson) (.simple type)
    correlationId

/-- The end of `handlePostChannelMessage`. -/
def typedDispatch (simdjson : Simdjson) (listener : Listener) (info : PostRequestInfo)
    (payloadStr : Bytes) : Handler Unit :=
  if info.type.isAuthenticated then
    dispatchExchangeActionPostResponse simdjson listener info.type payloadStr info.correlationId
  else dispatchInfoPostResponse simdjson listener info.type payloadStr info.correlationId

theorem typedDispatch_run (info : PostRequestInfo) (payloadStr : Bytes) :
    ∃ exit typed, TypedCallback info.correlationId typed ∧
      (typedDispatch simdjson listener info payloadStr).run handling =
        (exit, { handling with events := handling.events ++ typed }) := by
  unfold typedDispatch
  split
  · exact dispatchExchangeActionPostResponse_run listener handling info.type payloadStr _
  · exact dispatchInfoPostResponse_run listener handling info.type payloadStr _

variable {handling}

theorem handle_unread {error : Error} (unread : simdjson.postId rawMessage = .error error) :
    (handlePostChannelMessage simdjson listener rawMessage).run handling =
      (.error (.simdjson error), handling) := by
  unfold handlePostChannelMessage
  rw [bind_run, unread, value_error_run]

theorem handle_unknown {id : UInt64} (isId : simdjson.postId rawMessage = .ok id)
    (unknown : handling.postRequestInfo id = none) :
    (handlePostChannelMessage simdjson listener rawMessage).run handling =
      (listener.exit handling.events (.onMessage rawMessage),
        handling.log (.onMessage rawMessage)) := by
  unfold handlePostChannelMessage
  rw [bind_run, isId, value_ok_run]
  simp only [bind_run, takePending_run, unknown, Handling.consume_eq_self unknown, notify_run]

theorem handle_withoutPayload {id : UInt64} {info : PostRequestInfo} {error : Error}
    (isId : simdjson.postId rawMessage = .ok id)
    (pending : handling.postRequestInfo id = some info)
    (missing : simdjson.postPayload rawMessage = .error error) :
    (handlePostChannelMessage simdjson listener rawMessage).run handling =
      (.error (.simdjson error), handling.consume id) := by
  unfold handlePostChannelMessage
  rw [bind_run, isId, value_ok_run]
  simp only [bind_run, takePending_run, pending, missing, value_error_run]

theorem handle_answered_run {id : UInt64} {info : PostRequestInfo} {payload : Bytes}
    (isId : simdjson.postId rawMessage = .ok id)
    (pending : handling.postRequestInfo id = some info)
    (extracted : simdjson.postPayload rawMessage = .ok payload) :
    (handlePostChannelMessage simdjson listener rawMessage).run handling =
      match listener.exit handling.events
        (.onPostResponse payload info.type info.correlationId) with
      | .ok () => (typedDispatch simdjson listener info payload).run
          ((handling.consume id).log (.onPostResponse payload info.type info.correlationId))
      | .error thrown => (.error thrown,
          (handling.consume id).log (.onPostResponse payload info.type info.correlationId)) := by
  unfold handlePostChannelMessage
  rw [bind_run, isId, value_ok_run]
  simp only [bind_run, takePending_run, pending, extracted, value_ok_run, notify_run,
    Handling.consume_events]
  cases listener.exit handling.events (.onPostResponse payload info.type info.correlationId) <;> rfl

/-- The raw callback is made, and then the typed one, unless the raw one throws. -/
theorem handle_answered {id : UInt64} {info : PostRequestInfo} {payload : Bytes}
    (isId : simdjson.postId rawMessage = .ok id)
    (pending : handling.postRequestInfo id = some info)
    (extracted : simdjson.postPayload rawMessage = .ok payload) :
    ∃ exit typed, TypedCallback info.correlationId typed ∧
      (handlePostChannelMessage simdjson listener rawMessage).run handling =
        (exit, { handling.consume id with
          events := handling.events ++
            .onPostResponse payload info.type info.correlationId :: typed }) := by
  rw [handle_answered_run listener isId pending extracted]
  cases listener.exit handling.events (.onPostResponse payload info.type info.correlationId) with
  | error thrown => exact ⟨.error thrown, [], .inl rfl, rfl⟩
  | ok _ =>
      obtain ⟨exit, typed, callback, ran⟩ := typedDispatch_run listener _ info payload
      refine ⟨exit, typed, callback, ran.trans ?_⟩
      simp

/-! ## The message around it -/

theorem onWsMessage_stopping :
    (onWsMessage simdjson listener true rawMessage).run handling = (.ok (), handling) := rfl

/-- A post message goes to `onMessage` as well if a `simdjson_error` is thrown. -/
theorem onWsMessage_post (isPost : simdjson.channel rawMessage = .ok (utf8 "post"))
    {exit : Except Thrown Unit} {after : Handling}
    (ran : (handlePostChannelMessage simdjson listener rawMessage).run handling = (exit, after)) :
    ∃ final fallback, (fallback = [] ∨ fallback = [.onMessage rawMessage]) ∧
      (onWsMessage simdjson listener false rawMessage).run handling =
        (final, { after with events := after.events ++ fallback }) := by
  have notPong : utf8 "post" ≠ utf8 "pong" := by decide
  unfold onWsMessage handleChannel
  simp only [Bool.false_eq_true, if_false, bind_run, tryCatch_run, isPost, value_ok_run, notPong,
    if_true, ran]
  cases exit with
  | ok done => exact ⟨.ok (), [], .inl rfl, by simp⟩
  | error thrown =>
      cases thrown with
      | simdjson error => exact ⟨_, [.onMessage rawMessage], .inr rfl, notify_run ..⟩
      | exception exception =>
          exact ⟨.error (.exception exception), [], .inl rfl, by simp only [throw_run]; simp⟩

/-- A message of another channel leaves the pending requests alone. -/
theorem onWsMessage_other (notPost : simdjson.channel rawMessage ≠ .ok (utf8 "post")) :
    ((onWsMessage simdjson listener false rawMessage).run handling).2.postRequestInfo =
      handling.postRequestInfo := by
  unfold onWsMessage handleChannel
  simp only [Bool.false_eq_true, if_false, bind_run, tryCatch_run]
  cases read : simdjson.channel rawMessage with
  | error error => simp
  | ok channel =>
      have isNotPost : channel ≠ utf8 "post" := by
        rintro rfl
        exact notPost read
      simp only [value_ok_run, isNotPost, if_false]
      by_cases isPong : channel = utf8 "pong"
      · simp only [if_pos isPong, bind_run, record_run, pure_run]
        simp
      · simp [isPong]

end Cases

/-! ## Requests that are consumed without a callback -/

def rawCallback : Event → Option (Bytes × RestEndpointType × Option UInt64)
  | .onPostResponse payload type correlationId => some (payload, type, correlationId)
  | _ => none

/-- The `onPostResponse(raw)` callbacks between two states. -/
def rawCallbacks (before after : Handling) : List (Bytes × RestEndpointType × Option UInt64) :=
  (after.events.drop before.events.length).filterMap rawCallback

theorem rawCallbacks_typed {correlationId : Option UInt64} {events : List Event}
    (callback : TypedCallback correlationId events) : events.filterMap rawCallback = [] := by
  obtain rfl | ⟨response, rfl⟩ := callback
  · rfl
  · rfl

/-- A request whose entry is removed has been answered with the payload once, and
without such a callback all entries stay. -/
structure NeverSilent (simdjson : Simdjson) (rawMessage : Bytes) (before after : Handling) :
    Prop where
  answered : ∀ id info, before.postRequestInfo id = some info →
    after.postRequestInfo id = none →
    ∃ payload, simdjson.postPayload rawMessage = .ok payload ∧
      rawCallbacks before after = [(payload, info.type, info.correlationId)]
  kept : rawCallbacks before after = [] → after.postRequestInfo = before.postRequestInfo

theorem neverSilent_of_unchanged {simdjson : Simdjson} {rawMessage : Bytes}
    {before after : Handling} (unchanged : after.postRequestInfo = before.postRequestInfo) :
    NeverSilent simdjson rawMessage before after := by
  constructor
  · intro id info pending removed
    rw [unchanged, pending] at removed
    cases removed
  · exact fun _ => unchanged

theorem neverSilent_of_answered {simdjson : Simdjson} {rawMessage payload : Bytes}
    {before : Handling} {id : UInt64} {info : PostRequestInfo} {typed : List Event}
    (pending : before.postRequestInfo id = some info)
    (extracted : simdjson.postPayload rawMessage = .ok payload)
    (callback : TypedCallback info.correlationId typed) :
    NeverSilent simdjson rawMessage before
      { before.consume id with
        events := before.events ++
          .onPostResponse payload info.type info.correlationId :: typed } := by
  have calls : rawCallbacks before
      { before.consume id with
        events := before.events ++
          .onPostResponse payload info.type info.correlationId :: typed } =
      [(payload, info.type, info.correlationId)] := by
    unfold rawCallbacks
    rw [List.drop_left, List.filterMap_cons, rawCallbacks_typed callback]
    rfl
  constructor
  · intro other otherInfo otherPending removed
    have same : other = id := by
      by_contra different
      rw [Handling.consume_postRequestInfo, Function.update_of_ne different, otherPending] at removed
      cases removed
    subst same
    obtain rfl := Option.some.inj (pending.symm.trans otherPending)
    exact ⟨payload, extracted, calls⟩
  · intro silent
    rw [calls] at silent
    cases silent

/-- The request is lost exactly if its entry is found and the payload is not. -/
theorem pending_never_silent_iff (simdjson : Simdjson) (listener : Listener)
    (rawMessage : Bytes) (before : Handling) :
    NeverSilent simdjson rawMessage before
      ((handlePostChannelMessage simdjson listener rawMessage).run before).2 ↔
      ∀ id info, simdjson.postId rawMessage = .ok id → before.postRequestInfo id = some info →
        ∃ payload, simdjson.postPayload rawMessage = .ok payload := by
  cases isId : simdjson.postId rawMessage with
  | error error =>
      rw [handle_unread listener isId]
      exact ⟨fun _ _ _ impossible => (by cases impossible), fun _ => neverSilent_of_unchanged rfl⟩
  | ok id =>
      cases pending : before.postRequestInfo id with
      | none =>
          rw [handle_unknown listener isId pending]
          constructor
          · intro _ other info same present
            obtain rfl := Except.ok.inj same
            rw [pending] at present
            cases present
          · exact fun _ => neverSilent_of_unchanged rfl
      | some info =>
          cases extracted : simdjson.postPayload rawMessage with
          | ok payload =>
              obtain ⟨exit, typed, callback, ran⟩ :=
                handle_answered listener isId pending extracted
              rw [ran]
              exact ⟨fun _ _ _ _ _ => ⟨payload, rfl⟩,
                fun _ => neverSilent_of_answered pending extracted callback⟩
          | error error =>
              rw [handle_withoutPayload listener isId pending extracted]
              constructor
              · intro never
                obtain ⟨payload, impossible, -⟩ :=
                  never.answered id info pending (Function.update_self ..)
                rw [extracted] at impossible
                cases impossible
              · intro present
                obtain ⟨payload, impossible⟩ := present id info rfl pending
                cases impossible

def postMessage (id : String) (response : List (String × Value)) : Value :=
  .ofMembers [("channel", .ofText "post"),
    ("data", .ofMembers [("id", .number (utf8 id)), ("response", .ofMembers response)])]

/-- The request with the id 5 is pending. -/
def awaiting (type : RestEndpointType) : Handling where
  postRequestInfo := Function.update (fun _ => none) 5 (some ⟨type, some 7⟩)
  events := []

/-- A listener whose callbacks do not throw. -/
def quiet : Listener := fun _ _ => none

def withoutPayload : Value := postMessage "5" [("type", .ofText "info")]

/-- The entry is erased before the missing payload is noticed. -/
theorem withoutPayload_consumed_silently :
    ¬ NeverSilent (.ofDocuments (recorded [withoutPayload])) withoutPayload.toJsonString
      (awaiting .allMids)
      ((handlePostChannelMessage (.ofDocuments (recorded [withoutPayload])) quiet
        withoutPayload.toJsonString).run (awaiting .allMids)).2 := by
  intro never
  have isId : (Simdjson.ofDocuments (recorded [withoutPayload])).postId
      withoutPayload.toJsonString = .ok 5 := by decide +kernel
  have missing : (Simdjson.ofDocuments (recorded [withoutPayload])).postPayload
      withoutPayload.toJsonString = .error .noSuchField := by decide +kernel
  have pending : (awaiting .allMids).postRequestInfo 5 = some ⟨.allMids, some 7⟩ := rfl
  rw [handle_withoutPayload quiet isId pending missing] at never
  obtain ⟨payload, extracted, -⟩ := never.answered 5 _ pending rfl
  rw [missing] at extracted
  cases extracted

end HyperliquidSdk.Websocket
