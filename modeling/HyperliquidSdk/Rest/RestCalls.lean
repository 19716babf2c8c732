import HyperliquidSdk.Messages.InfoRequestBuilder
import HyperliquidSdk.Rest.RestApi
import HyperliquidSdk.Signing.SignedBody
import Mathlib.Data.List.Basic

/-!
# Calls of the REST client

Whatever the sessions of other calls do, a session runs as if it were alone. It writes its
request once at most, and its call is completed once at most, by the first completion that
says how the call ends. A synchronous call made by a callback of the listener never returns.
-/

set_option autoImplicit false

namespace HyperliquidSdk.Rest.RestApi

open Foundation Messages Signing

/-- What a completion gives to `onComplete_` if it ends the call. -/
def Completion.result? : Completion → Option (Bytes × Nat × Option ErrorCode)
  | .resolve (some message) _ => some ([], 0, some message)
  | .resolve none (.failed ec) => some ([], 0, ec)
  | .connect (some message) => some ([], 0, some message)
  | .sslHandshake (some message) => some ([], 0, some message)
  | .write (some message) => some ([], 0, some message)
  | .read (some message) _ => some ([], 0, some message)
  | .read none res => some (res.body, res.resultInt, none)
  | _ => none

/-- How a call ends: the first of its completions that ends it. -/
def resultOf (completions : List Completion) : Option (Bytes × Nat × Option ErrorCode) :=
  completions.findSome? Completion.result?

def Action.completionOf (id : CallId) : Action → Option Completion
  | .complete other completion => if other = id then some completion else none
  | _ => none

def completionsOf (id : CallId) (actions : List Action) : List Completion :=
  actions.filterMap (Action.completionOf id)

/-- The call still waits for its end. -/
def Phase.isOpen : Phase → Bool
  | .shuttingDown | .finished => false
  | _ => true

/-- The request has been written, or never will be. -/
def Phase.isUnsent : Phase → Bool
  | .resolving | .connecting | .sslHandshaking | .writing => true
  | _ => false

/-- The operation that completes. -/
def Completion.phase : Completion → Phase
  | .resolve .. => .resolving
  | .connect _ => .connecting
  | .sslHandshake _ => .sslHandshaking
  | .write _ => .writing
  | .read .. => .reading
  | .shutdown _ => .shuttingDown

def Completion.handler : Completion → HttpSession → HttpSession
  | .resolve ec hostName => HttpSession.onResolve ec hostName
  | .connect ec => HttpSession.onConnect ec
  | .sslHandshake ec => HttpSession.onSslHandshake ec
  | .write ec => HttpSession.onWrite ec
  | .read ec res => HttpSession.onRead ec res
  | .shutdown _ => fun session => { session with phase := .finished }

theorem handle_eq_some {session next : HttpSession} {completion : Completion} :
    session.handle completion = some next ↔
      session.phase = completion.phase ∧ completion.handler session = next := by
  rcases session with ⟨mode, type, endpoint, req, phase, sent, notifications⟩
  cases phase <;> cases completion <;>
    simp [HttpSession.handle, Completion.phase, Completion.handler]

theorem resultOf_concat (completions : List Completion) (completion : Completion) :
    resultOf (completions ++ [completion]) =
      (resultOf completions).or completion.result? := by
  rw [resultOf, List.findSome?_append, List.findSome?_singleton]
  rfl

/-- What a session started as `started` is after its own completions. -/
structure Follows (started : HttpSession) (completions : List Completion)
    (session : HttpSession) : Prop where
  mode : session.mode = started.mode
  type : session.type = started.type
  req : session.req = started.req
  undecided : session.phase.isOpen = true ↔ resultOf completions = none
  unsent : session.phase.isUnsent = true → .write none ∉ completions
  reading : session.phase = .reading → .write none ∈ completions
  answered : ∀ res, .read none res ∈ completions → .write none ∈ completions
  notifications : session.notifications =
    ((resultOf completions).map fun (responseBody, statusCode, ec) =>
      session.onComplete responseBody statusCode ec).toList
  sent : session.sent = if .write none ∈ completions then [started.req] else []

namespace Follows

variable {started session : HttpSession} {completions : List Completion}

theorem run (mode : Mode) (type : RestEndpointType) (endpoint : Endpoint) (body : Bytes) :
    Follows (.run mode type endpoint body) [] (.run mode type endpoint body) where
  mode := rfl
  type := rfl
  req := rfl
  undecided := ⟨fun _ => rfl, fun _ => rfl⟩
  unsent := fun _ absent => nomatch absent
  reading := fun impossible => nomatch impossible
  answered := fun _ absent => nomatch absent
  notifications := rfl
  sent := rfl

/-- A completion that only moves the session on to its next operation. -/
theorem advance (follows : Follows started completions session) {completion : Completion}
    {phase : Phase} (undecided : completion.result? = none)
    (silent : completion ≠ .write none) (keepsOpen : phase.isOpen = session.phase.isOpen)
    (keepsUnsent : phase.isUnsent = true → session.phase.isUnsent = true)
    (notReading : phase ≠ .reading) :
    Follows started (completions ++ [completion]) { session with phase } := by
  have sent : .write none ∈ completions ++ [completion] ↔ .write none ∈ completions := by
    simp [Ne.symm silent]
  have result : resultOf (completions ++ [completion]) = resultOf completions := by
    rw [resultOf_concat, undecided, Option.or_none]
  refine ⟨follows.mode, follows.type, follows.req, ?_, ?_, ?_, ?_, ?_, ?_⟩
  · rw [result, keepsOpen]
    exact follows.undecided
  · rw [sent]
    exact fun unsent => follows.unsent (keepsUnsent unsent)
  · exact fun reading => absurd reading notReading
  · rw [sent]
    intro res member
    rcases List.mem_append.mp member with earlier | last
    · exact follows.answered res earlier
    · rw [← List.mem_singleton.mp last] at undecided
      cases undecided
  · rw [result]
    exact follows.notifications
  · rw [if_congr sent rfl rfl]
    exact follows.sent

/-- A completion that ends the call. -/
theorem complete (follows : Follows started completions session) {completion : Completion}
    {responseBody : Bytes} {statusCode : Nat} {ec : Option ErrorCode} {phase : Phase}
    (decides : completion.result? = some (responseBody, statusCode, ec))
    (waiting : session.phase.isOpen = true) (ended : phase.isOpen = false)
    (readsLater : (∃ res, completion = .read none res) → session.phase = .reading) :
    Follows started (completions ++ [completion])
      { session.complete responseBody statusCode ec with phase } := by
  have silent : completion ≠ .write none := by
    rintro rfl
    cases decides
  have sent : .write none ∈ completions ++ [completion] ↔ .write none ∈ completions := by
    simp [Ne.symm silent]
  have undecided := follows.undecided.mp waiting
  have result : resultOf (completions ++ [completion]) = some (responseBody, statusCode, ec) := by
    rw [resultOf_concat, undecided, Option.none_or, decides]
  refine ⟨follows.mode, follows.type, follows.req, ?_, ?_, ?_, ?_, ?_, ?_⟩
  · rw [result]
    exact ⟨fun still => absurd (still.symm.trans ended) (by decide), fun none => nomatch none⟩
  · intro unsent
    cases phase <;> cases unsent <;> cases ended
  · rintro rfl
    cases ended
  · rw [sent]
    intro res member
    rcases List.mem_append.mp member with earlier | last
    · exact follows.answered res earlier
    · exact follows.reading (readsLater ⟨res, (List.mem_singleton.mp last).symm⟩)
  · have none := follows.notifications
    rw [undecided] at none
    rw [result]
    exact congrArg (· ++ _) none
  · rw [if_congr sent rfl rfl]
    exact follows.sent

/-- The request is written. -/
theorem write (follows : Follows started completions session)
    (writing : session.phase = .writing) :
    Follows started (completions ++ [.write none])
      { session with phase := .reading, sent := session.sent ++ [session.req] } := by
  have unsent : .write none ∉ completions := follows.unsent (by rw [writing]; rfl)
  have undecided : resultOf completions = none := follows.undecided.mp (by rw [writing]; rfl)
  have result : resultOf (completions ++ [.write none]) = none := by
    rw [resultOf_concat, undecided]
    rfl
  have written : Completion.write none ∈ completions ++ [.write none] :=
    List.mem_append_right _ (List.mem_singleton.mpr rfl)
  refine ⟨follows.mode, follows.type, follows.req, ?_, ?_, fun _ => written, fun _ _ => written,
    ?_, ?_⟩
  · rw [result]
    exact ⟨fun _ => rfl, fun _ => rfl⟩
  · exact fun impossible => nomatch impossible
  · have silent := follows.notifications
    rw [undecided] at silent
    rw [result]
    exact silent
  · have nothing := follows.sent
    rw [if_neg unsent] at nothing
    rw [if_pos written, nothing, follows.req]
    rfl

theorem fail (follows : Follows started completions session) {completion : Completion}
    {ec : Option ErrorCode} (decides : completion.result? = some ([], 0, ec))
    (waiting : session.phase.isOpen = true)
    (readsLater : (∃ res, completion = .read none res) → session.phase = .reading) :
    Follows started (completions ++ [completion]) (session.complete [] 0 ec) :=
  follows.complete decides waiting rfl readsLater

theorem handle (follows : Follows started completions session) {completion : Completion}
    {next : HttpSession} (handled : session.handle completion = some next) :
    Follows started (completions ++ [completion]) next := by
  obtain ⟨phase, rfl⟩ := handle_eq_some.mp handled
  have waiting : completion.phase.isOpen = true → session.phase.isOpen = true := phase ▸ id
  have advances {later : Phase} (undecided : completion.result? = none)
      (silent : completion ≠ .write none) (keepsOpen : later.isOpen = completion.phase.isOpen)
      (keepsUnsent : later.isUnsent = true → completion.phase.isUnsent = true)
      (notReading : later ≠ .reading) :
      Follows started (completions ++ [completion]) { session with phase := later } :=
    follows.advance undecided silent (phase ▸ keepsOpen) (phase ▸ keepsUnsent) notReading
  cases completion with
  | resolve ec hostName =>
      cases ec with
      | some message => exact follows.fail rfl (waiting rfl) nofun
      | none =>
          cases hostName with
          | failed ec => exact follows.fail rfl (waiting rfl) nofun
          | set => exact advances rfl nofun rfl id nofun
  | connect ec =>
      cases ec with
      | some message => exact follows.fail rfl (waiting rfl) nofun
      | none => exact advances rfl nofun rfl id nofun
  | sslHandshake ec =>
      cases ec with
      | some message => exact follows.fail rfl (waiting rfl) nofun
      | none => exact advances rfl nofun rfl id nofun
  | write ec =>
      cases ec with
      | some message => exact follows.fail rfl (waiting rfl) nofun
      | none => exact follows.write phase
  | read ec res =>
      cases ec with
      | some message => exact follows.fail rfl (waiting rfl) fun _ => phase
      | none => exact follows.complete rfl (waiting rfl) rfl fun _ => phase
  | shutdown ec => exact advances rfl nofun rfl nofun nofun

end Follows

/-! ## A session among others -/

inductive SessionAction where
  | run (session : HttpSession)
  | complete (completion : Completion)

/-- One session as a system of its own. -/
def sessionStep : StepFunction (Option HttpSession) SessionAction
  | none, .run session => some (some session)
  | some session, .complete completion => (session.handle completion).map some
  | _, _ => none

/-- What a session does in the runs of its own system. -/
def Alone (actions : List SessionAction) : Option HttpSession → Prop
  | none => actions = []
  | some session => ∃ started completions,
      actions = .run started :: completions.map .complete ∧
      (Follows started [] started → Follows started completions session)

theorem sessionRun_alone {actions : List SessionAction} {session : Option HttpSession}
    (run : Run sessionStep none actions session) : Alone actions session := by
  refine run.tracks ?_ rfl
  intro past state action next _ alone taken
  cases state with
  | none =>
      cases action with
      | complete completion => cases taken
      | run session =>
          cases taken
          obtain rfl : past = [] := alone
          exact ⟨session, [], rfl, id⟩
  | some session =>
      cases action with
      | run other => cases taken
      | complete completion =>
          obtain ⟨started, completions, rfl, follows⟩ := alone
          obtain ⟨next, handled, rfl⟩ := Option.map_eq_some_iff.mp taken
          refine ⟨started, completions ++ [completion], ?_, fun begun => ?_⟩
          · rw [List.map_append, List.map_singleton, List.cons_append]
          · exact (follows begun).handle handled

section Runs

variable {primitives : Primitives} {dump : Json → Result Bytes} {config : ApiConfig}

/-- What an action means to the session of a call. -/
def ownAction (primitives : Primitives) (dump : Json → Result Bytes) (config : ApiConfig)
    (id : CallId) : Action → Option SessionAction
  | .call _ other arguments =>
      if other = id then (startSession primitives dump config arguments).toOption.map .run
      else none
  | .complete other completion => if other = id then some (.complete completion) else none
  | .callbackReturns => none

/-- What a call does that the system takes. -/
theorem step_call {state next : State} {caller : Caller} {id : CallId} {arguments : Arguments}
    (taken : step primitives dump config state (.call caller id arguments) = some next) :
    caller.runsIn state.io = true ∧ state.sessions id = none ∧
      ((∃ exception, startSession primitives dump config arguments = .error exception ∧
        next = state) ∨
      ∃ session, startSession primitives dump config arguments = .ok session ∧
        next = { state.setSession id session with
          io := if caller = .callback ∧ arguments.mode = .sync then .waiting id
            else state.io }) := by
  simp only [step] at taken
  split at taken
  · next enabled =>
      refine ⟨enabled.1, enabled.2, ?_⟩
      cases started : startSession primitives dump config arguments with
      | error exception =>
          rw [started] at taken
          exact .inl ⟨exception, rfl, (Option.some.inj taken).symm⟩
      | ok session =>
          rw [started] at taken
          refine .inr ⟨session, rfl, (Option.some.inj taken).symm.trans ?_⟩
          split
          · rfl
          · rfl
  · cases taken

/-- What a completion does that the system takes. -/
theorem step_complete {state next : State} {id : CallId} {completion : Completion}
    (taken : step primitives dump config state (.complete id completion) = some next) :
    state.io = .free ∧ ∃ session after, state.sessions id = some session ∧
      session.handle completion = some after ∧
      next = { state.setSession id after with
        io := if session.mode = .async ∧ after.notifications ≠ session.notifications
          then .inCallback else .free } := by
  simp only [step] at taken
  split at taken
  · next session free found =>
      obtain ⟨after, handled, rfl⟩ := Option.map_eq_some_iff.mp taken
      refine ⟨free, session, after, found, handled, ?_⟩
      split
      · rfl
      · rw [← free]
        rfl
  · cases taken

theorem setSession_self (state : State) (id : CallId) (session : HttpSession) :
    (state.setSession id session).sessions id = some session := Function.update_self ..

theorem setSession_other {state : State} {id other : CallId} (session : HttpSession)
    (different : other ≠ id) :
    (state.setSession other session).sessions id = state.sessions id :=
  Function.update_of_ne (Ne.symm different) ..

/-- A session runs on its own actions, whatever the others do. -/
theorem session_run {actions : List Action} {state : State}
    (run : Run (step primitives dump config) initial actions state) (id : CallId) :
    Run sessionStep none (actions.filterMap (ownAction primitives dump config id))
      (state.sessions id) := by
  refine @Run.project _ _ _ _ _ (fun state => state.sessions id) _ _ _ _ _ run ?_ ?_
  · intro state action next own owned taken
    cases action with
    | call caller other arguments =>
        rw [ownAction] at owned
        split at owned
        · next same =>
            obtain ⟨_, unused, failed | ⟨session, started, rfl⟩⟩ := step_call taken
            · rw [failed.choose_spec.1] at owned
              cases owned
            · rw [started] at owned
              obtain rfl := Option.some.inj owned
              rw [← same, unused]
              exact congrArg some (setSession_self state other session).symm
        · cases owned
    | complete other completion =>
        rw [ownAction] at owned
        split at owned
        · next same =>
            obtain rfl := Option.some.inj owned
            obtain ⟨_, session, after, found, handled, rfl⟩ := step_complete taken
            rw [← same, found, sessionStep, handled]
            exact congrArg some (setSession_self state other after).symm
        · cases owned
    | callbackReturns => cases owned
  · intro state action next rests taken
    cases action with
    | call caller other arguments =>
        obtain ⟨_, _, ⟨_, _, rfl⟩ | ⟨session, started, rfl⟩⟩ := step_call taken
        · rfl
        · refine setSession_other session ?_
          rintro rfl
          rw [ownAction, if_pos rfl, started] at rests
          cases rests
    | complete other completion =>
        obtain ⟨_, session, after, _, _, rfl⟩ := step_complete taken
        refine setSession_other after ?_
        rintro rfl
        rw [ownAction, if_pos rfl] at rests
        cases rests
    | callbackReturns =>
        obtain ⟨_, rfl⟩ := Option.ite_some_none_eq_some.mp taken
        rfl

def SessionAction.completion? : SessionAction → Option Completion
  | .run _ => none
  | .complete completion => some completion

theorem completionsOf_eq (id : CallId) (actions : List Action) :
    completionsOf id actions =
      (actions.filterMap (ownAction primitives dump config id)).filterMap
        SessionAction.completion? := by
  rw [completionsOf, List.filterMap_filterMap]
  congr 1
  funext action
  cases action with
  | call caller other arguments =>
      simp only [ownAction, Action.completionOf]
      split
      · cases (startSession primitives dump config arguments).toOption with
        | none => rfl
        | some session => rfl
      · rfl
  | complete other completion =>
      rw [ownAction, Action.completionOf]
      split
      · rfl
      · rfl
  | callbackReturns => rfl

theorem ownAction_eq_run {id : CallId} {action : Action} {started : HttpSession}
    (own : ownAction primitives dump config id action = some (.run started)) :
    ∃ caller arguments, action = .call caller id arguments ∧
      startSession primitives dump config arguments = .ok started := by
  cases action with
  | call caller other arguments =>
      rw [ownAction] at own
      split at own
      · next same =>
          cases result : startSession primitives dump config arguments with
          | error exception =>
              rw [result] at own
              cases own
          | ok session =>
              rw [result] at own
              cases own
              exact ⟨caller, arguments, by rw [same], result⟩
      · cases own
  | complete other completion =>
      rw [ownAction] at own
      split at own
      · cases own
      · cases own
  | callbackReturns => cases own

theorem startSession_eq_ok {arguments : Arguments} {session : HttpSession}
    (started : startSession primitives dump config arguments = .ok session) :
    ∃ prepared serialized, prepareBodyForType primitives config arguments.type arguments.body
        arguments.vaultAddress arguments.expiresAfter arguments.nonce = .ok prepared ∧
      dump prepared = .ok serialized ∧
      session = .run arguments.mode arguments.type (toInfoEndpoint config.env) serialized := by
  obtain ⟨prepared, preparing, started⟩ := bind_eq_ok started
  obtain ⟨serialized, dumping, started⟩ := bind_eq_ok started
  exact ⟨prepared, serialized, preparing, dumping, (Except.ok.inj started).symm⟩

/-- In every run, whatever the other calls do: the call writes one request, its own, to the
path of its endpoint, once it can and never again; it is completed once, when a completion
ends it, with what that completion says; and a response is only taken after the request is
written. -/
theorem each_call_completes_once {actions : List Action} {state : State}
    (run : Run (step primitives dump config) initial actions state) {id : CallId}
    {session : HttpSession} (called : state.sessions id = some session) :
    ∃ caller arguments prepared serialized, .call caller id arguments ∈ actions ∧
      prepareBodyForType primitives config arguments.type arguments.body arguments.vaultAddress
        arguments.expiresAfter arguments.nonce = .ok prepared ∧
      dump prepared = .ok serialized ∧
      session.req.target = toPath arguments.type ∧ session.req.body = serialized ∧
      session.sent = (if .write none ∈ completionsOf id actions then [session.req] else []) ∧
      session.notifications =
        ((resultOf (completionsOf id actions)).map fun (responseBody, statusCode, ec) =>
          match arguments.mode with
          | .async => listenerOnComplete arguments.type responseBody statusCode ec
          | .sync => promiseOnComplete responseBody statusCode ec).toList ∧
      ∀ res, .read none res ∈ completionsOf id actions → session.sent = [session.req] := by
  have alone := sessionRun_alone (session_run run id)
  rw [called] at alone
  obtain ⟨started, completions, own, follows⟩ := alone
  obtain ⟨action, member, runs⟩ :=
    List.mem_filterMap.mp (own ▸ List.mem_cons_self : SessionAction.run started ∈ _)
  obtain ⟨caller, arguments, rfl, starts⟩ := ownAction_eq_run runs
  obtain ⟨prepared, serialized, preparing, dumping, rfl⟩ := startSession_eq_ok starts
  have own : completionsOf id actions = completions := by
    rw [@completionsOf_eq primitives dump config, own,
      List.filterMap_cons_none rfl, List.filterMap_map]
    exact List.filterMap_some
  have follows := follows (.run ..)
  rw [own]
  have sent : session.sent = if .write none ∈ completions then [session.req] else [] := by
    rw [follows.req]
    exact follows.sent
  refine ⟨caller, arguments, prepared, serialized, member, preparing, dumping, ?_, ?_, sent, ?_, ?_⟩
  · rw [follows.req]
    rfl
  · rw [follows.req]
    rfl
  · rw [follows.notifications]
    congr 2
    funext ⟨responseBody, statusCode, ec⟩
    simp only [HttpSession.onComplete, follows.mode, follows.type]
    rfl
  · intro res member
    rw [sent, if_pos (follows.answered res member)]

/-! ## Waiting in a callback -/

/-- What the runs from a state in which the thread of the `io_context` waits leave as it is. -/
structure Stuck (id : CallId) (state next : State) : Prop where
  io : next.io = .waiting id
  sessions : ∀ other session, state.sessions other = some session →
    next.sessions other = some session
  unanswered : ∀ other session, state.sessions other = none →
    next.sessions other = some session → session.notifications = []

theorem step_stuck {id : CallId} {state earlier next : State} {action : Action}
    (stuck : Stuck id state earlier)
    (taken : step primitives dump config earlier action = some next) : Stuck id state next := by
  cases action with
  | call caller other arguments =>
      obtain ⟨runs, unused, ⟨_, _, rfl⟩ | ⟨session, started, rfl⟩⟩ := step_call taken
      · exact stuck
      · have user : caller = .user := by
          cases caller with
          | user => rfl
          | callback => simp [Caller.runsIn, stuck.io] at runs
        obtain ⟨_, serialized, _, _, rfl⟩ := startSession_eq_ok started
        rw [if_neg (by rw [user]; exact fun impossible => nomatch impossible.1)]
        refine ⟨stuck.io, ?_, ?_⟩
        · intro known session found
          have kept := stuck.sessions known session found
          have different : other ≠ known := by
            rintro rfl
            cases unused.symm.trans kept
          exact (setSession_other _ different).trans kept
        · intro known session absent found
          by_cases same : other = known
          · subst same
            cases (setSession_self earlier other _).symm.trans found
            rfl
          · exact stuck.unanswered known session absent
              ((setSession_other _ same).symm.trans found)
  | complete other completion =>
      obtain ⟨free, _⟩ := step_complete taken
      cases stuck.io.symm.trans free
  | callbackReturns =>
      obtain ⟨inCallback, _⟩ := Option.ite_some_none_eq_some.mp taken
      cases stuck.io.symm.trans inCallback

theorem run_stuck {id : CallId} {state final : State} {after : List Action}
    (run : Run (step primitives dump config) state after final) (waits : state.io = .waiting id) :
    Stuck id state final := by
  refine run.preserves (fun _ _ _ _ stuck taken => step_stuck stuck taken) ?_
  refine ⟨waits, fun _ _ kept => kept, ?_⟩
  intro other session absent found
  cases absent.symm.trans found

/-- A completion that ends the call in any phase that waits for its end. -/
def Phase.failure : Phase → Completion
  | .resolving => .resolve (some []) .set
  | .connecting => .connect (some [])
  | .sslHandshaking => .sslHandshake (some [])
  | .writing => .write (some [])
  | .reading => .read (some []) ⟨0, []⟩
  | .shuttingDown | .finished => .shutdown none

theorem handle_failure {session : HttpSession} (waiting : session.phase.isOpen = true) :
    session.handle session.phase.failure = some (session.complete [] 0 (some [])) := by
  rcases session with ⟨mode, type, endpoint, req, phase, sent, notifications⟩
  cases phase <;> first | rfl | cases waiting

theorem free_completes {state : State} {id : CallId} {session : HttpSession}
    (free : state.io = .free) (called : state.sessions id = some session)
    (waiting : session.phase.isOpen = true) :
    ∃ final, step primitives dump config state (.complete id session.phase.failure) =
      some final ∧ final.sessions id = some (session.complete [] 0 (some [])) := by
  simp only [step, free, called, handle_failure waiting, Option.map_some]
  refine ⟨_, rfl, ?_⟩
  split
  · exact setSession_self state id _
  · exact setSession_self state id _

theorem open_of_unanswered {actions : List Action} {state : State}
    (run : Run (step primitives dump config) initial actions state) {id : CallId}
    {session : HttpSession} (called : state.sessions id = some session)
    (unanswered : session.notifications = []) : session.phase.isOpen = true := by
  have alone := sessionRun_alone (session_run run id)
  rw [called] at alone
  obtain ⟨started, completions, own, follows⟩ := alone
  obtain ⟨action, _, runs⟩ :=
    List.mem_filterMap.mp (own ▸ List.mem_cons_self : SessionAction.run started ∈ _)
  obtain ⟨_, _, _, starts⟩ := ownAction_eq_run runs
  obtain ⟨_, _, _, _, rfl⟩ := startSession_eq_ok starts
  have follows := follows (.run ..)
  rw [follows.undecided]
  cases result : resultOf completions with
  | none => rfl
  | some value =>
      have notifications := follows.notifications
      rw [unanswered, result] at notifications
      cases notifications

/-- A call that is not completed can still be, unless a callback waits for the future of a
synchronous call: then nothing is ever completed again. -/
theorem call_can_complete_iff {before : List Action} {state : State}
    (run : Run (step primitives dump config) initial before state) {id : CallId}
    {session : HttpSession} (called : state.sessions id = some session)
    (unanswered : session.notifications = []) :
    (∃ after final completed, Run (step primitives dump config) state after final ∧
      final.sessions id = some completed ∧ completed.notifications ≠ []) ↔
      ∀ other, state.io ≠ .waiting other := by
  constructor
  · rintro ⟨after, final, completed, later, found, answered⟩ other waits
    have kept := (run_stuck later waits).sessions id session called
    cases kept.symm.trans found
    exact answered unanswered
  · intro serving
    have waiting := open_of_unanswered run called unanswered
    have answered : (session.complete [] 0 (some [])).notifications ≠ [] :=
      List.append_ne_nil_of_right_ne_nil _ (List.cons_ne_nil _ _)
    cases io : state.io with
    | free =>
        obtain ⟨final, taken, found⟩ := free_completes io called waiting
        exact ⟨_, final, _, .single taken, found, answered⟩
    | inCallback =>
        have returns : step primitives dump config state .callbackReturns =
            some { state with io := .free } := if_pos io
        have calledStill : State.sessions { state with io := .free } id = some session := called
        obtain ⟨final, taken, found⟩ := free_completes rfl calledStill waiting
        exact ⟨_, final, _, .cons returns (.single taken), found, answered⟩
    | waiting other => exact absurd io (serving other)

end Runs

/-! ## Two calls side by side -/

def l2BookArguments (mode : Mode) (coin : String) : Arguments where
  mode := mode
  type := .l2Book
  body := l2Book (utf8 coin) none none
  vaultAddress := none
  expiresAfter := none
  nonce := 0

/-- The text of an order book request, by its coin. -/
def l2BookDump (json : Json) : Result Bytes :=
  match json.member? "coin" with
  | some (.string coin) => .ok (utf8 "\x7b\"type\":\"l2Book\",\"coin\":\"" ++ coin ++ utf8 "\"\x7d")
  | _ => .error (.jsonTypeError 316)

def l2BookStep : StepFunction State Action :=
  step createSubAccountRecording.primitives l2BookDump testConfig

/-- One call meets a full server, and the other no server. -/
def sideBySide : List Action :=
  [.call .user 0 (l2BookArguments .async "BTC"), .call .user 1 (l2BookArguments .sync "ETH"),
    .complete 1 (.resolve none .set), .complete 0 (.resolve none .set),
    .complete 0 (.connect none), .complete 0 (.sslHandshake none), .complete 0 (.write none),
    .complete 1 (.connect (some (utf8 "Connection refused"))),
    .complete 0 (.read none ⟨429, utf8 "Too many requests"⟩)]

theorem each_call_completes_once_sideBySide :
    ∃ state first second, execute l2BookStep initial sideBySide = some state ∧
      state.sessions 0 = some first ∧ state.sessions 1 = some second ∧
      first.notifications = [.onRateLimitExceeded .l2Book (utf8 "Too many requests")] ∧
      second.notifications =
        [.setException (.restApiTransportError (utf8 "RestApi: Connection refused"))] := by
  have executed : ((execute l2BookStep initial sideBySide).bind fun state =>
      (state.sessions 0).bind fun _ => state.sessions 1).isSome = true := by decide
  obtain ⟨second, both⟩ := Option.isSome_iff_exists.mp executed
  obtain ⟨state, ran, both⟩ := Option.bind_eq_some_iff.mp both
  obtain ⟨first, calledFirst, calledSecond⟩ := Option.bind_eq_some_iff.mp both
  refine ⟨state, first, second, ran, calledFirst, calledSecond, ?_, ?_⟩
  · obtain ⟨_, arguments, _, _, member, _, _, _, _, _, notified, _⟩ :=
      each_call_completes_once (execute_eq_some.mp ran) calledFirst
    obtain ⟨_, rfl⟩ : _ ∧ arguments = l2BookArguments .async "BTC" := by
      simpa [sideBySide] using member
    exact notified
  · obtain ⟨_, arguments, _, _, member, _, _, _, _, _, notified, _⟩ :=
      each_call_completes_once (execute_eq_some.mp ran) calledSecond
    obtain ⟨_, rfl⟩ : _ ∧ arguments = l2BookArguments .sync "ETH" := by
      simpa [sideBySide] using member
    exact notified

/-- The callback for a failed call makes a synchronous one. -/
def callsFromCallback : List Action :=
  [.call .user 0 (l2BookArguments .async "BTC"),
    .complete 0 (.resolve (some (utf8 "Host not found")) .set),
    .call .callback 1 (l2BookArguments .sync "ETH")]

theorem call_can_complete_iff_callback :
    ∃ state session, execute l2BookStep initial callsFromCallback = some state ∧
      state.sessions 1 = some session ∧ session.notifications = [] ∧
      ¬ ∃ after final completed, Run l2BookStep state after final ∧
        final.sessions 1 = some completed ∧ completed.notifications ≠ [] := by
  have executed : ((execute l2BookStep initial callsFromCallback).bind fun state =>
      (state.sessions 1).bind fun session =>
        if state.io = .waiting 1 ∧ session.notifications = [] then some session else none).isSome =
      true := by decide
  obtain ⟨session, called⟩ := Option.isSome_iff_exists.mp executed
  obtain ⟨state, ran, called⟩ := Option.bind_eq_some_iff.mp called
  obtain ⟨found, called, waits⟩ := Option.bind_eq_some_iff.mp called
  obtain ⟨⟨waiting, unanswered⟩, _⟩ := Option.ite_some_none_eq_some.mp waits
  refine ⟨state, found, ran, called, unanswered, fun completes => ?_⟩
  exact (call_can_complete_iff (execute_eq_some.mp ran) called unanswered).mp completes 1 waiting

end HyperliquidSdk.Rest.RestApi
