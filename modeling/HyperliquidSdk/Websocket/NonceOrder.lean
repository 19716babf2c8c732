import HyperliquidSdk.Signing.NextNonce
import HyperliquidSdk.Signing.SignedBody
import HyperliquidSdk.Websocket.SignAndSend

/-!
# The order of the nonces

Any number of threads in `signAndSend` with signed requests, and the thread that runs the
functions they post, as a transition system. A call takes its nonce and posts its message
in different steps, and nothing keeps another call from posting in between.
-/

set_option autoImplicit false

namespace HyperliquidSdk.Websocket.NonceOrder

open Foundation Messages Signing
open Signing.NextNonce (CallId)

/-- The arguments of a call of `signAndSend`. -/
structure Arguments where
  type : RestEndpointType
  body : Json
  vaultAddress : Option Bytes
  expiresAfter : Option UInt64
  correlationId : Option UInt64

/-- How far a call is, with the locals that are live there. A call is finished when it has
posted its message and when it exits with an exception. -/
inductive Phase where
  | preparing
  | prepared (nonce : UInt64) (payload : Json)
  | tookId (nonce : UInt64) (payload : Json) (postRequestId : Int32)
  | recorded (nonce : UInt64) (payload : Json) (postRequestId : Int32)
  | finished

/-- A function handed to `net::post` that pushes a message. Pings, subscriptions and
requests that are not signed have no nonce. -/
inductive Posted where
  | signed (call : CallId) (nonce : UInt64) (message : Bytes)
  | other (message : Bytes)
  deriving DecidableEq, Repr

/-- `entered` are the messages in the order in which they entered `writeQueue_`. -/
structure State where
  nonces : NextNonce.State
  impl : Impl
  phase : CallId → Phase
  posted : List Posted
  entered : List Posted

def initial : State where
  nonces := NextNonce.initial
  impl := idle
  phase := fun _ => .preparing
  posted := []
  entered := []

inductive Action where
  | nextNonce (action : NextNonce.Action)
  | prepare (call : CallId)
  | takeId (call : CallId)
  | record (call : CallId)
  | post (call : CallId)
  | postOther (message : Bytes)
  | run

def State.setPhase (state : State) (call : CallId) (phase : Phase) : State :=
  { state with phase := Function.update state.phase call phase }

section Steps

variable (primitives : Primitives) (dump : Json → Result Bytes) (config : ApiConfig)
variable (arguments : CallId → Arguments)

/-- The payload that a call gets for its nonce. -/
def payloadOf (call : CallId) (nonce : UInt64) : Result Json :=
  prepareBodyForType primitives config (arguments call).type (arguments call).body
    (arguments call).vaultAddress (arguments call).expiresAfter nonce

/-- One thread runs the posted functions, in the order in which they were posted. -/
def step : StepFunction State Action := fun state action =>
  match action with
  | .nextNonce action => (NextNonce.step state.nonces action).map fun nonces =>
      { state with nonces }
  | .prepare call =>
      match state.phase call, state.nonces.phase call with
      | .preparing, .returned nonce =>
          match payloadOf primitives config arguments call nonce with
          | .error _ => some (state.setPhase call .finished)
          | .ok payload => some (state.setPhase call (.prepared nonce payload))
      | _, _ => none
  | .takeId call =>
      match state.phase call with
      | .prepared nonce payload =>
          let (postRequestId, impl) := state.impl.fetchAdd
          some { state.setPhase call (.tookId nonce payload postRequestId) with impl }
      | _ => none
  | .record call =>
      match state.phase call with
      | .tookId nonce payload postRequestId =>
          some { state.setPhase call (.recorded nonce payload postRequestId) with
            impl := state.impl.record postRequestId
              ⟨(arguments call).type, (arguments call).correlationId⟩ }
      | _ => none
  | .post call =>
      match state.phase call with
      | .recorded nonce payload postRequestId =>
          match dump (wrapped (arguments call).type postRequestId payload) with
          | .error _ => some (state.setPhase call .finished)
          | .ok message =>
              some { state.setPhase call .finished with
                impl := state.impl.send message
                posted := state.posted ++ [.signed call nonce message] }
      | _ => none
  | .postOther message => some { state with posted := state.posted ++ [.other message] }
  | .run =>
      match state.posted with
      | [] => none
      | function :: rest => some { state with posted := rest, entered := state.entered ++ [function] }

end Steps

def Phase.isFinished : Phase → Bool
  | .finished => true
  | _ => false

/-- The nonce of a call that may still post it. -/
def Phase.nonce? : Phase → Option UInt64
  | .prepared nonce _ => some nonce
  | .tookId nonce _ _ => some nonce
  | .recorded nonce _ _ => some nonce
  | _ => none

def Posted.nonce? : Posted → Option UInt64
  | .signed _ nonce _ => some nonce
  | .other _ => none

/-- The nonces of the signed messages, in order. -/
def noncesOf (messages : List Posted) : List UInt64 := messages.filterMap Posted.nonce?

/-- A call posts when every call with a smaller nonce is finished; and the clock and the
number of calls are below `2 ^ 63`. -/
def inTurn (state : State) (action : Action) : Bool :=
  match action with
  | .nextNonce (.readClock _ now) =>
      decide (now.toNat < 2 ^ 63 ∧ state.nonces.started.length + 1 < 2 ^ 63)
  | .post call =>
      match (state.phase call).nonce? with
      | some nonce => state.nonces.issued.all fun (other, smaller) =>
          decide (smaller < nonce) → (state.phase other).isFinished
      | none => true
  | _ => true

theorem setPhase_self (state : State) (call : CallId) (phase : Phase) :
    (state.setPhase call phase).phase call = phase :=
  Function.update_self ..

theorem setPhase_of_ne (state : State) {call other : CallId} (phase : Phase)
    (different : other ≠ call) : (state.setPhase call phase).phase other = state.phase other :=
  Function.update_of_ne different ..

section SignAndSend

variable {primitives : Primitives} {dump : Json → Result Bytes} {config : ApiConfig}
variable {arguments : CallId → Arguments} {state : State} {call : CallId} {nonce : UInt64}

/-- Without steps of others in between, a call that has its nonce does what `signAndSend` does. -/
theorem signAndSend_run (preparing : state.phase call = .preparing)
    (returned : state.nonces.phase call = .returned nonce) {payload : Json}
    (prepared : payloadOf primitives config arguments call nonce = .ok payload) :
    ∃ final, Run (step primitives dump config arguments) state
        [.prepare call, .takeId call, .record call, .post call] final ∧
      final.impl = (signAndSend primitives dump config (arguments call).type (arguments call).body
        (arguments call).vaultAddress (arguments call).expiresAfter (arguments call).correlationId
        nonce state.impl).2 := by
  let postRequestId := state.impl.postRequestCounter
  let ready := state.setPhase call (.prepared nonce payload)
  let took : State := { ready.setPhase call (.tookId nonce payload postRequestId) with
    impl := state.impl.fetchAdd.2 }
  let recorded : State := { took.setPhase call (.recorded nonce payload postRequestId) with
    impl := took.impl.record postRequestId
      ⟨(arguments call).type, (arguments call).correlationId⟩ }
  have prepares : step primitives dump config arguments state (.prepare call) = some ready := by
    simp [step, preparing, returned, prepared, ready]
  have takes : step primitives dump config arguments ready (.takeId call) = some took := by
    simp [step, ready, took, postRequestId, Impl.fetchAdd, State.setPhase]
  have records : step primitives dump config arguments took (.record call) = some recorded := by
    simp [step, took, recorded, State.setPhase]
  have isPhase : recorded.phase call = .recorded nonce payload postRequestId :=
    setPhase_self _ call _
  have sends : signAndSend primitives dump config (arguments call).type (arguments call).body
      (arguments call).vaultAddress (arguments call).expiresAfter (arguments call).correlationId
      nonce state.impl =
        match dump (wrapped (arguments call).type postRequestId payload) with
        | .error exception => (.error exception, recorded.impl)
        | .ok message => (.ok (), recorded.impl.send message) := by
    unfold payloadOf at prepared
    unfold signAndSend
    rw [prepared]
    rfl
  rw [sends]
  cases dumped : dump (wrapped (arguments call).type postRequestId payload) with
  | error exception =>
      refine ⟨recorded.setPhase call .finished, .cons prepares (.cons takes (.cons records
        (.cons ?_ .nil))), rfl⟩
      simp [step, isPhase, dumped]
  | ok message =>
      refine ⟨{ recorded.setPhase call .finished with
        impl := recorded.impl.send message
        posted := recorded.posted ++ [.signed call nonce message] },
        .cons prepares (.cons takes (.cons records (.cons ?_ .nil))), rfl⟩
      simp [step, isPhase, dumped]

end SignAndSend

/-! ## The invariant -/

/-- The messages that were posted so far, in order. -/
def State.line (state : State) : List Posted := state.entered ++ state.posted

/-- The nonces of the messages that were posted increase, and every call with a nonce up to
one of them is finished. -/
structure Invariant (state : State) : Prop where
  nonces : NextNonce.Invariant state.nonces
  few : state.nonces.started.length < 2 ^ 63
  held : ∀ call nonce, (state.phase call).nonce? = some nonce → (call, nonce) ∈ state.nonces.issued
  issued : ∀ nonce ∈ noncesOf state.line, ∃ call, (call, nonce) ∈ state.nonces.issued
  finished : ∀ nonce ∈ noncesOf state.line, ∀ call smaller, (call, smaller) ∈ state.nonces.issued →
    smaller ≤ nonce → (state.phase call).isFinished = true
  increasing : (noncesOf state.line).Pairwise (· < ·)

theorem initial_invariant : Invariant initial where
  nonces := NextNonce.initial_invariant
  few := by decide
  held := by simp [initial, Phase.nonce?]
  issued := by simp [initial, State.line, noncesOf]
  finished := by simp [initial, State.line, noncesOf]
  increasing := by simp [initial, State.line, noncesOf]

section Preservation

variable {state : State}

/-- A new nonce is above every nonce that was posted. -/
theorem Invariant.nextNonce (invariant : Invariant state) {action : NextNonce.Action}
    {nonces : NextNonce.State}
    (clock : ∀ call now, action = .readClock call now →
      now.toNat < 2 ^ 63 ∧ state.nonces.started.length + 1 < 2 ^ 63)
    (taken : NextNonce.step state.nonces action = some nonces) :
    Invariant { state with nonces } := by
  have valid : NextNonce.Invariant nonces := NextNonce.step_invariant invariant.nonces
    (fun call now performed => (clock call now performed).1) invariant.few taken
  obtain ⟨suffix, split⟩ := (NextNonce.step_extends taken).2
  have kept : ∀ entry ∈ state.nonces.issued, entry ∈ nonces.issued := by
    intro entry member
    exact split ▸ List.mem_append_left suffix member
  refine ⟨valid, ?_, ?_, ?_, ?_, invariant.increasing⟩
  · rcases NextNonce.step_cases taken with ⟨call, now, performed, -, rfl⟩ | ⟨_, _, _, -, -, rfl⟩ |
      ⟨_, _, -, -, rfl⟩ | ⟨_, _, _, _, -, -, rfl⟩
    · simpa using (clock call now performed).2
    · exact invariant.few
    · exact invariant.few
    · exact invariant.few
  · intro call nonce holds
    exact kept _ (invariant.held call nonce holds)
  · intro nonce member
    obtain ⟨call, issued⟩ := invariant.issued nonce member
    exact ⟨call, kept _ issued⟩
  · intro nonce member call smaller issued atMost
    rw [← split] at issued
    rcases List.mem_append.mp issued with before | after
    · exact invariant.finished nonce member call smaller before atMost
    · obtain ⟨other, earlier⟩ := invariant.issued nonce member
      have order := valid.increasing
      rw [← split, List.map_append, List.pairwise_append] at order
      have above := order.2.2 _ (List.mem_map.mpr ⟨_, earlier, rfl⟩) _
        (List.mem_map.mpr ⟨_, after, rfl⟩)
      exact absurd atMost (UInt64.not_le.mpr above)

/-- A call that is not finished goes on. -/
theorem Invariant.advance (invariant : Invariant state) {call : CallId} {phase : Phase}
    (unfinished : (state.phase call).isFinished = false)
    (held : ∀ nonce, phase.nonce? = some nonce → (call, nonce) ∈ state.nonces.issued)
    (impl : Impl) : Invariant { state.setPhase call phase with impl } where
  nonces := invariant.nonces
  few := invariant.few
  held := by
    intro other nonce holds
    by_cases same : other = call
    · subst same
      exact held nonce ((congrArg Phase.nonce? (setPhase_self state other phase)).symm.trans holds)
    · exact invariant.held other nonce
        ((congrArg Phase.nonce? (setPhase_of_ne state phase same)).symm.trans holds)
  issued := invariant.issued
  finished := by
    intro nonce member other smaller issued atMost
    have before := invariant.finished nonce member other smaller issued atMost
    by_cases same : other = call
    · subst same
      exact absurd before (by simp [unfinished])
    · exact (congrArg Phase.isFinished (setPhase_of_ne state phase same)).trans before
  increasing := invariant.increasing

theorem Invariant.congr (invariant : Invariant state) {other : State}
    (nonces : other.nonces = state.nonces) (phase : other.phase = state.phase)
    (line : noncesOf other.line = noncesOf state.line) : Invariant other where
  nonces := nonces ▸ invariant.nonces
  few := nonces ▸ invariant.few
  held := by rw [nonces, phase]; exact invariant.held
  issued := by rw [nonces, line]; exact invariant.issued
  finished := by rw [nonces, line, phase]; exact invariant.finished
  increasing := by rw [line]; exact invariant.increasing

/-- A message without a nonce changes nothing. -/
theorem Invariant.postOther (invariant : Invariant state) (message : Bytes) :
    Invariant { state with posted := state.posted ++ [.other message] } :=
  invariant.congr rfl rfl (by simp [noncesOf, State.line, Posted.nonce?])

/-- A finished call may post its nonce when every smaller one is done with and none above was
posted. -/
theorem Invariant.postSigned (invariant : Invariant state) {call : CallId} {nonce : UInt64}
    (issued : (call, nonce) ∈ state.nonces.issued) (finished : (state.phase call).isFinished = true)
    (turn : ∀ other smaller, (other, smaller) ∈ state.nonces.issued → smaller < nonce →
      (state.phase other).isFinished = true)
    (above : ∀ posted ∈ noncesOf state.line, posted < nonce) (message : Bytes) :
    Invariant { state with posted := state.posted ++ [.signed call nonce message] } := by
  have line : noncesOf (state.entered ++ (state.posted ++ [.signed call nonce message])) =
      noncesOf state.line ++ [nonce] := by
    simp [noncesOf, State.line, Posted.nonce?]
  refine ⟨invariant.nonces, invariant.few, invariant.held, ?_, ?_, ?_⟩
  · change ∀ posted ∈ noncesOf (state.entered ++ (state.posted ++ _)), _
    rw [line]
    intro posted member
    rcases List.mem_append.mp member with before | last
    · exact invariant.issued posted before
    · exact ⟨call, List.mem_singleton.mp last ▸ issued⟩
  · change ∀ posted ∈ noncesOf (state.entered ++ (state.posted ++ _)), _
    rw [line]
    intro posted member other smaller otherIssued atMost
    rcases List.mem_append.mp member with before | last
    · exact invariant.finished posted before other smaller otherIssued atMost
    · rw [List.mem_singleton.mp last] at atMost
      by_cases same : smaller = nonce
      · have distinct := invariant.nonces.increasing.imp (fun {_ _} less => UInt64.ne_of_lt less)
        have entry := List.inj_on_of_nodup_map distinct otherIssued issued same
        obtain rfl : other = call := congrArg Prod.fst entry
        exact finished
      · exact turn other smaller otherIssued (UInt64.lt_of_le_of_ne atMost same)
  · change (noncesOf (state.entered ++ (state.posted ++ _))).Pairwise _
    rw [line, List.pairwise_append]
    refine ⟨invariant.increasing, List.pairwise_singleton _ _, ?_⟩
    intro posted member last isLast
    rw [List.mem_singleton.mp isLast]
    exact above posted member

theorem Invariant.run (invariant : Invariant state) {function : Posted} {rest : List Posted}
    (posted : state.posted = function :: rest) :
    Invariant { state with posted := rest, entered := state.entered ++ [function] } := by
  refine invariant.congr rfl rfl (congrArg noncesOf ?_)
  change state.entered ++ [function] ++ rest = state.entered ++ state.posted
  rw [posted, List.append_assoc]
  rfl

end Preservation

section Runs

variable {primitives : Primitives} {dump : Json → Result Bytes} {config : ApiConfig}
variable {arguments : CallId → Arguments} {state next : State}

/-- A recorded call whose turn it is finds only smaller nonces before its own. -/
theorem Invariant.post (invariant : Invariant state) {call : CallId} {nonce : UInt64}
    {payload : Json} {postRequestId : Int32}
    (recorded : state.phase call = .recorded nonce payload postRequestId)
    (turn : inTurn state (.post call) = true) (impl : Impl) (message : Bytes) :
    Invariant { state.setPhase call .finished with
      impl
      posted := state.posted ++ [.signed call nonce message] } := by
  have holds : (state.phase call).nonce? = some nonce := congrArg Phase.nonce? recorded
  have issued := invariant.held call nonce holds
  have unfinished : (state.phase call).isFinished = false := congrArg Phase.isFinished recorded
  have smallerFinished : ∀ other smaller, (other, smaller) ∈ state.nonces.issued →
      smaller < nonce → (state.phase other).isFinished = true := by
    intro other smaller otherIssued less
    have everyone : ∀ other smaller, (other, smaller) ∈ state.nonces.issued →
        nonce ≤ smaller ∨ (state.phase other).isFinished = true := by
      simpa [inTurn, holds] using turn
    exact (everyone other smaller otherIssued).resolve_left (UInt64.not_le.mpr less)
  have above : ∀ posted ∈ noncesOf state.line, posted < nonce := by
    intro posted member
    by_contra notBelow
    have done := invariant.finished posted member call nonce issued (UInt64.not_lt.mp notBelow)
    exact absurd done (by simp [unfinished])
  have finishes : Invariant { state.setPhase call .finished with impl } :=
    invariant.advance unfinished (by simp [Phase.nonce?]) impl
  refine finishes.postSigned issued (by simp [State.setPhase, Phase.isFinished]) ?_ above message
  intro other smaller otherIssued less
  by_cases same : other = call
  · simp [same, State.setPhase, Phase.isFinished]
  · exact (congrArg Phase.isFinished (setPhase_of_ne state .finished same)).trans
      (smallerFinished other smaller otherIssued less)

theorem step_invariant {action : Action} (invariant : Invariant state)
    (turn : inTurn state action = true)
    (taken : step primitives dump config arguments state action = some next) :
    Invariant next := by
  cases action with
  | nextNonce action =>
      obtain ⟨nonces, stepped, rfl⟩ := Option.map_eq_some_iff.mp taken
      refine invariant.nextNonce ?_ stepped
      rintro call now rfl
      simpa [inTurn] using turn
  | prepare call =>
      simp only [step] at taken
      split at taken
      · next nonce preparing returned =>
          have issued := (invariant.nonces.returned call nonce).mp returned
          have unfinished : (state.phase call).isFinished = false :=
            congrArg Phase.isFinished preparing
          split at taken
          · obtain rfl := Option.some.inj taken
            exact invariant.advance unfinished (by simp [Phase.nonce?]) state.impl
          · obtain rfl := Option.some.inj taken
            refine invariant.advance unfinished ?_ state.impl
            intro held same
            exact Option.some.inj same ▸ issued
      · cases taken
  | takeId call =>
      simp only [step] at taken
      split at taken
      · next nonce payload prepared =>
          obtain rfl := Option.some.inj taken
          refine invariant.advance (congrArg Phase.isFinished prepared) ?_ _
          intro held same
          exact invariant.held call held ((congrArg Phase.nonce? prepared).trans same)
      · cases taken
  | record call =>
      simp only [step] at taken
      split at taken
      · next nonce payload postRequestId tookId =>
          obtain rfl := Option.some.inj taken
          refine invariant.advance (congrArg Phase.isFinished tookId) ?_ _
          intro held same
          exact invariant.held call held ((congrArg Phase.nonce? tookId).trans same)
      · cases taken
  | post call =>
      simp only [step] at taken
      split at taken
      · next nonce payload postRequestId recorded =>
          split at taken
          · obtain rfl := Option.some.inj taken
            exact invariant.advance (congrArg Phase.isFinished recorded) (by simp [Phase.nonce?])
              state.impl
          · next message dumped =>
              obtain rfl := Option.some.inj taken
              exact invariant.post recorded turn _ message
      · cases taken
  | postOther message =>
      obtain rfl := Option.some.inj taken
      exact invariant.postOther message
  | run =>
      simp only [step] at taken
      split at taken
      · cases taken
      · next function rest posted =>
          obtain rfl := Option.some.inj taken
          exact invariant.run posted

theorem reachable_invariant
    (reached : Reachable (guarded inTurn (step primitives dump config arguments)) initial state) :
    Invariant state := by
  refine reached.invariant initial_invariant ?_
  intro before action after invariant taken
  obtain ⟨turn, stepped⟩ := guarded_eq_some.mp taken
  exact step_invariant invariant turn stepped

end Runs

/-- Where every call posts in its turn, the signed messages enter the queue with increasing
nonces. -/
theorem nonces_enter_in_order (primitives : Primitives) (dump : Json → Result Bytes)
    (config : ApiConfig) (arguments : CallId → Arguments) (state : State)
    (reached : Reachable (guarded inTurn (step primitives dump config arguments)) initial state) :
    (noncesOf state.entered).Pairwise (· < ·) := by
  have increasing := (reachable_invariant reached).increasing
  rw [noncesOf, State.line, List.filterMap_append, List.pairwise_append] at increasing
  exact increasing.1

/-! ## Two overlapping calls -/

/-- `msgpack` of `\x7b"type": "noop"\x7d`. -/
def noopEncoded : Bytes := [0x81, 0xa4] ++ utf8 "type" ++ [0xa4] ++ utf8 "noop"

/-- The signature of a noop with nonce 1700000000000 ... -/
def firstNoop : Recording :=
  l1Recording noopEncoded (noopEncoded ++ bigEndian 1700000000000 ++ [0])
    (.ofNat 0xef5dcef9775ebb2c5a6553314e66a6a57bd7e9b2319a869a8b17f08fa48bdcaf)
    (.ofNat 0x943180f6ee83a1766f21330349aa05d747f4c75c7348b0d95670edff2f2288e9)
    (.ofNat 0x7ed74d02e0b55db498130e0462e3fa5856adf83d577a9157c8da3453fc03be6d)
    { r := .ofNat 0xa094d7afdcaffc2e2643f31df05a7594de12880e6558e17021d863c868a06972
      s := .ofNat 0x2ec74c7efddc03c04b04a660effe31f52ce3cddd2e0b80c68486ec772ca42ce2
      recid := 1 }

/-- ... and with the next nonce. -/
def secondNoop : Recording :=
  l1Recording noopEncoded (noopEncoded ++ bigEndian 1700000000001 ++ [0])
    (.ofNat 0x113fc6d7482dacb5737e90d9f56ec2d7d5a7cd23a734fd1f9e89002c04f2e7e1)
    (.ofNat 0x03adad135a5bf4bf2a72900bba238de7387f3f44aa654f2e518e218091b3b6e2)
    (.ofNat 0xbf5e3bdcfe4595d33bb1bf7c5f6ffc023f548174ed2325a0004d4a53aa2619a5)
    { r := .ofNat 0x9bf1430acd64928cf2bc983f41af371511152639f5bcf9ee52e76f8eaecdbc70
      s := .ofNat 0x111aa57340db3fff0caa616366d473c661aebe830ef34d6e3297a2afe23fc653
      recid := 0 }

def noopPrimitives : Primitives where
  sha3Keccak256 := fun data =>
    ((firstNoop.hashes ++ secondNoop.hashes).lookup data).getD (Digest.ofNat 0)
  toMsgpack := fun _ => noopEncoded
  contextCreated := true
  signRecoverable := fun digest key =>
    (firstNoop.primitives.signRecoverable digest key).or
      (secondNoop.primitives.signRecoverable digest key)

def noopText (id nonce r s v : String) : Bytes :=
  utf8 ("\x7b\"method\":\"post\",\"id\":" ++ id ++ ",\"request\":\x7b\"type\":\"action\"," ++
    "\"payload\":\x7b\"action\":\x7b\"type\":\"noop\"\x7d,\"nonce\":" ++ nonce ++
    ",\"signature\":\x7b\"r\":\"" ++ r ++ "\",\"s\":\"" ++ s ++ "\",\"v\":" ++ v ++ "\x7d\x7d\x7d\x7d")

/-- The texts of the two messages, by their ids. -/
def noopDump (json : Json) : Result Bytes :=
  match json.member? "id" with
  | some (.integer 0) => .ok (noopText "0" "1700000000000"
      "0xa094d7afdcaffc2e2643f31df05a7594de12880e6558e17021d863c868a06972"
      "0x2ec74c7efddc03c04b04a660effe31f52ce3cddd2e0b80c68486ec772ca42ce2" "28")
  | _ => .ok (noopText "1" "1700000000001"
      "0x9bf1430acd64928cf2bc983f41af371511152639f5bcf9ee52e76f8eaecdbc70"
      "0x111aa57340db3fff0caa616366d473c661aebe830ef34d6e3297a2afe23fc653" "27")

def noopArguments (_ : CallId) : Arguments where
  type := .noop
  body := noop
  vaultAddress := none
  expiresAfter := none
  correlationId := none

/-- Two calls in the same millisecond, up to where both are about to post. -/
def bothRecorded : List Action :=
  [.nextNonce (.readClock 0 1700000000000), .nextNonce (.readClock 1 1700000000000),
    .nextNonce (.load 0 0), .nextNonce (.exchangeSucceeds 0),
    .nextNonce (.load 1 1700000000000), .nextNonce (.exchangeSucceeds 1),
    .prepare 0, .prepare 1, .takeId 0, .takeId 1, .record 0, .record 1]

/-- The steps of the counterexample and of the witness. -/
def noopStep : StepFunction State Action := step noopPrimitives noopDump testConfig noopArguments

theorem nonces_enter_in_order_overlapping :
    ∃ state, Reachable (guarded inTurn noopStep) initial state ∧
      noncesOf state.entered = [1700000000000, 1700000000001] ∧
      (noncesOf state.entered).Pairwise (· < ·) := by
  have executed : (execute (guarded inTurn noopStep) initial
      (bothRecorded ++ [.post 0, .post 1, .run, .run])).map (fun state => noncesOf state.entered) =
        some [1700000000000, 1700000000001] := by decide +kernel
  obtain ⟨state, ran, entered⟩ := Option.map_eq_some_iff.mp executed
  have reached : Reachable (guarded inTurn noopStep) initial state :=
    ⟨_, execute_eq_some.mp ran⟩
  exact ⟨state, reached, entered, nonces_enter_in_order noopPrimitives noopDump testConfig
    noopArguments state reached⟩

/-- The second call posts before the first, and its message enters first. -/
theorem second_call_overtakes :
    ∃ state, Reachable noopStep initial state ∧
      noncesOf state.entered = [1700000000001, 1700000000000] ∧
      ¬ (noncesOf state.entered).Pairwise (· < ·) := by
  have executed : (execute noopStep initial (bothRecorded ++ [.post 1, .post 0, .run, .run])).map
      (fun state => noncesOf state.entered) = some [1700000000001, 1700000000000] := by
    decide +kernel
  obtain ⟨state, ran, entered⟩ := Option.map_eq_some_iff.mp executed
  refine ⟨state, ⟨_, execute_eq_some.mp ran⟩, entered, ?_⟩
  rw [entered]
  decide

end HyperliquidSdk.Websocket.NonceOrder
