import HyperliquidSdk.Foundation.TransitionSystem
import HyperliquidSdk.Signing.Signing
import Mathlib.Logic.Function.Basic

/-!
# The REST client

`HttpSession.cpp` and the sending of `RestApi.cpp` as a transition system. Any thread may
make a call; one thread runs the handlers of all sessions, each to its end. What the listener
does in a callback is up to it, so a callback of the listener lasts until it returns, and
calls of its own may come from it.
-/

set_option autoImplicit false

namespace HyperliquidSdk.Rest.RestApi

open Foundation Signing

/-- The text of `error_code::message()`; a handler sees `none` on success. -/
abbrev ErrorCode := Bytes

abbrev CallId := Nat

structure Endpoint where
  host : String
  port : String
  path : String
  deriving DecidableEq, Repr

def toInfoEndpoint : Environment → Endpoint
  | .mainnet => ⟨"api.hyperliquid.xyz", "443", "/info"⟩
  | .testnet => ⟨"api.hyperliquid-testnet.xyz", "443", "/info"⟩

def toPath (type : RestEndpointType) : String :=
  if type.isAuthenticated then "/exchange" else "/info"

structure HttpRequest where
  method : String
  target : String
  version : Nat
  host : String
  contentType : String
  userAgent : String
  contentLength : Nat
  body : Bytes
  deriving DecidableEq, Repr

structure HttpResponse where
  resultInt : Nat
  body : Bytes
  deriving DecidableEq, Repr

inductive RestApiException where
  | restApiTransportError (what : Bytes)
  | restApiRateLimitError (what : Bytes)
  deriving DecidableEq, Repr

/-- What `onComplete_` does: a callback of the listener, or the promise of a synchronous
call is set. -/
inductive Notification where
  | onError (type : RestEndpointType) (message : Bytes)
  | onRateLimitExceeded (type : RestEndpointType) (responseBody : Bytes)
  | onMessage (responseBody : Bytes) (type : RestEndpointType)
  | setException (exception : RestApiException)
  | setValue (responseBody : Bytes)
  deriving DecidableEq, Repr

inductive Mode where
  | async
  | sync
  deriving DecidableEq, Repr

/-- The operation that a session waits for. -/
inductive Phase where
  | resolving
  | connecting
  | sslHandshaking
  | writing
  | reading
  | shuttingDown
  | finished
  deriving DecidableEq, Repr

/-- `sent` and `notifications` are what has been written to the stream and completed. -/
structure HttpSession where
  mode : Mode
  type : RestEndpointType
  endpoint : Endpoint
  req : HttpRequest
  phase : Phase
  sent : List HttpRequest
  notifications : List Notification
  deriving DecidableEq, Repr

/-- The result of `SSL_set_tlsext_host_name`; a failure takes the error of the queue of
OpenSSL, which need not hold one. -/
inductive HostName where
  | set
  | failed (ec : Option ErrorCode)
  deriving DecidableEq, Repr

inductive Completion where
  | resolve (ec : Option ErrorCode) (hostName : HostName)
  | connect (ec : Option ErrorCode)
  | sslHandshake (ec : Option ErrorCode)
  | write (ec : Option ErrorCode)
  | read (ec : Option ErrorCode) (res : HttpResponse)
  | shutdown (ec : Option ErrorCode)
  deriving DecidableEq, Repr

/-- The lambda of `signAndSend`. -/
def listenerOnComplete (type : RestEndpointType) (responseBody : Bytes) (statusCode : Nat)
    (ec : Option ErrorCode) : Notification :=
  match ec with
  | some message => .onError type message
  | none =>
      if statusCode = 429 then .onRateLimitExceeded type responseBody
      else .onMessage responseBody type

/-- The lambda of `signAndSendSync`. -/
def promiseOnComplete (responseBody : Bytes) (statusCode : Nat) (ec : Option ErrorCode) :
    Notification :=
  match ec with
  | some message => .setException (.restApiTransportError (utf8 "RestApi: " ++ message))
  | none =>
      if statusCode = 429 then
        .setException (.restApiRateLimitError
          (utf8 "RestApi: HTTP 429 rate limited: " ++ responseBody))
      else .setValue responseBody

namespace HttpSession

def onComplete (session : HttpSession) (responseBody : Bytes) (statusCode : Nat)
    (ec : Option ErrorCode) : Notification :=
  match session.mode with
  | .async => listenerOnComplete session.type responseBody statusCode ec
  | .sync => promiseOnComplete responseBody statusCode ec

/-- A handler that calls `onComplete_` and returns. -/
def complete (session : HttpSession) (responseBody : Bytes) (statusCode : Nat)
    (ec : Option ErrorCode) : HttpSession :=
  { session with
    phase := .finished
    notifications := session.notifications ++ [session.onComplete responseBody statusCode ec] }

def onResolve (ec : Option ErrorCode) (hostName : HostName) (session : HttpSession) :
    HttpSession :=
  match ec with
  | some _ => session.complete [] 0 ec
  | none =>
      match hostName with
      | .failed ec => session.complete [] 0 ec
      | .set => { session with phase := .connecting }

def onConnect (ec : Option ErrorCode) (session : HttpSession) : HttpSession :=
  match ec with
  | some _ => session.complete [] 0 ec
  | none => { session with phase := .sslHandshaking }

def onSslHandshake (ec : Option ErrorCode) (session : HttpSession) : HttpSession :=
  match ec with
  | some _ => session.complete [] 0 ec
  | none => { session with phase := .writing }

def onWrite (ec : Option ErrorCode) (session : HttpSession) : HttpSession :=
  match ec with
  | some _ => session.complete [] 0 ec
  | none => { session with phase := .reading, sent := session.sent ++ [session.req] }

def onRead (ec : Option ErrorCode) (res : HttpResponse) (session : HttpSession) : HttpSession :=
  match ec with
  | some _ => session.complete [] 0 ec
  | none => { session.complete res.body res.resultInt none with phase := .shuttingDown }

/-- An operation completes if it is the one that the session waits for. -/
def handle (session : HttpSession) (completion : Completion) : Option HttpSession :=
  match session.phase, completion with
  | .resolving, .resolve ec hostName => some (onResolve ec hostName session)
  | .connecting, .connect ec => some (onConnect ec session)
  | .sslHandshaking, .sslHandshake ec => some (onSslHandshake ec session)
  | .writing, .write ec => some (onWrite ec session)
  | .reading, .read ec res => some (onRead ec res session)
  | .shuttingDown, .shutdown _ => some { session with phase := .finished }
  | _, _ => none

def run (mode : Mode) (type : RestEndpointType) (endpoint : Endpoint) (body : Bytes) :
    HttpSession where
  mode := mode
  type := type
  endpoint := endpoint
  req :=
    { method := "POST"
      target := toPath type
      version := 11
      host := endpoint.host
      contentType := "application/json"
      userAgent := "hyperliquid-sdk-cpp/0.1"
      contentLength := body.length
      body }
  phase := .resolving
  sent := []
  notifications := []

end HttpSession

/-- The arguments of a call, with the nonce that it takes. -/
structure Arguments where
  mode : Mode
  type : RestEndpointType
  body : Json
  vaultAddress : Option Bytes
  expiresAfter : Option UInt64
  nonce : UInt64

/-- The thread of the `io_context`. It waits where a callback waits for the future of a
synchronous call. -/
inductive IoThread where
  | free
  | inCallback
  | waiting (call : CallId)
  deriving DecidableEq, Repr

structure State where
  sessions : CallId → Option HttpSession
  io : IoThread

def initial : State where
  sessions := fun _ => none
  io := .free

inductive Caller where
  | user
  | callback
  deriving DecidableEq, Repr

inductive Action where
  | call (caller : Caller) (id : CallId) (arguments : Arguments)
  | complete (id : CallId) (completion : Completion)
  | callbackReturns

def State.setSession (state : State) (id : CallId) (session : HttpSession) : State :=
  { state with sessions := Function.update state.sessions id (some session) }

def Caller.runsIn (caller : Caller) (io : IoThread) : Bool :=
  match caller with
  | .user => true
  | .callback => io = .inCallback

section Steps

variable (primitives : Primitives) (dump : Json → Result Bytes) (config : ApiConfig)

/-- `signAndSend` and `signAndSendSync` up to the start of their session. -/
def startSession (arguments : Arguments) : Result HttpSession := do
  let prepared ← prepareBodyForType primitives config arguments.type arguments.body
    arguments.vaultAddress arguments.expiresAfter arguments.nonce
  let serialized ← dump prepared
  .ok (.run arguments.mode arguments.type (toInfoEndpoint config.env) serialized)

def step : StepFunction State Action
  | state, .call caller id arguments =>
      if caller.runsIn state.io ∧ state.sessions id = none then
        match startSession primitives dump config arguments with
        | .error _ => some state
        | .ok session =>
            let started := state.setSession id session
            some (if caller = .callback ∧ arguments.mode = .sync then
              { started with io := .waiting id } else started)
      else none
  | state, .complete id completion =>
      match state.io, state.sessions id with
      | .free, some session =>
          (session.handle completion).map fun next =>
            let completed := state.setSession id next
            if session.mode = .async ∧ next.notifications ≠ session.notifications then
              { completed with io := .inCallback } else completed
      | _, _ => none
  | state, .callbackReturns =>
      if state.io = .inCallback then some { state with io := .free } else none

end Steps

end HyperliquidSdk.Rest.RestApi
