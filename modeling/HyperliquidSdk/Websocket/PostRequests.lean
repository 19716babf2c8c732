import HyperliquidSdk.Signing.Signing

/-!
# Post requests

The part of `WebsocketApi::Impl` that sends requests: the counter, the map of pending
requests and the messages handed to the runner.
-/

set_option autoImplicit false

namespace HyperliquidSdk.Websocket

open Foundation Signing

structure PostRequestInfo where
  type : RestEndpointType
  correlationId : Option UInt64
  deriving DecidableEq, Repr

/-- `postRequestInfo`: the entry of each id that has one. -/
abbrev PendingRequests := UInt64 → Option PostRequestInfo

structure Impl where
  postRequestCounter : Int32
  postRequestInfo : PendingRequests
  sent : List Bytes

/-- The key that an `int` id is converted to. -/
def postRequestKey (postRequestId : Int32) : UInt64 := postRequestId.toInt64.toUInt64

namespace Impl

/-- `postRequestCounter.fetch_add(1)`, which wraps. -/
def fetchAdd (impl : Impl) : Int32 × Impl :=
  (impl.postRequestCounter,
    { impl with postRequestCounter := impl.postRequestCounter + 1 })

def record (impl : Impl) (postRequestId : Int32) (info : PostRequestInfo) : Impl :=
  { impl with
    postRequestInfo := Function.update impl.postRequestInfo (postRequestKey postRequestId) info }

/-- `ws.send`: the message is posted to the runner. -/
def send (impl : Impl) (message : Bytes) : Impl := { impl with sent := impl.sent ++ [message] }

end Impl

def payloadType (type : RestEndpointType) : String :=
  if type.isAuthenticated then "action" else "info"

def wrapped (type : RestEndpointType) (postRequestId : Int32) (payload : Json) : Json :=
  .object [("method", .text "post"), ("id", .integer postRequestId.toInt64),
    ("request", .object [("type", .text (payloadType type)), ("payload", payload)])]

/-- `signAndSend`: how it exits, and the state it leaves. -/
def signAndSend (primitives : Primitives) (dump : Json → Result Bytes) (config : ApiConfig)
    (type : RestEndpointType) (body : Json) (vaultAddress : Option Bytes)
    (expiresAfter correlationId : Option UInt64) (nonce : UInt64) (impl : Impl) :
    Result Unit × Impl :=
  match prepareBodyForType primitives config type body vaultAddress expiresAfter nonce with
  | .error exception => (.error exception, impl)
  | .ok payload =>
      let (postRequestId, impl) := impl.fetchAdd
      let impl := impl.record postRequestId ⟨type, correlationId⟩
      match dump (wrapped type postRequestId payload) with
      | .error exception => (.error exception, impl)
      | .ok message => (.ok (), impl.send message)

end HyperliquidSdk.Websocket
