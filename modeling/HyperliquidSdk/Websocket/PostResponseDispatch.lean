import HyperliquidSdk.Rest.AccountParsers
import HyperliquidSdk.Rest.MarketParsers
import HyperliquidSdk.Rest.OrderParsers
import HyperliquidSdk.Rest.OutcomeParsers
import HyperliquidSdk.Websocket.PostRequests

/-!
# Dispatch of post responses

`PostResponseDispatch.cpp` and `WebsocketApi::Impl::onWsMessage`. The listener may throw
from any callback, and what the callbacks were is part of the state, so that it is there
also after an exception.
-/

set_option autoImplicit false

namespace HyperliquidSdk.Websocket

open Foundation Foundation.OnDemand Rest

/-- What the JSON parser extracts from a text. All but `document` read as little of the
text as they can. -/
structure Simdjson where
  /-- `doc["channel"].get_string()` -/
  channel : Bytes → Except Error Bytes
  /-- `doc["data"].get_object()` and of that `["id"].get_uint64()` -/
  postId : Bytes → Except Error UInt64
  /-- `to_json_string(data["response"]["payload"])` -/
  postPayload : Bytes → Except Error Bytes
  /-- `to_json_string(doc["data"])` -/
  infoData : Bytes → Except Error Bytes
  /-- The document, if all of it is valid. -/
  document : Bytes → Except Error Value

namespace Simdjson

def member (key : String) (object : Object) : Except Error (Value × Object) :=
  match object.find (utf8 key) with
  | some found => .ok found
  | none => .error .noSuchField

/-- What is extracted from a text that is a valid document. -/
def ofDocuments (document : Bytes → Except Error Value) : Simdjson where
  channel text := do
    let (channel, _) ← member "channel" (← (← document text).getObject)
    channel.getString
  postId text := do
    let (data, _) ← member "data" (← (← document text).getObject)
    let (id, _) ← member "id" (← data.getObject)
    id.getUInt64
  postPayload text := do
    let (data, _) ← member "data" (← (← document text).getObject)
    let (_, afterId) ← member "id" (← data.getObject)
    let (response, _) ← member "response" afterId
    let (payload, _) ← member "payload" (← response.getObject)
    return payload.toJsonString
  infoData text := do
    let (data, _) ← member "data" (← (← document text).getObject)
    return data.toJsonString
  document := document

end Simdjson

/-- The argument of the `onPostResponse` overloads that take a parsed response. -/
inductive TypedResponse where
  | spotMeta (response : SpotMetaResponse)
  | «meta» (response : MetaResponse)
  | outcomeMeta (response : OutcomeMetaResponse)
  | perpDexs (response : PerpDexsResponse)
  | perpAnnotation (response : PerpAnnotationResponse)
  | perpCategories (response : PerpCategoriesResponse)
  | perpConciseAnnotations (response : PerpConciseAnnotationsResponse)
  | allPerpMetas (response : AllPerpMetasResponse)
  | perpsAtOpenInterestCap (response : PerpsAtOpenInterestCapResponse)
  | predictedFundings (response : PredictedFundingsResponse)
  | metaAndAssetCtxs (response : MetaAndAssetCtxsResponse)
  | spotMetaAndAssetCtxs (response : SpotMetaAndAssetCtxsResponse)
  | spotClearinghouseState (response : SpotClearinghouseStateResponse)
  | frontendOpenOrders (response : FrontendOpenOrdersResponse)
  | historicalOrders (response : HistoricalOrdersResponse)
  | userTwapSliceFills (response : UserTwapSliceFillsResponse)
  | twapHistory (response : TwapHistoryResponse)
  | activeAssetData (response : ActiveAssetData)
  | subAccounts (response : SubAccountsResponse)
  | userFees (response : UserFeesResponse)
  | maxBuilderFee (response : MaxBuilderFeeResponse)
  | approvedBuilders (response : ApprovedBuildersResponse)
  | l2Book (response : L2BookResponse)
  | candleSnapshot (response : CandleSnapshotResponse)
  | allMids (response : AllMidsResponse)
  | openOrders (response : OpenOrdersResponse)
  | orderStatus (response : OrderStatusResponse)
  | userFills (type : RestEndpointType) (response : UserFillsResponse)
  | clearinghouseState (response : ClearinghouseState)
  | vaultDetails (response : VaultDetailsResponse)
  | userVaultEquities (response : UserVaultEquitiesResponse)
  | portfolio (response : PortfolioResponse)
  | referral (response : ReferralResponse)
  | userRole (response : UserRoleResponse)
  | userRateLimit (response : UserRateLimitResponse)
  | perpDexLimits (response : PerpDexLimitsResponse)
  | perpDexStatus (response : PerpDexStatusResponse)
  | perpDeployAuctionStatus (response : PerpDeployAuctionStatusResponse)
  | settledOutcome (response : SettledOutcomeResponse)
  | borrowLendUserState (response : BorrowLendUserStateResponse)
  | borrowLendReserveState (response : BorrowLendReserveState)
  | allBorrowLendReserveStates (response : AllBorrowLendReserveStatesResponse)
  | spotDeployState (response : SpotDeployStateResponse)
  | spotPairDeployAuctionStatus (response : SpotPairDeployAuctionStatusResponse)
  | userDexAbstractionState (response : UserDexAbstractionResponse)
  | userAbstraction (response : UserAbstractionResponse)
  | delegations (response : DelegationsResponse)
  | delegatorSummary (response : DelegatorSummaryResponse)
  | delegatorHistory (response : DelegatorHistoryResponse)
  | delegatorRewards (response : DelegatorRewardsResponse)
  | exchangeStatus (response : ExchangeStatusResponse)
  | simple (type : RestEndpointType) (response : SimpleResponse)

inductive Event where
  | onMessage (message : Bytes)
  | onPostResponse (payload : Bytes) (type : RestEndpointType) (correlationId : Option UInt64)
  | onTypedPostResponse (response : TypedResponse) (correlationId : Option UInt64)
  | onPongReceived

inductive Thrown where
  | simdjson (error : Error)
  | exception (exception : Exception)
  deriving DecidableEq

/-- What a callback throws, if anything, after the callbacks before it. -/
abbrev Listener := List Event → Event → Option Thrown

structure Handling where
  postRequestInfo : PendingRequests
  events : List Event

abbrev Handler := ExceptT Thrown (StateM Handling)

namespace Handler

variable {α : Type}

/-- `.value()` of what the parser gives. -/
def value (extracted : Except Error α) : Handler α :=
  match extracted with
  | .ok value => return value
  | .error error => throw (.simdjson error)

def converted (program : Conversions α) : Handler α :=
  match program.run convert with
  | .ok value => return value
  | .error exception => throw (.exception exception)

def record (event : Event) : Handler Unit :=
  modify fun handling => { handling with events := handling.events ++ [event] }

def notify (listener : Listener) (event : Event) : Handler Unit := do
  let before := (← get).events
  record event
  match listener before event with
  | none => return
  | some thrown => throw thrown

/-- The locked section: the entry of the id is found and erased. -/
def takePending (id : UInt64) : Handler (Option PostRequestInfo) := do
  let info := (← get).postRequestInfo id
  modify fun handling =>
    { handling with postRequestInfo := Function.update handling.postRequestInfo id none }
  return info

end Handler

open Handler

/-- The parser of an info type and the overload for its response; other types are logged. -/
def infoParser (document : Bytes → Except Error Value) (type : RestEndpointType)
    (dataJson : Bytes) : Option (Conversions TypedResponse) :=
  match type with
  | .spotMeta => some (.spotMeta <$> parseSpotMeta document dataJson)
  | .«meta» => some (.«meta» <$> parseMeta document dataJson)
  | .outcomeMeta => some (.outcomeMeta <$> parseOutcomeMeta document dataJson)
  | .perpDexs => some (.perpDexs <$> parsePerpDexs document dataJson)
  | RestEndpointType.perpAnnotation =>
      some (TypedResponse.perpAnnotation <$> parsePerpAnnotation document dataJson)
  | .perpCategories => some (.perpCategories <$> parsePerpCategories document dataJson)
  | .perpConciseAnnotations =>
      some (.perpConciseAnnotations <$> parsePerpConciseAnnotations document dataJson)
  | .allPerpMetas => some (.allPerpMetas <$> parseAllPerpMetas document dataJson)
  | .perpsAtOpenInterestCap =>
      some (.perpsAtOpenInterestCap <$> parsePerpsAtOpenInterestCap document dataJson)
  | .predictedFundings => some (.predictedFundings <$> parsePredictedFundings document dataJson)
  | .metaAndAssetCtxs => some (.metaAndAssetCtxs <$> parseMetaAndAssetCtxs document dataJson)
  | .spotMetaAndAssetCtxs =>
      some (.spotMetaAndAssetCtxs <$> parseSpotMetaAndAssetCtxs document dataJson)
  | .spotClearinghouseState =>
      some (.spotClearinghouseState <$> parseSpotClearinghouseState document dataJson)
  | .frontendOpenOrders => some (.frontendOpenOrders <$> parseFrontendOpenOrders document dataJson)
  | .historicalOrders => some (.historicalOrders <$> parseHistoricalOrders document dataJson)
  | .userTwapSliceFills => some (.userTwapSliceFills <$> parseUserTwapSliceFills document dataJson)
  | .userTwapSliceFillsByTime =>
      some (.userTwapSliceFills <$> parseUserTwapSliceFillsByTime document dataJson)
  | .twapHistory => some (.twapHistory <$> parseTwapHistory document dataJson)
  | .activeAssetData => some (.activeAssetData <$> parseActiveAssetData document dataJson)
  | .subAccounts => some (.subAccounts <$> parseSubAccounts document dataJson)
  | .userFees => some (.userFees <$> parseUserFees document dataJson)
  | .maxBuilderFee => some (.maxBuilderFee <$> parseMaxBuilderFee document dataJson)
  | .approvedBuilders => some (.approvedBuilders <$> parseApprovedBuilders document dataJson)
  | .l2Book => some (.l2Book <$> parseL2Book document dataJson)
  | .candleSnapshot => some (.candleSnapshot <$> parseCandleSnapshot document dataJson)
  | .allMids => some (.allMids <$> parseAllMids document dataJson)
  | .openOrders => some (.openOrders <$> parseOpenOrders document dataJson)
  | .orderStatus => some (.orderStatus <$> parseOrderStatus document dataJson)
  | .userFills => some ((.userFills type) <$> parseUserFills document dataJson)
  | .userFillsByTime => some ((.userFills type) <$> parseUserFillsByTime document dataJson)
  | .clearinghouseState => some (.clearinghouseState <$> parseClearinghouseState document dataJson)
  | .vaultDetails => some (.vaultDetails <$> parseVaultDetails document dataJson)
  | .userVaultEquities => some (.userVaultEquities <$> parseUserVaultEquities document dataJson)
  | .portfolio => some (.portfolio <$> parsePortfolio document dataJson)
  | .referral => some (.referral <$> parseReferral document dataJson)
  | .userRole => some (.userRole <$> parseUserRole document dataJson)
  | .userRateLimit => some (.userRateLimit <$> parseUserRateLimit document dataJson)
  | .perpDexLimits => some (.perpDexLimits <$> parsePerpDexLimits document dataJson)
  | .perpDexStatus => some (.perpDexStatus <$> parsePerpDexStatus document dataJson)
  | .perpDeployAuctionStatus =>
      some (.perpDeployAuctionStatus <$> parsePerpDeployAuctionStatus document dataJson)
  | .settledOutcome => some (.settledOutcome <$> parseSettledOutcome document dataJson)
  | .borrowLendUserState =>
      some (.borrowLendUserState <$> parseBorrowLendUserState document dataJson)
  | .borrowLendReserveState =>
      some (.borrowLendReserveState <$> parseBorrowLendReserveState document dataJson)
  | .allBorrowLendReserveStates =>
      some (.allBorrowLendReserveStates <$> parseAllBorrowLendReserveStates document dataJson)
  | .spotDeployState => some (.spotDeployState <$> parseSpotDeployState document dataJson)
  | .spotPairDeployAuctionStatus =>
      some (.spotPairDeployAuctionStatus <$> parseSpotPairDeployAuctionStatus document dataJson)
  | .userDexAbstractionState =>
      some (.userDexAbstractionState <$> parseUserDexAbstractionState document dataJson)
  | .userAbstraction => some (.userAbstraction <$> parseUserAbstraction document dataJson)
  | .delegations => some (.delegations <$> parseDelegations document dataJson)
  | .delegatorSummary => some (.delegatorSummary <$> parseDelegatorSummary document dataJson)
  | .delegatorHistory => some (.delegatorHistory <$> parseDelegatorHistory document dataJson)
  | .delegatorRewards => some (.delegatorRewards <$> parseDelegatorRewards document dataJson)
  | .exchangeStatus => some (.exchangeStatus <$> parseExchangeStatus document dataJson)
  | _ => none

def dispatchInfoPostResponse (simdjson : Simdjson) (listener : Listener)
    (type : RestEndpointType) (payloadJson : Bytes) (correlationId : Option UInt64) :
    Handler Unit := do
  match simdjson.infoData payloadJson with
  | .error _ => return
  | .ok dataJson =>
      match infoParser simdjson.document type dataJson with
      | none => return
      | some parser =>
          let response ← converted parser
          notify listener (.onTypedPostResponse response correlationId)

def dispatchExchangeActionPostResponse (simdjson : Simdjson) (listener : Listener)
    (type : RestEndpointType) (payloadJson : Bytes) (correlationId : Option UInt64) :
    Handler Unit := do
  let response ← converted (parseSimpleResponse simdjson.document payloadJson)
  notify listener (.onTypedPostResponse (.simple type response) correlationId)

/-- The error of the payload, if it has one, is thrown only when the entry is erased. -/
def handlePostChannelMessage (simdjson : Simdjson) (listener : Listener) (rawMessage : Bytes) :
    Handler Unit := do
  let id ← value (simdjson.postId rawMessage)
  let payload := simdjson.postPayload rawMessage
  match ← takePending id with
  | none => notify listener (.onMessage rawMessage)
  | some info =>
      let payloadStr ← value payload
      notify listener (.onPostResponse payloadStr info.type info.correlationId)
      if info.type.isAuthenticated then
        dispatchExchangeActionPostResponse simdjson listener info.type payloadStr
          info.correlationId
      else dispatchInfoPostResponse simdjson listener info.type payloadStr info.correlationId

/-- The `try` block of `onWsMessage`: does the function return from it? -/
def handleChannel (simdjson : Simdjson) (listener : Listener) (message : Bytes) :
    Handler Bool := do
  let channel ← value (simdjson.channel message)
  if channel = utf8 "pong" then
    record .onPongReceived
    return true
  else if channel = utf8 "post" then
    handlePostChannelMessage simdjson listener message
    return true
  else return false

def onWsMessage (simdjson : Simdjson) (listener : Listener) (stopping : Bool) (message : Bytes) :
    Handler Unit := do
  if stopping then return
  else
    let handled ← tryCatch (handleChannel simdjson listener message) fun thrown =>
      match thrown with
      | .simdjson _ => return false
      | .exception exception => throw (.exception exception)
    if handled then return
    else notify listener (.onMessage message)

end HyperliquidSdk.Websocket
