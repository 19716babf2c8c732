import HyperliquidSdk.Rest.RestApiMessageParser
import HyperliquidSdk.Websocket.HostileResponses

/-!
# The two dispatches of an info response

`RestApiMessageParser::parse` and `handlePostChannelMessage` each switch over the
endpoint types. What the first gives to its listener the second is to give to the overload
of `onPostResponse` for it; six of the types that `WebsocketApi` sends have none.
-/

set_option autoImplicit false

namespace HyperliquidSdk.Websocket

open Foundation Foundation.OnDemand Foundation.Throwing Rest Handler

namespace WebsocketApi

/-- The info types that the methods of `WebsocketApi` send. -/
def infoTypes : List RestEndpointType :=
  [.spotMeta, .«meta», .outcomeMeta, .perpDexs, .settledOutcome, .perpsAtOpenInterestCap,
   .predictedFundings, RestEndpointType.perpAnnotation, .perpCategories, .perpConciseAnnotations,
   .allPerpMetas, .perpDexLimits, .perpDexStatus, .perpDeployAuctionStatus, .l2Book,
   .candleSnapshot, .allMids, .openOrders, .orderStatus, .userFills, .userFillsByTime,
   .clearinghouseState, .recentTrades, .userFunding, .userNonFundingLedgerUpdates,
   .fundingHistory, .userRateLimit, .metaAndAssetCtxs, .spotMetaAndAssetCtxs,
   .spotClearinghouseState, .spotDeployState, .spotPairDeployAuctionStatus,
   .userDexAbstractionState, .userAbstraction, .exchangeStatus, .frontendOpenOrders,
   .historicalOrders, .userTwapSliceFills, .userTwapSliceFillsByTime, .twapHistory,
   .activeAssetData, .subAccounts, .userFees, .maxBuilderFee, .approvedBuilders, .delegations,
   .delegatorSummary, .delegatorHistory, .delegatorRewards, .vaultDetails, .userVaultEquities,
   .portfolio, .referral, .userRole, .borrowLendUserState, .borrowLendReserveState,
   .allBorrowLendReserveStates, .userBorrowLendInterest, .liquidatable]

end WebsocketApi

/-- The `onPostResponse` overload for the argument of a callback of the REST listener. -/
def overload (type : RestEndpointType) : RestCallback → Option TypedResponse
  | .onSpotMeta response => some (.spotMeta response)
  | .onMeta response => some (.«meta» response)
  | .onOutcomeMeta response => some (.outcomeMeta response)
  | .onSettledOutcome response => some (.settledOutcome response)
  | .onPerpDexs response => some (.perpDexs response)
  | .onPerpDexLimits response => some (.perpDexLimits response)
  | .onPerpDexStatus response => some (.perpDexStatus response)
  | .onPerpDeployAuctionStatus response => some (.perpDeployAuctionStatus response)
  | .onPerpsAtOpenInterestCap response => some (.perpsAtOpenInterestCap response)
  | .onPredictedFundings response => some (.predictedFundings response)
  | RestCallback.onPerpAnnotation response => some (TypedResponse.perpAnnotation response)
  | .onPerpCategories response => some (.perpCategories response)
  | .onPerpConciseAnnotations response => some (.perpConciseAnnotations response)
  | .onAllPerpMetas response => some (.allPerpMetas response)
  | .onL2Book response => some (.l2Book response)
  | .onCandleSnapshot response => some (.candleSnapshot response)
  | .onAllMids response => some (.allMids response)
  | .onOpenOrders response => some (.openOrders response)
  | .onOrderStatus response => some (.orderStatus response)
  | .onUserFills response => some (.userFills type response)
  | .onUserFillsByTime response => some (.userFills type response)
  | .onClearinghouseState response => some (.clearinghouseState response)
  | .onUserRateLimit response => some (.userRateLimit response)
  | .onMetaAndAssetCtxs response => some (.metaAndAssetCtxs response)
  | .onSpotMetaAndAssetCtxs response => some (.spotMetaAndAssetCtxs response)
  | .onSpotClearinghouseState response => some (.spotClearinghouseState response)
  | .onSpotDeployState response => some (.spotDeployState response)
  | .onSpotPairDeployAuctionStatus response => some (.spotPairDeployAuctionStatus response)
  | .onFrontendOpenOrders response => some (.frontendOpenOrders response)
  | .onHistoricalOrders response => some (.historicalOrders response)
  | .onUserTwapSliceFills response => some (.userTwapSliceFills response)
  | .onUserTwapSliceFillsByTime response => some (.userTwapSliceFills response)
  | .onTwapHistory response => some (.twapHistory response)
  | .onActiveAssetData response => some (.activeAssetData response)
  | .onSubAccounts response => some (.subAccounts response)
  | .onUserFees response => some (.userFees response)
  | .onMaxBuilderFee response => some (.maxBuilderFee response)
  | .onApprovedBuilders response => some (.approvedBuilders response)
  | .onVaultDetails response => some (.vaultDetails response)
  | .onUserVaultEquities response => some (.userVaultEquities response)
  | .onPortfolio response => some (.portfolio response)
  | .onReferral response => some (.referral response)
  | .onUserRole response => some (.userRole response)
  | .onSimpleResponse response => some (.simple type response)
  | .onDelegations response => some (.delegations response)
  | .onDelegatorSummary response => some (.delegatorSummary response)
  | .onDelegatorHistory response => some (.delegatorHistory response)
  | .onDelegatorRewards response => some (.delegatorRewards response)
  | .onBorrowLendUserState response => some (.borrowLendUserState response)
  | .onBorrowLendReserveState response => some (.borrowLendReserveState response)
  | .onAllBorrowLendReserveStates response => some (.allBorrowLendReserveStates response)
  | .onUserDexAbstractionState response => some (.userDexAbstractionState response)
  | .onUserAbstraction response => some (.userAbstraction response)
  | .onExchangeStatus response => some (.exchangeStatus response)
  | .onUserFunding _ | .onUserNonFundingLedgerUpdates _ | .onFundingHistory _
  | .onRecentTrades _ | .onUserBorrowLendInterest _ | .onLiquidatable _ | .onPlaceOrder _
  | .onCancelOrder _ | .onModifyOrder _ | .onTwapOrder _ | .onTwapCancel _
  | .onCreateSubAccount _ | .onCreateVault _ => none

/-- The info types whose responses have no overload. -/
def withoutOverload : List RestEndpointType :=
  [.userFunding, .userNonFundingLedgerUpdates, .fundingHistory, .recentTrades,
   .userBorrowLendInterest, .liquidatable]

/-- The message answers the request of the id with this payload, and the text of the
payload's data reads as `data` does: `to_json_string` copies the text of a value. -/
structure Answers (simdjson : Simdjson) (message : Bytes) (id : UInt64) (payload data : Bytes) :
    Prop where
  postId : simdjson.postId message = .ok id
  postPayload : simdjson.postPayload message = .ok payload
  infoData : ∃ dataJson, simdjson.infoData payload = .ok dataJson ∧
    simdjson.document dataJson = simdjson.document data

/-- A value that the REST listener gets for the data is given to one overload, after the
raw callback. -/
def DeliveredAlike (simdjson : Simdjson) (listener : Listener) (handling : Handling)
    (message payload data : Bytes) (type : RestEndpointType) (correlationId : Option UInt64) :
    Prop :=
  ∀ callback delivered,
    (RestApiMessageParser.parse simdjson.document data type correlationId).run convert =
      .ok (some (callback, delivered)) →
    ∃ response, overload type callback = some response ∧
      ((handlePostChannelMessage simdjson listener message).run handling).2.events =
        handling.events ++ [.onPostResponse payload type correlationId,
          .onTypedPostResponse response delivered]

/-- The conversions of the REST parser all succeed. -/
def RestConverts (document : Bytes → Except Error Value) (type : RestEndpointType)
    (data : Bytes) : Prop :=
  ∀ parser, endpointCallback document type data = some parser →
    ∀ conversion ∈ parser.calls answerOf, Program.Accepted convert conversion

section

variable {document : Bytes → Except Error Value} {type : RestEndpointType}

/-! ## The two switches -/

theorem isAuthenticated_of_sent (sent : type ∈ WebsocketApi.infoTypes) :
    type.isAuthenticated = false := by
  have allInfo : ∀ sent ∈ WebsocketApi.infoTypes, sent.isAuthenticated = false := by decide
  exact allInfo type sent

theorem endpointCallback_of_sent (document : Bytes → Except Error Value)
    (sent : type ∈ WebsocketApi.infoTypes) (data : Bytes) :
    ∃ parser, endpointCallback document type data = some parser := by
  cases type <;> first | exact ⟨_, rfl⟩ | exact absurd sent (by decide)

/-- Both switches select the same parser. -/
theorem infoParser_run (document : Bytes → Except Error Value)
    (isInfo : type.isAuthenticated = false) (dispatched : type ∉ withoutOverload) (data : Bytes) :
    (infoParser document type data).map (fun typed => some <$> typed.run convert) =
      (endpointCallback document type data).map
        (fun parser => overload type <$> parser.run convert) := by
  cases type <;>
    first
    | exact absurd isInfo (by decide)
    | exact absurd (by decide) dispatched
    | simp only [infoParser, endpointCallback, Option.map_some, Option.map_none, Program.run_map,
        Functor.map_map, overload]

theorem infoParser_eq_none (missing : type ∈ withoutOverload) (data : Bytes) :
    infoParser document type data = none := by
  cases type <;> first | rfl | exact absurd missing (by decide)

/-- The parser of an info type reads the text as a document only. -/
theorem endpointCallback_eq (isInfo : type.isAuthenticated = false) (data : Bytes) :
    endpointCallback document type data =
      endpointCallback (fun _ => document data) type [] := by
  cases type <;> first | rfl | exact absurd isInfo (by decide)

theorem endpointCallback_congr {data dataJson : Bytes} (isInfo : type.isAuthenticated = false)
    (same : document dataJson = document data) :
    endpointCallback document type dataJson = endpointCallback document type data := by
  rw [endpointCallback_eq isInfo dataJson, endpointCallback_eq isInfo data, same]

theorem infoParser_of_rest {dataJson : Bytes} {parser : Conversions RestCallback}
    {callback : RestCallback} (isInfo : type.isAuthenticated = false)
    (dispatched : type ∉ withoutOverload)
    (selected : endpointCallback document type dataJson = some parser)
    (returned : parser.run convert = .ok callback) :
    ∃ typed response, infoParser document type dataJson = some typed ∧
      typed.run convert = .ok response ∧ overload type callback = some response := by
  have same := infoParser_run document isInfo dispatched dataJson
  rw [selected] at same
  cases typedParser : infoParser document type dataJson with
  | none =>
      rw [typedParser] at same
      cases same
  | some typed =>
      rw [typedParser, Option.map_some, Option.map_some, returned] at same
      have same := Option.some.inj same
      cases ran : typed.run convert with
      | error exception =>
          rw [ran] at same
          cases same
      | ok response =>
          rw [ran] at same
          exact ⟨typed, response, rfl, ran, (Except.ok.inj same).symm⟩

/-! ## What the REST listener gets -/

theorem parse_run {data : Bytes} {parser : Conversions RestCallback}
    (selected : endpointCallback document type data = some parser)
    (correlationId : Option UInt64) :
    (RestApiMessageParser.parse document data type correlationId).run convert =
      (fun callback => some (callback, correlationId)) <$> parser.run convert := by
  unfold RestApiMessageParser.parse
  rw [selected]
  exact Program.run_map _ parser

theorem delivered_iff {data : Bytes} {parser : Conversions RestCallback}
    (selected : endpointCallback document type data = some parser)
    {correlationId delivered : Option UInt64} {callback : RestCallback} :
    (RestApiMessageParser.parse document data type correlationId).run convert =
      .ok (some (callback, delivered)) ↔
      parser.run convert = .ok callback ∧ delivered = correlationId := by
  rw [parse_run selected]
  cases parser.run convert with
  | error exception =>
      constructor
      · intro impossible
        cases impossible
      · rintro ⟨impossible, -⟩
        cases impossible
  | ok returned =>
      constructor
      · intro same
        obtain ⟨rfl, rfl⟩ := Prod.mk.inj (Option.some.inj (Except.ok.inj same))
        exact ⟨rfl, rfl⟩
      · rintro ⟨same, rfl⟩
        rw [Except.ok.inj same]
        rfl

end

/-! ## What the websocket listener gets -/

section

variable {simdjson : Simdjson} {listener : Listener} {handling : Handling}
  {message payload data : Bytes} {id : UInt64} {type : RestEndpointType}
  {correlationId : Option UInt64}

/-- The events of the answer to an info request. -/
theorem answered_events (listener : Listener)
    (pending : handling.postRequestInfo id = some ⟨type, correlationId⟩)
    (answer : Answers simdjson message id payload data)
    (isInfo : type.isAuthenticated = false) :
    ((handlePostChannelMessage simdjson listener message).run handling).2.events =
      match listener handling.events (.onPostResponse payload type correlationId) with
      | some _ => handling.events ++ [.onPostResponse payload type correlationId]
      | none => ((dispatchInfoPostResponse simdjson listener type payload correlationId).run
          ((handling.consume id).log (.onPostResponse payload type correlationId))).2.events := by
  rw [handle_answered_run listener answer.postId pending answer.postPayload]
  unfold Listener.exit typedDispatch
  rw [isInfo]
  cases listener handling.events (.onPostResponse payload type correlationId) with
  | none => rfl
  | some thrown => rfl

theorem dispatchInfo_events {dataJson : Bytes} (read : simdjson.infoData payload = .ok dataJson)
    (before : Handling) :
    ((dispatchInfoPostResponse simdjson listener type payload correlationId).run before).2.events =
      match infoParser simdjson.document type dataJson with
      | none => before.events
      | some typed =>
          match typed.run convert with
          | .error _ => before.events
          | .ok response => before.events ++ [.onTypedPostResponse response correlationId] := by
  unfold dispatchInfoPostResponse
  simp only [read]
  cases selected : infoParser simdjson.document type dataJson with
  | none => simp only [pure_run]
  | some typed =>
      simp only [bind_run, converted_run]
      cases typed.run convert with
      | error exception => rfl
      | ok response => simp only [notify_run, Handling.log_events]

/-- The two dispatches agree unless a text that REST can read has no overload, or the raw
callback throws. -/
theorem deliveredAlike_iff (sent : type ∈ WebsocketApi.infoTypes)
    (pending : handling.postRequestInfo id = some ⟨type, correlationId⟩)
    (answer : Answers simdjson message id payload data) :
    DeliveredAlike simdjson listener handling message payload data type correlationId ↔
      (RestConverts simdjson.document type data →
        type ∉ withoutOverload ∧
          listener handling.events (.onPostResponse payload type correlationId) = none) := by
  have isInfo := isAuthenticated_of_sent sent
  obtain ⟨parser, selected⟩ := endpointCallback_of_sent simdjson.document sent data
  obtain ⟨dataJson, read, same⟩ := answer.infoData
  have events := answered_events listener pending answer isInfo
  rw [dispatchInfo_events read] at events
  have returns := Program.run_returns_iff answerOf_agrees parser
  constructor
  · intro alike converts
    obtain ⟨callback, returned⟩ := returns.mpr (converts parser selected)
    obtain ⟨response, -, made⟩ := alike callback correlationId
      ((delivered_iff selected).mpr ⟨returned, rfl⟩)
    rw [made] at events
    cases raw : listener handling.events (.onPostResponse payload type correlationId) with
    | some thrown =>
        rw [raw] at events
        simp at events
    | none =>
        refine ⟨fun missing => ?_, rfl⟩
        rw [raw, infoParser_eq_none missing] at events
        simp at events
  · intro condition callback delivered rest
    obtain ⟨returned, rfl⟩ := (delivered_iff selected).mp rest
    have converts : RestConverts simdjson.document type data := by
      intro other otherSelected
      obtain rfl := Option.some.inj (selected.symm.trans otherSelected)
      exact returns.mp ⟨callback, returned⟩
    obtain ⟨dispatched, raw⟩ := condition converts
    obtain ⟨typed, response, typedSelected, ran, isOverload⟩ := infoParser_of_rest isInfo dispatched
      ((endpointCallback_congr isInfo same).trans selected) returned
    refine ⟨response, isOverload, ?_⟩
    rw [events]
    simp only [raw, typedSelected, ran]
    simp

end

/-- The answer to an `allMids` request with one price. -/
theorem deliveredAlike_iff_allMids :
    DeliveredAlike (allMidsSimdjson "100.5") quiet (awaiting .allMids)
      (allMidsMessage "100.5").toJsonString (allMidsPayload "100.5").toJsonString
      (allMidsData "100.5").toJsonString .allMids (some 7) := by
  have isId : (allMidsSimdjson "100.5").postId (allMidsMessage "100.5").toJsonString = .ok 5 := by
    decide +kernel
  have extracted : (allMidsSimdjson "100.5").postPayload (allMidsMessage "100.5").toJsonString =
      .ok (allMidsPayload "100.5").toJsonString := by decide +kernel
  have read : (allMidsSimdjson "100.5").infoData (allMidsPayload "100.5").toJsonString =
      .ok (allMidsData "100.5").toJsonString := by decide +kernel
  exact (deliveredAlike_iff (by decide) rfl ⟨isId, extracted, _, read, rfl⟩).mpr fun _ =>
    ⟨by decide, rfl⟩

/-- A trade as `recentTrades` answers it. -/
def recentTradesData : Value :=
  let trade := Value.ofMembers [("coin", .ofText "BTC"), ("side", .ofText "B"),
    ("px", .ofText "100.5"), ("sz", .ofText "1"), ("time", .number (utf8 "1")),
    ("hash", .ofText "0x0"), ("tid", .number (utf8 "2")),
    ("users", .array (utf8 "[]") [])]
  .array (utf8 "[" ++ trade.toJsonString ++ utf8 "]") [trade]

def recentTradesPayload : Value :=
  .ofMembers [("type", .ofText "recentTrades"), ("data", recentTradesData)]

def recentTradesMessage : Value :=
  postMessage "5" [("type", .ofText "info"), ("payload", recentTradesPayload)]

def recentTradesSimdjson : Simdjson :=
  .ofDocuments (recorded [recentTradesMessage, recentTradesPayload, recentTradesData])

/-- REST delivers the trade, and the websocket listener gets the raw payload alone. -/
theorem recentTrades_notTyped :
    .recentTrades ∈ WebsocketApi.infoTypes ∧
      Answers recentTradesSimdjson recentTradesMessage.toJsonString 5
        recentTradesPayload.toJsonString recentTradesData.toJsonString ∧
      ((handlePostChannelMessage recentTradesSimdjson quiet recentTradesMessage.toJsonString).run
        (awaiting .recentTrades)).2.events.length = 1 ∧
      ¬ DeliveredAlike recentTradesSimdjson quiet (awaiting .recentTrades)
        recentTradesMessage.toJsonString recentTradesPayload.toJsonString
        recentTradesData.toJsonString .recentTrades (some 7) := by
  have isId : recentTradesSimdjson.postId recentTradesMessage.toJsonString = .ok 5 := by
    decide +kernel
  have extracted : recentTradesSimdjson.postPayload recentTradesMessage.toJsonString =
      .ok recentTradesPayload.toJsonString := by decide +kernel
  have read : recentTradesSimdjson.infoData recentTradesPayload.toJsonString =
      .ok recentTradesData.toJsonString := by decide +kernel
  refine ⟨by decide, ⟨isId, extracted, _, read, rfl⟩, by decide +kernel, fun alike => ?_⟩
  have isDelivered : ((RestApiMessageParser.parse recentTradesSimdjson.document
      recentTradesData.toJsonString .recentTrades (some 7)).run convert).toOption.isSome = true := by
    decide +kernel
  have selected : endpointCallback recentTradesSimdjson.document .recentTrades
      recentTradesData.toJsonString = some (.onRecentTrades <$> parseRecentTrades
        recentTradesSimdjson.document recentTradesData.toJsonString) := rfl
  cases returned : (parseRecentTrades recentTradesSimdjson.document
      recentTradesData.toJsonString).run convert with
  | error exception =>
      rw [parse_run selected, Program.run_map, returned] at isDelivered
      cases isDelivered
  | ok response =>
      have delivered : (RestApiMessageParser.parse recentTradesSimdjson.document
          recentTradesData.toJsonString .recentTrades (some 7)).run convert =
          .ok (some (.onRecentTrades response, some 7)) := by
        rw [parse_run selected, Program.run_map, returned]
        rfl
      obtain ⟨typed, impossible, -⟩ := alike _ _ delivered
      cases impossible

end HyperliquidSdk.Websocket
