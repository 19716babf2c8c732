import HyperliquidSdk.Rest.ShapedDocuments
import HyperliquidSdk.Websocket.PostResponseDispatchProperties

/-!
# Exceptions that escape from a message

`onWsMessage` catches `simdjson_error` only. With a listener that does not throw, what
else can leave it is an exception of a conversion in the parser of an info response, and
whether there is one can be read off the fields that the data of such a response has.
-/

set_option autoImplicit false

namespace HyperliquidSdk.Websocket

open Foundation Foundation.OnDemand Foundation.Throwing Rest Rest.Wire Handler

/-- The info type and the data that a parser reads if the message answers a pending info
request. -/
def parsedData (simdjson : Simdjson) (postRequestInfo : PendingRequests) (message : Bytes) :
    Option (RestEndpointType × Bytes) :=
  match simdjson.postId message, simdjson.postPayload message with
  | .ok id, .ok payload =>
      match postRequestInfo id with
      | some info =>
          if info.type.isAuthenticated then none
          else (simdjson.infoData payload).toOption.map fun dataJson => (info.type, dataJson)
      | none => none
  | _, _ => none

/-- The numbers and the expiries that the data of a response has in its fields are readable. -/
def DataReadable (document : Bytes → Except Error Value) (type : RestEndpointType)
    (dataJson : Bytes) : Prop :=
  ∀ doc, document dataJson = .ok doc → AllReadable (wireShape type doc).texts

/-- What leaves the handler, if anything, is a `simdjson_error`. -/
def Contained {α : Type} (handler : Handler α) (handling : Handling) : Prop :=
  ∀ exception, (handler.run handling).1 ≠ .error (.exception exception)

/-! ## Info parsers -/

theorem infoParser_returnsOn {document : Bytes → Except Error Value} {type : RestEndpointType}
    {dataJson : Bytes} {parser : Conversions TypedResponse}
    (selected : infoParser document type dataJson = some parser) :
    ReturnsOn document dataJson (wireShape type) parser := by
  cases type with
  | spotMeta => exact Option.some.inj selected ▸ .map _ parseSpotMeta_returnsOn
  | «meta» => exact Option.some.inj selected ▸ .map _ parseMeta_returnsOn
  | outcomeMeta => exact Option.some.inj selected ▸ .map _ parseOutcomeMeta_returnsOn
  | perpDexs => exact Option.some.inj selected ▸ .map _ parsePerpDexs_returnsOn
  | perpAnnotation => exact Option.some.inj selected ▸ .map _ parsePerpAnnotation_returnsOn
  | perpCategories => exact Option.some.inj selected ▸ .map _ parsePerpCategories_returnsOn
  | perpConciseAnnotations =>
      exact Option.some.inj selected ▸ .map _ parsePerpConciseAnnotations_returnsOn
  | allPerpMetas => exact Option.some.inj selected ▸ .map _ parseAllPerpMetas_returnsOn
  | perpsAtOpenInterestCap =>
      exact Option.some.inj selected ▸ .map _ parsePerpsAtOpenInterestCap_returnsOn
  | predictedFundings => exact Option.some.inj selected ▸ .map _ parsePredictedFundings_returnsOn
  | metaAndAssetCtxs => exact Option.some.inj selected ▸ .map _ parseMetaAndAssetCtxs_returnsOn
  | spotMetaAndAssetCtxs =>
      exact Option.some.inj selected ▸ .map _ parseSpotMetaAndAssetCtxs_returnsOn
  | spotClearinghouseState =>
      exact Option.some.inj selected ▸ .map _ parseSpotClearinghouseState_returnsOn
  | frontendOpenOrders => exact Option.some.inj selected ▸ .map _ parseFrontendOpenOrders_returnsOn
  | historicalOrders => exact Option.some.inj selected ▸ .map _ parseHistoricalOrders_returnsOn
  | userTwapSliceFills => exact Option.some.inj selected ▸ .map _ parseUserTwapSliceFills_returnsOn
  | userTwapSliceFillsByTime =>
      exact Option.some.inj selected ▸ .map _ parseUserTwapSliceFills_returnsOn
  | twapHistory => exact Option.some.inj selected ▸ .map _ parseTwapHistory_returnsOn
  | activeAssetData => exact Option.some.inj selected ▸ .map _ parseActiveAssetData_returnsOn
  | subAccounts => exact Option.some.inj selected ▸ .map _ parseSubAccounts_returnsOn
  | userFees => exact Option.some.inj selected ▸ .map _ parseUserFees_returnsOn
  | maxBuilderFee => exact Option.some.inj selected ▸ .map _ parseMaxBuilderFee_returnsOn
  | approvedBuilders => exact Option.some.inj selected ▸ .map _ parseApprovedBuilders_returnsOn
  | l2Book => exact Option.some.inj selected ▸ .map _ parseL2Book_returnsOn
  | candleSnapshot => exact Option.some.inj selected ▸ .map _ parseCandleSnapshot_returnsOn
  | allMids => exact Option.some.inj selected ▸ .map _ parseAllMids_returnsOn
  | openOrders => exact Option.some.inj selected ▸ .map _ parseOpenOrders_returnsOn
  | orderStatus => exact Option.some.inj selected ▸ .map _ parseOrderStatus_returnsOn
  | userFills => exact Option.some.inj selected ▸ .map _ parseUserFills_returnsOn
  | userFillsByTime => exact Option.some.inj selected ▸ .map _ parseUserFills_returnsOn
  | clearinghouseState => exact Option.some.inj selected ▸ .map _ parseClearinghouseState_returnsOn
  | vaultDetails => exact Option.some.inj selected ▸ .map _ parseVaultDetails_returnsOn
  | userVaultEquities => exact Option.some.inj selected ▸ .map _ parseUserVaultEquities_returnsOn
  | portfolio => exact Option.some.inj selected ▸ .map _ parsePortfolio_returnsOn
  | referral => exact Option.some.inj selected ▸ .map _ parseReferral_returnsOn
  | userRole => exact Option.some.inj selected ▸ .map _ parseUserRole_returnsOn
  | userRateLimit => exact Option.some.inj selected ▸ .map _ parseUserRateLimit_returnsOn
  | perpDexLimits => exact Option.some.inj selected ▸ .map _ parsePerpDexLimits_returnsOn
  | perpDexStatus => exact Option.some.inj selected ▸ .map _ parsePerpDexStatus_returnsOn
  | perpDeployAuctionStatus =>
      exact Option.some.inj selected ▸ .map _ parsePerpDeployAuctionStatus_returnsOn
  | settledOutcome => exact Option.some.inj selected ▸ .map _ parseSettledOutcome_returnsOn
  | borrowLendUserState =>
      exact Option.some.inj selected ▸ .map _ parseBorrowLendUserState_returnsOn
  | borrowLendReserveState =>
      exact Option.some.inj selected ▸ .map _ parseBorrowLendReserveState_returnsOn
  | allBorrowLendReserveStates =>
      exact Option.some.inj selected ▸ .map _ parseAllBorrowLendReserveStates_returnsOn
  | spotDeployState => exact Option.some.inj selected ▸ .map _ parseSpotDeployState_returnsOn
  | spotPairDeployAuctionStatus =>
      exact Option.some.inj selected ▸ .map _ parseSpotPairDeployAuctionStatus_returnsOn
  | userDexAbstractionState =>
      exact Option.some.inj selected ▸ .map _ parseUserDexAbstractionState_returnsOn
  | userAbstraction => exact Option.some.inj selected ▸ .map _ parseUserAbstraction_returnsOn
  | delegations => exact Option.some.inj selected ▸ .map _ parseDelegations_returnsOn
  | delegatorSummary => exact Option.some.inj selected ▸ .map _ parseDelegatorSummary_returnsOn
  | delegatorHistory => exact Option.some.inj selected ▸ .map _ parseDelegatorHistory_returnsOn
  | delegatorRewards => exact Option.some.inj selected ▸ .map _ parseDelegatorRewards_returnsOn
  | exchangeStatus => exact Option.some.inj selected ▸ .map _ parseExchangeStatus_returnsOn
  | _ => cases selected

/-- Data that is not parsed is not converted. -/
theorem dataReadable_of_unparsed {document : Bytes → Except Error Value} {type : RestEndpointType}
    {dataJson : Bytes} (unparsed : infoParser document type dataJson = none) :
    DataReadable document type dataJson := by
  have nothing : wireShape type = anything := by
    cases type <;> first | rfl | cases unparsed
  intro doc _
  rw [nothing]
  exact allReadable_nil

section Contained

variable {simdjson : Simdjson} {listener : Listener} {message : Bytes} {handling : Handling}

theorem contained_of_exit {α : Type} {handler : Handler α} {exit : Except Thrown α}
    {after : Handling} (ran : handler.run handling = (exit, after))
    (caught : ∀ exception, exit ≠ .error (.exception exception)) : Contained handler handling := by
  intro exception
  rw [ran]
  exact caught exception

theorem exit_quiet (doesNotThrow : ∀ events event, listener events event = none)
    (events : List Event) (event : Event) : listener.exit events event = .ok () := by
  unfold Listener.exit
  rw [doesNotThrow]

theorem dispatchExchange_contained (doesNotThrow : ∀ events event, listener events event = none)
    (type : RestEndpointType) (payloadJson : Bytes) (correlationId : Option UInt64) :
    Contained (dispatchExchangeActionPostResponse simdjson listener type payloadJson
      correlationId) handling := by
  obtain ⟨response, returned⟩ := parseSimpleResponse_returns simdjson.document payloadJson
  intro exception
  unfold dispatchExchangeActionPostResponse
  rw [bind_run, converted_run, returned]
  simp [exit_quiet doesNotThrow]

theorem dispatchInfo_contained_iff (doesNotThrow : ∀ events event, listener events event = none)
    (type : RestEndpointType) (payloadJson : Bytes) (correlationId : Option UInt64) :
    Contained (dispatchInfoPostResponse simdjson listener type payloadJson correlationId)
      handling ↔
      ∀ dataJson, simdjson.infoData payloadJson = .ok dataJson →
        DataReadable simdjson.document type dataJson := by
  unfold dispatchInfoPostResponse
  cases extracted : simdjson.infoData payloadJson with
  | error error =>
      constructor
      · intro _ dataJson impossible
        cases impossible
      · intro _ exception impossible
        cases impossible
  | ok dataJson =>
      cases selected : infoParser simdjson.document type dataJson with
      | none =>
          constructor
          · intro _ other same
            obtain rfl := Except.ok.inj same
            exact dataReadable_of_unparsed selected
          · intro _ exception
            simp [selected]
      | some parser =>
          have returns := infoParser_returnsOn selected
          constructor
          · intro contained other same
            obtain rfl := Except.ok.inj same
            apply returns.mp
            cases outcome : parser.run convert with
            | ok response => exact ⟨response, rfl⟩
            | error exception =>
                apply absurd _ (contained exception)
                simp [selected, bind_run, converted_run, outcome]
          · intro readable exception
            obtain ⟨response, returned⟩ := returns.mpr (readable dataJson rfl)
            simp [selected, bind_run, converted_run, returned, exit_quiet doesNotThrow]

/-- A handler that no parser is part of. -/
theorem contained_iff_of_unparsed {handler : Handler Unit}
    {document : Bytes → Except Error Value} {parsed : Option (RestEndpointType × Bytes)}
    (contained : Contained handler handling) (unparsed : parsed = none) :
    Contained handler handling ↔
      ∀ type dataJson, parsed = some (type, dataJson) → DataReadable document type dataJson := by
  subst unparsed
  exact ⟨fun _ _ _ impossible => (by cases impossible), fun _ => contained⟩

theorem answered_contained_iff (doesNotThrow : ∀ events event, listener events event = none)
    {id : UInt64} {info : PostRequestInfo} {payload : Bytes}
    (isId : simdjson.postId message = .ok id)
    (pending : handling.postRequestInfo id = some info)
    (extracted : simdjson.postPayload message = .ok payload) :
    Contained (handlePostChannelMessage simdjson listener message) handling ↔
      Contained (typedDispatch simdjson listener info payload)
        ((handling.consume id).log
          (.onPostResponse payload info.type info.correlationId)) := by
  unfold Contained
  rw [handle_answered_run listener isId pending extracted, exit_quiet doesNotThrow]

/-- Exactly an unreadable number or expiry throws what is not caught. -/
theorem handle_contained_iff (doesNotThrow : ∀ events event, listener events event = none) :
    Contained (handlePostChannelMessage simdjson listener message) handling ↔
      ∀ type dataJson,
        parsedData simdjson handling.postRequestInfo message = some (type, dataJson) →
        DataReadable simdjson.document type dataJson := by
  cases isId : simdjson.postId message with
  | error error =>
      apply contained_iff_of_unparsed
      · exact contained_of_exit (handle_unread listener isId) fun _ impossible => by
          cases impossible
      · simp [parsedData, isId]
  | ok id =>
      cases pending : handling.postRequestInfo id with
      | none =>
          apply contained_iff_of_unparsed
          · refine contained_of_exit (handle_unknown listener isId pending) fun exception => ?_
            rw [exit_quiet doesNotThrow]
            exact fun impossible => by cases impossible
          · unfold parsedData
            rw [isId]
            cases simdjson.postPayload message <;> simp [pending]
      | some info =>
          cases extracted : simdjson.postPayload message with
          | error error =>
              apply contained_iff_of_unparsed
              · exact contained_of_exit (handle_withoutPayload listener isId pending extracted)
                  fun _ impossible => by cases impossible
              · simp [parsedData, isId, extracted]
          | ok payload =>
              rw [answered_contained_iff doesNotThrow isId pending extracted]
              unfold typedDispatch
              cases authenticated : info.type.isAuthenticated with
              | true =>
                  apply contained_iff_of_unparsed
                  · exact dispatchExchange_contained doesNotThrow info.type payload _
                  · simp [parsedData, isId, extracted, pending, authenticated]
              | false =>
                  simp only [Bool.false_eq_true, if_false]
                  rw [dispatchInfo_contained_iff doesNotThrow]
                  cases read : simdjson.infoData payload with
                  | error error =>
                      simp [parsedData, isId, extracted, pending, authenticated, read,
                        Except.toOption]
                  | ok dataJson =>
                      simp [parsedData, isId, extracted, pending, authenticated, read,
                        Except.toOption]

end Contained

/-! ## Messages -/

/-- `onWsMessage` returns unless an exception leaves `handlePostChannelMessage`. -/
theorem onWsMessage_returns_iff_contained {simdjson : Simdjson} {listener : Listener}
    {message : Bytes} {handling : Handling} (stopping : Bool)
    (doesNotThrow : ∀ events event, listener events event = none) :
    ((onWsMessage simdjson listener stopping message).run handling).1 = .ok () ↔
      stopping = true ∨ simdjson.channel message ≠ .ok (utf8 "post") ∨
        Contained (handlePostChannelMessage simdjson listener message) handling := by
  unfold onWsMessage
  cases stopping with
  | true => simp
  | false =>
      simp only [Bool.false_eq_true, if_false, bind_run, tryCatch_run]
      unfold handleChannel
      cases read : simdjson.channel message with
      | error error => simp [bind_run, exit_quiet doesNotThrow]
      | ok channel =>
          by_cases isPost : channel = utf8 "post"
          · subst isPost
            have notPong : utf8 "post" ≠ utf8 "pong" := by decide
            simp only [bind_run, value_ok_run, notPong, if_false, if_true]
            unfold Contained
            cases (handlePostChannelMessage simdjson listener message).run handling with
            | mk exit after =>
                cases exit with
                | ok done => simp
                | error thrown =>
                    cases thrown with
                    | simdjson error => simp [exit_quiet doesNotThrow]
                    | exception exception => simp only [throw_run]; simp
          · have notPost : simdjson.channel message ≠ .ok (utf8 "post") := by
              rw [read]
              exact fun same => isPost (Except.ok.inj same)
            rw [read] at notPost
            simp only [bind_run, value_ok_run, isPost, if_false]
            by_cases isPong : channel = utf8 "pong"
            · simp only [if_pos isPong, bind_run, record_run, pure_run]
              simp [notPost]
            · simp [isPong, notPost, exit_quiet doesNotThrow]

theorem onWsMessage_returns_iff (simdjson : Simdjson) (listener : Listener) (stopping : Bool)
    (message : Bytes) (handling : Handling)
    (doesNotThrow : ∀ events event, listener events event = none) :
    ((onWsMessage simdjson listener stopping message).run handling).1 = .ok () ↔
      stopping = true ∨ simdjson.channel message ≠ .ok (utf8 "post") ∨
        ∀ type dataJson,
          parsedData simdjson handling.postRequestInfo message = some (type, dataJson) →
          ∀ doc, simdjson.document dataJson = .ok doc →
            AllReadable (wireShape type doc).texts := by
  rw [onWsMessage_returns_iff_contained stopping doesNotThrow, handle_contained_iff doesNotThrow]
  exact Iff.rfl

/-- The response to an `allMids` request with one price. -/
def allMidsData (mid : String) : Value := .ofMembers [("BTC", .ofText mid)]

def allMidsPayload (mid : String) : Value :=
  .ofMembers [("type", .ofText "allMids"), ("data", allMidsData mid)]

def allMidsMessage (mid : String) : Value :=
  postMessage "5" [("type", .ofText "info"), ("payload", allMidsPayload mid)]

def allMidsSimdjson (mid : String) : Simdjson :=
  .ofDocuments (recorded [allMidsMessage mid, allMidsPayload mid, allMidsData mid])

theorem onWsMessage_returns_iff_allMids :
    ((onWsMessage (allMidsSimdjson "100.5") quiet false (allMidsMessage "100.5").toJsonString).run
      (awaiting .allMids)).1 = .ok () := by
  refine (onWsMessage_returns_iff (allMidsSimdjson "100.5") quiet false
    (allMidsMessage "100.5").toJsonString (awaiting .allMids) fun _ _ => rfl).mpr
    (.inr (.inr fun type dataJson parsed => ?_))
  have isData : parsedData (allMidsSimdjson "100.5") (awaiting .allMids).postRequestInfo
      (allMidsMessage "100.5").toJsonString =
      some (.allMids, (allMidsData "100.5").toJsonString) := by decide +kernel
  obtain ⟨rfl, rfl⟩ := Prod.mk.inj (Option.some.inj (isData.symm.trans parsed))
  have isDocument : (allMidsSimdjson "100.5").document (allMidsData "100.5").toJsonString =
      .ok (allMidsData "100.5") := rfl
  intro doc same
  obtain rfl := Except.ok.inj (isDocument.symm.trans same)
  have one : (wireShape .allMids (allMidsData "100.5")).texts = [.number (utf8 "100.5")] := by
    decide +kernel
  rw [one]
  intro text member
  obtain rfl := List.mem_singleton.mp member
  have converts : (stod (utf8 "100.5")).isOk = true := by decide +kernel
  cases converted : stod (utf8 "100.5") with
  | ok price => exact ⟨price, converted⟩
  | error error =>
      rw [converted] at converts
      cases converts

/-- A price that is not a number. -/
theorem onWsMessage_notANumber :
    ((onWsMessage (allMidsSimdjson "abc") quiet false (allMidsMessage "abc").toJsonString).run
      (awaiting .allMids)).1 ≠ .ok () := by
  decide +kernel

end HyperliquidSdk.Websocket
