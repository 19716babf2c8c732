import HyperliquidSdk.Rest.ShapedParsers

/-!
# The shapes of the documents

The parsers whose responses are dispatched, each with the shape of its document. A parser
returns exactly if the texts of the shape are readable.
-/

set_option autoImplicit false

namespace HyperliquidSdk.Rest.Wire

open Foundation Foundation.OnDemand

variable {document : Bytes → Except Error Value} {message : Bytes}

/-! ## Market documents -/

theorem parseMetaAndAssetCtxs_returnsOn :
    ReturnsOn document message metaAndAssetCtxs (parseMetaAndAssetCtxs document message) :=
  .parseDocument fun doc => .pair doc (.pure _)
    (fun metaValue => .objectThen metaValue
      (.alone (.array (.objects parseAssetMeta_follows fun _ => .modify _))) fun _ => .pure _)
    fun metaValue ctxs _ => .havingThen metaValue fun _ =>
      .bind (.within (.alone (.array
        (.objects parseAssetMeta_follows fun _ => .modify _)))) fun _ =>
        .having ctxs (.forM_zipIdx fun entry _ => .having entry fun _ => .skip .state fun _ =>
          .last (.within (parsePerpAssetCtx_follows _)) fun _ => .modify _)

theorem parseAllPerpMetas_returnsOn :
    ReturnsOn document message (list (object perpDexMeta)) (parseAllPerpMetas document message) :=
  .parseDocument fun doc => .having doc (.objects parsePerpDexMeta_follows fun _ => .modify _)

theorem parsePredictedFundings_returnsOn :
    ReturnsOn document message predictedFundings (parsePredictedFundings document message) :=
  .parseDocument fun doc => .having doc (.forM fun entry =>
    .last (.parsePair (fun venues => .having venues
      (.filterMapM parsePredictedFundingVenue_follows)) entry)
      (.onOption (.pure _) fun _ => .modify _))

theorem parsePerpDexLimits_returnsOn :
    ReturnsOn document message (nullOr (object perpDexLimits))
      (parsePerpDexLimits document message) :=
  .parseDocument fun doc => .unlessNull doc (.pure _) (.object doc
    (.skip (.modify _) fun _ => .cons (.parseNumber _) fun _ => .skip (.modify _) fun _ =>
      .cons (.parseNumber _) fun _ => .skip (.modify _) fun _ => .cons (.parseNumber _) fun _ =>
        .skip (.modify _) fun _ => .alone (.array (.forM fun entry =>
          .last (.parsePair .doubleOf entry) (.onOption (.pure _) fun _ => .modify _)))))

theorem parsePerpDexStatus_returnsOn :
    ReturnsOn document message (nullOr (object [numberField "totalNetDeposit"]))
      (parsePerpDexStatus document message) :=
  .parseDocument fun doc => .unlessNull doc (.pure _) (.object doc
    (.skip (.modify _) fun _ => .cons (.parseNumber _) fun _ => .modify _))

theorem parsePerpDeployAuctionStatus_returnsOn :
    ReturnsOn document message (object gasAuction)
      (parsePerpDeployAuctionStatus document message) :=
  .parseDocument fun doc => .object doc
    (.cons (.uint64 _) fun _ => .skip (.modify _) fun _ => .cons (.uint64 _) fun _ =>
      .skip (.modify _) fun _ => .cons (.parseNumber _) fun _ => .skip (.modify _) fun _ =>
        .cons (gasField_follows _) fun _ => .skip (.modify _) fun _ =>
          .cons (gasField_follows _) fun _ => .modify _)

theorem parseSpotPairDeployAuctionStatus_returnsOn :
    ReturnsOn document message (object gasAuction)
      (parseSpotPairDeployAuctionStatus document message) :=
  .parseDocument fun doc =>
    .objectThen doc parseSpotPairDeployAuctionStatusObj_follows fun _ => .write _

theorem parseSpotDeployState_returnsOn :
    ReturnsOn document message (object spotDeployState) (parseSpotDeployState document message) :=
  .parseDocument fun doc => .object doc
    (.consBoth (.array (.objects parseSpotDeployStateEntry_follows fun _ => .modify _)) fun _ =>
      .consBoth (.inObject parseSpotPairDeployAuctionStatusObj_follows) fun _ => .modify _)

theorem parseCandleSnapshot_returnsOn :
    ReturnsOn document message (list (object candle)) (parseCandleSnapshot document message) :=
  .parseDocument fun doc => .having doc (.objects parseCandle_follows fun _ => .modify _)

theorem parseAllMids_returnsOn :
    ReturnsOn document message (members fun _ => price) (parseAllMids document message) :=
  .parseDocument fun doc => .having doc (.forM fun member =>
    .last (.doubleOf member.2) fun _ => .modify _)

theorem parseSpotMetaAndAssetCtxs_returnsOn :
    ReturnsOn document message spotMetaAndAssetCtxs
      (parseSpotMetaAndAssetCtxs document message) := by
  have metaRead : Follows (ρ := SpotMetaAndAssetCtxsResponse) (do
      (← arrayField "tokens").forM fun entry => do
        let token ← Rest.within (← entry.getObject) parseSpotAssetMeta
        modifyThe SpotMetaAndAssetCtxsResponse fun response =>
          { response with «meta».tokens := response.«meta».tokens ++ [token] }
      (← arrayField "universe").forM fun entry => do
        let pair ← Rest.within (← entry.getObject) parseSpotUniversePair
        modifyThe SpotMetaAndAssetCtxsResponse fun response =>
          { response with «meta».«universe» := response.«meta».universe ++ [pair] })
      (readFields spotMeta) :=
    .consBoth (.array (.objects parseSpotAssetMeta_follows fun _ => .modify _)) fun _ =>
      .alone (.array (.objects parseSpotUniversePair_follows fun _ => .modify _))
  exact .parseDocument fun doc => .pair doc (.pure _)
    (fun metaValue => .objectThen metaValue metaRead fun _ => .pure _)
    fun metaValue ctxs _ => .havingThen metaValue fun _ => .bind (.within metaRead) fun _ =>
      .having ctxs (.forM_zipIdx fun entry _ => .having entry fun _ => .skip .state fun _ =>
        .last (.within (parseSpotAssetCtx_follows _)) fun _ => .modify _)

/-! ## Order documents -/

theorem parseUserFills_returnsOn :
    ReturnsOn document message (list (object fill)) (parseUserFills document message) :=
  .parseDocument fun doc => .having doc (.objects parseFillEntry_follows fun _ => .modify _)

theorem parseUserTwapSliceFills_returnsOn :
    ReturnsOn document message (list (object twapSliceFill))
      (parseUserTwapSliceFills document message) :=
  .parseDocument fun doc => .having doc (.objects parseTwapSliceFill_follows fun _ => .modify _)

theorem parseTwapHistory_returnsOn :
    ReturnsOn document message (list (logged (object twapHistoryEntry)))
      (parseTwapHistory document message) :=
  .parseDocument fun doc => .having doc (.forM fun entry =>
    .logged (.objectThen entry parseTwapHistoryEntry_follows fun _ => .modify _))

theorem parseOpenOrders_returnsOn :
    ReturnsOn document message (list (object openOrder)) (parseOpenOrders document message) :=
  .parseDocument fun doc => .having doc (.objects parseOpenOrderEntry_follows fun _ => .modify _)

theorem parseOrderStatus_returnsOn :
    ReturnsOn document message (object orderStatus) (parseOrderStatus document message) :=
  .parseDocument fun doc => .object doc
    (.cons (.text _) fun _ => .skip (.modify _) fun _ => .presentThen (.pure _) fun order =>
      .alone (.objectThen order parseOrderStatusOrder_follows fun _ => .modify _))

theorem parseFrontendOpenOrders_returnsOn :
    ReturnsOn document message (list (object frontendOrder))
      (parseFrontendOpenOrders document message) :=
  .parseDocument fun doc => .having doc
    (.objects parseFrontendOrderEntry_follows fun _ => .modify _)

theorem parseHistoricalOrders_returnsOn :
    ReturnsOn document message (list (object historicalOrder))
      (parseHistoricalOrders document message) :=
  .parseDocument fun doc => .having doc (.objects parseHistoricalOrder_follows fun _ => .modify _)

/-! ## Outcome documents -/

theorem parseOutcomeMeta_returnsOn :
    ReturnsOn document message (object [required "outcomes" (list (object outcomeSpec))])
      (parseOutcomeMeta document message) :=
  .parseDocument fun doc => .object doc (.alone (.array (.forM fun entry => .having entry fun _ =>
    .ofAlone (.tried parseOutcomeSpec_follows (fun error _ => .fails error)
      fun _ => .skip (.passes ()) fun _ => .modify _))))

/-- The outcome is written before its own error stops the parser. -/
theorem parseSettledOutcome_returnsOn :
    ReturnsOn document message (nullOr (object settledOutcome))
      (parseSettledOutcome document message) :=
  .parseDocument fun doc => .unlessNull doc (.pure _) (.object doc
    (.skip (.modify _) fun _ => .requiredThen fun _ => .tried parseOutcomeSpec_follows
      (fun error _ => .skip (.modify _) fun _ => .fails error)
      fun _ => .skip (.modify _) fun _ => .skip (.passes ()) fun _ => .cons (.double _) fun _ =>
        .skip (.modify _) fun _ => .cons (.text _) fun _ => .skip (.modify _) fun _ =>
          .whenThen (.pure _) fun _ => .alone
            (.last (.within parseSettledOutcomeQuestion_follows) fun _ => .modify _)))

/-! ## Account documents -/

theorem parseClearinghouseState_returnsOn :
    ReturnsOn document message (triedObject clearinghouseState)
      (parseClearinghouseState document message) :=
  .parseDocument fun doc => .having doc fun object =>
    .last (parseClearinghouseStateObj_follows object) fun _ => .write _

theorem parseSpotClearinghouseState_returnsOn :
    ReturnsOn document message (object spotClearinghouseState)
      (parseSpotClearinghouseState document message) :=
  .parseDocument fun doc =>
    .objectThen doc parseSpotClearinghouseStateObj_follows fun _ => .write _

theorem parseSubAccounts_returnsOn :
    ReturnsOn document message (nullOr (list (object subAccount)))
      (parseSubAccounts document message) :=
  .parseDocument fun doc => .unlessNull doc (.pure _)
    (.having doc (.objects parseSubAccount_follows fun _ => .modify _))

theorem parseActiveAssetData_returnsOn :
    ReturnsOn document message (object activeAssetData) (parseActiveAssetData document message) :=
  .parseDocument fun doc => .object doc
    (.cons (.text _) fun _ => .skip (.modify _) fun _ => .cons (.text _) fun _ =>
      .skip (.modify _) fun _ => .consBoth (.inObject
        (.cons (.text _) fun _ => .skip (.modify _) fun _ => .cons (.parseNumber _) fun _ =>
          .skip (.modify _) fun _ => .alone (.takenThen
            (.last (.unconverted _ _) fun _ => .modify _)
            fun text => .last (.toDouble text) fun _ => .modify _))) fun _ =>
        .consBoth (.array (parseSizes_follows _)) fun _ =>
          .consBoth (.array (parseSizes_follows _)) fun _ =>
            .cons (.parseNumber _) fun _ => .modify _)

theorem parseUserFees_returnsOn :
    ReturnsOn document message (object userFees) (parseUserFees document message) :=
  .parseDocument fun doc => .object doc
    (.consBoth (.array (.objects parseDailyUserVolume_follows fun _ => .modify _)) fun _ =>
      .consBoth (.inObject parseFeeSchedule_follows) fun _ => .cons (.parseNumber _) fun _ =>
        .skip (.modify _) fun _ => .cons (.parseNumber _) fun _ => .skip (.modify _) fun _ =>
          .cons (.parseNumber _) fun _ => .skip (.modify _) fun _ => .cons (.parseNumber _) fun _ =>
            .skip (.modify _) fun _ => .cons (.parseNumber _) fun _ => .skip (.modify _) fun _ =>
              .cons (.parseNumber _) fun _ => .skip (.modify _) fun _ =>
                .consBoth (.present (.ofType _)) fun _ => .skip (.modify _) fun _ =>
                  .consBoth (.present fun value => .object value parseStakingLink_follows) fun _ =>
                    .skip (.modify _) fun _ => .consBoth
                      (.present fun value => .object value parseActiveStakingDiscount_follows)
                      fun _ => .modify _)

theorem parseUserRateLimit_returnsOn :
    ReturnsOn document message (object userRateLimit) (parseUserRateLimit document message) :=
  .parseDocument fun doc => .object doc
    (.cons (.double _) fun _ => .skip (.modify _) fun _ => .cons (.int64 _) fun _ =>
      .skip (.modify _) fun _ => .cons (.int64 _) fun _ => .skip (.modify _) fun _ =>
        .cons (.int64 _) fun _ => .modify _)

theorem parsePortfolio_returnsOn :
    ReturnsOn document message portfolio (parsePortfolio document message) :=
  .parseDocument fun doc => .having doc fun _ =>
    .last (parsePortfolioArray_follows _) fun _ => .write _

theorem parseVaultDetails_returnsOn :
    ReturnsOn document message (object vaultDetails) (parseVaultDetails document message) := by
  refine .parseDocument fun doc => .object doc ?_
  refine .cons (.text _) fun _ => .skip (.modify _) fun _ => .cons (.text _) fun _ =>
    .skip (.modify _) fun _ => .cons (.text _) fun _ => .skip (.modify _) fun _ =>
      .cons (.text _) fun _ => .skip (.modify _) fun _ =>
        .consBoth (.requiredOf parsePortfolioArray_follows) fun _ =>
          .skip (.modify _) fun _ => .cons (.parseNumber _) fun _ => .skip (.modify _) fun _ =>
            .cons (.unconvertedPresent _) fun _ => .skip (.modify _) fun _ => ?_
  refine .cons (.parseNumber _) fun _ => .skip (.modify _) fun _ => .cons (.parseNumber _) fun _ =>
    .skip (.modify _) fun _ =>
      .consBoth (.array (.objects parseVaultFollower_follows fun _ => .modify _)) fun _ =>
        .cons (.parseNumber _) fun _ => .skip (.modify _) fun _ => .cons (.parseNumber _) fun _ =>
          .skip (.modify _) fun _ => .cons (.bool _) fun _ => .skip (.modify _) fun _ =>
            .presentThen ?deposits fun relationship => .havingThen relationship fun _ =>
              .bind (.within parseRelationship_follows) fun _ => ?deposits
  exact .cons (.bool _) fun _ => .skip (.modify _) fun _ => .cons (.bool _) fun _ => .modify _

theorem parseUserVaultEquities_returnsOn :
    ReturnsOn document message (list (object userVaultEquity))
      (parseUserVaultEquities document message) :=
  .parseDocument fun doc => .having doc (.objects parseUserVaultEquity_follows fun _ => .modify _)

theorem parseReferral_returnsOn :
    ReturnsOn document message (object referral) (parseReferral document message) :=
  .parseDocument fun doc => .object doc
    (.consBoth (.present fun value => .object value parseReferredBy_follows) fun _ =>
      .skip (.modify _) fun _ => .cons (.parseNumber _) fun _ => .skip (.modify _) fun _ =>
        .cons (.parseNumber _) fun _ => .skip (.modify _) fun _ => .cons (.parseNumber _) fun _ =>
          .skip (.modify _) fun _ => .cons (.parseNumber _) fun _ => .skip (.modify _) fun _ =>
            .consBoth (.optionalOf parseTokenToState (.pure none)
              parseTokenToState_follows) fun _ => .skip (.modify _) fun _ => .consBoth
                (.present fun value => .object value (.alone parseReferrerState_follows))
                fun _ => .modify _)

theorem parseBorrowLendReserveState_returnsOn :
    ReturnsOn document message (object borrowLendReserveState)
      (parseBorrowLendReserveState document message) :=
  .parseDocument fun doc =>
    .objectThen doc parseBorrowLendReserveStateFields_follows fun _ => .write _

theorem parseAllBorrowLendReserveStates_returnsOn :
    ReturnsOn document message (list (pair (ofType getInt) (object borrowLendReserveState)))
      (parseAllBorrowLendReserveStates document message) :=
  .parseDocument fun doc => .having doc (.forM fun entry =>
    .last (.parsePair (fun value => .object value parseBorrowLendReserveStateFields_follows) entry)
      (.onOption (.pure _) fun _ => .modify _))

theorem parseBorrowLendUserState_returnsOn :
    ReturnsOn document message (object borrowLendUserState)
      (parseBorrowLendUserState document message) :=
  .parseDocument fun doc => .object doc
    (.consBoth (.array (.forM fun entry =>
      .last (.parsePair (fun value => .object value parsePositionSides_follows) entry)
        (.onOption (.pure _) fun _ => .modify _))) fun _ =>
      .cons (.text _) fun _ => .skip (.modify _) fun _ => .consBoth (.present .toNumber) fun _ =>
        .modify _)

theorem parseDelegations_returnsOn :
    ReturnsOn document message (list (object delegation)) (parseDelegations document message) :=
  .parseDocument fun doc => .having doc (.objects parseDelegation_follows fun _ => .modify _)

theorem parseDelegatorSummary_returnsOn :
    ReturnsOn document message (object delegatorSummary) (parseDelegatorSummary document message) :=
  .parseDocument fun doc => .object doc
    (.cons (.parseNumber _) fun _ => .skip (.modify _) fun _ => .cons (.parseNumber _) fun _ =>
      .skip (.modify _) fun _ => .cons (.parseNumber _) fun _ => .skip (.modify _) fun _ =>
        .cons (.int _) fun _ => .modify _)

theorem parseDelegatorHistory_returnsOn :
    ReturnsOn document message (list (object delegatorHistoryEntry))
      (parseDelegatorHistory document message) :=
  .parseDocument fun doc => .having doc
    (.objects parseDelegatorHistoryEntry_follows fun _ => .modify _)

theorem parseDelegatorRewards_returnsOn :
    ReturnsOn document message (list (object delegatorReward))
      (parseDelegatorRewards document message) :=
  .parseDocument fun doc => .having doc (.objects parseDelegatorReward_follows fun _ => .modify _)

/-! ## Documents without numbers in texts -/

theorem parseMeta_returnsOn : ReturnsOn document message anything (parseMeta document message) :=
  .unconverted fun _ => .object (.bind (.arrayField _) fun _ => .objects
    (.bind (.stringField _) fun _ => .bind (.intField _) fun _ => .bind (.intField _) fun _ =>
      .pure _) fun _ => .modify _)

theorem parseSpotMeta_returnsOn :
    ReturnsOn document message anything (parseSpotMeta document message) :=
  .unconverted fun _ => .object (.bind (.arrayField _) fun _ => .objects
    (.bind (.stringField _) fun _ => .bind (.intField _) fun _ => .bind (.intField _) fun _ =>
      .bind (.intField _) fun _ => .bind (.stringField _) fun _ => .bind (.boolField _) fun _ =>
        .bind (.presentField _) fun _ => .bind (.optionMapM fun _ => .object
          (.bind (.stringField _) fun _ => .bind (.intField _) fun _ => .pure _)) fun _ =>
          .bind (.presentField _) fun _ => .bind (.optionMapM fun _ => .read _) fun _ => .pure _)
    fun _ => .modify _)

theorem parsePerpDexs_returnsOn :
    ReturnsOn document message anything (parsePerpDexs document message) :=
  .unconverted fun _ => .bind (.read _) fun _ => .objects
    (.bind (.stringField _) fun _ => .bind (.stringField _) fun _ => .bind (.stringField _) fun _ =>
      .bind (.presentField _) fun _ => .bind (.optionMapM fun _ => .read _) fun _ =>
        .bind (.presentField _) fun _ => .bind (.optionMapM fun _ => .read _) fun _ =>
          .bind (.arrayField _) fun _ =>
            .bind (.filterMapM fun _ => .parsePair fun _ => .read _) fun _ =>
              .bind (.arrayField _) fun _ =>
                .bind (.filterMapM fun _ => .parsePair fun _ => .read _) fun _ => .pure _)
    fun _ => .modify _

theorem parsePerpAnnotation_returnsOn :
    ReturnsOn document message anything <| parsePerpAnnotation document message :=
  .unconverted fun _ => .unlessNull (.pure _) (.object
    (.bind (.stringField _) fun _ => .bind (.modify _) fun _ => .bind (.stringField _) fun _ =>
      .modify _))

theorem parsePerpCategories_returnsOn :
    ReturnsOn document message anything (parsePerpCategories document message) :=
  .unconverted fun _ => .bind (.read _) fun _ => .forM fun _ =>
    .bind (.parsePair fun _ => .read _) (.onOption (.pure _) fun _ => .modify _)

theorem parsePerpConciseAnnotations_returnsOn :
    ReturnsOn document message anything (parsePerpConciseAnnotations document message) :=
  .unconverted fun _ => .bind (.read _) fun _ => .forM fun _ =>
    .bind (.parsePair fun _ => .object
      (.bind (.stringField _) fun _ => .bind (.optionalField _ _) fun _ =>
        .bind (.mapM fun _ => .read _) fun _ => .pure _)) (.onOption (.pure _) fun _ => .modify _)

theorem parsePerpsAtOpenInterestCap_returnsOn :
    ReturnsOn document message anything (parsePerpsAtOpenInterestCap document message) :=
  .map _ (.unconverted fun _ => .bind (.read _) fun _ => .forM fun _ =>
    .bind (.read _) fun _ => .modify _)

theorem parseMaxBuilderFee_returnsOn :
    ReturnsOn document message anything (parseMaxBuilderFee document message) :=
  .unconverted fun _ => .bind (.read _) fun _ => .write _

theorem parseApprovedBuilders_returnsOn :
    ReturnsOn document message anything (parseApprovedBuilders document message) :=
  .unconverted fun _ => .bind (.read _) fun _ => .forM fun _ => .bind (.read _) fun _ => .modify _

theorem parseL2Book_returnsOn :
    ReturnsOn document message anything (parseL2Book document message) :=
  .unconverted fun _ => .object
    (.bind (.stringField _) fun _ => .bind (.modify _) fun _ => .bind (.uint64Field _) fun _ =>
      .bind (.modify _) fun _ => .bind (.arrayField _) fun _ => .forM fun _ =>
        .bind (.read _) fun _ => .objects
          (.bind (.stringField _) fun _ => .bind (.stringField _) fun _ =>
            .bind (.intField _) fun _ => .pure _) fun _ => .modify _)

theorem parseUserRole_returnsOn :
    ReturnsOn document message anything (parseUserRole document message) := by
  refine .unconverted fun _ => .object (.bind (.stringField _) fun role =>
    .bind (.modify _) fun _ => .bind (.optionalField _ _) (.onOption (.pure _) fun object =>
      .within object ?_))
  split_ifs
  · exact .bind (.optionalField _ _) fun _ => .modify _
  · exact .bind (.optionalField _ _) fun _ => .modify _
  · exact .pure _

theorem parseUserDexAbstractionState_returnsOn :
    ReturnsOn document message anything (parseUserDexAbstractionState document message) :=
  .unconverted fun _ => .unlessNull (.write _) (.bind (.read _) fun _ => .write _)

theorem parseUserAbstraction_returnsOn :
    ReturnsOn document message anything (parseUserAbstraction document message) :=
  .unconverted fun _ => .bind (.read _) fun _ => .write _

theorem parseExchangeStatus_returnsOn :
    ReturnsOn document message anything (parseExchangeStatus document message) := by
  have timed : ConvertsNothing (ρ := ExchangeStatusResponse) (do
      let time ← Rest.uint64Field "time"
      modifyThe ExchangeStatusResponse fun response => { response with time }) :=
    .bind (.uint64Field _) fun _ => .modify _
  exact .unconverted fun _ => .object (.bind (.presentField _) (.onOption timed fun _ =>
    .bind (.read _) fun _ =>
      .bind (.forM fun _ => .bind (.read _) fun _ => .modify _) fun _ => timed))

end HyperliquidSdk.Rest.Wire
