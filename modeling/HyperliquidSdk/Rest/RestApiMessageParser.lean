import HyperliquidSdk.Rest.AccountParsers
import HyperliquidSdk.Rest.ExchangeParsers
import HyperliquidSdk.Rest.MarketParsers
import HyperliquidSdk.Rest.OutcomeParsers
import HyperliquidSdk.Types.RequestTypes

/-!
# The dispatch of REST responses

`RestApiMessageParser::parse`: the parser of an endpoint and the callback of
`RestEndpointListener` that takes what it returns.
-/

set_option autoImplicit false

namespace HyperliquidSdk.Rest

open Foundation Foundation.OnDemand

/-- The callbacks of `RestEndpointListener`, without the correlation id. -/
inductive RestCallback where
  | onSpotMeta (response : SpotMetaResponse)
  | onMeta (response : MetaResponse)
  | onOutcomeMeta (response : OutcomeMetaResponse)
  | onSettledOutcome (response : SettledOutcomeResponse)
  | onPerpDexs (response : PerpDexsResponse)
  | onPerpDexLimits (response : PerpDexLimitsResponse)
  | onPerpDexStatus (response : PerpDexStatusResponse)
  | onPerpDeployAuctionStatus (response : PerpDeployAuctionStatusResponse)
  | onUserFunding (response : UserFundingLedgerUpdateResponse)
  | onUserNonFundingLedgerUpdates (response : UserFundingLedgerUpdateResponse)
  | onFundingHistory (response : FundingHistoryResponse)
  | onPerpsAtOpenInterestCap (response : PerpsAtOpenInterestCapResponse)
  | onPredictedFundings (response : PredictedFundingsResponse)
  | onPerpAnnotation (response : PerpAnnotationResponse)
  | onPerpCategories (response : PerpCategoriesResponse)
  | onPerpConciseAnnotations (response : PerpConciseAnnotationsResponse)
  | onAllPerpMetas (response : AllPerpMetasResponse)
  | onL2Book (response : L2BookResponse)
  | onCandleSnapshot (response : CandleSnapshotResponse)
  | onRecentTrades (response : RecentTradesResponse)
  | onAllMids (response : AllMidsResponse)
  | onOpenOrders (response : OpenOrdersResponse)
  | onOrderStatus (response : OrderStatusResponse)
  | onUserFills (response : UserFillsResponse)
  | onUserFillsByTime (response : UserFillsResponse)
  | onClearinghouseState (response : ClearinghouseState)
  | onUserRateLimit (response : UserRateLimitResponse)
  | onMetaAndAssetCtxs (response : MetaAndAssetCtxsResponse)
  | onSpotMetaAndAssetCtxs (response : SpotMetaAndAssetCtxsResponse)
  | onSpotClearinghouseState (response : SpotClearinghouseStateResponse)
  | onSpotDeployState (response : SpotDeployStateResponse)
  | onSpotPairDeployAuctionStatus (response : SpotPairDeployAuctionStatusResponse)
  | onFrontendOpenOrders (response : FrontendOpenOrdersResponse)
  | onHistoricalOrders (response : HistoricalOrdersResponse)
  | onUserTwapSliceFills (response : UserTwapSliceFillsResponse)
  | onUserTwapSliceFillsByTime (response : UserTwapSliceFillsResponse)
  | onTwapHistory (response : TwapHistoryResponse)
  | onActiveAssetData (response : ActiveAssetData)
  | onSubAccounts (response : SubAccountsResponse)
  | onUserFees (response : UserFeesResponse)
  | onMaxBuilderFee (response : MaxBuilderFeeResponse)
  | onApprovedBuilders (response : ApprovedBuildersResponse)
  | onVaultDetails (response : VaultDetailsResponse)
  | onUserVaultEquities (response : UserVaultEquitiesResponse)
  | onPortfolio (response : PortfolioResponse)
  | onReferral (response : ReferralResponse)
  | onUserRole (response : UserRoleResponse)
  | onPlaceOrder (response : PlaceOrderResponse)
  | onCancelOrder (response : CancelOrderResponse)
  | onModifyOrder (response : ModifyOrderResponse)
  | onSimpleResponse (response : SimpleResponse)
  | onTwapOrder (response : TwapOrderResponse)
  | onTwapCancel (response : TwapCancelResponse)
  | onCreateSubAccount (response : CreateSubAccountResponse)
  | onCreateVault (response : CreateVaultResponse)
  | onDelegations (response : DelegationsResponse)
  | onDelegatorSummary (response : DelegatorSummaryResponse)
  | onDelegatorHistory (response : DelegatorHistoryResponse)
  | onDelegatorRewards (response : DelegatorRewardsResponse)
  | onBorrowLendUserState (response : BorrowLendUserStateResponse)
  | onBorrowLendReserveState (response : BorrowLendReserveState)
  | onAllBorrowLendReserveStates (response : AllBorrowLendReserveStatesResponse)
  | onUserBorrowLendInterest (response : UserBorrowLendInterestResponse)
  | onLiquidatable (response : LiquidatableResponse)
  | onUserDexAbstractionState (response : UserDexAbstractionResponse)
  | onUserAbstraction (response : UserAbstractionResponse)
  | onExchangeStatus (response : ExchangeStatusResponse)

/-- The callback for an endpoint; one without a callback is logged. -/
def endpointCallback (document : Bytes → Except Error Value) (type : RestEndpointType)
    (message : Bytes) : Option (Conversions RestCallback) :=
  match type with
  | .spotMeta => some (.onSpotMeta <$> parseSpotMeta document message)
  | .«meta» => some (.onMeta <$> parseMeta document message)
  | .outcomeMeta => some (.onOutcomeMeta <$> parseOutcomeMeta document message)
  | .settledOutcome => some (.onSettledOutcome <$> parseSettledOutcome document message)
  | .perpDexs => some (.onPerpDexs <$> parsePerpDexs document message)
  | .perpsAtOpenInterestCap =>
      some (.onPerpsAtOpenInterestCap <$> parsePerpsAtOpenInterestCap document message)
  | .predictedFundings => some (.onPredictedFundings <$> parsePredictedFundings document message)
  | RestEndpointType.perpAnnotation =>
      some (RestCallback.onPerpAnnotation <$> parsePerpAnnotation document message)
  | .perpCategories => some (.onPerpCategories <$> parsePerpCategories document message)
  | .perpConciseAnnotations =>
      some (.onPerpConciseAnnotations <$> parsePerpConciseAnnotations document message)
  | .allPerpMetas => some (.onAllPerpMetas <$> parseAllPerpMetas document message)
  | .perpDexLimits => some (.onPerpDexLimits <$> parsePerpDexLimits document message)
  | .perpDexStatus => some (.onPerpDexStatus <$> parsePerpDexStatus document message)
  | .perpDeployAuctionStatus =>
      some (.onPerpDeployAuctionStatus <$> parsePerpDeployAuctionStatus document message)
  | .userFunding => some (.onUserFunding <$> parseUserFunding document message)
  | .userNonFundingLedgerUpdates =>
      some (.onUserNonFundingLedgerUpdates <$> parseUserNonFundingLedgerUpdates document message)
  | .fundingHistory => some (.onFundingHistory <$> parseFundingHistory document message)
  | .l2Book => some (.onL2Book <$> parseL2Book document message)
  | .candleSnapshot => some (.onCandleSnapshot <$> parseCandleSnapshot document message)
  | .recentTrades => some (.onRecentTrades <$> parseRecentTrades document message)
  | .allMids => some (.onAllMids <$> parseAllMids document message)
  | .openOrders => some (.onOpenOrders <$> parseOpenOrders document message)
  | .orderStatus => some (.onOrderStatus <$> parseOrderStatus document message)
  | .userFills => some (.onUserFills <$> parseUserFills document message)
  | .userFillsByTime => some (.onUserFillsByTime <$> parseUserFillsByTime document message)
  | .clearinghouseState => some (.onClearinghouseState <$> parseClearinghouseState document message)
  | .userRateLimit => some (.onUserRateLimit <$> parseUserRateLimit document message)
  | .metaAndAssetCtxs => some (.onMetaAndAssetCtxs <$> parseMetaAndAssetCtxs document message)
  | .spotMetaAndAssetCtxs =>
      some (.onSpotMetaAndAssetCtxs <$> parseSpotMetaAndAssetCtxs document message)
  | .spotClearinghouseState =>
      some (.onSpotClearinghouseState <$> parseSpotClearinghouseState document message)
  | .spotDeployState => some (.onSpotDeployState <$> parseSpotDeployState document message)
  | .spotPairDeployAuctionStatus =>
      some (.onSpotPairDeployAuctionStatus <$> parseSpotPairDeployAuctionStatus document message)
  | .frontendOpenOrders => some (.onFrontendOpenOrders <$> parseFrontendOpenOrders document message)
  | .historicalOrders => some (.onHistoricalOrders <$> parseHistoricalOrders document message)
  | .userTwapSliceFills => some (.onUserTwapSliceFills <$> parseUserTwapSliceFills document message)
  | .userTwapSliceFillsByTime =>
      some (.onUserTwapSliceFillsByTime <$> parseUserTwapSliceFillsByTime document message)
  | .twapHistory => some (.onTwapHistory <$> parseTwapHistory document message)
  | .activeAssetData => some (.onActiveAssetData <$> parseActiveAssetData document message)
  | .subAccounts => some (.onSubAccounts <$> parseSubAccounts document message)
  | .userFees => some (.onUserFees <$> parseUserFees document message)
  | .maxBuilderFee => some (.onMaxBuilderFee <$> parseMaxBuilderFee document message)
  | .approvedBuilders => some (.onApprovedBuilders <$> parseApprovedBuilders document message)
  | .vaultDetails => some (.onVaultDetails <$> parseVaultDetails document message)
  | .userVaultEquities => some (.onUserVaultEquities <$> parseUserVaultEquities document message)
  | .portfolio => some (.onPortfolio <$> parsePortfolio document message)
  | .referral => some (.onReferral <$> parseReferral document message)
  | .userRole => some (.onUserRole <$> parseUserRole document message)
  | .borrowLendUserState =>
      some (.onBorrowLendUserState <$> parseBorrowLendUserState document message)
  | .borrowLendReserveState =>
      some (.onBorrowLendReserveState <$> parseBorrowLendReserveState document message)
  | .allBorrowLendReserveStates =>
      some (.onAllBorrowLendReserveStates <$> parseAllBorrowLendReserveStates document message)
  | .userBorrowLendInterest =>
      some (.onUserBorrowLendInterest <$> parseUserBorrowLendInterest document message)
  | .liquidatable => some (.onLiquidatable <$> parseLiquidatable document message)
  | .placeOrder => some (.onPlaceOrder <$> parsePlaceOrder document message)
  | .cancelOrder | .cancelOrderByCloid =>
      some (.onCancelOrder <$> parseCancelOrder document message)
  | .modifyOrder | .batchModifyOrder => some (.onModifyOrder <$> parseModifyOrder document message)
  | .updateLeverage | .updateIsolatedMargin | .scheduleCancel | .approveAgent
  | .agentSetAbstraction | .vaultTransfer | .hip3LiquidatorTransfer | .subAccountTransfer
  | .borrowLend | .spotDeployRegisterToken2 | .spotDeployUserGenesis | .spotDeployGenesis
  | .spotDeployRegisterSpot | .spotDeployRegisterHyperliquidity | .perpDeployRegisterAsset2
  | .usdClassTransfer | .sendAsset | .usdSend | .spotSend | .withdraw3 | .approveBuilderFee
  | .userSetAbstraction | .setReferrer | .cDeposit | .cWithdraw | .tokenDelegate
  | .sendToEvmWithData | .userDexAbstraction | .userPortfolioMargin | .agentSendAsset
  | .reserveRequestWeight | .noop =>
      some (.onSimpleResponse <$> parseSimpleResponse document message)
  | .twapOrder => some (.onTwapOrder <$> parseTwapOrder document message)
  | .twapCancel => some (.onTwapCancel <$> parseTwapCancel document message)
  | .createSubAccount => some (.onCreateSubAccount <$> parseCreateSubAccount document message)
  | .createVault => some (.onCreateVault <$> parseCreateVault document message)
  | .delegations => some (.onDelegations <$> parseDelegations document message)
  | .delegatorSummary => some (.onDelegatorSummary <$> parseDelegatorSummary document message)
  | .delegatorHistory => some (.onDelegatorHistory <$> parseDelegatorHistory document message)
  | .delegatorRewards => some (.onDelegatorRewards <$> parseDelegatorRewards document message)
  | .userDexAbstractionState =>
      some (.onUserDexAbstractionState <$> parseUserDexAbstractionState document message)
  | .userAbstraction => some (.onUserAbstraction <$> parseUserAbstraction document message)
  | .exchangeStatus => some (.onExchangeStatus <$> parseExchangeStatus document message)
  | .tokenDetails => none

namespace RestApiMessageParser

/-- What the listener is called with, if anything. -/
def parse (document : Bytes → Except Error Value) (message : Bytes) (type : RestEndpointType)
    (correlationId : Option UInt64) : Conversions (Option (RestCallback × Option UInt64)) :=
  match endpointCallback document type message with
  | none => return none
  | some parser => do
      let callback ← parser
      return some (callback, correlationId)

end RestApiMessageParser

end HyperliquidSdk.Rest
