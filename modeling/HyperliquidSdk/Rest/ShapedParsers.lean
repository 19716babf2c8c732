import HyperliquidSdk.Rest.ShapeRuns
import HyperliquidSdk.Rest.MarketParsers
import HyperliquidSdk.Rest.OrderParsers
import HyperliquidSdk.Rest.AccountParsers

/-!
# The shapes of the parsers

Each parser of entries follows the list of its fields, and a parser of responses returns
exactly if the texts of its shape are readable.
-/

set_option autoImplicit false

namespace HyperliquidSdk.Rest.Wire

open Foundation Foundation.OnDemand

variable {ρ : Type}

/-! ## Market entries -/

theorem parseAssetMeta_follows : Follows (parseAssetMeta (ρ := ρ)) (readFields assetMeta) :=
  .cons (.text _) fun _ => .cons (.int _) fun _ => .cons (.int _) fun _ => .pure _

theorem parseMidPx_follows : Follows (parseMidPx (ρ := ρ)) midPx := by
  unfold midPx
  rw [← followedBy_nothing (optional "midPx" _)]
  exact .whenThen (.pure _) fun text => .bind (.toDouble text) fun _ => .pure _

theorem parsePerpAssetCtx_follows (coin : Bytes) :
    Follows (parsePerpAssetCtx (ρ := ρ) coin) (readFields perpAssetCtx) :=
  .cons (.parseNumber _) fun _ => .cons (.parseNumber _) fun _ => .cons (.parseNumber _) fun _ =>
    .cons parseMidPx_follows fun _ => .cons (.parseNumber _) fun _ =>
      .cons (.parseNumber _) fun _ => .cons (.parseNumber _) fun _ => .pure _

theorem parseFlatAssetMeta_follows (value : Value) :
    Follows (do parseFlatAssetMeta (ρ := ρ) (← value.getObject))
      (here (members flatAssetMeta value)) := by
  refine .having value fun fields => ?_
  unfold parseFlatAssetMeta
  refine .foldlM (fun asset member => ?_) fields _
  obtain ⟨key, member⟩ := member
  unfold flatAssetMeta
  dsimp only
  split_ifs
  · exact .last (.ofType _ _) fun _ => .pure _
  · exact .last (.ofType _ _) fun _ => .pure _
  · exact .last (.ofType _ _) fun _ => .pure _
  · exact .pure _

theorem parseMarginTier_follows : Follows (parseMarginTier (ρ := ρ)) (readFields marginTier) :=
  .cons (.double _) fun _ => .cons (.int _) fun _ => .pure _

theorem parseMarginTable_follows : Follows (parseMarginTable (ρ := ρ)) (readFields marginTable) :=
  .cons (.text _) fun _ =>
    .consBoth (.array (.mapM fun tier => .object tier parseMarginTier_follows)) fun _ => .pure _

theorem parsePerpDexMeta_follows : Follows (parsePerpDexMeta (ρ := ρ)) (readFields perpDexMeta) :=
  .consBoth (.array (.mapM parseFlatAssetMeta_follows)) fun _ =>
    .consBoth (.optionalArray (List.filterMapM _)
      (.filterMapM (.parsePair fun table => .object table parseMarginTable_follows))) fun _ =>
      .consBoth (.present (.ofType getInt)) fun _ => .pure _

theorem parseFundingVenue_follows :
    Follows (parseFundingVenue (ρ := ρ)) (readFields fundingVenue) :=
  .consBoth (.present .toNumber) fun _ => .consBoth (.present (.ofType _)) fun _ => .pure _

/-- A venue without funding data stands alone or with null. -/
theorem parsePredictedFundingVenue_follows (entry : Value) :
    Follows (parsePredictedFundingVenue (ρ := ρ) entry)
      (here (pair (ofType Value.getString) (nullOr (object fundingVenue)) entry)) :=
  .pair entry (.pure none) (fun first => .last (.ofType _ first) fun _ => .pure _)
    fun first second _ => .bind (.ofType _ first) fun _ => .unlessNull second (.pure _)
      (.objectThen second parseFundingVenue_follows fun _ => .pure _)

theorem gasField_follows (key : String) :
    Follows (Rest.gasField (ρ := ρ) key) (gasField key) :=
  .present .doubleOf

theorem parseSpotPairDeployAuctionStatusObj_follows :
    Follows (parseSpotPairDeployAuctionStatusObj (ρ := ρ)) (readFields gasAuction) :=
  .cons (.uint64 _) fun _ => .cons (.uint64 _) fun _ => .cons (.parseNumber _) fun _ =>
    .cons (gasField_follows _) fun _ => .cons (gasField_follows _) fun _ => .pure _

theorem parseEvmContract_follows : Follows (parseEvmContract (ρ := ρ)) (readFields evmContract) :=
  .cons (.text _) fun _ => .cons (.int _) fun _ => .pure _

theorem parseSpotAssetMeta_follows :
    Follows (parseSpotAssetMeta (ρ := ρ)) (readFields spotAssetMeta) :=
  .cons (.text _) fun _ => .cons (.int _) fun _ => .cons (.int _) fun _ => .cons (.int _) fun _ =>
    .cons (.text _) fun _ => .cons (.bool _) fun _ =>
      .consBoth (.present fun value => .object value parseEvmContract_follows) fun _ =>
        .consBoth (.present (.ofType _)) fun _ => .pure _

theorem parseSpotUniversePair_follows :
    Follows (parseSpotUniversePair (ρ := ρ)) (readFields spotUniversePair) :=
  .cons (.text _) fun _ => .consBoth (.array (.mapM (.ofType getInt))) fun _ =>
    .cons (.int _) fun _ => .cons (.bool _) fun _ => .pure _

theorem parseSpotAssetCtx_follows (coin : Bytes) :
    Follows (parseSpotAssetCtx (ρ := ρ) coin) (readFields spotAssetCtx) :=
  .cons (.parseNumber _) fun _ => .cons (.parseNumber _) fun _ => .cons (.parseNumber _) fun _ =>
    .cons parseMidPx_follows fun _ => .consBoth (.present .toNumber) fun _ => .pure _

theorem parseTokenSpec_follows : Follows (parseTokenSpec (ρ := ρ)) (readFields tokenSpec) :=
  .cons (.text _) fun _ => .cons (.int _) fun _ => .cons (.int _) fun _ => .pure _

theorem parseSpotDeployStateEntry_follows :
    Follows (parseSpotDeployStateEntry (ρ := ρ)) (readFields spotDeployStateEntry) :=
  .cons (.int _) fun _ => .consBoth (.inObject parseTokenSpec_follows) fun _ =>
    .consBoth (.present (.ofType _)) fun _ => .cons (.parseNumber _) fun _ =>
      .consBoth (.array (.mapM (.ofType getInt))) fun _ => .consBoth (.present .doubleOf) fun _ =>
        .cons (.parseNumber _) fun _ => .cons (.parseNumber _) fun _ =>
          .consBoth (.array (.filterMapM (.parsePair .doubleOf))) fun _ =>
            .consBoth (.array (.filterMapM (.parsePair .doubleOf))) fun _ =>
              .consBoth (.optionalArray (List.mapM _) (.mapM (.ofType _))) fun _ => .pure _

theorem parseCandle_follows : Follows (parseCandle (ρ := ρ)) (readFields candle) :=
  .cons (.text _) fun _ => .cons (.text _) fun _ => .cons (.uint64 _) fun _ =>
    .cons (.uint64 _) fun _ => .cons (.parseNumber _) fun _ => .cons (.parseNumber _) fun _ =>
      .cons (.parseNumber _) fun _ => .cons (.parseNumber _) fun _ =>
        .cons (.parseNumber _) fun _ => .cons (.int _) fun _ => .pure _

/-! ## Order entries -/

theorem parseBuilderFee_follows : Follows (parseBuilderFee (ρ := ρ)) builderFee :=
  .takenThen (.whenOf .toDouble) fun _ => .pure _

theorem parseLiquidation_follows : Follows (parseLiquidation (ρ := ρ)) (readFields liquidation) :=
  .cons (.text _) fun _ => .cons (.double _) fun _ => .cons (.text _) fun _ => .pure _

theorem parseFillEntry_follows : Follows (parseFillEntry (ρ := ρ)) (readFields fill) :=
  .cons (.text _) fun _ => .cons (.double _) fun _ => .cons (.double _) fun _ =>
    .cons (.side _) fun _ => .cons (.uint64 _) fun _ => .cons (.double _) fun _ =>
      .cons (.text _) fun _ => .cons (.double _) fun _ => .cons (.text _) fun _ =>
        .cons (.uint64 _) fun _ => .cons (.bool _) fun _ => .cons (.double _) fun _ =>
          .cons (.uint64 _) fun _ => .cons (.text _) fun _ =>
            .cons parseBuilderFee_follows fun _ =>
              .consBoth (.whenOf fun _ => .within parseLiquidation_follows) fun _ => .pure _

theorem parseTwapSliceFill_follows :
    Follows (parseTwapSliceFill (ρ := ρ)) (readFields twapSliceFill) :=
  .consBoth (.inObject parseFillEntry_follows) fun _ => .cons (.int _) fun _ => .pure _

theorem parseTwapStateEntry_follows :
    Follows (parseTwapStateEntry (ρ := ρ)) (readFields twapState) :=
  .cons (.text _) fun _ => .cons (.text _) fun _ => .cons (.side _) fun _ =>
    .cons (.parseNumber _) fun _ => .cons (.parseNumber _) fun _ => .cons (.parseNumber _) fun _ =>
      .cons (.int _) fun _ => .cons (.bool _) fun _ => .cons (.bool _) fun _ =>
        .cons (.uint64 _) fun _ => .pure _

theorem parseTwapStatus_follows : Follows (parseTwapStatus (ρ := ρ)) (readFields twapStatus) :=
  .cons (.text _) fun _ => .cons (.unconverted _ _) fun _ => .pure _

theorem parseTwapHistoryEntry_follows :
    Follows (parseTwapHistoryEntry (ρ := ρ)) (readFields twapHistoryEntry) :=
  .cons (.uint64 _) fun _ => .consBoth (.inObject parseTwapStateEntry_follows) fun _ =>
    .consBoth (.inObject parseTwapStatus_follows) fun _ => .cons (.uint64 _) fun _ => .pure _

theorem cloidField_follows : Follows (Rest.cloidField (ρ := ρ)) cloidField :=
  .lastBoth (.present (.ofType _)) fun _ => .pure _

theorem parseOpenOrderEntry_follows :
    Follows (parseOpenOrderEntry (ρ := ρ)) (readFields openOrder) :=
  .cons (.text _) fun _ => .cons (.side _) fun _ => .cons (.parseNumber _) fun _ =>
    .cons (.parseNumber _) fun _ => .cons (.uint64 _) fun _ => .cons (.uint64 _) fun _ =>
      .cons (.parseNumber _) fun _ => .cons cloidField_follows fun _ => .pure _

theorem parseOrderStatusOrder_follows :
    Follows (parseOrderStatusOrder (ρ := ρ)) (readFields orderStatusOrder) :=
  .consBoth (.inObject parseOpenOrderEntry_follows) fun _ => .cons (.text _) fun _ =>
    .cons (.uint64 _) fun _ => .pure _

theorem parseFrontendOrderEntry_follows :
    Follows (parseFrontendOrderEntry (ρ := ρ)) (readFields frontendOrder) :=
  .cons (.text _) fun _ => .cons (.side _) fun _ => .cons (.parseNumber _) fun _ =>
    .cons (.parseNumber _) fun _ => .cons (.uint64 _) fun _ => .cons (.uint64 _) fun _ =>
      .cons (.parseNumber _) fun _ => .cons cloidField_follows fun _ => .cons (.bool _) fun _ =>
        .cons (.bool _) fun _ => .cons (.parseNumber _) fun _ => .cons (.text _) fun _ =>
          .cons (.bool _) fun _ => .cons (.text _) fun _ =>
            .consBoth (.present (.ofType _)) fun _ => .pure _

theorem parseHistoricalOrder_follows :
    Follows (parseHistoricalOrder (ρ := ρ)) (readFields historicalOrder) :=
  .consBoth (.inObject parseFrontendOrderEntry_follows) fun _ => .cons (.text _) fun _ =>
    .cons (.uint64 _) fun _ => .pure _

/-! ## Outcome entries -/

theorem parseOutcomeSideSpec_follows :
    Follows (parseOutcomeSideSpec (ρ := ρ)) (readFields outcomeSideSpec) :=
  .cons (.text _) fun _ => .cons (.unconverted _ _) fun _ => .pure _

theorem parseOutcomeSpec_follows : Follows parseOutcomeSpec (readFields outcomeSpec) := by
  refine .cons (.int _) fun _ => .skip (.modify _) fun _ => .cons (.text _) fun _ =>
    .skip (.modify _) fun _ => .requiredThen fun raw => .skip (.modify _) fun _ =>
      .bind (.parseOutcomeDescription raw) fun _ => .skip (.modify _) fun _ =>
        .consBoth (.array (.objects parseOutcomeSideSpec_follows fun _ => .modify _)) fun _ => ?_
  refine .unconvertedThen ?deployer fun _ => .skip (.modify _) fun _ => ?deployer
  exact .unconvertedThen (.pure _) fun _ => .modify _

theorem parseQuestionId_follows : Follows (parseQuestionId (ρ := ρ)) questionId :=
  .takenThen (.last (.int _) fun _ => .pure _) fun _ => .pure _

theorem parseSettledOutcomeQuestion_follows :
    Follows (parseSettledOutcomeQuestion (ρ := ρ)) (readFields settledOutcomeQuestion) :=
  .consBoth (.inObject (.alone parseQuestionId_follows)) fun _ => .cons (.text _) fun _ =>
    .cons (.text _) fun _ => .pure _

/-! ## Account entries -/

theorem parseMarginSummary_follows (change : (MarginSummary → MarginSummary) → ρ → ρ) :
    Follows (parseMarginSummary change) (readFields marginSummary) :=
  .cons (.double _) fun _ => .skip (.modify _) fun _ => .cons (.double _) fun _ =>
    .skip (.modify _) fun _ => .cons (.double _) fun _ => .skip (.modify _) fun _ =>
      .cons (.double _) fun _ => .modify _

theorem stringNumber_follows (value : Value) :
    Follows (stringNumber (ρ := ρ) value) (here (whenOf Value.getString price value)) := by
  unfold stringNumber whenOf price having
  cases value.getString with
  | error error => exact .pure none
  | ok text => exact .last (.toDouble text) fun _ => .pure _

theorem parseAssetPosition_follows :
    Follows (parseAssetPosition (ρ := ρ)) (readFields assetPosition) :=
  .cons (.text _) fun _ => .cons (.double _) fun _ => .cons (.double _) fun _ =>
    .cons (.double _) fun _ => .cons (.double _) fun _ => .cons (.double _) fun _ =>
      .consBoth (.present stringNumber_follows) fun _ => .pure _

theorem decodeClearinghouseState_follows :
    Follows decodeClearinghouseState (readFields clearinghouseState) := by
  refine .consBoth (.inObject (parseMarginSummary_follows _)) fun _ =>
    .presentThen ?amounts fun cross => .havingThen cross fun _ =>
      .bind (.within (parseMarginSummary_follows _)) fun _ => ?amounts
  exact .consBoth (.present stringNumber_follows) fun _ => .skip (.modify _) fun _ =>
    .cons (.double _) fun _ => .skip (.modify _) fun _ => .cons (.uint64 _) fun _ =>
      .skip (.modify _) fun _ => .alone (.array
        (.objects (.alone (.inObject parseAssetPosition_follows)) fun _ => .modify _))

theorem parseClearinghouseStateObj_follows (object : Object) :
    Follows (parseClearinghouseStateObj (ρ := ρ) object)
      (here (readFields clearinghouseState object).contained) :=
  .last (.attempt decodeClearinghouseState_follows) fun _ => .pure _

theorem parseSpotBalance_follows : Follows (parseSpotBalance (ρ := ρ)) (readFields spotBalance) :=
  .cons (.text _) fun _ => .cons (.int _) fun _ => .cons (.parseNumber _) fun _ =>
    .cons (.parseNumber _) fun _ => .cons (.parseNumber _) fun _ => .pure _

theorem parseSpotClearinghouseStateObj_follows :
    Follows (parseSpotClearinghouseStateObj (ρ := ρ)) (readFields spotClearinghouseState) :=
  .consBoth (.array (.mapM fun entry => .object entry parseSpotBalance_follows)) fun _ => .pure _

theorem parseSubAccount_follows : Follows (parseSubAccount (ρ := ρ)) (readFields subAccount) :=
  .cons (.text _) fun _ => .cons (.text _) fun _ => .cons (.text _) fun _ =>
    .consBoth (.requiredOf parseClearinghouseStateObj_follows) fun _ =>
      .consBoth (.inObject parseSpotClearinghouseStateObj_follows) fun _ => .pure _

theorem parseSizes_follows (change : Nat → Double → ActiveAssetData → ActiveAssetData)
    (values : List Value) : Follows (parseSizes values change) (here (.each number values)) :=
  .forM_zipIdx (fun value _ => .last (.toNumber value) fun _ => .modify _) values

theorem parseDailyUserVolume_follows :
    Follows (parseDailyUserVolume (ρ := ρ)) (readFields dailyUserVolume) :=
  .cons (.text _) fun _ => .cons (.parseNumber _) fun _ => .cons (.parseNumber _) fun _ =>
    .cons (.parseNumber _) fun _ => .pure _

theorem parseFeeTierVip_follows : Follows (parseFeeTierVip (ρ := ρ)) (readFields feeTierVip) :=
  .cons (.parseNumber _) fun _ => .cons (.parseNumber _) fun _ => .cons (.parseNumber _) fun _ =>
    .cons (.parseNumber _) fun _ => .cons (.parseNumber _) fun _ => .pure _

theorem parseFeeTierMm_follows : Follows (parseFeeTierMm (ρ := ρ)) (readFields feeTierMm) :=
  .cons (.parseNumber _) fun _ => .cons (.parseNumber _) fun _ => .pure _

theorem parseStakingDiscountTier_follows :
    Follows (parseStakingDiscountTier (ρ := ρ)) (readFields stakingDiscount) :=
  .cons (.parseNumber _) fun _ => .cons (.parseNumber _) fun _ => .pure _

theorem parseFeeSchedule_follows : Follows parseFeeSchedule (readFields feeSchedule) :=
  .cons (.parseNumber _) fun _ => .skip (.modify _) fun _ => .cons (.parseNumber _) fun _ =>
    .skip (.modify _) fun _ => .cons (.parseNumber _) fun _ => .skip (.modify _) fun _ =>
      .cons (.parseNumber _) fun _ => .skip (.modify _) fun _ => .cons (.parseNumber _) fun _ =>
        .skip (.modify _) fun _ => .consBoth (.inObject
          (.consBoth (.array (.objects parseFeeTierVip_follows fun _ => .modify _)) fun _ =>
            .alone (.array (.objects parseFeeTierMm_follows fun _ => .modify _)))) fun _ =>
          .alone (.array (.objects parseStakingDiscountTier_follows fun _ => .modify _))

theorem parseStakingLink_follows : Follows (parseStakingLink (ρ := ρ)) (readFields stakingLink) :=
  .cons (.text _) fun _ => .cons (.text _) fun _ => .pure _

theorem parseActiveStakingDiscount_follows :
    Follows (parseActiveStakingDiscount (ρ := ρ)) (readFields stakingDiscount) :=
  .cons (.parseNumber _) fun _ => .cons (.parseNumber _) fun _ => .pure _

theorem parsePortfolioPoints_follows (key : String) :
    Follows (parsePortfolioPoints (ρ := ρ) key) (portfolioPoints key) :=
  .array (.filterMapM (.parsePair .doubleOf))

theorem parsePortfolioMetrics_follows (period : PortfolioPeriodType) :
    Follows (parsePortfolioMetrics (ρ := ρ) period) (readFields portfolioMetrics) :=
  .cons (parsePortfolioPoints_follows _) fun _ => .cons (parsePortfolioPoints_follows _) fun _ =>
    .cons (.parseNumber _) fun _ => .pure _

theorem parsePortfolioPeriod_follows (entry : Value) :
    Follows (parsePortfolioPeriod (ρ := ρ) entry)
      (here (pair (ofType Value.getString) (object portfolioMetrics) entry)) :=
  .pair entry (.pure none) (fun first => .last (.ofType _ first) fun _ => .pure _)
    fun first second _ => .bind (.ofType _ first) fun _ =>
      .objectThen second (parsePortfolioMetrics_follows _) fun _ => .pure _

theorem parsePortfolioArray_follows (entries : List Value) :
    Follows (parsePortfolioArray (ρ := ρ) entries)
      (here (.each (pair (ofType Value.getString) (object portfolioMetrics)) entries)) :=
  .filterMapM parsePortfolioPeriod_follows entries

theorem parseVaultFollower_follows :
    Follows (parseVaultFollower (ρ := ρ)) (readFields vaultFollower) :=
  .cons (.text _) fun _ => .cons (.parseNumber _) fun _ => .cons (.parseNumber _) fun _ =>
    .cons (.parseNumber _) fun _ => .cons (.int _) fun _ => .cons (.uint64 _) fun _ =>
      .cons (.uint64 _) fun _ => .pure _

/-- The children that the data of a relationship has are strings. -/
theorem childAddressesOf_follows (data : Value) {body : Value → Decoder ρ Unit}
    (bodies : ∀ child, Follows (body child) (here (ofType Value.getString child))) :
    Follows (do (← childAddressesOf data).forM body) (here (childAddresses data)) := by
  unfold childAddressesOf childAddresses whenOf object having
  cases data.getObject with
  | error error => exact .pure _
  | ok inner =>
      simp only [bind_assoc, pure_bind]
      exact .withinOptional (fun children => children.forM body) (.forM bodies)

theorem parseRelationship_follows : Follows parseRelationship (readFields relationship) :=
  .cons (.text _) fun _ => .skip (.modify _) fun _ => .presentThen (.pure _) fun data =>
    .alone (childAddressesOf_follows data fun child => .last (.ofType _ child) fun _ => .modify _)

theorem parseUserVaultEquity_follows :
    Follows (parseUserVaultEquity (ρ := ρ)) (readFields userVaultEquity) :=
  .cons (.text _) fun _ => .cons (.parseNumber _) fun _ => .pure _

theorem parseReferredBy_follows : Follows (parseReferredBy (ρ := ρ)) (readFields referredBy) :=
  .cons (.text _) fun _ => .cons (.text _) fun _ => .pure _

theorem parseTokenRewardState_follows :
    Follows (parseTokenRewardState (ρ := ρ)) (readFields tokenRewardState) :=
  .cons (.parseNumber _) fun _ => .cons (.parseNumber _) fun _ => .cons (.parseNumber _) fun _ =>
    .cons (.parseNumber _) fun _ => .pure _

theorem parseReferralState_follows :
    Follows (parseReferralState (ρ := ρ)) (readFields referralState) :=
  .cons (.parseNumber _) fun _ => .cons (.parseNumber _) fun _ => .cons (.parseNumber _) fun _ =>
    .cons (.uint64 _) fun _ => .cons (.text _) fun _ => .pure _

theorem parseReferrerData_follows (stage : Bytes) :
    Follows (parseReferrerData (ρ := ρ) stage) (readFields (referrerData stage)) := by
  unfold parseReferrerData referrerData
  split_ifs
  · exact .cons (.parseNumber _) fun _ => .pure _
  · exact .cons (.unconverted _ _) fun _ => .consBoth (.optionalArray (List.mapM _)
      (.mapM fun entry => .object entry parseReferralState_follows)) fun _ => .pure _

theorem parseReferrerState_follows : Follows (parseReferrerState (ρ := ρ)) referrerState :=
  .selecting fun stage => .whenThen (.pure _) fun _ =>
    .alone (.within (parseReferrerData_follows stage))

theorem parseTokenToState_follows (entries : List Value) :
    Follows (parseTokenToState (ρ := ρ) entries) (here (match entries with
      | [] => .done
      | first :: _ => pair (ofType getInt) (object tokenRewardState) first)) := by
  cases entries with
  | nil => exact .pure none
  | cons entry entries =>
      exact .parsePair (fun value => .object value parseTokenRewardState_follows) entry

theorem parseBorrowLendReserveStateFields_follows :
    Follows (parseBorrowLendReserveStateFields (ρ := ρ)) (readFields borrowLendReserveState) :=
  .cons (.parseNumber _) fun _ => .cons (.parseNumber _) fun _ => .cons (.parseNumber _) fun _ =>
    .cons (.parseNumber _) fun _ => .cons (.parseNumber _) fun _ => .cons (.parseNumber _) fun _ =>
      .cons (.parseNumber _) fun _ => .cons (.parseNumber _) fun _ => .pure _

theorem parsePositionSide_follows :
    Follows (parsePositionSide (ρ := ρ)) (readFields positionSide) :=
  .cons (.parseNumber _) fun _ => .cons (.parseNumber _) fun _ => .pure _

theorem parsePositionSides_follows :
    Follows (parsePositionSides (ρ := ρ)) (readFields positionSides) :=
  .consBoth (.inObject parsePositionSide_follows) fun _ =>
    .consBoth (.inObject parsePositionSide_follows) fun _ => .pure _

theorem parseDelegation_follows : Follows (parseDelegation (ρ := ρ)) (readFields delegation) :=
  .cons (.text _) fun _ => .cons (.parseNumber _) fun _ => .cons (.uint64 _) fun _ => .pure _

theorem parseDelegateDelta_follows :
    Follows (parseDelegateDelta (ρ := ρ)) (readFields delegateDelta) :=
  .cons (.text _) fun _ => .cons (.parseNumber _) fun _ => .cons (.bool _) fun _ => .pure _

theorem parseCDepositDelta_follows :
    Follows (parseCDepositDelta (ρ := ρ)) (readFields cDepositDelta) :=
  .cons (.parseNumber _) fun _ => .pure _

theorem parseWithdrawalDelta_follows :
    Follows (parseWithdrawalDelta (ρ := ρ)) (readFields withdrawalDelta) :=
  .cons (.parseNumber _) fun _ => .cons (.text _) fun _ => .pure _

theorem parseDelegatorDelta_follows : Follows (parseDelegatorDelta (ρ := ρ)) delegatorDelta :=
  .either
    (.either
      (.either (.pure _) fun value => .object value parseWithdrawalDelta_follows)
      fun value => .object value parseCDepositDelta_follows)
    fun value => .object value parseDelegateDelta_follows

theorem parseDelegatorHistoryEntry_follows :
    Follows (parseDelegatorHistoryEntry (ρ := ρ)) (readFields delegatorHistoryEntry) :=
  .cons (.uint64 _) fun _ => .cons (.text _) fun _ =>
    .consBoth (.inObject (.alone parseDelegatorDelta_follows)) fun _ => .pure _

theorem parseDelegatorReward_follows :
    Follows (parseDelegatorReward (ρ := ρ)) (readFields delegatorReward) :=
  .cons (.uint64 _) fun _ => .cons (.text _) fun _ => .cons (.parseNumber _) fun _ => .pure _

end HyperliquidSdk.Rest.Wire
