import HyperliquidSdk.Foundation.Binary64
import HyperliquidSdk.Foundation.Bytes

/-!
# Response types

What the parsers of the info and the exchange responses return, as in `ResponseTypes.h`.
The default of a field is its value-initialised one. A field that a parser can leave
without a value is optional here, and `none` if never assigned: `Outcome.outcome`, the
numbers of `AssetMeta` and the last three of `AssetPosition`.
-/

set_option autoImplicit false

namespace HyperliquidSdk

open Foundation

/-- `system_clock::time_point`, in nanoseconds. -/
abbrev TimePoint := Int64

structure Candle where
  coin : Bytes := []
  interval : Bytes := []
  openTime : UInt64 := 0
  closeTime : UInt64 := 0
  «open» : Double := .zero
  close : Double := .zero
  high : Double := .zero
  low : Double := .zero
  volume : Double := .zero
  numTrades : Int32 := 0

structure AllMidsEntry where
  coin : Bytes := []
  mid : Double := .zero

structure PerpAssetCtx where
  coin : Bytes := []
  dayNtlVlm : Double := .zero
  prevDayPx : Double := .zero
  markPx : Double := .zero
  midPx : Double := .zero
  hasMidPx : Bool := false
  funding : Double := .zero
  openInterest : Double := .zero
  oraclePx : Double := .zero

structure SpotAssetCtx where
  coin : Bytes := []
  dayNtlVlm : Double := .zero
  prevDayPx : Double := .zero
  markPx : Double := .zero
  midPx : Double := .zero
  hasMidPx : Bool := false
  circulatingSupply : Double := .zero

inductive OrderStatus where
  | open
  | filled
  | canceled
  | triggered
  | rejected
  | marginCanceled
  | oracleRejected
  | iocCancelRejected
  | unknown
  deriving DecidableEq, Repr

def stringToOrderStatus (s : Bytes) : OrderStatus :=
  if s = utf8 "open" then .open
  else if s = utf8 "filled" then .filled
  else if s = utf8 "canceled" then .canceled
  else if s = utf8 "triggered" then .triggered
  else if s = utf8 "rejected" then .rejected
  else if s = utf8 "marginCanceled" then .marginCanceled
  else if s = utf8 "oracleRejected" then .oracleRejected
  else if s = utf8 "iocCancelRejected" then .iocCancelRejected
  else .unknown

inductive LiquidationMethod where
  | market
  | backstop
  | unknown
  deriving DecidableEq, Repr

def stringToLiquidationMethod (s : Bytes) : LiquidationMethod :=
  if s = utf8 "market" then .market
  else if s = utf8 "backstop" then .backstop
  else .unknown

inductive LeverageType where
  | cross
  | isolated
  | unknown
  deriving DecidableEq, Repr

def stringToLeverageType (s : Bytes) : LeverageType :=
  if s = utf8 "cross" ∨ s = utf8 "Cross" then .cross
  else if s = utf8 "isolated" ∨ s = utf8 "Isolated" then .isolated
  else .unknown

structure Fill where
  coin : Bytes := []
  px : Double := .zero
  sz : Double := .zero
  side : UInt8 := 0
  time : UInt64 := 0
  startPosition : Double := .zero
  dir : Bytes := []
  closedPnl : Double := .zero
  hash : Bytes := []
  oid : UInt64 := 0
  crossed : Bool := false
  fee : Double := .zero
  tid : UInt64 := 0
  feeToken : Bytes := []
  builderFee : Double := .zero
  hasBuilderFee : Bool := false
  isLiquidation : Bool := false
  liquidatedUser : Bytes := []
  liquidationMarkPx : Double := .zero
  liquidationMethod : LiquidationMethod := .market
  isSnapshot : Bool := false

structure MarginSummary where
  accountValue : Double := .zero
  totalNtlPos : Double := .zero
  totalRawUsd : Double := .zero
  totalMarginUsed : Double := .zero

structure AssetPosition where
  coin : Bytes := []
  szi : Double := .zero
  entryPx : Double := .zero
  positionValue : Double := .zero
  unrealizedPnl : Double := .zero
  returnOnEquity : Double := .zero
  liquidationPx : Double := .zero
  hasLiquidationPx : Bool := false
  marginUsed : Option Double := none
  maxLeverage : Option Int32 := none
  leverageType : Option LeverageType := none

structure ClearinghouseState where
  assetPositions : List AssetPosition := []
  marginSummary : MarginSummary := {}
  crossMarginSummary : MarginSummary := {}
  crossMaintenanceMarginUsed : Double := .zero
  withdrawable : Double := .zero
  time : UInt64 := 0

structure OpenOrder where
  coin : Bytes := []
  side : UInt8 := 0
  limitPx : Double := .zero
  sz : Double := .zero
  oid : UInt64 := 0
  timestamp : UInt64 := 0
  origSz : Double := .zero
  cloid : Bytes := []

structure TwapState where
  id : UInt64 := 0
  coin : Bytes := []
  user : Bytes := []
  side : UInt8 := 0
  sz : Double := .zero
  executedSz : Double := .zero
  executedNtl : Double := .zero
  minutes : Int32 := 0
  reduceOnly : Bool := false
  randomize : Bool := false
  timestamp : UInt64 := 0

inductive TwapHistoryStatus where
  | activated
  | terminated
  | waitingForTrigger
  | stopped
  | finished
  | error
  | unknown
  deriving DecidableEq, Repr

def stringToTwapHistoryStatus (s : Bytes) : TwapHistoryStatus :=
  if s = utf8 "activated" then .activated
  else if s = utf8 "terminated" then .terminated
  else if s = utf8 "waitingForTrigger" then .waitingForTrigger
  else if s = utf8 "stopped" then .stopped
  else if s = utf8 "finished" then .finished
  else if s = utf8 "error" then .error
  else .unknown

structure TwapHistoryEntry where
  state : TwapState := {}
  status : TwapHistoryStatus := .activated
  description : Bytes := []
  time : UInt64 := 0
  twapId : UInt64 := 0
  isSnapshot : Bool := false

structure TwapSliceFill where
  fill : Fill := {}
  twapId : UInt64 := 0

structure ActiveAssetData where
  user : Bytes := []
  coin : Bytes := []
  leverageType : LeverageType := .cross
  leverageValue : Double := .zero
  leverageRawUsd : Option Double := none
  maxTradeSzLong : Double := .zero
  maxTradeSzShort : Double := .zero
  availableToTradeLong : Double := .zero
  availableToTradeShort : Double := .zero
  markPx : Double := .zero

structure SpotBalance where
  coin : Bytes := []
  token : Int32 := 0
  hold : Double := .zero
  total : Double := .zero
  entryNtl : Double := .zero

structure OutcomeSideSpec where
  name : Bytes := []
  token : Option Int32 := none

structure OutcomeDescription where
  outcomeClass : Bytes := []
  underlying : Bytes := []
  expiry : TimePoint := 0
  targetPrice : Bytes := []
  period : Bytes := []

structure Outcome where
  outcome : Option Int32 := none
  name : Bytes := []
  descriptionRaw : Bytes := []
  description : OutcomeDescription := {}
  sideSpecs : List OutcomeSideSpec := []
  quoteToken : Bytes := []
  deployer : Option Bytes := none

structure OutcomeMetaResponse where
  outcomes : List Outcome := []

structure SettledOutcomeQuestion where
  isSettled : Bool := false
  questionId : Int32 := 0
  name : Bytes := []
  description : Bytes := []

structure SettledOutcomeResponse where
  isSettled : Bool := false
  spec : Outcome := {}
  settleFraction : Double := .zero
  details : Bytes := []
  question : Option SettledOutcomeQuestion := none

structure AssetMeta where
  name : Bytes := []
  szDecimals : Option Int32 := none
  maxLeverage : Option Int32 := none

structure MetaResponse where
  «universe» : List AssetMeta := []

structure EvmContract where
  address : Bytes := []
  evm_extra_wei_decimals : Int32 := 0

structure SpotAssetMeta where
  name : Bytes := []
  szDecimals : Int32 := 0
  weiDecimals : Int32 := 0
  index : Int32 := 0
  tokenId : Bytes := []
  isCanonical : Bool := false
  evmContract : Option EvmContract := none
  fullName : Option Bytes := none

structure SpotMetaResponse where
  tokens : List SpotAssetMeta := []

structure PerpDex where
  name : Bytes := []
  fullName : Bytes := []
  deployer : Bytes := []
  oracleUpdater : Option Bytes := none
  feeRecipient : Option Bytes := none
  assetToStreamingOiCap : List (Bytes × Bytes) := []
  assetToFundingMultiplier : List (Bytes × Bytes) := []

structure PerpDexsResponse where
  dexes : List PerpDex := []

structure PerpsAtOpenInterestCapResponse where
  coins : List Bytes := []

structure ExchangeStatusResponse where
  specialStatuses : List Bytes := []
  time : UInt64 := 0

structure PredictedFundingVenue where
  venue : Bytes := []
  fundingRate : Option Double := none
  nextFundingTime : Option UInt64 := none

structure PredictedFundingEntry where
  coin : Bytes := []
  venues : List PredictedFundingVenue := []

structure PredictedFundingsResponse where
  fundings : List PredictedFundingEntry := []

structure FundingHistoryEntry where
  coin : Bytes := []
  fundingRate : Double := .zero
  premium : Double := .zero
  time : UInt64 := 0

structure FundingHistoryResponse where
  history : List FundingHistoryEntry := []

inductive LedgerUpdateDeltaType where
  | funding
  | deposit
  | withdraw
  | accountClassTransfer
  | internalTransfer
  | subAccountTransfer
  | spotTransfer
  | unknown
  deriving DecidableEq, Repr

def stringToLedgerUpdateDeltaType (s : Bytes) : LedgerUpdateDeltaType :=
  if s = utf8 "funding" then .funding
  else if s = utf8 "deposit" then .deposit
  else if s = utf8 "withdraw" then .withdraw
  else if s = utf8 "accountClassTransfer" then .accountClassTransfer
  else if s = utf8 "internalTransfer" then .internalTransfer
  else if s = utf8 "subAccountTransfer" then .subAccountTransfer
  else if s = utf8 "spotTransfer" then .spotTransfer
  else .unknown

structure LedgerUpdateDelta where
  type : LedgerUpdateDeltaType := .unknown
  coin : Option Bytes := none
  fundingRate : Option Double := none
  szi : Option Double := none
  nSamples : Option Double := none
  usdc : Option Double := none
  fee : Option Double := none
  nonce : Option UInt64 := none
  toPerp : Option Bool := none
  user : Option Bytes := none
  destination : Option Bytes := none
  token : Option Bytes := none
  amount : Option Double := none
  usdcValue : Option Double := none
  nativeTokenFee : Option Double := none
  rawJson : Option Bytes := none

structure LedgerUpdateEntry where
  time : UInt64 := 0
  hash : Bytes := []
  delta : LedgerUpdateDelta := {}

structure UserFundingLedgerUpdateResponse where
  updates : List LedgerUpdateEntry := []

structure PerpAnnotationResponse where
  category : Bytes := []
  description : Bytes := []

structure PerpCategoryEntry where
  coin : Bytes := []
  category : Bytes := []

structure PerpCategoriesResponse where
  categories : List PerpCategoryEntry := []

structure PerpConciseAnnotationEntry where
  coin : Bytes := []
  category : Bytes := []
  keywords : List Bytes := []

structure PerpConciseAnnotationsResponse where
  annotations : List PerpConciseAnnotationEntry := []

structure MarginTier where
  lowerBound : Double := .zero
  maxLeverage : Int32 := 0

structure MarginTableEntry where
  id : Int32 := 0
  description : Bytes := []
  marginTiers : List MarginTier := []

structure PerpDexMeta where
  «universe» : List AssetMeta := []
  marginTables : List MarginTableEntry := []
  collateralToken : Int32 := 0

structure AllPerpMetasResponse where
  dexMetas : List PerpDexMeta := []

structure RestBookLevel where
  px : Bytes := []
  sz : Bytes := []
  n : Int32 := 0

structure L2BookResponse where
  coin : Bytes := []
  time : UInt64 := 0
  bids : List RestBookLevel := []
  asks : List RestBookLevel := []

structure CandleSnapshotResponse where
  candles : List Candle := []

structure RecentTrade where
  coin : Bytes := []
  side : UInt8 := 0
  px : Double := .zero
  sz : Double := .zero
  time : UInt64 := 0
  hash : Bytes := []
  tid : UInt64 := 0
  users : Bytes × Bytes := ([], [])

structure RecentTradesResponse where
  trades : List RecentTrade := []

structure AllMidsResponse where
  mids : List AllMidsEntry := []

structure OpenOrdersResponse where
  orders : List OpenOrder := []

structure OrderStatusOrder where
  order : OpenOrder := {}
  status : OrderStatus := .open
  statusTimestamp : UInt64 := 0

structure OrderStatusResponse where
  status : Bytes := []
  order : Option OrderStatusOrder := none

structure UserFillsResponse where
  fills : List Fill := []

structure UserRateLimitResponse where
  cumVlm : Double := .zero
  nRequestsUsed : Int64 := 0
  nRequestsCap : Int64 := 0
  nRequestsSurplus : Int64 := 0

structure MetaAndAssetCtxsResponse where
  «meta» : MetaResponse := {}
  assetCtxs : List PerpAssetCtx := []

structure SpotUniversePair where
  name : Bytes := []
  tokens : List Int32 := []
  index : Int32 := 0
  isCanonical : Bool := false

structure SpotMetaAndAssetCtxsMeta where
  tokens : List SpotAssetMeta := []
  «universe» : List SpotUniversePair := []

structure SpotMetaAndAssetCtxsResponse where
  «meta» : SpotMetaAndAssetCtxsMeta := {}
  assetCtxs : List SpotAssetCtx := []

structure SpotClearinghouseStateResponse where
  balances : List SpotBalance := []

inductive FrontendOrderType where
  | market
  | limit
  | stopMarket
  | stopLimit
  | takeProfitMarket
  | takeProfitLimit
  | unknown
  deriving DecidableEq, Repr

def stringToFrontendOrderType (s : Bytes) : FrontendOrderType :=
  if s = utf8 "Market" then .market
  else if s = utf8 "Limit" then .limit
  else if s = utf8 "Stop Market" then .stopMarket
  else if s = utf8 "Stop Limit" then .stopLimit
  else if s = utf8 "Take Profit Market" then .takeProfitMarket
  else if s = utf8 "Take Profit Limit" then .takeProfitLimit
  else .unknown

inductive OrderTif where
  | gtc
  | ioc
  | alo
  | frontendMarket
  | liquidationMarket
  | unknown
  deriving DecidableEq, Repr

def stringToOrderTif (s : Bytes) : OrderTif :=
  if s = utf8 "Gtc" then .gtc
  else if s = utf8 "Ioc" then .ioc
  else if s = utf8 "Alo" then .alo
  else if s = utf8 "FrontendMarket" then .frontendMarket
  else if s = utf8 "Liquidation Market" then .liquidationMarket
  else .unknown

structure FrontendOrder where
  coin : Bytes := []
  side : UInt8 := 0
  limitPx : Double := .zero
  sz : Double := .zero
  oid : UInt64 := 0
  timestamp : UInt64 := 0
  origSz : Double := .zero
  cloid : Bytes := []
  isPositionTpsl : Bool := false
  isTrigger : Bool := false
  triggerPx : Double := .zero
  triggerCondition : Bytes := []
  reduceOnly : Bool := false
  orderType : FrontendOrderType := .market
  tif : Option OrderTif := none

structure FrontendOpenOrdersResponse where
  orders : List FrontendOrder := []

structure HistoricalOrder where
  order : FrontendOrder := {}
  status : OrderStatus := .open
  statusTimestamp : UInt64 := 0

structure HistoricalOrdersResponse where
  orders : List HistoricalOrder := []

structure UserTwapSliceFillsResponse where
  fills : List TwapSliceFill := []

structure TwapHistoryResponse where
  history : List TwapHistoryEntry := []

structure SubAccount where
  name : Bytes := []
  subAccountUser : Bytes := []
  master : Bytes := []
  clearinghouseState : ClearinghouseState := {}
  spotState : SpotClearinghouseStateResponse := {}

structure SubAccountsResponse where
  subAccounts : List SubAccount := []

structure DailyUserVolume where
  date : Bytes := []
  userCross : Double := .zero
  userAdd : Double := .zero
  exchange : Double := .zero

structure FeeTierVip where
  ntlCutoff : Double := .zero
  cross : Double := .zero
  add : Double := .zero
  spotCross : Double := .zero
  spotAdd : Double := .zero

structure FeeTierMm where
  makerFractionCutoff : Double := .zero
  add : Double := .zero

structure StakingDiscountTier where
  bpsOfMaxSupply : Double := .zero
  discount : Double := .zero

structure FeeSchedule where
  cross : Double := .zero
  add : Double := .zero
  spotCross : Double := .zero
  spotAdd : Double := .zero
  vipTiers : List FeeTierVip := []
  mmTiers : List FeeTierMm := []
  referralDiscount : Double := .zero
  stakingDiscountTiers : List StakingDiscountTier := []

structure StakingLink where
  type : Bytes := []
  stakingUser : Bytes := []

structure ActiveStakingDiscount where
  bpsOfMaxSupply : Double := .zero
  discount : Double := .zero

structure UserFeesResponse where
  dailyUserVlm : List DailyUserVolume := []
  feeSchedule : FeeSchedule := {}
  userCrossRate : Double := .zero
  userAddRate : Double := .zero
  userSpotCrossRate : Double := .zero
  userSpotAddRate : Double := .zero
  activeReferralDiscount : Double := .zero
  feeTrialEscrow : Double := .zero
  nextTrialAvailableTimestamp : Option UInt64 := none
  stakingLink : Option StakingLink := none
  activeStakingDiscount : Option ActiveStakingDiscount := none

structure MaxBuilderFeeResponse where
  maxFeeRateTenthsBps : Int32 := 0

structure ApprovedBuildersResponse where
  builders : List Bytes := []

inductive PortfolioPeriodType where
  | day
  | week
  | month
  | allTime
  | perpDay
  | perpWeek
  | perpMonth
  | perpAllTime
  | unknown
  deriving DecidableEq, Repr

def stringToPortfolioPeriodType (s : Bytes) : PortfolioPeriodType :=
  if s = utf8 "day" then .day
  else if s = utf8 "week" then .week
  else if s = utf8 "month" then .month
  else if s = utf8 "allTime" then .allTime
  else if s = utf8 "perpDay" then .perpDay
  else if s = utf8 "perpWeek" then .perpWeek
  else if s = utf8 "perpMonth" then .perpMonth
  else if s = utf8 "perpAllTime" then .perpAllTime
  else .unknown

structure PortfolioPeriodMetrics where
  period : PortfolioPeriodType := .day
  accountValueHistory : List (UInt64 × Double) := []
  pnlHistory : List (UInt64 × Double) := []
  vlm : Double := .zero

structure PortfolioResponse where
  periods : List PortfolioPeriodMetrics := []

structure VaultFollower where
  user : Bytes := []
  vaultEquity : Double := .zero
  pnl : Double := .zero
  allTimePnl : Double := .zero
  daysFollowing : Int32 := 0
  vaultEntryTime : UInt64 := 0
  lockupUntil : UInt64 := 0

structure VaultRelationship where
  type : Bytes := []
  childAddresses : List Bytes := []

structure VaultDetailsResponse where
  name : Bytes := []
  vaultAddress : Bytes := []
  leader : Bytes := []
  description : Bytes := []
  portfolio : List PortfolioPeriodMetrics := []
  apr : Double := .zero
  followerStateRaw : Option Bytes := none
  leaderFraction : Double := .zero
  leaderCommission : Double := .zero
  followers : List VaultFollower := []
  maxDistributable : Double := .zero
  maxWithdrawable : Double := .zero
  isClosed : Bool := false
  relationship : VaultRelationship := {}
  allowDeposits : Bool := false
  alwaysCloseOnWithdraw : Bool := false

structure UserVaultEquity where
  vaultAddress : Bytes := []
  equity : Double := .zero

structure UserVaultEquitiesResponse where
  equities : List UserVaultEquity := []

structure ReferredBy where
  referrer : Bytes := []
  code : Bytes := []

structure ReferralState where
  cumVlm : Double := .zero
  cumRewardedFeesSinceReferred : Double := .zero
  cumFeesRewardedToReferrer : Double := .zero
  timeJoined : UInt64 := 0
  user : Bytes := []

structure ReferrerState where
  stage : Bytes := []
  required : Option Double := none
  code : Option Bytes := none
  referralStates : List ReferralState := []

structure TokenRewardState where
  cumVlm : Double := .zero
  unclaimedRewards : Double := .zero
  claimedRewards : Double := .zero
  builderRewards : Double := .zero

structure ReferralResponse where
  referredBy : Option ReferredBy := none
  cumVlm : Double := .zero
  unclaimedRewards : Double := .zero
  claimedRewards : Double := .zero
  builderRewards : Double := .zero
  tokenToState : Option (Int32 × TokenRewardState) := none
  referrerState : Option ReferrerState := none

inductive UserRoleType where
  | user
  | agent
  | vault
  | subAccount
  | missing
  | unknown
  deriving DecidableEq, Repr

def stringToUserRoleType (s : Bytes) : UserRoleType :=
  if s = utf8 "user" then .user
  else if s = utf8 "agent" then .agent
  else if s = utf8 "vault" then .vault
  else if s = utf8 "subAccount" then .subAccount
  else if s = utf8 "missing" then .missing
  else .unknown

structure UserRoleResponse where
  role : UserRoleType := .user
  agentUser : Option Bytes := none
  subAccountMaster : Option Bytes := none

structure UserDexAbstractionResponse where
  enabled : Option Bool := none

inductive UserAbstractionState where
  | unifiedAccount
  | portfolioMargin
  | disabled
  | default
  | dexAbstraction
  | unknown
  deriving DecidableEq, Repr

def stringToUserAbstractionState (s : Bytes) : UserAbstractionState :=
  if s = utf8 "unifiedAccount" then .unifiedAccount
  else if s = utf8 "portfolioMargin" then .portfolioMargin
  else if s = utf8 "disabled" then .disabled
  else if s = utf8 "default" then .default
  else if s = utf8 "dexAbstraction" then .dexAbstraction
  else .unknown

structure UserAbstractionResponse where
  state : UserAbstractionState := .unifiedAccount

structure OrderStatusResting where
  oid : UInt64 := 0
  cloid : Option Bytes := none

structure OrderStatusFilled where
  totalSz : Bytes := []
  avgPx : Bytes := []
  oid : UInt64 := 0
  cloid : Option Bytes := none

structure OrderStatusResult where
  resting : Option OrderStatusResting := none
  filled : Option OrderStatusFilled := none
  error : Option Bytes := none

structure PlaceOrderResponse where
  status : Bytes := []
  type : Bytes := []
  statuses : List OrderStatusResult := []

structure CancelStatusResult where
  success : Option Bytes := none
  error : Option Bytes := none

structure CancelOrderResponse where
  status : Bytes := []
  type : Bytes := []
  statuses : List CancelStatusResult := []

structure ModifyOrderResponse where
  status : Bytes := []
  type : Bytes := []
  statuses : List OrderStatusResult := []

structure SimpleResponse where
  status : Bytes := []
  type : Bytes := []
  error : Option Bytes := none

structure TwapOrderResponse where
  status : Bytes := []
  type : Bytes := []
  twapId : Option UInt64 := none
  error : Option Bytes := none

structure CreateVaultResponse where
  status : Bytes := []
  type : Bytes := []
  vaultAddress : Option Bytes := none
  error : Option Bytes := none

structure TwapCancelResponse where
  status : Bytes := []
  type : Bytes := []
  success : Option Bytes := none
  error : Option Bytes := none

structure CreateSubAccountResponse where
  status : Bytes := []
  type : Bytes := []
  subAccountUser : Option Bytes := none
  error : Option Bytes := none

structure Delegation where
  validator : Bytes := []
  amount : Double := .zero
  lockedUntilTimestamp : UInt64 := 0

structure DelegationsResponse where
  delegations : List Delegation := []

structure DelegatorSummaryResponse where
  delegated : Double := .zero
  undelegated : Double := .zero
  totalPendingWithdrawal : Double := .zero
  nPendingWithdrawals : Int32 := 0

inductive DelegatorHistoryDeltaType where
  | delegate
  | cDeposit
  | withdrawal
  | unknown
  deriving DecidableEq, Repr

inductive WithdrawalPhase where
  | initiated
  | finalized
  | unknown
  deriving DecidableEq, Repr

def stringToWithdrawalPhase (s : Bytes) : WithdrawalPhase :=
  if s = utf8 "initiated" then .initiated
  else if s = utf8 "finalized" then .finalized
  else .unknown

structure DelegatorHistoryDelta where
  type : DelegatorHistoryDeltaType := .delegate
  validator : Bytes := []
  amount : Double := .zero
  isUndelegate : Bool := false
  phase : WithdrawalPhase := .initiated

structure DelegatorHistoryEntry where
  time : UInt64 := 0
  hash : Bytes := []
  delta : DelegatorHistoryDelta := {}

structure DelegatorHistoryResponse where
  history : List DelegatorHistoryEntry := []

inductive DelegatorRewardSource where
  | delegation
  | commission
  | unknown
  deriving DecidableEq, Repr

def stringToDelegatorRewardSource (s : Bytes) : DelegatorRewardSource :=
  if s = utf8 "delegation" then .delegation
  else if s = utf8 "commission" then .commission
  else .unknown

structure DelegatorReward where
  time : UInt64 := 0
  source : DelegatorRewardSource := .delegation
  totalAmount : Double := .zero

structure DelegatorRewardsResponse where
  rewards : List DelegatorReward := []

structure BorrowLendReserveState where
  borrowYearlyRate : Double := .zero
  supplyYearlyRate : Double := .zero
  balance : Double := .zero
  utilization : Double := .zero
  oraclePx : Double := .zero
  ltv : Double := .zero
  totalSupplied : Double := .zero
  totalBorrowed : Double := .zero

structure BorrowLendReserveEntry where
  token : Int32 := 0
  state : BorrowLendReserveState := {}

structure AllBorrowLendReserveStatesResponse where
  reserves : List BorrowLendReserveEntry := []

structure BorrowLendPositionSide where
  basis : Double := .zero
  value : Double := .zero

structure BorrowLendUserPosition where
  token : Int32 := 0
  borrow : BorrowLendPositionSide := {}
  supply : BorrowLendPositionSide := {}

structure BorrowLendUserStateResponse where
  tokenToState : List BorrowLendUserPosition := []
  health : Bytes := []
  healthFactor : Option Double := none

structure UserBorrowLendInterestEntry where
  time : UInt64 := 0
  token : Bytes := []
  borrow : Double := .zero
  supply : Double := .zero

structure UserBorrowLendInterestResponse where
  interest : List UserBorrowLendInterestEntry := []

structure LiquidatableEntry where
  user : Bytes := []
  isolatedAsset : Int32 := 0
  marginAvailable : Double × Double := (.zero, .zero)

structure LiquidatableResponse where
  positions : List LiquidatableEntry := []

structure PerpDexLimitsCoinCap where
  coin : Bytes := []
  oiCap : Double := .zero

structure PerpDexLimitsResponse where
  «exists» : Bool := false
  totalOiCap : Double := .zero
  oiSzCapPerPerp : Double := .zero
  maxTransferNtl : Double := .zero
  coinToOiCap : List PerpDexLimitsCoinCap := []

structure PerpDexStatusResponse where
  «exists» : Bool := false
  totalNetDeposit : Double := .zero

structure PerpDeployAuctionStatusResponse where
  startTimeSeconds : UInt64 := 0
  durationSeconds : UInt64 := 0
  startGas : Double := .zero
  currentGas : Option Double := none
  endGas : Option Double := none

structure SpotPairDeployAuctionStatusResponse where
  startTimeSeconds : UInt64 := 0
  durationSeconds : UInt64 := 0
  startGas : Double := .zero
  currentGas : Option Double := none
  endGas : Option Double := none

structure SpotDeployStateTokenSpec where
  name : Bytes := []
  szDecimals : Int32 := 0
  weiDecimals : Int32 := 0

structure SpotDeployStateGenesisBalance where
  address : Bytes := []
  balance : Double := .zero

structure SpotDeployStateExistingTokenBalance where
  token : Int32 := 0
  balance : Double := .zero

structure SpotDeployStateEntry where
  token : Int32 := 0
  spec : SpotDeployStateTokenSpec := {}
  fullName : Option Bytes := none
  deployerTradingFeeShare : Double := .zero
  spots : List Int32 := []
  maxSupply : Option Double := none
  hyperliquidityGenesisBalance : Double := .zero
  totalGenesisBalanceWei : Double := .zero
  userGenesisBalances : List SpotDeployStateGenesisBalance := []
  existingTokenGenesisBalances : List SpotDeployStateExistingTokenBalance := []
  blacklistUsers : List Bytes := []

structure SpotDeployStateResponse where
  states : List SpotDeployStateEntry := []
  gasAuction : SpotPairDeployAuctionStatusResponse := {}

end HyperliquidSdk
