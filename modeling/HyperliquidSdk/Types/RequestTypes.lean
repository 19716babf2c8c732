import HyperliquidSdk.Foundation.Binary64
import HyperliquidSdk.Foundation.Bytes

/-!
# Request types

The endpoint types with their three tables and the arguments of the exchange
actions, as in `RequestTypes.h`, and the part of `Config.h` that signing reads.
-/

set_option autoImplicit false

namespace HyperliquidSdk

open Foundation

inductive Environment where
  | mainnet
  | testnet
  deriving DecidableEq, Repr

inductive RestEndpointType where
  | «meta»
  | metaAndAssetCtxs
  | allMids
  | l2Book
  | candleSnapshot
  | recentTrades
  | openOrders
  | userFills
  | userFillsByTime
  | orderStatus
  | clearinghouseState
  | userRateLimit
  | perpDexs
  | frontendOpenOrders
  | historicalOrders
  | userTwapSliceFills
  | userTwapSliceFillsByTime
  | twapHistory
  | activeAssetData
  | subAccounts
  | userFees
  | maxBuilderFee
  | approvedBuilders
  | exchangeStatus
  | vaultDetails
  | userVaultEquities
  | portfolio
  | referral
  | userRole
  | perpsAtOpenInterestCap
  | predictedFundings
  | perpAnnotation
  | perpCategories
  | perpConciseAnnotations
  | allPerpMetas
  | perpDexLimits
  | perpDexStatus
  | perpDeployAuctionStatus
  | userFunding
  | userNonFundingLedgerUpdates
  | fundingHistory
  | outcomeMeta
  | settledOutcome
  | spotMeta
  | spotMetaAndAssetCtxs
  | spotClearinghouseState
  | spotDeployState
  | spotPairDeployAuctionStatus
  | tokenDetails
  | delegations
  | delegatorSummary
  | delegatorHistory
  | delegatorRewards
  | borrowLendUserState
  | borrowLendReserveState
  | allBorrowLendReserveStates
  | userBorrowLendInterest
  | liquidatable
  | userDexAbstractionState
  | userAbstraction
  | placeOrder
  | cancelOrder
  | cancelOrderByCloid
  | scheduleCancel
  | modifyOrder
  | batchModifyOrder
  | updateLeverage
  | updateIsolatedMargin
  | approveAgent
  | agentSetAbstraction
  | twapOrder
  | twapCancel
  | vaultTransfer
  | hip3LiquidatorTransfer
  | createSubAccount
  | subAccountTransfer
  | createVault
  | borrowLend
  | spotDeployRegisterToken2
  | spotDeployUserGenesis
  | spotDeployGenesis
  | spotDeployRegisterSpot
  | spotDeployRegisterHyperliquidity
  | perpDeployRegisterAsset2
  | usdClassTransfer
  | sendAsset
  | usdSend
  | spotSend
  | withdraw3
  | approveBuilderFee
  | userSetAbstraction
  | setReferrer
  | cDeposit
  | cWithdraw
  | tokenDelegate
  | sendToEvmWithData
  | userDexAbstraction
  | userPortfolioMargin
  | agentSendAsset
  | reserveRequestWeight
  | noop
  deriving DecidableEq, Repr

namespace RestEndpointType

def toString : RestEndpointType → String
  | .«meta» => "meta"
  | .metaAndAssetCtxs => "metaAndAssetCtxs"
  | .allMids => "allMids"
  | .l2Book => "l2Book"
  | .candleSnapshot => "candleSnapshot"
  | .recentTrades => "recentTrades"
  | .openOrders => "openOrders"
  | .userFills => "userFills"
  | .userFillsByTime => "userFillsByTime"
  | .orderStatus => "orderStatus"
  | .clearinghouseState => "clearinghouseState"
  | .userRateLimit => "userRateLimit"
  | .perpDexs => "perpDexs"
  | .frontendOpenOrders => "frontendOpenOrders"
  | .historicalOrders => "historicalOrders"
  | .userTwapSliceFills => "userTwapSliceFills"
  | .userTwapSliceFillsByTime => "userTwapSliceFillsByTime"
  | .twapHistory => "twapHistory"
  | .activeAssetData => "activeAssetData"
  | .subAccounts => "subAccounts"
  | .userFees => "userFees"
  | .maxBuilderFee => "maxBuilderFee"
  | .approvedBuilders => "approvedBuilders"
  | .exchangeStatus => "exchangeStatus"
  | .vaultDetails => "vaultDetails"
  | .userVaultEquities => "userVaultEquities"
  | .portfolio => "portfolio"
  | .referral => "referral"
  | .userRole => "userRole"
  | .perpsAtOpenInterestCap => "perpsAtOpenInterestCap"
  | .predictedFundings => "predictedFundings"
  | RestEndpointType.perpAnnotation => "perpAnnotation"
  | .perpCategories => "perpCategories"
  | .perpConciseAnnotations => "perpConciseAnnotations"
  | .allPerpMetas => "allPerpMetas"
  | .perpDexLimits => "perpDexLimits"
  | .perpDexStatus => "perpDexStatus"
  | .perpDeployAuctionStatus => "perpDeployAuctionStatus"
  | .userFunding => "userFunding"
  | .userNonFundingLedgerUpdates => "userNonFundingLedgerUpdates"
  | .fundingHistory => "fundingHistory"
  | .outcomeMeta => "outcomeMeta"
  | .settledOutcome => "settledOutcome"
  | .spotMeta => "spotMeta"
  | .spotMetaAndAssetCtxs => "spotMetaAndAssetCtxs"
  | .spotClearinghouseState => "spotClearinghouseState"
  | .spotDeployState => "spotDeployState"
  | .spotPairDeployAuctionStatus => "spotPairDeployAuctionStatus"
  | .tokenDetails => "tokenDetails"
  | .delegations => "delegations"
  | .delegatorSummary => "delegatorSummary"
  | .delegatorHistory => "delegatorHistory"
  | .delegatorRewards => "delegatorRewards"
  | .borrowLendUserState => "borrowLendUserState"
  | .borrowLendReserveState => "borrowLendReserveState"
  | .allBorrowLendReserveStates => "allBorrowLendReserveStates"
  | .userBorrowLendInterest => "userBorrowLendInterest"
  | .liquidatable => "liquidatable"
  | .userDexAbstractionState => "userDexAbstraction"
  | .userAbstraction => "userAbstraction"
  | .placeOrder => "order"
  | .cancelOrder => "cancel"
  | .cancelOrderByCloid => "cancelByCloid"
  | .scheduleCancel => "scheduleCancel"
  | .modifyOrder => "modify"
  | .batchModifyOrder => "batchModify"
  | .updateLeverage => "updateLeverage"
  | .updateIsolatedMargin => "updateIsolatedMargin"
  | .approveAgent => "approveAgent"
  | .agentSetAbstraction => "agentSetAbstraction"
  | .twapOrder => "twapOrder"
  | .twapCancel => "twapCancel"
  | .vaultTransfer => "vaultTransfer"
  | .hip3LiquidatorTransfer => "hip3LiquidatorTransfer"
  | .createSubAccount => "createSubAccount"
  | .subAccountTransfer => "subAccountTransfer"
  | .createVault => "createVault"
  | .borrowLend => "borrowLend"
  | .spotDeployRegisterToken2 => "spotDeploy"
  | .spotDeployUserGenesis => "spotDeploy"
  | .spotDeployGenesis => "spotDeploy"
  | .spotDeployRegisterSpot => "spotDeploy"
  | .spotDeployRegisterHyperliquidity => "spotDeploy"
  | .perpDeployRegisterAsset2 => "perpDeploy"
  | .usdClassTransfer => "usdClassTransfer"
  | .sendAsset => "sendAsset"
  | .usdSend => "usdSend"
  | .spotSend => "spotSend"
  | .withdraw3 => "withdraw3"
  | .approveBuilderFee => "approveBuilderFee"
  | .userSetAbstraction => "userSetAbstraction"
  | .setReferrer => "setReferrer"
  | .cDeposit => "cDeposit"
  | .cWithdraw => "cWithdraw"
  | .tokenDelegate => "tokenDelegate"
  | .sendToEvmWithData => "sendToEvmWithData"
  | .userDexAbstraction => "userDexAbstraction"
  | .userPortfolioMargin => "userPortfolioMargin"
  | .agentSendAsset => "agentSendAsset"
  | .reserveRequestWeight => "reserveRequestWeight"
  | .noop => "noop"

def isAuthenticated : RestEndpointType → Bool
  | .«meta» | .metaAndAssetCtxs | .allMids | .l2Book | .candleSnapshot | .recentTrades
  | .openOrders | .userFills | .userFillsByTime | .orderStatus | .clearinghouseState
  | .userRateLimit | .perpDexs | .frontendOpenOrders | .historicalOrders
  | .userTwapSliceFills | .userTwapSliceFillsByTime | .twapHistory | .activeAssetData
  | .subAccounts | .userFees | .maxBuilderFee | .approvedBuilders | .exchangeStatus
  | .vaultDetails | .userVaultEquities | .portfolio | .referral | .userRole
  | .perpsAtOpenInterestCap | .predictedFundings | RestEndpointType.perpAnnotation
  | .perpCategories | .perpConciseAnnotations | .allPerpMetas | .perpDexLimits | .perpDexStatus
  | .perpDeployAuctionStatus | .userFunding | .userNonFundingLedgerUpdates | .fundingHistory
  | .outcomeMeta | .settledOutcome | .spotMeta | .spotMetaAndAssetCtxs
  | .spotClearinghouseState | .spotDeployState | .spotPairDeployAuctionStatus | .tokenDetails
  | .delegations | .delegatorSummary | .delegatorHistory | .delegatorRewards
  | .borrowLendUserState | .borrowLendReserveState | .allBorrowLendReserveStates
  | .userBorrowLendInterest | .liquidatable | .userDexAbstractionState | .userAbstraction => false
  | .placeOrder | .cancelOrder | .cancelOrderByCloid | .scheduleCancel | .modifyOrder
  | .batchModifyOrder | .updateLeverage | .updateIsolatedMargin | .approveAgent
  | .agentSetAbstraction | .twapOrder | .twapCancel | .vaultTransfer
  | .hip3LiquidatorTransfer | .createSubAccount | .subAccountTransfer | .createVault
  | .borrowLend | .spotDeployRegisterToken2 | .spotDeployUserGenesis | .spotDeployGenesis
  | .spotDeployRegisterSpot | .spotDeployRegisterHyperliquidity | .perpDeployRegisterAsset2
  | .usdClassTransfer | .sendAsset | .usdSend | .spotSend | .withdraw3 | .approveBuilderFee
  | .userSetAbstraction | .setReferrer | .cDeposit | .cWithdraw | .tokenDelegate
  | .sendToEvmWithData | .userDexAbstraction | .userPortfolioMargin | .agentSendAsset
  | .reserveRequestWeight | .noop => true

def isUserSignedAction : RestEndpointType → Bool
  | .usdClassTransfer | .sendAsset | .usdSend | .spotSend | .withdraw3 | .approveBuilderFee
  | .userSetAbstraction | .cDeposit | .cWithdraw | .tokenDelegate | .sendToEvmWithData
  | .userDexAbstraction | .userPortfolioMargin => true
  | _ => false

end RestEndpointType

inductive Tif where
  | alo
  | ioc
  | gtc
  deriving DecidableEq, Repr

def Tif.toString : Tif → String
  | .alo => "Alo"
  | .ioc => "Ioc"
  | .gtc => "Gtc"

inductive TpSl where
  | tp
  | sl
  deriving DecidableEq, Repr

def TpSl.toString : TpSl → String
  | .tp => "tp"
  | .sl => "sl"

structure LimitOrderType where
  tif : Tif

structure TriggerOrderType where
  isMarket : Bool
  triggerPx : Double
  tpsl : TpSl

structure OrderRequest where
  asset : Bytes
  isBuy : Bool
  price : Double
  size : Double
  reduceOnly : Bool
  limit : Option LimitOrderType
  trigger : Option TriggerOrderType
  cloid : Option Bytes
  assetId : Option Int32

inductive Grouping where
  | na
  | normalTpsl
  | positionTpsl
  deriving DecidableEq, Repr

def Grouping.toString : Grouping → String
  | .na => "na"
  | .normalTpsl => "normalTpsl"
  | .positionTpsl => "positionTpsl"

structure CancelRequest where
  asset : Bytes
  oid : UInt64
  assetId : Option Int32

structure CancelByCloidRequest where
  asset : Bytes
  cloid : Bytes
  assetId : Option Int32

structure ModifyRequest where
  oid : Option UInt64
  cloid : Option Bytes
  order : OrderRequest

structure Builder where
  address : Bytes
  fee : Int32

structure UpdateLeverageRequest where
  asset : Bytes
  isCross : Bool
  leverage : Int32
  assetId : Option Int32

structure UpdateIsolatedMarginRequest where
  asset : Bytes
  isBuy : Bool
  ntli : Int64
  assetId : Option Int32

structure ApproveAgentRequest where
  agentAddress : Bytes
  agentName : Option Bytes

inductive UserAbstractionMode where
  | disabled
  | unifiedAccount
  | portfolioMargin
  deriving DecidableEq, Repr

def UserAbstractionMode.toString : UserAbstractionMode → String
  | .disabled => "i"
  | .unifiedAccount => "u"
  | .portfolioMargin => "p"

structure TwapOrderRequest where
  asset : Bytes
  isBuy : Bool
  size : Double
  reduceOnly : Bool
  minutes : Int32
  randomize : Bool
  assetId : Option Int32

structure TwapCancelRequest where
  asset : Bytes
  twapId : UInt64
  assetId : Option Int32

structure VaultTransferRequest where
  vaultAddress : Bytes
  isDeposit : Bool
  usd : Double

structure Hip3LiquidatorTransferRequest where
  dex : Bytes
  ntl : UInt64
  isDeposit : Bool

structure CreateSubAccountRequest where
  name : Bytes

structure SubAccountTransferRequest where
  subAccountUser : Bytes
  isDeposit : Bool
  usd : Double

inductive BorrowLendOperation where
  | supply
  | withdraw
  | repay
  | borrow
  deriving DecidableEq, Repr

def BorrowLendOperation.toString : BorrowLendOperation → String
  | .supply => "supply"
  | .withdraw => "withdraw"
  | .repay => "repay"
  | .borrow => "borrow"

structure BorrowLendRequest where
  operation : BorrowLendOperation
  token : UInt32
  amount : Option Double

structure SpotDeployTokenSpec where
  name : Bytes
  szDecimals : Int32
  weiDecimals : Int32

structure SpotDeployRegisterToken2Request where
  spec : SpotDeployTokenSpec
  maxGas : UInt64
  fullName : Option Bytes

structure SpotDeployUserGenesisRequest where
  token : Int32
  userAndWei : List (Bytes × Double)
  existingTokenAndWei : List (Int32 × Double)
  blacklistUsers : Option (List (Bytes × Bool))

structure SpotDeployGenesisRequest where
  token : Int32
  maxSupply : Double
  noHyperliquidity : Option Bool

structure SpotDeployRegisterSpotRequest where
  baseToken : Int32
  quoteToken : Int32

structure SpotDeployRegisterHyperliquidityRequest where
  spot : Int32
  startPx : Double
  orderSz : Double
  nOrders : Int32
  nSeededLevels : Option Int32

inductive PerpMarginMode where
  | strictIsolated
  | noCross
  | normal
  deriving DecidableEq, Repr

def PerpMarginMode.toString : PerpMarginMode → String
  | .strictIsolated => "strictIsolated"
  | .noCross => "noCross"
  | .normal => "normal"

structure PerpDeployAssetRequest where
  coin : Bytes
  szDecimals : UInt32
  oraclePx : Double
  marginTableId : UInt32
  marginMode : PerpMarginMode

structure PerpDeploySchema where
  fullName : Bytes
  collateralToken : UInt64
  oracleUpdater : Option Bytes

structure PerpDeployRegisterAsset2Request where
  maxGas : Option UInt64
  assetRequest : PerpDeployAssetRequest
  dex : Bytes
  schema : Option PerpDeploySchema

structure UsdClassTransferRequest where
  amount : Double
  toPerp : Bool

structure SendAssetRequest where
  destination : Bytes
  sourceDex : Bytes
  destinationDex : Bytes
  token : Bytes
  amount : Double
  fromSubAccount : Bytes

structure UsdSendRequest where
  destination : Bytes
  amount : Double

structure SpotSendRequest where
  destination : Bytes
  token : Bytes
  amount : Double

structure Withdraw3Request where
  destination : Bytes
  amount : Double

structure ApproveBuilderFeeRequest where
  maxFeeRate : Bytes
  builder : Bytes

inductive AbstractionMode where
  | disabled
  | unifiedAccount
  | portfolioMargin
  deriving DecidableEq, Repr

def AbstractionMode.toString : AbstractionMode → String
  | .disabled => "disabled"
  | .unifiedAccount => "unifiedAccount"
  | .portfolioMargin => "portfolioMargin"

structure UserSetAbstractionRequest where
  user : Bytes
  abstraction : AbstractionMode

structure TokenDelegateRequest where
  validator : Bytes
  wei : UInt64
  isUndelegate : Bool

inductive AddressEncoding where
  | hex
  | base58
  deriving DecidableEq, Repr

def AddressEncoding.toString : AddressEncoding → String
  | .hex => "hex"
  | .base58 => "base58"

structure SendToEvmWithDataRequest where
  token : Bytes
  amount : Bytes
  sourceDex : Bytes
  destinationRecipient : Bytes
  addressEncoding : AddressEncoding
  destinationChainId : UInt32
  gasLimit : UInt64
  data : Bytes

structure UserDexAbstractionRequest where
  user : Bytes
  enabled : Bool

structure UserPortfolioMarginRequest where
  user : Bytes
  enabled : Bool

structure AgentSendAssetRequest where
  destination : Bytes
  sourceDex : Bytes
  destinationDex : Bytes
  token : Bytes
  amount : Bytes
  fromSubAccount : Option Bytes

structure ReserveRequestWeightRequest where
  weight : Int32
  destination : Option Bytes

structure CreateVaultRequest where
  name : Bytes
  description : Bytes
  initialUsd : Double

structure SetReferrerRequest where
  code : Bytes

structure Wallet where
  accountAddress : Bytes
  privateKey : Bytes
  deriving DecidableEq, Repr

structure ApiConfig where
  env : Environment
  wallet : Option Wallet
  dexes : List Bytes := []
  vaultAddress : Option Bytes
  deriving DecidableEq, Repr

end HyperliquidSdk
