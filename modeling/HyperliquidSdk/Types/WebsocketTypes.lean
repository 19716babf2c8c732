import HyperliquidSdk.Types.ResponseTypes

/-!
# Types of the subscription messages

What `WebsocketMessageParser` gives to its handler, as in `ResponseTypes.h`, where it is
not also a part of a response, and the subscription types of `RequestTypes.h`. The default
of a field is its value-initialised one; a field that can be left without a value is
optional here, and `none` if never assigned.
-/

set_option autoImplicit false

namespace HyperliquidSdk

open Foundation

inductive SubscriptionType where
  | l2Book
  | bbo
  | trades
  | candle
  | allMids
  | notification
  | webData3
  | twapStates
  | clearingHouseState
  | openOrders
  | orderUpdates
  | userEvents
  | userFills
  | userFundings
  | userNonFundingLedgerUpdates
  | activeAssetCtx
  | activeAssetData
  | userTwapSliceFills
  | userTwapHistory
  | spotState
  | allDexsClearinghouseState
  | allDexsAssetCtxs
  | fastAssetCtxs
  | outcomeMetaUpdates
  | unknown
  deriving DecidableEq, Repr

def stringToSubscriptionType (type : Bytes) : SubscriptionType :=
  if type = utf8 "l2Book" then .l2Book
  else if type = utf8 "bbo" then .bbo
  else if type = utf8 "trades" then .trades
  else if type = utf8 "candle" then .candle
  else if type = utf8 "allMids" then .allMids
  else if type = utf8 "notification" then .notification
  else if type = utf8 "webData3" then .webData3
  else if type = utf8 "twapStates" then .twapStates
  else if type = utf8 "clearinghouseState" then .clearingHouseState
  else if type = utf8 "openOrders" then .openOrders
  else if type = utf8 "orderUpdates" then .orderUpdates
  else if type = utf8 "userEvents" then .userEvents
  else if type = utf8 "userFills" then .userFills
  else if type = utf8 "userFundings" then .userFundings
  else if type = utf8 "userNonFundingLedgerUpdates" then .userNonFundingLedgerUpdates
  else if type = utf8 "activeAssetCtx" then .activeAssetCtx
  else if type = utf8 "activeAssetData" then .activeAssetData
  else if type = utf8 "userTwapSliceFills" then .userTwapSliceFills
  else if type = utf8 "userTwapHistory" then .userTwapHistory
  else if type = utf8 "spotState" then .spotState
  else if type = utf8 "allDexsClearinghouseState" then .allDexsClearinghouseState
  else if type = utf8 "allDexsAssetCtxs" then .allDexsAssetCtxs
  else if type = utf8 "fastAssetCtxs" then .fastAssetCtxs
  else if type = utf8 "outcomeMetaUpdates" then .outcomeMetaUpdates
  else .unknown

inductive SubscriptionMethod where
  | subscribe
  | unsubscribe
  deriving DecidableEq, Repr

structure Subscription where
  type : SubscriptionType := .unknown

structure SubscriptionResponse where
  method : SubscriptionMethod := .subscribe
  subscription : Subscription := {}

inductive Side where
  | bid
  | ask
  deriving DecidableEq, Repr

structure PriceLevel where
  side : Option Side := none
  px : Bytes := []
  sz : Bytes := []
  n : Int32 := 0

def L2_BOOK_MAX_LEVELS : Nat := 50

structure L2BookSnapshot where
  coin : Bytes := []
  time : UInt64 := 0
  bids : Vector PriceLevel L2_BOOK_MAX_LEVELS := .replicate L2_BOOK_MAX_LEVELS {}
  asks : Vector PriceLevel L2_BOOK_MAX_LEVELS := .replicate L2_BOOK_MAX_LEVELS {}
  numBids : UInt8 := 0
  numAsks : UInt8 := 0

structure BboUpdate where
  coin : Bytes := []
  time : UInt64 := 0
  hasBid : Bool := false
  bid : PriceLevel := {}
  hasAsk : Bool := false
  ask : PriceLevel := {}

structure Trade where
  coin : Bytes := []
  side : UInt8 := 0
  px : Bytes := []
  sz : Bytes := []
  time : UInt64 := 0
  tid : UInt64 := 0
  hash : Bytes := []
  buyer : Bytes := []
  seller : Bytes := []

structure OrderUpdate where
  coin : Bytes := []
  side : UInt8 := 0
  limitPx : Double := .zero
  sz : Double := .zero
  oid : UInt64 := 0
  timestamp : UInt64 := 0
  origSz : Double := .zero
  cloid : Bytes := []
  status : OrderStatus := .open
  statusTimestamp : UInt64 := 0

structure UserFunding where
  time : UInt64 := 0
  coin : Bytes := []
  usdc : Double := .zero
  szi : Double := .zero
  fundingRate : Double := .zero
  isSnapshot : Bool := false

structure Liquidation where
  lid : UInt64 := 0
  liquidator : Bytes := []
  liquidatedUser : Bytes := []
  liquidatedNtlPos : Double := .zero
  liquidatedAccountValue : Double := .zero

structure NonUserCancel where
  coin : Bytes := []
  oid : UInt64 := 0

structure ClearinghouseStateUpdate where
  dex : Bytes := []
  user : Bytes := []
  state : ClearinghouseState := {}

structure OpenOrdersUpdate where
  dex : Bytes := []
  user : Bytes := []
  orders : List OpenOrder := []

structure TwapStatesUpdate where
  dex : Bytes := []
  user : Bytes := []
  states : List TwapState := []

inductive LedgerUpdateType where
  | deposit
  | withdraw
  | internalTransfer
  | subAccountTransfer
  | liquidation
  | vaultCreate
  | vaultDeposit
  | vaultDistribution
  | vaultWithdraw
  | vaultLeaderCommission
  | spotTransfer
  | accountClassTransfer
  | spotGenesis
  | rewardsClaim
  | send
  | unknown
  deriving DecidableEq, Repr

def stringToLedgerUpdateType (s : Bytes) : LedgerUpdateType :=
  if s = utf8 "deposit" then .deposit
  else if s = utf8 "withdraw" then .withdraw
  else if s = utf8 "internalTransfer" then .internalTransfer
  else if s = utf8 "subAccountTransfer" then .subAccountTransfer
  else if s = utf8 "liquidation" then .liquidation
  else if s = utf8 "vaultCreate" then .vaultCreate
  else if s = utf8 "vaultDeposit" then .vaultDeposit
  else if s = utf8 "vaultDistribution" then .vaultDistribution
  else if s = utf8 "vaultWithdraw" then .vaultWithdraw
  else if s = utf8 "vaultLeaderCommission" then .vaultLeaderCommission
  else if s = utf8 "spotTransfer" then .spotTransfer
  else if s = utf8 "accountClassTransfer" then .accountClassTransfer
  else if s = utf8 "spotGenesis" then .spotGenesis
  else if s = utf8 "rewardsClaim" then .rewardsClaim
  else if s = utf8 "send" then .send
  else .unknown

structure LiquidatedPosition where
  coin : Bytes := []
  szi : Double := .zero

structure LedgerUpdate where
  time : UInt64 := 0
  hash : Bytes := []
  type : LedgerUpdateType := .deposit
  usdc : Double := .zero
  user : Bytes := []
  destination : Bytes := []
  vault : Bytes := []
  token : Bytes := []
  fee : Double := .zero
  amount : Double := .zero
  usdcValue : Double := .zero
  nonce : UInt64 := 0
  toPerp : Bool := false
  sourceDex : Bytes := []
  destinationDex : Bytes := []
  nativeTokenFee : Double := .zero
  feeToken : Bytes := []
  accountValue : Double := .zero
  leverageType : LeverageType := .cross
  liquidatedPositions : List LiquidatedPosition := []
  requestedUsd : Double := .zero
  commission : Double := .zero
  closingCost : Double := .zero
  basis : Double := .zero
  netWithdrawnUsd : Double := .zero
  isSnapshot : Bool := false

structure Notification where
  notification : Bytes := []

structure SpotStateUpdate where
  user : Bytes := []
  balances : List SpotBalance := []

structure DexClearinghouseState where
  dex : Bytes := []
  state : ClearinghouseState := {}

structure AllDexsClearinghouseStateUpdate where
  user : Bytes := []
  states : List DexClearinghouseState := []

structure DexAssetCtxs where
  dex : Bytes := []
  ctxs : List PerpAssetCtx := []

structure AllDexsAssetCtxsUpdate where
  dexs : List DexAssetCtxs := []

structure FastAssetCtx where
  coin : Bytes := []
  hasMarkPx : Bool := false
  markPx : Double := .zero
  hasMidPx : Bool := false
  midPx : Double := .zero

structure LeadingVault where
  address : Bytes := []
  name : Bytes := []

structure PerpDexState where
  totalVaultEquity : Double := .zero
  perpsAtOpenInterestCap : List Bytes := []
  leadingVaults : List LeadingVault := []

structure WebData3UserState where
  agentAddress : Option Bytes := none
  agentValidUntil : Option UInt64 := none
  serverTime : UInt64 := 0
  cumLedger : Double := .zero
  isVault : Bool := false
  user : Bytes := []
  optOutOfSpotDusting : Bool := false
  dexAbstractionEnabled : Bool := false

structure WebData3Update where
  userState : Option WebData3UserState := none
  perpDexStates : List PerpDexState := []
  raw : Bytes := []

inductive OutcomeMetaUpdateType where
  | outcomeCreated
  | outcomeSettled
  | questionUpdated
  | questionSettled
  | unknown
  deriving DecidableEq, Repr

structure QuestionSpec where
  question : Int32 := 0
  name : Bytes := []
  description : Bytes := []
  fallbackOutcome : Int32 := 0
  namedOutcomes : List Int32 := []
  settledNamedOutcomes : List Int32 := []

structure OutcomeMetaUpdate where
  type : OutcomeMetaUpdateType := .outcomeCreated
  outcome : Outcome := { outcome := some 0 }
  settledOutcome : Int32 := 0
  question : QuestionSpec := {}
  settledQuestion : Int32 := 0

end HyperliquidSdk
