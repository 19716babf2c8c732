import HyperliquidSdk.Messages.ExchangeRequestBuilder

/-!
# Building info requests

`InfoRequestBuilder.cpp`.
-/

set_option autoImplicit false

namespace HyperliquidSdk.Messages

open Foundation

def infoBody (type : RestEndpointType) (members : List (String × Json)) : Json :=
  .object (("type", .text type.toString) :: members)

def l2Book (coin : Bytes) (nSigFigs mantissa : Option Int32) : Json :=
  infoBody .l2Book ([("coin", .string coin)] ++ optionalMember "nSigFigs" (nSigFigs.map int) ++
    optionalMember "mantissa" (mantissa.map int))

/-- `OrderId`. -/
inductive OrderId where
  | oid (value : UInt64)
  | cloid (value : Bytes)
  deriving DecidableEq, Repr

def OrderId.json : OrderId → Json
  | .oid value => .unsigned value
  | .cloid value => .string value

namespace InfoRequestBuilder

def userBody (type : RestEndpointType) (user : Bytes) : Json :=
  infoBody type [("user", .string user)]

def dexBody (type : RestEndpointType) (dex : Option Bytes) : Json :=
  infoBody type (optionalMember "dex" (dex.map .string))

def userDexBody (type : RestEndpointType) (user : Bytes) (dex : Option Bytes) : Json :=
  infoBody type ([("user", .string user)] ++ optionalMember "dex" (dex.map .string))

/-- A user or a coin, from a time on. -/
def rangeBody (type : RestEndpointType) (key : String) (subject : Bytes) (startTime : UInt64)
    (endTime : Option UInt64) : Json :=
  infoBody type ([(key, .string subject), ("startTime", .unsigned startTime)] ++
    optionalMember "endTime" (endTime.map .unsigned))

def spotMeta : Json := infoBody .spotMeta []

def «meta» (dex : Option Bytes) : Json := dexBody .«meta» dex

def outcomeMeta : Json := infoBody .outcomeMeta []

def settledOutcome (outcome : Int32) : Json :=
  infoBody .settledOutcome [("outcome", int outcome)]

def perpDexs : Json := infoBody .perpDexs []

def perpsAtOpenInterestCap (dex : Option Bytes) : Json := dexBody .perpsAtOpenInterestCap dex

def predictedFundings : Json := infoBody .predictedFundings []

def perpAnnotation (coin : Bytes) : Json :=
  infoBody RestEndpointType.perpAnnotation [("coin", .string coin)]

def perpCategories : Json := infoBody .perpCategories []

def perpConciseAnnotations : Json := infoBody .perpConciseAnnotations []

def allPerpMetas : Json := infoBody .allPerpMetas []

def perpDexLimits (dex : Bytes) : Json :=
  infoBody .perpDexLimits [("dex", .string dex)]

def perpDexStatus (dex : Bytes) : Json :=
  infoBody .perpDexStatus [("dex", .string dex)]

def perpDeployAuctionStatus : Json := infoBody .perpDeployAuctionStatus []

def userFunding (user : Bytes) (startTime : UInt64) (endTime : Option UInt64) : Json :=
  rangeBody .userFunding "user" user startTime endTime

def userNonFundingLedgerUpdates (user : Bytes) (startTime : UInt64) (endTime : Option UInt64) :
    Json :=
  rangeBody .userNonFundingLedgerUpdates "user" user startTime endTime

def fundingHistory (coin : Bytes) (startTime : UInt64) (endTime : Option UInt64) : Json :=
  rangeBody .fundingHistory "coin" coin startTime endTime

def candleSnapshot (coin interval : Bytes) (startTime endTime : UInt64) : Json :=
  infoBody .candleSnapshot
    [("req", .object [("coin", .string coin), ("interval", .string interval),
    ("startTime", .unsigned startTime), ("endTime", .unsigned endTime)])]

def recentTrades (coin : Bytes) : Json :=
  infoBody .recentTrades [("coin", .string coin)]

def allMids (dex : Option Bytes) : Json := dexBody .allMids dex

def openOrders (user : Bytes) (dex : Option Bytes) : Json := userDexBody .openOrders user dex

def orderStatus (user : Bytes) (oid : OrderId) : Json :=
  infoBody .orderStatus [("user", .string user), ("oid", oid.json)]

def userFills (user : Bytes) (aggregateByTime : Option Bool) (dex : Option Bytes) : Json :=
  infoBody .userFills ([("user", .string user)] ++ optionalMember "aggregateByTime"
    (aggregateByTime.map .boolean) ++ optionalMember "dex" (dex.map .string))

def userFillsByTime (user : Bytes) (startTime : UInt64) (endTime : Option UInt64)
    (aggregateByTime : Option Bool) (dex : Option Bytes) : Json :=
  infoBody .userFillsByTime ([("user", .string user), ("startTime", .unsigned startTime)] ++
    optionalMember "endTime" (endTime.map .unsigned) ++ optionalMember "aggregateByTime"
    (aggregateByTime.map .boolean) ++ optionalMember "dex" (dex.map .string))

def clearinghouseState (user : Bytes) (dex : Option Bytes) : Json :=
  userDexBody .clearinghouseState user dex

def userRateLimit (user : Bytes) : Json := userBody .userRateLimit user

def borrowLendUserState (user : Bytes) : Json := userBody .borrowLendUserState user

def metaAndAssetCtxs (dex : Option Bytes) : Json := dexBody .metaAndAssetCtxs dex

def spotMetaAndAssetCtxs : Json := infoBody .spotMetaAndAssetCtxs []

def spotClearinghouseState (user : Bytes) (dex : Option Bytes) : Json :=
  userDexBody .spotClearinghouseState user dex

def spotDeployState (user : Bytes) : Json := userBody .spotDeployState user

def spotPairDeployAuctionStatus : Json := infoBody .spotPairDeployAuctionStatus []

def frontendOpenOrders (user : Bytes) (dex : Option Bytes) : Json :=
  userDexBody .frontendOpenOrders user dex

def historicalOrders (user : Bytes) : Json := userBody .historicalOrders user

def userTwapSliceFills (user : Bytes) : Json := userBody .userTwapSliceFills user

def userTwapSliceFillsByTime (user : Bytes) (startTime : UInt64) (endTime : Option UInt64)
    (aggregateByTime : Option Bool) : Json :=
  infoBody .userTwapSliceFillsByTime
    ([("user", .string user), ("startTime", .unsigned startTime)] ++ optionalMember "endTime"
    (endTime.map .unsigned) ++ optionalMember "aggregateByTime" (aggregateByTime.map .boolean))

def twapHistory (user : Bytes) : Json := userBody .twapHistory user

def activeAssetData (user coin : Bytes) : Json :=
  infoBody .activeAssetData [("user", .string user), ("coin", .string coin)]

def subAccounts (user : Bytes) : Json := userBody .subAccounts user

def userFees (user : Bytes) : Json := userBody .userFees user

def maxBuilderFee (user builder : Bytes) : Json :=
  infoBody .maxBuilderFee [("user", .string user), ("builder", .string builder)]

def approvedBuilders (user : Bytes) : Json := userBody .approvedBuilders user

def delegations (user : Bytes) : Json := userBody .delegations user

def delegatorSummary (user : Bytes) : Json := userBody .delegatorSummary user

def delegatorHistory (user : Bytes) : Json := userBody .delegatorHistory user

def delegatorRewards (user : Bytes) : Json := userBody .delegatorRewards user

def vaultDetails (vaultAddress : Bytes) (user : Option Bytes) : Json :=
  infoBody .vaultDetails ([("vaultAddress", .string vaultAddress)] ++ optionalMember "user"
    (user.map .string))

def userVaultEquities (user : Bytes) : Json := userBody .userVaultEquities user

def portfolio (user : Bytes) : Json := userBody .portfolio user

def referral (user : Bytes) : Json := userBody .referral user

def userRole (user : Bytes) : Json := userBody .userRole user

def borrowLendReserveState (token : Int32) : Json :=
  infoBody .borrowLendReserveState [("token", int token)]

def allBorrowLendReserveStates : Json := infoBody .allBorrowLendReserveStates []

def userBorrowLendInterest (user : Bytes) (startTime : UInt64) (endTime : Option UInt64) : Json :=
  rangeBody .userBorrowLendInterest "user" user startTime endTime

def liquidatable : Json := infoBody .liquidatable []

def userDexAbstractionState (user : Bytes) : Json := userBody .userDexAbstractionState user

def userAbstraction (user : Bytes) : Json := userBody .userAbstraction user

def exchangeStatus : Json := infoBody .exchangeStatus []

end InfoRequestBuilder

end HyperliquidSdk.Messages
