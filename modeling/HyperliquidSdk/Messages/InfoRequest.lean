import HyperliquidSdk.Messages.InfoRequestBuilder
import HyperliquidSdk.Signing.SignedBody

/-!
# The info methods

One constructor for each info method of `RestApi` and `WebsocketApi`, with its arguments,
and a reader of the bodies that they send. Preparing a body leaves what it asks for as it is,
with one exception.
-/

set_option autoImplicit false

namespace HyperliquidSdk.Messages

open Foundation Signing

inductive InfoRequest where
  | spotMeta
  | «meta» (dex : Option Bytes)
  | outcomeMeta
  | settledOutcome (outcome : Int32)
  | perpDexs
  | perpsAtOpenInterestCap (dex : Option Bytes)
  | predictedFundings
  | perpAnnotation (coin : Bytes)
  | perpCategories
  | perpConciseAnnotations
  | allPerpMetas
  | perpDexLimits (dex : Bytes)
  | perpDexStatus (dex : Bytes)
  | perpDeployAuctionStatus
  | userFunding (user : Bytes) (startTime : UInt64) (endTime : Option UInt64)
  | userNonFundingLedgerUpdates (user : Bytes) (startTime : UInt64) (endTime : Option UInt64)
  | fundingHistory (coin : Bytes) (startTime : UInt64) (endTime : Option UInt64)
  | l2Book (coin : Bytes) (nSigFigs mantissa : Option Int32)
  | candleSnapshot (coin interval : Bytes) (startTime endTime : UInt64)
  | recentTrades (coin : Bytes)
  | allMids (dex : Option Bytes)
  | openOrders (user : Bytes) (dex : Option Bytes)
  | orderStatus (user : Bytes) (oid : OrderId)
  | userFills (user : Bytes) (aggregateByTime : Option Bool) (dex : Option Bytes)
  | userFillsByTime (user : Bytes) (startTime : UInt64) (endTime : Option UInt64)
      (aggregateByTime : Option Bool) (dex : Option Bytes)
  | clearinghouseState (user : Bytes) (dex : Option Bytes)
  | userRateLimit (user : Bytes)
  | borrowLendUserState (user : Bytes)
  | metaAndAssetCtxs (dex : Option Bytes)
  | spotMetaAndAssetCtxs
  | spotClearinghouseState (user : Bytes) (dex : Option Bytes)
  | spotDeployState (user : Bytes)
  | spotPairDeployAuctionStatus
  | frontendOpenOrders (user : Bytes) (dex : Option Bytes)
  | historicalOrders (user : Bytes)
  | userTwapSliceFills (user : Bytes)
  | userTwapSliceFillsByTime (user : Bytes) (startTime : UInt64) (endTime : Option UInt64)
      (aggregateByTime : Option Bool)
  | twapHistory (user : Bytes)
  | activeAssetData (user coin : Bytes)
  | subAccounts (user : Bytes)
  | userFees (user : Bytes)
  | maxBuilderFee (user builder : Bytes)
  | approvedBuilders (user : Bytes)
  | delegations (user : Bytes)
  | delegatorSummary (user : Bytes)
  | delegatorHistory (user : Bytes)
  | delegatorRewards (user : Bytes)
  | vaultDetails (vaultAddress : Bytes) (user : Option Bytes)
  | userVaultEquities (user : Bytes)
  | portfolio (user : Bytes)
  | referral (user : Bytes)
  | userRole (user : Bytes)
  | borrowLendReserveState (token : Int32)
  | allBorrowLendReserveStates
  | userBorrowLendInterest (user : Bytes) (startTime : UInt64) (endTime : Option UInt64)
  | liquidatable
  | userDexAbstractionState (user : Bytes)
  | userAbstraction (user : Bytes)
  | exchangeStatus
  deriving DecidableEq, Repr

namespace InfoRequest

/-- The endpoint that both classes send the request to. -/
def endpoint : InfoRequest → RestEndpointType
  | .spotMeta => .spotMeta
  | .«meta» .. => .«meta»
  | .outcomeMeta => .outcomeMeta
  | .settledOutcome .. => .settledOutcome
  | .perpDexs => .perpDexs
  | .perpsAtOpenInterestCap .. => .perpsAtOpenInterestCap
  | .predictedFundings => .predictedFundings
  | InfoRequest.perpAnnotation .. => RestEndpointType.perpAnnotation
  | .perpCategories => .perpCategories
  | .perpConciseAnnotations => .perpConciseAnnotations
  | .allPerpMetas => .allPerpMetas
  | .perpDexLimits .. => .perpDexLimits
  | .perpDexStatus .. => .perpDexStatus
  | .perpDeployAuctionStatus => .perpDeployAuctionStatus
  | .userFunding .. => .userFunding
  | .userNonFundingLedgerUpdates .. => .userNonFundingLedgerUpdates
  | .fundingHistory .. => .fundingHistory
  | .l2Book .. => .l2Book
  | .candleSnapshot .. => .candleSnapshot
  | .recentTrades .. => .recentTrades
  | .allMids .. => .allMids
  | .openOrders .. => .openOrders
  | .orderStatus .. => .orderStatus
  | .userFills .. => .userFills
  | .userFillsByTime .. => .userFillsByTime
  | .clearinghouseState .. => .clearinghouseState
  | .userRateLimit .. => .userRateLimit
  | .borrowLendUserState .. => .borrowLendUserState
  | .metaAndAssetCtxs .. => .metaAndAssetCtxs
  | .spotMetaAndAssetCtxs => .spotMetaAndAssetCtxs
  | .spotClearinghouseState .. => .spotClearinghouseState
  | .spotDeployState .. => .spotDeployState
  | .spotPairDeployAuctionStatus => .spotPairDeployAuctionStatus
  | .frontendOpenOrders .. => .frontendOpenOrders
  | .historicalOrders .. => .historicalOrders
  | .userTwapSliceFills .. => .userTwapSliceFills
  | .userTwapSliceFillsByTime .. => .userTwapSliceFillsByTime
  | .twapHistory .. => .twapHistory
  | .activeAssetData .. => .activeAssetData
  | .subAccounts .. => .subAccounts
  | .userFees .. => .userFees
  | .maxBuilderFee .. => .maxBuilderFee
  | .approvedBuilders .. => .approvedBuilders
  | .delegations .. => .delegations
  | .delegatorSummary .. => .delegatorSummary
  | .delegatorHistory .. => .delegatorHistory
  | .delegatorRewards .. => .delegatorRewards
  | .vaultDetails .. => .vaultDetails
  | .userVaultEquities .. => .userVaultEquities
  | .portfolio .. => .portfolio
  | .referral .. => .referral
  | .userRole .. => .userRole
  | .borrowLendReserveState .. => .borrowLendReserveState
  | .allBorrowLendReserveStates => .allBorrowLendReserveStates
  | .userBorrowLendInterest .. => .userBorrowLendInterest
  | .liquidatable => .liquidatable
  | .userDexAbstractionState .. => .userDexAbstractionState
  | .userAbstraction .. => .userAbstraction
  | .exchangeStatus => .exchangeStatus

/-- The body that both classes send. -/
def build : InfoRequest → Json
  | .spotMeta => InfoRequestBuilder.spotMeta
  | .«meta» dex => InfoRequestBuilder.«meta» dex
  | .outcomeMeta => InfoRequestBuilder.outcomeMeta
  | .settledOutcome outcome => InfoRequestBuilder.settledOutcome outcome
  | .perpDexs => InfoRequestBuilder.perpDexs
  | .perpsAtOpenInterestCap dex => InfoRequestBuilder.perpsAtOpenInterestCap dex
  | .predictedFundings => InfoRequestBuilder.predictedFundings
  | InfoRequest.perpAnnotation coin => InfoRequestBuilder.perpAnnotation coin
  | .perpCategories => InfoRequestBuilder.perpCategories
  | .perpConciseAnnotations => InfoRequestBuilder.perpConciseAnnotations
  | .allPerpMetas => InfoRequestBuilder.allPerpMetas
  | .perpDexLimits dex => InfoRequestBuilder.perpDexLimits dex
  | .perpDexStatus dex => InfoRequestBuilder.perpDexStatus dex
  | .perpDeployAuctionStatus => InfoRequestBuilder.perpDeployAuctionStatus
  | .userFunding user startTime endTime => InfoRequestBuilder.userFunding user startTime endTime
  | .userNonFundingLedgerUpdates user startTime endTime =>
      InfoRequestBuilder.userNonFundingLedgerUpdates user startTime endTime
  | .fundingHistory coin startTime endTime => InfoRequestBuilder.fundingHistory coin startTime
      endTime
  | .l2Book coin nSigFigs mantissa => Messages.l2Book coin nSigFigs mantissa
  | .candleSnapshot coin interval startTime endTime => InfoRequestBuilder.candleSnapshot coin
      interval startTime endTime
  | .recentTrades coin => InfoRequestBuilder.recentTrades coin
  | .allMids dex => InfoRequestBuilder.allMids dex
  | .openOrders user dex => InfoRequestBuilder.openOrders user dex
  | .orderStatus user oid => InfoRequestBuilder.orderStatus user oid
  | .userFills user aggregateByTime dex => InfoRequestBuilder.userFills user aggregateByTime dex
  | .userFillsByTime user startTime endTime aggregateByTime dex =>
      InfoRequestBuilder.userFillsByTime user startTime endTime aggregateByTime dex
  | .clearinghouseState user dex => InfoRequestBuilder.clearinghouseState user dex
  | .userRateLimit user => InfoRequestBuilder.userRateLimit user
  | .borrowLendUserState user => InfoRequestBuilder.borrowLendUserState user
  | .metaAndAssetCtxs dex => InfoRequestBuilder.metaAndAssetCtxs dex
  | .spotMetaAndAssetCtxs => InfoRequestBuilder.spotMetaAndAssetCtxs
  | .spotClearinghouseState user dex => InfoRequestBuilder.spotClearinghouseState user dex
  | .spotDeployState user => InfoRequestBuilder.spotDeployState user
  | .spotPairDeployAuctionStatus => InfoRequestBuilder.spotPairDeployAuctionStatus
  | .frontendOpenOrders user dex => InfoRequestBuilder.frontendOpenOrders user dex
  | .historicalOrders user => InfoRequestBuilder.historicalOrders user
  | .userTwapSliceFills user => InfoRequestBuilder.userTwapSliceFills user
  | .userTwapSliceFillsByTime user startTime endTime aggregateByTime =>
      InfoRequestBuilder.userTwapSliceFillsByTime user startTime endTime aggregateByTime
  | .twapHistory user => InfoRequestBuilder.twapHistory user
  | .activeAssetData user coin => InfoRequestBuilder.activeAssetData user coin
  | .subAccounts user => InfoRequestBuilder.subAccounts user
  | .userFees user => InfoRequestBuilder.userFees user
  | .maxBuilderFee user builder => InfoRequestBuilder.maxBuilderFee user builder
  | .approvedBuilders user => InfoRequestBuilder.approvedBuilders user
  | .delegations user => InfoRequestBuilder.delegations user
  | .delegatorSummary user => InfoRequestBuilder.delegatorSummary user
  | .delegatorHistory user => InfoRequestBuilder.delegatorHistory user
  | .delegatorRewards user => InfoRequestBuilder.delegatorRewards user
  | .vaultDetails vaultAddress user => InfoRequestBuilder.vaultDetails vaultAddress user
  | .userVaultEquities user => InfoRequestBuilder.userVaultEquities user
  | .portfolio user => InfoRequestBuilder.portfolio user
  | .referral user => InfoRequestBuilder.referral user
  | .userRole user => InfoRequestBuilder.userRole user
  | .borrowLendReserveState token => InfoRequestBuilder.borrowLendReserveState token
  | .allBorrowLendReserveStates => InfoRequestBuilder.allBorrowLendReserveStates
  | .userBorrowLendInterest user startTime endTime => InfoRequestBuilder.userBorrowLendInterest
      user startTime endTime
  | .liquidatable => InfoRequestBuilder.liquidatable
  | .userDexAbstractionState user => InfoRequestBuilder.userDexAbstractionState user
  | .userAbstraction user => InfoRequestBuilder.userAbstraction user
  | .exchangeStatus => InfoRequestBuilder.exchangeStatus

/-! ## Reading a body -/

def asString : Json → Option Bytes
  | .string value => some value
  | _ => none

def asUnsigned : Json → Option UInt64
  | .unsigned value => some value
  | _ => none

def asInt : Json → Option Int32
  | .integer value => some value.toInt32
  | _ => none

def asBoolean : Json → Option Bool
  | .boolean value => some value
  | _ => none

def asOrderId : Json → Option OrderId
  | .unsigned value => some (.oid value)
  | .string value => some (.cloid value)
  | _ => none

def stringOf (key : String) (json : Json) : Option Bytes := (json.member? key).bind asString

def unsignedOf (key : String) (json : Json) : Option UInt64 :=
  (json.member? key).bind asUnsigned

def intOf (key : String) (json : Json) : Option Int32 := (json.member? key).bind asInt

def booleanOf (key : String) (json : Json) : Option Bool := (json.member? key).bind asBoolean

def orderIdOf (key : String) (json : Json) : Option OrderId :=
  (json.member? key).bind asOrderId

/-- The request that a body of the given type makes. -/
def readAs (json : Json) : RestEndpointType → Option InfoRequest
  | .spotMeta => some .spotMeta
  | .«meta» => return .«meta» (stringOf "dex" json)
  | .outcomeMeta => some .outcomeMeta
  | .settledOutcome => return .settledOutcome (← intOf "outcome" json)
  | .perpDexs => some .perpDexs
  | .perpsAtOpenInterestCap => return .perpsAtOpenInterestCap (stringOf "dex" json)
  | .predictedFundings => some .predictedFundings
  | RestEndpointType.perpAnnotation => return InfoRequest.perpAnnotation (← stringOf "coin" json)
  | .perpCategories => some .perpCategories
  | .perpConciseAnnotations => some .perpConciseAnnotations
  | .allPerpMetas => some .allPerpMetas
  | .perpDexLimits => return .perpDexLimits (← stringOf "dex" json)
  | .perpDexStatus => return .perpDexStatus (← stringOf "dex" json)
  | .perpDeployAuctionStatus => some .perpDeployAuctionStatus
  | .userFunding =>
      return .userFunding (← stringOf "user" json) (← unsignedOf "startTime" json)
        (unsignedOf "endTime" json)
  | .userNonFundingLedgerUpdates =>
      return .userNonFundingLedgerUpdates (← stringOf "user" json)
        (← unsignedOf "startTime" json) (unsignedOf "endTime" json)
  | .fundingHistory =>
      return .fundingHistory (← stringOf "coin" json) (← unsignedOf "startTime" json)
        (unsignedOf "endTime" json)
  | .l2Book =>
      return .l2Book (← stringOf "coin" json) (intOf "nSigFigs" json) (intOf "mantissa" json)
  | .candleSnapshot => do
      let req ← json.member? "req"
      return .candleSnapshot (← stringOf "coin" req) (← stringOf "interval" req)
        (← unsignedOf "startTime" req) (← unsignedOf "endTime" req)
  | .recentTrades => return .recentTrades (← stringOf "coin" json)
  | .allMids => return .allMids (stringOf "dex" json)
  | .openOrders => return .openOrders (← stringOf "user" json) (stringOf "dex" json)
  | .orderStatus => return .orderStatus (← stringOf "user" json) (← orderIdOf "oid" json)
  | .userFills =>
      return .userFills (← stringOf "user" json) (booleanOf "aggregateByTime" json)
        (stringOf "dex" json)
  | .userFillsByTime =>
      return .userFillsByTime (← stringOf "user" json) (← unsignedOf "startTime" json)
        (unsignedOf "endTime" json) (booleanOf "aggregateByTime" json) (stringOf "dex" json)
  | .clearinghouseState =>
      return .clearinghouseState (← stringOf "user" json) (stringOf "dex" json)
  | .userRateLimit => return .userRateLimit (← stringOf "user" json)
  | .borrowLendUserState => return .borrowLendUserState (← stringOf "user" json)
  | .metaAndAssetCtxs => return .metaAndAssetCtxs (stringOf "dex" json)
  | .spotMetaAndAssetCtxs => some .spotMetaAndAssetCtxs
  | .spotClearinghouseState =>
      return .spotClearinghouseState (← stringOf "user" json) (stringOf "dex" json)
  | .spotDeployState => return .spotDeployState (← stringOf "user" json)
  | .spotPairDeployAuctionStatus => some .spotPairDeployAuctionStatus
  | .frontendOpenOrders =>
      return .frontendOpenOrders (← stringOf "user" json) (stringOf "dex" json)
  | .historicalOrders => return .historicalOrders (← stringOf "user" json)
  | .userTwapSliceFills => return .userTwapSliceFills (← stringOf "user" json)
  | .userTwapSliceFillsByTime =>
      return .userTwapSliceFillsByTime (← stringOf "user" json) (← unsignedOf "startTime" json)
        (unsignedOf "endTime" json) (booleanOf "aggregateByTime" json)
  | .twapHistory => return .twapHistory (← stringOf "user" json)
  | .activeAssetData =>
      return .activeAssetData (← stringOf "user" json) (← stringOf "coin" json)
  | .subAccounts => return .subAccounts (← stringOf "user" json)
  | .userFees => return .userFees (← stringOf "user" json)
  | .maxBuilderFee => return .maxBuilderFee (← stringOf "user" json) (← stringOf "builder" json)
  | .approvedBuilders => return .approvedBuilders (← stringOf "user" json)
  | .delegations => return .delegations (← stringOf "user" json)
  | .delegatorSummary => return .delegatorSummary (← stringOf "user" json)
  | .delegatorHistory => return .delegatorHistory (← stringOf "user" json)
  | .delegatorRewards => return .delegatorRewards (← stringOf "user" json)
  | .vaultDetails => return .vaultDetails (← stringOf "vaultAddress" json) (stringOf "user" json)
  | .userVaultEquities => return .userVaultEquities (← stringOf "user" json)
  | .portfolio => return .portfolio (← stringOf "user" json)
  | .referral => return .referral (← stringOf "user" json)
  | .userRole => return .userRole (← stringOf "user" json)
  | .borrowLendReserveState => return .borrowLendReserveState (← intOf "token" json)
  | .allBorrowLendReserveStates => some .allBorrowLendReserveStates
  | .userBorrowLendInterest =>
      return .userBorrowLendInterest (← stringOf "user" json) (← unsignedOf "startTime" json)
        (unsignedOf "endTime" json)
  | .liquidatable => some .liquidatable
  | .userDexAbstractionState => return .userDexAbstractionState (← stringOf "user" json)
  | .userAbstraction => return .userAbstraction (← stringOf "user" json)
  | .exchangeStatus => some .exchangeStatus
  | _ => none

def infoTypes : List RestEndpointType :=
  [.tokenDetails, .spotMeta, .«meta», .outcomeMeta, .settledOutcome, .perpDexs,
    .perpsAtOpenInterestCap, .predictedFundings, RestEndpointType.perpAnnotation,
    .perpCategories, .perpConciseAnnotations, .allPerpMetas, .perpDexLimits, .perpDexStatus,
    .perpDeployAuctionStatus, .userFunding, .userNonFundingLedgerUpdates, .fundingHistory, .l2Book, .candleSnapshot, .recentTrades,
    .allMids, .openOrders, .orderStatus, .userFills, .userFillsByTime, .clearinghouseState,
    .userRateLimit, .borrowLendUserState, .metaAndAssetCtxs, .spotMetaAndAssetCtxs,
    .spotClearinghouseState, .spotDeployState, .spotPairDeployAuctionStatus, .frontendOpenOrders,
    .historicalOrders, .userTwapSliceFills, .userTwapSliceFillsByTime, .twapHistory,
    .activeAssetData, .subAccounts, .userFees, .maxBuilderFee, .approvedBuilders, .delegations,
    .delegatorSummary, .delegatorHistory, .delegatorRewards, .vaultDetails, .userVaultEquities,
    .portfolio, .referral, .userRole, .borrowLendReserveState, .allBorrowLendReserveStates,
    .userBorrowLendInterest, .liquidatable, .userDexAbstractionState, .userAbstraction,
    .exchangeStatus]

/-- The endpoint that a body names. -/
def typeOf (json : Json) : Option RestEndpointType :=
  (stringOf "type" json).bind fun text => infoTypes.find? fun type => utf8 type.toString = text

/-- The request that a body makes. -/
def read (json : Json) : Option InfoRequest := (typeOf json).bind (readAs json)

theorem find?_toString : ∀ type ∈ infoTypes,
    (infoTypes.find? fun other => utf8 other.toString = utf8 type.toString) = some type := by
  decide

theorem mem_infoTypes {type : RestEndpointType} (info : type.isAuthenticated = false) :
    type ∈ infoTypes := by
  revert info
  cases type <;> decide

theorem endpoint_isAuthenticated (request : InfoRequest) :
    request.endpoint.isAuthenticated = false := by
  cases request <;> rfl

theorem lookup_optionalMember_append (key other : String) (value : Option Json)
    (rest : List (String × Json)) :
    (optionalMember key value ++ rest).lookup other =
      if other = key then value.or (rest.lookup other) else rest.lookup other := by
  cases value with
  | none => simp [optionalMember]
  | some value =>
      by_cases same : other = key
      · subst same
        simp [optionalMember]
      · rw [if_neg same]
        exact Json.lookup_cons_of_ne same

theorem lookup_optionalMember (key other : String) (value : Option Json) :
    (optionalMember key value).lookup other = if other = key then value else none := by
  have appended := lookup_optionalMember_append key other value []
  rw [List.append_nil] at appended
  simpa using appended

section Members

variable {α : Type} {write : α → Json} {read : Json → Option α}

/-- An optional member that was written is read, and one that was not is not. -/
theorem map_bind_read (inverse : ∀ value, read (write value) = some value) (value : Option α) :
    (value.map write).bind read = value := by
  cases value with
  | none => rfl
  | some value => exact inverse value

end Members

theorem readAs_build (request : InfoRequest) :
    readAs request.build request.endpoint = some request := by
  have strings := @map_bind_read _ .string asString fun _ => rfl
  have numbers := @map_bind_read _ .unsigned asUnsigned fun _ => rfl
  have flags := @map_bind_read _ .boolean asBoolean fun _ => rfl
  have ints := @map_bind_read _ int asInt fun value => congrArg some (Int32.toInt32_toInt64 value)
  cases request with
  | orderStatus user oid =>
      cases oid with
      | oid value => rfl
      | cloid value => rfl
  | «meta» dex | perpsAtOpenInterestCap dex | allMids dex | metaAndAssetCtxs dex =>
      simp [readAs, build, endpoint, InfoRequestBuilder.«meta»,
        InfoRequestBuilder.perpsAtOpenInterestCap, InfoRequestBuilder.allMids,
        InfoRequestBuilder.metaAndAssetCtxs, InfoRequestBuilder.dexBody, infoBody, stringOf,
        lookup_optionalMember, List.lookup_cons, strings]
  | openOrders user dex | clearinghouseState user dex | spotClearinghouseState user dex
  | frontendOpenOrders user dex =>
      simp [readAs, build, endpoint, InfoRequestBuilder.openOrders,
        InfoRequestBuilder.clearinghouseState, InfoRequestBuilder.spotClearinghouseState,
        InfoRequestBuilder.frontendOpenOrders, InfoRequestBuilder.userDexBody, infoBody, stringOf,
        asString, lookup_optionalMember, List.lookup_cons, strings]
  | userFunding subject startTime endTime | userNonFundingLedgerUpdates subject startTime endTime
  | fundingHistory subject startTime endTime | userBorrowLendInterest subject startTime endTime =>
      simp [readAs, build, endpoint, InfoRequestBuilder.userFunding,
        InfoRequestBuilder.userNonFundingLedgerUpdates, InfoRequestBuilder.fundingHistory,
        InfoRequestBuilder.userBorrowLendInterest, InfoRequestBuilder.rangeBody, infoBody, stringOf,
        unsignedOf, asString, asUnsigned, lookup_optionalMember, List.lookup_cons, numbers]
  | userFills user aggregateByTime dex =>
      simp [readAs, build, endpoint, InfoRequestBuilder.userFills, infoBody, stringOf, booleanOf,
        asString, lookup_optionalMember, lookup_optionalMember_append, List.lookup_cons, strings,
        flags]
  | userFillsByTime user startTime endTime aggregateByTime dex =>
      simp [readAs, build, endpoint, InfoRequestBuilder.userFillsByTime, infoBody, stringOf,
        unsignedOf, booleanOf, asString, asUnsigned, lookup_optionalMember,
        lookup_optionalMember_append, List.lookup_cons, strings, numbers, flags]
  | userTwapSliceFillsByTime user startTime endTime aggregateByTime =>
      simp [readAs, build, endpoint, InfoRequestBuilder.userTwapSliceFillsByTime, infoBody,
        stringOf, unsignedOf, booleanOf, asString, asUnsigned, lookup_optionalMember,
        lookup_optionalMember_append, List.lookup_cons, numbers, flags]
  | l2Book coin nSigFigs mantissa =>
      simp [readAs, build, endpoint, Messages.l2Book, infoBody, stringOf, intOf, asString,
        lookup_optionalMember, lookup_optionalMember_append, List.lookup_cons, ints]
  | vaultDetails vaultAddress user =>
      simp [readAs, build, endpoint, InfoRequestBuilder.vaultDetails, infoBody, stringOf, asString,
        lookup_optionalMember, List.lookup_cons, strings]
  | settledOutcome outcome =>
      exact congrArg (some ∘ settledOutcome) (Int32.toInt32_toInt64 outcome)
  | borrowLendReserveState token =>
      exact congrArg (some ∘ borrowLendReserveState) (Int32.toInt32_toInt64 token)
  | _ => rfl

/-! ## What preparing a body changes -/

/-- Only the request for the details of a vault reads the member `vaultAddress`. -/
theorem readAs_congr {json other : Json} {type : RestEndpointType}
    (same : ∀ key, key ≠ "vaultAddress" → json.member? key = other.member? key)
    (plain : type ≠ .vaultDetails) : readAs json type = readAs other type := by
  have strings (key : String) (different : key ≠ "vaultAddress") :
      stringOf key json = stringOf key other := congrArg (·.bind asString) (same key different)
  have numbers (key : String) (different : key ≠ "vaultAddress") :
      unsignedOf key json = unsignedOf key other :=
    congrArg (·.bind asUnsigned) (same key different)
  have ints (key : String) (different : key ≠ "vaultAddress") :
      intOf key json = intOf key other := congrArg (·.bind asInt) (same key different)
  have flags (key : String) (different : key ≠ "vaultAddress") :
      booleanOf key json = booleanOf key other :=
    congrArg (·.bind asBoolean) (same key different)
  have ids : orderIdOf "oid" json = orderIdOf "oid" other :=
    congrArg (·.bind asOrderId) (same "oid" (by decide))
  cases type with
  | vaultDetails => exact absurd rfl plain
  | _ => simp [readAs, strings, numbers, ints, flags, ids, same]

theorem typeOf_build (request : InfoRequest) :
    stringOf "type" request.build = some (utf8 request.endpoint.toString) := by
  cases request <;> rfl

/-- The request that is sent for a request under a configured vault. -/
def redirected (vault : Option Bytes) : InfoRequest → InfoRequest
  | .vaultDetails vaultAddress user => .vaultDetails (vault.getD vaultAddress) user
  | request => request

theorem prepareBodyForType_info (primitives : Primitives) (config : ApiConfig)
    (request : InfoRequest) (nonce : UInt64) :
    prepareBodyForType primitives config request.endpoint request.build none none nonce =
      request.build.setOptional "vaultAddress" (config.vaultAddress.map .string) := by
  have info := request.endpoint_isAuthenticated
  have notApproveAgent : request.endpoint ≠ .approveAgent := by
    intro same
    rw [same] at info
    cases info
  have notUserSigned : request.endpoint.isUserSignedAction = false := by
    cases request <;> rfl
  have fallback : allowConfigVaultFallback request.endpoint = true := by
    cases request <;> rfl
  have vault : effectiveVault config request.endpoint none = config.vaultAddress := if_pos fallback
  rw [prepareBodyForType_l1 _ _ _ _ _ _ _ notApproveAgent notUserSigned, prepareBody, vault, info]
  cases request.build.setOptional "vaultAddress" (config.vaultAddress.map .string) with
  | error exception => rfl
  | ok json => rfl

theorem build_object (request : InfoRequest) : ∃ members, request.build = .object members := by
  cases request <;> exact ⟨_, rfl⟩

/-- A body that differs at most in the member `vaultAddress` names the same endpoint. -/
theorem read_eq_readAs (request : InfoRequest) {json : Json}
    (same : ∀ key, key ≠ "vaultAddress" → json.member? key = request.build.member? key) :
    read json = readAs json request.endpoint := by
  have named : stringOf "type" json = some (utf8 request.endpoint.toString) := by
    rw [stringOf, same "type" (by decide)]
    exact typeOf_build request
  have found := find?_toString _ (mem_infoTypes request.endpoint_isAuthenticated)
  rw [read, typeOf, named, Option.bind_some, found, Option.bind_some]

theorem read_vaulted (request : InfoRequest) {json : Json} {address : Bytes}
    (vaulted : request.build.set "vaultAddress" (.string address) = .ok json) :
    read json = some (request.redirected (some address)) := by
  obtain ⟨assigned, same⟩ := Json.set_eq_ok vaulted
  rw [read_eq_readAs request same]
  by_cases details : request.endpoint = .vaultDetails
  · cases request with
    | vaultDetails vaultAddress user =>
        have users : stringOf "user" json = user := by
          have kept : stringOf "user" json =
              stringOf "user" (build (.vaultDetails vaultAddress user)) :=
            congrArg (·.bind asString) (same "user" (by decide))
          rw [kept]
          cases user with
          | none => rfl
          | some user => rfl
        have address : stringOf "vaultAddress" json = some address :=
          congrArg (·.bind asString) assigned
        rw [endpoint, readAs, address, users]
        rfl
    | _ => cases details
  · rw [readAs_congr same details, readAs_build]
    cases request with
    | vaultDetails vaultAddress user => exact absurd rfl details
    | _ => rfl

theorem redirected_none (request : InfoRequest) : request.redirected none = request := by
  cases request <;> rfl

/-- Preparing an info request never fails, and needs no wallet; and what is sent reads as the
request that was made, except that the configured vault takes the place of the one whose
details are asked for. -/
theorem info_payload_reads_back (primitives : Primitives) (config : ApiConfig)
    (request : InfoRequest) (nonce : UInt64) :
    ∃ payload, prepareBodyForType primitives config request.endpoint request.build none none
        nonce = .ok payload ∧
      read payload = some (request.redirected config.vaultAddress) := by
  rw [prepareBodyForType_info]
  cases config.vaultAddress with
  | none =>
      refine ⟨request.build, rfl, ?_⟩
      rw [read_eq_readAs request (fun _ _ => rfl), readAs_build, redirected_none]
  | some address =>
      obtain ⟨members, built⟩ := request.build_object
      have vaulted : request.build.set "vaultAddress" (.string address) =
          .ok (.object (Json.assign "vaultAddress" (.string address) members)) := by
        rw [built]
        rfl
      exact ⟨_, vaulted, read_vaulted request vaulted⟩

end InfoRequest

end HyperliquidSdk.Messages
