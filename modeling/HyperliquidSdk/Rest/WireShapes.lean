import HyperliquidSdk.Rest.OutcomeProperties
import HyperliquidSdk.Types.RequestTypes

/-!
# Shapes of response data

A shape says of a value which of its texts the standard library has to convert, and whether
a parser goes on behind it: a field that is missing or of another type ends the parser, so
that the texts after it are not converted. Shapes convert nothing themselves.
-/

set_option autoImplicit false

namespace HyperliquidSdk.Rest.Wire

open Foundation Foundation.OnDemand

variable {α β : Type}

/-! ## Texts -/

/-- A text that is converted. -/
inductive Text where
  | number (text : Bytes)
  | expiry (text : Bytes)
  deriving DecidableEq

/-- `std::stod` reads the number; the five parts of the expiry are there, and `std::stoi`
reads each of them. -/
def Text.Readable : Text → Prop
  | .number text => ∃ number, stod text = .ok number
  | .expiry text => ReadableExpiry text

def AllReadable (texts : List Text) : Prop := ∀ text ∈ texts, text.Readable

/-- What is to be converted, and what reading goes on with, unless it ends here. -/
structure Reading (α : Type) where
  texts : List Text
  result : Option α

namespace Reading

def done : Reading Unit := ⟨[], some ()⟩

/-- The parser ends here. -/
def stopped : Reading α := ⟨[], none⟩

def andThen (first : Reading α) (next : α → Reading β) : Reading β :=
  match first.result with
  | none => ⟨first.texts, none⟩
  | some value => ⟨first.texts ++ (next value).texts, (next value).result⟩

def ended (reading : Reading α) : Reading Unit := ⟨reading.texts, reading.result.map fun _ => ()⟩

/-- An error inside does not end what is around it. -/
def contained (reading : Reading α) : Reading Unit := ⟨reading.texts, some ()⟩

/-- One item after the other. -/
def each (read : β → Reading Unit) : List β → Reading Unit
  | [] => done
  | item :: items => (read item).andThen fun _ => each read items

end Reading

/-- An empty text is no number, and `toDouble` does not convert it. -/
def numberIn (text : Bytes) : Reading Unit :=
  ⟨if text.isEmpty then [] else [.number text], some ()⟩

/-! ## Values -/

abbrev Shape := Value → Reading Unit

/-- A field, or some of them, looked up from a place in an object. -/
abbrev Field := Object → Reading Object

/-- The second one is looked up from where the first one ends. -/
def Field.followedBy (first after : Field) : Field := fun object => (first object).andThen after

def readFields : List Field → Field
  | [] => fun object => ⟨[], some object⟩
  | field :: fields => field.followedBy (readFields fields)

def anything : Shape := fun _ => .done

/-- A value that has to be of a type, and what is read of it then. -/
def having (read : Value → Except Error α) (shape : α → Reading Unit) : Shape := fun value =>
  match read value with
  | .ok converted => shape converted
  | .error _ => .stopped

def ofType (read : Value → Except Error α) : Shape := having read fun _ => .done

/-- A string with a number in it. -/
def price : Shape := having Value.getString numberIn

/-- A number that may stand in a string. -/
def number : Shape := fun value =>
  match value.getString with
  | .ok text => numberIn text
  | .error _ => ofType Value.getDouble value

/-- The description of an outcome. -/
def description : Shape :=
  having Value.getString fun text => ⟨(expiriesOf text).map .expiry, some ()⟩

def nullOr (shape : Shape) : Shape := fun value => if value.isNull then .done else shape value

/-- A value that is left out if it is of another type. -/
def whenOf (read : Value → Except Error α) (shape : Shape) : Shape := fun value =>
  match read value with
  | .ok _ => shape value
  | .error _ => .done

def list (shape : Shape) : Shape := having Value.getArray (.each shape)

/-- An array of which at most two elements are read. -/
def pair (first second : Shape) : Shape := having Value.getArray fun
  | [] => .done
  | [firstValue] => first firstValue
  | firstValue :: secondValue :: _ => (first firstValue).andThen fun _ => second secondValue

/-- An array of which only the first element is read. -/
def head (shape : Shape) : Shape := having Value.getArray fun
  | [] => .done
  | first :: _ => shape first

def object (fields : List Field) : Shape :=
  having Value.getObject fun inner => (readFields fields inner).ended

/-- An object whose own errors are logged. -/
def triedObject (fields : List Field) : Shape :=
  having Value.getObject fun inner => (readFields fields inner).contained

/-- An object all of whose members are read, whatever their names are. -/
def members (shape : Bytes → Shape) : Shape :=
  having Value.getObject (.each fun member => shape member.1.unescaped member.2)

def logged (shape : Shape) : Shape := fun value => (shape value).contained

/-! ## Fields -/

/-- Read the member of the name if `take` has a use for it. -/
def lookup (key : String) (take : Value → Option (Reading Unit)) (otherwise : Field) : Field :=
  fun object =>
    match object.find (utf8 key) with
    | none => otherwise object
    | some (member, rest) =>
        match take member with
        | some reading => reading.andThen fun _ => ⟨[], some rest⟩
        | none => otherwise rest

def required (key : String) (shape : Shape) : Field :=
  lookup key (fun value => some (shape value)) fun _ => .stopped

def optional (key : String) (shape : Shape) : Field :=
  lookup key (fun value => some (shape value)) (readFields [])

/-- A member that is taken only if it is of the type. -/
def takenAs (read : Value → Except Error α) (shape : α → Reading Unit) (value : Value) :
    Option (Reading Unit) :=
  match read value with
  | .ok converted => some (shape converted)
  | .error _ => none

/-- A string that decides which fields follow. -/
def selecting (key : String) (fields : Bytes → List Field) : Field := fun object =>
  match object.find (utf8 key) with
  | none => .stopped
  | some (member, rest) =>
      match member.getString with
      | .ok text => readFields (fields text) rest
      | .error _ => .stopped

def textField (key : String) : Field := required key (ofType Value.getString)

def boolField (key : String) : Field := required key (ofType Value.getBool)

def uint64Field (key : String) : Field := required key (ofType Value.getUInt64)

def int64Field (key : String) : Field := required key (ofType Value.getInt64)

def intField (key : String) : Field := required key (ofType getInt)

def priceField (key : String) : Field := required key price

def numberField (key : String) : Field := required key number

/-- A price that is left out if it is null or no string. -/
def textNumberField (key : String) : Field :=
  optional key (nullOr (whenOf Value.getString price))

/-! ## Market responses -/

def assetMeta : List Field := [textField "name", intField "szDecimals", intField "maxLeverage"]

def midPx : Field := optional "midPx" (whenOf Value.getString price)

def perpAssetCtx : List Field :=
  [numberField "dayNtlVlm", numberField "prevDayPx", numberField "markPx", midPx,
    numberField "funding", numberField "openInterest", numberField "oraclePx"]

def metaAndAssetCtxs : Shape :=
  pair (object [required "universe" (list (object assetMeta))]) (list (object perpAssetCtx))

def flatAssetMeta (key : Bytes) : Shape :=
  if key = utf8 "name" then ofType Value.getString
  else if key = utf8 "szDecimals" then ofType getInt
  else if key = utf8 "maxLeverage" then ofType getInt
  else anything

def marginTier : List Field := [priceField "lowerBound", intField "maxLeverage"]

def marginTable : List Field :=
  [textField "description", required "marginTiers" (list (object marginTier))]

def perpDexMeta : List Field :=
  [required "universe" (list (members flatAssetMeta)),
    optional "marginTables"
      (whenOf Value.getArray (list (pair (ofType getInt) (object marginTable)))),
    optional "collateralToken" (nullOr (ofType getInt))]

def fundingVenue : List Field :=
  [optional "fundingRate" (nullOr number),
    optional "nextFundingTime" (nullOr (ofType Value.getUInt64))]

def predictedFundings : Shape :=
  list (pair (ofType Value.getString)
    (list (pair (ofType Value.getString) (nullOr (object fundingVenue)))))

def perpDexLimits : List Field :=
  [numberField "totalOiCap", numberField "oiSzCapPerPerp", numberField "maxTransferNtl",
    required "coinToOiCap" (list (pair (ofType Value.getString) price))]

def gasField (key : String) : Field := optional key (nullOr price)

def gasAuction : List Field :=
  [uint64Field "startTimeSeconds", uint64Field "durationSeconds", numberField "startGas",
    gasField "currentGas", gasField "endGas"]

def evmContract : List Field := [textField "address", intField "evm_extra_wei_decimals"]

def spotAssetMeta : List Field :=
  [textField "name", intField "szDecimals", intField "weiDecimals", intField "index",
    textField "tokenId", boolField "isCanonical",
    optional "evmContract" (nullOr (object evmContract)),
    optional "fullName" (nullOr (ofType Value.getString))]

def spotUniversePair : List Field :=
  [textField "name", required "tokens" (list (ofType getInt)), intField "index",
    boolField "isCanonical"]

def spotMeta : List Field :=
  [required "tokens" (list (object spotAssetMeta)),
    required "universe" (list (object spotUniversePair))]

def spotAssetCtx : List Field :=
  [numberField "dayNtlVlm", numberField "prevDayPx", numberField "markPx", midPx,
    optional "circulatingSupply" (nullOr number)]

def spotMetaAndAssetCtxs : Shape := pair (object spotMeta) (list (object spotAssetCtx))

def tokenSpec : List Field := [textField "name", intField "szDecimals", intField "weiDecimals"]

def spotDeployStateEntry : List Field :=
  [intField "token", required "spec" (object tokenSpec),
    optional "fullName" (nullOr (ofType Value.getString)), numberField "deployerTradingFeeShare",
    required "spots" (list (ofType getInt)), optional "maxSupply" (nullOr price),
    numberField "hyperliquidityGenesisBalance", numberField "totalGenesisBalanceWei",
    required "userGenesisBalances" (list (pair (ofType Value.getString) price)),
    required "existingTokenGenesisBalances" (list (pair (ofType getInt) price)),
    optional "blacklistUsers" (whenOf Value.getArray (list (ofType Value.getString)))]

def spotDeployState : List Field :=
  [required "states" (list (object spotDeployStateEntry)),
    required "gasAuction" (object gasAuction)]

def candle : List Field :=
  [textField "s", textField "i", uint64Field "t", uint64Field "T", numberField "o",
    numberField "c", numberField "h", numberField "l", numberField "v", intField "n"]

/-! ## Order responses -/

/-- The fee is written as a number or as a string. -/
def builderFee : Field :=
  lookup "builderFee" (takenAs Value.getDouble fun _ => .done)
    (optional "builderFee" (whenOf Value.getString price))

def liquidation : List Field :=
  [textField "liquidatedUser", priceField "markPx", textField "method"]

def fill : List Field :=
  [textField "coin", priceField "px", priceField "sz", textField "side", uint64Field "time",
    priceField "startPosition", textField "dir", priceField "closedPnl", textField "hash",
    uint64Field "oid", boolField "crossed", priceField "fee", uint64Field "tid",
    textField "feeToken", builderFee,
    optional "liquidation" (whenOf Value.getObject (object liquidation))]

def twapSliceFill : List Field := [required "fill" (object fill), intField "twapId"]

def twapState : List Field :=
  [textField "coin", textField "user", textField "side", numberField "sz",
    numberField "executedSz", numberField "executedNtl", intField "minutes",
    boolField "reduceOnly", boolField "randomize", uint64Field "timestamp"]

def twapStatus : List Field := [textField "status", optional "description" anything]

def twapHistoryEntry : List Field :=
  [uint64Field "time", required "state" (object twapState), required "status" (object twapStatus),
    uint64Field "twapId"]

def cloidField : Field := optional "cloid" (nullOr (ofType Value.getString))

def openOrder : List Field :=
  [textField "coin", textField "side", numberField "limitPx", numberField "sz",
    uint64Field "oid", uint64Field "timestamp", numberField "origSz", cloidField]

def orderStatusOrder : List Field :=
  [required "order" (object openOrder), textField "status", uint64Field "statusTimestamp"]

def orderStatus : List Field :=
  [textField "status", optional "order" (nullOr (object orderStatusOrder))]

def frontendOrder : List Field :=
  [textField "coin", textField "side", numberField "limitPx", numberField "sz",
    uint64Field "oid", uint64Field "timestamp", numberField "origSz", cloidField,
    boolField "isPositionTpsl", boolField "isTrigger", numberField "triggerPx",
    textField "triggerCondition", boolField "reduceOnly", textField "orderType",
    optional "tif" (nullOr (ofType Value.getString))]

def historicalOrder : List Field :=
  [required "order" (object frontendOrder), textField "status", uint64Field "statusTimestamp"]

/-! ## Outcome responses -/

def outcomeSideSpec : List Field := [textField "name", optional "token" anything]

def outcomeSpec : List Field :=
  [intField "outcome", textField "name", required "description" description,
    required "sideSpecs" (list (object outcomeSideSpec)), optional "quoteToken" anything,
    optional "deployer" anything]

def questionId : Field := lookup "active" (takenAs getInt fun _ => .done) (intField "settled")

def settledOutcomeQuestion : List Field :=
  [required "question" (object [questionId]), textField "name", textField "description"]

def settledOutcome : List Field :=
  [required "spec" (object outcomeSpec), priceField "settleFraction", textField "details",
    optional "question" (whenOf Value.getObject (object settledOutcomeQuestion))]

/-! ## Account responses -/

def marginSummary : List Field :=
  [priceField "accountValue", priceField "totalNtlPos", priceField "totalRawUsd",
    priceField "totalMarginUsed"]

def assetPosition : List Field :=
  [textField "coin", priceField "szi", priceField "entryPx", priceField "positionValue",
    priceField "unrealizedPnl", priceField "returnOnEquity", textNumberField "liquidationPx"]

def clearinghouseState : List Field :=
  [required "marginSummary" (object marginSummary),
    optional "crossMarginSummary" (nullOr (object marginSummary)),
    textNumberField "crossMaintenanceMarginUsed", priceField "withdrawable", uint64Field "time",
    required "assetPositions" (list (object [required "position" (object assetPosition)]))]

def spotBalance : List Field :=
  [textField "coin", intField "token", numberField "hold", numberField "total",
    numberField "entryNtl"]

def spotClearinghouseState : List Field := [required "balances" (list (object spotBalance))]

def subAccount : List Field :=
  [textField "name", textField "subAccountUser", textField "master",
    required "clearinghouseState" (triedObject clearinghouseState),
    required "spotState" (object spotClearinghouseState)]

def leverage : List Field :=
  [textField "type", numberField "value",
    lookup "rawUsd" (takenAs Value.getString numberIn) (optional "rawUsd" anything)]

def activeAssetData : List Field :=
  [textField "user", textField "coin", required "leverage" (object leverage),
    required "maxTradeSzs" (list number), required "availableToTrade" (list number),
    numberField "markPx"]

def dailyUserVolume : List Field :=
  [textField "date", numberField "userCross", numberField "userAdd", numberField "exchange"]

def feeTierVip : List Field :=
  [numberField "ntlCutoff", numberField "cross", numberField "add", numberField "spotCross",
    numberField "spotAdd"]

def feeTierMm : List Field := [numberField "makerFractionCutoff", numberField "add"]

def stakingDiscount : List Field := [numberField "bpsOfMaxSupply", numberField "discount"]

def feeTiers : List Field :=
  [required "vip" (list (object feeTierVip)), required "mm" (list (object feeTierMm))]

def feeSchedule : List Field :=
  [numberField "cross", numberField "add", numberField "spotCross", numberField "spotAdd",
    numberField "referralDiscount", required "tiers" (object feeTiers),
    required "stakingDiscountTiers" (list (object stakingDiscount))]

def stakingLink : List Field := [textField "type", textField "stakingUser"]

def userFees : List Field :=
  [required "dailyUserVlm" (list (object dailyUserVolume)),
    required "feeSchedule" (object feeSchedule), numberField "userCrossRate",
    numberField "userAddRate", numberField "userSpotCrossRate", numberField "userSpotAddRate",
    numberField "activeReferralDiscount", numberField "feeTrialEscrow",
    optional "nextTrialAvailableTimestamp" (nullOr (ofType Value.getUInt64)),
    optional "stakingLink" (nullOr (object stakingLink)),
    optional "activeStakingDiscount" (nullOr (object stakingDiscount))]

def userRateLimit : List Field :=
  [priceField "cumVlm", int64Field "nRequestsUsed", int64Field "nRequestsCap",
    int64Field "nRequestsSurplus"]

def portfolioPoints (key : String) : Field :=
  required key (list (pair (ofType Value.getUInt64) price))

def portfolioMetrics : List Field :=
  [portfolioPoints "accountValueHistory", portfolioPoints "pnlHistory", numberField "vlm"]

def portfolio : Shape := list (pair (ofType Value.getString) (object portfolioMetrics))

def vaultFollower : List Field :=
  [textField "user", numberField "vaultEquity", numberField "pnl", numberField "allTimePnl",
    intField "daysFollowing", uint64Field "vaultEntryTime", uint64Field "lockupUntil"]

def childAddresses : Shape :=
  whenOf Value.getObject (object
    [optional "childAddresses" (whenOf Value.getArray (list (ofType Value.getString)))])

def relationship : List Field := [textField "type", optional "data" (nullOr childAddresses)]

def vaultDetails : List Field :=
  [textField "name", textField "vaultAddress", textField "leader", textField "description",
    required "portfolio" portfolio, numberField "apr", optional "followerState" anything,
    numberField "leaderFraction", numberField "leaderCommission",
    required "followers" (list (object vaultFollower)), numberField "maxDistributable",
    numberField "maxWithdrawable", boolField "isClosed",
    optional "relationship" (nullOr (object relationship)), boolField "allowDeposits",
    boolField "alwaysCloseOnWithdraw"]

def userVaultEquity : List Field := [textField "vaultAddress", numberField "equity"]

def referredBy : List Field := [textField "referrer", textField "code"]

def tokenRewardState : List Field :=
  [numberField "cumVlm", numberField "unclaimedRewards", numberField "claimedRewards",
    numberField "builderRewards"]

def referralState : List Field :=
  [numberField "cumVlm", numberField "cumRewardedFeesSinceReferred",
    numberField "cumFeesRewardedToReferrer", uint64Field "timeJoined", textField "user"]

def referrerData (stage : Bytes) : List Field :=
  if stage = utf8 "needToTrade" then [numberField "required"]
  else
    [optional "code" anything,
      optional "referralStates" (whenOf Value.getArray (list (object referralState)))]

def referrerState : Field :=
  selecting "stage" fun stage =>
    [optional "data" (whenOf Value.getObject (object (referrerData stage)))]

def referral : List Field :=
  [optional "referredBy" (nullOr (object referredBy)), numberField "cumVlm",
    numberField "unclaimedRewards", numberField "claimedRewards", numberField "builderRewards",
    optional "tokenToState"
      (whenOf Value.getArray (head (pair (ofType getInt) (object tokenRewardState)))),
    optional "referrerState" (nullOr (object [referrerState]))]

def borrowLendReserveState : List Field :=
  [numberField "borrowYearlyRate", numberField "supplyYearlyRate", numberField "balance",
    numberField "utilization", numberField "oraclePx", numberField "ltv",
    numberField "totalSupplied", numberField "totalBorrowed"]

def positionSide : List Field := [numberField "basis", numberField "value"]

def positionSides : List Field :=
  [required "borrow" (object positionSide), required "supply" (object positionSide)]

def borrowLendUserState : List Field :=
  [required "tokenToState" (list (pair (ofType getInt) (object positionSides))),
    textField "health", optional "healthFactor" (nullOr number)]

def delegation : List Field :=
  [textField "validator", numberField "amount", uint64Field "lockedUntilTimestamp"]

def delegatorSummary : List Field :=
  [numberField "delegated", numberField "undelegated", numberField "totalPendingWithdrawal",
    intField "nPendingWithdrawals"]

def delegateDelta : List Field :=
  [textField "validator", numberField "amount", boolField "isUndelegate"]

def cDepositDelta : List Field := [numberField "amount"]

def withdrawalDelta : List Field := [numberField "amount", textField "phase"]

/-- The delta is of the first kind that it has a member for. -/
def delegatorDelta : Field :=
  lookup "delegate" (fun value => some (object delegateDelta value)) <|
    lookup "cDeposit" (fun value => some (object cDepositDelta value)) <|
      lookup "withdrawal" (fun value => some (object withdrawalDelta value)) (readFields [])

def delegatorHistoryEntry : List Field :=
  [uint64Field "time", textField "hash", required "delta" (object [delegatorDelta])]

def delegatorReward : List Field :=
  [uint64Field "time", textField "source", numberField "totalAmount"]

/-! ## Requests -/

/-- The shape of the data of a response. The data that has no row here has no numbers in texts
and no expiries, or is not parsed. -/
def wireShape : RestEndpointType → Shape
  | .metaAndAssetCtxs => metaAndAssetCtxs
  | .allPerpMetas => list (object perpDexMeta)
  | .predictedFundings => predictedFundings
  | .perpDexLimits => nullOr (object perpDexLimits)
  | .perpDexStatus => nullOr (object [numberField "totalNetDeposit"])
  | .perpDeployAuctionStatus => object gasAuction
  | .spotMetaAndAssetCtxs => spotMetaAndAssetCtxs
  | .spotDeployState => object spotDeployState
  | .spotPairDeployAuctionStatus => object gasAuction
  | .candleSnapshot => list (object candle)
  | .allMids => members fun _ => price
  | .userFills => list (object fill)
  | .userFillsByTime => list (object fill)
  | .userTwapSliceFills => list (object twapSliceFill)
  | .userTwapSliceFillsByTime => list (object twapSliceFill)
  | .twapHistory => list (logged (object twapHistoryEntry))
  | .openOrders => list (object openOrder)
  | .orderStatus => object orderStatus
  | .frontendOpenOrders => list (object frontendOrder)
  | .historicalOrders => list (object historicalOrder)
  | .outcomeMeta => object [required "outcomes" (list (object outcomeSpec))]
  | .settledOutcome => nullOr (object settledOutcome)
  | .clearinghouseState => triedObject clearinghouseState
  | .spotClearinghouseState => object spotClearinghouseState
  | .subAccounts => nullOr (list (object subAccount))
  | .activeAssetData => object activeAssetData
  | .userFees => object userFees
  | .userRateLimit => object userRateLimit
  | .portfolio => portfolio
  | .vaultDetails => object vaultDetails
  | .userVaultEquities => list (object userVaultEquity)
  | .referral => object referral
  | .borrowLendUserState => object borrowLendUserState
  | .borrowLendReserveState => object borrowLendReserveState
  | .allBorrowLendReserveStates => list (pair (ofType getInt) (object borrowLendReserveState))
  | .delegations => list (object delegation)
  | .delegatorSummary => object delegatorSummary
  | .delegatorHistory => list (object delegatorHistoryEntry)
  | .delegatorRewards => list (object delegatorReward)
  | _ => anything

end HyperliquidSdk.Rest.Wire
