import HyperliquidSdk.Foundation.ObjectReader
import HyperliquidSdk.Rest.OutcomeParsers
import HyperliquidSdk.Types.WebsocketTypes
import HyperliquidSdk.Websocket.PostResponseDispatch
import HyperliquidSdk.Websocket.WebsocketParsingUtils

/-!
# The parser of subscription messages

`WebsocketMessageParser::crack` and the parser of each channel. The handler may throw
from any callback, and what the callbacks were is there also after an exception.
-/

set_option autoImplicit false

namespace HyperliquidSdk.Websocket

open Foundation Foundation.OnDemand Foundation.OnDemand.Reader

/-- The callbacks of `WebsocketMessageHandler`. -/
inductive Callback where
  | onSubscriptionResponse (response : SubscriptionResponse)
  | onL2Book (snapshot : L2BookSnapshot)
  | onBbo (update : BboUpdate)
  | onTrade (trade : Trade)
  | onCandle (candle : Candle)
  | onAllMidsEntry (entry : AllMidsEntry)
  | onPerpAssetCtx (ctx : PerpAssetCtx)
  | onSpotAssetCtx (ctx : SpotAssetCtx)
  | onOrderUpdate (update : OrderUpdate)
  | onUserFill (fill : Fill)
  | onUserFunding (funding : UserFunding)
  | onLiquidation (liquidation : Liquidation)
  | onNonUserCancel (cancel : NonUserCancel)
  | onUserFundingUpdate (funding : UserFunding)
  | onLedgerUpdate (update : LedgerUpdate)
  | onWebData3 (update : WebData3Update)
  | onClearinghouseState (update : ClearinghouseStateUpdate)
  | onOpenOrdersSnapshot (update : OpenOrdersUpdate)
  | onTwapStates (update : TwapStatesUpdate)
  | onNotification (notification : Notification)
  | onUserTwapSliceFill (sliceFill : TwapSliceFill)
  | onUserTwapHistory (entry : TwapHistoryEntry)
  | onActiveAssetData (data : ActiveAssetData)
  | onSpotState (update : SpotStateUpdate)
  | onAllDexsClearinghouseState (update : AllDexsClearinghouseStateUpdate)
  | onAllDexsAssetCtxs (update : AllDexsAssetCtxsUpdate)
  | onFastAssetCtx (ctx : FastAssetCtx)
  | onOutcomeMetaUpdate (update : OutcomeMetaUpdate)

/-- What a callback throws, if anything, after the callbacks before it. -/
abbrev MessageHandler := List Callback → Callback → Option Thrown

abbrev Cracker := ExceptT Thrown (StateM (List Callback))

namespace Cracker

variable {α σ ε : Type}

/-- `.value()` of what the parser gives. -/
def value (extracted : Except Error α) : Cracker α :=
  match extracted with
  | .ok value => return value
  | .error error => throw (.simdjson error)

def reading (object : Object) (reader : Reader Unit α) : Cracker α :=
  value (read object () reader).1

def notify (listener : MessageHandler) (callback : Callback) : Cracker Unit := do
  let before ← get
  set (before ++ [callback])
  match listener before callback with
  | none => return
  | some thrown => throw thrown

/-- `try` and `catch` of a `simdjson_error`, which is logged. -/
def caught (body : Cracker Unit) : Cracker Unit :=
  tryCatch body fun thrown =>
    match thrown with
    | .simdjson _ => return
    | .exception exception => throw (.exception exception)

/-- A callback for each entry that can be decoded. -/
def crackEach (listener : MessageHandler) (callback : α → Callback) (decode : Reader Unit α)
    (entries : List Value) : Cracker Unit :=
  entries.forM fun entry => caught do
    let decoded ← reading (← value entry.getObject) decode
    notify listener (callback decoded)

/-- The same with one variable for all entries, which keeps what a failed entry wrote. -/
def crackInto (listener : MessageHandler) (callback : σ → Callback)
    (decode : ε → σ → Except Error Unit × σ) (initial : σ) (entries : List ε) : Cracker Unit := do
  let _ ← entries.foldlM (fun target entry => do
    let (decoded, target) := decode entry target
    caught do
      value decoded
      notify listener (callback target)
    return target) initial

end Cracker

open Cracker

variable {ρ : Type} (listener : MessageHandler)

/-! ## Fields -/

/-- A text that is no number is NaN. -/
def toDouble (sv : Bytes) : Double := (fromChars sv).getD .nan

/-- A field that may be a string or a double. -/
def toDoubleField (key : String) : Reader ρ Double := do
  let val ← field key
  match val.getString with
  | .ok sv => return toDouble sv
  | .error _ => val.getDouble

def doubleTextField (key : String) : Reader ρ Double := do return toDouble (← stringField key)

/-- `sideStr.size() > 0 ? sideStr[0] : '?'`. -/
def sideField (key : String) : Reader ρ UInt8 := do return (← stringField key).headD 63

def intField (key : String) : Reader ρ Int32 := do Rest.getInt (← field key)

/-- A flag that counts only if it is there and a boolean. -/
def snapshotField : Reader ρ Bool := do
  return (← optionalField Value.getBool "isSnapshot").getD false

def textOrEmpty (key : String) : Reader ρ Bytes := do
  return (← optionalField Value.getString key).getD []

/-- `crackEach` over an array of the data, with a flag that is read before it. -/
def crackFlagged {α : Type} (flag : Reader Unit Bool) (key : String) (callback : α → Callback)
    (decode : Bool → Reader Unit α) (data : Object) : Cracker Unit := do
  let (isSnapshot, entries) ← reading data do
    let isSnapshot ← flag
    let entries ← arrayField key
    return (isSnapshot, entries)
  crackEach listener callback (decode isSnapshot) entries

/-! ## Subscriptions -/

def stringToSubscriptionMethod (method : Bytes) : SubscriptionMethod :=
  if method = utf8 "subscribe" then .subscribe else .unsubscribe

def parseSubscriptionResponse : Reader ρ SubscriptionResponse := do
  let method := stringToSubscriptionMethod (← stringField "method")
  let type ← within (← objectField "subscription") (stringField "type")
  return { method, subscription := { type := stringToSubscriptionType type } }

def crackSubscriptionResponse (data : Object) : Cracker Unit := do
  notify listener (.onSubscriptionResponse (← reading data parseSubscriptionResponse))

/-! ## Books, trades and candles -/

def parsePriceLevel (side : Option Side) : Reader ρ PriceLevel := do
  let px ← stringField "px"
  let sz ← stringField "sz"
  let n ← intField "n"
  return { side, px, sz, n }

/-- A level beyond the size of the array is dropped. -/
def addLevel (side : Side) (level : PriceLevel) (snapshot : L2BookSnapshot) : L2BookSnapshot :=
  match side with
  | .bid =>
      if free : snapshot.numBids.toNat < L2_BOOK_MAX_LEVELS then
        { snapshot with
          bids := snapshot.bids.set snapshot.numBids.toNat level free
          numBids := snapshot.numBids + 1 }
      else snapshot
  | .ask =>
      if free : snapshot.numAsks.toNat < L2_BOOK_MAX_LEVELS then
        { snapshot with
          asks := snapshot.asks.set snapshot.numAsks.toNat level free
          numAsks := snapshot.numAsks + 1 }
      else snapshot

def parseBookSide (side : Side) (entries : List Value) (snapshot : L2BookSnapshot) :
    Reader ρ L2BookSnapshot :=
  entries.foldlM (fun snapshot entry => do
    let level ← attempted do within (← entry.getObject) (parsePriceLevel (some side))
    match level with
    | none => return snapshot
    | some level => return addLevel side level snapshot) snapshot

/-- A side after the second one ends the loop. -/
def parseL2BookSnapshot : Reader ρ L2BookSnapshot := do
  let coin ← stringField "coin"
  let time ← uint64Field "time"
  ((← arrayField "levels").take 2).zipIdx.foldlM (fun snapshot (side, sideIdx) => do
    parseBookSide (if sideIdx = 0 then .bid else .ask) (← side.getArray) snapshot) { coin, time }

def crackL2Book (data : Object) : Cracker Unit := do
  notify listener (.onL2Book (← reading data parseL2BookSnapshot))

/-- Every entry after the first is an ask; an entry that is null is not there. -/
def parseBboEntry (update : BboUpdate) (entry : Value) (idx : Nat) : Reader ρ BboUpdate := do
  if entry.isNull then
    if idx = 0 then return { update with hasBid := false }
    else return { update with hasAsk := false }
  else
    let level ← within (← entry.getObject) (parsePriceLevel none)
    if idx = 0 then return { update with hasBid := true, bid := level }
    else return { update with hasAsk := true, ask := level }

def parseBboUpdate : Reader ρ BboUpdate := do
  let coin ← stringField "coin"
  let time ← uint64Field "time"
  (← arrayField "bbo").zipIdx.foldlM (fun update (entry, idx) => parseBboEntry update entry idx)
    { coin, time }

def crackBbo (data : Object) : Cracker Unit := do
  notify listener (.onBbo (← reading data parseBboUpdate))

/-- The users of a trade: the buyer, the seller, and others that are not read. -/
def parseTradeUsers (users : List Value) : Reader Trade Unit :=
  users.zipIdx.forM fun (user, idx) => do
    if idx = 0 then
      let buyer ← user.getString
      modifyThe Trade fun trade => { trade with buyer }
    else if idx = 1 then
      let seller ← user.getString
      modifyThe Trade fun trade => { trade with seller }
    else return

def parseTrade : Reader Trade Unit := do
  let coin ← stringField "coin"
  modifyThe Trade fun trade => { trade with coin }
  let side ← sideField "side"
  modifyThe Trade fun trade => { trade with side }
  let px ← stringField "px"
  modifyThe Trade fun trade => { trade with px }
  let sz ← stringField "sz"
  modifyThe Trade fun trade => { trade with sz }
  let hash ← stringField "hash"
  modifyThe Trade fun trade => { trade with hash }
  let time ← uint64Field "time"
  modifyThe Trade fun trade => { trade with time }
  let tid ← uint64Field "tid"
  modifyThe Trade fun trade => { trade with tid, buyer := [], seller := [] }
  match ← optionalField Value.getArray "users" with
  | none => return
  | some users => parseTradeUsers users

/-- An entry of an array that is read into a variable. -/
def readEntry {σ : Type} (reader : Reader σ Unit) (entry : Value) (target : σ) :
    Except Error Unit × σ :=
  match entry.getObject with
  | .error error => (.error error, target)
  | .ok object => read object target reader

def crackTrades (data : List Value) : Cracker Unit :=
  crackInto listener .onTrade (readEntry parseTrade) {} data

def parseCandle : Reader Candle Unit := do
  let coin ← stringField "s"
  modifyThe Candle fun candle => { candle with coin }
  let interval ← stringField "i"
  modifyThe Candle fun candle => { candle with interval }
  let openTime ← uint64Field "t"
  modifyThe Candle fun candle => { candle with openTime }
  let closeTime ← uint64Field "T"
  modifyThe Candle fun candle => { candle with closeTime }
  let «open» ← doubleField "o"
  modifyThe Candle fun candle => { candle with «open» }
  let close ← doubleField "c"
  modifyThe Candle fun candle => { candle with close }
  let high ← doubleField "h"
  modifyThe Candle fun candle => { candle with high }
  let low ← doubleField "l"
  modifyThe Candle fun candle => { candle with low }
  let volume ← doubleField "v"
  modifyThe Candle fun candle => { candle with volume }
  let numTrades ← intField "n"
  modifyThe Candle fun candle => { candle with numTrades }

def crackCandles (data : List Value) : Cracker Unit :=
  crackInto listener .onCandle (readEntry parseCandle) {} data

def readMid (mid : Key × Value) (entry : AllMidsEntry) : Except Error Unit × AllMidsEntry :=
  let entry := { entry with coin := mid.1.unescaped }
  match mid.2.getString with
  | .error error => (.error error, entry)
  | .ok text => (.ok (), { entry with mid := toDouble text })

def crackAllMids (data : Object) : Cracker Unit := do
  crackInto listener .onAllMidsEntry readMid {} (← reading data (objectField "mids"))

/-! ## Contexts of assets -/

/-- The price of a context, which has none unless it is a string. -/
def parsePx (key : String) : Reader ρ (Bool × Double) := do
  match ← optionalField Value.getString key with
  | some sv => return (true, toDouble sv)
  | none => return (false, .zero)

def parsePerpCtx (coin fundingStr : Bytes) : Reader ρ PerpAssetCtx := do
  let dayNtlVlm ← toDoubleField "dayNtlVlm"
  let prevDayPx ← toDoubleField "prevDayPx"
  let markPx ← toDoubleField "markPx"
  let (hasMidPx, midPx) ← parsePx "midPx"
  let openInterest ← toDoubleField "openInterest"
  let oraclePx ← toDoubleField "oraclePx"
  return { coin, dayNtlVlm, prevDayPx, markPx, midPx, hasMidPx, funding := toDouble fundingStr,
           openInterest, oraclePx }

def parseSpotCtx (coin : Bytes) : Reader ρ SpotAssetCtx := do
  let dayNtlVlm ← toDoubleField "dayNtlVlm"
  let prevDayPx ← toDoubleField "prevDayPx"
  let markPx ← toDoubleField "markPx"
  let (hasMidPx, midPx) ← parsePx "midPx"
  let circulatingSupply ← toDoubleField "circulatingSupply"
  return { coin, dayNtlVlm, prevDayPx, markPx, midPx, hasMidPx, circulatingSupply }

/-- The context is that of a perpetual if it has a funding rate. -/
def parseActiveAssetCtx : Reader ρ Callback := do
  let coin ← stringField "coin"
  within (← objectField "ctx") do
    match ← optionalField Value.getString "funding" with
    | some fundingStr => return .onPerpAssetCtx (← parsePerpCtx coin fundingStr)
    | none => return .onSpotAssetCtx (← parseSpotCtx coin)

def crackActiveAssetCtx (data : Object) : Cracker Unit := do
  notify listener (← reading data parseActiveAssetCtx)

/-! ## Fills and orders -/

def parseBuilderFee : Reader ρ (Option Double) := do
  match ← optionalField Value.getDouble "builderFee" with
  | some builderFee => return some builderFee
  | none => return (← optionalField Value.getString "builderFee").map toDouble

def parseLiquidatedFill : Reader ρ (Bytes × Double × LiquidationMethod) := do
  let liquidatedUser ← stringField "liquidatedUser"
  let markPx ← doubleTextField "markPx"
  let method ← stringField "method"
  return (liquidatedUser, markPx, stringToLiquidationMethod method)

def parseFillObject (isSnapshot : Bool) : Reader ρ Fill := do
  let coin ← stringField "coin"
  let px ← doubleTextField "px"
  let sz ← doubleTextField "sz"
  let side ← sideField "side"
  let time ← uint64Field "time"
  let startPosition ← doubleTextField "startPosition"
  let dir ← stringField "dir"
  let closedPnl ← doubleTextField "closedPnl"
  let hash ← stringField "hash"
  let oid ← uint64Field "oid"
  let crossed ← boolField "crossed"
  let fee ← doubleTextField "fee"
  let tid ← uint64Field "tid"
  let feeToken ← stringField "feeToken"
  let builderFee ← parseBuilderFee
  let liquidation ← (← optionalField Value.getObject "liquidation").mapM fun object =>
    within object parseLiquidatedFill
  let (liquidatedUser, liquidationMarkPx, liquidationMethod) :=
    liquidation.getD ([], .zero, .unknown)
  return { coin, px, sz, side, time, startPosition, dir, closedPnl, hash, oid, crossed, fee, tid,
           feeToken, builderFee := builderFee.getD .zero, hasBuilderFee := builderFee.isSome,
           isLiquidation := liquidation.isSome, liquidatedUser, liquidationMarkPx,
           liquidationMethod, isSnapshot }

def parseOrderUpdate : Reader ρ OrderUpdate := do
  let update ← within (← objectField "order") do
    let coin ← stringField "coin"
    let side ← sideField "side"
    let limitPx ← doubleTextField "limitPx"
    let sz ← doubleTextField "sz"
    let oid ← uint64Field "oid"
    let timestamp ← uint64Field "timestamp"
    let origSz ← doubleTextField "origSz"
    let cloid ← textOrEmpty "cloid"
    return ({ coin, side, limitPx, sz, oid, timestamp, origSz, cloid } : OrderUpdate)
  let status ← stringField "status"
  let statusTimestamp ← uint64Field "statusTimestamp"
  return { update with status := stringToOrderStatus status, statusTimestamp }

def crackOrderUpdates (data : List Value) : Cracker Unit :=
  crackEach listener .onOrderUpdate parseOrderUpdate data

/-- Here a flag that is there has to be a boolean. -/
def strictSnapshotField : Reader ρ Bool := do
  match ← optionalField .ok "isSnapshot" with
  | none => return false
  | some flag => flag.getBool

def crackUserFills (data : Object) : Cracker Unit :=
  crackFlagged listener strictSnapshotField "fills" .onUserFill parseFillObject data

/-! ## Events of a user -/

/-- The event that the data is of. -/
inductive UserEvent where
  | fills (entries : List Value)
  | funding (funding : UserFunding)
  | liquidation (liquidation : Liquidation)
  | nonUserCancel (entries : List Value)
  | unknown

def parseUserFundingObject (isSnapshot : Bool) : Reader ρ UserFunding := do
  let time ← uint64Field "time"
  let coin ← stringField "coin"
  let usdc ← doubleTextField "usdc"
  let szi ← doubleTextField "szi"
  let fundingRate ← doubleTextField "fundingRate"
  return { time, coin, usdc, szi, fundingRate, isSnapshot }

def parseLiquidation : Reader ρ Liquidation := do
  let lid ← uint64Field "lid"
  let liquidator ← stringField "liquidator"
  let liquidatedUser ← stringField "liquidatedUser"
  let liquidatedNtlPos ← doubleTextField "liquidatedNtlPos"
  let liquidatedAccountValue ← doubleTextField "liquidatedAccountValue"
  return { lid, liquidator, liquidatedUser, liquidatedNtlPos, liquidatedAccountValue }

def parseNonUserCancel : Reader ρ NonUserCancel := do
  let coin ← stringField "coin"
  let oid ← uint64Field "oid"
  return { coin, oid }

def parseUserEvent : Reader ρ UserEvent := do
  if let some entries ← optionalField Value.getArray "fills" then return .fills entries
  if let some object ← optionalField Value.getObject "funding" then
    return .funding (← within object (parseUserFundingObject false))
  if let some object ← optionalField Value.getObject "liquidation" then
    return .liquidation (← within object parseLiquidation)
  if let some entries ← optionalField Value.getArray "nonUserCancel" then
    return .nonUserCancel entries
  return .unknown

def crackUserEvents (data : Object) : Cracker Unit := do
  match ← reading data parseUserEvent with
  | .fills entries => crackEach listener .onUserFill (parseFillObject false) entries
  | .funding funding => notify listener (.onUserFunding funding)
  | .liquidation liquidation => notify listener (.onLiquidation liquidation)
  | .nonUserCancel entries => crackEach listener .onNonUserCancel parseNonUserCancel entries
  | .unknown => return

def crackUserFundings (data : Object) : Cracker Unit :=
  crackFlagged listener snapshotField "fundings" .onUserFundingUpdate parseUserFundingObject data

/-! ## Ledger -/

def parseLiquidatedPosition : Reader ρ LiquidatedPosition := do
  let coin ← stringField "coin"
  let szi ← toDoubleField "szi"
  return { coin, szi }

/-- An update of an unknown type keeps its fields. -/
def crackLedgerDelta (update : LedgerUpdate) : Reader ρ LedgerUpdate := do
  let type := stringToLedgerUpdateType (← stringField "type")
  let update := { update with type }
  match type with
  | .deposit =>
      let usdc ← toDoubleField "usdc"
      return { update with usdc }
  | .withdraw =>
      let usdc ← toDoubleField "usdc"
      let nonce ← uint64Field "nonce"
      let fee ← toDoubleField "fee"
      return { update with usdc, nonce, fee }
  | .internalTransfer =>
      let usdc ← toDoubleField "usdc"
      let user ← stringField "user"
      let destination ← stringField "destination"
      let fee ← toDoubleField "fee"
      return { update with usdc, user, destination, fee }
  | .subAccountTransfer =>
      let usdc ← toDoubleField "usdc"
      let user ← stringField "user"
      let destination ← stringField "destination"
      return { update with usdc, user, destination }
  | .liquidation =>
      let accountValue ← toDoubleField "accountValue"
      let leverageType ← stringField "leverageType"
      let positions := (← optionalField Value.getArray "liquidatedPositions").getD []
      let liquidatedPositions ← positions.mapM fun entry => do
        within (← entry.getObject) parseLiquidatedPosition
      return { update with
               accountValue, leverageType := stringToLeverageType leverageType,
               liquidatedPositions := update.liquidatedPositions ++ liquidatedPositions }
  | .vaultCreate | .vaultDeposit | .vaultDistribution =>
      let vault ← stringField "vault"
      let usdc ← toDoubleField "usdc"
      return { update with vault, usdc }
  | .vaultWithdraw =>
      let vault ← stringField "vault"
      let user ← stringField "user"
      let requestedUsd ← toDoubleField "requestedUsd"
      let commission ← toDoubleField "commission"
      let closingCost ← toDoubleField "closingCost"
      let basis ← toDoubleField "basis"
      let netWithdrawnUsd ← toDoubleField "netWithdrawnUsd"
      return { update with
               vault, user, requestedUsd, commission, closingCost, basis, netWithdrawnUsd }
  | .vaultLeaderCommission =>
      let user ← stringField "user"
      let usdc ← toDoubleField "usdc"
      return { update with user, usdc }
  | .spotTransfer =>
      let token ← stringField "token"
      let amount ← toDoubleField "amount"
      let usdcValue ← toDoubleField "usdcValue"
      let user ← stringField "user"
      let destination ← stringField "destination"
      let fee ← toDoubleField "fee"
      return { update with token, amount, usdcValue, user, destination, fee }
  | .send =>
      let user ← stringField "user"
      let destination ← stringField "destination"
      let sourceDex ← stringField "sourceDex"
      let destinationDex ← stringField "destinationDex"
      let token ← stringField "token"
      let amount ← toDoubleField "amount"
      let usdcValue ← toDoubleField "usdcValue"
      let fee ← toDoubleField "fee"
      let nativeTokenFee ← toDoubleField "nativeTokenFee"
      let nonce ← uint64Field "nonce"
      let feeToken ← stringField "feeToken"
      return { update with
               user, destination, sourceDex, destinationDex, token, amount, usdcValue, fee,
               nativeTokenFee, nonce, feeToken }
  | .accountClassTransfer =>
      let usdc ← toDoubleField "usdc"
      let toPerp ← boolField "toPerp"
      return { update with usdc, toPerp }
  | .spotGenesis =>
      let token ← stringField "token"
      let amount ← toDoubleField "amount"
      return { update with token, amount }
  | .rewardsClaim =>
      let amount ← toDoubleField "amount"
      return { update with amount }
  | .unknown => return update

def parseLedgerUpdate (isSnapshot : Bool) : Reader ρ LedgerUpdate := do
  let time ← uint64Field "time"
  let hash ← stringField "hash"
  let update ← within (← objectField "delta") (crackLedgerDelta { time, hash })
  return { update with isSnapshot }

def crackUserNonFundingLedgerUpdates (data : Object) : Cracker Unit :=
  crackFlagged listener snapshotField "nonFundingLedgerUpdates" .onLedgerUpdate parseLedgerUpdate
    data

/-! ## Account states -/

/-- A flag that is there and true. -/
def trueField (key : String) : Reader ρ Bool := do
  return (← optionalField Value.getBool key).getD false

def parseWebData3UserState : Reader ρ WebData3UserState := do
  let agentAddress ← optionalField Value.getString "agentAddress"
  let agentValidUntil ← optionalField Value.getUInt64 "agentValidUntil"
  let serverTime ← uint64Field "serverTime"
  let cumLedger ← toDoubleField "cumLedger"
  let isVault ← boolField "isVault"
  let user ← stringField "user"
  let optOutOfSpotDusting ← trueField "optOutOfSpotDusting"
  let dexAbstractionEnabled ← trueField "dexAbstractionEnabled"
  return { agentAddress, agentValidUntil, serverTime, cumLedger, isVault, user,
           optOutOfSpotDusting, dexAbstractionEnabled }

def parseLeadingVault : Reader ρ LeadingVault := do
  let address ← stringField "address"
  let name ← stringField "name"
  return { address, name }

def parsePerpDexState : Reader ρ PerpDexState := do
  let totalVaultEquity ← toDoubleField "totalVaultEquity"
  let caps := (← optionalField Value.getArray "perpsAtOpenInterestCap").getD []
  let perpsAtOpenInterestCap ← caps.mapM fun entry => liftM entry.getString
  let vaults := (← optionalField Value.getArray "leadingVaults").getD []
  let leadingVaults ← vaults.mapM fun entry => do within (← entry.getObject) parseLeadingVault
  return { totalVaultEquity, perpsAtOpenInterestCap, leadingVaults }

/-- The entries of an array that can be decoded. -/
def parseEntries {α : Type} (decode : Value → Reader ρ α) (entries : List Value) :
    Reader ρ (List α) :=
  entries.filterMapM fun entry => attempted (decode entry)

def parseWebData3 (raw : Bytes) : Reader ρ WebData3Update := do
  let userState ← (← optionalField Value.getObject "userState").mapM fun object =>
    within object parseWebData3UserState
  let states := (← optionalField Value.getArray "perpDexStates").getD []
  let perpDexStates ← parseEntries (fun entry => do
    within (← entry.getObject) parsePerpDexState) states
  return { userState, perpDexStates, raw }

/-- The raw text is that of the whole data. -/
def crackWebData3 (raw : Bytes) (data : Object) : Cracker Unit := do
  notify listener (.onWebData3 (← reading data (parseWebData3 raw)))

def parsePosition : Reader ρ AssetPosition := do
  let coin ← stringField "coin"
  let szi ← toDoubleField "szi"
  let entryPx ← toDoubleField "entryPx"
  let positionValue ← toDoubleField "positionValue"
  let unrealizedPnl ← toDoubleField "unrealizedPnl"
  let returnOnEquity ← toDoubleField "returnOnEquity"
  let marginUsed ← toDoubleField "marginUsed"
  let maxLeverage ← intField "maxLeverage"
  let liqPxStr ← textOrEmpty "liquidationPx"
  let leverageType ← (← optionalField Value.getObject "leverage").mapM fun leverage =>
    within leverage (stringField "type")
  return { coin, szi, entryPx, positionValue, unrealizedPnl, returnOnEquity,
           liquidationPx := if liqPxStr.isEmpty then .zero else toDouble liqPxStr,
           hasLiquidationPx := !liqPxStr.isEmpty, marginUsed, maxLeverage,
           leverageType := leverageType.map stringToLeverageType }

def parseMarginSummary : Reader ρ MarginSummary := do
  let accountValue ← toDoubleField "accountValue"
  let totalNtlPos ← toDoubleField "totalNtlPos"
  let totalRawUsd ← toDoubleField "totalRawUsd"
  let totalMarginUsed ← toDoubleField "totalMarginUsed"
  return { accountValue, totalNtlPos, totalRawUsd, totalMarginUsed }

/-- The positions are added to those the state has. -/
def crackInnerClearinghouseState (state : ClearinghouseState) : Reader ρ ClearinghouseState := do
  let positions := (← optionalField Value.getArray "assetPositions").getD []
  let assetPositions ← parseEntries (fun entry => do
    within (← entry.getObject) do within (← objectField "position") parsePosition) positions
  let marginSummary ← within (← objectField "marginSummary") parseMarginSummary
  let crossMarginSummary ← within (← objectField "crossMarginSummary") parseMarginSummary
  let crossMaintenanceMarginUsed ← toDoubleField "crossMaintenanceMarginUsed"
  let withdrawable ← toDoubleField "withdrawable"
  return { state with
           assetPositions := state.assetPositions ++ assetPositions, marginSummary,
           crossMarginSummary, crossMaintenanceMarginUsed, withdrawable }

def parseClearinghouseStateUpdate : Reader ρ ClearinghouseStateUpdate := do
  let dex ← textOrEmpty "dex"
  let user ← stringField "user"
  let state ← within (← objectField "clearinghouseState") (crackInnerClearinghouseState {})
  return { dex, user, state }

def crackClearinghouseState (data : Object) : Cracker Unit := do
  notify listener (.onClearinghouseState (← reading data parseClearinghouseStateUpdate))

def parseOpenOrder : Reader ρ OpenOrder := do
  let coin ← stringField "coin"
  let side ← sideField "side"
  let limitPx ← doubleTextField "limitPx"
  let sz ← doubleTextField "sz"
  let oid ← uint64Field "oid"
  let timestamp ← uint64Field "timestamp"
  let origSz ← doubleTextField "origSz"
  let cloid ← textOrEmpty "cloid"
  return { coin, side, limitPx, sz, oid, timestamp, origSz, cloid }

def parseOpenOrdersUpdate : Reader ρ OpenOrdersUpdate := do
  let dex ← textOrEmpty "dex"
  let user ← stringField "user"
  let orders ← parseEntries (fun entry => do within (← entry.getObject) parseOpenOrder)
    (← arrayField "orders")
  return { dex, user, orders }

def crackOpenOrders (data : Object) : Cracker Unit := do
  notify listener (.onOpenOrdersSnapshot (← reading data parseOpenOrdersUpdate))

/-! ## TWAP orders -/

def crackTwapState (id : UInt64) : Reader ρ TwapState := do
  let coin ← stringField "coin"
  let user ← stringField "user"
  let side ← sideField "side"
  let sz ← toDoubleField "sz"
  let executedSz ← toDoubleField "executedSz"
  let executedNtl ← toDoubleField "executedNtl"
  let minutes ← intField "minutes"
  let reduceOnly ← boolField "reduceOnly"
  let randomize ← boolField "randomize"
  let timestamp ← uint64Field "timestamp"
  return { id, coin, user, side, sz, executedSz, executedNtl, minutes, reduceOnly, randomize,
           timestamp }

/-- An array whose first item is read on its own, and the others in the same way. -/
def parseKeyed {σ : Type} (readKey : Value → Except Error σ) (readItem : σ → Value → Reader ρ σ)
    (initial : σ) (entry : Value) : Reader ρ σ := do
  match ← entry.getArray with
  | [] => return initial
  | key :: items => items.foldlM readItem (← readKey key)

def parseTwapStatesUpdate : Reader ρ TwapStatesUpdate := do
  let dex ← textOrEmpty "dex"
  let user ← stringField "user"
  let states ← parseEntries (parseKeyed
    (fun key => do return { id := ← key.getUInt64 })
    (fun state item => do within (← item.getObject) (crackTwapState state.id)) {})
    (← arrayField "states")
  return { dex, user, states }

def crackTwapStates (data : Object) : Cracker Unit := do
  notify listener (.onTwapStates (← reading data parseTwapStatesUpdate))

def parseNotification : Reader ρ Notification := do
  let notification ← stringField "notification"
  return { notification }

def crackNotification (data : Object) : Cracker Unit := do
  notify listener (.onNotification (← reading data parseNotification))

def parseTwapSliceFill (isSnapshot : Bool) : Reader ρ TwapSliceFill := do
  let fill ← within (← objectField "fill") (parseFillObject isSnapshot)
  let twapId ← uint64Field "twapId"
  return { fill, twapId }

def crackUserTwapSliceFills (data : Object) : Cracker Unit :=
  crackFlagged listener snapshotField "twapSliceFills" .onUserTwapSliceFill parseTwapSliceFill data

def parseTwapHistoryEntry (isSnapshot : Bool) : Reader ρ TwapHistoryEntry := do
  let state ← within (← objectField "state") (crackTwapState 0)
  let (status, description) ← within (← objectField "status") do
    let status ← stringField "status"
    let description ← textOrEmpty "description"
    return (stringToTwapHistoryStatus status, description)
  let time ← uint64Field "time"
  return { state, status, description, time, isSnapshot }

def crackUserTwapHistory (data : Object) : Cracker Unit :=
  crackFlagged listener snapshotField "history" .onUserTwapHistory parseTwapHistoryEntry data

/-! ## Assets and balances -/

/-- The first two numbers of an array; all of them are read. -/
def parseSizes (values : List Value) : Reader ρ (Double × Double) := do
  let sizes ← values.mapM fun value =>
    match value.getString with
    | .ok sv => (return toDouble sv : Reader ρ Double)
    | .error _ => liftM value.getDouble
  return (sizes.getD 0 .zero, sizes.getD 1 .zero)

def parseActiveAssetData : Reader ρ ActiveAssetData := do
  let user ← stringField "user"
  let coin ← stringField "coin"
  let leverageType ← (← optionalField Value.getObject "leverage").mapM fun leverage =>
    within leverage (stringField "type")
  let (maxTradeSzLong, maxTradeSzShort) ← parseSizes (← arrayField "maxTradeSzs")
  let (availableToTradeLong, availableToTradeShort) ← parseSizes (← arrayField "availableToTrade")
  return { user, coin, leverageType := (leverageType.map stringToLeverageType).getD .cross,
           maxTradeSzLong, maxTradeSzShort, availableToTradeLong, availableToTradeShort }

def crackActiveAssetData (data : Object) : Cracker Unit := do
  notify listener (.onActiveAssetData (← reading data parseActiveAssetData))

def parseSpotBalance : Reader ρ SpotBalance := do
  let coin ← stringField "coin"
  let token ← intField "token"
  let hold ← toDoubleField "hold"
  let total ← toDoubleField "total"
  let entryNtl ← toDoubleField "entryNtl"
  return { coin, token, hold, total, entryNtl }

def parseSpotStateUpdate : Reader ρ SpotStateUpdate := do
  let user ← stringField "user"
  within (← objectField "spotState") do
    let balances ← parseEntries (fun entry => do within (← entry.getObject) parseSpotBalance)
      (← arrayField "balances")
    return { user, balances }

def crackSpotState (data : Object) : Cracker Unit := do
  notify listener (.onSpotState (← reading data parseSpotStateUpdate))

/-! ## All dexes -/

def parseAllDexsClearinghouseState : Reader ρ AllDexsClearinghouseStateUpdate := do
  let user ← stringField "user"
  let states ← parseEntries (parseKeyed
    (fun key => do return ({ dex := ← key.getString } : DexClearinghouseState))
    (fun dexState item => do
      let state ← within (← item.getObject) (crackInnerClearinghouseState dexState.state)
      return { dexState with state }) {})
    (← arrayField "clearinghouseStates")
  return { user, states }

def crackAllDexsClearinghouseState (data : Object) : Cracker Unit := do
  notify listener (.onAllDexsClearinghouseState (← reading data parseAllDexsClearinghouseState))

def parseDexAssetCtx : Reader ρ PerpAssetCtx := do
  let dayNtlVlm ← toDoubleField "dayNtlVlm"
  let prevDayPx ← toDoubleField "prevDayPx"
  let markPx ← toDoubleField "markPx"
  let (hasMidPx, midPx) ← parsePx "midPx"
  let funding ← toDoubleField "funding"
  let openInterest ← toDoubleField "openInterest"
  let oraclePx ← toDoubleField "oraclePx"
  return { dayNtlVlm, prevDayPx, markPx, midPx, hasMidPx, funding, openInterest, oraclePx }

def parseAllDexsAssetCtxs : Reader ρ AllDexsAssetCtxsUpdate := do
  let dexs ← parseEntries (parseKeyed
    (fun key => do return ({ dex := ← key.getString } : DexAssetCtxs))
    (fun dexCtxs item => do
      let ctxs ← (← item.getArray).mapM fun entry => do within (← entry.getObject) parseDexAssetCtx
      return { dexCtxs with ctxs := dexCtxs.ctxs ++ ctxs }) {})
    (← arrayField "ctxs")
  return { dexs }

def crackAllDexsAssetCtxs (data : Object) : Cracker Unit := do
  notify listener (.onAllDexsAssetCtxs (← reading data parseAllDexsAssetCtxs))

/-! ## Outcomes -/

/-- The same code as in `RestApiMessageParser`. -/
def parseOutcomeSpecForUpdate : Rest.Decoder Outcome Unit := Rest.parseOutcomeSpec

def parseQuestionSpecForUpdate : Reader ρ QuestionSpec := do
  let question ← intField "question"
  let name ← stringField "name"
  let description ← stringField "description"
  let fallbackOutcome ← intField "fallbackOutcome"
  let namedOutcomes ← (← arrayField "namedOutcomes").mapM fun entry => liftM (Rest.getInt entry)
  let settled := (← optionalField Value.getArray "settledNamedOutcomes").getD []
  let settledNamedOutcomes ← settled.mapM fun entry => liftM (Rest.getInt entry)
  return { question, name, description, fallbackOutcome, namedOutcomes, settledNamedOutcomes }

/-- The variant of an update and what stands under its name. -/
def parseUpdateVariant : Reader ρ (OutcomeMetaUpdateType × Value) := do
  if let some value ← optionalField .ok "outcomeCreated" then return (.outcomeCreated, value)
  if let some value ← optionalField .ok "outcomeSettled" then return (.outcomeSettled, value)
  if let some value ← optionalField .ok "questionUpdated" then return (.questionUpdated, value)
  if let some value ← optionalField .ok "questionSettled" then return (.questionSettled, value)
  return (.unknown, .null)

/-- The update for a variant. Only the outcome of a description is converted. -/
def parseUpdate (type : OutcomeMetaUpdateType) (val : Value) :
    Rest.Conversions (Except Error OutcomeMetaUpdate) :=
  match type with
  | .outcomeCreated =>
      match val.getObject with
      | .error error => return .error error
      | .ok object => do
          let initial : OutcomeMetaUpdate := { type }
          let (parsed, outcome) ← Rest.attempt object initial.outcome parseOutcomeSpecForUpdate
          return parsed.map fun _ => { initial with outcome }
  | .outcomeSettled => return (Rest.getInt val).map fun settledOutcome => { type, settledOutcome }
  | .questionUpdated =>
      return val.getObject.bind fun object =>
        (read object () parseQuestionSpecForUpdate).1.map fun question => { type, question }
  | .questionSettled => return (Rest.getInt val).map fun settledQuestion => { type, settledQuestion }
  | .unknown => return .ok { type }

def parseOutcomeMetaUpdate (entry : Value) : Rest.Conversions (Except Error OutcomeMetaUpdate) :=
  match entry.getObject.bind fun object => (read object () parseUpdateVariant).1 with
  | .error error => return .error error
  | .ok (type, val) => parseUpdate type val

/-- An exception of a conversion is not caught. -/
def convertedUpdate (entry : Value) : Cracker OutcomeMetaUpdate :=
  match (parseOutcomeMetaUpdate entry).run Rest.convert with
  | .ok parsed => value parsed
  | .error exception => throw (.exception exception)

def crackOutcomeMetaUpdates (data : List Value) : Cracker Unit :=
  data.forM fun entry => caught do
    notify listener (.onOutcomeMetaUpdate (← convertedUpdate entry))

/-! ## Messages -/

/-- A parser with the libraries that it uses. With `validateJson` a text that is no document
is never read. Without it the parser reads such a text up to where it breaks off, and the
two fields `malformed` and `malformedCtxs` are all that it does then: what the JSON library
makes of the text is left open, so that nothing but what is assumed of them is known. -/
structure WebsocketMessageParser where
  validateJson : Bool
  document : Bytes → Except Error Value
  zlib : Zlib
  /-- The body of `crack`, in its outer `try`, on a message that is no document, without
  validation: the channel, its data and the callbacks that are made before the error. -/
  malformed : MessageHandler → Bytes → Cracker Unit
  /-- The loop over the contexts in `crackFastAssetCtxs` on an inflated text of this kind. -/
  malformedCtxs : MessageHandler → Bytes → Cracker Unit

def parseFastAssetCtx (coin : Bytes) : Reader ρ FastAssetCtx := do
  let (hasMarkPx, markPx) ← parsePx "markPx"
  let (hasMidPx, midPx) ← parsePx "midPx"
  return { coin, hasMarkPx, markPx, hasMidPx, midPx }

def crackFastAssetCtxsObject (fields : Object) : Cracker Unit :=
  fields.forM fun (key, val) => caught do
    let ctx ← reading (← value val.getObject) (parseFastAssetCtx key.unescaped)
    notify listener (.onFastAssetCtx ctx)

namespace WebsocketMessageParser

variable (parser : WebsocketMessageParser)

/-- Read the document of a text. -/
def withDocument (malformed : MessageHandler → Bytes → Cracker Unit) (text : Bytes)
    (next : Value → Cracker Unit) : Cracker Unit :=
  match parser.document text with
  | .ok doc => next doc
  | .error error =>
      if parser.validateJson then throw (.simdjson error) else malformed listener text

def crackFastAssetCtxs (base64Data : Bytes) : Cracker Unit :=
  match inflateRawDeflate parser.zlib (base64Decode base64Data) [] with
  | (false, _) => return
  | (true, decompressed) =>
      caught do
        parser.withDocument listener parser.malformedCtxs decompressed fun doc => do
          crackFastAssetCtxsObject listener (← value doc.getObject)

/-- The channel of a message, if it is a string or an object with a type. -/
def parseChannel : Reader ρ (Option Bytes) := do
  match ← field "channel" with
  | .string _ channel => return some channel
  | .object _ fields => within fields (optionalField Value.getString "type")
  | _ => return none

/-- The channels, with the type that their data has to have. -/
def crackChannel (channel : Bytes) (data : Except Error Value) : Cracker Unit := do
  let object := data.bind Value.getObject
  let array := data.bind Value.getArray
  if channel = utf8 "l2Book" then crackL2Book listener (← value object)
  else if channel = utf8 "bbo" then crackBbo listener (← value object)
  else if channel = utf8 "trades" then crackTrades listener (← value array)
  else if channel = utf8 "candle" then crackCandles listener (← value array)
  else if channel = utf8 "allMids" then crackAllMids listener (← value object)
  else if channel = utf8 "activeAssetCtx" ∨ channel = utf8 "activeSpotAssetCtx" then
    crackActiveAssetCtx listener (← value object)
  else if channel = utf8 "orderUpdates" then crackOrderUpdates listener (← value array)
  else if channel = utf8 "userFills" then crackUserFills listener (← value object)
  else if channel = utf8 "userEvents" then crackUserEvents listener (← value object)
  else if channel = utf8 "subscriptionResponse" then
    crackSubscriptionResponse listener (← value object)
  else if channel = utf8 "userFundings" then crackUserFundings listener (← value object)
  else if channel = utf8 "userNonFundingLedgerUpdates" then
    crackUserNonFundingLedgerUpdates listener (← value object)
  else if channel = utf8 "webData3" then
    crackWebData3 listener (← value (data.map Value.toJsonString)) (← value object)
  else if channel = utf8 "clearinghouseState" then
    crackClearinghouseState listener (← value object)
  else if channel = utf8 "openOrders" then crackOpenOrders listener (← value object)
  else if channel = utf8 "twapStates" then crackTwapStates listener (← value object)
  else if channel = utf8 "notification" then crackNotification listener (← value object)
  else if channel = utf8 "userTwapSliceFills" then
    crackUserTwapSliceFills listener (← value object)
  else if channel = utf8 "userTwapHistory" then crackUserTwapHistory listener (← value object)
  else if channel = utf8 "activeAssetData" then crackActiveAssetData listener (← value object)
  else if channel = utf8 "spotState" then crackSpotState listener (← value object)
  else if channel = utf8 "allDexsClearinghouseState" then
    crackAllDexsClearinghouseState listener (← value object)
  else if channel = utf8 "allDexsAssetCtxs" then
    crackAllDexsAssetCtxs listener (← value object)
  else if channel = utf8 "fastAssetCtxs" then
    parser.crackFastAssetCtxs listener (← value (data.bind Value.getString))
  else if channel = utf8 "outcomeMetaUpdates" then
    crackOutcomeMetaUpdates listener (← value array)
  else return

/-- The channel of a document and its data. -/
def parseEnvelope (doc : Value) : Except Error (Option (Bytes × Except Error Value)) := do
  let object ← doc.getObject
  let (channel, rest) ← (read object () do return (← parseChannel, ← getThe Object)).1
  return channel.map fun channel => (channel, (read rest () (field "data")).1)

def crackDocument (doc : Value) : Cracker Unit := do
  match ← value (parseEnvelope doc) with
  | none => return
  | some (channel, data) => parser.crackChannel listener channel data

def crack (message : Bytes) : Cracker Unit :=
  caught (parser.withDocument listener parser.malformed message
    (parser.crackDocument listener))

end WebsocketMessageParser

end HyperliquidSdk.Websocket
