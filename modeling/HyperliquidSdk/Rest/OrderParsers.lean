import HyperliquidSdk.Rest.Decoder
import HyperliquidSdk.Types.ResponseTypes

/-!
# Parsers of the order responses

The parsers of `RestApiMessageParser` for fills, orders and TWAP orders, and for the
simple response of an exchange action.
-/

set_option autoImplicit false

namespace HyperliquidSdk.Rest

open Foundation Foundation.OnDemand

variable {ρ : Type} (document : Bytes → Except Error Value)

/-! ## Fills -/

/-- The fee, which is written as a number or as a string. -/
def parseBuilderFee : Decoder ρ (Option Double) := do
  match ← optionalField Value.getDouble "builderFee" with
  | some builderFee => return some builderFee
  | none => (← optionalField Value.getString "builderFee").mapM toDouble

def parseLiquidation : Decoder ρ (Bytes × Double × LiquidationMethod) := do
  let liquidatedUser ← stringField "liquidatedUser"
  let markPx ← doubleField "markPx"
  let method ← stringField "method"
  return (liquidatedUser, markPx, stringToLiquidationMethod method)

def parseFillEntry : Decoder ρ Fill := do
  let coin ← stringField "coin"
  let px ← doubleField "px"
  let sz ← doubleField "sz"
  let side ← sideField "side"
  let time ← uint64Field "time"
  let startPosition ← doubleField "startPosition"
  let dir ← stringField "dir"
  let closedPnl ← doubleField "closedPnl"
  let hash ← stringField "hash"
  let oid ← uint64Field "oid"
  let crossed ← boolField "crossed"
  let fee ← doubleField "fee"
  let tid ← uint64Field "tid"
  let feeToken ← stringField "feeToken"
  let builderFee ← parseBuilderFee
  let liquidation ← (← optionalField Value.getObject "liquidation").mapM fun object =>
    within object parseLiquidation
  let (liquidatedUser, liquidationMarkPx, liquidationMethod) :=
    liquidation.getD ([], .zero, .unknown)
  return { coin, px, sz, side, time, startPosition, dir, closedPnl, hash, oid, crossed, fee, tid,
           feeToken, builderFee := builderFee.getD .zero, hasBuilderFee := builderFee.isSome,
           isLiquidation := liquidation.isSome, liquidatedUser, liquidationMarkPx,
           liquidationMethod, isSnapshot := false }

def parseUserFills (message : Bytes) : Conversions UserFillsResponse :=
  parseDocument document {} message fun doc => do
    (← doc.getArray).forM fun entry => do
      let fill ← within (← entry.getObject) parseFillEntry
      modifyThe UserFillsResponse fun response => { response with fills := response.fills ++ [fill] }

def parseUserFillsByTime (message : Bytes) : Conversions UserFillsResponse :=
  parseUserFills document message

/-! ## TWAP orders -/

/-- The id goes through an `int` before it is a `uint64_t`. -/
def parseTwapSliceFill : Decoder ρ TwapSliceFill := do
  let fill ← within (← objectField "fill") parseFillEntry
  let twapId ← intField "twapId"
  return { fill, twapId := twapId.toInt64.toUInt64 }

def parseUserTwapSliceFills (message : Bytes) : Conversions UserTwapSliceFillsResponse :=
  parseDocument document {} message fun doc => do
    (← doc.getArray).forM fun entry => do
      let sliceFill ← within (← entry.getObject) parseTwapSliceFill
      modifyThe UserTwapSliceFillsResponse fun response =>
        { response with fills := response.fills ++ [sliceFill] }

def parseUserTwapSliceFillsByTime (message : Bytes) : Conversions UserTwapSliceFillsResponse :=
  parseUserTwapSliceFills document message

def parseTwapStateEntry : Decoder ρ TwapState := do
  let coin ← stringField "coin"
  let user ← stringField "user"
  let side ← sideField "side"
  let sz ← parseNumberField "sz"
  let executedSz ← parseNumberField "executedSz"
  let executedNtl ← parseNumberField "executedNtl"
  let minutes ← intField "minutes"
  let reduceOnly ← boolField "reduceOnly"
  let randomize ← boolField "randomize"
  let timestamp ← uint64Field "timestamp"
  return { coin, user, side, sz, executedSz, executedNtl, minutes, reduceOnly, randomize,
           timestamp }

def parseTwapStatus : Decoder ρ (TwapHistoryStatus × Bytes) := do
  let status ← stringField "status"
  let description ← optionalField Value.getString "description"
  return (stringToTwapHistoryStatus status, description.getD [])

def parseTwapHistoryEntry : Decoder ρ TwapHistoryEntry := do
  let time ← uint64Field "time"
  let state ← within (← objectField "state") parseTwapStateEntry
  let (status, description) ← within (← objectField "status") parseTwapStatus
  let twapId ← uint64Field "twapId"
  return { state, status, description, time, twapId, isSnapshot := false }

/-- A malformed entry is skipped. -/
def parseTwapHistory (message : Bytes) : Conversions TwapHistoryResponse :=
  parseDocument document {} message fun doc => do
    (← doc.getArray).forM fun entry => logged do
      let hist ← within (← entry.getObject) parseTwapHistoryEntry
      modifyThe TwapHistoryResponse fun response =>
        { response with history := response.history ++ [hist] }

/-! ## Orders -/

def cloidField : Decoder ρ Bytes := do
  let cloid ← (← presentField "cloid").mapM fun value => liftM value.getString
  return cloid.getD []

def parseOpenOrderEntry : Decoder ρ OpenOrder := do
  let coin ← stringField "coin"
  let side ← sideField "side"
  let limitPx ← parseNumberField "limitPx"
  let sz ← parseNumberField "sz"
  let oid ← uint64Field "oid"
  let timestamp ← uint64Field "timestamp"
  let origSz ← parseNumberField "origSz"
  let cloid ← cloidField
  return { coin, side, limitPx, sz, oid, timestamp, origSz, cloid }

def parseOpenOrders (message : Bytes) : Conversions OpenOrdersResponse :=
  parseDocument document {} message fun doc => do
    (← doc.getArray).forM fun entry => do
      let order ← within (← entry.getObject) parseOpenOrderEntry
      modifyThe OpenOrdersResponse fun response =>
        { response with orders := response.orders ++ [order] }

def parseOrderStatusOrder : Decoder ρ OrderStatusOrder := do
  let order ← within (← objectField "order") parseOpenOrderEntry
  let status ← stringField "status"
  let statusTimestamp ← uint64Field "statusTimestamp"
  return { order, status := stringToOrderStatus status, statusTimestamp }

def parseOrderStatus (message : Bytes) : Conversions OrderStatusResponse :=
  parseDocument document {} message fun doc => do
    within (← doc.getObject) do
      let status ← stringField "status"
      modifyThe OrderStatusResponse fun response => { response with status }
      match ← presentField "order" with
      | none => return
      | some value =>
          let order ← within (← value.getObject) parseOrderStatusOrder
          modifyThe OrderStatusResponse fun response => { response with order }

def parseFrontendOrderEntry : Decoder ρ FrontendOrder := do
  let coin ← stringField "coin"
  let side ← sideField "side"
  let limitPx ← parseNumberField "limitPx"
  let sz ← parseNumberField "sz"
  let oid ← uint64Field "oid"
  let timestamp ← uint64Field "timestamp"
  let origSz ← parseNumberField "origSz"
  let cloid ← cloidField
  let isPositionTpsl ← boolField "isPositionTpsl"
  let isTrigger ← boolField "isTrigger"
  let triggerPx ← parseNumberField "triggerPx"
  let triggerCondition ← stringField "triggerCondition"
  let reduceOnly ← boolField "reduceOnly"
  let orderType ← stringField "orderType"
  let tif ← (← presentField "tif").mapM fun value => liftM value.getString
  return { coin, side, limitPx, sz, oid, timestamp, origSz, cloid, isPositionTpsl, isTrigger,
           triggerPx, triggerCondition, reduceOnly,
           orderType := stringToFrontendOrderType orderType, tif := tif.map stringToOrderTif }

def parseFrontendOpenOrders (message : Bytes) : Conversions FrontendOpenOrdersResponse :=
  parseDocument document {} message fun doc => do
    (← doc.getArray).forM fun entry => do
      let order ← within (← entry.getObject) parseFrontendOrderEntry
      modifyThe FrontendOpenOrdersResponse fun response =>
        { response with orders := response.orders ++ [order] }

def parseHistoricalOrder : Decoder ρ HistoricalOrder := do
  let order ← within (← objectField "order") parseFrontendOrderEntry
  let status ← stringField "status"
  let statusTimestamp ← uint64Field "statusTimestamp"
  return { order, status := stringToOrderStatus status, statusTimestamp }

def parseHistoricalOrders (message : Bytes) : Conversions HistoricalOrdersResponse :=
  parseDocument document {} message fun doc => do
    (← doc.getArray).forM fun entry => do
      let historical ← within (← entry.getObject) parseHistoricalOrder
      modifyThe HistoricalOrdersResponse fun response =>
        { response with orders := response.orders ++ [historical] }

/-! ## Exchange actions -/

def stringError : Value → Option Bytes
  | .string _ error => some error
  | _ => none

def decodeSimpleResponse : Decoder SimpleResponse Unit := do
  let status ← stringField "status"
  modifyThe SimpleResponse fun response => { response with status }
  if status = utf8 "ok" then
    let type ← within (← objectField "response") (stringField "type")
    modifyThe SimpleResponse fun response => { response with type }
  else
    let error := (← optionalField .ok "response").bind stringError
    modifyThe SimpleResponse fun response => { response with error }

/-- A response without a status becomes an error with the whole message. -/
def parseSimpleResponse (message : Bytes) : Conversions SimpleResponse := do
  let (parsed, response) ← decodeDocument document {} message fun doc => do
    within (← doc.getObject) decodeSimpleResponse
  match parsed with
  | .ok () => return response
  | .error _ =>
      if response.status.isEmpty then
        return { response with status := utf8 "err", error := some message }
      else return response

end HyperliquidSdk.Rest
