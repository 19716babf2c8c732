import HyperliquidSdk.Foundation.NumberText
import HyperliquidSdk.Foundation.OrderedJson
import HyperliquidSdk.Types.RequestTypes

/-!
# Building exchange actions

`ExchangeRequestBuilder.cpp`, with `SymbolMap::resolve` as it is called there. The
members of an object are listed in the order in which the source assigns them.
-/

set_option autoImplicit false

namespace HyperliquidSdk.Messages

open Foundation

/-- `SymbolMap`: the registered symbols with their asset ids. -/
abbrev SymbolMap := List (Bytes × Int32)

def SymbolMap.resolve (symbolMap : SymbolMap) (symbol : Bytes) : Result Int32 :=
  match symbolMap.lookup symbol with
  | some id => .ok id
  | none => .error (.invalidArgument (utf8 "Unknown symbol: " ++ symbol))

/-- The literal `1e-12`. -/
def wireTolerance : Double := .ofUnits false unitsPerOne (10 ^ 12)

/-- The literal `1e6`. -/
def million : Double := .ofUnits false (10 ^ 6 * unitsPerOne) 1

/-- Strip trailing zeros of a text with a point, then a trailing point. -/
def normalizeDecimal (text : Bytes) : Bytes :=
  if 46 ∈ text then
    match text.reverse.dropWhile (· = 48) with
    | 46 :: whole => whole.reverse
    | significant => significant.reverse
  else text

def stodException : ConversionError → Exception
  | .invalidArgument => .invalidArgument (utf8 "stod")
  | .outOfRange => .outOfRange (utf8 "stod")

/-- `snprintf` into a buffer of 64 bytes keeps 63 characters. -/
def floatToWire (x : Double) : Result Bytes := do
  let text := (fixedText 8 x).take 63
  let parsed ← (stod text).mapError stodException
  if (parsed.sub x).abs.ge wireTolerance then
    throw (.invalidArgument (utf8 "floatToWire causes rounding: " ++ fixedText 6 x))
  return normalizeDecimal text

def int (value : Int32) : Json := .integer value.toInt64

def uint (value : UInt32) : Json := .unsigned value.toUInt64

def nullable (value : Option Json) : Json := value.getD .null

def optionalMember (key : String) (value : Option Json) : List (String × Json) :=
  (value.map fun value => (key, value)).toList

def body (action : List (String × Json)) : Json := .object [("action", .object action)]

def assetOf (symbolMap : SymbolMap) (assetId : Option Int32) (asset : Bytes) : Result Json :=
  match assetId with
  | some id => .ok (int id)
  | none => int <$> symbolMap.resolve asset

/-- `static_cast<uint64_t>(std::llround(usd * 1e6))`. -/
def rawUsd (usd : Double) : Json := .unsigned (usd.mul million).llround.toUInt64

def orderType (order : OrderRequest) : Result (List (String × Json)) :=
  match order.limit, order.trigger with
  | some limit, _ =>
      .ok [("t", .object [("limit", .object [("tif", .text limit.tif.toString)])])]
  | none, some trigger => do
      let triggerPx ← floatToWire trigger.triggerPx
      return [("t", .object [("trigger", .object [("isMarket", .boolean trigger.isMarket),
        ("triggerPx", .string triggerPx), ("tpsl", .text trigger.tpsl.toString)])])]
  | none, none => .ok []

def buildOrderWire (symbolMap : SymbolMap) (order : OrderRequest) : Result Json := do
  let a ← assetOf symbolMap order.assetId order.asset
  let p ← floatToWire order.price
  let s ← floatToWire order.size
  let t ← orderType order
  return .object ([("a", a), ("b", .boolean order.isBuy), ("p", .string p), ("s", .string s),
    ("r", .boolean order.reduceOnly)] ++ t ++ optionalMember "c" (order.cloid.map .string))

def placeOrder (symbolMap : SymbolMap) (orders : List OrderRequest) (grouping : Grouping)
    (builder : Option Builder) : Result Json := do
  let ordersJson ← orders.mapM (buildOrderWire symbolMap)
  let builderJson := builder.map fun builder =>
    Json.object [("b", .string builder.address), ("f", int builder.fee)]
  return body ([("type", .text "order"), ("orders", .array ordersJson),
    ("grouping", .text grouping.toString)] ++ optionalMember "builder" builderJson)

def cancelOrder (symbolMap : SymbolMap) (cancels : List CancelRequest) : Result Json := do
  let cancelsJson ← cancels.mapM fun cancel => do
    let a ← assetOf symbolMap cancel.assetId cancel.asset
    return Json.object [("a", a), ("o", .unsigned cancel.oid)]
  return body [("type", .text "cancel"), ("cancels", .array cancelsJson)]

def cancelOrderByCloid (symbolMap : SymbolMap) (cancels : List CancelByCloidRequest) :
    Result Json := do
  let cancelsJson ← cancels.mapM fun cancel => do
    let asset ← assetOf symbolMap cancel.assetId cancel.asset
    return Json.object [("asset", asset), ("cloid", .string cancel.cloid)]
  return body [("type", .text "cancelByCloid"), ("cancels", .array cancelsJson)]

def scheduleCancel (time : Option UInt64) : Json :=
  body ([("type", .text "scheduleCancel")] ++ optionalMember "time" (time.map .unsigned))

def modifyOid (modify : ModifyRequest) : Result Json :=
  match modify.oid, modify.cloid with
  | some oid, _ => .ok (.unsigned oid)
  | none, some cloid => .ok (.string cloid)
  | none, none =>
      .error (.invalidArgument (utf8 "ModifyRequest requires either oid or cloid"))

def modifyOrder (symbolMap : SymbolMap) (modify : ModifyRequest) : Result Json := do
  let oid ← modifyOid modify
  let order ← buildOrderWire symbolMap modify.order
  return body [("type", .text "modify"), ("oid", oid), ("order", order)]

def batchModifyOrder (symbolMap : SymbolMap) (modifies : List ModifyRequest) : Result Json := do
  let modifiesJson ← modifies.mapM fun modify => do
    let oid ← modifyOid modify
    let order ← buildOrderWire symbolMap modify.order
    return Json.object [("oid", oid), ("order", order)]
  return body [("type", .text "batchModify"), ("modifies", .array modifiesJson)]

def updateLeverage (symbolMap : SymbolMap) (request : UpdateLeverageRequest) : Result Json := do
  let asset ← assetOf symbolMap request.assetId request.asset
  return body [("type", .text "updateLeverage"), ("asset", asset),
    ("isCross", .boolean request.isCross), ("leverage", int request.leverage)]

def updateIsolatedMargin (symbolMap : SymbolMap) (request : UpdateIsolatedMarginRequest) :
    Result Json := do
  let asset ← assetOf symbolMap request.assetId request.asset
  return body [("type", .text "updateIsolatedMargin"), ("asset", asset),
    ("isBuy", .boolean request.isBuy), ("ntli", .integer request.ntli)]

def approveAgent (request : ApproveAgentRequest) : Json :=
  body ([("type", .text "approveAgent"), ("agentAddress", .string request.agentAddress)] ++
    optionalMember "agentName" (request.agentName.map .string))

def agentSetAbstraction (abstraction : UserAbstractionMode) : Json :=
  body [("type", .text "agentSetAbstraction"), ("abstraction", .text abstraction.toString)]

def twapOrder (symbolMap : SymbolMap) (request : TwapOrderRequest) : Result Json := do
  let a ← assetOf symbolMap request.assetId request.asset
  let s ← floatToWire request.size
  return body [("type", .text "twapOrder"),
    ("twap", .object [("a", a), ("b", .boolean request.isBuy), ("s", .string s),
      ("r", .boolean request.reduceOnly), ("m", int request.minutes),
      ("t", .boolean request.randomize)])]

def twapCancel (symbolMap : SymbolMap) (request : TwapCancelRequest) : Result Json := do
  let a ← assetOf symbolMap request.assetId request.asset
  return body [("type", .text "twapCancel"), ("a", a), ("t", .unsigned request.twapId)]

def cDeposit (wei : UInt64) : Json :=
  body [("type", .text "cDeposit"), ("wei", .unsigned wei)]

def cWithdraw (wei : UInt64) : Json :=
  body [("type", .text "cWithdraw"), ("wei", .unsigned wei)]

def vaultTransfer (request : VaultTransferRequest) : Json :=
  body [("type", .text "vaultTransfer"), ("vaultAddress", .string request.vaultAddress),
    ("isDeposit", .boolean request.isDeposit), ("usd", rawUsd request.usd)]

def hip3LiquidatorTransfer (request : Hip3LiquidatorTransferRequest) : Json :=
  body [("type", .text "hip3LiquidatorTransfer"), ("dex", .string request.dex),
    ("ntl", .unsigned request.ntl), ("isDeposit", .boolean request.isDeposit)]

def createSubAccount (request : CreateSubAccountRequest) : Json :=
  body [("type", .text "createSubAccount"), ("name", .string request.name)]

def subAccountTransfer (request : SubAccountTransferRequest) : Json :=
  body [("type", .text "subAccountTransfer"),
    ("subAccountUser", .string request.subAccountUser),
    ("isDeposit", .boolean request.isDeposit), ("usd", rawUsd request.usd)]

def createVault (request : CreateVaultRequest) : Json :=
  body [("type", .text "createVault"), ("name", .string request.name),
    ("description", .string request.description), ("initialUsd", rawUsd request.initialUsd)]

def borrowLend (request : BorrowLendRequest) : Result Json := do
  let amount ← request.amount.mapM floatToWire
  return body [("type", .text "borrowLend"), ("operation", .text request.operation.toString),
    ("token", uint request.token), ("amount", nullable (amount.map .string))]

def spotDeployRegisterToken2 (request : SpotDeployRegisterToken2Request) : Json :=
  let spec := Json.object [("name", .string request.spec.name),
    ("szDecimals", int request.spec.szDecimals), ("weiDecimals", int request.spec.weiDecimals)]
  body [("type", .text "spotDeploy"),
    ("registerToken2", .object ([("spec", spec), ("maxGas", .unsigned request.maxGas)] ++
      optionalMember "fullName" (request.fullName.map .string)))]

def spotDeployUserGenesis (request : SpotDeployUserGenesisRequest) : Result Json := do
  let userAndWei ← request.userAndWei.mapM fun (address, wei) => do
    return Json.array [.string address, .string (← floatToWire wei)]
  let existingTokenAndWei ← request.existingTokenAndWei.mapM fun (token, wei) => do
    return Json.array [int token, .string (← floatToWire wei)]
  let blacklistUsers := request.blacklistUsers.map fun users =>
    Json.array (users.map fun (address, blocked) =>
      .array [.string address, .boolean blocked])
  return body [("type", .text "spotDeploy"),
    ("userGenesis", .object ([("token", int request.token), ("userAndWei", .array userAndWei),
      ("existingTokenAndWei", .array existingTokenAndWei)] ++
      optionalMember "blacklistUsers" blacklistUsers))]

def spotDeployGenesis (request : SpotDeployGenesisRequest) : Result Json := do
  let maxSupply ← floatToWire request.maxSupply
  return body [("type", .text "spotDeploy"),
    ("genesis", .object ([("token", int request.token), ("maxSupply", .string maxSupply)] ++
      optionalMember "noHyperliquidity" (request.noHyperliquidity.map .boolean)))]

def spotDeployRegisterSpot (request : SpotDeployRegisterSpotRequest) : Json :=
  body [("type", .text "spotDeploy"),
    ("registerSpot", .object [("tokens", .array [int request.baseToken, int request.quoteToken])])]

def spotDeployRegisterHyperliquidity (request : SpotDeployRegisterHyperliquidityRequest) :
    Result Json := do
  let startPx ← floatToWire request.startPx
  let orderSz ← floatToWire request.orderSz
  return body [("type", .text "spotDeploy"),
    ("registerHyperliquidity", .object ([("spot", int request.spot),
      ("startPx", .string startPx), ("orderSz", .string orderSz),
      ("nOrders", int request.nOrders)] ++
      optionalMember "nSeededLevels" (request.nSeededLevels.map int)))]

def perpDeploySchema (schema : PerpDeploySchema) : Json :=
  .object [("fullName", .string schema.fullName),
    ("collateralToken", .unsigned schema.collateralToken),
    ("oracleUpdater", nullable (schema.oracleUpdater.map .string))]

def perpDeployRegisterAsset2 (request : PerpDeployRegisterAsset2Request) : Result Json := do
  let oraclePx ← floatToWire request.assetRequest.oraclePx
  let assetRequest := Json.object [("coin", .string request.assetRequest.coin),
    ("szDecimals", uint request.assetRequest.szDecimals), ("oraclePx", .string oraclePx),
    ("marginTableId", uint request.assetRequest.marginTableId),
    ("marginMode", .text request.assetRequest.marginMode.toString)]
  return body [("type", .text "perpDeploy"),
    ("registerAsset2", .object [("maxGas", nullable (request.maxGas.map .unsigned)),
      ("assetRequest", assetRequest), ("dex", .string request.dex),
      ("schema", nullable (request.schema.map perpDeploySchema))])]

def usdClassTransfer (request : UsdClassTransferRequest) : Result Json := do
  let amount ← floatToWire request.amount
  return body [("type", .text "usdClassTransfer"), ("amount", .string amount),
    ("toPerp", .boolean request.toPerp)]

def sendAsset (request : SendAssetRequest) : Result Json := do
  let amount ← floatToWire request.amount
  return body [("type", .text "sendAsset"), ("destination", .string request.destination),
    ("sourceDex", .string request.sourceDex), ("destinationDex", .string request.destinationDex),
    ("token", .string request.token), ("amount", .string amount),
    ("fromSubAccount", .string request.fromSubAccount)]

def usdSend (request : UsdSendRequest) : Result Json := do
  let amount ← floatToWire request.amount
  return body [("type", .text "usdSend"), ("destination", .string request.destination),
    ("amount", .string amount)]

def spotSend (request : SpotSendRequest) : Result Json := do
  let amount ← floatToWire request.amount
  return body [("type", .text "spotSend"), ("destination", .string request.destination),
    ("token", .string request.token), ("amount", .string amount)]

def withdraw3 (request : Withdraw3Request) : Result Json := do
  let amount ← floatToWire request.amount
  return body [("type", .text "withdraw3"), ("destination", .string request.destination),
    ("amount", .string amount)]

def approveBuilderFee (request : ApproveBuilderFeeRequest) : Json :=
  body [("type", .text "approveBuilderFee"), ("maxFeeRate", .string request.maxFeeRate),
    ("builder", .string request.builder)]

def userSetAbstraction (request : UserSetAbstractionRequest) : Json :=
  body [("type", .text "userSetAbstraction"), ("user", .string request.user),
    ("abstraction", .text request.abstraction.toString)]

def setReferrer (request : SetReferrerRequest) : Json :=
  body [("type", .text "setReferrer"), ("code", .string request.code)]

def tokenDelegate (request : TokenDelegateRequest) : Json :=
  body [("type", .text "tokenDelegate"), ("validator", .string request.validator),
    ("isUndelegate", .boolean request.isUndelegate), ("wei", .unsigned request.wei)]

def sendToEvmWithData (request : SendToEvmWithDataRequest) : Json :=
  body [("type", .text "sendToEvmWithData"), ("token", .string request.token),
    ("amount", .string request.amount), ("sourceDex", .string request.sourceDex),
    ("destinationRecipient", .string request.destinationRecipient),
    ("addressEncoding", .text request.addressEncoding.toString),
    ("destinationChainId", uint request.destinationChainId),
    ("gasLimit", .unsigned request.gasLimit), ("data", .string request.data)]

def userDexAbstraction (request : UserDexAbstractionRequest) : Json :=
  body [("type", .text "userDexAbstraction"), ("user", .string request.user),
    ("enabled", .boolean request.enabled)]

def userPortfolioMargin (request : UserPortfolioMarginRequest) : Json :=
  body [("type", .text "userPortfolioMargin"), ("user", .string request.user),
    ("enabled", .boolean request.enabled)]

def agentSendAsset (request : AgentSendAssetRequest) : Json :=
  body [("type", .text "agentSendAsset"), ("destination", .string request.destination),
    ("sourceDex", .string request.sourceDex), ("destinationDex", .string request.destinationDex),
    ("token", .string request.token), ("amount", .string request.amount),
    ("fromSubAccount", .string (request.fromSubAccount.getD []))]

def reserveRequestWeight (request : ReserveRequestWeightRequest) : Json :=
  body ([("type", .text "reserveRequestWeight"), ("weight", int request.weight)] ++
    optionalMember "destination" (request.destination.map .string))

def noop : Json := body [("type", .text "noop")]

end HyperliquidSdk.Messages
