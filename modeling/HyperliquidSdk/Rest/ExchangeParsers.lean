import HyperliquidSdk.Rest.OrderParsers

/-!
# Parsers of the exchange responses

The parsers of `RestApiMessageParser` for the responses of single exchange actions: the
statuses of orders, and the actions that answer with an id, an address or an error.
-/

set_option autoImplicit false

namespace HyperliquidSdk.Rest

open Foundation Foundation.OnDemand

variable {ρ σ : Type} (document : Bytes → Except Error Value)

/-! ## Statuses of orders -/

/-- A response with a list of statuses, which are read unless the type is "default". -/
def decodeStatuses (setStatus setType : Bytes → ρ → ρ) (push : σ → ρ → ρ)
    (parseStatus : Value → Decoder ρ σ) : Decoder ρ Unit := do
  let status ← stringField "status"
  modifyThe ρ (setStatus status)
  if status ≠ utf8 "ok" then return
  else
    within (← objectField "response") do
      let type ← stringField "type"
      modifyThe ρ (setType type)
      if type = utf8 "default" then return
      else
        within (← objectField "data") do
          (← arrayField "statuses").forM fun entry => do
            let result ← parseStatus entry
            modifyThe ρ (push result)

def optionalCloid : Decoder ρ (Option Bytes) := do
  (← presentField "cloid").mapM fun value => liftM value.getString

def parseOrderStatusResting : Decoder ρ OrderStatusResting := do
  let oid ← uint64Field "oid"
  let cloid ← optionalCloid
  return { oid, cloid }

def parseOrderStatusFilled : Decoder ρ OrderStatusFilled := do
  let totalSz ← stringField "totalSz"
  let avgPx ← stringField "avgPx"
  let oid ← uint64Field "oid"
  let cloid ← optionalCloid
  return { totalSz, avgPx, oid, cloid }

def parseOrderStatusResult (entry : Value) : Decoder ρ OrderStatusResult := do
  within (← entry.getObject) do
    let resting ← (← optionalField .ok "resting").mapM fun value => do
      within (← value.getObject) parseOrderStatusResting
    let filled ← (← optionalField .ok "filled").mapM fun value => do
      within (← value.getObject) parseOrderStatusFilled
    let error ← (← optionalField .ok "error").mapM fun value => liftM value.getString
    return { resting, filled, error }

def parsePlaceOrder (message : Bytes) : Conversions PlaceOrderResponse :=
  parseDocument document {} message fun doc => do
    within (← doc.getObject) <|
      decodeStatuses (fun status response => { response with status })
        (fun type response => { response with type })
        (fun result response => { response with statuses := response.statuses ++ [result] })
        parseOrderStatusResult

/-- "success" or an object with an error. -/
def parseCancelStatusResult (entry : Value) : Decoder ρ CancelStatusResult := do
  match entry with
  | .string _ success => return { success }
  | .object _ fields =>
      within fields do
        let error ← (← optionalField .ok "error").mapM fun value => liftM value.getString
        return { error }
  | _ => return {}

def parseCancelOrder (message : Bytes) : Conversions CancelOrderResponse :=
  parseDocument document {} message fun doc => do
    within (← doc.getObject) <|
      decodeStatuses (fun status response => { response with status })
        (fun type response => { response with type })
        (fun result response => { response with statuses := response.statuses ++ [result] })
        parseCancelStatusResult

def parseModifyOrder (message : Bytes) : Conversions ModifyOrderResponse :=
  parseDocument document {} message fun doc => do
    within (← doc.getObject) <|
      decodeStatuses (fun status response => { response with status })
        (fun type response => { response with type })
        (fun result response => { response with statuses := response.statuses ++ [result] })
        parseOrderStatusResult

/-! ## Actions with a result -/

/-- A response whose error is a string in place of the response object. -/
def decodeActionResponse (setStatus setType : Bytes → ρ → ρ) (setError : Option Bytes → ρ → ρ)
    (decodeResult : Decoder ρ Unit) : Decoder ρ Unit := do
  let status ← stringField "status"
  modifyThe ρ (setStatus status)
  if status ≠ utf8 "ok" then
    let error := (← optionalField .ok "response").bind stringError
    modifyThe ρ (setError error)
  else
    within (← objectField "response") do
      let type ← stringField "type"
      modifyThe ρ (setType type)
      decodeResult

/-- `resp["data"]["status"]`, if it is there. -/
def optionalDataStatus : Decoder ρ (Option Value) := do
  match ← optionalField Value.getObject "data" with
  | none => return none
  | some data => within data (optionalField .ok "status")

def parseTwapOrder (message : Bytes) : Conversions TwapOrderResponse :=
  parseDocument document {} message fun doc => do
    within (← doc.getObject) <|
      decodeActionResponse (fun status response => { response with status })
        (fun type response => { response with type })
        (fun error response => { response with error }) do
          match ← optionalDataStatus with
          | none => return
          | some status =>
              within (← status.getObject) do
                match ← optionalField .ok "running" with
                | none => pure ()
                | some running =>
                    let twapId ← within (← running.getObject) (uint64Field "twapId")
                    modifyThe TwapOrderResponse fun response => { response with twapId }
                match ← optionalField .ok "error" with
                | none => pure ()
                | some value =>
                    let error ← value.getString
                    modifyThe TwapOrderResponse fun response => { response with error }

def parseTwapCancel (message : Bytes) : Conversions TwapCancelResponse :=
  parseDocument document {} message fun doc => do
    within (← doc.getObject) <|
      decodeActionResponse (fun status response => { response with status })
        (fun type response => { response with type })
        (fun error response => { response with error }) do
          match ← optionalDataStatus with
          | some (.string _ success) =>
              modifyThe TwapCancelResponse fun response => { response with success }
          | some (.object _ fields) =>
              within fields do
                match ← optionalField .ok "error" with
                | none => pure ()
                | some value =>
                    let error ← value.getString
                    modifyThe TwapCancelResponse fun response => { response with error }
          | _ => return

def parseCreateSubAccount (message : Bytes) : Conversions CreateSubAccountResponse :=
  parseDocument document {} message fun doc => do
    within (← doc.getObject) <|
      decodeActionResponse (fun status response => { response with status })
        (fun type response => { response with type })
        (fun error response => { response with error }) do
          let subAccountUser ← optionalField Value.getString "data"
          modifyThe CreateSubAccountResponse fun response => { response with subAccountUser }

def parseCreateVault (message : Bytes) : Conversions CreateVaultResponse :=
  parseDocument document {} message fun doc => do
    within (← doc.getObject) <|
      decodeActionResponse (fun status response => { response with status })
        (fun type response => { response with type })
        (fun error response => { response with error }) do
          let vaultAddress ← (← optionalField .ok "data").mapM fun value => liftM value.getString
          modifyThe CreateVaultResponse fun response => { response with vaultAddress }

end HyperliquidSdk.Rest
