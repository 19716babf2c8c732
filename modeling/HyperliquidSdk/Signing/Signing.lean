import HyperliquidSdk.Signing.SigningHelpers

/-!
# Preparing signed bodies

`Signing.cpp`. The argument `nonce` of a `prepare` function is the value that its
call of `nextNonce` returns.
-/

set_option autoImplicit false

namespace HyperliquidSdk.Signing

open Foundation

def sendToEvmWithDataFields : List EIP712Field :=
  [⟨"hyperliquidChain", "string"⟩, ⟨"token", "string"⟩, ⟨"amount", "string"⟩,
    ⟨"sourceDex", "string"⟩, ⟨"destinationRecipient", "string"⟩,
    ⟨"addressEncoding", "string"⟩, ⟨"destinationChainId", "uint32"⟩, ⟨"gasLimit", "uint64"⟩,
    ⟨"data", "bytes"⟩, ⟨"nonce", "uint64"⟩]

def userSignedActionFields : RestEndpointType → Result (List EIP712Field)
  | .sendToEvmWithData => .ok sendToEvmWithDataFields
  | type => .error (.invalidArgument
      (utf8 ("No EIP-712 field list for RestEndpointType: " ++ type.toString)))

def userSignedActionPrimaryType : RestEndpointType → Result String
  | .sendToEvmWithData => .ok "HyperliquidTransaction:SendToEvmWithData"
  | type => .error (.invalidArgument
      (utf8 ("No EIP-712 primary type for RestEndpointType: " ++ type.toString)))

def walletOf (config : ApiConfig) (type : RestEndpointType) : Result Wallet :=
  match config.wallet with
  | some wallet => .ok wallet
  | none => .error (.invalidArgument
      (utf8 ("Wallet not configured, can't send authenticated request: " ++ type.toString)))

def chainName (env : Environment) : String :=
  if env = .mainnet then "Mainnet" else "Testnet"

/-- The digest that `signUserSignedAction` signs. -/
def userSignedDigest (primitives : Primitives) (action : Json) (payloadTypes : List EIP712Field)
    (primaryType : String) : Result Digest := do
  let structHash ← userSignedStructHash primitives primaryType payloadTypes action
  let domSep := domainSeparatorHash primitives "HyperliquidSignTransaction" "1" 0x66eee
  return eip712Hash primitives domSep structHash

def signUserSignedAction (primitives : Primitives) (wallet : Wallet) (action : Json)
    (payloadTypes : List EIP712Field) (primaryType : String) : Result Signature := do
  let finalHash ← userSignedDigest primitives action payloadTypes primaryType
  ecdsaSign primitives wallet finalHash

/-- The digest that `signL1Action` signs. -/
def l1Digest (primitives : Primitives) (action : Json) (vaultAddress : Option Bytes)
    (nonce : UInt64) (expiresAfter : Option UInt64) (isMainnet : Bool) : Result Digest := do
  let hash ← actionHash primitives action vaultAddress nonce expiresAfter
  let source := if isMainnet then "a" else "b"
  let structHash := agentStructHash primitives source hash
  let domSep := domainSeparatorHash primitives "Exchange" "1" 1337
  return eip712Hash primitives domSep structHash

def signL1Action (primitives : Primitives) (wallet : Wallet) (action : Json)
    (vaultAddress : Option Bytes) (nonce : UInt64) (expiresAfter : Option UInt64)
    (isMainnet : Bool) : Result Signature := do
  let finalHash ← l1Digest primitives action vaultAddress nonce expiresAfter isMainnet
  ecdsaSign primitives wallet finalHash

def signatureJson (signature : Signature) : Json :=
  .object [("r", .string signature.r), ("s", .string signature.s), ("v", .integer signature.v)]

/-- The fields that a user-signed action gets before it is signed. -/
def stampAction (action : Json) (timeField : String) (nonce : UInt64) (env : Environment) :
    Result Json := do
  let action ← action.set timeField (.unsigned nonce)
  let action ← action.set "signatureChainId" (.text "0x66eee")
  action.set "hyperliquidChain" (.text (chainName env))

def prepareBody (primitives : Primitives) (config : ApiConfig) (type : RestEndpointType)
    (body : Json) (vaultAddress : Option Bytes) (expiresAfter : Option UInt64) (nonce : UInt64) :
    Result Json := do
  let body ← body.setOptional "vaultAddress" (vaultAddress.map .string)
  let body ← body.setOptional "expiresAfter" (expiresAfter.map .unsigned)
  if type.isAuthenticated then
    let wallet ← walletOf config type
    let body ← body.set "nonce" (.unsigned nonce)
    let action ← body.index "action"
    if type.isUserSignedAction then
      let action ← stampAction action "nonce" nonce config.env
      let signature ← signUserSignedAction primitives wallet action
        (← userSignedActionFields type) (← userSignedActionPrimaryType type)
      let body ← body.set "action" action
      body.set "signature" (signatureJson signature)
    else
      let action ←
        if type = .agentSendAsset ∨ type = .createVault then action.set "nonce" (.unsigned nonce)
        else .ok action
      let signature ← signL1Action primitives wallet action vaultAddress nonce expiresAfter
        (config.env = .mainnet)
      let body ← body.set "action" action
      body.set "signature" (signatureJson signature)
  else return body

def approveAgentFields : List EIP712Field :=
  [⟨"hyperliquidChain", "string"⟩, ⟨"agentAddress", "address"⟩, ⟨"agentName", "string"⟩,
    ⟨"nonce", "uint64"⟩]

def approveAgentPrimaryType : String := "HyperliquidTransaction:ApproveAgent"

/-- The action of `approveAgent` as it is signed: a missing name is the empty one. -/
def approveAgentAction (agentAddress : Bytes) (agentName : Option Bytes) (nonce : UInt64)
    (env : Environment) : Json :=
  .object [("type", .text "approveAgent"), ("agentAddress", .string agentAddress),
    ("agentName", .string (agentName.getD [])), ("nonce", .unsigned nonce),
    ("signatureChainId", .text "0x66eee"), ("hyperliquidChain", .text (chainName env))]

/-- `body["action"]`, `body["nonce"]` and `body["signature"]` of a fresh body. -/
def signedBody (action : Json) (nonce : UInt64) (signature : Signature) : Json :=
  .object [("action", action), ("nonce", .unsigned nonce),
    ("signature", signatureJson signature)]

def prepareApproveAgentBody (primitives : Primitives) (config : ApiConfig) (agentAddress : Bytes)
    (agentName : Option Bytes) (nonce : UInt64) : Result Json := do
  let wallet ← walletOf config .approveAgent
  let action := approveAgentAction agentAddress agentName nonce config.env
  let signature ← signUserSignedAction primitives wallet action approveAgentFields
    approveAgentPrimaryType
  let action ← if agentName.isNone then action.erase "agentName" else .ok action
  return signedBody action nonce signature

/-- What the switch of `prepareUserSignedActionBody` selects. -/
structure UserSignedType where
  primaryType : String
  payloadTypes : List EIP712Field
  timeField : String

def userSignedType : RestEndpointType → Option UserSignedType
  | .usdSend => some ⟨"HyperliquidTransaction:UsdSend",
      [⟨"hyperliquidChain", "string"⟩, ⟨"destination", "string"⟩, ⟨"amount", "string"⟩,
        ⟨"time", "uint64"⟩], "time"⟩
  | .withdraw3 => some ⟨"HyperliquidTransaction:Withdraw",
      [⟨"hyperliquidChain", "string"⟩, ⟨"destination", "string"⟩, ⟨"amount", "string"⟩,
        ⟨"time", "uint64"⟩], "time"⟩
  | .spotSend => some ⟨"HyperliquidTransaction:SpotSend",
      [⟨"hyperliquidChain", "string"⟩, ⟨"destination", "string"⟩, ⟨"token", "string"⟩,
        ⟨"amount", "string"⟩, ⟨"time", "uint64"⟩], "time"⟩
  | .usdClassTransfer => some ⟨"HyperliquidTransaction:UsdClassTransfer",
      [⟨"hyperliquidChain", "string"⟩, ⟨"amount", "string"⟩, ⟨"toPerp", "bool"⟩,
        ⟨"nonce", "uint64"⟩], "nonce"⟩
  | .sendAsset => some ⟨"HyperliquidTransaction:SendAsset",
      [⟨"hyperliquidChain", "string"⟩, ⟨"destination", "string"⟩, ⟨"sourceDex", "string"⟩,
        ⟨"destinationDex", "string"⟩, ⟨"token", "string"⟩, ⟨"amount", "string"⟩,
        ⟨"fromSubAccount", "string"⟩, ⟨"nonce", "uint64"⟩], "nonce"⟩
  | .approveBuilderFee => some ⟨"HyperliquidTransaction:ApproveBuilderFee",
      [⟨"hyperliquidChain", "string"⟩, ⟨"maxFeeRate", "string"⟩, ⟨"builder", "address"⟩,
        ⟨"nonce", "uint64"⟩], "nonce"⟩
  | .userSetAbstraction => some ⟨"HyperliquidTransaction:UserSetAbstraction",
      [⟨"hyperliquidChain", "string"⟩, ⟨"user", "address"⟩, ⟨"abstraction", "string"⟩,
        ⟨"nonce", "uint64"⟩], "nonce"⟩
  | .cDeposit => some ⟨"HyperliquidTransaction:CDeposit",
      [⟨"hyperliquidChain", "string"⟩, ⟨"wei", "uint64"⟩, ⟨"nonce", "uint64"⟩], "nonce"⟩
  | .cWithdraw => some ⟨"HyperliquidTransaction:CWithdraw",
      [⟨"hyperliquidChain", "string"⟩, ⟨"wei", "uint64"⟩, ⟨"nonce", "uint64"⟩], "nonce"⟩
  | .tokenDelegate => some ⟨"HyperliquidTransaction:TokenDelegate",
      [⟨"hyperliquidChain", "string"⟩, ⟨"validator", "address"⟩, ⟨"wei", "uint64"⟩,
        ⟨"isUndelegate", "bool"⟩, ⟨"nonce", "uint64"⟩], "nonce"⟩
  | .sendToEvmWithData => some ⟨"HyperliquidTransaction:SendToEvmWithData",
      [⟨"hyperliquidChain", "string"⟩, ⟨"token", "string"⟩, ⟨"amount", "string"⟩,
        ⟨"sourceDex", "string"⟩, ⟨"destinationRecipient", "string"⟩,
        ⟨"addressEncoding", "string"⟩, ⟨"destinationChainId", "uint32"⟩,
        ⟨"gasLimit", "uint64"⟩, ⟨"data", "bytes"⟩, ⟨"nonce", "uint64"⟩], "nonce"⟩
  | .userDexAbstraction => some ⟨"HyperliquidTransaction:UserDexAbstraction",
      [⟨"hyperliquidChain", "string"⟩, ⟨"user", "address"⟩, ⟨"enabled", "bool"⟩,
        ⟨"nonce", "uint64"⟩], "nonce"⟩
  | .userPortfolioMargin => some ⟨"HyperliquidTransaction:UserPortfolioMargin",
      [⟨"hyperliquidChain", "string"⟩, ⟨"user", "address"⟩, ⟨"enabled", "bool"⟩,
        ⟨"nonce", "uint64"⟩], "nonce"⟩
  | _ => none

def prepareUserSignedActionBody (primitives : Primitives) (config : ApiConfig)
    (type : RestEndpointType) (action : Json) (nonce : UInt64) : Result Json := do
  let wallet ← walletOf config type
  match userSignedType type with
  | none => throw (.invalidArgument (utf8 ("Not a user-signed action: " ++ type.toString)))
  | some signed =>
      let action ← stampAction action signed.timeField nonce config.env
      let signature ← signUserSignedAction primitives wallet action signed.payloadTypes
        signed.primaryType
      return signedBody action nonce signature

def allowConfigVaultFallback (type : RestEndpointType) : Bool :=
  type ≠ .vaultTransfer && type ≠ .hip3LiquidatorTransfer && type ≠ .createSubAccount &&
    type ≠ .subAccountTransfer

def effectiveVault (config : ApiConfig) (type : RestEndpointType) (vaultAddress : Option Bytes) :
    Option Bytes :=
  match vaultAddress with
  | some address => some address
  | none => if allowConfigVaultFallback type then config.vaultAddress else none

def prepareBodyForType (primitives : Primitives) (config : ApiConfig) (type : RestEndpointType)
    (body : Json) (vaultAddress : Option Bytes) (expiresAfter : Option UInt64) (nonce : UInt64) :
    Result Json := do
  if type = .approveAgent then
    let action ← body.index "action"
    let agentAddress ← (← action.atKey "agentAddress").getString
    let agentName ←
      if action.contains "agentName" then some <$> (← action.atKey "agentName").getString
      else .ok none
    prepareApproveAgentBody primitives config agentAddress agentName nonce
  else if type.isUserSignedAction then
    prepareUserSignedActionBody primitives config type (← body.atKey "action") nonce
  else
    prepareBody primitives config type body (effectiveVault config type vaultAddress) expiresAfter
      nonce

end HyperliquidSdk.Signing
