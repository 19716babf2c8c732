import HyperliquidSdk.Messages.ExchangeRequest
import HyperliquidSdk.Signing.Signing

/-!
# What is signed is what is sent

The three signing routes as equations about built bodies, and the digest that a
receiver of the body computes.
-/

set_option autoImplicit false

namespace HyperliquidSdk.Signing

open Foundation Messages

/-- The action that an L1 request signs and sends. -/
def l1Action (type : RestEndpointType) (action : List (String × Json)) (nonce : UInt64) : Json :=
  if type = .agentSendAsset ∨ type = .createVault then
    .object (Json.assign "nonce" (.unsigned nonce) action)
  else .object action

def l1Body (action : Json) (vaultAddress : Option Bytes) (expiresAfter : Option UInt64)
    (nonce : UInt64) (signature : Signature) : Json :=
  .object ([("action", action)] ++ optionalMember "vaultAddress" (vaultAddress.map .string) ++
    optionalMember "expiresAfter" (expiresAfter.map .unsigned) ++
    [("nonce", .unsigned nonce), ("signature", signatureJson signature)])

/-- The L1 route on a built body. -/
theorem prepareBody_body (primitives : Primitives) (config : ApiConfig) (type : RestEndpointType)
    (action : List (String × Json)) (vaultAddress : Option Bytes) (expiresAfter : Option UInt64)
    (nonce : UInt64) (authenticated : type.isAuthenticated = true)
    (notUserSigned : type.isUserSignedAction = false) :
    prepareBody primitives config type (body action) vaultAddress expiresAfter nonce = (do
      let wallet ← walletOf config type
      let signature ← signL1Action primitives wallet (l1Action type action nonce) vaultAddress
        nonce expiresAfter (config.env = .mainnet)
      .ok (l1Body (l1Action type action nonce) vaultAddress expiresAfter nonce signature)) := by
  have built : body action = .object [("action", .object action)] := rfl
  unfold prepareBody
  simp only [built, authenticated, notUserSigned]
  by_cases embedded : type = .agentSendAsset ∨ type = .createVault
  · cases vaultAddress <;> cases expiresAfter <;>
      simp [embedded, Json.setOptional, Json.assign, l1Action, l1Body, optionalMember]
  · cases vaultAddress <;> cases expiresAfter <;>
      simp [embedded, Json.setOptional, Json.assign, l1Action, l1Body, optionalMember]

theorem prepareBody_of_signed {primitives : Primitives} {config : ApiConfig} {wallet : Wallet}
    {type : RestEndpointType} {action : List (String × Json)} {vaultAddress : Option Bytes}
    {expiresAfter : Option UInt64} {nonce : UInt64} {signature : Signature}
    (hasWallet : config.wallet = some wallet) (authenticated : type.isAuthenticated = true)
    (notUserSigned : type.isUserSignedAction = false)
    (signed : signL1Action primitives wallet (l1Action type action nonce) vaultAddress nonce
      expiresAfter (config.env = .mainnet) = .ok signature) :
    prepareBody primitives config type (body action) vaultAddress expiresAfter nonce =
      .ok (l1Body (l1Action type action nonce) vaultAddress expiresAfter nonce signature) := by
  have taken : walletOf config type = .ok wallet := by rw [walletOf, hasWallet]
  rw [prepareBody_body _ _ _ _ _ _ _ authenticated notUserSigned, taken, ok_bind, signed, ok_bind]

theorem prepareBodyForType_l1 (primitives : Primitives) (config : ApiConfig)
    (type : RestEndpointType) (built : Json) (vaultAddress : Option Bytes)
    (expiresAfter : Option UInt64) (nonce : UInt64) (notApproveAgent : type ≠ .approveAgent)
    (notUserSigned : type.isUserSignedAction = false) :
    prepareBodyForType primitives config type built vaultAddress expiresAfter nonce =
      prepareBody primitives config type built (effectiveVault config type vaultAddress)
        expiresAfter nonce := by
  simp [prepareBodyForType, notApproveAgent, notUserSigned]

theorem prepareBodyForType_userSigned (primitives : Primitives) (config : ApiConfig)
    (type : RestEndpointType) (action : List (String × Json)) (vaultAddress : Option Bytes)
    (expiresAfter : Option UInt64) (nonce : UInt64)
    (userSigned : type.isUserSignedAction = true) :
    prepareBodyForType primitives config type (body action) vaultAddress expiresAfter nonce =
      prepareUserSignedActionBody primitives config type (.object action) nonce := by
  have notApproveAgent : type ≠ .approveAgent := by
    intro equal
    rw [equal] at userSigned
    cases userSigned
  simp [prepareBodyForType, notApproveAgent, userSigned, body, Json.atKey]

theorem prepareBodyForType_approveAgent (primitives : Primitives) (config : ApiConfig)
    (request : ApproveAgentRequest) (vaultAddress : Option Bytes) (expiresAfter : Option UInt64)
    (nonce : UInt64) :
    prepareBodyForType primitives config .approveAgent (approveAgent request) vaultAddress
      expiresAfter nonce =
      prepareApproveAgentBody primitives config request.agentAddress request.agentName nonce := by
  cases name : request.agentName <;>
    simp [prepareBodyForType, approveAgent, body, name, optionalMember, Json.atKey, List.lookup_cons,
      Json.getString, Json.contains, Json.member?]

/-! ## The digest of a sent body -/

/-- Fields that are read alike are encoded alike. -/
theorem encodeFields_congr (primitives : Primitives) {signed sent : Json}
    (payloadTypes : List EIP712Field)
    (agree : ∀ field ∈ payloadTypes, signed.indexConst field.name = sent.indexConst field.name) :
    encodeFields primitives signed payloadTypes = encodeFields primitives sent payloadTypes := by
  induction payloadTypes with
  | nil => rfl
  | cons field rest ih =>
      have first : encodeField primitives signed field = encodeField primitives sent field := by
        unfold encodeField
        rw [agree field (List.mem_cons_self ..)]
      have others := ih fun other present => agree other (List.mem_cons_of_mem _ present)
      unfold encodeFields
      rw [first, others]

theorem userSignedDigest_congr (primitives : Primitives) {signed sent : Json}
    (payloadTypes : List EIP712Field) (primaryType : String)
    (agree : ∀ field ∈ payloadTypes, signed.indexConst field.name = sent.indexConst field.name) :
    userSignedDigest primitives signed payloadTypes primaryType =
      userSignedDigest primitives sent payloadTypes primaryType := by
  unfold userSignedDigest userSignedStructHash
  rw [encodeFields_congr primitives payloadTypes agree]

/-- A missing `agentName` is read as the empty one. -/
def withAgentName (action : Json) : Result Json :=
  if action.contains "agentName" then .ok action else action.set "agentName" (.text "")

/-- The member as a text, if it is present. -/
def sentText (json : Json) (key : String) : Result (Option Bytes) :=
  match json.member? key with
  | some value => some <$> value.getString
  | none => .ok none

def sentNumber (json : Json) (key : String) : Result (Option UInt64) :=
  match json.member? key with
  | some value => some <$> value.getUInt64
  | none => .ok none

/-- The digest recomputed from the sent body and the environment alone. -/
def sentDigest (primitives : Primitives) (env : Environment) (type : RestEndpointType)
    (sent : Json) : Result Digest := do
  let action ← sent.atKey "action"
  if type = .approveAgent then
    userSignedDigest primitives (← withAgentName action) approveAgentFields
      approveAgentPrimaryType
  else
    match userSignedType type with
    | some signed => userSignedDigest primitives action signed.payloadTypes signed.primaryType
    | none => do
        let nonce ← (← sent.atKey "nonce").getUInt64
        let vaultAddress ← sentText sent "vaultAddress"
        let expiresAfter ← sentNumber sent "expiresAfter"
        l1Digest primitives action vaultAddress nonce expiresAfter (env = .mainnet)

/-- The field of a user-signed action that repeats the nonce. -/
def signedTimeField (type : RestEndpointType) : Option String :=
  if type = .approveAgent then some "nonce" else (userSignedType type).map (·.timeField)

/-- The sent body carries the signature of its own digest. -/
def CarriesSignature (primitives : Primitives) (env : Environment) (wallet : Wallet)
    (type : RestEndpointType) (sent : Json) : Prop :=
  ∃ digest signature, sentDigest primitives env type sent = .ok digest ∧
    ecdsaSign primitives wallet digest = .ok signature ∧
    sent.member? "signature" = some (signatureJson signature)

/-- The nonce and the environment as the action of a user-signed body repeats them. -/
def RepeatsNonce (env : Environment) (timeField : String) (sent : Json) : Prop :=
  ∃ action nonce, sent.member? "action" = some action ∧ sent.member? "nonce" = some nonce ∧
    action.member? timeField = some nonce ∧
    action.member? "hyperliquidChain" = some (.text (chainName env))

section Routes

variable {primitives : Primitives} {config : ApiConfig} {wallet : Wallet} {nonce : UInt64}
  {sent : Json}

theorem walletOf_eq_ok {type : RestEndpointType} {found : Wallet}
    (hasWallet : config.wallet = some wallet) (taken : walletOf config type = .ok found) :
    found = wallet := by
  rw [walletOf, hasWallet] at taken
  exact (Except.ok.inj taken).symm

theorem walletOf_returns {type : RestEndpointType} {found : Wallet}
    (taken : walletOf config type = .ok found) :
    config.wallet = some found := by
  unfold walletOf at taken
  split at taken
  · next configured => rw [configured, Except.ok.inj taken]
  · cases taken

theorem l1_carriesSignature {type : RestEndpointType} {action : List (String × Json)}
    {vaultAddress : Option Bytes} {expiresAfter : Option UInt64}
    (hasWallet : config.wallet = some wallet) (authenticated : type.isAuthenticated = true)
    (notApproveAgent : type ≠ .approveAgent) (notUserSigned : userSignedType type = none)
    (l1 : type.isUserSignedAction = false)
    (prepared : prepareBody primitives config type (body action) vaultAddress expiresAfter nonce =
      .ok sent) :
    CarriesSignature primitives config.env wallet type sent := by
  rw [prepareBody_body primitives config type action vaultAddress expiresAfter nonce authenticated
    l1] at prepared
  obtain ⟨found, taken, prepared⟩ := bind_eq_ok prepared
  obtain rfl := walletOf_eq_ok hasWallet taken
  obtain ⟨signature, signing, prepared⟩ := bind_eq_ok prepared
  obtain rfl := Except.ok.inj prepared
  obtain ⟨digest, hashed, signing⟩ := bind_eq_ok signing
  refine ⟨digest, signature, ?_, signing, ?_⟩
  · rw [← hashed]
    cases vaultAddress <;> cases expiresAfter <;>
      simp [sentDigest, notApproveAgent, notUserSigned, l1Body, optionalMember, Json.atKey,
        List.lookup_cons, Json.getUInt64, sentText, sentNumber, Json.member?, Json.getString]
  · cases vaultAddress <;> cases expiresAfter <;> rfl

/-- The action of a user-signed body. -/
def stampedAction (action : List (String × Json)) (timeField : String) (nonce : UInt64)
    (env : Environment) : Json :=
  .object (Json.assign "hyperliquidChain" (.text (chainName env))
    (Json.assign "signatureChainId" (.text "0x66eee")
      (Json.assign timeField (.unsigned nonce) action)))

theorem stampedAction_chain (action : List (String × Json)) (timeField : String) (nonce : UInt64)
    (env : Environment) :
    (stampedAction action timeField nonce env).member? "hyperliquidChain" =
      some (.text (chainName env)) :=
  Json.lookup_assign_self _ _ _

theorem stampedAction_time (action : List (String × Json)) {timeField : String} (nonce : UInt64)
    (env : Environment) (notChain : timeField ≠ "hyperliquidChain")
    (notChainId : timeField ≠ "signatureChainId") :
    (stampedAction action timeField nonce env).member? timeField = some (.unsigned nonce) := by
  unfold stampedAction
  rw [Json.member?_object, Json.lookup_assign_of_ne _ _ notChain, Json.lookup_assign_of_ne _ _ notChainId]
  exact Json.lookup_assign_self _ _ _

theorem userSignedType_eq_none {type : RestEndpointType}
    (l1 : type.isUserSignedAction = false) : userSignedType type = none := by
  cases type with
  | usdSend | withdraw3 | spotSend | usdClassTransfer | sendAsset | approveBuilderFee
  | userSetAbstraction | cDeposit | cWithdraw | tokenDelegate | sendToEvmWithData
  | userDexAbstraction | userPortfolioMargin => cases l1
  | _ => rfl

theorem userSignedType_of_userSigned {type : RestEndpointType}
    (userSigned : type.isUserSignedAction = true) : ∃ signed, userSignedType type = some signed := by
  cases type with
  | usdSend | withdraw3 | spotSend | usdClassTransfer | sendAsset | approveBuilderFee
  | userSetAbstraction | cDeposit | cWithdraw | tokenDelegate | sendToEvmWithData
  | userDexAbstraction | userPortfolioMargin => exact ⟨_, rfl⟩
  | _ => cases userSigned

theorem userSignedType_timeField {type : RestEndpointType} {signed : UserSignedType}
    (selected : userSignedType type = some signed) :
    signed.timeField = "time" ∨ signed.timeField = "nonce" := by
  cases type <;> simp only [userSignedType] at selected <;> cases selected <;> decide

/-- The user-signed route, inverted. -/
theorem prepareUserSignedActionBody_eq_ok {type : RestEndpointType}
    {action : List (String × Json)} (hasWallet : config.wallet = some wallet)
    (prepared : prepareUserSignedActionBody primitives config type (.object action) nonce =
      .ok sent) :
    ∃ signed digest signature, userSignedType type = some signed ∧
      userSignedDigest primitives (stampedAction action signed.timeField nonce config.env)
        signed.payloadTypes signed.primaryType = .ok digest ∧
      ecdsaSign primitives wallet digest = .ok signature ∧
      sent = signedBody (stampedAction action signed.timeField nonce config.env) nonce signature := by
  obtain ⟨found, taken, prepared⟩ := bind_eq_ok prepared
  obtain rfl := walletOf_eq_ok hasWallet taken
  cases selected : userSignedType type with
  | none => simp only [selected] at prepared; cases prepared
  | some signed =>
      simp only [selected] at prepared
      obtain ⟨stamped, stamping, prepared⟩ := bind_eq_ok prepared
      obtain rfl := Except.ok.inj stamping
      obtain ⟨signature, signing, prepared⟩ := bind_eq_ok prepared
      obtain rfl := Except.ok.inj prepared
      obtain ⟨digest, hashed, signing⟩ := bind_eq_ok signing
      exact ⟨signed, digest, signature, rfl, hashed, signing, rfl⟩

theorem userSigned_carriesSignature {type : RestEndpointType} {action : List (String × Json)}
    (hasWallet : config.wallet = some wallet) (notApproveAgent : type ≠ .approveAgent)
    (prepared : prepareUserSignedActionBody primitives config type (.object action) nonce =
      .ok sent) :
    CarriesSignature primitives config.env wallet type sent := by
  obtain ⟨signed, digest, signature, selected, hashed, signing, rfl⟩ :=
    prepareUserSignedActionBody_eq_ok hasWallet prepared
  refine ⟨digest, signature, ?_, signing, rfl⟩
  simpa [sentDigest, notApproveAgent, selected, signedBody, Json.atKey, List.lookup_cons] using hashed

theorem userSigned_repeatsNonce {type : RestEndpointType} {action : List (String × Json)}
    (hasWallet : config.wallet = some wallet)
    (prepared : prepareUserSignedActionBody primitives config type (.object action) nonce =
      .ok sent) :
    ∃ signed, userSignedType type = some signed ∧
      RepeatsNonce config.env signed.timeField sent := by
  obtain ⟨signed, _, _, selected, _, _, rfl⟩ :=
    prepareUserSignedActionBody_eq_ok hasWallet prepared
  have time := @stampedAction_time action signed.timeField nonce config.env
  refine ⟨signed, selected, _, _, rfl, rfl, ?_, stampedAction_chain _ _ _ _⟩
  obtain named | named := userSignedType_timeField selected
  · exact time (by rw [named]; decide) (by rw [named]; decide)
  · exact time (by rw [named]; decide) (by rw [named]; decide)

/-- The action of `approveAgent` as it is sent. -/
def sentApproveAgentAction (agentAddress : Bytes) (agentName : Option Bytes) (nonce : UInt64)
    (env : Environment) : Json :=
  .object ([("type", .text "approveAgent"), ("agentAddress", .string agentAddress)] ++
    optionalMember "agentName" (agentName.map .string) ++ [("nonce", .unsigned nonce),
      ("signatureChainId", .text "0x66eee"), ("hyperliquidChain", .text (chainName env))])

/-- The `approveAgent` route, inverted: the name is erased after signing if it is missing. -/
theorem prepareApproveAgentBody_eq_ok {agentAddress : Bytes} {agentName : Option Bytes}
    (hasWallet : config.wallet = some wallet)
    (prepared : prepareApproveAgentBody primitives config agentAddress agentName nonce =
      .ok sent) :
    ∃ digest signature,
      userSignedDigest primitives (approveAgentAction agentAddress agentName nonce config.env)
        approveAgentFields approveAgentPrimaryType = .ok digest ∧
      ecdsaSign primitives wallet digest = .ok signature ∧
      sent = signedBody (sentApproveAgentAction agentAddress agentName nonce config.env) nonce
        signature := by
  obtain ⟨found, taken, prepared⟩ := bind_eq_ok prepared
  obtain rfl := walletOf_eq_ok hasWallet taken
  obtain ⟨signature, signing, prepared⟩ := bind_eq_ok prepared
  obtain ⟨digest, hashed, signing⟩ := bind_eq_ok signing
  refine ⟨digest, signature, hashed, signing, ?_⟩
  cases agentName with
  | none => exact (Except.ok.inj prepared).symm
  | some name => exact (Except.ok.inj prepared).symm

/-- The signed action and the sent one with its name read have the same fields. -/
theorem withAgentName_sent (agentAddress : Bytes) (agentName : Option Bytes) (nonce : UInt64)
    (env : Environment) :
    ∃ read, withAgentName (sentApproveAgentAction agentAddress agentName nonce env) = .ok read ∧
      ∀ field ∈ approveAgentFields,
        (approveAgentAction agentAddress agentName nonce env).indexConst field.name =
          read.indexConst field.name := by
  cases agentName with
  | none =>
      refine ⟨_, rfl, ?_⟩
      simp [approveAgentFields, approveAgentAction, optionalMember, Json.indexConst, Json.assign,
        List.lookup_cons, Json.text, utf8]
  | some name =>
      refine ⟨_, rfl, ?_⟩
      simp [approveAgentFields, approveAgentAction, sentApproveAgentAction, optionalMember,
        Json.indexConst, List.lookup_cons]

theorem approveAgent_carriesSignature {agentAddress : Bytes} {agentName : Option Bytes}
    (hasWallet : config.wallet = some wallet)
    (prepared : prepareApproveAgentBody primitives config agentAddress agentName nonce =
      .ok sent) :
    CarriesSignature primitives config.env wallet .approveAgent sent := by
  obtain ⟨digest, signature, hashed, signing, rfl⟩ :=
    prepareApproveAgentBody_eq_ok hasWallet prepared
  obtain ⟨read, named, agree⟩ := withAgentName_sent agentAddress agentName nonce config.env
  rw [userSignedDigest_congr primitives approveAgentFields approveAgentPrimaryType agree] at hashed
  refine ⟨digest, signature, ?_, signing, rfl⟩
  simpa [sentDigest, signedBody, Json.atKey, List.lookup_cons, named] using hashed

theorem approveAgent_repeatsNonce {agentAddress : Bytes} {agentName : Option Bytes}
    (hasWallet : config.wallet = some wallet)
    (prepared : prepareApproveAgentBody primitives config agentAddress agentName nonce =
      .ok sent) :
    RepeatsNonce config.env "nonce" sent := by
  obtain ⟨digest, signature, _, _, rfl⟩ := prepareApproveAgentBody_eq_ok hasWallet prepared
  cases agentName with
  | none => exact ⟨_, _, rfl, rfl, rfl, rfl⟩
  | some name => exact ⟨_, _, rfl, rfl, rfl, rfl⟩

end Routes

/-- A signed body is sent with the signature of what it says. -/
theorem signed_is_sent (primitives : Primitives) (config : ApiConfig) (wallet : Wallet)
    (request : ExchangeRequest) (symbolMap : SymbolMap) (built : Json)
    (vaultAddress : Option Bytes) (expiresAfter : Option UInt64) (nonce : UInt64) (sent : Json)
    (hasWallet : config.wallet = some wallet) (build : request.build symbolMap = .ok built)
    (prepared : prepareBodyForType primitives config request.endpoint built vaultAddress
      expiresAfter nonce = .ok sent) :
    CarriesSignature primitives config.env wallet request.endpoint sent ∧
      ∀ timeField, signedTimeField request.endpoint = some timeField →
        RepeatsNonce config.env timeField sent := by
  by_cases isApproveAgent : request.endpoint = .approveAgent
  · cases request with
    | approveAgent request =>
        obtain rfl := Except.ok.inj build
        rw [ExchangeRequest.endpoint, prepareBodyForType_approveAgent] at prepared
        refine ⟨approveAgent_carriesSignature hasWallet prepared, ?_⟩
        intro timeField named
        obtain rfl := Option.some.inj named
        exact approveAgent_repeatsNonce hasWallet prepared
    | _ => cases isApproveAgent
  obtain ⟨action, rfl⟩ := request.buildsBody_build symbolMap built build
  cases route : request.endpoint.isUserSignedAction with
  | true =>
      rw [prepareBodyForType_userSigned _ _ _ _ _ _ _ route] at prepared
      refine ⟨userSigned_carriesSignature hasWallet isApproveAgent prepared, ?_⟩
      intro timeField named
      obtain ⟨signed, selected, repeats⟩ := userSigned_repeatsNonce hasWallet prepared
      rw [signedTimeField, if_neg isApproveAgent, selected] at named
      obtain rfl := Option.some.inj named
      exact repeats
  | false =>
      rw [prepareBodyForType_l1 _ _ _ _ _ _ _ isApproveAgent route] at prepared
      have notUserSigned := userSignedType_eq_none route
      refine ⟨l1_carriesSignature hasWallet request.endpoint_isAuthenticated isApproveAgent
        notUserSigned route prepared, ?_⟩
      intro timeField named
      rw [signedTimeField, if_neg isApproveAgent, notUserSigned] at named
      cases named

/-! ## A recorded run -/

def Digest.ofNat (value : Nat) : Digest :=
  ⟨(List.range 32).map fun index => UInt8.ofNat (value / 256 ^ (31 - index)), by simp⟩

/-- Recorded calls of the libraries: one encoding, one signature, and the hashes. -/
structure Recording where
  encoded : Bytes
  hashes : List (Bytes × Digest)
  signed : Digest
  privateKey : Bytes
  signature : CompactSignature

/-- What was not recorded is answered by a zero digest. -/
def Recording.primitives (recording : Recording) : Primitives where
  sha3Keccak256 := fun data => (recording.hashes.lookup data).getD (Digest.ofNat 0)
  toMsgpack := fun _ => recording.encoded
  contextCreated := true
  signRecoverable := fun digest key =>
    if digest = recording.signed ∧ key = recording.privateKey then some recording.signature
    else none

/-- The hash of the agent's type, of the mainnet source, and of the domain of L1 actions. -/
def agentTypeHash : Digest :=
  .ofNat 0x26f05c2f7239b6983075e58321292d77b3aa173d19b27257ac96ab362570f508

def mainnetSourceHash : Digest :=
  .ofNat 0x3ac225168df54212a25c1c01fd35bebfea408fdac2e31ddd6f80a4bbf9a5f1cb

def exchangeDomainHash : Digest :=
  .ofNat 0xd79297fcdf2ffcd4ae223d01edaa2ba214ff8f401d7c9300d995d17c82aa4040

/-- The hashes that every mainnet L1 signature needs. -/
def mainnetHashes : List (Bytes × Digest) :=
  let domainTypeHash :=
    Digest.ofNat 0x8b73c3c69bb8fe3d512ecc4cf759cc79239f7b179b0ffacaa9a75d522b39400f
  let nameHash :=
    Digest.ofNat 0xddd112a261429abc594f5771eb08d7fa47bff456b2e5f1a47907b78573e33d96
  let versionHash :=
    Digest.ofNat 0xc89efdaa54c0f20c7adf612882df0950f5a951637e0307cdcb4c672f298b8bc6
  [(utf8 "Agent(string source,bytes32 connectionId)", agentTypeHash),
    (utf8 "a", mainnetSourceHash), (utf8 domainType, domainTypeHash),
    (utf8 "Exchange", nameHash), (utf8 "1", versionHash),
    (domainTypeHash.val ++ nameHash.val ++ versionHash.val ++ encodeUint256 1337 ++
      List.replicate 32 0, exchangeDomainHash)]

/-- The key of the signing tests. -/
def testWallet : Wallet where
  accountAddress := []
  privateKey := utf8 "0123456789012345678901234567890123456789012345678901234567890123"

/-- `msgpack` of `\x7b"type": "createSubAccount", "name": "example"\x7d`. -/
def createSubAccountEncoded : Bytes :=
  [0x82, 0xa4] ++ utf8 "type" ++ [0xb0] ++ utf8 "createSubAccount" ++ [0xa4] ++ utf8 "name" ++
    [0xa7] ++ utf8 "example"

/-- The calls that one mainnet L1 signature of the test key makes. -/
def l1Recording (encoded preimage : Bytes) (hash structHash finalHash : Digest)
    (signature : CompactSignature) : Recording where
  encoded := encoded
  hashes := mainnetHashes ++ [(preimage, hash),
    (agentTypeHash.val ++ mainnetSourceHash.val ++ hash.val, structHash),
    ([0x19, 0x01] ++ exchangeDomainHash.val ++ structHash.val, finalHash)]
  signed := finalHash
  privateKey := (Digest.ofNat
    0x0123456789012345678901234567890123456789012345678901234567890123).val
  signature := signature

/-- The calls made by the test `CreateSubAccountAction`. -/
def createSubAccountRecording : Recording :=
  l1Recording createSubAccountEncoded (createSubAccountEncoded ++ List.replicate 9 0)
    (.ofNat 0x9a7b5272baf65d28b0589bd50863a42ac35897553a6beb274e625b6faf7d6bb1)
    (.ofNat 0x16e61d0a62eca9cbb31c8c2612f714b8ca7d9f1bb464d82e54fec2976bd57e13)
    (.ofNat 0x4423e9ec1018e626f959974e00f3715aa1d91ad58815ae8f11f8c7283e70973c)
    { r := .ofNat 0x51096fe3239421d16b671e192f574ae24ae14329099b6db28e479b86cdd6caa7
      s := .ofNat 0x0b71f7d293af92d3772572afb8b102d167a7cef7473388286bc01f52a5c5b423
      recid := 0 }

def createSubAccountSignature : Signature where
  r := utf8 "0x51096fe3239421d16b671e192f574ae24ae14329099b6db28e479b86cdd6caa7"
  s := utf8 "0xb71f7d293af92d3772572afb8b102d167a7cef7473388286bc01f52a5c5b423"
  v := 27

def createSubAccountAction : List (String × Json) :=
  [("type", .text "createSubAccount"), ("name", .text "example")]

theorem createSubAccount_signed :
    signL1Action createSubAccountRecording.primitives testWallet
      (.object createSubAccountAction) none 0 none true = .ok createSubAccountSignature := by
  decide +kernel

def testConfig : ApiConfig where
  env := .mainnet
  wallet := some testWallet
  vaultAddress := none

theorem createSubAccount_prepared :
    prepareBodyForType createSubAccountRecording.primitives testConfig .createSubAccount
      (body createSubAccountAction) none none 0 =
      .ok (l1Body (.object createSubAccountAction) none none 0 createSubAccountSignature) := by
  rw [prepareBodyForType_l1 _ _ _ _ _ _ _ (by decide) rfl]
  exact prepareBody_of_signed rfl rfl rfl createSubAccount_signed

theorem signed_is_sent_createSubAccount :
    CarriesSignature createSubAccountRecording.primitives .mainnet testWallet .createSubAccount
      (l1Body (.object createSubAccountAction) none none 0 createSubAccountSignature) :=
  (signed_is_sent createSubAccountRecording.primitives testConfig testWallet
    (.createSubAccount ⟨utf8 "example"⟩) [] (body createSubAccountAction) none none 0 _ rfl rfl
    createSubAccount_prepared).1

end HyperliquidSdk.Signing
