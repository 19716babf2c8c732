import HyperliquidSdk.Signing.SignedBody

/-!
# The vault of the configuration

Which actions without a vault parameter are signed for the vault of the
configuration. Two runs are compared whose configurations differ in the vault only.
-/

set_option autoImplicit false

namespace HyperliquidSdk.Signing

open Foundation Messages

/-- The bytes of the request that `prepareBodyForType` hashes and signs: the preimage of
the action hash, or the encoded fields of a user-signed action. -/
def signedPreimage (primitives : Primitives) (config : ApiConfig) (type : RestEndpointType)
    (built : Json) (vaultAddress : Option Bytes) (expiresAfter : Option UInt64)
    (nonce : UInt64) : Result Bytes := do
  let action ← built.atKey "action"
  if type = .approveAgent then
    let agentAddress ← (← action.atKey "agentAddress").getString
    let agentName ←
      if action.contains "agentName" then some <$> (← action.atKey "agentName").getString
      else .ok none
    encodeFields primitives (approveAgentAction agentAddress agentName nonce config.env)
      approveAgentFields
  else
    match userSignedType type with
    | some signed =>
        encodeFields primitives (← stampAction action signed.timeField nonce config.env)
          signed.payloadTypes
    | none =>
        let action ←
          if type = .agentSendAsset ∨ type = .createVault then action.set "nonce" (.unsigned nonce)
          else .ok action
        actionPreimage primitives action (effectiveVault config type vaultAddress) nonce
          expiresAfter

/-- The request types without a vault parameter that the exclusion list leaves out. -/
def leaksConfigVault : RestEndpointType → Bool
  | .createVault | .borrowLend | .setReferrer | .spotDeployRegisterToken2 | .spotDeployUserGenesis
  | .spotDeployGenesis | .spotDeployRegisterSpot | .spotDeployRegisterHyperliquidity
  | .perpDeployRegisterAsset2 => true
  | _ => false

theorem noFallback_of_noParameter (request : ExchangeRequest)
    (noParameter : request.takesVaultAddress = false)
    (noLeak : leaksConfigVault request.endpoint = false) :
    request.endpoint = .approveAgent ∨ request.endpoint.isUserSignedAction = true ∨
      allowConfigVaultFallback request.endpoint = false := by
  cases request <;>
    simp_all [ExchangeRequest.takesVaultAddress, leaksConfigVault, ExchangeRequest.endpoint,
      RestEndpointType.isUserSignedAction, allowConfigVaultFallback]

theorem l1_of_leaks {type : RestEndpointType} (leaks : leaksConfigVault type = true) :
    type ≠ .approveAgent ∧ type.isUserSignedAction = false ∧ type.isAuthenticated = true ∧
      allowConfigVaultFallback type = true := by
  cases type <;> simp_all [leaksConfigVault, RestEndpointType.isUserSignedAction,
    RestEndpointType.isAuthenticated, allowConfigVaultFallback]

section TwoRuns

variable (primitives : Primitives) (config : ApiConfig) (type : RestEndpointType) (built : Json)
  (expiresAfter : Option UInt64) (nonce : UInt64)

def preparedUnder (vault : Option Bytes) : Result Json :=
  prepareBodyForType primitives { config with vaultAddress := vault } type built none expiresAfter
    nonce

def preimageUnder (vault : Option Bytes) : Result Bytes :=
  signedPreimage primitives { config with vaultAddress := vault } type built none expiresAfter
    nonce

/-- The two runs return the same body or none, signed over the same bytes, and no returned
body names a vault. -/
structure SameRequest (first second : Option Bytes) : Prop where
  body : (preparedUnder primitives config type built expiresAfter nonce first).toOption =
    (preparedUnder primitives config type built expiresAfter nonce second).toOption
  preimage : ∀ sent, preparedUnder primitives config type built expiresAfter nonce first =
      .ok sent →
    preimageUnder primitives config type built expiresAfter nonce first =
      preimageUnder primitives config type built expiresAfter nonce second
  noVault : ∀ vault, vault = first ∨ vault = second → ∀ sent,
    preparedUnder primitives config type built expiresAfter nonce vault = .ok sent →
      sent.contains "vaultAddress" = false

/-- There is a wallet, the vault is hexadecimal, and the wallet's key signs. -/
def Signable (action : Json) (vault : Option Bytes) : Prop :=
  ∃ wallet digest recoverable, config.wallet = some wallet ∧
    l1Digest primitives action vault nonce expiresAfter (config.env = .mainnet) = .ok digest ∧
    KeySigns primitives wallet digest recoverable

end TwoRuns

section Proofs

variable {primitives : Primitives} {config : ApiConfig} {type : RestEndpointType}
  {expiresAfter : Option UInt64} {nonce : UInt64} {action : List (String × Json)}

theorem l1Body_contains_vaultAddress (action : Json) (vault : Option Bytes)
    (signature : Signature) :
    (l1Body action vault expiresAfter nonce signature).contains "vaultAddress" = vault.isSome := by
  cases vault <;> cases expiresAfter <;> rfl

/-- A leaking type is prepared and signed for the vault of the configuration. -/
theorem preparedUnder_leaks (leaks : leaksConfigVault type = true) (vault : Option Bytes) :
    preparedUnder primitives config type (body action) expiresAfter nonce vault = (do
      let wallet ← walletOf config type
      let signature ← signL1Action primitives wallet (l1Action type action nonce) vault nonce
        expiresAfter (config.env = .mainnet)
      .ok (l1Body (l1Action type action nonce) vault expiresAfter nonce signature)) := by
  obtain ⟨notApproveAgent, l1, authenticated, fallback⟩ := l1_of_leaks leaks
  have taken : effectiveVault { config with vaultAddress := vault } type none = vault :=
    if_pos fallback
  unfold preparedUnder
  rw [prepareBodyForType_l1 _ _ _ _ _ _ _ notApproveAgent l1, taken,
    prepareBody_body _ _ _ _ _ _ _ authenticated l1]
  rfl

theorem preparedUnder_leaks_returns (leaks : leaksConfigVault type = true)
    {vault : Option Bytes} {sent : Json}
    (returns : preparedUnder primitives config type (body action) expiresAfter nonce vault =
      .ok sent) :
    Signable primitives config expiresAfter nonce (l1Action type action nonce) vault ∧
      sent.contains "vaultAddress" = vault.isSome := by
  rw [preparedUnder_leaks leaks] at returns
  obtain ⟨wallet, taken, returns⟩ := bind_eq_ok returns
  obtain ⟨signature, signing, returns⟩ := bind_eq_ok returns
  obtain rfl := Except.ok.inj returns
  obtain ⟨digest, hashed, signed⟩ := bind_eq_ok signing
  obtain ⟨recoverable, keySigns, -⟩ :=
    (ecdsaSign_eq_ok_iff primitives wallet digest signature).mp signed
  exact ⟨⟨wallet, digest, recoverable, walletOf_returns taken, hashed, keySigns⟩,
    l1Body_contains_vaultAddress _ _ _⟩

theorem preparedUnder_of_signed (leaks : leaksConfigVault type = true) {vault : Option Bytes}
    {wallet : Wallet} {signature : Signature} (configured : config.wallet = some wallet)
    (signed : signL1Action primitives wallet (l1Action type action nonce) vault nonce expiresAfter
      (config.env = .mainnet) = .ok signature) :
    preparedUnder primitives config type (body action) expiresAfter nonce vault =
      .ok (l1Body (l1Action type action nonce) vault expiresAfter nonce signature) := by
  have taken : walletOf config type = .ok wallet := by rw [walletOf, configured]
  rw [preparedUnder_leaks leaks, taken, ok_bind, signed, ok_bind]

theorem returns_of_signable (leaks : leaksConfigVault type = true) {vault : Option Bytes}
    (signable : Signable primitives config expiresAfter nonce (l1Action type action nonce)
      vault) :
    ∃ sent, preparedUnder primitives config type (body action) expiresAfter nonce vault =
      .ok sent := by
  obtain ⟨wallet, digest, recoverable, configured, hashed, keySigns⟩ := signable
  have signing := (ecdsaSign_eq_ok_iff primitives wallet digest _).mpr ⟨recoverable, keySigns, rfl⟩
  have signed := congrArg (· >>= ecdsaSign primitives wallet) hashed
  exact ⟨_, preparedUnder_of_signed leaks configured (signed.trans signing)⟩

/-- Without the fallback the vault of the configuration is not read. -/
theorem preparedUnder_noFallback (built : Json) (vault : Option Bytes)
    (noFallback : type = .approveAgent ∨ type.isUserSignedAction = true ∨
      allowConfigVaultFallback type = false) :
    preparedUnder primitives config type built expiresAfter nonce vault =
      preparedUnder primitives config type built expiresAfter nonce none := by
  unfold preparedUnder prepareBodyForType
  obtain approveAgent | userSigned | noFallback := noFallback
  · rw [if_pos approveAgent, if_pos approveAgent]
    rfl
  · rw [if_pos userSigned, if_pos userSigned]
    rfl
  · have ignored (config : ApiConfig) : effectiveVault config type none = none :=
      if_neg (Bool.eq_false_iff.mp noFallback)
    rw [ignored, ignored]
    rfl

theorem preimageUnder_noFallback (built : Json) (vault : Option Bytes)
    (noFallback : type = .approveAgent ∨ type.isUserSignedAction = true ∨
      allowConfigVaultFallback type = false) :
    preimageUnder primitives config type built expiresAfter nonce vault =
      preimageUnder primitives config type built expiresAfter nonce none := by
  unfold preimageUnder signedPreimage
  obtain rfl | userSigned | noFallback := noFallback
  · rfl
  · obtain ⟨signed, selected⟩ := userSignedType_of_userSigned userSigned
    simp only [selected]
  · have ignored (config : ApiConfig) : effectiveVault config type none = none :=
      if_neg (Bool.eq_false_iff.mp noFallback)
    simp only [ignored]

/-- Neither a per-call vault nor a configured one: the body names none. -/
theorem preparedUnder_none_noVault {request : ExchangeRequest} {symbolMap : SymbolMap}
    {built sent : Json} (build : request.build symbolMap = .ok built)
    (returns : preparedUnder primitives config request.endpoint built expiresAfter nonce none =
      .ok sent) :
    sent.contains "vaultAddress" = false := by
  obtain ⟨action, rfl⟩ := request.buildsBody_build symbolMap built build
  unfold preparedUnder at returns
  by_cases isApproveAgent : request.endpoint = .approveAgent
  · cases request with
    | approveAgent request =>
        rw [← Except.ok.inj build, ExchangeRequest.endpoint, prepareBodyForType_approveAgent]
          at returns
        obtain ⟨wallet, taken, -⟩ := bind_eq_ok returns
        obtain ⟨_, _, _, _, rfl⟩ :=
          prepareApproveAgentBody_eq_ok (walletOf_returns taken) returns
        rfl
    | _ => cases isApproveAgent
  cases route : request.endpoint.isUserSignedAction with
  | true =>
      rw [prepareBodyForType_userSigned _ _ _ _ _ _ _ route] at returns
      obtain ⟨wallet, taken, -⟩ := bind_eq_ok returns
      obtain ⟨_, _, _, _, _, _, rfl⟩ :=
        prepareUserSignedActionBody_eq_ok (walletOf_returns taken) returns
      rfl
  | false =>
      have unset : effectiveVault { config with vaultAddress := none } request.endpoint none =
          none := ite_self none
      rw [prepareBodyForType_l1 _ _ _ _ _ _ _ isApproveAgent route, unset,
        prepareBody_body _ _ _ _ _ _ _ request.endpoint_isAuthenticated route] at returns
      obtain ⟨_, -, returns⟩ := bind_eq_ok returns
      obtain ⟨signature, -, returns⟩ := bind_eq_ok returns
      rw [← Except.ok.inj returns]
      exact l1Body_contains_vaultAddress _ none _

end Proofs

/-- The vault of the configuration reaches a request without a vault parameter exactly if
its type is one of those the exclusion list leaves out, a vault is configured in one of the
runs, and one of the runs can sign. -/
theorem configVault_ignored_iff (primitives : Primitives) (config : ApiConfig)
    (request : ExchangeRequest) (symbolMap : SymbolMap) (action : List (String × Json))
    (expiresAfter : Option UInt64) (nonce : UInt64) (first second : Option Bytes)
    (noParameter : request.takesVaultAddress = false)
    (build : request.build symbolMap = .ok (body action)) :
    SameRequest primitives config request.endpoint (body action) expiresAfter nonce first
        second ↔
      leaksConfigVault request.endpoint = false ∨ (first = none ∧ second = none) ∨
        ∀ vault, vault = first ∨ vault = second →
          ¬ Signable primitives config expiresAfter nonce (l1Action request.endpoint action nonce)
            vault := by
  constructor
  · intro same
    cases leaks : leaksConfigVault request.endpoint with
    | false => exact .inl rfl
    | true =>
        refine .inr ?_
        by_cases signs : ∃ vault, (vault = first ∨ vault = second) ∧
          Signable primitives config expiresAfter nonce (l1Action request.endpoint action nonce)
            vault
        · obtain ⟨vault, compared, signable⟩ := signs
          obtain ⟨sent, returns⟩ := returns_of_signable leaks signable
          have unset : ∀ vault sent, vault = first ∨ vault = second →
              preparedUnder primitives config request.endpoint (body action) expiresAfter nonce
                vault = .ok sent → vault = none := by
            intro vault sent compared returns
            have named := (preparedUnder_leaks_returns leaks returns).2
            rw [same.noVault vault compared sent returns] at named
            exact Option.isSome_eq_false_iff.mp named.symm |> Option.isNone_iff_eq_none.mp
          -- The run that signs returns a body, and so does the other run.
          obtain rfl | rfl := compared
          · exact .inl ⟨unset _ sent (.inl rfl) returns,
              unset _ sent (.inr rfl) (ok_of_toOption_eq same.body returns)⟩
          · exact .inl ⟨unset _ sent (.inl rfl) (ok_of_toOption_eq same.body.symm returns),
              unset _ sent (.inr rfl) returns⟩
        · exact .inr fun vault compared signable => signs ⟨vault, compared, signable⟩
  · intro condition
    by_cases leaks : leaksConfigVault request.endpoint = true
    · obtain noLeak | ⟨rfl, rfl⟩ | refused := condition
      · rw [leaks] at noLeak
        cases noLeak
      · refine ⟨rfl, fun _ _ => rfl, ?_⟩
        rintro vault (rfl | rfl) sent returns
        · exact preparedUnder_none_noVault build returns
        · exact preparedUnder_none_noVault build returns
      · have silent : ∀ vault sent, vault = first ∨ vault = second →
            preparedUnder primitives config request.endpoint (body action) expiresAfter nonce
              vault ≠ .ok sent := fun vault sent compared returns =>
          refused vault compared (preparedUnder_leaks_returns leaks returns).1
        refine ⟨?_, fun sent returns => absurd returns (silent first sent (.inl rfl)),
          fun vault compared sent returns => absurd returns (silent vault sent compared)⟩
        rw [toOption_eq_none (silent first · (.inl rfl)),
          toOption_eq_none (silent second · (.inr rfl))]
    · have noFallback := noFallback_of_noParameter request noParameter
        (Bool.eq_false_iff.mpr leaks)
      refine ⟨?_, fun _ _ => ?_, ?_⟩
      · rw [preparedUnder_noFallback _ first noFallback,
          preparedUnder_noFallback _ second noFallback]
      · rw [preimageUnder_noFallback _ first noFallback,
          preimageUnder_noFallback _ second noFallback]
      · intro vault _ sent returns
        rw [preparedUnder_noFallback _ vault noFallback] at returns
        exact preparedUnder_none_noVault build returns

theorem configVault_ignored_createSubAccount :
    SameRequest createSubAccountRecording.primitives testConfig .createSubAccount
      (body createSubAccountAction) none 0 none (some (utf8 "0x22")) :=
  (configVault_ignored_iff createSubAccountRecording.primitives testConfig
    (.createSubAccount ⟨utf8 "example"⟩) [] createSubAccountAction none 0 none
    (some (utf8 "0x22")) rfl rfl).mpr (.inl rfl)

def testVault : Bytes := utf8 "0x2222222222222222222222222222222222222222"

def borrowLendRequest : ExchangeRequest := .borrowLend ⟨.supply, 0, none⟩

def borrowLendAction : List (String × Json) :=
  [("type", .text "borrowLend"), ("operation", .text "supply"), ("token", .unsigned 0),
    ("amount", .null)]

def borrowLendEncoded : Bytes :=
  [0x84, 0xa4] ++ utf8 "type" ++ [0xaa] ++ utf8 "borrowLend" ++ [0xa9] ++ utf8 "operation" ++
    [0xa6] ++ utf8 "supply" ++ [0xa5] ++ utf8 "token" ++ [0, 0xa6] ++ utf8 "amount" ++ [0xc0]

/-- The calls made when `borrowLend` is signed with the configured vault. -/
def borrowLendRecording : Recording :=
  l1Recording borrowLendEncoded
    (borrowLendEncoded ++ [0, 0, 1, 0x8b, 0xcf, 0xe5, 0x68, 0, 1] ++ List.replicate 20 0x22)
    (.ofNat 0x7e0c427f41bcfd59706701632d3ad304d4787f8bf3084c796079afb0cf40d653)
    (.ofNat 0x32fedd3c01b8a8a19b17c5e7fb4369df574edf1220cb7d0c67d115a4825958df)
    (.ofNat 0xe7c61fabb5d116879ef585fe7964bc699f8648016f37853e6db0b576dcf791e4)
    { r := .ofNat 0x59f97dae0eabb3f048bb4f73e7d0850c21e1eb8e1868311a0cb0b26766c4d44a
      s := .ofNat 0x431ed747922d6d1b7fef9b1a1d921387bd610c2832c5576fe3a565ce8b936ddb
      recid := 1 }

def borrowLendSignature : Signature where
  r := utf8 "0x59f97dae0eabb3f048bb4f73e7d0850c21e1eb8e1868311a0cb0b26766c4d44a"
  s := utf8 "0x431ed747922d6d1b7fef9b1a1d921387bd610c2832c5576fe3a565ce8b936ddb"
  v := 28

theorem borrowLend_signed :
    signL1Action borrowLendRecording.primitives testWallet (.object borrowLendAction)
      (some testVault) 1700000000000 none true = .ok borrowLendSignature := by
  decide +kernel

theorem borrowLend_prepared :
    preparedUnder borrowLendRecording.primitives testConfig .borrowLend (body borrowLendAction)
      none 1700000000000 (some testVault) =
      .ok (l1Body (.object borrowLendAction) (some testVault) none 1700000000000
        borrowLendSignature) :=
  preparedUnder_of_signed rfl rfl borrowLend_signed

/-- The method takes no vault, and its body names the one of the configuration. -/
theorem borrowLend_leaks_configVault :
    borrowLendRequest.takesVaultAddress = false ∧
      borrowLendRequest.build [] = .ok (body borrowLendAction) ∧
      ¬ SameRequest borrowLendRecording.primitives testConfig borrowLendRequest.endpoint
        (body borrowLendAction) none 1700000000000 none (some testVault) := by
  refine ⟨rfl, rfl, ?_⟩
  intro same
  have unnamed := same.noVault (some testVault) (.inr rfl) _ borrowLend_prepared
  rw [l1Body_contains_vaultAddress] at unnamed
  cases unnamed

end HyperliquidSdk.Signing
