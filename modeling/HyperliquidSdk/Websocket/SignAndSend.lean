import HyperliquidSdk.Foundation.Utf8
import HyperliquidSdk.Messages.InfoRequestBuilder
import HyperliquidSdk.Signing.SignedBody
import HyperliquidSdk.Websocket.PostRequests

/-!
# Sending is atomic on failure

When a failed `signAndSend` leaves the pending requests as they were. It fails after
the entry is recorded exactly if the message cannot be serialized, which happens if a
string of the request is not UTF-8.
-/

set_option autoImplicit false

namespace HyperliquidSdk.Websocket

open Foundation Messages Signing

/-! ## Signatures are text -/

theorem nibbleToHexChar_ascii :
    ∀ nibble, nibble < 16 → nibbleToHexChar nibble < 0x80 := by
  decide

theorem hexDigits_ascii (data : Bytes) : ∀ digit ∈ hexDigits data, digit < 0x80 := by
  intro digit present
  obtain ⟨byte, -, isDigit⟩ := List.mem_flatMap.mp present
  have small := byte.toNat_lt
  simp only [List.mem_cons, List.not_mem_nil, or_false] at isDigit
  obtain rfl | rfl := isDigit
  · exact nibbleToHexChar_ascii _ (by omega)
  · exact nibbleToHexChar_ascii _ (by omega)

theorem toHex_isUtf8 (data : Bytes) : isUtf8 (toHex data) = true := by
  have significant : ∀ digit ∈ (hexDigits data).dropWhile (· = 48), digit < 0x80 :=
    fun digit present => hexDigits_ascii data digit ((List.dropWhile_suffix _).subset present)
  have marked : ∀ digit ∈ utf8 "0x", digit < 0x80 := by decide +kernel
  apply isUtf8_of_ascii
  unfold toHex
  split
  · decide +kernel
  · intro digit present
    exact (List.mem_append.mp present).elim (marked digit) (significant digit)

theorem ecdsaSign_isUtf8 {primitives : Primitives} {wallet : Wallet} {digest : Digest}
    {signature : Signature} (signing : ecdsaSign primitives wallet digest = .ok signature) :
    (signatureJson signature).isUtf8 = true := by
  obtain ⟨recoverable, -, rfl⟩ := (ecdsaSign_eq_ok_iff primitives wallet digest signature).mp signing
  simp [signatureJson, Json.isUtf8, Json.membersUtf8, toHex_isUtf8]

/-! ## What the request contributes -/

/-- The keys of an L1 or info body whose members do not reach the payload as they are. -/
def overwrittenKeys (type : RestEndpointType) (vaultAddress : Option Bytes)
    (expiresAfter : Option UInt64) : List String :=
  (vaultAddress.map fun _ => "vaultAddress").toList ++
    (expiresAfter.map fun _ => "expiresAfter").toList ++
    (if type.isAuthenticated then ["nonce", "action", "signature"] else [])

/-- The strings that the arguments contribute to the payload are UTF-8. -/
def CarriesUtf8 (type : RestEndpointType) (body : Json) (vaultAddress : Option Bytes)
    (expiresAfter : Option UInt64) : Prop :=
  if type = .approveAgent then
    ∀ action key value, body.member? "action" = some action →
      key = "agentAddress" ∨ key = "agentName" → action.member? key = some value →
        value.isUtf8 = true
  else if type.isUserSignedAction then
    ∀ action signed, body.member? "action" = some action → userSignedType type = some signed →
      action.isUtf8Except [signed.timeField, "signatureChainId", "hyperliquidChain"]
  else
    (∀ address ∈ vaultAddress, isUtf8 address = true) ∧
      body.isUtf8Except (overwrittenKeys type vaultAddress expiresAfter) ∧
      (type.isAuthenticated = true → ∀ action, body.member? "action" = some action →
        action.isUtf8Except
          (if type = .agentSendAsset ∨ type = .createVault then ["nonce"] else []))

section Payload

variable {primitives : Primitives} {config : ApiConfig} {type : RestEndpointType}
  {body payload : Json} {nonce : UInt64}

/-- The first two assignments of `prepareBody`. -/
theorem optionalMembers_isUtf8_iff {keys : List String} {vaultAddress : Option Bytes}
    {expiresAfter : Option UInt64} {vaulted expiring : Json}
    (withVault : body.setOptional "vaultAddress" (vaultAddress.map .string) = .ok vaulted)
    (withExpiry : vaulted.setOptional "expiresAfter" (expiresAfter.map .unsigned) = .ok expiring)
    (kept : "vaultAddress" ∉ keys) :
    expiring.isUtf8Except keys ↔ (∀ address ∈ vaultAddress, isUtf8 address = true) ∧
      body.isUtf8Except ((vaultAddress.map fun _ => "vaultAddress").toList ++
        (expiresAfter.map fun _ => "expiresAfter").toList ++ keys) := by
  rw [Json.isUtf8Except_setOptional withExpiry, Json.isUtf8Except_setOptional withVault]
  cases vaultAddress <;> cases expiresAfter <;> simp [kept, Json.isUtf8]

theorem infoPayload_isUtf8_iff {vaultAddress : Option Bytes} {expiresAfter : Option UInt64}
    (info : type.isAuthenticated = false)
    (prepared : prepareBody primitives config type body vaultAddress expiresAfter nonce =
      .ok payload) :
    payload.isUtf8 = true ↔ (∀ address ∈ vaultAddress, isUtf8 address = true) ∧
      body.isUtf8Except (overwrittenKeys type vaultAddress expiresAfter) := by
  obtain ⟨vaulted, withVault, prepared⟩ := bind_eq_ok prepared
  obtain ⟨expiring, withExpiry, prepared⟩ := bind_eq_ok prepared
  simp only [info] at prepared
  obtain rfl := Except.ok.inj prepared
  rw [← Json.isUtf8Except_nil, optionalMembers_isUtf8_iff withVault withExpiry (by simp)]
  simp [overwrittenKeys, info]

/-- The steps of `prepareBody` for an L1 type. -/
theorem l1Prepared {vaultAddress : Option Bytes} {expiresAfter : Option UInt64}
    (authenticated : type.isAuthenticated = true) (l1 : type.isUserSignedAction = false)
    (prepared : prepareBody primitives config type body vaultAddress expiresAfter nonce =
      .ok payload) :
    ∃ vaulted expiring stamped action signedAction signature withAction,
      body.setOptional "vaultAddress" (vaultAddress.map .string) = .ok vaulted ∧
      vaulted.setOptional "expiresAfter" (expiresAfter.map .unsigned) = .ok expiring ∧
      expiring.set "nonce" (.unsigned nonce) = .ok stamped ∧
      stamped.index "action" = .ok action ∧
      action.setOptional "nonce" (if type = .agentSendAsset ∨ type = .createVault then
        some (.unsigned nonce) else none) = .ok signedAction ∧
      (signatureJson signature).isUtf8 = true ∧
      stamped.set "action" signedAction = .ok withAction ∧
      withAction.set "signature" (signatureJson signature) = .ok payload := by
  obtain ⟨vaulted, withVault, prepared⟩ := bind_eq_ok prepared
  obtain ⟨expiring, withExpiry, prepared⟩ := bind_eq_ok prepared
  simp only [authenticated, l1] at prepared
  obtain ⟨wallet, -, prepared⟩ := bind_eq_ok prepared
  obtain ⟨stamped, withNonce, prepared⟩ := bind_eq_ok prepared
  obtain ⟨action, indexed, prepared⟩ := bind_eq_ok prepared
  by_cases embedded : type = .agentSendAsset ∨ type = .createVault
  · simp only [embedded] at prepared
    obtain ⟨signedAction, embedding, prepared⟩ := bind_eq_ok prepared
    obtain ⟨signature, signing, prepared⟩ := bind_eq_ok prepared
    obtain ⟨withAction, replaced, prepared⟩ := bind_eq_ok prepared
    obtain ⟨digest, -, signing⟩ := bind_eq_ok signing
    exact ⟨vaulted, expiring, stamped, action, signedAction, signature, withAction, withVault,
      withExpiry, withNonce, indexed, by simpa [embedded, Json.setOptional] using embedding,
      ecdsaSign_isUtf8 signing, replaced, prepared⟩
  · simp only [embedded] at prepared
    obtain ⟨signedAction, embedding, prepared⟩ := bind_eq_ok prepared
    obtain ⟨signature, signing, prepared⟩ := bind_eq_ok prepared
    obtain ⟨withAction, replaced, prepared⟩ := bind_eq_ok prepared
    obtain ⟨digest, -, signing⟩ := bind_eq_ok signing
    exact ⟨vaulted, expiring, stamped, action, signedAction, signature, withAction, withVault,
      withExpiry, withNonce, indexed, by simpa [embedded, Json.setOptional] using embedding,
      ecdsaSign_isUtf8 signing, replaced, prepared⟩

theorem l1Payload_isUtf8_iff {vaultAddress : Option Bytes} {expiresAfter : Option UInt64}
    (authenticated : type.isAuthenticated = true) (l1 : type.isUserSignedAction = false)
    (prepared : prepareBody primitives config type body vaultAddress expiresAfter nonce =
      .ok payload) :
    payload.isUtf8 = true ↔ (∀ address ∈ vaultAddress, isUtf8 address = true) ∧
      body.isUtf8Except (overwrittenKeys type vaultAddress expiresAfter) ∧
      ∀ action, body.member? "action" = some action → action.isUtf8Except
        (if type = .agentSendAsset ∨ type = .createVault then ["nonce"] else []) := by
  obtain ⟨vaulted, expiring, stamped, action, signedAction, signature, withAction, withVault,
    withExpiry, withNonce, indexed, embedding, signatureUtf8, replaced, signed⟩ :=
    l1Prepared authenticated l1 prepared
  have sameAction : action = (body.member? "action").getD .null := by
    rw [Json.index_eq_ok indexed, (Json.set_eq_ok withNonce).2 "action" (by decide),
      Json.setOptional_other withExpiry (by decide), Json.setOptional_other withVault (by decide)]
  have actionUtf8 : signedAction.isUtf8 = true ↔
      ∀ action, body.member? "action" = some action → action.isUtf8Except
        (if type = .agentSendAsset ∨ type = .createVault then ["nonce"] else []) := by
    rw [← Json.isUtf8Except_nil, Json.isUtf8Except_setOptional embedding, sameAction]
    cases body.member? "action" <;> split <;> simp [Json.isUtf8, Json.isUtf8Except]
  rw [← Json.isUtf8Except_nil, Json.isUtf8Except_set signed, Json.isUtf8Except_set replaced,
    Json.isUtf8Except_set withNonce,
    optionalMembers_isUtf8_iff withVault withExpiry (by simp), actionUtf8]
  simp [overwrittenKeys, authenticated, signatureUtf8, Json.isUtf8]
  tauto

theorem signedBody_isUtf8_iff {action : Json} {signature : Signature}
    (signatureUtf8 : (signatureJson signature).isUtf8 = true) :
    (signedBody action nonce signature).isUtf8 = true ↔ action.isUtf8 = true := by
  simp [signedBody, Json.isUtf8, Json.membersUtf8, signatureUtf8]

theorem chainName_isUtf8 (env : Environment) : (Json.text (chainName env)).isUtf8 = true := by
  cases env <;> decide

theorem userSignedPayload_isUtf8_iff {action : Json} {signed : UserSignedType}
    (selected : userSignedType type = some signed)
    (prepared : prepareUserSignedActionBody primitives config type action nonce = .ok payload) :
    payload.isUtf8 = true ↔
      action.isUtf8Except [signed.timeField, "signatureChainId", "hyperliquidChain"] := by
  obtain ⟨wallet, -, prepared⟩ := bind_eq_ok prepared
  simp only [selected] at prepared
  obtain ⟨stamped, stamping, prepared⟩ := bind_eq_ok prepared
  obtain ⟨signature, signing, prepared⟩ := bind_eq_ok prepared
  obtain rfl := Except.ok.inj prepared
  obtain ⟨digest, -, signing⟩ := bind_eq_ok signing
  obtain ⟨timed, withTime, stamping⟩ := bind_eq_ok stamping
  obtain ⟨identified, withChainId, withChain⟩ := bind_eq_ok stamping
  have chainId : (Json.text "0x66eee").isUtf8 = true := by decide
  rw [signedBody_isUtf8_iff (ecdsaSign_isUtf8 signing), ← Json.isUtf8Except_nil,
    Json.isUtf8Except_set withChain, Json.isUtf8Except_set withChainId,
    Json.isUtf8Except_set withTime]
  simp [chainName_isUtf8, chainId, Json.isUtf8]

theorem approveAgentPayload_isUtf8_iff {agentAddress : Bytes} {agentName : Option Bytes}
    (prepared : prepareApproveAgentBody primitives config agentAddress agentName nonce =
      .ok payload) :
    payload.isUtf8 = true ↔ isUtf8 agentAddress = true ∧
      ∀ name ∈ agentName, isUtf8 name = true := by
  obtain ⟨wallet, taken, -⟩ := bind_eq_ok prepared
  obtain ⟨digest, signature, -, signing, rfl⟩ :=
    prepareApproveAgentBody_eq_ok (walletOf_returns taken) prepared
  have type : (Json.text "approveAgent").isUtf8 = true := by decide
  have chainId : (Json.text "0x66eee").isUtf8 = true := by decide
  rw [signedBody_isUtf8_iff (ecdsaSign_isUtf8 signing)]
  cases agentName <;>
    simp [sentApproveAgentAction, optionalMember, Json.isUtf8, Json.membersUtf8, type, chainId,
      chainName_isUtf8]

/-- What the `approveAgent` branch reads from the body. -/
theorem approveAgent_prepared {vaultAddress : Option Bytes} {expiresAfter : Option UInt64}
    (prepared : prepareBodyForType primitives config .approveAgent body vaultAddress expiresAfter
      nonce = .ok payload) :
    ∃ action agentAddress agentName, body.member? "action" = some action ∧
      action.member? "agentAddress" = some (.string agentAddress) ∧
      action.member? "agentName" = agentName.map .string ∧
      prepareApproveAgentBody primitives config agentAddress agentName nonce = .ok payload := by
  obtain ⟨action, indexed, prepared⟩ := bind_eq_ok prepared
  obtain ⟨address, foundAddress, prepared⟩ := bind_eq_ok prepared
  obtain ⟨agentAddress, readAddress, prepared⟩ := bind_eq_ok prepared
  have isAction : body.member? "action" = some action := by
    have indexed := Json.index_eq_ok indexed
    cases present : body.member? "action" with
    | none =>
        rw [present] at indexed
        subst indexed
        cases foundAddress
    | some other => rw [present] at indexed; rw [indexed]; rfl
  rw [Json.getString_eq_ok readAddress] at foundAddress
  cases named : action.member? "agentName" with
  | none =>
      simp only [Json.contains, named] at prepared
      exact ⟨action, agentAddress, none, isAction, Json.atKey_eq_ok foundAddress, named, prepared⟩
  | some value =>
      simp only [Json.contains, named] at prepared
      obtain ⟨found, foundName, prepared⟩ := bind_eq_ok prepared
      obtain ⟨agentName, mapped, prepared⟩ := bind_eq_ok prepared
      obtain ⟨name, readName, rfl⟩ := map_eq_ok mapped
      rw [Json.getString_eq_ok readName] at foundName
      exact ⟨action, agentAddress, some name, isAction, Json.atKey_eq_ok foundAddress,
        Json.atKey_eq_ok foundName, prepared⟩

/-- The payload is UTF-8 exactly if what the arguments contribute to it is. -/
theorem payload_isUtf8_iff {vaultAddress : Option Bytes} {expiresAfter : Option UInt64}
    (prepared : prepareBodyForType primitives config type body vaultAddress expiresAfter nonce =
      .ok payload) :
    payload.isUtf8 = true ↔
      CarriesUtf8 type body (effectiveVault config type vaultAddress) expiresAfter := by
  unfold CarriesUtf8
  unfold prepareBodyForType at prepared
  by_cases approves : type = .approveAgent
  · rw [if_pos approves]
    subst approves
    obtain ⟨action, agentAddress, agentName, isAction, address, name, prepared⟩ :=
      approveAgent_prepared prepared
    rw [approveAgentPayload_isUtf8_iff prepared, isAction]
    constructor
    · intro ⟨addressUtf8, nameUtf8⟩ action key value same named present
      obtain rfl := Option.some.inj same
      obtain rfl | rfl := named
      · rw [address] at present
        exact Option.some.inj present ▸ addressUtf8
      · rw [name] at present
        obtain ⟨given, isName, rfl⟩ := Option.map_eq_some_iff.mp present
        exact nameUtf8 given isName
    · intro carries
      refine ⟨carries action _ _ rfl (.inl rfl) address, ?_⟩
      intro given isName
      exact carries action _ _ rfl (.inr rfl) (name.trans (congrArg (Option.map Json.string) isName))
  · rw [if_neg approves] at prepared ⊢
    by_cases userSigned : type.isUserSignedAction = true
    · rw [if_pos userSigned] at prepared ⊢
      obtain ⟨signed, selected⟩ := userSignedType_of_userSigned userSigned
      obtain ⟨action, found, prepared⟩ := bind_eq_ok prepared
      rw [userSignedPayload_isUtf8_iff selected prepared]
      simp [Json.atKey_eq_ok found, selected]
    · rw [if_neg userSigned] at prepared ⊢
      cases authenticated : type.isAuthenticated with
      | false =>
          rw [infoPayload_isUtf8_iff authenticated prepared]
          simp
      | true =>
          rw [l1Payload_isUtf8_iff authenticated (Bool.eq_false_iff.mpr userSigned) prepared]
          simp

end Payload

/-! ## Atomicity -/

/-- The documented behaviour of `dump`: it refuses exactly the values with a string that is
not UTF-8. -/
def RefusesNonUtf8 (dump : Json → Result Bytes) : Prop :=
  ∀ json, (∃ text, dump json = .ok text) ↔ json.isUtf8 = true

theorem wrapped_isUtf8_iff (type : RestEndpointType) (postRequestId : Int32) (payload : Json) :
    (wrapped type postRequestId payload).isUtf8 = true ↔ payload.isUtf8 = true := by
  have method : (Json.text "post").isUtf8 = true := by decide
  have kind : (Json.text (payloadType type)).isUtf8 = true := by
    unfold payloadType
    split <;> decide
  simp [wrapped, Json.isUtf8, Json.membersUtf8, method, kind]

/-- If the call exits with an exception, the pending requests and the sent messages are
those before the call. -/
def AtomicOnFailure (call : Impl → Result Unit × Impl) (impl : Impl) : Prop :=
  ∀ exception, (call impl).1 = .error exception →
    (call impl).2.postRequestInfo = impl.postRequestInfo ∧ (call impl).2.sent = impl.sent

theorem record_postRequestInfo_eq_iff (impl : Impl) (postRequestId : Int32)
    (info : PostRequestInfo) :
    (impl.record postRequestId info).postRequestInfo = impl.postRequestInfo ↔
      impl.postRequestInfo (postRequestKey postRequestId) = some info :=
  Function.update_eq_self_iff.trans eq_comm

theorem signAndSend_atomic_iff (primitives : Primitives) (dump : Json → Result Bytes)
    (config : ApiConfig) (type : RestEndpointType) (body : Json) (vaultAddress : Option Bytes)
    (expiresAfter correlationId : Option UInt64) (nonce : UInt64) (impl : Impl)
    (refuses : RefusesNonUtf8 dump) :
    AtomicOnFailure
      (signAndSend primitives dump config type body vaultAddress expiresAfter correlationId
        nonce) impl ↔
      (∃ exception, prepareBodyForType primitives config type body vaultAddress expiresAfter
        nonce = .error exception) ∨
      CarriesUtf8 type body (effectiveVault config type vaultAddress) expiresAfter ∨
      impl.postRequestInfo (postRequestKey impl.postRequestCounter) =
        some ⟨type, correlationId⟩ := by
  unfold AtomicOnFailure signAndSend
  cases prepared : prepareBodyForType primitives config type body vaultAddress expiresAfter nonce with
  | error exception =>
      exact ⟨fun _ => .inl ⟨exception, rfl⟩, fun _ _ _ => ⟨rfl, rfl⟩⟩
  | ok payload =>
      have serializable := (refuses (wrapped type impl.postRequestCounter payload)).trans
        ((wrapped_isUtf8_iff _ _ _).trans (payload_isUtf8_iff prepared))
      simp only [Impl.fetchAdd]
      cases dumped : dump (wrapped type impl.postRequestCounter payload) with
      | ok message =>
          have carries := serializable.mp ⟨message, dumped⟩
          exact ⟨fun _ => .inr (.inl carries), fun _ _ returned => by cases returned⟩
      | error exception =>
          have notCarried : ¬ CarriesUtf8 type body (effectiveVault config type vaultAddress)
              expiresAfter := by
            intro carries
            obtain ⟨text, returned⟩ := serializable.mpr carries
            rw [dumped] at returned
            cases returned
          have unchanged := record_postRequestInfo_eq_iff
            { impl with postRequestCounter := impl.postRequestCounter + 1 }
            impl.postRequestCounter ⟨type, correlationId⟩
          constructor
          · intro atomic
            exact .inr (.inr (unchanged.mp (atomic exception rfl).1))
          · rintro (⟨_, failed⟩ | carries | present)
            · cases failed
            · exact absurd carries notCarried
            · exact fun _ _ => ⟨unchanged.mpr present, rfl⟩

/-- `dump` with the text recorded for the one message of a run. -/
def recordedDump (text : Bytes) (json : Json) : Result Bytes :=
  if json.isUtf8 then .ok text else .error (.jsonTypeError 316)

theorem recordedDump_refuses (text : Bytes) : RefusesNonUtf8 (recordedDump text) := by
  intro json
  unfold recordedDump
  split
  · next valid => exact ⟨fun _ => valid, fun _ => ⟨text, rfl⟩⟩
  · next invalid =>
      constructor
      · rintro ⟨_, returned⟩
        cases returned
      · intro valid
        exact absurd valid invalid

def idle : Impl where
  postRequestCounter := 0
  postRequestInfo := fun _ => none
  sent := []

def dumpedL2Book : Bytes :=
  utf8 ("\x7b\"method\":\"post\",\"id\":0,\"request\":\x7b\"type\":\"info\",\"payload\":" ++
    "\x7b\"type\":\"l2Book\",\"coin\":\"BTC\"\x7d\x7d\x7d")

theorem signAndSend_atomic_iff_l2Book :
    AtomicOnFailure
      (signAndSend createSubAccountRecording.primitives (recordedDump dumpedL2Book) testConfig
        .l2Book (l2Book (utf8 "BTC") none none) none none (some 7) 0) idle :=
  (signAndSend_atomic_iff createSubAccountRecording.primitives (recordedDump dumpedL2Book)
    testConfig .l2Book (l2Book (utf8 "BTC") none none) none none (some 7) 0 idle
    (recordedDump_refuses _)).mpr (.inr (.inl
      ⟨by simp [effectiveVault, testConfig, allowConfigVaultFallback],
        (Json.isUtf8Except_nil _).mpr (by decide), fun authenticated => by cases authenticated⟩))

/-- A coin that is not UTF-8 fails in `dump`, after its entry is recorded. -/
theorem invalidCoin_leaves_entry :
    ¬ AtomicOnFailure
      (signAndSend createSubAccountRecording.primitives (recordedDump []) testConfig .l2Book
        (l2Book [0xff] none none) none none none 0) idle := by
  intro atomic
  have unchanged := (atomic (.jsonTypeError 316) rfl).1
  have entry := congrFun unchanged 0
  cases entry

end HyperliquidSdk.Websocket
