import HyperliquidSdk.Signing.FieldBinding
import Mathlib.Data.List.Nodup

/-!
# The scope of a signature

What a digest is computed from, over both schemes, and that requests with equal digests
name the same method, network and nonce. Collisions are excluded between the texts that
the two digests hash, and nowhere else.
-/

set_option autoImplicit false

namespace HyperliquidSdk.Signing

open Foundation Messages

/-! ## Payloads -/

/-- What `agentStructHash` hashes. -/
def agentPreimage (primitives : Primitives) (source : String) (connectionId : Digest) : Bytes :=
  (keccak256 primitives (utf8 "Agent(string source,bytes32 connectionId)")).val ++
    (keccak256 primitives (utf8 source)).val ++ connectionId.val

/-- What `domainSeparatorHash` hashes. -/
def domainPreimage (primitives : Primitives) (name version : String) (chainId : UInt64) : Bytes :=
  (keccak256 primitives (utf8 domainType)).val ++ (keccak256 primitives (utf8 name)).val ++
    (keccak256 primitives (utf8 version)).val ++ encodeUint256 chainId ++
    encodeAddress (List.replicate 20 0)

/-- What one signature is for: an L1 action, or the fields of a user-signed one. -/
inductive Payload where
  | l1 (signing : L1Signing)
  | userSigned (primaryType : String) (fields : List EIP712Field) (action : Json)

namespace Payload

section Texts

variable (primitives : Primitives)

/-- The text of the domain separator. -/
def domain : Payload → Bytes
  | .l1 _ => domainPreimage primitives "Exchange" "1" 1337
  | .userSigned _ _ _ => domainPreimage primitives "HyperliquidSignTransaction" "1" 0x66eee

/-- The text of the struct hash. -/
def struct : Payload → Result Bytes
  | .l1 signing => (fun hashed =>
      agentPreimage primitives hashed.1 (keccak256 primitives hashed.2)) <$>
        signing.preimage primitives
  | .userSigned primaryType fields action =>
      structPreimage primitives primaryType fields action

/-- The text of the signed digest. -/
def message (payload : Payload) : Result Bytes :=
  (fun struct => eip712Preimage (keccak256 primitives (payload.domain primitives))
    (keccak256 primitives struct)) <$> payload.struct primitives

def digest (payload : Payload) : Result Digest :=
  keccak256 primitives <$> payload.message primitives

/-- The texts whose hashes stand in the struct. -/
def parts : Payload → List Bytes
  | .l1 signing => (signing.preimage primitives).toOption.toList.flatMap fun hashed =>
      [utf8 hashed.1, hashed.2]
  | .userSigned primaryType fields action =>
      utf8 (typeString primaryType fields) :: hashedTexts fields action

/-- The texts that the digest hashes, besides the constant ones. -/
def hashed (payload : Payload) : List Bytes :=
  payload.domain primitives :: (payload.parts primitives ++
    ((payload.struct primitives).toOption.toList ++ (payload.message primitives).toOption.toList))

/-- No text of one digest has the hash of another text of the other one. -/
def CollisionFree (first second : Payload) : Prop :=
  ∀ text ∈ first.hashed primitives, ∀ other ∈ second.hashed primitives,
    keccak256 primitives text = keccak256 primitives other → text = other

end Texts

section Digests

variable {primitives : Primitives} {payload first second : Payload} {text other : Bytes}

theorem domain_mem_hashed : payload.domain primitives ∈ payload.hashed primitives :=
  List.mem_cons_self ..

theorem mem_hashed_of_part (part : text ∈ payload.parts primitives) :
    text ∈ payload.hashed primitives :=
  List.mem_cons_of_mem _ (List.mem_append_left _ part)

theorem mem_hashed_of_struct (returned : payload.struct primitives = .ok text) :
    text ∈ payload.hashed primitives := by
  apply List.mem_cons_of_mem
  apply List.mem_append_right
  apply List.mem_append_left
  rw [returned]
  exact List.mem_cons_self ..

theorem mem_hashed_of_message (returned : payload.message primitives = .ok text) :
    text ∈ payload.hashed primitives := by
  apply List.mem_cons_of_mem
  apply List.mem_append_right
  apply List.mem_append_right
  rw [returned]
  exact List.mem_cons_self ..

/-- The signed text splits into the two hashes. -/
theorem eip712Preimage_injective {domain domain' struct struct' : Digest}
    (same : eip712Preimage domain struct = eip712Preimage domain' struct') :
    domain = domain' ∧ struct = struct' := by
  have lengths := domain.property.trans domain'.property.symm
  unfold eip712Preimage at same
  rw [List.append_assoc, List.append_assoc] at same
  obtain ⟨domains, structs⟩ := List.append_inj (List.append_cancel_left same) lengths
  exact ⟨Subtype.ext domains, Subtype.ext structs⟩

/-- The chain id stands at a fixed place of the text of the domain. -/
theorem domainPreimage_chainId {name name' version version' : String} {chainId chainId' : UInt64}
    (same : domainPreimage primitives name version chainId =
      domainPreimage primitives name' version' chainId') : chainId = chainId' := by
  unfold domainPreimage at same
  have words := List.append_cancel_right same
  have lengths : ((keccak256 primitives (utf8 domainType)).val ++
      (keccak256 primitives (utf8 name)).val ++ (keccak256 primitives (utf8 version)).val).length =
      ((keccak256 primitives (utf8 domainType)).val ++
        (keccak256 primitives (utf8 name')).val ++
        (keccak256 primitives (utf8 version')).val).length := by
    simp only [List.length_append, (keccak256 primitives _).property]
  exact encodeUint256_injective (List.append_inj words lengths).2

theorem agentPreimage_injective {source source' : String} {connectionId connectionId' : Digest}
    (same : agentPreimage primitives source connectionId =
      agentPreimage primitives source' connectionId') :
    keccak256 primitives (utf8 source) = keccak256 primitives (utf8 source') ∧
      connectionId = connectionId' := by
  unfold agentPreimage at same
  rw [List.append_assoc, List.append_assoc] at same
  have words := List.append_cancel_left same
  have lengths := (keccak256 primitives (utf8 source)).property.trans
    (keccak256 primitives (utf8 source')).property.symm
  obtain ⟨sources, connections⟩ := List.append_inj words lengths
  exact ⟨Subtype.ext sources, Subtype.ext connections⟩

/-- Equal digests are computed from the same domain and the same struct. -/
theorem digest_injective {digest : Digest} (free : CollisionFree primitives first second)
    (returned : first.digest primitives = .ok digest)
    (returnedSecond : second.digest primitives = .ok digest) :
    first.domain primitives = second.domain primitives ∧
      ∃ text, first.struct primitives = .ok text ∧ second.struct primitives = .ok text := by
  obtain ⟨message, composed, rfl⟩ := map_eq_ok returned
  obtain ⟨message', composed', digests⟩ := map_eq_ok returnedSecond
  obtain rfl := free message (mem_hashed_of_message composed) message'
    (mem_hashed_of_message composed') digests
  obtain ⟨struct, encoded, joined⟩ := map_eq_ok composed
  obtain ⟨struct', encoded', joined'⟩ := map_eq_ok composed'
  obtain ⟨domains, structs⟩ := eip712Preimage_injective (joined.symm.trans joined')
  obtain rfl := free struct (mem_hashed_of_struct encoded) struct'
    (mem_hashed_of_struct encoded') structs
  exact ⟨free _ domain_mem_hashed _ domain_mem_hashed domains, struct, encoded, encoded'⟩

end Digests

/-! ## Equal digests -/

/-- The payloads agree in all that their digests keep of them. The vaults and the expiries of
L1 actions are compared where each vault decodes to twenty bytes. -/
inductive SameContent : Payload → Payload → Prop where
  | l1 {first second : L1Signing} (env : first.env = second.env)
      (action : Json.MsgpackEqual first.action second.action)
      (nonce : first.nonce = second.nonce)
      (wrapping : first.VaultDecodes → second.VaultDecodes →
        decodedVault first.vaultAddress = decodedVault second.vaultAddress ∧
          first.expiresAfter = second.expiresAfter) : SameContent (.l1 first) (.l1 second)
  | userSigned {primaryType : String} {fields : List EIP712Field} {first second : Json}
      (kept : ∀ field ∈ fields, keptValue first field = keptValue second field) :
      SameContent (.userSigned primaryType fields first) (.userSigned primaryType fields second)

section Content

variable {primitives : Primitives}

/-- The action and the nonce are the first parts of what is hashed. -/
theorem preimage_eq_ok {signing : L1Signing} {hashed : String × Bytes}
    (returned : signing.preimage primitives = .ok hashed) :
    ∃ rest, hashed = (if signing.env = .mainnet then "a" else "b",
      primitives.toMsgpack signing.action ++ (bigEndian signing.nonce ++ rest)) := by
  obtain ⟨text, composed, paired⟩ := bind_eq_ok returned
  obtain rfl := Except.ok.inj paired
  have joined : ∃ vault expires, text =
      primitives.toMsgpack signing.action ++ bigEndian signing.nonce ++ vault ++ expires := by
    unfold actionPreimage at composed
    cases named : signing.vaultAddress with
    | none =>
        rw [named] at composed
        exact ⟨_, _, (Except.ok.inj composed).symm⟩
    | some address =>
        rw [named] at composed
        obtain ⟨vault, -, joined⟩ := bind_eq_ok composed
        exact ⟨_, _, (Except.ok.inj joined).symm⟩
  obtain ⟨vault, expires, rfl⟩ := joined
  refine ⟨vault ++ expires, Prod.ext rfl ?_⟩
  rw [List.append_assoc, List.append_assoc]

/-- The vault and the expiry are the rest of what is hashed. -/
theorem preimage_rest {signing : L1Signing} (decodes : signing.VaultDecodes) {source : String}
    {rest : Bytes}
    (returned : signing.preimage primitives = .ok (source,
      primitives.toMsgpack signing.action ++ (bigEndian signing.nonce ++ rest))) :
    ∃ vault : Vault, decodedVault signing.vaultAddress = .ok (vault.map Subtype.val) ∧
      rest = vaultBytes vault ++ expiresBytes signing.expiresAfter := by
  obtain ⟨vault, decoded, layout⟩ := decodes.preimage_eq primitives
  rw [returned] at layout
  have texts := (Prod.mk.inj (Except.ok.inj layout)).2
  exact ⟨vault, decoded, List.append_cancel_left (List.append_cancel_left texts)⟩

theorem source_injective {first second : Environment}
    (same : (if first = .mainnet then "a" else "b") = if second = .mainnet then "a" else "b") :
    first = second := by
  cases first <;> cases second <;> simp_all

theorem sameContent_l1 (codec : Json.MsgpackCodec primitives.toMsgpack)
    {first second : L1Signing} {text : Bytes}
    (free : CollisionFree primitives (.l1 first) (.l1 second))
    (encoded : (Payload.l1 first).struct primitives = .ok text)
    (encodedSecond : (Payload.l1 second).struct primitives = .ok text) :
    SameContent (.l1 first) (.l1 second) := by
  obtain ⟨hashed, returned, rfl⟩ := map_eq_ok encoded
  obtain ⟨hashed', returned', joined⟩ := map_eq_ok encodedSecond
  obtain ⟨sources, connections⟩ := agentPreimage_injective joined
  have part {signing : L1Signing} {hashed : String × Bytes} {text : Bytes}
      (returned : signing.preimage primitives = .ok hashed)
      (chosen : text = utf8 hashed.1 ∨ text = hashed.2) :
      text ∈ (Payload.l1 signing).hashed primitives := by
    apply mem_hashed_of_part
    rw [parts, returned]
    simpa [Except.toOption] using chosen
  have source := utf8_injective (free _ (part returned (.inl rfl)) _ (part returned' (.inl rfl))
    sources)
  have texts := free _ (part returned (.inr rfl)) _ (part returned' (.inr rfl)) connections
  obtain ⟨rest, rfl⟩ := preimage_eq_ok returned
  obtain ⟨rest', rfl⟩ := preimage_eq_ok returned'
  obtain ⟨actions, texts⟩ := codec.uniquelyRead texts
  obtain ⟨nonces, rests⟩ := bigEndian_uniquelyRead texts
  refine .l1 (source_injective source) actions nonces fun decodes decodesSecond => ?_
  obtain ⟨vault, decoded, rfl⟩ := preimage_rest decodes returned
  obtain ⟨other, otherDecoded, rfl⟩ := preimage_rest decodesSecond returned'
  obtain ⟨rfl, expiries⟩ := vault_expires_injective rests
  exact ⟨decoded.trans otherDecoded.symm, expiries⟩

/-- The endpoint types with a table. -/
def signedTypes : List RestEndpointType :=
  [.approveAgent, .usdSend, .withdraw3, .spotSend, .usdClassTransfer, .sendAsset,
    .approveBuilderFee, .userSetAbstraction, .cDeposit, .cWithdraw, .tokenDelegate,
    .sendToEvmWithData, .userDexAbstraction, .userPortfolioMargin]

theorem mem_signedTypes {type : RestEndpointType} {table : String × List EIP712Field}
    (selected : signedTable type = some table) : type ∈ signedTypes := by
  cases type <;> first | cases selected; done | decide

/-- The type string of a table tells its endpoint type. -/
theorem typeString_injective {type other : RestEndpointType}
    {table otherTable : String × List EIP712Field} (selected : signedTable type = some table)
    (otherSelected : signedTable other = some otherTable)
    (same : typeString table.1 table.2 = typeString otherTable.1 otherTable.2) : type = other := by
  have distinct : (signedTypes.map fun type =>
      (signedTable type).map fun table => typeString table.1 table.2).Nodup := by decide
  apply List.inj_on_of_nodup_map distinct (mem_signedTypes selected)
    (mem_signedTypes otherSelected)
  rw [selected, otherSelected, Option.map_some, Option.map_some, same]

theorem sameContent_userSigned {type type' : RestEndpointType} {primaryType primaryType' : String}
    {fields fields' : List EIP712Field} {first second : Json} {text : Bytes}
    (selected : signedTable type = some (primaryType, fields))
    (selectedSecond : signedTable type' = some (primaryType', fields'))
    (free : CollisionFree primitives (.userSigned primaryType fields first)
      (.userSigned primaryType' fields' second))
    (encoded : structPreimage primitives primaryType fields first = .ok text)
    (encodedSecond : structPreimage primitives primaryType' fields' second = .ok text) :
    type = type' ∧ SameContent (.userSigned primaryType fields first)
      (.userSigned primaryType' fields' second) := by
  obtain ⟨values, returned, joined⟩ := bind_eq_ok encoded
  obtain ⟨values', returned', joined'⟩ := bind_eq_ok encodedSecond
  have texts := (Except.ok.inj joined).trans (Except.ok.inj joined').symm
  have lengths := (keccak256 primitives (utf8 (typeString primaryType fields))).property.trans
    (keccak256 primitives (utf8 (typeString primaryType' fields'))).property.symm
  obtain ⟨types, values⟩ := List.append_inj texts lengths
  have part {primaryType : String} {fields : List EIP712Field} {action : Json} {text : Bytes}
      (chosen : text = utf8 (typeString primaryType fields) ∨ text ∈ hashedTexts fields action) :
      text ∈ (Payload.userSigned primaryType fields action).hashed primitives :=
    mem_hashed_of_part (List.mem_cons.mpr chosen)
  have named := utf8_injective (free _ (part (.inl rfl)) _ (part (.inl rfl)) (Subtype.ext types))
  obtain rfl := typeString_injective selected selectedSecond named
  obtain ⟨rfl, rfl⟩ := Prod.mk.inj (Option.some.inj (selected.symm.trans selectedSecond))
  have noCollision : NoCollision primitives fields first second :=
    fun text hashed other hashed' => free text (part (.inr hashed)) other (part (.inr hashed'))
  have kept := encodeFields_eq_iff (signedTable_known selected) noCollision returned returned'
  exact ⟨rfl, .userSigned (kept.mp values)⟩

end Content

end Payload

/-! ## The method in the action -/

/-- The second key of an action whose type text is not its method's alone. -/
def deployKey : RestEndpointType → Option String
  | .spotDeployRegisterToken2 => some "registerToken2"
  | .spotDeployUserGenesis => some "userGenesis"
  | .spotDeployGenesis => some "genesis"
  | .spotDeployRegisterSpot => some "registerSpot"
  | .spotDeployRegisterHyperliquidity => some "registerHyperliquidity"
  | _ => none

/-- The action starts with the type of its method, and a deployment has its own key. -/
def NamesMethod (type : RestEndpointType) (action : List (String × Json)) : Prop :=
  ∃ rest, action = ("type", .text type.toString) :: rest ∧
    ∀ key ∈ deployKey type, rest.map Prod.fst = [key]

theorem canonicalMembers_keys (members : List (String × Json)) :
    (Json.canonicalMembers members).map Prod.fst = members.map Prod.fst := by
  induction members with
  | nil => rfl
  | cons member rest ih =>
      obtain ⟨key, value⟩ := member
      rw [Json.canonicalMembers, List.map_cons, List.map_cons, ih]

/-- The types of the exchange methods. -/
def exchangeTypes : List RestEndpointType :=
  [.placeOrder, .cancelOrder, .cancelOrderByCloid, .scheduleCancel, .modifyOrder,
    .batchModifyOrder, .updateLeverage, .updateIsolatedMargin, .approveAgent,
    .agentSetAbstraction, .twapOrder, .twapCancel, .vaultTransfer, .hip3LiquidatorTransfer,
    .createSubAccount, .subAccountTransfer, .createVault, .borrowLend, .spotDeployRegisterToken2,
    .spotDeployUserGenesis, .spotDeployGenesis, .spotDeployRegisterSpot,
    .spotDeployRegisterHyperliquidity, .perpDeployRegisterAsset2, .usdClassTransfer, .sendAsset,
    .usdSend, .spotSend, .withdraw3, .approveBuilderFee, .userSetAbstraction, .setReferrer,
    .cDeposit, .cWithdraw, .tokenDelegate, .sendToEvmWithData, .userDexAbstraction,
    .userPortfolioMargin, .agentSendAsset, .reserveRequestWeight, .noop]

/-- The type text and the deployment's key tell the method. -/
theorem method_injective {type other : RestEndpointType} (exchange : type ∈ exchangeTypes)
    (otherExchange : other ∈ exchangeTypes) (texts : type.toString = other.toString)
    (keys : deployKey type = deployKey other) : type = other := by
  have distinct : (exchangeTypes.map fun type => (type.toString, deployKey type)).Nodup := by
    decide
  exact List.inj_on_of_nodup_map distinct exchange otherExchange (Prod.ext texts keys)

/-- Types with one text have their own keys or are the same type. -/
theorem deployKey_isSome {type other : RestEndpointType} (exchange : type ∈ exchangeTypes)
    (otherExchange : other ∈ exchangeTypes) (texts : type.toString = other.toString) :
    (deployKey type).isSome = (deployKey other).isSome := by
  have same : ∀ type ∈ exchangeTypes, ∀ other ∈ exchangeTypes,
      type.toString = other.toString → (deployKey type).isSome = (deployKey other).isSome := by decide
  exact same type exchange other otherExchange texts

/-- Actions that are packed alike name the same method. -/
theorem NamesMethod.unique {type other : RestEndpointType} {action action' : List (String × Json)}
    (named : NamesMethod type action) (otherNamed : NamesMethod other action')
    (exchange : type ∈ exchangeTypes) (otherExchange : other ∈ exchangeTypes)
    (same : Json.MsgpackEqual (.object action) (.object action')) : type = other := by
  obtain ⟨rest, rfl, keyed⟩ := named
  obtain ⟨rest', rfl, keyed'⟩ := otherNamed
  have members := Json.object.inj same
  rw [Json.canonicalMembers, Json.canonicalMembers] at members
  obtain ⟨heads, rests⟩ := List.cons.inj members
  have texts := utf8_injective (Json.string.inj (Prod.mk.inj heads).2)
  apply method_injective exchange otherExchange texts
  have present := deployKey_isSome exchange otherExchange texts
  have keys : rest.map Prod.fst = rest'.map Prod.fst := by
    rw [← canonicalMembers_keys, rests, canonicalMembers_keys]
  cases key : deployKey type with
  | none =>
      rw [key] at present
      exact (Option.isNone_iff_eq_none.mp (Option.isSome_eq_false_iff.mp present.symm)).symm
  | some name =>
      rw [key] at present
      obtain ⟨name', key'⟩ := Option.isSome_iff_exists.mp present.symm
      rw [keyed name key, keyed' name' key'] at keys
      rw [key', List.singleton_inj.mp keys]

namespace Payload

/-- The method, the network and the nonce stand in what is signed. -/
inductive Names (type : RestEndpointType) (env : Environment) (nonce : UInt64) :
    Payload → Prop where
  | l1 {signing : L1Signing} {members : List (String × Json)} (sameEnv : signing.env = env)
      (sameNonce : signing.nonce = nonce) (action : signing.action = .object members)
      (named : NamesMethod type members) : Names type env nonce (.l1 signing)
  | userSigned {primaryType timeField : String} {fields : List EIP712Field} {action : Json}
      (selected : signedTable type = some (primaryType, fields))
      (timed : signedTimeField type = some timeField)
      (chain : fieldValue action ⟨"hyperliquidChain", "string"⟩ =
        some (.text (utf8 (chainName env))))
      (time : fieldValue action ⟨timeField, "uint64"⟩ = some (.number nonce.toNat)) :
      Names type env nonce (.userSigned primaryType fields action)

theorem signedTable_chain_time {type : RestEndpointType} {primaryType timeField : String}
    {fields : List EIP712Field} (selected : signedTable type = some (primaryType, fields))
    (timed : signedTimeField type = some timeField) :
    ⟨"hyperliquidChain", "string"⟩ ∈ fields ∧ ⟨timeField, "uint64"⟩ ∈ fields := by
  cases type <;> first
    | cases selected; done
    | cases selected
      cases timed
      decide

theorem chainName_injective {first second : Environment}
    (same : utf8 (chainName first) = utf8 (chainName second)) : first = second := by
  have names := utf8_injective same
  cases first <;> cases second <;> simp_all [chainName]

/-- The nonce is kept as it is. -/
theorem keptNumber_injective {first second : UInt64}
    (same : (FieldValue.number first.toNat).kept = (FieldValue.number second.toNat).kept) :
    first = second := by
  have whole (value : UInt64) : truncate (value.toNat : ℚ) = value.toNat := by
    rw [← Int.cast_natCast, truncate_intCast]
  simp only [FieldValue.kept, FieldValue.number.injEq, Int.cast_inj, whole] at same
  have bounded := first.toNat_lt
  have boundedSecond := second.toNat_lt
  apply UInt64.toNat_inj.mp
  omega

theorem Names.unique {primitives : Primitives} (codec : Json.MsgpackCodec primitives.toMsgpack)
    {type type' : RestEndpointType} {env env' : Environment} {nonce nonce' : UInt64}
    {first second : Payload} {digest : Digest} (named : first.Names type env nonce)
    (namedSecond : second.Names type' env' nonce') (exchange : type ∈ exchangeTypes)
    (exchangeSecond : type' ∈ exchangeTypes) (free : CollisionFree primitives first second)
    (returned : first.digest primitives = .ok digest)
    (returnedSecond : second.digest primitives = .ok digest) :
    type = type' ∧ env = env' ∧ nonce = nonce' ∧ SameContent first second := by
  obtain ⟨domains, text, encoded, encodedSecond⟩ := digest_injective free returned returnedSecond
  cases named with
  | l1 sameEnv sameNonce action method =>
      cases namedSecond with
      | l1 sameEnv' sameNonce' action' method' =>
          cases sameContent_l1 codec free encoded encodedSecond with
          | l1 envs actions nonces wrapping =>
              refine ⟨?_, ?_, ?_, .l1 envs actions nonces wrapping⟩
              · rw [action, action'] at actions
                exact method.unique method' exchange exchangeSecond actions
              · rw [← sameEnv, envs, sameEnv']
              · rw [← sameNonce, nonces, sameNonce']
      | userSigned _ _ _ _ => cases domainPreimage_chainId domains
  | userSigned selected timed chain time =>
      cases namedSecond with
      | l1 _ _ _ _ => cases domainPreimage_chainId domains
      | userSigned selected' timed' chain' time' =>
          obtain ⟨rfl, content⟩ :=
            sameContent_userSigned selected selected' free encoded encodedSecond
          obtain rfl := Option.some.inj (timed.symm.trans timed')
          obtain ⟨chainField, timeField⟩ := signedTable_chain_time selected timed
          cases content with
          | userSigned kept =>
              have chains := kept _ chainField
              have times := kept _ timeField
              simp only [keptValue, chain, chain', Option.map_some, Option.some.injEq] at chains
              simp only [keptValue, time, time', Option.map_some, Option.some.injEq] at times
              exact ⟨rfl, chainName_injective (FieldValue.text.inj chains),
                keptNumber_injective times, .userSigned kept⟩

end Payload

/-! ## Requests -/

/-- What the digest of a sent body is computed from. -/
def sentPayload (env : Environment) (type : RestEndpointType) (sent : Json) : Result Payload := do
  let action ← sent.atKey "action"
  if type = .approveAgent then
    return .userSigned approveAgentPrimaryType approveAgentFields (← withAgentName action)
  else
    match userSignedType type with
    | some signed => return .userSigned signed.primaryType signed.payloadTypes action
    | none => do
        let nonce ← (← sent.atKey "nonce").getUInt64
        let vaultAddress ← sentText sent "vaultAddress"
        let expiresAfter ← sentNumber sent "expiresAfter"
        return .l1 ⟨env, action, vaultAddress, nonce, expiresAfter⟩

section Routes

variable {primitives : Primitives} {config : ApiConfig} {nonce : UInt64} {sent : Json}

end Routes

/-- A call of an exchange method that prepared its body. -/
structure SignedRequest (primitives : Primitives) where
  config : ApiConfig
  request : ExchangeRequest
  symbolMap : SymbolMap
  vaultAddress : Option Bytes
  expiresAfter : Option UInt64
  nonce : UInt64
  built : Json
  sent : Json
  build : request.build symbolMap = .ok built
  prepared : prepareBodyForType primitives config request.endpoint built vaultAddress expiresAfter
    nonce = .ok sent

namespace SignedRequest

variable {primitives : Primitives}

def payload (signed : SignedRequest primitives) : Result Payload :=
  sentPayload signed.config.env signed.request.endpoint signed.sent

/-- The digest whose signature the sent body carries. -/
def digest (signed : SignedRequest primitives) : Result Digest :=
  sentDigest primitives signed.config.env signed.request.endpoint signed.sent

end SignedRequest

end HyperliquidSdk.Signing
