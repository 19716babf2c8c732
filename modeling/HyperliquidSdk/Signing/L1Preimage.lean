import HyperliquidSdk.Foundation.MessagePack
import HyperliquidSdk.Signing.SignedBody

/-!
# The preimage of an L1 signature

What `signL1Action` commits to: the source of the agent and the bytes that
`actionHash` hashes. The four layouts behind the encoded action are told apart.
-/

set_option autoImplicit false

namespace HyperliquidSdk.Signing

open Foundation

/-! ## Words of eight bytes -/

theorem bigEndian_length (value : UInt64) : (bigEndian value).length = 8 := rfl

theorem natOfBytes_bigEndian (value : UInt64) :
    natOfBytes (bigEndian value) = value.toNat := by
  have bounded := value.toNat_lt
  simp [natOfBytes, bigEndian, Nat.shiftRight_eq_div_pow]
  omega

theorem bigEndian_injective {first second : UInt64} (equal : bigEndian first = bigEndian second) :
    first = second := by
  have values := congrArg natOfBytes equal
  rw [natOfBytes_bigEndian, natOfBytes_bigEndian] at values
  exact UInt64.toNat_inj.mp values

theorem bigEndian_uniquelyRead : UniquelyRead Eq bigEndian :=
  (prefixFree_of_length bigEndian_length).uniquelyRead fun _ _ => bigEndian_injective

/-! ## The two optional parts -/

/-- The address as it is hashed, when it decodes. -/
def decodedVault (vaultAddress : Option Bytes) : Result (Option Bytes) :=
  vaultAddress.mapM hexToBytes

/-- The marker of the expiry is the marker of a missing vault. -/
def expiresBytes : Option UInt64 → Bytes
  | none => []
  | some time => 0 :: bigEndian time

theorem expiresBytes_injective {first second : Option UInt64}
    (same : expiresBytes first = expiresBytes second) : first = second := by
  cases first with
  | none =>
      cases second with
      | none => rfl
      | some time => cases same
  | some time =>
      cases second with
      | none => cases same
      | some other => rw [bigEndian_injective (List.cons.inj same).2]

/-- A vault address of twenty bytes, or none. -/
abbrev Vault := Option { bytes : Bytes // bytes.length = 20 }

def vaultBytes : Vault → Bytes := encodeOptional 0 1 Subtype.val

theorem vaultBytes_uniquelyRead : UniquelyRead Eq vaultBytes :=
  UniquelyRead.optional (by decide)
    ((prefixFree_of_length fun value => value.property).uniquelyRead fun _ _ => Subtype.ext)

/-- No vault with an expiry reads as another one, although their markers are the same. -/
theorem vault_expires_injective {vault other : Vault} {expiresAfter otherExpires : Option UInt64}
    (same : vaultBytes vault ++ expiresBytes expiresAfter =
      vaultBytes other ++ expiresBytes otherExpires) :
    vault = other ∧ expiresAfter = otherExpires := by
  obtain ⟨vaults, expiries⟩ := vaultBytes_uniquelyRead same
  exact ⟨vaults, expiresBytes_injective expiries⟩

/-! ## What an L1 signature covers -/

/-- The arguments of `signL1Action` besides the wallet. -/
structure L1Signing where
  env : Environment
  action : Json
  vaultAddress : Option Bytes
  nonce : UInt64
  expiresAfter : Option UInt64

namespace L1Signing

/-- The source of the agent and the bytes that `actionHash` hashes. -/
def preimage (primitives : Primitives) (signing : L1Signing) : Result (String × Bytes) := do
  let hashed ← actionPreimage primitives signing.action signing.vaultAddress signing.nonce
    signing.expiresAfter
  return (if signing.env = .mainnet then "a" else "b", hashed)

/-- A vault address, if there is one, decodes to twenty bytes. -/
def VaultDecodes (signing : L1Signing) : Prop :=
  ∀ address ∈ signing.vaultAddress, ∃ bytes, hexToBytes address = .ok bytes ∧ bytes.length = 20

theorem VaultDecodes.preimage_eq (primitives : Primitives) {signing : L1Signing}
    (decodes : signing.VaultDecodes) :
    ∃ vault : Vault, decodedVault signing.vaultAddress = .ok (vault.map Subtype.val) ∧
      signing.preimage primitives = .ok (if signing.env = .mainnet then "a" else "b",
        primitives.toMsgpack signing.action ++ (bigEndian signing.nonce ++
          (vaultBytes vault ++ expiresBytes signing.expiresAfter))) := by
  obtain ⟨env, action, vaultAddress, nonce, expiresAfter⟩ := signing
  cases vaultAddress with
  | none =>
      refine ⟨none, rfl, ?_⟩
      cases expiresAfter <;>
        simp [preimage, actionPreimage, vaultBytes, encodeOptional, expiresBytes, pure, Except.pure]
  | some address =>
      obtain ⟨bytes, decoded, length⟩ := decodes address rfl
      refine ⟨some ⟨bytes, length⟩, ?_, ?_⟩
      · simp [decodedVault, decoded]
      · cases expiresAfter <;> simp [preimage, actionPreimage, vaultBytes, encodeOptional,
          expiresBytes, decoded]

end L1Signing

/-- Equal preimages come from equal arguments: no signed action can be replayed as
another one. -/
theorem l1Preimage_unambiguous (primitives : Primitives)
    (codec : Json.MsgpackCodec primitives.toMsgpack) (first second : L1Signing)
    (decodes : first.VaultDecodes) (decodesSecond : second.VaultDecodes)
    (same : first.preimage primitives = second.preimage primitives) :
    first.env = second.env ∧ Json.MsgpackEqual first.action second.action ∧
      decodedVault first.vaultAddress = decodedVault second.vaultAddress ∧
      first.nonce = second.nonce ∧ first.expiresAfter = second.expiresAfter := by
  obtain ⟨vault, vaultDecoded, layout⟩ := decodes.preimage_eq primitives
  obtain ⟨other, otherDecoded, layoutSecond⟩ := decodesSecond.preimage_eq primitives
  rw [layout, layoutSecond] at same
  obtain ⟨sources, texts⟩ := Prod.mk.inj (Except.ok.inj same)
  obtain ⟨actions, texts⟩ := codec.uniquelyRead texts
  obtain ⟨nonces, texts⟩ := bigEndian_uniquelyRead texts
  obtain ⟨vaults, expiries⟩ := vault_expires_injective texts
  have environments : first.env = second.env := by
    cases firstEnv : first.env <;> cases secondEnv : second.env <;>
      first | rfl | simp [firstEnv, secondEnv] at sources
  refine ⟨environments, actions, ?_, nonces, expiries⟩
  rw [vaultDecoded, otherDecoded, vaults]

/-! ## Two spellings of one signing -/

/-- A scheduled cancel on the test network, with a vault and an expiry. -/
def spelledSigning (units : Json) (vaultAddress : String) : L1Signing where
  env := .testnet
  action := .object [("type", .text "scheduleCancel"), ("time", units)]
  vaultAddress := some (utf8 vaultAddress)
  nonce := 1700000000000
  expiresAfter := some 1700000060000

def spelledVault : Bytes :=
  [0xab, 0xcd, 0xef, 0x01, 0x23, 0x45, 0x67, 0x89, 0xab, 0xcd, 0xef, 0x01, 0x23, 0x45, 0x67, 0x89,
    0xab, 0xcd, 0xef, 0x01]

theorem l1Preimage_unambiguous_spelled :
    Json.MsgpackEqual (.object [("type", .text "scheduleCancel"), ("time", .unsigned 1700000030000)])
        (.object [("type", .text "scheduleCancel"), ("time", .integer 1700000030000)]) ∧
      decodedVault (some (utf8 "0xAbCdEf0123456789aBcDeF0123456789abcdef01")) =
        decodedVault (some (utf8 "abcdef0123456789abcdef0123456789abcdef01")) := by
  have unambiguous := l1Preimage_unambiguous
    { createSubAccountRecording.primitives with toMsgpack := Json.msgpack } Json.msgpackCodec
    (spelledSigning (.unsigned 1700000030000) "0xAbCdEf0123456789aBcDeF0123456789abcdef01")
    (spelledSigning (.integer 1700000030000) "abcdef0123456789abcdef0123456789abcdef01")
    (fun address present => ⟨spelledVault, by cases present; decide +kernel, rfl⟩)
    (fun address present => ⟨spelledVault, by cases present; decide +kernel, rfl⟩)
    (by decide +kernel)
  exact ⟨unambiguous.2.1, unambiguous.2.2.1⟩

end HyperliquidSdk.Signing
