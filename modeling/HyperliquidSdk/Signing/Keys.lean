import HyperliquidSdk.Signing.HexCodec
import HyperliquidSdk.Signing.SignedBody

/-!
# Keys of agents

`Keys.cpp` and the two functions behind it: a private key is drawn until the curve takes
it, and its address is what an approval of the agent signs.
-/

set_option autoImplicit false

namespace HyperliquidSdk.Signing

open Foundation

/-- `secp256k1_ec_seckey_verify`, and `secp256k1_ec_pubkey_create` with its uncompressed
serialization. -/
structure KeyPrimitives extends Primitives where
  seckeyVerify : Bytes → Bool
  pubkeyCreate : Bytes → Option { serialized : Bytes // serialized.length = 65 }

section Model

variable (primitives : KeyPrimitives) (words : Nat → UInt64)

/-- The bytes of a draw: four words of the generator, whose values are `words`. -/
def drawnBytes (draw : Nat) : Bytes :=
  (List.range 4).flatMap fun word => bigEndian (words (4 * draw + word))

/-- The draws from `draw` on, at most `fuel` of them. -/
def drawKey : Nat → Nat → Option Bytes
  | 0, _ => none
  | fuel + 1, draw =>
      let bytes := drawnBytes words draw
      if primitives.seckeyVerify bytes then some bytes else drawKey fuel (draw + 1)

def generatePrivateKeyHex (fuel : Nat) : Option (Result Bytes) :=
  if primitives.contextCreated then
    (drawKey primitives words fuel 0).map fun bytes => .ok (toHexPadded bytes)
  else some (.error (.runtimeError (utf8 "Failed to create secp256k1 context")))

def generateAgentPrivateKey (fuel : Nat) : Option (Result Bytes) :=
  generatePrivateKeyHex primitives words fuel

def privateKeyToAddress (privateKeyHex : Bytes) : Result Bytes := do
  let privateKeyBytes ← hexToBytes privateKeyHex
  if privateKeyBytes.length ≠ 32 then
    throw (.invalidArgument (utf8 "Private key must be 32 bytes"))
  if !primitives.contextCreated then
    throw (.runtimeError (utf8 "Failed to create secp256k1 context"))
  match primitives.pubkeyCreate privateKeyBytes with
  | none => throw (.runtimeError (utf8 "Failed to derive public key from private key"))
  | some serialized =>
      let hash := keccak256 primitives.toPrimitives ((serialized.val.drop 1).take 64)
      return toHexPadded ((hash.val.drop 12).take 20)

/-- The account of a private key: the last twenty bytes of the hash of its public key
without the prefix. -/
def accountOf (key : Bytes) : Option Bytes :=
  (primitives.pubkeyCreate key).map fun serialized =>
    (keccak256 primitives.toPrimitives serialized.val.tail).val.drop 12

end Model

section Proofs

variable {primitives : KeyPrimitives} {words : Nat → UInt64}

theorem drawnBytes_length (draw : Nat) : (drawnBytes words draw).length = 32 := rfl

/-- The loop returns the first draw that is a key, and goes on until there is one. -/
theorem drawKey_eq {first : Nat} (valid : primitives.seckeyVerify (drawnBytes words first) = true)
    (fuel draw : Nat) (started : draw ≤ first)
    (earlier : ∀ other, draw ≤ other → other < first →
      primitives.seckeyVerify (drawnBytes words other) = false) :
    drawKey primitives words fuel draw =
      if first < draw + fuel then some (drawnBytes words first) else none := by
  induction fuel generalizing draw with
  | zero => rw [drawKey, if_neg (by omega)]
  | succ fuel ih =>
      rw [drawKey]
      by_cases last : draw = first
      · subst last
        rw [if_pos valid, if_pos (by omega)]
      · have refused := earlier draw (Nat.le_refl draw) (by omega)
        simp only [refused, Bool.false_eq_true, if_false]
        rw [ih (draw + 1) (by omega) fun other later => earlier other (by omega)]
        simp only [Nat.add_assoc, Nat.add_comm 1]

theorem accountOf_length {key account : Bytes} (derived : accountOf primitives key = some account) :
    account.length = 20 := by
  obtain ⟨serialized, -, rfl⟩ := Option.map_eq_some_iff.mp derived
  rw [List.length_drop, (keccak256 primitives.toPrimitives serialized.val.tail).property]

/-- The address of a key that was written with its leading zeros. -/
theorem privateKeyToAddress_padded {key account : Bytes} (length : key.length = 32)
    (created : primitives.contextCreated = true)
    (derived : accountOf primitives key = some account) :
    privateKeyToAddress primitives (toHexPadded key) = .ok (toHexPadded account) := by
  have short := accountOf_length derived
  obtain ⟨serialized, taken, rfl⟩ := Option.map_eq_some_iff.mp derived
  have point : (serialized.val.drop 1).take 64 = serialized.val.tail := by
    rw [List.drop_one]
    exact List.take_of_length_le (by rw [List.length_tail, serialized.property])
  unfold privateKeyToAddress
  simp only [hexToBytes_toHexPadded, ok_bind, length, created, taken, point,
    List.take_of_length_le (Nat.le_of_eq short)]
  rfl

/-- A key that was written with its leading zeros signs as the bytes of the key do. -/
theorem keySigns_padded_iff {key accountAddress : Bytes} {digest : Digest}
    {recoverable : CompactSignature} (length : key.length = 32)
    (created : primitives.contextCreated = true) :
    KeySigns primitives.toPrimitives ⟨accountAddress, toHexPadded key⟩ digest recoverable ↔
      primitives.signRecoverable digest key = some recoverable ∧
        (recoverable.recid = 0 ∨ recoverable.recid = 1) := by
  unfold KeySigns
  rw [hexToBytes_toHexPadded]
  constructor
  · rintro ⟨read, same, -, -, signed, valid⟩
    obtain rfl := Except.ok.inj same
    exact ⟨signed, valid⟩
  · rintro ⟨signed, valid⟩
    exact ⟨key, rfl, length, created, signed, valid⟩

/-- An approval signs the account of the address, never the zero address in its place. -/
theorem encodeField_agentAddress {account : Bytes} (length : account.length = 20)
    (agentName : Option Bytes) (nonce : UInt64) (env : Environment) :
    encodeField primitives.toPrimitives
      (approveAgentAction (toHexPadded account) agentName nonce env) ⟨"agentAddress", "address"⟩ =
      .ok (List.replicate 12 0 ++ account) := by
  have found : (approveAgentAction (toHexPadded account) agentName nonce env).indexConst
      "agentAddress" = .ok (.string (toHexPadded account)) := rfl
  have word : encodeAddress account = List.replicate 12 0 ++ account := if_pos length
  unfold encodeField
  simp only [found, ok_bind, Json.getString, hexToBytes_toHexPadded, word]
  rfl

/-- The flow of an agent: the generated key is the first draw that the curve takes, it has an
address, it signs as itself, and the approval of its address signs its account. -/
theorem generated_key_is_approved (primitives : KeyPrimitives) (words : Nat → UInt64) (draw : Nat)
    (created : primitives.contextCreated = true)
    (derivable : ∀ key, key.length = 32 → primitives.seckeyVerify key = true →
      (primitives.pubkeyCreate key).isSome = true)
    (valid : primitives.seckeyVerify (drawnBytes words draw) = true)
    (first : ∀ earlier < draw, primitives.seckeyVerify (drawnBytes words earlier) = false) :
    ∃ text account,
      (∀ fuel, generateAgentPrivateKey primitives words fuel =
        if draw < fuel then some (.ok text) else none) ∧
      hexToBytes text = .ok (drawnBytes words draw) ∧
      accountOf primitives (drawnBytes words draw) = some account ∧
      privateKeyToAddress primitives text = .ok (toHexPadded account) ∧
      (∀ accountAddress digest recoverable,
        KeySigns primitives.toPrimitives ⟨accountAddress, text⟩ digest recoverable ↔
          primitives.signRecoverable digest (drawnBytes words draw) = some recoverable ∧
            (recoverable.recid = 0 ∨ recoverable.recid = 1)) ∧
      ∀ agentName nonce env, encodeField primitives.toPrimitives
        (approveAgentAction (toHexPadded account) agentName nonce env)
        ⟨"agentAddress", "address"⟩ = .ok (List.replicate 12 0 ++ account) := by
  have length : (drawnBytes words draw).length = 32 := drawnBytes_length draw
  obtain ⟨serialized, point⟩ := Option.isSome_iff_exists.mp (derivable _ length valid)
  have derived : accountOf primitives (drawnBytes words draw) =
      some ((keccak256 primitives.toPrimitives serialized.val.tail).val.drop 12) := by
    rw [accountOf, point]
    rfl
  refine ⟨toHexPadded (drawnBytes words draw), _, ?_, hexToBytes_toHexPadded _, derived,
    privateKeyToAddress_padded length created derived, ?_, ?_⟩
  · intro fuel
    have drawn := drawKey_eq valid fuel 0 (Nat.zero_le draw) fun other _ => first other
    rw [generateAgentPrivateKey, generatePrivateKeyHex, if_pos created, drawn, Nat.zero_add]
    split
    · rfl
    · rfl
  · intro accountAddress digest recoverable
    exact keySigns_padded_iff length created
  · exact encodeField_agentAddress (accountOf_length derived)

end Proofs

/-! ## A drawn key -/

/-- Zeros first, which are no key, and then the key of the signing tests. -/
def testWords (index : Nat) : UInt64 :=
  [0, 0, 0, 0, 0x0123456789012345, 0x6789012345678901, 0x2345678901234567,
    0x8901234567890123].getD index 0

/-- The public key of the signing tests, and the hash of its point. -/
def testKeyPrimitives : KeyPrimitives :=
  let point :=
    (Digest.ofNat 0x6655feed4d214c261e0a6b554395596f1f1476a77d999560e5a8df9b8a1a3515).val ++
      (Digest.ofNat 0x217e88dd05e938efdd71b2cce322bf01da96cd42087b236e8f5043157a9c068e).val
  { Recording.primitives { createSubAccountRecording with
      hashes := [(point, .ofNat
        0xc5abd87708fe6005b6f1803414791697260e4c9a71f18484c9f997b308e59325)] } with
    seckeyVerify := fun key => key ≠ List.replicate 32 0
    pubkeyCreate := fun key =>
      if key = List.replicate 32 0 then none else some ⟨4 :: point, by rfl⟩ }

theorem generated_key_is_approved_secondDraw :
    ∃ text, generateAgentPrivateKey testKeyPrimitives testWords 2 = some (.ok text) ∧
      privateKeyToAddress testKeyPrimitives text =
        .ok (utf8 "0x14791697260e4c9a71f18484c9f997b308e59325") := by
  obtain ⟨text, account, generated, -, derived, address, -, -⟩ :=
    generated_key_is_approved testKeyPrimitives testWords 1 rfl
      (fun key _ valid => by
        have nonzero : key ≠ List.replicate 32 0 := of_decide_eq_true valid
        exact congrArg Option.isSome (if_neg nonzero))
      (by decide) (by decide +kernel)
  have known : accountOf testKeyPrimitives (drawnBytes testWords 1) =
      some [0x14, 0x79, 0x16, 0x97, 0x26, 0x0e, 0x4c, 0x9a, 0x71, 0xf1, 0x84, 0x84, 0xc9, 0xf9,
        0x97, 0xb3, 0x08, 0xe5, 0x93, 0x25] := by decide
  obtain rfl := Option.some.inj (derived.symm.trans known)
  refine ⟨text, generated 2, address.trans ?_⟩
  decide

end HyperliquidSdk.Signing
