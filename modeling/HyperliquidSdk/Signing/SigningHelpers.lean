import HyperliquidSdk.Foundation.OrderedJson
import HyperliquidSdk.Foundation.NumberText
import HyperliquidSdk.Types.RequestTypes

/-!
# Signing helpers

`SigningHelpers.cpp`: hex, the hashed encodings and the signature. The hash, the
MessagePack encoding and secp256k1 come from other libraries and are parameters.
-/

set_option autoImplicit false

namespace HyperliquidSdk.Signing

open Foundation

/-- `std::array<uint8_t, 32>`. -/
abbrev Digest := { bytes : Bytes // bytes.length = 32 }

/-- A serialized recoverable signature: `r` and `s` of 32 bytes, and the recovery id. -/
structure CompactSignature where
  r : Digest
  s : Digest
  recid : Int

/-- The functions of `sha3.h`, `nlohmann::ordered_json` and `secp256k1.h`. -/
structure Primitives where
  sha3Keccak256 : Bytes → Digest
  toMsgpack : Json → Bytes
  contextCreated : Bool
  signRecoverable : Digest → Bytes → Option CompactSignature

structure Signature where
  r : Bytes
  s : Bytes
  v : Int64
  deriving DecidableEq, Repr

structure EIP712Field where
  name : String
  type : String
  deriving DecidableEq, Repr

/-- The length is cast to a 32-bit `unsigned` on the way to the library. -/
def keccak256 (primitives : Primitives) (data : Bytes) : Digest :=
  primitives.sha3Keccak256 (data.take (data.length % 2 ^ 32))

def hexCharToNibble (byte : UInt8) : Result Nat :=
  match hexDigit? byte with
  | some nibble => .ok nibble
  | none => .error (.invalidArgument (utf8 "Invalid hex character: " ++ [byte]))

/-- The bytes of an even number of digits. -/
def pairsToBytes : Bytes → Result Bytes
  | high :: low :: rest => do
      let highNibble ← hexCharToNibble high
      let lowNibble ← hexCharToNibble low
      let bytes ← pairsToBytes rest
      return UInt8.ofNat (16 * highNibble + lowNibble) :: bytes
  | _ => .ok []

def hexToBytes (hex : Bytes) : Result Bytes :=
  let clean :=
    match hex with
    | 48 :: 120 :: rest | 48 :: 88 :: rest => rest
    | _ => hex
  pairsToBytes (if clean.length % 2 ≠ 0 then 48 :: clean else clean)

def nibbleToHexChar (nibble : Nat) : UInt8 :=
  if nibble < 10 then UInt8.ofNat (48 + nibble) else UInt8.ofNat (87 + nibble)

def hexDigits (data : Bytes) : Bytes :=
  data.flatMap fun byte => [nibbleToHexChar (byte.toNat / 16), nibbleToHexChar (byte.toNat % 16)]

/-- Without leading zeros, like a number. -/
def toHex (data : Bytes) : Bytes :=
  match (hexDigits data).dropWhile (· = 48) with
  | [] => utf8 "0x0"
  | significant => utf8 "0x" ++ significant

def toHexPadded (data : Bytes) : Bytes := utf8 "0x" ++ hexDigits data

/-- The eight bytes of a `uint64_t`, most significant first. -/
def bigEndian (value : UInt64) : Bytes :=
  ([56, 48, 40, 32, 24, 16, 8, 0] : List UInt64).map fun shift => (value >>> shift).toUInt8

def encodeUint256 (value : UInt64) : Bytes := List.replicate 24 0 ++ bigEndian value

def encodeAddress (addressBytes : Bytes) : Bytes :=
  if addressBytes.length = 20 then List.replicate 12 0 ++ addressBytes else List.replicate 32 0

/-- What `actionHash` hashes. -/
def actionPreimage (primitives : Primitives) (action : Json) (vaultAddress : Option Bytes)
    (nonce : UInt64) (expiresAfter : Option UInt64) : Result Bytes := do
  let vault ←
    match vaultAddress with
    | none => pure [0]
    | some address => do
        let bytes ← hexToBytes address
        pure (1 :: bytes)
  let expires :=
    match expiresAfter with
    | none => []
    | some time => 0 :: bigEndian time
  return primitives.toMsgpack action ++ bigEndian nonce ++ vault ++ expires

def actionHash (primitives : Primitives) (action : Json) (vaultAddress : Option Bytes)
    (nonce : UInt64) (expiresAfter : Option UInt64) : Result Digest := do
  let preimage ← actionPreimage primitives action vaultAddress nonce expiresAfter
  return keccak256 primitives preimage

/-- What `eip712Hash` hashes. -/
def eip712Preimage (domainSeparator structHash : Digest) : Bytes :=
  [0x19, 0x01] ++ domainSeparator.val ++ structHash.val

def eip712Hash (primitives : Primitives) (domainSeparator structHash : Digest) : Digest :=
  keccak256 primitives (eip712Preimage domainSeparator structHash)

def domainType : String :=
  "EIP712Domain(string name,string version,uint256 chainId,address verifyingContract)"

/-- The overload without arguments is this one at `"Exchange"`, `"1"` and 1337. -/
def domainSeparatorHash (primitives : Primitives) (name version : String) (chainId : UInt64) :
    Digest :=
  keccak256 primitives
    ((keccak256 primitives (utf8 domainType)).val ++ (keccak256 primitives (utf8 name)).val ++
      (keccak256 primitives (utf8 version)).val ++ encodeUint256 chainId ++
      encodeAddress (List.replicate 20 0))

def agentStructHash (primitives : Primitives) (source : String) (connectionId : Digest) : Digest :=
  keccak256 primitives
    ((keccak256 primitives (utf8 "Agent(string source,bytes32 connectionId)")).val ++
      (keccak256 primitives (utf8 source)).val ++ connectionId.val)

def typeString (primaryType : String) (payloadTypes : List EIP712Field) : String :=
  primaryType ++ "(" ++ ",".intercalate (payloadTypes.map fun field =>
    field.type ++ " " ++ field.name) ++ ")"

/-- The encoding of one field of the action; a field of another type adds nothing. -/
def encodeField (primitives : Primitives) (action : Json) (field : EIP712Field) : Result Bytes :=
  if field.type = "string" then do
    let value ← (← action.indexConst field.name).getString
    return (keccak256 primitives value).val
  else if field.type = "uint64" ∨ field.type = "uint32" then do
    let value ← (← action.indexConst field.name).getUInt64
    return encodeUint256 value
  else if field.type = "address" then do
    let value ← (← action.indexConst field.name).getString
    let bytes ← hexToBytes value
    return encodeAddress bytes
  else if field.type = "bool" then do
    let value ← (← action.indexConst field.name).getBool
    return encodeUint256 (if value then 1 else 0)
  else if field.type = "bytes" then do
    let value ← (← action.indexConst field.name).getString
    let bytes ← hexToBytes value
    return (keccak256 primitives bytes).val
  else return []

def encodeFields (primitives : Primitives) (action : Json) : List EIP712Field → Result Bytes
  | [] => .ok []
  | field :: rest => do
      let encoded ← encodeField primitives action field
      let others ← encodeFields primitives action rest
      return encoded ++ others

def userSignedStructHash (primitives : Primitives) (primaryType : String)
    (payloadTypes : List EIP712Field) (action : Json) : Result Digest := do
  let typeHash := keccak256 primitives (utf8 (typeString primaryType payloadTypes))
  let encoded ← encodeFields primitives action payloadTypes
  return keccak256 primitives (typeHash.val ++ encoded)

def ecdsaSign (primitives : Primitives) (wallet : Wallet) (messageHash : Digest) :
    Result Signature := do
  let privateKeyBytes ← hexToBytes wallet.privateKey
  if privateKeyBytes.length ≠ 32 then
    throw (.invalidArgument (utf8 "Private key must be 32 bytes"))
  if !primitives.contextCreated then
    throw (.runtimeError (utf8 "Failed to create secp256k1 context"))
  match primitives.signRecoverable messageHash privateKeyBytes with
  | none => throw (.runtimeError (utf8 "secp256k1 signing failed"))
  | some signature =>
      if signature.recid ≠ 0 ∧ signature.recid ≠ 1 then
        throw (.runtimeError (utf8 "Unexpected recovery id: " ++ intText signature.recid))
      return {
        r := toHex signature.r.val
        s := toHex signature.s.val
        v := .ofInt (signature.recid + 27) }

/-- The private key is one and the library signs the digest with it. -/
def KeySigns (primitives : Primitives) (wallet : Wallet) (digest : Digest)
    (recoverable : CompactSignature) : Prop :=
  ∃ key, hexToBytes wallet.privateKey = .ok key ∧ key.length = 32 ∧
    primitives.contextCreated = true ∧ primitives.signRecoverable digest key = some recoverable ∧
    (recoverable.recid = 0 ∨ recoverable.recid = 1)

theorem ecdsaSign_eq_ok_iff (primitives : Primitives) (wallet : Wallet) (digest : Digest)
    (signature : Signature) :
    ecdsaSign primitives wallet digest = .ok signature ↔
      ∃ recoverable, KeySigns primitives wallet digest recoverable ∧
        signature = ⟨toHex recoverable.r.val, toHex recoverable.s.val,
          .ofInt (recoverable.recid + 27)⟩ := by
  unfold ecdsaSign KeySigns
  cases hexToBytes wallet.privateKey with
  | error exception => simp
  | ok key =>
      by_cases length : key.length = 32
      · by_cases created : primitives.contextCreated = true
        · cases signed : primitives.signRecoverable digest key with
          | none => simp [length, created, signed]
          | some recoverable =>
              by_cases invalid : recoverable.recid ≠ 0 ∧ recoverable.recid ≠ 1
              · simp [length, created, signed, invalid]
              · have valid : recoverable.recid = 0 ∨ recoverable.recid = 1 := by tauto
                have returned (value : Signature) :
                    (pure value : Result Signature) = .ok signature ↔ signature = value :=
                  ⟨fun equal => (Except.ok.inj equal).symm, fun equal => equal ▸ rfl⟩
                simpa [length, created, signed, if_neg invalid, valid] using returned _
        · simp [length, created]
      · simp [length]

end HyperliquidSdk.Signing
