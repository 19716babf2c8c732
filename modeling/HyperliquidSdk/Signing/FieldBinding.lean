import HyperliquidSdk.Foundation.MachineIntegers
import HyperliquidSdk.Signing.L1Preimage
import Mathlib.Data.Rat.Floor

/-!
# What a user-signed digest commits to

The values of the fields of an action, what the encoding keeps of them, and when two
actions with different fields are hashed from different bytes.
-/

set_option autoImplicit false

namespace HyperliquidSdk.Signing

open Foundation

/-! ## Field values -/

/-- The value of a JSON number. -/
def numberValue : Json → Option ℚ
  | .unsigned value => some value.toNat
  | .integer value => some value.toInt
  | .float (.finite negative units _) => some (Double.signedUnits negative units / unitsPerOne)
  | _ => none

def textValue : Json → Option Bytes
  | .string value => some value
  | _ => none

def truthValue : Json → Option Bool
  | .boolean value => some value
  | _ => none

def bytesValue (json : Json) : Option Bytes :=
  (textValue json).bind fun text => (hexToBytes text).toOption

inductive FieldValue where
  | text (value : Bytes)
  | number (value : ℚ)
  | truth (value : Bool)
  | address (bytes : Bytes)
  | data (bytes : Bytes)
  deriving DecidableEq

/-- The value that an action has for a field of a type. -/
def fieldValue (action : Json) (field : EIP712Field) : Option FieldValue :=
  (action.member? field.name).bind fun json =>
    if field.type = "string" then .text <$> textValue json
    else if field.type = "uint64" ∨ field.type = "uint32" then .number <$> numberValue json
    else if field.type = "address" then .address <$> bytesValue json
    else if field.type = "bool" then .truth <$> truthValue json
    else if field.type = "bytes" then .data <$> bytesValue json
    else none

/-- The types that `userSignedStructHash` encodes. -/
def fieldTypes : List String := ["string", "uint64", "uint32", "address", "bool", "bytes"]

/-- A number towards zero. -/
def truncate (value : ℚ) : Int := if value < 0 then -⌊-value⌋ else ⌊value⌋

/-- What the encoding keeps of a value: a number is truncated and taken modulo `2 ^ 64`, and
an address of another length than twenty bytes becomes the zero address. -/
def FieldValue.kept : FieldValue → FieldValue
  | .number value => .number (truncate value % 2 ^ 64 : Int)
  | .address bytes => .address (if bytes.length = 20 then bytes else List.replicate 20 0)
  | .text value => .text value
  | .truth value => .truth value
  | .data bytes => .data bytes

/-- The word that a value is encoded as. -/
def FieldValue.word (primitives : Primitives) : FieldValue → Bytes
  | .text value => (keccak256 primitives value).val
  | .number value => encodeUint256 (.ofInt (truncate value))
  | .truth value => encodeUint256 (if value then 1 else 0)
  | .address bytes => encodeAddress bytes
  | .data bytes => (keccak256 primitives bytes).val

theorem FieldValue.word_length (primitives : Primitives) (value : FieldValue) :
    (value.word primitives).length = 32 := by
  cases value with
  | text value => exact (keccak256 primitives value).property
  | number value => rfl
  | truth value => rfl
  | address bytes =>
      by_cases length : bytes.length = 20
      · simp [word, encodeAddress, length]
      · simp [word, encodeAddress, length]
  | data bytes => exact (keccak256 primitives bytes).property

/-! ## Numbers -/

theorem truncate_intCast (value : Int) : truncate value = value := by
  by_cases negative : value < 0
  · have cast : (value : ℚ) < 0 := by exact_mod_cast negative
    rw [truncate, if_pos cast, ← Int.cast_neg, Int.floor_intCast, neg_neg]
  · have cast : ¬ (value : ℚ) < 0 := by exact_mod_cast negative
    rw [truncate, if_neg cast, Int.floor_intCast]

/-- A number that is read as a `uint64_t` is truncated and taken modulo `2 ^ 64`. -/
theorem getUInt64_eq_ok {json : Json} {read : UInt64} (returned : json.getUInt64 = .ok read) :
    ∃ value, numberValue json = some value ∧ read = .ofInt (truncate value) := by
  cases json with
  | unsigned value =>
      obtain rfl := Except.ok.inj returned
      refine ⟨_, rfl, ?_⟩
      have bounded := value.toNat_lt
      rw [← Int.cast_natCast, truncate_intCast, ← UInt64.toNat_inj, UInt64.ofInt,
        UInt64.toNat_ofNat']
      omega
  | integer value =>
      obtain rfl := Except.ok.inj returned
      refine ⟨_, rfl, ?_⟩
      rw [truncate_intCast, toUInt64_eq_ofInt]
  | float value =>
      cases value with
      | finite negative units valid =>
          refine ⟨_, rfl, ?_⟩
          have positive : (0 : ℚ) ≤ units / unitsPerOne := by positivity
          have whole : ⌊(units / unitsPerOne : ℚ)⌋ = (units / unitsPerOne : Nat) :=
            Rat.floor_natCast_div_natCast units unitsPerOne
          cases negative with
          | false =>
              simp only [Json.getUInt64] at returned
              split_ifs at returned with fits
              obtain rfl := Except.ok.inj returned
              rw [Double.signedUnits, if_neg (by decide), Int.cast_natCast, truncate,
                if_neg (not_lt.mpr positive), whole, UInt64.ofInt]
              generalize units / unitsPerOne = magnitude at fits
              congr 1
              omega
          | true =>
              simp only [Json.getUInt64] at returned
              split_ifs at returned with fits
              obtain rfl := Except.ok.inj returned
              have small : units / unitsPerOne = 0 := Nat.div_eq_of_lt fits
              rw [small] at whole
              have zero : truncate (Double.signedUnits true units / unitsPerOne) = 0 := by
                rw [Double.signedUnits, if_pos rfl, Int.cast_neg, Int.cast_natCast, neg_div]
                by_cases nonzero : -(units / unitsPerOne : ℚ) < 0
                · rw [truncate, if_pos nonzero, neg_neg, whole]
                  rfl
                · have equal : (units / unitsPerOne : ℚ) = 0 := by linarith
                  rw [truncate, if_neg nonzero, equal, neg_zero, Int.floor_zero]
              rw [zero]
              rfl
      | infinity negative => cases returned
      | nan => cases returned
  | null | boolean _ | string _ | array _ | object _ => cases returned

/-! ## Words -/

/-- Values that one field has in two actions. -/
inductive SameKind : FieldValue → FieldValue → Prop where
  | text (first second : Bytes) : SameKind (.text first) (.text second)
  | number (first second : ℚ) : SameKind (.number first) (.number second)
  | truth (first second : Bool) : SameKind (.truth first) (.truth second)
  | address (first second : Bytes) : SameKind (.address first) (.address second)
  | data (first second : Bytes) : SameKind (.data first) (.data second)

theorem fieldValue_sameKind {field : EIP712Field} {first second : Json} {value other : FieldValue}
    (read : fieldValue first field = some value) (readSecond : fieldValue second field = some other) :
    SameKind value other := by
  obtain ⟨json, -, read⟩ := Option.bind_eq_some_iff.mp read
  obtain ⟨json', -, readSecond⟩ := Option.bind_eq_some_iff.mp readSecond
  split_ifs at read readSecond
  · obtain ⟨text, -, rfl⟩ := Option.map_eq_some_iff.mp read
    obtain ⟨text', -, rfl⟩ := Option.map_eq_some_iff.mp readSecond
    exact .text text text'
  · obtain ⟨number, -, rfl⟩ := Option.map_eq_some_iff.mp read
    obtain ⟨number', -, rfl⟩ := Option.map_eq_some_iff.mp readSecond
    exact .number number number'
  · obtain ⟨bytes, -, rfl⟩ := Option.map_eq_some_iff.mp read
    obtain ⟨bytes', -, rfl⟩ := Option.map_eq_some_iff.mp readSecond
    exact .address bytes bytes'
  · obtain ⟨truth, -, rfl⟩ := Option.map_eq_some_iff.mp read
    obtain ⟨truth', -, rfl⟩ := Option.map_eq_some_iff.mp readSecond
    exact .truth truth truth'
  · obtain ⟨bytes, -, rfl⟩ := Option.map_eq_some_iff.mp read
    obtain ⟨bytes', -, rfl⟩ := Option.map_eq_some_iff.mp readSecond
    exact .data bytes bytes'

/-- The bytes of a value that are hashed. -/
def FieldValue.hashed : FieldValue → Option Bytes
  | .text value | .data value => some value
  | .number _ | .truth _ | .address _ => none

theorem encodeUint256_injective {first second : UInt64}
    (same : encodeUint256 first = encodeUint256 second) : first = second :=
  bigEndian_injective (List.append_cancel_left same)

theorem encodeAddress_eq (bytes : Bytes) :
    encodeAddress bytes =
      List.replicate 12 0 ++ (if bytes.length = 20 then bytes else List.replicate 20 0) := by
  by_cases length : bytes.length = 20
  · simp [encodeAddress, length]
  · simp [encodeAddress, length]

/-- Words are equal exactly when the encoding keeps the same of both values. -/
theorem SameKind.word_eq_iff {primitives : Primitives} {value other : FieldValue}
    (kind : SameKind value other)
    (noCollision : ∀ first ∈ value.hashed, ∀ second ∈ other.hashed,
      keccak256 primitives first = keccak256 primitives second → first = second) :
    value.word primitives = other.word primitives ↔ value.kept = other.kept := by
  cases kind with
  | text first second =>
      simp only [FieldValue.word, FieldValue.kept, FieldValue.text.injEq]
      constructor
      · intro same
        exact noCollision first rfl second rfl (Subtype.ext same)
      · rintro rfl
        rfl
  | data first second =>
      simp only [FieldValue.word, FieldValue.kept, FieldValue.data.injEq]
      constructor
      · intro same
        exact noCollision first rfl second rfl (Subtype.ext same)
      · rintro rfl
        rfl
  | number first second =>
      simp only [FieldValue.word, FieldValue.kept, FieldValue.number.injEq, Int.cast_inj]
      rw [← ofInt_eq_iff]
      constructor
      · exact encodeUint256_injective
      · exact congrArg encodeUint256
  | truth first second =>
      simp only [FieldValue.word, FieldValue.kept, FieldValue.truth.injEq]
      cases first <;> cases second <;> decide
  | address first second =>
      simp only [FieldValue.word, FieldValue.kept, FieldValue.address.injEq, encodeAddress_eq]
      exact List.append_right_inj _

theorem indexConst_eq_ok {json value : Json} {key : String}
    (found : json.indexConst key = .ok value) : json.member? key = some value := by
  cases json with
  | object members =>
      cases present : members.lookup key with
      | none => simp only [Json.indexConst, present] at found; cases found
      | some other =>
          simp only [Json.indexConst, present] at found
          rw [Json.member?_object, present, Except.ok.inj found]
  | null | boolean _ | integer _ | unsigned _ | float _ | string _ | array _ => cases found

theorem getBool_eq_ok {json : Json} {value : Bool} (read : json.getBool = .ok value) :
    json = .boolean value := by
  cases json with
  | boolean _ => rw [Except.ok.inj read]
  | null | integer _ | unsigned _ | float _ | string _ | array _ | object _ => cases read

theorem bytesValue_eq_some {text bytes : Bytes} (decoded : hexToBytes text = .ok bytes) :
    bytesValue (.string text) = some bytes := by
  simp [bytesValue, textValue, decoded, Except.toOption]

/-- What is encoded of a field is the word of its value. -/
theorem encodeField_eq_ok {primitives : Primitives} {action : Json} {field : EIP712Field}
    {encoded : Bytes} (known : field.type ∈ fieldTypes)
    (returned : encodeField primitives action field = .ok encoded) :
    ∃ value, fieldValue action field = some value ∧ encoded = value.word primitives := by
  obtain ⟨name, type⟩ := field
  simp only [fieldTypes, List.mem_cons, List.not_mem_nil, or_false] at known
  unfold encodeField at returned
  unfold fieldValue
  rcases known with rfl | rfl | rfl | rfl | rfl | rfl
  · obtain ⟨json, found, reading⟩ := bind_eq_ok returned
    obtain ⟨text, read, encoding⟩ := bind_eq_ok reading
    obtain rfl := Json.getString_eq_ok read
    obtain rfl := Except.ok.inj encoding
    exact ⟨.text text, by rw [indexConst_eq_ok found]; rfl, rfl⟩
  · obtain ⟨json, found, reading⟩ := bind_eq_ok returned
    obtain ⟨number, read, encoding⟩ := bind_eq_ok reading
    obtain ⟨value, valued, rfl⟩ := getUInt64_eq_ok read
    obtain rfl := Except.ok.inj encoding
    exact ⟨.number value, by simp [indexConst_eq_ok found, valued], rfl⟩
  · obtain ⟨json, found, reading⟩ := bind_eq_ok returned
    obtain ⟨number, read, encoding⟩ := bind_eq_ok reading
    obtain ⟨value, valued, rfl⟩ := getUInt64_eq_ok read
    obtain rfl := Except.ok.inj encoding
    exact ⟨.number value, by simp [indexConst_eq_ok found, valued], rfl⟩
  · obtain ⟨json, found, reading⟩ := bind_eq_ok returned
    obtain ⟨text, read, encoding⟩ := bind_eq_ok reading
    obtain rfl := Json.getString_eq_ok read
    obtain ⟨bytes, decoded, hashing⟩ := bind_eq_ok encoding
    obtain rfl := Except.ok.inj hashing
    exact ⟨.address bytes, by simp [indexConst_eq_ok found, bytesValue_eq_some decoded], rfl⟩
  · obtain ⟨json, found, reading⟩ := bind_eq_ok returned
    obtain ⟨truth, read, encoding⟩ := bind_eq_ok reading
    obtain rfl := getBool_eq_ok read
    obtain rfl := Except.ok.inj encoding
    exact ⟨.truth truth, by simp [indexConst_eq_ok found, truthValue], rfl⟩
  · obtain ⟨json, found, reading⟩ := bind_eq_ok returned
    obtain ⟨text, read, encoding⟩ := bind_eq_ok reading
    obtain rfl := Json.getString_eq_ok read
    obtain ⟨bytes, decoded, hashing⟩ := bind_eq_ok encoding
    obtain rfl := Except.ok.inj hashing
    exact ⟨.data bytes, by simp [indexConst_eq_ok found, bytesValue_eq_some decoded], rfl⟩

/-- The texts of the fields that are hashed. -/
def hashedTexts (fields : List EIP712Field) (action : Json) : List Bytes :=
  fields.filterMap fun field => (fieldValue action field).bind FieldValue.hashed

/-- No text of one action has the hash of another text of the other one. -/
def NoCollision (primitives : Primitives) (fields : List EIP712Field) (first second : Json) : Prop :=
  ∀ text ∈ hashedTexts fields first, ∀ other ∈ hashedTexts fields second,
    keccak256 primitives text = keccak256 primitives other → text = other

theorem mem_hashedTexts_head {field : EIP712Field} {rest : List EIP712Field} {action : Json}
    {value : FieldValue} {text : Bytes} (read : fieldValue action field = some value)
    (hashed : text ∈ value.hashed) : text ∈ hashedTexts (field :: rest) action := by
  apply List.mem_filterMap.mpr
  exact ⟨field, List.mem_cons_self .., by rw [read]; exact hashed⟩

theorem mem_hashedTexts_cons {field : EIP712Field} {rest : List EIP712Field} {action : Json}
    {text : Bytes} (present : text ∈ hashedTexts rest action) :
    text ∈ hashedTexts (field :: rest) action := by
  obtain ⟨other, member, hashed⟩ := List.mem_filterMap.mp present
  exact List.mem_filterMap.mpr ⟨other, List.mem_cons_of_mem _ member, hashed⟩

/-- What is kept of a field in the encoding of an action. -/
def keptValue (action : Json) (field : EIP712Field) : Option FieldValue :=
  (fieldValue action field).map FieldValue.kept

theorem encodeFields_eq_iff {primitives : Primitives} {first second : Json}
    {fields : List EIP712Field} {encoded other : Bytes}
    (known : ∀ field ∈ fields, field.type ∈ fieldTypes)
    (noCollision : NoCollision primitives fields first second)
    (returned : encodeFields primitives first fields = .ok encoded)
    (returnedSecond : encodeFields primitives second fields = .ok other) :
    encoded = other ↔ ∀ field ∈ fields, keptValue first field = keptValue second field := by
  induction fields generalizing encoded other with
  | nil =>
      obtain rfl := Except.ok.inj returned
      obtain rfl := Except.ok.inj returnedSecond
      simp
  | cons field rest ih =>
      obtain ⟨word, wordReturned, returned⟩ := bind_eq_ok returned
      obtain ⟨others, othersReturned, returned⟩ := bind_eq_ok returned
      obtain rfl := Except.ok.inj returned
      obtain ⟨word', wordReturned', returnedSecond⟩ := bind_eq_ok returnedSecond
      obtain ⟨others', othersReturned', returnedSecond⟩ := bind_eq_ok returnedSecond
      obtain rfl := Except.ok.inj returnedSecond
      have fieldKnown := known field (List.mem_cons_self ..)
      obtain ⟨value, read, rfl⟩ := encodeField_eq_ok fieldKnown wordReturned
      obtain ⟨value', read', rfl⟩ := encodeField_eq_ok fieldKnown wordReturned'
      have restCollision : NoCollision primitives rest first second := by
        intro text present text' present'
        exact noCollision text (mem_hashedTexts_cons present) text' (mem_hashedTexts_cons present')
      have restIff := ih (fun other present => known other (List.mem_cons_of_mem _ present))
        restCollision othersReturned othersReturned'
      have wordIff := @SameKind.word_eq_iff primitives _ _ (fieldValue_sameKind read read')
        fun text hashed text' hashed' => noCollision text (mem_hashedTexts_head read hashed) text'
          (mem_hashedTexts_head read' hashed')
      have lengths := (value.word_length primitives).trans (value'.word_length primitives).symm
      constructor
      · intro same other member
        obtain ⟨words, texts⟩ := List.append_inj same lengths
        rcases List.mem_cons.mp member with rfl | later
        · simp [keptValue, read, read', wordIff.mp words]
        · exact restIff.mp texts other later
      · intro kept
        have fieldKept := kept field (List.mem_cons_self ..)
        simp only [keptValue, read, read', Option.map_some, Option.some.injEq] at fieldKept
        rw [wordIff.mpr fieldKept,
          restIff.mpr fun other member => kept other (List.mem_cons_of_mem _ member)]

/-! ## The struct -/

/-- What `userSignedStructHash` hashes. -/
def structPreimage (primitives : Primitives) (primaryType : String)
    (payloadTypes : List EIP712Field) (action : Json) : Result Bytes := do
  let encoded ← encodeFields primitives action payloadTypes
  return (keccak256 primitives (utf8 (typeString primaryType payloadTypes))).val ++ encoded

theorem userSignedStructHash_eq (primitives : Primitives) (primaryType : String)
    (payloadTypes : List EIP712Field) (action : Json) :
    userSignedStructHash primitives primaryType payloadTypes action =
      keccak256 primitives <$> structPreimage primitives primaryType payloadTypes action := by
  unfold userSignedStructHash structPreimage
  cases encodeFields primitives action payloadTypes <;> rfl

/-- The primary type and the field list that an action of the endpoint is signed with. -/
def signedTable (type : RestEndpointType) : Option (String × List EIP712Field) :=
  if type = .approveAgent then some (approveAgentPrimaryType, approveAgentFields)
  else (userSignedType type).map fun signed => (signed.primaryType, signed.payloadTypes)

theorem signedTable_known {type : RestEndpointType} {primaryType : String}
    {fields : List EIP712Field} (selected : signedTable type = some (primaryType, fields)) :
    ∀ field ∈ fields, field.type ∈ fieldTypes := by
  cases type <;> cases selected <;> decide

/-- Some field of the list has different values in the two actions. -/
def Differ (fields : List EIP712Field) (first second : Json) : Prop :=
  ∃ field ∈ fields, fieldValue first field ≠ fieldValue second field

/-- Some field of the list has different values and the encoding keeps the difference. -/
def KeptApart (fields : List EIP712Field) (first second : Json) : Prop :=
  ∃ field ∈ fields, keptValue first field ≠ keptValue second field

/-- Two accepted actions with different fields are hashed from different bytes. -/
def BindsFields (primitives : Primitives) (primaryType : String) (fields : List EIP712Field)
    (first second : Json) : Prop :=
  Differ fields first second →
    structPreimage primitives primaryType fields first ≠
      structPreimage primitives primaryType fields second

/-- A digest commits to the fields unless they differ only in addresses that do not have
twenty bytes and in numbers that are the same `uint64_t`. -/
theorem bindsFields_iff (primitives : Primitives) (type : RestEndpointType) (primaryType : String)
    (fields : List EIP712Field) (first second : Json) (digest other : Digest)
    (selected : signedTable type = some (primaryType, fields))
    (accepted : userSignedStructHash primitives primaryType fields first = .ok digest)
    (acceptedSecond : userSignedStructHash primitives primaryType fields second = .ok other)
    (noCollision : NoCollision primitives fields first second) :
    BindsFields primitives primaryType fields first second ↔
      (Differ fields first second → KeptApart fields first second) := by
  rw [userSignedStructHash_eq] at accepted acceptedSecond
  obtain ⟨text, preimage, -⟩ := map_eq_ok accepted
  obtain ⟨text', preimage', -⟩ := map_eq_ok acceptedSecond
  obtain ⟨encoded, returned, texts⟩ := bind_eq_ok preimage
  obtain ⟨encoded', returned', texts'⟩ := bind_eq_ok preimage'
  have encodings := encodeFields_eq_iff (signedTable_known selected) noCollision returned returned'
  have preimages : structPreimage primitives primaryType fields first =
      structPreimage primitives primaryType fields second ↔
        ∀ field ∈ fields, keptValue first field = keptValue second field := by
    rw [preimage, preimage', ← Except.ok.inj texts, ← Except.ok.inj texts', Except.ok.injEq,
      List.append_right_inj, encodings]
  unfold BindsFields KeptApart
  rw [ne_eq, preimages]
  push Not
  rfl

/-! ## Addresses of other lengths -/

/-- `approveBuilderFee` on mainnet, as it is signed. -/
def approveFeeAction (builder : String) : Json :=
  stampedAction [("type", .text "approveBuilderFee"), ("maxFeeRate", .text "0.001%"),
    ("builder", .text builder)] "nonce" 1700000000000 .mainnet

def approveFeeType : String := "HyperliquidTransaction:ApproveBuilderFee"

def approveFeeFields : List EIP712Field :=
  [⟨"hyperliquidChain", "string"⟩, ⟨"maxFeeRate", "string"⟩, ⟨"builder", "address"⟩,
    ⟨"nonce", "uint64"⟩]

/-- The hashes that the struct of an approved fee needs, and its own hash for a builder. -/
def approveFeePrimitives (structs : List (Bytes × Digest)) : Primitives :=
  let typeHash := Digest.ofNat 0x461684eab6dcdfdd79c6250648d41a1abe3c826ceab6c513fc4f30156f233ad3
  let chainHash := Digest.ofNat 0x8d646f556e5d9d6f1edcf7a39b77f5ac253776eb34efcfd688aacbee518efc26
  let feeHash := Digest.ofNat 0x0faf31ff897595cc8ec048e9668f2ae0af2037b0fa58324f2a4d2c6ff12aeb4d
  let struct (builder : Bytes) :=
    typeHash.val ++ chainHash.val ++ feeHash.val ++ builder ++ encodeUint256 1700000000000
  let hashes := [(utf8 (typeString approveFeeType approveFeeFields), typeHash),
    (utf8 "Mainnet", chainHash), (utf8 "0.001%", feeHash)] ++
    structs.map fun hashed => (struct hashed.1, hashed.2)
  Recording.primitives { createSubAccountRecording with hashes := hashes }

def firstBuilder : String := "0x8c967e73e7b15087c42a10d344cff4c96d877f1d"

def secondBuilder : String := "0x1111111111111111111111111111111111111111"

/-- The struct hashes of the two builders. -/
def twoBuilders : Primitives :=
  approveFeePrimitives
    [(List.replicate 12 0 ++ [0x8c, 0x96, 0x7e, 0x73, 0xe7, 0xb1, 0x50, 0x87, 0xc4, 0x2a, 0x10,
      0xd3, 0x44, 0xcf, 0xf4, 0xc9, 0x6d, 0x87, 0x7f, 0x1d],
      .ofNat 0x5b4b429234f28b4bd7d97c4a6c51f3e6dca1d171ef3add41a3f949d0427c5f3b),
    (List.replicate 12 0 ++ List.replicate 20 0x11,
      .ofNat 0xf6c16062da94267a0c4eb08998d208ad2f467337a66fc643335e22878c8f63a1)]

theorem bindsFields_iff_twoBuilders :
    BindsFields twoBuilders approveFeeType approveFeeFields (approveFeeAction firstBuilder)
      (approveFeeAction secondBuilder) :=
  (bindsFields_iff twoBuilders .approveBuilderFee approveFeeType approveFeeFields
    (approveFeeAction firstBuilder) (approveFeeAction secondBuilder)
    (.ofNat 0x5b4b429234f28b4bd7d97c4a6c51f3e6dca1d171ef3add41a3f949d0427c5f3b)
    (.ofNat 0xf6c16062da94267a0c4eb08998d208ad2f467337a66fc643335e22878c8f63a1)
    rfl (by decide +kernel) (by decide +kernel) (by unfold NoCollision; decide +kernel)).mpr
    fun _ => ⟨⟨"builder", "address"⟩, by decide, by decide +kernel⟩

/-- The struct hash of the zero address. -/
def zeroBuilder : Primitives :=
  approveFeePrimitives [(List.replicate 32 0,
    .ofNat 0xb1fff1d1c9a67a800619b56cda99b68f5b84f36877ada0c2013fd4deca362b36)]

/-- Two builders with a byte missing are approved by one and the same signature. -/
theorem shortBuilders_notBound :
    userSignedStructHash zeroBuilder approveFeeType approveFeeFields
        (approveFeeAction "0x8c967e73e7b15087c42a10d344cff4c96d877f") =
        .ok (.ofNat 0xb1fff1d1c9a67a800619b56cda99b68f5b84f36877ada0c2013fd4deca362b36) ∧
      userSignedStructHash zeroBuilder approveFeeType approveFeeFields
        (approveFeeAction "0x11111111111111111111111111111111111111") =
        .ok (.ofNat 0xb1fff1d1c9a67a800619b56cda99b68f5b84f36877ada0c2013fd4deca362b36) ∧
      NoCollision zeroBuilder approveFeeFields
        (approveFeeAction "0x8c967e73e7b15087c42a10d344cff4c96d877f")
        (approveFeeAction "0x11111111111111111111111111111111111111") ∧
      ¬ BindsFields zeroBuilder approveFeeType approveFeeFields
        (approveFeeAction "0x8c967e73e7b15087c42a10d344cff4c96d877f")
        (approveFeeAction "0x11111111111111111111111111111111111111") := by
  refine ⟨by decide +kernel, by decide +kernel, by unfold NoCollision; decide +kernel, ?_⟩
  intro binds
  have differ : Differ approveFeeFields
      (approveFeeAction "0x8c967e73e7b15087c42a10d344cff4c96d877f")
      (approveFeeAction "0x11111111111111111111111111111111111111") :=
    ⟨⟨"builder", "address"⟩, by decide, by decide +kernel⟩
  exact binds differ (by decide +kernel)

end HyperliquidSdk.Signing
