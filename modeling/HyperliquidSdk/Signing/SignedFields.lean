import HyperliquidSdk.Signing.FieldBinding
import HyperliquidSdk.Signing.HexCodec

/-!
# The fields of user-signed actions

The builders and the field tables name the same fields with the same kinds. An action
is compared with its table through its shape, the keys with the kinds of their values.
-/

set_option autoImplicit false

namespace HyperliquidSdk.Signing

open Foundation Messages

/-! ## Shapes -/

inductive Kind where
  | null
  | boolean
  | integer
  | unsigned
  | float
  | string
  | array
  | object
  deriving DecidableEq

def kind : Json → Kind
  | .null => .null
  | .boolean _ => .boolean
  | .integer _ => .integer
  | .unsigned _ => .unsigned
  | .float _ => .float
  | .string _ => .string
  | .array _ => .array
  | .object _ => .object

/-- The kind of value that the encoding of a field type reads. -/
def fieldKind (type : String) : Option Kind :=
  if type = "string" ∨ type = "address" ∨ type = "bytes" then some .string
  else if type = "uint64" ∨ type = "uint32" then some .unsigned
  else if type = "bool" then some .boolean
  else none

def shape (members : List (String × Json)) : List (String × Kind) :=
  members.map fun (key, value) => (key, kind value)

def assignKind (key : String) (value : Kind) : List (String × Kind) → List (String × Kind)
  | [] => [(key, value)]
  | (name, old) :: rest =>
      if name = key then (name, value) :: rest else (name, old) :: assignKind key value rest

theorem shape_assign (key : String) (value : Json) (members : List (String × Json)) :
    shape (Json.assign key value members) = assignKind key (kind value) (shape members) := by
  induction members with
  | nil => rfl
  | cons member rest ih =>
      obtain ⟨name, old⟩ := member
      simp only [Json.assign, shape, List.map_cons, assignKind] at ih ⊢
      split
      · rfl
      · rw [List.map_cons, ih]

theorem lookup_shape (key : String) (members : List (String × Json)) :
    (shape members).lookup key = (members.lookup key).map kind := by
  induction members with
  | nil => rfl
  | cons member rest ih =>
      obtain ⟨name, value⟩ := member
      by_cases same : key = name
      · simp [shape, same]
      · have different : (key == name) = false := beq_eq_false_iff_ne.mpr same
        simp only [shape, List.map_cons, List.lookup_cons, different] at ih ⊢
        exact ih

/-- The shape of an action after the additions of `prepareUserSignedActionBody`. -/
def stampedShape (timeField : String) (built : List (String × Kind)) : List (String × Kind) :=
  assignKind "hyperliquidChain" .string
    (assignKind "signatureChainId" .string (assignKind timeField .unsigned built))

/-- The fields are keys of the shape with the kinds of their types, and the other keys are
the two that are not signed. -/
def SignsShape (fields : List EIP712Field) (stamped : List (String × Kind)) : Prop :=
  (∀ field ∈ fields, (stamped.lookup field.name).isSome ∧
    stamped.lookup field.name = fieldKind field.type) ∧
  ∀ key ∈ stamped.map Prod.fst, key = "type" ∨ key = "signatureChainId" ∨
    key ∈ fields.map EIP712Field.name

instance (fields : List EIP712Field) (stamped : List (String × Kind)) :
    Decidable (SignsShape fields stamped) :=
  inferInstanceAs (Decidable (_ ∧ _))

/-- The shape that a user-signed builder gives to its action, without the type. -/
def builtShape : RestEndpointType → List (String × Kind)
  | .usdClassTransfer => [("amount", .string), ("toPerp", .boolean)]
  | .sendAsset => [("destination", .string), ("sourceDex", .string), ("destinationDex", .string),
      ("token", .string), ("amount", .string), ("fromSubAccount", .string)]
  | .usdSend | .withdraw3 => [("destination", .string), ("amount", .string)]
  | .spotSend => [("destination", .string), ("token", .string), ("amount", .string)]
  | .approveBuilderFee => [("maxFeeRate", .string), ("builder", .string)]
  | .userSetAbstraction => [("user", .string), ("abstraction", .string)]
  | .cDeposit | .cWithdraw => [("wei", .unsigned)]
  | .tokenDelegate => [("validator", .string), ("isUndelegate", .boolean), ("wei", .unsigned)]
  | .sendToEvmWithData => [("token", .string), ("amount", .string), ("sourceDex", .string),
      ("destinationRecipient", .string), ("addressEncoding", .string),
      ("destinationChainId", .unsigned), ("gasLimit", .unsigned), ("data", .string)]
  | .userDexAbstraction | .userPortfolioMargin => [("user", .string), ("enabled", .boolean)]
  | _ => []

/-- Every user-signed type has a table that matches what its builder makes. -/
theorem userSignedType_signsShape {type : RestEndpointType}
    (userSigned : type.isUserSignedAction = true) :
    ∃ signed, userSignedType type = some signed ∧
      SignsShape signed.payloadTypes
        (stampedShape signed.timeField (("type", .string) :: builtShape type)) := by
  cases type with
  | usdSend | withdraw3 | spotSend | usdClassTransfer | sendAsset | approveBuilderFee
  | userSetAbstraction | cDeposit | cWithdraw | tokenDelegate | sendToEvmWithData
  | userDexAbstraction | userPortfolioMargin => exact ⟨_, rfl, by decide⟩
  | _ => cases userSigned

/-- The builder of a user-signed action makes the shape of its type. -/
theorem build_shape {request : ExchangeRequest} {symbolMap : SymbolMap} {built : Json}
    (userSigned : request.endpoint.isUserSignedAction = true)
    (build : request.build symbolMap = .ok built) :
    ∃ action, built = body action ∧
      shape action = ("type", .string) :: builtShape request.endpoint := by
  cases request with
  | usdClassTransfer request | sendAsset request | usdSend request | spotSend request
  | withdraw3 request =>
      obtain ⟨amount, -, build⟩ := bind_eq_ok build
      obtain rfl := Except.ok.inj build
      exact ⟨_, rfl, rfl⟩
  | approveBuilderFee request | userSetAbstraction request | cDeposit wei | cWithdraw wei
  | tokenDelegate request | sendToEvmWithData request | userDexAbstraction request
  | userPortfolioMargin request =>
      obtain rfl := Except.ok.inj build
      exact ⟨_, rfl, rfl⟩
  | _ => cases userSigned

/-! ## Looking the fields up -/

/-- A value of the kind that a field type reads. -/
def HoldsField (action : Json) (field : EIP712Field) : Prop :=
  ∃ value, action.member? field.name = some value ∧ some (kind value) = fieldKind field.type

theorem holdsField_of_shape {members : List (String × Json)} {field : EIP712Field}
    (present : ((shape members).lookup field.name).isSome)
    (sameKind : (shape members).lookup field.name = fieldKind field.type) :
    HoldsField (.object members) field := by
  rw [lookup_shape] at present sameKind
  cases found : members.lookup field.name with
  | none => simp [found] at present
  | some value =>
      rw [found, Option.map_some] at sameKind
      exact ⟨value, found, sameKind⟩

theorem kind_eq_string {value : Json} (same : kind value = .string) :
    ∃ text, value = .string text := by
  cases value with
  | string text => exact ⟨text, rfl⟩
  | null | boolean _ | integer _ | unsigned _ | float _ | array _ | object _ => cases same

theorem kind_eq_unsigned {value : Json} (same : kind value = .unsigned) :
    ∃ number, value = .unsigned number := by
  cases value with
  | unsigned number => exact ⟨number, rfl⟩
  | null | boolean _ | integer _ | string _ | float _ | array _ | object _ => cases same

theorem kind_eq_boolean {value : Json} (same : kind value = .boolean) :
    ∃ truth, value = .boolean truth := by
  cases value with
  | boolean truth => exact ⟨truth, rfl⟩
  | null | unsigned _ | integer _ | string _ | float _ | array _ | object _ => cases same

theorem indexConst_of_member? {action value : Json} {key : String}
    (found : action.member? key = some value) : action.indexConst key = .ok value := by
  cases action with
  | object members =>
      rw [Json.member?_object] at found
      rw [Json.indexConst, found]
  | null | boolean _ | integer _ | unsigned _ | float _ | string _ | array _ => cases found

/-- Reading a held field can only fail on the digits of an address or of bytes. -/
theorem encodeField_throws {primitives : Primitives} {action : Json} {field : EIP712Field}
    {exception : Exception} (holds : HoldsField action field)
    (thrown : encodeField primitives action field = .error exception) :
    ∃ what, exception = .invalidArgument what := by
  obtain ⟨value, found, sameKind⟩ := holds
  obtain ⟨name, type⟩ := field
  have indexed := indexConst_of_member? found
  unfold encodeField at thrown
  unfold fieldKind at sameKind
  simp only [indexed, ok_bind] at thrown
  split_ifs at sameKind with text number truth
  · obtain ⟨hex, rfl⟩ := kind_eq_string (Option.some.inj sameKind)
    rcases text with rfl | rfl | rfl
    · cases thrown
    · rcases bind_eq_error thrown with failed | ⟨text, -, thrown⟩
      · cases failed
      rcases bind_eq_error thrown with failed | ⟨bytes, -, thrown⟩
      · exact hexToBytes_throws failed
      · cases thrown
    · rcases bind_eq_error thrown with failed | ⟨text, -, thrown⟩
      · cases failed
      rcases bind_eq_error thrown with failed | ⟨bytes, -, thrown⟩
      · exact hexToBytes_throws failed
      · cases thrown
  · obtain ⟨read, rfl⟩ := kind_eq_unsigned (Option.some.inj sameKind)
    rcases number with rfl | rfl <;> cases thrown
  · obtain ⟨read, rfl⟩ := kind_eq_boolean (Option.some.inj sameKind)
    obtain rfl := truth
    cases thrown

theorem encodeFields_throws {primitives : Primitives} {action : Json} {fields : List EIP712Field}
    {exception : Exception} (holds : ∀ field ∈ fields, HoldsField action field)
    (thrown : encodeFields primitives action fields = .error exception) :
    ∃ what, exception = .invalidArgument what := by
  induction fields with
  | nil => cases thrown
  | cons field rest ih =>
      rcases bind_eq_error thrown with failed | ⟨encoded, -, thrown⟩
      · exact encodeField_throws (holds field (List.mem_cons_self ..)) failed
      rcases bind_eq_error thrown with failed | ⟨others, -, thrown⟩
      · exact ih (fun other member => holds other (List.mem_cons_of_mem _ member)) failed
      · cases thrown

/-- The members that a user-signed action is sent with. -/
def stampedMembers (action : List (String × Json)) (timeField : String) (nonce : UInt64)
    (env : Environment) : List (String × Json) :=
  Json.assign "hyperliquidChain" (.text (chainName env))
    (Json.assign "signatureChainId" (.text "0x66eee")
      (Json.assign timeField (.unsigned nonce) action))

theorem shape_stampedMembers (action : List (String × Json)) (timeField : String) (nonce : UInt64)
    (env : Environment) :
    shape (stampedMembers action timeField nonce env) = stampedShape timeField (shape action) := by
  simp only [stampedMembers, shape_assign]
  rfl

theorem key_mem_shape {members : List (String × Json)} {key : String} {value : Json}
    (found : members.lookup key = some value) : key ∈ (shape members).map Prod.fst := by
  have present : ((shape members).lookup key).isSome = true := by
    rw [lookup_shape, found]
    rfl
  obtain ⟨member, inside, same⟩ := List.lookup_isSome_iff.mp present
  exact List.mem_map.mpr ⟨member, inside, (beq_iff_eq.mp same).symm⟩

/-- Signing finds every field that it signs, and it signs every key besides the two. -/
theorem userSigned_fields_match (request : ExchangeRequest) (symbolMap : SymbolMap)
    (built action : Json) (nonce : UInt64) (env : Environment)
    (userSigned : request.endpoint.isUserSignedAction = true)
    (build : request.build symbolMap = .ok built) (taken : built.atKey "action" = .ok action) :
    ∃ signed stamped, userSignedType request.endpoint = some signed ∧
      stampAction action signed.timeField nonce env = .ok stamped ∧
      (∀ field ∈ signed.payloadTypes, HoldsField stamped field) ∧
      (∀ key value, stamped.member? key = some value → key = "type" ∨ key = "signatureChainId" ∨
        key ∈ signed.payloadTypes.map EIP712Field.name) ∧
      ∀ primitives exception,
        userSignedStructHash primitives signed.primaryType signed.payloadTypes stamped =
          .error exception → ∃ what, exception = .invalidArgument what := by
  obtain ⟨members, rfl, builtShape⟩ := build_shape userSigned build
  obtain rfl : Json.object members = action := Except.ok.inj taken
  obtain ⟨signed, selected, fields, keys⟩ := userSignedType_signsShape userSigned
  rw [← builtShape] at fields keys
  refine ⟨signed, stampedAction members signed.timeField nonce env, selected, rfl, ?_, ?_, ?_⟩
  · intro field member
    obtain ⟨present, sameKind⟩ := fields field member
    rw [← shape_stampedMembers members signed.timeField nonce env] at present sameKind
    exact holdsField_of_shape present sameKind
  · intro key value found
    apply keys key
    rw [← shape_stampedMembers members signed.timeField nonce env]
    exact key_mem_shape found
  · intro primitives exception thrown
    rcases bind_eq_error thrown with failed | ⟨encoded, -, thrown⟩
    · apply encodeFields_throws _ failed
      intro field member
      obtain ⟨present, sameKind⟩ := fields field member
      rw [← shape_stampedMembers members signed.timeField nonce env] at present sameKind
      exact holdsField_of_shape present sameKind
    · cases thrown

def testDelegation : TokenDelegateRequest where
  validator := utf8 "0x1111111111111111111111111111111111111111"
  wei := 100000000
  isUndelegate := false

theorem userSigned_fields_match_tokenDelegate :
    ∃ signed stamped, userSignedType .tokenDelegate = some signed ∧
      stampAction (.object [("type", .text "tokenDelegate"),
        ("validator", .string testDelegation.validator), ("isUndelegate", .boolean false),
        ("wei", .unsigned 100000000)]) signed.timeField 1700000000000 .mainnet = .ok stamped ∧
      ∀ field ∈ signed.payloadTypes, HoldsField stamped field := by
  obtain ⟨signed, stamped, selected, stamping, holds, -⟩ :=
    userSigned_fields_match (.tokenDelegate testDelegation) [] _ _ 1700000000000 .mainnet rfl rfl rfl
  exact ⟨signed, stamped, selected, stamping, holds⟩

end HyperliquidSdk.Signing
