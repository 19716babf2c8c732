import HyperliquidSdk.Foundation.MachineIntegers
import HyperliquidSdk.Websocket.RestAgreement
import HyperliquidSdk.Websocket.StreamingEntries

/-!
# Slice fills of TWAP orders

The fills of a TWAP order as they come in a response and as they come in a message.
-/

set_option autoImplicit false

namespace HyperliquidSdk.Websocket

open Foundation Foundation.OnDemand Foundation.OnDemand.Reader

variable {ρ : Type}

/-! ## Fills -/

def fillNumbers : List String := ["px", "sz", "startPosition", "closedPnl", "fee", "builderFee"]

/-- The numeric strings of a fill are decimal numbers. -/
structure PlainFill (object : Object) : Prop where
  numbers : NumericText fillNumbers object
  liquidation : ∀ {member inner}, MemberOf object "liquidation" member →
    member.getObject = .ok inner → NumericText ["markPx"] inner

theorem builderFee_agrees {start object other : Object} {Places : Object → Object → Prop}
    (reading : Reading fillNumbers start Places) (places : Places object other) (response : ρ)
    {Finished : Option Double → Object → ρ → Option Double → Object → Prop}
    (finished : ∀ {value rest otherRest}, Places rest otherRest →
      Finished value rest response value otherRest) :
    Agree Rest.parseBuilderFee object response parseBuilderFee other Finished := by
  refine .bind (reading.optional places fun {asNumber _ _} _ next => ?_)
  cases asNumber with
  | some builderFee => exact .pure (finished next)
  | none =>
      refine .bind (reading.optional next fun {asText _ _} isText next => ?_)
      cases asText with
      | none => exact .pure (finished next)
      | some sv =>
          obtain ⟨member, isMember, isText⟩ := isText sv rfl
          have aligned : (some sv).mapM Rest.toDouble =
              (Rest.toDouble sv >>= fun double => pure (some double) : Rest.Decoder ρ _) := rfl
          rw [aligned]
          refine .ended (.bind ?_)
          exact reading.text (by decide) isMember isText (.pure (finished next))

theorem liquidation_agrees {inner : Object} (plain : NumericText ["markPx"] inner) (response : ρ)
    {Finished : Bytes × Double × LiquidationMethod → Object → ρ →
      Bytes × Double × LiquidationMethod → Object → Prop}
    (finished : ∀ {value rest otherRest}, Finished value rest response value otherRest) :
    Agree Rest.parseLiquidation inner response parseLiquidatedFill inner Finished := by
  have reading : Reading ["markPx"] inner (Object.SamePlace inner) :=
    ⟨Object.samePlace_alike inner, plain⟩
  refine .bind (reading.same ⟨rfl, .refl _⟩ fun _ _ next => ?_)
  refine .bind (reading.double next (by decide) fun next => ?_)
  exact .bind (reading.same next fun _ _ _ => .pure finished)

/-- Both parsers make the same of a fill, apart from whether it is one of a snapshot. -/
theorem fill_agrees {object : Object} (plain : PlainFill object) (isSnapshot : Bool) (response : ρ) :
    Agree Rest.parseFillEntry object response (parseFillObject isSnapshot) object
      fun fill _ after other _ => other = { fill with isSnapshot } ∧ after = response := by
  have reading : Reading fillNumbers object (Object.SamePlace object) :=
    ⟨Object.samePlace_alike object, plain.numbers⟩
  refine .bind (reading.same ⟨rfl, .refl _⟩ fun {_ coin _ _} _ _ next => ?_)
  refine .bind (reading.double next (by decide) fun {px _ _} next => ?_)
  refine .bind (reading.double next (by decide) fun {sz _ _} next => ?_)
  refine .bind (reading.side next fun {side _ _} next => ?_)
  refine .bind (reading.same next fun {_ time _ _} _ _ next => ?_)
  refine .bind (reading.double next (by decide) fun {startPosition _ _} next => ?_)
  refine .bind (reading.same next fun {_ dir _ _} _ _ next => ?_)
  refine .bind (reading.double next (by decide) fun {closedPnl _ _} next => ?_)
  refine .bind (reading.same next fun {_ hash _ _} _ _ next => ?_)
  refine .bind (reading.same next fun {_ oid _ _} _ _ next => ?_)
  refine .bind (reading.same next fun {_ crossed _ _} _ _ next => ?_)
  refine .bind (reading.double next (by decide) fun {fee _ _} next => ?_)
  refine .bind (reading.same next fun {_ tid _ _} _ _ next => ?_)
  refine .bind (reading.same next fun {_ feeToken _ _} _ _ next => ?_)
  refine .bind (builderFee_agrees reading next response fun {builderFee _ _} next => ?_)
  refine .bind (reading.optional next fun {liquidation _ _} isObject next => ?_)
  refine .bind (.optionally liquidation (fun _ => ?_) fun inner isPresent => ?_)
  · exact .pure (by simp only [and_self])
  · obtain ⟨member, isMember, isInner⟩ := isObject inner isPresent
    exact .within (liquidation_agrees (plain.liquidation isMember isInner) response
      (.pure (by simp only [and_self])))

/-! ## Slice fills -/

/-- A slice fill with an id that is at most the largest signed one. -/
structure SliceFillOnWire (id : Nat) (object : Object) : Prop where
  twapId : object.Holds (utf8 "twapId") fun member => ∃ token, member = .number token ∧
    IsInteger id token
  bounded : id < 2 ^ 63
  fill : ∀ {member inner}, MemberOf object "fill" member → member.getObject = .ok inner →
    PlainFill inner

/-- What the parser of responses makes of the id. -/
def narrowed (id : Nat) : UInt64 := (Int64.ofInt id).toInt32.toInt64.toUInt64

theorem sliceFill_agrees {id : Nat} {object : Object} (wire : SliceFillOnWire id object)
    (isSnapshot : Bool) (response : ρ) :
    Agree Rest.parseTwapSliceFill object response (parseTwapSliceFill isSnapshot) object
      fun sliceFill _ _ other _ => other.fill = { sliceFill.fill with isSnapshot } ∧
        sliceFill.twapId = narrowed id ∧ other.twapId = .ofNat id := by
  have reading : Reading [] object (Object.SamePlace object) :=
    ⟨Object.samePlace_alike object, fun _ _ _ impossible => absurd impossible List.not_mem_nil⟩
  refine .bind (reading.same ⟨rfl, .refl _⟩ fun isFill isObject next => ?_)
  refine .bind (.within ((fill_agrees (wire.fill isFill isObject) isSnapshot response).mono ?_))
  rintro fill _ _ _ _ ⟨rfl, rfl⟩
  refine .bind (reading.fieldOf next fun isId narrow wide _ => .pure ?_)
  obtain ⟨key, present, named⟩ := isId
  obtain ⟨token, rfl, isInteger⟩ := wire.twapId.kind _ present named
  have bounded := wire.bounded
  have signed : Rest.getInt (.number token) = .ok (Int64.ofInt id).toInt32 := by
    rw [Rest.getInt, Value.getInt64, isInteger.parseInt64_token bounded]
    rfl
  rw [signed] at narrow
  rw [Value.getUInt64, isInteger.parseUInt64_token (by omega)] at wide
  cases narrow
  cases wide
  exact ⟨rfl, rfl, rfl⟩

/-! ## Lists of them -/

theorem parseBuilderFee_onlyReads :
    Rest.OnlyReads (Rest.parseBuilderFee : Rest.Decoder ρ (Option Double)) := by
  refine .bind (.optionalField _ "builderFee") fun asNumber => ?_
  cases asNumber with
  | some builderFee => exact .pure _
  | none => exact .bind (.optionalField _ "builderFee") fun _ => .optional .toDouble _

theorem parseLiquidation_onlyReads : Rest.OnlyReads
    (Rest.parseLiquidation : Rest.Decoder ρ (Bytes × Double × LiquidationMethod)) :=
  .bind (.fieldOf _ "liquidatedUser") fun _ => .bind (.doubleField "markPx") fun _ =>
    .bind (.fieldOf _ "method") fun _ => .pure _

theorem parseFillEntry_onlyReads : Rest.OnlyReads (Rest.parseFillEntry : Rest.Decoder ρ Fill) := by
  refine .bind (.fieldOf _ "coin") fun _ => .bind (.doubleField "px") fun _ =>
    .bind (.doubleField "sz") fun _ => ?_
  refine .bind (.bind (.fieldOf _ "side") fun _ => .pure _) fun _ => ?_
  refine .bind (.fieldOf _ "time") fun _ =>
    .bind (.doubleField "startPosition") fun _ => .bind (.fieldOf _ "dir") fun _ =>
    .bind (.doubleField "closedPnl") fun _ => .bind (.fieldOf _ "hash") fun _ => ?_
  refine .bind (.fieldOf _ "oid") fun _ => .bind (.fieldOf _ "crossed") fun _ =>
    .bind (.doubleField "fee") fun _ => .bind (.fieldOf _ "tid") fun _ =>
    .bind (.fieldOf _ "feeToken") fun _ => ?_
  exact .bind parseBuilderFee_onlyReads fun _ => .bind (.optionalField _ "liquidation") fun _ =>
    .bind (.optional (fun object => .within object parseLiquidation_onlyReads) _) fun _ => .pure _

def sliceFillOf (entry : Value) : Rest.Decoder ρ TwapSliceFill := do
  Rest.within (← entry.getObject) Rest.parseTwapSliceFill

theorem sliceFillOf_standalone (entry : Value) :
    Rest.Standalone (sliceFillOf entry : Rest.Decoder ρ TwapSliceFill) := by
  refine .object entry ?_
  exact .bind (.fieldOf _ "fill") fun object => .bind (.within object parseFillEntry_onlyReads)
    fun _ => .bind (.fieldOf _ "twapId") fun _ => .pure _

/-- The fills of a response are decodings of the first entries of its array. -/
theorem parseUserTwapSliceFills_positional {document : Bytes → Except Error Value}
    {message : Bytes} {doc : Value} {entries : List Value} (parsed : document message = .ok doc)
    (isArray : doc.getArray = .ok entries) {response : UserTwapSliceFillsResponse}
    (returned : (Rest.parseUserTwapSliceFills document message).run Rest.convert = .ok response) :
    DecodesPrefix (fun entry sliceFill => Rest.Performs
      (sliceFillOf entry : Rest.Decoder UserTwapSliceFillsResponse TwapSliceFill) (.ok sliceFill))
      entries response.fills := by
  refine Rest.Ensures.of_parseDocument (fun response => DecodesPrefix _ entries response.fills)
    (decodesPrefix_nil entries) (fun value parsedValue => ?_) returned
  obtain rfl := Except.ok.inj (parsed.symm.trans parsedValue)
  refine .bind (.read (decodesPrefix_nil entries) fun elements areElements => ?_)
  obtain rfl := Except.ok.inj (isArray.symm.trans areElements)
  exact Rest.Ensures.forM_prefix (fun _ => (bind_assoc _ _ _).symm) sliceFillOf_standalone
    UserTwapSliceFillsResponse.fills (fun _ _ => rfl) entries [] rfl

/-- Where no element is dropped, each stands at its position. -/
theorem getElem?_filterMap_of_length {α β : Type} {change : α → Option β} {elements : List α}
    (all : (elements.filterMap change).length = elements.length) (position : Nat) :
    (elements.filterMap change)[position]? = elements[position]?.bind change := by
  induction elements generalizing position with
  | nil => rfl
  | cons element elements ih =>
      have most := List.length_filterMap_le change elements
      cases changed : change element with
      | none =>
          rw [List.filterMap_cons_none changed, List.length_cons] at all
          omega
      | some result =>
          rw [List.filterMap_cons_some changed, List.length_cons, List.length_cons] at all
          rw [List.filterMap_cons_some changed]
          cases position with
          | zero => exact changed.symm
          | succ position => exact ih (by omega) position

/-- Without an exception of the handler, the callbacks are those of the entries. -/
theorem crackUserTwapSliceFills_callbacks {listener : MessageHandler} {data : Object}
    {isSnapshot : Bool} {entries : List Value} {callbacks : List Callback}
    (envelope : flagAndEntries snapshotField "twapSliceFills" data = .ok (isSnapshot, entries))
    (cracked : (crackUserTwapSliceFills listener data).run [] = (.ok (), callbacks)) :
    callbacks = entries.filterMap fun entry =>
      (decoded (parseTwapSliceFill isSnapshot) entry).map .onUserTwapSliceFill := by
  have delivers : Delivers listener (crackUserTwapSliceFills listener data) _ :=
    crackFlagged_delivers envelope .onUserTwapSliceFill parseTwapSliceFill
  have ended := delivers []
  rw [cracked] at ended
  exact ended

theorem decoded_eq_some {α : Type} {decode : Reader Unit α} {entry : Value} {object : Object}
    (isObject : entry.getObject = .ok object) {value : α}
    (isDecoded : decoded decode entry = some value) :
    ∃ rest, readFrom decode object () = (.ok (value, rest), ()) := by
  unfold decoded at isDecoded
  rw [isObject, Except.bind] at isDecoded
  obtain ⟨rest, after, ran⟩ := read_eq_ok (toOption_eq_some_iff.mp isDecoded)
  exact ⟨rest, ran⟩

theorem decode_of_performs {entry : Value} {object : Object} (isObject : entry.getObject = .ok object)
    {sliceFill : TwapSliceFill}
    (performs : Rest.Performs (sliceFillOf entry : Rest.Decoder ρ TwapSliceFill) (.ok sliceFill))
    (response : ρ) :
    ∃ rest after, Rest.decode Rest.parseTwapSliceFill object response =
      .ok (.ok (sliceFill, rest), after) := by
  have ran := performs [] response
  rw [sliceFillOf, isObject] at ran
  obtain ⟨_, _, _, extracted, inside⟩ := Rest.decode_bind_eq_ok ran
  cases extracted
  obtain ⟨-, rest, inner⟩ := Rest.decode_within_eq_ok inside
  exact ⟨rest, _, inner⟩

/-- A response in which the parser puts the slice fill in the place of the entry. -/
def AcceptedByRest (entry : Value) (sliceFill : TwapSliceFill) : Prop :=
  ∃ (document : Bytes → Except Error Value) (message : Bytes) (doc : Value) (entries : List Value)
    (response : UserTwapSliceFillsResponse) (position : Nat),
    document message = .ok doc ∧ doc.getArray = .ok entries ∧
    (Rest.parseUserTwapSliceFills document message).run Rest.convert = .ok response ∧
    entries[position]? = some entry ∧ response.fills[position]? = some sliceFill

theorem AcceptedByRest.decode {entry : Value} {object : Object} {sliceFill : TwapSliceFill}
    (accepted : AcceptedByRest entry sliceFill) (isObject : entry.getObject = .ok object) :
    ∃ rest after, Rest.decode Rest.parseTwapSliceFill object ({} : UserTwapSliceFillsResponse) =
      .ok (.ok (sliceFill, rest), after) := by
  obtain ⟨document, message, doc, entries, response, position, parsed, isArray, returned, isEntry,
    isFill⟩ := accepted
  obtain ⟨other, isOther, performs⟩ :=
    (parseUserTwapSliceFills_positional parsed isArray returned).get isFill
  obtain rfl := Option.some.inj (isEntry.symm.trans isOther)
  exact decode_of_performs isObject performs {}

/-- A message all of whose entries are delivered, with the slice fill in the place of the entry. -/
def AcceptedByWebsocket (entry : Value) (sliceFill : TwapSliceFill) : Prop :=
  ∃ (listener : MessageHandler) (data : Object) (isSnapshot : Bool) (entries : List Value)
    (callbacks : List Callback) (position : Nat),
    flagAndEntries snapshotField "twapSliceFills" data = .ok (isSnapshot, entries) ∧
    (crackUserTwapSliceFills listener data).run [] = (.ok (), callbacks) ∧
    callbacks.length = entries.length ∧
    entries[position]? = some entry ∧
    callbacks[position]? = some (.onUserTwapSliceFill sliceFill)

theorem AcceptedByWebsocket.read {entry : Value} {object : Object} {sliceFill : TwapSliceFill}
    (accepted : AcceptedByWebsocket entry sliceFill) (isObject : entry.getObject = .ok object) :
    ∃ isSnapshot rest,
      readFrom (parseTwapSliceFill isSnapshot) object () = (.ok (sliceFill, rest), ()) := by
  obtain ⟨listener, data, isSnapshot, entries, callbacks, position, envelope, cracked, all,
    isEntry, isDelivered⟩ := accepted
  obtain rfl := crackUserTwapSliceFills_callbacks envelope cracked
  rw [getElem?_filterMap_of_length all, isEntry] at isDelivered
  obtain ⟨other, isDecoded, same⟩ := Option.map_eq_some_iff.mp isDelivered
  obtain rfl := Callback.onUserTwapSliceFill.inj same
  exact ⟨isSnapshot, decoded_eq_some isObject isDecoded⟩

/-- Both have the fill, up to whether it is one of a snapshot, and the id of the wire. -/
structure SameSliceFill (id : Nat) (fromRest fromWebsocket : TwapSliceFill) : Prop where
  fill : { fromWebsocket.fill with isSnapshot := fromRest.fill.isSnapshot } = fromRest.fill
  twapId : fromWebsocket.twapId = fromRest.twapId
  onWire : fromRest.twapId.toNat = id

/-- Only the id can differ: the parser of responses takes it through an `int`. -/
theorem sliceFills_agree_iff {id : Nat} {entry : Value} {object : Object}
    (isObject : entry.getObject = .ok object) (wire : SliceFillOnWire id object)
    {fromRest fromWebsocket : TwapSliceFill} (byRest : AcceptedByRest entry fromRest)
    (byWebsocket : AcceptedByWebsocket entry fromWebsocket) :
    SameSliceFill id fromRest fromWebsocket ↔ id < 2 ^ 31 := by
  obtain ⟨rest, after, decoded⟩ := byRest.decode isObject
  obtain ⟨isSnapshot, otherRest, ran⟩ := byWebsocket.read isObject
  obtain ⟨sameFill, narrow, wide⟩ := (sliceFill_agrees wire isSnapshot _).finished decoded ran
  have onWire : fromWebsocket.twapId.toNat = id := by
    have bounded := wire.bounded
    rw [wide, UInt64.toNat_ofNat', Nat.mod_eq_of_lt (by omega)]
  rw [← toUInt64_toInt32_iff wire.bounded, ← narrowed, ← narrow]
  constructor
  · exact fun same => same.onWire
  · intro survives
    refine ⟨by rw [sameFill], ?_, survives⟩
    rw [← UInt64.toNat_inj, onWire, survives]

/-! ## An id beyond the range -/

/-- The fill of a purchase. -/
def purchase : Value :=
  .ofMembers [
    ("coin", .ofText "BTC"), ("px", .ofText "113377.5"), ("sz", .ofText "0.25"),
    ("side", .ofText "B"), ("time", .number (utf8 "1754450974231")),
    ("startPosition", .ofText "-1.5"), ("dir", .ofText "Open Long"), ("closedPnl", .ofText "0.0"),
    ("hash", .ofText "0x00"), ("oid", .number (utf8 "90542681")), ("crossed", .boolean true),
    ("fee", .ofText "0.01"), ("tid", .number (utf8 "293353986402527")),
    ("feeToken", .ofText "USDC")]

def sliceFillEntry (token : String) : Value :=
  .ofMembers [("fill", purchase), ("twapId", .number (utf8 token))]

def purchaseObject : Object := purchase.getObject.toOption.getD []

def sliceFillObject (token : String) : Object := (sliceFillEntry token).getObject.toOption.getD []

theorem sliceFillEntry_isObject (token : String) :
    (sliceFillEntry token).getObject = .ok (sliceFillObject token) := rfl

theorem purchaseObject_plain : PlainFill purchaseObject where
  numbers := numericText_of_isText (by decide +kernel)
  liquidation := by
    intro member inner isMember isObject
    obtain ⟨key, present, named⟩ := isMember
    have none : ∀ field ∈ purchaseObject, field.1.raw ≠ utf8 "liquidation" := by decide +kernel
    exact absurd named (none _ present)

theorem sliceFillObject_onWire {id : Nat} {token : String} (isInteger : IsInteger id (utf8 token))
    (bounded : id < 2 ^ 63) : SliceFillOnWire id (sliceFillObject token) where
  twapId := @Object.Holds.of_only _ _ _ ⟨utf8 "twapId", utf8 "twapId"⟩ _ rfl
    ⟨utf8 token, rfl, isInteger⟩
  bounded := bounded
  fill := by
    intro member inner isMember isObject
    obtain ⟨key, present, named⟩ := isMember
    have only : (sliceFillObject token).Holds (utf8 "fill") (· = purchase) :=
      @Object.Holds.of_only _ _ _ ⟨utf8 "fill", utf8 "fill"⟩ _ rfl rfl
    obtain rfl : member = purchase := only.kind _ present named
    obtain rfl : purchaseObject = inner := Except.ok.inj isObject
    exact purchaseObject_plain

/-- The ids in the response whose only entry this is. -/
def idsInResponse (entry : Value) : Option (List UInt64) :=
  ((Rest.parseUserTwapSliceFills (recorded [.ofItems [entry]])
    (Value.ofItems [entry]).toJsonString).run Rest.convert).toOption.map
      fun response => response.fills.map (·.twapId)

theorem exists_acceptedByRest {entry : Value} {twapId : UInt64}
    (ids : idsInResponse entry = some [twapId]) :
    ∃ sliceFill, AcceptedByRest entry sliceFill ∧ sliceFill.twapId = twapId := by
  unfold idsInResponse at ids
  cases returned : (Rest.parseUserTwapSliceFills (recorded [.ofItems [entry]])
      (Value.ofItems [entry]).toJsonString).run Rest.convert with
  | error exception =>
      rw [returned] at ids
      cases ids
  | ok response =>
      rw [returned] at ids
      obtain ⟨sliceFill, only, isId⟩ := List.map_eq_singleton_iff.mp (Option.some.inj ids)
      refine ⟨sliceFill, ?_, isId⟩
      exact ⟨_, _, _, [entry], response, 0, recorded_self _, rfl, returned, rfl, by rw [only]; rfl⟩

/-- The data of the message whose only entry this is. -/
def sliceFillData (entry : Value) : Object :=
  [(⟨utf8 "twapSliceFills", utf8 "twapSliceFills"⟩, .ofItems [entry])]

theorem exists_acceptedByWebsocket {entry : Value} {object : Object} {twapId : UInt64}
    (isObject : entry.getObject = .ok object)
    (isId : (read object () (parseTwapSliceFill false)).1.toOption.map (·.twapId) = some twapId) :
    ∃ sliceFill, AcceptedByWebsocket entry sliceFill ∧ sliceFill.twapId = twapId := by
  obtain ⟨sliceFill, isDecoded, isId⟩ := Option.map_eq_some_iff.mp isId
  have isEntry : decoded (parseTwapSliceFill false) entry = some sliceFill := by
    rw [decoded, isObject]
    exact isDecoded
  have envelope : flagAndEntries snapshotField "twapSliceFills" (sliceFillData entry) =
      .ok (false, [entry]) := rfl
  have delivers : Delivers silent (crackUserTwapSliceFills silent (sliceFillData entry)) _ :=
    crackFlagged_delivers envelope .onUserTwapSliceFill parseTwapSliceFill
  have ended := delivers []
  rw [List.filterMap_cons_some (by rw [isEntry]; rfl)] at ended
  cases ran : (crackUserTwapSliceFills silent (sliceFillData entry)).run [] with
  | mk result callbacks =>
      rw [ran] at ended
      cases result with
      | error thrown =>
          obtain ⟨⟨exception, earlier, callback, -, threw⟩, -⟩ := ended
          cases threw
      | ok done =>
          obtain rfl : callbacks = [.onUserTwapSliceFill sliceFill] := ended
          exact ⟨sliceFill, ⟨silent, _, false, [entry], _, 0, envelope, ran, rfl, rfl, rfl⟩, isId⟩

set_option maxRecDepth 4000 in
/-- The id `2 ^ 31` becomes `2 ^ 64 - 2 ^ 31` in a response. -/
theorem sliceFills_disagree :
    ∃ fromRest fromWebsocket,
      SliceFillOnWire (2 ^ 31) (sliceFillObject "2147483648") ∧
      AcceptedByRest (sliceFillEntry "2147483648") fromRest ∧
      AcceptedByWebsocket (sliceFillEntry "2147483648") fromWebsocket ∧
      ¬ SameSliceFill (2 ^ 31) fromRest fromWebsocket := by
  obtain ⟨fromRest, byRest, restId⟩ :=
    @exists_acceptedByRest (sliceFillEntry "2147483648") 18446744071562067968 (by decide +kernel)
  obtain ⟨fromWebsocket, byWebsocket, -⟩ :=
    @exists_acceptedByWebsocket (sliceFillEntry "2147483648") _ 2147483648
      (sliceFillEntry_isObject "2147483648") (by decide +kernel)
  have isInteger : IsInteger (2 ^ 31) (utf8 "2147483648") :=
    ⟨by decide +kernel, by decide, by decide +kernel⟩
  refine ⟨fromRest, fromWebsocket, sliceFillObject_onWire isInteger (by decide), byRest,
    byWebsocket, fun same => ?_⟩
  have onWire := same.onWire
  rw [restId] at onWire
  exact absurd onWire (by decide)

set_option maxRecDepth 4000 in
/-- The largest id that survives. -/
theorem sliceFills_agree_iff_largest :
    ∃ fromRest fromWebsocket, AcceptedByRest (sliceFillEntry "2147483647") fromRest ∧
      AcceptedByWebsocket (sliceFillEntry "2147483647") fromWebsocket ∧
      SameSliceFill 2147483647 fromRest fromWebsocket := by
  obtain ⟨fromRest, byRest, -⟩ :=
    @exists_acceptedByRest (sliceFillEntry "2147483647") 2147483647 (by decide +kernel)
  obtain ⟨fromWebsocket, byWebsocket, -⟩ :=
    @exists_acceptedByWebsocket (sliceFillEntry "2147483647") _ 2147483647
      (sliceFillEntry_isObject "2147483647") (by decide +kernel)
  have isInteger : IsInteger 2147483647 (utf8 "2147483647") :=
    ⟨by decide +kernel, by decide, by decide +kernel⟩
  refine ⟨fromRest, fromWebsocket, byRest, byWebsocket, ?_⟩
  exact (sliceFills_agree_iff (sliceFillEntry_isObject "2147483647")
    (sliceFillObject_onWire isInteger (by decide)) byRest byWebsocket).mpr (by decide)

end HyperliquidSdk.Websocket
