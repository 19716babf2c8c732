import HyperliquidSdk.Foundation.ObjectSearch
import HyperliquidSdk.Foundation.ReaderRuns
import HyperliquidSdk.Websocket.MessageIsolation

/-!
# Entries of the streaming channels

The channels whose data is a list of entries with a callback for each. An entry is decoded as
if it were the only one, also where all entries are read into one variable.
-/

set_option autoImplicit false

namespace HyperliquidSdk.Websocket

open Foundation Foundation.OnDemand Foundation.OnDemand.Reader Foundation.Throwing Cracker

variable {α β σ ε : Type} {listener : MessageHandler}

/-! ## Deliveries -/

/-- An exception that a callback of the handler throws. -/
def ThrownByHandler (listener : MessageHandler) (thrown : Thrown) : Prop :=
  ∃ exception earlier callback, thrown = .exception exception ∧
    listener earlier callback = some (.exception exception)

/-- If the computation returns, it has made these callbacks. Otherwise the handler has thrown
an exception, and the computation has made the callbacks up to there. -/
def Delivers (listener : MessageHandler) (body : Cracker α) (callbacks : List Callback) : Prop :=
  ∀ before,
    match body.run before with
    | (.ok _, after) => after = before ++ callbacks
    | (.error thrown, after) =>
        ThrownByHandler listener thrown ∧ ∃ made, made <+: callbacks ∧ after = before ++ made

namespace Delivers

theorem pure (value : α) : Delivers listener (pure value : Cracker α) [] :=
  fun before => (List.append_nil before).symm

theorem bind {first : Cracker α} {next : α → Cracker β} {earlier later : List Callback}
    (start : Delivers listener first earlier) (continued : ∀ value, Delivers listener (next value) later) :
    Delivers listener (first >>= next) (earlier ++ later) := by
  intro before
  have started := start before
  rw [bind_run]
  cases ran : first.run before with
  | mk result middle =>
      rw [ran] at started
      cases result with
      | error thrown =>
          obtain ⟨byHandler, made, isPrefix, rfl⟩ := started
          exact ⟨byHandler, made, isPrefix.trans (List.prefix_append earlier later), rfl⟩
      | ok value =>
          obtain rfl : middle = before ++ earlier := started
          have ended := continued value (before ++ earlier)
          dsimp only
          cases ranNext : (next value).run (before ++ earlier) with
          | mk result after =>
              rw [ranNext] at ended
              cases result with
              | ok value => exact ended.trans (List.append_assoc before earlier later)
              | error thrown =>
                  obtain ⟨byHandler, made, isPrefix, rfl⟩ := ended
                  exact ⟨byHandler, earlier ++ made, (List.prefix_append_right_inj earlier).mpr isPrefix,
                    List.append_assoc before earlier made⟩

theorem caught {body : Cracker Unit} {callbacks : List Callback}
    (delivers : Delivers listener body callbacks) : Delivers listener (caught body) callbacks := by
  intro before
  have ended := delivers before
  rw [caught_run]
  cases ran : body.run before with
  | mk result after =>
      rw [ran] at ended
      cases result with
      | ok done => exact ended
      | error thrown =>
          obtain ⟨⟨exception, earlier, callback, rfl, threw⟩, made⟩ := ended
          exact ⟨⟨exception, earlier, callback, rfl, threw⟩, made⟩

theorem forM {body : ε → Cracker Unit} {callbacks : ε → List Callback}
    (each : ∀ entry, Delivers listener (body entry) (callbacks entry)) (entries : List ε) :
    Delivers listener (entries.forM body) (entries.flatMap callbacks) := by
  induction entries with
  | nil => exact .pure ()
  | cons entry entries ih => exact (each entry).bind fun _ => ih

/-- A loop in which no callback depends on what the steps hand on. -/
theorem foldlM {step : σ → ε → Cracker σ} {callbacks : ε → List Callback}
    (each : ∀ target entry, Delivers listener (step target entry) (callbacks entry))
    (entries : List ε) :
    ∀ target, Delivers listener (entries.foldlM step target) (entries.flatMap callbacks) := by
  induction entries with
  | nil => exact .pure
  | cons entry entries ih =>
      intro target
      rw [List.foldlM_cons]
      exact (each target entry).bind ih

/-- One entry, which has a callback if it can be decoded. -/
theorem single (extracted : Except Error α) (callback : α → Callback) :
    Delivers listener (Cracker.caught do
      let decoded ← value extracted
      notify listener (callback decoded)) (extracted.toOption.toList.map callback) := by
  intro before
  rw [caught_run, bind_run, value_run]
  cases extracted with
  | error error => exact (List.append_nil before).symm
  | ok decoded =>
      dsimp only [Except.mapError]
      cases threw : listener before (callback decoded) with
      | none =>
          rw [Cracker.notify_run threw]
          rfl
      | some thrown =>
          rw [notify_throws threw]
          cases thrown with
          | simdjson error => rfl
          | exception exception =>
              exact ⟨⟨exception, before, _, rfl, threw⟩, _, List.prefix_rfl, rfl⟩

end Delivers

/-! ## Loops over entries -/

/-- What an entry reads as on its own. -/
def decoded (decode : Reader Unit α) (entry : Value) : Option α :=
  (entry.getObject.bind fun object => (read object () decode).1).toOption

/-- The callbacks of a list are those of its entries. -/
theorem callbacks_eq_flatMap (callback : α → Callback) (result : ε → Option α) (entries : List ε) :
    entries.filterMap (fun entry => (result entry).map callback) =
      entries.flatMap fun entry => (result entry).toList.map callback := by
  rw [← List.map_filterMap, List.filterMap_eq_flatMap_toList, List.map_flatMap]

theorem crackEach_delivers (callback : α → Callback) (decode : Reader Unit α)
    (entries : List Value) :
    Delivers listener (crackEach listener callback decode entries)
      (entries.filterMap fun entry => (decoded decode entry).map callback) := by
  rw [callbacks_eq_flatMap]
  refine .forM (fun entry => ?_) entries
  unfold decoded
  cases entry.getObject with
  | error error => exact .single (.error error) callback
  | ok object => exact .single (read object () decode).1 callback

/-- What an entry makes of the variable does not depend on what the variable has held, if the
entry can be decoded; nor does whether it can. -/
def Overwrites (decode : ε → σ → Except Error Unit × σ) : Prop :=
  ∀ entry first second, (decode entry first).1 = (decode entry second).1 ∧
    ((decode entry first).1 = .ok () → (decode entry first).2 = (decode entry second).2)

/-- What an entry makes of the variable that no other entry has been read into. -/
def decodedInto (decode : ε → σ → Except Error Unit × σ) (initial : σ) (entry : ε) : Option σ :=
  (decode entry initial).1.toOption.map fun _ => (decode entry initial).2

theorem crackInto_delivers (callback : σ → Callback) {decode : ε → σ → Except Error Unit × σ}
    (overwrites : Overwrites decode) (initial : σ) (entries : List ε) :
    Delivers listener (crackInto listener callback decode initial entries)
      (entries.filterMap fun entry => (decodedInto decode initial entry).map callback) := by
  rw [callbacks_eq_flatMap]
  unfold crackInto
  rw [← List.append_nil (entries.flatMap _)]
  refine .bind (.foldlM (fun target entry => ?_) entries initial) fun _ => .pure ()
  rw [← List.append_nil (List.map _ _)]
  -- whatever the variable holds when the loop comes to the entry
  obtain ⟨alike, same⟩ := overwrites entry initial target
  unfold decodedInto
  cases ran : decode entry target with
  | mk result after =>
      rw [ran] at alike same
      refine .bind ?_ fun _ => .pure after
      rw [alike]
      cases result with
      | error error => exact .single (.error error) callback
      | ok done =>
          rw [same alike]
          exact .single (.ok after) callback

/-! ## Variables that all entries are read into -/

theorem readEntry_overwrites {reader : Reader σ Unit}
    (parallel : ∀ object first second,
      Parallel reader object first second fun _ _ after other => after = other) :
    Overwrites (readEntry reader) := by
  intro entry first second
  unfold readEntry
  cases entry.getObject with
  | error error => exact ⟨rfl, fun impossible => by cases impossible⟩
  | ok object =>
      obtain ⟨alike, same⟩ := parallel object first second
      dsimp only
      rw [read_eq, read_eq, alike]
      refine ⟨rfl, fun ended => ?_⟩
      cases ran : (readFrom reader object second).1 with
      | error error =>
          rw [ran] at ended
          cases ended
      | ok step => exact same step.1 step.2 (alike.trans ran)

theorem sideField_keeps {ρ : Type} (key : String) : Keeps (sideField key : Reader ρ UInt8) :=
  .bind (.fieldOf _ _) fun _ => .pure _

theorem parseTrade_parallel (object : Object) (first second : Trade) :
    Parallel parseTrade object first second fun _ _ after other => after = other := by
  refine .bind (.keeps (.fieldOf _ "coin") fun coin _ => .bind (.modify ?_))
  refine .bind (.keeps (sideField_keeps "side") fun side _ => .bind (.modify ?_))
  refine .bind (.keeps (.fieldOf _ "px") fun px _ => .bind (.modify ?_))
  refine .bind (.keeps (.fieldOf _ "sz") fun sz _ => .bind (.modify ?_))
  refine .bind (.keeps (.fieldOf _ "hash") fun hash _ => .bind (.modify ?_))
  refine .bind (.keeps (.fieldOf _ "time") fun time _ => .bind (.modify ?_))
  refine .bind (.keeps (.fieldOf _ "tid") fun tid _ => .bind (.modify ?_))
  -- by now every field is written: with the users the two runs are one
  exact .refl _ _ _

theorem parseCandle_parallel (object : Object) (first second : Candle) :
    Parallel parseCandle object first second fun _ _ after other => after = other := by
  refine .bind (.keeps (.fieldOf _ "s") fun coin _ => .bind (.modify ?_))
  refine .bind (.keeps (.fieldOf _ "i") fun interval _ => .bind (.modify ?_))
  refine .bind (.keeps (.fieldOf _ "t") fun openTime _ => .bind (.modify ?_))
  refine .bind (.keeps (.fieldOf _ "T") fun closeTime _ => .bind (.modify ?_))
  refine .bind (.keeps (.fieldOf _ "o") fun «open» _ => .bind (.modify ?_))
  refine .bind (.keeps (.fieldOf _ "c") fun close _ => .bind (.modify ?_))
  refine .bind (.keeps (.fieldOf _ "h") fun high _ => .bind (.modify ?_))
  refine .bind (.keeps (.fieldOf _ "l") fun low _ => .bind (.modify ?_))
  refine .bind (.keeps (.fieldOf _ "v") fun volume _ => .bind (.modify ?_))
  exact .bind (.keeps (.fieldOf _ "n") fun numTrades _ => .modify rfl)

theorem readMid_overwrites : Overwrites readMid := by
  intro mid first second
  unfold readMid
  cases mid.2.getString with
  | error error => exact ⟨rfl, fun impossible => by cases impossible⟩
  | ok text => exact ⟨rfl, fun _ => rfl⟩

/-! ## Channels -/

/-- A flag that is a boolean where it is there. -/
def FlagOfKind (data : Object) : Prop :=
  (∀ field ∈ data, field.1.raw ≠ utf8 "isSnapshot") ∨
    data.Holds (utf8 "isSnapshot") (Object.Gives Value.getBool)

/-- The data of these channels, without what is in the entries. -/
inductive ExpectedEnvelope : Bytes → Value → Prop
  | trades {data : Value} : Object.Gives Value.getArray data →
      ExpectedEnvelope (utf8 "trades") data
  | candle {data : Value} : Object.Gives Value.getArray data →
      ExpectedEnvelope (utf8 "candle") data
  | allMids {data : Value} {object : Object} : data.getObject = .ok object →
      object.Holds (utf8 "mids") (Object.Gives Value.getObject) →
      ExpectedEnvelope (utf8 "allMids") data
  | orderUpdates {data : Value} : Object.Gives Value.getArray data →
      ExpectedEnvelope (utf8 "orderUpdates") data
  | userFills {data : Value} {object : Object} : data.getObject = .ok object →
      object.Holds (utf8 "fills") (Object.Gives Value.getArray) → FlagOfKind object →
      ExpectedEnvelope (utf8 "userFills") data
  | userFundings {data : Value} {object : Object} : data.getObject = .ok object →
      object.Holds (utf8 "fundings") (Object.Gives Value.getArray) → FlagOfKind object →
      ExpectedEnvelope (utf8 "userFundings") data
  | userNonFundingLedgerUpdates {data : Value} {object : Object} : data.getObject = .ok object →
      object.Holds (utf8 "nonFundingLedgerUpdates") (Object.Gives Value.getArray) →
      FlagOfKind object → ExpectedEnvelope (utf8 "userNonFundingLedgerUpdates") data

/-- The flag and the entries of the data of a channel. -/
def flagAndEntries (flag : Reader Unit Bool) (key : String) (data : Object) :
    Except Error (Bool × List Value) :=
  (read data () do
    let isSnapshot ← flag
    let entries ← arrayField key
    return (isSnapshot, entries)).1

/-- What the entries of a channel read as on their own, in order, without those that cannot
be decoded. -/
def entryCallbacks (channel : Bytes) (data : Value) : Except Error (List Callback) :=
  let entries (decode : Value → Option Callback) : Except Error (List Callback) := do
    return (← data.getArray).filterMap decode
  let flagged (flag : Reader Unit Bool) (key : String) (decode : Bool → Value → Option Callback) :
      Except Error (List Callback) := do
    let (isSnapshot, entries) ← flagAndEntries flag key (← data.getObject)
    return entries.filterMap (decode isSnapshot)
  if channel = utf8 "trades" then
    entries fun entry => (decodedInto (readEntry parseTrade) {} entry).map .onTrade
  else if channel = utf8 "candle" then
    entries fun entry => (decodedInto (readEntry parseCandle) {} entry).map .onCandle
  else if channel = utf8 "allMids" then do
    let mids ← (read (← data.getObject) () (objectField "mids")).1
    return mids.filterMap fun mid => (decodedInto readMid {} mid).map .onAllMidsEntry
  else if channel = utf8 "orderUpdates" then
    entries fun entry => (decoded parseOrderUpdate entry).map .onOrderUpdate
  else if channel = utf8 "userFills" then
    flagged strictSnapshotField "fills" fun isSnapshot entry =>
      (decoded (parseFillObject isSnapshot) entry).map .onUserFill
  else if channel = utf8 "userFundings" then
    flagged snapshotField "fundings" fun isSnapshot entry =>
      (decoded (parseUserFundingObject isSnapshot) entry).map .onUserFundingUpdate
  else if channel = utf8 "userNonFundingLedgerUpdates" then
    flagged snapshotField "nonFundingLedgerUpdates" fun isSnapshot entry =>
      (decoded (parseLedgerUpdate isSnapshot) entry).map .onLedgerUpdate
  else return []

theorem flag_run {flag : Reader Unit Bool}
    (isFlag : flag = snapshotField ∨ flag = strictSnapshotField) {data : Object}
    (ofKind : FlagOfKind data) :
    ∃ isSnapshot rest, readFrom flag data () = (.ok (isSnapshot, rest), ()) ∧ rest.Perm data := by
  have searched {α : Type} (convert : Value → Except Error α) :=
    readFrom_optionalField convert "isSnapshot" data ()
  rcases ofKind with absent | present
  · rw [← Object.find_eq_none_iff] at absent
    rw [absent] at searched
    refine ⟨false, data, ?_, List.Perm.refl _⟩
    rcases isFlag with rfl | rfl
    · exact readFrom_bind_ok (searched Value.getBool)
    · exact readFrom_bind_ok (searched .ok)
  · obtain ⟨member, rest, found, ⟨isSnapshot, isBool⟩, same⟩ := present.find
    rw [found] at searched
    refine ⟨isSnapshot, rest, ?_, same⟩
    rcases isFlag with rfl | rfl
    · refine (readFrom_bind_ok (searched Value.getBool)).trans ?_
      rw [isBool]
      rfl
    · exact (readFrom_bind_ok (searched .ok)).trans (readFrom_read isBool rest ())

theorem flagAndEntries_of_kind {flag : Reader Unit Bool}
    (isFlag : flag = snapshotField ∨ flag = strictSnapshotField) {data : Object}
    (ofKind : FlagOfKind data) {key : String}
    (entriesOfKind : data.Holds (utf8 key) (Object.Gives Value.getArray)) :
    ∃ isSnapshot entries, flagAndEntries flag key data = .ok (isSnapshot, entries) := by
  obtain ⟨isSnapshot, rest, ranFlag, same⟩ := flag_run isFlag ofKind
  obtain ⟨member, afterEntries, found, ⟨entries, isArray⟩, -⟩ := (entriesOfKind.perm same).find
  refine ⟨isSnapshot, entries, ?_⟩
  have ran : readFrom (do
      let isSnapshot ← flag
      let entries ← arrayField key
      return (isSnapshot, entries)) data () = (.ok ((isSnapshot, entries), afterEntries), ()) :=
    (readFrom_bind_ok ranFlag).trans (readFrom_bind_ok (readFrom_fieldOf () found isArray))
  unfold flagAndEntries
  rw [read_ok ran]

theorem crackFlagged_delivers {flag : Reader Unit Bool} {key : String} {data : Object}
    {isSnapshot : Bool} {entries : List Value}
    (envelope : flagAndEntries flag key data = .ok (isSnapshot, entries))
    (callback : α → Callback) (decode : Bool → Reader Unit α) :
    Delivers listener (crackFlagged listener flag key callback decode data)
      (entries.filterMap fun entry => (decoded (decode isSnapshot) entry).map callback) := by
  have read : crackFlagged listener flag key callback decode data =
      value (flagAndEntries flag key data) >>= fun read =>
        crackEach listener callback (decode read.1) read.2 := rfl
  rw [read, envelope]
  exact crackEach_delivers callback (decode isSnapshot) entries

/-- A channel whose data is the array of the entries. -/
theorem arrayChannel_delivers {data : Value} (isArray : Object.Gives Value.getArray data)
    {decode : Value → Option Callback} {body : MessageHandler → List Value → Cracker Unit}
    (delivers : ∀ listener entries,
      Delivers listener (body listener entries) (entries.filterMap decode)) :
    ∃ callbacks, (do return (← data.getArray).filterMap decode) = Except.ok callbacks ∧
      ∀ listener, Delivers listener (value data.getArray >>= body listener) callbacks := by
  obtain ⟨entries, isArray⟩ := isArray
  rw [isArray]
  exact ⟨_, rfl, fun listener => delivers listener entries⟩

/-- A channel whose data has the entries and a flag. -/
theorem flaggedChannel_delivers {data : Value} {object : Object}
    (isObject : data.getObject = .ok object) {flag : Reader Unit Bool}
    (isFlag : flag = snapshotField ∨ flag = strictSnapshotField) (ofKind : FlagOfKind object)
    {key : String} (entriesOfKind : object.Holds (utf8 key) (Object.Gives Value.getArray))
    (callback : α → Callback) (decode : Bool → Reader Unit α) :
    ∃ callbacks, (do
        let (isSnapshot, entries) ← flagAndEntries flag key (← data.getObject)
        return entries.filterMap fun entry => (decoded (decode isSnapshot) entry).map callback) =
          Except.ok callbacks ∧
      ∀ listener, Delivers listener
        (value data.getObject >>= crackFlagged listener flag key callback decode) callbacks := by
  obtain ⟨isSnapshot, entries, envelope⟩ := flagAndEntries_of_kind isFlag ofKind entriesOfKind
  rw [isObject]
  refine ⟨entries.filterMap fun entry => (decoded (decode isSnapshot) entry).map callback, ?_,
    fun listener => crackFlagged_delivers envelope callback decode⟩
  show (flagAndEntries flag key object >>= fun _ => _) = _
  rw [envelope]
  rfl

theorem crackAllMids_delivers {data : Value} {object : Object}
    (isObject : data.getObject = .ok object)
    (ofKind : object.Holds (utf8 "mids") (Object.Gives Value.getObject)) :
    ∃ callbacks, (do
        let mids ← (read (← data.getObject) () (objectField "mids")).1
        return mids.filterMap fun mid => (decodedInto readMid {} mid).map .onAllMidsEntry) =
          Except.ok callbacks ∧
      ∀ listener, Delivers listener (value data.getObject >>= crackAllMids listener) callbacks := by
  obtain ⟨member, rest, found, ⟨mids, areMids⟩, -⟩ := ofKind.find
  have ran := congrArg Prod.fst (read_ok (readFrom_fieldOf () found areMids))
  rw [isObject]
  refine ⟨mids.filterMap fun mid => (decodedInto readMid {} mid).map .onAllMidsEntry, ?_,
    fun listener => ?_⟩
  · show ((read object () (objectField "mids")).1 >>= fun _ => _) = _
    rw [show (read object () (objectField "mids")).1 = .ok mids from ran]
    rfl
  · show Delivers listener (value (read object () (objectField "mids")).1 >>= fun _ => _) _
    rw [show (read object () (objectField "mids")).1 = .ok mids from ran]
    exact crackInto_delivers .onAllMidsEntry readMid_overwrites {} mids

/-- The envelope is read, and then the entries are delivered. -/
theorem crackChannel_delivers (parser : WebsocketMessageParser) {channel : Bytes} {data : Value}
    (expected : ExpectedEnvelope channel data) :
    ∃ callbacks, entryCallbacks channel data = .ok callbacks ∧ ∀ listener,
      Delivers listener (parser.crackChannel listener channel (.ok data)) callbacks := by
  cases expected with
  | trades isArray =>
      exact arrayChannel_delivers isArray fun _ =>
        crackInto_delivers .onTrade (readEntry_overwrites parseTrade_parallel) {}
  | candle isArray =>
      exact arrayChannel_delivers isArray fun _ =>
        crackInto_delivers .onCandle (readEntry_overwrites parseCandle_parallel) {}
  | allMids isObject ofKind => exact crackAllMids_delivers isObject ofKind
  | orderUpdates isArray =>
      exact arrayChannel_delivers isArray fun _ => crackEach_delivers .onOrderUpdate parseOrderUpdate
  | userFills isObject entriesOfKind ofKind =>
      exact flaggedChannel_delivers isObject (.inr rfl) ofKind entriesOfKind .onUserFill
        parseFillObject
  | userFundings isObject entriesOfKind ofKind =>
      exact flaggedChannel_delivers isObject (.inl rfl) ofKind entriesOfKind .onUserFundingUpdate
        parseUserFundingObject
  | userNonFundingLedgerUpdates isObject entriesOfKind ofKind =>
      exact flaggedChannel_delivers isObject (.inl rfl) ofKind entriesOfKind .onLedgerUpdate
        parseLedgerUpdate

/-- Either `crack` makes exactly the callbacks of the entries that read on their own, or the
handler throws an exception and the callbacks up to there are the first of these. -/
theorem entries_decoded_independently (parser : WebsocketMessageParser) {message channel : Bytes}
    {data : Value} (found : parser.messageData message = some (channel, .ok data))
    (expected : ExpectedEnvelope channel data) :
    ∃ callbacks, entryCallbacks channel data = .ok callbacks ∧
      ∀ (listener : MessageHandler) (before : List Callback),
        (parser.crack listener message).run before = (.ok (), before ++ callbacks) ∨
        ∃ exception earlier callback made,
          listener earlier callback = some (.exception exception) ∧ made <+: callbacks ∧
          (parser.crack listener message).run before =
            (.error (.exception exception), before ++ made) := by
  obtain ⟨callbacks, decoded, delivers⟩ := crackChannel_delivers parser expected
  refine ⟨callbacks, decoded, fun listener before => ?_⟩
  have ended := (delivers listener).caught before
  rw [← WebsocketMessageParser.crack_of_messageData found] at ended
  cases ran : (parser.crack listener message).run before with
  | mk result after =>
      rw [ran] at ended
      cases result with
      | ok done =>
          obtain rfl : after = before ++ callbacks := ended
          exact .inl rfl
      | error thrown =>
          obtain ⟨⟨exception, earlier, callback, rfl, threw⟩, made, isPrefix, rfl⟩ := ended
          exact .inr ⟨exception, earlier, callback, made, threw, isPrefix, rfl⟩

def tradeValue (coin side : String) (others : List (String × Value)) : Value :=
  .ofMembers ([("coin", .ofText coin), ("side", .ofText side), ("px", .ofText "113377.0"),
    ("sz", .ofText "0.1"), ("hash", .ofText "0x00"), ("time", .number (utf8 "1754450974231"))] ++
      others)

/-- A trade with users, one that ends before its id, and one without users. -/
def tradesData : Value :=
  .ofItems [
    tradeValue "BTC" "B" [("tid", .number (utf8 "7")), ("users", .ofItems [.ofText "0xb", .ofText "0xs"])],
    tradeValue "ETH" "A" [],
    tradeValue "SOL" "" [("tid", .number (utf8 "9"))]]

def tradesMessage : Value :=
  .ofMembers [("channel", .ofText "trades"), ("data", tradesData)]

def deliveredTrades : List Callback :=
  [.onTrade { coin := utf8 "BTC", side := 66, px := utf8 "113377.0", sz := utf8 "0.1",
              hash := utf8 "0x00", time := 1754450974231, tid := 7, buyer := utf8 "0xb",
              seller := utf8 "0xs" },
   .onTrade { coin := utf8 "SOL", side := 63, px := utf8 "113377.0", sz := utf8 "0.1",
              hash := utf8 "0x00", time := 1754450974231, tid := 9 }]

set_option maxRecDepth 4000 in
theorem entries_decoded_independently_trades :
    ((parserOf tradesMessage).crack silent tradesMessage.toJsonString).run [] =
      (.ok (), deliveredTrades) := by
  have found : (parserOf tradesMessage).messageData tradesMessage.toJsonString =
      some (utf8 "trades", .ok tradesData) := rfl
  obtain ⟨callbacks, decoded, delivered⟩ :=
    entries_decoded_independently (parserOf tradesMessage) found (.trades ⟨_, rfl⟩)
  have same : entryCallbacks (utf8 "trades") tradesData = .ok deliveredTrades := rfl
  obtain rfl := Except.ok.inj (same.symm.trans decoded)
  rcases delivered silent [] with returned | ⟨exception, earlier, callback, made, threw, -⟩
  · exact returned
  · cases threw

end HyperliquidSdk.Websocket
