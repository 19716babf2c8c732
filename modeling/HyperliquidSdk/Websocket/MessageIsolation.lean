import HyperliquidSdk.Foundation.Throwing
import HyperliquidSdk.Rest.OutcomeProperties
import HyperliquidSdk.Websocket.WebsocketMessageParser

/-!
# Isolation of the entries of a message

`crack` catches a `simdjson_error` around each entry and around the message. With a handler
that does not throw, nothing else leaves it, but for one conversion: that of an expiry in the
description of a created outcome, which ends the message and the entries after it.
-/

set_option autoImplicit false

namespace HyperliquidSdk.Websocket

open Foundation Foundation.OnDemand Foundation.OnDemand.Reader Foundation.Throwing

def Thrown.IsSimdjson : Thrown → Prop
  | .simdjson _ => True
  | .exception _ => False

namespace Cracker

variable {α β σ ε : Type} {listener : MessageHandler}

theorem caught_run (body : Cracker Unit) (before : List Callback) :
    (caught body).run before =
      match body.run before with
      | (.error (.exception exception), after) => (.error (.exception exception), after)
      | (_, after) => (.ok (), after) := by
  unfold caught
  rw [tryCatch_run]
  cases body.run before with
  | mk result after =>
      cases result with
      | ok done => rfl
      | error thrown => cases thrown <;> rfl

theorem value_run (extracted : Except Error α) (before : List Callback) :
    (value extracted).run before = (extracted.mapError .simdjson, before) := by
  cases extracted <;> rfl

theorem reading_run (object : Object) (reader : Reader Unit α) (before : List Callback) :
    (reading object reader).run before = ((read object () reader).1.mapError .simdjson, before) :=
  value_run _ before

theorem notify_run {before : List Callback} {callback : Callback}
    (doesNotThrow : listener before callback = none) :
    (notify listener callback).run before = (.ok (), before ++ [callback]) := by
  unfold notify
  simp only [bind_run, get_run, set_run, doesNotThrow, pure_run]

theorem notify_throws {before : List Callback} {callback : Callback} {thrown : Thrown}
    (throws : listener before callback = some thrown) :
    (notify listener callback).run before = (.error thrown, before ++ [callback]) := by
  unfold notify
  simp only [bind_run, get_run, set_run, throws, throw_run]

/-- A callback is made also if it throws. -/
theorem notify_after (listener : MessageHandler) (callback : Callback) (before : List Callback) :
    ((notify listener callback).run before).2 = before ++ [callback] := by
  cases threw : listener before callback with
  | none => rw [notify_run threw]
  | some thrown => rw [notify_throws threw]

/-! ## What is caught -/

/-- What leaves the body, if anything, is a `simdjson_error`. -/
def Guarded (body : Cracker α) : Prop := ThrowsOnly Thrown.IsSimdjson body

theorem value_guarded (extracted : Except Error α) : Guarded (value extracted) := by
  cases extracted with
  | error error => exact ThrowsOnly.throw trivial
  | ok value => exact ThrowsOnly.pure value

theorem value_bind_guarded_iff {extracted : Except Error α} {next : α → Cracker β} :
    Guarded (value extracted >>= next) ↔
      ∀ result, extracted = .ok result → Guarded (next result) := by
  cases extracted with
  | error error =>
      exact ⟨fun _ result impossible => (by cases impossible), fun _ => ThrowsOnly.throw trivial⟩
  | ok result =>
      exact ⟨fun guarded other same => Except.ok.inj same ▸ guarded,
        fun guarded => guarded result rfl⟩

theorem reading_guarded (object : Object) (reader : Reader Unit α) : Guarded (reading object reader) :=
  value_guarded _

theorem notify_guarded (doesNotThrow : ∀ before callback, listener before callback = none)
    (callback : Callback) : Guarded (notify listener callback) := by
  intro before thrown
  rw [notify_run (doesNotThrow before callback)]
  intro impossible
  cases impossible

/-- Exactly a guarded body returns if it is caught. -/
theorem caught_returns_iff {body : Cracker Unit} :
    (∀ before, ((caught body).run before).1 = .ok ()) ↔ Guarded body := by
  constructor
  · intro returns before thrown isThrown
    have returned := returns before
    rw [caught_run] at returned
    cases ran : body.run before with
    | mk result after =>
        rw [ran] at isThrown returned
        obtain rfl : result = .error thrown := isThrown
        cases thrown with
        | simdjson error => trivial
        | exception exception => cases returned
  · intro guarded before
    rw [caught_run]
    have throwsSimdjson := guarded before
    cases ran : body.run before with
    | mk result after =>
        rw [ran] at throwsSimdjson
        cases result with
        | ok done => rfl
        | error thrown =>
            cases thrown with
            | simdjson error => rfl
            | exception exception => exact (throwsSimdjson _ rfl).elim

theorem caught_guarded_iff {body : Cracker Unit} : Guarded (caught body) ↔ Guarded body := by
  constructor
  · intro guarded before thrown isThrown
    cases thrown with
    | simdjson error => trivial
    | exception exception =>
        apply guarded before (.exception exception)
        rw [caught_run]
        cases ran : body.run before with
        | mk result after =>
            rw [ran] at isThrown
            obtain rfl : result = .error (.exception exception) := isThrown
            rfl
  · intro guarded before thrown impossible
    rw [caught_returns_iff.mpr guarded before] at impossible
    cases impossible

section

variable (doesNotThrow : ∀ before callback, listener before callback = none)
include doesNotThrow

theorem crackEach_guarded (callback : α → Callback) (decode : Reader Unit α) (entries : List Value) :
    Guarded (crackEach listener callback decode entries) := by
  refine ThrowsOnly.forM (fun entry => caught_guarded_iff.mpr ?_) entries
  exact ThrowsOnly.bind (value_guarded entry.getObject) fun object =>
    ThrowsOnly.bind (reading_guarded object decode) fun decoded => notify_guarded doesNotThrow (callback decoded)

theorem crackInto_guarded (callback : σ → Callback) (decode : ε → σ → Except Error Unit × σ)
    (initial : σ) (entries : List ε) :
    Guarded (crackInto listener callback decode initial entries) := by
  refine ThrowsOnly.bind (ThrowsOnly.foldlM (fun target entry => ?_) entries initial) fun _ =>
    ThrowsOnly.pure ()
  exact ThrowsOnly.bind (caught_guarded_iff.mpr (ThrowsOnly.bind (value_guarded _) fun _ =>
    notify_guarded doesNotThrow _)) fun _ => ThrowsOnly.pure _

end

end Cracker

open Cracker

variable {listener : MessageHandler}

/-! ## Channels -/

section

variable (doesNotThrow : ∀ before callback, listener before callback = none)
include doesNotThrow

/-- A channel with one callback. -/
theorem announced_guarded {α : Type} (object : Object) (reader : Reader Unit α)
    (callback : α → Callback) :
    Guarded (do notify listener (callback (← reading object reader))) :=
  .bind (reading_guarded object reader) fun read => notify_guarded doesNotThrow (callback read)

theorem crackFlagged_guarded {α : Type} (flag : Reader Unit Bool) (key : String)
    (callback : α → Callback) (decode : Bool → Reader Unit α) (data : Object) :
    Guarded (crackFlagged listener flag key callback decode data) :=
  .bind (reading_guarded data _) fun read => crackEach_guarded doesNotThrow callback (decode read.1) read.2

theorem crackUserEvents_guarded (data : Object) : Guarded (crackUserEvents listener data) := by
  refine .bind (reading_guarded data parseUserEvent) fun event => ?_
  cases event with
  | fills entries => exact crackEach_guarded doesNotThrow .onUserFill (parseFillObject false) entries
  | funding funding => exact notify_guarded doesNotThrow (.onUserFunding funding)
  | liquidation liquidation => exact notify_guarded doesNotThrow (.onLiquidation liquidation)
  | nonUserCancel entries =>
      exact crackEach_guarded doesNotThrow .onNonUserCancel parseNonUserCancel entries
  | unknown => exact .pure ()

theorem crackAllMids_guarded (data : Object) : Guarded (crackAllMids listener data) :=
  .bind (reading_guarded data (objectField "mids")) fun mids =>
    crackInto_guarded doesNotThrow .onAllMidsEntry readMid {} mids

theorem crackFastAssetCtxsObject_guarded (fields : Object) :
    Guarded (crackFastAssetCtxsObject listener fields) := by
  refine .forM (fun field => ?_) fields
  exact caught_guarded_iff.mpr (.bind (value_guarded field.2.getObject) fun object =>
    .bind (reading_guarded object (parseFastAssetCtx field.1.unescaped)) fun ctx =>
      notify_guarded doesNotThrow (.onFastAssetCtx ctx))

/-- The channels that convert nothing. -/
theorem crackChannel_guarded (parser : WebsocketMessageParser) {channel : Bytes}
    (data : Except Error Value) (noUpdates : channel ≠ utf8 "outcomeMetaUpdates")
    (fastAssetCtxs : channel = utf8 "fastAssetCtxs" → ∀ base64Data,
      data.bind Value.getString = .ok base64Data →
        Guarded (parser.crackFastAssetCtxs listener base64Data)) :
    Guarded (parser.crackChannel listener channel data) := by
  have objects {body : Object → Cracker Unit} (guarded : ∀ object, Guarded (body object)) :
      Guarded (value (data.bind Value.getObject) >>= body) :=
    .bind (value_guarded _) guarded
  have arrays {body : List Value → Cracker Unit} (guarded : ∀ entries, Guarded (body entries)) :
      Guarded (value (data.bind Value.getArray) >>= body) :=
    .bind (value_guarded _) guarded
  have flagged (flag : Reader Unit Bool) {α : Type} (key : String) (callback : α → Callback)
      (decode : Bool → Reader Unit α) :=
    objects (crackFlagged_guarded doesNotThrow flag key callback decode)
  have announced {α : Type} (reader : Reader Unit α) (callback : α → Callback) :=
    objects fun data => announced_guarded doesNotThrow data reader callback
  unfold WebsocketMessageParser.crackChannel
  refine .ite (fun _ => announced parseL2BookSnapshot _) fun _ => ?_
  refine .ite (fun _ => announced parseBboUpdate _) fun _ => ?_
  refine .ite (fun _ => arrays fun data => crackInto_guarded doesNotThrow _ _ _ data) fun _ => ?_
  refine .ite (fun _ => arrays fun data => crackInto_guarded doesNotThrow _ _ _ data) fun _ => ?_
  refine .ite (fun _ => objects (crackAllMids_guarded doesNotThrow)) fun _ => ?_
  refine .ite (fun _ => announced parseActiveAssetCtx id) fun _ => ?_
  refine .ite (fun _ => arrays fun data => crackEach_guarded doesNotThrow _ _ data) fun _ => ?_
  refine .ite (fun _ => flagged strictSnapshotField "fills" _ _) fun _ => ?_
  refine .ite (fun _ => objects (crackUserEvents_guarded doesNotThrow)) fun _ => ?_
  refine .ite (fun _ => announced parseSubscriptionResponse _) fun _ => ?_
  refine .ite (fun _ => flagged snapshotField "fundings" _ _) fun _ => ?_
  refine .ite (fun _ => flagged snapshotField "nonFundingLedgerUpdates" _ _) fun _ => ?_
  refine .ite (fun _ => .bind (value_guarded _) fun raw => announced (parseWebData3 raw) _) fun _ => ?_
  refine .ite (fun _ => announced parseClearinghouseStateUpdate _) fun _ => ?_
  refine .ite (fun _ => announced parseOpenOrdersUpdate _) fun _ => ?_
  refine .ite (fun _ => announced parseTwapStatesUpdate _) fun _ => ?_
  refine .ite (fun _ => announced parseNotification _) fun _ => ?_
  refine .ite (fun _ => flagged snapshotField "twapSliceFills" _ _) fun _ => ?_
  refine .ite (fun _ => flagged snapshotField "history" _ _) fun _ => ?_
  refine .ite (fun _ => announced parseActiveAssetData _) fun _ => ?_
  refine .ite (fun _ => announced parseSpotStateUpdate _) fun _ => ?_
  refine .ite (fun _ => announced parseAllDexsClearinghouseState _) fun _ => ?_
  refine .ite (fun _ => announced parseAllDexsAssetCtxs _) fun _ => ?_
  refine .ite (fun isFast => ?_) fun _ => .ite (fun updates => absurd updates noUpdates) fun _ =>
    .pure ()
  exact value_bind_guarded_iff.mpr (fastAssetCtxs isFast)

end

/-! ## Updates of outcomes -/

/-- What an entry is decoded to. -/
def decodedUpdate (entry : Value) : Option OutcomeMetaUpdate :=
  match (parseOutcomeMetaUpdate entry).run Rest.convert with
  | .ok (.ok update) => some update
  | _ => none

/-- The description of the outcome that an entry creates. -/
def createdDescription (entry : Value) : Option Bytes :=
  match entry.getObject.bind fun object => (read object () parseUpdateVariant).1 with
  | .ok (.outcomeCreated, val) =>
      val.getObject.toOption.bind fun object =>
        Rest.describedAs object ({} : OutcomeMetaUpdate).outcome
  | _ => none

/-- Each expiry in the description is a date with a time. -/
def ReadableExpiries (entry : Value) : Prop :=
  ∀ desc, createdDescription entry = some desc →
    ∀ expiry ∈ Rest.expiriesOf desc, Rest.ReadableExpiry expiry

theorem parseOutcomeMetaUpdate_returns_iff (entry : Value) :
    (∃ parsed, (parseOutcomeMetaUpdate entry).run Rest.convert = .ok parsed) ↔
      ReadableExpiries entry := by
  have undescribed {Returns : Prop} (returns : Returns) :
      Returns ↔ ∀ desc, none = some desc →
        ∀ expiry ∈ Rest.expiriesOf desc, Rest.ReadableExpiry expiry :=
    iff_of_true returns fun desc impossible => by cases impossible
  unfold parseOutcomeMetaUpdate ReadableExpiries createdDescription
  cases entry.getObject.bind fun object => (read object () parseUpdateVariant).1 with
  | error error => exact undescribed ⟨_, rfl⟩
  | ok variant =>
      obtain ⟨type, val⟩ := variant
      cases type with
      | outcomeCreated =>
          cases isObject : val.getObject with
          | error error =>
              simp only [parseUpdate, isObject]
              exact undescribed ⟨_, rfl⟩
          | ok object =>
              simp only [parseUpdate, isObject]
              have attempted := Rest.attempt_outcome_returns_iff object
                ({} : OutcomeMetaUpdate).outcome
              refine Iff.trans ?_ attempted
              rw [Program.run_bind, returns_bind_iff]
              exact ⟨fun ⟨outcome, returned, _⟩ => ⟨outcome, returned⟩,
                fun ⟨outcome, returned⟩ => ⟨outcome, returned, _, rfl⟩⟩
      | outcomeSettled => exact undescribed ⟨_, rfl⟩
      | questionUpdated => exact undescribed ⟨_, rfl⟩
      | questionSettled => exact undescribed ⟨_, rfl⟩
      | unknown => exact undescribed ⟨_, rfl⟩

section

variable (doesNotThrow : ∀ before callback, listener before callback = none)
include doesNotThrow

/-- One entry: its callback, nothing, or the exception of its conversion. -/
theorem crackUpdate_run (entry : Value) (before : List Callback) :
    (caught do notify listener (.onOutcomeMetaUpdate (← convertedUpdate entry))).run before =
      match (parseOutcomeMetaUpdate entry).run Rest.convert with
      | .ok (.ok update) => (.ok (), before ++ [.onOutcomeMetaUpdate update])
      | .ok (.error _) => (.ok (), before)
      | .error exception => (.error (.exception exception), before) := by
  rw [caught_run, bind_run]
  unfold convertedUpdate
  cases (parseOutcomeMetaUpdate entry).run Rest.convert with
  | error exception => rfl
  | ok parsed =>
      cases parsed with
      | error error => rfl
      | ok update =>
          dsimp only
          rw [value_run]
          dsimp only [Except.mapError]
          rw [Cracker.notify_run (doesNotThrow _ _)]

/-- Without an exception, exactly the entries that can be decoded are delivered. -/
theorem crackOutcomeMetaUpdates_run (entries : List Value)
    (readable : ∀ entry ∈ entries, ReadableExpiries entry) :
    ∀ before, (crackOutcomeMetaUpdates listener entries).run before =
      (.ok (), before ++ (entries.filterMap decodedUpdate).map .onOutcomeMetaUpdate) := by
  induction entries with
  | nil =>
      intro before
      simp [crackOutcomeMetaUpdates]
  | cons entry entries ih =>
      intro before
      have readable := List.forall_mem_cons.mp readable
      obtain ⟨parsed, returned⟩ := (parseOutcomeMetaUpdate_returns_iff entry).mpr readable.1
      have step := crackUpdate_run doesNotThrow entry before
      rw [returned] at step
      show (_ >>= fun _ => crackOutcomeMetaUpdates listener entries).run before = _
      rw [bind_run, step]
      cases parsed with
      | error error =>
          have skipped : decodedUpdate entry = none := by rw [decodedUpdate, returned]
          rw [List.filterMap_cons_none skipped]
          exact ih readable.2 before
      | ok update =>
          have delivered : decodedUpdate entry = some update := by rw [decodedUpdate, returned]
          rw [List.filterMap_cons_some delivered, List.map_cons, List.append_cons]
          exact ih readable.2 _

/-- An exception at one entry is the end of all. -/
theorem crackOutcomeMetaUpdates_throws {entry : Value} (unreadable : ¬ ReadableExpiries entry)
    (entries : List Value) (member : entry ∈ entries) :
    ∀ before, ∃ exception,
      ((crackOutcomeMetaUpdates listener entries).run before).1 =
        .error (.exception exception) := by
  induction entries with
  | nil => exact absurd member List.not_mem_nil
  | cons first entries ih =>
      intro before
      have step := crackUpdate_run doesNotThrow first before
      show ∃ exception,
        ((_ >>= fun _ => crackOutcomeMetaUpdates listener entries).run before).1 = _
      rw [bind_run, step]
      cases returned : (parseOutcomeMetaUpdate first).run Rest.convert with
      | error exception => exact ⟨exception, rfl⟩
      | ok parsed =>
          have readable := (parseOutcomeMetaUpdate_returns_iff first).mp ⟨parsed, returned⟩
          have later : entry ∈ entries := by
            cases List.mem_cons.mp member with
            | inl same => exact absurd (same ▸ readable) unreadable
            | inr later => exact later
          cases parsed with
          | error error => exact ih later before
          | ok update => exact ih later _

theorem crackOutcomeMetaUpdates_guarded_iff (entries : List Value) :
    Guarded (crackOutcomeMetaUpdates listener entries) ↔
      ∀ entry ∈ entries, ReadableExpiries entry := by
  constructor
  · intro guarded entry member
    by_contra unreadable
    obtain ⟨exception, thrown⟩ :=
      crackOutcomeMetaUpdates_throws doesNotThrow unreadable entries member []
    exact guarded [] _ thrown
  · intro readable before exception
    rw [crackOutcomeMetaUpdates_run doesNotThrow entries readable]
    intro impossible
    cases impossible

end

/-! ## Messages -/

namespace WebsocketMessageParser

variable (parser : WebsocketMessageParser)

/-- A text that is read although it is no document. -/
def Unchecked (text : Bytes) : Prop :=
  parser.validateJson = false ∧ ∃ error, parser.document text = .error error

/-- The channel of a message and its data. -/
def messageData (message : Bytes) : Option (Bytes × Except Error Value) :=
  (parser.document message).toOption.bind fun doc => (parseEnvelope doc).toOption.join

/-- The entries of a message of the channel. -/
def outcomeMetaUpdates (message : Bytes) : Option (List Value) :=
  (parser.messageData message).bind fun (channel, data) =>
    if channel = utf8 "outcomeMetaUpdates" then (data.bind Value.getArray).toOption else none

def inflated (base64Data : Bytes) : Option Bytes :=
  match inflateRawDeflate parser.zlib (base64Decode base64Data) [] with
  | (false, _) => none
  | (true, decompressed) => some decompressed

/-- The text in the payload of a message with contexts. -/
def fastAssetCtxs (message : Bytes) : Option Bytes :=
  (parser.messageData message).bind fun (channel, data) =>
    if channel = utf8 "fastAssetCtxs" then
      (data.bind Value.getString).toOption.bind parser.inflated
    else none

/-- `crack` returns, and every entry of `outcomeMetaUpdates` that can be decoded is
delivered in its place. -/
structure Isolates (listener : MessageHandler) (message : Bytes) : Prop where
  returns : ∀ before, ((parser.crack listener message).run before).1 = .ok ()
  delivers : ∀ entries, parser.outcomeMetaUpdates message = some entries →
    ∀ before, ((parser.crack listener message).run before).2 =
      before ++ (entries.filterMap decodedUpdate).map .onOutcomeMetaUpdate

/-- The expiries can be read, and nothing but a `simdjson_error` comes from a text that is
no document. The last two clauses say of `malformed` and `malformedCtxs` what containment
says of the whole parser: they are there for a text that the parser reads without checking
it, and hold trivially with `validateJson`. -/
structure Contains (listener : MessageHandler) (message : Bytes) : Prop where
  expiries : ∀ entries, parser.outcomeMetaUpdates message = some entries →
    ∀ entry ∈ entries, ReadableExpiries entry
  unchecked : parser.Unchecked message → Guarded (parser.malformed listener message)
  uncheckedCtxs : ∀ text, parser.fastAssetCtxs message = some text → parser.Unchecked text →
    Guarded (parser.malformedCtxs listener text)

section

variable {parser}

theorem withDocument_guarded_iff {malformed : MessageHandler → Bytes → Cracker Unit}
    {text : Bytes} {next : Value → Cracker Unit} :
    Guarded (parser.withDocument listener malformed text next) ↔
      (∀ doc, parser.document text = .ok doc → Guarded (next doc)) ∧
        (parser.Unchecked text → Guarded (malformed listener text)) := by
  unfold withDocument Unchecked
  cases parser.document text with
  | ok doc =>
      constructor
      · intro guarded
        refine ⟨fun other same => Except.ok.inj same ▸ guarded, fun unchecked => ?_⟩
        obtain ⟨-, error, impossible⟩ := unchecked
        cases impossible
      · exact fun guarded => guarded.1 doc rfl
  | error error =>
      cases parser.validateJson with
      | true =>
          constructor
          · intro _
            refine ⟨fun doc impossible => (by cases impossible), fun unchecked => ?_⟩
            cases unchecked.1
          · exact fun _ => ThrowsOnly.throw trivial
      | false =>
          constructor
          · exact fun guarded =>
              ⟨fun doc impossible => (by cases impossible), fun _ => guarded⟩
          · exact fun guarded => guarded.2 ⟨rfl, error, rfl⟩

theorem crackChannel_updates (data : Except Error Value) :
    parser.crackChannel listener (utf8 "outcomeMetaUpdates") data =
      value (data.bind Value.getArray) >>= crackOutcomeMetaUpdates listener := rfl

theorem crackChannel_fastAssetCtxs (data : Except Error Value) :
    parser.crackChannel listener (utf8 "fastAssetCtxs") data =
      value (data.bind Value.getString) >>= parser.crackFastAssetCtxs listener := rfl

theorem crackFastAssetCtxs_guarded_iff
    (doesNotThrow : ∀ before callback, listener before callback = none) (base64Data : Bytes) :
    Guarded (parser.crackFastAssetCtxs listener base64Data) ↔
      ∀ text, parser.inflated base64Data = some text → parser.Unchecked text →
        Guarded (parser.malformedCtxs listener text) := by
  unfold crackFastAssetCtxs inflated
  cases inflateRawDeflate parser.zlib (base64Decode base64Data) [] with
  | mk finished decompressed =>
      cases finished with
      | false =>
          constructor
          · intro _ text impossible
            cases impossible
          · exact fun _ => .pure ()
      | true =>
          dsimp only
          rw [caught_guarded_iff, withDocument_guarded_iff]
          constructor
          · intro guarded text same
            exact Option.some.inj same ▸ guarded.2
          · intro guarded
            refine ⟨fun doc _ => .bind (value_guarded doc.getObject) fun fields => ?_,
              guarded decompressed rfl⟩
            exact crackFastAssetCtxsObject_guarded doesNotThrow fields

/-- What can leave a channel. -/
theorem crackChannel_guarded_iff
    (doesNotThrow : ∀ before callback, listener before callback = none) (channel : Bytes)
    (data : Except Error Value) :
    Guarded (parser.crackChannel listener channel data) ↔
      (channel = utf8 "outcomeMetaUpdates" → ∀ entries, data.bind Value.getArray = .ok entries →
        ∀ entry ∈ entries, ReadableExpiries entry) ∧
      (channel = utf8 "fastAssetCtxs" → ∀ base64Data, data.bind Value.getString = .ok base64Data →
        ∀ text, parser.inflated base64Data = some text → parser.Unchecked text →
          Guarded (parser.malformedCtxs listener text)) := by
  have distinct : utf8 "outcomeMetaUpdates" ≠ utf8 "fastAssetCtxs" := by decide
  constructor
  · intro guarded
    constructor
    · rintro rfl entries isArray
      rw [crackChannel_updates, value_bind_guarded_iff] at guarded
      exact (crackOutcomeMetaUpdates_guarded_iff doesNotThrow entries).mp (guarded entries isArray)
    · rintro rfl base64Data isText
      rw [crackChannel_fastAssetCtxs, value_bind_guarded_iff] at guarded
      exact (crackFastAssetCtxs_guarded_iff doesNotThrow base64Data).mp (guarded base64Data isText)
  · intro ⟨updates, fastAssetCtxs⟩
    by_cases isUpdates : channel = utf8 "outcomeMetaUpdates"
    · subst isUpdates
      rw [crackChannel_updates, value_bind_guarded_iff]
      intro entries isArray
      exact (crackOutcomeMetaUpdates_guarded_iff doesNotThrow entries).mpr
        (updates rfl entries isArray)
    · refine crackChannel_guarded doesNotThrow parser data isUpdates fun isFast base64Data isText => ?_
      exact (crackFastAssetCtxs_guarded_iff doesNotThrow base64Data).mpr
        (fastAssetCtxs isFast base64Data isText)

/-- What can leave the document of a message. -/
theorem crackDocument_guarded_iff {doc : Value} :
    Guarded (parser.crackDocument listener doc) ↔
      ∀ channel data, (parseEnvelope doc).toOption.join = some (channel, data) →
        Guarded (parser.crackChannel listener channel data) := by
  unfold crackDocument
  rw [value_bind_guarded_iff]
  cases parseEnvelope doc with
  | error error =>
      constructor
      · intro _ channel data impossible
        cases impossible
      · intro _ result impossible
        cases impossible
  | ok envelope =>
      cases envelope with
      | none =>
          constructor
          · intro _ channel data impossible
            cases impossible
          · intro _ result same
            obtain rfl := Except.ok.inj same
            exact .pure ()
      | some found =>
          constructor
          · intro guarded channel data same
            obtain rfl : found = (channel, data) := Option.some.inj same
            exact guarded _ rfl
          · intro guarded result same
            obtain rfl := Except.ok.inj same
            exact guarded found.1 found.2 rfl

theorem messageData_eq_some_iff {message : Bytes} {found : Bytes × Except Error Value} :
    parser.messageData message = some found ↔
      ∃ doc, parser.document message = .ok doc ∧ (parseEnvelope doc).toOption.join = some found := by
  simp [messageData, Option.bind_eq_some_iff, toOption_eq_some_iff]

theorem outcomeMetaUpdates_eq_some_iff {message : Bytes} {entries : List Value} :
    parser.outcomeMetaUpdates message = some entries ↔
      ∃ data, parser.messageData message = some (utf8 "outcomeMetaUpdates", data) ∧
        data.bind Value.getArray = .ok entries := by
  simp [outcomeMetaUpdates, Option.bind_eq_some_iff, toOption_eq_some_iff]

theorem fastAssetCtxs_eq_some_iff {message text : Bytes} :
    parser.fastAssetCtxs message = some text ↔
      ∃ data, parser.messageData message = some (utf8 "fastAssetCtxs", data) ∧
        ∃ base64Data, data.bind Value.getString = .ok base64Data ∧
          parser.inflated base64Data = some text := by
  simp [fastAssetCtxs, Option.bind_eq_some_iff, toOption_eq_some_iff]

/-- A message is contained exactly if `crack` returns. -/
theorem crack_returns_iff
    (doesNotThrow : ∀ before callback, listener before callback = none) (message : Bytes) :
    (∀ before, ((parser.crack listener message).run before).1 = .ok ()) ↔
      parser.Contains listener message := by
  unfold crack
  rw [caught_returns_iff, withDocument_guarded_iff]
  have channels : (∀ doc, parser.document message = .ok doc →
      Guarded (parser.crackDocument listener doc)) ↔
      ∀ channel data, parser.messageData message = some (channel, data) →
        Guarded (parser.crackChannel listener channel data) := by
    constructor
    · intro guarded channel data found
      obtain ⟨doc, isDoc, envelope⟩ := messageData_eq_some_iff.mp found
      exact crackDocument_guarded_iff.mp (guarded doc isDoc) channel data envelope
    · intro guarded doc isDoc
      exact crackDocument_guarded_iff.mpr fun channel data envelope =>
        guarded channel data (messageData_eq_some_iff.mpr ⟨doc, isDoc, envelope⟩)
  rw [channels]
  constructor
  · intro ⟨guarded, unchecked⟩
    refine ⟨fun entries updates => ?_, unchecked, fun text payload => ?_⟩
    · obtain ⟨data, found, isArray⟩ := outcomeMetaUpdates_eq_some_iff.mp updates
      exact ((crackChannel_guarded_iff doesNotThrow _ data).mp (guarded _ data found)).1 rfl
        entries isArray
    · obtain ⟨data, found, base64Data, isText, inflates⟩ := fastAssetCtxs_eq_some_iff.mp payload
      exact ((crackChannel_guarded_iff doesNotThrow _ data).mp (guarded _ data found)).2 rfl
        base64Data isText text inflates
  · intro contains
    refine ⟨fun channel data found => ?_, contains.unchecked⟩
    refine (crackChannel_guarded_iff doesNotThrow channel data).mpr ⟨?_, ?_⟩
    · intro isUpdates entries isArray
      subst isUpdates
      exact contains.expiries entries (outcomeMetaUpdates_eq_some_iff.mpr ⟨data, found, isArray⟩)
    · intro isFast base64Data isText text inflates
      subst isFast
      exact contains.uncheckedCtxs text
        (fastAssetCtxs_eq_some_iff.mpr ⟨data, found, base64Data, isText, inflates⟩)

theorem crack_of_messageData {message channel : Bytes} {data : Except Error Value}
    (found : parser.messageData message = some (channel, data)) :
    parser.crack listener message = caught (parser.crackChannel listener channel data) := by
  obtain ⟨doc, isDoc, envelope⟩ := messageData_eq_some_iff.mp found
  unfold crack withDocument crackDocument
  rw [isDoc]
  cases parsed : parseEnvelope doc with
  | error error =>
      rw [parsed] at envelope
      cases envelope
  | ok other =>
      rw [parsed] at envelope
      obtain rfl : other = some (channel, data) := envelope
      dsimp only
      rw [parsed]
      rfl

/-- The property holds of exactly the messages that are contained. -/
theorem isolates_iff (doesNotThrow : ∀ before callback, listener before callback = none)
    (message : Bytes) :
    parser.Isolates listener message ↔ parser.Contains listener message := by
  rw [← crack_returns_iff doesNotThrow]
  constructor
  · exact fun isolates => isolates.returns
  · intro returns
    refine ⟨returns, fun entries updates before => ?_⟩
    have contains := (crack_returns_iff doesNotThrow message).mp returns
    obtain ⟨data, found, isArray⟩ := outcomeMetaUpdates_eq_some_iff.mp updates
    rw [crack_of_messageData found, crackChannel_updates, caught_run, bind_run,
      value_run, isArray]
    dsimp only [Except.mapError]
    rw [crackOutcomeMetaUpdates_run doesNotThrow entries (contains.expiries entries updates)]

end

end WebsocketMessageParser

def silent : MessageHandler := fun _ _ => none

/-- A parser that validates and knows one document. -/
def parserOf (message : Value) : WebsocketMessageParser where
  validateJson := true
  document := recorded [message]
  zlib := {
    Stream := Empty
    inflateInit2 := fun _ => none
    inflate := fun stream => stream.elim
    remaining := fun stream => stream.elim
    progress := fun {stream} => stream.elim }
  malformed := fun _ _ => return
  malformedCtxs := fun _ _ => return

/-- An outcome with this expiry is created. -/
def createdEntry (expiry : String) : Value :=
  .ofMembers [("outcomeCreated", .ofMembers [("outcome", .number (utf8 "1")),
    ("name", .ofText "BTC"), ("description", .ofText ("class:priceBinary|expiry:" ++ expiry)),
    ("sideSpecs", .array (utf8 "[]") [])])]

def settledEntry : Value := .ofMembers [("outcomeSettled", .number (utf8 "17424"))]

def updatesMessage (entries : List Value) : Value :=
  .ofMembers [("channel", .ofText "outcomeMetaUpdates"),
    ("data", .array (utf8 "[" ++ List.intercalate (utf8 ",") (entries.map Value.toJsonString) ++
      utf8 "]") entries)]

set_option maxRecDepth 4000 in
/-- An expiry that is a date, and an entry without a description. -/
theorem isolates_iff_dated :
    (parserOf (updatesMessage [createdEntry "20260131-1200", settledEntry])).Isolates silent
      (updatesMessage [createdEntry "20260131-1200", settledEntry]).toJsonString := by
  refine (WebsocketMessageParser.isolates_iff (fun _ _ => rfl) _).mpr ⟨?_, ?_, ?_⟩
  · intro entries updates
    obtain rfl : [createdEntry "20260131-1200", settledEntry] = entries :=
      Option.some.inj updates
    have created : createdDescription (createdEntry "20260131-1200") =
        some (utf8 "class:priceBinary|expiry:20260131-1200") := by decide +kernel
    have settled : createdDescription settledEntry = none := by decide +kernel
    have expiries : Rest.expiriesOf (utf8 "class:priceBinary|expiry:20260131-1200") =
        [utf8 "20260131-1200"] := by decide +kernel
    refine List.forall_mem_cons.mpr ⟨?_, List.forall_mem_cons.mpr ⟨?_, ?_⟩⟩
    · intro desc isDesc
      obtain rfl := Option.some.inj (created.symm.trans isDesc)
      rw [expiries]
      refine List.forall_mem_singleton.mpr ⟨?_, ?_, ?_, ?_, ?_⟩
      · exact ⟨by decide, 2026, by decide +kernel⟩
      · exact ⟨by decide, 1, by decide +kernel⟩
      · exact ⟨by decide, 31, by decide +kernel⟩
      · exact ⟨by decide, 12, by decide +kernel⟩
      · exact ⟨by decide, 0, by decide +kernel⟩
    · intro desc isDesc
      rw [settled] at isDesc
      cases isDesc
    · exact fun _ impossible => absurd impossible List.not_mem_nil
  · intro unchecked
    cases unchecked.1
  · intro text _ unchecked
    cases unchecked.1

set_option maxRecDepth 4000 in
/-- The entry after the one whose expiry is no date is not delivered. -/
theorem malformedExpiry_not_isolated :
    (parserOf (updatesMessage [createdEntry "tomorrow", settledEntry])).outcomeMetaUpdates
        (updatesMessage [createdEntry "tomorrow", settledEntry]).toJsonString =
        some [createdEntry "tomorrow", settledEntry] ∧
      (decodedUpdate settledEntry).isSome = true ∧
      (((parserOf (updatesMessage [createdEntry "tomorrow", settledEntry])).crack silent
        (updatesMessage [createdEntry "tomorrow", settledEntry]).toJsonString).run []).2.length = 0 ∧
      ¬ (parserOf (updatesMessage [createdEntry "tomorrow", settledEntry])).Isolates silent
        (updatesMessage [createdEntry "tomorrow", settledEntry]).toJsonString := by
  refine ⟨rfl, by decide +kernel, by decide +kernel, fun isolates => ?_⟩
  have returned := congrArg Except.toOption (isolates.returns [])
  revert returned
  decide +kernel

end HyperliquidSdk.Websocket
