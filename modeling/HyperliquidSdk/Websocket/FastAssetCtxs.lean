import HyperliquidSdk.Websocket.InflateLoop
import HyperliquidSdk.Websocket.StreamingEntries

/-!
# Compressed contexts

The channel whose data is the base64 text of a compressed object. From the text of a message to
the callbacks: the payload is decoded and inflated as a whole, and each member of its object
that is an object has a callback.
-/

set_option autoImplicit false

namespace HyperliquidSdk.Websocket

open Foundation Foundation.OnDemand Foundation.OnDemand.Reader Foundation.Throwing Cracker

variable {listener : MessageHandler}

/-! ## One context -/

/-- The text of the member of a name, if it is a string. -/
def textOf (name : String) (entry : Object) : Option Bytes :=
  (entry.find (utf8 name)).bind fun found => found.1.getString.toOption

def publishedPx (text : Option Bytes) : Bool × Double :=
  match text with
  | some text => (true, toDouble text)
  | none => (false, .zero)

/-- The context that an entry says the coin has. -/
def publishedCtx (coin : Bytes) (entry : Object) : FastAssetCtx where
  coin := coin
  hasMarkPx := (publishedPx (textOf "markPx" entry)).1
  markPx := (publishedPx (textOf "markPx" entry)).2
  hasMidPx := (publishedPx (textOf "midPx" entry)).1
  midPx := (publishedPx (textOf "midPx" entry)).2

/-- What a member of the payload reads as on its own. -/
def decodedCtx (field : Key × Value) : Option FastAssetCtx :=
  decoded (parseFastAssetCtx field.1.unescaped) field.2

theorem parsePx_run (key : String) (entry : Object) :
    ∃ rest, readFrom (parsePx key) entry () = (.ok (publishedPx (textOf key entry), rest), ()) ∧
      rest.Perm entry := by
  have searched := readFrom_optionalField Value.getString key entry ()
  unfold parsePx textOf
  cases found : entry.find (utf8 key) with
  | none =>
      rw [found] at searched
      exact ⟨entry, readFrom_bind_ok searched, .refl entry⟩
  | some outcome =>
      obtain ⟨member, rest⟩ := outcome
      rw [found] at searched
      refine ⟨rest, (readFrom_bind_ok searched).trans ?_, Object.find_perm found⟩
      dsimp only [Option.bind_some]
      cases member.getString with
      | error error => rfl
      | ok text => rfl

/-- The search for a name does not depend on where it starts. -/
theorem textOf_perm {first second : Object} (distinct : first.DistinctNames)
    (same : second.Perm first) (name : String) : textOf name second = textOf name first := by
  have places : Object.AnyPlaces first second first := ⟨same, .refl first⟩
  unfold textOf
  rcases (Object.anyPlaces_alike distinct).find places (utf8 name) with
    ⟨inSecond, inFirst⟩ | ⟨member, rest, otherRest, inSecond, inFirst, -⟩
  · rw [inSecond, inFirst]
  · rw [inSecond, inFirst]
    rfl

/-- Whatever the members of an entry are, it is read. -/
theorem parseFastAssetCtx_ok (coin : Bytes) (entry : Object) :
    ∃ ctx, (read entry () (parseFastAssetCtx coin)).1 = .ok ctx ∧
      (entry.DistinctNames → ctx = publishedCtx coin entry) := by
  obtain ⟨afterMark, ranMark, sameMark⟩ := parsePx_run "markPx" entry
  obtain ⟨afterMid, ranMid, -⟩ := parsePx_run "midPx" afterMark
  have ran : readFrom (parseFastAssetCtx coin) entry () =
      (.ok ({ coin,
              hasMarkPx := (publishedPx (textOf "markPx" entry)).1
              markPx := (publishedPx (textOf "markPx" entry)).2
              hasMidPx := (publishedPx (textOf "midPx" afterMark)).1
              midPx := (publishedPx (textOf "midPx" afterMark)).2 }, afterMid), ()) :=
    (readFrom_bind_ok ranMark).trans ((readFrom_bind_ok ranMid).trans rfl)
  refine ⟨_, congrArg Prod.fst (read_ok ran), fun distinct => ?_⟩
  rw [textOf_perm distinct sameMark]
  rfl

/-- Where no two members of an entry have one name, their order does not matter. -/
theorem decodedCtx_object (key : Key) {raw : Bytes} {entry : Object}
    (distinct : entry.DistinctNames) :
    decodedCtx (key, .object raw entry) = some (publishedCtx key.unescaped entry) := by
  obtain ⟨ctx, ran, published⟩ := parseFastAssetCtx_ok key.unescaped entry
  show (read entry () (parseFastAssetCtx key.unescaped)).1.toOption = _
  rw [ran, published distinct]
  rfl

/-- Only an object is a context. -/
theorem decodedCtx_isSome_iff (field : Key × Value) :
    (decodedCtx field).isSome ↔ ∃ raw entry, field.2 = .object raw entry := by
  obtain ⟨key, member⟩ := field
  cases member with
  | object raw entry =>
      obtain ⟨ctx, ran, -⟩ := parseFastAssetCtx_ok key.unescaped entry
      refine iff_of_true ?_ ⟨raw, entry, rfl⟩
      show (read entry () (parseFastAssetCtx key.unescaped)).1.toOption.isSome = true
      rw [ran]
      rfl
  | _ =>
      refine iff_of_false Bool.false_ne_true ?_
      rintro ⟨raw, entry, same⟩
      cases same

/-! ## The payload -/

theorem Delivers.caught_error {body : Cracker Unit} (error : Error)
    (throws : body = throw (.simdjson error)) : Delivers listener (Cracker.caught body) [] := by
  subst throws
  exact fun before => (List.append_nil before).symm

namespace WebsocketMessageParser

variable (parser : WebsocketMessageParser)

/-- The members of the text's object; a text that is no object has none. -/
def payloadMembers (text : Bytes) : Object :=
  ((parser.document text).bind Value.getObject).toOption.getD []

/-- The contexts of the members, in order, without those that are not objects. -/
def payloadCallbacks (text : Bytes) : List Callback :=
  (parser.payloadMembers text).filterMap fun field => (decodedCtx field).map .onFastAssetCtx

theorem crackFastAssetCtxsObject_delivers (fields : Object) :
    Delivers listener (crackFastAssetCtxsObject listener fields)
      (fields.filterMap fun field => (decodedCtx field).map .onFastAssetCtx) := by
  rw [callbacks_eq_flatMap]
  refine .forM (fun (key, member) => ?_) fields
  unfold decodedCtx decoded
  dsimp only
  cases member.getObject with
  | error error => exact .single (.error error) .onFastAssetCtx
  | ok entry => exact .single (read entry () (parseFastAssetCtx key.unescaped)).1 .onFastAssetCtx

theorem payload_delivers {text : Bytes} (checked : ¬ parser.Unchecked text) :
    Delivers listener
      (caught (parser.withDocument listener parser.malformedCtxs text fun doc => do
        crackFastAssetCtxsObject listener (← value doc.getObject)))
      (parser.payloadCallbacks text) := by
  unfold payloadCallbacks payloadMembers withDocument
  cases isDoc : parser.document text with
  | error error =>
      have validates : parser.validateJson = true := by
        by_contra unchecked
        exact checked ⟨Bool.eq_false_iff.mpr unchecked, error, isDoc⟩
      dsimp only
      rw [if_pos validates]
      exact .caught_error error rfl
  | ok doc =>
      dsimp only [Except.bind]
      cases doc.getObject with
      | error error => exact .caught_error error rfl
      | ok fields => exact (crackFastAssetCtxsObject_delivers fields).caught

theorem crackFastAssetCtxs_delivers {base64Data : Bytes}
    (checked : ∀ text, parser.inflated base64Data = some text → ¬ parser.Unchecked text) :
    Delivers listener (parser.crackFastAssetCtxs listener base64Data)
      ((parser.inflated base64Data).toList.flatMap parser.payloadCallbacks) := by
  unfold crackFastAssetCtxs
  unfold inflated at checked ⊢
  cases ran : inflateRawDeflate parser.zlib (base64Decode base64Data) [] with
  | mk finished decompressed =>
      rw [ran] at checked
      cases finished with
      | false => exact .pure ()
      | true =>
          have whole : Delivers listener _ (parser.payloadCallbacks decompressed) :=
            parser.payload_delivers (checked decompressed rfl)
          simpa using whole

end WebsocketMessageParser

/-! ## Messages of the channel -/

/-- If the handler does not throw an exception, exactly these callbacks are made. -/
theorem crack_delivers (parser : WebsocketMessageParser) {message channel : Bytes}
    {data : Except Error Value} {callbacks : List Callback}
    (found : parser.messageData message = some (channel, data))
    (delivers : Delivers listener (parser.crackChannel listener channel data) callbacks)
    (before : List Callback) :
    (parser.crack listener message).run before = (.ok (), before ++ callbacks) ∨
      ∃ exception earlier callback made,
        listener earlier callback = some (.exception exception) ∧ made <+: callbacks ∧
        (parser.crack listener message).run before =
          (.error (.exception exception), before ++ made) := by
  have ended := delivers.caught before
  rw [← WebsocketMessageParser.crack_of_messageData found] at ended
  cases ran : (parser.crack listener message).run before with
  | mk result after =>
      rw [ran] at ended
      cases result with
      | ok done =>
          obtain rfl : after = before ++ callbacks := ended
          exact .inl rfl
      | error thrown =>
          obtain ⟨⟨exception, earlier, callback, rfl, threw⟩, made, isPrefix, rfl⟩ := ended
          exact .inr ⟨exception, earlier, callback, made, threw, isPrefix, rfl⟩

/-- The payload is inflated to its end or not delivered at all. Each member of its object is
delivered in its place exactly if it is an object. The inflated text is validated, or it is a
document: of any other text the members up to the error would be delivered. -/
theorem fast_contexts_delivered {format : Decompressor} (inflater : Inflater format)
    {parser : WebsocketMessageParser} (documented : parser.zlib = inflater.zlib)
    {message base64Data : Bytes} {data : Value}
    (found : parser.messageData message = some (utf8 "fastAssetCtxs", .ok data))
    (isText : data.getString = .ok base64Data) (short : base64Data.length < 2 ^ 32)
    (checked : ¬ parser.Unchecked (format.decompress (base64Decode base64Data)).output) :
    ∃ callbacks,
      (inflater.ReachesEnd (base64Decode base64Data) →
        callbacks = parser.payloadCallbacks (format.decompress (base64Decode base64Data)).output) ∧
      (¬ inflater.ReachesEnd (base64Decode base64Data) → callbacks = []) ∧
      (∀ field, (decodedCtx field).isSome ↔ ∃ raw entry, field.2 = .object raw entry) ∧
      (∀ key raw entry, Object.DistinctNames entry →
        decodedCtx (key, .object raw entry) = some (publishedCtx key.unescaped entry)) ∧
      ∀ (listener : MessageHandler) (before : List Callback),
        (parser.crack listener message).run before = (.ok (), before ++ callbacks) ∨
        ∃ exception earlier callback made,
          listener earlier callback = some (.exception exception) ∧ made <+: callbacks ∧
          (parser.crack listener message).run before =
            (.error (.exception exception), before ++ made) := by
  have inflates {text : Bytes} : parser.inflated base64Data = some text ↔ _ :=
    inflated_eq_some_iff inflater documented short
  refine ⟨(parser.inflated base64Data).toList.flatMap parser.payloadCallbacks, ?reached, ?stopped,
    decodedCtx_isSome_iff, fun key raw entry => decodedCtx_object key, fun listener before => ?run⟩
  case reached =>
    intro reaches
    rw [inflates.mpr ⟨reaches, rfl⟩]
    simp
  case stopped =>
    intro stops
    have nothing : parser.inflated base64Data = none := by
      rw [Option.eq_none_iff_forall_ne_some]
      exact fun text inflated => stops (inflates.mp inflated).1
    rw [nothing]
    rfl
  case run =>
    have onPayload : ∀ text, parser.inflated base64Data = some text → ¬ parser.Unchecked text :=
      fun text inflated => (inflates.mp inflated).2 ▸ checked
    refine crack_delivers parser found ?_ before
    rw [WebsocketMessageParser.crackChannel_fastAssetCtxs]
    show Delivers listener (value data.getString >>= parser.crackFastAssetCtxs listener) _
    rw [isText]
    exact parser.crackFastAssetCtxs_delivers onPayload

/-- A context without a mid, and a member that is no context. -/
def contextsPayload : Value :=
  .ofMembers [("A", .ofMembers [("midPx", .null), ("markPx", .ofText "1")]),
    ("B", .number (utf8 "7"))]

/-- The payload as one stored block. -/
def contextsData : String := "AScA2P97IkEiOnsibWlkUHgiOm51bGwsIm1hcmtQeCI6IjEifSwiQiI6N30="

def contextsMessage : Value :=
  .ofMembers [("channel", .ofText "fastAssetCtxs"), ("data", .ofText contextsData)]

def contextsParser : WebsocketMessageParser :=
  { parserOf contextsMessage with
    document := recorded [contextsMessage, contextsPayload]
    zlib := (Inflater.ofDecompressor storedBlocks).zlib }

set_option maxRecDepth 4000 in
theorem fast_contexts_delivered_stored :
    (contextsParser.crack silent contextsMessage.toJsonString).run [] =
      (.ok (), [.onFastAssetCtx
        { coin := utf8 "A", hasMarkPx := true, markPx := toDouble (utf8 "1") }]) := by
  have decoded :
      base64Decode (utf8 contextsData) = storedBlock true contextsPayload.toJsonString := by
    decide +kernel
  have short : contextsPayload.toJsonString.length < 2 ^ 16 := by decide
  have block := inflateStored_block true short []
  rw [List.append_nil, ← decoded] at block
  have found : contextsParser.messageData contextsMessage.toJsonString =
      some (utf8 "fastAssetCtxs", .ok (.ofText contextsData)) := rfl
  have validates : ∀ text, ¬ contextsParser.Unchecked text := fun text unchecked => by
    cases unchecked.1
  obtain ⟨callbacks, reached, -, -, -, delivered⟩ :=
    fast_contexts_delivered (Inflater.ofDecompressor storedBlocks) rfl found rfl (by decide)
      (validates _)
  have output : callbacks = contextsParser.payloadCallbacks contextsPayload.toJsonString := by
    rw [reached ⟨rfl, congrArg Inflation.ending block⟩]
    exact congrArg contextsParser.payloadCallbacks (congrArg Inflation.output block)
  subst output
  rcases delivered silent [] with returned | ⟨exception, earlier, callback, made, threw, -⟩
  · exact returned
  · cases threw

end HyperliquidSdk.Websocket
