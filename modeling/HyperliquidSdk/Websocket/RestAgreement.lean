import HyperliquidSdk.Foundation.DecimalText
import HyperliquidSdk.Foundation.ObjectSearch
import HyperliquidSdk.Foundation.ReaderRuns
import HyperliquidSdk.Rest.DecoderRuns
import HyperliquidSdk.Rest.OrderParsers
import HyperliquidSdk.Websocket.WebsocketMessageParser

/-!
# Agreement of the two parsers

Some objects are decoded by the parser of responses and by that of messages. What the two
make of an object is compared construct by construct, where both come to an end.
-/

set_option autoImplicit false

namespace HyperliquidSdk.Websocket

open Foundation Foundation.OnDemand Foundation.OnDemand.Reader

variable {ρ α β γ δ : Type}

/-- If the decoder and the reader both come to their end, this holds of what they end with. -/
structure Agree (decoder : Rest.Decoder ρ α) (object : Object) (response : ρ)
    (reader : Reader Unit β) (other : Object) (Finished : α → Object → ρ → β → Object → Prop) :
    Prop where
  finished : ∀ {value rest after read otherRest},
    Rest.decode decoder object response = .ok (.ok (value, rest), after) →
    readFrom reader other () = (.ok (read, otherRest), ()) →
      Finished value rest after read otherRest

namespace Agree

variable {object other : Object} {response : ρ}

theorem pure {value : α} {read : β} {Finished : α → Object → ρ → β → Object → Prop}
    (finished : Finished value object response read other) :
    Agree (pure value) object response (pure read) other Finished := by
  constructor
  intro _ _ _ _ _ decoded readFinished
  cases decoded
  cases readFinished
  exact finished

theorem bind {first : Rest.Decoder ρ α} {next : α → Rest.Decoder ρ γ} {reader : Reader Unit β}
    {nextReader : β → Reader Unit δ} {Finished : γ → Object → ρ → δ → Object → Prop}
    (agree : Agree first object response reader other fun value rest after read otherRest =>
      Agree (next value) rest after (nextReader read) otherRest Finished) :
    Agree (first >>= next) object response (reader >>= nextReader) other Finished := by
  constructor
  intro _ _ _ _ _ decoded readFinished
  obtain ⟨_, _, _, firstDecoded, nextDecoded⟩ := Rest.decode_bind_eq_ok decoded
  obtain ⟨_, _, _, firstRead, nextRead⟩ := readFrom_bind_eq_ok readFinished
  exact (agree.finished firstDecoded firstRead).finished nextDecoded nextRead

/-- The reader is at its end. -/
theorem ended {decoder : Rest.Decoder ρ α} {read : β}
    {Finished : α → Object → ρ → β → Object → Prop}
    (ensures : Rest.Ensures decoder object response (fun _ => True) fun value rest after =>
      Finished value rest after read other) :
    Agree decoder object response (Pure.pure read) other Finished := by
  constructor
  intro _ _ _ _ _ decoded readFinished
  cases readFinished
  exact ensures.finished decoded

theorem mono {decoder : Rest.Decoder ρ α} {reader : Reader Unit β}
    {Finished StillFinished : α → Object → ρ → β → Object → Prop}
    (agree : Agree decoder object response reader other Finished)
    (finished : ∀ {value rest after read otherRest}, Finished value rest after read otherRest →
      StillFinished value rest after read otherRest) :
    Agree decoder object response reader other StillFinished :=
  ⟨fun decoded readFinished => finished (agree.finished decoded readFinished)⟩

theorem read {extracted : Except Error α} {otherExtracted : Except Error β}
    {Finished : α → Object → ρ → β → Object → Prop}
    (finished : ∀ value read, extracted = .ok value → otherExtracted = .ok read →
      Finished value object response read other) :
    Agree (liftM extracted) object response (liftM otherExtracted) other Finished := by
  constructor
  intro _ _ _ _ _ decoded readFinished
  cases extracted with
  | error error => cases decoded
  | ok value =>
      cases otherExtracted with
      | error error => cases readFinished
      | ok read =>
          cases decoded
          cases readFinished
          exact finished _ _ rfl rfl

/-- Objects that are read on their own; the places in the outer ones stay. -/
theorem within {inner otherInner : Object} {decoder : Rest.Decoder ρ α} {reader : Reader Unit β}
    {Finished : α → Object → ρ → β → Object → Prop}
    (agree : Agree decoder inner response reader otherInner fun value _ after read _ =>
      Finished value object after read other) :
    Agree (Rest.within inner decoder) object response (within otherInner reader) other
      Finished := by
  constructor
  intro _ _ _ _ _ decoded readFinished
  obtain ⟨rfl, _, innerDecoded⟩ := Rest.decode_within_eq_ok decoded
  obtain ⟨rfl, _, innerRead⟩ := readFrom_within_eq_ok readFinished
  exact agree.finished innerDecoded innerRead

/-- A part that both read only if something is there. -/
theorem optionally (value : Option α) {decoder : α → Rest.Decoder ρ β}
    {reader : α → Reader Unit β} {Finished : Option β → Object → ρ → Option β → Object → Prop}
    (absent : value = none → Finished none object response none other)
    (present : ∀ part, value = some part → Agree (decoder part) object response (reader part) other
      fun decoded rest after read otherRest =>
        Finished (some decoded) rest after (some read) otherRest) :
    Agree (value.mapM decoder) object response (value.mapM reader) other Finished := by
  cases value with
  | none => exact .pure (absent rfl)
  | some part => exact .bind ((present part rfl).mono fun finished => .pure finished)

end Agree

/-! ## Numbers -/

/-- The strings of these names are decimal numbers. -/
def NumericText (names : List String) (object : Object) : Prop :=
  ∀ field ∈ object, ∀ name ∈ names, field.1.raw = utf8 name →
    ∀ text, field.2.getString = .ok text → ∃ number : PlainDecimal, number.text = text

theorem numericText_of_isText {names : List String} {object : Object}
    (each : (object.all fun field => names.all fun name =>
      field.1.raw ≠ utf8 name || (field.2.getString.toOption.all PlainDecimal.isText)) = true) :
    NumericText names object := by
  intro field present name listed named text isText
  have checked := List.all_eq_true.mp (List.all_eq_true.mp each field present) name listed
  rw [isText] at checked
  refine PlainDecimal.of_isText ?_
  simpa [named, Except.toOption] using checked

/-- The conversion that throws and the one that does not give the same, if it does not throw. -/
theorem toDouble_agrees (number : PlainDecimal) {object rest : Object} {response after : ρ}
    {value : Double}
    (decoded : Rest.decode (Rest.toDouble number.text) object response =
      .ok (.ok (value, rest), after)) :
    toDouble number.text = value ∧ rest = object ∧ after = response := by
  have nonempty : ¬ number.text.isEmpty = true := by
    simpa using number.text_ne_nil
  unfold Rest.toDouble at decoded
  rw [if_neg nonempty, Rest.Performs.perform] at decoded
  cases converted : stod number.text with
  | error error =>
      simp [Rest.convert, converted, Except.mapError] at decoded
  | ok double =>
      simp only [Rest.convert, converted, Except.mapError] at decoded
      cases decoded
      refine ⟨?_, rfl, rfl⟩
      rw [toDouble, number.fromChars_of_stod converted]
      rfl

/-! ## Fields -/

/-- An object with the places where the decoder and the reader are, and its numeric fields. -/
structure Reading (numbers : List String) (start : Object) (Places : Object → Object → Prop) :
    Prop where
  alike : start.SearchesAlike Places
  numeric : NumericText numbers start

/-- The value is that of a field of this name. -/
def MemberOf (start : Object) (name : String) (member : Value) : Prop :=
  ∃ key, (key, member) ∈ start ∧ key.raw = utf8 name

namespace Reading

variable {numbers : List String} {start object other : Object} {Places : Object → Object → Prop}
  {response : ρ}

theorem field (reading : Reading numbers start Places) (places : Places object other)
    {name : String} {Finished : Value → Object → ρ → Value → Object → Prop}
    (finished : ∀ {member rest otherRest}, MemberOf start name member → Places rest otherRest →
      Finished member rest response member otherRest) :
    Agree (Rest.field name) object response (Reader.field name) other Finished := by
  constructor
  intro _ _ _ _ _ decoded readFinished
  rw [readFrom_field] at readFinished
  rcases reading.alike.find places (utf8 name) with
    ⟨-, absent⟩ | ⟨member, rest, otherRest, found, otherFound, next⟩
  · rw [absent] at readFinished
    cases readFinished
  · rw [Rest.decode_field response found] at decoded
    rw [otherFound] at readFinished
    cases decoded
    cases readFinished
    exact finished (reading.alike.member places found) next

/-- A field that both convert. -/
theorem fieldOf (reading : Reading numbers start Places) (places : Places object other)
    {name : String} {convert : Value → Except Error α} {otherConvert : Value → Except Error β}
    {Finished : α → Object → ρ → β → Object → Prop}
    (finished : ∀ {member value read rest otherRest}, MemberOf start name member →
      convert member = .ok value → otherConvert member = .ok read → Places rest otherRest →
      Finished value rest response read otherRest) :
    Agree (do liftM (convert (← Rest.field name))) object response
      (do liftM (otherConvert (← Reader.field name))) other Finished :=
  .bind (reading.field places fun isMember next => .read fun _ _ converted otherConverted =>
    finished isMember converted otherConverted next)

/-- A field that both convert in one way. -/
theorem same (reading : Reading numbers start Places) (places : Places object other)
    {name : String} {convert : Value → Except Error α}
    {Finished : α → Object → ρ → α → Object → Prop}
    (finished : ∀ {member value rest otherRest}, MemberOf start name member →
      convert member = .ok value → Places rest otherRest →
      Finished value rest response value otherRest) :
    Agree (do liftM (convert (← Rest.field name))) object response
      (do liftM (convert (← Reader.field name))) other Finished := by
  refine reading.fieldOf places fun isMember converted otherConverted next => ?_
  rw [converted] at otherConverted
  cases otherConverted
  exact finished isMember converted next

theorem side (reading : Reading numbers start Places) (places : Places object other) {name : String}
    {Finished : UInt8 → Object → ρ → UInt8 → Object → Prop}
    (finished : ∀ {value rest otherRest}, Places rest otherRest →
      Finished value rest response value otherRest) :
    Agree (Rest.sideField name) object response (sideField name) other Finished :=
  .bind (reading.same places fun _ _ next => .pure (finished next))

/-- The decoder converts the text of a number as the reader does, if it does not throw. -/
theorem text (reading : Reading numbers start Places) {name : String} (listed : name ∈ numbers)
    {member : Value} (isMember : MemberOf start name member) {sv : Bytes}
    (isText : member.getString = .ok sv) {Finished : Double → Object → ρ → Prop}
    (finished : Finished (toDouble sv) object response) :
    Rest.Ensures (Rest.toDouble sv) object response (fun _ => True) Finished := by
  obtain ⟨key, present, named⟩ := isMember
  obtain ⟨number, rfl⟩ := reading.numeric _ present name listed named sv isText
  refine ⟨fun _ => trivial, fun decoded => ?_⟩
  obtain ⟨rfl, rfl, rfl⟩ := toDouble_agrees number decoded
  exact finished

theorem double (reading : Reading numbers start Places) (places : Places object other)
    {name : String} (listed : name ∈ numbers)
    {Finished : Double → Object → ρ → Double → Object → Prop}
    (finished : ∀ {value rest otherRest}, Places rest otherRest →
      Finished value rest response value otherRest) :
    Agree (Rest.doubleField name) object response (doubleTextField name) other Finished :=
  .bind (reading.same places fun isMember isText next =>
    .ended (reading.text listed isMember isText (finished next)))

/-- A field that both take only if it is there and has the type. -/
theorem optional (reading : Reading numbers start Places) (places : Places object other)
    {name : String} {convert : Value → Except Error α}
    {Finished : Option α → Object → ρ → Option α → Object → Prop}
    (finished : ∀ {value rest otherRest},
      (∀ converted ∈ value, ∃ member, MemberOf start name member ∧ convert member = .ok converted) →
      Places rest otherRest → Finished value rest response value otherRest) :
    Agree (Rest.optionalField convert name) object response (optionalField convert name) other
      Finished := by
  constructor
  intro _ _ _ _ _ decoded readFinished
  rw [Rest.decode_optionalField] at decoded
  rw [readFrom_optionalField] at readFinished
  rcases reading.alike.find places (utf8 name) with
    ⟨absent, otherAbsent⟩ | ⟨member, rest, otherRest, found, otherFound, next⟩
  · rw [absent] at decoded
    rw [otherAbsent] at readFinished
    cases decoded
    cases readFinished
    exact finished (fun _ impossible => by cases impossible) places
  · rw [found] at decoded
    rw [otherFound] at readFinished
    cases decoded
    cases readFinished
    refine finished (fun converted isConverted => ?_) next
    exact ⟨member, reading.alike.member places found, toOption_eq_some_iff.mp isConverted⟩

end Reading

end HyperliquidSdk.Websocket
