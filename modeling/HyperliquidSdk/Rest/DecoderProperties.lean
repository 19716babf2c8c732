import HyperliquidSdk.Rest.OrderParsers

/-!
# Decoders that convert nothing

A decoder that only reads strings, flags and whole numbers makes no call that could
throw anything else than a `simdjson_error`. The parser of the exchange responses is one.
-/

set_option autoImplicit false

namespace HyperliquidSdk.Rest

open Foundation Foundation.OnDemand

variable {ρ α β : Type}

/-- Started anywhere, the decoder makes no conversion. -/
def ConvertsNothing (decoder : Decoder ρ α) : Prop :=
  ∀ object response, ∃ outcome, (decoder.run object).run.run response = .pure outcome

namespace ConvertsNothing

theorem pure (value : α) : ConvertsNothing (pure value : Decoder ρ α) :=
  fun _ _ => ⟨_, rfl⟩

theorem bind {first : Decoder ρ α} {next : α → Decoder ρ β} (before : ConvertsNothing first)
    (after : ∀ value, ConvertsNothing (next value)) : ConvertsNothing (first >>= next) := by
  intro object response
  obtain ⟨⟨result, middle⟩, ran⟩ := before object response
  cases result with
  | error error =>
      refine ⟨(.error error, middle), ?_⟩
      show Program.bind _ ((first.run object).run.run response) = _
      rw [ran]
      rfl
  | ok step =>
      obtain ⟨outcome, ranNext⟩ := after step.1 step.2 middle
      refine ⟨outcome, ?_⟩
      show Program.bind _ ((first.run object).run.run response) = _
      rw [ran]
      exact ranNext

theorem read (extracted : Except Error α) :
    ConvertsNothing (liftM extracted : Decoder ρ α) := by
  intro object response
  cases extracted <;> exact ⟨_, rfl⟩

theorem modify (change : ρ → ρ) : ConvertsNothing (modifyThe ρ change : Decoder ρ Unit) :=
  fun _ _ => ⟨_, rfl⟩

theorem write (response : ρ) : ConvertsNothing (set response : Decoder ρ PUnit) :=
  fun _ _ => ⟨_, rfl⟩

theorem current : ConvertsNothing (getThe Object : Decoder ρ Object) :=
  fun _ _ => ⟨_, rfl⟩

theorem move (object : Object) : ConvertsNothing (set object : Decoder ρ PUnit) :=
  fun _ _ => ⟨_, rfl⟩

theorem throws (error : Error) : ConvertsNothing (throw error : Decoder ρ α) :=
  fun _ _ => ⟨_, rfl⟩

theorem field (key : String) : ConvertsNothing (field key : Decoder ρ Value) := by
  unfold Rest.field
  refine bind current fun object => ?_
  cases object.find (utf8 key) with
  | none => exact throws .noSuchField
  | some found => exact bind (move found.2) fun _ => pure found.1

theorem optionalField (read : Value → Except Error α) (key : String) :
    ConvertsNothing (optionalField read key : Decoder ρ (Option α)) := by
  unfold Rest.optionalField
  refine bind current fun object => ?_
  cases object.find (utf8 key) with
  | none => exact pure none
  | some found => exact bind (move found.2) fun _ => pure (read found.1).toOption

/-- A step that depends on whether there is a value. -/
theorem onOption {run : Option α → Decoder ρ β} (missing : ConvertsNothing (run none))
    (there : ∀ value, ConvertsNothing (run (some value))) : ∀ value, ConvertsNothing (run value)
  | none => missing
  | some value => there value

theorem stringField (key : String) : ConvertsNothing (stringField key : Decoder ρ Bytes) :=
  bind (field key) fun value => read value.getString

theorem boolField (key : String) : ConvertsNothing (boolField key : Decoder ρ Bool) :=
  bind (field key) fun value => read value.getBool

theorem uint64Field (key : String) : ConvertsNothing (uint64Field key : Decoder ρ UInt64) :=
  bind (field key) fun value => read value.getUInt64

theorem presentField (key : String) :
    ConvertsNothing (presentField key : Decoder ρ (Option Value)) :=
  bind (optionalField .ok key) fun _ => pure _

theorem objectField (key : String) : ConvertsNothing (objectField key : Decoder ρ Object) :=
  bind (field key) fun value => read value.getObject

theorem intField (key : String) : ConvertsNothing (intField key : Decoder ρ Int32) :=
  bind (field key) fun value => read (getInt value)

theorem arrayField (key : String) :
    ConvertsNothing (arrayField key : Decoder ρ (List Value)) :=
  bind (field key) fun value => read value.getArray

theorem forM {body : α → Decoder ρ PUnit} {items : List α}
    (each : ∀ item, ConvertsNothing (body item)) : ConvertsNothing (items.forM body) := by
  induction items with
  | nil => exact pure _
  | cons item items ih => exact bind (each item) fun _ => ih

theorem mapM {body : α → Decoder ρ β} {items : List α}
    (each : ∀ item, ConvertsNothing (body item)) : ConvertsNothing (items.mapM body) := by
  induction items with
  | nil =>
      rw [List.mapM_nil]
      exact pure []
  | cons item items ih =>
      rw [List.mapM_cons]
      exact bind (each item) fun _ => bind ih fun _ => pure _

theorem filterMapM {body : α → Decoder ρ (Option β)} {items : List α}
    (each : ∀ item, ConvertsNothing (body item)) : ConvertsNothing (items.filterMapM body) := by
  have loop (items : List α) : ∀ collected,
      ConvertsNothing (List.filterMapM.loop body items collected) := by
    induction items with
    | nil => exact fun collected => pure collected.reverse
    | cons item items ih =>
        intro collected
        refine bind (each item) fun decoded => ?_
        cases decoded with
        | none => exact ih collected
        | some value => exact ih (value :: collected)
  exact loop items []

theorem optionMapM {body : α → Decoder ρ β} {item : Option α}
    (each : ∀ item, ConvertsNothing (body item)) : ConvertsNothing (item.mapM body) := by
  cases item with
  | none => exact pure none
  | some item => exact bind (each item) fun _ => pure _

theorem parsePair {readFirst : Value → Except Error α} {readSecond : Value → Decoder ρ β}
    {entry : Value} (seconds : ∀ value, ConvertsNothing (readSecond value)) :
    ConvertsNothing (parsePair readFirst readSecond entry) := by
  refine bind (read entry.getArray) fun items => ?_
  cases items with
  | nil => exact pure none
  | cons first rest =>
      refine bind (read (readFirst first)) fun _ => ?_
      cases rest with
      | nil => exact pure none
      | cons second others => exact bind (seconds second) fun _ => pure _

theorem within {decoder : Decoder ρ α} (object : Object) (nothing : ConvertsNothing decoder) :
    ConvertsNothing (within object decoder) :=
  bind current fun outer => bind (move object) fun _ => bind nothing fun decoded =>
    bind (move outer) fun _ => pure decoded

theorem unlessNull {skipped decoder : Decoder ρ α} {value : Value}
    (whenNull : ConvertsNothing skipped) (otherwise : ConvertsNothing decoder) :
    ConvertsNothing (if value.isNull then skipped else decoder) := by
  split_ifs with isNull
  · exact whenNull
  · exact otherwise

/-- A value that is an object, read on its own. -/
theorem object {decoder : Decoder ρ α} {value : Value} (nothing : ConvertsNothing decoder) :
    ConvertsNothing (do Rest.within (← value.getObject) decoder) :=
  bind (read value.getObject) fun object => within object nothing

/-- The same for each item, with what is written of it. -/
theorem objects {decoder : Decoder ρ α} {push : α → Decoder ρ PUnit}
    {items : List Value} (nothing : ConvertsNothing decoder)
    (pushes : ∀ decoded, ConvertsNothing (push decoded)) :
    ConvertsNothing (items.forM fun entry => do
      push (← Rest.within (← entry.getObject) decoder)) :=
  forM fun entry => bind (read entry.getObject) fun object =>
    bind (within object nothing) pushes

end ConvertsNothing

theorem decodeSimpleResponse_convertsNothing : ConvertsNothing decodeSimpleResponse := by
  refine .bind (.stringField "status") fun status => .bind (.modify _) fun _ => ?_
  split
  · exact .bind (.objectField "response") fun response =>
      .bind (.within response (.stringField "type")) fun type => .modify _
  · exact .bind (.optionalField _ "response") fun error => .modify _

theorem decodeDocument_eq_pure (document : Bytes → Except Error Value) (message : Bytes)
    {decoder : Value → Decoder ρ Unit} (initial : ρ)
    (nothing : ∀ value, ConvertsNothing (decoder value)) :
    ∃ outcome, decodeDocument document initial message decoder = .pure outcome := by
  unfold decodeDocument
  cases document message with
  | error error => exact ⟨_, rfl⟩
  | ok value =>
      obtain ⟨⟨result, response⟩, ran⟩ := nothing value [] initial
      unfold attempt
      show ∃ outcome, Program.bind _ (((decoder value).run []).run.run initial) = _
      rw [ran]
      cases result with
      | ok step => exact ⟨_, rfl⟩
      | error error => exact ⟨_, rfl⟩

/-- The parser of the exchange responses returns for every text. -/
theorem parseSimpleResponse_returns (document : Bytes → Except Error Value) (message : Bytes) :
    ∃ response, (parseSimpleResponse document message).run convert = .ok response := by
  obtain ⟨⟨parsed, response⟩, decoded⟩ := decodeDocument_eq_pure document message
    ({} : SimpleResponse) fun value =>
      ConvertsNothing.bind (.read value.getObject) fun object =>
        .within object decodeSimpleResponse_convertsNothing
  show ∃ response, Program.run convert
    (Program.bind _ (decodeDocument document ({} : SimpleResponse) message _)) = .ok response
  rw [decoded]
  cases parsed with
  | ok done => exact ⟨response, rfl⟩
  | error error =>
      by_cases unanswered : response.status.isEmpty
      · refine ⟨{ response with status := utf8 "err", error := some message }, ?_⟩
        simp [Program.bind, unanswered, Program.run, Pure.pure]
      · refine ⟨response, ?_⟩
        simp [Program.bind, unanswered, Program.run, Pure.pure]

end HyperliquidSdk.Rest
