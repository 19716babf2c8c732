import HyperliquidSdk.Rest.OutcomeProperties

/-!
# Runs of decoders

What holds after every run of a decoder that returns. A decoder that fails leaves what it
has written, so there is one property for that and one for the end.
-/

set_option autoImplicit false

namespace HyperliquidSdk.Rest

open Foundation Foundation.OnDemand

variable {ρ α β : Type}

/-- A sequence that ends: its first part ends, and the second one from there. -/
theorem decode_bind_eq_ok {first : Decoder ρ α} {next : α → Decoder ρ β} {object rest : Object}
    {response after : ρ} {value : β}
    (ran : decode (first >>= next) object response = .ok (.ok (value, rest), after)) :
    ∃ earlier middle between, decode first object response = .ok (.ok (earlier, middle), between) ∧
      decode (next earlier) middle between = .ok (.ok (value, rest), after) := by
  rw [decode_bind] at ran
  cases started : decode first object response with
  | error exception =>
      rw [started] at ran
      cases ran
  | ok outcome =>
      obtain ⟨result, between⟩ := outcome
      rw [started] at ran
      cases result with
      | error error => cases ran
      | ok step => exact ⟨step.1, step.2, between, rfl, ran⟩

structure Ensures (decoder : Decoder ρ α) (object : Object) (response : ρ)
    (Failed : ρ → Prop) (Finished : α → Object → ρ → Prop) : Prop where
  failed : ∀ {error after}, decode decoder object response = .ok (.error error, after) →
    Failed after
  finished : ∀ {value rest after}, decode decoder object response = .ok (.ok (value, rest), after) →
    Finished value rest after

namespace Ensures

variable {object : Object} {response : ρ} {Failed : ρ → Prop}

theorem of_finishes {decoder : Decoder ρ α} {Finished : α → Object → ρ → Prop} {value : α}
    {rest : Object} {after : ρ} (ran : decode decoder object response = .ok (.ok (value, rest), after))
    (holds : Finished value rest after) : Ensures decoder object response Failed Finished := by
  constructor
  · intro error other returned
    cases ran.symm.trans returned
  · intro other otherRest otherAfter returned
    cases ran.symm.trans returned
    exact holds

theorem of_fails {decoder : Decoder ρ α} {Finished : α → Object → ρ → Prop} {error : Error}
    {after : ρ} (ran : decode decoder object response = .ok (.error error, after))
    (holds : Failed after) : Ensures decoder object response Failed Finished := by
  constructor
  · intro error other returned
    cases ran.symm.trans returned
    exact holds
  · intro value rest other returned
    cases ran.symm.trans returned

theorem pure {value : α} {Finished : α → Object → ρ → Prop}
    (holds : Finished value object response) :
    Ensures (pure value) object response Failed Finished :=
  of_finishes rfl holds

theorem bind {first : Decoder ρ α} {next : α → Decoder ρ β} {Finished : β → Object → ρ → Prop}
    (ensures : Ensures first object response Failed fun value rest middle =>
      Ensures (next value) rest middle Failed Finished) :
    Ensures (first >>= next) object response Failed Finished := by
  constructor
  · intro error after returned
    rw [decode_bind] at returned
    cases started : decode first object response with
    | error exception => simp [started] at returned
    | ok outcome =>
        obtain ⟨result, middle⟩ := outcome
        rw [started] at returned
        cases result with
        | error other => cases returned; exact ensures.failed started
        | ok step => exact (ensures.finished started).failed returned
  · intro value rest after returned
    obtain ⟨earlier, middle, between, started, continued⟩ := decode_bind_eq_ok returned
    exact (ensures.finished started).finished continued

theorem read {extracted : Except Error α} {Finished : α → Object → ρ → Prop}
    (failed : Failed response)
    (finished : ∀ value, extracted = .ok value → Finished value object response) :
    Ensures (liftM extracted : Decoder ρ α) object response Failed Finished := by
  cases extracted with
  | error error => exact of_fails rfl failed
  | ok value => exact of_finishes rfl (finished value rfl)

theorem modify {change : ρ → ρ} {Finished : PUnit → Object → ρ → Prop}
    (holds : Finished ⟨⟩ object (change response)) :
    Ensures (modifyThe ρ change) object response Failed Finished :=
  of_finishes rfl holds

theorem state {Finished : ρ → Object → ρ → Prop} (holds : Finished response object response) :
    Ensures (getThe ρ) object response Failed Finished :=
  of_finishes rfl holds

theorem current {Finished : Object → Object → ρ → Prop} (holds : Finished object object response) :
    Ensures (getThe Object) object response Failed Finished :=
  of_finishes rfl holds

theorem move {next : Object} {Finished : PUnit → Object → ρ → Prop}
    (holds : Finished ⟨⟩ next response) :
    Ensures (set next : Decoder ρ PUnit) object response Failed Finished :=
  of_finishes rfl holds

/-- What the first part returns does not matter. -/
theorem anyway {first : Decoder ρ α} {next : α → Decoder ρ β} {Finished : β → Object → ρ → Prop}
    (ensures : ∀ value rest after, Ensures (next value) rest after (fun _ => True) Finished) :
    Ensures (first >>= next) object response (fun _ => True) Finished :=
  bind ⟨fun _ => trivial, fun _ => ensures _ _ _⟩

theorem mono {decoder : Decoder ρ α} {StillFailed : ρ → Prop}
    {Finished StillFinished : α → Object → ρ → Prop}
    (ensures : Ensures decoder object response Failed Finished)
    (failed : ∀ after, Failed after → StillFailed after)
    (finished : ∀ value rest after, Finished value rest after → StillFinished value rest after) :
    Ensures decoder object response StillFailed StillFinished :=
  ⟨fun returned => failed _ (ensures.failed returned),
    fun returned => finished _ _ _ (ensures.finished returned)⟩

theorem field {key : String} {Finished : Value → Object → ρ → Prop} (failed : Failed response)
    (finished : ∀ value rest, object.find (utf8 key) = some (value, rest) →
      Finished value rest response) :
    Ensures (field key) object response Failed Finished := by
  refine bind (current ?_)
  cases found : object.find (utf8 key) with
  | none => exact of_fails rfl failed
  | some step => exact bind (move (pure (finished step.1 step.2 found)))

theorem fieldOf {key : String} {convert : Value → Except Error α} {Finished : α → Object → ρ → Prop}
    (failed : Failed response)
    (finished : ∀ value rest converted, object.find (utf8 key) = some (value, rest) →
      convert value = .ok converted → Finished converted rest response) :
    Ensures (do liftM (convert (← Rest.field key))) object response Failed Finished :=
  bind (field failed fun value rest found => read failed fun converted isConverted =>
    finished value rest converted found isConverted)

theorem within {inner : Object} {decoder : Decoder ρ α} {Finished : α → Object → ρ → Prop}
    (ensures : Ensures decoder inner response Failed fun value _ after =>
      Finished value object after) :
    Ensures (within inner decoder) object response Failed Finished :=
  bind (current (bind (move (bind (ensures.mono (fun _ failed => failed)
    fun _ _ _ finished => bind (move (pure finished)))))))

/-- Each step adds one result, and a step that fails adds none. -/
theorem forM {body : β → Decoder ρ PUnit} (Decodes : β → α → Prop) (Holds : List α → ρ → Prop)
    (step : ∀ element results object response, Holds results response →
      Ensures (body element) object response (Holds results) fun _ rest after =>
        rest = object ∧ ∃ result, Decodes element result ∧ Holds (results ++ [result]) after)
    (elements : List β) (earlier : List α) (start : Holds earlier response) :
    Ensures (elements.forM body) object response
      (fun after => ∃ results, DecodesPrefix Decodes elements results ∧
        Holds (earlier ++ results) after)
      (fun _ rest after => rest = object ∧ ∃ results, List.Forall₂ Decodes elements results ∧
        Holds (earlier ++ results) after) := by
  induction elements generalizing earlier response with
  | nil => exact pure ⟨rfl, [], .nil, by rwa [List.append_nil]⟩
  | cons element elements ih =>
      refine bind ((step element earlier object response start).mono ?_ ?_)
      · exact fun after holds => ⟨[], decodesPrefix_nil _, by rwa [List.append_nil]⟩
      · intro _ rest middle stepped
        obtain ⟨rfl, result, decodes, holds⟩ := stepped
        refine (ih _ holds).mono ?_ ?_
        · intro after ended
          obtain ⟨results, decoded, holds⟩ := ended
          exact ⟨result :: results, decoded.cons decodes, by rwa [List.append_cons]⟩
        · intro _ rest after ended
          obtain ⟨rfl, results, decoded, holds⟩ := ended
          exact ⟨rfl, result :: results, .cons decodes decoded, by rwa [List.append_cons]⟩

/-- A property of every response that the parser returns. -/
theorem of_parseDocument (Holds : ρ → Prop) {document : Bytes → Except Error Value} {initial : ρ}
    {message : Bytes} {decoder : Value → Decoder ρ Unit} (start : Holds initial)
    (ensures : ∀ value, document message = .ok value →
      Ensures (decoder value) [] initial Holds fun _ _ after => Holds after)
    {response : ρ}
    (returned : (parseDocument document initial message decoder).run convert = .ok response) :
    Holds response := by
  unfold parseDocument decodeDocument at returned
  cases parsed : document message with
  | error error =>
      rw [parsed] at returned
      cases returned
      exact start
  | ok value =>
      rw [parsed] at returned
      dsimp only at returned
      rw [Program.run_bind, attempt_run] at returned
      have ensures := ensures value parsed
      cases ran : decode (decoder value) [] initial with
      | error exception =>
          rw [ran] at returned
          cases returned
      | ok outcome =>
          obtain ⟨result, after⟩ := outcome
          rw [ran] at returned
          cases returned
          cases result with
          | error error => exact ensures.failed ran
          | ok step => exact ensures.finished ran

end Ensures

/-! ## Decoders that only read -/

/-- The decoder neither uses nor changes the response. -/
def OnlyReads (decoder : Decoder ρ α) : Prop :=
  ∀ object, ∃ outcome : Result (Except Error (α × Object)), ∀ response,
    decode decoder object response = (fun result => (result, response)) <$> outcome

namespace OnlyReads

theorem pure (value : α) : OnlyReads (pure value : Decoder ρ α) :=
  fun object => ⟨.ok (.ok (value, object)), fun _ => rfl⟩

theorem bind {first : Decoder ρ α} {next : α → Decoder ρ β} (before : OnlyReads first)
    (after : ∀ value, OnlyReads (next value)) : OnlyReads (first >>= next) := by
  intro object
  obtain ⟨outcome, started⟩ := before object
  cases outcome with
  | error exception =>
      refine ⟨.error exception, fun response => ?_⟩
      rw [decode_bind, started response]
      rfl
  | ok result =>
      cases result with
      | error error =>
          refine ⟨.ok (.error error), fun response => ?_⟩
          rw [decode_bind, started response]
          rfl
      | ok step =>
          obtain ⟨following, continued⟩ := after step.1 step.2
          refine ⟨following, fun response => ?_⟩
          rw [decode_bind, started response]
          exact continued response

theorem read (extracted : Except Error α) : OnlyReads (liftM extracted : Decoder ρ α) := by
  intro object
  cases extracted with
  | error error => exact ⟨.ok (.error error), fun _ => rfl⟩
  | ok value => exact ⟨.ok (.ok (value, object)), fun _ => rfl⟩

theorem current : OnlyReads (getThe Object : Decoder ρ Object) :=
  fun object => ⟨.ok (.ok (object, object)), fun _ => rfl⟩

theorem move (next : Object) : OnlyReads (set next : Decoder ρ PUnit) :=
  fun _ => ⟨.ok (.ok (⟨⟩, next)), fun _ => rfl⟩

theorem throws (error : Error) : OnlyReads (throw error : Decoder ρ α) :=
  fun _ => ⟨.ok (.error error), fun _ => rfl⟩

theorem performs {decoder : Decoder ρ α} {result : Result α} (performs : Performs decoder result) :
    OnlyReads decoder := by
  intro object
  refine ⟨(fun value => .ok (value, object)) <$> result, fun response => ?_⟩
  rw [performs object response]
  cases result <;> rfl

theorem field (key : String) : OnlyReads (field key : Decoder ρ Value) := by
  refine bind current fun object => ?_
  cases object.find (utf8 key) with
  | none => exact throws .noSuchField
  | some found => exact bind (move found.2) fun _ => pure found.1

theorem optionalField (convert : Value → Except Error α) (key : String) :
    OnlyReads (optionalField convert key : Decoder ρ (Option α)) := by
  refine bind current fun object => ?_
  cases object.find (utf8 key) with
  | none => exact pure none
  | some found => exact bind (move found.2) fun _ => pure (convert found.1).toOption

theorem fieldOf (convert : Value → Except Error α) (key : String) :
    OnlyReads (do liftM (convert (← Rest.field key)) : Decoder ρ α) :=
  bind (field key) fun value => read (convert value)

theorem presentField (key : String) : OnlyReads (presentField key : Decoder ρ (Option Value)) :=
  bind (optionalField _ key) fun _ => pure _

theorem within {decoder : Decoder ρ α} (object : Object) (reads : OnlyReads decoder) :
    OnlyReads (within object decoder) :=
  bind current fun outer => bind (move object) fun _ => bind reads fun decoded =>
    bind (move outer) fun _ => pure decoded

theorem optional {decoder : β → Decoder ρ α} (reads : ∀ value, OnlyReads (decoder value))
    (value : Option β) : OnlyReads (value.mapM decoder) := by
  cases value with
  | none => exact pure none
  | some value => exact bind (reads value) fun decoded => pure (some decoded)

theorem mapM {decoder : β → Decoder ρ α} (reads : ∀ item, OnlyReads (decoder item))
    (items : List β) : OnlyReads (items.mapM decoder) := by
  induction items with
  | nil =>
      rw [List.mapM_nil]
      exact pure []
  | cons item items ih =>
      rw [List.mapM_cons]
      exact bind (reads item) fun decoded => bind ih fun others => pure (decoded :: others)

theorem filterMapM {decoder : β → Decoder ρ (Option α)} (reads : ∀ item, OnlyReads (decoder item))
    (items : List β) : OnlyReads (items.filterMapM decoder) := by
  have loop (items : List β) :
      ∀ collected, OnlyReads (List.filterMapM.loop decoder items collected) := by
    induction items with
    | nil => exact fun collected => pure collected.reverse
    | cons item items ih =>
        intro collected
        rw [List.filterMapM.loop]
        refine bind (reads item) fun decoded => ?_
        cases decoded with
        | none => exact ih collected
        | some value => exact ih (value :: collected)
  exact loop items []

theorem toDouble (text : Bytes) : OnlyReads (toDouble text : Decoder ρ Double) := by
  unfold Rest.toDouble
  split
  · exact pure Double.zero
  · exact performs (Performs.perform (.stod text))

theorem doubleField (key : String) : OnlyReads (doubleField key : Decoder ρ Double) :=
  bind (fieldOf _ key) toDouble

theorem toNumber (value : Value) : OnlyReads (toNumber value : Decoder ρ Double) := by
  unfold Rest.toNumber
  cases value.getString with
  | error error => exact read value.getDouble
  | ok text => exact toDouble text

theorem parseNumberField (key : String) : OnlyReads (parseNumberField key : Decoder ρ Double) :=
  bind (field key) toNumber

end OnlyReads

theorem decode_within (inner : Object) (decoder : Decoder ρ α) (object : Object) (response : ρ) :
    decode (within inner decoder) object response =
      (fun outcome => (outcome.1.map fun step => (step.1, object), outcome.2)) <$>
        decode decoder inner response := by
  show decode (set inner >>= fun _ : PUnit => decoder >>= fun decoded =>
    set object >>= fun _ : PUnit => Pure.pure decoded) object response = _
  rw [decode_bind]
  show decode (decoder >>= _) inner response = _
  rw [decode_bind]
  cases decode decoder inner response with
  | error exception => rfl
  | ok outcome =>
      obtain ⟨result, after⟩ := outcome
      cases result <;> rfl

/-- A run whose outcome is only changed: it ended itself. -/
theorem mapped_eq_ok {σ : Type} {change : α → β} {outcome : Result (Except Error α × σ)} {value : β}
    {after : σ}
    (ran : (fun ended => (ended.1.map change, ended.2)) <$> outcome = .ok (.ok value, after)) :
    ∃ earlier, outcome = .ok (.ok earlier, after) ∧ change earlier = value := by
  cases outcome with
  | error exception => cases ran
  | ok ended =>
      obtain ⟨result, between⟩ := ended
      cases result with
      | error error => cases ran
      | ok earlier =>
          cases ran
          exact ⟨earlier, rfl, rfl⟩

theorem decode_within_eq_ok {inner object rest : Object} {decoder : Decoder ρ α} {response after : ρ}
    {value : α}
    (ran : decode (within inner decoder) object response = .ok (.ok (value, rest), after)) :
    rest = object ∧
      ∃ innerRest, decode decoder inner response = .ok (.ok (value, innerRest), after) := by
  rw [decode_within] at ran
  obtain ⟨step, decoded, same⟩ := mapped_eq_ok ran
  cases same
  exact ⟨rfl, step.2, decoded⟩

/-- A decoder that an attempt has brought to its end. -/
theorem attempt_eq_ok {object : Object} {initial after : ρ} {decoder : Decoder ρ Unit}
    (ran : (attempt object initial decoder).run convert = .ok (.ok (), after)) :
    ∃ rest, decode decoder object initial = .ok (.ok ((), rest), after) := by
  rw [attempt_run] at ran
  obtain ⟨step, decoded, -⟩ := mapped_eq_ok ran
  exact ⟨step.2, decoded⟩

/-- A decoder of one element: it starts anywhere and comes back to where it started. -/
def Standalone (decoder : Decoder ρ α) : Prop :=
  ∃ outcome : Result (Except Error α), ∀ object response,
    decode decoder object response =
      (fun result => (result.map (·, object), response)) <$> outcome

namespace Standalone

theorem pure (value : α) : Standalone (pure value : Decoder ρ α) :=
  ⟨.ok (.ok value), fun _ _ => rfl⟩

theorem within {decoder : Decoder ρ α} (object : Object) (reads : OnlyReads decoder) :
    Standalone (within object decoder) := by
  obtain ⟨outcome, ran⟩ := reads object
  refine ⟨(·.map Prod.fst) <$> outcome, fun outer response => ?_⟩
  rw [decode_within, ran response]
  cases outcome with
  | error exception => rfl
  | ok result => cases result <;> rfl

/-- An element that is an object. -/
theorem object {decoder : Decoder ρ α} (element : Value) (reads : OnlyReads decoder) :
    Standalone (do Rest.within (← element.getObject) decoder) := by
  cases element.getObject with
  | error error => exact ⟨.ok (.error error), fun _ _ => rfl⟩
  | ok object =>
      obtain ⟨outcome, ran⟩ := within object reads
      exact ⟨outcome, ran⟩

/-- One run that returns the value says what all others do. -/
theorem performs {decoder : Decoder ρ α} (alone : Standalone decoder) {object rest : Object}
    {response after : ρ} {value : α}
    (returned : decode decoder object response = .ok (.ok (value, rest), after)) :
    Performs decoder (.ok value) ∧ rest = object ∧ after = response := by
  obtain ⟨outcome, ran⟩ := alone
  have here := (ran object response).symm.trans returned
  cases outcome with
  | error exception => cases here
  | ok result =>
      cases result with
      | error error => cases here
      | ok other =>
          cases here
          exact ⟨ran, rfl, rfl⟩

theorem ensures {decoder : Decoder ρ α} (alone : Standalone decoder) {object : Object}
    {response : ρ} {Failed : ρ → Prop} {Finished : α → Object → ρ → Prop}
    (failed : Failed response)
    (finished : ∀ value, Performs decoder (.ok value) → Finished value object response) :
    Ensures decoder object response Failed Finished := by
  constructor
  · intro error after returned
    obtain ⟨outcome, ran⟩ := alone
    have here := (ran object response).symm.trans returned
    cases outcome with
    | error exception => cases here
    | ok result => cases result <;> cases here; exact failed
  · intro value rest after returned
    obtain ⟨performs, rfl, rfl⟩ := alone.performs returned
    exact finished value performs

end Standalone

/-- Elements that are decoded on their own and appended to a list; another part of the response
stays as it is. -/
theorem Ensures.forM_append {γ : Type} (decoder : β → Decoder ρ α) (push : α → ρ → ρ)
    {body : β → Decoder ρ PUnit}
    (bodies : ∀ element, body element = decoder element >>= fun result => modifyThe ρ (push result))
    (alone : ∀ element, Standalone (decoder element)) (results : ρ → List α) (frame : ρ → γ)
    (appends : ∀ result response, results (push result response) = results response ++ [result])
    (keeps : ∀ result response, frame (push result response) = frame response)
    (elements : List β) (object : Object) (response : ρ) :
    Ensures (elements.forM body) object response
      (fun after => ∃ added,
        DecodesPrefix (fun element result => Performs (decoder element) (.ok result)) elements added ∧
          results after = results response ++ added ∧ frame after = frame response)
      (fun _ rest after => rest = object ∧ ∃ added,
        List.Forall₂ (fun element result => Performs (decoder element) (.ok result)) elements added ∧
          results after = results response ++ added ∧ frame after = frame response) := by
  refine Ensures.forM _ (fun added after =>
    results after = results response ++ added ∧ frame after = frame response) ?_ elements []
    ⟨(List.append_nil _).symm, rfl⟩
  intro element added object middle holds
  rw [bodies]
  refine .bind ((alone element).ensures holds fun result performs => ?_)
  refine .modify ⟨rfl, result, performs, ?_, ?_⟩
  · rw [appends, holds.1, List.append_assoc]
  · rw [keeps, holds.2]

/-- A list that the loop fills has decodings of the first elements, whether the loop ends or not. -/
theorem Ensures.forM_prefix {decoder : β → Decoder ρ α} {push : α → ρ → ρ}
    {body : β → Decoder ρ PUnit}
    (bodies : ∀ element, body element = decoder element >>= fun result => modifyThe ρ (push result))
    (alone : ∀ element, Standalone (decoder element)) (results : ρ → List α)
    (appends : ∀ result response, results (push result response) = results response ++ [result])
    (elements : List β) (object : Object) {response : ρ} (start : results response = []) :
    Ensures (elements.forM body) object response
      (fun after => DecodesPrefix (fun element result => Performs (decoder element) (.ok result))
        elements (results after))
      (fun _ _ after => DecodesPrefix (fun element result => Performs (decoder element) (.ok result))
        elements (results after)) := by
  refine (forM_append decoder push bodies alone results (fun _ => ()) appends (fun _ _ => rfl)
    elements object response).mono ?_ ?_
  · intro after ended
    obtain ⟨added, decoded, same, -⟩ := ended
    rw [same, start, List.nil_append]
    exact decoded
  · intro _ _ after ended
    obtain ⟨-, added, decoded, same, -⟩ := ended
    rw [same, start, List.nil_append]
    exact .of_forall₂ decoded

/-! ## Runs on what is well formed -/

/-- What a run gives, if it comes to its end. -/
def valueOf : Result (Except Error (α × Object) × ρ) → Option α
  | .ok (.ok (value, _), _) => some value
  | _ => none

theorem Standalone.performs_of_valueOf {decoder : Decoder ρ α} (alone : Standalone decoder)
    {object : Object} {response : ρ} {value : α}
    (ran : valueOf (decode decoder object response) = some value) : Performs decoder (.ok value) := by
  cases returned : decode decoder object response with
  | error exception =>
      rw [returned] at ran
      cases ran
  | ok outcome =>
      obtain ⟨result, after⟩ := outcome
      rw [returned] at ran
      cases result with
      | error error => cases ran
      | ok step =>
          cases ran
          exact (alone.performs returned).1

theorem parseDocument_run {document : Bytes → Except Error Value} {initial after : ρ}
    {message : Bytes} {decoder : Value → Decoder ρ Unit} {value : Value}
    (parsed : document message = .ok value) (result : Except Error (Unit × Object))
    (ran : decode (decoder value) [] initial = .ok (result, after)) :
    (parseDocument document initial message decoder).run convert = .ok after := by
  unfold parseDocument decodeDocument
  rw [parsed]
  dsimp only
  rw [Program.run_bind, attempt_run, ran]
  rfl

theorem decode_bind_ok {first : Decoder ρ α} {next : α → Decoder ρ β} {object rest : Object}
    {response after : ρ} {value : α}
    (ran : decode first object response = .ok (.ok (value, rest), after)) :
    decode (first >>= next) object response = decode (next value) rest after := by
  rw [decode_bind, ran]

theorem decode_read {extracted : Except Error α} {value : α} (isOk : extracted = .ok value)
    (object : Object) (response : ρ) :
    decode (liftM extracted : Decoder ρ α) object response =
      .ok (.ok (value, object), response) := by
  rw [isOk]
  rfl

theorem decode_modify (change : ρ → ρ) (object : Object) (response : ρ) :
    decode (modifyThe ρ change : Decoder ρ PUnit) object response =
      .ok (.ok (⟨⟩, object), change response) := rfl

theorem decode_within_ok {inner rest : Object} {decoder : Decoder ρ α} {response after : ρ}
    {value : α} (ran : decode decoder inner response = .ok (.ok (value, rest), after))
    (object : Object) :
    decode (within inner decoder) object response = .ok (.ok (value, object), after) := by
  rw [decode_within, ran]
  rfl

theorem decode_field {key : String} {object rest : Object} {member : Value} (response : ρ)
    (found : object.find (utf8 key) = some (member, rest)) :
    decode (field key) object response = .ok (.ok (member, rest), response) := by
  have current : decode (getThe Object : Decoder ρ Object) object response =
      .ok (.ok (object, object), response) := rfl
  unfold field
  rw [decode_bind, current]
  dsimp only
  rw [found]
  rfl

theorem decode_optionalField (read : Value → Except Error α) (key : String) (object : Object)
    (response : ρ) :
    decode (optionalField read key) object response =
      match object.find (utf8 key) with
      | some (member, rest) => .ok (.ok ((read member).toOption, rest), response)
      | none => .ok (.ok (none, object), response) := by
  have current : decode (getThe Object : Decoder ρ Object) object response =
      .ok (.ok (object, object), response) := rfl
  unfold optionalField
  rw [decode_bind, current]
  dsimp only
  cases object.find (utf8 key) <;> rfl

theorem decode_fieldOf {convertValue : Value → Except Error α} {key : String} {object rest : Object}
    {member : Value} {converted : α} (response : ρ)
    (found : object.find (utf8 key) = some (member, rest))
    (isConverted : convertValue member = .ok converted) :
    decode (do liftM (convertValue (← field key))) object response =
      .ok (.ok (converted, rest), response) := by
  exact (decode_bind_ok (decode_field response found)).trans (decode_read isConverted rest response)

/-- A loop over elements that all decode. -/
theorem decode_forM_performs {decoder : β → Decoder ρ α} (push : α → ρ → ρ)
    {body : β → Decoder ρ PUnit}
    (bodies : ∀ element, body element = decoder element >>= fun result => modifyThe ρ (push result))
    {elements : List β} {results : List α}
    (each : List.Forall₂ (fun element result => Performs (decoder element) (.ok result))
      elements results) (object : Object) (response : ρ) :
    decode (elements.forM body) object response =
      .ok (.ok (⟨⟩, object), results.foldl (fun response result => push result response) response) := by
  induction each generalizing response with
  | nil => rfl
  | cons performs others ih =>
      show decode (body _ >>= fun _ => _) object response = _
      rw [decode_bind, bodies, decode_bind, performs object response]
      exact ih (push _ response)

theorem foldl_appends (push : α → ρ → ρ) (results : ρ → List α)
    (appends : ∀ result response, results (push result response) = results response ++ [result])
    (added : List α) (response : ρ) :
    results (added.foldl (fun response result => push result response) response) =
      results response ++ added := by
  induction added generalizing response with
  | nil => exact (List.append_nil _).symm
  | cons result added ih => rw [List.foldl_cons, ih, appends, List.append_assoc]; rfl

theorem foldl_keeps {γ : Type} (push : α → ρ → ρ) (frame : ρ → γ)
    (keeps : ∀ result response, frame (push result response) = frame response)
    (added : List α) (response : ρ) :
    frame (added.foldl (fun response result => push result response) response) =
      frame response := by
  induction added generalizing response with
  | nil => rfl
  | cons result added ih => rw [List.foldl_cons, ih, keeps]

end HyperliquidSdk.Rest
