import HyperliquidSdk.Rest.DecoderProperties
import HyperliquidSdk.Rest.DecoderRuns
import HyperliquidSdk.Rest.WireShapes

/-!
# Decoders that follow a shape

A decoder and the shape of what it decodes: it throws exactly if one of the texts of the
shape is unreadable, and otherwise both go on or both end. The rules follow the constructs
that parsers are made of.
-/

set_option autoImplicit false

namespace HyperliquidSdk.Rest.Wire

open Foundation Foundation.OnDemand

variable {α β : Type}

theorem allReadable_append {first second : List Text} :
    AllReadable (first ++ second) ↔ AllReadable first ∧ AllReadable second :=
  List.forall_mem_append

theorem allReadable_nil : AllReadable [] := fun _ impossible => absurd impossible List.not_mem_nil

theorem Reading.andThen_stopped {first : Reading α} {next : α → Reading β}
    (stops : first.result = none) : first.andThen next = ⟨first.texts, none⟩ := by
  rw [andThen, stops]

theorem Reading.andThen_goesOn {first : Reading α} {next : α → Reading β} {value : α}
    (goesOn : first.result = some value) :
    first.andThen next = ⟨first.texts ++ (next value).texts, (next value).result⟩ := by
  rw [andThen, goesOn]

theorem Reading.allReadable_of_andThen {first : Reading α} {next : α → Reading β}
    (readable : AllReadable (first.andThen next).texts) : AllReadable first.texts := by
  cases goesOn : first.result with
  | none => rwa [andThen_stopped goesOn] at readable
  | some value =>
      rw [andThen_goesOn goesOn] at readable
      exact (allReadable_append.mp readable).1

variable {ρ σ γ : Type}

theorem decode_field_absent {key : String} {object : Object} (response : ρ)
    (absent : object.find (utf8 key) = none) :
    decode (field key) object response = .ok (.error .noSuchField, response) := by
  have current : decode (getThe Object : Decoder ρ Object) object response =
      .ok (.ok (object, object), response) := rfl
  unfold field
  rw [decode_bind, current]
  dsimp only
  rw [absent]
  rfl

theorem decode_logged (part : Decoder ρ Unit) (object : Object) (response : ρ) :
    decode (Rest.logged part) object response =
      match decode part object response with
      | .ok (.ok step, after) => .ok (.ok step, after)
      | .ok (.error _, after) => .ok (.ok ((), object), after)
      | .error exception => .error exception := by
  have attempted : (Rest.logged part).run object =
      ExceptT.tryCatch (part.run object) fun _ => pure ((), object) := rfl
  unfold decode
  rw [attempted, ExceptT.tryCatch, ExceptT.run_mk, StateT.run_bind, Program.run_bind]
  show ((part.run object).run.run response).run convert >>= _ = _
  cases ((part.run object).run.run response).run convert with
  | error exception => rfl
  | ok outcome =>
      obtain ⟨result, after⟩ := outcome
      cases result <;> rfl

/-- A run throws if a text is unreadable. Otherwise it is at its end where the reading goes on,
and it has failed if that does not go on. -/
def Agrees : Result (Except Error (α × Object) × ρ) → Reading Object → Prop
  | .error _, reading => ¬ AllReadable reading.texts
  | .ok (.ok (_, rest), _), reading => AllReadable reading.texts ∧ reading.result = some rest
  | .ok (.error _, _), reading => AllReadable reading.texts ∧ reading.result = none

/-- What is readable may stand before. -/
theorem Agrees.prepend {outcome : Result (Except Error (α × Object) × ρ)} {reading : Reading Object}
    {texts : List Text} (agrees : Agrees outcome reading) (readable : AllReadable texts) :
    Agrees outcome ⟨texts ++ reading.texts, reading.result⟩ := by
  cases outcome with
  | error exception => exact fun all => agrees (allReadable_append.mp all).2
  | ok outcome =>
      obtain ⟨result, after⟩ := outcome
      cases result with
      | error error => exact ⟨allReadable_append.mpr ⟨readable, agrees.1⟩, agrees.2⟩
      | ok step => exact ⟨allReadable_append.mpr ⟨readable, agrees.1⟩, agrees.2⟩

/-- Started anywhere, the decoder converts what the field says and nothing else. -/
def Follows (decoder : Decoder ρ α) (field : Field) : Prop :=
  ∀ object response, Agrees (decode decoder object response) (field object)

/-- A reading of a value: the place in the object stays. -/
def here (reading : Reading Unit) : Field := fun object =>
  ⟨reading.texts, reading.result.map fun _ => object⟩

/-- Reading two values is reading one after the other. -/
theorem here_followedBy (first second : Reading Unit) :
    Field.followedBy (here first) (here second) = here (first.andThen fun _ => second) := by
  funext object
  obtain ⟨texts, result⟩ := first
  cases result <;> rfl

theorem andThen_stay (reading : Reading Unit) (object : Object) :
    (reading.andThen fun _ => ⟨[], some object⟩) = here reading object := by
  obtain ⟨texts, result⟩ := reading
  cases result with
  | none => rfl
  | some done => exact congrArg (Reading.mk · (some object)) (List.append_nil texts)

theorem ended_here (reading : Reading Unit) (object : Object) :
    (here reading object).ended = reading := by
  obtain ⟨texts, result⟩ := reading
  cases result <;> rfl

theorem followedBy_nothing (field : Field) : field.followedBy (readFields []) = field := by
  funext object
  unfold Field.followedBy
  obtain ⟨texts, result⟩ := field object
  cases result with
  | none => rfl
  | some rest => exact congrArg (Reading.mk · (some rest)) (List.append_nil texts)

namespace Follows

variable {decoder : Decoder ρ α} {field after : Field} {fields : List Field} {shape : Shape}
  {reading : Reading Unit}

theorem bind {next : α → Decoder ρ β} (first : Follows decoder field)
    (others : ∀ value, Follows (next value) after) :
    Follows (decoder >>= next) (field.followedBy after) := by
  intro object response
  have started := first object response
  unfold Field.followedBy
  rw [decode_bind]
  cases ran : decode decoder object response with
  | error exception =>
      rw [ran] at started
      exact fun readable => started (Reading.allReadable_of_andThen readable)
  | ok outcome =>
      obtain ⟨result, between⟩ := outcome
      rw [ran] at started
      cases result with
      | error error =>
          rw [Reading.andThen_stopped started.2]
          exact ⟨started.1, rfl⟩
      | ok step =>
          obtain ⟨value, rest⟩ := step
          rw [Reading.andThen_goesOn started.2]
          dsimp only
          exact (others value rest between).prepend started.1

theorem cons {next : α → Decoder ρ β} (first : Follows decoder field)
    (others : ∀ value, Follows (next value) (readFields fields)) :
    Follows (decoder >>= next) (readFields (field :: fields)) :=
  bind first others

/-- A field that takes two steps. -/
theorem consBoth {run : α → Decoder ρ β} {next : β → Decoder ρ γ}
    (first : Follows (decoder >>= run) field)
    (others : ∀ value, Follows (next value) (readFields fields)) :
    Follows (decoder >>= fun value => run value >>= next) (readFields (field :: fields)) := by
  rw [← bind_assoc]
  exact cons first others

theorem alone (only : Follows decoder field) : Follows decoder (readFields [field]) := by
  rw [readFields, followedBy_nothing]
  exact only

theorem ofAlone (only : Follows decoder (readFields [field])) : Follows decoder field := by
  rwa [readFields, followedBy_nothing] at only

/-- Steps behind a field that read nothing. -/
theorem last {next : α → Decoder ρ β} (first : Follows decoder field)
    (others : ∀ value, Follows (next value) (readFields [])) : Follows (decoder >>= next) field :=
  followedBy_nothing field ▸ bind first others

theorem lastBoth {run : α → Decoder ρ β} {next : β → Decoder ρ γ}
    (first : Follows (decoder >>= run) field)
    (others : ∀ value, Follows (next value) (readFields [])) :
    Follows (decoder >>= fun value => run value >>= next) field := by
  rw [← bind_assoc]
  exact last first others

/-- Steps before a field that read nothing. -/
theorem skip {next : α → Decoder ρ β} (first : Follows decoder (readFields []))
    (others : ∀ value, Follows (next value) field) : Follows (decoder >>= next) field :=
  bind first others

theorem pure (value : α) : Follows (pure value : Decoder ρ α) (readFields []) :=
  fun _ _ => ⟨allReadable_nil, rfl⟩

theorem state : Follows (getThe ρ : Decoder ρ ρ) (readFields []) :=
  fun _ _ => ⟨allReadable_nil, rfl⟩

theorem modify (change : ρ → ρ) :
    Follows (modifyThe ρ change : Decoder ρ PUnit) (readFields []) :=
  fun _ _ => ⟨allReadable_nil, rfl⟩

/-- A step that depends on whether there is a value. -/
theorem onOption {run : Option α → Decoder ρ β} (missing : Follows (run none) field)
    (there : ∀ value, Follows (run (some value)) field) : ∀ value, Follows (run value) field
  | none => missing
  | some value => there value

theorem write (response : ρ) : Follows (set response : Decoder ρ PUnit) (readFields []) :=
  fun _ _ => ⟨allReadable_nil, rfl⟩

/-! ### Values -/

theorem havingThen {read : Value → Except Error α} {shape : α → Reading Unit}
    {run : α → Decoder ρ β} (value : Value)
    (runs : ∀ converted,
      Follows (run converted) (Field.followedBy (here (shape converted)) after)) :
    Follows (do run (← read value)) (Field.followedBy (here (having read shape value)) after) := by
  unfold Wire.having
  cases read value with
  | error error => exact fun _ _ => ⟨allReadable_nil, rfl⟩
  | ok converted => exact runs converted

theorem having {read : Value → Except Error α} {shape : α → Reading Unit}
    {run : α → Decoder ρ β} (value : Value)
    (runs : ∀ converted, Follows (run converted) (here (shape converted))) :
    Follows (do run (← read value)) (here (having read shape value)) := by
  rw [← followedBy_nothing (here _)]
  exact havingThen value fun converted => (followedBy_nothing _).symm ▸ runs converted

theorem ofType (read : Value → Except Error α) (value : Value) :
    Follows (liftM (read value) : Decoder ρ α) (here (ofType read value)) := by
  unfold Wire.ofType Wire.having
  cases read value with
  | error error => exact fun _ _ => ⟨allReadable_nil, rfl⟩
  | ok converted => exact pure converted

theorem toDouble (text : Bytes) :
    Follows (toDouble text : Decoder ρ Double) (here (numberIn text)) := by
  unfold Rest.toDouble numberIn
  split_ifs with isEmpty
  · exact pure Double.zero
  · intro object response
    rw [Performs.perform]
    show Agrees (_ <$> (stod text).mapError (throwsAs "stod")) ⟨[.number text], some object⟩
    cases converted : stod text with
    | error error =>
        intro readable
        obtain ⟨number, impossible⟩ := readable _ (List.mem_singleton_self _)
        rw [converted] at impossible
        cases impossible
    | ok number =>
        refine ⟨fun other member => ?_, rfl⟩
        obtain rfl := List.mem_singleton.mp member
        exact ⟨number, converted⟩

theorem doubleOf (value : Value) :
    Follows (doubleOf value : Decoder ρ Double) (here (price value)) :=
  having value toDouble

theorem toNumber (value : Value) :
    Follows (toNumber value : Decoder ρ Double) (here (number value)) := by
  unfold Rest.toNumber number
  cases value.getString with
  | error error => exact ofType Value.getDouble value
  | ok text => exact toDouble text

theorem parseOutcomeDescription (desc : Bytes) :
    Follows (parseOutcomeDescription desc : Decoder ρ OutcomeDescription)
      (here ⟨(expiriesOf desc).map .expiry, some ()⟩) := by
  have readable : AllReadable ((expiriesOf desc).map .expiry) ↔
      ∃ description, descriptionOf desc = .ok description := by
    rw [descriptionOf_returns_iff]
    exact List.forall_mem_map
  intro object response
  rw [parseOutcomeDescription_performs desc]
  cases described : descriptionOf desc with
  | error exception =>
      intro allReadable
      obtain ⟨description, impossible⟩ := readable.mp allReadable
      rw [described] at impossible
      cases impossible
  | ok description => exact ⟨readable.mpr ⟨description, described⟩, rfl⟩

theorem within {inner : Object} (inside : Follows decoder (readFields fields)) :
    Follows (within inner decoder) (here (readFields fields inner).ended) := by
  intro object response
  have ran := inside inner response
  rw [decode_within]
  cases ended : decode decoder inner response with
  | error exception =>
      rw [ended] at ran
      exact ran
  | ok outcome =>
      obtain ⟨result, after⟩ := outcome
      rw [ended] at ran
      cases result with
      | error error =>
          refine ⟨ran.1, ?_⟩
          show ((readFields fields inner).result.map _).map _ = none
          rw [ran.2]
          rfl
      | ok step =>
          refine ⟨ran.1, ?_⟩
          show ((readFields fields inner).result.map _).map _ = some object
          rw [ran.2]
          rfl

/-- A value that is an object, read on its own. -/
theorem object (value : Value) (inside : Follows decoder (readFields fields)) :
    Follows (do Rest.within (← value.getObject) decoder) (here (object fields value)) :=
  having value fun _ => within inside

/-- The same, with steps behind it that read nothing. -/
theorem objectThen (value : Value) {next : α → Decoder ρ β}
    (inside : Follows decoder (readFields fields))
    (others : ∀ decoded, Follows (next decoded) (readFields [])) :
    Follows (do next (← Rest.within (← value.getObject) decoder))
      (here (Wire.object fields value)) :=
  having value fun _ => last (within inside) others

theorem unlessNull {skipped run : Decoder ρ α} (value : Value)
    (whenNull : Follows skipped (readFields [])) (otherwise : Follows run (here (shape value))) :
    Follows (if value.isNull then skipped else run) (here (nullOr shape value)) := by
  unfold nullOr
  split_ifs with isNull
  · exact whenNull
  · exact otherwise

/-- What is tried on an object of its own. -/
theorem attempt {inner : Object} {initial : σ} {part : Decoder σ Unit}
    (inside : Follows part (readFields fields)) :
    Follows (liftM (attempt inner initial part) : Decoder ρ (Except Error Unit × σ))
      (here (readFields fields inner).contained) := by
  intro object response
  rw [Performs.lift, attempt_run]
  have ran := inside inner initial
  cases ended : decode part inner initial with
  | error exception =>
      rw [ended] at ran
      exact ran
  | ok outcome =>
      obtain ⟨result, after⟩ := outcome
      rw [ended] at ran
      cases result with
      | error error => exact ⟨ran.1, rfl⟩
      | ok step => exact ⟨ran.1, rfl⟩

theorem fails (error : Error) {next : α → Decoder ρ β} :
    Follows (liftM (.error error : Except Error α) >>= next) (here .stopped) :=
  fun _ _ => ⟨allReadable_nil, rfl⟩

theorem passes (value : α) :
    Follows (liftM (.ok value : Except Error α) : Decoder ρ α) (readFields []) :=
  pure value

/-- What is tried on an object of its own and stops the decoder if it fails. -/
theorem tried {inner : Object} {initial : σ} {part : Decoder σ Unit}
    {run : Except Error Unit × σ → Decoder ρ β} (inside : Follows part (readFields fields))
    (failed : ∀ error after, Follows (run (.error error, after)) (here .stopped))
    (finished : ∀ result, Follows (run (.ok (), result)) after) :
    Follows (liftM (Rest.attempt inner initial part) >>= run)
      (Field.followedBy (here (readFields fields inner).ended) after) := by
  intro object response
  have ran := inside inner initial
  rw [decode_bind, Performs.lift, attempt_run]
  unfold Field.followedBy here
  cases ended : decode part inner initial with
  | error exception =>
      rw [ended] at ran
      intro readable
      have first := Reading.allReadable_of_andThen readable
      exact ran first
  | ok outcome =>
      obtain ⟨result, between⟩ := outcome
      rw [ended] at ran
      cases result with
      | error error =>
          have stops : ((readFields fields inner).ended.result.map fun _ => object) = none := by
            rw [Reading.ended, ran.2]
            rfl
          rw [Reading.andThen_stopped stops, ← List.append_nil (Reading.texts _)]
          exact (failed error between object response).prepend ran.1
      | ok step =>
          have goesOn : ((readFields fields inner).ended.result.map fun _ => object) =
              some object := by
            rw [Reading.ended, ran.2]
            rfl
          rw [Reading.andThen_goesOn goesOn]
          exact (finished between object response).prepend ran.1

/-- An error in a part that is tried is logged. -/
theorem logged {part : Decoder ρ Unit} (inside : Follows part (here reading)) :
    Follows (Rest.logged part) (here reading.contained) := by
  intro object response
  have ran := inside object response
  rw [decode_logged]
  cases ended : decode part object response with
  | error exception =>
      rw [ended] at ran
      exact ran
  | ok outcome =>
      obtain ⟨result, after⟩ := outcome
      rw [ended] at ran
      cases result with
      | error error => exact ⟨ran.1, rfl⟩
      | ok step =>
          refine ⟨ran.1, ?_⟩
          obtain ⟨result, isHere⟩ := Option.map_eq_some_iff.mp ran.2
          exact congrArg some isHere.2

/-! ### Arrays -/

theorem forM {body : β → Decoder ρ PUnit} {read : β → Reading Unit}
    (bodies : ∀ item, Follows (body item) (here (read item))) (items : List β) :
    Follows (items.forM body) (here (.each read items)) := by
  induction items with
  | nil => exact pure _
  | cons item items ih =>
      rw [Reading.each, ← here_followedBy]
      exact bind (bodies item) fun _ => ih

theorem foldlM {step : γ → β → Decoder ρ γ} {read : β → Reading Unit}
    (steps : ∀ state item, Follows (step state item) (here (read item))) (items : List β) :
    ∀ state, Follows (items.foldlM step state) (here (.each read items)) := by
  induction items with
  | nil => exact fun state => pure state
  | cons item items ih =>
      intro state
      rw [List.foldlM_cons, Reading.each, ← here_followedBy]
      exact bind (steps state item) ih

theorem mapM {body : β → Decoder ρ α} {read : β → Reading Unit}
    (bodies : ∀ item, Follows (body item) (here (read item))) (items : List β) :
    Follows (items.mapM body) (here (.each read items)) := by
  induction items with
  | nil =>
      rw [List.mapM_nil]
      exact pure []
  | cons item items ih =>
      rw [List.mapM_cons, Reading.each, ← here_followedBy]
      exact bind (bodies item) fun _ => last ih fun _ => pure _

theorem filterMapM {body : β → Decoder ρ (Option α)} {read : β → Reading Unit}
    (bodies : ∀ item, Follows (body item) (here (read item))) (items : List β) :
    Follows (items.filterMapM body) (here (.each read items)) := by
  have loop (items : List β) : ∀ collected,
      Follows (List.filterMapM.loop body items collected) (here (.each read items)) := by
    induction items with
    | nil => exact fun collected => pure collected.reverse
    | cons item items ih =>
        intro collected
        rw [List.filterMapM.loop, Reading.each, ← here_followedBy]
        refine bind (bodies item) fun decoded => ?_
        cases decoded with
        | none => exact ih collected
        | some value => exact ih (value :: collected)
  exact loop items []

/-- Items that are read with their positions. -/
theorem forM_zipIdx {body : β × Nat → Decoder ρ PUnit} {read : β → Reading Unit}
    (bodies : ∀ item idx, Follows (body (item, idx)) (here (read item))) (items : List β) :
    Follows (items.zipIdx.forM body) (here (.each read items)) := by
  have each (pairs : List (β × Nat)) :
      Reading.each (fun pair => read pair.1) pairs = .each read (pairs.map Prod.fst) := by
    induction pairs with
    | nil => rfl
    | cons pair pairs ih => rw [List.map_cons, Reading.each, Reading.each, ih]
  have followed := forM (fun pair => bodies pair.1 pair.2) items.zipIdx
  rwa [each, List.zipIdx_map_fst] at followed

/-- Each item is an object, with steps behind it that read nothing. -/
theorem objects {push : α → Decoder ρ PUnit} (inside : Follows decoder (readFields fields))
    (pushes : ∀ decoded, Follows (push decoded) (readFields [])) (items : List Value) :
    Follows (items.forM fun entry => do push (← Rest.within (← entry.getObject) decoder))
      (here (.each (Wire.object fields) items)) :=
  forM (fun entry => objectThen entry inside pushes) items

/-- An array of which at most two elements are read. -/
theorem pair {first second : Shape} {run : List Value → Decoder ρ α} (entry : Value)
    (empty : Follows (run []) (readFields []))
    (one : ∀ value, Follows (run [value]) (here (first value)))
    (two : ∀ value other others, Follows (run (value :: other :: others))
      (Field.followedBy (here (first value)) (here (second other)))) :
    Follows (do run (← entry.getArray)) (here (pair first second entry)) := by
  refine having entry fun items => ?_
  cases items with
  | nil => exact empty
  | cons value rest =>
      cases rest with
      | nil => exact one value
      | cons other others =>
          exact here_followedBy (first value) (second other) ▸ two value other others

theorem parsePair {readFirst : Value → Except Error α} {readSecond : Value → Decoder ρ β}
    (seconds : ∀ value, Follows (readSecond value) (here (shape value))) (entry : Value) :
    Follows (parsePair readFirst readSecond entry)
      (here (Wire.pair (Wire.ofType readFirst) shape entry)) :=
  pair entry (pure none) (fun value => last (ofType readFirst value) fun _ => pure none)
    fun value other _ =>
      bind (ofType readFirst value) fun _ => last (seconds other) fun _ => pure _

/-! ### Fields -/

theorem lookup {key : String} {take : Value → Option (Reading Unit)} {otherwise : Field}
    {convertValue : Value → Except Error α} {run : Option α → Decoder ρ β}
    (taken : ∀ member part, take member = some part →
      Follows (run (convertValue member).toOption) (Field.followedBy (here part) after))
    (left : ∀ member, take member = none →
      Follows (run (convertValue member).toOption) (otherwise.followedBy after))
    (absent : Follows (run none) (otherwise.followedBy after)) :
    Follows (optionalField convertValue key >>= run)
      ((lookup key take otherwise).followedBy after) := by
  intro object response
  rw [decode_bind, decode_optionalField]
  unfold Field.followedBy Wire.lookup
  cases object.find (utf8 key) with
  | none => exact absent object response
  | some step =>
      obtain ⟨member, rest⟩ := step
      dsimp only
      cases isTaken : take member with
      | none => exact left member isTaken rest response
      | some part =>
          dsimp only
          rw [andThen_stay]
          exact taken member part isTaken rest response

theorem fieldThen {key : String} {run : Value → Decoder ρ β}
    (runs : ∀ value, Follows (run value) (Field.followedBy (here (shape value)) after)) :
    Follows (Rest.field key >>= run) ((required key shape).followedBy after) := by
  intro object response
  unfold Field.followedBy required Wire.lookup
  cases found : object.find (utf8 key) with
  | none =>
      rw [decode_bind, decode_field_absent response found]
      exact ⟨allReadable_nil, rfl⟩
  | some step =>
      obtain ⟨member, rest⟩ := step
      rw [decode_bind_ok (decode_field response found)]
      dsimp only
      rw [andThen_stay]
      exact runs member rest response

theorem requiredThen {key : String} {read : Value → Except Error α} {shape : α → Reading Unit}
    {run : α → Decoder ρ β}
    (runs : ∀ converted,
      Follows (run converted) (Field.followedBy (here (shape converted)) after)) :
    Follows ((do liftM (read (← Rest.field key)) : Decoder ρ α) >>= run)
      ((Wire.required key (Wire.having read shape)).followedBy after) := by
  rw [bind_assoc]
  exact fieldThen fun value => havingThen value runs

/-- A member that has to be there. -/
theorem required {key : String} {run : Value → Decoder ρ β}
    (runs : ∀ value, Follows (run value) (here (shape value))) :
    Follows (Rest.field key >>= run) (required key shape) := by
  rw [← followedBy_nothing (Wire.required key shape)]
  exact fieldThen fun value => (followedBy_nothing (here (shape value))).symm ▸ runs value

theorem requiredOf {key : String} {read : Value → Except Error α} {shape : α → Reading Unit}
    {run : α → Decoder ρ β} (runs : ∀ converted, Follows (run converted) (here (shape converted))) :
    Follows ((do liftM (read (← Rest.field key)) : Decoder ρ α) >>= run)
      (Wire.required key (Wire.having read shape)) := by
  rw [bind_assoc]
  exact required fun value => having value runs

theorem fieldOf (read : Value → Except Error α) (key : String) :
    Follows (do liftM (read (← Rest.field key)) : Decoder ρ α)
      (Wire.required key (Wire.ofType read)) :=
  required fun value => ofType read value

theorem text (key : String) : Follows (stringField key : Decoder ρ Bytes) (textField key) :=
  fieldOf Value.getString key

theorem bool (key : String) : Follows (Rest.boolField key : Decoder ρ Bool) (boolField key) :=
  fieldOf Value.getBool key

theorem uint64 (key : String) :
    Follows (Rest.uint64Field key : Decoder ρ UInt64) (uint64Field key) :=
  fieldOf Value.getUInt64 key

theorem int64 (key : String) : Follows (Rest.int64Field key : Decoder ρ Int64) (int64Field key) :=
  fieldOf Value.getInt64 key

theorem int (key : String) : Follows (Rest.intField key : Decoder ρ Int32) (intField key) :=
  fieldOf getInt key

theorem side (key : String) : Follows (sideField key : Decoder ρ UInt8) (textField key) :=
  last (text key) fun _ => pure _

theorem double (key : String) : Follows (doubleField key : Decoder ρ Double) (priceField key) :=
  requiredOf toDouble

theorem parseNumber (key : String) :
    Follows (parseNumberField key : Decoder ρ Double) (numberField key) :=
  required toNumber

theorem array {key : String} {run : List Value → Decoder ρ α}
    (runs : ∀ items, Follows (run items) (here (.each shape items))) :
    Follows (arrayField key >>= run) (Wire.required key (list shape)) :=
  requiredOf runs

theorem inObject {key : String} (inside : Follows decoder (readFields fields)) :
    Follows (do Rest.within (← objectField key) decoder) (Wire.required key (Wire.object fields)) :=
  requiredOf fun _ => within inside

/-- A member that is read if it has the type, and otherwise another field. -/
theorem takenThen {key : String} {read : Value → Except Error α} {shape : α → Reading Unit}
    {otherwise : Field} {run : Option α → Decoder ρ β}
    (missing : Follows (run none) otherwise)
    (there : ∀ value, Follows (run (some value)) (here (shape value))) :
    Follows (optionalField read key >>= run)
      (Wire.lookup key (takenAs read shape) otherwise) := by
  rw [← followedBy_nothing (Wire.lookup key _ otherwise)]
  rw [← followedBy_nothing otherwise] at missing
  refine lookup (fun member part isTaken => ?_) (fun member isLeft => ?_) missing
  · unfold takenAs at isTaken
    cases converted : read member with
    | error error => simp [converted] at isTaken
    | ok value =>
        rw [converted] at isTaken
        obtain rfl := Option.some.inj isTaken
        exact (followedBy_nothing _).symm ▸ there value
  · unfold takenAs at isLeft
    cases converted : read member with
    | error error => exact missing
    | ok value => simp [converted] at isLeft

/-- A member that is read if it is there and has the type. -/
theorem whenThen {key : String} {read : Value → Except Error α} {shape : α → Reading Unit}
    {run : Option α → Decoder ρ β}
    (missing : Follows (run none) after)
    (there : ∀ value, Follows (run (some value)) (Field.followedBy (here (shape value)) after)) :
    Follows (optionalField read key >>= run)
      ((optional key (whenOf read (Wire.having read shape))).followedBy after) := by
  refine lookup (fun member part isTaken => ?_) (fun member isLeft => by cases isLeft) missing
  obtain rfl := Option.some.inj isTaken
  unfold whenOf Wire.having
  cases converted : read member with
  | error error => exact missing
  | ok value => exact there value

/-- A member that is read unless it is null. -/
theorem presentThen {key : String} {run : Option Value → Decoder ρ β}
    (missing : Follows (run none) after)
    (there : ∀ value, Follows (run (some value)) (Field.followedBy (here (shape value)) after)) :
    Follows (presentField key >>= run) ((optional key (nullOr shape)).followedBy after) := by
  unfold presentField
  rw [bind_assoc]
  refine lookup (fun member part isTaken => ?_) (fun member isLeft => by cases isLeft) missing
  obtain rfl := Option.some.inj isTaken
  show Follows (run (Option.filter _ (some member))) _
  unfold nullOr
  rw [Option.filter_some]
  cases member.isNull with
  | true => exact missing
  | false => exact there member

/-- A member whose value is not converted. -/
theorem unconvertedThen {key : String} {read : Value → Except Error α}
    {run : Option α → Decoder ρ β} (missing : Follows (run none) after)
    (there : ∀ value, Follows (run (some value)) after) :
    Follows (optionalField read key >>= run) ((optional key anything).followedBy after) := by
  refine lookup (fun member part isTaken => ?_) (fun member isLeft => by cases isLeft) missing
  obtain rfl := Option.some.inj isTaken
  exact onOption missing there (read member).toOption

theorem unconverted (read : Value → Except Error α) (key : String) :
    Follows (optionalField read key : Decoder ρ (Option α)) (optional key anything) := by
  rw [← bind_pure (optionalField read key), ← followedBy_nothing (optional key anything)]
  exact unconvertedThen (pure none) fun value => pure (some value)

theorem unconvertedPresent (key : String) :
    Follows (presentField key : Decoder ρ (Option Value)) (optional key anything) :=
  last (unconverted .ok key) fun _ => pure _

theorem present {key : String} {run : Value → Decoder ρ α}
    (runs : ∀ value, Follows (run value) (here (shape value))) :
    Follows (do (← presentField key).mapM run) (optional key (nullOr shape)) := by
  rw [← followedBy_nothing (optional key (nullOr shape))]
  exact presentThen (pure none) fun value => bind (runs value) fun _ => pure _

theorem whenOf {key : String} {read : Value → Except Error α} {shape : α → Reading Unit}
    {run : α → Decoder ρ β} (runs : ∀ value, Follows (run value) (here (shape value))) :
    Follows (do (← optionalField read key).mapM run)
      (optional key (whenOf read (Wire.having read shape))) := by
  rw [← followedBy_nothing (optional key _)]
  exact whenThen (pure none) fun value => bind (runs value) fun _ => pure _

/-- A member that has a default. -/
theorem optionalOf {key : String} {read : Value → Except Error α} {shape : α → Reading Unit}
    {initial : α} (run : α → Decoder ρ β) (missing : Follows (run initial) (readFields []))
    (runs : ∀ value, Follows (run value) (here (shape value))) :
    Follows (do run ((← optionalField read key).getD initial))
      (optional key (Wire.whenOf read (Wire.having read shape))) := by
  rw [← followedBy_nothing (optional key _)]
  exact whenThen missing fun value => alone (runs value)

/-- The elements of an array, and none if there is no array. -/
theorem optionalArray {key : String} (run : List Value → Decoder ρ α)
    (runs : ∀ items, Follows (run items) (here (.each shape items))) :
    Follows (do run ((← optionalField Value.getArray key).getD []))
      (optional key (Wire.whenOf Value.getArray (list shape))) :=
  optionalOf run (runs []) runs

/-- The same for a member of an object of its own. -/
theorem withinOptional {key : String} {inner : Object} (run : List Value → Decoder ρ α)
    (runs : ∀ items, Follows (run items) (here (.each shape items))) :
    Follows (do run ((← Rest.within inner (optionalField Value.getArray key)).getD []))
      (here (readFields [optional key (Wire.whenOf Value.getArray (list shape))] inner).ended) := by
  intro object response
  rw [decode_bind, decode_within, decode_optionalField]
  rw [readFields, followedBy_nothing]
  unfold optional Wire.lookup
  cases inner.find (utf8 key) with
  | none => exact runs [] object response
  | some step =>
      obtain ⟨member, rest⟩ := step
      unfold Wire.whenOf Wire.list Wire.having
      dsimp only
      rw [andThen_stay, ended_here]
      cases member.getArray with
      | error error => exact runs [] object response
      | ok items => exact runs items object response

/-- A member of which only its presence decides. -/
theorem either {key : String} {otherwise : Field} {run : Option Value → Decoder ρ β}
    (missing : Follows (run none) otherwise)
    (there : ∀ value, Follows (run (some value)) (here (shape value))) :
    Follows (optionalField .ok key >>= run)
      (Wire.lookup key (fun value => some (shape value)) otherwise) := by
  rw [← followedBy_nothing (Wire.lookup key _ otherwise)]
  rw [← followedBy_nothing otherwise] at missing
  refine lookup (fun member part isTaken => ?_) (fun member isLeft => by cases isLeft) missing
  obtain rfl := Option.some.inj isTaken
  exact alone (there member)

theorem selecting {key : String} {select : Bytes → List Field} {run : Bytes → Decoder ρ β}
    (runs : ∀ text, Follows (run text) (readFields (select text))) :
    Follows (stringField key >>= run) (selecting key select) := by
  intro object response
  unfold stringField Wire.selecting
  rw [bind_assoc]
  cases found : object.find (utf8 key) with
  | none =>
      rw [decode_bind, decode_field_absent response found]
      exact ⟨allReadable_nil, rfl⟩
  | some step =>
      obtain ⟨member, rest⟩ := step
      rw [decode_bind_ok (decode_field response found)]
      dsimp only
      cases member.getString with
      | error error => exact ⟨allReadable_nil, rfl⟩
      | ok text => exact runs text rest response

end Follows

/-! ## Parsers -/

/-- The parser returns unless a text of the document is unreadable. -/
def ReturnsOn (document : Bytes → Except Error Value) (message : Bytes) (shape : Shape)
    (parser : Conversions α) : Prop :=
  (∃ response, parser.run convert = .ok response) ↔
    ∀ doc, document message = .ok doc → AllReadable (shape doc).texts

namespace ReturnsOn

variable {document : Bytes → Except Error Value} {message : Bytes} {shape : Shape}

theorem map {parser : Conversions α} (change : α → β)
    (returns : ReturnsOn document message shape parser) :
    ReturnsOn document message shape (change <$> parser) := by
  refine Iff.trans ?_ returns
  rw [Program.run_map]
  cases parser.run convert with
  | error exception => exact ⟨fun ⟨_, same⟩ => (nomatch same), fun ⟨_, same⟩ => (nomatch same)⟩
  | ok response => exact ⟨fun _ => ⟨response, rfl⟩, fun _ => ⟨change response, rfl⟩⟩

theorem parseDocument {initial : ρ} {decoder : Value → Decoder ρ Unit}
    (follows : ∀ doc, Follows (decoder doc) (here (shape doc))) :
    ReturnsOn document message shape (parseDocument document initial message decoder) := by
  unfold ReturnsOn Rest.parseDocument decodeDocument
  cases document message with
  | error error => exact ⟨fun _ _ impossible => (nomatch impossible), fun _ => ⟨initial, rfl⟩⟩
  | ok doc =>
      have ran := follows doc [] initial
      dsimp only
      rw [Program.run_bind, attempt_run]
      cases ended : decode (decoder doc) [] initial with
      | error exception =>
          rw [ended] at ran
          constructor
          · rintro ⟨response, impossible⟩
            cases impossible
          · exact fun readable => absurd (readable doc rfl) ran
      | ok outcome =>
          obtain ⟨result, after⟩ := outcome
          rw [ended] at ran
          have readable : AllReadable (shape doc).texts := by
            cases result with
            | error error => exact ran.1
            | ok step => exact ran.1
          constructor
          · intro _ other same
            obtain rfl := Except.ok.inj same
            exact readable
          · exact fun _ => ⟨after, rfl⟩

/-- A parser that converts nothing returns on every document. -/
theorem unconverted {initial : ρ} {decoder : Value → Decoder ρ Unit}
    (nothing : ∀ value, ConvertsNothing (decoder value)) :
    ReturnsOn document message anything (Rest.parseDocument document initial message decoder) := by
  obtain ⟨⟨parsed, response⟩, decoded⟩ := decodeDocument_eq_pure document message initial nothing
  refine ⟨fun _ _ _ => allReadable_nil, fun _ => ⟨response, ?_⟩⟩
  unfold Rest.parseDocument
  rw [decoded]
  rfl

end ReturnsOn

end HyperliquidSdk.Rest.Wire
