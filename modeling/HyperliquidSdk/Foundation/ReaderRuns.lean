import HyperliquidSdk.Foundation.ObjectReader
import HyperliquidSdk.Foundation.ObjectSearch
import HyperliquidSdk.Foundation.Throwing

/-!
# Runs of readers

What a reader does on an object, construct by construct: forward, where it is known what the
searches find; as a property of whatever is read; and in parallel, from two values.
-/

set_option autoImplicit false

namespace Foundation.OnDemand.Reader

variable {ρ α β : Type}

/-- `read`, with the place where the next search starts. -/
def readFrom (reader : Reader ρ α) (object : Object) (state : ρ) :
    Except Error (α × Object) × ρ :=
  (StateT.run reader object : Throwing Error ρ (α × Object)).run state

theorem readFrom_bind (first : Reader ρ α) (next : α → Reader ρ β) (object : Object) (state : ρ) :
    readFrom (first >>= next) object state =
      match readFrom first object state with
      | (.ok (value, rest), after) => readFrom (next value) rest after
      | (.error error, after) => (.error error, after) := by
  unfold readFrom
  rw [StateT.run_bind, Throwing.bind_run]
  cases (StateT.run first object : Throwing Error ρ (α × Object)).run state with
  | mk result after => cases result <;> rfl

theorem readFrom_pure (value : α) (object : Object) (state : ρ) :
    readFrom (pure value) object state = (.ok (value, object), state) := rfl

theorem read_eq (object : Object) (initial : ρ) (reader : Reader ρ α) :
    read object initial reader =
      ((readFrom reader object initial).1.map Prod.fst, (readFrom reader object initial).2) := by
  have whole := Throwing.bind_run (StateT.run reader object : Throwing Error ρ (α × Object))
    (fun step => pure step.1) initial
  show ((StateT.run reader object >>= fun step => pure step.1 : Throwing Error ρ α)).run initial = _
  rw [whole]
  show _ = ((readFrom reader object initial).1.map Prod.fst, (readFrom reader object initial).2)
  unfold readFrom
  cases (StateT.run reader object : Throwing Error ρ (α × Object)).run initial with
  | mk result after => cases result <;> rfl

theorem readFrom_lift (extracted : Except Error α) (object : Object) (state : ρ) :
    readFrom (liftM extracted) object state =
      (extracted.map fun value => (value, object), state) := by
  cases extracted <;> rfl

theorem readFrom_modify (change : ρ → ρ) (object : Object) (state : ρ) :
    readFrom (modifyThe ρ change) object state = (.ok (⟨⟩, object), change state) := rfl

theorem readFrom_field (key : String) (object : Object) (state : ρ) :
    readFrom (field key) object state =
      match object.find (utf8 key) with
      | some found => (.ok found, state)
      | none => (.error .noSuchField, state) := by
  have current : readFrom (getThe Object : Reader ρ Object) object state =
      (.ok (object, object), state) := rfl
  unfold field
  rw [readFrom_bind, current]
  dsimp only
  cases object.find (utf8 key) <;> rfl

theorem readFrom_optionalField (convert : Value → Except Error α) (key : String) (object : Object)
    (state : ρ) :
    readFrom (optionalField convert key) object state =
      match object.find (utf8 key) with
      | some (member, rest) => (.ok ((convert member).toOption, rest), state)
      | none => (.ok (none, object), state) := by
  have current : readFrom (getThe Object : Reader ρ Object) object state =
      (.ok (object, object), state) := rfl
  unfold optionalField
  rw [readFrom_bind, current]
  dsimp only
  cases object.find (utf8 key) <;> rfl

theorem readFrom_within (inner : Object) (reader : Reader ρ α) (object : Object) (state : ρ) :
    readFrom (within inner reader) object state =
      match readFrom reader inner state with
      | (.ok (value, _), after) => (.ok (value, object), after)
      | (.error error, after) => (.error error, after) := by
  have current : readFrom (getThe Object : Reader ρ Object) object state =
      (.ok (object, object), state) := rfl
  have move : readFrom (set inner : Reader ρ PUnit) object state = (.ok (⟨⟩, inner), state) := rfl
  unfold within
  rw [readFrom_bind, current]
  dsimp only
  rw [readFrom_bind, move]
  dsimp only
  rw [readFrom_bind]
  cases readFrom reader inner state with
  | mk result after => cases result <;> rfl

theorem readFrom_attempted (reader : Reader ρ α) (object : Object) (state : ρ) :
    readFrom (attempted reader) object state =
      match readFrom reader object state with
      | (.ok (value, rest), after) => (.ok (some value, rest), after)
      | (.error _, after) => (.ok (none, object), after) := by
  have some_run : readFrom (some <$> reader) object state =
      match readFrom reader object state with
      | (.ok (value, rest), after) => (.ok (some value, rest), after)
      | (.error error, after) => (.error error, after) := by
    rw [map_eq_pure_bind]
    exact readFrom_bind reader _ object state
  have caught := Throwing.tryCatch_run
    (StateT.run (some <$> reader) object : Throwing Error ρ (Option α × Object))
    (fun _ => pure (none, object)) state
  refine (show _ = _ from caught).trans ?_
  unfold readFrom at some_run
  rw [some_run]
  unfold readFrom
  cases (StateT.run reader object : Throwing Error ρ (α × Object)).run state with
  | mk result after => cases result <;> rfl

/-- A sequence that ends: its first part ends, and the second one from there. -/
theorem readFrom_bind_eq_ok {first : Reader ρ α} {next : α → Reader ρ β} {object rest : Object}
    {state after : ρ} {value : β}
    (ran : readFrom (first >>= next) object state = (.ok (value, rest), after)) :
    ∃ earlier middle between, readFrom first object state = (.ok (earlier, middle), between) ∧
      readFrom (next earlier) middle between = (.ok (value, rest), after) := by
  rw [readFrom_bind] at ran
  cases started : readFrom first object state with
  | mk result between =>
      rw [started] at ran
      cases result with
      | error error => cases ran
      | ok step => exact ⟨step.1, step.2, between, rfl, ran⟩

theorem readFrom_within_eq_ok {inner object rest : Object} {reader : Reader ρ α} {state after : ρ}
    {value : α} (ran : readFrom (within inner reader) object state = (.ok (value, rest), after)) :
    rest = object ∧ ∃ innerRest, readFrom reader inner state = (.ok (value, innerRest), after) := by
  rw [readFrom_within] at ran
  cases innerRan : readFrom reader inner state with
  | mk result between =>
      rw [innerRan] at ran
      cases result with
      | error error => cases ran
      | ok step =>
          cases ran
          exact ⟨rfl, step.2, rfl⟩

theorem read_eq_ok {object : Object} {initial : ρ} {reader : Reader ρ α} {value : α}
    (ran : (read object initial reader).1 = .ok value) :
    ∃ rest after, readFrom reader object initial = (.ok (value, rest), after) := by
  rw [read_eq] at ran
  cases started : readFrom reader object initial with
  | mk result after =>
      rw [started] at ran
      cases result with
      | error error => cases ran
      | ok step =>
          cases ran
          exact ⟨step.2, after, rfl⟩

/-! ## Forward -/

theorem readFrom_bind_ok {first : Reader ρ α} {next : α → Reader ρ β} {object rest : Object}
    {state after : ρ} {value : α} (ran : readFrom first object state = (.ok (value, rest), after)) :
    readFrom (first >>= next) object state = readFrom (next value) rest after := by
  rw [readFrom_bind, ran]

theorem readFrom_read {extracted : Except Error α} {value : α} (isOk : extracted = .ok value)
    (object : Object) (state : ρ) :
    readFrom (liftM extracted) object state = (.ok (value, object), state) := by
  rw [readFrom_lift, isOk]
  rfl

theorem readFrom_fieldOf {convert : Value → Except Error α} {key : String} {object rest : Object}
    {member : Value} {converted : α} (state : ρ)
    (found : object.find (utf8 key) = some (member, rest))
    (isConverted : convert member = .ok converted) :
    readFrom (do liftM (convert (← field key))) object state = (.ok (converted, rest), state) := by
  have searched : readFrom (field key) object state = (.ok (member, rest), state) := by
    rw [readFrom_field, found]
  exact (readFrom_bind_ok searched).trans (readFrom_read isConverted rest state)

theorem readFrom_within_ok {inner rest : Object} {reader : Reader ρ α} {state after : ρ} {value : α}
    (ran : readFrom reader inner state = (.ok (value, rest), after)) (object : Object) :
    readFrom (within inner reader) object state = (.ok (value, object), after) := by
  rw [readFrom_within, ran]

theorem readFrom_attempted_ok {reader : Reader ρ α} {object rest : Object} {state after : ρ}
    {value : α} (ran : readFrom reader object state = (.ok (value, rest), after)) :
    readFrom (attempted reader) object state = (.ok (some value, rest), after) := by
  rw [readFrom_attempted, ran]

theorem read_ok {object rest : Object} {initial after : ρ} {reader : Reader ρ α} {value : α}
    (ran : readFrom reader object initial = (.ok (value, rest), after)) :
    read object initial reader = (.ok value, after) := by
  rw [read_eq, ran]
  rfl

/-! ## Whatever is read -/

/-- Started anywhere, the reader gives only such values. -/
def Returns (reader : Reader ρ α) (Finished : α → Prop) : Prop :=
  ∀ object state value rest after,
    readFrom reader object state = (.ok (value, rest), after) → Finished value

namespace Returns

variable {Finished : α → Prop}

theorem pure {value : α} (finished : Finished value) :
    Returns (pure value : Reader ρ α) Finished := by
  intro object state other rest after ran
  rw [readFrom_pure] at ran
  cases ran
  exact finished

/-- What is read first does not matter. -/
theorem anyway {first : Reader ρ β} {next : β → Reader ρ α}
    (continued : ∀ value, Returns (next value) Finished) : Returns (first >>= next) Finished := by
  intro object state value rest after ran
  obtain ⟨earlier, middle, between, -, ranNext⟩ := readFrom_bind_eq_ok ran
  exact continued earlier middle between value rest after ranNext

/-- What each step of a loop keeps, the loop keeps. -/
theorem foldlM {step : α → β → Reader ρ α}
    (steps : ∀ result, Finished result → ∀ element, Returns (step result element) Finished)
    (elements : List β) :
    ∀ initial, Finished initial → Returns (elements.foldlM step initial) Finished := by
  induction elements with
  | nil => exact fun initial finished => pure finished
  | cons element elements ih =>
      intro initial finished object state value rest after ran
      rw [List.foldlM_cons] at ran
      obtain ⟨next, middle, between, stepped, others⟩ := readFrom_bind_eq_ok ran
      have finished := steps initial finished element object state next middle between stepped
      exact ih next finished middle between value rest after others

theorem read {reader : Reader ρ α} (returns : Returns reader Finished) {object : Object}
    {initial : ρ} {value : α} (ran : (read object initial reader).1 = .ok value) :
    Finished value := by
  obtain ⟨rest, after, finished⟩ := read_eq_ok ran
  exact returns object initial value rest after finished

end Returns

/-! ## Readers that write nothing -/

/-- What the reader gives depends on the object only, and the value stays as it is. -/
def Keeps (reader : Reader ρ α) : Prop :=
  ∀ object, ∃ result, ∀ state, readFrom reader object state = (result, state)

namespace Keeps

theorem pure (value : α) : Keeps (pure value : Reader ρ α) :=
  fun _ => ⟨_, fun _ => rfl⟩

theorem read (extracted : Except Error α) : Keeps (liftM extracted : Reader ρ α) :=
  fun object => ⟨_, readFrom_lift extracted object⟩

theorem bind {first : Reader ρ α} {next : α → Reader ρ β} (start : Keeps first)
    (continued : ∀ value, Keeps (next value)) : Keeps (first >>= next) := by
  intro object
  obtain ⟨result, ran⟩ := start object
  cases result with
  | error error =>
      refine ⟨.error error, fun state => ?_⟩
      rw [readFrom_bind, ran]
  | ok step =>
      obtain ⟨result, ranNext⟩ := continued step.1 step.2
      refine ⟨result, fun state => ?_⟩
      rw [readFrom_bind, ran]
      exact ranNext state

theorem field (key : String) : Keeps (field key : Reader ρ Value) := by
  intro object
  cases found : object.find (utf8 key) with
  | none => exact ⟨.error .noSuchField, fun state => by rw [readFrom_field, found]⟩
  | some outcome => exact ⟨.ok outcome, fun state => by rw [readFrom_field, found]⟩

theorem fieldOf (convert : Value → Except Error α) (key : String) :
    Keeps (do liftM (convert (← Reader.field key)) : Reader ρ α) :=
  bind (field key) fun member => read (convert member)

end Keeps

/-! ## In parallel -/

/-- Two runs on one object, from two values: both fail alike, or both end alike and the values
are related then. -/
def Parallel (reader : Reader ρ α) (object : Object) (first second : ρ)
    (Finished : α → Object → ρ → ρ → Prop) : Prop :=
  (readFrom reader object first).1 = (readFrom reader object second).1 ∧
    ∀ value rest, (readFrom reader object first).1 = .ok (value, rest) →
      Finished value rest (readFrom reader object first).2 (readFrom reader object second).2

namespace Parallel

variable {object : Object} {first second : ρ} {Finished : α → Object → ρ → ρ → Prop}

theorem refl (reader : Reader ρ α) (object : Object) (state : ρ) :
    Parallel reader object state state fun _ _ after other => after = other :=
  ⟨rfl, fun _ _ _ => rfl⟩

theorem modify {change : ρ → ρ} {Finished : PUnit → Object → ρ → ρ → Prop}
    (finished : Finished ⟨⟩ object (change first) (change second)) :
    Parallel (modifyThe ρ change : Reader ρ PUnit) object first second Finished := by
  refine ⟨rfl, fun value rest ran => ?_⟩
  rw [readFrom_modify] at ran
  cases ran
  exact finished

theorem keeps {reader : Reader ρ α} (keeps : Keeps reader)
    (finished : ∀ value rest, Finished value rest first second) :
    Parallel reader object first second Finished := by
  obtain ⟨result, ran⟩ := keeps object
  unfold Parallel
  rw [ran first, ran second]
  exact ⟨rfl, fun value rest _ => finished value rest⟩

theorem bind {start : Reader ρ β} {next : β → Reader ρ α}
    (parallel : Parallel start object first second fun value rest after other =>
      Parallel (next value) rest after other Finished) :
    Parallel (start >>= next) object first second Finished := by
  obtain ⟨alike, continued⟩ := parallel
  unfold Parallel
  rw [readFrom_bind, readFrom_bind]
  cases ranFirst : readFrom start object first with
  | mk result after =>
      cases ranSecond : readFrom start object second with
      | mk other afterOther =>
          rw [ranFirst, ranSecond] at alike continued
          obtain rfl : result = other := alike
          cases result with
          | error error => exact ⟨rfl, fun _ _ impossible => by cases impossible⟩
          | ok step => exact continued step.1 step.2 rfl

end Parallel

/-! ## What a reader asks for -/

/-- A name that is looked up: whether a field has to be there, and what its value has to be. -/
structure Wanted where
  name : String
  required : Bool
  fits : Value → Bool

/-- Where a search for all of these ends, if each finds what it wants. -/
def placeAfter : List Wanted → Object → Option Object
  | [], object => some object
  | wanted :: others, object =>
      match object.find (utf8 wanted.name) with
      | none => if wanted.required then none else placeAfter others object
      | some (member, rest) => if wanted.fits member then placeAfter others rest else none

theorem placeAfter_append (first second : List Wanted) (object : Object) :
    placeAfter (first ++ second) object = placeAfter first object >>= placeAfter second := by
  induction first generalizing object with
  | nil => rfl
  | cons wanted others ih =>
      rw [List.cons_append, placeAfter, placeAfter]
      cases object.find (utf8 wanted.name) with
      | none =>
          dsimp only
          split_ifs
          · rfl
          · exact ih object
      | some step =>
          dsimp only
          split_ifs
          · exact ih step.2
          · rfl

/-- Started anywhere, the reader comes to its end exactly if it finds what is wanted. -/
def Asks (reader : Reader ρ α) (wanted : List Wanted) : Prop :=
  ∀ object state, (readFrom reader object state).1.toOption.map Prod.snd =
    placeAfter wanted object

namespace Asks

theorem pure (value : α) : Asks (pure value : Reader ρ α) [] := fun _ _ => rfl

theorem bind {first : Reader ρ α} {next : α → Reader ρ β} {wanted others : List Wanted}
    (start : Asks first wanted) (continued : ∀ value, Asks (next value) others) :
    Asks (first >>= next) (wanted ++ others) := by
  intro object state
  have started := start object state
  rw [readFrom_bind, placeAfter_append, ← started]
  cases readFrom first object state with
  | mk result after =>
      cases result with
      | error error => rfl
      | ok step => exact continued step.1 step.2 after

/-- A field that is required and whose value is used. -/
theorem fieldWith {use : Value → Reader ρ α} {fits : Value → Bool} (key : String)
    (uses : ∀ member object state, (readFrom (use member) object state).1.toOption.map Prod.snd =
      if fits member then some object else none) :
    Asks (field key >>= use) [⟨key, true, fits⟩] := by
  intro object state
  rw [readFrom_bind, readFrom_field, placeAfter]
  cases object.find (utf8 key) with
  | none => rfl
  | some step => exact uses step.1 step.2 state

theorem fieldOf (convert : Value → Except Error α) (key : String) :
    Asks (do liftM (convert (← field key)) : Reader ρ α)
      [⟨key, true, fun member => (convert member).isOk⟩] := by
  refine fieldWith key fun member object state => ?_
  rw [readFrom_lift]
  cases convert member <;> rfl

theorem optionalField (convert : Value → Except Error α) (key : String) :
    Asks (optionalField convert key : Reader ρ (Option α)) [⟨key, false, fun _ => true⟩] := by
  intro object state
  rw [readFrom_optionalField, placeAfter]
  cases object.find (utf8 key) <;> rfl

/-- An object that is read on its own. -/
theorem object {reader : Reader ρ α} {wanted : List Wanted} (inside : Asks reader wanted)
    (key : String) :
    Asks (do within (← objectField key) reader)
      [⟨key, true, fun member => member.getObject.toOption.any fun inner =>
        (placeAfter wanted inner).isSome⟩] := by
  unfold objectField
  rw [bind_assoc]
  refine fieldWith key fun member object state => ?_
  rw [readFrom_bind, readFrom_lift]
  cases member.getObject with
  | error error => rfl
  | ok inner =>
      have asked := inside inner state
      simp only [Except.map, readFrom_within, Except.toOption, Option.any_some, ← asked]
      cases readFrom reader inner state with
      | mk result after => cases result <;> rfl

/-- An object that is read only if it is there, and what follows it. -/
theorem optionalObject {reader : Reader ρ α} {next : Option α → Reader ρ β}
    {wanted others : List Wanted} (inside : Asks reader wanted) (key : String)
    (continued : ∀ value, Asks (next value) others) :
    Asks (Reader.optionalField Value.getObject key >>= fun inner =>
        inner.mapM (fun object => within object reader) >>= next)
      (⟨key, false, fun member => member.getObject.toOption.all fun inner =>
        (placeAfter wanted inner).isSome⟩ :: others) := by
  intro object state
  rw [readFrom_bind, readFrom_optionalField, placeAfter]
  cases object.find (utf8 key) with
  | none => exact continued none object state
  | some step =>
      obtain ⟨member, rest⟩ := step
      cases isObject : member.getObject.toOption with
      | none =>
          simp only [isObject, Option.mapM_none, Option.all_none, if_true]
          exact continued none rest state
      | some inner =>
          have asked := inside inner state
          simp only [isObject, Option.mapM_some, Option.all_some, map_eq_pure_bind, readFrom_bind,
            readFrom_within, ← asked]
          cases readFrom reader inner state with
          | mk result after =>
              cases result with
              | error error => rfl
              | ok step => exact continued (some step.1) rest after

end Asks

end Foundation.OnDemand.Reader
