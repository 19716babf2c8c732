import HyperliquidSdk.Foundation.Traversal
import HyperliquidSdk.Rest.DecoderProperties
import HyperliquidSdk.Rest.OutcomeParsers

/-!
# When a description is read

The description of an outcome is text of whoever created it. Reading it throws exactly if
the text of one of its expiries is not a date with a time.
-/

set_option autoImplicit false

namespace HyperliquidSdk.Rest

open Foundation Foundation.OnDemand

variable {ρ α β : Type}

/-- What a decoder returns, with the place in the object and what it has written. -/
def decode (decoder : Decoder ρ α) (object : Object) (response : ρ) :
    Result (Except Error (α × Object) × ρ) :=
  ((decoder.run object).run.run response).run convert

theorem decode_bind (first : Decoder ρ α) (next : α → Decoder ρ β) (object : Object)
    (response : ρ) :
    decode (first >>= next) object response =
      match decode first object response with
      | .ok (.ok (value, rest), after) => decode (next value) rest after
      | .ok (.error error, after) => .ok (.error error, after)
      | .error exception => .error exception := by
  unfold decode
  rw [StateT.run_bind, ExceptT.run_bind, StateT.run_bind, Program.run_bind]
  cases ((first.run object).run.run response).run convert with
  | error exception => rfl
  | ok outcome =>
      obtain ⟨result, after⟩ := outcome
      cases result <;> rfl

/-! ## Decoders that only convert -/

/-- Wherever it is started, the decoder returns what the computation gives, and it neither
reads nor writes. -/
def Performs (decoder : Decoder ρ α) (result : Result α) : Prop :=
  ∀ object response, decode decoder object response =
    (fun value => (.ok (value, object), response)) <$> result

namespace Performs

theorem pure (value : α) : Performs (pure value : Decoder ρ α) (.ok value) :=
  fun _ _ => rfl

theorem perform (conversion : Conversion) :
    Performs (perform conversion : Decoder ρ conversion.Answer) (convert conversion) := by
  intro object response
  show Program.run convert
    (.perform conversion fun answer => .pure (Except.ok (answer, object), response)) = _
  rw [Program.run]
  cases convert conversion <;> rfl

theorem lift (conversions : Conversions α) :
    Performs (liftM conversions : Decoder ρ α) (conversions.run convert) := by
  intro object response
  have inner : (liftM conversions : ExceptT Error (StateT ρ Conversions) α).run.run response =
      (fun value => (Except.ok value, response)) <$> conversions := by
    show (Except.ok <$> (StateT.lift conversions : StateT ρ Conversions α)).run response = _
    rw [StateT.run_map, StateT.run_lift, map_bind, map_eq_pure_bind]
    simp only [map_pure]
  have outer : ((liftM conversions : Decoder ρ α).run object).run.run response =
      (fun step => (step.1.map fun value => (value, object), step.2)) <$>
        (liftM conversions : ExceptT Error (StateT ρ Conversions) α).run.run response := by
    simp
  unfold decode
  rw [outer, inner, Program.run_map, Program.run_map]
  cases conversions.run convert <;> rfl

theorem bind {first : Decoder ρ α} {next : α → Decoder ρ β} {result : Result α}
    {nextResult : α → Result β} (before : Performs first result)
    (after : ∀ value, Performs (next value) (nextResult value)) :
    Performs (first >>= next) (result >>= nextResult) := by
  intro object response
  rw [decode_bind, before object response]
  cases result with
  | error exception => rfl
  | ok value => exact after value object response

theorem foldlM {step : β → α → Decoder ρ β} {stepResult : β → α → Result β}
    (each : ∀ state item, Performs (step state item) (stepResult state item)) (items : List α) :
    ∀ state, Performs (items.foldlM step state) (items.foldlM stepResult state) := by
  induction items with
  | nil => exact pure
  | cons item items ih => exact fun state => bind (each state item) ih

theorem result_eq {decoder : Decoder ρ α} {first second : Result α} (response : ρ)
    (left : Performs decoder first) (right : Performs decoder second) : first = second := by
  have same := (left [] response).symm.trans (right [] response)
  cases first with
  | error exception =>
      cases second with
      | error other => exact congrArg Except.error (Except.error.inj same)
      | ok value => cases same
  | ok value =>
      cases second with
      | error exception => cases same
      | ok other => simpa using same

end Performs

/-! ## Expiries -/

/-- `std::stoi(s.substr(position, count))`. -/
def stoiAt (s : Bytes) (position count : Nat) : Result Int := do
  let part ← substr s position count
  (stoi part).mapError (throwsAs "stoi")

def expiryOf (s : Bytes) : Result TimePoint := do
  let year ← stoiAt s 0 4
  let month ← stoiAt s 4 2
  let day ← stoiAt s 6 2
  let hour ← stoiAt s 9 2
  let minute ← stoiAt s 11 2
  return .ofInt (timegm year (month - 1) day hour minute * 10 ^ 9)

/-- The part of the text is there and starts with a number. -/
def ReadableAt (s : Bytes) (position count : Nat) : Prop :=
  position ≤ s.length ∧ ∃ number, stoi ((s.drop position).take count) = .ok number

/-- The year, the month, the day, and after one more byte the hour and the minute. -/
structure ReadableExpiry (s : Bytes) : Prop where
  year : ReadableAt s 0 4
  month : ReadableAt s 4 2
  day : ReadableAt s 6 2
  hour : ReadableAt s 9 2
  minute : ReadableAt s 11 2

theorem stoiOf_performs (s : Bytes) (position count : Nat) :
    Performs (stoiOf s position count : Decoder ρ Int) (stoiAt s position count) :=
  .bind (.perform (.substr s position count)) fun part => .perform (.stoi part)

theorem parseOutcomeExpiry_performs (s : Bytes) :
    Performs (parseOutcomeExpiry s : Decoder ρ TimePoint) (expiryOf s) :=
  .bind (stoiOf_performs s 0 4) fun _ => .bind (stoiOf_performs s 4 2) fun _ =>
    .bind (stoiOf_performs s 6 2) fun _ => .bind (stoiOf_performs s 9 2) fun _ =>
      .bind (stoiOf_performs s 11 2) fun _ => .pure _

theorem stoiAt_returns_iff (s : Bytes) (position count : Nat) :
    (∃ number, stoiAt s position count = .ok number) ↔ ReadableAt s position count := by
  unfold stoiAt substr ReadableAt
  by_cases inside : position ≤ s.length
  · rw [if_pos inside, ok_bind]
    cases stoi ((s.drop position).take count) with
    | error error =>
        constructor
        · intro ⟨number, impossible⟩
          cases impossible
        · intro ⟨_, number, impossible⟩
          cases impossible
    | ok number => exact ⟨fun _ => ⟨inside, number, rfl⟩, fun _ => ⟨number, rfl⟩⟩
  · rw [if_neg inside]
    constructor
    · intro ⟨number, impossible⟩
      cases impossible
    · exact fun readable => absurd readable.1 inside

theorem expiryOf_returns_iff (s : Bytes) :
    (∃ expiry, expiryOf s = .ok expiry) ↔ ReadableExpiry s := by
  have part {β : Type} {next : Int → Result β} {position count : Nat} {Rest : Prop}
      (rest : ∀ number, (∃ value, next number = .ok value) ↔ Rest) :
      (∃ value, (stoiAt s position count >>= next) = .ok value) ↔
        ReadableAt s position count ∧ Rest := by
    rw [returns_bind_iff, ← stoiAt_returns_iff]
    constructor
    · intro ⟨number, read, returned⟩
      exact ⟨⟨number, read⟩, (rest number).mp returned⟩
    · intro ⟨⟨number, read⟩, holds⟩
      exact ⟨number, read, (rest number).mpr holds⟩
  have parts : (∃ expiry, expiryOf s = .ok expiry) ↔
      ReadableAt s 0 4 ∧ ReadableAt s 4 2 ∧ ReadableAt s 6 2 ∧ ReadableAt s 9 2 ∧
        ReadableAt s 11 2 ∧ True :=
    part fun _ => part fun _ => part fun _ => part fun _ => part fun _ =>
      ⟨fun _ => trivial, fun _ => ⟨_, rfl⟩⟩
  rw [parts]
  constructor
  · intro ⟨year, month, day, hour, minute, _⟩
    exact ⟨year, month, day, hour, minute⟩
  · intro ⟨year, month, day, hour, minute⟩
    exact ⟨year, month, day, hour, minute, trivial⟩

/-! ## Descriptions -/

/-- The text of an expiry, if the segment is one. -/
def expiryText (segment : Bytes) : Option Bytes :=
  match segment.span (· ≠ 58) with
  | (_, []) => none
  | (key, _ :: val) => if key = utf8 "expiry" then some val else none

def expiriesOf (desc : Bytes) : List Bytes := (desc.splitOn 124).filterMap expiryText

def segmentOf (result : OutcomeDescription) (segment : Bytes) : Result OutcomeDescription :=
  match segment.span (· ≠ 58) with
  | (_, []) => return result
  | (key, _ :: val) =>
      if key = utf8 "class" then return { result with outcomeClass := val }
      else if key = utf8 "underlying" then return { result with underlying := val }
      else if key = utf8 "expiry" then do
        let expiry ← expiryOf val
        return { result with expiry }
      else if key = utf8 "targetPrice" then return { result with targetPrice := val }
      else if key = utf8 "period" then return { result with period := val }
      else return result

def descriptionOf (desc : Bytes) : Result OutcomeDescription :=
  (desc.splitOn 124).foldlM segmentOf {}

theorem parseOutcomeSegment_performs (result : OutcomeDescription) (segment : Bytes) :
    Performs (parseOutcomeSegment result segment : Decoder ρ OutcomeDescription)
      (segmentOf result segment) := by
  unfold parseOutcomeSegment segmentOf
  generalize segment.span (· ≠ 58) = parts
  obtain ⟨key, _ | ⟨colon, val⟩⟩ := parts
  · exact .pure result
  · dsimp only
    split
    · exact .pure _
    split
    · exact .pure _
    split
    · exact .bind (parseOutcomeExpiry_performs val) fun _ => .pure _
    split
    · exact .pure _
    split
    · exact .pure _
    · exact .pure _

theorem parseOutcomeDescription_performs (desc : Bytes) :
    Performs (parseOutcomeDescription desc : Decoder ρ OutcomeDescription) (descriptionOf desc) :=
  .foldlM parseOutcomeSegment_performs _ _

theorem segmentOf_returns_iff (result : OutcomeDescription) (segment : Bytes) :
    (∃ next, segmentOf result segment = .ok next) ↔
      ∀ expiry, expiryText segment = some expiry → ReadableExpiry expiry := by
  unfold segmentOf expiryText
  generalize segment.span (· ≠ 58) = parts
  obtain ⟨key, _ | ⟨colon, val⟩⟩ := parts
  · exact ⟨fun _ _ impossible => (by cases impossible), fun _ => ⟨result, rfl⟩⟩
  · dsimp only
    by_cases isExpiry : key = utf8 "expiry"
    · subst isExpiry
      have notClass : utf8 "expiry" ≠ utf8 "class" := by decide
      have notUnderlying : utf8 "expiry" ≠ utf8 "underlying" := by decide
      rw [if_neg notClass, if_neg notUnderlying, if_pos rfl, if_pos rfl, returns_bind_iff]
      constructor
      · intro ⟨expiry, read, _⟩ text same
        obtain rfl := Option.some.inj same
        exact (expiryOf_returns_iff val).mp ⟨expiry, read⟩
      · intro readable
        obtain ⟨expiry, read⟩ := (expiryOf_returns_iff val).mpr (readable val rfl)
        exact ⟨expiry, read, _, rfl⟩
    · rw [if_neg isExpiry, if_neg isExpiry]
      constructor
      · intro _ expiry impossible
        cases impossible
      · intro _
        split
        · exact ⟨_, rfl⟩
        split
        · exact ⟨_, rfl⟩
        split
        · exact ⟨_, rfl⟩
        split
        · exact ⟨_, rfl⟩
        · exact ⟨_, rfl⟩

theorem descriptionOf_returns_iff (desc : Bytes) :
    (∃ description, descriptionOf desc = .ok description) ↔
      ∀ expiry ∈ expiriesOf desc, ReadableExpiry expiry := by
  unfold descriptionOf expiriesOf
  rw [returns_foldlM_iff segmentOf_returns_iff]
  constructor
  · intro all expiry found
    obtain ⟨segment, member, isExpiry⟩ := List.mem_filterMap.mp found
    exact all segment member expiry isExpiry
  · intro all segment member expiry isExpiry
    exact all expiry (List.mem_filterMap.mpr ⟨segment, member, isExpiry⟩)

/-! ## Outcomes -/

/-- What `parseOutcomeSpec` reads before it parses the description. -/
def outcomeHeader : Decoder Outcome Bytes := do
  let outcome ← intField "outcome"
  modifyThe Outcome fun spec => { spec with outcome }
  let name ← stringField "name"
  modifyThe Outcome fun spec => { spec with name }
  let descriptionRaw ← stringField "description"
  modifyThe Outcome fun spec => { spec with descriptionRaw }
  return descriptionRaw

/-- What it reads afterwards. -/
def outcomeFooter (description : OutcomeDescription) : Decoder Outcome Unit := do
  modifyThe Outcome fun spec => { spec with description }
  (← arrayField "sideSpecs").forM fun sideEntry => do
    let sideSpec ← within (← sideEntry.getObject) parseOutcomeSideSpec
    modifyThe Outcome fun spec => { spec with sideSpecs := spec.sideSpecs ++ [sideSpec] }
  match ← optionalField Value.getString "quoteToken" with
  | none => pure ()
  | some quoteToken => modifyThe Outcome fun spec => { spec with quoteToken }
  match ← optionalField Value.getString "deployer" with
  | none => pure ()
  | some deployer => modifyThe Outcome fun spec => { spec with deployer }

theorem parseOutcomeSpec_eq :
    parseOutcomeSpec =
      (outcomeHeader >>= fun desc => parseOutcomeDescription desc >>= outcomeFooter) := by
  unfold parseOutcomeSpec outcomeHeader
  simp only [bind_assoc, pure_bind]
  refine bind_congr fun _ => bind_congr fun _ => bind_congr fun _ => bind_congr fun _ =>
    bind_congr fun _ => bind_congr fun _ => bind_congr fun description => ?_
  unfold outcomeFooter
  refine bind_congr fun _ => bind_congr fun _ => bind_congr fun _ => bind_congr fun quoteToken => ?_
  cases quoteToken with
  | none => exact bind_congr fun deployer => by cases deployer <;> rfl
  | some quoteToken =>
      exact bind_congr fun _ => bind_congr fun deployer => by cases deployer <;> rfl

theorem outcomeHeader_convertsNothing : ConvertsNothing outcomeHeader :=
  .bind (.intField "outcome") fun _ => .bind (.modify _) fun _ =>
    .bind (.stringField "name") fun _ => .bind (.modify _) fun _ =>
      .bind (.stringField "description") fun _ => .bind (.modify _) fun _ => .pure _

theorem outcomeFooter_convertsNothing (description : OutcomeDescription) :
    ConvertsNothing (outcomeFooter description) := by
  have sideSpec : ConvertsNothing (parseOutcomeSideSpec : Decoder Outcome OutcomeSideSpec) :=
    .bind (.stringField "name") fun _ => .bind (.optionalField _ "token") fun _ => .pure _
  have deployed : ConvertsNothing (ρ := Outcome) (do
      match ← optionalField Value.getString "deployer" with
      | none => pure ()
      | some deployer => modifyThe Outcome fun spec => { spec with deployer }) :=
    .bind (.optionalField _ _) (.onOption (.pure _) fun _ => .modify _)
  exact .bind (.modify _) fun _ => .bind (.arrayField "sideSpecs") fun _ =>
    .bind (.objects sideSpec fun _ => .modify _) fun _ => .bind (.optionalField _ "quoteToken")
      (.onOption deployed fun _ => .bind (.modify _) fun _ => deployed)

theorem ConvertsNothing.decode_eq_ok {decoder : Decoder ρ α} (nothing : ConvertsNothing decoder)
    (object : Object) (response : ρ) : ∃ outcome, decode decoder object response = .ok outcome := by
  obtain ⟨outcome, ran⟩ := nothing object response
  unfold decode
  rw [ran]
  exact ⟨outcome, rfl⟩

theorem attempt_run (object : Object) (initial : ρ) (decoder : Decoder ρ Unit) :
    (attempt object initial decoder).run convert =
      (fun outcome => (outcome.1.map Prod.fst, outcome.2)) <$> decode decoder object initial := by
  unfold attempt decode
  rw [StateT.run'_eq, ExceptT.run_map, StateT.run_map, Program.run_map]

/-- The description of an outcome, if the parser comes to it. -/
def describedAs (object : Object) (initial : Outcome) : Option Bytes :=
  match decode outcomeHeader object initial with
  | .ok (.ok (desc, _), _) => some desc
  | _ => none

theorem attempt_outcome_returns_iff (object : Object) (initial : Outcome) :
    (∃ outcome, (attempt object initial parseOutcomeSpec).run convert = .ok outcome) ↔
      ∀ desc, describedAs object initial = some desc →
        ∀ expiry ∈ expiriesOf desc, ReadableExpiry expiry := by
  rw [attempt_run, parseOutcomeSpec_eq, decode_bind]
  unfold describedAs
  obtain ⟨⟨header, response⟩, headerRead⟩ := outcomeHeader_convertsNothing.decode_eq_ok object initial
  rw [headerRead]
  cases header with
  | error error =>
      constructor
      · intro _ desc impossible
        cases impossible
      · exact fun _ => ⟨_, rfl⟩
  | ok step =>
      obtain ⟨desc, rest⟩ := step
      dsimp only
      rw [decode_bind, parseOutcomeDescription_performs desc rest response]
      have described : (∃ description, descriptionOf desc = .ok description) ↔
          ∀ text, some desc = some text → ∀ expiry ∈ expiriesOf text, ReadableExpiry expiry := by
        rw [descriptionOf_returns_iff]
        exact ⟨fun all text same => Option.some.inj same ▸ all, fun all => all desc rfl⟩
      rw [← described]
      cases descriptionOf desc with
      | error exception =>
          constructor
          · intro ⟨outcome, impossible⟩
            cases impossible
          · intro ⟨description, impossible⟩
            cases impossible
      | ok description =>
          obtain ⟨footer, footerRead⟩ :=
            (outcomeFooter_convertsNothing description).decode_eq_ok rest response
          constructor
          · exact fun _ => ⟨description, rfl⟩
          · intro _
            show ∃ outcome, _ <$> decode (outcomeFooter description) rest response = .ok outcome
            rw [footerRead]
            exact ⟨_, rfl⟩

end HyperliquidSdk.Rest
