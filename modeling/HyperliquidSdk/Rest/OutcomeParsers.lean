import HyperliquidSdk.Rest.Decoder
import HyperliquidSdk.Types.ResponseTypes

/-!
# Parsers of the outcome responses

The outcome markets of `outcomeMeta` and `settledOutcome`, with the description text
that both share.
-/

set_option autoImplicit false

namespace HyperliquidSdk.Rest

open Foundation Foundation.OnDemand

variable {ρ : Type} (document : Bytes → Except Error Value)

/-- Seconds since 1970 of a UTC date; months count from zero and may leave their year. -/
def timegm (year month day hour minute : Int) : Int :=
  let year := year + month / 12
  let month := month % 12
  -- years that start in March end with the leap day
  let marchYear := if month < 2 then year - 1 else year
  let daysBefore := 365 * marchYear + marchYear / 4 - marchYear / 100 + marchYear / 400 +
    (153 * ((month + 10) % 12) + 2) / 5 - 719468
  ((daysBefore + day - 1) * 24 + hour) * 3600 + minute * 60

def stoiOf (text : Bytes) (position count : Nat) : Decoder ρ Int := do
  perform (.stoi (← perform (.substr text position count)))

/-- The count of nanoseconds wraps for an expiry that is centuries away. -/
def parseOutcomeExpiry (s : Bytes) : Decoder ρ TimePoint := do
  let year ← stoiOf s 0 4
  let month ← stoiOf s 4 2
  let day ← stoiOf s 6 2
  let hour ← stoiOf s 9 2
  let minute ← stoiOf s 11 2
  return .ofInt (timegm year (month - 1) day hour minute * 10 ^ 9)

def parseOutcomeSegment (result : OutcomeDescription) (segment : Bytes) :
    Decoder ρ OutcomeDescription := do
  match segment.span (· ≠ 58) with
  | (_, []) => return result
  | (key, _ :: val) =>
      if key = utf8 "class" then return { result with outcomeClass := val }
      else if key = utf8 "underlying" then return { result with underlying := val }
      else if key = utf8 "expiry" then
        let expiry ← parseOutcomeExpiry val
        return { result with expiry }
      else if key = utf8 "targetPrice" then return { result with targetPrice := val }
      else if key = utf8 "period" then return { result with period := val }
      else return result

def parseOutcomeDescription (desc : Bytes) : Decoder ρ OutcomeDescription :=
  (desc.splitOn 124).foldlM parseOutcomeSegment {}

def parseOutcomeSideSpec : Decoder ρ OutcomeSideSpec := do
  let name ← stringField "name"
  let token ← optionalField getInt "token"
  return { name, token }

def parseOutcomeSpec : Decoder Outcome Unit := do
  let outcome ← intField "outcome"
  modifyThe Outcome fun spec => { spec with outcome }
  let name ← stringField "name"
  modifyThe Outcome fun spec => { spec with name }
  let descriptionRaw ← stringField "description"
  modifyThe Outcome fun spec => { spec with descriptionRaw }
  let description ← parseOutcomeDescription descriptionRaw
  modifyThe Outcome fun spec => { spec with description }
  (← arrayField "sideSpecs").forM fun sideEntry => do
    let sideSpec ← within (← sideEntry.getObject) parseOutcomeSideSpec
    modifyThe Outcome fun spec => { spec with sideSpecs := spec.sideSpecs ++ [sideSpec] }
  match ← optionalField Value.getString "quoteToken" with
  | none => pure ()
  | some quoteToken => modifyThe Outcome fun spec => { spec with quoteToken }
  match ← optionalField Value.getString "deployer" with
  | none => pure ()
  | some deployer => modifyThe Outcome fun spec => { spec with deployer }

def parseOutcomeMeta (message : Bytes) : Conversions OutcomeMetaResponse :=
  parseDocument document {} message fun doc => do
    within (← doc.getObject) do
      (← arrayField "outcomes").forM fun entry => do
        let (parsed, outcome) ← attempt (← entry.getObject) {} parseOutcomeSpec
        liftM parsed
        modifyThe OutcomeMetaResponse fun response =>
          { response with outcomes := response.outcomes ++ [outcome] }

/-- Is the question settled, and its id? -/
def parseQuestionId : Decoder ρ (Bool × Int32) := do
  match ← optionalField getInt "active" with
  | some active => return (false, active)
  | none => return (true, ← intField "settled")

def parseSettledOutcomeQuestion : Decoder ρ SettledOutcomeQuestion := do
  let (isSettled, questionId) ← within (← objectField "question") parseQuestionId
  let name ← stringField "name"
  let description ← stringField "description"
  return { isSettled, questionId, name, description }

def parseSettledOutcome (message : Bytes) : Conversions SettledOutcomeResponse :=
  parseDocument document {} message fun doc => do
    if doc.isNull then return
    else
      within (← doc.getObject) do
        modifyThe SettledOutcomeResponse fun response => { response with isSettled := true }
        let (parsed, spec) ← attempt (← objectField "spec") {} parseOutcomeSpec
        modifyThe SettledOutcomeResponse fun response => { response with spec }
        liftM parsed
        let settleFraction ← doubleField "settleFraction"
        modifyThe SettledOutcomeResponse fun response => { response with settleFraction }
        let details ← stringField "details"
        modifyThe SettledOutcomeResponse fun response => { response with details }
        match ← optionalField Value.getObject "question" with
        | none => return
        | some object =>
            let question ← within object parseSettledOutcomeQuestion
            modifyThe SettledOutcomeResponse fun response => { response with question }

end HyperliquidSdk.Rest
