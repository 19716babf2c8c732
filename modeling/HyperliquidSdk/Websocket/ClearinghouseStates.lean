import HyperliquidSdk.Rest.AccountParsers
import HyperliquidSdk.Websocket.RestAgreement

/-!
# Clearinghouse states

The state of a clearinghouse as it comes in a response and as it comes in a message. A field
that no parser assigns is none.
-/

set_option autoImplicit false

namespace HyperliquidSdk.Websocket

open Foundation Foundation.OnDemand Foundation.OnDemand.Reader

variable {ρ : Type}

/-! ## Objects -/

def summaryNumbers : List String :=
  ["accountValue", "totalNtlPos", "totalRawUsd", "totalMarginUsed"]

def stateNumbers : List String := ["crossMaintenanceMarginUsed", "withdrawable"]

/-- A clearinghouse state with decimal numbers in its numeric strings. -/
structure StateOnWire (object : Object) : Prop where
  numbers : NumericText stateNumbers object
  summaries : ∀ name ∈ ["marginSummary", "crossMarginSummary"], ∀ {member inner},
    MemberOf object name member → member.getObject = .ok inner → NumericText summaryNumbers inner

/-- The order in which the parser of responses looks up the fields, and that of messages. -/
def responseOrder : List String :=
  ["marginSummary", "crossMarginSummary", "crossMaintenanceMarginUsed", "withdrawable", "time",
    "assetPositions"]

def messageOrder : List String :=
  ["assetPositions", "marginSummary", "crossMarginSummary", "crossMaintenanceMarginUsed",
    "withdrawable"]

/-- The member that the parser of responses finds, and the one that the other finds. If a name
is repeated, these may be different ones. -/
def inResponse (name : String) (object : Object) : Option Value :=
  Object.seek name responseOrder object

def inMessage (name : String) (object : Object) : Option Value :=
  Object.seek name messageOrder object

/-! ## What a member stands for -/

/-- The number of a string, and zero for anything else. -/
def textNumberOf (member : Option Value) : Double :=
  ((member.bind fun value => value.getString.toOption).map toDouble).getD .zero

/-- The number of a string or of a number. -/
def numberOf (member : Option Value) : Double :=
  match member with
  | none => .zero
  | some value =>
      match value.getString with
      | .ok text => toDouble text
      | .error _ => value.getDouble.toOption.getD .zero

def summaryOf (inner : Object) : MarginSummary :=
  let number (name : String) : Double := numberOf (Object.seek name summaryNumbers inner)
  { accountValue := number "accountValue"
    totalNtlPos := number "totalNtlPos"
    totalRawUsd := number "totalRawUsd"
    totalMarginUsed := number "totalMarginUsed" }

def marginsOf (member : Option Value) : MarginSummary :=
  ((member.bind fun value => value.getObject.toOption).map summaryOf).getD {}

def entriesOf (member : Option Value) : List Value :=
  (member.bind fun value => value.getArray.toOption).getD []

def isNumber (value : Value) : Bool := value.getString.isOk || value.getDouble.isOk

/-- What the parser of messages wants of a position. -/
def positionFields : List Wanted :=
  [⟨"coin", true, fun member => member.getString.isOk⟩, ⟨"szi", true, isNumber⟩,
    ⟨"entryPx", true, isNumber⟩, ⟨"positionValue", true, isNumber⟩,
    ⟨"unrealizedPnl", true, isNumber⟩, ⟨"returnOnEquity", true, isNumber⟩,
    ⟨"marginUsed", true, isNumber⟩, ⟨"maxLeverage", true, fun member => (Rest.getInt member).isOk⟩,
    ⟨"liquidationPx", false, fun _ => true⟩,
    ⟨"leverage", false, fun member => member.getObject.toOption.all fun inner =>
      (placeAfter [⟨"type", true, fun member => member.getString.isOk⟩] inner).isSome⟩]

/-- The entry is one that the parser of messages does not skip. -/
def isPosition (entry : Value) : Bool :=
  entry.getObject.toOption.any fun outer =>
    (placeAfter [⟨"position", true, fun member => member.getObject.toOption.any fun inner =>
      (placeAfter positionFields inner).isSome⟩] outer).isSome

/-! ## Margin summaries -/

section Numbers

variable {order names : List String} {start object rest : Object} {name : String}

theorem memberOf_found (ahead : Object.Ahead order start names object) {member : Value}
    (found : object.find (utf8 name) = some (member, rest)) : MemberOf start name member := by
  obtain ⟨key, present, named⟩ := Object.find_mem found
  exact ⟨key, ahead.perm.mem_iff.mp present, named⟩

/-- The decoder converts the text of a number as the reader does, if it does not throw. -/
theorem toDouble_ensures {numbers : List String} (numeric : NumericText numbers start)
    (listed : name ∈ numbers) {member : Value} (isMember : MemberOf start name member) {sv : Bytes}
    (isText : member.getString = .ok sv) {response : ρ} {Finished : Double → Object → ρ → Prop}
    (finished : Finished (toDouble sv) object response) :
    Rest.Ensures (Rest.toDouble sv) object response (fun _ => True) Finished :=
  Reading.text ⟨Object.samePlace_alike start, numeric⟩ listed isMember isText finished

theorem doubleField_ensures {numbers : List String} (numeric : NumericText numbers start)
    (listed : name ∈ numbers) (ahead : Object.Ahead order start (name :: names) object)
    (fresh : name ∉ names) {response : ρ} {Finished : Double → Object → ρ → Prop}
    (finished : ∀ {rest}, Object.Ahead order start names rest →
      Finished (numberOf (Object.seek name order start)) rest response) :
    Rest.Ensures (Rest.doubleField name) object response (fun _ => True) Finished := by
  refine .bind (.fieldOf trivial fun member rest sv found isText => ?_)
  obtain ⟨sought, next⟩ := ahead.found fresh found
  refine toDouble_ensures numeric listed (memberOf_found ahead found) isText ?_
  have converted : numberOf (Object.seek name order start) = toDouble sv := by
    rw [sought, numberOf, isText]
  exact converted ▸ finished next

theorem toDoubleField_reads (ahead : Object.Ahead order start (name :: names) object)
    (fresh : name ∉ names) {number : Double}
    (ran : readFrom (toDoubleField name) object () = (.ok (number, rest), ())) :
    number = numberOf (Object.seek name order start) ∧
      (∃ member, Object.seek name order start = some member ∧ isNumber member = true) ∧
      Object.Ahead order start names rest := by
  obtain ⟨member, middle, _, searched, converted⟩ := readFrom_bind_eq_ok ran
  rw [readFrom_field] at searched
  cases found : object.find (utf8 name) with
  | none =>
      rw [found] at searched
      cases searched
  | some step =>
      rw [found] at searched
      cases searched
      obtain ⟨sought, next⟩ := ahead.found fresh found
      rw [sought]
      cases isText : member.getString with
      | ok sv =>
          simp only [isText] at converted
          cases converted
          exact ⟨by rw [numberOf, isText], ⟨member, rfl, by rw [isNumber, isText]; rfl⟩, next⟩
      | error error =>
          simp only [isText] at converted
          rw [readFrom_lift] at converted
          cases isDouble : member.getDouble with
          | error error =>
              rw [isDouble] at converted
              cases converted
          | ok double =>
              rw [isDouble] at converted
              cases converted
              refine ⟨?_, ⟨member, rfl, by rw [isNumber, isText, isDouble]; rfl⟩, next⟩
              rw [numberOf, isText, isDouble]
              rfl

theorem objectField_reads (ahead : Object.Ahead order start (name :: names) object)
    (fresh : name ∉ names) {inner : Object}
    (ran : readFrom (objectField name) object () = (.ok (inner, rest), ())) :
    marginsOf (Object.seek name order start) = summaryOf inner ∧
      Object.Ahead order start names rest := by
  obtain ⟨member, middle, _, searched, converted⟩ := readFrom_bind_eq_ok ran
  rw [readFrom_field] at searched
  cases found : object.find (utf8 name) with
  | none =>
      rw [found] at searched
      cases searched
  | some step =>
      rw [found] at searched
      cases searched
      obtain ⟨sought, next⟩ := ahead.found fresh found
      rw [readFrom_lift] at converted
      cases isObject : member.getObject with
      | error error =>
          rw [isObject] at converted
          cases converted
      | ok fields =>
          rw [isObject] at converted
          cases converted
          refine ⟨?_, next⟩
          rw [sought, marginsOf, Option.bind_some, isObject]
          rfl

end Numbers

theorem marginSummary_ensures {inner : Object} (plain : NumericText summaryNumbers inner)
    {change : (MarginSummary → MarginSummary) → ρ → ρ}
    (composes : ∀ first second response,
      change second (change first response) =
        change (fun summary => second (first summary)) response)
    (response : ρ) :
    Rest.Ensures (Rest.parseMarginSummary change) inner response (fun _ => True)
      fun _ _ after => after = change (fun _ => summaryOf inner) response := by
  refine .bind (doubleField_ensures plain (by decide) (.all summaryNumbers inner) (by decide)
    fun next => .bind (.modify ?_))
  refine .bind (doubleField_ensures plain (by decide) next (by decide) fun next =>
    .bind (.modify ?_))
  refine .bind (doubleField_ensures plain (by decide) next (by decide) fun next =>
    .bind (.modify ?_))
  refine .bind (doubleField_ensures plain (by decide) next (by decide) fun next => .modify ?_)
  rw [composes, composes, composes]
  rfl

theorem marginSummary_reads {inner rest : Object} {summary : MarginSummary}
    (ran : readFrom parseMarginSummary inner () = (.ok (summary, rest), ())) :
    summary = summaryOf inner := by
  obtain ⟨_, _, _, accountValue, ran⟩ := readFrom_bind_eq_ok ran
  obtain ⟨rfl, -, next⟩ := toDoubleField_reads (.all summaryNumbers inner) (by decide) accountValue
  obtain ⟨_, _, _, totalNtlPos, ran⟩ := readFrom_bind_eq_ok ran
  obtain ⟨rfl, -, next⟩ := toDoubleField_reads next (by decide) totalNtlPos
  obtain ⟨_, _, _, totalRawUsd, ran⟩ := readFrom_bind_eq_ok ran
  obtain ⟨rfl, -, next⟩ := toDoubleField_reads next (by decide) totalRawUsd
  obtain ⟨_, _, _, totalMarginUsed, ran⟩ := readFrom_bind_eq_ok ran
  obtain ⟨rfl, -, next⟩ := toDoubleField_reads next (by decide) totalMarginUsed
  cases ran
  rfl

/-! ## Positions -/

/-- The entry of an array of positions, as the parser of messages reads it. -/
def positionIn (entry : Value) : Reader ρ AssetPosition := do
  within (← entry.getObject) do within (← objectField "position") parsePosition

theorem parsePosition_asks : Asks (parsePosition : Reader ρ AssetPosition) positionFields := by
  have number (name : String) :
      Asks (toDoubleField name : Reader ρ Double) [⟨name, true, isNumber⟩] := by
    refine .fieldWith name fun member object state => ?_
    unfold isNumber
    cases member.getString with
    | ok sv => rfl
    | error error =>
        dsimp only
        rw [readFrom_lift]
        cases member.getDouble <;> rfl
  have price : Asks (textOrEmpty "liquidationPx" : Reader ρ Bytes)
      [⟨"liquidationPx", false, fun _ => true⟩] :=
    .bind (.optionalField _ "liquidationPx") fun _ => .pure _
  have asks : Asks (parsePosition : Reader ρ AssetPosition) _ :=
    .bind (.fieldOf _ "coin") fun _ => .bind (number "szi") fun _ =>
      .bind (number "entryPx") fun _ => .bind (number "positionValue") fun _ =>
        .bind (number "unrealizedPnl") fun _ => .bind (number "returnOnEquity") fun _ =>
          .bind (number "marginUsed") fun _ => .bind (.fieldOf _ "maxLeverage") fun _ =>
            .bind price fun _ => .optionalObject (.fieldOf _ "type") "leverage" fun _ => .pure _
  exact asks

theorem stringNumber_onlyReads (value : Value) :
    Rest.OnlyReads (Rest.stringNumber value : Rest.Decoder ρ (Option Double)) := by
  unfold Rest.stringNumber
  cases value.getString with
  | error error => exact .pure none
  | ok text => exact .bind (.toDouble text) fun _ => .pure _

theorem parseAssetPosition_onlyReads :
    Rest.OnlyReads (Rest.parseAssetPosition : Rest.Decoder ρ AssetPosition) := by
  refine .bind (.fieldOf _ "coin") fun _ => .bind (.doubleField "szi") fun _ =>
    .bind (.doubleField "entryPx") fun _ => .bind (.doubleField "positionValue") fun _ => ?_
  refine .bind (.doubleField "unrealizedPnl") fun _ => .bind (.doubleField "returnOnEquity")
    fun _ => .bind (.presentField "liquidationPx") fun _ => ?_
  exact .bind (.optional stringNumber_onlyReads _) fun _ => .pure _

theorem parseAssetPosition_ensures (object : Object) (response : ρ) :
    Rest.Ensures Rest.parseAssetPosition object response (fun _ => True)
      fun position _ _ => position.marginUsed = none := by
  refine .anyway fun coin _ _ => .anyway fun szi _ _ => .anyway fun entryPx _ _ => ?_
  refine .anyway fun positionValue _ _ => .anyway fun unrealizedPnl _ _ => ?_
  refine .anyway fun returnOnEquity _ _ => .anyway fun present _ _ => ?_
  exact .anyway fun liquidationPx _ _ => .pure rfl

def positionOf (entry : Value) : Rest.Decoder ρ AssetPosition := do
  Rest.within (← entry.getObject) do
    Rest.within (← Rest.objectField "position") Rest.parseAssetPosition

theorem positionOf_standalone (entry : Value) :
    Rest.Standalone (positionOf entry : Rest.Decoder ρ AssetPosition) :=
  .object entry (.bind (.fieldOf _ "position") fun object =>
    .within object parseAssetPosition_onlyReads)

/-- The parser of responses never assigns the margin of a position. -/
theorem marginUsed_of_performs {entry : Value} {position : AssetPosition}
    (performs : Rest.Performs (positionOf entry : Rest.Decoder ρ AssetPosition) (.ok position))
    (response : ρ) : position.marginUsed = none := by
  have ensures : Rest.Ensures (positionOf entry) [] response (fun _ => True)
      fun position _ _ => position.marginUsed = none := by
    refine .anyway fun object _ _ => .within (.anyway fun inner _ _ => .within ?_)
    exact parseAssetPosition_ensures inner _
  exact ensures.finished (performs [] response)

/-- An entry that is no position is skipped. -/
theorem positionIn_attempted (entry : Value) (object : Object) :
    ∃ position, readFrom (attempted (positionIn entry)) object () = (.ok (position, object), ()) ∧
      position.isSome = isPosition entry := by
  have asks :
      Asks (do within (← objectField "position") parsePosition : Reader Unit AssetPosition) _ :=
    .object parsePosition_asks "position"
  unfold positionIn isPosition
  rw [readFrom_attempted, readFrom_bind, readFrom_lift]
  cases entry.getObject with
  | error error => exact ⟨none, rfl, rfl⟩
  | ok outer =>
      have asked := asks outer ()
      simp only [Except.map, readFrom_within]
      cases ran : readFrom (do within (← objectField "position") parsePosition) outer () with
      | mk result after =>
          rw [ran] at asked
          show ∃ position : Option AssetPosition, _ ∧ position.isSome = (placeAfter _ outer).isSome
          rw [← asked]
          cases result with
          | error error => exact ⟨none, rfl, rfl⟩
          | ok step => exact ⟨some step.1, rfl, rfl⟩

/-- Nothing is left of the entries exactly if none of them is a position. -/
theorem parseEntries_reads (entries : List Value) (object : Object) :
    ∃ positions, readFrom (parseEntries positionIn entries) object () =
        (.ok (positions, object), ()) ∧
      (positions = [] ↔ ∀ entry ∈ entries, isPosition entry = false) := by
  have loop (entries : List Value) : ∀ collected : List AssetPosition,
      ∃ positions, readFrom
        (List.filterMapM.loop (fun entry => attempted (positionIn entry)) entries
          collected) object () = (.ok (positions, object), ()) ∧
        (positions = [] ↔ collected = [] ∧ ∀ entry ∈ entries, isPosition entry = false) := by
    induction entries with
    | nil =>
        intro collected
        refine ⟨collected.reverse, rfl, ?_⟩
        rw [List.reverse_eq_nil_iff]
        exact ⟨fun empty => ⟨empty, fun _ impossible => absurd impossible List.not_mem_nil⟩,
          fun both => both.1⟩
    | cons entry entries ih =>
        intro collected
        obtain ⟨position, read, isRead⟩ := positionIn_attempted entry object
        rw [List.filterMapM.loop, readFrom_bind, read]
        cases position with
        | none =>
            obtain ⟨positions, others, none⟩ := ih collected
            refine ⟨positions, others, ?_⟩
            rw [none, List.forall_mem_cons, ← isRead, Option.isSome_none]
            exact ⟨fun both => ⟨both.1, rfl, both.2⟩, fun all => ⟨all.1, all.2.2⟩⟩
        | some position =>
            obtain ⟨positions, others, none⟩ := ih (position :: collected)
            refine ⟨positions, others, ?_⟩
            rw [none, List.forall_mem_cons, ← isRead]
            exact ⟨fun both => (by cases both.1), fun all => (by cases all.2.1)⟩
  obtain ⟨positions, ran, none⟩ := loop entries []
  refine ⟨positions, ran, none.trans ⟨fun both => both.2, fun all => ⟨rfl, all⟩⟩⟩

/-! ## States -/

/-- What the parser of messages makes of the members that it finds. -/
structure ReadFromMessage (object : Object) (state : ClearinghouseState) : Prop where
  marginSummary : state.marginSummary = marginsOf (inMessage "marginSummary" object)
  crossMarginSummary : state.crossMarginSummary = marginsOf (inMessage "crossMarginSummary" object)
  used : state.crossMaintenanceMarginUsed = numberOf (inMessage "crossMaintenanceMarginUsed" object)
  usedRead : ∃ member, inMessage "crossMaintenanceMarginUsed" object = some member ∧
    isNumber member = true
  withdrawable : state.withdrawable = numberOf (inMessage "withdrawable" object)
  positions : state.assetPositions = [] ↔
    ∀ entry ∈ entriesOf (inMessage "assetPositions" object), isPosition entry = false

theorem optionalArray_reads {object rest : Object} {entries : Option (List Value)}
    (ran : readFrom (optionalField Value.getArray "assetPositions") object () =
      (.ok (entries, rest), ())) :
    entries.getD [] = entriesOf (inMessage "assetPositions" object) ∧
      Object.Ahead messageOrder object messageOrder.tail rest := by
  have ahead := Object.Ahead.all messageOrder object
  rw [readFrom_optionalField] at ran
  unfold inMessage
  cases found : object.find (utf8 "assetPositions") with
  | none =>
      rw [found] at ran
      cases ran
      obtain ⟨sought, next⟩ := ahead.absent (by decide) found
      exact ⟨by rw [sought]; rfl, next⟩
  | some step =>
      rw [found] at ran
      cases ran
      obtain ⟨sought, next⟩ := ahead.found (by decide) found
      exact ⟨by rw [sought]; rfl, next⟩

theorem crackInnerClearinghouseState_reads {object rest : Object} {state : ClearinghouseState}
    (ran : readFrom (crackInnerClearinghouseState {}) object () = (.ok (state, rest), ())) :
    ReadFromMessage object state := by
  obtain ⟨_, _, _, searched, ran⟩ := readFrom_bind_eq_ok ran
  obtain ⟨entries, next⟩ := optionalArray_reads searched
  obtain ⟨_, _, _, entriesRead, ran⟩ := readFrom_bind_eq_ok ran
  obtain ⟨positions, read, none⟩ := parseEntries_reads _ _
  cases read.symm.trans entriesRead
  rw [entries] at none
  obtain ⟨_, _, _, margin, ran⟩ := readFrom_bind_eq_ok ran
  obtain ⟨isMargin, next⟩ := objectField_reads next (by decide) margin
  obtain ⟨_, _, _, summary, ran⟩ := readFrom_bind_eq_ok ran
  obtain ⟨rfl, _, summary⟩ := readFrom_within_eq_ok summary
  obtain rfl := marginSummary_reads summary
  obtain ⟨_, _, _, cross, ran⟩ := readFrom_bind_eq_ok ran
  obtain ⟨isCross, next⟩ := objectField_reads next (by decide) cross
  obtain ⟨_, _, _, summary, ran⟩ := readFrom_bind_eq_ok ran
  obtain ⟨rfl, _, summary⟩ := readFrom_within_eq_ok summary
  obtain rfl := marginSummary_reads summary
  obtain ⟨_, _, _, used, ran⟩ := readFrom_bind_eq_ok ran
  obtain ⟨isUsed, usedRead, next⟩ := toDoubleField_reads next (by decide) used
  obtain ⟨_, _, _, withdrawable, ran⟩ := readFrom_bind_eq_ok ran
  obtain ⟨isWithdrawable, -, -⟩ := toDoubleField_reads next (by decide) withdrawable
  cases ran
  exact ⟨isMargin.symm, isCross.symm, isUsed, usedRead, isWithdrawable, none⟩

/-- What the parser of responses makes of the members that it finds. -/
structure ReadFromResponse (object : Object) (state : ClearinghouseState) : Prop where
  marginSummary : state.marginSummary = marginsOf (inResponse "marginSummary" object)
  crossMarginSummary : state.crossMarginSummary = marginsOf (inResponse "crossMarginSummary" object)
  used : state.crossMaintenanceMarginUsed =
    textNumberOf (inResponse "crossMaintenanceMarginUsed" object)
  withdrawable : state.withdrawable = numberOf (inResponse "withdrawable" object)
  positions : ∃ member entries, inResponse "assetPositions" object = some member ∧
    member.getArray = .ok entries ∧ state.assetPositions.length = entries.length
  unassigned : ∀ position ∈ state.assetPositions, position.marginUsed = none

section Present

variable {order names : List String} {start object : Object} {name : String} {response : ρ}

/-- A field that is there, and the case that there is none or that it is null. -/
theorem presentField_ensures (ahead : Object.Ahead order start (name :: names) object)
    (fresh : name ∉ names) {Finished : Option Value → Object → ρ → Prop}
    (present : ∀ {member rest}, member.isNull = false → MemberOf start name member →
      Object.seek name order start = some member → Object.Ahead order start names rest →
      Finished (some member) rest response)
    (absent : ∀ {rest}, (∀ member ∈ Object.seek name order start, member.isNull = true) →
      Object.Ahead order start names rest → Finished none rest response) :
    Rest.Ensures (Rest.presentField name) object response (fun _ => True) Finished := by
  refine .bind ⟨fun _ => trivial, fun searched => ?_⟩
  rw [Rest.decode_optionalField] at searched
  cases found : object.find (utf8 name) with
  | none =>
      rw [found] at searched
      cases searched
      obtain ⟨sought, next⟩ := ahead.absent fresh found
      exact .pure (absent (by rw [sought]; exact nofun) next)
  | some step =>
      obtain ⟨member, rest⟩ := step
      rw [found] at searched
      cases searched
      obtain ⟨sought, next⟩ := ahead.found fresh found
      refine .pure ?_
      show Finished ((some member).filter fun value => !value.isNull) _ response
      cases isNull : member.isNull with
      | true =>
          rw [Option.filter_some_neg (by rw [isNull]; decide)]
          refine absent (fun other same => ?_) next
          obtain rfl := Option.some.inj (sought.symm.trans same)
          exact isNull
      | false =>
          rw [Option.filter_some_pos (by rw [isNull]; rfl)]
          exact present isNull (memberOf_found ahead found) sought next

/-- The number of a string, and zero if there is none. -/
theorem usedField_ensures {numbers : List String} (numeric : NumericText numbers start)
    (listed : name ∈ numbers) (ahead : Object.Ahead order start (name :: names) object)
    (fresh : name ∉ names) {next : Option (Option Double) → Rest.Decoder ρ Unit}
    {Finished : Unit → Object → ρ → Prop}
    (finished : ∀ {used rest},
      used.join.getD .zero = textNumberOf (Object.seek name order start) →
      Object.Ahead order start names rest →
      Rest.Ensures (next used) rest response (fun _ => True) Finished) :
    Rest.Ensures (do next (← (← Rest.presentField name).mapM Rest.stringNumber)) object response
      (fun _ => True) Finished := by
  refine .bind (presentField_ensures ahead fresh (fun {member _} _ isMember sought ahead => ?_)
    fun isNull ahead => ?_)
  · rw [Option.mapM_some, map_eq_pure_bind, bind_assoc]
    simp only [pure_bind]
    unfold Rest.stringNumber
    cases isText : member.getString with
    | ok text =>
        dsimp only
        rw [map_eq_pure_bind, bind_assoc]
        simp only [pure_bind]
        refine .bind (toDouble_ensures numeric listed isMember isText (finished ?_ ahead))
        rw [sought, textNumberOf, Option.bind_some, isText]
        rfl
    | error error =>
        refine .bind (.pure (finished ?_ ahead))
        rw [sought, textNumberOf, Option.bind_some, isText]
        rfl
  · rw [Option.mapM_none]
    refine .bind (.pure (finished ?_ ahead))
    unfold textNumberOf
    cases sought : Object.seek name order start with
    | none => rfl
    | some member =>
        cases member with
        | null => rfl
        | _ => cases isNull _ sought

end Present

/-- What the decoder reads after the withdrawable amount. -/
def decodeTimeAndPositions : Rest.Decoder ClearinghouseState Unit := do
  let time ← Rest.uint64Field "time"
  modifyThe ClearinghouseState fun state => { state with time }
  (← Rest.arrayField "assetPositions").forM fun entry => do
    let position ← Rest.within (← entry.getObject) do
      Rest.within (← Rest.objectField "position") Rest.parseAssetPosition
    modifyThe ClearinghouseState fun state =>
      { state with assetPositions := state.assetPositions ++ [position] }

theorem timeAndPositions_ensures {start object : Object}
    (ahead : Object.Ahead responseOrder start ["time", "assetPositions"] object)
    (response : ClearinghouseState) :
    Rest.Ensures decodeTimeAndPositions object response (fun _ => True) fun _ _ after =>
      (after.marginSummary, after.crossMarginSummary, after.crossMaintenanceMarginUsed,
        after.withdrawable) = (response.marginSummary, response.crossMarginSummary,
        response.crossMaintenanceMarginUsed, response.withdrawable) ∧
      ∃ member entries added, inResponse "assetPositions" start = some member ∧
        member.getArray = .ok entries ∧
        after.assetPositions = response.assetPositions ++ added ∧
        added.length = entries.length ∧ ∀ position ∈ added, position.marginUsed = none := by
  refine .bind (.fieldOf trivial fun _ rest time found _ => .bind (.modify ?_))
  obtain ⟨-, next⟩ := ahead.found (by decide) found
  refine .bind (.fieldOf trivial fun member _ entries found isArray => ?_)
  obtain ⟨sought, -⟩ := next.found (by decide) found
  have loop := Rest.Ensures.forM_append positionOf
    (fun position (state : ClearinghouseState) =>
      { state with assetPositions := state.assetPositions ++ [position] })
    (fun _ => (bind_assoc _ _ _).symm) positionOf_standalone ClearinghouseState.assetPositions
    (fun state => (state.marginSummary, state.crossMarginSummary, state.crossMaintenanceMarginUsed,
      state.withdrawable)) (fun _ _ => rfl) (fun _ _ => rfl) entries
  refine (loop _ _).mono (fun _ _ => trivial) fun _ _ after ended => ?_
  obtain ⟨-, added, decoded, appended, kept⟩ := ended
  refine ⟨kept, member, entries, added, sought, isArray, appended,
    decoded.length_eq.symm, fun position present => ?_⟩
  obtain ⟨index, isAt⟩ := List.mem_iff_getElem?.mp present
  obtain ⟨entry, -, performs⟩ := (DecodesPrefix.of_forall₂ decoded).get isAt
  exact marginUsed_of_performs performs response

/-- What the decoder reads after the summaries. -/
def decodeAmounts : Rest.Decoder ClearinghouseState Unit := do
  let used := (← (← Rest.presentField "crossMaintenanceMarginUsed").mapM Rest.stringNumber).join
  modifyThe ClearinghouseState fun state =>
    { state with crossMaintenanceMarginUsed := used.getD .zero }
  let withdrawable ← Rest.doubleField "withdrawable"
  modifyThe ClearinghouseState fun state => { state with withdrawable }
  decodeTimeAndPositions

theorem amounts_ensures {object start : Object} (wire : StateOnWire start)
    (ahead : Object.Ahead responseOrder start
      ["crossMaintenanceMarginUsed", "withdrawable", "time", "assetPositions"] object)
    {response : ClearinghouseState} (empty : response.assetPositions = [])
    (margin : response.marginSummary = marginsOf (inResponse "marginSummary" start))
    (cross : response.crossMarginSummary = marginsOf (inResponse "crossMarginSummary" start)) :
    Rest.Ensures decodeAmounts object response (fun _ => True) fun _ _ after =>
      ReadFromResponse start after := by
  refine usedField_ensures wire.numbers (by decide) ahead (by decide) fun {used _} isUsed next => ?_
  refine .bind (.modify ?_)
  refine .bind (doubleField_ensures wire.numbers (by decide) next (by decide) fun next => ?_)
  refine .bind (.modify ?_)
  refine (timeAndPositions_ensures next _).mono (fun _ _ => trivial) fun _ _ after ended => ?_
  obtain ⟨kept, member, entries, added, sought, isArray, appended, same, unassigned⟩ := ended
  simp only [Prod.mk.injEq] at kept
  obtain ⟨marginKept, crossKept, usedKept, withdrawn⟩ := kept
  have onlyAdded : after.assetPositions = added := by
    rw [appended]
    exact (congrArg (· ++ added) empty).trans (List.nil_append added)
  exact {
    marginSummary := marginKept.trans margin
    crossMarginSummary := crossKept.trans cross
    used := usedKept.trans isUsed
    withdrawable := withdrawn
    positions := ⟨member, entries, sought, isArray, by rw [onlyAdded, same]⟩
    unassigned := onlyAdded ▸ unassigned }

theorem decodeClearinghouseState_eq :
    Rest.decodeClearinghouseState = (do
      Rest.within (← Rest.objectField "marginSummary") <|
        Rest.parseMarginSummary fun change state =>
          { state with marginSummary := change state.marginSummary }
      match ← Rest.presentField "crossMarginSummary" with
      | none => decodeAmounts
      | some cross => do
          Rest.within (← cross.getObject) <|
            Rest.parseMarginSummary fun change state =>
              { state with crossMarginSummary := change state.crossMarginSummary }
          decodeAmounts) := by
  unfold Rest.decodeClearinghouseState decodeAmounts decodeTimeAndPositions
  refine bind_congr fun _ => bind_congr fun _ => bind_congr fun cross => ?_
  cases cross with
  | none => rfl
  | some cross => rfl

theorem decodeClearinghouseState_ensures {object : Object} (wire : StateOnWire object) :
    Rest.Ensures Rest.decodeClearinghouseState object {} (fun _ => True) fun _ _ state =>
      ReadFromResponse object state := by
  have ahead := Object.Ahead.all responseOrder object
  rw [decodeClearinghouseState_eq]
  refine .bind (.fieldOf trivial fun member _ inner found isObject => ?_)
  obtain ⟨sought, next⟩ := ahead.found (by decide) found
  have margin : summaryOf inner = marginsOf (inResponse "marginSummary" object) := by
    rw [inResponse, sought, marginsOf, Option.bind_some, isObject]
    rfl
  refine .bind (.within ((marginSummary_ensures (wire.summaries "marginSummary" (by simp)
    (memberOf_found ahead found) isObject) (fun _ _ _ => rfl) _).mono (fun _ _ => trivial) ?_))
  rintro _ _ _ rfl
  refine .bind (presentField_ensures next (by decide) (fun {cross _} _ isMember sought next => ?_)
    fun isNull next => amounts_ensures wire next rfl margin ?_)
  · refine .bind (.read trivial fun inner isObject => ?_)
    refine .bind (.within ((marginSummary_ensures (wire.summaries "crossMarginSummary" (by simp)
      isMember isObject) (fun _ _ _ => rfl) _).mono (fun _ _ => trivial) ?_))
    rintro _ _ _ rfl
    refine amounts_ensures wire next rfl margin ?_
    rw [inResponse, sought, marginsOf, Option.bind_some, isObject]
    rfl
  · unfold inResponse marginsOf
    cases sought : Object.seek "crossMarginSummary" responseOrder object with
    | none => rfl
    | some member =>
        cases member with
        | null => rfl
        | _ => cases isNull _ sought

/-! ## Agreement -/

theorem parseClearinghouseStateObj_performs (object : Object) :
    Rest.Performs (Rest.parseClearinghouseStateObj object : Rest.Decoder ρ ClearinghouseState)
      ((Rest.attempt object {} Rest.decodeClearinghouseState).run Rest.convert >>=
        fun outcome => .ok outcome.2) :=
  .bind (.lift _) fun outcome => .pure outcome.2

/-- The parser of responses returns this state, and it has caught no error on its way. -/
structure RestAccepts (object : Object) (state : ClearinghouseState) : Prop where
  returns : Rest.Performs
    (Rest.parseClearinghouseStateObj object : Rest.Decoder Unit ClearinghouseState) (.ok state)
  noError : ∃ read, (Rest.attempt object {} Rest.decodeClearinghouseState).run Rest.convert =
    .ok (.ok (), read)

theorem RestAccepts.decoded {object : Object} {state : ClearinghouseState}
    (accepts : RestAccepts object state) :
    ∃ rest, Rest.decode Rest.decodeClearinghouseState object {} = .ok (.ok ((), rest), state) := by
  obtain ⟨read, ran⟩ := accepts.noError
  have performs := parseClearinghouseStateObj_performs (ρ := Unit) object
  rw [ran] at performs
  obtain rfl : state = read := Except.ok.inj (accepts.returns.result_eq () performs)
  exact Rest.attempt_eq_ok ran

/-- The parser of messages returns this state. -/
def WebsocketAccepts (object : Object) (state : ClearinghouseState) : Prop :=
  (read object () (crackInnerClearinghouseState {})).1 = .ok state

theorem WebsocketAccepts.read {object : Object} {state : ClearinghouseState}
    (accepts : WebsocketAccepts object state) :
    ∃ rest, readFrom (crackInnerClearinghouseState {}) object () = (.ok (state, rest), ()) := by
  obtain ⟨rest, after, ran⟩ := read_eq_ok accepts
  exact ⟨rest, ran⟩

/-- No field of the position is undefined. -/
def Assigned (position : AssetPosition) : Prop :=
  position.marginUsed.isSome ∧ position.maxLeverage.isSome ∧ position.leverageType.isSome

instance : DecidablePred Assigned := fun _ => inferInstanceAs (Decidable (_ ∧ _))

/-- The two have the same fields but for the time, all of them assigned. -/
structure SameState (fromRest fromWebsocket : ClearinghouseState) : Prop where
  same : { fromWebsocket with time := fromRest.time } = fromRest
  assigned : ∀ position ∈ fromRest.assetPositions, Assigned position

theorem MemberOf.unique {object : Object} (distinct : object.DistinctNames) {name : String}
    {member other : Value} (isMember : MemberOf object name member)
    (isOther : MemberOf object name other) : other = member := by
  obtain ⟨key, present, named⟩ := isMember
  obtain ⟨otherKey, otherPresent, otherNamed⟩ := isOther
  exact distinct.unique present otherPresent (named.trans otherNamed.symm)

/-- The two parsers find members that stand for the same, a margin used that is not a string
counting as zero in a response; and neither finds a position. -/
structure ReadAlike (object : Object) : Prop where
  marginSummary : marginsOf (inMessage "marginSummary" object) =
    marginsOf (inResponse "marginSummary" object)
  crossMarginSummary : marginsOf (inMessage "crossMarginSummary" object) =
    marginsOf (inResponse "crossMarginSummary" object)
  used : numberOf (inMessage "crossMaintenanceMarginUsed" object) =
    textNumberOf (inResponse "crossMaintenanceMarginUsed" object)
  withdrawable : numberOf (inMessage "withdrawable" object) =
    numberOf (inResponse "withdrawable" object)
  noEntries : entriesOf (inResponse "assetPositions" object) = []
  noPositions : ∀ entry ∈ entriesOf (inMessage "assetPositions" object), isPosition entry = false

/-- There is no position, and the margin used is one that both read. -/
structure NothingToAssign (object : Object) : Prop where
  positions : ∃ member, MemberOf object "assetPositions" member ∧ member.getArray = .ok []
  used : ∃ member, MemberOf object "crossMaintenanceMarginUsed" member ∧
    (Object.Gives Value.getString member ∨ member.getDouble = .ok .zero)

/-- The parser of responses takes the number of a string only. -/
theorem textNumberOf_eq_iff {member : Value} (isRead : isNumber member = true) :
    numberOf (some member) = textNumberOf (some member) ↔
      Object.Gives Value.getString member ∨ member.getDouble = .ok .zero := by
  cases isText : member.getString with
  | ok text =>
      have same : numberOf (some member) = textNumberOf (some member) := by
        simp only [numberOf, textNumberOf, Option.bind_some, isText]
        rfl
      exact ⟨fun _ => .inl ⟨text, isText⟩, fun _ => same⟩
  | error error =>
      unfold isNumber at isRead
      rw [isText] at isRead
      cases isDouble : member.getDouble with
      | error error =>
          rw [isDouble] at isRead
          cases isRead
      | ok number =>
          have read : numberOf (some member) = number := by
            simp only [numberOf, isText, isDouble]
            rfl
          have notRead : textNumberOf (some member) = .zero := by
            rw [textNumberOf, Option.bind_some, isText]
            exact Option.getD_none
          rw [read, notRead]
          constructor
          · exact fun isZero => .inr (congrArg Except.ok isZero)
          · rintro (⟨text, impossible⟩ | isZero)
            · rw [isText] at impossible
              cases impossible
            · injection isZero

theorem sameState_iff {object : Object} {fromRest fromWebsocket : ClearinghouseState}
    (fromResponse : ReadFromResponse object fromRest)
    (fromMessage : ReadFromMessage object fromWebsocket) :
    SameState fromRest fromWebsocket ↔ ReadAlike object := by
  obtain ⟨member, entries, sought, isArray, sameLength⟩ := fromResponse.positions
  have isEntries : entriesOf (inResponse "assetPositions" object) = entries := by
    rw [sought, entriesOf, Option.bind_some, isArray]
    rfl
  constructor
  · intro sameState
    have none : fromRest.assetPositions = [] := by
      refine List.eq_nil_iff_forall_not_mem.mpr fun position present => ?_
      have assigned := (sameState.assigned position present).1
      rw [fromResponse.unassigned position present] at assigned
      cases assigned
    have field {α : Type} (read : ClearinghouseState → α) :
        read { fromWebsocket with time := fromRest.time } = read fromRest :=
      congrArg read sameState.same
    refine ⟨?_, ?_, ?_, ?_, ?_, ?_⟩
    · rw [← fromMessage.marginSummary, ← fromResponse.marginSummary]
      exact field ClearinghouseState.marginSummary
    · rw [← fromMessage.crossMarginSummary, ← fromResponse.crossMarginSummary]
      exact field ClearinghouseState.crossMarginSummary
    · rw [← fromMessage.used, ← fromResponse.used]
      exact field ClearinghouseState.crossMaintenanceMarginUsed
    · rw [← fromMessage.withdrawable, ← fromResponse.withdrawable]
      exact field ClearinghouseState.withdrawable
    · rw [none, List.length_nil] at sameLength
      rw [isEntries]
      exact List.length_eq_zero_iff.mp sameLength.symm
    · exact fromMessage.positions.mp ((field ClearinghouseState.assetPositions).trans none)
  · intro alike
    have none : fromRest.assetPositions = [] := by
      rw [← isEntries, alike.noEntries] at sameLength
      exact List.length_eq_zero_iff.mp sameLength
    refine ⟨?_, fun position present => ?_⟩
    · rw [fromMessage.marginSummary, alike.marginSummary, ← fromResponse.marginSummary,
        fromMessage.crossMarginSummary, alike.crossMarginSummary, ← fromResponse.crossMarginSummary,
        fromMessage.used, alike.used, ← fromResponse.used,
        fromMessage.withdrawable, alike.withdrawable, ← fromResponse.withdrawable,
        fromMessage.positions.mpr alike.noPositions, ← none]
    · rw [none] at present
      cases present

/-- Where each name is there once, both find the same members. -/
theorem readAlike_iff {object : Object} (distinct : object.DistinctNames)
    {fromRest fromWebsocket : ClearinghouseState}
    (fromResponse : ReadFromResponse object fromRest)
    (fromMessage : ReadFromMessage object fromWebsocket) :
    ReadAlike object ↔ NothingToAssign object := by
  obtain ⟨positions, entries, sought, isArray, -⟩ := fromResponse.positions
  obtain ⟨used, soughtUsed, isRead⟩ := fromMessage.usedRead
  have both {name : String} (inFirst : name ∈ messageOrder) (inSecond : name ∈ responseOrder) :
      inMessage name object = inResponse name object := distinct.seek_eq inFirst inSecond
  have samePositions := @both "assetPositions" (by decide) (by decide)
  have sameUsed := @both "crossMaintenanceMarginUsed" (by decide) (by decide)
  have isEntries : entriesOf (inResponse "assetPositions" object) = entries := by
    rw [sought, entriesOf, Option.bind_some, isArray]
    rfl
  have onlyUsed : numberOf (inMessage "crossMaintenanceMarginUsed" object) =
      textNumberOf (inResponse "crossMaintenanceMarginUsed" object) ↔
        Object.Gives Value.getString used ∨ used.getDouble = .ok .zero := by
    rw [← sameUsed, soughtUsed]
    exact textNumberOf_eq_iff isRead
  constructor
  · intro alike
    refine ⟨⟨positions, Object.seek_mem sought, ?_⟩, used, Object.seek_mem soughtUsed,
      onlyUsed.mp alike.used⟩
    rw [isArray, ← isEntries, alike.noEntries]
  · intro nothing
    obtain ⟨other, isOther, otherEmpty⟩ := nothing.positions
    obtain rfl := MemberOf.unique distinct (Object.seek_mem sought) isOther
    obtain rfl : entries = [] := Except.ok.inj (isArray.symm.trans otherEmpty)
    obtain ⟨other, isOther, otherUsed⟩ := nothing.used
    obtain rfl := MemberOf.unique distinct (Object.seek_mem soughtUsed) isOther
    refine ⟨?_, ?_, onlyUsed.mpr otherUsed, ?_, isEntries, ?_⟩
    · rw [both (by decide) (by decide)]
    · rw [both (by decide) (by decide)]
    · rw [both (by decide) (by decide)]
    · rw [samePositions, isEntries]
      exact fun _ impossible => absurd impossible List.not_mem_nil

/-- Each position of a response is left with fields that nothing assigns, so that the two agree
only on states without positions. -/
theorem clearinghouseStates_agree_iff {object : Object} (wire : StateOnWire object)
    {fromRest fromWebsocket : ClearinghouseState} (byRest : RestAccepts object fromRest)
    (byWebsocket : WebsocketAccepts object fromWebsocket) :
    (SameState fromRest fromWebsocket ↔ ReadAlike object) ∧
      (object.DistinctNames → (ReadAlike object ↔ NothingToAssign object)) := by
  obtain ⟨rest, decoded⟩ := byRest.decoded
  obtain ⟨otherRest, ran⟩ := byWebsocket.read
  have fromResponse := (decodeClearinghouseState_ensures wire).finished decoded
  have fromMessage := crackInnerClearinghouseState_reads ran
  exact ⟨sameState_iff fromResponse fromMessage,
    fun distinct => readAlike_iff distinct fromResponse fromMessage⟩

/-! ## A state with a position -/

def margins : Value :=
  .ofMembers [
    ("accountValue", .ofText "13109.48"), ("totalNtlPos", .ofText "100.02"),
    ("totalRawUsd", .ofText "13009.45"), ("totalMarginUsed", .ofText "4.96")]

def marginsObject : Object := margins.getObject.toOption.getD []

def etherPosition : Value :=
  .ofMembers [
    ("type", .ofText "oneWay"),
    ("position", .ofMembers [
      ("coin", .ofText "ETH"), ("szi", .ofText "0.0335"),
      ("leverage", .ofMembers [("type", .ofText "isolated"), ("value", .number (utf8 "20"))]),
      ("entryPx", .ofText "2986.3"), ("positionValue", .ofText "100.02"),
      ("unrealizedPnl", .ofText "-0.0134"), ("returnOnEquity", .ofText "-0.0026"),
      ("liquidationPx", .ofText "2866.26"), ("marginUsed", .ofText "4.96"),
      ("maxLeverage", .number (utf8 "50"))])]

/-- The object of a state with these positions. -/
def clearinghouse (positions : List Value) : Object :=
  let value := Value.ofMembers [
    ("marginSummary", margins), ("crossMarginSummary", margins),
    ("crossMaintenanceMarginUsed", .ofText "0.0"), ("withdrawable", .ofText "13104.51"),
    ("assetPositions", .ofItems positions), ("time", .number (utf8 "1708622398623"))]
  value.getObject.toOption.getD []

set_option maxRecDepth 4000 in
theorem clearinghouse_onWire (positions : List Value) : StateOnWire (clearinghouse positions) where
  numbers := numericText_of_isText (by rfl)
  summaries := by
    intro name listed member inner isMember isObject
    obtain ⟨key, present, named⟩ := isMember
    have kept : (clearinghouse positions).Holds (utf8 name) (· = margins) := by
      rcases List.mem_pair.mp listed with rfl | rfl
      · exact @Object.Holds.of_only _ _ _ ⟨utf8 "marginSummary", utf8 "marginSummary"⟩ _ rfl rfl
      · exact @Object.Holds.of_only _ _ _
          ⟨utf8 "crossMarginSummary", utf8 "crossMarginSummary"⟩ _ rfl rfl
    obtain rfl : member = margins := kept.kind _ present named
    obtain rfl : marginsObject = inner := Except.ok.inj isObject
    exact numericText_of_isText (by decide +kernel)

/-- For each position, whether all its fields have been assigned. -/
def assignments (state : ClearinghouseState) : List Bool :=
  state.assetPositions.map fun position => decide (Assigned position)

theorem exists_restAccepts {object : Object} {assigned : List Bool}
    (ended : ((Rest.attempt object {} Rest.decodeClearinghouseState).run Rest.convert).toOption.bind
      (fun outcome => outcome.1.toOption.map fun _ => assignments outcome.2) = some assigned) :
    ∃ state, RestAccepts object state ∧ assignments state = assigned := by
  cases ran : (Rest.attempt object {} Rest.decodeClearinghouseState).run Rest.convert with
  | error exception =>
      rw [ran] at ended
      cases ended
  | ok outcome =>
      obtain ⟨result, state⟩ := outcome
      rw [ran] at ended
      cases result with
      | error error => cases ended
      | ok done =>
          refine ⟨state, ⟨?_, state, ran⟩, Option.some.inj ended⟩
          have performs := parseClearinghouseStateObj_performs (ρ := Unit) object
          rw [ran] at performs
          exact performs

theorem exists_websocketAccepts {object : Object} {assigned : List Bool}
    (ended : (read object () (crackInnerClearinghouseState {})).1.toOption.map assignments =
      some assigned) :
    ∃ state, WebsocketAccepts object state ∧ assignments state = assigned := by
  cases ran : (read object () (crackInnerClearinghouseState {})).1 with
  | error error =>
      rw [ran] at ended
      cases ended
  | ok state =>
      rw [ran] at ended
      exact ⟨state, ran, Option.some.inj ended⟩

set_option maxRecDepth 4000 in
/-- Of one position the parser of messages assigns all fields, and that of responses does not. -/
theorem clearinghouseStates_disagree :
    ∃ fromRest fromWebsocket, StateOnWire (clearinghouse [etherPosition]) ∧
      RestAccepts (clearinghouse [etherPosition]) fromRest ∧
      WebsocketAccepts (clearinghouse [etherPosition]) fromWebsocket ∧
      assignments fromRest = [false] ∧ assignments fromWebsocket = [true] ∧
      ¬ SameState fromRest fromWebsocket := by
  obtain ⟨fromRest, byRest, inRest⟩ :=
    @exists_restAccepts (clearinghouse [etherPosition]) [false] (by decide +kernel)
  obtain ⟨fromWebsocket, byWebsocket, inWebsocket⟩ :=
    @exists_websocketAccepts (clearinghouse [etherPosition]) [true] (by decide +kernel)
  refine ⟨fromRest, fromWebsocket, clearinghouse_onWire _, byRest, byWebsocket, inRest,
    inWebsocket, fun sameState => ?_⟩
  obtain ⟨position, only, unassigned⟩ := List.map_eq_singleton_iff.mp inRest
  have assigned := sameState.assigned position (by rw [only]; exact List.mem_singleton_self _)
  exact of_decide_eq_false unassigned assigned

set_option maxRecDepth 4000 in
theorem clearinghouseStates_agree_iff_empty :
    ∃ fromRest fromWebsocket, RestAccepts (clearinghouse []) fromRest ∧
      WebsocketAccepts (clearinghouse []) fromWebsocket ∧ SameState fromRest fromWebsocket := by
  obtain ⟨fromRest, byRest, -⟩ := @exists_restAccepts (clearinghouse []) [] (by decide +kernel)
  obtain ⟨fromWebsocket, byWebsocket, -⟩ :=
    @exists_websocketAccepts (clearinghouse []) [] (by decide +kernel)
  refine ⟨fromRest, fromWebsocket, byRest, byWebsocket, ?_⟩
  obtain ⟨alikeIff, distinctIff⟩ :=
    clearinghouseStates_agree_iff (clearinghouse_onWire []) byRest byWebsocket
  have distinct : (clearinghouse []).DistinctNames := by
    show List.Nodup [utf8 "marginSummary", utf8 "crossMarginSummary",
      utf8 "crossMaintenanceMarginUsed", utf8 "withdrawable", utf8 "assetPositions", utf8 "time"]
    decide
  refine alikeIff.mpr ((distinctIff distinct).mpr ⟨?_, ?_⟩)
  · exact ⟨_, @Object.find_mem (utf8 "assetPositions") _ _ _ rfl, rfl⟩
  · exact ⟨_, @Object.find_mem (utf8 "crossMaintenanceMarginUsed") _ _ _ rfl, .inl ⟨_, rfl⟩⟩

end HyperliquidSdk.Websocket
