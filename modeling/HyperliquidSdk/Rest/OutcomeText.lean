import HyperliquidSdk.Rest.OutcomeProperties
import Mathlib.Data.List.TakeDrop
import Mathlib.Data.List.TakeWhile

/-!
# The text of a description

The loop of `parseOutcomeDescription` over the segments of a text, and what it makes of
segments that are joined.
-/

set_option autoImplicit false

namespace HyperliquidSdk.Rest

open Foundation Foundation.OnDemand

variable {ρ : Type}

/-! ## The loop -/

/-- `text.find(character, pos)`. -/
def findFrom (text : Bytes) (character : UInt8) (pos : Nat) : Option Nat :=
  ((text.drop pos).findIdx? (· = character)).map (pos + ·)

theorem le_of_findFrom {text : Bytes} {character : UInt8} {pos found : Nat}
    (search : findFrom text character pos = some found) : pos ≤ found := by
  obtain ⟨offset, -, rfl⟩ := Option.map_eq_some_iff.mp search
  exact Nat.le_add_right pos offset

/-- The loop from the cursor `pos` on. Behind a separator it goes on past it. -/
def parseOutcomeDescriptionFrom (desc : Bytes) (pos : Nat) (result : OutcomeDescription) :
    Decoder ρ OutcomeDescription :=
  if pos < desc.length then do
    let segment := (desc.drop pos).take ((findFrom desc 124 pos).getD desc.length - pos)
    let result ← parseOutcomeSegment result segment
    match search : findFrom desc 124 pos with
    | none => return result
    | some sep => parseOutcomeDescriptionFrom desc (sep + 1) result
  else return result
termination_by desc.length - pos
decreasing_by
  have advanced := le_of_findFrom search
  omega

/-- Either the character does not occur any more, or it is found at its first place. -/
theorem findFrom_cases (text : Bytes) (character : UInt8) (pos : Nat) :
    (findFrom text character pos = none ∧ character ∉ text.drop pos) ∨
      ∃ before after, text.drop pos = before ++ character :: after ∧ character ∉ before ∧
        findFrom text character pos = some (pos + before.length) := by
  unfold findFrom
  cases search : (text.drop pos).findIdx? (· = character) with
  | none =>
      have missing := List.findIdx?_eq_none_iff.mp search
      exact .inl ⟨rfl, fun present => by simpa using missing character present⟩
  | some offset =>
      obtain ⟨inside, isCharacter, earlier⟩ := List.findIdx?_eq_some_iff_getElem.mp search
      have length : ((text.drop pos).take offset).length = offset := by
        rw [List.length_take]
        omega
      refine .inr ⟨(text.drop pos).take offset, (text.drop pos).drop (offset + 1), ?_, ?_, ?_⟩
      · have same : (text.drop pos)[offset] = character := by simpa using isCharacter
        rw [← same, List.getElem_cons_drop, List.take_append_drop]
      · intro present
        obtain ⟨index, before, same⟩ := List.mem_take_iff_getElem.mp present
        have different := earlier index (by omega)
        simp [same] at different
      · rw [length]
        rfl

theorem parseOutcomeDescriptionFrom_last {desc : Bytes} {pos : Nat} (result : OutcomeDescription)
    (inside : pos < desc.length) (search : findFrom desc 124 pos = none) :
    (parseOutcomeDescriptionFrom desc pos result : Decoder ρ OutcomeDescription) =
      parseOutcomeSegment result (desc.drop pos) := by
  have whole : (desc.drop pos).take (desc.length - pos) = desc.drop pos :=
    List.take_of_length_le (by rw [List.length_drop])
  have segment : (findFrom desc 124 pos).getD desc.length = desc.length := by
    rw [search, Option.getD_none]
  rw [parseOutcomeDescriptionFrom, if_pos inside, segment, whole]
  refine (bind_congr fun next => ?_).trans (bind_pure (parseOutcomeSegment result (desc.drop pos)))
  split
  · rfl
  · next sep found => cases search.symm.trans found

theorem parseOutcomeDescriptionFrom_found {desc : Bytes} {pos sep : Nat}
    (result : OutcomeDescription) (inside : pos < desc.length)
    (search : findFrom desc 124 pos = some sep) :
    (parseOutcomeDescriptionFrom desc pos result : Decoder ρ OutcomeDescription) =
      parseOutcomeSegment result ((desc.drop pos).take (sep - pos)) >>=
        parseOutcomeDescriptionFrom desc (sep + 1) := by
  have segment : (findFrom desc 124 pos).getD desc.length = sep := by
    rw [search, Option.getD_some]
  rw [parseOutcomeDescriptionFrom, if_pos inside, segment]
  refine bind_congr fun next => ?_
  split
  · next missing => cases search.symm.trans missing
  · next found same =>
      obtain rfl := Option.some.inj (search.symm.trans same)
      rfl

theorem parseOutcomeSegment_nil (result : OutcomeDescription) :
    (parseOutcomeSegment result [] : Decoder ρ OutcomeDescription) = pure result := rfl

/-- The segments that the loop sees are those between separators. -/
theorem parseOutcomeDescriptionFrom_eq (desc : Bytes) (pos : Nat) (result : OutcomeDescription) :
    (parseOutcomeDescriptionFrom desc pos result : Decoder ρ OutcomeDescription) =
      ((desc.drop pos).splitOn 124).foldlM parseOutcomeSegment result := by
  by_cases inside : pos < desc.length
  · rcases findFrom_cases desc 124 pos with ⟨search, missing⟩ | ⟨before, after, rest, missing, search⟩
    · rw [parseOutcomeDescriptionFrom_last result inside search, List.splitOn_eq_singleton missing,
        List.foldlM_cons]
      exact (bind_pure _).symm
    · have segment : (desc.drop pos).take (pos + before.length - pos) = before := by
        rw [rest, Nat.add_sub_cancel_left, List.take_left]
      have following : desc.drop (pos + before.length + 1) = after := by
        rw [Nat.add_assoc, ← List.drop_drop, rest, ← List.drop_drop, List.drop_left]
        rfl
      rw [parseOutcomeDescriptionFrom_found result inside search, segment, rest,
        List.splitOn_append_cons_self_of_not_mem missing, List.foldlM_cons]
      refine bind_congr fun next => ?_
      rw [parseOutcomeDescriptionFrom_eq desc (pos + before.length + 1) next, following]
  · have outside : desc.length ≤ pos := by omega
    rw [parseOutcomeDescriptionFrom, if_neg inside, List.drop_eq_nil_of_le outside,
      List.splitOn_nil, List.foldlM_cons, parseOutcomeSegment_nil, pure_bind, List.foldlM_nil]
termination_by desc.length - pos

theorem parseOutcomeDescription_eq_loop (desc : Bytes) :
    (parseOutcomeDescription desc : Decoder ρ OutcomeDescription) =
      parseOutcomeDescriptionFrom desc 0 {} := by
  rw [parseOutcomeDescriptionFrom_eq, List.drop_zero, parseOutcomeDescription]

/-! ## Joined segments -/

/-- A segment without a colon, or a key and a value that may contain colons. -/
inductive Segment where
  | bare (text : Bytes) (colonFree : 58 ∉ text) (separatorFree : 124 ∉ text)
  | pair (key val : Bytes) (colonFree : 58 ∉ key) (separatorFree : 124 ∉ key)
      (valSeparatorFree : 124 ∉ val)

namespace Segment

def text : Segment → Bytes
  | bare text _ _ => text
  | pair key val _ _ _ => key ++ 58 :: val

/-- The value of the segment, if it has the key. -/
def valueOf (key : String) : Segment → Option Bytes
  | bare _ _ _ => none
  | pair written val _ _ _ => if written = utf8 key then some val else none

end Segment

def joined (segments : List Segment) : Bytes := [124].intercalate (segments.map Segment.text)

def valuesOf (key : String) (segments : List Segment) : List Bytes :=
  segments.filterMap (Segment.valueOf key)

/-- A field is the value of the last segment with its key, and what it was without one. -/
structure Describes (initial : OutcomeDescription) (segments : List Segment)
    (description : OutcomeDescription) : Prop where
  outcomeClass : description.outcomeClass =
    (valuesOf "class" segments).getLast?.getD initial.outcomeClass
  underlying : description.underlying =
    (valuesOf "underlying" segments).getLast?.getD initial.underlying
  expiry : (valuesOf "expiry" segments = [] ∧ description.expiry = initial.expiry) ∨
    ∃ text, (valuesOf "expiry" segments).getLast? = some text ∧
      Performs (parseOutcomeExpiry text : Decoder Outcome TimePoint) (.ok description.expiry)
  targetPrice : description.targetPrice =
    (valuesOf "targetPrice" segments).getLast?.getD initial.targetPrice
  period : description.period = (valuesOf "period" segments).getLast?.getD initial.period

theorem separator_not_mem_text (segment : Segment) : 124 ∉ segment.text := by
  cases segment with
  | bare text _ separatorFree => exact separatorFree
  | pair key val _ separatorFree valSeparatorFree =>
      simp only [Segment.text, List.mem_append, List.mem_cons, not_or]
      exact ⟨separatorFree, by decide, valSeparatorFree⟩

/-- The segments are found again, and an empty text has one that is empty. -/
theorem foldlM_joined (segments : List Segment) (result : OutcomeDescription) :
    ((joined segments).splitOn 124).foldlM segmentOf result =
      (segments.map Segment.text).foldlM segmentOf result := by
  cases segments with
  | nil => rfl
  | cons segment segments =>
      have free : ∀ text ∈ (segment :: segments).map Segment.text, 124 ∉ text := by
        intro text present
        obtain ⟨segment, -, rfl⟩ := List.mem_map.mp present
        exact separator_not_mem_text segment
      rw [joined, List.splitOn_intercalate 124 free (by simp)]

theorem span_colon {key : Bytes} (colonFree : 58 ∉ key) (rest : Bytes) :
    (key ++ 58 :: rest).span (· ≠ 58) = (key, 58 :: rest) ∧ key.span (· ≠ 58) = (key, []) := by
  have all : ∀ byte ∈ key, decide (byte ≠ 58) = true := by
    intro byte present
    simpa using fun same : byte = 58 => colonFree (same ▸ present)
  rw [List.span_eq_takeWhile_dropWhile, List.span_eq_takeWhile_dropWhile,
    List.takeWhile_append_of_pos all, List.dropWhile_append_of_pos all,
    List.takeWhile_eq_self_iff.mpr all, List.dropWhile_eq_nil_iff.mpr all]
  simp

theorem segmentOf_bare (result : OutcomeDescription) {text : Bytes} (colonFree : 58 ∉ text) :
    segmentOf result text = .ok result := by
  rw [segmentOf, (span_colon colonFree []).2]
  rfl

theorem segmentOf_pair (result : OutcomeDescription) {key : Bytes} (val : Bytes)
    (colonFree : 58 ∉ key) :
    segmentOf result (key ++ 58 :: val) =
      if key = utf8 "class" then .ok { result with outcomeClass := val }
      else if key = utf8 "underlying" then .ok { result with underlying := val }
      else if key = utf8 "expiry" then do
        let expiry ← expiryOf val
        return { result with expiry }
      else if key = utf8 "targetPrice" then .ok { result with targetPrice := val }
      else if key = utf8 "period" then .ok { result with period := val }
      else .ok result := by
  rw [segmentOf, (span_colon colonFree val).1]
  rfl

theorem keys_differ :
    [utf8 "class", utf8 "underlying", utf8 "expiry", utf8 "targetPrice", utf8 "period"].Nodup := by
  decide +kernel

theorem valuesOf_pair (name : String) {key val : Bytes} (colonFree : 58 ∉ key)
    (separatorFree : 124 ∉ key) (valSeparatorFree : 124 ∉ val) :
    valuesOf name [.pair key val colonFree separatorFree valSeparatorFree] =
      if key = utf8 name then [val] else [] := by
  unfold valuesOf Segment.valueOf
  by_cases same : key = utf8 name <;> simp [same]

theorem Describes.single (initial : OutcomeDescription) (segment : Segment)
    (readable : ∀ text ∈ valuesOf "expiry" [segment], ∃ expiry, expiryOf text = .ok expiry) :
    ∃ description, segmentOf initial segment.text = .ok description ∧
      Describes initial [segment] description := by
  cases segment with
  | bare text colonFree separatorFree =>
      exact ⟨initial, segmentOf_bare initial colonFree, rfl, rfl, .inl ⟨rfl, rfl⟩, rfl, rfl⟩
  | pair key val colonFree separatorFree valSeparatorFree =>
      have distinct := keys_differ
      simp only [List.nodup_cons, List.mem_cons, List.not_mem_nil, or_false, not_or] at distinct
      obtain ⟨⟨class1, class2, class3, class4⟩, ⟨underlying1, underlying2, underlying3⟩,
        ⟨expiry1, expiry2⟩, target, -⟩ := distinct
      rw [Segment.text, segmentOf_pair initial val colonFree]
      by_cases isClass : key = utf8 "class"
      · subst isClass
        refine ⟨_, if_pos rfl, ?_, ?_, .inl ⟨?_, rfl⟩, ?_, ?_⟩ <;>
          simp [valuesOf_pair, class1, class2, class3, class4]
      by_cases isUnderlying : key = utf8 "underlying"
      · subst isUnderlying
        refine ⟨{ initial with underlying := val }, by rw [if_neg isClass, if_pos rfl],
          ?_, ?_, .inl ⟨?_, rfl⟩, ?_, ?_⟩ <;>
          simp [valuesOf_pair, isClass, underlying1, underlying2, underlying3]
      by_cases isExpiry : key = utf8 "expiry"
      · subst isExpiry
        obtain ⟨expiry, parsed⟩ := readable val (by simp [valuesOf_pair])
        refine ⟨{ initial with expiry }, ?_, ?_, ?_, .inr ⟨val, ?_, ?_⟩, ?_, ?_⟩
        · rw [if_neg isClass, if_neg isUnderlying, if_pos rfl, parsed]
          rfl
        · simp [valuesOf_pair, isClass]
        · simp [valuesOf_pair, isUnderlying]
        · simp [valuesOf_pair]
        · exact parsed ▸ parseOutcomeExpiry_performs val
        · simp [valuesOf_pair, expiry1]
        · simp [valuesOf_pair, expiry2]
      by_cases isTarget : key = utf8 "targetPrice"
      · subst isTarget
        refine ⟨{ initial with targetPrice := val },
          by rw [if_neg isClass, if_neg isUnderlying, if_neg isExpiry, if_pos rfl],
          ?_, ?_, .inl ⟨?_, rfl⟩, ?_, ?_⟩ <;>
          simp [valuesOf_pair, isClass, isUnderlying, isExpiry, target]
      by_cases isPeriod : key = utf8 "period"
      · subst isPeriod
        refine ⟨{ initial with period := val },
          by rw [if_neg isClass, if_neg isUnderlying, if_neg isExpiry, if_neg isTarget,
            if_pos rfl], ?_, ?_, .inl ⟨?_, rfl⟩, ?_, ?_⟩ <;>
          simp [valuesOf_pair, isClass, isUnderlying, isExpiry, isTarget]
      · refine ⟨initial, by rw [if_neg isClass, if_neg isUnderlying, if_neg isExpiry,
          if_neg isTarget, if_neg isPeriod], ?_, ?_, .inl ⟨?_, rfl⟩, ?_, ?_⟩ <;>
          simp [valuesOf_pair, isClass, isUnderlying, isExpiry, isTarget, isPeriod]

theorem Describes.trans {initial middle description : OutcomeDescription}
    {segments following : List Segment} (before : Describes initial segments middle)
    (after : Describes middle following description) :
    Describes initial (segments ++ following) description := by
  have appended (key : String) :
      valuesOf key (segments ++ following) = valuesOf key segments ++ valuesOf key following :=
    List.filterMap_append
  have last (key : String) (value : Bytes) :
      (valuesOf key (segments ++ following)).getLast?.getD value =
        (valuesOf key following).getLast?.getD ((valuesOf key segments).getLast?.getD value) := by
    rw [appended, List.getLast?_append]
    cases (valuesOf key following).getLast? <;> rfl
  refine ⟨?_, ?_, ?_, ?_, ?_⟩
  · rw [after.outcomeClass, before.outcomeClass, last]
  · rw [after.underlying, before.underlying, last]
  · rw [appended]
    rcases after.expiry with ⟨none, kept⟩ | ⟨text, last, parsed⟩
    · rw [none, List.append_nil, kept]
      exact before.expiry
    · exact .inr ⟨text, by rw [List.getLast?_append, last]; rfl, parsed⟩
  · rw [after.targetPrice, before.targetPrice, last]
  · rw [after.period, before.period, last]

theorem describes_segments (segments : List Segment) :
    ∀ initial, (∀ text ∈ valuesOf "expiry" segments, ∃ expiry, expiryOf text = .ok expiry) →
      ∃ description,
        (segments.map Segment.text).foldlM segmentOf initial = .ok description ∧
          Describes initial segments description := by
  induction segments with
  | nil => exact fun initial _ => ⟨initial, rfl, rfl, rfl, .inl ⟨rfl, rfl⟩, rfl, rfl⟩
  | cons segment segments ih =>
      intro initial readable
      have values : valuesOf "expiry" (segment :: segments) =
          valuesOf "expiry" [segment] ++ valuesOf "expiry" segments := by
        unfold valuesOf
        rw [← List.filterMap_append, List.singleton_append]
      rw [values] at readable
      obtain ⟨middle, parsed, first⟩ := Describes.single initial segment
        fun text present => readable text (List.mem_append_left _ present)
      obtain ⟨description, others, following⟩ := ih middle
        fun text present => readable text (List.mem_append_right _ present)
      refine ⟨description, ?_, first.trans following⟩
      rw [List.map_cons, List.foldlM_cons, parsed, ok_bind, others]

/-- The loop ends on every text; on joined segments it sets each field to the last value
that is written for it. -/
theorem parseOutcomeDescription_joined (segments : List Segment)
    (readable : ∀ text ∈ valuesOf "expiry" segments,
      ∃ expiry, Performs (parseOutcomeExpiry text : Decoder Outcome TimePoint) (.ok expiry)) :
    ∃ description,
      Performs (parseOutcomeDescriptionFrom (joined segments) 0 {} :
        Decoder Outcome OutcomeDescription) (.ok description) ∧
      Describes {} segments description := by
  have expiries : ∀ text ∈ valuesOf "expiry" segments, ∃ expiry, expiryOf text = .ok expiry := by
    intro text present
    obtain ⟨expiry, performs⟩ := readable text present
    exact ⟨expiry, (parseOutcomeExpiry_performs text).result_eq {} performs⟩
  obtain ⟨description, parsed, describes⟩ := describes_segments segments {} expiries
  refine ⟨description, ?_, describes⟩
  rw [← parseOutcomeDescription_eq_loop, ← parsed, ← foldlM_joined]
  exact parseOutcomeDescription_performs (joined segments)

/-- With an empty segment, one without a colon, a repeated key and a separator at the end. -/
def untidySegments : List Segment :=
  [.pair (utf8 "class") (utf8 "a") (by decide +kernel) (by decide +kernel) (by decide +kernel),
    .bare [] (by decide) (by decide),
    .bare (utf8 "period") (by decide +kernel) (by decide +kernel),
    .pair (utf8 "expiry") (utf8 "20260503-0600") (by decide +kernel) (by decide +kernel)
      (by decide +kernel),
    .pair (utf8 "class") (utf8 "b:c") (by decide +kernel) (by decide +kernel) (by decide +kernel),
    .bare [] (by decide) (by decide)]

theorem parseOutcomeDescription_untidy :
    ∃ description,
      Performs (parseOutcomeDescriptionFrom
        (utf8 "class:a||period|expiry:20260503-0600|class:b:c|") 0 {} :
          Decoder Outcome OutcomeDescription) (.ok description) ∧
      description.outcomeClass = utf8 "b:c" ∧ description.period = [] := by
  have text : joined untidySegments =
      utf8 "class:a||period|expiry:20260503-0600|class:b:c|" := by decide +kernel
  have expiries : valuesOf "expiry" untidySegments = [utf8 "20260503-0600"] := by decide +kernel
  have classes : (valuesOf "class" untidySegments).getLast? = some (utf8 "b:c") := by
    decide +kernel
  have periods : valuesOf "period" untidySegments = [] := by decide +kernel
  have readable : ∀ text ∈ valuesOf "expiry" untidySegments,
      ∃ expiry, Performs (parseOutcomeExpiry text : Decoder Outcome TimePoint) (.ok expiry) := by
    intro text present
    rw [expiries, List.mem_singleton] at present
    subst present
    exact ⟨1777788000000000000, parseOutcomeExpiry_performs (utf8 "20260503-0600")⟩
  obtain ⟨description, performs, describes⟩ :=
    parseOutcomeDescription_joined untidySegments readable
  rw [text] at performs
  refine ⟨description, performs, ?_, ?_⟩
  · rw [describes.outcomeClass, classes, Option.getD_some]
  · rw [describes.period, periods]
    rfl

end HyperliquidSdk.Rest
