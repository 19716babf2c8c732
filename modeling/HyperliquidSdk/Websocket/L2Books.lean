import HyperliquidSdk.Foundation.ObjectSearch
import HyperliquidSdk.Foundation.ReaderRuns
import HyperliquidSdk.Rest.DecoderRuns
import HyperliquidSdk.Websocket.MessageIsolation

/-!
# Snapshots of a book

The snapshot of the websocket has as many levels of each side of the book as its arrays have
places for; the book of `RestApiMessageParser` has all. What is well-formed is read alike by
both.
-/

set_option autoImplicit false

namespace HyperliquidSdk.Websocket

open Foundation Foundation.OnDemand Foundation.OnDemand.Reader Foundation.Throwing

/-! ## Sides of a snapshot -/

def numLevels (snapshot : L2BookSnapshot) : Side → UInt8
  | .bid => snapshot.numBids
  | .ask => snapshot.numAsks

def levelsOf (snapshot : L2BookSnapshot) : Side → Vector PriceLevel L2_BOOK_MAX_LEVELS
  | .bid => snapshot.bids
  | .ask => snapshot.asks

/-- Of the levels taken so far, the side has those that fit, in order. -/
structure Filled (snapshot : L2BookSnapshot) (side : Side) (taken : List PriceLevel) : Prop where
  number : (numLevels snapshot side).toNat = min L2_BOOK_MAX_LEVELS taken.length
  levels : (levelsOf snapshot side).toList.take (numLevels snapshot side).toNat =
    taken.take L2_BOOK_MAX_LEVELS

/-- What a level changes if there is a place for it. -/
theorem addLevel_free {snapshot : L2BookSnapshot} {side : Side} (level : PriceLevel)
    (free : (numLevels snapshot side).toNat < L2_BOOK_MAX_LEVELS) :
    numLevels (addLevel side level snapshot) side = numLevels snapshot side + 1 ∧
      levelsOf (addLevel side level snapshot) side =
        (levelsOf snapshot side).set (numLevels snapshot side).toNat level free ∧
      ∀ other, other ≠ side →
        numLevels (addLevel side level snapshot) other = numLevels snapshot other ∧
          levelsOf (addLevel side level snapshot) other = levelsOf snapshot other := by
  cases side with
  | bid =>
      have added : addLevel .bid level snapshot = _ := dif_pos free
      rw [added]
      refine ⟨rfl, rfl, fun other different => ?_⟩
      cases other with
      | bid => exact absurd rfl different
      | ask => exact ⟨rfl, rfl⟩
  | ask =>
      have added : addLevel .ask level snapshot = _ := dif_pos free
      rw [added]
      refine ⟨rfl, rfl, fun other different => ?_⟩
      cases other with
      | bid => exact ⟨rfl, rfl⟩
      | ask => exact absurd rfl different

theorem addLevel_full {snapshot : L2BookSnapshot} {side : Side} (level : PriceLevel)
    (full : ¬ (numLevels snapshot side).toNat < L2_BOOK_MAX_LEVELS) :
    addLevel side level snapshot = snapshot := by
  cases side with
  | bid => exact dif_neg full
  | ask => exact dif_neg full

theorem addLevel_coin (side : Side) (level : PriceLevel) (snapshot : L2BookSnapshot) :
    (addLevel side level snapshot).coin = snapshot.coin ∧
      (addLevel side level snapshot).time = snapshot.time := by
  unfold addLevel
  cases side with
  | bid => dsimp only; split <;> exact ⟨rfl, rfl⟩
  | ask => dsimp only; split <;> exact ⟨rfl, rfl⟩

theorem take_set_succ {values : Vector PriceLevel L2_BOOK_MAX_LEVELS} {count : Nat}
    (free : count < L2_BOOK_MAX_LEVELS) (level : PriceLevel) :
    (values.set count level free).toList.take (count + 1) =
      values.toList.take count ++ [level] := by
  have bound : count < values.toList.length := by rwa [Vector.length_toList]
  rw [Vector.toList_set, List.take_add_one, List.take_set_of_le le_rfl, List.getElem?_set_self bound]
  rfl

namespace Filled

variable {snapshot : L2BookSnapshot} {side : Side} {taken : List PriceLevel}

theorem add (filled : Filled snapshot side taken) (level : PriceLevel) :
    Filled (addLevel side level snapshot) side (taken ++ [level]) := by
  have number := filled.number
  by_cases free : (numLevels snapshot side).toNat < L2_BOOK_MAX_LEVELS
  · obtain ⟨increased, written, -⟩ := addLevel_free level free
    have next : (numLevels snapshot side + 1).toNat = (numLevels snapshot side).toNat + 1 := by
      have small : (numLevels snapshot side).toNat + 1 < 256 := by
        unfold L2_BOOK_MAX_LEVELS at free
        omega
      rw [UInt8.toNat_add]
      exact Nat.mod_eq_of_lt small
    have room : taken.length < L2_BOOK_MAX_LEVELS := by omega
    constructor
    · rw [increased, next, List.length_append, List.length_singleton]
      omega
    · rw [increased, written, next, take_set_succ free, filled.levels,
        List.take_of_length_le room.le, List.take_of_length_le (by rw [List.length_append]; exact room)]
  · rw [addLevel_full level free]
    have fullTaken : L2_BOOK_MAX_LEVELS ≤ taken.length := by omega
    constructor
    · rw [number, List.length_append]
      omega
    · rw [filled.levels, List.take_append_of_le_length fullTaken]

theorem add_other {other : Side} (filled : Filled snapshot other taken) (different : other ≠ side)
    (level : PriceLevel) : Filled (addLevel side level snapshot) other taken := by
  by_cases free : (numLevels snapshot side).toNat < L2_BOOK_MAX_LEVELS
  · obtain ⟨sameNumber, sameLevels⟩ := (addLevel_free level free).2.2 other different
    exact ⟨by rw [sameNumber, filled.number], by rw [sameNumber, sameLevels, filled.levels]⟩
  · rwa [addLevel_full level free]

theorem addAll (filled : Filled snapshot side taken) (levels : List PriceLevel) :
    Filled (levels.foldl (fun snapshot level => addLevel side level snapshot) snapshot) side
      (taken ++ levels) := by
  induction levels generalizing snapshot taken with
  | nil => rwa [List.append_nil]
  | cons level levels ih =>
      rw [List.append_cons]
      exact ih (filled.add level)

theorem addAll_other {other : Side} (filled : Filled snapshot other taken) (different : other ≠ side)
    (levels : List PriceLevel) :
    Filled (levels.foldl (fun snapshot level => addLevel side level snapshot) snapshot) other taken := by
  induction levels generalizing snapshot with
  | nil => exact filled
  | cons level levels ih => exact ih (filled.add_other different level)

end Filled

theorem addAll_coin (side : Side) (levels : List PriceLevel) (snapshot : L2BookSnapshot) :
    (levels.foldl (fun snapshot level => addLevel side level snapshot) snapshot).coin = snapshot.coin ∧
      (levels.foldl (fun snapshot level => addLevel side level snapshot) snapshot).time =
        snapshot.time := by
  induction levels generalizing snapshot with
  | nil => exact ⟨rfl, rfl⟩
  | cons level levels ih =>
      have kept := addLevel_coin side level snapshot
      exact ⟨(ih _).1.trans kept.1, (ih _).2.trans kept.2⟩

/-! ## Whatever is read -/

/-- The numbers of levels are those of places in the arrays. -/
def InBounds (snapshot : L2BookSnapshot) : Prop :=
  ∀ side, (numLevels snapshot side).toNat ≤ L2_BOOK_MAX_LEVELS

theorem InBounds.addLevel {snapshot : L2BookSnapshot} (inBounds : InBounds snapshot) (side : Side)
    (level : PriceLevel) : InBounds (addLevel side level snapshot) := by
  intro other
  by_cases free : (numLevels snapshot side).toNat < L2_BOOK_MAX_LEVELS
  · obtain ⟨increased, -, others⟩ := addLevel_free level free
    by_cases same : other = side
    · rw [same, increased, UInt8.toNat_add]
      exact (Nat.mod_le _ _).trans free
    · rw [(others other same).1]
      exact inBounds other
  · rw [addLevel_full level free]
    exact inBounds other

theorem parseBookSide_inBounds {ρ : Type} (side : Side) (entries : List Value)
    (snapshot : L2BookSnapshot) (inBounds : InBounds snapshot) :
    Returns (parseBookSide side entries snapshot : Reader ρ L2BookSnapshot) InBounds := by
  refine .foldlM (fun snapshot inBounds entry => .anyway fun level => ?_) entries snapshot inBounds
  cases level with
  | none => exact .pure inBounds
  | some level => exact .pure (inBounds.addLevel side level)

theorem parseL2BookSnapshot_inBounds {ρ : Type} :
    Returns (parseL2BookSnapshot : Reader ρ L2BookSnapshot) InBounds := by
  refine .anyway fun coin => .anyway fun time => .anyway fun sides => ?_
  refine .foldlM (fun snapshot inBounds side => .anyway fun entries => ?_) _ _ ?_
  · exact parseBookSide_inBounds _ entries snapshot inBounds
  · intro side
    cases side with
    | bid => exact Nat.zero_le _
    | ask => exact Nat.zero_le _

/-! ## Well-formed books -/

/-- A level with a price, a size and a number of orders. -/
def WellFormedLevel (level : Value) : Prop :=
  ∃ fields, level.getObject = .ok fields ∧ fields.Holds (utf8 "px") (Object.Gives Value.getString) ∧
    fields.Holds (utf8 "sz") (Object.Gives Value.getString) ∧ fields.Holds (utf8 "n") (Object.Gives Rest.getInt)

structure WellFormedBook (data : Object) : Prop where
  coin : data.Holds (utf8 "coin") (Object.Gives Value.getString)
  time : data.Holds (utf8 "time") (Object.Gives Value.getUInt64)
  levels : data.Holds (utf8 "levels") fun levels => ∃ sides, levels.getArray = .ok sides ∧
    ∀ side ∈ sides, ∃ entries, side.getArray = .ok entries ∧ ∀ entry ∈ entries, WellFormedLevel entry

/-- A level of the book as it is in a snapshot. -/
def tagged (side : Side) (level : RestBookLevel) : PriceLevel :=
  { side := some side, px := level.px, sz := level.sz, n := level.n }

def restLevelOf (entry : Value) : Rest.Decoder L2BookResponse RestBookLevel := do
  Rest.within (← entry.getObject) Rest.parseRestBookLevel

/-- Both parsers read the level from the entry. -/
structure ReadsLevel (entry : Value) (level : RestBookLevel) : Prop where
  inSnapshot : ∀ side object,
    readFrom (do within (← entry.getObject) (parsePriceLevel (some side))) object () =
      (.ok (tagged side level, object), ())
  inBook : Rest.Performs (restLevelOf entry) (.ok level)

theorem WellFormedLevel.reads {entry : Value} (wellFormed : WellFormedLevel entry) :
    ∃ level, ReadsLevel entry level := by
  obtain ⟨fields, isObject, px, sz, n⟩ := wellFormed
  obtain ⟨pxMember, afterPx, foundPx, ⟨pxText, isPx⟩, samePx⟩ := px.find
  obtain ⟨szMember, afterSz, foundSz, ⟨szText, isSz⟩, sameSz⟩ := (sz.perm samePx).find
  obtain ⟨nMember, afterN, foundN, ⟨number, isN⟩, -⟩ := (n.perm (sameSz.trans samePx)).find
  refine ⟨{ px := pxText, sz := szText, n := number }, ⟨fun side object => ?_, fun object response => ?_⟩⟩
  · refine (readFrom_bind_ok (readFrom_read isObject object ())).trans ?_
    refine @readFrom_within_ok _ _ fields afterN _ _ _ _ ?_ object
    refine (readFrom_bind_ok (readFrom_fieldOf () foundPx isPx)).trans ?_
    refine (readFrom_bind_ok (readFrom_fieldOf () foundSz isSz)).trans ?_
    exact readFrom_bind_ok (readFrom_fieldOf () foundN isN)
  · refine (Rest.decode_bind_ok (Rest.decode_read isObject object response)).trans ?_
    refine @Rest.decode_within_ok _ _ fields afterN _ _ _ _ ?_ object
    refine (Rest.decode_bind_ok (Rest.decode_fieldOf response foundPx isPx)).trans ?_
    refine (Rest.decode_bind_ok (Rest.decode_fieldOf response foundSz isSz)).trans ?_
    exact Rest.decode_bind_ok (Rest.decode_fieldOf response foundN isN)

/-- Both parsers read the levels of a side. -/
def ReadsSide (side : Value) (levels : List RestBookLevel) : Prop :=
  ∃ entries, side.getArray = .ok entries ∧ List.Forall₂ ReadsLevel entries levels

/-- The two sides of the book; one that is not there has no levels. -/
inductive ReadsSides : List Value → List RestBookLevel → List RestBookLevel → Prop
  | noSides : ReadsSides [] [] []
  | bidsOnly {side : Value} {bids : List RestBookLevel} :
      ReadsSide side bids → ReadsSides [side] bids []
  | both {bidSide askSide : Value} {others : List Value} {bids asks : List RestBookLevel} :
      ReadsSide bidSide bids → ReadsSide askSide asks →
        ReadsSides (bidSide :: askSide :: others) bids asks

theorem readsSides_of_wellFormed {sides : List Value}
    (wellFormed : ∀ side ∈ sides, ∃ entries, side.getArray = .ok entries ∧
      ∀ entry ∈ entries, WellFormedLevel entry) : ∃ bids asks, ReadsSides sides bids asks := by
  have reads (side : Value) (present : side ∈ sides) : ∃ levels, ReadsSide side levels := by
    obtain ⟨entries, isArray, each⟩ := wellFormed side present
    obtain ⟨levels, decoded⟩ := exists_forall₂ fun entry isEntry => (each entry isEntry).reads
    exact ⟨levels, entries, isArray, decoded⟩
  match sides with
  | [] => exact ⟨[], [], .noSides⟩
  | [side] =>
      obtain ⟨bids, readsBids⟩ := reads side List.mem_cons_self
      exact ⟨bids, [], .bidsOnly readsBids⟩
  | bidSide :: askSide :: others =>
      obtain ⟨bids, readsBids⟩ := reads bidSide List.mem_cons_self
      obtain ⟨asks, readsAsks⟩ := reads askSide (by simp)
      exact ⟨bids, asks, .both readsBids readsAsks⟩

/-! ## The snapshot -/

/-- The snapshot with the levels of a side added. -/
def addSide (side : Side) (levels : List RestBookLevel) (snapshot : L2BookSnapshot) :
    L2BookSnapshot :=
  (levels.map (tagged side)).foldl (fun snapshot level => addLevel side level snapshot) snapshot

theorem parseBookSide_run (side : Side) {entries : List Value} {levels : List RestBookLevel}
    (each : List.Forall₂ ReadsLevel entries levels) (snapshot : L2BookSnapshot) (object : Object) :
    readFrom (parseBookSide side entries snapshot) object () =
      (.ok (addSide side levels snapshot, object), ()) := by
  unfold parseBookSide
  induction each generalizing snapshot with
  | nil => rfl
  | cons reads others ih =>
      rw [List.foldlM_cons]
      refine (readFrom_bind_ok ?_).trans (ih (addLevel side (tagged side _) snapshot))
      exact readFrom_bind_ok (readFrom_attempted_ok (reads.inSnapshot side object))

theorem bookSide_run {side : Value} {levels : List RestBookLevel} (reads : ReadsSide side levels)
    (which : Side) (snapshot : L2BookSnapshot) (object : Object) :
    readFrom (do parseBookSide which (← side.getArray) snapshot) object () =
      (.ok (addSide which levels snapshot, object), ()) := by
  obtain ⟨entries, isArray, each⟩ := reads
  exact (readFrom_bind_ok (readFrom_read isArray object ())).trans
    (parseBookSide_run which each snapshot object)

theorem parseSides_run {sides : List Value} {bids asks : List RestBookLevel}
    (reads : ReadsSides sides bids asks) (snapshot : L2BookSnapshot) (object : Object) :
    readFrom ((sides.take 2).zipIdx.foldlM (fun snapshot (side, sideIdx) => do
        parseBookSide (if sideIdx = 0 then .bid else .ask) (← side.getArray) snapshot) snapshot)
      object () = (.ok (addSide .ask asks (addSide .bid bids snapshot), object), ()) := by
  cases reads with
  | noSides => rfl
  | bidsOnly reads => exact readFrom_bind_ok (bookSide_run reads .bid snapshot object)
  | both readsBids readsAsks =>
      refine (readFrom_bind_ok (bookSide_run readsBids .bid snapshot object)).trans ?_
      exact readFrom_bind_ok (bookSide_run readsAsks .ask (addSide .bid _ snapshot) object)

/-! ## The book -/

def pushBid (level : RestBookLevel) (response : L2BookResponse) : L2BookResponse :=
  { response with bids := response.bids ++ [level] }

def pushAsk (level : RestBookLevel) (response : L2BookResponse) : L2BookResponse :=
  { response with asks := response.asks ++ [level] }

theorem restSide_run {side : Value} {levels : List RestBookLevel} (reads : ReadsSide side levels)
    (push : RestBookLevel → L2BookResponse → L2BookResponse)
    {body : Value → Rest.Decoder L2BookResponse PUnit}
    (bodies : ∀ entry, body entry =
      restLevelOf entry >>= fun level => modifyThe L2BookResponse (push level))
    (object : Object) (response : L2BookResponse) :
    Rest.decode (do (← side.getArray).forM body) object response =
      .ok (.ok (⟨⟩, object), levels.foldl (fun response level => push level response) response) := by
  obtain ⟨entries, isArray, each⟩ := reads
  refine (Rest.decode_bind_ok (Rest.decode_read isArray object response)).trans ?_
  exact Rest.decode_forM_performs push bodies (each.imp fun _ _ reads => reads.inBook) object response

theorem pushBids (levels : List RestBookLevel) (response : L2BookResponse) :
    levels.foldl (fun response level => pushBid level response) response =
      { response with bids := response.bids ++ levels } := by
  induction levels generalizing response with
  | nil => simp
  | cons level levels ih =>
      rw [List.foldl_cons, ih, List.append_cons]
      rfl

theorem pushAsks (levels : List RestBookLevel) (response : L2BookResponse) :
    levels.foldl (fun response level => pushAsk level response) response =
      { response with asks := response.asks ++ levels } := by
  induction levels generalizing response with
  | nil => simp
  | cons level levels ih =>
      rw [List.foldl_cons, ih, List.append_cons]
      rfl

theorem parseL2Book_run {document : Bytes → Except Error Value} {message : Bytes} {value : Value}
    {data : Object} (parsed : document message = .ok value) (isObject : value.getObject = .ok data)
    {coinMember timeMember levelsMember : Value} {afterCoin afterTime afterLevels : Object}
    {coin : Bytes} {time : UInt64} {sides : List Value}
    (foundCoin : data.find (utf8 "coin") = some (coinMember, afterCoin))
    (isCoin : coinMember.getString = .ok coin)
    (foundTime : afterCoin.find (utf8 "time") = some (timeMember, afterTime))
    (isTime : timeMember.getUInt64 = .ok time)
    (foundLevels : afterTime.find (utf8 "levels") = some (levelsMember, afterLevels))
    (areSides : levelsMember.getArray = .ok sides) {bids asks : List RestBookLevel}
    (reads : ReadsSides sides bids asks) :
    (Rest.parseL2Book document message).run Rest.convert = .ok { coin, time, bids, asks } := by
  refine Rest.parseDocument_run parsed (.ok ((), [])) ?_
  refine (Rest.decode_bind_ok (Rest.decode_read isObject [] _)).trans ?_
  refine @Rest.decode_within_ok _ _ data afterLevels _ _ _ _ ?_ []
  refine (Rest.decode_bind_ok (Rest.decode_fieldOf _ foundCoin isCoin)).trans ?_
  refine (Rest.decode_bind_ok (Rest.decode_modify _ afterCoin _)).trans ?_
  refine (Rest.decode_bind_ok (Rest.decode_fieldOf _ foundTime isTime)).trans ?_
  refine (Rest.decode_bind_ok (Rest.decode_modify _ afterTime _)).trans ?_
  refine (Rest.decode_bind_ok (Rest.decode_fieldOf _ foundLevels areSides)).trans ?_
  have bidsRun {side : Value} {levels : List RestBookLevel} (reads : ReadsSide side levels) :=
    restSide_run reads pushBid (fun _ => (bind_assoc _ _ _).symm) afterLevels
  cases reads with
  | noSides => rfl
  | bidsOnly reads =>
      refine (Rest.decode_bind_ok (bidsRun reads _)).trans ?_
      rw [pushBids]
      rfl
  | both readsBids readsAsks =>
      have asksRun := restSide_run readsAsks pushAsk (fun _ => (bind_assoc _ _ _).symm) afterLevels
      refine (Rest.decode_bind_ok (bidsRun readsBids _)).trans ?_
      refine (Rest.decode_bind_ok (asksRun _)).trans ?_
      rw [pushBids, pushAsks]
      rfl

/-! ## Both -/

/-- No snapshot counts a level that its arrays have no place for. For a well-formed book, the
snapshot has the first levels of each side that the response of `parseL2Book` has. -/
theorem l2Book_agrees (data : Object) :
    (∀ snapshot, (read data () parseL2BookSnapshot).1 = .ok snapshot →
      snapshot.numBids.toNat ≤ L2_BOOK_MAX_LEVELS ∧ snapshot.numAsks.toNat ≤ L2_BOOK_MAX_LEVELS) ∧
    (WellFormedBook data → ∀ document message value, document message = .ok value →
      value.getObject = .ok data → ∃ response snapshot,
        (Rest.parseL2Book document message).run Rest.convert = .ok response ∧
        (∀ listener before,
          ((crackL2Book listener data).run before).2 = before ++ [.onL2Book snapshot]) ∧
        snapshot.coin = response.coin ∧ snapshot.time = response.time ∧
        snapshot.numBids.toNat = min L2_BOOK_MAX_LEVELS response.bids.length ∧
        snapshot.bids.toList.take snapshot.numBids.toNat =
          (response.bids.take L2_BOOK_MAX_LEVELS).map (tagged .bid) ∧
        snapshot.numAsks.toNat = min L2_BOOK_MAX_LEVELS response.asks.length ∧
        snapshot.asks.toList.take snapshot.numAsks.toNat =
          (response.asks.take L2_BOOK_MAX_LEVELS).map (tagged .ask)) := by
  constructor
  · intro snapshot ran
    have inBounds := parseL2BookSnapshot_inBounds.read ran
    exact ⟨inBounds .bid, inBounds .ask⟩
  · intro wellFormed document message value parsed isObject
    obtain ⟨coinMember, afterCoin, foundCoin, ⟨coin, isCoin⟩, sameCoin⟩ := wellFormed.coin.find
    obtain ⟨timeMember, afterTime, foundTime, ⟨time, isTime⟩, sameTime⟩ :=
      (wellFormed.time.perm sameCoin).find
    obtain ⟨levelsMember, afterLevels, foundLevels, ⟨sides, areSides, each⟩, -⟩ :=
      (wellFormed.levels.perm (sameTime.trans sameCoin)).find
    obtain ⟨bids, asks, reads⟩ := readsSides_of_wellFormed each
    let initial : L2BookSnapshot := { coin, time }
    let snapshot := addSide .ask asks (addSide .bid bids initial)
    have ran : readFrom parseL2BookSnapshot data () = (.ok (snapshot, afterLevels), ()) := by
      refine (readFrom_bind_ok (readFrom_fieldOf () foundCoin isCoin)).trans ?_
      refine (readFrom_bind_ok (readFrom_fieldOf () foundTime isTime)).trans ?_
      refine (readFrom_bind_ok (readFrom_fieldOf () foundLevels areSides)).trans ?_
      exact parseSides_run reads initial afterLevels
    have empty (side : Side) : Filled initial side [] := by
      cases side with
      | bid => exact ⟨rfl, rfl⟩
      | ask => exact ⟨rfl, rfl⟩
    have filledBids : Filled snapshot .bid (bids.map (tagged .bid)) :=
      ((empty .bid).addAll _).addAll_other (by decide) _
    have filledAsks : Filled snapshot .ask (asks.map (tagged .ask)) :=
      ((empty .ask).addAll_other (by decide) _).addAll _
    have kept (side : Side) (levels : List RestBookLevel) (before : L2BookSnapshot) :
        (addSide side levels before).coin = before.coin ∧
          (addSide side levels before).time = before.time := addAll_coin side _ before
    refine ⟨{ coin, time, bids, asks }, snapshot, parseL2Book_run parsed isObject foundCoin isCoin
      foundTime isTime foundLevels areSides reads, fun listener before => ?_, ?_, ?_, ?_⟩
    · unfold crackL2Book
      rw [bind_run, Cracker.reading_run, read_ok ran]
      exact Cracker.notify_after listener (.onL2Book snapshot) before
    · exact (kept .ask asks _).1.trans (kept .bid bids _).1
    · exact (kept .ask asks _).2.trans (kept .bid bids _).2
    · have sameLength (side : Side) (levels : List RestBookLevel) :
          (levels.map (tagged side)).length = levels.length := List.length_map _
      refine ⟨?_, filledBids.levels.trans List.map_take.symm, ?_,
        filledAsks.levels.trans List.map_take.symm⟩
      · exact sameLength .bid bids ▸ filledBids.number
      · exact sameLength .ask asks ▸ filledAsks.number

def levelValue : Value :=
  .ofMembers [("px", .ofText "113377.0"), ("sz", .ofText "7.6699"), ("n", .number (utf8 "17"))]

/-- More bids than there are places for, and one ask. -/
def deepBook : Value :=
  .ofMembers [("coin", .ofText "BTC"), ("time", .number (utf8 "1754450974231")),
    ("levels", .ofItems [.ofItems (List.replicate 51 levelValue), .ofItems [levelValue]])]

theorem levelValue_wellFormed : WellFormedLevel levelValue := by
  refine ⟨_, rfl, .of_only rfl ⟨_, rfl⟩, .of_only rfl ⟨_, rfl⟩, .of_only rfl ⟨_, rfl⟩⟩

theorem deepBook_wellFormed : ∃ data, deepBook.getObject = .ok data ∧ WellFormedBook data := by
  refine ⟨_, rfl, .of_only rfl ⟨_, rfl⟩, .of_only rfl ⟨_, rfl⟩, .of_only rfl ⟨_, rfl, ?_⟩⟩
  refine List.forall_mem_cons.mpr ⟨⟨_, rfl, ?_⟩, List.forall_mem_singleton.mpr ⟨_, rfl, ?_⟩⟩
  · intro entry present
    rw [List.eq_of_mem_replicate present]
    exact levelValue_wellFormed
  · exact List.forall_mem_singleton.mpr levelValue_wellFormed

theorem l2Book_agrees_deep :
    ∃ data snapshot, deepBook.getObject = .ok data ∧
      (∀ listener before,
        ((crackL2Book listener data).run before).2 = before ++ [.onL2Book snapshot]) ∧
      snapshot.numBids.toNat = 50 ∧ snapshot.numAsks.toNat = 1 := by
  obtain ⟨data, isObject, wellFormed⟩ := deepBook_wellFormed
  obtain ⟨response, snapshot, returned, announced, -, -, bids, -, asks, -⟩ :=
    (l2Book_agrees data).2 wellFormed (recorded [deepBook]) deepBook.toJsonString deepBook
      (recorded_self deepBook) isObject
  have counted : ((Rest.parseL2Book (recorded [deepBook]) deepBook.toJsonString).run
      Rest.convert).toOption.map (fun response => (response.bids.length, response.asks.length)) =
        some (51, 1) := by decide +kernel
  rw [returned] at counted
  obtain ⟨bidCount, askCount⟩ := Prod.mk.inj (Option.some.inj counted)
  refine ⟨data, snapshot, isObject, announced, ?_, ?_⟩
  · rw [bids, bidCount]
    rfl
  · rw [asks, askCount]
    rfl

end HyperliquidSdk.Websocket
