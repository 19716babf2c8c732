import HyperliquidSdk.Rest.ListPositions
import Mathlib.Data.List.Nodup

/-!
# The names of spot contexts

The contexts of `spotMetaAndAssetCtxs` are ordered by the `index` of the pairs, but the
decoder takes the name of a context from the pair at the same place of the universe. The
two agree exactly when the universe is in the order of the indices.
-/

set_option autoImplicit false

namespace HyperliquidSdk.Rest

open Foundation Foundation.OnDemand

/-! ## Well-formed responses -/

def spotAssetMetaOf (element : Value) :
    Decoder SpotMetaAndAssetCtxsResponse SpotAssetMeta := do
  within (← element.getObject) parseSpotAssetMeta

def spotPairOf (element : Value) : Decoder SpotMetaAndAssetCtxsResponse SpotUniversePair := do
  within (← element.getObject) parseSpotUniversePair

def spotAssetCtxOf (coin : Bytes) (element : Value) :
    Decoder SpotMetaAndAssetCtxsResponse SpotAssetCtx := do
  within (← element.getObject) (parseSpotAssetCtx coin)

/-- A document whose tokens, pairs and contexts all decode. -/
structure SpotDocument where
  value : Value
  metaValue : Value
  ctxsValue : Value
  others : List Value
  isArray : value.getArray = .ok (metaValue :: ctxsValue :: others)
  fields : Object
  isObject : metaValue.getObject = .ok fields
  tokensValue : Value
  afterTokens : Object
  foundTokens : fields.find (utf8 "tokens") = some (tokensValue, afterTokens)
  tokenEntries : List Value
  areTokens : tokensValue.getArray = .ok tokenEntries
  tokens : List SpotAssetMeta
  tokensDecode : List.Forall₂ (fun entry token => Performs (spotAssetMetaOf entry) (.ok token))
    tokenEntries tokens
  universeValue : Value
  afterUniverse : Object
  foundUniverse : afterTokens.find (utf8 "universe") = some (universeValue, afterUniverse)
  pairEntries : List Value
  arePairs : universeValue.getArray = .ok pairEntries
  pairs : List SpotUniversePair
  pairsDecode : List.Forall₂ (fun entry pair => Performs (spotPairOf entry) (.ok pair))
    pairEntries pairs
  contextEntries : List Value
  areContexts : ctxsValue.getArray = .ok contextEntries
  contextsDecode : ∀ entry ∈ contextEntries, ∃ context,
    Performs (spotAssetCtxOf [] entry) (.ok context)

/-- The name of the pair at a place of the universe. -/
def pairNameAt (pairs : List SpotUniversePair) (position : Nat) : Bytes :=
  ((pairs[position]?).map SpotUniversePair.name).getD []

/-- The name belongs to the context with the index: it is the name of the pair with the index,
and empty if there is none. -/
def Joined (pairs : List SpotUniversePair) (index : Nat) (coin : Bytes) : Prop :=
  (∃ pair ∈ pairs, pair.index.toInt = index ∧ coin = pair.name) ∨
    (∀ pair ∈ pairs, pair.index.toInt ≠ index) ∧ coin = []

/-- The pair at the place has this place as its index, or at least the name of a pair that has;
where there is no pair, the place is no index. -/
def InIndexOrder (pairs : List SpotUniversePair) (position : Nat) : Prop :=
  match pairs[position]? with
  | some pair =>
      (∃ other ∈ pairs, other.index.toInt = position ∧ pair.name = other.name) ∨
        (∀ other ∈ pairs, other.index.toInt ≠ position) ∧ pair.name = []
  | none =>
      (∀ pair ∈ pairs, pair.index.toInt ≠ position) ∨
        ∃ pair ∈ pairs, pair.index.toInt = position ∧ pair.name = []

theorem parseSpotAssetCtx_onlyReads :
    OnlyReads (parseSpotAssetCtx [] : Decoder SpotMetaAndAssetCtxsResponse SpotAssetCtx) :=
  .bind (.parseNumberField "dayNtlVlm") fun _ => .bind (.parseNumberField "prevDayPx") fun _ =>
    .bind (.parseNumberField "markPx") fun _ => .bind parseMidPx_onlyReads fun _ =>
      .bind (.presentField "circulatingSupply") fun _ => .bind (.optional .toNumber _) fun _ =>
        .pure _

theorem parseSpotUniversePair_onlyReads :
    OnlyReads (parseSpotUniversePair : Decoder SpotMetaAndAssetCtxsResponse SpotUniversePair) :=
  .bind (.fieldOf _ "name") fun _ => .bind (.fieldOf _ "tokens") fun tokens =>
    .bind (.mapM (fun token => .read (getInt token)) tokens) fun _ =>
      .bind (.fieldOf _ "index") fun _ => .bind (.fieldOf _ "isCanonical") fun _ => .pure _

/-! ## The run of the parser -/

def pushToken (token : SpotAssetMeta) (response : SpotMetaAndAssetCtxsResponse) :
    SpotMetaAndAssetCtxsResponse :=
  { response with «meta».tokens := response.«meta».tokens ++ [token] }

def pushPair (pair : SpotUniversePair) (response : SpotMetaAndAssetCtxsResponse) :
    SpotMetaAndAssetCtxsResponse :=
  { response with «meta».«universe» := response.«meta».universe ++ [pair] }

theorem parseSpotAssetCtx_coin (coin : Bytes) (object : Object)
    (response : SpotMetaAndAssetCtxsResponse) :
    Ensures (parseSpotAssetCtx coin) object response (fun _ => True)
      fun context _ _ => context.coin = coin := by
  unfold parseSpotAssetCtx
  exact .anyway fun _ _ _ => .anyway fun _ _ _ => .anyway fun _ _ _ => .anyway fun _ _ _ =>
    .anyway fun _ _ _ => .anyway fun _ _ _ => .pure rfl

theorem parseSpotAssetCtx_eq (coin : Bytes) :
    (parseSpotAssetCtx coin : Decoder SpotMetaAndAssetCtxsResponse SpotAssetCtx) =
      parseSpotAssetCtx [] >>= fun context => pure { context with coin } := by
  unfold parseSpotAssetCtx
  simp only [bind_assoc, pure_bind]

/-- Whether a context decodes does not depend on its name. -/
theorem spotAssetCtxOf_any {element : Value} {context : SpotAssetCtx}
    (performs : Performs (spotAssetCtxOf [] element) (.ok context)) (coin : Bytes) :
    Performs (spotAssetCtxOf coin element) (.ok { context with coin }) := by
  have extended : spotAssetCtxOf coin element =
      spotAssetCtxOf [] element >>= fun context => pure { context with coin } := by
    unfold spotAssetCtxOf
    rw [parseSpotAssetCtx_eq]
    unfold within
    simp only [bind_assoc, pure_bind]
  rw [extended]
  exact .bind performs fun context => .pure _

theorem spotAssetCtxOf_coin {coin : Bytes} {element : Value} {context : SpotAssetCtx}
    (performs : Performs (spotAssetCtxOf coin element) (.ok context)) : context.coin = coin := by
  have ensures : Ensures (spotAssetCtxOf coin element) [] ({} : SpotMetaAndAssetCtxsResponse)
      (fun _ => True) fun context _ _ => context.coin = coin :=
    .bind (.read trivial fun object _ => .within (parseSpotAssetCtx_coin coin object _))
  exact ensures.finished (performs [] {})

/-- The loop over contexts that all decode. -/
theorem spotContextLoop_run {body : Value × Nat → Decoder SpotMetaAndAssetCtxsResponse PUnit}
    (bodies : ∀ element, body element = do
      let object ← element.1.getObject
      let «universe» := (← getThe SpotMetaAndAssetCtxsResponse).«meta».universe
      let ctx ← within object (parseSpotAssetCtx (pairNameAt «universe» element.2))
      modifyThe SpotMetaAndAssetCtxsResponse fun response =>
        { response with assetCtxs := response.assetCtxs ++ [ctx] })
    {elements : List (Value × Nat)} (each : ∀ element ∈ elements, ∃ context,
      Performs (spotAssetCtxOf [] element.1) (.ok context)) (object : Object)
    (response : SpotMetaAndAssetCtxsResponse) :
    ∃ contexts, List.Forall₂ (fun (element : Value × Nat) context =>
        context.coin = pairNameAt response.«meta».universe element.2) elements contexts ∧
      decode (elements.forM body) object response =
        .ok (.ok (⟨⟩, object), { response with assetCtxs := response.assetCtxs ++ contexts }) := by
  induction elements generalizing response with
  | nil => exact ⟨[], .nil, by rw [List.append_nil]; rfl⟩
  | cons element elements ih =>
      obtain ⟨anyContext, performsAny⟩ := each element List.mem_cons_self
      let coin := pairNameAt response.«meta».universe element.2
      let context := { anyContext with coin }
      have performs : Performs (spotAssetCtxOf coin element.1) (.ok context) :=
        spotAssetCtxOf_any performsAny coin
      obtain ⟨contexts, named, ran⟩ := ih
        (fun other present => each other (List.mem_cons_of_mem _ present))
        { response with assetCtxs := response.assetCtxs ++ [context] }
      refine ⟨context :: contexts, .cons (spotAssetCtxOf_coin performs) named, ?_⟩
      have step : decode (body element) object response = .ok (.ok (⟨⟩, object),
          { response with assetCtxs := response.assetCtxs ++ [context] }) := by
        have whole := performs object response
        unfold spotAssetCtxOf at whole
        rw [bodies]
        cases isObject : element.1.getObject with
        | error error =>
            rw [isObject] at whole
            cases whole
        | ok fields =>
            rw [isObject] at whole
            have state : decode (getThe SpotMetaAndAssetCtxsResponse) object response =
              .ok (.ok (response, object), response) := rfl
            have read := (decode_bind_ok (decode_read rfl object response)).symm.trans whole
            exact (decode_bind_ok (decode_read rfl object response)).trans
              ((decode_bind_ok state).trans (decode_bind_ok read))
      have assembled : response.assetCtxs ++ context :: contexts =
          response.assetCtxs ++ [context] ++ contexts := List.append_cons _ _ _
      show decode (body element >>= fun _ => elements.forM body) object response = _
      rw [decode_bind, step, assembled]
      exact ran

/-! ## The names -/

section

variable {document : Bytes → Except Error Value} {message : Bytes} (wire : SpotDocument)

theorem parseSpotMetaAndAssetCtxs_run (parsed : document message = .ok wire.value) :
    ∃ response, (parseSpotMetaAndAssetCtxs document message).run convert = .ok response ∧
      response.assetCtxs.length = wire.contextEntries.length ∧
      ∀ position context, response.assetCtxs[position]? = some context →
        context.coin = pairNameAt wire.pairs position := by
  let afterTokens : SpotMetaAndAssetCtxsResponse := wire.tokens.foldl
    (fun response token => pushToken token response) {}
  let afterPairs : SpotMetaAndAssetCtxsResponse := wire.pairs.foldl
    (fun response pair => pushPair pair response) afterTokens
  have noContexts : afterPairs.assetCtxs = [] :=
    (foldl_keeps pushPair SpotMetaAndAssetCtxsResponse.assetCtxs (fun _ _ => rfl)
      wire.pairs afterTokens).trans
      (foldl_keeps pushToken SpotMetaAndAssetCtxsResponse.assetCtxs (fun _ _ => rfl)
        wire.tokens {})
  have allPairs : afterPairs.«meta».universe = wire.pairs := by
    have before : afterTokens.«meta».universe = [] :=
      foldl_keeps pushToken (fun response => response.«meta».universe) (fun _ _ => rfl)
        wire.tokens {}
    refine (foldl_appends pushPair (fun response => response.«meta».universe)
      (fun _ _ => rfl) wire.pairs afterTokens).trans ?_
    rw [before, List.nil_append]
  have each : ∀ element ∈ wire.contextEntries.zipIdx, ∃ context,
      Performs (spotAssetCtxOf [] element.1) (.ok context) :=
    fun element present => wire.contextsDecode _ (List.fst_mem_of_mem_zipIdx present)
  obtain ⟨contexts, named, ran⟩ := spotContextLoop_run (fun _ => rfl) each [] afterPairs
  rw [noContexts, List.nil_append] at ran
  refine ⟨{ afterPairs with assetCtxs := contexts }, ?_, ?_, ?_⟩
  · refine parseDocument_run parsed (.ok ((), [])) ?_
    refine (decode_bind_ok (decode_read wire.isArray [] _)).trans ?_
    refine (decode_bind_ok (decode_read wire.isObject [] _)).trans ?_
    refine (decode_bind_ok (@decode_within_ok _ _ _ wire.afterUniverse _ _ afterPairs ⟨⟩
      ?_ [])).trans ?_
    · refine (decode_bind_ok (decode_fieldOf _ wire.foundTokens wire.areTokens)).trans ?_
      refine (decode_bind_ok (decode_forM_performs pushToken
        ?_ wire.tokensDecode wire.afterTokens _)).trans ?_
      · exact fun _ => (bind_assoc _ _ _).symm
      refine (decode_bind_ok (decode_fieldOf _ wire.foundUniverse wire.arePairs)).trans ?_
      refine decode_forM_performs pushPair
        ?_ wire.pairsDecode wire.afterUniverse afterTokens
      exact fun _ => (bind_assoc _ _ _).symm
    · exact (decode_bind_ok (decode_read wire.areContexts [] _)).trans ran
  · rw [← named.length_eq, List.length_zipIdx]
  · intro position context found
    rw [allPairs] at named
    obtain ⟨element, isElement, coin⟩ := (DecodesPrefix.of_forall₂ named).get found
    rw [List.getElem?_zipIdx] at isElement
    obtain ⟨entry, -, rfl⟩ := Option.map_eq_some_iff.mp isElement
    rw [coin, Nat.zero_add]

theorem joined_pairNameAt_iff (pairs : List SpotUniversePair) (position : Nat) :
    Joined pairs position (pairNameAt pairs position) ↔ InIndexOrder pairs position := by
  unfold Joined InIndexOrder pairNameAt
  cases pairs[position]? with
  | some pair => exact Iff.rfl
  | none =>
      simp only [Option.map_none, Option.getD_none, and_true]
      constructor
      · intro joined
        rcases joined with ⟨pair, present, index, name⟩ | noPair
        · exact .inr ⟨pair, present, index, name.symm⟩
        · exact .inl noPair
      · intro inOrder
        rcases inOrder with noPair | ⟨pair, present, index, name⟩
        · exact .inr noPair
        · exact .inl ⟨pair, present, index, name.symm⟩

/-- With distinct names, none of them empty, the order is that of the indices in the plain sense. -/
theorem inIndexOrder_iff_of_distinct {pairs : List SpotUniversePair} {position : Nat}
    (distinct : (pairs.map SpotUniversePair.name).Nodup)
    (named : ∀ pair ∈ pairs, pair.name ≠ []) :
    InIndexOrder pairs position ↔
      (∀ pair, pairs[position]? = some pair → pair.index.toInt = position) ∧
        (pairs[position]? = none → ∀ pair ∈ pairs, pair.index.toInt ≠ position) := by
  unfold InIndexOrder
  cases found : pairs[position]? with
  | some pair =>
      have present := List.mem_of_getElem? found
      simp only [Option.some.injEq, forall_eq', reduceCtorEq, false_implies, and_true]
      constructor
      · intro inOrder
        rcases inOrder with ⟨other, isPair, index, name⟩ | ⟨-, empty⟩
        · rwa [List.inj_on_of_nodup_map distinct present isPair name]
        · exact absurd empty (named pair present)
      · exact fun index => .inl ⟨pair, present, index, rfl⟩
  | none =>
      simp only [reduceCtorEq, false_implies, implies_true, true_and, forall_const]
      constructor
      · intro inOrder
        rcases inOrder with noPair | ⟨pair, present, -, empty⟩
        · exact noPair
        · exact absurd empty (named pair present)
      · exact .inl

/-- Every context has the name of the pair with its index exactly if the universe is in the
order of the indices as far as there are contexts. -/
theorem spotContexts_joined_iff (parsed : document message = .ok wire.value) :
    ∃ response, (parseSpotMetaAndAssetCtxs document message).run convert = .ok response ∧
      response.assetCtxs.length = wire.contextEntries.length ∧
      ((∀ position context, response.assetCtxs[position]? = some context →
        Joined wire.pairs position context.coin) ↔
        ∀ position < wire.contextEntries.length, InIndexOrder wire.pairs position) := by
  obtain ⟨response, returned, length, named⟩ := parseSpotMetaAndAssetCtxs_run wire parsed
  refine ⟨response, returned, length, ?_⟩
  constructor
  · intro joined position inside
    have found := List.getElem?_eq_getElem (length ▸ inside : position < response.assetCtxs.length)
    rw [← joined_pairNameAt_iff, ← named position _ found]
    exact joined position _ found
  · intro inOrder position context found
    have inside : position < response.assetCtxs.length := (List.getElem?_eq_some_iff.mp found).1
    rw [named position context found, joined_pairNameAt_iff]
    exact inOrder position (length ▸ inside)

end

/-! ## A universe in another order -/

def spotPairEntry (name : String) (index : String) : Value :=
  .ofMembers [("name", .ofText name),
    ("tokens", .ofItems [.number (utf8 "1"), .number (utf8 "0")]),
    ("index", .number (utf8 index)), ("isCanonical", .boolean false)]

def spotContextEntry (markPx : String) : Value :=
  .ofMembers [("dayNtlVlm", .ofText "500.0"), ("prevDayPx", .ofText "0.5"),
    ("markPx", .ofText markPx), ("circulatingSupply", .ofText "1000000.0")]

def reorderedPairs : List Value := [spotPairEntry "@1" "1", spotPairEntry "PURR/USDC" "0"]

def reorderedContexts : List Value := [spotContextEntry "0.51", spotContextEntry "7.5"]

/-- The pair with index 1 stands first. -/
def reorderedUniverse : Value :=
  .ofItems [.ofMembers [("tokens", .ofItems []), ("universe", .ofItems reorderedPairs)],
    .ofItems reorderedContexts]

theorem reorderedPairs_decode :
    ∃ pairs, List.Forall₂ (fun entry pair => Performs (spotPairOf entry) (.ok pair))
        reorderedPairs pairs ∧
      pairs.map (fun pair => (pair.name, pair.index)) = [(utf8 "@1", 1), (utf8 "PURR/USDC", 0)] := by
  have alone (element : Value) : Standalone (spotPairOf element) :=
    .object element parseSpotUniversePair_onlyReads
  have first : (valueOf (decode (spotPairOf (spotPairEntry "@1" "1")) [] {})).map
      (fun pair => (pair.name, pair.index)) = some (utf8 "@1", 1) := by decide +kernel
  have second : (valueOf (decode (spotPairOf (spotPairEntry "PURR/USDC" "0")) [] {})).map
      (fun pair => (pair.name, pair.index)) = some (utf8 "PURR/USDC", 0) := by decide +kernel
  obtain ⟨one, ranOne, isOne⟩ := Option.map_eq_some_iff.mp first
  obtain ⟨other, ranOther, isOther⟩ := Option.map_eq_some_iff.mp second
  refine ⟨[one, other], .cons ((alone _).performs_of_valueOf ranOne)
    (.cons ((alone _).performs_of_valueOf ranOther) .nil), ?_⟩
  rw [List.map_cons, List.map_cons, isOne, isOther, List.map_nil]

theorem reorderedContexts_decode : ∀ entry ∈ reorderedContexts, ∃ context,
    Performs (spotAssetCtxOf [] entry) (.ok context) := by
  have alone (element : Value) : Standalone (spotAssetCtxOf [] element) :=
    .object element parseSpotAssetCtx_onlyReads
  have all : ∀ entry ∈ reorderedContexts,
      (valueOf (decode (spotAssetCtxOf [] entry) [] {})).isSome = true := by decide +kernel
  intro entry present
  obtain ⟨context, ran⟩ := Option.isSome_iff_exists.mp (all entry present)
  exact ⟨context, (alone entry).performs_of_valueOf ran⟩

theorem reorderedUniverse_wellFormed :
    ∃ wire : SpotDocument, wire.value = reorderedUniverse ∧ wire.contextEntries.length = 2 ∧
      wire.pairs.map (fun pair => (pair.name, pair.index)) =
        [(utf8 "@1", 1), (utf8 "PURR/USDC", 0)] := by
  obtain ⟨pairs, pairsDecode, names⟩ := reorderedPairs_decode
  let tokensField : Key × Value := (⟨utf8 "tokens", utf8 "tokens"⟩, .ofItems [])
  let universeField : Key × Value := (⟨utf8 "universe", utf8 "universe"⟩, .ofItems reorderedPairs)
  let wire : SpotDocument := {
    value := reorderedUniverse
    metaValue := .ofMembers [("tokens", .ofItems []), ("universe", .ofItems reorderedPairs)]
    ctxsValue := .ofItems reorderedContexts
    others := []
    isArray := rfl
    fields := [tokensField, universeField]
    isObject := rfl
    tokensValue := .ofItems []
    afterTokens := [universeField, tokensField]
    foundTokens := rfl
    tokenEntries := []
    areTokens := rfl
    tokens := []
    tokensDecode := .nil
    universeValue := .ofItems reorderedPairs
    afterUniverse := [tokensField, universeField]
    foundUniverse := rfl
    pairEntries := reorderedPairs
    arePairs := rfl
    pairs
    pairsDecode
    contextEntries := reorderedContexts
    areContexts := rfl
    contextsDecode := reorderedContexts_decode }
  exact ⟨wire, rfl, rfl, names⟩

/-- The pair with index 0 is not the one in the first place. -/
theorem not_joined_reordered {pairs : List SpotUniversePair}
    (names : pairs.map (fun pair => (pair.name, pair.index)) =
      [(utf8 "@1", 1), (utf8 "PURR/USDC", 0)]) :
    ¬ Joined pairs 0 (pairNameAt pairs 0) := by
  obtain ⟨first, others, rfl, isFirst, rest⟩ := List.map_eq_cons_iff.mp names
  obtain ⟨second, none, rfl, isSecond, empty⟩ := List.map_eq_cons_iff.mp rest
  obtain rfl := List.map_eq_nil_iff.mp empty
  obtain ⟨firstName, firstIndex⟩ := Prod.mk.inj isFirst
  obtain ⟨secondName, secondIndex⟩ := Prod.mk.inj isSecond
  have different : utf8 "@1" ≠ utf8 "PURR/USDC" ∧ utf8 "@1" ≠ [] := by decide +kernel
  have notZero : (1 : Int32).toInt ≠ (0 : Nat) := by decide
  unfold Joined pairNameAt
  simp only [List.getElem?_cons_zero, Option.map_some, Option.getD_some, firstName]
  intro joined
  rcases joined with ⟨pair, present, index, name⟩ | ⟨-, unnamed⟩
  · rcases List.mem_cons.mp present with rfl | present
    · rw [firstIndex] at index
      exact notZero index
    · obtain rfl := List.mem_singleton.mp present
      exact different.1 (name.trans secondName)
  · exact different.2 unnamed

/-- A well-formed response whose first context gets the name of the pair with index 1. -/
theorem spotContexts_not_joined :
    ∃ (wire : SpotDocument) (response : SpotMetaAndAssetCtxsResponse),
      wire.value = reorderedUniverse ∧
      (parseSpotMetaAndAssetCtxs (recorded [reorderedUniverse]) reorderedUniverse.toJsonString).run
        convert = .ok response ∧
      ∃ position context, response.assetCtxs[position]? = some context ∧
        ¬ Joined wire.pairs position context.coin := by
  obtain ⟨wire, isReordered, count, names⟩ := reorderedUniverse_wellFormed
  have parsed : recorded [reorderedUniverse] reorderedUniverse.toJsonString = .ok wire.value := by
    rw [isReordered]
    exact recorded_self reorderedUniverse
  obtain ⟨response, returned, length, named⟩ := parseSpotMetaAndAssetCtxs_run wire parsed
  have inside : 0 < response.assetCtxs.length := by omega
  have found := List.getElem?_eq_getElem inside
  refine ⟨wire, response, isReordered, returned, 0, _, found, ?_⟩
  rw [named 0 _ found]
  exact not_joined_reordered names

theorem spotContexts_joined_iff_reordered :
    ∃ (wire : SpotDocument) (response : SpotMetaAndAssetCtxsResponse),
      wire.value = reorderedUniverse ∧
      (parseSpotMetaAndAssetCtxs (recorded [reorderedUniverse]) reorderedUniverse.toJsonString).run
        convert = .ok response ∧
      ¬ ∀ position context, response.assetCtxs[position]? = some context →
        Joined wire.pairs position context.coin := by
  obtain ⟨wire, isReordered, count, names⟩ := reorderedUniverse_wellFormed
  have parsed : recorded [reorderedUniverse] reorderedUniverse.toJsonString = .ok wire.value := by
    rw [isReordered]
    exact recorded_self reorderedUniverse
  obtain ⟨response, returned, length, joinedIff⟩ := spotContexts_joined_iff wire parsed
  refine ⟨wire, response, isReordered, returned, fun joined => ?_⟩
  have inOrder := joinedIff.mp joined 0 (by omega)
  exact not_joined_reordered names ((joined_pairNameAt_iff wire.pairs 0).mpr inOrder)

end HyperliquidSdk.Rest
