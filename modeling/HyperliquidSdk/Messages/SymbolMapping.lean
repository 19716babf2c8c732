import HyperliquidSdk.Foundation.Registration
import HyperliquidSdk.Messages.ExchangeRequestBuilder
import HyperliquidSdk.Types.ResponseTypes

/-!
# The symbol map

`ExchangeRequestBuilder::initializeMapping` and the two ways in which `SymbolMap` takes a
symbol. A symbol resolves to the last asset that has it as its name; as an alias it
resolves to the first pair.
-/

set_option autoImplicit false

namespace HyperliquidSdk.Messages

open Foundation

/-- An alias is taken by the first that claims it. -/
def SymbolMap.add (symbolMap : SymbolMap) (symbol : Bytes) (securityId : Int32) : SymbolMap :=
  insertNew symbolMap symbol securityId

/-- A name overwrites. -/
def SymbolMap.set (symbolMap : SymbolMap) (symbol : Bytes) (securityId : Int32) : SymbolMap :=
  assign symbolMap symbol securityId

/-- The responses to the requests of `initializeMapping`, with the response to `meta` for each
position in the list of dexes. -/
structure MappingResponses where
  defaultMeta : MetaResponse
  spotMeta : SpotMetaAndAssetCtxsResponse
  dexes : PerpDexsResponse
  dexMeta : Nat → MetaResponse

def setUniverse (idOf : Int32 → Int32) (symbolMap : SymbolMap) (assets : List AssetMeta) :
    SymbolMap :=
  (assets.foldl (fun (symbolMap, index) asset =>
    (symbolMap.set asset.name (idOf index), index + 1)) (symbolMap, 0)).1

def tokenByIndex (tokens : List SpotAssetMeta) : List (Int32 × SpotAssetMeta) :=
  tokens.foldl (fun tokenByIndex token => assign tokenByIndex token.index token) []

/-- `tokenByIndex.at(index)`. -/
def tokenAt (tokens : List SpotAssetMeta) (index : Int32) : Result SpotAssetMeta :=
  match (tokenByIndex tokens).lookup index with
  | some token => .ok token
  | none => .error (.outOfRange (utf8 "unordered_map::at"))

def setPair (tokens : List SpotAssetMeta) (symbolMap : SymbolMap) (pair : SpotUniversePair) :
    Result SymbolMap :=
  let assetId := pair.index + 10000
  let symbolMap := symbolMap.set pair.name assetId
  match pair.tokens with
  | [base, quote] => do
      let baseToken ← tokenAt tokens base
      let quoteToken ← tokenAt tokens quote
      return symbolMap.add (baseToken.name ++ utf8 "/" ++ quoteToken.name) assetId
  | _ => .ok symbolMap

def setDexes (configured : List Bytes) (dexMeta : Nat → MetaResponse) (position : Nat)
    (perpIdx : Int32) (symbolMap : SymbolMap) : List PerpDex → SymbolMap
  | [] => symbolMap
  | dex :: dexes =>
      if dex.name ∈ configured then
        let symbolMap := setUniverse (fun index => 100000 + perpIdx * 10000 + index) symbolMap
          (dexMeta position).universe
        setDexes configured dexMeta (position + 1) (perpIdx + 1) symbolMap dexes
      else setDexes configured dexMeta (position + 1) (perpIdx + 1) symbolMap dexes

def initializeMapping (config : ApiConfig) (responses : MappingResponses) (symbolMap : SymbolMap) :
    Result SymbolMap :=
  if config.wallet.isNone then .ok symbolMap
  else do
    let symbolMap := setUniverse (fun index => index) symbolMap responses.defaultMeta.universe
    let spotMeta := responses.spotMeta.meta
    let symbolMap ← spotMeta.universe.foldlM (setPair spotMeta.tokens) symbolMap
    if config.dexes.isEmpty then return symbolMap
    return setDexes config.dexes responses.dexMeta 0 1 symbolMap responses.dexes.dexes

/-! ## What is registered -/

inductive AssetGroup where
  | perps
  | spot
  | dex (position : Nat)
  deriving DecidableEq, Repr

/-- An asset with the id that the exchange gives to it. -/
structure ListedAsset where
  name : Bytes
  group : AssetGroup
  id : Int

def listedUniverse (group : AssetGroup) (first : Int) (assets : List AssetMeta) :
    List ListedAsset :=
  assets.zipIdx.map fun (asset, position) => ⟨asset.name, group, first + position⟩

def listedPair (pair : SpotUniversePair) : ListedAsset := ⟨pair.name, .spot, 10000 + pair.index.toInt⟩

theorem ofInt_listedPair (pair : SpotUniversePair) :
    Int32.ofInt (listedPair pair).id = pair.index + 10000 := by
  rw [listedPair, Int32.ofInt_add, Int32.ofInt_toInt, Int32.add_comm]
  rfl

/-- The assets of the dexes from a position on. -/
def listedDexes (configured : List Bytes) (dexMeta : Nat → MetaResponse) (position : Nat)
    (dexes : List PerpDex) : List ListedAsset :=
  (dexes.zipIdx position).flatMap fun (dex, position) =>
    if dex.name ∈ configured then
      listedUniverse (.dex position) (100000 + 10000 * (position + 1)) (dexMeta position).universe
    else []

theorem listedDexes_cons (configured : List Bytes) (dexMeta : Nat → MetaResponse) (position : Nat)
    (dex : PerpDex) (dexes : List PerpDex) :
    listedDexes configured dexMeta position (dex :: dexes) =
      (if dex.name ∈ configured then
        listedUniverse (.dex position) (100000 + 10000 * (position + 1)) (dexMeta position).universe
      else []) ++ listedDexes configured dexMeta (position + 1) dexes := by
  rw [listedDexes, List.zipIdx_cons, List.flatMap_cons]
  rfl

/-- The assets in the order in which their names are registered. -/
def listedAssets (config : ApiConfig) (responses : MappingResponses) : List ListedAsset :=
  listedUniverse .perps 0 responses.defaultMeta.universe ++
    responses.spotMeta.meta.universe.map listedPair ++
    listedDexes config.dexes responses.dexMeta 0 responses.dexes.dexes

/-- The text is `BASE/QUOTE` of the pair's two tokens, the last ones with their indexes. -/
def IsAlias (tokens : List SpotAssetMeta) (pair : SpotUniversePair) (text : Bytes) : Prop :=
  ∃ base quote baseToken quoteToken, pair.tokens = [base, quote] ∧
    IsLast (fun token => token.index = base) tokens baseToken ∧
    IsLast (fun token => token.index = quote) tokens quoteToken ∧
    text = baseToken.name ++ utf8 "/" ++ quoteToken.name

/-- The two tokens of a pair are listed. -/
def TokensListed (spotMeta : SpotMetaAndAssetCtxsMeta) : Prop :=
  ∀ pair ∈ spotMeta.universe, ∀ base quote, pair.tokens = [base, quote] →
    base ∈ spotMeta.tokens.map (·.index) ∧ quote ∈ spotMeta.tokens.map (·.index)

/-! ## The loops -/

/-- The entry of an asset in the map. -/
def ListedAsset.entry (asset : ListedAsset) : Bytes × Int32 := (asset.name, Int32.ofInt asset.id)

theorem reflects_tokenByIndex (tokens : List SpotAssetMeta) :
    Reflects (tokenByIndex tokens) (tokens.map fun token => (token.index, token)) [] := by
  have all := Reflects.nil.assign_all (tokens.map fun token => (token.index, token))
  rwa [List.foldl_map, List.nil_append] at all

/-- The last token with an index wins. -/
theorem lookup_tokenByIndex_iff {tokens : List SpotAssetMeta} {index : Int32}
    {token : SpotAssetMeta} :
    (tokenByIndex tokens).lookup index = some token ↔
      IsLast (fun token => token.index = index) tokens token := by
  rw [reflects_tokenByIndex tokens index, List.lookup_nil, Option.or_none, lastOf_map_eq_some_iff]
  simp

theorem lookup_tokenByIndex_of_mem {tokens : List SpotAssetMeta} {index : Int32}
    (listed : index ∈ tokens.map (·.index)) :
    ∃ token, (tokenByIndex tokens).lookup index = some token := by
  rw [← Option.ne_none_iff_exists', reflects_tokenByIndex tokens index, List.lookup_nil,
    Option.or_none, Ne, lastOf_map_eq_none_iff]
  obtain ⟨token, member, rfl⟩ := List.mem_map.mp listed
  exact fun absent => absent token member rfl

/-- The entry of the alias of a pair, when it has one. -/
def aliasEntry (tokens : List SpotAssetMeta) (pair : SpotUniversePair) : Option (Bytes × Int32) :=
  match pair.tokens with
  | [base, quote] => do
      let baseToken ← (tokenByIndex tokens).lookup base
      let quoteToken ← (tokenByIndex tokens).lookup quote
      return (baseToken.name ++ utf8 "/" ++ quoteToken.name, pair.index + 10000)
  | _ => none

/-- The partially built map after the assets and the pairs so far. -/
def Registered (tokens : List SpotAssetMeta) (symbolMap : SymbolMap) (assets : List ListedAsset)
    (pairs : List SpotUniversePair) : Prop :=
  Reflects symbolMap (assets.map (·.entry)) (pairs.filterMap (aliasEntry tokens))

section Loops

variable {tokens : List SpotAssetMeta} {symbolMap : SymbolMap} {assets : List ListedAsset}
variable {pairs : List SpotUniversePair}

theorem Registered.set (registered : Registered tokens symbolMap assets pairs)
    (asset : ListedAsset) :
    Registered tokens (symbolMap.set asset.name (Int32.ofInt asset.id)) (assets ++ [asset])
      pairs := by
  unfold Registered
  rw [List.map_append]
  exact registered.assign asset.name (Int32.ofInt asset.id)

theorem Registered.add (registered : Registered tokens symbolMap assets pairs)
    {pair : SpotUniversePair} {text : Bytes} {id : Int32}
    (entry : aliasEntry tokens pair = some (text, id)) :
    Registered tokens (symbolMap.add text id) assets (pairs ++ [pair]) := by
  unfold Registered
  rw [List.filterMap_append, List.filterMap_cons_some entry]
  exact registered.insertNew text id

theorem Registered.skip (registered : Registered tokens symbolMap assets pairs)
    {pair : SpotUniversePair} (entry : aliasEntry tokens pair = none) :
    Registered tokens symbolMap assets (pairs ++ [pair]) := by
  unfold Registered
  rw [List.filterMap_append, List.filterMap_cons_none entry, List.filterMap_nil, List.append_nil]
  exact registered

theorem registered_setUniverse_from (registered : Registered tokens symbolMap assets pairs)
    {group : AssetGroup} {first : Int} {idOf : Int32 → Int32}
    (ids : ∀ position : Nat, idOf (Int32.ofInt position) = Int32.ofInt (first + position))
    (metas : List AssetMeta) (position : Nat) :
    Registered tokens (metas.foldl (fun (symbolMap, index) asset =>
        (symbolMap.set asset.name (idOf index), index + 1))
        (symbolMap, Int32.ofInt position)).1
      (assets ++ (metas.zipIdx position).map fun (asset, position) =>
        ⟨asset.name, group, first + position⟩) pairs := by
  induction metas generalizing symbolMap assets position with
  | nil => simpa using registered
  | cons asset rest ih =>
      have next : Int32.ofInt position + 1 = Int32.ofInt (position + 1 : Nat) := by
        rw [Int.natCast_add, Int32.ofInt_add]
        rfl
      have following := ih (registered.set ⟨asset.name, group, first + position⟩) (position + 1)
      rw [List.foldl_cons, List.zipIdx_cons, List.map_cons]
      simp only [ids, next]
      rwa [List.append_assoc] at following

theorem Registered.setUniverse (registered : Registered tokens symbolMap assets pairs)
    {group : AssetGroup} {first : Int} {idOf : Int32 → Int32}
    (ids : ∀ position : Nat, idOf (Int32.ofInt position) = Int32.ofInt (first + position))
    (metas : List AssetMeta) :
    Registered tokens (setUniverse idOf symbolMap metas)
      (assets ++ listedUniverse group first metas) pairs :=
  registered_setUniverse_from registered ids metas 0

theorem registered_setPair (registered : Registered tokens symbolMap assets pairs)
    (pair : SpotUniversePair)
    (listed : ∀ base quote, pair.tokens = [base, quote] →
      base ∈ tokens.map (·.index) ∧ quote ∈ tokens.map (·.index)) :
    ∃ following, setPair tokens symbolMap pair = .ok following ∧
      Registered tokens following (assets ++ [listedPair pair]) (pairs ++ [pair]) := by
  have named := registered.set (listedPair pair)
  rw [ofInt_listedPair] at named
  unfold setPair
  split
  · next base quote shape =>
      obtain ⟨baseListed, quoteListed⟩ := listed base quote shape
      obtain ⟨baseToken, baseFound⟩ := lookup_tokenByIndex_of_mem baseListed
      obtain ⟨quoteToken, quoteFound⟩ := lookup_tokenByIndex_of_mem quoteListed
      simp only [tokenAt, baseFound, quoteFound, ok_bind]
      refine ⟨_, rfl, named.add ?_⟩
      simp only [aliasEntry, shape, baseFound, quoteFound]
      rfl
  · next other =>
      refine ⟨_, rfl, named.skip ?_⟩
      unfold aliasEntry
      split
      · next base quote shape => exact (other base quote shape).elim
      · rfl

theorem registered_setPairs (registered : Registered tokens symbolMap assets pairs)
    (following : List SpotUniversePair)
    (listed : ∀ pair ∈ following, ∀ base quote, pair.tokens = [base, quote] →
      base ∈ tokens.map (·.index) ∧ quote ∈ tokens.map (·.index)) :
    ∃ result, following.foldlM (setPair tokens) symbolMap = .ok result ∧
      Registered tokens result (assets ++ following.map listedPair) (pairs ++ following) := by
  induction following generalizing symbolMap assets pairs with
  | nil => exact ⟨symbolMap, rfl, by simpa using registered⟩
  | cons pair rest ih =>
      rw [List.forall_mem_cons] at listed
      obtain ⟨next, set, registered⟩ := registered_setPair registered pair listed.1
      obtain ⟨result, folded, complete⟩ := ih registered listed.2
      refine ⟨result, ?_, by simpa using complete⟩
      rw [List.foldlM_cons, set, ok_bind, folded]

theorem registered_setDexes (registered : Registered tokens symbolMap assets pairs)
    (configured : List Bytes) (dexMeta : Nat → MetaResponse) (dexes : List PerpDex)
    (position : Nat) :
    Registered tokens
      (setDexes configured dexMeta position (Int32.ofInt (position + 1)) symbolMap dexes)
      (assets ++ listedDexes configured dexMeta position dexes) pairs := by
  induction dexes generalizing symbolMap assets position with
  | nil => simpa [setDexes, listedDexes] using registered
  | cons dex rest ih =>
      have advanced : Int32.ofInt ((position : Int) + 1) + 1 =
          Int32.ofInt ((position + 1 : Nat) + 1) :=
        (Int32.ofInt_add ((position : Int) + 1) 1).symm
      have first (index : Nat) :
          100000 + Int32.ofInt ((position : Int) + 1) * 10000 + Int32.ofInt index =
            Int32.ofInt (100000 + 10000 * ((position : Int) + 1) + index) := by
        rw [Int32.ofInt_add _ (index : Int), Int32.ofInt_add 100000, Int32.ofInt_mul 10000,
          Int32.mul_comm]
        rfl
      rw [setDexes, advanced, listedDexes_cons, ← List.append_assoc]
      by_cases chosen : dex.name ∈ configured
      · rw [if_pos chosen, if_pos chosen]
        exact ih (registered.setUniverse first (dexMeta position).universe) (position + 1)
      · rw [if_neg chosen, if_neg chosen, List.append_nil]
        exact ih registered (position + 1)

theorem aliasEntry_eq_some_iff {pair : SpotUniversePair} {text : Bytes} {id : Int32} :
    aliasEntry tokens pair = some (text, id) ↔
      IsAlias tokens pair text ∧ Int32.ofInt (listedPair pair).id = id := by
  have claimed : Int32.ofInt (listedPair pair).id = pair.index + 10000 := ofInt_listedPair pair
  unfold aliasEntry IsAlias
  simp only [← lookup_tokenByIndex_iff, claimed]
  split
  · next base quote shape =>
      constructor
      · intro found
        obtain ⟨baseToken, baseFound, found⟩ := Option.bind_eq_some_iff.mp found
        obtain ⟨quoteToken, quoteFound, found⟩ := Option.bind_eq_some_iff.mp found
        obtain ⟨rfl, rfl⟩ := Prod.mk.inj (Option.some.inj found)
        exact ⟨⟨base, quote, baseToken, quoteToken, shape, baseFound, quoteFound, rfl⟩, rfl⟩
      · rintro ⟨⟨_, _, baseToken, quoteToken, same, baseFound, quoteFound, rfl⟩, rfl⟩
        obtain ⟨rfl, rfl⟩ : base = _ ∧ quote = _ := by simpa using shape.symm.trans same
        rw [baseFound, quoteFound]
        rfl
  · next other =>
      refine iff_of_false (by simp) ?_
      rintro ⟨⟨base, quote, _, _, shape, -⟩, -⟩
      exact other base quote shape

theorem Registered.resolve_name (registered : Registered tokens symbolMap assets pairs)
    {symbol : Bytes} {asset : ListedAsset}
    (last : IsLast (fun asset => asset.name = symbol) assets asset) :
    symbolMap.resolve symbol = .ok (Int32.ofInt asset.id) := by
  have named : lastOf (assets.map (·.entry)) symbol = some (Int32.ofInt asset.id) :=
    lastOf_map_eq_some_iff.mpr ⟨asset, last, rfl⟩
  rw [SymbolMap.resolve, registered symbol, named]
  rfl

theorem Registered.resolve_alias (registered : Registered tokens symbolMap assets pairs)
    {symbol : Bytes} {pair : SpotUniversePair} (unnamed : ∀ asset ∈ assets, asset.name ≠ symbol)
    (first : IsFirst (fun pair => IsAlias tokens pair symbol) pairs pair) :
    symbolMap.resolve symbol = .ok (Int32.ofInt (listedPair pair).id) := by
  have named : lastOf (assets.map (·.entry)) symbol = none := lastOf_map_eq_none_iff.mpr unnamed
  have claimed : (pairs.filterMap (aliasEntry tokens)).lookup symbol =
      some (Int32.ofInt (listedPair pair).id) := by
    rw [lookup_filterMap_eq_some_iff]
    simp only [aliasEntry_eq_some_iff, exists_and_left, exists_eq', and_true]
    obtain ⟨before, after, split, isAlias, others⟩ := first
    exact ⟨pair, ⟨before, after, split, isAlias, others⟩, isAlias, rfl⟩
  rw [SymbolMap.resolve, registered symbol, named, claimed]
  rfl

theorem Registered.resolve_unknown (registered : Registered tokens symbolMap assets pairs)
    {symbol : Bytes} (unnamed : ∀ asset ∈ assets, asset.name ≠ symbol)
    (unclaimed : ∀ pair ∈ pairs, ¬ IsAlias tokens pair symbol) :
    symbolMap.resolve symbol = .error (.invalidArgument (utf8 "Unknown symbol: " ++ symbol)) := by
  have named : lastOf (assets.map (·.entry)) symbol = none := lastOf_map_eq_none_iff.mpr unnamed
  have claimed : (pairs.filterMap (aliasEntry tokens)).lookup symbol = none :=
    lookup_filterMap_eq_none_iff.mpr fun pair member id entry =>
      unclaimed pair member (aliasEntry_eq_some_iff.mp entry).1
  rw [SymbolMap.resolve, registered symbol, named, claimed]
  rfl

end Loops

/-- After the three loops every listed asset and every alias is registered. -/
theorem registered_initializeMapping (config : ApiConfig) (responses : MappingResponses)
    (wallet : config.wallet.isSome) (listed : TokensListed responses.spotMeta.meta) :
    ∃ symbolMap, initializeMapping config responses [] = .ok symbolMap ∧
      Registered responses.spotMeta.meta.tokens symbolMap (listedAssets config responses)
        responses.spotMeta.meta.universe := by
  have start : Registered responses.spotMeta.meta.tokens [] [] [] := Reflects.nil
  have perps : Registered responses.spotMeta.meta.tokens
      (setUniverse (fun index => index) [] responses.defaultMeta.universe)
      (listedUniverse .perps 0 responses.defaultMeta.universe) [] :=
    start.setUniverse (by simp) responses.defaultMeta.universe
  obtain ⟨symbolMap, folded, spot⟩ :=
    registered_setPairs perps responses.spotMeta.meta.universe listed
  have unauthenticated : config.wallet.isNone = false := by
    rw [← Option.not_isSome, wallet]
    rfl
  unfold initializeMapping
  rw [unauthenticated, if_neg Bool.false_ne_true]
  simp only [folded, ok_bind]
  by_cases empty : config.dexes.isEmpty
  · rw [if_pos empty]
    refine ⟨symbolMap, rfl, ?_⟩
    have none : listedDexes config.dexes responses.dexMeta 0 responses.dexes.dexes = [] := by
      simp [listedDexes, List.isEmpty_iff.mp empty]
    rw [listedAssets, none, List.append_nil]
    exact spot
  · rw [if_neg empty]
    exact ⟨_, rfl, registered_setDexes spot config.dexes responses.dexMeta
      responses.dexes.dexes 0⟩

/-! ## The ids of the groups -/

/-- Each dex lists at most ten thousand assets, and the indexes of the pairs are below one
hundred thousand. -/
structure WithinRanges (config : ApiConfig) (responses : MappingResponses) : Prop where
  perps : responses.defaultMeta.universe.length ≤ 10000
  spot : ∀ pair ∈ responses.spotMeta.meta.universe,
    0 ≤ pair.index.toInt ∧ pair.index.toInt < 100000
  dexes : ∀ dex position, (dex, position) ∈ responses.dexes.dexes.zipIdx →
    dex.name ∈ config.dexes → (responses.dexMeta position).universe.length ≤ 10000

def AssetGroup.firstId : AssetGroup → Int
  | .perps => 0
  | .spot => 10000
  | .dex position => 100000 + 10000 * (position + 1)

def AssetGroup.lastId : AssetGroup → Int
  | .perps => 9999
  | .spot => 109999
  | .dex position => 109999 + 10000 * (position + 1)

theorem listedUniverse_id {group : AssetGroup} {first : Int} {metas : List AssetMeta}
    {asset : ListedAsset} (few : metas.length ≤ 10000)
    (listed : asset ∈ listedUniverse group first metas) :
    asset.group = group ∧ first ≤ asset.id ∧ asset.id ≤ first + 9999 := by
  obtain ⟨⟨source, position⟩, member, rfl⟩ := List.mem_map.mp listed
  have bound := (List.mem_zipIdx' member).1
  exact ⟨rfl, Int.le_add_of_nonneg_right (Int.natCast_nonneg position), by simp only; omega⟩

theorem listedAssets_id {config : ApiConfig} {responses : MappingResponses}
    (within : WithinRanges config responses) {asset : ListedAsset}
    (listed : asset ∈ listedAssets config responses) :
    asset.group.firstId ≤ asset.id ∧ asset.id ≤ asset.group.lastId := by
  rcases List.mem_append.mp listed with listed | dexAsset
  · rcases List.mem_append.mp listed with perp | spot
    · obtain ⟨group, low, high⟩ := listedUniverse_id within.perps perp
      rw [group]
      exact ⟨low, by simpa [AssetGroup.lastId] using high⟩
    · obtain ⟨pair, member, rfl⟩ := List.mem_map.mp spot
      obtain ⟨low, high⟩ := within.spot pair member
      simp only [listedPair, AssetGroup.firstId, AssetGroup.lastId]
      omega
  · obtain ⟨⟨dex, position⟩, member, found⟩ := List.mem_flatMap.mp dexAsset
    by_cases configured : dex.name ∈ config.dexes
    · simp only [if_pos configured] at found
      obtain ⟨group, low, high⟩ := listedUniverse_id (within.dexes dex position member configured)
        found
      rw [group]
      simp only [AssetGroup.firstId, AssetGroup.lastId]
      omega
    · simp [configured] at found

theorem firstId_lastId_disjoint {group other : AssetGroup} {id : Int} (differ : group ≠ other)
    (here : group.firstId ≤ id ∧ id ≤ group.lastId) :
    ¬ (other.firstId ≤ id ∧ id ≤ other.lastId) := by
  cases group with
  | perps =>
      cases other with
      | perps => exact (differ rfl).elim
      | spot => simp only [AssetGroup.firstId, AssetGroup.lastId] at *; omega
      | dex position => simp only [AssetGroup.firstId, AssetGroup.lastId] at *; omega
  | spot =>
      cases other with
      | perps => simp only [AssetGroup.firstId, AssetGroup.lastId] at *; omega
      | spot => exact (differ rfl).elim
      | dex position => simp only [AssetGroup.firstId, AssetGroup.lastId] at *; omega
  | dex position =>
      cases other with
      | perps => simp only [AssetGroup.firstId, AssetGroup.lastId] at *; omega
      | spot => simp only [AssetGroup.firstId, AssetGroup.lastId] at *; omega
      | dex another =>
          have positions : position ≠ another := fun same => differ (congrArg _ same)
          simp only [AssetGroup.firstId, AssetGroup.lastId] at *
          omega

/-- The ids that an `int` of the exchange's clients can hold. -/
def IsInt (id : Int) : Prop := -2 ^ 31 ≤ id ∧ id < 2 ^ 31

theorem ofInt_ne_of_ne {id other : Int} (fits : IsInt id) (otherFits : IsInt other)
    (differ : id ≠ other) : Int32.ofInt id ≠ Int32.ofInt other := by
  intro same
  have values := congrArg Int32.toInt same
  rw [Int32.toInt_ofInt_of_le fits.1 fits.2,
    Int32.toInt_ofInt_of_le otherFits.1 otherFits.2] at values
  exact differ values

/-- A symbol resolves to the last asset with this name, else to the first pair with this alias;
and assets of different groups have different ids. -/
theorem initializeMapping_resolves (config : ApiConfig) (responses : MappingResponses)
    (wallet : config.wallet.isSome) (tokensListed : TokensListed responses.spotMeta.meta) :
    ∃ symbolMap, initializeMapping config responses [] = .ok symbolMap ∧
      (∀ symbol asset,
        IsLast (fun asset => asset.name = symbol) (listedAssets config responses) asset →
        symbolMap.resolve symbol = .ok (Int32.ofInt asset.id)) ∧
      (∀ symbol pair, (∀ asset ∈ listedAssets config responses, asset.name ≠ symbol) →
        IsFirst (fun pair => IsAlias responses.spotMeta.meta.tokens pair symbol)
          responses.spotMeta.meta.universe pair →
        symbolMap.resolve symbol = .ok (Int32.ofInt (10000 + pair.index.toInt))) ∧
      (∀ symbol, (∀ asset ∈ listedAssets config responses, asset.name ≠ symbol) →
        (∀ pair ∈ responses.spotMeta.meta.universe,
          ¬ IsAlias responses.spotMeta.meta.tokens pair symbol) →
        symbolMap.resolve symbol =
          .error (.invalidArgument (utf8 "Unknown symbol: " ++ symbol))) ∧
      (WithinRanges config responses → ∀ asset ∈ listedAssets config responses,
        ∀ other ∈ listedAssets config responses, asset.group ≠ other.group →
        asset.id ≠ other.id ∧ (IsInt asset.id → IsInt other.id →
          Int32.ofInt asset.id ≠ Int32.ofInt other.id)) := by
  obtain ⟨symbolMap, built, registered⟩ :=
    registered_initializeMapping config responses wallet tokensListed
  refine ⟨symbolMap, built, ?_, ?_, ?_, ?_⟩
  · intro symbol asset last
    exact registered.resolve_name last
  · intro symbol pair unnamed first
    exact registered.resolve_alias unnamed first
  · intro symbol unnamed unclaimed
    exact registered.resolve_unknown unnamed unclaimed
  · intro within asset listed other otherListed differ
    have distinct : asset.id ≠ other.id := by
      intro same
      have here := listedAssets_id within otherListed
      rw [← same] at here
      exact firstId_lastId_disjoint differ (listedAssets_id within listed) here
    exact ⟨distinct, fun fits otherFits => ofInt_ne_of_ne fits otherFits distinct⟩

/-- A wallet and the second of two dexes. -/
def oneDexConfig : ApiConfig where
  env := .testnet
  wallet := some ⟨utf8 "0x1", utf8 "0x2"⟩
  dexes := [utf8 "xyz"]
  vaultAddress := none

def oneDexResponses : MappingResponses where
  defaultMeta := { «universe» := [{ name := utf8 "BTC" }] }
  spotMeta := { «meta» := {
    tokens := [{ name := utf8 "USDC", index := 0 }, { name := utf8 "PURR", index := 1 }]
    «universe» := [{ name := utf8 "PURR/USDC", tokens := [1, 0], index := 0 }] } }
  dexes := { dexes := [{ name := utf8 "flx" }, { name := utf8 "xyz" }] }
  dexMeta := fun _ => { «universe» := [{ name := utf8 "xyz:GOLD" }, { name := utf8 "xyz:OIL" }] }

theorem initializeMapping_resolves_oneDex :
    (∃ symbolMap, initializeMapping oneDexConfig oneDexResponses [] = .ok symbolMap ∧
      symbolMap.resolve (utf8 "xyz:OIL") = .ok 120001) ∧
    ∀ asset ∈ listedAssets oneDexConfig oneDexResponses,
      ∀ other ∈ listedAssets oneDexConfig oneDexResponses, asset.group ≠ other.group →
        asset.id ≠ other.id := by
  have tokensListed : TokensListed oneDexResponses.spotMeta.meta := by
    intro pair member base quote shape
    obtain rfl := List.mem_singleton.mp member
    obtain ⟨rfl, rfl⟩ : 1 = base ∧ 0 = quote := by simpa using shape
    decide
  have within : WithinRanges oneDexConfig oneDexResponses :=
    ⟨by decide, by simp [oneDexResponses], fun _ _ _ _ => show 2 ≤ 10000 by decide⟩
  obtain ⟨symbolMap, built, named, -, -, distinct⟩ :=
    initializeMapping_resolves oneDexConfig oneDexResponses rfl tokensListed
  refine ⟨⟨symbolMap, built, named (utf8 "xyz:OIL") ⟨utf8 "xyz:OIL", .dex 1, 120001⟩ ?_⟩, ?_⟩
  · exact ⟨(listedAssets oneDexConfig oneDexResponses).take 3, [], rfl, rfl, by simp⟩
  · intro asset listed other otherListed differ
    exact (distinct within asset listed other otherListed differ).1

end HyperliquidSdk.Messages
