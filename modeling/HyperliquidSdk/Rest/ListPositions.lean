import HyperliquidSdk.Foundation.ObjectSearch
import HyperliquidSdk.Rest.DecoderRuns
import HyperliquidSdk.Rest.ExchangeParsers
import HyperliquidSdk.Rest.MarketParsers

/-!
# Positions in lists

Asset ids and the outcomes of orders are positions in wire arrays. The decoders of these
lists stop at the first element that does not decode, so no position is ever shifted.
-/

set_option autoImplicit false

namespace HyperliquidSdk.Rest

open Foundation Foundation.OnDemand

variable {ρ : Type} (document : Bytes → Except Error Value)

/-! ## Places in a document -/

inductive Place where
  | key (name : String)
  | index (position : Nat)

/-- The path leads from the value to an array of these elements. -/
def ArrayAt : List Place → Value → List Value → Prop
  | [], value, elements => value.getArray = .ok elements
  | .key name :: path, value, elements =>
      ∃ object key member, value.getObject = .ok object ∧ (key, member) ∈ object ∧
        key.raw = utf8 name ∧ ArrayAt path member elements
  | .index position :: path, value, elements =>
      ∃ items member, value.getArray = .ok items ∧ items[position]? = some member ∧
        ArrayAt path member elements

/-- The message is a document with an array of these elements at the path. -/
def WireArray (message : Bytes) (path : List Place) (elements : List Value) : Prop :=
  ∃ value, document message = .ok value ∧ ArrayAt path value elements

/-- The results are decodings of the first elements of the array at the path, in order. Where
there is no such array, there are no results. -/
def Positional {α : Type} (message : Bytes) (path : List Place) (decoder : Value → Decoder ρ α)
    (results : List α) : Prop :=
  results = [] ∨ ∃ elements, WireArray document message path elements ∧
    DecodesPrefix (fun element result => Performs (decoder element) (.ok result)) elements results

theorem arrayAt_key {name : String} {path : List Place} {value member : Value}
    {object rest : Object} {elements : List Value} (isObject : value.getObject = .ok object)
    (found : object.find (utf8 name) = some (member, rest)) (inside : ArrayAt path member elements) :
    ArrayAt (.key name :: path) value elements := by
  obtain ⟨key, present, named⟩ := Object.find_mem found
  exact ⟨object, key, member, isObject, present, named, inside⟩

/-! ## Elements -/

theorem parseAssetMeta_onlyReads : OnlyReads (parseAssetMeta : Decoder ρ AssetMeta) :=
  .bind (.fieldOf _ "name") fun _ => .bind (.fieldOf _ "szDecimals") fun _ =>
    .bind (.fieldOf _ "maxLeverage") fun _ => .pure _

def assetMetaOf (element : Value) : Decoder ρ AssetMeta := do
  within (← element.getObject) parseAssetMeta

theorem assetMetaOf_standalone (element : Value) :
    Standalone (assetMetaOf element : Decoder ρ AssetMeta) :=
  .object element parseAssetMeta_onlyReads

theorem parsePair_onlyReads {α β : Type} (readFirst : Value → Except Error α)
    {readSecond : Value → Decoder ρ β} (reads : ∀ value, OnlyReads (readSecond value))
    (entry : Value) : OnlyReads (parsePair readFirst readSecond entry) := by
  unfold parsePair
  refine .bind (.read entry.getArray) fun items => ?_
  cases items with
  | nil => exact .pure none
  | cons first items =>
      refine .bind (.read (readFirst first)) fun _ => ?_
      cases items with
      | nil => exact .pure none
      | cons second _ => exact .bind (reads second) fun _ => .pure _

theorem parsePerpDex_onlyReads : OnlyReads (parsePerpDex : Decoder ρ PerpDex) := by
  have text (value : Value) : OnlyReads (liftM value.getString : Decoder ρ Bytes) := .read _
  unfold parsePerpDex
  exact .bind (.fieldOf _ "name") fun _ => .bind (.fieldOf _ "fullName") fun _ =>
    .bind (.fieldOf _ "deployer") fun _ =>
      .bind (.presentField "oracleUpdater") fun _ => .bind (.optional text _) fun _ =>
        .bind (.presentField "feeRecipient") fun _ => .bind (.optional text _) fun _ =>
          .bind (.fieldOf _ "assetToStreamingOiCap") fun _ =>
            .bind (.filterMapM (parsePair_onlyReads _ text) _) fun _ =>
              .bind (.fieldOf _ "assetToFundingMultiplier") fun _ =>
                .bind (.filterMapM (parsePair_onlyReads _ text) _) fun _ => .pure _

def perpDexOf (element : Value) : Decoder ρ PerpDex := do
  within (← element.getObject) parsePerpDex

theorem perpDexOf_standalone (element : Value) :
    Standalone (perpDexOf element : Decoder ρ PerpDex) :=
  .object element parsePerpDex_onlyReads

theorem parseMidPx_onlyReads : OnlyReads (parseMidPx : Decoder ρ (Bool × Double)) := by
  refine .bind (.optionalField _ "midPx") fun text => ?_
  cases text with
  | none => exact .pure _
  | some text => exact .bind (.toDouble text) fun _ => .pure _

theorem parsePerpAssetCtx_onlyReads (coin : Bytes) :
    OnlyReads (parsePerpAssetCtx coin : Decoder ρ PerpAssetCtx) :=
  .bind (.parseNumberField "dayNtlVlm") fun _ => .bind (.parseNumberField "prevDayPx") fun _ =>
    .bind (.parseNumberField "markPx") fun _ => .bind parseMidPx_onlyReads fun _ =>
      .bind (.parseNumberField "funding") fun _ => .bind (.parseNumberField "openInterest") fun _ =>
        .bind (.parseNumberField "oraclePx") fun _ => .pure _

/-- The context of an asset with the name. -/
def perpAssetCtxOf (coin : Bytes) (element : Value) : Decoder ρ PerpAssetCtx := do
  within (← element.getObject) (parsePerpAssetCtx coin)

theorem perpAssetCtxOf_standalone (coin : Bytes) (element : Value) :
    Standalone (perpAssetCtxOf coin element : Decoder ρ PerpAssetCtx) :=
  .object element (parsePerpAssetCtx_onlyReads coin)

theorem optionalCloid_onlyReads : OnlyReads (optionalCloid : Decoder ρ (Option Bytes)) :=
  .bind (.presentField "cloid") fun _ => .optional (fun _ => .read _) _

theorem parseOrderStatusResult_standalone (element : Value) :
    Standalone (parseOrderStatusResult element : Decoder ρ OrderStatusResult) := by
  have resting : OnlyReads (parseOrderStatusResting : Decoder ρ OrderStatusResting) :=
    .bind (.fieldOf _ "oid") fun _ => .bind optionalCloid_onlyReads fun _ => .pure _
  have filled : OnlyReads (parseOrderStatusFilled : Decoder ρ OrderStatusFilled) :=
    .bind (.fieldOf _ "totalSz") fun _ => .bind (.fieldOf _ "avgPx") fun _ =>
      .bind (.fieldOf _ "oid") fun _ => .bind optionalCloid_onlyReads fun _ => .pure _
  have restingOf (value : Value) := OnlyReads.bind (.read value.getObject) fun object =>
    OnlyReads.within object resting
  have filledOf (value : Value) := OnlyReads.bind (.read value.getObject) fun object =>
    OnlyReads.within object filled
  unfold parseOrderStatusResult
  refine .object element (.bind (.optionalField _ "resting") fun restingValue => ?_)
  refine .bind (.optional restingOf restingValue) fun resting => ?_
  refine .bind (.optionalField _ "filled") fun filledValue => ?_
  refine .bind (.optional filledOf filledValue) fun filled => ?_
  refine .bind (.optionalField _ "error") fun errorValue => ?_
  refine .bind (.optional (fun value => .read value.getString) errorValue) fun error => ?_
  exact .pure _

theorem parseCancelStatusResult_standalone (element : Value) :
    Standalone (parseCancelStatusResult element : Decoder ρ CancelStatusResult) := by
  unfold parseCancelStatusResult
  cases element with
  | string raw success => exact .pure _
  | object raw fields =>
      exact .within fields (.bind (.optionalField _ "error") fun _ =>
        .bind (.optional (fun _ => .read _) _) fun _ => .pure _)
  | null | boolean _ | number _ | array _ _ => exact .pure _

/-! ## Lists -/

variable {document} {message : Bytes}

/-- A list that is decoded from the array in a field. -/
theorem Ensures.listField {α : Type} {decoder : Value → Decoder ρ α} {push : α → ρ → ρ}
    {body : Value → Decoder ρ PUnit}
    (bodies : ∀ element, body element = decoder element >>= fun result => modifyThe ρ (push result))
    (alone : ∀ element, Standalone (decoder element)) (results : ρ → List α)
    (appends : ∀ result response, results (push result response) = results response ++ [result])
    {key : String} {path : List Place} {object : Object} {response : ρ}
    (start : results response = [])
    (located : ∀ member rest elements, object.find (utf8 key) = some (member, rest) →
      member.getArray = .ok elements → WireArray document message path elements) :
    Ensures (arrayField key >>= fun elements => elements.forM body) object response
      (fun after => Positional document message path decoder (results after))
      (fun _ _ after => Positional document message path decoder (results after)) := by
  refine .bind (.fieldOf (.inl start) fun member rest elements found isArray => ?_)
  have here := located member rest elements found isArray
  have loop := forM_prefix bodies alone results appends elements rest start
  refine loop.mono (fun _ decoded => ?_) (fun _ _ _ decoded => ?_)
  · exact .inr ⟨elements, here, decoded⟩
  · exact .inr ⟨elements, here, decoded⟩

theorem parseMeta_positional {response : MetaResponse}
    (returned : (parseMeta document message).run convert = .ok response) :
    Positional document message [.key "universe"] (assetMetaOf (ρ := MetaResponse))
      response.universe := by
  refine Ensures.of_parseDocument (fun response => Positional document message
    [.key "universe"] (assetMetaOf (ρ := MetaResponse)) response.universe)
    (.inl rfl) (fun value parsed => ?_) returned
  refine .bind (.read (.inl rfl) fun object isObject => .within ?_)
  refine Ensures.listField (fun element => ?_) assetMetaOf_standalone MetaResponse.universe
    (fun _ _ => rfl) rfl fun member rest elements found isArray =>
      ⟨value, parsed, arrayAt_key isObject found isArray⟩
  exact (bind_assoc _ _ _).symm

/-- The first element of the wire array is no element of the list. -/
theorem parsePerpDexs_positional {response : PerpDexsResponse}
    (returned : (parsePerpDexs document message).run convert = .ok response) :
    response.dexes = [] ∨ ∃ elements, WireArray document message [] elements ∧
      DecodesPrefix (fun element dex =>
        Performs (perpDexOf element : Decoder PerpDexsResponse PerpDex) (.ok dex))
        (elements.drop 1) response.dexes := by
  refine Ensures.of_parseDocument (fun response : PerpDexsResponse => response.dexes = [] ∨
    ∃ elements, WireArray document message [] elements ∧
      DecodesPrefix (fun element dex =>
        Performs (perpDexOf element : Decoder PerpDexsResponse PerpDex) (.ok dex))
        (elements.drop 1) response.dexes) (.inl rfl) (fun value parsed => ?_) returned
  refine .bind (.read (.inl rfl) fun elements isArray => ?_)
  have here : WireArray document message [] elements := ⟨value, parsed, isArray⟩
  refine Ensures.mono (Ensures.forM_prefix (fun element => ?bodies) perpDexOf_standalone
    PerpDexsResponse.dexes (fun _ _ => rfl) (elements.drop 1) [] rfl) ?_ ?_
  case bodies => exact (bind_assoc _ _ _).symm
  · exact fun _ decoded => .inr ⟨elements, here, decoded⟩
  · exact fun _ _ _ decoded => .inr ⟨elements, here, decoded⟩

/-! ## Statuses -/

/-- Where the statuses of a response with statuses are. -/
def statusesPath : List Place := [.key "response", .key "data", .key "statuses"]

theorem decodeStatuses_ensures {σ : Type} {setStatus setType : Bytes → ρ → ρ} {push : σ → ρ → ρ}
    {parseStatus : Value → Decoder ρ σ} (alone : ∀ element, Standalone (parseStatus element))
    (statuses : ρ → List σ)
    (keptByStatus : ∀ status response, statuses (setStatus status response) = statuses response)
    (keptByType : ∀ type response, statuses (setType type response) = statuses response)
    (appends : ∀ result response, statuses (push result response) = statuses response ++ [result])
    {value : Value} {object : Object} {response : ρ} (parsed : document message = .ok value)
    (isObject : value.getObject = .ok object) (start : statuses response = []) :
    Ensures (decodeStatuses setStatus setType push parseStatus) object response
      (fun after => Positional document message statusesPath parseStatus (statuses after))
      (fun _ _ after => Positional document message statusesPath parseStatus (statuses after)) := by
  unfold decodeStatuses
  refine .bind (.fieldOf (.inl start) fun statusMember afterStatus status foundStatus _ => ?_)
  refine .bind (.modify ?_)
  split
  case isTrue => exact .pure (.inl ((keptByStatus status response).trans start))
  case isFalse =>
    have empty : statuses (setStatus status response) = [] :=
      (keptByStatus status response).trans start
    refine .bind (.fieldOf (.inl empty) fun member rest inner found isInner => .within ?_)
    refine .bind (.fieldOf (.inl empty) fun typeMember afterType type foundType _ => ?_)
    refine .bind (.modify ?_)
    have stillEmpty : statuses (setType type (setStatus status response)) = [] :=
      (keptByType type _).trans empty
    split
    case isTrue => exact .pure (.inl stillEmpty)
    case isFalse =>
      refine .bind (.fieldOf (.inl stillEmpty) fun dataMember afterData data foundData isData =>
        .within ?_)
      refine Ensures.listField (fun _ => rfl) alone statuses appends stillEmpty
        fun list restData elements foundList isArray => ⟨value, parsed, ?_⟩
      obtain ⟨key, present, named⟩ := Object.find_mem found
      obtain ⟨dataKey, dataPresent, dataNamed⟩ := Object.find_mem foundData
      -- a search does not take a field away from the object
      exact ⟨object, key, member, isObject, (Object.find_perm foundStatus).subset present, named,
        inner, dataKey, dataMember, isInner, (Object.find_perm foundType).subset dataPresent,
        dataNamed, arrayAt_key isData foundList isArray⟩

/-- The statuses of any such response. -/
theorem parseStatuses_positional {σ : Type} {setStatus setType : Bytes → ρ → ρ} {push : σ → ρ → ρ}
    {parseStatus : Value → Decoder ρ σ} {initial response : ρ}
    (returned : (parseDocument document initial message fun doc => do
      within (← doc.getObject) (decodeStatuses setStatus setType push parseStatus)).run convert =
        .ok response)
    (alone : ∀ element, Standalone (parseStatus element)) (statuses : ρ → List σ)
    (keptByStatus : ∀ status response, statuses (setStatus status response) = statuses response)
    (keptByType : ∀ type response, statuses (setType type response) = statuses response)
    (appends : ∀ result response, statuses (push result response) = statuses response ++ [result])
    (start : statuses initial = []) :
    Positional document message statusesPath parseStatus (statuses response) := by
  refine Ensures.of_parseDocument (fun response => Positional document message statusesPath
    parseStatus (statuses response)) (.inl start) (fun value parsed => ?_) returned
  refine .bind (.read (.inl start) fun object isObject => .within ?_)
  exact decodeStatuses_ensures alone statuses keptByStatus keptByType appends parsed isObject start

theorem parsePlaceOrder_positional {response : PlaceOrderResponse}
    (returned : (parsePlaceOrder document message).run convert = .ok response) :
    Positional document message statusesPath
      (parseOrderStatusResult (ρ := PlaceOrderResponse)) response.statuses :=
  parseStatuses_positional returned parseOrderStatusResult_standalone PlaceOrderResponse.statuses
    (fun _ _ => rfl) (fun _ _ => rfl) (fun _ _ => rfl) rfl

theorem parseModifyOrder_positional {response : ModifyOrderResponse}
    (returned : (parseModifyOrder document message).run convert = .ok response) :
    Positional document message statusesPath
      (parseOrderStatusResult (ρ := ModifyOrderResponse)) response.statuses :=
  parseStatuses_positional returned parseOrderStatusResult_standalone ModifyOrderResponse.statuses
    (fun _ _ => rfl) (fun _ _ => rfl) (fun _ _ => rfl) rfl

theorem parseCancelOrder_positional {response : CancelOrderResponse}
    (returned : (parseCancelOrder document message).run convert = .ok response) :
    Positional document message statusesPath
      (parseCancelStatusResult (ρ := CancelOrderResponse)) response.statuses :=
  parseStatuses_positional returned parseCancelStatusResult_standalone CancelOrderResponse.statuses
    (fun _ _ => rfl) (fun _ _ => rfl) (fun _ _ => rfl) rfl

/-! ## Contexts -/

/-- The name that a context at the position gets. -/
def nameAt («universe» : List AssetMeta) (position : Nat) : Bytes :=
  ((«universe»[position]?).map AssetMeta.name).getD []

/-- The contexts decode the first elements, each with the name at its own position. -/
def NamedContexts («universe» : List AssetMeta) (elements : List Value)
    (contexts : List PerpAssetCtx) : Prop :=
  DecodesPrefix (fun (element : Value × Nat) context =>
    Performs (perpAssetCtxOf (nameAt «universe» element.2) element.1 :
      Decoder MetaAndAssetCtxsResponse PerpAssetCtx) (.ok context)) elements.zipIdx contexts

/-- What holds of a response to a request for the metadata and the contexts. -/
structure MetaPositions (document : Bytes → Except Error Value) (message : Bytes)
    (response : MetaAndAssetCtxsResponse) : Prop where
  universe_positional : Positional document message [.index 0, .key "universe"]
    (assetMetaOf (ρ := MetaAndAssetCtxsResponse)) response.meta.universe
  contexts_positional : response.assetCtxs = [] ∨
    ∃ elements, WireArray document message [.index 1] elements ∧
      NamedContexts response.meta.universe elements response.assetCtxs

/-- The loop over the contexts leaves the assets as they are. -/
theorem contextLoop_ensures {body : Value × Nat → Decoder MetaAndAssetCtxsResponse PUnit}
    (bodies : ∀ element, body element = do
      let object ← element.1.getObject
      let «universe» := (← getThe MetaAndAssetCtxsResponse).«meta».universe
      let ctx ← within object (parsePerpAssetCtx (nameAt «universe» element.2))
      modifyThe MetaAndAssetCtxsResponse fun response =>
        { response with assetCtxs := response.assetCtxs ++ [ctx] })
    (elements : List (Value × Nat)) (object : Object) {response : MetaAndAssetCtxsResponse}
    (start : response.assetCtxs = []) :
    Ensures (elements.forM body) object response
      (fun after => ∃ contexts, DecodesPrefix (fun (element : Value × Nat) context =>
          Performs (perpAssetCtxOf (nameAt response.«meta».universe element.2) element.1 :
            Decoder MetaAndAssetCtxsResponse PerpAssetCtx) (.ok context)) elements contexts ∧
        after.«meta» = response.«meta» ∧ after.assetCtxs = contexts)
      (fun _ _ after => ∃ contexts, DecodesPrefix (fun (element : Value × Nat) context =>
          Performs (perpAssetCtxOf (nameAt response.«meta».universe element.2) element.1 :
            Decoder MetaAndAssetCtxsResponse PerpAssetCtx) (.ok context)) elements contexts ∧
        after.«meta» = response.«meta» ∧ after.assetCtxs = contexts) := by
  refine (Ensures.forM (fun (element : Value × Nat) context =>
      Performs (perpAssetCtxOf (nameAt response.«meta».universe element.2) element.1 :
        Decoder MetaAndAssetCtxsResponse PerpAssetCtx) (.ok context))
    (fun contexts (after : MetaAndAssetCtxsResponse) =>
      after.«meta» = response.«meta» ∧ after.assetCtxs = contexts) ?_ elements []
      ⟨rfl, start⟩).mono (fun after ended => ended) fun _ _ after ended => ?_
  · intro element contexts object middle holds
    rw [bodies]
    refine .bind (.read holds fun fields isObject => .bind (.state ?_))
    have alone := perpAssetCtxOf_standalone (ρ := MetaAndAssetCtxsResponse)
      (nameAt middle.«meta».universe element.2) element.1
    have same : (perpAssetCtxOf (nameAt middle.«meta».universe element.2) element.1 :
        Decoder MetaAndAssetCtxsResponse PerpAssetCtx) =
          within fields (parsePerpAssetCtx (nameAt middle.«meta».universe element.2)) := by
      unfold perpAssetCtxOf
      rw [isObject]
      rfl
    rw [same] at alone
    refine .bind (alone.ensures holds fun context performs => .modify ⟨rfl, context, ?_, ?_⟩)
    · rw [← holds.1, same]
      exact performs
    · exact ⟨holds.1, congrArg (· ++ [context]) holds.2⟩
  · obtain ⟨-, contexts, decoded, holds⟩ := ended
    exact ⟨contexts, .of_forall₂ decoded, holds⟩

theorem parseMetaAndAssetCtxs_positional {response : MetaAndAssetCtxsResponse}
    (returned : (parseMetaAndAssetCtxs document message).run convert = .ok response) :
    MetaPositions document message response := by
  refine Ensures.of_parseDocument (MetaPositions document message)
    ⟨.inl rfl, .inl rfl⟩ (fun value parsed => ?_) returned
  refine .bind (.read ⟨.inl rfl, .inl rfl⟩ fun items isArray => ?_)
  cases items with
  | nil => exact .pure ⟨.inl rfl, .inl rfl⟩
  | cons metaValue rest =>
      refine .bind (.read ⟨.inl rfl, .inl rfl⟩ fun object isObject => ?_)
      refine .bind (.within (.bind (.fieldOf ⟨.inl rfl, .inl rfl⟩
        fun member afterUniverse entries found isEntries => ?_)))
      have located : WireArray document message [.index 0, .key "universe"] entries :=
        ⟨value, parsed, _, _, isArray, rfl, arrayAt_key isObject found isEntries⟩
      have loop := Ensures.forM_append assetMetaOf
        (fun asset (response : MetaAndAssetCtxsResponse) =>
          { response with «meta».«universe» := response.«meta».universe ++ [asset] })
        (fun _ => (bind_assoc _ _ _).symm) assetMetaOf_standalone
        (fun response => response.«meta».universe) MetaAndAssetCtxsResponse.assetCtxs
        (fun _ _ => rfl) (fun _ _ => rfl) entries afterUniverse {}
      refine loop.mono ?_ ?_
      · intro after ended
        obtain ⟨assets, decoded, same, empty⟩ := ended
        exact ⟨.inr ⟨entries, located, same ▸ decoded⟩, .inl empty⟩
      · intro _ _ middle ended
        obtain ⟨-, assets, decoded, same, empty⟩ := ended
        have positional : Positional document message [.index 0, .key "universe"]
            (assetMetaOf (ρ := MetaAndAssetCtxsResponse)) middle.«meta».universe :=
          .inr ⟨entries, located, .of_forall₂ (same ▸ decoded)⟩
        cases rest with
        | nil => exact .pure ⟨positional, .inl empty⟩
        | cons ctxs others =>
            refine .bind (.read ⟨positional, .inl empty⟩ fun elements isContexts => ?_)
            have here : WireArray document message [.index 1] elements :=
              ⟨value, parsed, _, _, isArray, rfl, isContexts⟩
            have holds (after : MetaAndAssetCtxsResponse) (ended : ∃ contexts,
                NamedContexts middle.«meta».universe elements contexts ∧
                  after.«meta» = middle.«meta» ∧ after.assetCtxs = contexts) :
                MetaPositions document message after := by
              obtain ⟨contexts, decoded, sameMeta, rfl⟩ := ended
              exact ⟨sameMeta ▸ positional, .inr ⟨elements, here, sameMeta ▸ decoded⟩⟩
            exact (contextLoop_ensures (fun _ => rfl) elements.zipIdx [] empty).mono holds
              fun _ _ after ended => holds after ended

theorem parsePerpAssetCtx_coin (coin : Bytes) (object : Object) (response : ρ) :
    Ensures (parsePerpAssetCtx coin : Decoder ρ PerpAssetCtx) object response (fun _ => True)
      fun context _ _ => context.coin = coin := by
  unfold parsePerpAssetCtx
  exact .anyway fun _ _ _ => .anyway fun _ _ _ => .anyway fun _ _ _ => .anyway fun _ _ _ =>
    .anyway fun _ _ _ => .anyway fun _ _ _ => .anyway fun _ _ _ => .pure rfl

theorem perpAssetCtxOf_coin {coin : Bytes} {element : Value} {context : PerpAssetCtx}
    (performs : Performs (perpAssetCtxOf coin element :
      Decoder MetaAndAssetCtxsResponse PerpAssetCtx) (.ok context)) : context.coin = coin := by
  have ensures : Ensures (perpAssetCtxOf coin element) [] ({} : MetaAndAssetCtxsResponse)
      (fun _ => True) fun context _ _ => context.coin = coin :=
    .bind (.read trivial fun object _ => .within (parsePerpAssetCtx_coin coin object _))
  exact ensures.finished (performs [] {})

/-- Each context carries the name of the asset at its own position. -/
theorem NamedContexts.coin_eq {«universe» : List AssetMeta} {elements : List Value}
    {contexts : List PerpAssetCtx} (named : NamedContexts «universe» elements contexts)
    {position : Nat} {context : PerpAssetCtx} (found : contexts[position]? = some context) :
    context.coin = nameAt «universe» position := by
  obtain ⟨element, isElement, performs⟩ := named.get found
  rw [List.getElem?_zipIdx] at isElement
  obtain ⟨entry, -, rfl⟩ := Option.map_eq_some_iff.mp isElement
  rw [perpAssetCtxOf_coin performs, Nat.zero_add]

/-- The lists of all these responses are decodings of a prefix of their wire arrays. -/
theorem lists_keep_positions (document : Bytes → Except Error Value) (message : Bytes) :
    (∀ response, (parseMeta document message).run convert = .ok response →
      Positional document message [.key "universe"] (assetMetaOf (ρ := MetaResponse))
        response.universe) ∧
    (∀ response, (parseMetaAndAssetCtxs document message).run convert = .ok response →
      Positional document message [.index 0, .key "universe"]
        (assetMetaOf (ρ := MetaAndAssetCtxsResponse)) response.«meta».universe ∧
      (response.assetCtxs = [] ∨ ∃ elements, WireArray document message [.index 1] elements ∧
        DecodesPrefix (fun element context => ∃ coin,
          Performs (perpAssetCtxOf coin element : Decoder MetaAndAssetCtxsResponse PerpAssetCtx)
            (.ok context)) elements response.assetCtxs) ∧
      ∀ position context, response.assetCtxs[position]? = some context →
        context.coin = nameAt response.«meta».universe position) ∧
    (∀ response, (parsePerpDexs document message).run convert = .ok response →
      response.dexes = [] ∨ ∃ elements, WireArray document message [] elements ∧
        DecodesPrefix (fun element dex =>
          Performs (perpDexOf element : Decoder PerpDexsResponse PerpDex) (.ok dex))
          (elements.drop 1) response.dexes) ∧
    (∀ response, (parsePlaceOrder document message).run convert = .ok response →
      Positional document message statusesPath
        (parseOrderStatusResult (ρ := PlaceOrderResponse)) response.statuses) ∧
    (∀ response, (parseModifyOrder document message).run convert = .ok response →
      Positional document message statusesPath
        (parseOrderStatusResult (ρ := ModifyOrderResponse)) response.statuses) ∧
    (∀ response, (parseCancelOrder document message).run convert = .ok response →
      Positional document message statusesPath
        (parseCancelStatusResult (ρ := CancelOrderResponse)) response.statuses) := by
  refine ⟨fun _ => parseMeta_positional, fun response returned => ?_,
    fun _ => parsePerpDexs_positional, fun _ => parsePlaceOrder_positional,
    fun _ => parseModifyOrder_positional, fun _ => parseCancelOrder_positional⟩
  have positions := parseMetaAndAssetCtxs_positional returned
  refine ⟨positions.universe_positional, ?_, ?_⟩
  · rcases positions.contexts_positional with empty | ⟨elements, located, named⟩
    · exact .inl empty
    · refine .inr ⟨elements, located, ?_⟩
      have decoded := named.map Prod.fst (fun element context => ∃ coin,
        Performs (perpAssetCtxOf coin element : Decoder MetaAndAssetCtxsResponse PerpAssetCtx)
          (.ok context)) fun element context performs => ⟨_, performs⟩
      rwa [List.zipIdx_map_fst] at decoded
  · intro position context found
    rcases positions.contexts_positional with empty | ⟨elements, located, named⟩
    · rw [empty] at found
      cases found
    · exact named.coin_eq found

/-- An asset of a universe, and a context. -/
def listedAsset (name : String) : Value :=
  .ofMembers [("name", .ofText name), ("szDecimals", .number (utf8 "5")),
    ("maxLeverage", .number (utf8 "40"))]

def listedContext : Value :=
  .ofMembers [("dayNtlVlm", .ofText "1"), ("prevDayPx", .ofText "1"), ("markPx", .ofText "1"),
    ("midPx", .null), ("funding", .ofText "1"), ("openInterest", .ofText "1"),
    ("oraclePx", .ofText "1")]

/-- A universe whose third element is no asset. -/
def brokenUniverse : Value :=
  .ofMembers [("universe",
    .ofItems [listedAsset "BTC", listedAsset "ETH", .null, listedAsset "SOL"])]

/-- Three assets, with two contexts and an element that is none. -/
def brokenContexts : Value :=
  .ofItems [
    .ofMembers [("universe",
      .ofItems [listedAsset "BTC", listedAsset "ETH", listedAsset "SOL"])],
    .ofItems [listedContext, listedContext, .null, listedContext]]

theorem lists_keep_positions_broken :
    (∃ response,
      (parseMeta (recorded [brokenUniverse]) brokenUniverse.toJsonString).run convert =
        .ok response ∧
      response.universe.map AssetMeta.name = [utf8 "BTC", utf8 "ETH"] ∧
      Positional (recorded [brokenUniverse]) brokenUniverse.toJsonString [.key "universe"]
        (assetMetaOf (ρ := MetaResponse)) response.universe) ∧
    ∃ response,
      (parseMetaAndAssetCtxs (recorded [brokenContexts]) brokenContexts.toJsonString).run convert =
        .ok response ∧
      response.«meta».universe.map AssetMeta.name = [utf8 "BTC", utf8 "ETH", utf8 "SOL"] ∧
      response.assetCtxs.map PerpAssetCtx.coin = [utf8 "BTC", utf8 "ETH"] ∧
      ∀ position context, response.assetCtxs[position]? = some context →
        context.coin = nameAt response.«meta».universe position := by
  have universes := (lists_keep_positions (recorded [brokenUniverse])
    brokenUniverse.toJsonString).1
  have contexts := (lists_keep_positions (recorded [brokenContexts])
    brokenContexts.toJsonString).2.1
  have names : ((parseMeta (recorded [brokenUniverse]) brokenUniverse.toJsonString).run
      convert).map (fun response => response.universe.map AssetMeta.name) =
      .ok [utf8 "BTC", utf8 "ETH"] := by
    decide +kernel
  have coins : ((parseMetaAndAssetCtxs (recorded [brokenContexts])
      brokenContexts.toJsonString).run convert).map (fun response =>
        (response.«meta».universe.map AssetMeta.name, response.assetCtxs.map PerpAssetCtx.coin)) =
      .ok ([utf8 "BTC", utf8 "ETH", utf8 "SOL"], [utf8 "BTC", utf8 "ETH"]) := by
    decide +kernel
  constructor
  · cases returned : (parseMeta (recorded [brokenUniverse])
        brokenUniverse.toJsonString).run convert with
    | error exception =>
        rw [returned] at names
        cases names
    | ok response =>
        rw [returned] at names
        exact ⟨response, rfl, Except.ok.inj names, universes response returned⟩
  · cases returned : (parseMetaAndAssetCtxs (recorded [brokenContexts])
        brokenContexts.toJsonString).run convert with
    | error exception =>
        rw [returned] at coins
        cases coins
    | ok response =>
        rw [returned] at coins
        obtain ⟨assets, named⟩ := Prod.mk.inj (Except.ok.inj coins)
        exact ⟨response, rfl, assets, named, (contexts response returned).2.2⟩

end HyperliquidSdk.Rest
