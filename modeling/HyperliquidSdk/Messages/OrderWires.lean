import HyperliquidSdk.Foundation.Traversal
import HyperliquidSdk.Messages.ExchangeRequestBuilder

/-!
# Order wires

When `placeOrder`, `modifyOrder` and `batchModifyOrder` emit one complete wire for each
request: a request without an order type and a request with two are not refused.
-/

set_option autoImplicit false

namespace HyperliquidSdk.Messages

open Foundation

/-- The type of an order as the wire has to hold it, when the request asks for one type. -/
inductive RequestedType (order : OrderRequest) : Json → Prop where
  | limit (limit : LimitOrderType) : order.limit = some limit → order.trigger = none →
      RequestedType order (.object [("limit", .object [("tif", .text limit.tif.toString)])])
  | trigger (trigger : TriggerOrderType) (triggerPx : Bytes) : order.limit = none →
      order.trigger = some trigger → floatToWire trigger.triggerPx = .ok triggerPx →
      RequestedType order (.object [("trigger", .object [("isMarket", .boolean trigger.isMarket),
        ("triggerPx", .string triggerPx), ("tpsl", .text trigger.tpsl.toString)])])

/-- The wire of an order with all its keys, in the order in which they are hashed. -/
def CompleteWire (symbolMap : SymbolMap) (order : OrderRequest) (wire : Json) : Prop :=
  ∃ a p s t, assetOf symbolMap order.assetId order.asset = .ok a ∧
    floatToWire order.price = .ok p ∧ floatToWire order.size = .ok s ∧ RequestedType order t ∧
    wire = .object ([("a", a), ("b", .boolean order.isBuy), ("p", .string p), ("s", .string s),
      ("r", .boolean order.reduceOnly), ("t", t)] ++ optionalMember "c" (order.cloid.map .string))

/-- The request asks for a limit or a trigger and not for both. -/
def HasOneType (order : OrderRequest) : Prop := order.limit.isSome ≠ order.trigger.isSome

/-- The builder of the wire throws: the symbol is unknown or a number has too many decimals. -/
def Refused (symbolMap : SymbolMap) (order : OrderRequest) : Prop :=
  Throws (assetOf symbolMap order.assetId order.asset) ∨ Throws (floatToWire order.price) ∨
    Throws (floatToWire order.size) ∨
    order.limit = none ∧ ∃ trigger, order.trigger = some trigger ∧
      Throws (floatToWire trigger.triggerPx)

theorem throws_orderType_iff (order : OrderRequest) :
    Throws (orderType order) ↔ order.limit = none ∧ ∃ trigger, order.trigger = some trigger ∧
      Throws (floatToWire trigger.triggerPx) := by
  unfold orderType
  cases limited : order.limit with
  | some limit => exact iff_of_false not_throws_ok (by simp)
  | none =>
      cases triggered : order.trigger with
      | none => exact iff_of_false not_throws_ok (by simp)
      | some trigger =>
          simp only [throws_bind_iff, true_and, Option.some.injEq, exists_eq_left']
          constructor
          · rintro (thrown | ⟨triggerPx, -, absurd⟩)
            · exact thrown
            · exact (not_throws_ok absurd).elim
          · exact .inl

theorem throws_buildOrderWire_iff (symbolMap : SymbolMap) (order : OrderRequest) :
    Throws (buildOrderWire symbolMap order) ↔ Refused symbolMap order := by
  unfold buildOrderWire Refused
  rw [← throws_orderType_iff]
  constructor
  · intro thrown
    rcases throws_bind_iff.mp thrown with failed | ⟨a, -, thrown⟩
    · exact .inl failed
    rcases throws_bind_iff.mp thrown with failed | ⟨p, -, thrown⟩
    · exact .inr (.inl failed)
    rcases throws_bind_iff.mp thrown with failed | ⟨s, -, thrown⟩
    · exact .inr (.inr (.inl failed))
    rcases throws_bind_iff.mp thrown with failed | ⟨t, -, absurd⟩
    · exact .inr (.inr (.inr failed))
    · exact (not_throws_ok absurd).elim
  · intro refused
    by_contra returns
    obtain ⟨wire, built⟩ := not_throws_iff.mp returns
    obtain ⟨a, asset, built⟩ := bind_eq_ok built
    obtain ⟨p, price, built⟩ := bind_eq_ok built
    obtain ⟨s, size, built⟩ := bind_eq_ok built
    obtain ⟨t, type, built⟩ := bind_eq_ok built
    rcases refused with failed | failed | failed | failed
    · exact not_throws_iff.mpr ⟨a, asset⟩ failed
    · exact not_throws_iff.mpr ⟨p, price⟩ failed
    · exact not_throws_iff.mpr ⟨s, size⟩ failed
    · exact not_throws_iff.mpr ⟨t, type⟩ failed

theorem RequestedType.hasOneType {order : OrderRequest} {t : Json}
    (requested : RequestedType order t) : HasOneType order := by
  cases requested with
  | limit limit limited triggered => simp [HasOneType, limited, triggered]
  | trigger trigger triggerPx limited triggered => simp [HasOneType, limited, triggered]

/-- With one type the wire has it; without a type or with two no wire would be right. -/
theorem buildOrderWire_complete_iff {symbolMap : SymbolMap} {order : OrderRequest} {wire : Json}
    (built : buildOrderWire symbolMap order = .ok wire) :
    CompleteWire symbolMap order wire ↔ HasOneType order := by
  obtain ⟨a, asset, built⟩ := bind_eq_ok built
  obtain ⟨p, price, built⟩ := bind_eq_ok built
  obtain ⟨s, size, built⟩ := bind_eq_ok built
  obtain ⟨t, type, built⟩ := bind_eq_ok built
  obtain rfl := Except.ok.inj built
  constructor
  · rintro ⟨_, _, _, requested, _, _, _, asked, _⟩
    exact asked.hasOneType
  · intro one
    unfold orderType at type
    cases limited : order.limit with
    | some limit =>
        have triggered : order.trigger = none := by
          simpa [HasOneType, limited] using one
        rw [limited] at type
        obtain rfl := Except.ok.inj type
        exact ⟨a, p, s, _, asset, price, size, .limit limit limited triggered, rfl⟩
    | none =>
        cases triggered : order.trigger with
        | none => simp [HasOneType, limited, triggered] at one
        | some trigger =>
            rw [limited, triggered] at type
            obtain ⟨triggerPx, formatted, type⟩ := bind_eq_ok type
            obtain rfl := Except.ok.inj type
            exact ⟨a, p, s, _, asset, price, size,
              .trigger trigger triggerPx limited triggered formatted, rfl⟩

/-! ## The three requests -/

/-- The action has one complete wire for each order, in the same order. -/
def EmitsOrders (symbolMap : SymbolMap) (orders : List OrderRequest) (built : Json) : Prop :=
  ∃ action wires, built.member? "action" = some action ∧
    action.member? "orders" = some (.array wires) ∧
    List.Forall₂ (CompleteWire symbolMap) orders wires

/-- The modified order of an item. -/
def ItemComplete (symbolMap : SymbolMap) (modify : ModifyRequest) (item : Json) : Prop :=
  ∃ wire, item.member? "order" = some wire ∧ CompleteWire symbolMap modify.order wire

def EmitsModify (symbolMap : SymbolMap) (modify : ModifyRequest) (built : Json) : Prop :=
  ∃ action, built.member? "action" = some action ∧ ItemComplete symbolMap modify action

def EmitsModifies (symbolMap : SymbolMap) (modifies : List ModifyRequest) (built : Json) : Prop :=
  ∃ action items, built.member? "action" = some action ∧
    action.member? "modifies" = some (.array items) ∧
    List.Forall₂ (ItemComplete symbolMap) modifies items

def ModifyRefused (symbolMap : SymbolMap) (modify : ModifyRequest) : Prop :=
  Throws (modifyOid modify) ∨ Refused symbolMap modify.order

/-- A builder throws or returns an action that is as it should be. -/
def ThrowsOrEmits (computation : Result Json) (emits : Json → Prop) : Prop :=
  Throws computation ∨ ∃ built, computation = .ok built ∧ emits built

theorem throwsOrEmits_iff {computation : Result Json} {emits : Json → Prop}
    {refused complete : Prop} (throws : Throws computation ↔ refused)
    (returns : ∀ built, computation = .ok built → (emits built ↔ complete)) :
    ThrowsOrEmits computation emits ↔ refused ∨ complete := by
  unfold ThrowsOrEmits
  rw [throws]
  by_cases thrown : refused
  · simp [thrown]
  · obtain ⟨built, returned⟩ := not_throws_iff.mp (throws.not.mpr thrown)
    rw [or_iff_right thrown, or_iff_right thrown, ← returns built returned]
    constructor
    · rintro ⟨other, equal, emitted⟩
      rw [returned] at equal
      exact Except.ok.inj equal ▸ emitted
    · intro emitted
      exact ⟨built, returned, emitted⟩

theorem forall₂_iff_of_forall₂ {α : Type} {build : α → Result Json} {complete : α → Json → Prop}
    {wanted : α → Prop} {elements : List α} {results : List Json}
    (each : ∀ element result, build element = .ok result →
      (complete element result ↔ wanted element))
    (built : List.Forall₂ (fun element result => build element = .ok result) elements results) :
    List.Forall₂ complete elements results ↔ ∀ element ∈ elements, wanted element := by
  induction built with
  | nil => simp
  | cons first following ih =>
      rw [List.forall₂_cons, List.forall_mem_cons, each _ _ first, ih]

theorem placeOrder_iff (symbolMap : SymbolMap) (orders : List OrderRequest) (grouping : Grouping)
    (builder : Option Builder) :
    ThrowsOrEmits (placeOrder symbolMap orders grouping builder) (EmitsOrders symbolMap orders) ↔
      (∃ order ∈ orders, Refused symbolMap order) ∨ ∀ order ∈ orders, HasOneType order := by
  apply throwsOrEmits_iff
  · unfold placeOrder
    simp only [throws_bind_iff, throws_mapM_iff, throws_buildOrderWire_iff]
    constructor
    · rintro (refused | ⟨wires, -, absurd⟩)
      · exact refused
      · exact (not_throws_ok absurd).elim
    · exact .inl
  · intro built returned
    obtain ⟨wires, traversed, returned⟩ := bind_eq_ok returned
    obtain rfl := Except.ok.inj returned
    have complete : List.Forall₂ (CompleteWire symbolMap) orders wires ↔
        ∀ order ∈ orders, HasOneType order :=
      forall₂_iff_of_forall₂ (fun order wire => buildOrderWire_complete_iff)
        (mapM_eq_ok_iff.mp traversed)
    rw [← complete]
    constructor
    · rintro ⟨action, others, found, member, complete⟩
      obtain rfl := Option.some.inj found
      obtain rfl : wires = others := by injection Option.some.inj member
      exact complete
    · intro complete
      exact ⟨_, wires, rfl, rfl, complete⟩

theorem throws_modify_iff {symbolMap : SymbolMap} {modify : ModifyRequest}
    (emit : Json → Json → Json) :
    Throws (do
      let oid ← modifyOid modify
      let order ← buildOrderWire symbolMap modify.order
      return emit oid order) ↔ ModifyRefused symbolMap modify := by
  unfold ModifyRefused
  rw [← throws_buildOrderWire_iff]
  constructor
  · intro thrown
    rcases throws_bind_iff.mp thrown with failed | ⟨oid, -, thrown⟩
    · exact .inl failed
    rcases throws_bind_iff.mp thrown with failed | ⟨order, -, absurd⟩
    · exact .inr failed
    · exact (not_throws_ok absurd).elim
  · intro refused
    by_contra returns
    obtain ⟨built, returned⟩ := not_throws_iff.mp returns
    obtain ⟨oid, identified, returned⟩ := bind_eq_ok returned
    obtain ⟨wire, ordered, returned⟩ := bind_eq_ok returned
    rcases refused with failed | failed
    · exact not_throws_iff.mpr ⟨oid, identified⟩ failed
    · exact not_throws_iff.mpr ⟨wire, ordered⟩ failed

theorem itemComplete_iff {symbolMap : SymbolMap} {modify : ModifyRequest} {item wire : Json}
    (built : buildOrderWire symbolMap modify.order = .ok wire)
    (member : item.member? "order" = some wire) :
    ItemComplete symbolMap modify item ↔ HasOneType modify.order := by
  rw [← buildOrderWire_complete_iff built]
  constructor
  · rintro ⟨other, found, complete⟩
    rw [member] at found
    exact Option.some.inj found ▸ complete
  · intro complete
    exact ⟨wire, member, complete⟩

theorem modifyOrder_iff (symbolMap : SymbolMap) (modify : ModifyRequest) :
    ThrowsOrEmits (modifyOrder symbolMap modify) (EmitsModify symbolMap modify) ↔
      ModifyRefused symbolMap modify ∨ HasOneType modify.order := by
  apply throwsOrEmits_iff
  · exact throws_modify_iff _
  · intro built returned
    obtain ⟨oid, -, returned⟩ := bind_eq_ok returned
    obtain ⟨wire, ordered, returned⟩ := bind_eq_ok returned
    obtain rfl := Except.ok.inj returned
    have complete : ItemComplete symbolMap modify (.object [("type", .text "modify"),
        ("oid", oid), ("order", wire)]) ↔ HasOneType modify.order :=
      itemComplete_iff ordered rfl
    rw [← complete]
    constructor
    · rintro ⟨action, found, complete⟩
      obtain rfl := Option.some.inj found
      exact complete
    · intro complete
      exact ⟨_, rfl, complete⟩

theorem batchModifyOrder_iff (symbolMap : SymbolMap) (modifies : List ModifyRequest) :
    ThrowsOrEmits (batchModifyOrder symbolMap modifies) (EmitsModifies symbolMap modifies) ↔
      (∃ modify ∈ modifies, ModifyRefused symbolMap modify) ∨
        ∀ modify ∈ modifies, HasOneType modify.order := by
  apply throwsOrEmits_iff
  · unfold batchModifyOrder
    rw [throws_bind_iff, throws_mapM_iff]
    simp only [throws_modify_iff]
    constructor
    · rintro (refused | ⟨items, -, absurd⟩)
      · exact refused
      · exact (not_throws_ok absurd).elim
    · exact .inl
  · intro built returned
    obtain ⟨items, traversed, returned⟩ := bind_eq_ok returned
    obtain rfl := Except.ok.inj returned
    have item : ∀ modify result, (do
        let oid ← modifyOid modify
        let order ← buildOrderWire symbolMap modify.order
        return Json.object [("oid", oid), ("order", order)]) = .ok result →
        (ItemComplete symbolMap modify result ↔ HasOneType modify.order) := by
      intro modify result returned
      obtain ⟨oid, -, returned⟩ := bind_eq_ok returned
      obtain ⟨wire, ordered, returned⟩ := bind_eq_ok returned
      obtain rfl := Except.ok.inj returned
      exact itemComplete_iff ordered rfl
    rw [← forall₂_iff_of_forall₂ item (mapM_eq_ok_iff.mp traversed)]
    constructor
    · rintro ⟨action, others, found, member, complete⟩
      obtain rfl := Option.some.inj found
      obtain rfl : items = others := by injection Option.some.inj member
      exact complete
    · intro complete
      exact ⟨_, items, rfl, rfl, complete⟩

/-- The wires are complete exactly when a request is refused or each asks for one type. -/
theorem order_wires_complete_iff (symbolMap : SymbolMap) (orders : List OrderRequest)
    (grouping : Grouping) (builder : Option Builder) (modify : ModifyRequest)
    (modifies : List ModifyRequest) :
    (ThrowsOrEmits (placeOrder symbolMap orders grouping builder) (EmitsOrders symbolMap orders) ↔
        (∃ order ∈ orders, Refused symbolMap order) ∨ ∀ order ∈ orders, HasOneType order) ∧
      (ThrowsOrEmits (modifyOrder symbolMap modify) (EmitsModify symbolMap modify) ↔
        ModifyRefused symbolMap modify ∨ HasOneType modify.order) ∧
      (ThrowsOrEmits (batchModifyOrder symbolMap modifies) (EmitsModifies symbolMap modifies) ↔
        (∃ modify ∈ modifies, ModifyRefused symbolMap modify) ∨
          ∀ modify ∈ modifies, HasOneType modify.order) :=
  ⟨placeOrder_iff symbolMap orders grouping builder, modifyOrder_iff symbolMap modify,
    batchModifyOrder_iff symbolMap modifies⟩

/-- One dollar, or one coin. -/
def one : Double := .ofUnits false unitsPerOne 1

/-- A market order, as a caller might ask for it: without a limit and without a trigger. -/
def untypedOrder : OrderRequest where
  asset := utf8 "BTC"
  isBuy := true
  price := one
  size := one
  reduceOnly := false
  limit := none
  trigger := none
  cloid := none
  assetId := some 0

/-- A stop with a limit. -/
def twiceTypedOrder : OrderRequest :=
  { untypedOrder with limit := some ⟨.gtc⟩, trigger := some ⟨false, one, .sl⟩ }

/-- The first order is sent without `t`, the second without its trigger. -/
theorem untypedOrder_incomplete :
    buildOrderWire [] untypedOrder = .ok (.object [("a", int 0), ("b", .boolean true),
        ("p", .text "1"), ("s", .text "1"), ("r", .boolean false)]) ∧
      buildOrderWire [] twiceTypedOrder = .ok (.object [("a", int 0), ("b", .boolean true),
        ("p", .text "1"), ("s", .text "1"), ("r", .boolean false),
        ("t", .object [("limit", .object [("tif", .text "Gtc")])])]) ∧
      ¬ ThrowsOrEmits (placeOrder [] [untypedOrder] .na none) (EmitsOrders [] [untypedOrder]) ∧
      ¬ ThrowsOrEmits (placeOrder [] [twiceTypedOrder] .na none)
        (EmitsOrders [] [twiceTypedOrder]) := by
  have formatted : floatToWire one = .ok (utf8 "1") := by decide +kernel
  have untyped : buildOrderWire [] untypedOrder = .ok (.object [("a", int 0), ("b", .boolean true),
      ("p", .text "1"), ("s", .text "1"), ("r", .boolean false)]) := by
    simp only [buildOrderWire, untypedOrder, assetOf, formatted, orderType, ok_bind]
    rfl
  have twice : buildOrderWire [] twiceTypedOrder = .ok (.object [("a", int 0), ("b", .boolean true),
      ("p", .text "1"), ("s", .text "1"), ("r", .boolean false),
      ("t", .object [("limit", .object [("tif", .text "Gtc")])])]) := by
    simp only [buildOrderWire, twiceTypedOrder, untypedOrder, assetOf, formatted, orderType,
      ok_bind]
    rfl
  have emits : ∀ order wire, buildOrderWire [] order = .ok wire → ¬ HasOneType order →
      ¬ ThrowsOrEmits (placeOrder [] [order] .na none) (EmitsOrders [] [order]) := by
    intro order wire built mistyped emitted
    rcases (placeOrder_iff [] [order] .na none).mp emitted with refused | typed
    · obtain ⟨refused, listed, thrown⟩ := refused
      obtain rfl := List.mem_singleton.mp listed
      exact not_throws_iff.mpr ⟨wire, built⟩ ((throws_buildOrderWire_iff [] refused).mpr thrown)
    · exact mistyped (typed order (List.mem_singleton.mpr rfl))
  exact ⟨untyped, twice, emits _ _ untyped (by simp [HasOneType, untypedOrder]),
    emits _ _ twice (by simp [HasOneType, twiceTypedOrder])⟩

end HyperliquidSdk.Messages
