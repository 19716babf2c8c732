import HyperliquidSdk.Foundation.JsonText
import HyperliquidSdk.Foundation.Utf8
import HyperliquidSdk.Websocket.StreamingEntries
import Mathlib.Data.List.Nodup

/-!
# Subscriptions

`WebsocketApi::subscribe` and `unsubscribe`. The message that they send reads back as the
subscription that was asked for, whatever the texts of the filters are, and a response that
repeats the subscription tells the handler of its type.
-/

set_option autoImplicit false

namespace HyperliquidSdk

open Foundation

def SubscriptionType.toString : SubscriptionType → Result Bytes
  | .l2Book => .ok (utf8 "l2Book")
  | .bbo => .ok (utf8 "bbo")
  | .trades => .ok (utf8 "trades")
  | .candle => .ok (utf8 "candle")
  | .allMids => .ok (utf8 "allMids")
  | .notification => .ok (utf8 "notification")
  | .webData3 => .ok (utf8 "webData3")
  | .twapStates => .ok (utf8 "twapStates")
  | .clearingHouseState => .ok (utf8 "clearinghouseState")
  | .openOrders => .ok (utf8 "openOrders")
  | .orderUpdates => .ok (utf8 "orderUpdates")
  | .userEvents => .ok (utf8 "userEvents")
  | .userFills => .ok (utf8 "userFills")
  | .userFundings => .ok (utf8 "userFundings")
  | .userNonFundingLedgerUpdates => .ok (utf8 "userNonFundingLedgerUpdates")
  | .activeAssetCtx => .ok (utf8 "activeAssetCtx")
  | .activeAssetData => .ok (utf8 "activeAssetData")
  | .userTwapSliceFills => .ok (utf8 "userTwapSliceFills")
  | .userTwapHistory => .ok (utf8 "userTwapHistory")
  | .spotState => .ok (utf8 "spotState")
  | .allDexsClearinghouseState => .ok (utf8 "allDexsClearinghouseState")
  | .allDexsAssetCtxs => .ok (utf8 "allDexsAssetCtxs")
  | .fastAssetCtxs => .ok (utf8 "fastAssetCtxs")
  | .outcomeMetaUpdates => .ok (utf8 "outcomeMetaUpdates")
  | .unknown => .error (.invalidArgument (utf8 "Unknown SubscriptionType"))

theorem toString_eq_ok {type : SubscriptionType} {name : Bytes}
    (named : type.toString = .ok name) : stringToSubscriptionType name = type := by
  cases type with
  | unknown => cases named
  | _ =>
      obtain rfl := Except.ok.inj named
      decide

namespace Websocket

open Foundation.OnDemand Foundation.OnDemand.Reader Foundation.JsonText Cracker

/-! ## Sending -/

/-- `std::map<std::string, std::string>`, which is also the object that such a map is put into. -/
abbrev Filters := Std.TreeMap Bytes Bytes compare

def isUserSubscription : SubscriptionType → Bool
  | .orderUpdates | .userEvents | .userFills | .userFundings | .userNonFundingLedgerUpdates
  | .notification | .webData3 | .twapStates | .clearingHouseState | .openOrders
  | .activeAssetData | .userTwapSliceFills | .userTwapHistory | .spotState
  | .allDexsClearinghouseState => true
  | _ => false

/-- The subscription of a message: the account of the wallet is the user if none is given. -/
def subscriptionOf (config : ApiConfig) (type : SubscriptionType) (filters : Filters) :
    Result Filters := do
  let subscription := ({} : Filters).insert (utf8 "type") (← type.toString)
  let subscription :=
    match config.wallet with
    | some wallet =>
        if isUserSubscription type && !filters.contains (utf8 "user") then
          subscription.insert (utf8 "user") wallet.accountAddress
        else subscription
    | none => subscription
  return filters.foldl (fun subscription key value => subscription.insert key value) subscription

def methodText : SubscriptionMethod → Bytes
  | .subscribe => utf8 "subscribe"
  | .unsubscribe => utf8 "unsubscribe"

/-- `dump` of the message, whose members stand in the order of their names. -/
def dumpMessage (method : SubscriptionMethod) (subscription : Filters) : Result Bytes :=
  if subscription.toList.all fun member => isUtf8 member.1 && isUtf8 member.2 then
    .ok (utf8 "\x7b\"method\":" ++ (quote (methodText method) ++
      (utf8 ",\"subscription\":" ++ (writeObject subscription.toList ++ utf8 "\x7d"))))
  else .error (.jsonTypeError 316)

def sendSubscription (method : SubscriptionMethod) (config : ApiConfig) (type : SubscriptionType)
    (filters : Filters) (impl : Impl) : Result Unit × Impl :=
  match subscriptionOf config type filters >>= dumpMessage method with
  | .ok message => (.ok (), impl.send message)
  | .error exception => (.error exception, impl)

namespace WebsocketApi

def subscribe (config : ApiConfig) (type : SubscriptionType) (filters : Filters) (impl : Impl) :
    Result Unit × Impl :=
  sendSubscription .subscribe config type filters impl

def unsubscribe (config : ApiConfig) (type : SubscriptionType) (filters : Filters) (impl : Impl) :
    Result Unit × Impl :=
  sendSubscription .unsubscribe config type filters impl

end WebsocketApi

/-! ## What the message says -/

variable {config : ApiConfig} {type : SubscriptionType} {filters subscription : Filters}

/-- The value under a key if no filter gives it one: the account of the wallet as the user of a
channel of a user, and the channel as the type. -/
def defaultUnder (config : ApiConfig) (type : SubscriptionType) (key : Bytes) : Option Bytes :=
  if key = utf8 "user" ∧ isUserSubscription type = true then
    config.wallet.map Wallet.accountAddress
  else if key = utf8 "type" then type.toString.toOption
  else none

theorem getElem?_foldl_insert (filters initial : Filters) (key : Bytes) :
    (filters.foldl (fun subscription key value => subscription.insert key value) initial)[key]? =
      filters[key]?.or initial[key]? := by
  rw [Std.TreeMap.foldl_eq_foldl_toList]
  have same := @Std.TreeMap.insertMany_list_equiv_foldl _ _ compare initial filters.toList
  rw [← same.getElem?_eq]
  cases found : filters[key]? with
  | some value =>
      have listed := Std.TreeMap.mem_toList_iff_getElem?_eq_some.mpr found
      exact Std.TreeMap.getElem?_insertMany_list_of_mem Std.ReflCmp.compare_self
        Std.TreeMap.distinct_keys_toList listed
  | none =>
      apply Std.TreeMap.getElem?_insertMany_list_of_contains_eq_false
      rw [← Bool.not_eq_true, List.contains_iff_mem]
      intro present
      obtain ⟨⟨_, value⟩, listed, rfl⟩ := List.mem_map.mp present
      cases found.symm.trans (Std.TreeMap.mem_toList_iff_getElem?_eq_some.mp listed)

theorem getElem?_insert (initial : Filters) (name value key : Bytes) :
    (initial.insert name value)[key]? = if key = name then some value else initial[key]? := by
  rw [Std.TreeMap.getElem?_insert]
  by_cases same : key = name
  · rw [if_pos same, if_pos (same ▸ Std.ReflCmp.compare_self)]
  · rw [if_neg same, if_neg]
    exact fun equal => same (Std.LawfulEqCmp.compare_eq_iff_eq.mp equal).symm

theorem getElem?_subscriptionOf (built : subscriptionOf config type filters = .ok subscription)
    (key : Bytes) : subscription[key]? = filters[key]?.or (defaultUnder config type key) := by
  obtain ⟨name, named, built⟩ := bind_eq_ok built
  obtain rfl := Except.ok.inj built
  have start : (({} : Filters).insert (utf8 "type") name)[key]? =
      if key = utf8 "type" then some name else none := by
    rw [getElem?_insert, Std.TreeMap.getElem?_emptyc]
  have different : utf8 "user" ≠ utf8 "type" := by decide
  rw [getElem?_foldl_insert, defaultUnder, named]
  cases config.wallet with
  | none =>
      by_cases isUser : key = utf8 "user" ∧ isUserSubscription type = true
      · rw [if_pos isUser, start, if_neg (isUser.1 ▸ different)]
        rfl
      · rw [if_neg isUser, start]
        rfl
  | some wallet =>
      cases isUser : isUserSubscription type with
      | false =>
          rw [if_neg fun both => Bool.false_ne_true both.2]
          exact congrArg filters[key]?.or start
      | true =>
          cases given : filters.contains (utf8 "user") with
          | false =>
              change filters[key]?.or
                ((({} : Filters).insert (utf8 "type") name).insert (utf8 "user") _)[key]? = _
              rw [getElem?_insert, start]
              by_cases user : key = utf8 "user"
              · rw [if_pos user, if_pos ⟨user, rfl⟩]
                rfl
              · have others : ¬ (key = utf8 "user" ∧ true = true) := fun both => user both.1
                rw [if_neg user, if_neg others]
                rfl
          | true =>
              change filters[key]?.or (({} : Filters).insert (utf8 "type") name)[key]? = _
              rw [start]
              by_cases user : key = utf8 "user"
              · rw [Std.TreeMap.contains_eq_isSome_getElem?, ← user] at given
                obtain ⟨value, found⟩ := Option.isSome_iff_exists.mp given
                rw [found]
                rfl
              · have others : ¬ (key = utf8 "user" ∧ true = true) := fun both => user both.1
                rw [if_neg others]
                rfl

theorem subscriptionOf_returns (config : ApiConfig) (filters : Filters)
    (known : type ≠ .unknown) :
    ∃ subscription, subscriptionOf config type filters = .ok subscription := by
  cases type with
  | unknown => exact absurd rfl known
  | _ => exact ⟨_, rfl⟩

/-! ## What the message reads as -/

/-- A message with the texts around the method and the subscription. -/
def readMessage (text : Bytes) : Option (Bytes × List (Bytes × Bytes)) := do
  let rest ← expect (utf8 "\x7b\"method\":") text
  let (method, rest) ← readString rest
  let rest ← expect (utf8 ",\"subscription\":") rest
  let (members, rest) ← readObject rest
  guard (rest = utf8 "\x7d")
  return (method, members)

theorem readMessage_dumpMessage {method : SubscriptionMethod} {text : Bytes}
    (dumped : dumpMessage method subscription = .ok text) :
    readMessage text = some (methodText method, subscription.toList) := by
  unfold dumpMessage at dumped
  split at dumped
  · obtain rfl := Except.ok.inj dumped
    rw [readMessage, expect_append, Option.bind_eq_bind, Option.bind_some, readString_quote,
      Option.bind_eq_bind, Option.bind_some]
    dsimp only
    rw [expect_append, Option.bind_eq_bind, Option.bind_some, readObject_writeObject]
    rfl
  · cases dumped

/-- Every text of the subscription is UTF-8. -/
def EncodesAsUtf8 (config : ApiConfig) (type : SubscriptionType) (filters : Filters) : Prop :=
  ∀ key value, filters[key]?.or (defaultUnder config type key) = some value →
    isUtf8 key = true ∧ isUtf8 value = true

theorem dumpMessage_returns_iff (method : SubscriptionMethod)
    (built : subscriptionOf config type filters = .ok subscription) :
    (∃ text, dumpMessage method subscription = .ok text) ↔ EncodesAsUtf8 config type filters := by
  have texts :
      (subscription.toList.all fun member => isUtf8 member.1 && isUtf8 member.2) = true ↔
        EncodesAsUtf8 config type filters := by
    simp only [List.all_eq_true, Bool.and_eq_true, Prod.forall,
      Std.TreeMap.mem_toList_iff_getElem?_eq_some, getElem?_subscriptionOf built, EncodesAsUtf8]
  rw [← texts, dumpMessage]
  split
  · next all => exact iff_of_true ⟨_, rfl⟩ all
  · next some => exact iff_of_false (fun ⟨_, impossible⟩ => nomatch impossible) some

/-! ## What is acknowledged -/

/-- The data of a response with the method and the members of a subscription, in any order and
with any others. -/
structure Repeats (data : Object) (method : Bytes) (members : List (Bytes × Bytes)) : Prop where
  isMethod : data.Holds (utf8 "method") fun value => value.getString = .ok method
  isSubscription : data.Holds (utf8 "subscription") fun value =>
    ∃ echoed : Object, value.getObject = .ok echoed ∧ ∀ key text, (key, text) ∈ members →
      echoed.Holds key fun value => value.getString = .ok text

/-- The document is such a response. -/
def Acknowledges (doc : Value) (method : Bytes) (members : List (Bytes × Bytes)) : Prop :=
  ∃ object, doc.getObject = .ok object ∧
    object.Holds (utf8 "channel") (fun value =>
      value.getString = .ok (utf8 "subscriptionResponse")) ∧
    object.Holds (utf8 "data") fun value =>
      ∃ data, value.getObject = .ok data ∧ Repeats data method members

theorem stringToSubscriptionMethod_methodText (method : SubscriptionMethod) :
    stringToSubscriptionMethod (methodText method) = method := by
  cases method with
  | subscribe => exact if_pos rfl
  | unsubscribe => exact if_neg (by decide)

theorem parseChannel_of_string {ρ : Type} {object rest : Object} {member : Value}
    {channel : Bytes} (state : ρ) (found : object.find (utf8 "channel") = some (member, rest))
    (isString : member.getString = .ok channel) :
    readFrom WebsocketMessageParser.parseChannel object state =
      (.ok (some channel, rest), state) := by
  have searched : readFrom (field "channel") object state = (.ok (member, rest), state) := by
    rw [readFrom_field, found]
  unfold WebsocketMessageParser.parseChannel
  rw [readFrom_bind_ok searched]
  cases member with
  | string raw text =>
      cases isString
      rfl
  | _ => cases isString

theorem parseEnvelope_of_acknowledges {doc : Value} {method : Bytes}
    {members : List (Bytes × Bytes)} (acknowledges : Acknowledges doc method members) :
    ∃ value data, WebsocketMessageParser.parseEnvelope doc =
        .ok (some (utf8 "subscriptionResponse", .ok value)) ∧
      value.getObject = .ok data ∧ Repeats data method members := by
  obtain ⟨object, isObject, hasChannel, hasData⟩ := acknowledges
  obtain ⟨channel, rest, found, isString, same⟩ := hasChannel.find
  obtain ⟨value, afterData, foundData, ⟨data, isData, repeats⟩, -⟩ :=
    (hasData.perm same).find
  refine ⟨value, data, ?_, isData, repeats⟩
  have envelope : readFrom (do return (← WebsocketMessageParser.parseChannel, ← getThe Object))
      object () = (.ok ((some (utf8 "subscriptionResponse"), rest), rest), ()) :=
    readFrom_bind_ok (parseChannel_of_string () found isString)
  have searched : readFrom (field "data") rest () = (.ok (value, afterData), ()) := by
    rw [readFrom_field, foundData]
  have parsed : WebsocketMessageParser.parseEnvelope doc =
      .ok (some (utf8 "subscriptionResponse", (read rest () (field "data")).1)) := by
    unfold WebsocketMessageParser.parseEnvelope
    rw [isObject]
    change ((read object () (do
      return (← WebsocketMessageParser.parseChannel, ← getThe Object))).1 >>= _) = _
    rw [read_ok envelope]
    rfl
  rw [parsed, read_ok searched]

theorem parseSubscriptionResponse_of_repeats {data : Object} {method : SubscriptionMethod}
    {members : List (Bytes × Bytes)} {name : Bytes}
    (repeats : Repeats data (methodText method) members)
    (named : (utf8 "type", name) ∈ members) :
    (read data () parseSubscriptionResponse).1 =
      .ok { method, subscription := { type := stringToSubscriptionType name } } := by
  obtain ⟨value, rest, foundMethod, isMethod, same⟩ := repeats.isMethod.find
  obtain ⟨value, last, foundSubscription, ⟨echoed, isEchoed, echoes⟩, -⟩ :=
    (repeats.isSubscription.perm same).find
  obtain ⟨type, afterType, foundType, isType, -⟩ := (echoes _ _ named).find
  have readMethod : readFrom (stringField "method") data () =
      (.ok (methodText method, rest), ()) := readFrom_fieldOf () foundMethod isMethod
  have readSubscription : readFrom (objectField "subscription") rest () =
      (.ok (echoed, last), ()) := readFrom_fieldOf () foundSubscription isEchoed
  have readType : readFrom (stringField "type") echoed () = (.ok (name, afterType), ()) :=
    readFrom_fieldOf () foundType isType
  have whole : readFrom parseSubscriptionResponse data () = (.ok
      (({ method, subscription := { type := stringToSubscriptionType name } } :
        SubscriptionResponse), last), ()) := by
    unfold parseSubscriptionResponse
    rw [readFrom_bind_ok readMethod, readFrom_bind_ok readSubscription,
      readFrom_bind_ok (readFrom_within_ok readType last), stringToSubscriptionMethod_methodText]
    rfl
  rw [read_ok whole]

theorem caught_after (body : Cracker Unit) (before : List Callback) :
    ((caught body).run before).2 = (body.run before).2 := by
  rw [caught_run]
  rcases body.run before with ⟨result, after⟩
  rcases result with thrown | done
  · cases thrown <;> rfl
  · rfl

/-- The callback is made, whatever the handler throws. -/
theorem crackSubscriptionResponse_after {listener : MessageHandler} {data : Object}
    {method : SubscriptionMethod} {members : List (Bytes × Bytes)} {name : Bytes}
    (repeats : Repeats data (methodText method) members)
    (named : (utf8 "type", name) ∈ members) (before : List Callback) :
    ((caught (Cracker.value (.ok data) >>= crackSubscriptionResponse listener)).run before).2 =
      before ++ [.onSubscriptionResponse
        { method, subscription := { type := stringToSubscriptionType name } }] := by
  rw [caught_after, Throwing.bind_run, value_run]
  change ((reading data parseSubscriptionResponse >>= fun response =>
    notify listener (.onSubscriptionResponse response)).run before).2 = _
  rw [Throwing.bind_run, reading_run, parseSubscriptionResponse_of_repeats repeats named]
  exact notify_after listener _ before

/-- The type that a response to the subscription names: a filter may replace it. -/
def acknowledgedType (type : SubscriptionType) (filters : Filters) : SubscriptionType :=
  match filters[utf8 "type"]? with
  | some name => stringToSubscriptionType name
  | none => type

theorem named_of_subscriptionOf (built : subscriptionOf config type filters = .ok subscription) :
    ∃ name, (utf8 "type", name) ∈ subscription.toList ∧
      stringToSubscriptionType name = acknowledgedType type filters := by
  have different : utf8 "type" ≠ utf8 "user" := by decide
  have found := getElem?_subscriptionOf built (utf8 "type")
  rw [defaultUnder, if_neg fun both => different both.1, if_pos rfl] at found
  obtain ⟨name, named, -⟩ := bind_eq_ok built
  unfold acknowledgedType
  cases given : filters[utf8 "type"]? with
  | some replaced =>
      rw [given, Option.some_or] at found
      exact ⟨replaced, Std.TreeMap.mem_toList_iff_getElem?_eq_some.mpr found, rfl⟩
  | none =>
      rw [given, Option.none_or, named] at found
      exact ⟨name, Std.TreeMap.mem_toList_iff_getElem?_eq_some.mpr found, toString_eq_ok named⟩

/-- A message is sent exactly if the channel is known and all texts are UTF-8, and otherwise an
exception leaves everything as it was. The message reads as the subscription that was asked
for, and a response that repeats it is one callback with its type. -/
theorem subscription_acknowledged (parser : WebsocketMessageParser) (listener : MessageHandler)
    (method : SubscriptionMethod) (config : ApiConfig) (type : SubscriptionType)
    (filters : Filters) (impl : Impl) :
    match sendSubscription method config type filters impl with
    | (.error _, after) =>
        (type = .unknown ∨ ¬ EncodesAsUtf8 config type filters) ∧ after = impl
    | (.ok (), after) =>
        (type ≠ .unknown ∧ EncodesAsUtf8 config type filters) ∧
        ∃ text members, after = impl.send text ∧
          readMessage text = some (methodText method, members) ∧
          (∀ key value, (key, value) ∈ members ↔
            filters[key]?.or (defaultUnder config type key) = some value) ∧
          ∀ message doc before, parser.document message = .ok doc →
            Acknowledges doc (methodText method) members →
            ((parser.crack listener message).run before).2 = before ++
              [.onSubscriptionResponse
                { method, subscription := { type := acknowledgedType type filters } }] := by
  unfold sendSubscription
  cases built : subscriptionOf config type filters with
  | error exception =>
      refine ⟨.inl ?_, rfl⟩
      apply Classical.byContradiction
      intro known
      obtain ⟨subscription, returns⟩ := subscriptionOf_returns config filters known
      cases built.symm.trans returns
  | ok subscription =>
      have returns := dumpMessage_returns_iff method built
      rw [ok_bind]
      cases dumped : dumpMessage method subscription with
      | error exception =>
          refine ⟨.inr fun encodes => ?_, rfl⟩
          obtain ⟨text, dumpedText⟩ := returns.mpr encodes
          cases dumped.symm.trans dumpedText
      | ok text =>
          have known : type ≠ .unknown := by
            rintro rfl
            cases built
          refine ⟨⟨known, returns.mp ⟨text, dumped⟩⟩, text, subscription.toList, rfl,
            readMessage_dumpMessage dumped, ?_, ?_⟩
          · intro key value
            rw [Std.TreeMap.mem_toList_iff_getElem?_eq_some, getElem?_subscriptionOf built]
          · intro message doc before isDoc acknowledges
            obtain ⟨name, named, sameType⟩ := named_of_subscriptionOf built
            obtain ⟨value, data, envelope, isData, repeats⟩ :=
              parseEnvelope_of_acknowledges acknowledges
            have found : parser.messageData message =
                some (utf8 "subscriptionResponse", .ok value) := by
              rw [WebsocketMessageParser.messageData_eq_some_iff]
              exact ⟨doc, isDoc, by rw [envelope]; rfl⟩
            have cracked : parser.crackChannel listener (utf8 "subscriptionResponse") (.ok value) =
                Cracker.value value.getObject >>= crackSubscriptionResponse listener := rfl
            rw [WebsocketMessageParser.crack_of_messageData found, cracked, isData, ← sameType]
            exact crackSubscriptionResponse_after repeats named before

/-- The text of a filter cannot add a member. -/
example : (WebsocketApi.subscribe ⟨.mainnet, none, [], none⟩ .l2Book
    (({} : Filters).insert (utf8 "coin") (utf8 "A\",\"n")) ⟨0, fun _ => none, []⟩).2.sent =
    [utf8 "\x7b\"method\":\"subscribe\",\"subscription\":" ++
      utf8 "\x7b\"coin\":\"A\\\",\\\"n\",\"type\":\"l2Book\"\x7d\x7d"] := by
  rfl

end Websocket

end HyperliquidSdk
