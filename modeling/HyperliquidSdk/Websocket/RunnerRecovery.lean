import HyperliquidSdk.Websocket.RunnerConnection

/-!
# Recovery

A runner that nobody stops never gives up: it is always connected with a read outstanding
and a ping to come, or has one attempt under way that will end in a connection or in the
next attempt.
-/

set_option autoImplicit false

namespace HyperliquidSdk.Websocket.WebsocketRunner

open Foundation

/-- A ping is about to be sent, or a timer runs that will send one. -/
def PingAhead (state : State) : Prop :=
  .ping ∈ state.posted ∨ ∃ wait ∈ state.pingWaits, wait.isLive = true

def Reading (state : State) : Prop := .read state.ws ∈ state.operations

/-- A connection that notices both what arrives and that nothing does. -/
def Attended (state : State) : Prop :=
  state.connected = true ∧ Reading state ∧ PingAhead state

def Attempting (state : State) : Prop :=
  state.connected = false ∧ state.attempts = 1

/-- Nobody has asked the runner to close, and nothing is being closed. -/
structure Unasked (state : State) : Prop where
  notStopping : state.stopping = false
  notAsked : .doClose ∉ state.posted
  notClosing : ∀ stream, .close stream ∉ state.operations

/-- What a step does that no one asks for the close of. -/
structure Unclosed (state next : State) : Prop where
  stopping : next.stopping = state.stopping
  posted : .doClose ∈ next.posted → .doClose ∈ state.posted
  operations : ∀ stream, .close stream ∈ next.operations → .close stream ∈ state.operations

theorem Unasked.unclosed {state next : State} (unasked : Unasked state)
    (unclosed : Unclosed state next) : Unasked next where
  notStopping := unclosed.stopping.trans unasked.notStopping
  notAsked := fun asked => unasked.notAsked (unclosed.posted asked)
  notClosing := fun stream closing => unasked.notClosing stream (unclosed.operations stream closing)

theorem Unclosed.trans {first second third : State} (left : Unclosed first second)
    (right : Unclosed second third) : Unclosed first third where
  stopping := right.stopping.trans left.stopping
  posted := fun asked => left.posted (right.posted asked)
  operations := fun stream closing => left.operations stream (right.operations stream closing)

theorem Unclosed.of_eq {state next : State} (stopping : next.stopping = state.stopping)
    (posted : next.posted = state.posted) (operations : next.operations = state.operations) :
    Unclosed state next where
  stopping := stopping
  posted := fun asked => posted ▸ asked
  operations := fun _ closing => operations ▸ closing

theorem begin_unclosed {state : State} {operation : Operation}
    (stays : ∀ stream, operation ≠ .close stream) : Unclosed state (state.begin operation) where
  stopping := rfl
  posted := id
  operations := by
    intro stream closing
    rcases List.mem_cons.mp closing with same | earlier
    · exact absurd same.symm (stays stream)
    · exact earlier

theorem post_unclosed {state : State} {function : Posted} (stays : function ≠ .doClose) :
    Unclosed state (state.post function) where
  stopping := rfl
  posted := by
    intro asked
    rcases List.mem_cons.mp asked with same | earlier
    · exact absurd same.symm stays
    · exact earlier
  operations := fun _ => id

theorem doWrite_unclosed {state : State} : Unclosed state (doWrite state) := by
  rw [doWrite]
  split
  · exact .of_eq rfl rfl rfl
  · next front rest queue =>
      have flagged : Unclosed state { state with writing := true } := .of_eq rfl rfl rfl
      exact flagged.trans (begin_unclosed fun _ same => nomatch same)

theorem doRead_unclosed {state : State} : Unclosed state (doRead state) :=
  begin_unclosed fun _ same => nomatch same

theorem pushAndWrite_unclosed {state : State} (message : Message) :
    Unclosed state (pushAndWrite message state) := by
  have pushed : Unclosed state (push message state) := .of_eq rfl rfl rfl
  simp only [pushAndWrite]
  split
  · exact pushed.trans doWrite_unclosed
  · exact pushed

theorem startPingTimer_unclosed {state : State} : Unclosed state (startPingTimer state) := by
  rw [startPingTimer]
  split
  · exact .of_eq rfl rfl rfl
  · exact .of_eq rfl rfl rfl

theorem scheduleReconnect_unclosed {state : State} :
    Unclosed state (scheduleReconnect state) := by
  rw [scheduleReconnect]
  split
  · exact .of_eq rfl rfl rfl
  · exact .of_eq rfl rfl rfl

theorem doReconnect_unclosed {state : State} : Unclosed state (doReconnect state) := by
  rw [doReconnect]
  split
  · exact .of_eq rfl rfl rfl
  · have resolves : ∀ stream, Operation.resolve ≠ .close stream := by
      intro stream same
      cases same
    refine Unclosed.trans ?_ (begin_unclosed resolves)
    exact .of_eq rfl rfl rfl

theorem onWsHandshake_unclosed {state : State} (ec : Option ErrorCode) (now : Int) :
    Unclosed state (onWsHandshake ec now state) := by
  cases ec with
  | some errMsg => exact scheduleReconnect_unclosed
  | none =>
      simp only [onWsHandshake]
      refine Unclosed.trans ?_ (startPingTimer_unclosed.trans doRead_unclosed)
      split
      · exact .of_eq rfl rfl rfl
      · refine Unclosed.trans ?_ doWrite_unclosed
        exact .of_eq rfl rfl rfl

theorem onWrite_unclosed {state : State} (ec : Option ErrorCode) :
    Unclosed state (onWrite ec state) := by
  simp only [onWrite]
  split
  · exact .of_eq rfl rfl rfl
  · cases ec with
    | none =>
        refine Unclosed.trans ?_ doWrite_unclosed
        exact .of_eq rfl rfl rfl
    | some errMsg => exact .of_eq rfl rfl rfl

/-- The one operation that `onRead` could begin in order to close needs a stop. -/
theorem onRead_unclosed {state : State} (running : state.stopping = false)
    (ec : Option ErrorCode) (received : Bytes) : Unclosed state (onRead ec received state) := by
  simp only [onRead]
  split
  · exact .of_eq rfl rfl rfl
  · cases ec with
    | none =>
        refine Unclosed.trans ?_ doRead_unclosed
        exact .of_eq rfl rfl rfl
    | some errMsg =>
        simp only
        rw [if_neg (by rw [running]; decide)]
        refine Unclosed.trans ?_ scheduleReconnect_unclosed
        exact .of_eq rfl rfl rfl

theorem observe_unclosed {state : State} (completion : Completion) :
    Unclosed state (completion.observe state) := by
  cases completion with
  | write stream message ec =>
      cases ec with
      | none => exact .of_eq rfl rfl rfl
      | some errMsg => exact .of_eq rfl rfl rfl
  | _ => exact .of_eq rfl rfl rfl

theorem handle_unclosed {completion : Completion} {state : State}
    (running : state.stopping = false) (stays : ∀ stream ec, completion ≠ .close stream ec) :
    Unclosed state (completion.handle state) := by
  cases completion with
  | resolve ec =>
      cases ec with
      | none =>
          refine Unclosed.trans ?_ (begin_unclosed fun _ same => nomatch same)
          exact .of_eq rfl rfl rfl
      | some errMsg => exact scheduleReconnect_unclosed
  | connect stream ec sniSet =>
      cases ec with
      | none =>
          cases sniSet with
          | false => exact scheduleReconnect_unclosed
          | true => exact begin_unclosed fun _ same => nomatch same
      | some errMsg => exact scheduleReconnect_unclosed
  | sslHandshake stream ec =>
      cases ec with
      | none => exact begin_unclosed fun _ same => nomatch same
      | some errMsg => exact scheduleReconnect_unclosed
  | wsHandshake stream ec now => exact onWsHandshake_unclosed ec now
  | read stream ec received => exact onRead_unclosed running ec received
  | write stream message ec => exact onWrite_unclosed ec
  | close stream ec => exact absurd rfl (stays stream ec)

theorem doPing_unclosed {state : State} (now : Int) : Unclosed state (doPing now state) := by
  rw [doPing]
  split
  · exact .of_eq rfl rfl rfl
  · split
    · refine Unclosed.trans ?_ scheduleReconnect_unclosed
      exact .of_eq rfl rfl rfl
    · refine Unclosed.trans ?_ (post_unclosed fun same => nomatch same)
      exact .of_eq rfl rfl rfl

theorem runPosted_unclosed {state : State} {function : Posted} (stays : function ≠ .doClose) :
    Unclosed state (runPosted function state) := by
  cases function with
  | send message => exact pushAndWrite_unclosed message
  | ping => exact (pushAndWrite_unclosed pingMsg).trans startPingTimer_unclosed
  | doClose => exact absurd rfl stays

theorem take_unclosed {state : State} (operation : Operation) :
    Unclosed state { state with operations := state.operations.erase operation } where
  stopping := rfl
  posted := id
  operations := fun _ => List.mem_of_mem_erase

theorem step_unasked {state next : State} {action : Action} (unasked : Unasked state)
    (unstopped : action ≠ .stop) (taken : step state action = some next) : Unasked next := by
  refine unasked.unclosed ?_
  cases action with
  | start =>
      obtain ⟨_, rfl⟩ := Option.ite_some_none_eq_some.mp taken
      refine Unclosed.trans ?_ (begin_unclosed fun _ same => nomatch same)
      exact .of_eq rfl rfl rfl
  | send message =>
      obtain rfl := Option.some.inj taken
      exact post_unclosed fun same => nomatch same
  | stop => exact absurd rfl unstopped
  | complete completion =>
      obtain ⟨⟨_, member⟩, rfl⟩ := Option.ite_some_none_eq_some.mp taken
      have observed := (@take_unclosed state completion.operation).trans
        (observe_unclosed completion)
      refine observed.trans (handle_unclosed ?_ ?_)
      · exact observed.stopping.trans unasked.notStopping
      · rintro stream ec rfl
        exact unasked.notClosing stream member
  | reconnectExpires =>
      obtain ⟨_, rfl⟩ := Option.ite_some_none_eq_some.mp taken
      exact .of_eq rfl rfl rfl
  | reconnectFires aborted =>
      obtain ⟨_, rfl⟩ := Option.ite_some_none_eq_some.mp taken
      split
      · refine Unclosed.trans ?_ doReconnect_unclosed
        exact .of_eq rfl rfl rfl
      · exact .of_eq rfl rfl rfl
  | pingExpires =>
      obtain ⟨_, rfl⟩ := Option.ite_some_none_eq_some.mp taken
      exact .of_eq rfl rfl rfl
  | pingFires aborted now =>
      obtain ⟨_, rfl⟩ := Option.ite_some_none_eq_some.mp taken
      split
      · refine Unclosed.trans ?_ (doPing_unclosed now)
        exact .of_eq rfl rfl rfl
      · exact .of_eq rfl rfl rfl
  | run function =>
      obtain ⟨⟨_, member⟩, rfl⟩ := Option.ite_some_none_eq_some.mp taken
      refine Unclosed.trans ?_ (runPosted_unclosed ?_)
      · exact ⟨rfl, List.mem_of_mem_erase, fun _ => id⟩
      · rintro rfl
        exact unasked.notAsked member
  | pong now =>
      obtain ⟨_, rfl⟩ := Option.ite_some_none_eq_some.mp taken
      exact .of_eq rfl rfl rfl
  | ioRunReturns =>
      obtain ⟨_, rfl⟩ := Option.ite_some_none_eq_some.mp taken
      exact .of_eq rfl rfl rfl

/-- What a step that leaves attempts and connection alone keeps of an attended one. -/
structure Tended (state next : State) : Prop extends Unaffected state next where
  reading : Reading state → Reading next
  pinging : PingAhead state → PingAhead next

theorem Tended.refl (state : State) : Tended state state := ⟨.refl state, id, id⟩

theorem Tended.trans {first second third : State} (left : Tended first second)
    (right : Tended second third) : Tended first third where
  toUnaffected := left.toUnaffected.trans right.toUnaffected
  reading := fun reading => right.reading (left.reading reading)
  pinging := fun pinging => right.pinging (left.pinging pinging)

/-- The runner is at work: on an attempt or on a connection. -/
structure Busy (state : State) : Prop where
  running : state.io = .running
  work : Attempting state ∨ Attended state

theorem Busy.tended {state next : State} (busy : Busy state) (tended : Tended state next) :
    Busy next where
  running := tended.io.trans busy.running
  work := by
    rcases busy.work with ⟨disconnected, single⟩ | ⟨connected, reading, pinging⟩
    · exact .inl ⟨tended.connected.trans disconnected, tended.attempts.trans single⟩
    · exact .inr ⟨tended.connected.trans connected, tended.reading reading,
        tended.pinging pinging⟩

theorem doWrite_tended (state : State) : Tended state (doWrite state) where
  toUnaffected := doWrite_unaffected state
  reading := by
    intro reading
    rw [doWrite]
    split
    · exact reading
    · exact List.mem_cons_of_mem _ reading
  pinging := by
    intro pinging
    rw [doWrite]
    split
    · exact pinging
    · exact pinging

theorem pushAndWrite_tended (message : Message) (state : State) :
    Tended state (pushAndWrite message state) := by
  have pushed : Tended state (push message state) :=
    ⟨⟨rfl, rfl, rfl, rfl, .single rfl rfl⟩, id, id⟩
  simp only [pushAndWrite]
  split
  · exact pushed.trans (doWrite_tended _)
  · exact pushed

theorem onWrite_tended (ec : Option ErrorCode) (state : State) :
    Tended state (onWrite ec state) := by
  simp only [onWrite]
  split
  · exact .refl state
  · cases ec with
    | some errMsg => exact ⟨⟨rfl, rfl, rfl, rfl, .of_eq rfl⟩, id, id⟩
    | none =>
        have popped : Tended state { state with writeQueue := state.writeQueue.tail } :=
          ⟨⟨rfl, rfl, rfl, rfl, .of_eq rfl⟩, id, id⟩
        exact popped.trans (doWrite_tended _)

/-- Starting the ping timer of a connection always leaves a ping ahead. -/
theorem startPingTimer_pings {state : State} (connected : state.connected = true)
    (running : state.stopping = false) : PingAhead (startPingTimer state) := by
  rw [startPingTimer, if_neg (by rw [connected, running]; decide)]
  exact .inr ⟨.waiting, List.mem_cons_self, rfl⟩

theorem startPingTimer_tended {state : State} (running : state.stopping = false) :
    Tended state (startPingTimer state) where
  toUnaffected := startPingTimer_unaffected state
  reading := by
    intro reading
    rw [startPingTimer]
    split
    · exact reading
    · exact reading
  pinging := by
    intro pinging
    cases connected : state.connected with
    | true => exact startPingTimer_pings connected running
    | false => rwa [startPingTimer, if_pos (by rw [connected, running]; decide)]

/-! ## Every handler leaves work behind -/

theorem scheduleReconnect_busy {state : State} (idle : Idle state)
    (running : state.io = .running) : Busy (scheduleReconnect state) where
  running := (io_scheduleReconnect state).trans running
  work := by
    have cancelled : (cancelReconnectTimer (cancelPingTimer state)).attempts = 0 :=
      attempts_cancelReconnectTimer_idle idle.noAttempt
    rw [scheduleReconnect, if_neg (by rw [idle.notStopping]; decide)]
    refine .inl ⟨idle.disconnected, ?_⟩
    simp only [State.attempts, List.countP_cons, Wait.isLive, if_true] at cancelled ⊢
    omega

theorem begin_busy {state : State} (idle : Idle state) (running : state.io = .running)
    {operation : Operation} (chain : operation.isChain = true) :
    Busy (state.begin operation) where
  running := running
  work := by
    refine .inl ⟨idle.disconnected, ?_⟩
    rw [attempts_begin, idle.noAttempt, if_pos chain]

theorem doReconnect_busy {state : State} (idle : Idle state)
    (running : state.io = .running) : Busy (doReconnect state) where
  running := (io_doReconnect state).trans running
  work := by
    have reset : Idle (cancelReconnectTimer state) :=
      ⟨idle.started, attempts_cancelReconnectTimer_idle idle.noAttempt, idle.disconnected,
        idle.notStopping⟩
    have resolving := attempts_begin (cancelReconnectTimer state) .resolve
    rw [reset.noAttempt] at resolving
    rw [doReconnect, if_neg (by rw [idle.disconnected]; decide)]
    exact .inl ⟨idle.disconnected, resolving⟩

theorem doRead_attended {state : State} (connected : state.connected = true)
    (pinging : PingAhead state) : Attended (doRead state) :=
  ⟨connected, List.mem_cons_self, pinging⟩

theorem onWsHandshake_busy {state : State} (idle : Idle state)
    (running : state.io = .running) (ec : Option ErrorCode) (now : Int) :
    Busy (onWsHandshake ec now state) where
  running := (io_onWsHandshake ec now state).trans running
  work := by
    cases ec with
    | some errMsg => exact (scheduleReconnect_busy idle running).work
    | none =>
        refine .inr ?_
        simp only [onWsHandshake]
        split
        · exact doRead_attended ((startPingTimer_unaffected _).connected)
            (startPingTimer_pings rfl idle.notStopping)
        · have written := doWrite_unaffected ({ onPongReceived now (cancelReconnectTimer state)
            with connected := true, reconnectAttempts := 0 }.record .onWsConnected)
          exact doRead_attended
            ((startPingTimer_unaffected _).connected.trans written.connected)
            (startPingTimer_pings written.connected (written.stopping.trans idle.notStopping))

theorem Lifecycle.disconnected_idle {state : State} (valid : Lifecycle state)
    (connected : state.connected = true) (running : state.stopping = false) (event : Event) :
    Idle { state.record event with connected := false } :=
  ⟨valid.started connected, valid.noAttempt connected, rfl, running⟩

theorem onRead_busy {state : State} (valid : Lifecycle state) (running : state.io = .running)
    (unstopped : state.stopping = false)
    (work : Attempting state ∨ state.connected = true ∧ PingAhead state)
    (ec : Option ErrorCode) (received : Bytes) : Busy (onRead ec received state) where
  running := (io_onRead ec received state).trans running
  work := by
    simp only [onRead]
    rcases work with ⟨disconnected, single⟩ | ⟨connected, pinging⟩
    · rw [if_pos (by rw [disconnected, unstopped]; decide)]
      exact .inl ⟨disconnected, single⟩
    · rw [if_neg (by simp [connected])]
      cases ec with
      | none => exact .inr (doRead_attended connected pinging)
      | some errMsg =>
          simp only
          rw [if_neg (by rw [unstopped]; decide)]
          have buffered : Lifecycle { state with readBuf := state.readBuf ++ received } :=
            valid.unaffected ⟨rfl, rfl, rfl, rfl, .of_eq rfl⟩
          have idle := buffered.disconnected_idle connected unstopped (.onWsDisconnected true errMsg)
          exact (scheduleReconnect_busy idle running).work

theorem observe_tended (completion : Completion) (state : State) :
    Tended state (completion.observe state) := by
  cases completion with
  | write stream message ec =>
      cases ec with
      | none => exact ⟨⟨rfl, rfl, rfl, rfl, .single rfl rfl⟩, id, id⟩
      | some errMsg => exact .refl state
  | _ => exact .refl state

theorem Busy.complete {state : State} (busy : Busy state) (valid : Lifecycle state)
    (unasked : Unasked state) (completion : Completion)
    (member : completion.operation ∈ state.operations) :
    Busy (completion.handle (completion.observe
      { state with operations := state.operations.erase completion.operation })) := by
  have running := busy.running
  cases completion with
  | resolve ec =>
      have idle := valid.take_chain running member rfl
      cases ec with
      | some errMsg => exact scheduleReconnect_busy idle running
      | none =>
          have connecting := @begin_busy _ idle running (.connect state.ws) rfl
          exact ⟨connecting.running, connecting.work⟩
  | connect stream ec sniSet =>
      have idle := valid.take_chain running member rfl
      cases ec with
      | some errMsg => exact scheduleReconnect_busy idle running
      | none =>
          cases sniSet with
          | true => exact begin_busy idle running rfl
          | false => exact scheduleReconnect_busy idle running
  | sslHandshake stream ec =>
      have idle := valid.take_chain running member rfl
      cases ec with
      | some errMsg => exact scheduleReconnect_busy idle running
      | none => exact begin_busy idle running rfl
  | wsHandshake stream ec now =>
      exact onWsHandshake_busy (valid.take_chain running member rfl) running ec now
  | read stream ec received =>
      have taken := take_unaffected member rfl
      refine onRead_busy (valid.unaffected taken) running unasked.notStopping ?_ ec received
      rcases busy.work with ⟨disconnected, single⟩ | ⟨connected, _, pinging⟩
      · exact .inl ⟨disconnected, taken.attempts.trans single⟩
      · exact .inr ⟨connected, pinging⟩
  | write stream message ec =>
      have taken : Tended state
          { state with operations := state.operations.erase (.write stream message) } := by
        refine ⟨take_unaffected member rfl, fun reading => ?_, id⟩
        have other : Operation.read state.ws ≠ .write stream message := nofun
        exact (List.mem_erase_of_ne other).mpr reading
      exact busy.tended (taken.trans ((observe_tended _ _).trans (onWrite_tended ec _)))
  | close stream ec => exact absurd member (unasked.notClosing stream)

theorem isLive_erase {wait taken : Wait} {waits : List Wait} (member : wait ∈ waits)
    (live : wait.isLive = true) (spent : taken.isLive = false) : wait ∈ waits.erase taken := by
  refine (List.mem_erase_of_ne ?_).mpr member
  rintro rfl
  exact absurd (live.symm.trans spent) (by decide)

theorem Busy.pingFires {state : State} (busy : Busy state) (valid : Lifecycle state)
    (unasked : Unasked state) (aborted : Bool) (now : Int) :
    Busy (if !aborted && !state.stopping && state.connected then
        doPing now { state with pingWaits := state.pingWaits.erase (firing aborted) }
      else { state with pingWaits := state.pingWaits.erase (firing aborted) }) := by
  have unstopped := unasked.notStopping
  rcases busy.work with ⟨disconnected, single⟩ | ⟨connected, reading, pinging⟩
  · rw [if_neg (by simp [disconnected])]
    exact ⟨busy.running, .inl ⟨disconnected, single⟩⟩
  · cases aborted with
    | true =>
        -- a cancelled wait is not the one that the connection relies on
        refine ⟨busy.running, .inr ⟨connected, reading, ?_⟩⟩
        rcases pinging with posted | ⟨wait, member, live⟩
        · exact .inl posted
        · exact .inr ⟨wait, isLive_erase member live rfl, live⟩
    | false =>
        rw [if_pos (by rw [unstopped, connected]; rfl), doPing,
          if_neg (by rw [unstopped, connected]; decide)]
        have fired : Lifecycle { state with
            pingWaits := state.pingWaits.erase (firing false) } :=
          valid.unaffected ⟨rfl, rfl, rfl, rfl, .of_eq rfl⟩
        split
        · exact scheduleReconnect_busy (fired.disconnected_idle connected unstopped _) busy.running
        · exact ⟨busy.running, .inr ⟨connected, reading, .inl List.mem_cons_self⟩⟩

theorem Busy.runPosted {state : State} (busy : Busy state) (unasked : Unasked state)
    {function : Posted} (member : function ∈ state.posted) :
    Busy (runPosted function { state with posted := state.posted.erase function }) := by
  cases function with
  | send message =>
      have dequeued : Tended state { state with posted := state.posted.erase (.send message) } := by
        refine ⟨⟨rfl, rfl, rfl, rfl, .of_eq rfl⟩, id, fun pinging => ?_⟩
        refine pinging.imp_left fun posted => ?_
        have other : Posted.ping ≠ .send message := nofun
        exact (List.mem_erase_of_ne other).mpr posted
      exact busy.tended (dequeued.trans (pushAndWrite_tended message _))
  | ping =>
      -- the ping that was ahead is sent, and the timer started for the next
      have sent := pushAndWrite_tended pingMsg { state with posted := state.posted.erase .ping }
      have running := sent.stopping.trans unasked.notStopping
      refine ⟨?_, ?_⟩
      · exact ((startPingTimer_unaffected _).io.trans sent.io).trans busy.running
      · have timed := startPingTimer_tended running
        rcases busy.work with ⟨disconnected, single⟩ | ⟨connected, reading, _⟩
        · exact .inl ⟨(timed.connected.trans sent.connected).trans disconnected,
            (timed.attempts.trans sent.attempts).trans single⟩
        · have stays := sent.connected.trans connected
          exact .inr ⟨timed.connected.trans stays, timed.reading (sent.reading reading),
            startPingTimer_pings stays running⟩
  | doClose => exact absurd member unasked.notAsked

theorem Busy.not_returned {state : State} (busy : Busy state)
    (idle : state.operations = [] ∧ state.reconnectWaits = [] ∧ state.pingWaits = [] ∧
      state.posted = []) : False := by
  obtain ⟨operations, waits, _, _⟩ := idle
  rcases busy.work with ⟨_, single⟩ | ⟨_, reading, _⟩
  · rw [State.attempts, operations, waits] at single
    cases single
  · rw [Reading, operations] at reading
    cases reading

theorem step_busy {state next : State} {action : Action} (busy : Busy state)
    (valid : Lifecycle state) (unasked : Unasked state) (unstopped : action ≠ .stop)
    (taken : step state action = some next) : Busy next := by
  cases action with
  | start =>
      obtain ⟨notStarted, _⟩ := Option.ite_some_none_eq_some.mp taken
      exact absurd (busy.running.symm.trans notStarted) (by decide)
  | send message =>
      obtain rfl := Option.some.inj taken
      refine busy.tended ⟨⟨rfl, rfl, rfl, rfl, .of_eq rfl⟩, id, fun pinging => ?_⟩
      exact pinging.imp_left (List.mem_cons_of_mem _)
  | stop => exact absurd rfl unstopped
  | complete completion =>
      obtain ⟨⟨_, member⟩, rfl⟩ := Option.ite_some_none_eq_some.mp taken
      exact busy.complete valid unasked completion member
  | reconnectExpires =>
      obtain ⟨⟨_, member⟩, rfl⟩ := Option.ite_some_none_eq_some.mp taken
      exact busy.tended ⟨⟨rfl, attempts_reconnectExpires member, rfl, rfl, .of_eq rfl⟩, id, id⟩
  | reconnectFires aborted =>
      obtain ⟨⟨running, member⟩, rfl⟩ := Option.ite_some_none_eq_some.mp taken
      cases aborted with
      | true =>
          exact busy.tended ⟨⟨rfl, attempts_reconnectFires member, rfl, rfl, .of_eq rfl⟩, id, id⟩
      | false =>
          rw [if_pos (by rw [unasked.notStopping]; rfl)]
          exact doReconnect_busy (valid.take_wait running member) running
  | pingExpires =>
      obtain ⟨_, rfl⟩ := Option.ite_some_none_eq_some.mp taken
      refine busy.tended ⟨⟨rfl, rfl, rfl, rfl, .of_eq rfl⟩, id, fun pinging => ?_⟩
      exact pinging.imp_right fun _ => ⟨.expired, List.mem_cons_self, rfl⟩
  | pingFires aborted now =>
      obtain ⟨_, rfl⟩ := Option.ite_some_none_eq_some.mp taken
      exact busy.pingFires valid unasked aborted now
  | run function =>
      obtain ⟨⟨_, member⟩, rfl⟩ := Option.ite_some_none_eq_some.mp taken
      exact busy.runPosted unasked member
  | pong now =>
      obtain ⟨_, rfl⟩ := Option.ite_some_none_eq_some.mp taken
      exact busy.tended ⟨⟨rfl, rfl, rfl, rfl, .of_eq rfl⟩, id, id⟩
  | ioRunReturns =>
      obtain ⟨⟨_, idle⟩, _⟩ := Option.ite_some_none_eq_some.mp taken
      exact absurd (busy.not_returned idle) not_false

/-- What holds of the runner after `actions` if none of them stops it. -/
structure Persists (actions : List Action) (state : State) : Prop where
  lifecycle : Lifecycle state
  unasked : Unasked state
  busy : .start ∈ actions → Busy state
  awaiting : .start ∉ actions → state.io = .notStarted

theorem step_persists {past : List Action} {state next : State} {action : Action}
    (persists : Persists past state) (unstopped : action ≠ .stop)
    (taken : step state action = some next) : Persists (past ++ [action]) next := by
  refine ⟨step_lifecycle persists.lifecycle taken, step_unasked persists.unasked unstopped taken,
    ?_, ?_⟩
  · intro started
    by_cases earlier : .start ∈ past
    · exact step_busy (persists.busy earlier) persists.lifecycle persists.unasked unstopped taken
    · obtain rfl : .start = action := by
        rcases List.mem_append.mp started with before | last
        · exact absurd before earlier
        · exact List.mem_singleton.mp last
      obtain ⟨notStarted, rfl⟩ := Option.ite_some_none_eq_some.mp taken
      obtain ⟨noAttempt, disconnected⟩ := persists.lifecycle.beforeStart notStarted
      have idle : Idle { state with io := .running } :=
        ⟨nofun, noAttempt, disconnected, persists.unasked.notStopping⟩
      have resolving := @begin_busy _ idle rfl .resolve rfl
      exact ⟨rfl, resolving.work⟩
  · intro untouched
    rw [List.mem_append, not_or] at untouched
    have notStarted := persists.awaiting untouched.1
    have idle : state.io ≠ .running := by rw [notStarted]; decide
    cases action with
    | start => exact absurd (List.mem_singleton.mpr rfl) untouched.2
    | send message =>
        obtain rfl := Option.some.inj taken
        exact notStarted
    | stop => exact absurd rfl unstopped
    | pong now => exact absurd (Option.ite_some_none_eq_some.mp taken).1 idle
    | _ => exact absurd (Option.ite_some_none_eq_some.mp taken).1.1 idle

/-- Once started and never stopped, the runner is at every point of every run either
connected, with a read outstanding on its current stream and a ping to come, or has exactly
one attempt under way; and the thread of the `io_context` goes on. In these runs no callback
of the listener throws. -/
theorem never_gives_up {actions : List Action} {state : State}
    (run : Run step initial actions state) (started : .start ∈ actions)
    (unstopped : .stop ∉ actions) :
    state.io = .running ∧ (Attempting state ∨ Attended state) := by
  have persists : Persists actions state := by
    refine run.tracks ?_ ⟨initial_lifecycle, ⟨rfl, nofun, fun _ => nofun⟩, nofun, fun _ => rfl⟩
    intro past state action next member persists taken
    refine step_persists persists ?_ taken
    rintro rfl
    exact unstopped member
  exact ⟨(persists.busy started).running, (persists.busy started).work⟩

theorem never_gives_up_reconnected :
    ∃ state, execute step initial reconnectAfterPongTimeout = some state ∧ state.ws = 1 ∧
      state.io = .running ∧ (Attempting state ∨ Attended state) :=
  ⟨_, rfl, rfl, @never_gives_up reconnectAfterPongTimeout _ (execute_eq_some.mp rfl)
    (by decide) (by decide)⟩

end HyperliquidSdk.Websocket.WebsocketRunner
