/-
Module: Uplink.Proofs.Connector.Callers
Purpose: Callers who wait for a connection, in whatever an owner may do with a connector: each has an attempt
  under way whose watchdog nothing else can wake, and setting up a connection touches nothing that was there.
Main exports: OwnerEvent, Connector.ownerStep, Connector.ownerRun, Connector.Unmoved, Connector.Prepares,
  Connector.begins, Connector.Accounted, Connector.Retired, Connector.Advances,
  Connector.Accounted.settle_of_caller, Connector.Accounted.ownerStep, Connector.Accounted.ownerRun
-/
import Uplink.Proofs.Connector.Chores
import Uplink.Proofs.Connector.Outline
import Uplink.Proofs.Fabric.Inert

namespace Uplink

/-- What may happen around a connector.  Its owner also holds the timer that it works with and the pools that
it hands out, and has connections and channels that the connector knows nothing of. -/
inductive OwnerEvent where
  | own (event : ConnectorEvent)
  | group (address : Address)
  | stopTimer
  | onRoster (event : RosterEvent) (bystander : event.isBystander = true)
  | addConnection (address : Address)
  | bindRecorder (connection recorder : Nat)

namespace Connector

/-- One event. -/
def ownerStep (connector : Connector) : OwnerEvent → Connector
  | .own event => connector.step event
  | .group address => (connector.group address).1
  | .stopTimer => connector.stopTimer
  | .onRoster event _ =>
      connector.onFabric fun fabric => { fabric with roster := fabric.roster.step event }
  | .addConnection address => connector.onFabric fun fabric => (fabric.addConnection address).1
  | .bindRecorder connection recorder =>
      connector.onFabric fun fabric => (fabric.bind connection (.recorder recorder)).1

/-- Some events. -/
def ownerRun (connector : Connector) (events : List OwnerEvent) : Connector :=
  events.foldl ownerStep connector

/-! ### What is left untouched -/

/-- Nothing that was there has changed but one watchdog.  A pool may have been added for an address that had
none, and a connection that nobody holds. -/
structure Unmoved (address : Address) (number : Nat) (before after : Connector) : Prop where
  config : after.config = before.config
  application : after.application = before.application
  isShutDown : after.isShutDown = before.isShutDown
  registry : after.registry = before.registry
  timer : after.fabric.timer = before.fabric.timer
  channels : after.fabric.roster.channels = before.fabric.roster.channels
  now : after.fabric.roster.now = before.fabric.roster.now
  pools : after.groups = before.groups ∧ after.fabric.roster.pools = before.fabric.roster.pools
    ∨ before.group? address = none
      ∧ after.groups = before.groups ++ [(address, before.fabric.roster.pools.length)]
      ∧ after.fabric.roster.pools = before.fabric.roster.pools
        ++ [Pool.make address before.config.pool before.fabric.roster.now.totalNanos]
  watchdogs : ∀ other, other ≠ number → after.fabric.watchdogs[other]? = before.fabric.watchdogs[other]?
  connections : ∀ connection, connection < before.fabric.connections.length →
    after.fabric.connections[connection]? = before.fabric.connections[connection]?

variable {before after connector : Connector} {address : Address} {number : Nat}

theorem Unmoved.trans {last : Connector} (first : Unmoved address number before after)
    (second : Unmoved address number after last)
    (kept : before.fabric.connections.length ≤ after.fabric.connections.length) :
    Unmoved address number before last := by
  refine ⟨second.config.trans first.config, second.application.trans first.application,
    second.isShutDown.trans first.isShutDown, second.registry.trans first.registry,
    second.timer.trans first.timer, second.channels.trans first.channels, second.now.trans first.now,
    ?_, ?_, ?_⟩
  · rcases first.pools with ⟨groups, pools⟩ | ⟨isNew, groups, pools⟩
    · simp only [group?]
      rw [← groups, ← pools, ← first.config, ← first.now]
      exact second.pools
    · rcases second.pools with ⟨sameGroups, samePools⟩ | ⟨stillNew, -, -⟩
      · exact .inr ⟨isNew, sameGroups.trans groups, samePools.trans pools⟩
      · simp only [group?, groups, List.lookup_append, List.lookup_cons_self,
          Option.or_eq_none_iff] at stillNew
        exact nomatch stillNew.2
  · intro other different
    rw [second.watchdogs other different, first.watchdogs other different]
  · intro connection isOld
    rw [second.connections connection (Nat.lt_of_lt_of_le isOld kept), first.connections connection isOld]

/-! ### Setting up a connection -/

/-- What a connector becomes when a connection to an address is set up: besides a connection, its watchdog
and perhaps a pool, nothing is new, and nobody is woken. -/
structure Prepares (address : Address) (before after : Connector) : Prop where
  unmoved : Unmoved address before.fabric.watchdogs.length before after
  rouses : Fabric.WakesNobody before.fabric after.fabric
  guarded : ∃ pool, after.fabric.watchdogs
    = before.fabric.watchdogs ++ [before.guard address pool before.fabric.connections.length]
  connections : after.fabric.connections.length = before.fabric.connections.length + 1
  underWay : after.fabric.underWay = before.fabric.underWay
  connects : after.fabric.connects = before.fabric.connects
  calls : after.calls = before.calls

/-- Asking for the pool of an address changes nothing, unless the address has none: then an empty one is
added. -/
theorem group_eq (connector : Connector) (address : Address) :
    ∃ roster groups,
      (connector.group address).1 = { connector with fabric := { connector.fabric with roster }, groups }
      ∧ roster.channels = connector.fabric.roster.channels ∧ roster.now = connector.fabric.roster.now
      ∧ (groups = connector.groups ∧ roster.pools = connector.fabric.roster.pools
        ∨ connector.group? address = none
          ∧ groups = connector.groups ++ [(address, connector.fabric.roster.pools.length)]
          ∧ roster.pools = connector.fabric.roster.pools
            ++ [Pool.make address connector.config.pool connector.fabric.roster.now.totalNanos]) := by
  simp only [group]
  cases isGroup : connector.group? address with
  | some pool => exact ⟨_, _, rfl, rfl, rfl, .inl ⟨rfl, rfl⟩⟩
  | none => exact ⟨_, _, rfl, rfl, rfl, .inr ⟨rfl, rfl, rfl⟩⟩

/-- Adding a connection and a watchdog, and binding one to the other, changes nothing else. -/
theorem exists_wired (fabric : Fabric) (address : Address) (watchdog : Watchdog) (switch : ReconnectSwitch) :
    ∃ connection, (((fabric.addConnection address).1.addWatchdog watchdog).1.bind fabric.connections.length
        switch).1
      = { fabric with
          connections := fabric.connections ++ [connection]
          watchdogs := fabric.watchdogs ++ [watchdog] } := by
  refine ⟨((Connection.fresh address).bind switch).1, ?_⟩
  simp only [Fabric.bind, Fabric.addWatchdog, Fabric.addConnection, List.getElem?_concat_length]
  rw [List.set_append_right _ _ (Nat.le_refl _), Nat.sub_self]
  rfl

/-- The call of a caller who asks for a connection to an address. -/
def nextCall (connector : Connector) (address : Address) : PendingConnect :=
  { address
    connection := connector.fabric.connections.length
    watchdog := connector.fabric.watchdogs.length }

/-- A connector that was not shut down sets up a connection and its watchdog. -/
theorem prepares (running : connector.isShutDown = false) (address : Address) :
    ∃ prepared, connector.prepare address = .ok (prepared, connector.nextCall address)
      ∧ Prepares address connector prepared := by
  obtain ⟨roster, groups, isGrouped, channels, now, pools⟩ := group_eq connector address
  have plain := connector.plain_guard address (connector.group address).2
    connector.fabric.connections.length
  obtain ⟨connection, isWired⟩ := exists_wired { connector.fabric with roster } address
    (connector.guard address (connector.group address).2 connector.fabric.connections.length)
    (.watchdog connector.fabric.watchdogs.length)
  simp only [prepare]
  rw [if_neg (by rw [running]; exact Bool.false_ne_true), isGrouped]
  refine ⟨_, congrArg (fun fabric : Fabric => Except.ok (({ connector with fabric, groups } : Connector), _))
    isWired, ?_, ?_, ⟨_, rfl⟩, List.length_append, rfl, rfl, rfl⟩
  · refine ⟨rfl, rfl, rfl, rfl, rfl, channels, now, pools, ?_, ?_⟩
    · intro other different
      simp only [List.getElem?_append]
      split
      · rfl
      · rename_i beyond
        rw [List.getElem?_eq_none (Nat.le_of_not_lt beyond)]
        exact List.getElem?_eq_none (by simp only [List.length_singleton]; omega)
    · intro connection isOld
      exact List.getElem?_append_left isOld
  · have pooled : Fabric.WakesNobody connector.fabric { connector.fabric with roster } :=
      .of_same rfl (Roster.handler?_of_channels channels) rfl rfl
    have connected : Fabric.WakesNobody connector.fabric
        { connector.fabric with roster, connections := connector.fabric.connections ++ [connection] } :=
      pooled.trans (.of_same rfl rfl rfl rfl)
    exact connected.trans (.addWatchdog _ plain rfl)

/-- A caller asks, and the attempt of the new watchdog is under way. -/
theorem begins (running : connector.isShutDown = false) (address : Address) :
    ∃ prepared pool, Prepares address connector prepared
      ∧ prepared.fabric.watchdogs = connector.fabric.watchdogs
        ++ [connector.guard address pool connector.fabric.connections.length]
      ∧ connector.beginConnect address
        = ({ prepared with
              fabric := prepared.fabric.issue connector.fabric.watchdogs.length .caller
                (connector.guard address pool connector.fabric.connections.length)
              calls := connector.calls ++ [connector.nextCall address] },
            .ok connector.fabric.connections.length) := by
  obtain ⟨prepared, isPrepared, prepares⟩ := prepares running address
  obtain ⟨pool, guarded⟩ := prepares.guarded
  refine ⟨prepared, pool, prepares, guarded, ?_⟩
  simp only [beginConnect, isPrepared, nextCall, Fabric.beginCall, guarded, List.getElem?_concat_length,
    prepares.calls]

/-! ### Callers and the watchdogs of their attempts -/

/-- Each caller who waits has an attempt under way, whose watchdog nothing else can wake; and nothing can
wake a watchdog that was not made yet. -/
structure Accounted (connector : Connector) : Prop where
  plain : ∀ watchdog ∈ connector.fabric.watchdogs, watchdog.Plain
  unborn : ∀ number, connector.fabric.watchdogs.length ≤ number → connector.fabric.Inert number
  waiting : ∀ number ∈ connector.fabric.callers, connector.fabric.Inert number
  known : ∀ number ∈ connector.fabric.callers, number < connector.fabric.watchdogs.length
  single : connector.fabric.callers.Nodup
  calls : connector.calls.map PendingConnect.watchdog = connector.fabric.callers

/-- A watchdog is there that nothing can wake, and that has no attempt of a caller under way. -/
structure Retired (connector : Connector) (number : Nat) : Prop where
  known : number < connector.fabric.watchdogs.length
  inert : connector.fabric.Inert number
  notCalled : number ∉ connector.fabric.callers

/-- What every change of a connector comes to: its callers stay accounted for, who has retired stays so, and
callers who are new have new watchdogs. -/
structure Advances (before after : Connector) : Prop where
  accounted : after.Accounted
  grows : before.fabric.watchdogs.length ≤ after.fabric.watchdogs.length
  retired : ∀ number, before.Retired number → after.Retired number
  calls : ∀ call ∈ after.calls, call ∈ before.calls ∨ before.fabric.watchdogs.length ≤ call.watchdog

theorem accounted_make (config : ConnectorConfig) (application : Option String) :
    (make config application).Accounted := by
  refine ⟨?_, fun number _ => ⟨?_, ?_, ?_, ?_⟩, ?_, ?_, List.nodup_nil, rfl⟩
  · exact fun _ isWatchdog => absurd isWatchdog List.not_mem_nil
  · exact fun _ isEntry => absurd isEntry List.not_mem_nil
  · intro channel handles
    simp only [make, Fabric.fresh, Roster.fresh, Roster.handler?, Roster.channel?] at handles
    split at handles <;> cases handles
  · exact fun _ isTried => absurd isTried List.not_mem_nil
  · intro watchdog isThere
    cases isThere
  · exact fun _ isCaller => absurd isCaller List.not_mem_nil
  · exact fun _ isCaller => absurd isCaller List.not_mem_nil

namespace Accounted

theorem refl (accounted : connector.Accounted) : Advances connector connector :=
  ⟨accounted, Nat.le_refl _, fun _ retired => retired, fun _ isCall => .inl isCall⟩

end Accounted

theorem Advances.trans {last : Connector} (first : Advances before after) (second : Advances after last) :
    Advances before last := by
  refine ⟨second.accounted, Nat.le_trans first.grows second.grows,
    fun number retired => second.retired number (first.retired number retired), fun call isCall => ?_⟩
  rcases second.calls call isCall with between | isNew
  · exact first.calls call between
  · exact .inr (Nat.le_trans first.grows isNew)

namespace Accounted

theorem known_call (accounted : connector.Accounted) {call : PendingConnect}
    (isCall : call ∈ connector.calls) : call.watchdog < connector.fabric.watchdogs.length := by
  refine accounted.known call.watchdog ?_
  rw [← accounted.calls]
  exact List.mem_map_of_mem isCall

/-- A change that wakes at most watchdogs that are new, and concerns no caller. -/
theorem advance {roused : Nat → Prop} (accounted : before.Accounted)
    (rouses : Fabric.Rouses roused before.fabric after.fabric)
    (fresh : ∀ number, roused number →
      before.fabric.watchdogs.length ≤ number ∧ number < after.fabric.watchdogs.length)
    (calls : after.calls = before.calls) : Advances before after := by
  have spared : ∀ number, number < before.fabric.watchdogs.length → ¬ roused number :=
    fun number isOld isRoused => Nat.not_lt_of_le (fresh number isRoused).1 isOld
  refine ⟨⟨rouses.plain accounted.plain, ?_, ?_, ?_, ?_, ?_⟩, rouses.watchdogs, ?_, ?_⟩
  · intro number beyond
    refine rouses.inert number (fun isRoused => ?_)
      (accounted.unborn number (Nat.le_trans rouses.watchdogs beyond))
    exact Nat.not_lt_of_le beyond (fresh number isRoused).2
  · intro number isCaller
    rw [rouses.callers] at isCaller
    exact rouses.inert number (spared number (accounted.known number isCaller))
      (accounted.waiting number isCaller)
  · intro number isCaller
    rw [rouses.callers] at isCaller
    exact Nat.lt_of_lt_of_le (accounted.known number isCaller) rouses.watchdogs
  · rw [rouses.callers]
    exact accounted.single
  · rw [rouses.callers, calls]
    exact accounted.calls
  · intro number retired
    refine ⟨Nat.lt_of_lt_of_le retired.known rouses.watchdogs,
      rouses.inert number (spared number retired.known) retired.inert, ?_⟩
    rw [rouses.callers]
    exact retired.notCalled
  · intro call isCall
    exact .inl (calls ▸ isCall)

/-- A change that wakes nobody and concerns no caller. -/
theorem undisturbed (accounted : before.Accounted) (wakes : Fabric.WakesNobody before.fabric after.fabric)
    (calls : after.calls = before.calls) : Advances before after :=
  accounted.advance wakes (fun _ isRoused => isRoused.elim) calls

/-! ### Connecting -/

/-- A caller's attempt begins, with a watchdog of its own. -/
theorem beginConnect (accounted : connector.Accounted) (address : Address) :
    Advances connector (connector.beginConnect address).1 := by
  cases running : connector.isShutDown with
  | true =>
      rw [beginConnect_of_shutDown running]
      exact accounted.refl
  | false =>
      obtain ⟨prepared, pool, prepares, guarded, isBegun⟩ := begins running address
      rw [isBegun]
      have length : prepared.fabric.watchdogs.length = connector.fabric.watchdogs.length + 1 := by
        rw [guarded, List.length_append, List.length_singleton]
      have inert : ∀ number, connector.fabric.Inert number → (prepared.fabric.issue
          connector.fabric.watchdogs.length .caller
          (connector.guard address pool connector.fabric.connections.length)).Inert number :=
        fun number wasInert => (prepares.rouses.inert number id wasInert).issue_caller _ _
      have callers : (prepared.fabric.issue connector.fabric.watchdogs.length .caller
          (connector.guard address pool connector.fabric.connections.length)).callers
          = connector.fabric.callers ++ [connector.fabric.watchdogs.length] := by
        rw [Fabric.callers_issue_caller, prepares.rouses.callers]
      have isOld : ∀ number ∈ connector.fabric.callers, number ≠ connector.fabric.watchdogs.length :=
        fun number isCaller => Nat.ne_of_lt (accounted.known number isCaller)
      refine ⟨⟨prepares.rouses.plain accounted.plain, ?_, ?_, ?_, ?_, ?_⟩, prepares.rouses.watchdogs, ?_, ?_⟩
      · intro number beyond
        exact inert number (accounted.unborn number (Nat.le_trans prepares.rouses.watchdogs beyond))
      · intro number isCaller
        rcases List.mem_append.1 (callers ▸ isCaller) with before | isNew
        · exact inert number (accounted.waiting number before)
        · rw [List.mem_singleton.1 isNew]
          exact inert _ (accounted.unborn _ (Nat.le_refl _))
      · intro number isCaller
        refine Nat.lt_of_lt_of_eq ?_ length.symm
        rcases List.mem_append.1 (callers ▸ isCaller) with before | isNew
        · exact Nat.lt_succ_of_lt (accounted.known number before)
        · rw [List.mem_singleton.1 isNew]
          exact Nat.lt_succ_self _
      · rw [callers]
        exact List.nodup_append.2 ⟨accounted.single, List.nodup_singleton _,
          fun number isCaller other isNew same =>
            isOld number isCaller (same.trans (List.mem_singleton.1 isNew))⟩
      · rw [callers, List.map_append, accounted.calls]
        rfl
      · intro number retired
        refine ⟨Nat.lt_of_lt_of_le retired.known prepares.rouses.watchdogs, inert number retired.inert, ?_⟩
        intro isCaller
        rcases List.mem_append.1 (callers ▸ isCaller) with before | isNew
        · exact retired.notCalled before
        · exact Nat.ne_of_lt retired.known (List.mem_singleton.1 isNew)
      · intro call isCall
        rcases List.mem_append.1 isCall with before | isNew
        · exact .inl before
        · rw [List.mem_singleton.1 isNew]
          exact .inr (Nat.le_refl _)

/-- The first attempt of a new watchdog is scheduled, or the watchdog is stopped. -/
theorem connectAsync (accounted : connector.Accounted) (address : Address) :
    Advances connector (connector.connectAsync address).1 := by
  cases running : connector.isShutDown with
  | true =>
      rw [connectAsync_of_shutDown running]
      exact accounted.refl
  | false =>
      obtain ⟨prepared, isPrepared, prepares⟩ := prepares running address
      obtain ⟨pool, guarded⟩ := prepares.guarded
      have length : prepared.fabric.watchdogs.length = connector.fabric.watchdogs.length + 1 := by
        rw [guarded, List.length_append, List.length_singleton]
      have roused : ∀ fabric : Fabric,
          Fabric.Rouses (· = connector.fabric.watchdogs.length) prepared.fabric fabric →
          ∀ changed : Connector, changed.fabric = fabric → changed.calls = connector.calls →
            Advances connector changed := by
        intro fabric rouses changed isFabric calls
        rw [← isFabric] at rouses
        refine accounted.advance ((prepares.rouses.weaken fun _ isRoused => isRoused.elim).trans rouses)
          (fun number isNew => ?_) calls
        rw [isNew]
        refine ⟨Nat.le_refl _, Nat.lt_of_lt_of_le ?_ rouses.watchdogs⟩
        rw [length]
        exact Nat.lt_succ_self _
      have scheduled := Fabric.rouses_schedule prepared.fabric connector.fabric.watchdogs.length Span.zero
      simp only [Connector.connectAsync, isPrepared, nextCall]
      split
      · rename_i fabric isScheduled
        rw [isScheduled] at scheduled
        exact roused fabric scheduled _ rfl prepares.calls
      · rename_i fabric error isScheduled
        rw [isScheduled] at scheduled
        exact roused _ (scheduled.trans (Fabric.rouses_stop fabric _)) _ rfl prepares.calls

/-! ### The end of an attempt -/

/-- The caller of an attempt that ends is answered. -/
theorem settle_of_caller (accounted : connector.Accounted) {place : Nat} {attempt : Attempt}
    (isThere : connector.fabric.underWay[place]? = some attempt) (isCaller : attempt.origin = .caller)
    (outcome : Outcome) :
    ∃ call ∈ connector.calls, ∃ result, call.watchdog = attempt.watchdog
      ∧ (connector.fabric.settle place outcome).2 = some result
      ∧ connector.settle place outcome
        = (((connector.relieve (connector.fabric.settle place outcome).1 call).answer call result).1,
            some ((connector.relieve (connector.fabric.settle place outcome).1 call).answer call
              result).2) := by
  have isCalled : attempt.watchdog ∈ connector.calls.map PendingConnect.watchdog := by
    rw [accounted.calls]
    exact Fabric.mem_callers (List.mem_of_getElem? isThere) isCaller
  obtain ⟨waiting, isWaiting, isOwn⟩ := List.mem_map.1 isCalled
  have isFound : (connector.calls.find? fun call => call.watchdog == attempt.watchdog).isSome :=
    List.find?_isSome.2 ⟨waiting, isWaiting, beq_iff_eq.2 isOwn⟩
  obtain ⟨call, found⟩ := Option.isSome_iff_exists.1 isFound
  have answered : ∃ result, (connector.fabric.settle place outcome).2 = some result := by
    have handedOut := settle_answer connector.fabric isThere outcome
    cases outcome with
    | established => exact ⟨_, handedOut.choose_spec⟩
    | flapped => exact ⟨_, handedOut.choose_spec⟩
    | failed error => exact ⟨_, handedOut⟩
  obtain ⟨result, isResult⟩ := answered
  have matched := List.find?_some found
  refine ⟨call, List.mem_of_find?_eq_some found, result, beq_iff_eq.1 matched, isResult, ?_⟩
  simp only [Connector.settle, isThere, isCaller, isResult, found]
  rfl

theorem rouses_answer {roused : Nat → Prop} (connector : Connector) (call : PendingConnect)
    (result : Except TransportError Nat) :
    Fabric.Rouses roused connector.fabric (connector.answer call result).1.fabric := by
  cases result with
  | ok channel =>
      exact (Fabric.Rouses.log _ (connectedLine call.address channel)).trans
        (.of_quiet (.completeConnection _ call.connection))
  | error error => exact Fabric.rouses_stop connector.fabric call.watchdog

/-- However an attempt ends, its watchdog alone may be woken; if it was a caller's, the caller does not wait
any more. -/
theorem settle (accounted : connector.Accounted) (place : Nat) (outcome : Outcome) :
    Advances connector (connector.settle place outcome).1 := by
  cases isThere : connector.fabric.underWay[place]? with
  | none =>
      simp only [Connector.settle, isThere]
      exact accounted.refl
  | some attempt =>
      have settled := Fabric.rouses_settle accounted.plain isThere outcome
      cases isOrigin : attempt.origin with
      | retry =>
          have awake : ¬ connector.fabric.Inert attempt.watchdog := fun inert =>
            inert.noRetry attempt (List.mem_of_getElem? isThere) isOrigin rfl
          have ended : Fabric.Rouses (· = attempt.watchdog) connector.fabric
              (connector.fabric.without place) :=
            ⟨Nat.le_refl _, Fabric.callers_without_retry isThere isOrigin, id,
              fun _ _ inert => inert.without place⟩
          have isEnded : (connector.settle place outcome).1
              = connector.onFabric fun fabric => (fabric.settle place outcome).1 := by
            simp only [Connector.settle, isThere, isOrigin]
            rfl
          rw [isEnded]
          exact accounted.undisturbed ((ended.trans settled).of_awake awake) rfl
      | caller =>
          obtain ⟨call, -, result, isOwn, -, isSettled⟩ :=
            accounted.settle_of_caller isThere isOrigin outcome
          have answered := settled.trans
            (rouses_answer (connector.relieve (connector.fabric.settle place outcome).1 call) call result)
          have isCaller := Fabric.mem_callers (List.mem_of_getElem? isThere) isOrigin
          have callers := answered.callers.trans
            (Fabric.callers_without_caller isThere isOrigin accounted.single)
          have calls : (connector.settle place outcome).1.calls
              = connector.calls.filter fun waiting => waiting.watchdog != call.watchdog := by
            rw [isSettled]
            cases result <;> rfl
          rw [isSettled] at calls ⊢
          dsimp only at calls ⊢
          rw [isOwn] at calls
          refine ⟨⟨answered.plain accounted.plain, ?_, ?_, ?_, ?_, ?_⟩, answered.watchdogs, ?_, ?_⟩
          · intro number beyond
            refine answered.inert number (fun same => ?_)
              ((accounted.unborn number (Nat.le_trans answered.watchdogs beyond)).without place)
            have isKnown := accounted.known _ isCaller
            exact Nat.not_lt_of_le (Nat.le_trans answered.watchdogs beyond) (same ▸ isKnown)
          · intro number isWaiting
            rw [callers] at isWaiting
            have isOther := List.mem_filter.1 isWaiting
            exact answered.inert number (bne_iff_ne.1 isOther.2)
              ((accounted.waiting number isOther.1).without place)
          · intro number isWaiting
            rw [callers] at isWaiting
            exact Nat.lt_of_lt_of_le (accounted.known number (List.mem_filter.1 isWaiting).1)
              answered.watchdogs
          · rw [callers]
            exact accounted.single.filter _
          · rw [callers, calls, ← accounted.calls, List.filter_map]
            rfl
          · intro number retired
            have different : number ≠ attempt.watchdog := fun same => retired.notCalled (same ▸ isCaller)
            refine ⟨Nat.lt_of_lt_of_le retired.known answered.watchdogs,
              answered.inert number different (retired.inert.without place), ?_⟩
            rw [callers]
            exact fun isWaiting => retired.notCalled (List.mem_filter.1 isWaiting).1
          · intro other isCall
            rw [calls] at isCall
            exact .inl (List.mem_filter.1 isCall).1

/-! ### Everything else that may happen -/

/-- A task that fires wakes at most the watchdog that scheduled it. -/
theorem fire (accounted : connector.Accounted) (index : Nat) :
    Advances connector (connector.fire index).1 := by
  have released : Fabric.WakesNobody connector.fabric (connector.fabric.release index).1 :=
    Fabric.rouses_release connector.fabric index
  simp only [Connector.fire]
  split
  · rename_i fabric isReleased
    rw [isReleased] at released
    exact accounted.undisturbed released rfl
  · rename_i fabric isReleased
    rw [isReleased] at released
    exact accounted.undisturbed released rfl
  · rename_i fabric number isReleased
    have awake : ¬ connector.fabric.Inert number :=
      Fabric.not_inert_of_release (congrArg Prod.snd isReleased)
    have tasks : Fabric.Rouses (· = number) connector.fabric (connector.fabric.release index).1 :=
      Fabric.rouses_release connector.fabric index
    rw [isReleased] at tasks
    exact accounted.undisturbed ((tasks.trans (Fabric.rouses_beginRetry fabric number)).of_awake awake) rfl

/-- Cancelling and shutting down wake nobody. -/
theorem chores (accounted : before.Accounted) (chores : Chores before after) : Advances before after := by
  induction chores with
  | refl => exact accounted.refl
  | tail _ chore ih =>
      refine ih.trans ?_
      cases chore with
      | turn connection enabled =>
          exact ih.accounted.undisturbed (Fabric.rouses_turnSwitch _ connection enabled) rfl
      | close channel => exact ih.accounted.undisturbed (Fabric.rouses_close _ channel) rfl
      | log line => exact ih.accounted.undisturbed (.log _ line) rfl
      | setRegistry registry => exact ih.accounted.undisturbed (.refl _) rfl
      | stopTimer =>
          exact ih.accounted.undisturbed (.setTimer fun _ isEntry => absurd isEntry List.not_mem_nil) rfl

theorem shutDown (accounted : connector.Accounted) : Advances connector connector.shutDown := by
  cases running : connector.isShutDown with
  | true =>
      rw [shutDown_of_shutDown running]
      exact accounted.refl
  | false =>
      have marked : Advances connector { connector with isShutDown := true } :=
        accounted.undisturbed (.refl _) rfl
      exact marked.trans (marked.accounted.chores (chores_shutDown running))

theorem step (accounted : connector.Accounted) (event : ConnectorEvent) :
    Advances connector (connector.step event) := by
  cases event with
  | connect address => exact accounted.beginConnect address
  | connectAsync address => exact accounted.connectAsync address
  | settle place outcome => exact accounted.settle place outcome
  | fire index => exact accounted.fire index
  | close channel => exact accounted.undisturbed (Fabric.rouses_close _ channel) rfl
  | setReconnect connection enabled =>
      exact accounted.undisturbed (Fabric.rouses_turnSwitch _ connection enabled) rfl
  | manage address connection => exact accounted.undisturbed (.refl _) rfl
  | cancelReconnect address => exact accounted.chores (chores_cancelReconnect connector address)
  | cancelAllReconnect => exact accounted.chores (chores_cancelEach _ connector)
  | shutDown => exact accounted.shutDown
  | workerStep watchdog worker =>
      exact accounted.undisturbed (.of_quiet (.workerStep watchdog worker accounted.plain)) rfl
  | addCompletionListener connection listener =>
      exact accounted.undisturbed (.of_quiet (.addCompletionListener _ connection listener)) rfl

theorem ownerStep (accounted : connector.Accounted) (event : OwnerEvent) :
    Advances connector (connector.ownerStep event) := by
  cases event with
  | own event => exact accounted.step event
  | group address =>
      obtain ⟨roster, groups, isGrouped, channels, -, -⟩ := group_eq connector address
      rw [Connector.ownerStep, isGrouped]
      exact accounted.undisturbed (.of_same rfl (Roster.handler?_of_channels channels) rfl rfl) rfl
  | stopTimer => exact accounted.undisturbed (.setTimer fun _ isEntry => absurd isEntry List.not_mem_nil) rfl
  | onRoster event bystander =>
      refine accounted.undisturbed (.setRoster fun _ _ handles => .inl ?_) rfl
      exact Roster.handler?_step connector.fabric.roster bystander handles
  | addConnection address => exact accounted.undisturbed (.addConnection _ address) rfl
  | bindRecorder connection recorder => exact accounted.undisturbed (.bind _ connection _) rfl

theorem ownerRun (accounted : connector.Accounted) (events : List OwnerEvent) :
    Advances connector (connector.ownerRun events) := by
  induction events generalizing connector with
  | nil => exact accounted.refl
  | cons event rest ih =>
      have stepped := accounted.ownerStep event
      exact stepped.trans (ih stepped.accounted)

end Accounted

end Connector

end Uplink
