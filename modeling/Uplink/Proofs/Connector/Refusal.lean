/-
Module: Uplink.Proofs.Connector.Refusal
Purpose: A connection that a connector refuses leaves no trace: nothing that was there is touched, and the
  watchdog that was made for it never begins another attempt, whatever happens later.
Main exports: Connector.Issues, Connector.NeverIssues, Connector.LeavesNoTrace,
  Connector.Accounted.refuses_connectAsync, Connector.Accounted.refuses_call,
  Connector.refused_connect_leaves_no_trace
-/
import Uplink.Proofs.Connector.Callers
import Uplink.Proofs.Connector.Cancel
import Uplink.Proofs.Connector.ShutDown

namespace Uplink.Connector

variable {before after connector : Connector} {address : Address} {number : Nat}

/-! ### Where attempts begin -/

/-- A channel is asked for on behalf of a watchdog: one attempt more was begun, and the last one under way is
the watchdog's. -/
def Issues (before after : Connector) (number : Nat) : Prop :=
  after.fabric.connects = before.fabric.connects + 1
    ∧ ∃ attempt : Attempt, attempt.watchdog = number
      ∧ after.fabric.underWay = before.fabric.underWay ++ [attempt]

/-- Whatever happens later, no channel is asked for on behalf of a watchdog. -/
def NeverIssues (connector : Connector) (number : Nat) : Prop :=
  ∀ (later : List OwnerEvent) (event : OwnerEvent),
    let reached := connector.ownerRun later
    let next := reached.ownerStep event
    next.fabric.connects = reached.fabric.connects
      ∨ ∃ other, other ≠ number ∧ reached.Issues next other

theorem issues_of_issue {fabric : Fabric} {origin : Origin} {watchdog : Watchdog}
    (connects : fabric.connects = before.fabric.connects)
    (underWay : fabric.underWay = before.fabric.underWay)
    (isIssued : after.fabric = fabric.issue number origin watchdog) : before.Issues after number := by
  rw [Issues, isIssued, ← connects, ← underWay]
  exact ⟨rfl, { watchdog := number, origin, attempts := watchdog.attempts }, rfl, rfl⟩

theorem issues_step (connector : Connector) (event : ConnectorEvent) :
    (connector.step event).fabric.connects = connector.fabric.connects
      ∨ ∃ number, connector.Issues (connector.step event) number := by
  cases event with
  | connect address =>
      cases running : connector.isShutDown with
      | true =>
          rw [step, beginConnect_of_shutDown running]
          exact .inl rfl
      | false =>
          obtain ⟨prepared, pool, prepares, -, isBegun⟩ := begins running address
          rw [step, isBegun]
          exact .inr ⟨_, issues_of_issue prepares.connects prepares.underWay rfl⟩
  | connectAsync address =>
      refine .inl ?_
      cases running : connector.isShutDown with
      | true => rw [step, connectAsync_of_shutDown running]
      | false =>
          obtain ⟨prepared, isPrepared, prepares⟩ := prepares running address
          have scheduled := Fabric.Calm.of_deeds
            (Fabric.deeds_schedule prepared.fabric connector.fabric.watchdogs.length Span.zero)
          simp only [step, connectAsync, isPrepared, nextCall]
          split
          · rename_i fabric isScheduled
            rw [isScheduled] at scheduled
            exact scheduled.connects.trans prepares.connects
          · rename_i fabric error isScheduled
            rw [isScheduled] at scheduled
            exact ((scheduled.trans (.stop fabric _)).connects).trans prepares.connects
  | settle place outcome => exact .inl (idle_settle connector place outcome).connects
  | fire index =>
      simp only [step, fire]
      split
      · rename_i fabric isReleased
        exact .inl (congrArg (fun released => released.1.connects) isReleased).symm
      · rename_i fabric isReleased
        exact .inl (congrArg (fun released => released.1.connects) isReleased).symm
      · rename_i fabric number isReleased
        have connects : fabric.connects = connector.fabric.connects :=
          (congrArg (fun released => released.1.connects) isReleased).symm
        have underWay : fabric.underWay = connector.fabric.underWay :=
          (congrArg (fun released => released.1.underWay) isReleased).symm
        simp only [Fabric.beginRetry]
        split
        · exact .inl connects
        · split
          · exact .inr ⟨number, issues_of_issue connects underWay rfl⟩
          · exact .inl connects
  | close channel => exact .inl (Fabric.Calm.close _ channel).connects
  | setReconnect connection enabled => exact .inl (Fabric.Calm.turnSwitch _ connection enabled).connects
  | manage address connection => exact .inl rfl
  | cancelReconnect address => exact .inl (chores_cancelReconnect connector address).kept.calm.connects
  | cancelAllReconnect => exact .inl (chores_cancelEach _ connector).kept.calm.connects
  | shutDown =>
      refine .inl ?_
      cases running : connector.isShutDown with
      | true => rw [step, shutDown_of_shutDown running]
      | false => exact (chores_shutDown running).kept.calm.connects
  | workerStep watchdog worker => exact .inl (Fabric.Calm.workerStep _ watchdog worker).connects
  | addCompletionListener connection listener =>
      exact .inl (Fabric.Calm.addCompletionListener _ connection listener).connects

/-- Whenever a channel is asked for, it is on behalf of some watchdog. -/
theorem issues_ownerStep (connector : Connector) (event : OwnerEvent) :
    (connector.ownerStep event).fabric.connects = connector.fabric.connects
      ∨ ∃ number, connector.Issues (connector.ownerStep event) number := by
  cases event with
  | own event => exact issues_step connector event
  | group address =>
      obtain ⟨roster, groups, isGrouped, -⟩ := group_eq connector address
      rw [ownerStep, isGrouped]
      exact .inl rfl
  | bindRecorder connection recorder =>
      simp only [ownerStep, onFabric, Fabric.bind]
      split <;> exact .inl rfl
  | stopTimer | onRoster | addConnection => exact .inl rfl

theorem Retired.noAttempt (retired : connector.Retired number) :
    ∀ attempt ∈ connector.fabric.underWay, attempt.watchdog ≠ number := by
  intro attempt isTried same
  cases isOrigin : attempt.origin with
  | retry => exact retired.inert.noRetry attempt isTried isOrigin same
  | caller => exact retired.notCalled (same ▸ Fabric.mem_callers isTried isOrigin)

/-- Who has retired never dials again. -/
theorem Accounted.neverIssues (accounted : connector.Accounted) (retired : connector.Retired number) :
    connector.NeverIssues number := by
  intro later event
  have ran := accounted.ownerRun later
  have stillRetired := (ran.accounted.ownerStep event).retired number (ran.retired number retired)
  rcases issues_ownerStep (connector.ownerRun later) event with
    same | ⟨other, begun, attempt, isOther, isLast⟩
  · exact .inl same
  · refine .inr ⟨other, ?_, begun, attempt, isOther, isLast⟩
    rw [← isOther]
    refine stillRetired.noAttempt attempt ?_
    rw [isLast]
    exact List.mem_append_right _ (List.mem_singleton_self attempt)

/-! ### Refusals -/

/-- A connector that refused a connection is as it was before, but perhaps for an empty pool of the address
and a connection that nobody holds.  The watchdog that was made for it is stopped, and never dials again. -/
structure LeavesNoTrace (address : Address) (number : Nat) (before after : Connector) : Prop
    extends Unmoved address number before after where
  underWay : after.fabric.underWay = before.fabric.underWay
  calls : after.calls = before.calls
  stopped : ∃ watchdog, after.fabric.watchdogs[number]? = some watchdog ∧ watchdog.started = false
    ∧ watchdog.pending = none
  silent : after.NeverIssues number

theorem LeavesNoTrace.of_unmoved {last : Connector} (second : LeavesNoTrace address number after last)
    (first : Unmoved address number before after)
    (kept : before.fabric.connections.length ≤ after.fabric.connections.length)
    (underWay : after.fabric.underWay = before.fabric.underWay) (calls : after.calls = before.calls) :
    LeavesNoTrace address number before last :=
  ⟨first.trans second.toUnmoved kept, second.underWay.trans underWay, second.calls.trans calls,
    second.stopped, second.silent⟩

/-- Stopping a watchdog that remembers no handle changes it, and nothing else. -/
theorem exists_stop {fabric : Fabric} {watchdog : Watchdog}
    (isThere : fabric.watchdogs[number]? = some watchdog) (free : watchdog.pending = none) :
    ∃ journal, (fabric.stop number).1
      = { fabric with
          roster := { fabric.roster with journal }
          watchdogs := fabric.watchdogs.modify number fun found =>
            { found with started := false, pending := none, notifier := found.notifier.shutDown } } := by
  simp only [Fabric.stop, isThere, free]
  split
  · exact ⟨_, rfl⟩
  · exact ⟨_, rfl⟩

/-- A watchdog that remembers no handle is stopped without a trace. -/
theorem leavesNoTrace_stop {watchdog : Watchdog}
    (isThere : connector.fabric.watchdogs[number]? = some watchdog) (free : watchdog.pending = none)
    (silent : (connector.onFabric fun fabric => (fabric.stop number).1).NeverIssues number)
    (address : Address) :
    LeavesNoTrace address number connector (connector.onFabric fun fabric => (fabric.stop number).1) := by
  obtain ⟨journal, isStopped⟩ := exists_stop isThere free
  refine ⟨?_, ?_, rfl, ⟨_, Fabric.watchdogs_stop isThere, rfl, rfl⟩, silent⟩
  · rw [onFabric, isStopped]
    refine ⟨rfl, rfl, rfl, rfl, rfl, rfl, rfl, .inl ⟨rfl, rfl⟩, ?_, fun _ _ => rfl⟩
    intro other different
    exact List.getElem?_modify_ne _ _ (Ne.symm different)
  · rw [onFabric, isStopped]

/-- The timer refuses the first attempt. -/
theorem Accounted.refuses_connectAsync (accounted : connector.Accounted)
    (running : connector.isShutDown = false) {failure : ConnectorError}
    (refused : (connector.connectAsync address).2 = .error failure) :
    failure = .connectFailed address .timerStopped
      ∧ LeavesNoTrace address connector.fabric.watchdogs.length connector
          (connector.connectAsync address).1 := by
  obtain ⟨prepared, isPrepared, prepares⟩ := prepares running address
  obtain ⟨pool, guarded⟩ := prepares.guarded
  have ready : Advances connector prepared := accounted.undisturbed prepares.rouses prepares.calls
  have stopped : Advances prepared
      (prepared.onFabric fun fabric => (fabric.stop connector.fabric.watchdogs.length).1) :=
    ready.accounted.undisturbed (Fabric.rouses_stop _ _) rfl
  have retired : prepared.Retired connector.fabric.watchdogs.length := by
    refine ⟨?_, prepares.rouses.inert _ id (accounted.unborn _ (Nat.le_refl _)), ?_⟩
    · rw [guarded, List.length_append]
      exact Nat.lt_succ_self _
    · rw [prepares.rouses.callers]
      exact fun isCaller => Nat.lt_irrefl _ (accounted.known _ isCaller)
  have kept : connector.fabric.connections.length ≤ prepared.fabric.connections.length := by
    rw [prepares.connections]
    exact Nat.le_succ _
  simp only [Connector.connectAsync, isPrepared, nextCall] at refused ⊢
  cases isStopped : prepared.fabric.timer.stopped with
  | true =>
      have scheduled : prepared.fabric.schedule connector.fabric.watchdogs.length Span.zero
          = (prepared.fabric, .error .timerStopped) := by
        simp only [Fabric.schedule, ManualTimer.schedule, isStopped, if_true]
      rw [scheduled] at refused ⊢
      have isThere : prepared.fabric.watchdogs[connector.fabric.watchdogs.length]?
          = some (connector.guard address pool connector.fabric.connections.length) := by
        rw [guarded, List.getElem?_concat_length]
      have silent := stopped.accounted.neverIssues (stopped.retired _ retired)
      exact ⟨(Except.error.inj refused).symm, (leavesNoTrace_stop isThere rfl silent address).of_unmoved
        prepares.unmoved kept prepares.underWay prepares.calls⟩
  | false =>
      have scheduled : ∃ fabric, prepared.fabric.schedule connector.fabric.watchdogs.length Span.zero
          = (fabric, .ok ()) := by
        simp only [Fabric.schedule, ManualTimer.schedule_of_not_stopped isStopped]
        exact ⟨_, rfl⟩
      obtain ⟨fabric, isScheduled⟩ := scheduled
      rw [isScheduled] at refused
      cases refused

/-- The attempt of a caller fails.  The caller is told, and nothing else is left of the call. -/
theorem Accounted.refuses_call (accounted : connector.Accounted) {place : Nat} {attempt : Attempt}
    (isThere : connector.fabric.underWay[place]? = some attempt) (isCaller : attempt.origin = .caller)
    (cause : TransportError) (address : Address) :
    ∃ call ∈ connector.calls, call.watchdog = attempt.watchdog
      ∧ (connector.settle place (.failed cause)).2 = some (.error (.connectFailed call.address cause))
      ∧ LeavesNoTrace address attempt.watchdog (connector.relieve (connector.fabric.without place) call)
          (connector.settle place (.failed cause)).1 := by
  obtain ⟨call, isCall, result, isOwn, isResult, isSettled⟩ :=
    accounted.settle_of_caller isThere isCaller (.failed cause)
  have failed : connector.fabric.settle place (.failed cause)
      = (connector.fabric.without place, some (.error cause)) := by
    simp only [Fabric.settle, isThere, Fabric.failed, isCaller]
    rfl
  rw [failed] at isResult isSettled
  have isCause : result = .error cause := (Option.some.inj isResult).symm
  rw [isCause] at isSettled
  rw [isSettled]
  refine ⟨call, isCall, isOwn, rfl, ?_⟩
  have isCalled := Fabric.mem_callers (List.mem_of_getElem? isThere) isCaller
  have inert := accounted.waiting _ isCalled
  obtain ⟨watchdog, isKnown⟩ : ∃ watchdog,
      (connector.relieve (connector.fabric.without place) call).fabric.watchdogs[attempt.watchdog]?
        = some watchdog :=
    ⟨_, List.getElem?_eq_getElem (accounted.known _ isCalled)⟩
  -- The watchdog was inert while its caller waited, so nothing is left once the caller is gone.
  have advances := accounted.settle place (.failed cause)
  rw [isSettled] at advances
  have stopped : Fabric.WakesNobody (connector.fabric.without place)
      ((connector.fabric.without place).stop call.watchdog).1 := Fabric.rouses_stop _ _
  have retired : ((connector.relieve (connector.fabric.without place) call).answer call
      (.error cause)).1.Retired attempt.watchdog := by
    refine ⟨Nat.lt_of_lt_of_le (accounted.known _ isCalled) advances.grows,
      stopped.inert _ id (inert.without place), ?_⟩
    have callers := stopped.callers.trans
      (Fabric.callers_without_caller isThere isCaller accounted.single)
    intro stillCalled
    have isOther := (List.mem_filter.1 (callers ▸ stillCalled)).2
    exact bne_iff_ne.1 isOther rfl
  have silent := advances.accounted.neverIssues retired
  have free := inert.noHandle _ isKnown
  rw [← isOwn] at silent isKnown ⊢
  exact leavesNoTrace_stop isKnown free silent address

/-- Only a failure makes a caller's answer an error. -/
theorem Accounted.failed_of_error (accounted : connector.Accounted) {place : Nat} {attempt : Attempt}
    (isThere : connector.fabric.underWay[place]? = some attempt) (isCaller : attempt.origin = .caller)
    {outcome : Outcome} {failure : ConnectorError}
    (isError : (connector.settle place outcome).2 = some (.error failure)) :
    ∃ cause, outcome = .failed cause := by
  obtain ⟨call, -, result, -, isResult, isSettled⟩ := accounted.settle_of_caller isThere isCaller outcome
  have handedOut := settle_answer connector.fabric isThere outcome
  have succeeds : ∀ channel, (connector.fabric.settle place outcome).2 = some (.ok channel) → False := by
    intro channel isChannel
    rw [isResult] at isChannel
    rw [isSettled, Option.some.inj isChannel] at isError
    cases isError
  cases outcome with
  | established => exact (succeeds _ handedOut.choose_spec).elim
  | flapped => exact (succeeds _ handedOut.choose_spec).elim
  | failed cause => exact ⟨cause, rfl⟩

/-- While a caller waits, the call with the number of its watchdog is its own. -/
theorem Accounted.call_of_begun (accounted : connector.Accounted) (running : connector.isShutDown = false)
    (address : Address) (meanwhile : List OwnerEvent) {call : PendingConnect}
    (isCall : call ∈ ((connector.beginConnect address).1.ownerRun meanwhile).calls)
    (isOwn : call.watchdog = connector.fabric.watchdogs.length) : call = connector.nextCall address := by
  obtain ⟨prepared, pool, prepares, guarded, isBegun⟩ := begins running address
  have ran := (accounted.beginConnect address).accounted.ownerRun meanwhile
  rcases ran.calls call isCall with wasCall | isLater
  · rw [isBegun] at wasCall
    rcases List.mem_append.1 wasCall with before | isNew
    · exact absurd isOwn (Nat.ne_of_lt (accounted.known_call before))
    · exact List.mem_singleton.1 isNew
  · have length : (connector.beginConnect address).1.fabric.watchdogs.length
        = connector.fabric.watchdogs.length + 1 := by
      rw [isBegun]
      exact (congrArg List.length guarded).trans List.length_append
    rw [length, isOwn] at isLater
    exact absurd isLater (Nat.not_succ_le_self _)

/-- A call that begins touches nothing that was there. -/
theorem unmoved_beginConnect (running : connector.isShutDown = false) (address : Address) :
    Unmoved address connector.fabric.watchdogs.length connector (connector.beginConnect address).1 := by
  obtain ⟨prepared, pool, prepares, -, isBegun⟩ := begins running address
  have unmoved := prepares.unmoved
  rw [isBegun]
  exact ⟨unmoved.config, unmoved.application, unmoved.isShutDown, unmoved.registry, unmoved.timer,
    unmoved.channels, unmoved.now, unmoved.pools, unmoved.watchdogs, unmoved.connections⟩

/-- A call that fails before anything else happens takes back the attempt and the call that it began with. -/
theorem Accounted.refuses_at_once (accounted : connector.Accounted) (running : connector.isShutDown = false)
    (address : Address) (cause : TransportError) :
    let ended := (connector.beginConnect address).1.settle connector.fabric.underWay.length (.failed cause)
    ended.2 = some (.error (.connectFailed address cause))
      ∧ LeavesNoTrace address connector.fabric.watchdogs.length connector ended.1 := by
  intro ended
  have unmoved := unmoved_beginConnect running address
  have advances := accounted.beginConnect address
  obtain ⟨prepared, pool, prepares, guarded, isBegun⟩ := begins running address
  have underWay : (connector.beginConnect address).1.fabric.underWay = connector.fabric.underWay
      ++ [{ watchdog := connector.fabric.watchdogs.length, origin := .caller, attempts := 0 }] := by
    rw [isBegun, ← prepares.underWay]
    rfl
  have isThere : (connector.beginConnect address).1.fabric.underWay[connector.fabric.underWay.length]?
      = some { watchdog := connector.fabric.watchdogs.length, origin := .caller, attempts := 0 } := by
    rw [underWay, List.getElem?_concat_length]
  obtain ⟨call, isCall, isSame, isAnswer, untraced⟩ :=
    advances.accounted.refuses_call isThere rfl cause address
  have isNext : call = connector.nextCall address := accounted.call_of_begun running address [] isCall isSame
  rw [isNext] at isAnswer untraced
  refine ⟨isAnswer, untraced.of_unmoved ?_ ?_ ?_ ?_⟩
  · exact ⟨unmoved.config, unmoved.application, unmoved.isShutDown, unmoved.registry, unmoved.timer,
      unmoved.channels, unmoved.now, unmoved.pools, unmoved.watchdogs, unmoved.connections⟩
  · have connections : (connector.beginConnect address).1.fabric.connections.length
        = connector.fabric.connections.length + 1 := by
      rw [isBegun]
      exact prepares.connections
    exact Nat.le_trans (Nat.le_succ _) (Nat.le_of_eq connections.symm)
  · change (connector.beginConnect address).1.fabric.underWay.eraseIdx connector.fabric.underWay.length = _
    rw [underWay, List.eraseIdx_append_of_length_le (Nat.le_refl _), Nat.sub_self]
    exact List.append_nil _
  · have calls : (connector.beginConnect address).1.calls
        = connector.calls ++ [connector.nextCall address] := by
      rw [isBegun]
    have others : (connector.calls.filter fun waiting =>
        waiting.watchdog != (connector.nextCall address).watchdog) = connector.calls :=
      List.filter_eq_self.2 fun waiting isWaiting =>
        bne_iff_ne.2 (Nat.ne_of_lt (accounted.known_call isWaiting))
    change (connector.beginConnect address).1.calls.filter _ = connector.calls
    rw [calls, List.filter_append, others, List.filter_cons_of_neg (by simp)]
    exact List.append_nil _

/-- Whatever happened to a connector, and whatever happens while a caller waits: a connection that is refused
leaves no trace.  A connector that was shut down refuses at once and stays as it is.  Otherwise the new
watchdog has the next number.  If the timer has stopped, it refuses the first attempt of a connection that
nobody waits for.  A caller who waits is told of a failure, and then everything is as it was when the call
began, if nothing else happened, or else as it is without the attempt and without the call. -/
theorem refused_connect_leaves_no_trace (config : ConnectorConfig) (application : Option String)
    (events : List OwnerEvent) (address : Address) :
    let connector := (make config application).ownerRun events
    let number := connector.fabric.watchdogs.length
    let begun := (connector.beginConnect address).1
    (∀ failure, (connector.connectAsync address).2 = .error failure →
      failure = .shutDown ∧ (connector.connectAsync address).1 = connector
        ∨ failure = .connectFailed address .timerStopped
          ∧ LeavesNoTrace address number connector (connector.connectAsync address).1)
      ∧ (∀ failure, (connector.beginConnect address).2 = .error failure →
        failure = .shutDown ∧ begun = connector)
      ∧ ∀ connection, (connector.beginConnect address).2 = .ok connection →
        Unmoved address number connector begun
        ∧ (∀ cause,
          let ended := begun.settle connector.fabric.underWay.length (.failed cause)
          ended.2 = some (.error (.connectFailed address cause))
            ∧ LeavesNoTrace address number connector ended.1)
        ∧ ∀ (meanwhile : List OwnerEvent) (place : Nat) (attempt : Attempt),
          let reached := begun.ownerRun meanwhile
          reached.fabric.underWay[place]? = some attempt → attempt.origin = .caller →
            attempt.watchdog = number →
          (∀ outcome failure, (reached.settle place outcome).2 = some (.error failure) →
            ∃ cause, outcome = .failed cause)
          ∧ ∀ cause,
            let ended := reached.settle place (.failed cause)
            ended.2 = some (.error (.connectFailed address cause))
              ∧ LeavesNoTrace address number
                (reached.relieve (reached.fabric.without place) (connector.nextCall address)) ended.1 := by
  intro connector number begun
  have accounted : connector.Accounted := ((accounted_make config application).ownerRun events).accounted
  cases running : connector.isShutDown with
  | true =>
      have refused := beginConnect_of_shutDown running address
      refine ⟨?_, ?_, ?_⟩
      · intro failure isError
        rw [connectAsync_of_shutDown running] at isError ⊢
        exact .inl ⟨(Except.error.inj isError).symm, rfl⟩
      · intro failure isError
        rw [refused] at isError
        exact ⟨(Except.error.inj isError).symm, congrArg Prod.fst refused⟩
      · intro connection isOk
        rw [refused] at isOk
        cases isOk
  | false =>
      obtain ⟨prepared, pool, prepares, guarded, isBegun⟩ := begins running address
      have advances : Advances connector begun := accounted.beginConnect address
      refine ⟨fun failure isError => .inr (accounted.refuses_connectAsync running isError), ?_, ?_⟩
      · intro failure isError
        rw [isBegun] at isError
        cases isError
      · intro connection _
        refine ⟨unmoved_beginConnect running address, accounted.refuses_at_once running address, ?_⟩
        intro meanwhile place attempt reached isThere isCaller isOwn
        have ran : Advances begun reached := advances.accounted.ownerRun meanwhile
        refine ⟨fun outcome failure isError => ran.accounted.failed_of_error isThere isCaller isError, ?_⟩
        intro cause ended
        obtain ⟨call, isCall, isSame, isAnswer, untraced⟩ :=
          ran.accounted.refuses_call isThere isCaller cause address
        have isNext : call = connector.nextCall address :=
          accounted.call_of_begun running address meanwhile isCall (isSame.trans isOwn)
        rw [isNext] at isAnswer untraced
        rw [isOwn] at untraced
        exact ⟨isAnswer, untraced⟩

/-- A connection comes up, and then the owner stops the timer. -/
def stranding : List OwnerEvent := [.own (.connect server), .own (.settle 0 .established), .stopTimer]

/-- Without a timer a second connection to the server is refused, and so is a call that times out after the
connector was shut down meanwhile. -/
theorem refused_while_stranded :
    let connector := (make ConnectorConfig.standard none).ownerRun stranding
    let reached := (connector.beginConnect server).1.ownerRun [.own .shutDown]
    LeavesNoTrace server 1 connector (connector.connectAsync server).1
      ∧ LeavesNoTrace server 1 (reached.relieve (reached.fabric.without 0) (connector.nextCall server))
          (reached.settle 0 (.failed (.connectTimeout server.text Span.zero))).1 := by
  obtain ⟨asked, -, called⟩ := refused_connect_leaves_no_trace ConnectorConfig.standard none stranding server
  refine ⟨?_, ?_⟩
  · rcases asked (.connectFailed server .timerStopped) rfl with ⟨isShutDown, -⟩ | ⟨-, untraced⟩
    · cases isShutDown
    · exact untraced
  · obtain ⟨-, -, interrupted⟩ := called 1 rfl
    exact ((interrupted [.own .shutDown] 0 { watchdog := 1, origin := .caller, attempts := 0 } rfl rfl rfl).2
      (.connectTimeout server.text Span.zero)).2

end Uplink.Connector
