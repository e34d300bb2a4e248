/-
Module: Uplink.Proofs.Fabric.Rounds
Purpose: Whom an event tells, in which order, and whether each of them finds its watchdog started.
Main exports: Telling, Round, Round.tellings, Fabric.round?, Fabric.tellings, Fabric.Tells,
  Fabric.Tells.notifyFailure, Fabric.Tells.tellOnWorker, Fabric.tells_step
-/
import Uplink.Proofs.Fabric.Deeds

namespace Uplink

/-! ### Rounds -/

/-- Whether a watchdog is started after a listener's call. -/
def ListenerCall.turn (started : Bool) : ListenerCall → Bool
  | .stop => false
  | .start => true
  | _ => started

/-- The calls that a listener makes when it is told. -/
def Listener.calls : Listener → List ListenerCall
  | completion _ => []
  | observer found => found.calls

/-- A listener is told: by which watchdog, of what, and whether the watchdog is started as this begins. -/
structure Telling where
  watchdog : Nat
  listener : Listener
  success : Bool
  started : Bool

/-- What an event tells of a round: an observer that has waited at the gate makes its calls, and then
listeners are told one after another. -/
structure Round where
  watchdog : Nat
  success : Bool
  calls : List ListenerCall
  listeners : List Listener

/-- Listeners are told in order, each of which may turn the watchdog on or off. -/
def tellEach (watchdog : Nat) (success : Bool) : Bool → List Listener → List Telling
  | _, [] => []
  | started, listener :: rest =>
      { watchdog, listener, success, started }
        :: tellEach watchdog success (listener.calls.foldl ListenerCall.turn started) rest

/-- Those who are told in a round, by a watchdog that is started or not when the event begins. -/
def Round.tellings (round : Round) (started : Bool) : List Telling :=
  tellEach round.watchdog round.success (round.calls.foldl ListenerCall.turn started) round.listeners

/-- The listeners that a worker tells before it has to wait. -/
def reached (gateOpen : Bool) : List Listener → List Listener
  | [] => []
  | .completion connection :: rest => .completion connection :: reached gateOpen rest
  | .observer observer :: rest =>
      .observer observer :: if observer.gated && !gateOpen then [] else reached gateOpen rest

theorem reached_true (listeners : List Listener) : reached true listeners = listeners := by
  induction listeners with
  | nil => rfl
  | cons listener rest ih =>
      cases listener <;> simp only [reached, Bool.not_true, Bool.and_false, Bool.false_eq_true, if_false, ih]

namespace Fabric

/-- Whether the watchdog with a number is started, if there is one. -/
def started? (fabric : Fabric) (number : Nat) : Option Bool :=
  (fabric.watchdogs[number]?).map Watchdog.started

/-- A failed retry begins a round among the listeners of its watchdog, if that is started. -/
def failureRound? (fabric : Fabric) (attempt : Attempt) : Option Round :=
  match attempt.origin, fabric.watchdogs[attempt.watchdog]? with
  | .retry, some watchdog =>
      if watchdog.started then
        some { watchdog := attempt.watchdog, success := false, calls := [], listeners := watchdog.listeners }
      else none
  | _, _ => none

/-- A worker goes on with the round that it holds once the gate is open.  With news from its queue it begins
a round among the listeners that its watchdog has by then, if that is started. -/
def workerRound? (fabric : Fabric) (number worker : Nat) : Option Round :=
  match fabric.watchdogs[number]? with
  | none => none
  | some watchdog =>
      match watchdog.heldBy worker with
      | some (observer, rest) =>
          if fabric.gateOpen then
            some { watchdog := number, success := true, calls := observer.calls, listeners := rest }
          else none
      | none =>
          if watchdog.started && (watchdog.notifier.begin worker).2.isSome then
            some { watchdog := number, success := true, calls := [],
                   listeners := reached fabric.gateOpen watchdog.listeners }
          else none

/-- The round that an event begins or goes on with. -/
def round? (fabric : Fabric) : FabricEvent → Option Round
  | .settle place (.failed _) => (fabric.underWay[place]?).bind fabric.failureRound?
  | .workerStep number worker => fabric.workerRound? number worker
  | _ => none

/-- Those who are told in a round, if there is one. -/
def tellingsIn (fabric : Fabric) : Option Round → List Telling
  | none => []
  | some round => round.tellings ((fabric.started? round.watchdog).getD false)

/-- Those who are told by an event. -/
def tellings (fabric : Fabric) (event : FabricEvent) : List Telling :=
  fabric.tellingsIn (fabric.round? event)

/-! ### The flag of a watchdog -/

variable {fabric before after : Fabric} {number : Nat}

theorem started?_changeWatchdog (fabric : Fabric) (number other : Nat) (change : Watchdog → Watchdog)
    (same : ∀ watchdog, (change watchdog).started = watchdog.started) :
    (fabric.changeWatchdog number change).started? other = fabric.started? other :=
  map_getElem?_modify Watchdog.started (fun watchdog _ => same watchdog) other

theorem started?_start (fabric : Fabric) (number : Nat) :
    (fabric.start number).1.started? number = (fabric.started? number).map fun _ => true := by
  cases isThere : fabric.watchdogs[number]? with
  | none => simp only [start, isThere, started?]; rfl
  | some watchdog =>
      rw [started?, (start_of_getElem? isThere).1, started?, isThere]
      rfl

theorem started?_stop (fabric : Fabric) (number : Nat) :
    (fabric.stop number).1.started? number = (fabric.started? number).map fun _ => false := by
  cases isThere : fabric.watchdogs[number]? with
  | none => simp only [stop, isThere, started?]; rfl
  | some watchdog =>
      rw [started?, watchdogs_stop isThere, started?, isThere]
      rfl

theorem started?_schedule (fabric : Fabric) (number : Nat) (delay : Span) (other : Nat) :
    (fabric.schedule number delay).1.started? other = fabric.started? other := by
  simp only [schedule]
  split
  · rfl
  · exact started?_changeWatchdog _ number other _ fun _ => rfl

/-- A listener's call turns the flag if it starts or stops the watchdog, and leaves it otherwise. -/
theorem started?_makeCall (fabric : Fabric) (number : Nat) (label : String) (call : ListenerCall) :
    (fabric.makeCall number label call).started? number
      = (fabric.started? number).map fun started => call.turn started := by
  have same : (fabric.started? number).map (fun started => started) = fabric.started? number :=
    congrFun Option.map_id_fun' _
  cases call with
  | stop => exact started?_stop fabric number
  | start => exact started?_start fabric number
  | enlist name gated calls outcome =>
      exact (started?_changeWatchdog fabric number number _ fun _ => by rfl).trans same.symm
  | schedule delay => exact (started?_schedule fabric number delay number).trans same.symm
  | dismiss removed =>
      refine Eq.trans ?_ same.symm
      simp only [makeCall]
      split
      · rfl
      · exact started?_changeWatchdog fabric number number _ fun _ => rfl

theorem started?_finishObserver (fabric : Fabric) (number : Nat) (success : Bool) (attempts : UInt32)
    (observer : Observer) :
    (fabric.finishObserver number success attempts observer).started? number
      = (fabric.started? number).map fun started => observer.calls.foldl ListenerCall.turn started := by
  have called : ∀ (calls : List ListenerCall) (fabric : Fabric),
      (calls.foldl (fun changed call => changed.makeCall number observer.label call) fabric).started? number
        = (fabric.started? number).map fun started => calls.foldl ListenerCall.turn started := by
    intro calls
    induction calls with
    | nil => exact fun fabric => (congrFun Option.map_id_fun' (fabric.started? number)).symm
    | cons call rest ih =>
        intro fabric
        refine (ih _).trans ?_
        rw [started?_makeCall, Option.map_map]
        rfl
  rw [← called]
  simp only [finishObserver]
  split
  · rfl
  · split <;> rfl

theorem watchdogs_beginObserver (fabric : Fabric) (number : Nat) (success : Bool) (attempts : UInt32)
    (onWorker : Bool) (observer : Observer) :
    (fabric.beginObserver number success attempts onWorker observer).watchdogs = fabric.watchdogs := by
  simp only [beginObserver]
  split <;> rfl

/-- The reports of completion listeners are observations and nothing else. -/
theorem reportCompletion_eq (number : Nat) (listeners : List Nat) (fabric : Fabric) :
    ∃ roster, fabric.reportCompletion number listeners = { fabric with roster } := by
  induction listeners generalizing fabric with
  | nil => exact ⟨fabric.roster, rfl⟩
  | cons listener rest ih =>
      obtain ⟨roster, reported⟩ := ih (fabric.record (.completed listener (fabric.isConnected number)))
      exact ⟨roster, reported⟩

/-- To complete a connection changes that connection and the journal. -/
theorem completeConnection_eq (fabric : Fabric) (number : Nat) :
    ∃ roster connections, fabric.completeConnection number = { fabric with roster, connections } := by
  simp only [completeConnection]
  split
  · exact ⟨fabric.roster, fabric.connections, rfl⟩
  · rename_i found _
    obtain ⟨roster, reported⟩ := reportCompletion_eq number found.setComplete.2.2
      { fabric with connections := fabric.connections.set number found.setComplete.1 }
    exact ⟨roster, _, reported⟩

theorem watchdogs_completeConnection (fabric : Fabric) (number : Nat) :
    (fabric.completeConnection number).watchdogs = fabric.watchdogs := by
  obtain ⟨roster, connections, completed⟩ := completeConnection_eq fabric number
  rw [completed]

theorem started?_tell (fabric : Fabric) (number : Nat) (success : Bool) (attempts : UInt32)
    (onWorker : Bool) (listener : Listener) :
    (fabric.tell number success attempts onWorker listener).started? number
      = (fabric.started? number).map fun started => listener.calls.foldl ListenerCall.turn started := by
  cases listener with
  | observer observer =>
      refine (started?_finishObserver _ number success attempts observer).trans ?_
      rw [started?, watchdogs_beginObserver]
      rfl
  | completion connection =>
      refine Eq.trans ?_ (congrFun Option.map_id_fun' (fabric.started? number)).symm
      simp only [tell, started?]
      split
      · rw [watchdogs_completeConnection]
        rfl
      · rfl

theorem gateOpen_tell (fabric : Fabric) (number : Nat) (success : Bool) (attempts : UInt32)
    (onWorker : Bool) (listener : Listener) :
    (fabric.tell number success attempts onWorker listener).gateOpen = fabric.gateOpen := by
  cases listener with
  | observer observer =>
      have begun : (fabric.beginObserver number success attempts onWorker observer).gateOpen
          = fabric.gateOpen := by
        simp only [beginObserver]
        split <;> rfl
      exact (deeds_finishObserver _ number success attempts observer).gateOpen.trans begun
  | completion connection =>
      simp only [tell]
      split
      · obtain ⟨roster, connections, completed⟩ := completeConnection_eq fabric connection
        rw [completed]
      · rfl

/-! ### Steps of a worker -/

/-- A worker that holds a round goes on with it once the gate is open. -/
theorem workerStep_of_held {watchdog : Watchdog} (isThere : fabric.watchdogs[number]? = some watchdog)
    {worker : Nat} {observer : Observer} {rest : List Listener}
    (isHeld : watchdog.heldBy worker = some (observer, rest)) :
    ∃ attempts, fabric.workerStep number worker
      = if fabric.gateOpen then
          (fabric.finishObserver number true attempts observer).tellOnWorker number worker attempts rest
        else fabric := by
  obtain ⟨⟨attempts, held⟩, isJob, rfl⟩ := Option.bind_eq_some_iff.1 isHeld
  rw [Notifier.jobOf] at isJob
  exact ⟨attempts, by simp only [workerStep, isThere, isJob]⟩

/-- Any other worker looks for news. -/
theorem workerStep_of_unheld {watchdog : Watchdog} (isThere : fabric.watchdogs[number]? = some watchdog)
    {worker : Nat} (isHeld : watchdog.heldBy worker = none) :
    fabric.workerStep number worker = fabric.beginNews number worker watchdog := by
  rw [Watchdog.heldBy, Notifier.jobOf] at isHeld
  simp only [workerStep, isThere]
  cases isJob : (watchdog.notifier.workers[worker]?).bind Worker.running with
  | none => rfl
  | some job =>
      obtain ⟨attempts, held⟩ := job
      rw [isJob] at isHeld
      cases isHeld
      rfl

/-! ### What there is to see of a telling -/

/-- The listeners that were told so far: their labels, whether of a success, and whether their watchdog was
started. -/
def told (fabric : Fabric) : List (String × Bool × Bool) :=
  fabric.roster.journal.events.filterMap fun
    | .notified label success _ _ started _ => some (label, success, started)
    | _ => none

/-- Whether the connection with a number is complete, if there is one. -/
def complete? (fabric : Fabric) (number : Nat) : Option Bool :=
  (fabric.connections[number]?).map Connection.isComplete

end Fabric

/-- What the journal shows of a telling. -/
def Telling.shown (telling : Telling) : Option (String × Bool × Bool) :=
  match telling.listener with
  | .completion _ => none
  | .observer observer => some (observer.label, telling.success, telling.started)

/-- Whether a telling completes a connection. -/
def Telling.completes (telling : Telling) (connection : Nat) : Bool :=
  match telling.listener with
  | .completion number => telling.success && number == connection
  | .observer _ => false

namespace Fabric

/-- A change in the course of which some listeners are told, and nobody else: the journal shows the observers
among them in their order, and the connections that become complete are those whose listener hears of a
success. -/
structure Tells (before after : Fabric) (tellings : List Telling) : Prop where
  told : after.told = before.told ++ tellings.filterMap Telling.shown
  complete : ∀ connection, after.complete? connection
    = (before.complete? connection).map (· || tellings.any (·.completes connection))

namespace Tells

/-- Nobody is told whose business it is to complete a connection. -/
theorem of_complete? {tellings : List Telling}
    (told : after.told = before.told ++ tellings.filterMap Telling.shown)
    (complete : after.complete? = before.complete?)
    (completes : ∀ telling ∈ tellings, ∀ connection, telling.completes connection = false) :
    Tells before after tellings := by
  refine ⟨told, fun connection => ?_⟩
  have nobody : tellings.any (·.completes connection) = false := by
    rw [List.any_eq_false]
    exact fun telling isTold => ne_true_of_eq_false (completes telling isTold connection)
  rw [complete, nobody]
  simp only [Bool.or_false]
  exact (congrFun Option.map_id_fun' _).symm

theorem of_same (told : after.told = before.told) (complete : after.complete? = before.complete?) :
    Tells before after [] :=
  of_complete? (told.trans (List.append_nil _).symm) complete fun _ isTold => absurd isTold List.not_mem_nil

theorem refl (fabric : Fabric) : Tells fabric fabric [] :=
  of_same rfl rfl

theorem trans {last : Fabric} {first second : List Telling} (earlier : Tells before after first)
    (later : Tells after last second) : Tells before last (first ++ second) := by
  refine ⟨?_, fun connection => ?_⟩
  · rw [later.told, earlier.told, List.filterMap_append, List.append_assoc]
  · rw [later.complete, earlier.complete, Option.map_map]
    congr 1
    funext isComplete
    rw [Function.comp_apply, List.any_append, Bool.or_assoc]

theorem of_deed (deed : Deed before after) : Tells before after [] := by
  cases deed with
  | setTimer => exact of_same rfl rfl
  | changeWatchdog => exact of_same rfl rfl
  | changeConnection keeps => exact of_same rfl (funext (map_getElem?_modify Connection.isComplete keeps))
  | setRoster discreet =>
      refine of_same (discreet.filterMap fun event plain => ?_) rfl
      cases event with
      | notified => cases plain
      | _ => rfl

theorem of_deeds (deeds : Deeds before after) : Tells before after [] := by
  induction deeds with
  | refl => exact refl before
  | tail _ deed ih => exact ih.trans (of_deed deed)

/-! ### Telling one listener -/

/-- A completion listener that hears of a success completes its connection. -/
theorem completeConnection (fabric : Fabric) (watchdog connection : Nat) (started : Bool) :
    Tells fabric (fabric.completeConnection connection)
      [{ watchdog, listener := .completion connection, success := true, started }] := by
  -- Whether another connection is complete does not change, be there one with the number or not.
  have elsewhere : ∀ number, number ≠ connection →
      fabric.complete? number = (fabric.complete? number).map (· || connection == number) := by
    intro number different
    simp only [beq_eq_false_iff_ne.2 different.symm, Bool.or_false]
    exact (congrFun Option.map_id_fun' _).symm
  simp only [Fabric.completeConnection]
  cases isThere : fabric.connections[connection]? with
  | none =>
      refine ⟨(List.append_nil _).symm, fun number => ?_⟩
      simp only [List.any_cons, Telling.completes, Bool.true_and, List.any_nil, Bool.or_false]
      by_cases same : number = connection
      · rw [same, complete?, isThere]
        rfl
      · exact elsewhere number same
  | some found =>
      have completed : Tells fabric
          { fabric with connections := fabric.connections.set connection found.setComplete.1 }
          [{ watchdog, listener := .completion connection, success := true, started }] := by
        refine ⟨(List.append_nil _).symm, fun number => ?_⟩
        simp only [List.any_cons, Telling.completes, Bool.true_and, List.any_nil, Bool.or_false]
        by_cases same : number = connection
        · have bound : connection < fabric.connections.length := (List.getElem?_eq_some_iff.1 isThere).1
          have isDone : found.setComplete.1.isComplete = true := by
            rw [Connection.isComplete, Connection.setComplete]
            cases found.completion <;> rfl
          simp only [same, complete?, List.getElem?_set_self bound, isThere, Option.map_some, isDone,
            beq_self_eq_true, Bool.or_true]
        · rw [← elsewhere number same, complete?, List.getElem?_set_ne (Ne.symm same)]
          rfl
      exact completed.trans (of_deeds (deeds_reportCompletion connection _ _))

/-- An observer that is told shows the flag of its watchdog, and then does what it does. -/
theorem beginObserver {started : Bool} (isThere : fabric.started? number = some started)
    (success : Bool) (attempts : UInt32) (onWorker : Bool) (observer : Observer) :
    Tells fabric (fabric.beginObserver number success attempts onWorker observer)
      [{ watchdog := number, listener := .observer observer, success, started }] := by
  obtain ⟨watchdog, found, flag⟩ := Option.map_eq_some_iff.1 isThere
  simp only [Fabric.beginObserver, found]
  refine of_complete? ?_ rfl fun telling isTold _ => ?_
  · rw [← flag]
    exact List.filterMap_append
  · rw [List.mem_singleton.1 isTold]
    rfl

theorem tell {started : Bool} (isThere : fabric.started? number = some started) (success : Bool)
    (attempts : UInt32) (onWorker : Bool) (listener : Listener) :
    Tells fabric (fabric.tell number success attempts onWorker listener)
      [{ watchdog := number, listener, success, started }] := by
  cases listener with
  | observer observer =>
      exact (beginObserver isThere success attempts onWorker observer).trans
        (of_deeds (deeds_finishObserver _ number success attempts observer))
  | completion connection =>
      cases success with
      | true => exact completeConnection fabric number connection started
      | false =>
          -- A failure is none of a connection's business.
          refine of_complete? (List.append_nil _).symm rfl fun telling isTold _ => ?_
          rw [List.mem_singleton.1 isTold]
          rfl

/-! ### Telling one after another -/

/-- A failure is told to all listeners there are when this begins. -/
theorem notifyFailure {watchdog : Watchdog} (isThere : fabric.watchdogs[number]? = some watchdog)
    (attempts : UInt32) :
    Tells fabric (fabric.notifyFailure number attempts)
      (tellEach number false watchdog.started watchdog.listeners) := by
  have each : ∀ (listeners : List Listener) (fabric : Fabric) (started : Bool),
      fabric.started? number = some started →
      Tells fabric
        (listeners.foldl (fun changed listener => changed.tell number false attempts false listener) fabric)
        (tellEach number false started listeners) := by
    intro listeners
    induction listeners with
    | nil => exact fun fabric _ _ => refl fabric
    | cons listener rest ih =>
        intro fabric started flag
        have first := tell flag false attempts false listener
        have flagNow := started?_tell fabric number false attempts false listener
        rw [flag] at flagNow
        exact first.trans (ih _ _ flagNow)
  simp only [Fabric.notifyFailure, isThere]
  exact each watchdog.listeners fabric watchdog.started (congrArg (Option.map _) isThere)

/-- A worker tells its listeners up to an observer that waits at the gate. -/
theorem tellOnWorker (worker : Nat) (attempts : UInt32) (listeners : List Listener) {started : Bool}
    (flag : fabric.started? number = some started) :
    Tells fabric (fabric.tellOnWorker number worker attempts listeners)
      (tellEach number true started (reached fabric.gateOpen listeners)) := by
  induction listeners generalizing fabric started with
  | nil => exact of_same rfl rfl
  | cons listener rest ih =>
      have flagNow := started?_tell fabric number true attempts true listener
      rw [flag] at flagNow
      have others := ih flagNow
      rw [gateOpen_tell] at others
      have goesOn := (tell flag true attempts true listener).trans others
      cases listener with
      | completion connection => exact goesOn
      | observer observer =>
          simp only [Fabric.tellOnWorker, reached]
          split
          · exact (beginObserver flag true attempts true observer).trans (of_same rfl rfl)
          · exact goesOn

/-! ### Events -/

theorem failed (fabric : Fabric) (attempt : Attempt) (error : TransportError) :
    Tells fabric (fabric.failed attempt error) (fabric.tellingsIn (fabric.failureRound? attempt)) := by
  simp only [Fabric.failed, failureRound?]
  cases attempt.origin with
  | caller => exact refl fabric
  | retry =>
      cases isThere : fabric.watchdogs[attempt.watchdog]? with
      | none => exact refl fabric
      | some watchdog =>
          let line := watchdog.line .warn "reconnect attempt failed"
            [("attempts", Text.decimal attempt.attempts.toNat), ("code", error.code),
             ("error", error.message)]
          have logged : Tells fabric (fabric.log line) [] := of_deeds (.log fabric line)
          have stillThere : (fabric.log line).watchdogs[attempt.watchdog]? = some watchdog := isThere
          dsimp only
          cases flag : watchdog.started with
          | false => exact logged.trans (of_deeds (deeds_onDisconnected _ attempt.watchdog))
          | true =>
              have told := (logged.trans (notifyFailure stillThere attempt.attempts)).trans
                (of_deeds (deeds_onDisconnected _ attempt.watchdog))
              rw [List.nil_append, List.append_nil] at told
              simp only [if_true, tellingsIn, Round.tellings, started?, isThere, Option.map_some,
                Option.getD_some, List.foldl_nil]
              exact told

/-- News from the queue of a worker. -/
theorem beginNews {watchdog : Watchdog} (isThere : fabric.watchdogs[number]? = some watchdog)
    (worker : Nat) :
    Tells fabric (fabric.beginNews number worker watchdog)
      (fabric.tellingsIn
        (if watchdog.started && (watchdog.notifier.begin worker).2.isSome then
          some { watchdog := number, success := true, calls := [],
                 listeners := reached fabric.gateOpen watchdog.listeners }
        else none)) := by
  have isFlag : fabric.started? number = some watchdog.started := congrArg (Option.map _) isThere
  simp only [Fabric.beginNews]
  cases isBegun : watchdog.notifier.begin worker with
  | mk begun job =>
      cases job with
      | none =>
          rw [Option.isSome_none, Bool.and_false]
          exact refl fabric
      | some news =>
          have taken : (fabric.changeNotifier number fun _ => begun).started? number
              = some watchdog.started := by
            rw [← isFlag]
            exact started?_changeWatchdog fabric number number _ fun _ => rfl
          dsimp only
          cases flag : watchdog.started with
          | false => exact of_same rfl rfl
          | true =>
              rw [flag] at taken isFlag
              simp only [tellingsIn, Round.tellings, isFlag, Option.isSome_some, Bool.and_self, if_true]
              have passed : Tells fabric (fabric.changeNotifier number fun _ => begun) [] :=
                of_same rfl rfl
              exact passed.trans (tellOnWorker worker news.attempts watchdog.listeners taken)

theorem workerStep (fabric : Fabric) (number worker : Nat) :
    Tells fabric (fabric.workerStep number worker)
      (fabric.tellingsIn (fabric.workerRound? number worker)) := by
  cases isThere : fabric.watchdogs[number]? with
  | none =>
      simp only [Fabric.workerStep, workerRound?, isThere]
      exact refl fabric
  | some watchdog =>
      have flag : fabric.started? number = some watchdog.started := congrArg (Option.map _) isThere
      simp only [workerRound?, isThere]
      cases isHeld : watchdog.heldBy worker with
      | none =>
          rw [workerStep_of_unheld isThere isHeld]
          exact beginNews isThere worker
      | some held =>
          obtain ⟨observer, rest⟩ := held
          obtain ⟨attempts, goesOn⟩ := workerStep_of_held isThere isHeld
          rw [goesOn]
          dsimp only
          cases isOpen : fabric.gateOpen with
          | false => exact refl fabric
          | true =>
              have finished := deeds_finishObserver fabric number true attempts observer
              have flagNow := started?_finishObserver fabric number true attempts observer
              rw [flag] at flagNow
              have others := tellOnWorker worker attempts rest flagNow
              rw [finished.gateOpen, isOpen, reached_true] at others
              simp only [if_true, tellingsIn, Round.tellings, flag, Option.getD_some]
              exact (of_deeds finished).trans others

/-- The beginning of an attempt is told to no listener. -/
theorem issue (fabric : Fabric) (number : Nat) (origin : Origin) (watchdog : Watchdog) :
    Tells fabric (fabric.issue number origin watchdog) [] := by
  refine of_same ?_ rfl
  exact List.filterMap_append.trans (List.append_nil _)

theorem fire (fabric : Fabric) (index : Nat) : Tells fabric (fabric.fire index) [] := by
  have released : Tells fabric (fabric.release index).1 [] := of_same rfl rfl
  have retried : ∀ (fabric : Fabric) (number : Nat), Tells fabric (fabric.beginRetry number).1 [] := by
    intro fabric number
    simp only [beginRetry]
    split
    · exact refl fabric
    · split
      · exact issue fabric number .retry _
      · exact of_deeds (.log fabric _)
  unfold Fabric.fire
  split
  · rename_i changed number isReleased
    rw [isReleased] at released
    exact released.trans (retried changed number)
  · rename_i changed _ _ isReleased
    rw [isReleased] at released
    exact released

end Tells

theorem tells_step (fabric : Fabric) (event : FabricEvent) :
    Tells fabric (fabric.step event) (fabric.tellings event) := by
  cases event with
  | workerStep number worker => exact .workerStep fabric number worker
  | settle place outcome =>
      simp only [step, settle, tellings]
      cases isThere : fabric.underWay[place]? with
      | none =>
          have nobody : fabric.tellingsIn (fabric.round? (.settle place outcome)) = [] := by
            cases outcome with
            | failed error => rw [round?, isThere]; rfl
            | _ => rfl
          rw [nobody]
          exact .refl fabric
      | some attempt =>
          have ended : Tells fabric { fabric with underWay := fabric.underWay.eraseIdx place } [] :=
            .of_same rfl rfl
          cases outcome with
          | established =>
              exact ended.trans (.of_deeds
                ((deeds_establish _ attempt.watchdog false).trans (deeds_succeeded _ attempt _)))
          | flapped =>
              exact ended.trans (.of_deeds
                ((deeds_establish _ attempt.watchdog true).trans (deeds_succeeded _ attempt _)))
          | failed error =>
              simp only [round?, isThere, Option.bind_some]
              exact ended.trans (.failed _ attempt error)
  | beginCall number =>
      simp only [step, beginCall]
      split
      · exact .refl fabric
      · exact .issue fabric number .caller _
  | fire index => exact .fire fabric index
  | openGate => exact .of_same rfl rfl
  | _ => exact .of_deeds (deeds_step fabric rfl)

end Fabric

end Uplink
