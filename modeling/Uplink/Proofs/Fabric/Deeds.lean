/-
Module: Uplink.Proofs.Fabric.Deeds
Purpose: What the operations of watchdogs are made of, one deed after another, as long as no attempt begins or
  ends, no listener is told, and no worker goes on.
Main exports: Watchdog.heldBy, Fabric.Deed, Fabric.Deeds, Fabric.deeds_turnSwitch,
  Fabric.deeds_finishObserver, Fabric.deeds_notifySuccess, Fabric.deeds_close, Fabric.deeds_establish,
  Fabric.deeds_step
-/
import Mathlib.Logic.Relation
import Uplink.Fabric.Run
import Uplink.Proofs.Pool.Discreet
import Uplink.Proofs.Time.Moves

namespace Uplink

/-- Where a change of one entry does not show, the entries show the same at every place. -/
theorem map_getElem?_modify {First Second : Type} (view : First → Second) {change : First → First}
    {entries : List First} {number : Nat}
    (same : ∀ found, entries[number]? = some found → view (change found) = view found) (place : Nat) :
    ((entries.modify number change)[place]?).map view = (entries[place]?).map view := by
  rw [List.getElem?_modify]
  cases isThere : entries[place]? with
  | none => rfl
  | some found =>
      simp only [Option.map_eq_map, Option.map_some, Option.some.injEq]
      split
      · rename_i isPlace
        exact same found (isPlace ▸ isThere)
      · rfl

/-! ### What workers are at -/

namespace Notifier

variable {Job : Type}

/-- The job that a worker is at. -/
def jobOf (notifier : Notifier Job) (worker : Nat) : Option Job :=
  (notifier.workers[worker]?).bind Worker.running

theorem jobOf_change (notifier : Notifier Job) (number worker : Nat) (change : Worker Job → Worker Job) :
    (notifier.change number change).jobOf worker
      = if number = worker then (notifier.workers[worker]?).bind fun found => (change found).running
        else notifier.jobOf worker := by
  simp only [Notifier.change, jobOf, List.getElem?_modify]
  by_cases same : number = worker
  · rw [if_pos same]
    cases notifier.workers[worker]? with
    | none => rfl
    | some found => simp only [Option.map_eq_map, Option.map_some, if_pos same]; rfl
  · rw [if_neg same]
    cases notifier.workers[worker]? with
    | none => rfl
    | some found => simp only [Option.map_eq_map, Option.map_some, if_neg same]

/-- A worker that is made for a job is at nothing, and a job that waits does not disturb the others. -/
theorem jobOf_submit (notifier : Notifier Job) (job : Job) (worker : Nat) :
    (notifier.submit job).1.jobOf worker = notifier.jobOf worker := by
  have staffed : notifier.staffed.1.jobOf worker = notifier.jobOf worker := by
    rw [Notifier.staffed]
    cases notifier.current with
    | some _ => rfl
    | none =>
        simp only [jobOf, List.getElem?_append]
        split
        · rfl
        · rename_i beyond
          rw [List.getElem?_eq_none (Nat.le_of_not_lt beyond)]
          cases worker - notifier.workers.length <;> rfl
  simp only [Notifier.submit]
  split
  · rw [jobOf_change]
    split
    · exact staffed
    · exact staffed
  · exact staffed

end Notifier

/-- The observer that waits at the gate with a worker, and the listeners behind it. -/
def Watchdog.heldBy (watchdog : Watchdog) (worker : Nat) : Option (Observer × List Listener) :=
  (watchdog.notifier.jobOf worker).bind SuccessNews.held

namespace Fabric

/-- A single change: the timer moves, channels and pools change discreetly, a watchdog changes while its
workers stay where they are, or a connection changes that is as complete as before. -/
inductive Deed : Fabric → Fabric → Prop where
  | setTimer {fabric : Fabric} {timer : ManualTimer Nat} (move : fabric.timer.Move timer) :
      Deed fabric { fabric with timer }
  | setRoster {fabric : Fabric} {roster : Roster} (discreet : fabric.roster.Discreet roster) :
      Deed fabric { fabric with roster }
  | changeWatchdog {fabric : Fabric} {number : Nat} {change : Watchdog → Watchdog}
      (keeps : ∀ watchdog, fabric.watchdogs[number]? = some watchdog →
        (change watchdog).heldBy = watchdog.heldBy) :
      Deed fabric (fabric.changeWatchdog number change)
  | changeConnection {fabric : Fabric} {number : Nat}
      {change : Connection Nat ReconnectSwitch → Connection Nat ReconnectSwitch}
      (keeps : ∀ found, fabric.connections[number]? = some found →
        (change found).isComplete = found.isComplete) :
      Deed fabric { fabric with connections := fabric.connections.modify number change }

/-- Any number of deeds. -/
def Deeds : Fabric → Fabric → Prop :=
  Relation.ReflTransGen Deed

variable {before after fabric : Fabric} {number : Nat} {watchdog : Watchdog}

namespace Deeds

theorem refl (fabric : Fabric) : Deeds fabric fabric :=
  Relation.ReflTransGen.refl

theorem single (deed : Deed before after) : Deeds before after :=
  Relation.ReflTransGen.single deed

theorem trans {last : Fabric} (first : Deeds before after) (second : Deeds after last) :
    Deeds before last :=
  Relation.ReflTransGen.trans first second

theorem foldl {Entry : Type} {change : Fabric → Entry → Fabric}
    (does : ∀ changed entry, Deeds changed (change changed entry)) (entries : List Entry)
    (fabric : Fabric) : Deeds fabric (entries.foldl change fabric) := by
  induction entries generalizing fabric with
  | nil => exact .refl fabric
  | cons entry rest ih => exact (does fabric entry).trans (ih _)

theorem log (fabric : Fabric) (line : LogLine) : Deeds fabric (fabric.log line) :=
  .single (.setRoster (.of_events rfl))

theorem record (fabric : Fabric) {event : Event} (plain : event.isPlain = true) :
    Deeds fabric (fabric.record event) :=
  .single (.setRoster (.record fabric.roster plain))

theorem changeWatchdog (fabric : Fabric) (number : Nat) (change : Watchdog → Watchdog)
    (keeps : ∀ watchdog, (change watchdog).heldBy = watchdog.heldBy) :
    Deeds fabric (fabric.changeWatchdog number change) :=
  .single (.changeWatchdog fun watchdog _ => keeps watchdog)

theorem gateOpen (deeds : Deeds before after) : after.gateOpen = before.gateOpen := by
  induction deeds with
  | refl => rfl
  | tail _ deed ih => cases deed <;> exact ih

end Deeds

/-! ### Connections -/

theorem deeds_reportCompletion (number : Nat) (listeners : List Nat) (fabric : Fabric) :
    Deeds fabric (fabric.reportCompletion number listeners) :=
  Deeds.foldl (fun changed _ => .record changed rfl) listeners fabric

theorem deeds_setConnected (fabric : Fabric) (number : Nat) (connected : Bool) :
    Deeds fabric (fabric.setConnected number connected) :=
  .single (.changeConnection fun _ _ => rfl)

/-- A listener that waits for a connection does not complete it. -/
theorem deeds_addCompletionListener (fabric : Fabric) (number listener : Nat) :
    Deeds fabric (fabric.addCompletionListener number listener) := by
  simp only [Fabric.addCompletionListener]
  cases isThere : fabric.connections[number]? with
  | none => exact .refl _
  | some found =>
      have registered : Deed fabric { fabric with
          connections := fabric.connections.set number (found.addListener listener).1 } := by
        rw [List.set_eq_modify]
        refine .changeConnection fun other isOther => ?_
        rw [isThere] at isOther
        rw [← Option.some.inj isOther]
        exact Latch.isDone_listen found.completion listener
      exact (Deeds.single registered).trans (deeds_reportCompletion number _ _)

/-! ### Starting, stopping and scheduling -/

theorem deeds_start (fabric : Fabric) (number : Nat) : Deeds fabric (fabric.start number).1 := by
  simp only [Fabric.start]
  split
  · exact .refl _
  · split
    · exact .refl _
    · exact (Deeds.changeWatchdog fabric number _ fun _ => by rfl).trans (.log _ _)

theorem deeds_cancelPending (fabric : Fabric) (pending : Option Nat) :
    Deeds fabric (fabric.cancelPending pending) := by
  cases pending with
  | none => exact .refl _
  | some handle => exact .single (.setTimer (.cancel fabric.timer handle))

theorem deeds_stop (fabric : Fabric) (number : Nat) : Deeds fabric (fabric.stop number).1 := by
  simp only [Fabric.stop]
  split
  · exact .refl _
  · rename_i watchdog _
    have stopped := (deeds_cancelPending fabric watchdog.pending).trans
      (Deeds.changeWatchdog _ number (fun found =>
        { found with started := false, pending := none, notifier := found.notifier.shutDown }) fun _ => rfl)
    split
    · exact stopped.trans (.log _ _)
    · exact stopped

/-- Starting a watchdog touches neither the timer nor the pools. -/
theorem start_of_getElem? (isThere : fabric.watchdogs[number]? = some watchdog) :
    (fabric.start number).1.watchdogs[number]? = some { watchdog with started := true }
      ∧ (fabric.start number).1.timer = fabric.timer
      ∧ (fabric.start number).1.roster.pools = fabric.roster.pools := by
  simp only [start, isThere]
  split
  · rename_i isStarted
    refine ⟨?_, rfl, rfl⟩
    rw [isThere, ← isStarted]
  · refine ⟨?_, rfl, rfl⟩
    change (fabric.watchdogs.modify number _)[number]? = _
    rw [List.getElem?_modify_eq, isThere]
    rfl

theorem watchdogs_stop (isThere : fabric.watchdogs[number]? = some watchdog) :
    (fabric.stop number).1.watchdogs[number]?
      = some { watchdog with
          started := false, pending := none, notifier := watchdog.notifier.shutDown } := by
  have changed : (fabric.stop number).1.watchdogs = fabric.watchdogs.modify number fun found =>
      { found with started := false, pending := none, notifier := found.notifier.shutDown } := by
    simp only [stop, isThere]
    cases watchdog.pending <;> (split <;> rfl)
  rw [changed, List.getElem?_modify_eq, isThere]
  rfl

theorem deeds_turnSwitch (fabric : Fabric) (connection : Nat) (enabled : Bool) :
    Deeds fabric (fabric.turnSwitch connection enabled) := by
  simp only [Fabric.turnSwitch]
  split
  · exact .refl _
  · split
    · rename_i number _
      cases enabled with
      | true => exact deeds_start fabric number
      | false => exact deeds_stop fabric number
    · exact .record fabric rfl
    · exact .log fabric _

theorem deeds_schedule (fabric : Fabric) (number : Nat) (delay : Span) :
    Deeds fabric (fabric.schedule number delay).1 := by
  simp only [Fabric.schedule]
  split
  · exact .refl _
  · rename_i timer handle accepted
    have scheduled : Deeds fabric { fabric with timer } := .single (.setTimer (.schedule accepted))
    exact scheduled.trans ((Deeds.record _ rfl).trans (.changeWatchdog _ number _ fun _ => rfl))

theorem deeds_onDisconnected (fabric : Fabric) (number : Nat) :
    Deeds fabric (fabric.onDisconnected number) := by
  simp only [Fabric.onDisconnected]
  split
  · exact .refl _
  · rename_i watchdog _
    split
    · have announced := (Deeds.changeWatchdog fabric number (fun found =>
          { found with attempts := found.attempts + 1 }) fun _ => rfl).trans
        (.log _ (watchdog.line .debug "reconnect scheduled"
          [("attempts", Text.decimal watchdog.nextAttempts.toNat),
           ("delay_ms",
              Text.decimal (watchdog.backoff.delayFor watchdog.nextAttempts).clampedMillis.toNat)]))
      have scheduled := announced.trans
        (deeds_schedule _ number (watchdog.backoff.delayFor watchdog.nextAttempts))
      split
      · rename_i changed isChanged
        rw [isChanged] at scheduled
        exact scheduled
      · rename_i changed error isChanged
        rw [isChanged] at scheduled
        exact scheduled.trans (.log _ _)
    · exact .log fabric _

/-! ### What listeners do -/

theorem deeds_makeCall (fabric : Fabric) (number : Nat) (label : String) (call : ListenerCall) :
    Deeds fabric (fabric.makeCall number label call) := by
  cases call with
  | stop => exact (deeds_stop fabric number).trans (.record _ rfl)
  | start => exact (deeds_start fabric number).trans (.record _ rfl)
  | enlist name gated calls outcome => exact .changeWatchdog fabric number _ fun _ => rfl
  | dismiss removed =>
      simp only [Fabric.makeCall]
      split
      · exact .refl _
      · exact (Deeds.changeWatchdog fabric number _ fun _ => by rfl).trans (.record _ rfl)
  | schedule delay => exact (deeds_schedule fabric number delay).trans (.record _ rfl)

theorem deeds_finishObserver (fabric : Fabric) (number : Nat) (success : Bool) (attempts : UInt32)
    (observer : Observer) : Deeds fabric (fabric.finishObserver number success attempts observer) := by
  have called := Deeds.foldl (fun changed call => deeds_makeCall changed number observer.label call)
    observer.calls fabric
  simp only [Fabric.finishObserver]
  split
  · exact called
  · split
    · exact called
    · exact called.trans (.log _ _)
    · exact called.trans (.log _ _)

theorem deeds_notifySuccess (fabric : Fabric) (number : Nat) (attempts : UInt32) :
    Deeds fabric (fabric.notifySuccess number attempts) := by
  simp only [Fabric.notifySuccess]
  split
  · exact .refl _
  · rename_i watchdog isThere
    split
    · have passed : Deeds fabric (fabric.changeWatchdog number fun found =>
          { found with notifier := (watchdog.notifier.submit { attempts, held := none }).1 }) := by
        refine .single (.changeWatchdog fun other isOther => ?_)
        rw [isThere] at isOther
        rw [← Option.some.inj isOther]
        funext worker
        simp only [Watchdog.heldBy, Notifier.jobOf_submit]
      split
      · exact passed
      · exact passed.trans (.log _ _)
    · exact .refl _

/-! ### Channels -/

theorem deeds_tellNext (fabric : Fabric) (next : NextHandler) (channel : Nat) (notice : ChannelNotice) :
    Deeds fabric (fabric.tellNext next channel notice) := by
  cases next with
  | nobody => exact .refl _
  | recorder name => exact .record fabric rfl
  | tracker connection application =>
      have noted : Deeds fabric (fabric.tellNext (.tracker connection none) channel notice) := by
        simp only [Fabric.tellNext]
        split
        · exact deeds_setConnected fabric connection true
        · exact deeds_setConnected fabric connection false
        · exact .refl _
      cases application with
      | none => exact noted
      | some name => exact noted.trans (.record _ rfl)

theorem deeds_channelActive (fabric : Fabric) (number channel : Nat) :
    Deeds fabric (fabric.channelActive number channel) := by
  simp only [Fabric.channelActive]
  split
  · exact .refl _
  · have counted : Deeds fabric (fabric.changeWatchdog number fun found =>
        { found with attempts := 0 }) := .changeWatchdog fabric number _ fun _ => rfl
    refine Deeds.trans ?_ (deeds_tellNext _ _ channel .active)
    refine Deeds.trans ?_ (.log _ _)
    split
    · exact counted.trans (.single <| .setRoster (.enroll _ _ channel))
    · exact counted

theorem deeds_channelInactive (fabric : Fabric) (number channel : Nat) :
    Deeds fabric (fabric.channelInactive number channel) := by
  simp only [Fabric.channelInactive]
  split
  · exact .refl _
  · exact (Deeds.log fabric _).trans
      ((deeds_onDisconnected _ number).trans (deeds_tellNext _ _ channel _))

theorem deeds_channelRead (fabric : Fabric) (number channel : Nat) (frame : Frame) :
    Deeds fabric (fabric.channelRead number channel frame) := by
  simp only [Fabric.channelRead]
  split
  · exact .refl _
  · exact deeds_tellNext fabric _ channel _

theorem deeds_channelException (fabric : Fabric) (number channel : Nat) (error : TransportError) :
    Deeds fabric (fabric.channelException number channel error) := by
  simp only [Fabric.channelException]
  split
  · exact .refl _
  · exact (Deeds.log fabric _).trans (deeds_tellNext _ _ channel _)

theorem deeds_close (fabric : Fabric) (channel : Nat) : Deeds fabric (fabric.close channel) := by
  have shut : Deeds fabric { fabric with roster := (fabric.roster.close channel).1 } :=
    .single (.setRoster (.close fabric.roster channel))
  simp only [Fabric.close]
  split
  · exact shut.trans (deeds_channelInactive _ _ channel)
  · exact shut

/-! ### The end of an attempt -/

theorem deeds_succeeded (fabric : Fabric) (attempt : Attempt) (channel : Nat) :
    Deeds fabric (fabric.succeeded attempt channel) := by
  simp only [Fabric.succeeded]
  refine Deeds.trans ?_ (deeds_notifySuccess _ attempt.watchdog attempt.attempts)
  split
  · exact .log fabric _
  · exact .refl _

theorem deeds_establish (fabric : Fabric) (number : Nat) (flaps : Bool) :
    Deeds fabric (fabric.establish number flaps).1 := by
  have opened : Deeds fabric
      { fabric with roster := (fabric.roster.openChannel (some number)).1 } :=
    .single (.setRoster (.of_events rfl))
  have active := opened.trans
    (deeds_channelActive _ number (fabric.roster.openChannel (some number)).2)
  cases flaps with
  | false => exact active
  | true => exact active.trans (deeds_close _ _)

/-! ### Events -/

/-- Whether an event is made of deeds: no attempt begins or ends by it, no worker goes on, and the gate stays. -/
def isDeed : FabricEvent → Bool
  | .beginCall _ => false
  | .fire _ => false
  | .settle .. => false
  | .workerStep .. => false
  | .openGate => false
  | _ => true

theorem deeds_step (fabric : Fabric) {event : FabricEvent} (deed : isDeed event = true) :
    Deeds fabric (fabric.step event) := by
  cases event with
  | beginCall | fire | settle | workerStep | openGate => cases deed
  | schedule number delay =>
      simp only [step]
      split
      · exact deeds_schedule fabric number delay
      · exact .refl fabric
  | start number => exact deeds_start fabric number
  | stop number => exact deeds_stop fabric number
  | turnSwitch connection enabled => exact deeds_turnSwitch fabric connection enabled
  | addListener number listener => exact .changeWatchdog fabric number _ fun _ => rfl
  | dismiss number label => exact .changeWatchdog fabric number _ fun _ => rfl
  | active number channel => exact deeds_channelActive fabric number channel
  | inactive number channel => exact deeds_channelInactive fabric number channel
  | read number channel frame => exact deeds_channelRead fabric number channel frame
  | exception number channel error => exact deeds_channelException fabric number channel error
  | close channel => exact deeds_close fabric channel
  | addCompletionListener connection listener => exact deeds_addCompletionListener fabric connection listener
  | stopTimer => exact .single (.setTimer (.stop fabric.timer))
  | onRoster event => exact .single (.setRoster (.step fabric.roster event))

end Fabric

end Uplink
