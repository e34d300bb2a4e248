/-
Module: Uplink.Proofs.Fabric.Files
Purpose: Two views of a fabric besides its outline: who waits for news and what was reported, and how far each
  watchdog has counted.  Most operations leave both as they are.
Main exports: Files, Gauge, Fabric.files, Fabric.gauges, Fabric.Level, Fabric.lose, Fabric.reset,
  Fabric.level_onDisconnected, Fabric.level_channelActive, Fabric.level_close_of_handler,
  Fabric.level_notifySuccess, Fabric.files_completeConnection, Fabric.files_addCompletionListener
-/
import Uplink.Fabric.Run
import Uplink.Proofs.Fabric.Outline
import Uplink.Proofs.Fabric.Rounds
import Uplink.Proofs.Pool.Roster

namespace Uplink

/-! ### Reports of completion -/

/-- The number that the report of a completion listener shows. -/
def Event.report? : Event → Option Nat
  | .completed listener _ => some listener
  | _ => none

namespace Roster

/-- The reports of completion listeners so far, in order. -/
def reports (roster : Roster) : List Nat :=
  roster.journal.events.filterMap Event.report?

variable {roster : Roster}

theorem reports_record (roster : Roster) (event : Event) :
    (roster.record event).reports = roster.reports ++ event.report?.toList := by
  simp only [reports, record, Journal.record, List.filterMap_append, List.filterMap_cons, List.filterMap_nil]
  cases event.report? <;> rfl

theorem reports_record_of_none (roster : Roster) {event : Event} (plain : event.report? = none) :
    (roster.record event).reports = roster.reports := by
  rw [reports_record, plain, Option.toList_none, List.append_nil]

theorem reports_changeChannel (roster : Roster) (channel : Nat) (change : Channel → Channel) :
    (roster.changeChannel channel change).reports = roster.reports := by
  simp only [changeChannel]
  split <;> rfl

theorem reports_evict (roster : Roster) (pool channel : Nat) :
    (roster.evict pool channel).1.reports = roster.reports := by
  cases found : roster.pools[pool]? with
  | none => rw [evict_of_none found]
  | some held =>
      rw [evict_of_some found]
      split <;> rfl

theorem reports_enroll (roster : Roster) (pool channel : Nat) :
    (roster.enroll pool channel).1.reports = roster.reports := by
  cases found : roster.pools[pool]? with
  | none => rw [enroll_of_none found]
  | some held =>
      by_cases member : channel ∈ held.members
      · rw [enroll_of_mem found member]
        rfl
      · rw [enroll_of_not_mem found member]
        have entered : (roster.entered pool channel held).reports = roster.reports :=
          reports_changeChannel (roster.setPool pool _) channel _
        change (roster.admitted pool channel held).reports = _
        rw [admitted]
        split
        · rw [reports_evict, entered]
        · exact entered

theorem reports_runHook (roster : Roster) (channel : Nat) (hook : CloseHook) :
    (roster.runHook channel hook).reports = roster.reports := by
  cases hook with
  | release pool => exact reports_evict roster pool channel
  | observe label pool reenrolls =>
      have measured : (roster.record (.measured label (roster.sizeOf pool))).reports = roster.reports :=
        reports_record_of_none roster rfl
      simp only [runHook]
      split
      · rw [reports_record_of_none _ rfl, reports_enroll, measured]
      · exact measured
  | calls pool made =>
      simp only [runHook]
      induction made generalizing roster with
      | nil => rfl
      | cons call rest ih =>
          rw [List.foldl_cons, ih]
          cases call with
          | enroll other => exact reports_enroll roster pool other
          | evict other => exact reports_evict roster pool other

theorem reports_runHooks (channel : Nat) (due : List CloseHook) (roster : Roster) :
    (roster.runHooks channel due).reports = roster.reports := by
  induction due generalizing roster with
  | nil => rfl
  | cons hook rest ih => exact (ih _).trans (reports_runHook roster channel hook)

theorem reports_close (roster : Roster) (channel : Nat) :
    (roster.close channel).1.reports = roster.reports := by
  cases isOpen : roster.isOpen channel with
  | false => rw [close_of_not_open isOpen]
  | true =>
      rw [close_of_open isOpen]
      simp only [unhandle, shut, reports_changeChannel, reports_runHooks]

end Roster

/-! ### Two views -/

/-- Who waits for news, and what was reported: for each watchdog its listeners and its workers, for each
connection the latch of its completion and its switch, and the reports of completion listeners. -/
structure Files where
  audiences : List (List Listener)
  staffs : List (List (Worker SuccessNews))
  latches : List (Latch Nat)
  switches : List (Option ReconnectSwitch)
  reports : List Nat

/-- How far a watchdog has counted, and how it turns that into delays. -/
structure Gauge where
  attempts : UInt32
  backoff : Backoff

def Watchdog.gauge (watchdog : Watchdog) : Gauge :=
  { attempts := watchdog.attempts, backoff := watchdog.backoff }

/-- One attempt more. -/
def Gauge.advance (gauge : Gauge) : Gauge :=
  { gauge with attempts := gauge.attempts + 1 }

/-- No attempts. -/
def Gauge.restart (gauge : Gauge) : Gauge :=
  { gauge with attempts := 0 }

/-- Whether an attempt ends with a channel. -/
def Outcome.isUp : Outcome → Bool
  | .failed _ => false
  | _ => true

namespace Fabric

def files (fabric : Fabric) : Files :=
  { audiences := fabric.watchdogs.map Watchdog.listeners
    staffs := fabric.watchdogs.map fun watchdog => watchdog.notifier.workers
    latches := fabric.connections.map Connection.completion
    switches := fabric.connections.map Connection.switch
    reports := fabric.roster.reports }

def gauges (fabric : Fabric) : List Gauge :=
  fabric.watchdogs.map Watchdog.gauge

/-- A change that neither view shows, and that does not stop the timer. -/
structure Level (before after : Fabric) : Prop where
  files : after.files = before.files
  gauges : after.gauges = before.gauges
  stopped : after.timer.stopped = before.timer.stopped

/-- A watchdog counts one attempt more. -/
def counted (fabric : Fabric) (number : Nat) : Fabric :=
  fabric.changeWatchdog number fun found => { found with attempts := found.attempts + 1 }

/-- A watchdog that has lost a link counts one attempt more, if it wants another channel. -/
def lose (fabric : Fabric) (number : Nat) : Fabric :=
  if fabric.reconnectNeeded number then fabric.counted number else fabric

/-- A watchdog counts from zero. -/
def reset (fabric : Fabric) (number : Nat) : Fabric :=
  fabric.changeWatchdog number fun found => { found with attempts := 0 }

variable {fabric before after : Fabric} {number : Nat}

theorem files_counted (fabric : Fabric) (number : Nat) : (fabric.counted number).files = fabric.files := by
  have audiences := map_modify_of_same Watchdog.listeners
    (fun found => { found with attempts := found.attempts + 1 }) (fun _ => rfl) fabric.watchdogs number
  have staffs := map_modify_of_same (fun watchdog => watchdog.notifier.workers)
    (fun found => { found with attempts := found.attempts + 1 }) (fun _ => rfl) fabric.watchdogs number
  simp only [files, counted, changeWatchdog, audiences, staffs]

theorem gauges_counted (fabric : Fabric) (number : Nat) :
    (fabric.counted number).gauges = fabric.gauges.modify number Gauge.advance := by
  have agree : ∀ found : Watchdog,
      ({ found with attempts := found.attempts + 1 } : Watchdog).gauge = found.gauge.advance := fun _ => rfl
  exact map_modify agree fabric.watchdogs number

theorem gauges_reset (fabric : Fabric) (number : Nat) :
    (fabric.reset number).gauges = fabric.gauges.modify number Gauge.restart := by
  have agree : ∀ found : Watchdog,
      ({ found with attempts := 0 } : Watchdog).gauge = found.gauge.restart := fun _ => rfl
  exact map_modify agree fabric.watchdogs number

theorem files_lose (fabric : Fabric) (number : Nat) : (fabric.lose number).files = fabric.files := by
  simp only [lose]
  split
  · exact files_counted fabric number
  · rfl

theorem files_reset (fabric : Fabric) (number : Nat) : (fabric.reset number).files = fabric.files := by
  have audiences := map_modify_of_same Watchdog.listeners
    (fun found => { found with attempts := 0 }) (fun _ => rfl) fabric.watchdogs number
  have staffs := map_modify_of_same (fun watchdog => watchdog.notifier.workers)
    (fun found => { found with attempts := 0 }) (fun _ => rfl) fabric.watchdogs number
  simp only [files, reset, changeWatchdog, audiences, staffs]

namespace Level

theorem refl (fabric : Fabric) : Level fabric fabric :=
  ⟨rfl, rfl, rfl⟩

theorem trans {last : Fabric} (first : Level before after) (second : Level after last) :
    Level before last :=
  ⟨second.files.trans first.files, second.gauges.trans first.gauges, second.stopped.trans first.stopped⟩

theorem log (fabric : Fabric) (line : LogLine) : Level fabric (fabric.log line) :=
  ⟨rfl, rfl, rfl⟩

/-- A change of the channels and pools that reports no completion. -/
theorem setRoster {roster : Roster} (same : roster.reports = fabric.roster.reports) :
    Level fabric { fabric with roster } := by
  refine ⟨?_, rfl, rfl⟩
  simp only [Fabric.files, same]

theorem record (fabric : Fabric) {event : Event} (plain : event.report? = none) :
    Level fabric (fabric.record event) :=
  setRoster (Roster.reports_record_of_none fabric.roster plain)

theorem setTimer {timer : ManualTimer Nat} (same : timer.stopped = fabric.timer.stopped) :
    Level fabric { fabric with timer } :=
  ⟨rfl, rfl, same⟩

/-- A change of a watchdog that touches neither its listeners and workers nor its count. -/
theorem changeWatchdog (fabric : Fabric) (number : Nat) (change : Watchdog → Watchdog)
    (same : ∀ watchdog, (change watchdog).listeners = watchdog.listeners
      ∧ (change watchdog).notifier.workers = watchdog.notifier.workers
      ∧ (change watchdog).gauge = watchdog.gauge) :
    Level fabric (fabric.changeWatchdog number change) := by
  have audiences := map_modify_of_same Watchdog.listeners change (fun watchdog => (same watchdog).1)
    fabric.watchdogs number
  have staffs := map_modify_of_same (fun watchdog => watchdog.notifier.workers) change
    (fun watchdog => (same watchdog).2.1) fabric.watchdogs number
  refine ⟨?_, map_modify_of_same Watchdog.gauge change (fun watchdog => (same watchdog).2.2) _ number, rfl⟩
  simp only [Fabric.files, Fabric.changeWatchdog, audiences, staffs]

/-- Two changes of count that do not look at what differs. -/
theorem lose (level : Level before after)
    (sameNeed : after.reconnectNeeded number = before.reconnectNeeded number) :
    Level (before.lose number) (after.lose number) := by
  refine ⟨?_, ?_, ?_⟩
  · rw [files_lose, files_lose, level.files]
  · simp only [Fabric.lose, sameNeed]
    split
    · rw [gauges_counted, gauges_counted, level.gauges]
    · exact level.gauges
  · simp only [Fabric.lose, sameNeed]
    split <;> exact level.stopped

end Level

/-! ### Starting, stopping and scheduling -/

theorem level_start (fabric : Fabric) (number : Nat) : Level fabric (fabric.start number).1 := by
  simp only [start]
  split
  · exact .refl fabric
  · split
    · exact .refl fabric
    · exact (Level.changeWatchdog fabric number _ fun _ => by exact ⟨rfl, rfl, rfl⟩).trans (.log _ _)

theorem level_cancelPending (fabric : Fabric) (pending : Option Nat) :
    Level fabric (fabric.cancelPending pending) := by
  cases pending with
  | none => exact .refl fabric
  | some handle => exact .setTimer rfl

theorem level_stop (fabric : Fabric) (number : Nat) : Level fabric (fabric.stop number).1 := by
  simp only [stop]
  split
  · exact .refl fabric
  · rename_i watchdog _
    have stopped := (level_cancelPending fabric watchdog.pending).trans
      (Level.changeWatchdog _ number (fun found =>
        { found with started := false, pending := none, notifier := found.notifier.shutDown })
        fun _ => ⟨rfl, rfl, rfl⟩)
    split
    · exact stopped.trans (.log _ _)
    · exact stopped

theorem level_turnSwitch (fabric : Fabric) (connection : Nat) (enabled : Bool) :
    Level fabric (fabric.turnSwitch connection enabled) := by
  simp only [turnSwitch]
  split
  · exact .refl fabric
  · split
    · rename_i number _
      cases enabled with
      | true => exact level_start fabric number
      | false => exact level_stop fabric number
    · exact .record fabric rfl
    · exact .log fabric _

theorem level_schedule (fabric : Fabric) (number : Nat) (delay : Span) :
    Level fabric (fabric.schedule number delay).1 := by
  simp only [schedule]
  split
  · exact .refl fabric
  · rename_i timer handle accepted
    have taken : Level fabric { fabric with timer } := by
      apply Level.setTimer
      rw [ManualTimer.including_of_schedule accepted]
      rfl
    exact taken.trans ((Level.record _ rfl).trans (.changeWatchdog _ number _ fun _ => ⟨rfl, rfl, rfl⟩))

/-- A lost link is counted if another channel is wanted; what follows shows in neither view. -/
theorem level_onDisconnected (fabric : Fabric) (number : Nat) :
    Level (fabric.lose number) (fabric.onDisconnected number) := by
  cases isThere : fabric.watchdogs[number]? with
  | none =>
      simp only [onDisconnected, lose, reconnectNeeded, isThere]
      exact .refl fabric
  | some watchdog =>
      simp only [onDisconnected, lose, reconnectNeeded, isThere, counted]
      split
      · have scheduled := (Level.log (fabric.counted number) (watchdog.line .debug "reconnect scheduled"
            [("attempts", Text.decimal watchdog.nextAttempts.toNat),
             ("delay_ms",
                Text.decimal (watchdog.backoff.delayFor watchdog.nextAttempts).clampedMillis.toNat)])).trans
          (level_schedule _ number (watchdog.backoff.delayFor watchdog.nextAttempts))
        simp only [counted] at scheduled
        split
        · rename_i changed isChanged
          rw [isChanged] at scheduled
          exact scheduled
        · rename_i changed error isChanged
          rw [isChanged] at scheduled
          exact scheduled.trans (.log _ _)
      · exact .log fabric _

/-! ### Channels -/

theorem level_setConnected (fabric : Fabric) (number : Nat) (connected : Bool) :
    Level fabric (fabric.setConnected number connected) := by
  have latches := map_modify_of_same Connection.completion
    (fun found : Connection Nat ReconnectSwitch => found.setConnected connected) (fun _ => rfl)
    fabric.connections number
  have switches := map_modify_of_same Connection.switch
    (fun found : Connection Nat ReconnectSwitch => found.setConnected connected) (fun _ => rfl)
    fabric.connections number
  refine ⟨?_, rfl, rfl⟩
  simp only [files, setConnected, latches, switches]

theorem level_tellNext (fabric : Fabric) (next : NextHandler) (channel : Nat) (notice : ChannelNotice) :
    Level fabric (fabric.tellNext next channel notice) := by
  cases next with
  | nobody => exact .refl fabric
  | recorder name => exact .record fabric rfl
  | tracker connection application =>
      have noted : Level fabric (fabric.tellNext (.tracker connection none) channel notice) := by
        simp only [tellNext]
        split
        · exact level_setConnected fabric connection true
        · exact level_setConnected fabric connection false
        · exact .refl fabric
      cases application with
      | none => exact noted
      | some name => exact noted.trans (.record _ rfl)

/-- A channel that becomes active lets its watchdog count from zero. -/
theorem level_channelActive (fabric : Fabric) (number channel : Nat) :
    Level (fabric.reset number) (fabric.channelActive number channel) := by
  simp only [channelActive]
  split
  · rename_i isAbsent
    have same : fabric.reset number = fabric := by
      simp only [reset, changeWatchdog, List.modify_eq_self (List.getElem?_eq_none_iff.1 isAbsent)]
    rw [same]
    exact .refl fabric
  · refine Level.trans ?_ (level_tellNext _ _ channel .active)
    refine Level.trans ?_ (.log _ _)
    split
    · exact .setRoster (Roster.reports_enroll _ _ channel)
    · exact .refl _

theorem level_channelInactive (fabric : Fabric) (number channel : Nat) :
    Level (fabric.lose number) (fabric.channelInactive number channel) := by
  simp only [channelInactive]
  split
  · rename_i isAbsent
    have same : fabric.lose number = fabric := by simp only [lose, reconnectNeeded, isAbsent]; rfl
    rw [same]
    exact .refl fabric
  · rename_i watchdog _
    have logged : Level (fabric.lose number) ((fabric.log _).lose number) :=
      (Level.log fabric (channelLine watchdog "channel inactive" channel [])).lose rfl
    exact logged.trans ((level_onDisconnected _ number).trans (level_tellNext _ _ channel _))

theorem level_channelRead (fabric : Fabric) (number channel : Nat) (frame : Frame) :
    Level fabric (fabric.channelRead number channel frame) := by
  simp only [channelRead]
  split
  · exact .refl fabric
  · exact level_tellNext fabric _ channel _

theorem level_channelException (fabric : Fabric) (number channel : Nat) (error : TransportError) :
    Level fabric (fabric.channelException number channel error) := by
  simp only [channelException]
  split
  · exact .refl fabric
  · exact (Level.log fabric _).trans (level_tellNext _ _ channel _)

/-- The fabric in which the watchdog of a channel that closes learns of the loss. -/
def shut (fabric : Fabric) (channel : Nat) : Fabric :=
  { fabric with roster := (fabric.roster.close channel).1 }

theorem level_shut (fabric : Fabric) (channel : Nat) : Level fabric (fabric.shut channel) :=
  .setRoster (Roster.reports_close fabric.roster channel)

/-- A channel that closes is a loss for the watchdog that handles it. -/
theorem level_close_of_handler {channel : Nat} (handles : (fabric.roster.close channel).2 = some number) :
    Level ((fabric.shut channel).lose number) (fabric.close channel) := by
  simp only [close, handles]
  exact level_channelInactive (fabric.shut channel) number channel

theorem level_close_of_none {channel : Nat} (nobody : (fabric.roster.close channel).2 = none) :
    Level fabric (fabric.close channel) := by
  simp only [close, nobody]
  exact level_shut fabric channel

theorem files_close (fabric : Fabric) (channel : Nat) : (fabric.close channel).files = fabric.files := by
  cases handler : (fabric.roster.close channel).2 with
  | none => exact (level_close_of_none handler).files
  | some number =>
      rw [(level_close_of_handler handler).files, files_lose, (level_shut fabric channel).files]

theorem files_establish (fabric : Fabric) (number : Nat) (flaps : Bool) :
    (fabric.establish number flaps).1.files = fabric.files := by
  have opened : Level fabric { fabric with roster := (fabric.roster.openChannel (some number)).1 } :=
    .setRoster rfl
  have active : (Fabric.channelActive _ number _).files = fabric.files :=
    (level_channelActive _ number (fabric.roster.openChannel (some number)).2).files.trans
      ((files_reset _ number).trans opened.files)
  cases flaps with
  | false => exact active
  | true => exact (files_close _ _).trans active

/-! ### Attempts -/

theorem level_issue (fabric : Fabric) (number : Nat) (origin : Origin) (watchdog : Watchdog) :
    Level fabric (fabric.issue number origin watchdog) := by
  have begun : Level fabric { fabric with
      underWay := fabric.underWay ++ [{ watchdog := number, origin, attempts := watchdog.attempts }]
      connects := fabric.connects + 1 } := ⟨rfl, rfl, rfl⟩
  exact begun.trans (.record _ rfl)

theorem level_beginCall (fabric : Fabric) (number : Nat) : Level fabric (fabric.beginCall number) := by
  simp only [beginCall]
  split
  · exact .refl fabric
  · exact level_issue fabric number .caller _

theorem level_beginRetry (fabric : Fabric) (number : Nat) : Level fabric (fabric.beginRetry number).1 := by
  simp only [beginRetry]
  split
  · exact .refl fabric
  · split
    · exact level_issue fabric number .retry _
    · exact .log fabric _

theorem level_release (fabric : Fabric) (index : Nat) : Level fabric (fabric.release index).1 :=
  .setTimer (ManualTimer.stopped_release fabric.timer index)

theorem level_fire (fabric : Fabric) (index : Nat) : Level fabric (fabric.fire index) := by
  have released := level_release fabric index
  unfold fire
  split
  · rename_i changed number isReleased
    rw [isReleased] at released
    exact released.trans (level_beginRetry changed number)
  · rename_i changed _ _ isReleased
    rw [isReleased] at released
    exact released

/-! ### Telling of a success -/

/-- News of a success changes the workers of its watchdog or nothing. -/
theorem level_notifySuccess (fabric : Fabric) (number : Nat) (attempts : UInt32) :
    Level fabric (fabric.notifySuccess number attempts)
      ∨ ∃ watchdog, fabric.watchdogs[number]? = some watchdog
        ∧ Level (fabric.changeNotifier number fun _ =>
            (watchdog.notifier.submit { attempts, held := none }).1) (fabric.notifySuccess number attempts) := by
  simp only [notifySuccess]
  split
  · exact .inl (.refl fabric)
  · rename_i watchdog isThere
    split
    · refine .inr ⟨watchdog, isThere, ?_⟩
      split
      · exact .refl _
      · exact .log _ _
    · exact .inl (.refl fabric)

end Fabric

/-! ### Completing connections -/

namespace Files

/-- A connection is completed; whoever waits reports in order. -/
def complete (files : Files) (number : Nat) : Files :=
  match files.latches[number]? with
  | none => files
  | some latch =>
      { files with
        latches := files.latches.set number latch.complete.1
        reports := files.reports ++ latch.complete.2.2 }

/-- A completion listener is registered. -/
def listen (files : Files) (number listener : Nat) : Files :=
  match files.latches[number]? with
  | none => files
  | some latch =>
      { files with
        latches := files.latches.set number (latch.listen listener).1
        reports := files.reports ++ (latch.listen listener).2 }

end Files

namespace Fabric

theorem files_reportCompletion (number : Nat) (listeners : List Nat) (fabric : Fabric) :
    (fabric.reportCompletion number listeners).files
      = { fabric.files with reports := fabric.files.reports ++ listeners } := by
  induction listeners generalizing fabric with
  | nil => simp only [reportCompletion, List.foldl_nil, List.append_nil]
  | cons listener rest ih =>
      have first : (fabric.record (.completed listener (fabric.isConnected number))).files
          = { fabric.files with reports := fabric.files.reports ++ [listener] } := by
        simp only [files, record, Roster.reports_record, Event.report?, Option.toList_some]
      refine (ih _).trans ?_
      rw [first, List.append_assoc]
      rfl

/-- Putting another connection with the same switch into a place. -/
theorem files_setConnection {fabric : Fabric} {number : Nat} {found other : Connection Nat ReconnectSwitch}
    (isThere : fabric.connections[number]? = some found) (same : other.switch = found.switch) :
    ({ fabric with connections := fabric.connections.set number other } : Fabric).files
      = { fabric.files with latches := fabric.files.latches.set number other.completion } := by
  have switches : (fabric.connections.set number other).map Connection.switch
      = fabric.connections.map Connection.switch := map_set_of_same isThere same
  have latches : (fabric.connections.set number other).map Connection.completion
      = (fabric.connections.map Connection.completion).set number other.completion := List.map_set
  simp only [files, switches, latches]

theorem files_completeConnection (fabric : Fabric) (number : Nat) :
    (fabric.completeConnection number).files = fabric.files.complete number := by
  have latch : fabric.files.latches[number]? = (fabric.connections[number]?).map Connection.completion :=
    List.getElem?_map
  simp only [completeConnection, Files.complete, latch]
  cases isThere : fabric.connections[number]? with
  | none => rfl
  | some found =>
      have same : found.setComplete.1.switch = found.switch := rfl
      dsimp only [Option.map_some]
      rw [files_reportCompletion, files_setConnection isThere same]
      rfl

theorem files_addCompletionListener (fabric : Fabric) (number listener : Nat) :
    (fabric.addCompletionListener number listener).files = fabric.files.listen number listener := by
  have latch : fabric.files.latches[number]? = (fabric.connections[number]?).map Connection.completion :=
    List.getElem?_map
  simp only [addCompletionListener, Files.listen, latch]
  cases isThere : fabric.connections[number]? with
  | none => rfl
  | some found =>
      have same : (found.addListener listener).1.switch = found.switch := rfl
      dsimp only [Option.map_some]
      rw [files_reportCompletion, files_setConnection isThere same]
      rfl

/-- To register a completion listener changes a connection and the journal. -/
theorem addCompletionListener_eq (fabric : Fabric) (number listener : Nat) :
    ∃ roster connections, fabric.addCompletionListener number listener
      = { fabric with roster, connections } := by
  simp only [addCompletionListener]
  split
  · exact ⟨fabric.roster, fabric.connections, rfl⟩
  · rename_i found _
    obtain ⟨roster, reported⟩ := reportCompletion_eq number (found.addListener listener).2
      { fabric with connections := fabric.connections.set number (found.addListener listener).1 }
    exact ⟨roster, _, reported⟩

/-- Work on a notifier changes nothing but its workers. -/
theorem files_changeNotifier (fabric : Fabric) (number : Nat)
    (change : Notifier SuccessNews → Notifier SuccessNews) :
    (fabric.changeNotifier number change).files
      = { fabric.files with staffs := (fabric.changeNotifier number change).files.staffs } := by
  have audiences := map_modify_of_same Watchdog.listeners
    (fun found : Watchdog => { found with notifier := change found.notifier }) (fun _ => rfl)
    fabric.watchdogs number
  simp only [changeNotifier, changeWatchdog, files, audiences]

end Fabric

end Uplink
