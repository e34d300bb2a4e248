/-
Module: Uplink.Proofs.Fabric.Retries
Purpose: How a watchdog counts: from zero when a channel becomes active, and one more for each retry that a lost
  link or a failed retry makes it schedule.  Nothing else touches the count.
Main exports: Fabric.activates, Fabric.loses, Fabric.retries, Fabric.streak, Fabric.Still, ManualTimer.Gains,
  Fabric.gauges_step, Fabric.timer_step_of_loses, Fabric.gains_step, Fabric.gauges_run
-/
import Uplink.Proofs.Fabric.Composure
import Uplink.Proofs.Fabric.Files
import Uplink.Proofs.Fabric.Rounds

namespace Uplink

/-! ### What a timer gains -/

namespace ManualTimer

variable {Task : Type}

/-- A timer has gained a task that is due after a delay: it came in last, with a handle that was not given out
before. -/
def Gains (before after : ManualTimer Task) (task : Task) (delay : Span) : Prop :=
  ∃ earlier : ManualTimer Task, before.timeouts.length ≤ earlier.timeouts.length
    ∧ after = earlier.including delay task

theorem Moves.length_le {before after : ManualTimer Task}
    (moves : before.Moves after) : before.timeouts.length ≤ after.timeouts.length := by
  induction moves with
  | refl => exact Nat.le_refl _
  | tail _ move ih =>
      refine Nat.le_trans ih ?_
      cases move with
      | schedule accepted =>
          rw [including_of_schedule accepted]
          simp only [including, List.length_append, Nat.le_add_right]
      | cancel handle => simp only [ManualTimer.cancel, List.length_modify, Nat.le_refl]
      | release index =>
          simp only [ManualTimer.release]
          split
          · exact Nat.le_refl _
          · simp only [List.length_set, Nat.le_refl]
      | stop => simp only [ManualTimer.stop, List.length_map, Nat.le_refl]

end ManualTimer

/-! ### Retries -/

/-- The delay before the retry that a watchdog schedules next. -/
def Gauge.delay (gauge : Gauge) : Span :=
  gauge.backoff.delayFor (UInt32.ofNat (min (gauge.attempts.toNat + 1) 0xFFFFFFFF))

namespace Fabric

/-- Whether an event makes a channel of a watchdog active. -/
def activates (fabric : Fabric) (number : Nat) : FabricEvent → Bool
  | .active watchdog _ => watchdog == number
  | .settle place outcome =>
      outcome.isUp && (fabric.underWay[place]?).any fun attempt => attempt.watchdog == number
  | _ => false

/-- Whether a watchdog loses a link or a retry of it fails by an event.  A channel that flaps is lost as soon as
it is active; a caller's attempt that fails is the caller's business. -/
def loses (fabric : Fabric) (number : Nat) : FabricEvent → Bool
  | .inactive watchdog _ => watchdog == number
  | .close channel => (fabric.roster.close channel).2 == some number
  | .settle place .flapped => (fabric.underWay[place]?).any fun attempt => attempt.watchdog == number
  | .settle place (.failed _) =>
      (fabric.underWay[place]?).any fun attempt => attempt.watchdog == number && attempt.origin == .retry
  | _ => false

/-- Whether a watchdog schedules a retry of its own accord: it loses something, and wants another channel. -/
def retries (fabric : Fabric) (number : Nat) (event : FabricEvent) : Bool :=
  fabric.loses number event && (fabric.step event).reconnectNeeded number

/-- How many retries a watchdog has scheduled of its own accord since a channel of it was active last, after an
event that found it at `count`. -/
def tally (fabric : Fabric) (number count : Nat) (event : FabricEvent) : Nat :=
  (if fabric.activates number event then 0 else count) + if fabric.retries number event then 1 else 0

/-- How many retries a watchdog has scheduled of its own accord since a channel of it was active last, after
some events that found it at `count`. -/
def streak (fabric : Fabric) (number count : Nat) : List FabricEvent → Nat
  | [] => count
  | event :: rest => (fabric.step event).streak number (fabric.tally number count event) rest

/-- What an event makes of the count of a watchdog. -/
def progress (fabric : Fabric) (number : Nat) (event : FabricEvent) (gauge : Gauge) : Gauge :=
  let base := if fabric.activates number event then gauge.restart else gauge
  if fabric.retries number event then base.advance else base

/-- A change in which no watchdog counts, no news of a success comes or goes, and the timer is not stopped. -/
structure Still (before after : Fabric) : Prop where
  gauges : after.gauges = before.gauges
  staffs : after.files.staffs = before.files.staffs
  stopped : after.timer.stopped = before.timer.stopped

/-- Whether an event leaves every count and all news alone, and the timer in use. -/
def isStill : FabricEvent → Bool
  | .active .. => false
  | .inactive .. => false
  | .close _ => false
  | .settle .. => false
  | .workerStep .. => false
  | .stopTimer => false
  | _ => true

variable {fabric before after : Fabric} {number : Nat} {watchdog : Watchdog}

theorem Level.still (level : Level before after) : Still before after :=
  ⟨level.gauges, congrArg Files.staffs level.files, level.stopped⟩

namespace Still

theorem refl (fabric : Fabric) : Still fabric fabric :=
  ⟨rfl, rfl, rfl⟩

theorem trans {last : Fabric} (first : Still before after) (second : Still after last) : Still before last :=
  ⟨second.gauges.trans first.gauges, second.staffs.trans first.staffs, second.stopped.trans first.stopped⟩

theorem of_watchdogs (same : after.watchdogs = before.watchdogs) (timer : after.timer = before.timer) :
    Still before after := by
  constructor
  case gauges => rw [Fabric.gauges, same, Fabric.gauges]
  case staffs => simp only [files, same]
  case stopped => rw [timer]

theorem record (fabric : Fabric) (event : Event) : Still fabric (fabric.record event) :=
  of_watchdogs rfl rfl

theorem log (fabric : Fabric) (line : LogLine) : Still fabric (fabric.log line) :=
  of_watchdogs rfl rfl

theorem completeConnection (fabric : Fabric) (connection : Nat) :
    Still fabric (fabric.completeConnection connection) := by
  obtain ⟨roster, connections, completed⟩ := completeConnection_eq fabric connection
  rw [completed]
  exact of_watchdogs rfl rfl

theorem foldl {Entry : Type} {change : Fabric → Entry → Fabric}
    (keeps : ∀ changed entry, Still changed (change changed entry)) (entries : List Entry)
    (fabric : Fabric) : Still fabric (entries.foldl change fabric) := by
  induction entries generalizing fabric with
  | nil => exact refl fabric
  | cons entry rest ih => exact (keeps fabric entry).trans (ih _)

/-- A change of a watchdog that touches neither its workers nor its count. -/
theorem changeWatchdog (fabric : Fabric) (number : Nat) (change : Watchdog → Watchdog)
    (same : ∀ watchdog, (change watchdog).notifier.workers = watchdog.notifier.workers
      ∧ (change watchdog).gauge = watchdog.gauge) :
    Still fabric (fabric.changeWatchdog number change) :=
  ⟨map_modify_of_same Watchdog.gauge change (fun watchdog => (same watchdog).2) fabric.watchdogs number,
    map_modify_of_same (fun watchdog : Watchdog => watchdog.notifier.workers) change
      (fun watchdog => (same watchdog).1) fabric.watchdogs number, rfl⟩

/-! ### What listeners do -/

/-- No listener's call counts for a watchdog, not even one that schedules an attempt. -/
theorem makeCall (fabric : Fabric) (number : Nat) (label : String) (call : ListenerCall) :
    Still fabric (fabric.makeCall number label call) := by
  cases call with
  | stop => exact (level_stop fabric number).still.trans (record _ _)
  | start => exact (level_start fabric number).still.trans (record _ _)
  | schedule delay => exact (level_schedule fabric number delay).still.trans (record _ _)
  | enlist name gated calls outcome => exact changeWatchdog fabric number _ fun _ => ⟨rfl, rfl⟩
  | dismiss removed =>
      simp only [Fabric.makeCall]
      split
      · exact refl fabric
      · exact (changeWatchdog fabric number _ fun _ => by exact ⟨rfl, rfl⟩).trans (record _ _)

theorem finishObserver (fabric : Fabric) (number : Nat) (success : Bool) (attempts : UInt32)
    (observer : Observer) : Still fabric (fabric.finishObserver number success attempts observer) := by
  have called := foldl (fun changed call => makeCall changed number observer.label call) observer.calls fabric
  simp only [Fabric.finishObserver]
  split
  · exact called
  · split
    · exact called
    · exact called.trans (log _ _)
    · exact called.trans (log _ _)

theorem beginObserver (fabric : Fabric) (number : Nat) (success : Bool) (attempts : UInt32)
    (onWorker : Bool) (observer : Observer) :
    Still fabric (fabric.beginObserver number success attempts onWorker observer) := by
  simp only [Fabric.beginObserver]
  split
  · exact refl fabric
  · exact record fabric _

theorem tell (fabric : Fabric) (number : Nat) (success : Bool) (attempts : UInt32) (onWorker : Bool)
    (listener : Listener) : Still fabric (fabric.tell number success attempts onWorker listener) := by
  cases listener with
  | observer observer =>
      exact (beginObserver fabric number success attempts onWorker observer).trans
        (finishObserver _ number success attempts observer)
  | completion connection =>
      simp only [Fabric.tell]
      split
      · exact completeConnection fabric connection
      · exact refl fabric

theorem notifyFailure (fabric : Fabric) (number : Nat) (attempts : UInt32) :
    Still fabric (fabric.notifyFailure number attempts) := by
  simp only [Fabric.notifyFailure]
  split
  · exact refl fabric
  · exact foldl (fun changed listener => tell changed number false attempts false listener) _ fabric

/-! ### Events -/

/-- Most events are still: channels come and go, attempts end and workers go on by the others. -/
theorem step (fabric : Fabric) {event : FabricEvent} (quiet : isStill event = true) :
    Still fabric (fabric.step event) := by
  cases event with
  | active | inactive | close | settle | workerStep | stopTimer => cases quiet
  | schedule number delay =>
      simp only [Fabric.step]
      split
      · exact (level_schedule fabric number delay).still
      · exact refl fabric
  | beginCall number => exact (level_beginCall fabric number).still
  | fire index => exact (level_fire fabric index).still
  | start number => exact (level_start fabric number).still
  | stop number => exact (level_stop fabric number).still
  | turnSwitch connection enabled => exact (level_turnSwitch fabric connection enabled).still
  | addListener number listener => exact changeWatchdog fabric number _ fun _ => ⟨rfl, rfl⟩
  | dismiss number label => exact changeWatchdog fabric number _ fun _ => ⟨rfl, rfl⟩
  | read number channel frame => exact (level_channelRead fabric number channel frame).still
  | exception number channel error => exact (level_channelException fabric number channel error).still
  | addCompletionListener connection listener =>
      obtain ⟨roster, connections, added⟩ := addCompletionListener_eq fabric connection listener
      rw [Fabric.step, added]
      exact of_watchdogs rfl rfl
  | openGate | onRoster => exact of_watchdogs rfl rfl

end Still

/-! ### Workers -/

theorem gauges_changeNotifier (fabric : Fabric) (number : Nat)
    (change : Notifier SuccessNews → Notifier SuccessNews) :
    (fabric.changeNotifier number change).gauges = fabric.gauges :=
  map_modify_of_same Watchdog.gauge (fun found => { found with notifier := change found.notifier })
    (fun _ => rfl) fabric.watchdogs number

theorem gauges_tellOnWorker (worker : Nat) (attempts : UInt32) (listeners : List Listener) (fabric : Fabric) :
    (fabric.tellOnWorker number worker attempts listeners).gauges = fabric.gauges := by
  induction listeners generalizing fabric with
  | nil => exact gauges_changeNotifier fabric number _
  | cons listener rest ih =>
      cases listener with
      | completion connection =>
          exact (ih _).trans (Still.completeConnection fabric connection).gauges
      | observer observer =>
          have begun := Still.beginObserver fabric number true attempts true observer
          simp only [tellOnWorker]
          split
          · exact (gauges_changeNotifier _ number _).trans begun.gauges
          · exact (ih _).trans (begun.trans (Still.finishObserver _ number true attempts observer)).gauges

theorem gauges_beginNews (fabric : Fabric) (number worker : Nat) (watchdog : Watchdog) :
    (fabric.beginNews number worker watchdog).gauges = fabric.gauges := by
  simp only [beginNews]
  split
  · rfl
  · split
    · rw [gauges_tellOnWorker, gauges_changeNotifier]
    · rw [gauges_changeNotifier, gauges_changeNotifier]

theorem gauges_workerStep (fabric : Fabric) (number worker : Nat) :
    (fabric.workerStep number worker).gauges = fabric.gauges := by
  simp only [workerStep]
  split
  · rfl
  · split
    · rename_i attempts observer rest _
      split
      · rw [gauges_tellOnWorker, (Still.finishObserver fabric number true attempts observer).gauges]
      · rfl
    · exact gauges_beginNews fabric number worker _

theorem gauges_notifySuccess (fabric : Fabric) (number : Nat) (attempts : UInt32) :
    (fabric.notifySuccess number attempts).gauges = fabric.gauges := by
  rcases level_notifySuccess fabric number attempts with level | ⟨watchdog, -, level⟩
  · exact level.gauges
  · rw [level.gauges, gauges_changeNotifier]

/-! ### Whether a channel is wanted -/

/-- What decides whether channels are wanted: which watchdogs are started, their pools, and who is in these. -/
def needs (fabric : Fabric) : List (Bool × Option Nat) × List Pool :=
  (fabric.watchdogs.map fun watchdog => (watchdog.started, watchdog.pool), fabric.roster.pools)

theorem reconnectNeeded_of_needs (same : after.needs = before.needs) (number : Nat) :
    after.reconnectNeeded number = before.reconnectNeeded number := by
  have read : ∀ fabric : Fabric, fabric.reconnectNeeded number
      = (fabric.needs.1[number]?).elim false fun need =>
        need.1 && (need.2.bind fun pool => fabric.needs.2[pool]?).elim true Pool.hasRoom := by
    intro fabric
    simp only [reconnectNeeded, wants, needs, List.getElem?_map]
    cases fabric.watchdogs[number]? with
    | none => rfl
    | some watchdog =>
        simp only [Option.map_some, Option.elim_some]
        cases watchdog.pool.bind fun pool => fabric.roster.pools[pool]? <;> rfl
  rw [read after, read before, same]

theorem needs_changeWatchdog (fabric : Fabric) (number : Nat) (change : Watchdog → Watchdog)
    (same : ∀ watchdog, ((change watchdog).started, (change watchdog).pool)
      = (watchdog.started, watchdog.pool)) :
    (fabric.changeWatchdog number change).needs = fabric.needs := by
  have flags := map_modify_of_same (fun watchdog : Watchdog => (watchdog.started, watchdog.pool)) change same
    fabric.watchdogs number
  simp only [needs, changeWatchdog, flags]

theorem needs_schedule (fabric : Fabric) (number : Nat) (delay : Span) :
    (fabric.schedule number delay).1.needs = fabric.needs := by
  simp only [schedule]
  split
  · rfl
  · exact needs_changeWatchdog _ number _ fun _ => rfl

/-- Counting and scheduling do not change what is wanted. -/
theorem needs_onDisconnected (fabric : Fabric) (number : Nat) :
    (fabric.onDisconnected number).needs = fabric.needs := by
  simp only [onDisconnected]
  split
  · rfl
  · rename_i watchdog _
    split
    · have scheduled := (needs_schedule ((fabric.changeWatchdog number fun found =>
            { found with attempts := found.attempts + 1 }).log (watchdog.line .debug "reconnect scheduled"
          [("attempts", Text.decimal watchdog.nextAttempts.toNat),
           ("delay_ms",
              Text.decimal (watchdog.backoff.delayFor watchdog.nextAttempts).clampedMillis.toNat)])) number
          (watchdog.backoff.delayFor watchdog.nextAttempts)).trans
        (needs_changeWatchdog fabric number _ fun _ => rfl)
      split
      · rename_i changed isChanged
        rw [isChanged] at scheduled
        exact scheduled
      · rename_i changed error isChanged
        rw [isChanged] at scheduled
        exact scheduled
    · rfl

/-- What a handler is told changes neither watchdogs nor the timer nor the pools. -/
theorem tellNext_eq (fabric : Fabric) (next : NextHandler) (channel : Nat) (notice : ChannelNotice) :
    (fabric.tellNext next channel notice).watchdogs = fabric.watchdogs
      ∧ (fabric.tellNext next channel notice).timer = fabric.timer
      ∧ (fabric.tellNext next channel notice).roster.pools = fabric.roster.pools
      ∧ (fabric.tellNext next channel notice).roster.channels = fabric.roster.channels := by
  cases next with
  | nobody => exact ⟨rfl, rfl, rfl, rfl⟩
  | recorder name => exact ⟨rfl, rfl, rfl, rfl⟩
  | tracker connection application =>
      cases application <;> cases notice <;> exact ⟨rfl, rfl, rfl, rfl⟩

theorem needs_tellNext (fabric : Fabric) (next : NextHandler) (channel : Nat) (notice : ChannelNotice) :
    (fabric.tellNext next channel notice).needs = fabric.needs := by
  obtain ⟨watchdogs, -, pools, -⟩ := tellNext_eq fabric next channel notice
  rw [needs, watchdogs, pools, needs]

theorem needs_channelInactive (fabric : Fabric) (number channel : Nat) :
    (fabric.channelInactive number channel).needs = fabric.needs := by
  simp only [channelInactive]
  split
  · rfl
  · rw [needs_tellNext, needs_onDisconnected]
    rfl

theorem needs_notifySuccess (fabric : Fabric) (number : Nat) (attempts : UInt32) :
    (fabric.notifySuccess number attempts).needs = fabric.needs := by
  simp only [notifySuccess]
  split
  · rfl
  · split
    · split
      · exact needs_changeWatchdog fabric number _ fun _ => rfl
      · exact needs_changeWatchdog fabric number _ fun _ => rfl
    · rfl

/-! ### Counting -/

/-- Changing the gauge of one watchdog. -/
theorem getElem?_modify_gauge (gauges : List Gauge) (number : Nat) (change : Gauge → Gauge) (other : Nat) :
    (gauges.modify number change)[other]?
      = (gauges[other]?).map fun gauge => if number = other then change gauge else gauge := by
  rw [List.getElem?_modify]
  rfl

/-- Where nothing is lost and no channel becomes active, nothing is counted. -/
theorem progress_of_quiet {event : FabricEvent} (quiet : fabric.activates number event = false)
    (keeps : fabric.loses number event = false) (gauge : Gauge) : fabric.progress number event gauge = gauge := by
  simp only [progress, retries, quiet, keeps, Bool.false_and, Bool.false_eq_true, if_false]

theorem gauges_of_quiet {event : FabricEvent} (same : (fabric.step event).gauges = fabric.gauges)
    (quiet : fabric.activates number event = false) (keeps : fabric.loses number event = false) :
    (fabric.step event).gauges[number]? = (fabric.gauges[number]?).map (fabric.progress number event) := by
  rw [same]
  cases fabric.gauges[number]? with
  | none => rfl
  | some gauge => rw [Option.map_some, progress_of_quiet quiet keeps]

theorem gauges_of_progress {event : FabricEvent} {change : Gauge → Gauge}
    (counts : (fabric.step event).gauges[number]? = (fabric.gauges[number]?).map change)
    (same : ∀ gauge, change gauge = fabric.progress number event gauge) :
    (fabric.step event).gauges[number]? = (fabric.gauges[number]?).map (fabric.progress number event) :=
  funext same ▸ counts

/-- A watchdog that has lost something counts it if it wants another channel, and no other watchdog does. -/
theorem gauges_of_lost {loser : Nat} (counts : after.gauges = (before.lose loser).gauges)
    (sameNeeds : after.needs = before.needs) (number : Nat) :
    after.gauges[number]? = (before.gauges[number]?).map fun gauge =>
      if (loser == number && after.reconnectNeeded number) = true then gauge.advance else gauge := by
  rw [counts, reconnectNeeded_of_needs sameNeeds, lose]
  by_cases isLoser : loser = number
  · rw [isLoser, beq_self_eq_true, Bool.true_and]
    split
    · simp only [gauges_counted, getElem?_modify_gauge, if_true]
    · exact (congrFun Option.map_id_fun' _).symm
  · simp only [beq_eq_false_iff_ne.2 isLoser, Bool.false_and, Bool.false_eq_true, if_false]
    split
    · simp only [gauges_counted, getElem?_modify_gauge, if_neg isLoser]
    · exact (congrFun Option.map_id_fun' _).symm

theorem gauges_channelActive (fabric : Fabric) (active channel number : Nat) :
    (fabric.channelActive active channel).gauges[number]? = (fabric.gauges[number]?).map fun gauge =>
      if (active == number) = true then gauge.restart else gauge := by
  rw [(level_channelActive fabric active channel).gauges, gauges_reset, getElem?_modify_gauge]
  simp only [beq_iff_eq]

/-- The channel that comes up for a watchdog is its own until it closes. -/
theorem handler_channelActive (fabric : Fabric) (number : Nat) :
    let opened := fabric.roster.openChannel (some number)
    ((Fabric.channelActive { fabric with roster := opened.1 } number opened.2).roster.close opened.2).2
      = some number := by
  intro opened
  have isNew : opened.1.channel? opened.2
      = some { isOpen := true, closing := Latch.fresh, handler := some number } := by
    rw [Roster.channel?_openChannel, if_pos (by rfl)]
  have handled : ∃ found,
      (Fabric.channelActive { fabric with roster := opened.1 } number opened.2).roster.channel? opened.2
          = some found ∧ found.isOpen = true ∧ found.handler = some number := by
    have byChannels : ∀ roster : Roster, roster.channels = opened.1.channels →
        ∃ found, roster.channel? opened.2 = some found ∧ found.isOpen = true
          ∧ found.handler = some number := by
      intro roster same
      refine ⟨{ isOpen := true, closing := Latch.fresh, handler := some number }, ?_, rfl, rfl⟩
      rw [← isNew, Roster.channel?, same, Roster.channel?]
    simp only [channelActive]
    split
    · exact byChannels _ rfl
    · rename_i watchdog _
      rw [Roster.channel?, (tellNext_eq _ watchdog.next opened.2 .active).2.2.2, ← Roster.channel?]
      split
      · rename_i pool _
        change ∃ found, (opened.1.enroll pool opened.2).1.channel? opened.2 = some found ∧ _
        rw [Roster.channel?_enroll, isNew]
        split
        · exact ⟨_, rfl, rfl, rfl⟩
        · exact ⟨_, rfl, rfl, rfl⟩
      · exact byChannels _ rfl
  obtain ⟨found, isFound, isOpen, isHandler⟩ := handled
  simp only [Roster.close, isFound, isOpen, if_true, isHandler]

/-- A channel that flaps is active first, and then it is lost. -/
theorem gauges_establish (fabric : Fabric) (owner number : Nat) (flaps : Bool) :
    (fabric.establish owner flaps).1.gauges[number]? = (fabric.gauges[number]?).map fun gauge =>
      let base := if (owner == number) = true then gauge.restart else gauge
      if (flaps && owner == number && (fabric.establish owner flaps).1.reconnectNeeded number) = true then
        base.advance
      else base := by
  have active := gauges_channelActive
    { fabric with roster := (fabric.roster.openChannel (some owner)).1 } owner
    (fabric.roster.openChannel (some owner)).2 number
  cases flaps with
  | false =>
      simp only [Bool.false_and, Bool.false_eq_true, if_false]
      exact active
  | true =>
      have handles := handler_channelActive fabric owner
      dsimp only at handles
      have lost := gauges_of_lost (level_close_of_handler handles).gauges
        (by simp only [close, handles]; exact needs_channelInactive _ owner _) number
      simp only [Bool.true_and]
      refine lost.trans ?_
      rw [show (Fabric.shut _ _).gauges[number]? = _ from active, Option.map_map]
      rfl

theorem gauges_succeeded (fabric : Fabric) (attempt : Attempt) (channel : Nat) :
    (fabric.succeeded attempt channel).gauges = fabric.gauges := by
  simp only [succeeded]
  rw [gauges_notifySuccess]
  split <;> rfl

theorem needs_succeeded (fabric : Fabric) (attempt : Attempt) (channel : Nat) :
    (fabric.succeeded attempt channel).needs = fabric.needs := by
  simp only [succeeded]
  rw [needs_notifySuccess]
  split <;> rfl

/-- A caller's attempt that fails changes nothing here.  When a retry has failed, listeners are told, and then
the link counts as lost. -/
theorem failed_cases (fabric : Fabric) (attempt : Attempt) (error : TransportError) :
    (attempt.origin = .caller ∨ fabric.watchdogs[attempt.watchdog]? = none)
        ∧ fabric.failed attempt error = fabric
      ∨ attempt.origin = .retry ∧ ∃ told, Still fabric told ∧ fabric.timer.Moves told.timer
        ∧ (fabric.Passive → told.timer = fabric.timer)
        ∧ fabric.failed attempt error = told.onDisconnected attempt.watchdog := by
  cases isThere : fabric.watchdogs[attempt.watchdog]? with
  | none =>
      refine .inl ⟨.inr rfl, ?_⟩
      simp only [failed, isThere]
      cases attempt.origin <;> rfl
  | some watchdog =>
      cases isOrigin : attempt.origin with
      | caller =>
          refine .inl ⟨.inl rfl, ?_⟩
          simp only [failed, isOrigin]
      | retry =>
          simp only [failed, isOrigin, isThere]
          refine .inr ⟨trivial, _, ?_, ?_, ?_, rfl⟩
          · split
            · exact (Still.log fabric _).trans (.notifyFailure _ attempt.watchdog attempt.attempts)
            · exact .log fabric _
          · split
            · exact (Calm.notifyFailure (fabric.log _) attempt.watchdog attempt.attempts).moves
            · exact .refl
          · intro passive
            split
            · rename_i started
              have stillThere : (fabric.log (watchdog.line .warn "reconnect attempt failed"
                  [("attempts", Text.decimal attempt.attempts.toNat), ("code", error.code),
                   ("error", error.message)])).watchdogs[attempt.watchdog]? = some watchdog := isThere
              have isPassive := passive watchdog (List.mem_of_getElem? isThere)
              obtain ⟨logs, told⟩ := notifyFailure_eq stillThere started isPassive attempt.attempts
              rw [told]
              rfl
            · rfl

/-- A retry that has failed is counted if another channel is wanted once all listeners have been told. -/
theorem gauges_failed (fabric : Fabric) (attempt : Attempt) (error : TransportError) (number : Nat) :
    (fabric.failed attempt error).gauges[number]? = (fabric.gauges[number]?).map fun gauge =>
      if (attempt.watchdog == number && attempt.origin == .retry
        && (fabric.failed attempt error).reconnectNeeded number) = true then gauge.advance else gauge := by
  rcases failed_cases fabric attempt error with ⟨unconcerned, same⟩ | ⟨isRetry, told, still, -, -, isFailed⟩
  · rw [same]
    rcases unconcerned with isCaller | isAbsent
    · have noRetry : (attempt.origin == Origin.retry) = false := by rw [isCaller]; rfl
      simp only [noRetry, Bool.and_false, Bool.false_and, Bool.false_eq_true, if_false, Option.map_id_fun', id]
    · by_cases isNumber : attempt.watchdog = number
      · have nobody : fabric.gauges[number]? = none := by
          rw [gauges, List.getElem?_map, ← isNumber, isAbsent, Option.map_none]
        rw [nobody, Option.map_none]
      · simp only [beq_eq_false_iff_ne.2 isNumber, Bool.false_and, Bool.false_eq_true, if_false,
          Option.map_id_fun', id]
  · rw [isFailed, isRetry, ← still.gauges]
    simp only [beq_self_eq_true, Bool.and_true]
    exact gauges_of_lost (level_onDisconnected told attempt.watchdog).gauges
      (needs_onDisconnected told attempt.watchdog) number

/-- The count of a watchdog goes from zero when a channel of it becomes active, and goes up by one when the
watchdog schedules a retry.  Nothing else changes it. -/
theorem gauges_step (fabric : Fabric) (number : Nat) (event : FabricEvent) :
    (fabric.step event).gauges[number]? = (fabric.gauges[number]?).map (fabric.progress number event) := by
  cases event with
  | active watchdog channel =>
      apply gauges_of_progress (gauges_channelActive fabric watchdog channel number)
      intro gauge
      simp only [progress, activates, retries, loses, Bool.false_and, Bool.false_eq_true, if_false]
      rfl
  | inactive watchdog channel =>
      exact gauges_of_lost (level_channelInactive fabric watchdog channel).gauges
        (needs_channelInactive fabric watchdog channel) number
  | close channel =>
      cases handles : (fabric.roster.close channel).2 with
      | none =>
          have same : (fabric.step (.close channel)).gauges = fabric.gauges :=
            (level_close_of_none handles).gauges
          apply gauges_of_quiet same rfl
          simp only [loses, handles]
          rfl
      | some loser =>
          have lost := gauges_of_lost (level_close_of_handler handles).gauges
            (by simp only [close, handles]; exact needs_channelInactive _ loser channel) number
          apply gauges_of_progress lost
          intro gauge
          simp only [progress, activates, retries, loses, handles, Option.some_beq_some, Bool.false_eq_true,
            if_false]
          rfl
  | settle place outcome =>
      cases isThere : fabric.underWay[place]? with
      | none =>
          have nothing : (fabric.step (.settle place outcome)).gauges = fabric.gauges := by
            simp only [step, settle, isThere]
          apply gauges_of_quiet nothing
          · simp only [activates, isThere, Option.any_none, Bool.and_false]
          · cases outcome <;> simp only [loses, isThere, Option.any_none]
      | some attempt =>
          cases outcome with
          | established =>
              have up := gauges_establish { fabric with underWay := fabric.underWay.eraseIdx place }
                attempt.watchdog number false
              rw [← gauges_succeeded _ attempt] at up
              apply gauges_of_progress (by simp only [step, settle, isThere]; exact up)
              intro gauge
              simp only [progress, activates, retries, loses, isThere, Option.any_some, Outcome.isUp,
                Bool.true_and, Bool.false_and, Bool.false_eq_true, if_false]
          | flapped =>
              have up := gauges_establish { fabric with underWay := fabric.underWay.eraseIdx place }
                attempt.watchdog number true
              rw [← gauges_succeeded _ attempt] at up
              apply gauges_of_progress (by simp only [step, settle, isThere]; exact up)
              intro gauge
              simp only [progress, activates, retries, loses, isThere, Option.any_some, Outcome.isUp,
                Bool.true_and, step, settle, reconnectNeeded_of_needs (needs_succeeded _ attempt _)]
          | failed error =>
              have failed := gauges_failed { fabric with underWay := fabric.underWay.eraseIdx place }
                attempt error number
              apply gauges_of_progress (by simp only [step, settle, isThere]; exact failed)
              intro gauge
              simp only [progress, activates, retries, loses, isThere, Option.any_some, Outcome.isUp,
                Bool.false_and, Bool.false_eq_true, if_false, step, settle]
  | workerStep watchdog worker =>
      exact gauges_of_quiet (gauges_workerStep fabric watchdog worker) rfl rfl
  | stopTimer => exact gauges_of_quiet rfl rfl rfl
  | _ => exact gauges_of_quiet (Still.step fabric rfl).gauges rfl rfl

/-! ### Scheduling -/

/-- A watchdog that has lost a channel and wants another schedules the next retry, after the delay that follows
its new count. -/
theorem timer_onDisconnected {gauge : Gauge} (isGauge : fabric.gauges[number]? = some gauge)
    (goesOn : fabric.timer.stopped = false) :
    (fabric.onDisconnected number).timer
      = if fabric.reconnectNeeded number then fabric.timer.including gauge.delay number else fabric.timer := by
  simp only [gauges, List.getElem?_map] at isGauge
  obtain ⟨watchdog, isThere, rfl⟩ := Option.map_eq_some_iff.1 isGauge
  simp only [onDisconnected, reconnectNeeded, isThere]
  cases fabric.wants watchdog with
  | true =>
      simp only [if_true, schedule, log, changeWatchdog, ManualTimer.schedule_of_not_stopped goesOn]
      rfl
  | false => rfl

theorem timer_channelInactive {gauge : Gauge} (isGauge : fabric.gauges[number]? = some gauge)
    (goesOn : fabric.timer.stopped = false) (channel : Nat) :
    (fabric.channelInactive number channel).timer
      = if (fabric.channelInactive number channel).reconnectNeeded number then
          fabric.timer.including gauge.delay number
        else fabric.timer := by
  rw [reconnectNeeded_of_needs (needs_channelInactive fabric number channel)]
  simp only [channelInactive]
  split
  · rename_i isAbsent
    rw [gauges, List.getElem?_map, isAbsent] at isGauge
    cases isGauge
  · rename_i watchdog _
    rw [(tellNext_eq _ watchdog.next channel _).2.1]
    have logged : (fabric.log (channelLine watchdog "channel inactive" channel [])).gauges[number]?
        = some gauge := isGauge
    exact timer_onDisconnected logged goesOn

theorem timer_channelActive (fabric : Fabric) (number channel : Nat) :
    (fabric.channelActive number channel).timer = fabric.timer := by
  simp only [channelActive]
  split
  · rfl
  · rename_i watchdog _
    rw [(tellNext_eq _ watchdog.next channel .active).2.1]
    cases watchdog.pool <;> rfl

theorem timer_succeeded (fabric : Fabric) (attempt : Attempt) (channel : Nat) :
    (fabric.succeeded attempt channel).timer = fabric.timer := by
  have notified : ∀ (fabric : Fabric) (number : Nat) (attempts : UInt32),
      (fabric.notifySuccess number attempts).timer = fabric.timer := by
    intro fabric number attempts
    simp only [notifySuccess]
    split
    · rfl
    · split
      · split <;> rfl
      · rfl
  simp only [succeeded]
  rw [notified]
  split <;> rfl

/-- A channel that flaps is lost when it has just become active, so that the count goes from zero. -/
theorem timer_flap {gauge : Gauge} (isGauge : fabric.gauges[number]? = some gauge)
    (goesOn : fabric.timer.stopped = false) :
    (fabric.establish number true).1.timer
      = if (fabric.establish number true).1.reconnectNeeded number then
          fabric.timer.including gauge.restart.delay number
        else fabric.timer := by
  let opened := fabric.roster.openChannel (some number)
  let active := Fabric.channelActive { fabric with roster := opened.1 } number opened.2
  have handles : (active.roster.close opened.2).2 = some number := handler_channelActive fabric number
  have closed : (fabric.establish number true).1 = (active.shut opened.2).channelInactive number opened.2 := by
    change active.close opened.2 = _
    simp only [close, handles]
    rfl
  have isActive : (active.shut opened.2).gauges[number]? = some gauge.restart := by
    have wasGauge : ({ fabric with roster := opened.1 } : Fabric).gauges[number]? = some gauge := isGauge
    refine (gauges_channelActive _ number opened.2 number).trans ?_
    rw [wasGauge, Option.map_some, beq_self_eq_true, if_pos rfl]
  have timer : (active.shut opened.2).timer = fabric.timer := timer_channelActive _ number opened.2
  rw [closed]
  rw [← timer] at goesOn ⊢
  exact timer_channelInactive isActive goesOn opened.2

/-- A watchdog whose retry has failed schedules the next one when all listeners have been told.  These may have
scheduled something before, unless they are passive. -/
theorem timer_failed {gauge : Gauge} {attempt : Attempt} (error : TransportError)
    (isGauge : fabric.gauges[attempt.watchdog]? = some gauge) (goesOn : fabric.timer.stopped = false)
    (isRetry : attempt.origin = .retry) :
    ∃ earlier : ManualTimer Nat, fabric.timer.timeouts.length ≤ earlier.timeouts.length
      ∧ (fabric.Passive → earlier = fabric.timer)
      ∧ (fabric.failed attempt error).timer
        = if (fabric.failed attempt error).reconnectNeeded attempt.watchdog then
            earlier.including gauge.delay attempt.watchdog
          else earlier := by
  rcases failed_cases fabric attempt error with ⟨unconcerned, -⟩ | ⟨-, told, still, moves, silent, same⟩
  · rcases unconcerned with isCaller | isAbsent
    · rw [isRetry] at isCaller
      cases isCaller
    · rw [gauges, List.getElem?_map, isAbsent] at isGauge
      cases isGauge
  · have stillGauge : told.gauges[attempt.watchdog]? = some gauge := by
      rw [still.gauges]
      exact isGauge
    refine ⟨told.timer, moves.length_le, silent, ?_⟩
    rw [same, reconnectNeeded_of_needs (needs_onDisconnected told attempt.watchdog)]
    exact timer_onDisconnected stillGauge (still.stopped.trans goesOn)

/-- What a loss makes of the timer.  A watchdog that wants another channel schedules a retry, and the delay
follows the count, which goes from zero if a channel became active meanwhile.  Otherwise nothing is scheduled,
unless by a listener that hears of the loss. -/
theorem timer_step_of_loses {gauge : Gauge} {event : FabricEvent}
    (isGauge : fabric.gauges[number]? = some gauge) (goesOn : fabric.timer.stopped = false)
    (isLoss : fabric.loses number event = true) :
    ∃ earlier : ManualTimer Nat, fabric.timer.timeouts.length ≤ earlier.timeouts.length
      ∧ (fabric.Passive → earlier = fabric.timer)
      ∧ (fabric.step event).timer
        = if (fabric.step event).reconnectNeeded number then
            earlier.including (if fabric.activates number event then gauge.restart else gauge).delay number
          else earlier := by
  cases event with
  | inactive watchdog channel =>
      obtain rfl : watchdog = number := beq_iff_eq.1 isLoss
      exact ⟨fabric.timer, Nat.le_refl _, fun _ => rfl, timer_channelInactive isGauge goesOn channel⟩
  | close channel =>
      have handles : (fabric.roster.close channel).2 = some number := beq_iff_eq.1 isLoss
      have closed : fabric.step (.close channel) = (fabric.shut channel).channelInactive number channel := by
        simp only [step, close, handles]
        rfl
      have stillGauge : (fabric.shut channel).gauges[number]? = some gauge := isGauge
      rw [closed]
      exact ⟨fabric.timer, Nat.le_refl _, fun _ => rfl, timer_channelInactive stillGauge goesOn channel⟩
  | settle place outcome =>
      cases isThere : fabric.underWay[place]? with
      | none => cases outcome <;> simp only [loses, isThere, Option.any_none, Bool.false_eq_true] at isLoss
      | some attempt =>
          let ended : Fabric := { fabric with underWay := fabric.underWay.eraseIdx place }
          have stillGauge : ended.gauges[number]? = some gauge := isGauge
          cases outcome with
          | established => cases isLoss
          | flapped =>
              simp only [loses, isThere, Option.any_some, beq_iff_eq] at isLoss
              subst isLoss
              have settled : fabric.step (.settle place .flapped)
                  = (ended.establish attempt.watchdog true).1.succeeded attempt
                    (ended.establish attempt.watchdog true).2 := by
                simp only [step, settle, isThere]
                rfl
              have isActive : fabric.activates attempt.watchdog (.settle place .flapped) = true := by
                simp only [activates, isThere, Outcome.isUp, Option.any_some, beq_self_eq_true, Bool.and_self]
              rw [settled, timer_succeeded, reconnectNeeded_of_needs (needs_succeeded _ attempt _), isActive]
              exact ⟨fabric.timer, Nat.le_refl _, fun _ => rfl, timer_flap stillGauge goesOn⟩
          | failed error =>
              simp only [loses, isThere, Option.any_some, Bool.and_eq_true, beq_iff_eq] at isLoss
              obtain ⟨rfl, isOrigin⟩ := isLoss
              have settled : fabric.step (.settle place (.failed error)) = ended.failed attempt error := by
                simp only [step, settle, isThere]
                rfl
              rw [settled]
              exact timer_failed error stillGauge goesOn isOrigin
  | _ => cases isLoss

/-- A watchdog that schedules a retry of its own accord gives the timer a task. -/
theorem gains_step {gauge : Gauge} {event : FabricEvent} (isGauge : fabric.gauges[number]? = some gauge)
    (goesOn : fabric.timer.stopped = false) (isRetry : fabric.retries number event = true) :
    fabric.timer.Gains (fabric.step event).timer number
      (if fabric.activates number event then gauge.restart else gauge).delay := by
  obtain ⟨isLoss, needed⟩ := Bool.and_eq_true_iff.1 isRetry
  obtain ⟨earlier, longer, -, same⟩ := timer_step_of_loses isGauge goesOn isLoss
  rw [needed, if_pos rfl] at same
  exact ⟨earlier, longer, same⟩

/-! ### Runs -/

theorem backoff_progress (fabric : Fabric) (number : Nat) (event : FabricEvent) (gauge : Gauge) :
    (fabric.progress number event gauge).backoff = gauge.backoff := by
  simp only [progress]
  cases fabric.activates number event <;> cases fabric.retries number event <;> rfl

/-- After any events the count of a watchdog is the number of retries that it has scheduled since a channel of
it was active last, in 32 bits; its backoff is the one it was built with. -/
theorem gauges_run {gauge : Gauge} {count : Nat} (isGauge : fabric.gauges[number]? = some gauge)
    (counts : gauge.attempts = UInt32.ofNat count) (events : List FabricEvent) :
    (fabric.run events).gauges[number]?
      = some { gauge with attempts := UInt32.ofNat (fabric.streak number count events) } := by
  induction events generalizing fabric gauge count with
  | nil =>
      rw [streak, ← counts]
      exact isGauge
  | cons event rest ih =>
      have stepped := gauges_step fabric number event
      rw [isGauge, Option.map_some] at stepped
      have counted : (fabric.progress number event gauge).attempts
          = UInt32.ofNat (fabric.tally number count event) := by
        simp only [progress, tally]
        cases fabric.activates number event <;> cases fabric.retries number event <;>
          simp [Gauge.advance, Gauge.restart, counts, UInt32.ofNat_add]
      rw [streak, ← backoff_progress fabric number event gauge]
      exact ih stepped counted

theorem streak_append (fabric : Fabric) (number count : Nat) (events more : List FabricEvent) :
    fabric.streak number count (events ++ more)
      = (fabric.run events).streak number (fabric.streak number count events) more := by
  induction events generalizing fabric count with
  | nil => rfl
  | cons event rest ih => exact ih _ _

end Fabric

end Uplink
