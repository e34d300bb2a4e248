/-
Module: Uplink.Proofs.Fabric.Inert
Purpose: Watchdogs that nothing is left of which could call for an attempt: what the operations of a fabric
  wake, which is never more than the watchdog that they are about.
Main exports: Fabric.callers, Fabric.Inert, Fabric.Rouses, Fabric.WakesNobody, Fabric.rouses_stop,
  Fabric.rouses_turnSwitch, Fabric.rouses_schedule, Fabric.rouses_close, Fabric.rouses_beginRetry,
  Fabric.callers_without_caller, Fabric.rouses_settle
-/
import Mathlib.Data.List.Nodup
import Uplink.Proofs.Fabric.Outline
import Uplink.Proofs.Pool.Handlers
import Uplink.Proofs.Time.Moves

namespace Uplink

/-- The watchdog of an attempt that a caller waits for. -/
def Attempt.caller? (attempt : Attempt) : Option Nat :=
  match attempt.origin with
  | .caller => some attempt.watchdog
  | .retry => none

namespace Fabric

/-- The watchdogs whose attempts callers wait for, in order. -/
def callers (fabric : Fabric) : List Nat :=
  fabric.underWay.filterMap Attempt.caller?

theorem mem_callers {fabric : Fabric} {attempt : Attempt} (isTried : attempt ∈ fabric.underWay)
    (isCaller : attempt.origin = .caller) : attempt.watchdog ∈ fabric.callers := by
  refine List.mem_filterMap.2 ⟨attempt, isTried, ?_⟩
  rw [Attempt.caller?, isCaller]

/-- Nothing is left that may call for an attempt of a watchdog: no task of the timer, no channel that it
handles, and no retry under way.  It remembers no timer handle, so that stopping it cancels nothing. -/
structure Inert (fabric : Fabric) (number : Nat) : Prop where
  noTask : ∀ entry ∈ fabric.timer.entries, entry.task ≠ number
  noChannel : ∀ channel, fabric.roster.handler? channel ≠ some number
  noRetry : ∀ attempt ∈ fabric.underWay, attempt.origin = .retry → attempt.watchdog ≠ number
  noHandle : ∀ watchdog, fabric.watchdogs[number]? = some watchdog → watchdog.pending = none

/-- A change that wakes no inert watchdog but those that may be roused, takes no watchdog away, and neither
begins nor ends an attempt of a caller. -/
structure Rouses (roused : Nat → Prop) (before after : Fabric) : Prop where
  watchdogs : before.watchdogs.length ≤ after.watchdogs.length
  callers : after.callers = before.callers
  plain : (∀ watchdog ∈ before.watchdogs, watchdog.Plain) → ∀ watchdog ∈ after.watchdogs, watchdog.Plain
  inert : ∀ number, ¬ roused number → before.Inert number → after.Inert number

/-- A change that wakes nobody. -/
abbrev WakesNobody : Fabric → Fabric → Prop :=
  Rouses fun _ => False

variable {roused : Nat → Prop} {before after fabric : Fabric} {number : Nat}

namespace Rouses

theorem refl (fabric : Fabric) : Rouses roused fabric fabric :=
  ⟨Nat.le_refl _, rfl, id, fun _ _ inert => inert⟩

theorem trans {last : Fabric} (first : Rouses roused before after) (second : Rouses roused after last) :
    Rouses roused before last :=
  ⟨Nat.le_trans first.watchdogs second.watchdogs, second.callers.trans first.callers,
    fun plain => second.plain (first.plain plain),
    fun number spared inert => second.inert number spared (first.inert number spared inert)⟩

theorem weaken {others : Nat → Prop} (rouses : Rouses roused before after)
    (among : ∀ number, roused number → others number) : Rouses others before after :=
  ⟨rouses.watchdogs, rouses.callers, rouses.plain,
    fun number spared => rouses.inert number fun isRoused => spared (among number isRoused)⟩

/-- Waking somebody who was awake is waking nobody. -/
theorem of_awake (rouses : Rouses (· = number) before after) (awake : ¬ before.Inert number) :
    Rouses roused before after := by
  refine ⟨rouses.watchdogs, rouses.callers, rouses.plain, fun other _ inert => ?_⟩
  refine rouses.inert other (fun same => ?_) inert
  exact awake (same ▸ inert)

/-- A change of something that neither wakes watchdogs nor is one. -/
theorem of_same (timer : after.timer = before.timer)
    (handlers : after.roster.handler? = before.roster.handler?) (underWay : after.underWay = before.underWay)
    (watchdogs : after.watchdogs = before.watchdogs) : Rouses roused before after := by
  refine ⟨Nat.le_of_eq (congrArg List.length watchdogs.symm), ?_, ?_, ?_⟩
  · rw [Fabric.callers, underWay]
    rfl
  · rw [watchdogs]
    exact id
  · intro number _ inert
    refine ⟨?_, ?_, ?_, ?_⟩
    · rw [timer]
      exact inert.noTask
    · rw [handlers]
      exact inert.noChannel
    · rw [underWay]
      exact inert.noRetry
    · rw [watchdogs]
      exact inert.noHandle

theorem log (fabric : Fabric) (line : LogLine) : Rouses roused fabric (fabric.log line) :=
  of_same rfl rfl rfl rfl

theorem record (fabric : Fabric) (event : Event) : Rouses roused fabric (fabric.record event) :=
  of_same rfl rfl rfl rfl

/-- What the outline does not show wakes nobody. -/
theorem of_quiet (quiet : Quiet before after) : Rouses roused before after := by
  refine ⟨?_, ?_, quiet.plain, ?_⟩
  · have same := congrArg List.length quiet.posts
    rw [List.length_map, List.length_map] at same
    exact Nat.le_of_eq same.symm
  · rw [Fabric.callers, quiet.underWay]
    rfl
  · intro number _ inert
    refine ⟨?_, ?_, ?_, ?_⟩
    · rw [quiet.timer]
      exact inert.noTask
    · rw [Roster.handler?_of_channels quiet.channels]
      exact inert.noChannel
    · rw [quiet.underWay]
      exact inert.noRetry
    · intro watchdog isThere
      have same := congrArg (fun posts => posts[number]?) quiet.posts
      simp only [List.getElem?_map, isThere] at same
      obtain ⟨other, isOther, samePost⟩ := Option.map_eq_some_iff.1 same.symm
      exact (congrArg Post.pending samePost).symm.trans (inert.noHandle other isOther)

/-- The timer changes, and what it is to run was there or is a task of a watchdog that may be roused. -/
theorem setTimer {timer : ManualTimer Nat}
    (tasks : ∀ entry ∈ timer.entries, entry ∈ fabric.timer.entries ∨ roused entry.task) :
    Rouses roused fabric { fabric with timer } := by
  refine ⟨Nat.le_refl _, rfl, id, fun number spared inert =>
    ⟨?_, inert.noChannel, inert.noRetry, inert.noHandle⟩⟩
  intro entry isEntry same
  rcases tasks entry isEntry with wasThere | isRoused
  · exact inert.noTask entry wasThere same
  · exact spared (same ▸ isRoused)

/-- Channels and pools change, and who handles a channel did before or may be roused. -/
theorem setRoster {roster : Roster}
    (handlers : ∀ channel number, roster.handler? channel = some number →
      fabric.roster.handler? channel = some number ∨ roused number) :
    Rouses roused fabric { fabric with roster } := by
  refine ⟨Nat.le_refl _, rfl, id, fun number spared inert =>
    ⟨inert.noTask, ?_, inert.noRetry, inert.noHandle⟩⟩
  intro channel handles
  rcases handlers channel number handles with handled | isRoused
  · exact inert.noChannel channel handled
  · exact spared isRoused

/-- A watchdog changes that keeps its listeners and workers, and that may be roused if it is to remember a
handle. -/
theorem changeWatchdog (fabric : Fabric) (number : Nat) {change : Watchdog → Watchdog}
    (handles : ∀ watchdog, watchdog.pending = none → (change watchdog).pending = none ∨ roused number)
    (same : ∀ watchdog, (change watchdog).listeners = watchdog.listeners
      ∧ (change watchdog).notifier.workers = watchdog.notifier.workers) :
    Rouses roused fabric (fabric.changeWatchdog number change) := by
  refine ⟨Nat.le_of_eq (List.length_modify _ _ _).symm, rfl, ?_, ?_⟩
  · intro allPlain watchdog isWatchdog
    obtain ⟨place, isThere⟩ := List.mem_iff_getElem?.1 isWatchdog
    rw [Fabric.changeWatchdog, List.getElem?_modify] at isThere
    obtain ⟨found, wasThere, isChanged⟩ := Option.map_eq_some_iff.1 isThere
    have wasPlain := allPlain found (List.mem_of_getElem? wasThere)
    rw [← isChanged]
    split
    · exact wasPlain.of_same (same found).1 (same found).2
    · exact wasPlain
  · intro other spared inert
    refine ⟨inert.noTask, inert.noChannel, inert.noRetry, ?_⟩
    intro watchdog isThere
    rw [Fabric.changeWatchdog, List.getElem?_modify] at isThere
    obtain ⟨found, wasThere, isChanged⟩ := Option.map_eq_some_iff.1 isThere
    have wasFree := inert.noHandle found wasThere
    rw [← isChanged]
    split
    · rename_i same
      exact (handles found wasFree).resolve_right fun isRoused => spared (same ▸ isRoused)
    · exact wasFree

/-- A watchdog that is added has nothing to wake it. -/
theorem addWatchdog (fabric : Fabric) {watchdog : Watchdog} (plain : watchdog.Plain)
    (free : watchdog.pending = none) : Rouses roused fabric (fabric.addWatchdog watchdog).1 := by
  refine ⟨?_, rfl, ?_, fun number _ inert => ⟨inert.noTask, inert.noChannel, inert.noRetry, ?_⟩⟩
  · simp only [Fabric.addWatchdog, List.length_append]
    exact Nat.le_add_right _ _
  · intro allPlain found isWatchdog
    rcases List.mem_append.1 isWatchdog with before | isNew
    · exact allPlain found before
    · rw [List.mem_singleton.1 isNew]
      exact plain
  · intro found isThere
    simp only [Fabric.addWatchdog, List.getElem?_append] at isThere
    split at isThere
    · exact inert.noHandle found isThere
    · rw [List.mem_singleton.1 (List.mem_of_getElem? isThere)]
      exact free

theorem addConnection (fabric : Fabric) (address : Address) :
    Rouses roused fabric (fabric.addConnection address).1 :=
  of_same rfl rfl rfl rfl

theorem bind (fabric : Fabric) (number : Nat) (switch : ReconnectSwitch) :
    Rouses roused fabric (fabric.bind number switch).1 := by
  simp only [Fabric.bind]
  split
  · exact refl fabric
  · exact of_same rfl rfl rfl rfl

end Rouses

/-! ### Starting, stopping and scheduling -/

theorem rouses_start (fabric : Fabric) (number : Nat) : Rouses roused fabric (fabric.start number).1 := by
  simp only [Fabric.start]
  split
  · exact .refl fabric
  · split
    · exact .refl fabric
    · have started : Rouses roused fabric (fabric.changeWatchdog number fun found =>
          { found with started := true }) :=
        .changeWatchdog fabric number (fun _ free => .inl free) fun _ => ⟨rfl, rfl⟩
      exact started.trans (.log _ _)

theorem rouses_stop (fabric : Fabric) (number : Nat) : Rouses roused fabric (fabric.stop number).1 := by
  simp only [Fabric.stop]
  split
  · exact .refl fabric
  · rename_i watchdog _
    have cancelled : Rouses roused fabric (fabric.cancelPending watchdog.pending) := by
      cases watchdog.pending with
      | none => exact .refl fabric
      | some handle => exact .setTimer fun _ isEntry => .inl isEntry
    have stopped := cancelled.trans
      (.changeWatchdog _ number (fun _ _ => .inl rfl) fun _ => ⟨rfl, rfl⟩ :
        Rouses roused _ ((fabric.cancelPending watchdog.pending).changeWatchdog number fun found =>
          { found with started := false, pending := none, notifier := found.notifier.shutDown }))
    split
    · exact stopped.trans (.log _ _)
    · exact stopped

theorem rouses_turnSwitch (fabric : Fabric) (connection : Nat) (enabled : Bool) :
    Rouses roused fabric (fabric.turnSwitch connection enabled) := by
  simp only [Fabric.turnSwitch]
  split
  · exact .refl fabric
  · split
    · rename_i number _
      cases enabled with
      | true => exact rouses_start fabric number
      | false => exact rouses_stop fabric number
    · exact .record fabric _
    · exact .log fabric _

theorem rouses_schedule (fabric : Fabric) (number : Nat) (delay : Span) :
    Rouses (· = number) fabric (fabric.schedule number delay).1 := by
  simp only [Fabric.schedule]
  split
  · exact .refl fabric
  · rename_i timer handle accepted
    have scheduled : Rouses (· = number) fabric { fabric with timer } := by
      refine .setTimer fun entry isEntry => ?_
      rw [ManualTimer.including_of_schedule accepted] at isEntry
      rcases List.mem_append.1 isEntry with wasThere | isNew
      · exact .inl wasThere
      · rw [List.mem_singleton.1 isNew]
        exact .inr rfl
    have shown := scheduled.trans (.record _ (.scheduled delay))
    exact shown.trans (.changeWatchdog _ number (fun _ _ => .inr rfl) fun _ => ⟨rfl, rfl⟩)

theorem rouses_onDisconnected (fabric : Fabric) (number : Nat) :
    Rouses (· = number) fabric (fabric.onDisconnected number) := by
  simp only [Fabric.onDisconnected]
  split
  · exact .refl fabric
  · rename_i watchdog _
    split
    · have counted : Rouses (· = number) fabric (fabric.changeWatchdog number fun found =>
          { found with attempts := found.attempts + 1 }) :=
        .changeWatchdog fabric number (fun _ free => .inl free) fun _ => ⟨rfl, rfl⟩
      have announced := counted.trans
        (.log _ (watchdog.line .debug "reconnect scheduled"
          [("attempts", Text.decimal watchdog.nextAttempts.toNat),
           ("delay_ms",
              Text.decimal (watchdog.backoff.delayFor watchdog.nextAttempts).clampedMillis.toNat)]))
      have scheduled := announced.trans
        (rouses_schedule _ number (watchdog.backoff.delayFor watchdog.nextAttempts))
      split
      · rename_i changed isChanged
        rw [isChanged] at scheduled
        exact scheduled
      · rename_i changed error isChanged
        rw [isChanged] at scheduled
        exact scheduled.trans (.log _ _)
    · exact .log fabric _

/-! ### Channels -/

theorem rouses_tellNext (fabric : Fabric) (next : NextHandler) (channel : Nat) (notice : ChannelNotice) :
    Rouses roused fabric (fabric.tellNext next channel notice) := by
  cases next with
  | nobody => exact .refl fabric
  | recorder name => exact .record fabric _
  | tracker connection application =>
      have noted : Rouses roused fabric (fabric.tellNext (.tracker connection none) channel notice) := by
        simp only [Fabric.tellNext]
        split <;> exact .of_same rfl rfl rfl rfl
      cases application with
      | none => exact noted
      | some name => exact noted.trans (.record _ _)

/-- A channel that comes up wakes nobody: it was handled before. -/
theorem rouses_channelActive (fabric : Fabric) (number channel : Nat) :
    Rouses roused fabric (fabric.channelActive number channel) := by
  simp only [Fabric.channelActive]
  split
  · exact .refl fabric
  · have counted : Rouses roused fabric (fabric.changeWatchdog number fun found =>
        { found with attempts := 0 }) :=
      .changeWatchdog fabric number (fun _ free => .inl free) fun _ => ⟨rfl, rfl⟩
    refine Rouses.trans ?_ (rouses_tellNext _ _ channel .active)
    refine Rouses.trans ?_ (.log _ _)
    split
    · refine counted.trans (.setRoster fun other number handles => .inl ?_)
      rw [← Roster.handler?_enroll]
      exact handles
    · exact counted

theorem rouses_channelInactive (fabric : Fabric) (number channel : Nat) :
    Rouses (· = number) fabric (fabric.channelInactive number channel) := by
  simp only [Fabric.channelInactive]
  split
  · exact .refl fabric
  · exact (Rouses.log fabric _).trans
      ((rouses_onDisconnected _ number).trans (rouses_tellNext _ _ channel _))

/-- Closing a channel wakes at most its handler, which was awake. -/
theorem rouses_close (fabric : Fabric) (channel : Nat) : Rouses roused fabric (fabric.close channel) := by
  have shut : ∀ roused, Rouses roused fabric { fabric with roster := (fabric.roster.close channel).1 } := by
    refine fun _ => .setRoster fun other number handles => .inl ?_
    rw [Roster.handler?_close] at handles
    split at handles
    · cases handles
    · exact handles
  simp only [Fabric.close]
  split
  · rename_i number told
    have awake : ¬ fabric.Inert number :=
      fun inert => inert.noChannel channel (Roster.handler?_of_close told)
    exact ((shut _).trans (rouses_channelInactive _ number channel)).of_awake awake
  · exact shut roused

/-- A channel comes up for a watchdog, which handles it from here on. -/
theorem rouses_establish (fabric : Fabric) (number : Nat) (flaps : Bool) :
    Rouses (· = number) fabric (fabric.establish number flaps).1 := by
  have opened : Rouses (· = number) fabric
      { fabric with roster := (fabric.roster.openChannel (some number)).1 } := by
    refine .setRoster fun other handler handles => ?_
    rw [Roster.handler?_openChannel] at handles
    split at handles
    · exact .inr (Option.some.inj handles).symm
    · exact .inl handles
  have active := opened.trans
    (rouses_channelActive _ number (fabric.roster.openChannel (some number)).2)
  cases flaps with
  | false => exact active
  | true => exact active.trans (rouses_close _ _)

/-! ### Attempts -/

/-- After a retry its watchdog may schedule another one; a caller's failure changes nothing. -/
theorem rouses_failed (plain : ∀ watchdog ∈ fabric.watchdogs, watchdog.Plain) (attempt : Attempt)
    (error : TransportError) :
    Rouses (· = attempt.watchdog) fabric (fabric.failed attempt error) := by
  simp only [Fabric.failed]
  split
  · rename_i watchdog _ _
    have logged : Rouses (· = attempt.watchdog) fabric (fabric.log
        (watchdog.line .warn "reconnect attempt failed"
          [("attempts", Text.decimal attempt.attempts.toNat), ("code", error.code),
           ("error", error.message)])) := .log fabric _
    rw [notifyFailure_of_plain (logged.plain plain)]
    simp only [ite_self]
    exact logged.trans (rouses_onDisconnected _ attempt.watchdog)
  · exact .refl fabric

/-- A caller's attempt is no retry. -/
theorem Inert.issue_caller {other : Nat} (inert : fabric.Inert other) (number : Nat) (watchdog : Watchdog) :
    (fabric.issue number .caller watchdog).Inert other := by
  refine ⟨inert.noTask, inert.noChannel, ?_, inert.noHandle⟩
  intro attempt isTried isRetry
  rcases List.mem_append.1 isTried with before | isNew
  · exact inert.noRetry attempt before isRetry
  · rw [List.mem_singleton.1 isNew] at isRetry
    cases isRetry

theorem callers_issue_caller (fabric : Fabric) (number : Nat) (watchdog : Watchdog) :
    (fabric.issue number .caller watchdog).callers = fabric.callers ++ [number] :=
  List.filterMap_append

theorem rouses_release (fabric : Fabric) (index : Nat) :
    Rouses roused fabric (fabric.release index).1 := by
  simp only [Fabric.release]
  refine .setTimer fun entry isEntry => .inl ?_
  cases found : fabric.timer.entries[index]? with
  | none =>
      rw [ManualTimer.release_of_none found] at isEntry
      exact isEntry
  | some released =>
      rw [ManualTimer.release_eq found] at isEntry
      exact List.mem_of_mem_eraseIdx isEntry

theorem rouses_beginRetry (fabric : Fabric) (number : Nat) :
    Rouses (· = number) fabric (fabric.beginRetry number).1 := by
  simp only [Fabric.beginRetry]
  split
  · exact .refl fabric
  · rename_i watchdog _
    split
    · refine ⟨Nat.le_refl _, ?_, id, fun other spared inert =>
        ⟨inert.noTask, inert.noChannel, ?_, inert.noHandle⟩⟩
      · exact (List.filterMap_append).trans (List.append_nil _)
      · intro attempt isTried isRetry
        rcases List.mem_append.1 isTried with before | isNew
        · exact inert.noRetry attempt before isRetry
        · rw [List.mem_singleton.1 isNew]
          exact fun same => spared same.symm
    · exact .log fabric _

/-- The watchdog whose task is released was awake. -/
theorem not_inert_of_release {index : Nat} (released : (fabric.release index).2 = some (some number)) :
    ¬ fabric.Inert number := by
  intro inert
  simp only [Fabric.release] at released
  cases found : fabric.timer.entries[index]? with
  | none =>
      rw [ManualTimer.release_of_none found] at released
      cases released
  | some entry =>
      rw [ManualTimer.release_eq found] at released
      refine inert.noTask entry (List.mem_of_getElem? found) ?_
      dsimp only at released
      split at released
      · exact Option.some.inj (Option.some.inj released)
      · cases released

/-! ### The end of an attempt -/

/-- The fabric once an attempt is not under way any more. -/
def without (fabric : Fabric) (place : Nat) : Fabric :=
  { fabric with underWay := fabric.underWay.eraseIdx place }

theorem Inert.without (inert : fabric.Inert number) (place : Nat) : (fabric.without place).Inert number :=
  ⟨inert.noTask, inert.noChannel,
    fun attempt isTried => inert.noRetry attempt (List.mem_of_mem_eraseIdx isTried), inert.noHandle⟩

/-- The attempts before and behind the one at a place. -/
theorem underWay_split {place : Nat} {attempt : Attempt} (isThere : fabric.underWay[place]? = some attempt) :
    fabric.underWay = fabric.underWay.take place ++ attempt :: fabric.underWay.drop (place + 1) := by
  obtain ⟨bound, isAttempt⟩ := List.getElem?_eq_some_iff.1 isThere
  rw [← isAttempt, List.getElem_cons_drop, List.take_append_drop]

/-- The end of a retry concerns no caller. -/
theorem callers_without_retry {place : Nat} {attempt : Attempt}
    (isThere : fabric.underWay[place]? = some attempt) (isRetry : attempt.origin = .retry) :
    (fabric.without place).callers = fabric.callers := by
  have nobody : attempt.caller? = none := by
    rw [Attempt.caller?, isRetry]
  simp only [callers, without]
  conv_rhs => rw [underWay_split isThere]
  rw [List.eraseIdx_eq_take_drop_succ, List.filterMap_append, List.filterMap_append,
    List.filterMap_cons_none nobody]

/-- Where each watchdog has at most one caller, the end of a caller's attempt takes that caller off. -/
theorem callers_without_caller {place : Nat} {attempt : Attempt}
    (isThere : fabric.underWay[place]? = some attempt) (isCaller : attempt.origin = .caller)
    (single : fabric.callers.Nodup) :
    (fabric.without place).callers = fabric.callers.filter (· != attempt.watchdog) := by
  have somebody : attempt.caller? = some attempt.watchdog := by
    rw [Attempt.caller?, isCaller]
  have parts : fabric.callers
      = (fabric.underWay.take place).filterMap Attempt.caller?
        ++ attempt.watchdog :: (fabric.underWay.drop (place + 1)).filterMap Attempt.caller? := by
    rw [callers]
    conv_lhs => rw [underWay_split isThere]
    rw [List.filterMap_append, List.filterMap_cons_some somebody]
  rw [parts] at single ⊢
  have notBefore : attempt.watchdog ∉ (fabric.underWay.take place).filterMap Attempt.caller? :=
    fun isBefore => (List.nodup_cons.1 (List.nodup_middle.1 single)).1 (List.mem_append_left _ isBefore)
  rw [← single.erase_eq_filter, List.erase_append_right _ notBefore, List.erase_cons_head,
    ← List.filterMap_append, ← List.eraseIdx_eq_take_drop_succ]
  rfl

/-- However an attempt ends, its end wakes at most its watchdog. -/
theorem rouses_settle (plain : ∀ watchdog ∈ fabric.watchdogs, watchdog.Plain) {place : Nat}
    {attempt : Attempt} (isThere : fabric.underWay[place]? = some attempt) (outcome : Outcome) :
    Rouses (· = attempt.watchdog) (fabric.without place) (fabric.settle place outcome).1 := by
  have succeeds : ∀ flaps,
      Rouses (· = attempt.watchdog) (fabric.without place)
        (((fabric.without place).establish attempt.watchdog flaps).1.succeeded attempt
          ((fabric.without place).establish attempt.watchdog flaps).2) := by
    intro flaps
    have up := rouses_establish (fabric.without place) attempt.watchdog flaps
    exact up.trans (.of_quiet (Quiet.succeeded (up.plain plain) attempt _))
  simp only [Fabric.settle, isThere]
  cases outcome with
  | established => exact succeeds false
  | flapped => exact succeeds true
  | failed error =>
      have samePlain : ∀ watchdog ∈ (fabric.without place).watchdogs, watchdog.Plain := plain
      exact rouses_failed samePlain attempt error

end Fabric

end Uplink
