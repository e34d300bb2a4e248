/-
Module: Uplink.Proofs.Fabric.Composure
Purpose: Listeners that make no calls do not sway retries, however they end; and each of them is told of a
  failed retry before the next one is scheduled.
Main exports: Standing, Fabric.standings, Fabric.nextRetry, Fabric.events_settle_failed, Fabric.trail,
  Fabric.listeners_do_not_sway_retries
-/
import Uplink.Proofs.Fabric.Calm
import Uplink.Proofs.Fabric.Likeness

namespace Uplink

/-- How things stand with retries: which attempts have begun and with what delays others were scheduled,
which watchdogs are started and what they count, and who is in the pools. -/
structure Standing where
  dials : List Address
  delays : List Span
  posts : List (Bool × UInt32)
  members : List (List Nat)
deriving DecidableEq

/-- The delay of an attempt that is scheduled. -/
def Event.delay? : Event → Option Span
  | .scheduled delay => some delay
  | _ => none

/-- What disregards what listeners hear can be read off the rest. -/
theorem Roster.filterMap_seen {Shown : Type} {view : Event → Option Shown} (roster : Roster)
    (disregards : ∀ event, event.isHeard = true → view event = none) :
    roster.seen.filterMap view = roster.journal.events.filterMap view := by
  rw [seen, List.filterMap_filter]
  congr 1
  funext event
  split
  · rfl
  · rename_i isHeard
    rw [Bool.not_eq_true, Bool.not_eq_false'] at isHeard
    exact (disregards event isHeard).symm

/-- Lists whose related entries show the same show the same. -/
theorem PlaceByPlace.map_eq {Entry Shown : Type} {related : Entry → Entry → Prop} {first second : List Entry}
    {view : Entry → Shown} (beside : PlaceByPlace related first second)
    (same : ∀ {one other}, related one other → view other = view one) :
    second.map view = first.map view := by
  apply List.ext_getElem?
  intro place
  rw [List.getElem?_map, List.getElem?_map]
  rcases beside.cases place with ⟨noFirst, noSecond⟩ | ⟨one, other, isFirst, isSecond, holds⟩
  · rw [noFirst, noSecond]
  · rw [isFirst, isSecond, Option.map_some, Option.map_some, same holds]

namespace Fabric

variable {fabric first second : Fabric} {number place : Nat} {watchdog : Watchdog}

/-! ### Two runs -/

/-- How things stand with retries in a fabric. -/
def standing (fabric : Fabric) : Standing :=
  { dials := fabric.roster.dials
    delays := fabric.roster.journal.events.filterMap Event.delay?
    posts := fabric.watchdogs.map fun watchdog => (watchdog.started, watchdog.attempts)
    members := fabric.roster.pools.map Pool.members }

/-- How things stand after each event that is about more than listeners. -/
def standings (fabric : Fabric) : List FabricEvent → List Standing
  | [] => []
  | event :: rest =>
      let after := fabric.step event
      if event.isListening then after.standings rest else after.standing :: after.standings rest

/-- The events that are about more than listeners. -/
def retrying (events : List FabricEvent) : List FabricEvent :=
  events.filter fun event => !event.isListening

theorem Alike.standing_eq (alike : first.Alike second) : second.standing = first.standing := by
  have sameEvents : ∀ {Shown : Type} {view : Event → Option Shown},
      (∀ event, event.isHeard = true → view event = none) →
      second.roster.journal.events.filterMap view = first.roster.journal.events.filterMap view := by
    intro Shown view disregards
    rw [← Roster.filterMap_seen _ disregards, ← Roster.filterMap_seen _ disregards, alike.roster.seen]
  have dials : second.roster.dials = first.roster.dials := by
    apply sameEvents
    intro event isHeard
    cases event with
    | connecting address => cases isHeard
    | _ => rfl
  have delays : second.roster.journal.events.filterMap Event.delay?
      = first.roster.journal.events.filterMap Event.delay? := by
    apply sameEvents
    intro event isHeard
    cases event with
    | scheduled delay => cases isHeard
    | _ => rfl
  have posts : second.watchdogs.map (fun watchdog => (watchdog.started, watchdog.attempts))
      = first.watchdogs.map fun watchdog => (watchdog.started, watchdog.attempts) :=
    alike.watchdogs.map_eq fun likewise => by rw [likewise.same]
  rw [standing, standing, dials, delays, posts, alike.roster.pools]

/-- A run goes as if nobody listened. -/
theorem Alike.run_retrying (alike : first.Alike second) {events : List FabricEvent}
    (passive : ∀ event ∈ events, event.Passive) :
    (first.run events).Alike (second.run (retrying events))
      ∧ first.standings events = second.standings (retrying events) := by
  induction events generalizing first second with
  | nil => exact ⟨alike, rfl⟩
  | cons event rest ih =>
      have others := fun other isOther => passive other (List.mem_cons_of_mem event isOther)
      cases isListening : event.isListening with
      | true =>
          have heard := (alike.symm.listen (passive event List.mem_cons_self) isListening).symm
          have dropped : retrying (event :: rest) = retrying rest := by
            rw [retrying, List.filter_cons_of_neg]
            · rfl
            · rw [isListening]
              exact Bool.false_ne_true
          rw [dropped, standings, isListening, if_pos rfl]
          exact ih heard others
      | false =>
          have stepped := alike.step isListening
          have kept : retrying (event :: rest) = event :: retrying rest := by
            rw [retrying, List.filter_cons_of_pos]
            · rfl
            · rw [isListening]
              rfl
          obtain ⟨ran, same⟩ := ih stepped others
          rw [kept, standings, standings, isListening, if_neg Bool.false_ne_true, if_neg Bool.false_ne_true]
          exact ⟨ran, by rw [same, stepped.standing_eq]⟩

/-- After events that bring in no listener with calls, watchdogs are as passive as before. -/
theorem Passive.run (passive : fabric.Passive) {events : List FabricEvent}
    (passiveEvents : ∀ event ∈ events, event.Passive) : (fabric.run events).Passive :=
  (passive.alike.run_retrying passiveEvents).1.passive

/-! ### Telling of a failure -/

/-- What there is to see when a listener is told of a failed retry by a watchdog that is started: the count
of attempts when the retry began, and the count by now.  A listener that completes a connection waits for
successes and lets a failure pass. -/
def sightOfFailure (attempts current : UInt32) : Listener → Option Event
  | .completion _ => none
  | .observer observer => some (.notified observer.label false attempts current true false)

/-- The retry that is scheduled when one has failed: none if no channel is wanted, or if the timer accepts
nothing any more. -/
def nextRetry (fabric : Fabric) (watchdog : Watchdog) : List Event :=
  if fabric.wants watchdog ∧ fabric.timer.stopped = false then
    [.scheduled (watchdog.backoff.delayFor watchdog.nextAttempts)]
  else []

/-- A fabric in which more was observed, and something was logged. -/
def noting (fabric : Fabric) (seen : List Event) (logs : List LogLine) : Fabric :=
  { fabric with
    roster := { fabric.roster with journal := { events := fabric.roster.journal.events ++ seen, logs } } }

/-- A passive listener that is told of a failure is seen, and may leave a log line. -/
theorem tell_failure (isThere : fabric.watchdogs[number]? = some watchdog) (started : watchdog.started = true)
    (attempts : UInt32) {listener : Listener} (passive : listener.calls = []) :
    ∃ logs, fabric.tell number false attempts false listener
      = fabric.noting (sightOfFailure attempts watchdog.attempts listener).toList logs := by
  cases listener with
  | completion connection =>
      refine ⟨fabric.roster.journal.logs, ?_⟩
      simp only [tell, sightOfFailure, noting, Option.toList_none, List.append_nil]
      rfl
  | observer observer =>
      have silent : observer.calls = [] := passive
      have begun : fabric.beginObserver number false attempts false observer
          = fabric.record (.notified observer.label false attempts watchdog.attempts true false) := by
        simp only [beginObserver, isThere, started]
      have stillThere : (fabric.beginObserver number false attempts false observer).watchdogs[number]?
          = some watchdog := by
        rw [watchdogs_beginObserver, isThere]
      simp only [tell, finishObserver, silent, List.foldl_nil, stillThere]
      rw [begun]
      cases observer.outcome with
      | accepted => exact ⟨_, rfl⟩
      | rejected reason => exact ⟨_, rfl⟩
      | panicked => exact ⟨_, rfl⟩

/-- Passive listeners that are told of a failure one after the other are seen in that order. -/
theorem tellEach_failure (isThere : fabric.watchdogs[number]? = some watchdog)
    (started : watchdog.started = true) (attempts : UInt32) {listeners : List Listener}
    (passive : ∀ listener ∈ listeners, listener.calls = []) :
    ∃ logs, listeners.foldl (fun changed listener => changed.tell number false attempts false listener) fabric
      = fabric.noting (listeners.filterMap (sightOfFailure attempts watchdog.attempts)) logs := by
  induction listeners generalizing fabric with
  | nil =>
      refine ⟨fabric.roster.journal.logs, ?_⟩
      simp only [List.foldl_nil, List.filterMap_nil, noting, List.append_nil]
  | cons listener rest ih =>
      obtain ⟨logs, told⟩ := tell_failure isThere started attempts (passive listener List.mem_cons_self)
      have stillThere : (fabric.tell number false attempts false listener).watchdogs[number]? = some watchdog := by
        rw [told]
        exact isThere
      obtain ⟨last, others⟩ := ih stillThere fun other isOther =>
        passive other (List.mem_cons_of_mem listener isOther)
      refine ⟨last, others.trans ?_⟩
      rw [told]
      simp only [noting, List.append_assoc, List.filterMap_cons]
      cases sightOfFailure attempts watchdog.attempts listener <;> rfl

theorem notifyFailure_eq (isThere : fabric.watchdogs[number]? = some watchdog)
    (started : watchdog.started = true) (passive : watchdog.Passive) (attempts : UInt32) :
    ∃ logs, fabric.notifyFailure number attempts
      = fabric.noting (watchdog.listeners.filterMap (sightOfFailure attempts watchdog.attempts)) logs := by
  simp only [notifyFailure, isThere]
  exact tellEach_failure isThere started attempts passive.listeners

theorem events_onDisconnected (isThere : fabric.watchdogs[number]? = some watchdog) :
    (fabric.onDisconnected number).roster.journal.events
      = fabric.roster.journal.events ++ fabric.nextRetry watchdog := by
  simp only [onDisconnected, isThere, nextRetry]
  by_cases wanted : fabric.wants watchdog = true
  · rw [if_pos wanted]
    cases isStopped : fabric.timer.stopped with
    | true =>
        have refused : ∀ delay, fabric.timer.schedule delay number = .error .timerStopped := by
          intro delay
          rw [ManualTimer.schedule, if_pos isStopped]
        rw [if_neg fun both => Bool.noConfusion both.2, List.append_nil]
        simp only [schedule, log, changeWatchdog, refused]
        rfl
    | false =>
        have accepted : ∀ delay, ∃ timer handle,
            fabric.timer.schedule delay number = .ok (timer, handle) := by
          intro delay
          rw [ManualTimer.schedule, if_neg (by rw [isStopped]; exact Bool.false_ne_true)]
          exact ⟨_, _, rfl⟩
        obtain ⟨timer, handle, isScheduled⟩ := accepted (watchdog.backoff.delayFor watchdog.nextAttempts)
        rw [if_pos ⟨wanted, rfl⟩]
        simp only [schedule, log, changeWatchdog, isScheduled]
        rfl
  · rw [if_neg wanted, if_neg fun both => wanted both.1, List.append_nil]
    rfl

/-- A failed retry of a started watchdog with passive listeners is seen by all of them, in order, and then
the next retry is scheduled. -/
theorem events_settle_failed {attempt : Attempt} (isUnderWay : fabric.underWay[place]? = some attempt)
    (isRetry : attempt.origin = .retry) (isThere : fabric.watchdogs[attempt.watchdog]? = some watchdog)
    (started : watchdog.started = true) (passive : watchdog.Passive) (error : TransportError) :
    (fabric.settle place (.failed error)).1.roster.journal.events
      = fabric.roster.journal.events
        ++ watchdog.listeners.filterMap (sightOfFailure attempt.attempts watchdog.attempts)
        ++ fabric.nextRetry watchdog := by
  let ended : Fabric := { fabric with underWay := fabric.underWay.eraseIdx place }
  let logged : Fabric := ended.log (watchdog.line .warn "reconnect attempt failed"
    [("attempts", Text.decimal attempt.attempts.toNat), ("code", error.code), ("error", error.message)])
  have settled : (fabric.settle place (.failed error)).1
      = (logged.notifyFailure attempt.watchdog attempt.attempts).onDisconnected attempt.watchdog := by
    simp only [settle, isUnderWay, failed, isRetry, isThere, started, if_true]
    rfl
  have stillThere : logged.watchdogs[attempt.watchdog]? = some watchdog := isThere
  obtain ⟨logs, told⟩ := notifyFailure_eq stillThere started passive attempt.attempts
  rw [settled, told]
  exact events_onDisconnected stillThere

/-! ### An attempt under way -/

/-- Where an attempt under way is found after an event, unless the event ends it. -/
def shift (event : FabricEvent) (place : Nat) : Option Nat :=
  match event with
  | .settle ended _ => if ended = place then none else if ended < place then some (place - 1) else some place
  | _ => some place

/-- Where an attempt under way is found after some events, unless one of them ends it. -/
def trail (place : Nat) (events : List FabricEvent) : Option Nat :=
  events.foldlM (fun place event => shift event place) place

theorem underWay_beginCall (fabric : Fabric) (number : Nat) :
    fabric.underWay <+: (fabric.beginCall number).underWay := by
  simp only [beginCall]
  split
  · exact List.prefix_rfl
  · exact List.prefix_append _ _

theorem underWay_beginRetry (fabric : Fabric) (number : Nat) :
    fabric.underWay <+: (fabric.beginRetry number).1.underWay := by
  simp only [beginRetry]
  split
  · exact List.prefix_rfl
  · split
    · exact List.prefix_append _ _
    · exact List.prefix_rfl

theorem underWay_fire (fabric : Fabric) (index : Nat) :
    fabric.underWay <+: (fabric.fire index).underWay := by
  have same : (fabric.release index).1.underWay = fabric.underWay := rfl
  rw [← same, fire]
  generalize fabric.release index = released
  rcases released with ⟨released, _ | _ | number⟩
  · exact List.prefix_rfl
  · exact List.prefix_rfl
  · exact underWay_beginRetry released number

/-- The end of one attempt leaves the others as they began, in order. -/
theorem underWay_settle (fabric : Fabric) (ended : Nat) (outcome : Outcome) :
    (fabric.settle ended outcome).1.underWay = fabric.underWay.eraseIdx ended := by
  cases isThere : fabric.underWay[ended]? with
  | none =>
      simp only [settle, isThere]
      exact (List.eraseIdx_of_length_le (List.getElem?_eq_none_iff.1 isThere)).symm
  | some attempt => exact (Calm.settle isThere outcome).underWay

/-- An attempt stays as it began, whatever happens meanwhile. -/
theorem underWay_step {attempt : Attempt} (isUnderWay : fabric.underWay[place]? = some attempt)
    {event : FabricEvent} {next : Nat} (stays : shift event place = some next) :
    (fabric.step event).underWay[next]? = some attempt := by
  have calm : ∀ {after : Fabric}, Calm fabric after → some place = some next →
      after.underWay[next]? = some attempt := by
    intro after keeps samePlace
    rw [keeps.underWay, ← Option.some.inj samePlace]
    exact isUnderWay
  have grown : ∀ {after : Fabric}, fabric.underWay <+: after.underWay → some place = some next →
      after.underWay[next]? = some attempt := by
    intro after longer samePlace
    obtain ⟨more, isLonger⟩ := longer
    rw [← Option.some.inj samePlace, ← isLonger,
      List.getElem?_append_left (List.getElem?_eq_some_iff.1 isUnderWay).1]
    exact isUnderWay
  cases event with
  | settle ended outcome =>
      simp only [step, underWay_settle]
      simp only [shift] at stays
      rcases Nat.lt_trichotomy ended place with before | rfl | behind
      · rw [if_neg (Nat.ne_of_lt before), if_pos before] at stays
        rw [← Option.some.inj stays, List.getElem?_eraseIdx_of_ge (by omega), Nat.sub_add_cancel (by omega)]
        exact isUnderWay
      · rw [if_pos rfl] at stays
        cases stays
      · rw [if_neg (Nat.ne_of_gt behind), if_neg (Nat.lt_asymm behind)] at stays
        rw [← Option.some.inj stays, List.getElem?_eraseIdx_of_lt behind]
        exact isUnderWay
  | beginCall number => exact grown (underWay_beginCall fabric number) stays
  | fire index => exact grown (underWay_fire fabric index) stays
  | _ => exact calm (.step fabric rfl) stays

theorem underWay_run {attempt : Attempt} (isUnderWay : fabric.underWay[place]? = some attempt)
    {events : List FabricEvent} {last : Nat} (stays : trail place events = some last) :
    (fabric.run events).underWay[last]? = some attempt := by
  induction events generalizing fabric place with
  | nil =>
      rw [← Option.some.inj stays]
      exact isUnderWay
  | cons event rest ih =>
      obtain ⟨next, staysFirst, staysThen⟩ := Option.bind_eq_some_iff.1 stays
      exact ih (underWay_step isUnderWay staysFirst) staysThen

/-- A task that is due begins an attempt with the count of that moment, behind all others. -/
theorem underWay_fire_of_wanted {index : Nat} (isDue : (fabric.timer.release index).2 = some (some number))
    (isThere : fabric.watchdogs[number]? = some watchdog) (wanted : fabric.wants watchdog = true) :
    (fabric.fire index).underWay
      = fabric.underWay ++ [{ watchdog := number, origin := .retry, attempts := watchdog.attempts }] := by
  have isReleased : fabric.release index = ({ fabric with timer := (fabric.timer.release index).1 },
      some (some number)) := by
    rw [release, isDue]
  have stillWanted : Fabric.wants { fabric with timer := (fabric.timer.release index).1 } watchdog = true :=
    wanted
  simp only [fire, isReleased, beginRetry, isThere, stillWanted, if_true]
  rfl

/-! ### The result -/

/-- Take two fabrics that are alike and two runs of them that differ in when listeners come and go, who they
are and how they end, but in nothing that is about retries; no listener makes calls.  Then things stand
alike with retries after every event.  And when a retry that a due task began ends with an error while its
watchdog is started, then every listener of that moment is told once, in order, with the count of attempts
from when the task fired, and only then the next retry is scheduled. -/
theorem listeners_do_not_sway_retries {events others : List FabricEvent} (alike : first.Alike second)
    (passive : ∀ event ∈ events, event.Passive) (othersPassive : ∀ event ∈ others, event.Passive)
    (same : retrying events = retrying others) :
    first.standings events = second.standings others
      ∧ (first.run events).standing = (second.run others).standing
      ∧ ∀ index number watchdog, ((first.run events).timer.release index).2 = some (some number) →
          (first.run events).watchdogs[number]? = some watchdog →
          (first.run events).wants watchdog = true →
          ∀ later place, (∀ event ∈ later, event.Passive) →
            trail (first.run events).underWay.length later = some place →
            let failing := ((first.run events).fire index).run later
            ∀ current, failing.watchdogs[number]? = some current → current.started = true →
              ∀ error, (failing.settle place (.failed error)).1.roster.journal.events
                = failing.roster.journal.events
                  ++ current.listeners.filterMap (sightOfFailure watchdog.attempts current.attempts)
                  ++ failing.nextRetry current := by
  obtain ⟨ran, told⟩ := alike.run_retrying passive
  obtain ⟨ranToo, toldToo⟩ := alike.right.run_retrying othersPassive
  rw [same] at ran told
  refine ⟨told.trans toldToo.symm, (ran.trans ranToo.symm).standing_eq.symm, ?_⟩
  intro index number watchdog isDue isThere wanted later place laterPassive stays failing current isCurrent
    started error
  have begun : ((first.run events).fire index).underWay[(first.run events).underWay.length]?
      = some { watchdog := number, origin := .retry, attempts := watchdog.attempts } := by
    rw [underWay_fire_of_wanted isDue isThere wanted, List.getElem?_concat_length]
  have fired : ((first.run events).fire index).Passive := (ran.left.fire index).passive
  have isPassive : current.Passive := (fired.run laterPassive) current (List.mem_of_getElem? isCurrent)
  exact events_settle_failed (underWay_run begun stays) rfl isCurrent started isPassive error

/-- A watchdog on its own, with nobody listening. -/
def solitary : Fabric :=
  { fresh with
    watchdogs := [Watchdog.make { host := "10.0.0.1", port := 6001 } none .standard .nobody
      Watchdog.defaultNotifyCapacity] }

/-- A listener that does nothing but end in some way. -/
def idler (label : String) (outcome : ListenerOutcome) : Listener :=
  .observer { label, gated := false, calls := [], outcome }

/-- A listener that panics changes nothing about an attempt that is scheduled.  When the attempt fails, it
is told, and so is a listener that came while the attempt was under way; then the next attempt is
scheduled. -/
theorem panic_sways_no_retry :
    solitary.standings [.addListener 0 (idler "A" .panicked), .schedule 0 Span.zero]
        = solitary.standings [.schedule 0 Span.zero]
      ∧ ((((solitary.run [.addListener 0 (idler "A" .panicked), .schedule 0 Span.zero]).fire 0).run
            [.addListener 0 (idler "B" .accepted)]).settle 0 (.failed .timerStopped)).1.roster.journal.events
          = [.scheduled Span.zero, .connecting { host := "10.0.0.1", port := 6001 },
            .notified "A" false 0 0 true false, .notified "B" false 0 0 true false,
            .scheduled (Backoff.standard.delayFor 1)] := by
  have isPassive : solitary.Passive := by
    intro watchdog isWatchdog
    rw [List.mem_singleton.1 isWatchdog]
    exact ⟨fun _ isListener => absurd isListener List.not_mem_nil, Notifier.every_make _ _⟩
  have scheduling : ∀ event ∈ [FabricEvent.schedule 0 Span.zero], event.Passive := by
    intro event isEvent
    rw [List.mem_singleton.1 isEvent]
    trivial
  have attending : ∀ event ∈ [FabricEvent.addListener 0 (idler "A" .panicked), .schedule 0 Span.zero],
      event.Passive := List.forall_mem_cons.2 ⟨rfl, scheduling⟩
  have joining : ∀ event ∈ [FabricEvent.addListener 0 (idler "B" .accepted)], event.Passive := by
    intro event isEvent
    rw [List.mem_singleton.1 isEvent]
    rfl
  obtain ⟨sameStandings, -, told⟩ := listeners_do_not_sway_retries isPassive.alike attending scheduling rfl
  refine ⟨sameStandings, ?_⟩
  rw [told 0 0 _ rfl rfl rfl _ 0 joining rfl _ rfl rfl]
  rfl

end Fabric

end Uplink
