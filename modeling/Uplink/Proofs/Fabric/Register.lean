/-
Module: Uplink.Proofs.Fabric.Register
Purpose: An onlooker keeps a register of what every attempt found counted when it began.  It tells what every
  listener is told, and the retries of a watchdog follow a schedule.
Main exports: Register, Register.next, Register.due, Register.after_of, Fabric.announces_step,
  Fabric.attempts?_step, Fabric.retries_follow_a_schedule
-/
import Uplink.Proofs.Fabric.Backoff
import Uplink.Proofs.Fabric.News

namespace Uplink

namespace Fabric

variable {fabric before after : Fabric} {number : Nat} {watchdog : Watchdog}

/-! ### Attempts that begin -/

/-- The attempt that an event ends: its place among those under way. -/
def ended? : FabricEvent → Option Nat
  | .settle place _ => some place
  | _ => none

/-- An attempt that begins behind those under way takes over the count that its watchdog has by then. -/
def Begins (before after : Fabric) : Prop :=
  ∃ begun, after.underWay = before.underWay ++ begun
    ∧ ∀ attempt ∈ begun, before.attempts? attempt.watchdog = some attempt.attempts

theorem Begins.of_underWay (same : after.underWay = before.underWay) : Begins before after :=
  ⟨[], by rw [same, List.append_nil], fun _ isBegun => absurd isBegun List.not_mem_nil⟩

theorem begins_issue (isThere : fabric.watchdogs[number]? = some watchdog) (origin : Origin) :
    Begins fabric (fabric.issue number origin watchdog) := by
  refine ⟨[_], rfl, ?_⟩
  intro attempt isBegun
  rw [List.mem_singleton.1 isBegun, attempts?, isThere, Option.map_some]

theorem begins_fire (fabric : Fabric) (index : Nat) : Begins fabric (fabric.fire index) := by
  unfold fire
  split
  · rename_i released number isReleased
    obtain ⟨rfl, -⟩ := Prod.mk.inj isReleased
    simp only [beginRetry]
    split
    · exact .of_underWay rfl
    · rename_i watchdog isThere
      split
      · exact begins_issue isThere .retry
      · exact .of_underWay rfl
  · rename_i released outcome isReleased
    obtain ⟨rfl, -⟩ := Prod.mk.inj isReleased
    exact .of_underWay rfl

/-- Where no attempt ends, some may begin. -/
theorem begins_step (fabric : Fabric) {event : FabricEvent} (goesOn : ended? event = none) :
    Begins fabric (fabric.step event) := by
  cases event with
  | settle => cases goesOn
  | fire index => exact begins_fire fabric index
  | beginCall number =>
      simp only [step, beginCall]
      split
      · exact .of_underWay rfl
      · rename_i watchdog isThere
        exact begins_issue isThere .caller
  | _ => exact .of_underWay (Calm.step fabric rfl).underWay

end Fabric

/-! ### The register -/

/-- What an onlooker keeps on a register: for every attempt under way what its watchdog counted when it began,
and for every worker these counts of the attempts whose success it is not done with. -/
structure Register where
  underWay : List UInt32
  news : Nat → Nat → List UInt32

namespace Register

/-- Nothing on it. -/
def blank : Register := { underWay := [], news := fun _ _ => [] }

/-- Follow a queue by its length: what comes waits behind the rest, and what goes was first. -/
def follow (queue : List UInt32) (came : Option UInt32) (length : Nat) : List UInt32 :=
  if queue.length < length then queue ++ came.toList else queue.drop (queue.length - length)

theorem follow_same (queue : List UInt32) (came : Option UInt32) : follow queue came queue.length = queue := by
  rw [follow, if_neg (Nat.lt_irrefl _), Nat.sub_self, List.drop_zero]

theorem follow_came (queue : List UInt32) (attempts : UInt32) :
    follow queue (some attempts) (queue ++ [attempts]).length = queue ++ [attempts] := by
  have longer : queue.length < (queue ++ [attempts]).length := by simp
  rw [follow, if_pos longer, Option.toList_some]

theorem follow_gone (told : UInt32) (queue : List UInt32) (came : Option UInt32) :
    follow (told :: queue) came queue.length = queue := by
  rw [follow, List.length_cons, if_neg (Nat.not_lt_of_le (Nat.le_succ _)), Nat.add_sub_cancel_left]
  rfl

/-- The register after an event.  When attempts begin, the onlooker asks their watchdogs for the counts; of the
news it sees only how many there are. -/
def next (register : Register) (fabric : Fabric) (event : FabricEvent) : Register :=
  { underWay :=
      match Fabric.ended? event with
      | some place => register.underWay.eraseIdx place
      | none =>
          register.underWay ++ ((fabric.step event).underWay.drop fabric.underWay.length).map fun attempt =>
            (fabric.attempts? attempt.watchdog).getD 0
    news := fun number worker =>
      follow (register.news number worker) ((Fabric.ended? event).bind fun place => register.underWay[place]?)
        ((fabric.step event).news number worker).length }

/-- The register after some events. -/
def after (register : Register) (fabric : Fabric) : List FabricEvent → Register
  | [] => register
  | event :: rest => (register.next fabric event).after (fabric.step event) rest

/-- What an event has to tell by the register: a failure with the count of the attempt that it ends, or a success
with the first count that waits with a worker. -/
def due (register : Register) : FabricEvent → Option (Bool × UInt32)
  | .settle place (.failed _) => (register.underWay[place]?).map fun attempts => (false, attempts)
  | .workerStep number worker => (register.news number worker).head?.map fun attempts => (true, attempts)
  | _ => none

/-- What attempts and news carry with them. -/
def of (fabric : Fabric) : Register :=
  { underWay := fabric.underWay.map Attempt.attempts, news := fabric.news }

variable {fabric : Fabric} {number : Nat}

/-- What attempts and news carry with them is what the register says. -/
theorem next_of (fabric : Fabric) (event : FabricEvent) :
    (of fabric).next fabric event = of (fabric.step event) := by
  have underWay : ((of fabric).next fabric event).underWay = (of (fabric.step event)).underWay := by
    simp only [next, of]
    cases isEnd : Fabric.ended? event with
    | some place =>
        obtain ⟨outcome, rfl⟩ : ∃ outcome, event = .settle place outcome := by
          cases event with
          | settle ended outcome => exact ⟨outcome, by rw [Option.some.inj isEnd]⟩
          | _ => cases isEnd
        dsimp only
        rw [Fabric.step, Fabric.underWay_settle, List.eraseIdx_map]
    | none =>
        obtain ⟨begun, isBegun, counts⟩ := Fabric.begins_step fabric isEnd
        dsimp only
        rw [isBegun, List.drop_left, List.map_append]
        congr 1
        apply List.map_congr_left
        intro attempt isNew
        rw [counts attempt isNew, Option.getD_some]
  have news : ((of fabric).next fabric event).news = (of (fabric.step event)).news := by
    funext number worker
    change follow (fabric.news number worker) _ ((fabric.step event).news number worker).length
      = (fabric.step event).news number worker
    rcases Fabric.news_step fabric event number worker with
      same | ⟨place, outcome, attempt, rfl, isThere, grown⟩ | ⟨told, isDone⟩
    · rw [same, follow_same]
    · have came : (of fabric).underWay[place]? = some attempt.attempts := by
        rw [of, List.getElem?_map, isThere, Option.map_some]
      rw [grown, Fabric.ended?, Option.bind_some, came, follow_came]
    · rw [isDone, follow_gone]
  exact congr (congrArg mk underWay) news

theorem after_of (fabric : Fabric) (events : List FabricEvent) :
    (of fabric).after fabric events = of (fabric.run events) := by
  induction events generalizing fabric with
  | nil => rfl
  | cons event rest ih =>
      rw [after, next_of, ih]
      rfl

end Register

namespace Fabric

variable {fabric : Fabric} {number : Nat}

/-- What an event tells is what is due by the register. -/
theorem announces_step (fabric : Fabric) (event : FabricEvent) :
    fabric.Announces (fabric.step event) ((Register.of fabric).due event) := by
  cases event with
  | settle place outcome =>
      cases isThere : fabric.underWay[place]? with
      | none =>
          simp only [step, settle, isThere]
          exact .refl fabric
      | some attempt =>
          let ended : Fabric := { fabric with underWay := fabric.underWay.eraseIdx place }
          have up : ∀ flaps channel notice,
              Announces fabric ((ended.establish attempt.watchdog flaps).1.succeeded attempt channel) notice := by
            intro flaps channel notice
            have deeds : Deeds ended ((ended.establish attempt.watchdog flaps).1.succeeded attempt channel) :=
              (deeds_establish ended attempt.watchdog flaps).trans (deeds_succeeded _ attempt channel)
            have same := notices_of_deeds deeds
            exact .of_notices same
          simp only [step, settle, isThere]
          cases outcome with
          | established => exact up false _ _
          | flapped => exact up true _ _
          | failed error =>
              simp only [Register.due, Register.of, List.getElem?_map, isThere, Option.map_some]
              exact Announces.failed ended attempt error
  | workerStep number worker =>
      rcases workerStep_cases fabric number worker with
        idle | ⟨turned, queue, running, listeners, isAt, sameNews, sameNotices, tells⟩
      · rw [step, idle]
        exact .refl fabric
      · have isFirst : (fabric.news number worker).head? = some running.attempts := by
          rw [← sameNews, news, isAt]
          rfl
        simp only [step, tells, Register.due, Register.of, isFirst, Option.map_some]
        exact (Announces.of_notices sameNotices).trans (tellOnWorker_spec isAt listeners).2
  | fire index => exact .fire fabric index
  | beginCall number =>
      simp only [step, beginCall]
      split
      · exact .refl fabric
      · exact .issue fabric number .caller _
  | openGate => exact .of_notices rfl
  | _ => exact .of_deeds (deeds_step fabric rfl)

/-! ### The schedule -/

/-- A fabric in which no attempt has begun and no news has come. -/
def AtRest (fabric : Fabric) : Prop :=
  fabric.underWay = [] ∧ ∀ watchdog ∈ fabric.watchdogs, watchdog.notifier.workers = []

theorem AtRest.of_eq_blank (atRest : fabric.AtRest) : Register.of fabric = .blank := by
  have nothing : fabric.news = fun _ _ => [] := by
    funext number worker
    rw [news, worker?_eq]
    cases isThere : fabric.watchdogs[number]? with
    | none => rfl
    | some watchdog =>
        rw [Option.bind_some, atRest.2 watchdog (List.mem_of_getElem? isThere)]
        rfl
  rw [Register.of, Register.blank, atRest.1, nothing]
  rfl

/-- An event takes the count of a watchdog to zero if a channel becomes active, and on by one with a retry. -/
theorem attempts?_step (fabric : Fabric) (number : Nat) (event : FabricEvent) :
    (fabric.step event).attempts? number = (fabric.attempts? number).map fun count =>
      (if fabric.activates number event then 0 else count) + if fabric.retries number event then 1 else 0 := by
  rw [attempts?_eq, gauges_step, attempts?_eq, Option.map_map, Option.map_map]
  congr 1
  funext gauge
  simp only [Function.comp_apply, progress]
  cases fabric.activates number event <;> cases fabric.retries number event <;>
    simp [Gauge.advance, Gauge.restart]

/-- Every delay is that many steps long as retries have been scheduled in a row, up to the most steps and up to
the longest span. -/
theorem totalNanos_delayFor_make (stride : Span) (mostSteps : UInt32) {retry : Nat} (few : retry < UInt32.size) :
    ((Backoff.make stride mostSteps).delayFor (UInt32.ofNat retry)).totalNanos
      = min (stride.totalNanos * min retry (max mostSteps.toNat 1)) Span.longest.totalNanos := by
  obtain ⟨isStride, isMost⟩ := Backoff.mostSteps_make stride mostSteps
  rw [Backoff.totalNanos_delayFor, isStride, isMost, UInt32.toNat_ofNat_of_lt' few]

/-- Take a watchdog with any backoff, from when it was built through any events, and one event more; and let its
retries in a row, those since a channel of it became active, fit into 32 bits.  Then its count is their number.
A retry that it schedules is due after as many steps as there are retries in a row, up to the most steps and up
to the longest span.  A loss after which no other channel is wanted leaves the count alone, and schedules nothing
unless a listener does.  The count becomes zero when a channel becomes active, and never else.  And whoever is
told of an attempt is told what the count was when that attempt began. -/
theorem retries_follow_a_schedule {address : Address} {pool : Option Nat} {stride : Span} {mostSteps : UInt32}
    {handler : NextHandler} {capacity : Nat}
    (isBuilt : fabric.watchdogs[number]?
      = some (.make address pool (.make stride mostSteps) handler capacity))
    (atRest : fabric.AtRest) (events : List FabricEvent) (event : FabricEvent)
    (few : fabric.streak number 0 (events ++ [event]) < UInt32.size) :
    let before := fabric.run events
    let after := before.step event
    let retry := fabric.streak number 0 (events ++ [event])
    (∃ count, after.attempts? number = some count ∧ count.toNat = retry)
      ∧ (before.retries number event = true → before.timer.stopped = false →
        0 < retry ∧ ∃ delay, before.timer.Gains after.timer number delay
          ∧ delay.totalNanos
            = min (stride.totalNanos * min retry (max mostSteps.toNat 1)) Span.longest.totalNanos)
      ∧ (before.loses number event = true → after.reconnectNeeded number = false →
        after.attempts? number = (if before.activates number event then some 0 else before.attempts? number)
          ∧ (before.Passive → before.timer.stopped = false → after.timer = before.timer))
      ∧ (before.activates number event = true →
        after.attempts? number = some (if before.retries number event then 1 else 0))
      ∧ (before.attempts? number ≠ some 0 → after.attempts? number = some 0 →
        before.activates number event = true)
      ∧ before.Announces after ((Register.blank.after fabric events).due event) := by
  intro before after retry
  have wasCount : before.attempts? number = some (UInt32.ofNat (fabric.streak number 0 events)) :=
    attempts_run isBuilt rfl events
  have isCount : after.attempts? number = some (UInt32.ofNat retry) := by
    have ran := attempts_run isBuilt rfl (events ++ [event])
    rw [run_append] at ran
    exact ran
  have isStep := attempts?_step before number event
  rw [wasCount, Option.map_some] at isStep
  refine ⟨⟨_, isCount, UInt32.toNat_ofNat_of_lt' few⟩, ?_, ?_, ?_, ?_, ?_⟩
  · intro isRetry goesOn
    obtain ⟨isPositive, gained⟩ := gains_run isBuilt rfl isRetry goesOn few
    exact ⟨isPositive, _, gained, totalNanos_delayFor_make stride mostSteps few⟩
  · intro isLoss unneeded
    constructor
    case left =>
      have noRetry : before.retries number event = false := by
        rw [retries, unneeded, Bool.and_false]
      rw [isStep, noRetry, wasCount]
      cases before.activates number event <;> simp
    case right =>
      intro passive goesOn
      have isGauge := gauges_run (gauge_of_getElem? isBuilt) rfl events
      obtain ⟨earlier, -, silent, same⟩ := timer_step_of_loses isGauge goesOn isLoss
      rw [unneeded, if_neg Bool.false_ne_true, silent passive] at same
      exact same
  · intro isActive
    rw [isStep, isActive]
    cases before.retries number event <;> rfl
  · intro wasCounting isZero
    rw [wasCount] at wasCounting
    rw [isCount] at isZero
    have isNone : retry = 0 :=
      (UInt32.toNat_ofNat_of_lt' few).symm.trans (congrArg UInt32.toNat (Option.some.inj isZero))
    -- Without a channel the count would have to have been zero before.
    cases isActive : before.activates number event with
    | true => rfl
    | false =>
        have wasNone : fabric.streak number 0 events = 0 := by
          simp only [retry, streak_append, streak, tally] at isNone
          rw [isActive, if_neg Bool.false_ne_true] at isNone
          exact (Nat.add_eq_zero_iff.1 isNone).1
        exact absurd (congrArg (fun count => some (UInt32.ofNat count)) wasNone) wasCounting
  · rw [← atRest.of_eq_blank, Register.after_of]
    exact announces_step before event

/-- A retry begins while nothing has been counted, a link is lost meanwhile, and then the retry fails: its listener
is told of no attempts, and the second retry in a row is scheduled. -/
theorem schedule_after_a_late_failure :
    let events := [.addListener 0 (idler "A" .accepted), .schedule 0 .zero, .fire 0, .inactive 0 1]
    let before := solitary.run events
    let after := before.step (.settle 0 (.failed .timerStopped))
    after.attempts? 0 = some 2
      ∧ (∃ delay, before.timer.Gains after.timer 0 delay ∧ delay.totalNanos = 400000000)
      ∧ before.Announces after (some (false, 0)) ∧ after.notices = [(false, 0)] := by
  intro events before after
  have isBuilt : solitary.watchdogs[0]? = some (.make { host := "10.0.0.1", port := 6001 } none
      (.make (.ofMillis 200) 12) .nobody Watchdog.defaultNotifyCapacity) := rfl
  have atRest : solitary.AtRest := ⟨rfl, fun watchdog isWatchdog => by rw [List.mem_singleton.1 isWatchdog]; rfl⟩
  obtain ⟨⟨count, isCount, counts⟩, scheduled, -, -, -, announces⟩ :=
    retries_follow_a_schedule isBuilt atRest events (.settle 0 (.failed .timerStopped)) (by decide)
  obtain ⟨-, delay, gained, isDelay⟩ := scheduled rfl rfl
  have isTwo : count = 2 := UInt32.toNat.inj counts
  exact ⟨isTwo ▸ isCount, ⟨delay, gained, isDelay.trans (by decide)⟩, announces, rfl⟩

end Fabric

end Uplink
