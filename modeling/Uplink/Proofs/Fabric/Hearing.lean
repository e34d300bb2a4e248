/-
Module: Uplink.Proofs.Fabric.Hearing
Purpose: Who is told by a watchdog that is stopped: the listeners behind one that stopped it in the same
  round, and those of a round that a worker held at the gate when the watchdog was stopped.
Main exports: StoppedBy, Fabric.heldRound, Fabric.StaysStopped, Fabric.told_after_stop_iff
-/
import Mathlib.Data.List.Induction
import Uplink.Proofs.Fabric.Rounds

namespace Uplink

/-! ### The last word -/

/-- Among some calls there is a stop, and no start after it. -/
def StoppedBy (calls : List ListenerCall) : Prop :=
  ∃ before after, calls = before ++ .stop :: after ∧ .start ∉ after

/-- One more call stops the watchdog, or leaves it stopped by not starting it. -/
theorem stoppedBy_append_singleton {calls : List ListenerCall} {call : ListenerCall} :
    StoppedBy (calls ++ [call]) ↔ call = .stop ∨ StoppedBy calls ∧ call ≠ .start := by
  constructor
  · rintro ⟨before, after, split, kept⟩
    rcases List.eq_nil_or_concat after with rfl | ⟨earlier, last, rfl⟩
    · exact Or.inl (List.singleton_inj.1 (List.append_inj_right' split rfl))
    · rw [List.concat_eq_append, ← List.cons_append, ← List.append_assoc] at split
      have sameLast := List.singleton_inj.1 (List.append_inj_right' split rfl)
      have sameEarlier := List.append_inj_left' split rfl
      simp only [List.concat_eq_append, List.mem_append, not_or, List.mem_singleton] at kept
      exact Or.inr ⟨⟨before, earlier, sameEarlier, kept.1⟩, fun starts =>
        kept.2 (starts.symm.trans sameLast)⟩
  · rintro (rfl | ⟨⟨before, after, rfl, kept⟩, spares⟩)
    · exact ⟨calls, [], rfl, List.not_mem_nil⟩
    · refine ⟨before, after ++ [call], by rw [List.append_assoc, List.cons_append], ?_⟩
      simp only [List.mem_append, not_or, List.mem_singleton]
      exact ⟨kept, fun starts => spares starts.symm⟩

/-- The last call that starts or stops a watchdog decides, and if there is none, it stays as it was. -/
theorem foldl_turn_eq_false_iff (calls : List ListenerCall) (started : Bool) :
    calls.foldl ListenerCall.turn started = false ↔
      StoppedBy calls ∨ started = false ∧ .start ∉ calls := by
  induction calls using List.reverseRecOn with
  | nil =>
      have neverStopped : ¬ StoppedBy [] := by
        rintro ⟨before, _, split, -⟩
        cases before <;> cases split
      simp only [List.foldl_nil, neverStopped, List.not_mem_nil, not_false_eq_true, and_true, false_or]
  | append_singleton calls call ih =>
      rw [List.foldl_append, List.foldl_cons, List.foldl_nil, stoppedBy_append_singleton]
      cases call with
      | stop => simp only [ListenerCall.turn, true_or]
      | start => simp [ListenerCall.turn]
      | _ => simpa [ListenerCall.turn] using ih

/-- Whoever is told finds the flag as those before have left it. -/
theorem tellEach_eq_append {number : Nat} {success started : Bool} {listeners : List Listener}
    {earlier later : List Telling} {telling : Telling}
    (split : tellEach number success started listeners = earlier ++ telling :: later) :
    telling.watchdog = number ∧
      telling.started = (earlier.flatMap fun before => before.listener.calls).foldl
        ListenerCall.turn started := by
  induction listeners generalizing started earlier with
  | nil => cases earlier <;> cases split
  | cons listener rest ih =>
      rw [tellEach] at split
      cases earlier with
      | nil =>
          injection split with same _
          rw [← same]
          exact ⟨rfl, rfl⟩
      | cons first others =>
          injection split with same tail
          obtain ⟨watchdog, flag⟩ := ih tail
          refine ⟨watchdog, ?_⟩
          rw [flag, ← same, List.flatMap_cons, List.foldl_append]

namespace Fabric

/-! ### Rounds that workers hold -/

variable {fabric before after : Fabric} {number worker : Nat}

/-- The observer that waits at the gate with a worker of a watchdog, and the listeners behind it. -/
def heldRound (fabric : Fabric) (number worker : Nat) : Option (Observer × List Listener) :=
  (fabric.watchdogs[number]?).bind fun watchdog => watchdog.heldBy worker

theorem heldRound_of_watchdogs (same : after.watchdogs = before.watchdogs) :
    after.heldRound = before.heldRound := by
  funext number worker
  rw [heldRound, same]
  rfl

/-- Deeds leave the workers where they are. -/
theorem Deeds.heldRound (deeds : Deeds before after) : after.heldRound = before.heldRound := by
  induction deeds with
  | refl => rfl
  | tail _ deed ih =>
      refine Eq.trans ?_ ih
      cases deed with
      | changeWatchdog keeps =>
          funext number worker
          have same := map_getElem?_modify Watchdog.heldBy keeps number
          have viewed := congrArg (fun held => Option.bind held fun found => found worker) same
          rw [Option.bind_map, Option.bind_map] at viewed
          exact viewed
      | _ => rfl

theorem heldRound_tell (fabric : Fabric) (number : Nat) (success : Bool) (attempts : UInt32)
    (onWorker : Bool) (listener : Listener) :
    (fabric.tell number success attempts onWorker listener).heldRound = fabric.heldRound := by
  cases listener with
  | observer observer =>
      exact (deeds_finishObserver _ number success attempts observer).heldRound.trans
        (heldRound_of_watchdogs (watchdogs_beginObserver fabric number success attempts onWorker observer))
  | completion connection =>
      simp only [tell]
      split
      · exact heldRound_of_watchdogs (watchdogs_completeConnection fabric connection)
      · rfl

theorem heldRound_notifyFailure (fabric : Fabric) (number : Nat) (attempts : UInt32) :
    (fabric.notifyFailure number attempts).heldRound = fabric.heldRound := by
  simp only [notifyFailure]
  cases fabric.watchdogs[number]? with
  | none => rfl
  | some watchdog =>
      dsimp only
      induction watchdog.listeners generalizing fabric with
      | nil => rfl
      | cons listener rest ih =>
          exact (ih _).trans (heldRound_tell fabric number false attempts false listener)

theorem heldRound_settle (fabric : Fabric) (place : Nat) (outcome : Outcome) :
    (fabric.settle place outcome).1.heldRound = fabric.heldRound := by
  simp only [settle]
  cases fabric.underWay[place]? with
  | none => rfl
  | some attempt =>
      cases outcome with
      | established =>
          exact ((deeds_establish _ attempt.watchdog false).trans (deeds_succeeded _ attempt _)).heldRound
      | flapped =>
          exact ((deeds_establish _ attempt.watchdog true).trans (deeds_succeeded _ attempt _)).heldRound
      | failed error =>
          simp only [failed]
          split
          · refine (deeds_onDisconnected _ attempt.watchdog).heldRound.trans ?_
            split
            · exact heldRound_notifyFailure _ attempt.watchdog attempt.attempts
            · rfl
          · rfl

theorem heldRound_fire (fabric : Fabric) (index : Nat) :
    (fabric.fire index).heldRound = fabric.heldRound := by
  apply heldRound_of_watchdogs
  have retried : ∀ (fabric : Fabric) (number : Nat),
      (fabric.beginRetry number).1.watchdogs = fabric.watchdogs := by
    intro fabric number
    simp only [beginRetry]
    split
    · rfl
    · split <;> rfl
  unfold fire
  split
  · rename_i changed number isReleased
    rw [retried]
    exact congrArg (fun pair => pair.1.watchdogs) isReleased.symm
  · rename_i changed _ _ isReleased
    exact congrArg (fun pair => pair.1.watchdogs) isReleased.symm

/-- Only a worker's step changes what a worker holds. -/
theorem heldRound_step {event : FabricEvent}
    (noWork : ∀ number worker, event ≠ .workerStep number worker) :
    (fabric.step event).heldRound = fabric.heldRound := by
  cases event with
  | workerStep number worker => exact absurd rfl (noWork number worker)
  | settle place outcome => exact heldRound_settle fabric place outcome
  | fire index => exact heldRound_fire fabric index
  | beginCall number =>
      apply heldRound_of_watchdogs
      simp only [step, beginCall]
      split <;> rfl
  | openGate => rfl
  | _ => exact (deeds_step fabric rfl).heldRound

/-! ### Steps of workers -/

/-- A change of what one worker holds, and no other. -/
def HoldsApart (number worker : Nat) (before after : Fabric) : Prop :=
  ∀ other another, ¬ (other = number ∧ another = worker) →
    after.heldRound other another = before.heldRound other another

theorem HoldsApart.of_same (same : after.heldRound = before.heldRound) :
    HoldsApart number worker before after := by
  intro other another _
  rw [same]

theorem HoldsApart.trans {last : Fabric} (first : HoldsApart number worker before after)
    (second : HoldsApart number worker after last) : HoldsApart number worker before last :=
  fun other another apart => (second other another apart).trans (first other another apart)

/-- What a change of a notifier makes of the rounds that are held. -/
theorem heldRound_changeNotifier (fabric : Fabric) (number other : Nat)
    (change : Notifier SuccessNews → Notifier SuccessNews) (worker : Nat) :
    (fabric.changeNotifier number change).heldRound other worker
      = if number = other then
          (fabric.watchdogs[other]?).bind fun watchdog =>
            ((change watchdog.notifier).jobOf worker).bind SuccessNews.held
        else fabric.heldRound other worker := by
  simp only [changeNotifier, changeWatchdog, heldRound, List.getElem?_modify]
  cases fabric.watchdogs[other]? with
  | none => split <;> rfl
  | some watchdog =>
      simp only [Option.map_eq_map, Option.map_some, Option.bind_some]
      split <;> rfl

theorem HoldsApart.changeNotifier {change : Notifier SuccessNews → Notifier SuccessNews}
    (keeps : ∀ watchdog, fabric.watchdogs[number]? = some watchdog → ∀ another, another ≠ worker →
      (change watchdog.notifier).jobOf another = watchdog.notifier.jobOf another) :
    HoldsApart number worker fabric (fabric.changeNotifier number change) := by
  intro other another apart
  rw [heldRound_changeNotifier]
  split
  · rename_i same
    subst same
    rw [heldRound]
    cases isThere : fabric.watchdogs[number]? with
    | none => rfl
    | some watchdog =>
        have different : another ≠ worker := fun equal => apart ⟨rfl, equal⟩
        simp only [Option.bind_some, Watchdog.heldBy, keeps watchdog isThere another different]
  · rfl

/-- A worker that is done holds nothing. -/
theorem heldRound_finish (fabric : Fabric) (number worker : Nat) :
    (fabric.changeNotifier number fun notifier => notifier.finish worker).heldRound number worker
      = none := by
  rw [heldRound_changeNotifier, if_pos rfl]
  cases fabric.watchdogs[number]? with
  | none => rfl
  | some watchdog =>
      rw [Option.bind_some, Notifier.finish, Notifier.jobOf_change, if_pos rfl]
      cases watchdog.notifier.workers[worker]? <;> rfl

theorem HoldsApart.tellOnWorker (attempts : UInt32) (listeners : List Listener) :
    HoldsApart number worker fabric (fabric.tellOnWorker number worker attempts listeners) := by
  have change : ∀ (fabric : Fabric) (change : Worker SuccessNews → Worker SuccessNews),
      HoldsApart number worker fabric
        (fabric.changeNotifier number fun notifier => notifier.change worker change) := by
    intro fabric change
    refine .changeNotifier fun watchdog _ another different => ?_
    rw [Notifier.jobOf_change, if_neg different.symm]
  induction listeners generalizing fabric with
  | nil => exact change fabric _
  | cons listener rest ih =>
      have others : HoldsApart number worker (fabric.tell number true attempts true listener)
          ((fabric.tell number true attempts true listener).tellOnWorker number worker attempts rest) := ih
      have goesOn := (HoldsApart.of_same (heldRound_tell fabric number true attempts true listener)).trans
        others
      cases listener with
      | completion connection => exact goesOn
      | observer observer =>
          have begun : HoldsApart number worker fabric
              (fabric.beginObserver number true attempts true observer) :=
            .of_same (heldRound_of_watchdogs
              (watchdogs_beginObserver fabric number true attempts true observer))
          simp only [Fabric.tellOnWorker]
          split
          · exact begun.trans (change _ _)
          · exact goesOn

/-- While the gate is open, a worker ends every round that it tells. -/
theorem heldRound_tellOnWorker (isOpen : fabric.gateOpen = true) (attempts : UInt32)
    (listeners : List Listener) :
    (fabric.tellOnWorker number worker attempts listeners).heldRound number worker = none := by
  induction listeners generalizing fabric with
  | nil => exact heldRound_finish fabric number worker
  | cons listener rest ih =>
      have goesOn := ih ((gateOpen_tell fabric number true attempts true listener).trans isOpen)
      cases listener with
      | completion connection => exact goesOn
      | observer observer =>
          simp only [Fabric.tellOnWorker, isOpen, Bool.not_true, Bool.and_false, Bool.false_eq_true, if_false]
          exact goesOn

/-- A worker that takes a job leaves the others where they are. -/
theorem jobOf_begin (notifier : Notifier SuccessNews) {worker another : Nat}
    (different : another ≠ worker) : (notifier.begin worker).1.jobOf another = notifier.jobOf another := by
  simp only [Notifier.begin]
  split
  · rw [Notifier.jobOf_change, if_neg different.symm]
  · rfl

theorem HoldsApart.beginNews {watchdog : Watchdog} (isThere : fabric.watchdogs[number]? = some watchdog) :
    HoldsApart number worker fabric (fabric.beginNews number worker watchdog) := by
  have others : ∀ another, another ≠ worker →
      (watchdog.notifier.begin worker).1.jobOf another = watchdog.notifier.jobOf another :=
    fun another different => jobOf_begin watchdog.notifier different
  simp only [Fabric.beginNews]
  cases isBegun : watchdog.notifier.begin worker with
  | mk begun job =>
      cases job with
      | none => exact .of_same rfl
      | some news =>
          rw [isBegun] at others
          have taken : HoldsApart number worker fabric (fabric.changeNotifier number fun _ => begun) := by
            refine .changeNotifier fun found isFound another different => ?_
            rw [isThere] at isFound
            rw [← Option.some.inj isFound]
            exact others another different
          dsimp only
          split
          · exact taken.trans (.tellOnWorker news.attempts watchdog.listeners)
          · refine taken.trans (.changeNotifier fun found _ another different => ?_)
            rw [Notifier.finish, Notifier.jobOf_change, if_neg different.symm]

theorem HoldsApart.workerStep (fabric : Fabric) (number worker : Nat) :
    HoldsApart number worker fabric (fabric.workerStep number worker) := by
  cases isThere : fabric.watchdogs[number]? with
  | none =>
      simp only [Fabric.workerStep, isThere]
      exact .of_same rfl
  | some watchdog =>
      cases isHeld : watchdog.heldBy worker with
      | none =>
          rw [workerStep_of_unheld isThere isHeld]
          exact .beginNews isThere
      | some held =>
          obtain ⟨attempts, goesOn⟩ := workerStep_of_held isThere isHeld
          rw [goesOn]
          split
          · have finished := deeds_finishObserver fabric number true attempts held.1
            exact (of_same finished.heldRound).trans (.tellOnWorker attempts held.2)
          · exact .of_same rfl

/-- While a watchdog is stopped, its workers end the rounds that they hold and begin no others. -/
theorem heldRound_workerStep (stopped : fabric.started? number ≠ some true) (worker : Nat) :
    (fabric.workerStep number worker).heldRound number worker = none
      ∨ fabric.workerStep number worker = fabric := by
  cases isThere : fabric.watchdogs[number]? with
  | none =>
      right
      simp only [workerStep, isThere]
  | some watchdog =>
      have isStopped : watchdog.started = false := by
        cases flag : watchdog.started with
        | false => rfl
        | true => exact absurd (by rw [started?, isThere, Option.map_some, flag]) stopped
      cases isHeld : watchdog.heldBy worker with
      | none =>
          rw [workerStep_of_unheld isThere isHeld]
          simp only [beginNews]
          split
          · exact Or.inr rfl
          · left
            rw [isStopped, if_neg Bool.false_ne_true]
            exact heldRound_finish _ number worker
      | some held =>
          obtain ⟨attempts, goesOn⟩ := workerStep_of_held isThere isHeld
          rw [goesOn]
          split
          · rename_i isOpen
            have finished := deeds_finishObserver fabric number true attempts held.1
            exact Or.inl (heldRound_tellOnWorker (finished.gateOpen.trans isOpen) attempts held.2)
          · exact Or.inr rfl

/-! ### Stopped watchdogs -/

/-- A watchdog is not started at any time from here on, until some events are over. -/
def StaysStopped (number : Nat) : Fabric → List FabricEvent → Prop
  | fabric, [] => fabric.started? number ≠ some true
  | fabric, event :: rest =>
      fabric.started? number ≠ some true ∧ StaysStopped number (fabric.step event) rest

/-- No worker of a stopped watchdog comes to hold a round. -/
theorem heldRound_of_step (stopped : fabric.started? number ≠ some true) (event : FabricEvent)
    {held : Observer × List Listener} (isHeld : (fabric.step event).heldRound number worker = some held) :
    fabric.heldRound number worker = some held := by
  cases event with
  | workerStep other another =>
      by_cases same : number = other ∧ worker = another
      · obtain ⟨rfl, rfl⟩ := same
        rcases heldRound_workerStep stopped worker with ends | stays
        · rw [step, ends] at isHeld
          cases isHeld
        · rw [step, stays] at isHeld
          exact isHeld
      · rw [step, HoldsApart.workerStep fabric other another number worker same] at isHeld
        exact isHeld
  | _ =>
      rw [heldRound_step (by simp)] at isHeld
      exact isHeld

theorem heldRound_of_run {events : List FabricEvent} (stays : StaysStopped number fabric events)
    {held : Observer × List Listener} (isHeld : (fabric.run events).heldRound number worker = some held) :
    fabric.heldRound number worker = some held := by
  induction events generalizing fabric with
  | nil => exact isHeld
  | cons event rest ih => exact heldRound_of_step stays.1 event (ih stays.2 isHeld)

theorem StaysStopped.run {events : List FabricEvent} (stays : StaysStopped number fabric events) :
    (fabric.run events).started? number ≠ some true := by
  induction events generalizing fabric with
  | nil => exact stays
  | cons event rest ih => exact ih stays.2

theorem getD_eq_false_iff {flag : Option Bool} : flag.getD false = false ↔ flag ≠ some true := by
  cases flag with
  | none => simp
  | some started => cases started <;> simp

/-- Only a watchdog that is started begins a round over a failure. -/
theorem started?_of_failureRound? {attempt : Attempt} {round : Round}
    (isRound : fabric.failureRound? attempt = some round) :
    fabric.started? round.watchdog = some true := by
  simp only [failureRound?] at isRound
  split at isRound
  · rename_i watchdog _ isThere
    split at isRound
    · rename_i isStarted
      rw [← Option.some.inj isRound, started?, isThere, Option.map_some, isStarted]
    · cases isRound
  · cases isRound

/-- A worker begins a round for a watchdog that is started, or goes on with the one that it holds. -/
theorem workerRound?_eq_some {round : Round} (isRound : fabric.workerRound? number worker = some round) :
    fabric.started? round.watchdog = some true ∨
      ∃ observer rest, fabric.heldRound round.watchdog worker = some (observer, rest) ∧
        round = { watchdog := round.watchdog, success := true, calls := observer.calls,
                  listeners := rest } := by
  simp only [workerRound?] at isRound
  cases isThere : fabric.watchdogs[number]? with
  | none =>
      rw [isThere] at isRound
      cases isRound
  | some watchdog =>
      simp only [isThere] at isRound
      cases isHeld : watchdog.heldBy worker with
      | none =>
          simp only [isHeld] at isRound
          split at isRound
          · rename_i begins
            rw [← Option.some.inj isRound, started?, isThere, Option.map_some,
              (Bool.and_eq_true_iff.1 begins).1]
            exact Or.inl rfl
          · cases isRound
      | some held =>
          obtain ⟨observer, rest⟩ := held
          simp only [isHeld] at isRound
          split at isRound
          · right
            rw [← Option.some.inj isRound]
            exact ⟨observer, rest, by rw [heldRound, isThere, Option.bind_some, isHeld], rfl⟩
          · cases isRound

/-- A round is begun by a watchdog that is started, or it goes on where a worker held it. -/
theorem round?_eq_some {event : FabricEvent} {round : Round} (isRound : fabric.round? event = some round) :
    fabric.started? round.watchdog = some true ∨
      ∃ worker observer rest, fabric.heldRound round.watchdog worker = some (observer, rest) ∧
        round = { watchdog := round.watchdog, success := true, calls := observer.calls,
                  listeners := rest } := by
  cases event with
  | settle place outcome =>
      cases outcome with
      | failed error =>
          obtain ⟨attempt, -, begins⟩ := Option.bind_eq_some_iff.1 isRound
          exact Or.inl (started?_of_failureRound? begins)
      | _ => cases isRound
  | workerStep number worker =>
      exact (workerRound?_eq_some isRound).imp_right fun goesOn => ⟨worker, goesOn⟩
  | _ => cases isRound

/-- A watchdog that is stopped tells nobody but the listeners of a round that a worker holds. -/
theorem exists_heldRound_of_told (stopped : fabric.started? number ≠ some true) {event : FabricEvent}
    {telling : Telling} (isTold : telling ∈ fabric.tellings event) (own : telling.watchdog = number) :
    ∃ worker observer rest, fabric.heldRound number worker = some (observer, rest) ∧
      telling ∈ tellEach number true (observer.calls.foldl ListenerCall.turn false) rest := by
  rw [tellings] at isTold
  cases isRound : fabric.round? event with
  | none =>
      rw [isRound] at isTold
      cases isTold
  | some round =>
      rw [isRound] at isTold
      change telling ∈ tellEach round.watchdog round.success _ round.listeners at isTold
      obtain ⟨earlier, later, split⟩ := List.append_of_mem isTold
      have same : round.watchdog = number := (tellEach_eq_append split).1.symm.trans own
      have flag : (fabric.started? round.watchdog).getD false = false :=
        getD_eq_false_iff.2 (same ▸ stopped)
      rcases round?_eq_some isRound with isStarted | ⟨worker, observer, rest, isHeld, isRest⟩
      · exact absurd (same ▸ isStarted) stopped
      · rw [flag, isRest, same] at isTold
        exact ⟨worker, observer, rest, same ▸ isHeld, isTold⟩

/-! ### After a stop -/

theorem started?_stop_ne (fabric : Fabric) (number : Nat) :
    (fabric.stop number).1.started? number ≠ some true := by
  rw [started?_stop]
  cases fabric.started? number with
  | none => exact nofun
  | some started => exact fun same => Bool.noConfusion (Option.some.inj same)

/-- While the gate is open, the step of a worker tells those who are left in the round that it holds. -/
theorem tellings_of_held (isOpen : fabric.gateOpen = true) {observer : Observer} {rest : List Listener}
    (isHeld : fabric.heldRound number worker = some (observer, rest)) :
    fabric.tellings (.workerStep number worker)
      = tellEach number true
          (observer.calls.foldl ListenerCall.turn ((fabric.started? number).getD false)) rest := by
  obtain ⟨watchdog, isThere, holds⟩ := Option.bind_eq_some_iff.1 isHeld
  simp only [tellings, round?, workerRound?, isThere, holds, isOpen, if_true]
  rfl

/-- Whom a watchdog tells while it is stopped.  An event tells exactly those whom its round lists.  One of
them finds the watchdog stopped exactly if the last word of those before in the round was a stop, or if
there was no such word, the watchdog was stopped already, and the round is one that a worker held at the
gate; so neither a failure nor news from a queue is told from the start by a watchdog that is stopped.  And
after a stop nobody is told before the next start exactly if no worker held a round in which somebody is
left who would find the watchdog stopped. -/
theorem told_after_stop_iff (fabric : Fabric) (number : Nat) :
    (∀ event, fabric.Tells (fabric.step event) (fabric.tellings event))
    ∧ (∀ event round, fabric.round? event = some round →
        ∀ earlier telling later, fabric.tellings event = earlier ++ telling :: later →
          (telling.started = false ↔
            StoppedBy (round.calls ++ earlier.flatMap fun before => before.listener.calls)
              ∨ .start ∉ round.calls ++ (earlier.flatMap fun before => before.listener.calls)
                ∧ fabric.started? round.watchdog ≠ some true
                ∧ ∃ worker held, fabric.heldRound round.watchdog worker = some held))
    ∧ ((∀ events event, StaysStopped number (fabric.stop number).1 events →
          ∀ telling ∈ ((fabric.stop number).1.run events).tellings event,
            telling.watchdog = number → telling.started = true)
        ↔ ∀ worker observer rest, fabric.heldRound number worker = some (observer, rest) →
            ∀ telling ∈ tellEach number true (observer.calls.foldl ListenerCall.turn false) rest,
              telling.started = true) := by
  have sameHeld : (fabric.stop number).1.heldRound = fabric.heldRound := (deeds_stop fabric number).heldRound
  have isStopped := started?_stop_ne fabric number
  refine ⟨tells_step fabric, ?_, ?_, ?_⟩
  · intro event round isRound earlier telling later split
    rw [tellings, isRound] at split
    rw [(tellEach_eq_append split).2, ← List.foldl_append, foldl_turn_eq_false_iff, getD_eq_false_iff]
    apply or_congr_right
    constructor
    · rintro ⟨stopped, noStart⟩
      refine ⟨noStart, stopped, ?_⟩
      rcases round?_eq_some isRound with isStarted | ⟨worker, observer, rest, isHeld, -⟩
      · exact absurd isStarted stopped
      · exact ⟨worker, _, isHeld⟩
    · rintro ⟨noStart, stopped, -⟩
      exact ⟨stopped, noStart⟩
  · intro silent worker observer rest isHeld telling isTold
    have isOpen : ((fabric.stop number).1.run [.openGate]).gateOpen = true := rfl
    have stillStopped : ((fabric.stop number).1.run [.openGate]).started? number ≠ some true := isStopped
    have stillHeld : ((fabric.stop number).1.run [.openGate]).heldRound number worker
        = some (observer, rest) := (congrFun (congrFun sameHeld number) worker).trans isHeld
    refine silent [.openGate] (.workerStep number worker) ⟨isStopped, stillStopped⟩ telling ?_ ?_
    · rw [tellings_of_held isOpen stillHeld, getD_eq_false_iff.2 stillStopped]
      exact isTold
    · obtain ⟨earlier, later, split⟩ := List.append_of_mem isTold
      exact (tellEach_eq_append split).1
  · intro restStarts events event stays telling isTold own
    obtain ⟨worker, observer, rest, isHeld, isLeft⟩ := exists_heldRound_of_told stays.run isTold own
    have wasHeld := heldRound_of_run stays isHeld
    rw [sameHeld] at wasHeld
    exact restStarts worker observer rest wasHeld telling isLeft

/-- A listener that makes no calls. -/
def bystander : Observer :=
  { label := "B", gated := false, calls := [], outcome := .accepted }

/-- A watchdog that tells a listener and then the bystander, and nothing else. -/
def attended (first : Observer) : Fabric :=
  { fresh with
    watchdogs := [{ Watchdog.make { host := "10.0.0.1", port := 6001 } none .standard .nobody
      Watchdog.defaultNotifyCapacity with listeners := [.observer first, .observer bystander] }] }

/-- A retry is under way, and the first listener is one that stops the watchdog. -/
def interrupted : Fabric :=
  (attended { label := "A", gated := false, calls := [.stop], outcome := .accepted }).run
    [.schedule 0 Span.zero, .fire 0]

/-- A worker tells of a success, and waits at the gate with the first listener. -/
def halted : Fabric :=
  (attended { label := "A", gated := true, calls := [], outcome := .accepted }).run
    [.beginCall 0, .settle 0 .established, .workerStep 0 0]

/-- The bystander is told of a failure although the listener before it has just stopped the watchdog, and of
a success although the watchdog was stopped while the listener before it was at the gate. -/
theorem told_behind_a_stop :
    (interrupted.step (.settle 0 (.failed .timerStopped))).told = [("A", false, true), ("B", false, false)]
      ∧ ¬ ∀ events event, StaysStopped 0 (halted.stop 0).1 events →
          ∀ telling ∈ ((halted.stop 0).1.run events).tellings event,
            telling.watchdog = 0 → telling.started = true := by
  constructor
  · rw [((told_after_stop_iff interrupted 0).1 _).told]
    rfl
  · rw [(told_after_stop_iff halted 0).2.2]
    intro restStarts
    have bystanderStarts := restStarts 0 _ _ rfl
      { watchdog := 0, listener := .observer bystander, success := true, started := false }
      (List.mem_singleton_self _)
    cases bystanderStarts

end Fabric

end Uplink
