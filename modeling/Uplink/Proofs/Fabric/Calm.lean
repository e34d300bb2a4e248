/-
Module: Uplink.Proofs.Fabric.Calm
Purpose: Where attempts begin: only a call and a task that fires begin one.  Everything else leaves the
  attempts so far alone and works on the timer by the timer's own operations.
Main exports: Fabric.Idle, Fabric.Calm, Fabric.Calm.close, Fabric.Calm.settle, Fabric.Calm.step,
  Fabric.moves_step, Fabric.moves_run
-/
import Uplink.Proofs.Fabric.Deeds
import Uplink.Proofs.Pool.Tidy

namespace Uplink.Fabric

/-- A change in which no attempt begins. -/
structure Idle (before after : Fabric) : Prop where
  moves : before.timer.Moves after.timer
  connects : after.connects = before.connects
  dials : after.roster.dials = before.roster.dials

/-- A change in which no attempt begins or ends. -/
structure Calm (before after : Fabric) : Prop extends Idle before after where
  underWay : after.underWay = before.underWay

/-- Whether an event may begin or end an attempt. -/
def isAttempt : FabricEvent → Bool
  | .beginCall _ => true
  | .fire _ => true
  | .settle .. => true
  | _ => false

variable {before after fabric : Fabric}

namespace Idle

theorem refl (fabric : Fabric) : Idle fabric fabric :=
  ⟨.refl, rfl, rfl⟩

theorem trans {last : Fabric} (first : Idle before after) (second : Idle after last) : Idle before last :=
  ⟨first.moves.trans second.moves, second.connects.trans first.connects,
    second.dials.trans first.dials⟩

end Idle

namespace Calm

theorem refl (fabric : Fabric) : Calm fabric fabric :=
  ⟨.refl fabric, rfl⟩

theorem trans {last : Fabric} (first : Calm before after) (second : Calm after last) : Calm before last :=
  ⟨first.toIdle.trans second.toIdle, second.underWay.trans first.underWay⟩

theorem foldl {Entry : Type} {change : Fabric → Entry → Fabric}
    (keeps : ∀ changed entry, Calm changed (change changed entry)) (entries : List Entry)
    (fabric : Fabric) : Calm fabric (entries.foldl change fabric) := by
  induction entries generalizing fabric with
  | nil => exact refl fabric
  | cons entry rest ih => exact (keeps fabric entry).trans (ih _)

/-- An operation on the timer. -/
theorem setTimer {timer : ManualTimer Nat} (move : fabric.timer.Move timer) :
    Calm fabric { fabric with timer } :=
  ⟨⟨.single move, rfl, rfl⟩, rfl⟩

/-- A change of the channels and pools. -/
theorem setRoster {roster : Roster} (dials : roster.dials = fabric.roster.dials) :
    Calm fabric { fabric with roster } :=
  ⟨⟨.refl, rfl, dials⟩, rfl⟩

theorem setConnections (fabric : Fabric) (connections : List (Connection Nat ReconnectSwitch)) :
    Calm fabric { fabric with connections } :=
  ⟨⟨.refl, rfl, rfl⟩, rfl⟩

theorem changeWatchdog (fabric : Fabric) (number : Nat) (change : Watchdog → Watchdog) :
    Calm fabric (fabric.changeWatchdog number change) :=
  ⟨⟨.refl, rfl, rfl⟩, rfl⟩

theorem log (fabric : Fabric) (line : LogLine) : Calm fabric (fabric.log line) :=
  ⟨⟨.refl, rfl, rfl⟩, rfl⟩

theorem record (fabric : Fabric) {event : Event} (noDial : ∀ address, event ≠ .connecting address) :
    Calm fabric (fabric.record event) :=
  setRoster (Roster.dials_record fabric.roster noDial)

/-- No deed begins or ends an attempt. -/
theorem of_deeds (deeds : Deeds before after) : Calm before after := by
  induction deeds with
  | refl => exact refl before
  | tail _ deed ih =>
      refine ih.trans ?_
      cases deed with
      | setTimer move => exact setTimer move
      | setRoster discreet => exact setRoster discreet.dials
      | changeWatchdog => exact changeWatchdog _ _ _
      | changeConnection => exact setConnections _ _

theorem addCompletionListener (fabric : Fabric) (number listener : Nat) :
    Calm fabric (fabric.addCompletionListener number listener) :=
  of_deeds (deeds_addCompletionListener fabric number listener)

theorem stop (fabric : Fabric) (number : Nat) : Calm fabric (fabric.stop number).1 :=
  of_deeds (deeds_stop fabric number)

theorem turnSwitch (fabric : Fabric) (connection : Nat) (enabled : Bool) :
    Calm fabric (fabric.turnSwitch connection enabled) :=
  of_deeds (deeds_turnSwitch fabric connection enabled)

theorem close (fabric : Fabric) (channel : Nat) : Calm fabric (fabric.close channel) :=
  of_deeds (deeds_close fabric channel)

/-! ### Telling listeners -/

theorem completeConnection (fabric : Fabric) (number : Nat) :
    Calm fabric (fabric.completeConnection number) := by
  simp only [Fabric.completeConnection]
  split
  · exact refl fabric
  · exact (setConnections fabric _).trans (of_deeds (deeds_reportCompletion number _ _))

theorem beginObserver (fabric : Fabric) (number : Nat) (success : Bool) (attempts : UInt32)
    (onWorker : Bool) (observer : Observer) :
    Calm fabric (fabric.beginObserver number success attempts onWorker observer) := by
  simp only [Fabric.beginObserver]
  split
  · exact refl fabric
  · exact record fabric (by simp)

theorem finishObserver (fabric : Fabric) (number : Nat) (success : Bool) (attempts : UInt32)
    (observer : Observer) : Calm fabric (fabric.finishObserver number success attempts observer) :=
  of_deeds (deeds_finishObserver fabric number success attempts observer)

theorem tell (fabric : Fabric) (number : Nat) (success : Bool) (attempts : UInt32) (onWorker : Bool)
    (listener : Listener) : Calm fabric (fabric.tell number success attempts onWorker listener) := by
  cases listener with
  | completion connection =>
      simp only [Fabric.tell]
      split
      · exact completeConnection fabric connection
      · exact refl fabric
  | observer observer =>
      exact (beginObserver fabric number success attempts onWorker observer).trans
        (finishObserver _ number success attempts observer)

theorem notifyFailure (fabric : Fabric) (number : Nat) (attempts : UInt32) :
    Calm fabric (fabric.notifyFailure number attempts) := by
  simp only [Fabric.notifyFailure]
  split
  · exact refl fabric
  · exact foldl (fun changed listener => tell changed number false attempts false listener) _ fabric

theorem tellOnWorker (number worker : Nat) (attempts : UInt32) (listeners : List Listener)
    (fabric : Fabric) : Calm fabric (fabric.tellOnWorker number worker attempts listeners) := by
  induction listeners generalizing fabric with
  | nil => exact changeWatchdog fabric number _
  | cons listener rest ih =>
      cases listener with
      | completion connection => exact (completeConnection fabric connection).trans (ih _)
      | observer observer =>
          have begun := beginObserver fabric number true attempts true observer
          simp only [Fabric.tellOnWorker]
          split
          · exact begun.trans (changeWatchdog _ number _)
          · exact begun.trans ((finishObserver _ number true attempts observer).trans (ih _))

theorem beginNews (fabric : Fabric) (number worker : Nat) (watchdog : Watchdog) :
    Calm fabric (fabric.beginNews number worker watchdog) := by
  simp only [Fabric.beginNews]
  split
  · exact refl fabric
  · have taken : ∀ begun, Calm fabric (fabric.changeNotifier number begun) := fun begun =>
      changeWatchdog fabric number _
    split
    · exact (taken _).trans (tellOnWorker number worker _ _ _)
    · exact (taken _).trans (changeWatchdog _ number _)

theorem workerStep (fabric : Fabric) (number worker : Nat) :
    Calm fabric (fabric.workerStep number worker) := by
  simp only [Fabric.workerStep]
  split
  · exact refl fabric
  · split
    · rename_i attempts observer rest _
      split
      · exact (finishObserver fabric number true attempts observer).trans
          (tellOnWorker number worker attempts rest _)
      · exact refl fabric
    · exact beginNews fabric number worker _

/-! ### The end of an attempt -/

theorem failed (fabric : Fabric) (attempt : Attempt) (error : TransportError) :
    Calm fabric (fabric.failed attempt error) := by
  simp only [Fabric.failed]
  split
  · refine Calm.trans ?_ (of_deeds (deeds_onDisconnected _ attempt.watchdog))
    split
    · exact (log fabric _).trans (notifyFailure _ attempt.watchdog attempt.attempts)
    · exact log fabric _
  · exact refl fabric

/-- The end of an attempt takes that attempt off, and nothing else. -/
theorem settle {place : Nat} {attempt : Attempt} (isThere : fabric.underWay[place]? = some attempt)
    (outcome : Outcome) :
    Calm { fabric with underWay := fabric.underWay.eraseIdx place } (fabric.settle place outcome).1 := by
  simp only [Fabric.settle]
  rw [isThere]
  cases outcome with
  | established =>
      exact of_deeds ((deeds_establish _ attempt.watchdog false).trans (deeds_succeeded _ attempt _))
  | flapped =>
      exact of_deeds ((deeds_establish _ attempt.watchdog true).trans (deeds_succeeded _ attempt _))
  | failed error => exact failed _ attempt error

/-! ### Events -/

/-- Only a call, a task that fires and the end of an attempt are more than calm. -/
theorem step (fabric : Fabric) {event : FabricEvent} (quiet : isAttempt event = false) :
    Calm fabric (fabric.step event) := by
  cases event with
  | settle | fire | beginCall => cases quiet
  | workerStep number worker => exact workerStep fabric number worker
  | openGate => exact ⟨⟨.refl, rfl, rfl⟩, rfl⟩
  | _ => exact of_deeds (deeds_step fabric rfl)

end Calm

/-- No attempt begins because another one ends. -/
theorem Idle.settle (fabric : Fabric) (place : Nat) (outcome : Outcome) :
    Idle fabric (fabric.settle place outcome).1 := by
  cases isThere : fabric.underWay[place]? with
  | none =>
      simp only [Fabric.settle, isThere]
      exact .refl fabric
  | some attempt =>
      have ended : Idle fabric { fabric with underWay := fabric.underWay.eraseIdx place } :=
        ⟨.refl, rfl, rfl⟩
      exact ended.trans (Calm.settle isThere outcome).toIdle

/-! ### Runs -/

/-- The beginning of an attempt does not touch the timer. -/
theorem timer_beginCall (fabric : Fabric) (number : Nat) :
    (fabric.beginCall number).timer = fabric.timer := by
  simp only [beginCall]
  split <;> rfl

theorem timer_beginRetry (fabric : Fabric) (number : Nat) :
    (fabric.beginRetry number).1.timer = fabric.timer := by
  simp only [beginRetry]
  split
  · rfl
  · split <;> rfl

theorem timer_fire (fabric : Fabric) (index : Nat) :
    (fabric.fire index).timer = (fabric.timer.release index).1 := by
  unfold fire
  split
  · rename_i released watchdog isReleased
    rw [timer_beginRetry]
    exact congrArg (fun pair => pair.1.timer) isReleased.symm
  · rename_i released _ _ isReleased
    exact congrArg (fun pair => pair.1.timer) isReleased.symm

/-- Whatever happens works on the timer by the timer's own operations. -/
theorem moves_step (fabric : Fabric) (event : FabricEvent) :
    fabric.timer.Moves (fabric.step event).timer := by
  cases event with
  | beginCall watchdog => exact timer_beginCall fabric watchdog ▸ .refl
  | settle place outcome => exact (Idle.settle fabric place outcome).moves
  | fire index => exact timer_fire fabric index ▸ .single (.release fabric.timer index)
  | _ => exact (Calm.step fabric rfl).moves

theorem moves_run (events : List FabricEvent) (fabric : Fabric) :
    fabric.timer.Moves (fabric.run events).timer := by
  induction events generalizing fabric with
  | nil => exact .refl
  | cons event rest ih => exact (moves_step fabric event).trans (ih _)

end Uplink.Fabric
