/-
Module: Uplink.Proofs.Time.Moves
Purpose: What holds of a timer however it is worked on: a task that was cancelled or has fired never runs
  again, and a stopped timer without entries stays one.
Main exports: ManualTimer.Move, ManualTimer.Moves, ManualTimer.Moves.sound, ManualTimer.Moves.settled,
  ManualTimer.Moves.silent
-/
import Mathlib.Logic.Relation
import Uplink.Proofs.Time.Timer

namespace Uplink.ManualTimer

variable {Task : Type} {timer changed : ManualTimer Task}

/-- One operation on a timer. -/
inductive Move : ManualTimer Task → ManualTimer Task → Prop where
  | schedule {timer changed : ManualTimer Task} {delay : Span} {task : Task} {handle : Nat}
      (accepted : timer.schedule delay task = .ok (changed, handle)) : Move timer changed
  | cancel (timer : ManualTimer Task) (handle : Nat) : Move timer (timer.cancel handle)
  | release (timer : ManualTimer Task) (index : Nat) : Move timer (timer.release index).1
  | stop (timer : ManualTimer Task) : Move timer timer.stop

/-- Any number of operations. -/
abbrev Moves : ManualTimer Task → ManualTimer Task → Prop :=
  Relation.ReflTransGen Move

/-! ### Handles -/

theorem sound_fresh : (fresh : ManualTimer Task).Sound :=
  ⟨fun _ isEntry => absurd isEntry List.not_mem_nil, List.nodup_nil⟩

theorem Move.sound (move : Move timer changed) (sound : timer.Sound) : changed.Sound := by
  cases move with
  | schedule accepted =>
      rw [including_of_schedule accepted]
      exact sound_including sound _ _
  | cancel handle => exact sound_cancel sound handle
  | release index => exact sound_release sound index
  | stop => exact ⟨fun _ isEntry => absurd isEntry List.not_mem_nil, List.nodup_nil⟩

theorem Moves.sound (moves : Moves timer changed) (sound : timer.Sound) : changed.Sound := by
  induction moves with
  | refl => exact sound
  | tail _ move ih => exact move.sound ih

/-! ### Fates -/

/-- The task of a handle that was given out is not to run, or not any more. -/
def Settled (timer : ManualTimer Task) (handle : Nat) : Prop :=
  ∃ fate, timer.timeouts[handle]? = some fate ∧ fate ≠ .pending

theorem Settled.timeout {handle : Nat} (settled : timer.Settled handle) :
    timer.timeout handle ≠ .pending := by
  obtain ⟨fate, isFate, notPending⟩ := settled
  rw [ManualTimer.timeout, List.getD_eq_getElem?_getD, isFate]
  exact notPending

theorem settled_of_timeout {handle : Nat} (given : handle < timer.timeouts.length)
    (notPending : timer.timeout handle ≠ .pending) : timer.Settled handle := by
  have isFate := List.getElem?_eq_getElem given
  rw [ManualTimer.timeout, List.getD_eq_getElem?_getD, isFate] at notPending
  exact ⟨_, isFate, notPending⟩

/-- Neither cancelling nor firing makes a task pending again. -/
theorem cancel_ne_pending (fate : Timeout) : fate.cancel.1 ≠ .pending := by
  cases fate <;> decide

theorem markFired_ne_pending (fate : Timeout) : fate.markFired.1 ≠ .pending := by
  cases fate <;> decide

/-- The task of the handle that is cancelled does not run. -/
theorem settled_cancel {handle : Nat} (given : handle < timer.timeouts.length) :
    (timer.cancel handle).Settled handle := by
  refine ⟨timer.timeouts[handle].cancel.1, ?_, cancel_ne_pending _⟩
  simp only [cancel, List.getElem?_modify_eq, List.getElem?_eq_getElem given]
  rfl

/-- An operation settles nothing but pending tasks. -/
theorem Move.settled (move : Move timer changed) {handle : Nat} (settled : timer.Settled handle) :
    changed.Settled handle := by
  obtain ⟨fate, isFate, notPending⟩ := settled
  have given := (List.getElem?_eq_some_iff.1 isFate).1
  cases move with
  | schedule accepted =>
      refine ⟨fate, ?_, notPending⟩
      rw [including_of_schedule accepted, including, List.getElem?_append_left given]
      exact isFate
  | cancel other =>
      refine ⟨if other = handle then fate.cancel.1 else fate, ?_, ?_⟩
      · change (timer.timeouts.modify other _)[handle]? = _
        rw [List.getElem?_modify, isFate]
        rfl
      · split
        · exact cancel_ne_pending fate
        · exact notPending
  | release index =>
      cases found : timer.entries[index]? with
      | none =>
          rw [release_of_none found]
          exact ⟨fate, isFate, notPending⟩
      | some entry =>
          rw [release_eq found]
          simp only [Settled, without, List.getElem?_set]
          split
          · rename_i isHandle
            rw [if_pos (isHandle ▸ given)]
            exact ⟨_, rfl, markFired_ne_pending _⟩
          · exact ⟨fate, isFate, notPending⟩
  | stop =>
      refine ⟨fate.cancel.1, ?_, cancel_ne_pending fate⟩
      change (timer.timeouts.map _)[handle]? = _
      rw [List.getElem?_map, isFate]
      rfl

/-- What was cancelled or has fired never runs again. -/
theorem Moves.settled (moves : Moves timer changed) {handle : Nat} (settled : timer.Settled handle) :
    changed.Settled handle := by
  induction moves with
  | refl => exact settled
  | tail _ move ih => exact move.settled ih

/-! ### Stopped timers -/

/-- A timer that has nothing to run and accepts nothing. -/
structure Silent (timer : ManualTimer Task) : Prop where
  stopped : timer.stopped = true
  entries : timer.entries = []

theorem silent_stop (timer : ManualTimer Task) : timer.stop.Silent := ⟨rfl, rfl⟩

theorem Silent.release (silent : timer.Silent) (index : Nat) : timer.release index = (timer, none) :=
  release_of_none (by rw [silent.entries]; rfl)

theorem Move.silent (move : Move timer changed) (silent : timer.Silent) : changed.Silent := by
  cases move with
  | schedule accepted =>
      rw [ManualTimer.schedule, if_pos silent.stopped] at accepted
      cases accepted
  | cancel handle => exact ⟨silent.stopped, silent.entries⟩
  | release index =>
      rw [silent.release]
      exact silent
  | stop => exact silent_stop timer

/-- A stopped timer without entries stays one, whatever is asked of it. -/
theorem Moves.silent (moves : Moves timer changed) (silent : timer.Silent) : changed.Silent := by
  induction moves with
  | refl => exact silent
  | tail _ move ih => exact move.silent ih

end Uplink.ManualTimer
