/-
Module: Uplink.Proofs.Time.Timer
Purpose: Which tasks of a timer are still to run, and how scheduling, cancelling and releasing change them.
Main exports: ManualTimer.undated, ManualTimer.waiting, ManualTimer.Sound, ManualTimer.waiting_including,
  ManualTimer.waiting_release, ManualTimer.waiting_cancel_subset, ManualTimer.mem_waiting_cancel
-/
import Mathlib.Data.List.InsertIdx
import Mathlib.Data.List.Perm.Basic
import Uplink.Time.Timer

namespace Uplink.ManualTimer

variable {Task : Type} {timer changed : ManualTimer Task}

/-! ### Timers without delays -/

/-- A timer that has forgotten its delays. -/
def undated (timer : ManualTimer Task) : ManualTimer Task :=
  { timer with entries := timer.entries.map fun entry => { entry with delay := Span.zero } }

theorem undated_schedule {delay : Span} {task : Task} {handle : Nat}
    (accepted : timer.schedule delay task = .ok (changed, handle)) :
    timer.undated.schedule Span.zero task = .ok (changed.undated, handle) := by
  simp only [schedule] at accepted ⊢
  split at accepted
  · cases accepted
  · rename_i goesOn
    injection accepted with both
    injection both with isChanged isHandle
    rw [if_neg (by exact goesOn), ← isChanged, ← isHandle]
    simp only [undated]
    simp only [List.map_append, List.map_cons, List.map_nil]

theorem undated_schedule_error {delay : Span} {task : Task} {error : TransportError}
    (refused : timer.schedule delay task = .error error) :
    timer.undated.schedule Span.zero task = .error error := by
  simp only [schedule] at refused ⊢
  split at refused
  · rename_i isStopped
    rw [if_pos (by exact isStopped)]
    exact refused
  · cases refused

theorem undated_release (timer : ManualTimer Task) (index : Nat) :
    timer.undated.release index = ((timer.release index).1.undated, (timer.release index).2) := by
  simp only [release, undated]
  simp only [List.getElem?_map]
  cases timer.entries[index]? with
  | none => rfl
  | some entry =>
      dsimp only [Option.map_some]
      simp only [List.eraseIdx_map]
      rfl

/-! ### The tasks that are still to run -/

/-- Whether the task of an entry is still to run. -/
def isWaiting (timer : ManualTimer Task) (entry : TimerEntry Task) : Bool :=
  timer.timeout entry.handle == .pending

/-- The tasks that are still to run. -/
def waiting (timer : ManualTimer Task) : List Task :=
  (timer.entries.filter timer.isWaiting).map TimerEntry.task

/-- Every entry has a handle of its own, and it was given out. -/
structure Sound (timer : ManualTimer Task) : Prop where
  given : ∀ entry ∈ timer.entries, entry.handle < timer.timeouts.length
  distinct : (timer.entries.map TimerEntry.handle).Nodup

theorem waiting_undated (timer : ManualTimer Task) : timer.undated.waiting = timer.waiting := by
  simp only [waiting, undated]
  simp only [List.filter_map, List.map_map]
  rfl

/-- A timer with one more task, whose handle is the next one. -/
def including (timer : ManualTimer Task) (delay : Span) (task : Task) : ManualTimer Task :=
  { timer with
    timeouts := timer.timeouts ++ [.pending]
    entries := timer.entries ++ [{ delay, handle := timer.timeouts.length, task }] }

/-- A timer that goes on gives out the next handle. -/
theorem schedule_of_not_stopped (goesOn : timer.stopped = false) (delay : Span) (task : Task) :
    timer.schedule delay task = .ok (timer.including delay task, timer.timeouts.length) := by
  simp only [schedule]
  rw [if_neg (by rw [goesOn]; exact Bool.false_ne_true)]
  rfl

theorem including_of_schedule {delay : Span} {task : Task} {handle : Nat}
    (accepted : timer.schedule delay task = .ok (changed, handle)) :
    changed = timer.including delay task := by
  simp only [schedule] at accepted
  split at accepted
  · cases accepted
  · injection accepted with both
    injection both with isChanged isHandle
    exact isChanged.symm

/-- The entries that were there wait as before. -/
theorem isWaiting_including (sound : timer.Sound) (delay : Span) (task : Task) {entry : TimerEntry Task}
    (isEntry : entry ∈ timer.entries) :
    (timer.including delay task).isWaiting entry = timer.isWaiting entry := by
  simp only [isWaiting, timeout, including, List.getD_eq_getElem?_getD]
  rw [List.getElem?_append_left (sound.given entry isEntry)]

/-- The new entry waits. -/
theorem isWaiting_including_last (timer : ManualTimer Task) (delay : Span) (task : Task) :
    (timer.including delay task).isWaiting { delay, handle := timer.timeouts.length, task } = true := by
  simp only [isWaiting, timeout, including, List.getD_eq_getElem?_getD, List.getElem?_concat_length]
  rfl

/-- The new task comes after those that are still to run. -/
theorem waiting_including (sound : timer.Sound) (delay : Span) (task : Task) :
    (timer.including delay task).waiting = timer.waiting ++ [task] := by
  have before : timer.entries.filter (timer.including delay task).isWaiting
      = timer.entries.filter timer.isWaiting := by
    apply List.filter_congr
    intro entry isEntry
    exact isWaiting_including sound delay task isEntry
  have entries : (timer.including delay task).entries
      = timer.entries ++ [{ delay, handle := timer.timeouts.length, task }] := rfl
  simp only [waiting]
  rw [entries, List.filter_append, before, List.map_append, List.filter_cons_of_pos, List.filter_nil]
  · rfl
  · exact isWaiting_including_last timer delay task

theorem sound_including (sound : timer.Sound) (delay : Span) (task : Task) :
    (timer.including delay task).Sound := by
  constructor
  · intro entry isEntry
    simp only [including, List.mem_append, List.mem_singleton] at isEntry
    simp only [including, List.length_append, List.length_singleton]
    rcases isEntry with before | isNew
    · exact Nat.lt_succ_of_lt (sound.given entry before)
    · simp only [isNew]
      exact Nat.lt_succ_self _
  · simp only [including, List.map_append, List.nodup_append]
    refine ⟨sound.distinct, List.pairwise_singleton _ _, ?_⟩
    intro handle isOld other isNew same
    obtain ⟨entry, isEntry, isHandle⟩ := List.mem_map.1 isOld
    have isLast : other = timer.timeouts.length := List.mem_singleton.1 isNew
    have given := sound.given entry isEntry
    omega

/-- Cancelling makes no task run that was not to run before. -/
theorem isWaiting_of_cancel {handle : Nat} {entry : TimerEntry Task}
    (waits : (timer.cancel handle).isWaiting entry = true) : timer.isWaiting entry = true := by
  simp only [isWaiting, timeout, cancel] at waits
  simp only [List.getD_eq_getElem?_getD, List.getElem?_modify] at waits
  simp only [isWaiting, timeout]
  simp only [List.getD_eq_getElem?_getD]
  cases found : timer.timeouts[entry.handle]? with
  | none =>
      simp only [found] at waits
      exact waits
  | some fate =>
      simp only [found] at waits
      dsimp only [Option.map_eq_map, Option.map_some, Option.getD_some] at waits ⊢
      split at waits
      · cases fate with
        | pending => rfl
        | cancelled => exact waits
        | fired => exact waits
      · exact waits

theorem waiting_cancel_subset (timer : ManualTimer Task) (handle : Nat) :
    (timer.cancel handle).waiting ⊆ timer.waiting := by
  intro task isWaiting
  obtain ⟨entry, isEntry, same⟩ := List.mem_map.1 isWaiting
  obtain ⟨isThere, waits⟩ := List.mem_filter.1 isEntry
  exact List.mem_map.2 ⟨entry, List.mem_filter.2 ⟨isThere, isWaiting_of_cancel waits⟩, same⟩

/-- A task whose handle is not the one that is cancelled is still to run. -/
theorem mem_waiting_cancel {task : Task} {handle : Nat} (isWaiting : task ∈ timer.waiting)
    (others : ∀ entry ∈ timer.entries, entry.handle = handle → entry.task ≠ task) :
    task ∈ (timer.cancel handle).waiting := by
  obtain ⟨entry, isEntry, same⟩ := List.mem_map.1 isWaiting
  obtain ⟨isThere, waits⟩ := List.mem_filter.1 isEntry
  refine List.mem_map.2 ⟨entry, List.mem_filter.2 ⟨isThere, ?_⟩, same⟩
  have different : handle ≠ entry.handle := fun isHandle => others entry isThere isHandle.symm same
  simp only [ManualTimer.isWaiting, timeout, cancel] at *
  rw [List.getD_eq_getElem?_getD, List.getElem?_modify_ne _ _ different, ← List.getD_eq_getElem?_getD]
  exact waits

theorem sound_cancel (sound : timer.Sound) (handle : Nat) : (timer.cancel handle).Sound := by
  refine ⟨?_, sound.distinct⟩
  intro entry isEntry
  simp only [cancel]
  simp only [List.length_modify]
  exact sound.given entry isEntry

/-- Releasing an entry settles its handle. -/
def without (timer : ManualTimer Task) (index : Nat) (entry : TimerEntry Task) : ManualTimer Task :=
  { timer with
    timeouts := timer.timeouts.set entry.handle (timer.timeout entry.handle).markFired.1
    entries := timer.entries.eraseIdx index }

theorem release_eq {index : Nat} {entry : TimerEntry Task} (found : timer.entries[index]? = some entry) :
    timer.release index
      = (timer.without index entry, some (if timer.isWaiting entry then some entry.task else none)) := by
  unfold release isWaiting
  rw [found]
  cases fate : timer.timeout entry.handle <;> (dsimp only; rw [without, fate]; rfl)

theorem release_of_none {index : Nat} (absent : timer.entries[index]? = none) :
    timer.release index = (timer, none) := by
  simp only [release]
  simp only [absent]

/-- Releasing takes one entry off.  If its task was still to run, it is handed out and does not run
again; the others are as before. -/
theorem waiting_release (sound : timer.Sound) (index : Nat) :
    timer.waiting.Perm ((timer.release index).2.join.toList ++ (timer.release index).1.waiting) := by
  cases found : timer.entries[index]? with
  | none =>
      simp only [release_of_none found]
      exact List.Perm.refl _
  | some entry =>
      obtain ⟨bound, isEntry⟩ := List.getElem?_eq_some_iff.1 found
      have perm : (entry :: timer.entries.eraseIdx index).Perm timer.entries := by
        rw [← isEntry]
        exact List.getElem_cons_eraseIdx_perm bound
      have handles := (perm.map TimerEntry.handle).nodup_iff.2 sound.distinct
      simp only [List.map_cons, List.nodup_cons] at handles
      have kept : (timer.entries.eraseIdx index).filter (timer.without index entry).isWaiting
          = (timer.entries.eraseIdx index).filter timer.isWaiting := by
        apply List.filter_congr
        intro other isOther
        have different : entry.handle ≠ other.handle := by
          intro same
          exact handles.1 (same ▸ List.mem_map_of_mem isOther)
        unfold isWaiting timeout without
        dsimp only
        simp only [List.getD_eq_getElem?_getD, List.getElem?_set_ne different]
      have left : (timer.without index entry).waiting
          = ((timer.entries.eraseIdx index).filter timer.isWaiting).map TimerEntry.task :=
        congrArg (List.map TimerEntry.task) kept
      simp only [release_eq found, left]
      have parts := (perm.filter timer.isWaiting).map TimerEntry.task
      cases waits : timer.isWaiting entry with
      | true =>
          simp only [List.filter_cons_of_pos waits] at parts
          exact parts.symm
      | false =>
          rw [List.filter_cons_of_neg (by rw [waits]; exact Bool.false_ne_true)] at parts
          exact parts.symm

/-- What was handed out at a place is still handed out there when a task comes in. -/
theorem release_including (sound : timer.Sound) (delay : Span) (other : Task) {task : Task} {index : Nat}
    (released : (timer.release index).2.join = some task) :
    ((timer.including delay other).release index).2.join = some task := by
  cases found : timer.entries[index]? with
  | none =>
      simp only [release_of_none found] at released
      cases released
  | some entry =>
      have still : (timer.including delay other).entries[index]? = some entry := by
        simp only [including]
        rw [List.getElem?_append_left (List.getElem?_eq_some_iff.1 found).1]
        exact found
      have fate := isWaiting_including sound delay other (List.mem_of_getElem? found)
      simp only [release_eq found] at released
      simp only [release_eq still, fate]
      exact released

/-- The task that came in last is handed out at the last place. -/
theorem release_including_last (timer : ManualTimer Task) (delay : Span) (task : Task) :
    ((timer.including delay task).release timer.entries.length).2.join = some task := by
  have last : (timer.including delay task).entries[timer.entries.length]?
      = some { delay, handle := timer.timeouts.length, task } := List.getElem?_concat_length
  simp only [release_eq last, isWaiting_including_last]
  rfl

/-- A task that is still to run is handed out at some place. -/
theorem exists_release {task : Task} (isWaiting : task ∈ timer.waiting) :
    ∃ index, (timer.release index).2.join = some task := by
  obtain ⟨entry, isEntry, same⟩ := List.mem_map.1 isWaiting
  obtain ⟨isThere, waits⟩ := List.mem_filter.1 isEntry
  obtain ⟨index, found⟩ := List.mem_iff_getElem?.1 isThere
  refine ⟨index, ?_⟩
  rw [release_eq found, waits, ← same]
  rfl

theorem sound_release (sound : timer.Sound) (index : Nat) : (timer.release index).1.Sound := by
  cases found : timer.entries[index]? with
  | none =>
      simp only [release_of_none found]
      exact sound
  | some entry =>
      simp only [release_eq found]
      constructor
      · intro other isOther
        simp only [without]
        simp only [List.length_set]
        exact sound.given other (List.mem_of_mem_eraseIdx isOther)
      · exact sound.distinct.sublist ((List.eraseIdx_sublist _ _).map _)

theorem stopped_release (timer : ManualTimer Task) (index : Nat) :
    (timer.release index).1.stopped = timer.stopped := by
  simp only [release]
  split <;> rfl

end Uplink.ManualTimer
