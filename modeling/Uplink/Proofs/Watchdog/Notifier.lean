/-
Module: Uplink.Proofs.Watchdog.Notifier
Purpose: The jobs that a notifier's workers have before them or are at, and what holds of every one of them.
Main exports: Worker.jobs, Notifier.jobs, Notifier.jobs_submit, Notifier.begin_cases, Notifier.Every,
  Notifier.Every.submit, Notifier.Every.begin, Notifier.Every.finish, Notifier.Every.hold
-/
import Uplink.Watchdog.Notifier

namespace Uplink

/-- The jobs that a worker is not done with, first the one that it is at. -/
def Worker.jobs {Job : Type} (worker : Worker Job) : List Job :=
  worker.running.toList ++ worker.queue

namespace Notifier

variable {Job : Type} {notifier : Notifier Job} {good : Job → Prop}

/-- The jobs that the worker with a number is not done with; one that is not there has none. -/
def jobs (notifier : Notifier Job) (worker : Nat) : List Job :=
  (notifier.workers[worker]?).elim [] Worker.jobs

theorem jobs_staffed (notifier : Notifier Job) (worker : Nat) :
    notifier.staffed.1.jobs worker = notifier.jobs worker := by
  rw [staffed]
  cases notifier.current with
  | some _ => rfl
  | none =>
      simp only [jobs, List.getElem?_append]
      split
      · rfl
      · rename_i beyond
        rw [List.getElem?_eq_none (Nat.le_of_not_lt beyond)]
        cases worker - notifier.workers.length <;> rfl

theorem jobs_change (notifier : Notifier Job) (number worker : Nat) (change : Worker Job → Worker Job) :
    (notifier.change number change).jobs worker
      = if number = worker then (notifier.workers[worker]?).elim [] fun found => (change found).jobs
        else notifier.jobs worker := by
  simp only [Notifier.change, jobs, List.getElem?_modify]
  by_cases same : number = worker
  · simp only [same, if_true]
    cases notifier.workers[worker]? <;> rfl
  · simp only [same, if_false]
    cases notifier.workers[worker]? <;> rfl

/-- A job that is submitted waits behind all others of one worker, or is dropped. -/
theorem jobs_submit (notifier : Notifier Job) (job : Job) (worker : Nat) :
    (notifier.submit job).1.jobs worker = notifier.jobs worker
      ∨ (notifier.submit job).1.jobs worker = notifier.jobs worker ++ [job] := by
  have staffed := jobs_staffed notifier worker
  simp only [submit]
  split
  · rw [jobs_change]
    split
    · cases isThere : notifier.staffed.1.workers[worker]? with
      | none =>
          rw [jobs, isThere] at staffed
          exact .inl staffed
      | some found =>
          rw [jobs, isThere] at staffed
          rw [← staffed]
          exact .inr (List.append_assoc _ _ _).symm
    · exact .inl staffed
  · exact .inl staffed

/-- A worker that takes a job is at the first that waited.  Only then is there anything to take. -/
theorem begin_cases (notifier : Notifier Job) (worker : Nat) :
    notifier.begin worker = (notifier, none)
      ∨ ∃ job rest, notifier.workers[worker]? = some { queue := job :: rest, running := none }
        ∧ notifier.begin worker
          = (notifier.change worker fun _ => { queue := rest, running := some job }, some job) := by
  unfold Notifier.begin
  split
  · rename_i job rest isThere
    exact .inr ⟨job, rest, isThere, rfl⟩
  · exact .inl rfl

/-- Something holds of every job that waits or that a worker is at. -/
def Every (notifier : Notifier Job) (good : Job → Prop) : Prop :=
  ∀ worker ∈ notifier.workers,
    (∀ job ∈ worker.queue, good job) ∧ ∀ job, worker.running = some job → good job

theorem every_make (capacity : Nat) (good : Job → Prop) : (make capacity : Notifier Job).Every good :=
  fun _ isWorker => absurd isWorker List.not_mem_nil

/-- Changing one worker leaves the others as they are. -/
theorem Every.change (every : notifier.Every good) (number : Nat) {change : Worker Job → Worker Job}
    (keeps : ∀ worker ∈ notifier.workers,
      (∀ job ∈ (change worker).queue, good job) ∧ ∀ job, (change worker).running = some job → good job) :
    (notifier.change number change).Every good := by
  intro worker isWorker
  obtain ⟨place, isThere⟩ := List.mem_iff_getElem?.1 isWorker
  simp only [Notifier.change, List.getElem?_modify] at isThere
  obtain ⟨before, isBefore, same⟩ := Option.map_eq_some_iff.1 isThere
  have isMember := List.mem_of_getElem? isBefore
  split at same
  · exact same ▸ keeps before isMember
  · exact same ▸ every before isMember

theorem Every.staffed (every : notifier.Every good) : notifier.staffed.1.Every good := by
  simp only [Notifier.staffed]
  split
  · exact every
  · intro worker isWorker
    rcases List.mem_append.1 isWorker with before | isNew
    · exact every worker before
    · rw [List.mem_singleton.1 isNew]
      exact ⟨fun _ isJob => absurd isJob List.not_mem_nil, fun _ isRunning => nomatch isRunning⟩

theorem Every.submit (every : notifier.Every good) {job : Job} (isGood : good job) :
    (notifier.submit job).1.Every good := by
  simp only [Notifier.submit]
  split
  · apply every.staffed.change
    intro worker isWorker
    refine ⟨?_, (every.staffed worker isWorker).2⟩
    intro other isOther
    rcases List.mem_append.1 isOther with before | isNew
    · exact (every.staffed worker isWorker).1 other before
    · rw [List.mem_singleton.1 isNew]
      exact isGood
  · exact every.staffed

theorem Every.finish (every : notifier.Every good) (number : Nat) : (notifier.finish number).Every good := by
  apply every.change
  intro worker isWorker
  exact ⟨(every worker isWorker).1, fun _ isRunning => nomatch isRunning⟩

theorem Every.hold (every : notifier.Every good) (number : Nat) {job : Job} (isGood : good job) :
    (notifier.hold number job).Every good := by
  apply every.change
  intro worker isWorker
  refine ⟨(every worker isWorker).1, fun other isRunning => ?_⟩
  rw [← Option.some.inj isRunning]
  exact isGood

/-- The job that a worker takes is one that waited. -/
theorem Every.begin (every : notifier.Every good) (number : Nat) :
    (notifier.begin number).1.Every good ∧ ∀ job, (notifier.begin number).2 = some job → good job := by
  simp only [Notifier.begin]
  split
  · rename_i first rest found
    have waited := (every _ (List.mem_of_getElem? found)).1
    constructor
    · apply every.change
      intro worker _
      refine ⟨fun job isJob => waited job (List.mem_cons_of_mem _ isJob), fun job isRunning => ?_⟩
      rw [← Option.some.inj isRunning]
      exact waited first List.mem_cons_self
    · intro job isTaken
      rw [← Option.some.inj isTaken]
      exact waited first List.mem_cons_self
  · exact ⟨every, fun _ isTaken => nomatch isTaken⟩

end Notifier

end Uplink
