/-
Module: Uplink.Proofs.Watchdog.Jobs
Purpose: What becomes of the jobs that a notifier is given: an accepted one waits, is started once and ended, a
  refused one is never started, and jobs start in the order in which they came as long as no worker overtakes
  an older one.
Main exports: Notifier.gather, Notifier.Shift, Notifier.step_shift, Notifier.keepsLine,
  Notifier.jobs_start_in_line_iff
-/
import Uplink.Proofs.Watchdog.Notifier
import Mathlib.Data.List.Perm.Basic

namespace Uplink

variable {Job : Type}

/-- The job that an event submits. -/
def NotifierEvent.job? : NotifierEvent Job → Option Job
  | .submit job | .submitUnstaffed job => some job
  | .shutDown | .begin _ | .finish _ => none

namespace Notifier

/-! ### Histories -/

/-- The jobs that wait, those of older workers first. -/
def waiting (notifier : Notifier Job) : List Job :=
  notifier.workers.flatMap Worker.queue

/-- The jobs that workers are at. -/
def underWay (notifier : Notifier Job) : List Job :=
  notifier.workers.filterMap Worker.running

/-- The worker that an event is about.  New jobs are for the last worker or for one that is not there yet. -/
def concerned (notifier : Notifier Job) : NotifierEvent Job → Nat
  | .submit _ | .submitUnstaffed _ | .shutDown => notifier.staffed.2
  | .begin worker | .finish worker => worker

/-- Whether the answer to a submitted job is that it will be run. -/
def takes (notifier : Notifier Job) : NotifierEvent Job → Bool
  | .submit job => (notifier.submit job).2
  | .submitUnstaffed job => (notifier.submitUnstaffed job).2
  | .shutDown | .begin _ | .finish _ => false

/-- The job that an event submits with success. -/
def accepted? (notifier : Notifier Job) (event : NotifierEvent Job) : Option Job :=
  if notifier.takes event then event.job? else none

/-- The job that an event submits in vain. -/
def refused? (notifier : Notifier Job) (event : NotifierEvent Job) : Option Job :=
  if notifier.takes event then none else event.job?

/-- The job that an event starts. -/
def started? (notifier : Notifier Job) : NotifierEvent Job → Option Job
  | .begin worker => (notifier.begin worker).2
  | .submit _ | .submitUnstaffed _ | .shutDown | .finish _ => none

/-- The job that an event ends. -/
def ended? (notifier : Notifier Job) : NotifierEvent Job → Option Job
  | .finish worker => (notifier.workers[worker]?).bind Worker.running
  | .submit _ | .submitUnstaffed _ | .shutDown | .begin _ => none

/-- The queue of the worker with a number; one that is not there has none. -/
def queueAt (workers : List (Worker Job)) (number : Nat) : List Job :=
  (workers[number]?).elim [] Worker.queue

/-- What can be seen of the events that are about one worker. -/
def ofWorker (number : Nat) (seen : Notifier Job → NotifierEvent Job → Option Job) (notifier : Notifier Job)
    (event : NotifierEvent Job) : Option Job :=
  if notifier.concerned event = number then seen notifier event else none

/-- All that can be seen in the course of some events. -/
def gather (seen : Notifier Job → NotifierEvent Job → Option Job) (notifier : Notifier Job) :
    List (NotifierEvent Job) → List Job
  | [] => []
  | event :: rest => (seen notifier event).toList ++ gather seen (notifier.step event) rest

/-- Whether a worker starts a job although one waits with an older worker. -/
def overtakes (notifier : Notifier Job) (event : NotifierEvent Job) : Bool :=
  (notifier.started? event).isSome
    && (notifier.workers.take (notifier.concerned event)).any fun older => !older.queue.isEmpty

/-- Whether no worker overtakes an older one in the course of some events. -/
def keepsLine (notifier : Notifier Job) : List (NotifierEvent Job) → Bool
  | [] => true
  | event :: rest => !notifier.overtakes event && (notifier.step event).keepsLine rest

/-! ### What an event does -/

/-- What may happen to the workers of a notifier: to which of them, and which jobs are accepted, started and
ended thereby.  A new worker comes with the job that it is made for. -/
inductive Shift (capacity : Nat) :
    List (Worker Job) → List (Worker Job) → Nat → List Job → List Job → List Job → Prop where
  | stay (workers : List (Worker Job)) (place : Nat) : Shift capacity workers workers place [] [] []
  | accept (front : List (Worker Job)) (last : Worker Job) (job : Job) (room : last.queue.length < capacity) :
      Shift capacity (front ++ [last]) (front ++ [{ last with queue := last.queue ++ [job] }]) front.length
        [job] [] []
  | recruit (front : List (Worker Job)) (job : Job) (room : 0 < capacity) :
      Shift capacity front (front ++ [{ queue := [job], running := none }]) front.length [job] [] []
  | start (front : List (Worker Job)) (job : Job) (rest : List Job) (back : List (Worker Job)) :
      Shift capacity (front ++ { queue := job :: rest, running := none } :: back)
        (front ++ { queue := rest, running := some job } :: back) front.length [] [job] []
  | finish (front : List (Worker Job)) (found : Worker Job) (back : List (Worker Job)) :
      Shift capacity (front ++ found :: back) (front ++ { found with running := none } :: back) front.length
        [] [] found.running.toList

/-- As many jobs may wait afterwards as before, and new jobs are for the last worker. -/
structure Keeps (before after : Notifier Job) : Prop where
  capacity : after.capacity = before.capacity
  current : ∀ worker, after.current = some worker → after.workers.length = worker + 1

/-- New jobs are for the last worker, and no queue is longer than it may be. -/
structure Orderly (notifier : Notifier Job) : Prop where
  roomy : 0 < notifier.capacity
  current : ∀ worker, notifier.current = some worker → notifier.workers.length = worker + 1
  queue_le : ∀ worker ∈ notifier.workers, worker.queue.length ≤ notifier.capacity

variable {notifier : Notifier Job}

theorem orderly_make (capacity : Nat) : (make capacity : Notifier Job).Orderly := by
  constructor
  case roomy => exact Nat.lt_of_lt_of_le Nat.zero_lt_one (Nat.le_max_right capacity 1)
  case current => exact fun worker isCurrent => nomatch isCurrent
  case queue_le => exact fun worker isWorker => absurd isWorker List.not_mem_nil

theorem Orderly.keeps (orderly : notifier.Orderly) : Keeps notifier notifier :=
  ⟨rfl, orderly.current⟩

/-- Changing the worker behind some others. -/
theorem modify_length {α : Type} (front : List α) (found : α) (back : List α) (change : α → α) :
    (front ++ found :: back).modify front.length change = front ++ change found :: back := by
  induction front with
  | nil => rfl
  | cons first rest ih => exact congrArg (first :: ·) ih

/-- The worker with a number stands behind as many others. -/
theorem exists_split {worker : Nat} {found : Worker Job} (isThere : notifier.workers[worker]? = some found) :
    ∃ front back, notifier.workers = front ++ found :: back ∧ front.length = worker := by
  obtain ⟨within, rfl⟩ := List.getElem?_eq_some_iff.1 isThere
  refine ⟨notifier.workers.take worker, notifier.workers.drop (worker + 1), ?_, ?_⟩
  · rw [List.getElem_cons_drop, List.take_append_drop]
  · rw [List.length_take, Nat.min_eq_left (Nat.le_of_lt within)]

/-- Without a worker for new jobs a job is submitted to a new one. -/
theorem submit_of_unstaffed (job : Job) (isUnstaffed : notifier.current = none) (room : 0 < notifier.capacity) :
    notifier.submit job
      = ({ notifier with
            workers := notifier.workers ++ [{ queue := [job], running := none }]
            current := some notifier.workers.length }, true) := by
  have isStaffed : notifier.staffed
      = ({ notifier with
            workers := notifier.workers ++ [{ queue := [], running := none }]
            current := some notifier.workers.length }, notifier.workers.length) := by
    rw [staffed, isUnstaffed]
  have isNew : (notifier.workers ++ [({ queue := [], running := none } : Worker Job)])[notifier.workers.length]?
      = some { queue := [], running := none } := List.getElem?_concat_length
  rw [submit, isStaffed]
  simp only [queue, isNew, List.length_nil, if_pos room, change, modify_length]
  rfl

/-- The worker for new jobs gets a job if there is room in its queue. -/
theorem submit_of_staffed (job : Job) {front : List (Worker Job)} {last : Worker Job}
    (isCurrent : notifier.current = some front.length) (isWorkers : notifier.workers = front ++ [last]) :
    notifier.submit job
      = if last.queue.length < notifier.capacity then
          ({ notifier with workers := front ++ [{ last with queue := last.queue ++ [job] }] }, true)
        else (notifier, false) := by
  have isStaffed : notifier.staffed = (notifier, front.length) := by rw [staffed, isCurrent]
  have isLast : (front ++ [last])[front.length]? = some last := List.getElem?_concat_length
  rw [submit, isStaffed]
  simp only [queue, change, isWorkers, isLast, modify_length]

/-- A submitted job finds no room, or the worker for new jobs gets it. -/
theorem shift_submit (orderly : notifier.Orderly) (job : Job) :
    Shift notifier.capacity notifier.workers (notifier.submit job).1.workers notifier.staffed.2
        (if (notifier.submit job).2 then some job else none).toList [] []
      ∧ Keeps notifier (notifier.submit job).1 := by
  cases isCurrent : notifier.current with
  | none =>
      have isPlace : notifier.staffed.2 = notifier.workers.length := by rw [staffed, isCurrent]
      rw [submit_of_unstaffed job isCurrent orderly.roomy, isPlace]
      refine ⟨.recruit _ job orderly.roomy, rfl, ?_⟩
      intro worker isWorker
      rw [← Option.some.inj isWorker]
      exact List.length_append
  | some worker =>
      have isPlace : notifier.staffed.2 = worker := by rw [staffed, isCurrent]
      have isLength := orderly.current worker isCurrent
      rcases List.eq_nil_or_concat' notifier.workers with nothing | ⟨front, last, isWorkers⟩
      · rw [nothing] at isLength
        exact absurd isLength.symm (Nat.succ_ne_zero worker)
      · have isFront := isLength
        rw [isWorkers, List.length_append] at isFront
        obtain rfl : front.length = worker := Nat.succ.inj isFront
        rw [submit_of_staffed job isCurrent isWorkers, isPlace]
        split
        · rename_i room
          rw [isWorkers]
          refine ⟨.accept front last job room, rfl, ?_⟩
          intro worker isWorker
          obtain rfl := Option.some.inj (isCurrent.symm.trans isWorker)
          exact List.length_append
        · exact ⟨.stay _ _, orderly.keeps⟩

theorem keeps_change (orderly : notifier.Orderly) (number : Nat) (change : Worker Job → Worker Job) :
    Keeps notifier (notifier.change number change) := by
  refine ⟨rfl, fun worker isCurrent => ?_⟩
  exact (List.length_modify _ _ _).trans (orderly.current worker isCurrent)

theorem workers_change {front : List (Worker Job)} {found : Worker Job} {back : List (Worker Job)}
    (isWorkers : notifier.workers = front ++ found :: back) (change : Worker Job → Worker Job) :
    (notifier.change front.length change).workers = front ++ change found :: back := by
  rw [Notifier.change, isWorkers, modify_length]

theorem shift_begin (orderly : notifier.Orderly) (worker : Nat) :
    Shift notifier.capacity notifier.workers (notifier.begin worker).1.workers worker []
        (notifier.begin worker).2.toList []
      ∧ Keeps notifier (notifier.begin worker).1 := by
  obtain idle | ⟨job, rest, isThere, begun⟩ := notifier.begin_cases worker
  · rw [idle]
    exact ⟨.stay _ _, orderly.keeps⟩
  · obtain ⟨front, back, isWorkers, rfl⟩ := exists_split isThere
    rw [begun]
    refine ⟨?_, keeps_change orderly _ _⟩
    rw [workers_change isWorkers, isWorkers]
    exact .start front job rest back

theorem shift_finish (notifier : Notifier Job) (worker : Nat) :
    Shift notifier.capacity notifier.workers (notifier.finish worker).workers worker [] []
      ((notifier.workers[worker]?).bind Worker.running).toList := by
  cases isThere : notifier.workers[worker]? with
  | none =>
      have same : notifier.workers.modify worker (fun found => { found with running := none })
          = notifier.workers := List.modify_eq_self (List.getElem?_eq_none_iff.1 isThere)
      rw [finish, Notifier.change, same]
      exact .stay _ _
  | some found =>
      obtain ⟨front, back, isWorkers, rfl⟩ := exists_split isThere
      rw [finish, workers_change isWorkers, isWorkers]
      exact .finish front found back

/-- Every event shifts the workers, and it leaves the notifier in order. -/
theorem step_shift (orderly : notifier.Orderly) (event : NotifierEvent Job) :
    Shift notifier.capacity notifier.workers (notifier.step event).workers (notifier.concerned event)
        (notifier.accepted? event).toList (notifier.started? event).toList (notifier.ended? event).toList
      ∧ Keeps notifier (notifier.step event) := by
  cases event with
  | submit job => exact shift_submit orderly job
  | submitUnstaffed job =>
      cases isCurrent : notifier.current with
      | none =>
          have isRefused : notifier.submitUnstaffed job = (notifier, false) := by
            rw [submitUnstaffed, isCurrent]
          simp only [step, accepted?, takes, isRefused]
          exact ⟨.stay _ _, orderly.keeps⟩
      | some worker =>
          have isSubmitted : notifier.submitUnstaffed job = notifier.submit job := by
            rw [submitUnstaffed, isCurrent]
          simp only [step, accepted?, takes, isSubmitted]
          exact shift_submit orderly job
  | shutDown =>
      refine ⟨.stay _ _, rfl, ?_⟩
      intro worker isCurrent
      cases isCurrent
  | begin worker => exact shift_begin orderly worker
  | finish worker => exact ⟨notifier.shift_finish worker, keeps_change orderly worker _⟩

/-! ### What every shift keeps -/

namespace Shift

variable {capacity place : Nat} {before after : List (Worker Job)} {accepted started ended : List Job}

/-- A queue has room for what comes into it. -/
theorem queue_le (shift : Shift capacity before after place accepted started ended)
    (within : ∀ worker ∈ before, worker.queue.length ≤ capacity) :
    ∀ worker ∈ after, worker.queue.length ≤ capacity := by
  cases shift with
  | stay => exact within
  | accept front last job room =>
      simp only [List.forall_mem_append, List.forall_mem_singleton] at within ⊢
      refine ⟨within.1, ?_⟩
      rw [List.length_append, List.length_singleton]
      exact room
  | recruit _ job room =>
      simp only [List.forall_mem_append, List.forall_mem_singleton]
      exact ⟨within, room⟩
  | start front job rest back =>
      simp only [List.forall_mem_append, List.forall_mem_cons] at within ⊢
      exact ⟨within.1, Nat.le_of_succ_le within.2.1, within.2.2⟩
  | finish front found back =>
      simp only [List.forall_mem_append, List.forall_mem_cons] at within ⊢
      exact within

theorem underWay_split (front : List (Worker Job)) (found : Worker Job) (back : List (Worker Job)) :
    (front ++ found :: back).filterMap Worker.running
      = front.filterMap Worker.running ++ (found.running.toList ++ back.filterMap Worker.running) := by
  rw [List.filterMap_append, List.filterMap_cons]
  cases found.running <;> rfl

/-- What was under way or starts now ends or is under way afterwards. -/
theorem underWay (shift : Shift capacity before after place accepted started ended) :
    (before.filterMap Worker.running ++ started).Perm (ended ++ after.filterMap Worker.running) := by
  cases shift with
  | stay =>
      rw [List.append_nil]
      exact .refl _
  | accept front last job room =>
      rw [List.append_nil, underWay_split, underWay_split]
      exact .refl _
  | recruit _ job room =>
      rw [List.append_nil, underWay_split]
      exact .of_eq (List.append_nil _).symm
  | start front job rest back =>
      rw [underWay_split, underWay_split, List.append_assoc]
      exact (List.perm_append_singleton job _).append_left _
  | finish front found back =>
      rw [List.append_nil, underWay_split, underWay_split]
      exact List.perm_append_comm_assoc _ _ _

/-- What waited or comes now starts or waits afterwards. -/
theorem waiting (shift : Shift capacity before after place accepted started ended) :
    (before.flatMap Worker.queue ++ accepted).Perm (started ++ after.flatMap Worker.queue) := by
  cases shift with
  | stay =>
      rw [List.append_nil]
      exact .refl _
  | accept front last job room =>
      simp only [List.flatMap_append, List.flatMap_cons, List.flatMap_nil, List.append_nil,
        List.nil_append, List.append_assoc]
      exact .refl _
  | recruit _ job room =>
      simp only [List.flatMap_append, List.flatMap_cons, List.flatMap_nil, List.append_nil, List.nil_append]
      exact .refl _
  | start front job rest back =>
      simp only [List.flatMap_append, List.flatMap_cons, List.append_nil, List.cons_append, List.nil_append]
      exact List.perm_middle
  | finish front found back =>
      simp only [List.flatMap_append, List.flatMap_cons, List.append_nil, List.nil_append]
      exact .refl _

/-- Unless a job starts although one waits with an older worker, jobs wait and start in line. -/
theorem in_line (shift : Shift capacity before after place accepted started ended)
    (unhindered : started ≠ [] → ∀ older ∈ before.take place, older.queue = []) :
    before.flatMap Worker.queue ++ accepted = started ++ after.flatMap Worker.queue := by
  cases shift with
  | stay => exact List.append_nil _
  | accept front last job room =>
      simp only [List.flatMap_append, List.flatMap_cons, List.flatMap_nil, List.append_nil,
        List.nil_append, List.append_assoc]
  | recruit _ job room =>
      simp only [List.flatMap_append, List.flatMap_cons, List.flatMap_nil, List.append_nil, List.nil_append]
  | start front job rest back =>
      have nothing : front.flatMap Worker.queue = [] := by
        rw [List.take_left] at unhindered
        exact List.flatMap_eq_nil_iff.2 (unhindered (List.cons_ne_nil job []))
      simp only [List.flatMap_append, List.flatMap_cons, nothing, List.append_nil, List.cons_append,
        List.nil_append]
  | finish front found back =>
      simp only [List.flatMap_append, List.flatMap_cons, List.append_nil, List.nil_append]

/-- A job that starts although one waits with an older worker is not the first one that waits. -/
theorem out_of_line (shift : Shift capacity before after place accepted started ended)
    (starts : started ≠ []) {older : Worker Job} (isOlder : older ∈ before.take place)
    (waits : older.queue ≠ []) :
    ∃ first job rest, before.flatMap Worker.queue = first :: rest ∧ started = [job] ∧ job ∈ rest := by
  cases shift with
  | stay => exact absurd rfl starts
  | accept front last job room => exact absurd rfl starts
  | recruit _ job room => exact absurd rfl starts
  | start front job rest back =>
      rw [List.take_left] at isOlder
      have isWaiting : front.flatMap Worker.queue ≠ [] := fun nothing =>
        waits (List.flatMap_eq_nil_iff.1 nothing older isOlder)
      obtain ⟨first, more, isFront⟩ := List.exists_cons_of_ne_nil isWaiting
      refine ⟨first, job, more ++ job :: (rest ++ back.flatMap Worker.queue), ?_, rfl, ?_⟩
      · simp only [List.flatMap_append, List.flatMap_cons, isFront, List.cons_append]
      · exact List.mem_append_right more List.mem_cons_self
  | finish front found back => exact absurd rfl starts

theorem queueAt_split (front : List (Worker Job)) (found : Worker Job) (back : List (Worker Job))
    (number : Nat) :
    queueAt (front ++ found :: back) number
      = if front.length = number then found.queue
        else queueAt (front ++ { queue := [], running := none } :: back) number := by
  simp only [queueAt, List.getElem?_append]
  by_cases same : front.length = number
  · subst same
    rw [if_pos rfl, if_neg (Nat.lt_irrefl _), Nat.sub_self]
    rfl
  · rw [if_neg same]
    split
    · rfl
    · -- Behind the worker in between the two lists are the same.
      obtain ⟨beyond, isBeyond⟩ : ∃ beyond, number - front.length = beyond + 1 :=
        Nat.exists_eq_add_one_of_ne_zero (by omega)
      rw [isBeyond]
      rfl

theorem queueAt_concat_idle (front : List (Worker Job)) (number : Nat) :
    queueAt (front ++ [{ queue := [], running := none }]) number = queueAt front number := by
  simp only [queueAt, List.getElem?_append]
  split
  · rfl
  · rename_i beyond
    rw [List.getElem?_eq_none (Nat.le_of_not_lt beyond)]
    cases number - front.length <;> rfl

/-- Of each worker, what waited or comes now starts or waits afterwards, in this order. -/
theorem queueAt_shift (shift : Shift capacity before after place accepted started ended) (number : Nat) :
    queueAt before number ++ (if place = number then accepted else [])
      = (if place = number then started else []) ++ queueAt after number := by
  cases shift with
  | stay => simp only [ite_self, List.append_nil, List.nil_append]
  | accept front last job room =>
      rw [queueAt_split front last, queueAt_split front { last with queue := last.queue ++ [job] }]
      split <;> simp only [List.append_nil, List.nil_append]
  | recruit _ job room =>
      rw [← queueAt_concat_idle before, queueAt_split before { queue := [job], running := none },
        queueAt_split before { queue := [], running := none }]
      split <;> simp only [List.append_nil, List.nil_append]
  | start front job rest back =>
      rw [queueAt_split front { queue := job :: rest, running := none },
        queueAt_split front { queue := rest, running := some job }]
      split <;> simp only [List.append_nil, List.nil_append, List.cons_append]
  | finish front found back =>
      rw [queueAt_split front found, queueAt_split front { found with running := none }]
      split <;> simp only [List.append_nil, List.nil_append]

end Shift

/-! ### Whole runs -/

theorem Orderly.step (orderly : notifier.Orderly) (event : NotifierEvent Job) :
    (notifier.step event).Orderly := by
  obtain ⟨shift, keeps⟩ := step_shift orderly event
  constructor
  case roomy =>
    rw [keeps.capacity]
    exact orderly.roomy
  case current => exact keeps.current
  case queue_le =>
    rw [keeps.capacity]
    exact shift.queue_le orderly.queue_le

theorem Orderly.run (orderly : notifier.Orderly) (events : List (NotifierEvent Job)) :
    (notifier.run events).Orderly ∧ (notifier.run events).capacity = notifier.capacity := by
  induction events generalizing notifier with
  | nil => exact ⟨orderly, rfl⟩
  | cons event rest ih =>
      obtain ⟨after, sameCapacity⟩ := ih (orderly.step event)
      exact ⟨after, sameCapacity.trans (step_shift orderly event).2.capacity⟩

/-- What happens to sets of jobs in one step adds up in the course of a run. -/
theorem perm_gather {come go : Notifier Job → NotifierEvent Job → Option Job}
    {held : Notifier Job → List Job}
    (step : ∀ {notifier : Notifier Job}, notifier.Orderly → ∀ event,
      (held notifier ++ (come notifier event).toList).Perm
        ((go notifier event).toList ++ held (notifier.step event)))
    (orderly : notifier.Orderly) (events : List (NotifierEvent Job)) :
    (held notifier ++ gather come notifier events).Perm
      (gather go notifier events ++ held (notifier.run events)) := by
  induction events generalizing notifier with
  | nil => exact .of_eq (List.append_nil _)
  | cons event rest ih =>
      have first := (step orderly event).append_right (gather come (notifier.step event) rest)
      have later := (ih (orderly.step event)).append_left (go notifier event).toList
      rw [List.append_assoc, List.append_assoc] at first
      exact (first.trans later).trans (.of_eq (List.append_assoc _ _ _).symm)

/-- The jobs of one worker start in the order in which they were accepted. -/
theorem queueAt_run (orderly : notifier.Orderly) (number : Nat) (events : List (NotifierEvent Job)) :
    queueAt notifier.workers number ++ gather (ofWorker number accepted?) notifier events
      = gather (ofWorker number started?) notifier events
        ++ queueAt (notifier.run events).workers number := by
  induction events generalizing notifier with
  | nil => exact List.append_nil _
  | cons event rest ih =>
      have first := (step_shift orderly event).1.queueAt_shift number
      have ofThis (seen : Notifier Job → NotifierEvent Job → Option Job) :
          (ofWorker number seen notifier event).toList
            = if notifier.concerned event = number then (seen notifier event).toList else [] := by
        rw [ofWorker]
        split <;> rfl
      simp only [gather, ofThis]
      rw [← List.append_assoc, first, List.append_assoc, ih (orderly.step event), List.append_assoc]
      rfl

/-- Every job that is submitted is accepted or refused. -/
theorem perm_submitted (notifier : Notifier Job) (events : List (NotifierEvent Job)) :
    (events.filterMap NotifierEvent.job?).Perm
      (gather accepted? notifier events ++ gather refused? notifier events) := by
  induction events generalizing notifier with
  | nil => exact .refl _
  | cons event rest ih =>
      have isOne : (event :: rest).filterMap NotifierEvent.job?
          = event.job?.toList ++ rest.filterMap NotifierEvent.job? := by
        rw [List.filterMap_cons]
        cases event.job? <;> rfl
      rw [isOne, gather, gather, accepted?, refused?]
      have others := (ih (notifier.step event)).append_left event.job?.toList
      split
      · exact others.trans (.of_eq (List.append_assoc _ _ _).symm)
      · exact others.trans (List.perm_append_comm_assoc _ _ _)

theorem overtakes_iff {event : NotifierEvent Job} :
    notifier.overtakes event = true
      ↔ (notifier.started? event).toList ≠ []
        ∧ ∃ older ∈ notifier.workers.take (notifier.concerned event), older.queue ≠ [] := by
  rw [overtakes]
  cases notifier.started? event with
  | none => simp
  | some job => simp

/-- Jobs start in the order in which they wait and come exactly if no worker overtakes an older one. -/
theorem started_prefix_iff (orderly : notifier.Orderly) (events : List (NotifierEvent Job))
    (distinct : (notifier.waiting ++ gather accepted? notifier events).Nodup) :
    gather started? notifier events <+: notifier.waiting ++ gather accepted? notifier events
      ↔ notifier.keepsLine events = true := by
  induction events generalizing notifier with
  | nil => exact iff_of_true List.nil_prefix rfl
  | cons event rest ih =>
      have shift := (step_shift orderly event).1
      rw [gather] at distinct
      rw [keepsLine, gather, gather]
      by_cases overtaken : notifier.overtakes event = true
      · obtain ⟨starts, older, isOlder, waits⟩ := overtakes_iff.1 overtaken
        obtain ⟨first, job, more, isWaiting, isStarted, isLater⟩ := shift.out_of_line starts isOlder waits
        have isWaiting : notifier.waiting = first :: more := isWaiting
        rw [overtaken, isStarted, isWaiting]
        refine iff_of_false (fun inOrder => ?_) Bool.false_ne_true
        obtain rfl := (List.cons_prefix_cons.1 inOrder).1
        rw [isWaiting] at distinct
        exact (List.nodup_cons.1 distinct).1 (List.mem_append_left _ isLater)
      · have inLine : notifier.waiting ++ (notifier.accepted? event).toList
            = (notifier.started? event).toList ++ (notifier.step event).waiting := by
          apply shift.in_line
          intro starts older isOlder
          exact by_contra fun waits => overtaken (overtakes_iff.2 ⟨starts, older, isOlder, waits⟩)
        rw [← List.append_assoc, inLine, List.append_assoc] at distinct
        rw [← List.append_assoc, inLine, List.append_assoc, List.prefix_append_right_inj,
          ih (orderly.step event) (List.nodup_append.1 distinct).2.1, Bool.eq_false_iff.2 overtaken]
        rfl

end Notifier

end Uplink
