/-
Module: Uplink.Watchdog.Notifier
Purpose: A queue of jobs with a worker of its own, which is made when the first job comes and let go of
  on shutdown.
Main exports: Worker, Notifier, Notifier.submit, Notifier.submitUnstaffed, Notifier.shutDown,
  Notifier.begin, Notifier.finish, Notifier.run
-/

namespace Uplink

/-- A worker: the jobs that wait in its queue, and the one it is at. -/
structure Worker (Job : Type) where
  queue : List Job
  running : Option Job
deriving DecidableEq, Repr, Inhabited

/-- A notifier: how many jobs may wait, every worker it ever had, and the one that takes new jobs.  A
worker that takes no more jobs still works off its queue. -/
structure Notifier (Job : Type) where
  capacity : Nat
  workers : List (Worker Job)
  current : Option Nat
deriving DecidableEq, Repr, Inhabited

namespace Notifier

variable {Job : Type}

/-- A notifier without workers; at least one job may wait. -/
def make (capacity : Nat) : Notifier Job :=
  { capacity := max capacity 1, workers := [], current := none }

/-- A notifier that has a worker for new jobs. -/
def staffed (notifier : Notifier Job) : Notifier Job × Nat :=
  match notifier.current with
  | some worker => (notifier, worker)
  | none =>
      let worker := notifier.workers.length
      ({ notifier with
          workers := notifier.workers ++ [{ queue := [], running := none }]
          current := some worker },
        worker)

/-- Change a worker. -/
def change (notifier : Notifier Job) (worker : Nat) (change : Worker Job → Worker Job) :
    Notifier Job :=
  { notifier with workers := notifier.workers.modify worker change }

/-- The queue of a worker. -/
def queue (notifier : Notifier Job) (worker : Nat) : List Job :=
  match notifier.workers[worker]? with
  | some found => found.queue
  | none => []

/-- Submit a job; a full queue drops it, and the flag says so. -/
def submit (notifier : Notifier Job) (job : Job) : Notifier Job × Bool :=
  let (ready, worker) := notifier.staffed
  if (ready.queue worker).length < ready.capacity then
    (ready.change worker fun found => { found with queue := found.queue ++ [job] }, true)
  else
    (ready, false)

/-- Submit a job when no worker can be made.  A notifier that has none drops the job. -/
def submitUnstaffed (notifier : Notifier Job) (job : Job) : Notifier Job × Bool :=
  match notifier.current with
  | some _ => notifier.submit job
  | none => (notifier, false)

/-- Let go of the current worker.  It works off its queue and ends; the next job gets a new one. -/
def shutDown (notifier : Notifier Job) : Notifier Job :=
  { notifier with current := none }

/-- A worker that is at nothing takes the first job of its queue. -/
def begin (notifier : Notifier Job) (worker : Nat) : Notifier Job × Option Job :=
  match notifier.workers[worker]? with
  | some { queue := job :: rest, running := none } =>
      (notifier.change worker fun _ => { queue := rest, running := some job }, some job)
  | _ => (notifier, none)

/-- A worker goes on with its job as it stands now. -/
def hold (notifier : Notifier Job) (worker : Nat) (job : Job) : Notifier Job :=
  notifier.change worker fun found => { found with running := some job }

/-- A worker is done with its job. -/
def finish (notifier : Notifier Job) (worker : Nat) : Notifier Job :=
  notifier.change worker fun found => { found with running := none }

end Notifier

/-- What may happen to a notifier and to its workers. -/
inductive NotifierEvent (Job : Type) where
  | submit (job : Job)
  | submitUnstaffed (job : Job)
  | shutDown
  | begin (worker : Nat)
  | finish (worker : Nat)
deriving DecidableEq, Repr, Inhabited

namespace Notifier

variable {Job : Type}

/-- One event. -/
def step (notifier : Notifier Job) : NotifierEvent Job → Notifier Job
  | .submit job => (notifier.submit job).1
  | .submitUnstaffed job => (notifier.submitUnstaffed job).1
  | .shutDown => notifier.shutDown
  | .begin worker => (notifier.begin worker).1
  | .finish worker => notifier.finish worker

/-- Some events. -/
def run (notifier : Notifier Job) (events : List (NotifierEvent Job)) : Notifier Job :=
  events.foldl step notifier

end Notifier

end Uplink
