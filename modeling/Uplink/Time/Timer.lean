/-
Module: Uplink.Time.Timer
Purpose: Timers: one whose tasks are released by hand, and one whose tasks fall due as time passes.
Main exports: ManualTimer, ManualTimer.schedule, ManualTimer.cancel, ManualTimer.release,
  ManualTimer.stop, SleepTimer
-/
import Uplink.Log
import Uplink.Time.Timeout
import Uplink.Transport.Error

namespace Uplink

/-- A scheduled task: its delay, the number of the handle that its scheduler holds, and the task. -/
structure TimerEntry (Task : Type) where
  delay : Span
  handle : Nat
  task : Task
deriving DecidableEq, Repr, Inhabited

/-- A timer whose tasks are released by hand.  Handles outlive the entries they belong to. -/
structure ManualTimer (Task : Type) where
  stopped : Bool
  timeouts : List Timeout
  entries : List (TimerEntry Task)
deriving DecidableEq, Repr, Inhabited

namespace ManualTimer

variable {Task : Type}

/-- A timer without tasks. -/
def fresh : ManualTimer Task := { stopped := false, timeouts := [], entries := [] }

/-- The fate of the task that a handle belongs to. -/
def timeout (timer : ManualTimer Task) (handle : Nat) : Timeout :=
  timer.timeouts.getD handle .cancelled

/-- Schedule a task and get its handle; a stopped timer refuses. -/
def schedule (timer : ManualTimer Task) (delay : Span) (task : Task) :
    Except TransportError (ManualTimer Task × Nat) :=
  if timer.stopped then .error .timerStopped
  else
    let handle := timer.timeouts.length
    .ok
      ({ timer with
          timeouts := timer.timeouts ++ [.pending]
          entries := timer.entries ++ [{ delay, handle, task }] },
        handle)

/-- Cancel the task of a handle, if it is still pending. -/
def cancel (timer : ManualTimer Task) (handle : Nat) : ManualTimer Task :=
  { timer with timeouts := timer.timeouts.modify handle fun timeout => timeout.cancel.1 }

/-- Take the entry at an index off the timer.  Its task is handed out to be run, unless it was
cancelled. -/
def release (timer : ManualTimer Task) (index : Nat) : ManualTimer Task × Option (Option Task) :=
  match timer.entries[index]? with
  | none => (timer, none)
  | some entry =>
      let begun := (timer.timeout entry.handle).markFired
      ({ timer with
          timeouts := timer.timeouts.set entry.handle begun.1
          entries := timer.entries.eraseIdx index },
        some (if begun.2 then some entry.task else none))

/-- Stop the timer: what is pending is cancelled, and nothing is accepted any more. -/
def stop (timer : ManualTimer Task) : ManualTimer Task :=
  { stopped := true
    timeouts := timer.timeouts.map fun timeout => timeout.cancel.1
    entries := [] }

end ManualTimer

/-- A timer whose tasks fall due as time passes: the time so far, and for each handle when it is due and
what became of it. -/
structure SleepTimer where
  stopped : Bool
  now : Nat
  tasks : List (Nat × Timeout)
deriving DecidableEq, Repr, Inhabited

namespace SleepTimer

/-- A timer without tasks. -/
def fresh : SleepTimer := { stopped := false, now := 0, tasks := [] }

/-- Schedule a task and get its handle; a stopped timer refuses. -/
def schedule (timer : SleepTimer) (delay : Span) : Except TransportError (SleepTimer × Nat) :=
  if timer.stopped then .error .timerStopped
  else
    .ok
      ({ timer with tasks := timer.tasks ++ [(timer.now + delay.totalNanos, .pending)] },
        timer.tasks.length)

/-- Cancel the task of a handle; the flag says whether it was still pending. -/
def cancel (timer : SleepTimer) (handle : Nat) : SleepTimer × Option Bool :=
  match timer.tasks[handle]? with
  | some (due, timeout) =>
      ({ timer with tasks := timer.tasks.set handle (due, timeout.cancel.1) },
        some timeout.cancel.2)
  | none => (timer, none)

/-- Let time pass.  The handles of the tasks that begin are handed out. -/
def sleep (timer : SleepTimer) (delay : Span) : SleepTimer × List Nat :=
  let now := timer.now + delay.totalNanos
  let begins := fun (task : Nat × Timeout) => decide (task.1 ≤ now) && task.2 == .pending
  ({ timer with
      now
      tasks := timer.tasks.map fun task => if begins task then (task.1, .fired) else task },
    (List.range timer.tasks.length).filter fun handle =>
      match timer.tasks[handle]? with
      | some task => begins task
      | none => false)

/-- The log line of a timer that stops. -/
def stoppedLine : LogLine :=
  { level := .debug, target := "spark.transport.tcp", message := "timer stopped", fields := [] }

/-- Stop the timer.  What is pending is cancelled; only the first stop is logged. -/
def stop (timer : SleepTimer) : SleepTimer × List LogLine :=
  ({ timer with
      stopped := true
      tasks := timer.tasks.map fun task => (task.1, task.2.cancel.1) },
    if timer.stopped then [] else [stoppedLine])

end SleepTimer

end Uplink
