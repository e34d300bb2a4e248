/-
Module: Uplink.Time.TimeoutRack
Purpose: Handles on delayed tasks, several of which may stand for one task.
Main exports: TimeoutRack, TimeoutRack.add, TimeoutRack.clone, TimeoutRack.cancel, TimeoutRack.fire
-/
import Uplink.Time.Timeout

namespace Uplink

/-- Delayed tasks and the handles on them.  Handles that were cloned from one another share a task. -/
structure TimeoutRack where
  timeouts : List Timeout
  handles : List Nat
deriving DecidableEq, Repr, Inhabited

namespace TimeoutRack

/-- One pending task with one handle. -/
def fresh : TimeoutRack := { timeouts := [.pending], handles := [0] }

/-- Add a pending task with a handle of its own; the handle's number is the answer. -/
def add (rack : TimeoutRack) : TimeoutRack × Nat :=
  ({ timeouts := rack.timeouts ++ [.pending], handles := rack.handles ++ [rack.timeouts.length] },
    rack.handles.length)

/-- Add a handle on the task of another handle; its number is the answer. -/
def clone (rack : TimeoutRack) (handle : Nat) : TimeoutRack × Nat :=
  ({ rack with handles := rack.handles ++ (rack.handles[handle]?).toList }, rack.handles.length)

/-- Change the task of a handle by a transition that may fail. -/
def change (rack : TimeoutRack) (handle : Nat) (transition : Timeout → Timeout × Bool) :
    TimeoutRack × Bool :=
  match (rack.handles[handle]?).bind fun place =>
      (rack.timeouts[place]?).map fun found => (place, found) with
  | some (place, found) =>
      ({ rack with timeouts := rack.timeouts.set place (transition found).1 }, (transition found).2)
  | none => (rack, false)

/-- Cancel the task of a handle; the flag says whether it was still pending. -/
def cancel (rack : TimeoutRack) (handle : Nat) : TimeoutRack × Bool :=
  rack.change handle Timeout.cancel

/-- Begin the task of a handle; the flag says whether it was still pending. -/
def fire (rack : TimeoutRack) (handle : Nat) : TimeoutRack × Bool :=
  rack.change handle Timeout.markFired

/-- What each handle shows. -/
def readings (rack : TimeoutRack) : List Timeout :=
  rack.handles.filterMap fun place => rack.timeouts[place]?

end TimeoutRack

end Uplink
