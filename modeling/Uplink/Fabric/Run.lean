/-
Module: Uplink.Fabric.Run
Purpose: Whole runs of watchdogs: what may happen to them, one thing after another.
Main exports: FabricEvent, Fabric.step, Fabric.run, Fabric.fire
-/
import Uplink.Fabric.Link
import Uplink.Pool.Run

namespace Uplink

/-- What may happen to watchdogs and to what they work in.  Attempts that are under way end at any later
time, and a worker goes on whenever it is its turn. -/
inductive FabricEvent where
  | schedule (watchdog : Nat) (delay : Span)
  | beginCall (watchdog : Nat)
  | settle (place : Nat) (outcome : Outcome)
  | fire (index : Nat)
  | start (watchdog : Nat)
  | stop (watchdog : Nat)
  | turnSwitch (connection : Nat) (enabled : Bool)
  | addListener (watchdog : Nat) (listener : Listener)
  | dismiss (watchdog : Nat) (label : String)
  | active (watchdog channel : Nat)
  | inactive (watchdog channel : Nat)
  | read (watchdog channel : Nat) (frame : Frame)
  | exception (watchdog channel : Nat) (error : TransportError)
  | close (channel : Nat)
  | workerStep (watchdog worker : Nat)
  | addCompletionListener (connection listener : Nat)
  | openGate
  | stopTimer
  | onRoster (event : RosterEvent)
deriving Repr, Inhabited

namespace Fabric

/-- Take the timer's entry at an index off; a task that was not cancelled begins an attempt, if one is
still wanted. -/
def fire (fabric : Fabric) (index : Nat) : Fabric :=
  match fabric.release index with
  | (released, some (some watchdog)) => (released.beginRetry watchdog).1
  | (released, _) => released

/-- One event. -/
def step (fabric : Fabric) : FabricEvent → Fabric
  | .schedule watchdog delay =>
      if watchdog < fabric.watchdogs.length then (fabric.schedule watchdog delay).1 else fabric
  | .beginCall watchdog => fabric.beginCall watchdog
  | .settle place outcome => (fabric.settle place outcome).1
  | .fire index => fabric.fire index
  | .start watchdog => (fabric.start watchdog).1
  | .stop watchdog => (fabric.stop watchdog).1
  | .turnSwitch connection enabled => fabric.turnSwitch connection enabled
  | .addListener watchdog listener =>
      fabric.changeWatchdog watchdog fun found =>
        { found with listeners := found.listeners ++ [listener] }
  | .dismiss watchdog label =>
      fabric.changeWatchdog watchdog fun found => (found.dismiss label).1
  | .active watchdog channel => fabric.channelActive watchdog channel
  | .inactive watchdog channel => fabric.channelInactive watchdog channel
  | .read watchdog channel frame => fabric.channelRead watchdog channel frame
  | .exception watchdog channel error => fabric.channelException watchdog channel error
  | .close channel => fabric.close channel
  | .workerStep watchdog worker => fabric.workerStep watchdog worker
  | .addCompletionListener connection listener =>
      fabric.addCompletionListener connection listener
  | .openGate => fabric.openGate
  | .stopTimer => { fabric with timer := fabric.timer.stop }
  | .onRoster event => { fabric with roster := fabric.roster.step event }

/-- Some events. -/
def run (fabric : Fabric) (events : List FabricEvent) : Fabric :=
  events.foldl step fabric

end Fabric

end Uplink
