/-
Module: Uplink.Rehearsal.Timing
Purpose: Steps on delayed tasks, on a timer that sleeps, on latches and on a connection.
Main exports: TimeoutStep, TimeoutRack.rehearse, SleepStep, SleepTimer.rehearse, LatchWorld.rehearse,
  ConnectionWorld.rehearse
-/
import Uplink.Connection.Cascade
import Uplink.Latch.Cascade
import Uplink.Rehearsal.Turn
import Uplink.Time.TimeoutRack
import Uplink.Time.Timer

namespace Uplink

/-- A step on handles of delayed tasks. -/
inductive TimeoutStep where
  | add
  | clone (handle : Nat)
  | cancel (handle : Nat)
  | fire (handle : Nat)
deriving DecidableEq, Repr, Inhabited

/-- Take a step on handles of delayed tasks. -/
def TimeoutRack.rehearse (rack : TimeoutRack) : TimeoutStep → TimeoutRack × Turn
  | .add => (rack.add.1, .quiet (.number rack.add.2))
  | .clone handle => ((rack.clone handle).1, .quiet (.number (rack.clone handle).2))
  | .cancel handle => ((rack.cancel handle).1, .quiet (.flag (rack.cancel handle).2))
  | .fire handle => ((rack.fire handle).1, .quiet (.flag (rack.fire handle).2))

/-- A step on a timer that sleeps.  A scheduled task may be waited for. -/
inductive SleepStep where
  | schedule (delay : Span) (awaited : Bool)
  | cancel (handle : Nat)
  | sleep (delay : Span)
  | stop
deriving DecidableEq, Repr, Inhabited

namespace SleepTimer

/-- Let time pass; each task that begins shows its handle. -/
def sleepTurn (timer : SleepTimer) (delay : Span) (reply : Reply) : SleepTimer × Turn :=
  let slept := timer.sleep delay
  (slept.1,
    { reply, events := slept.2.map fun handle => "fired " ++ Text.decimal handle, logs := [] })

/-- Take a step on a timer that sleeps.  Who waits for a task sleeps for its delay. -/
def rehearse (timer : SleepTimer) : SleepStep → SleepTimer × Turn
  | .schedule delay awaited =>
      match timer.schedule delay with
      | .error error => (timer, .quiet (.failed error))
      | .ok (scheduled, handle) =>
          if awaited then scheduled.sleepTurn delay (.number handle)
          else (scheduled, .quiet (.number handle))
  | .cancel handle =>
      match timer.cancel handle with
      | (cancelled, some done) => (cancelled, .quiet (.flag done))
      | (_, none) => (timer, .quiet (.text "no handle"))
  | .sleep delay => timer.sleepTurn delay .nothing
  | .stop =>
      let stopped := timer.stop
      (stopped.1, { reply := .flag stopped.1.stopped, events := [], logs := stopped.2 })

end SleepTimer

/-- Make a call on a latch; only what it shows itself is kept. -/
def LatchWorld.rehearse (world : LatchWorld) (call : LatchCall) : LatchWorld × Turn :=
  let called := ({ world with events := [] } : LatchWorld).call call
  (called.1,
    { reply := .json called.2, events := called.1.events.map LatchEvent.text, logs := [] })

/-- Make a call on a connection; only what it shows itself is kept. -/
def ConnectionWorld.rehearse (world : ConnectionWorld) (call : ConnectionCall) :
    ConnectionWorld × Turn :=
  let called := ({ world with events := [], logs := [] } : ConnectionWorld).call call
  (called.1,
    { reply := .json called.2, events := called.1.events.map ConnectionEvent.text,
      logs := called.1.logs })

end Uplink
