/-
Module: Uplink.Watchdog.Backoff
Purpose: How long to wait before the next attempt: a linear backoff that stops growing.
Main exports: Backoff, Backoff.make, Backoff.delayFor
-/
import Uplink.Time.Span

namespace Uplink

open Text

/-- A backoff: the step by which the delay grows, and after how many steps it stops growing. -/
structure Backoff where
  step : Span
  mostSteps : UInt32
  mostSteps_pos : 1 ≤ mostSteps
deriving DecidableEq, Repr

namespace Backoff

/-- The backoff with a step and a number of steps, which is at least one. -/
def make (step : Span) (mostSteps : UInt32) : Backoff :=
  if enough : 1 ≤ mostSteps then { step, mostSteps, mostSteps_pos := enough }
  else { step, mostSteps := 1, mostSteps_pos := by decide }

/-- Steps of 200 milliseconds, twelve at most. -/
def standard : Backoff := make (Span.ofMillis 200) 12

instance : Inhabited Backoff := ⟨standard⟩

/-- The delay before an attempt that follows `attempts` others. -/
def delayFor (backoff : Backoff) (attempts : UInt32) : Span :=
  backoff.step.scale (min attempts backoff.mostSteps).toNat

/-- The backoff with its type's name around it. -/
def description (backoff : Backoff) : String :=
  "ReconnectBackoff \x7b step: " ++ backoff.step.text ++ ", max_steps: "
    ++ decimal backoff.mostSteps.toNat ++ " \x7d"

end Backoff

end Uplink
