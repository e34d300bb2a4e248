/-
Module: Uplink.Time.Clock
Purpose: Clocks that only move when they are told to, and handles that share them.
Main exports: ManualClock, ClockRack
-/
import Uplink.Time.Span

namespace Uplink

/-- A clock that only moves when it is advanced. -/
structure ManualClock where
  elapsed : Span
deriving DecidableEq, Repr, Inhabited

namespace ManualClock

/-- A clock at its start. -/
def fresh : ManualClock := { elapsed := Span.zero }

/-- Advance a clock; it stops at the longest span. -/
def advance (clock : ManualClock) (delta : Span) : ManualClock :=
  { elapsed := clock.elapsed.add delta }

end ManualClock

/-- Clocks and the handles on them.  Handles that were cloned from one another share a clock. -/
structure ClockRack where
  clocks : List ManualClock
  handles : List Nat
deriving DecidableEq, Repr, Inhabited

namespace ClockRack

/-- One clock with one handle. -/
def fresh : ClockRack := { clocks := [ManualClock.fresh], handles := [0] }

/-- Add a clock with a handle of its own. -/
def add (rack : ClockRack) : ClockRack :=
  { clocks := rack.clocks ++ [ManualClock.fresh], handles := rack.handles ++ [rack.clocks.length] }

/-- Add a handle on the clock of another handle. -/
def clone (rack : ClockRack) (handle : Nat) : ClockRack :=
  { rack with handles := rack.handles ++ (rack.handles[handle]?).toList }

/-- Advance the clock of a handle. -/
def advance (rack : ClockRack) (handle : Nat) (delta : Span) : ClockRack :=
  match rack.handles[handle]? with
  | some clock => { rack with clocks := rack.clocks.modify clock fun held => held.advance delta }
  | none => rack

/-- What each handle shows. -/
def readings (rack : ClockRack) : List Span :=
  rack.handles.filterMap fun clock => (rack.clocks[clock]?).map ManualClock.elapsed

end ClockRack

end Uplink
