/-
Module: Uplink.Pool.Run
Purpose: Whole runs of channels and pools: what may happen, one thing after another.
Main exports: RosterEvent, Roster.step, Roster.run
-/
import Uplink.Pool.Roster

namespace Uplink

/-- What may happen to channels and pools. -/
inductive RosterEvent where
  | openChannel (handler : Option Nat)
  | addPool (address : Address) (config : PoolConfig)
  | enroll (pool channel : Nat)
  | evict (pool channel : Nat)
  | close (channel : Nat)
  | listen (channel : Nat) (hook : CloseHook)
  | setWarmUp (pool : Nat) (warmUp : Span)
  | setCapacity (pool : Nat) (capacity : UInt64)
  | takeTurns (pool count : Nat)
  | advance (delta : Span)
deriving Repr, Inhabited

namespace Roster

/-- One event. -/
def step (roster : Roster) : RosterEvent → Roster
  | .openChannel handler => (roster.openChannel handler).1
  | .addPool address config => (roster.addPool address config).1
  | .enroll pool channel => (roster.enroll pool channel).1
  | .evict pool channel => (roster.evict pool channel).1
  | .close channel => (roster.close channel).1
  | .listen channel hook => roster.listen channel hook
  | .setWarmUp pool warmUp => roster.changePool pool fun held => held.setWarmUp warmUp
  | .setCapacity pool capacity => roster.changePool pool fun held => { held with capacity }
  | .takeTurns pool count => (roster.takeTurns pool count).1
  | .advance delta => roster.advance delta

/-- Some events. -/
def run (roster : Roster) (events : List RosterEvent) : Roster :=
  events.foldl step roster

end Roster

end Uplink
