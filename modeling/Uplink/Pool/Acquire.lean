/-
Module: Uplink.Pool.Acquire
Purpose: Waiting for a member of a pool, and how such a wait ends.
Main exports: Pool.acquire, Waiter, Roster.acquire, Roster.enrollForWaiters
-/
import Uplink.Connector.Error
import Uplink.Pool.Roster

namespace Uplink

/-- The member whose turn it is, after a wait in which nobody was enrolled. -/
def Pool.acquire (pool : Pool) (waited : Span) : Pool × Except PoolError Nat :=
  match pool.tryNext with
  | (taken, some channel) => (taken, .ok channel)
  | (left, none) => (left, .error (.noAvailableConnection pool.address waited))

/-- Someone who waits at a pool: for a member, or only until there is one. -/
inductive Waiter where
  | forMember
  | forAvailability
deriving DecidableEq, Repr, Inhabited

/-- What a wait ends with: the member, if the waiter asked for one and there is one, or whether there is
one. -/
inductive Waiter.Result where
  | member (channel : Option Nat)
  | available (flag : Bool)
deriving DecidableEq, Repr, Inhabited

namespace Roster

/-- The member of a pool whose turn it is, after a wait in which nobody was enrolled. -/
def acquire (roster : Roster) (pool : Nat) (waited : Span) :
    Roster × Option (Except PoolError Nat) :=
  match roster.pools[pool]? with
  | none => (roster, none)
  | some held =>
      let acquired := held.acquire waited
      (roster.setPool pool acquired.1, some acquired.2)

/-- Let waiters look at a pool, one after another. -/
def serve (roster : Roster) (pool : Nat) : List Waiter → Roster × List Waiter.Result
  | [] => (roster, [])
  | .forMember :: rest =>
      let taken := roster.takeTurns pool 1
      let others := taken.1.serve pool rest
      (others.1, .member (taken.2.head?.join) :: others.2)
  | .forAvailability :: rest =>
      let others := roster.serve pool rest
      (others.1, .available (decide (0 < roster.sizeOf pool)) :: others.2)

/-- Enroll a channel in a pool that others wait at, and let them look. -/
def enrollForWaiters (roster : Roster) (pool channel : Nat) (waiters : List Waiter) :
    Roster × Bool × List Waiter.Result :=
  let enrolled := roster.enroll pool channel
  let served := enrolled.1.serve pool waiters
  (served.1, enrolled.2, served.2)

end Roster

end Uplink
