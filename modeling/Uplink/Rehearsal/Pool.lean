/-
Module: Uplink.Rehearsal.Pool
Purpose: Steps on one pool and on the channels that may be its members.
Main exports: PoolStep, Roster.rehearse, longestWait
-/
import Uplink.Pool.Acquire
import Uplink.Rehearsal.Turn

namespace Uplink

/-- A step on a pool and its channels. -/
inductive PoolStep where
  | openChannels (count : Nat)
  | enroll (channel : Nat)
  | evict (channel : Nat)
  | close (channel : Nat)
  | write (channel length : Nat)
  | observe (channel : Nat) (label : String) (reenrolls : Bool)
  | tryNext (count : Nat)
  | next
  | nextWithin (wait : Span)
  | wait (wait : Span)
  | serve (channel : Nat) (waiters : List Waiter)
  | setCapacity (capacity : UInt64)
  | setWarmUp (warmUp : Span)
  | advance (delta : Span)
  | describe
deriving DecidableEq, Repr, Inhabited

/-- How long a step may wait for a member of an empty pool. -/
def longestWait : Span := Span.ofMillis 50

/-- The reply for what a waiter got. -/
def Waiter.Result.reply : Waiter.Result → Reply
  | .member channel => .numberOrNothing channel
  | .available flag => .flag flag

namespace Roster

/-- Open a number of channels that nobody handles. -/
def openChannelsFor : Nat → Roster → Roster
  | 0, roster => roster
  | count + 1, roster => openChannelsFor count (roster.openChannel none).1

/-- Whether a step would wait too long: the pool is empty, and the wait is long or has no end. -/
def wouldBlock (roster : Roster) (pool : Nat) (wait : Option Span) : Bool :=
  roster.sizeOf pool == 0
    && match wait with
      | some span => decide (longestWait.totalNanos < span.totalNanos)
      | none => true

/-- Wait for a member.  Who gave a time of their own also learns that it has passed. -/
def acquireReply (roster : Roster) (pool : Nat) (wait : Option Span) (timed : Bool) :
    Roster × Reply :=
  if roster.wouldBlock pool wait then (roster, .wouldBlock)
  else
    match roster.acquire pool (wait.getD Span.zero) with
    | (after, some (.ok channel)) => (after, .number channel)
    | (after, some (.error error)) => (after, .exhausted error timed)
    | (after, none) => (after, .nothing)

/-- Carry out a step on a pool. -/
def carryOut (roster : Roster) (pool : Nat) : PoolStep → Roster × Reply
  | .openChannels count => (openChannelsFor count roster, .nothing)
  | .enroll channel =>
      let enrolled := roster.enroll pool channel
      (enrolled.1, .flag enrolled.2)
  | .evict channel =>
      let evicted := roster.evict pool channel
      (evicted.1, .flag evicted.2)
  | .close channel => ((roster.close channel).1, .nothing)
  | .write channel length =>
      let written := roster.write channel length
      (written.1, .ofAttempt written.2)
  | .observe channel label reenrolls =>
      (roster.listen channel (.observe label pool reenrolls), .nothing)
  | .tryNext count =>
      let taken := roster.takeTurns pool count
      (taken.1, .list (taken.2.map .numberOrNothing))
  | .next =>
      roster.acquireReply pool ((roster.pools[pool]?).bind Pool.acquireTimeout) false
  | .nextWithin wait => roster.acquireReply pool (some wait) true
  | .wait wait =>
      (roster,
        if roster.wouldBlock pool (some wait) then .wouldBlock
        else .flag (decide (0 < roster.sizeOf pool)))
  | .serve channel waiters =>
      let served := roster.enrollForWaiters pool channel waiters
      (served.1, .list [.flag served.2.1, .list (served.2.2.map Waiter.Result.reply)])
  | .setCapacity capacity =>
      (roster.changePool pool fun held => { held with capacity }, .nothing)
  | .setWarmUp warmUp => (roster.changePool pool fun held => held.setWarmUp warmUp, .nothing)
  | .advance delta => (roster.advance delta, .nothing)
  | .describe =>
      (roster,
        match roster.pools[pool]? with
        | some held => .text held.description
        | none => .nothing)

/-- Take a step on the first pool. -/
def rehearse (roster : Roster) (step : PoolStep) : Roster × Turn :=
  let done := roster.carryOut 0 step
  (done.1.clearJournal, .ofJournal done.2 done.1.journal)

end Roster

end Uplink
