/-
Module: Uplink.Pool.Basic
Purpose: The pool of one address: its members, the turn of each, and the times that describe it.
Main exports: Pool, Pool.enroll, Pool.evict, Pool.tryNext, Pool.isWarm, Pool.lossDeadline
-/
import Uplink.Config.Connector
import Uplink.Transport.Address

namespace Uplink

open Text

/-!
Times inside a pool are nanoseconds since its creation in 64 bits.  The greatest word means that there is
no loss deadline, so every time that is stored stays below it.
-/

/-- The word that stands for "no deadline". -/
def Pool.noDeadline : UInt64 := UInt64.ofNat 0xFFFFFFFFFFFFFFFF

/-- A span in nanoseconds; one that does not fit becomes the greatest time. -/
def Pool.clampedNanos (nanos : Nat) : UInt64 :=
  if nanos < 0x10000000000000000 then UInt64.ofNat nanos else UInt64.ofNat 0xFFFFFFFFFFFFFFFE

/-- A pool.  Members are channel numbers, in the order in which they were enrolled; `created` is the time
of its creation. -/
structure Pool where
  address : Address
  created : Nat
  members : List Nat
  cursor : UInt64
  capacity : UInt64
  warmUpNanos : UInt64
  lossInterval : Span
  pollWindow : Span
  acquireTimeout : Option Span
  lastChangeNanos : UInt64
  lossDeadlineNanos : UInt64
deriving DecidableEq, Repr, Inhabited

namespace Pool

/-- An empty pool.  A wait lasts at least a millisecond. -/
def make (address : Address) (config : PoolConfig) (now : Nat) : Pool :=
  { address
    created := now
    members := []
    cursor := 0
    capacity := config.bound
    warmUpNanos := clampedNanos config.warmUp.totalNanos
    lossInterval := config.lossInterval
    pollWindow := config.pollWindow.longer (Span.ofMillis 1)
    acquireTimeout := config.acquireTimeout
    lastChangeNanos := 0
    lossDeadlineNanos := noDeadline }

/-- The number of members. -/
def size (pool : Pool) : Nat := pool.members.length

/-- Whether there is a member. -/
def isAvailable (pool : Pool) : Bool := !pool.members.isEmpty

/-- Whether there are fewer members than the capacity asks for. -/
def hasRoom (pool : Pool) : Bool := decide (pool.size < pool.capacity.toNat)

/-- The time since creation. -/
def elapsedNanos (pool : Pool) (now : Nat) : UInt64 :=
  clampedNanos (now - pool.created)

/-- Enroll a channel; the flag says whether it was not a member.  The loss deadline is cleared in either
case. -/
def enroll (pool : Pool) (channel now : Nat) : Pool × Bool :=
  let cleared := { pool with lossDeadlineNanos := noDeadline }
  if channel ∈ pool.members then (cleared, false)
  else
    ({ cleared with
        members := pool.members ++ [channel]
        lastChangeNanos := pool.elapsedNanos now },
      true)

/-- The deadline that follows a time by the loss interval, kept below the word for "no deadline". -/
def deadlineAfter (pool : Pool) (time : UInt64) : UInt64 :=
  UInt64.ofNat
    (min (time.toNat + (clampedNanos pool.lossInterval.totalNanos).toNat) 0xFFFFFFFFFFFFFFFE)

/-- Evict a channel; the flag says whether it was a member.  When the last member goes, the loss
deadline is set. -/
def evict (pool : Pool) (channel now : Nat) : Pool × Bool :=
  if channel ∈ pool.members then
    let members := pool.members.filter (· ≠ channel)
    let time := pool.elapsedNanos now
    ({ pool with
        members
        lastChangeNanos := time
        lossDeadlineNanos :=
          if members.isEmpty then pool.deadlineAfter time else pool.lossDeadlineNanos },
      true)
  else
    (pool, false)

/-- The member whose turn it is.  A single member is always the one; several take turns as the cursor
counts up, without its highest bit. -/
def tryNext (pool : Pool) : Pool × Option Nat :=
  match pool.members with
  | [] => (pool, none)
  | [only] => (pool, some only)
  | members =>
      ({ pool with cursor := pool.cursor + 1 },
        members[(pool.cursor.toNat % 0x8000000000000000) % members.length]?)

/-- Take a number of turns. -/
def turns : Nat → Pool → Pool × List (Option Nat)
  | 0, pool => (pool, [])
  | count + 1, pool =>
      let first := pool.tryNext
      let others := turns count first.1
      (others.1, first.2 :: others.2)

/-- The warm-up time. -/
def warmUp (pool : Pool) : Span := Span.ofNanos pool.warmUpNanos.toNat

/-- Set the warm-up time. -/
def setWarmUp (pool : Pool) (warmUp : Span) : Pool :=
  { pool with warmUpNanos := clampedNanos warmUp.totalNanos }

/-- Whether the members have not changed for longer than the warm-up time. -/
def isWarm (pool : Pool) (now : Nat) : Bool :=
  decide (pool.warmUpNanos.toNat < (pool.elapsedNanos now).toNat - pool.lastChangeNanos.toNat)

/-- When the members changed last. -/
def lastChange (pool : Pool) : Nat := pool.created + pool.lastChangeNanos.toNat

/-- When a pool that lost its last member counts as gone. -/
def lossDeadline (pool : Pool) : Option Nat :=
  if pool.isAvailable ∨ pool.lossDeadlineNanos = noDeadline then none
  else some (pool.created + pool.lossDeadlineNanos.toNat)

/-- The pool with its type's name around it. -/
def description (pool : Pool) : String :=
  "ConnectionPool \x7b address: " ++ pool.address.text ++ ", size: " ++ decimal pool.size
    ++ ", capacity: " ++ decimal pool.capacity.toNat ++ ", warm_up: " ++ pool.warmUp.text ++ " \x7d"

end Pool

end Uplink
