/-
Module: Uplink.Pool.Roster
Purpose: Channels and the pools they are members of, kept in agreement when channels close.
Main exports: Roster, Roster.enroll, Roster.evict, Roster.listen, Roster.close
-/
import Uplink.Journal
import Uplink.Latch.Basic
import Uplink.Pool.Basic

namespace Uplink

open Text

/-- A call that a close hook makes on a pool. -/
inductive PoolCall where
  | enroll (channel : Nat)
  | evict (channel : Nat)
deriving DecidableEq, Repr, Inhabited

/-- What runs when a channel has closed: the pool that held it lets go of it, an observer looks at a pool
and may enroll the closed channel once more, or any calls are made on a pool. -/
inductive CloseHook where
  | release (pool : Nat)
  | observe (label : String) (pool : Nat) (reenrolls : Bool)
  | calls (pool : Nat) (calls : List PoolCall)
deriving DecidableEq, Repr, Inhabited

/-- A channel: whether it is open, the latch of its closing, and the number of the watchdog that handles
its events. -/
structure Channel where
  isOpen : Bool
  closing : Latch CloseHook
  handler : Option Nat
deriving DecidableEq, Repr, Inhabited

/-- Channels, numbered from one in order of creation, pools, the time, and what was observed. -/
structure Roster where
  now : Span
  channels : List Channel
  pools : List Pool
  journal : Journal
deriving DecidableEq, Repr, Inhabited

namespace Roster

/-- No channels and no pools, at the start of time. -/
def fresh : Roster :=
  { now := Span.zero, channels := [], pools := [], journal := Journal.empty }

/-- Add an observation. -/
def record (roster : Roster) (event : Event) : Roster :=
  { roster with journal := roster.journal.record event }

/-- Add a log line. -/
def log (roster : Roster) (line : LogLine) : Roster :=
  { roster with journal := roster.journal.log line }

/-- Open a channel and get its number. -/
def openChannel (roster : Roster) (handler : Option Nat) : Roster × Nat :=
  let channel : Channel := { isOpen := true, closing := Latch.fresh, handler }
  ({ roster with channels := roster.channels ++ [channel] }, roster.channels.length + 1)

/-- Add an empty pool and get its number. -/
def addPool (roster : Roster) (address : Address) (config : PoolConfig) : Roster × Nat :=
  ({ roster with pools := roster.pools ++ [Pool.make address config roster.now.totalNanos] },
    roster.pools.length)

/-- The channel with a number. -/
def channel? (roster : Roster) (channel : Nat) : Option Channel :=
  if channel = 0 then none else roster.channels[channel - 1]?

/-- The closing of a channel; that of a channel that does not exist counts as done. -/
def closing (roster : Roster) (channel : Nat) : Latch CloseHook :=
  match roster.channel? channel with
  | some found => found.closing
  | none => .done

/-- Change a channel. -/
def changeChannel (roster : Roster) (channel : Nat) (change : Channel → Channel) : Roster :=
  if channel = 0 then roster
  else { roster with channels := roster.channels.modify (channel - 1) change }

/-- Put a pool into its place. -/
def setPool (roster : Roster) (pool : Nat) (changed : Pool) : Roster :=
  { roster with pools := roster.pools.set pool changed }

/-- Change the pool at a place. -/
def changePool (roster : Roster) (pool : Nat) (change : Pool → Pool) : Roster :=
  { roster with pools := roster.pools.modify pool change }

/-- The identity of a channel. -/
def channelId (channel : Nat) : ChannelId := { value := UInt64.ofNat channel }

/-- The number of members of a pool. -/
def sizeOf (roster : Roster) (pool : Nat) : Nat :=
  match roster.pools[pool]? with
  | some held => held.size
  | none => 0

/-- The log line of a change of membership. -/
def membershipLine (message : String) (address : Address) (channel size : Nat) : LogLine :=
  { level := .debug, target := "spark.connector.pool", message
    fields := [("address", address.text), ("channel", (channelId channel).text),
      ("size", decimal size)] }

/-- Evict a channel from a pool; the flag says whether it was a member. -/
def evict (roster : Roster) (pool channel : Nat) : Roster × Bool :=
  match roster.pools[pool]? with
  | none => (roster, false)
  | some held =>
      let evicted := held.evict channel roster.now.totalNanos
      if evicted.2 then
        ((roster.setPool pool evicted.1).log
          (membershipLine "channel removed" held.address channel evicted.1.size), true)
      else
        (roster, false)

/-- Enroll a channel in a pool; the flag says whether it was not a member.  A channel that has closed
before leaves again at once. -/
def enroll (roster : Roster) (pool channel : Nat) : Roster × Bool :=
  match roster.pools[pool]? with
  | none => (roster, false)
  | some held =>
      let enrolled := held.enroll channel roster.now.totalNanos
      let entered := roster.setPool pool enrolled.1
      if enrolled.2 then
        let registered := (roster.closing channel).listen (.release pool)
        let hooked := entered.changeChannel channel fun found =>
          { found with closing := registered.1 }
        let settled := if registered.2.isEmpty then hooked else (hooked.evict pool channel).1
        (settled.log
          (membershipLine "channel added" held.address channel (settled.sizeOf pool)), true)
      else
        (entered, false)

/-- A call on a pool. -/
def perform (roster : Roster) (pool : Nat) : PoolCall → Roster
  | .enroll channel => (roster.enroll pool channel).1
  | .evict channel => (roster.evict pool channel).1

/-- Run the hook of a channel that has closed. -/
def runHook (roster : Roster) (channel : Nat) : CloseHook → Roster
  | .release pool => (roster.evict pool channel).1
  | .observe label pool reenrolls =>
      let measured := roster.record (.measured label (roster.sizeOf pool))
      if reenrolls then
        let enrolled := measured.enroll pool channel
        enrolled.1.record (.reenrolled label enrolled.2)
      else
        measured
  | .calls pool calls => calls.foldl (fun changed call => changed.perform pool call) roster

/-- Register a close hook; on a channel that has closed it runs at once. -/
def listen (roster : Roster) (channel : Nat) (hook : CloseHook) : Roster :=
  let registered := (roster.closing channel).listen hook
  let hooked := roster.changeChannel channel fun found => { found with closing := registered.1 }
  registered.2.foldl (fun changed due => changed.runHook channel due) hooked

/-- Close a channel.  Its closing is completed first, which runs the hooks in order; then its handler is
taken off and handed out, to be told.  A closed channel stays as it is. -/
def close (roster : Roster) (channel : Nat) : Roster × Option Nat :=
  match roster.channel? channel with
  | none => (roster, none)
  | some found =>
      if found.isOpen then
        let completed := found.closing.complete
        let shut := roster.changeChannel channel fun held =>
          { held with isOpen := false, closing := completed.1 }
        let settled := completed.2.2.foldl (fun changed due => changed.runHook channel due) shut
        (settled.changeChannel channel fun held => { held with handler := none }, found.handler)
      else
        (roster, none)

/-- Whether a channel is open. -/
def isOpen (roster : Roster) (channel : Nat) : Bool :=
  match roster.channel? channel with
  | some found => found.isOpen
  | none => false

/-- Write a frame of a given length to a channel. -/
def write (roster : Roster) (channel length : Nat) : Roster × Except TransportError Unit :=
  if roster.isOpen channel then (roster.record (.wrote channel length), .ok ())
  else (roster, .error (.channelClosed (channelId channel)))

/-- The numbers of the open channels. -/
def openChannels (roster : Roster) : List Nat :=
  (List.range' 1 roster.channels.length).filter roster.isOpen

/-- Take turns in a pool. -/
def takeTurns (roster : Roster) (pool count : Nat) : Roster × List (Option Nat) :=
  match roster.pools[pool]? with
  | none => (roster, List.replicate count none)
  | some held =>
      let taken := Pool.turns count held
      (roster.setPool pool taken.1, taken.2)

/-- Let time pass. -/
def advance (roster : Roster) (delta : Span) : Roster :=
  { roster with now := roster.now.add delta }

/-- Take the journal out. -/
def clearJournal (roster : Roster) : Roster :=
  { roster with journal := Journal.empty }

end Roster

end Uplink
