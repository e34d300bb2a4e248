/-
Module: Uplink.Fabric.Basic
Purpose: What watchdogs work in: channels and pools, a timer, connections, and attempts under way.
Main exports: Fabric, Attempt, Origin, ReconnectSwitch, Fabric.addWatchdog, Fabric.completeConnection
-/
import Uplink.Connection.Basic
import Uplink.Pool.Roster
import Uplink.Time.Timer
import Uplink.Watchdog.Basic

namespace Uplink

open Text

/-- What a connection's switch turns: a watchdog, or nothing but a record of the turn. -/
inductive ReconnectSwitch where
  | watchdog (number : Nat)
  | recorder (connection : Nat)
deriving DecidableEq, Repr, Inhabited

/-- Where an attempt comes from: the timer, or a caller who waits for its result. -/
inductive Origin where
  | retry
  | caller
deriving DecidableEq, Repr, Inhabited

/-- An attempt to connect that is under way: its watchdog, where it comes from, and the watchdog's
attempts when it began. -/
structure Attempt where
  watchdog : Nat
  origin : Origin
  attempts : UInt32
deriving DecidableEq, Repr, Inhabited

/-- How an attempt ends: with a channel, with a channel that closes before anyone else hears of it, or
with an error. -/
inductive Outcome where
  | established
  | flapped
  | failed (error : TransportError)
deriving DecidableEq, Repr, Inhabited

/-- Everything that watchdogs work in.  The timer's tasks are the numbers of the watchdogs that scheduled
them; a connection's completion listeners are the numbers that they report. -/
structure Fabric where
  roster : Roster
  timer : ManualTimer Nat
  watchdogs : List Watchdog
  connections : List (Connection Nat ReconnectSwitch)
  underWay : List Attempt
  connects : Nat
  gateOpen : Bool
deriving Repr

namespace Fabric

/-- Nothing there yet. -/
def fresh : Fabric :=
  { roster := Roster.fresh
    timer := ManualTimer.fresh
    watchdogs := []
    connections := []
    underWay := []
    connects := 0
    gateOpen := false }

instance : Inhabited Fabric := ⟨fresh⟩

/-- Add an observation. -/
def record (fabric : Fabric) (event : Event) : Fabric :=
  { fabric with roster := fabric.roster.record event }

/-- Add a log line. -/
def log (fabric : Fabric) (line : LogLine) : Fabric :=
  { fabric with roster := fabric.roster.log line }

/-- Take the journal out. -/
def clearJournal (fabric : Fabric) : Fabric :=
  { fabric with roster := fabric.roster.clearJournal }

/-- Add a watchdog and get its number. -/
def addWatchdog (fabric : Fabric) (watchdog : Watchdog) : Fabric × Nat :=
  ({ fabric with watchdogs := fabric.watchdogs ++ [watchdog] }, fabric.watchdogs.length)

/-- Change a watchdog. -/
def changeWatchdog (fabric : Fabric) (number : Nat) (change : Watchdog → Watchdog) : Fabric :=
  { fabric with watchdogs := fabric.watchdogs.modify number change }

/-- Add a fresh connection and get its number. -/
def addConnection (fabric : Fabric) (address : Address) : Fabric × Nat :=
  ({ fabric with connections := fabric.connections ++ [Connection.fresh address] },
    fabric.connections.length)

/-- Note whether the channel of a connection is up. -/
def setConnected (fabric : Fabric) (number : Nat) (connected : Bool) : Fabric :=
  { fabric with
    connections := fabric.connections.modify number fun found => found.setConnected connected }

/-- Whether the channel of a connection is up. -/
def isConnected (fabric : Fabric) (number : Nat) : Bool :=
  match fabric.connections[number]? with
  | some found => found.connected
  | none => false

/-- Let completion listeners of a connection report. -/
def reportCompletion (fabric : Fabric) (number : Nat) (listeners : List Nat) : Fabric :=
  listeners.foldl
    (fun reported listener => reported.record (.completed listener (reported.isConnected number)))
    fabric

/-- Complete a connection; its listeners report in order, once. -/
def completeConnection (fabric : Fabric) (number : Nat) : Fabric :=
  match fabric.connections[number]? with
  | none => fabric
  | some found =>
      let completed := found.setComplete
      ({ fabric with connections := fabric.connections.set number completed.1 }).reportCompletion number
        completed.2.2

/-- Register a completion listener; on a complete connection it reports at once. -/
def addCompletionListener (fabric : Fabric) (number listener : Nat) : Fabric :=
  match fabric.connections[number]? with
  | none => fabric
  | some found =>
      let registered := found.addListener listener
      ({ fabric with connections := fabric.connections.set number registered.1 }).reportCompletion number
        registered.2

/-- Bind the switch of a connection; the flag says whether it had none. -/
def bind (fabric : Fabric) (number : Nat) (switch : ReconnectSwitch) : Fabric × Bool :=
  match fabric.connections[number]? with
  | none => (fabric, false)
  | some found =>
      let bound := found.bind switch
      ({ fabric with connections := fabric.connections.set number bound.1 }, bound.2)

end Fabric

end Uplink
