/-
Module: Uplink.Watchdog.Basic
Purpose: Watchdogs: who watches over the link of a connection, and who is told what became of an attempt.
Main exports: Listener, Watchdog, Watchdog.make, Watchdog.dismiss
-/
import Uplink.Log
import Uplink.Transport.Address
import Uplink.Watchdog.Backoff
import Uplink.Watchdog.Notifier

namespace Uplink

open Text

/-- How a listener ends. -/
inductive ListenerOutcome where
  | accepted
  | rejected (reason : String)
  | panicked
deriving DecidableEq, Repr, Inhabited

/-- A call that a listener makes on the watchdog it is told about.  A listener that it enlists is an observer
with calls of its own. -/
inductive ListenerCall where
  | stop
  | start
  | enlist (label : String) (gated : Bool) (calls : List ListenerCall) (outcome : ListenerOutcome)
  | dismiss (label : String)
  | schedule (delay : Span)
deriving Repr, Inhabited

/-- A listener that shows that it was told, makes some calls, and ends in some way.  A gated one waits
for the gate before its calls, if it is told by a worker. -/
structure Observer where
  label : String
  gated : Bool
  calls : List ListenerCall
  outcome : ListenerOutcome
deriving Repr, Inhabited

/-- A listener: one that completes a connection on success, or an observer. -/
inductive Listener where
  | completion (connection : Nat)
  | observer (observer : Observer)
deriving Repr, Inhabited

/-- Whether a listener is the observer with a label. -/
def Listener.isLabelled (label : String) : Listener → Bool
  | completion _ => false
  | observer found => found.label == label

/-- News of a success on its way to the listeners: the attempts before it, and, once a worker holds it at
the gate, the observer that waits there and the listeners behind it. -/
structure SuccessNews where
  attempts : UInt32
  held : Option (Observer × List Listener)
deriving Repr, Inhabited

/-- Who is told about a channel after its watchdog: nobody, a recorder, or the tracker of a connection
with the application's recorder behind it. -/
inductive NextHandler where
  | nobody
  | recorder (name : String)
  | tracker (connection : Nat) (application : Option String)
deriving DecidableEq, Repr, Inhabited

/-- A watchdog.  It watches over links to an address, which may share a pool; it is started or stopped,
counts the attempts since a channel was last active, and remembers its latest timer handle. -/
structure Watchdog where
  address : Address
  pool : Option Nat
  backoff : Backoff
  next : NextHandler
  started : Bool
  attempts : UInt32
  listeners : List Listener
  pending : Option Nat
  notifier : Notifier SuccessNews
deriving Repr, Inhabited

namespace Watchdog

/-- A started watchdog without listeners. -/
def make (address : Address) (pool : Option Nat) (backoff : Backoff) (next : NextHandler)
    (notifyCapacity : Nat) : Watchdog :=
  { address, pool, backoff, next
    started := true
    attempts := 0
    listeners := []
    pending := none
    notifier := Notifier.make notifyCapacity }

/-- The notification capacity of a watchdog that is not given one. -/
def defaultNotifyCapacity : Nat := 1024

/-- Whether a label is among the listeners. -/
def hasListener (watchdog : Watchdog) (label : String) : Bool :=
  watchdog.listeners.any (Listener.isLabelled label)

/-- Remove every listener with a label; the flag says whether there was one. -/
def dismiss (watchdog : Watchdog) (label : String) : Watchdog × Bool :=
  ({ watchdog with
      listeners := watchdog.listeners.filter fun found => !found.isLabelled label },
    watchdog.hasListener label)

/-- The number of attempts that the next one counts as; it does not pass the greatest word. -/
def nextAttempts (watchdog : Watchdog) : UInt32 :=
  UInt32.ofNat (min (watchdog.attempts.toNat + 1) 0xFFFFFFFF)

/-- A log line of a watchdog: its address comes before the other fields. -/
def line (watchdog : Watchdog) (level : LogLevel) (message : String)
    (fields : List (String × String)) : LogLine :=
  { level, target := "spark.connector.watchdog", message
    fields := ("address", watchdog.address.text) :: fields }

/-- The watchdog with its type's name around it. -/
def description (watchdog : Watchdog) : String :=
  "ReconnectWatchdog \x7b address: " ++ watchdog.address.text ++ ", started: "
    ++ flagText watchdog.started ++ ", attempts: " ++ decimal watchdog.attempts.toNat
    ++ ", backoff: " ++ watchdog.backoff.description ++ " \x7d"

end Watchdog

end Uplink
