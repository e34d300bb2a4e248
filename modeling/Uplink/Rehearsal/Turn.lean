/-
Module: Uplink.Rehearsal.Turn
Purpose: What one step of a rehearsal gives: an answer, observations and log lines.
Main exports: Reply, Turn
-/
import Uplink.Connector.Error
import Uplink.Journal
import Uplink.Json.Value
import Uplink.Pool.Basic

namespace Uplink

/-- The answer to a step.  A step may name something that is not there, which is answered by what is
missing. -/
inductive Reply where
  | nothing
  | flag (value : Bool)
  | number (value : Nat)
  | text (value : String)
  | span (value : Span)
  | json (value : Json)
  | list (items : List Reply)
  | linked (channel : Nat) (isOpen : Bool)
  | exhausted (error : PoolError) (timed : Bool)
  | failed (error : TransportError)
  | refused (error : ConnectorError)
  | profile (address : Address) (pooled : Bool) (step : Span) (mostSteps : UInt32)
  | pool (held : Pool) (now : Nat)
  | missing (what : String)
deriving Repr, Inhabited

namespace Reply

/-- The word for a step that was carried out. -/
def accepted : Reply := text "ok"

/-- The word for a step that could not be carried out without waiting too long. -/
def wouldBlock : Reply := text "would_block"

/-- A number, or nothing. -/
def numberOrNothing : Option Nat → Reply
  | some value => number value
  | none => nothing

/-- A truth value, or nothing. -/
def flagOrNothing : Option Bool → Reply
  | some value => flag value
  | none => nothing

/-- Accepted, or the transport's error. -/
def ofAttempt : Except TransportError Unit → Reply
  | .ok () => accepted
  | .error error => failed error

/-- The number of a connection, or the connector's error. -/
def ofConnect : Except ConnectorError Nat → Reply
  | .ok value => number value
  | .error error => refused error

/-- A thing of some kind that is named by a number and is not there. -/
def missingNumber (kind : String) (value : Nat) : Reply :=
  missing ("no " ++ kind ++ " " ++ Text.decimal value)

end Reply

/-- A step's answer, what was observed meanwhile, and what was logged. -/
structure Turn where
  reply : Reply
  events : List String
  logs : List LogLine
deriving Repr, Inhabited

/-- An answer without observations. -/
def Turn.quiet (reply : Reply) : Turn :=
  { reply, events := [], logs := [] }

/-- An answer and everything that a journal holds. -/
def Turn.ofJournal (reply : Reply) (journal : Journal) : Turn :=
  { reply, events := journal.events.map Event.text, logs := journal.logs }

end Uplink
