/-
Module: Uplink.Connection.Registry
Purpose: Which connections belong to an address, so that reconnecting can be stopped for all of them.
Main exports: ConnectionRegistry, manage, connections, withdraw, addresses
-/
import Uplink.Connection.Basic

namespace Uplink

open Text

/-- The connections under management, by address, in the order in which they came.  A connection that
came twice is there twice.  Addresses without connections are not kept. -/
structure ConnectionRegistry where
  entries : List (Address × List Nat)
deriving DecidableEq, Repr, Inhabited

namespace ConnectionRegistry

/-- Nothing under management. -/
def empty : ConnectionRegistry := { entries := [] }

/-- Append a connection to the list of its address. -/
def append (address : Address) (connection : Nat) :
    List (Address × List Nat) → List (Address × List Nat)
  | [] => [(address, [connection])]
  | (held, connections) :: rest =>
      if held = address then (held, connections ++ [connection]) :: rest
      else (held, connections) :: append address connection rest

/-- Take a connection under management. -/
def manage (registry : ConnectionRegistry) (address : Address) (connection : Nat) :
    ConnectionRegistry :=
  { entries := append address connection registry.entries }

/-- The connections of an address. -/
def connections (registry : ConnectionRegistry) (address : Address) : List Nat :=
  (registry.entries.lookup address).getD []

/-- Take the whole list of an address out of management.  An address that is not there gives none. -/
def withdraw (registry : ConnectionRegistry) (address : Address) :
    ConnectionRegistry × Option (List Nat) :=
  ({ entries := registry.entries.filter fun entry => entry.1 ≠ address },
    registry.entries.lookup address)

/-- The addresses under management. -/
def addresses (registry : ConnectionRegistry) : List Address :=
  registry.entries.map Prod.fst

/-- The number of addresses. -/
def size (registry : ConnectionRegistry) : Nat :=
  registry.entries.length

/-- The log line of a cancelled address. -/
def cancelledLine (address : Address) (count : Nat) : LogLine :=
  { level := .debug, target := "spark.connector.registry", message := "reconnect cancelled",
    fields := [("address", address.text), ("count", decimal count)] }

/-- The registry with its type's name around it. -/
def description (registry : ConnectionRegistry) : String :=
  "ConnectionRegistry \x7b addresses: " ++ decimal registry.size ++ " \x7d"

end ConnectionRegistry

end Uplink
