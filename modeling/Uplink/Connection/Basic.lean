/-
Module: Uplink.Connection.Basic
Purpose: Connections as the application sees them: whether a channel is up, whether the first one ever
  came up, and the switch that turns reconnecting on and off.
Main exports: Connection, Connection.setComplete, Connection.addListener, Connection.bind
-/
import Uplink.Latch.Basic
import Uplink.Transport.Address

namespace Uplink

/-- A logical connection to an address.  Its channel may come and go; it becomes complete once, and its
switch is bound once. -/
structure Connection (Listener Switch : Type) where
  address : Address
  connected : Bool
  completion : Latch Listener
  switch : Option Switch
deriving Repr

namespace Connection

variable {Listener Switch : Type}

/-- The connection that is neither connected nor complete and has no switch. -/
def fresh (address : Address) : Connection Listener Switch :=
  { address, connected := false, completion := Latch.fresh, switch := none }

/-- Whether the connection is complete. -/
def isComplete (connection : Connection Listener Switch) : Bool :=
  connection.completion.isDone

/-- Note whether a channel is up. -/
def setConnected (connection : Connection Listener Switch) (connected : Bool) :
    Connection Listener Switch :=
  { connection with connected }

/-- Complete the connection.  The flag says whether it was incomplete; the listeners that waited are
handed out, to be run in order. -/
def setComplete (connection : Connection Listener Switch) :
    Connection Listener Switch × Bool × List Listener :=
  let completed := connection.completion.complete
  ({ connection with completion := completed.1 }, completed.2.1, completed.2.2)

/-- Register a listener for completion; on a complete connection it is handed back, to be run now. -/
def addListener (connection : Connection Listener Switch) (listener : Listener) :
    Connection Listener Switch × List Listener :=
  let registered := connection.completion.listen listener
  ({ connection with completion := registered.1 }, registered.2)

/-- Bind the switch.  Only the first binding counts; the flag says whether this was it. -/
def bind (connection : Connection Listener Switch) (switch : Switch) :
    Connection Listener Switch × Bool :=
  match connection.switch with
  | none => ({ connection with switch := some switch }, true)
  | some _ => (connection, false)

/-- The log line of a switch that is turned although none is bound. -/
def unboundLine (address : Address) : LogLine :=
  { level := .trace, target := "spark.connector.registry",
    message := "connection has no reconnect switch bound", fields := [("address", address.text)] }

/-- The connection with its type's name around it. -/
def description (connection : Connection Listener Switch) : String :=
  "Connection \x7b address: " ++ connection.address.text ++ ", connected: "
    ++ flagText connection.connected ++ ", complete: " ++ flagText connection.isComplete ++ " \x7d"

end Connection

end Uplink
