/-
Module: Uplink.Connector.Run
Purpose: Whole runs of a connector: what may happen to it, one thing after another.
Main exports: ConnectorEvent, Connector.step, Connector.run
-/
import Uplink.Connector.Basic
import Uplink.Fabric.Run

namespace Uplink

/-- What may happen to a connector.  A caller's attempt is under way from `connect` until it is settled,
like an attempt of the timer. -/
inductive ConnectorEvent where
  | connect (address : Address)
  | connectAsync (address : Address)
  | settle (place : Nat) (outcome : Outcome)
  | fire (index : Nat)
  | close (channel : Nat)
  | setReconnect (connection : Nat) (enabled : Bool)
  | manage (address : Address) (connection : Nat)
  | cancelReconnect (address : Address)
  | cancelAllReconnect
  | shutDown
  | workerStep (watchdog worker : Nat)
  | addCompletionListener (connection listener : Nat)
deriving Repr, Inhabited

namespace Connector

/-- One event. -/
def step (connector : Connector) : ConnectorEvent → Connector
  | .connect address => (connector.beginConnect address).1
  | .connectAsync address => (connector.connectAsync address).1
  | .settle place outcome => (connector.settle place outcome).1
  | .fire index => (connector.fire index).1
  | .close channel => connector.close channel
  | .setReconnect connection enabled => connector.setReconnect connection enabled
  | .manage address connection => connector.manage address connection
  | .cancelReconnect address => (connector.cancelReconnect address).1
  | .cancelAllReconnect => connector.cancelAllReconnect.1
  | .shutDown => connector.shutDown
  | .workerStep watchdog worker =>
      connector.onFabric fun fabric => fabric.workerStep watchdog worker
  | .addCompletionListener connection listener =>
      connector.onFabric fun fabric => fabric.addCompletionListener connection listener

/-- Some events. -/
def run (connector : Connector) (events : List ConnectorEvent) : Connector :=
  events.foldl step connector

end Connector

end Uplink
