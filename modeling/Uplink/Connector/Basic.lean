/-
Module: Uplink.Connector.Basic
Purpose: The connector: it makes connections, watches over each with a watchdog, and pools the channels of
  an address.
Main exports: Connector, Connector.connectAsync, Connector.beginConnect, Connector.settle,
  Connector.cancelReconnect, Connector.shutDown
-/
import Uplink.Connection.Registry
import Uplink.Connector.Error
import Uplink.Fabric.Link

namespace Uplink

open Text

/-- A caller who waits for the first channel of a connection. -/
structure PendingConnect where
  address : Address
  connection : Nat
  watchdog : Nat
deriving DecidableEq, Repr, Inhabited

/-- A connector.  `groups` holds the number of the pool of each address that was used, `registry` the
connections whose retries can be cancelled, and `calls` the callers who wait. -/
structure Connector where
  fabric : Fabric
  config : ConnectorConfig
  application : Option String
  groups : List (Address × Nat)
  registry : ConnectionRegistry
  calls : List PendingConnect
  isShutDown : Bool
deriving Repr

namespace Connector

/-- A connector that was not used yet.  Channels are handled by the application's recorder, if there is
one. -/
def make (config : ConnectorConfig) (application : Option String) : Connector :=
  { fabric := Fabric.fresh
    config
    application
    groups := []
    registry := ConnectionRegistry.empty
    calls := []
    isShutDown := false }

/-- Change what the connector works in. -/
def onFabric (connector : Connector) (change : Fabric → Fabric) : Connector :=
  { connector with fabric := change connector.fabric }

/-- The pool of an address, if the address was used. -/
def group? (connector : Connector) (address : Address) : Option Nat :=
  connector.groups.lookup address

/-- The pool of an address.  It is made when the address is used for the first time. -/
def group (connector : Connector) (address : Address) : Connector × Nat :=
  match connector.group? address with
  | some pool => (connector, pool)
  | none =>
      let added := connector.fabric.roster.addPool address connector.config.pool
      let fabric : Fabric := { connector.fabric with roster := added.1 }
      ({ connector with fabric, groups := connector.groups ++ [(address, added.2)] }, added.2)

/-- Whether the pool of an address has a member. -/
def isAvailable (connector : Connector) (address : Address) : Bool :=
  match (connector.group? address).bind fun pool => connector.fabric.roster.pools[pool]? with
  | some pool => pool.isAvailable
  | none => false

/-- Take a connection under management. -/
def manage (connector : Connector) (address : Address) (connection : Nat) : Connector :=
  { connector with registry := connector.registry.manage address connection }

/-- Set up a connection and its watchdog.  The first success that the watchdog's listeners hear of
completes the connection, and the connection's switch starts and stops the watchdog. -/
def prepare (connector : Connector) (address : Address) :
    Except ConnectorError (Connector × PendingConnect) :=
  if connector.isShutDown then .error .shutDown
  else
    let grouped := connector.group address
    let connected := grouped.1.fabric.addConnection address
    let tracker := NextHandler.tracker connected.2 connector.application
    let bare := Watchdog.make address (some grouped.2) connector.config.watchdog.backoff tracker
      connector.config.watchdog.notifyQueueCapacity.toNat
    let watchdog := { bare with listeners := [.completion connected.2] }
    let watched := connected.1.addWatchdog watchdog
    let bound := watched.1.bind connected.2 (.watchdog watched.2)
    .ok
      ({ grouped.1 with fabric := bound.1 },
        { address, connection := connected.2, watchdog := watched.2 })

/-- Ask for a connection without waiting for its first channel.  The connection is under management from
here on. -/
def connectAsync (connector : Connector) (address : Address) :
    Connector × Except ConnectorError Nat :=
  match connector.prepare address with
  | .error error => (connector, .error error)
  | .ok (prepared, call) =>
      match prepared.fabric.schedule call.watchdog Span.zero with
      | (fabric, .ok ()) =>
          ({ prepared with fabric }.manage address call.connection, .ok call.connection)
      | (fabric, .error error) =>
          ({ prepared with fabric := (fabric.stop call.watchdog).1 },
            .error (.connectFailed address error))

/-- A caller asks for a connection and waits for its first channel.  The attempt is under way from here
on. -/
def beginConnect (connector : Connector) (address : Address) : Connector × Except ConnectorError Nat :=
  match connector.prepare address with
  | .error error => (connector, .error error)
  | .ok (prepared, call) =>
      ({ prepared with
          fabric := prepared.fabric.beginCall call.watchdog
          calls := prepared.calls ++ [call] },
        .ok call.connection)

/-- The log line of a caller's success. -/
def connectedLine (address : Address) (channel : Nat) : LogLine :=
  { level := .debug, target := "spark.connector", message := "connected"
    fields := [("address", address.text), ("channel", (Roster.channelId channel).text)] }

/-- Answer a caller.  On success the connection is complete and under management; on failure its watchdog
is stopped, and nobody will hear of the connection again. -/
def answer (connector : Connector) (call : PendingConnect) :
    Except TransportError Nat → Connector × Except ConnectorError Nat
  | .ok channel =>
      let completed := connector.onFabric fun fabric =>
        (fabric.log (connectedLine call.address channel)).completeConnection call.connection
      (completed.manage call.address call.connection, .ok call.connection)
  | .error error =>
      (connector.onFabric fun fabric => (fabric.stop call.watchdog).1,
        .error (.connectFailed call.address error))

/-- End the attempt at a place among those under way.  If a caller waits for it, the answer to the caller
is handed out. -/
def settle (connector : Connector) (place : Nat) (outcome : Outcome) :
    Connector × Option (Except ConnectorError Nat) :=
  match connector.fabric.underWay[place]? with
  | none => (connector, none)
  | some attempt =>
      let settled := connector.fabric.settle place outcome
      let ended : Connector := { connector with fabric := settled.1 }
      match attempt.origin, settled.2,
          connector.calls.find? fun call => call.watchdog == attempt.watchdog with
      | .caller, some result, some call =>
          let left : Connector :=
            { ended with calls := ended.calls.filter fun waiting => waiting.watchdog != call.watchdog }
          let answered := left.answer call result
          (answered.1, some answered.2)
      | _, _, _ => (ended, none)

/-- Take the timer's entry at an index off.  The outer option says whether there is one, the flag whether
its task ran; an attempt that begins is the last one under way. -/
def fire (connector : Connector) (index : Nat) : Connector × Option Bool × Bool :=
  match connector.fabric.release index with
  | (fabric, none) => ({ connector with fabric }, none, false)
  | (fabric, some none) => ({ connector with fabric }, some false, false)
  | (fabric, some (some watchdog)) =>
      let begun := fabric.beginRetry watchdog
      ({ connector with fabric := begun.1 }, some true, begun.2)

/-- Close a channel. -/
def close (connector : Connector) (channel : Nat) : Connector :=
  connector.onFabric fun fabric => fabric.close channel

/-- Turn reconnecting of a connection on or off. -/
def setReconnect (connector : Connector) (connection : Nat) (enabled : Bool) : Connector :=
  connector.onFabric fun fabric => fabric.turnSwitch connection enabled

/-- Stop the retries of an address.  Its connections leave management; their number is handed out. -/
def cancelReconnect (connector : Connector) (address : Address) : Connector × Nat :=
  match connector.registry.withdraw address with
  | (_, none) => (connector, 0)
  | (registry, some connections) =>
      let left : Connector := { connector with registry }
      let turned := connections.foldl (fun changed found => changed.setReconnect found false) left
      (turned.onFabric fun fabric =>
          fabric.log (ConnectionRegistry.cancelledLine address connections.length),
        connections.length)

/-- Stop the retries of some addresses, and count the connections. -/
def cancelEach (connector : Connector) : List Address → Connector × Nat
  | [] => (connector, 0)
  | address :: rest =>
      let first := connector.cancelReconnect address
      let others := first.1.cancelEach rest
      (others.1, first.2 + others.2)

/-- Stop all retries. -/
def cancelAllReconnect (connector : Connector) : Connector × Nat :=
  connector.cancelEach connector.registry.addresses

/-- The members of a pool. -/
def members (connector : Connector) (pool : Nat) : List Nat :=
  match connector.fabric.roster.pools[pool]? with
  | some held => held.members
  | none => []

/-- Close the members of some pools, and count them. -/
def closeMembers (connector : Connector) : List Nat → Connector × Nat
  | [] => (connector, 0)
  | pool :: rest =>
      let members := connector.members pool
      let closed := members.foldl close connector
      let others := closed.closeMembers rest
      (others.1, members.length + others.2)

/-- The log line of a shutdown. -/
def shutDownLine (cancelled closed : Nat) : LogLine :=
  { level := .info, target := "spark.connector", message := "connector shut down"
    fields := [("cancelled", decimal cancelled), ("closed", decimal closed)] }

/-- Stop the timer. -/
def stopTimer (connector : Connector) : Connector :=
  connector.onFabric fun fabric => { fabric with timer := fabric.timer.stop }

/-- Shut the connector down, once: stop all retries, close every pooled channel, and stop the timer. -/
def shutDown (connector : Connector) : Connector :=
  if connector.isShutDown then connector
  else
    let marked : Connector := { connector with isShutDown := true }
    let cancelled := marked.cancelAllReconnect
    let closed := cancelled.1.closeMembers (cancelled.1.groups.map Prod.snd)
    closed.1.stopTimer.onFabric fun fabric => fabric.log (shutDownLine cancelled.2 closed.2)

/-- The connector with its type's name around it. -/
def description (connector : Connector) : String :=
  "Connector \x7b groups: " ++ decimal connector.groups.length ++ ", registry: "
    ++ connector.registry.description ++ " \x7d"

end Connector

end Uplink
