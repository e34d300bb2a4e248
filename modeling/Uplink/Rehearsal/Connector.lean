/-
Module: Uplink.Rehearsal.Connector
Purpose: A connector at work where every attempt to connect ends at once, as a script says.
Main exports: ConnectorStage, ConnectorStep, ConnectorStage.connect, ConnectorStage.rehearse
-/
import Uplink.Connector.Basic
import Uplink.Rehearsal.Script
import Uplink.Rehearsal.Turn

namespace Uplink

/-- A connector, the script of the attempts to come, and the connections that were made, in the order in
which they are numbered. -/
structure ConnectorStage where
  connector : Connector
  script : Script
  numbered : List Nat
deriving Repr

/-- A step on a connector, its pools and its timer. -/
inductive ConnectorStep where
  | connect (address : Address)
  | connectAsync (address : Address)
  | manage (address : Address)
  | fire (index count : Nat)
  | close (channel : Nat)
  | read (channel : Nat) (frame : Frame)
  | exception (channel : Nat) (error : TransportError)
  | write (address : Address) (frame : Frame)
  | group (address : Address)
  | setCapacity (address : Address) (capacity : UInt64)
  | enroll (address : Address)
  | isAvailable (address : Address)
  | cancel (address : Address)
  | cancelAll
  | setReconnect (number : Nat) (enabled : Bool)
  | shutDown
  | stopTimer
  | advance (delta : Span)
  | managed (address : Address)
  | limits
  | describe
deriving Repr, Inhabited

namespace ConnectorStage

/-- Change the connector. -/
def onConnector (stage : ConnectorStage) (change : Connector → Connector) : ConnectorStage :=
  { stage with connector := change stage.connector }

/-- Change what the connector works in. -/
def onFabric (stage : ConnectorStage) (change : Fabric → Fabric) : ConnectorStage :=
  stage.onConnector fun connector => connector.onFabric change

/-- Let every worker go on until it is idle. -/
def settleWorkers (stage : ConnectorStage) : ConnectorStage :=
  stage.onFabric Fabric.settleWorkers

/-- Let the latest attempt go as the script says. -/
def play (stage : ConnectorStage) : ConnectorStage × Option (Except ConnectorError Nat) :=
  let turned := stage.script.next
  let place := stage.connector.fabric.underWay.length - 1
  let hooked := stage.connector.onFabric fun fabric => fabric.runHooks turned.2.hooks
  let settled := hooked.settle place (hooked.fabric.scriptedOutcome place turned.2.ending)
  ({ stage with connector := settled.1, script := turned.1 }, settled.2)

/-- Give a connection the next number, and let it report under it once it is complete. -/
def enroll (stage : ConnectorStage) (connection : Nat) : ConnectorStage × Nat :=
  let number := stage.numbered.length
  (({ stage with numbered := stage.numbered ++ [connection] } : ConnectorStage).onFabric fun fabric =>
      fabric.addCompletionListener connection number,
    number)

/-- Answer with a connection's number, or with the error. -/
def reply (stage : ConnectorStage) :
    Except ConnectorError Nat → ConnectorStage × Except ConnectorError Nat
  | .ok connection =>
      let enrolled := stage.enroll connection
      (enrolled.1, .ok enrolled.2)
  | .error error => (stage, .error error)

/-- Ask for a connection and wait for its first channel. -/
def connect (stage : ConnectorStage) (address : Address) :
    ConnectorStage × Except ConnectorError Nat :=
  match stage.connector.beginConnect address with
  | (connector, .error error) => ({ stage with connector }, .error error)
  | (connector, .ok _) =>
      match ({ stage with connector } : ConnectorStage).play with
      | (played, some result) => played.reply result
      | (played, none) => (played, .error .shutDown)

/-- Ask for a connection without waiting for its first channel. -/
def connectAsync (stage : ConnectorStage) (address : Address) :
    ConnectorStage × Except ConnectorError Nat :=
  let asked := stage.connector.connectAsync address
  ({ stage with connector := asked.1 } : ConnectorStage).reply asked.2

/-- Make a connection outside the connector, whose switch only shows how it is turned, and take it under
management. -/
def manage (stage : ConnectorStage) (address : Address) : ConnectorStage × Nat :=
  let number := stage.numbered.length
  let added := stage.connector.fabric.addConnection address
  let bound := added.1.bind added.2 (.recorder number)
  let managed := ({ stage.connector with fabric := bound.1 } : Connector).manage address added.2
  ({ stage with connector := managed } : ConnectorStage).enroll added.2

/-- Take the timer's entry at an index off, and let its task run to the end.  The answer says whether the
task ran, if there was an entry. -/
def fire (stage : ConnectorStage) (index : Nat) : ConnectorStage × Option Bool :=
  let fired := stage.connector.fire index
  let there : ConnectorStage := { stage with connector := fired.1 }
  (if fired.2.2 then there.play.1 else there, fired.2.1)

/-- Fire a number of times at one index.  Workers go on after each. -/
def fireEach (stage : ConnectorStage) (index : Nat) : Nat → ConnectorStage × List (Option Bool)
  | 0 => (stage, [])
  | count + 1 =>
      let first := stage.fire index
      let others := first.1.settleWorkers.fireEach index count
      (others.1, first.2 :: others.2)

/-- Use the pool of an address. -/
def group (stage : ConnectorStage) (address : Address) : ConnectorStage × Nat :=
  let grouped := stage.connector.group address
  ({ stage with connector := grouped.1 }, grouped.2)

/-- Change the pool of an address. -/
def changeGroup (stage : ConnectorStage) (address : Address) (change : Pool → Pool) :
    ConnectorStage :=
  let grouped := stage.group address
  grouped.1.onFabric fun fabric =>
    { fabric with roster := fabric.roster.changePool grouped.2 change }

/-- Open a channel that nobody handles, and enroll it in the pool of an address. -/
def enrollChannel (stage : ConnectorStage) (address : Address) : ConnectorStage × Bool :=
  let grouped := stage.group address
  let opened := grouped.1.connector.fabric.roster.openChannel none
  let enrolled := opened.1.enroll grouped.2 opened.2
  (grouped.1.onFabric fun fabric => { fabric with roster := enrolled.1 }, enrolled.2)

/-- Write a frame to the next channel of an address, if there is one. -/
def write (stage : ConnectorStage) (address : Address) (frame : Frame) : ConnectorStage × Reply :=
  let grouped := stage.group address
  match grouped.1.connector.fabric.roster.takeTurns grouped.2 1 with
  | (turned, [some channel]) =>
      let written := turned.write channel frame.encodedLength
      (grouped.1.onFabric fun fabric => { fabric with roster := written.1 },
        match written.2 with
        | .ok () => .number channel
        | .error error => .failed error)
  | (turned, _) => (grouped.1.onFabric fun fabric => { fabric with roster := turned }, .nothing)

/-- The numbers of the connections under management of an address. -/
def managed (stage : ConnectorStage) (address : Address) : List (Option Nat) :=
  (stage.connector.registry.connections address).map fun connection =>
    stage.numbered.findIdx? (· == connection)

/-- Let the handler of a channel hear of something, if the channel is there and has one. -/
def tellHandler (stage : ConnectorStage) (channel : Nat)
    (tell : Nat → Fabric → Fabric) : ConnectorStage × Reply :=
  match stage.connector.fabric.roster.channel? channel with
  | none => (stage, .missingNumber "channel" channel)
  | some found =>
      match found.handler with
      | some watchdog => (stage.onFabric (tell watchdog), .nothing)
      | none => (stage, .text "no handler")

/-- Carry out a step. -/
def carryOut (stage : ConnectorStage) : ConnectorStep → ConnectorStage × Reply
  | .connect address =>
      let connected := stage.connect address
      (connected.1, .ofConnect connected.2)
  | .connectAsync address =>
      let connected := stage.connectAsync address
      (connected.1, .ofConnect connected.2)
  | .manage address =>
      let managed := stage.manage address
      (managed.1, .number managed.2)
  | .fire index count =>
      let fired := stage.fireEach index count
      (fired.1, .list (fired.2.map .flagOrNothing))
  | .close channel =>
      if (stage.connector.fabric.roster.channel? channel).isSome then
        (stage.onConnector fun connector => connector.close channel, .nothing)
      else
        (stage, .missingNumber "channel" channel)
  | .read channel frame =>
      stage.tellHandler channel fun watchdog fabric => fabric.channelRead watchdog channel frame
  | .exception channel error =>
      stage.tellHandler channel fun watchdog fabric =>
        fabric.channelException watchdog channel error
  | .write address frame => stage.write address frame
  | .group address =>
      let grouped := stage.group address
      let roster := grouped.1.connector.fabric.roster
      (grouped.1,
        match roster.pools[grouped.2]? with
        | some held => .pool held roster.now.totalNanos
        | none => .nothing)
  | .setCapacity address capacity =>
      (stage.changeGroup address fun pool => { pool with capacity }, .nothing)
  | .enroll address =>
      let enrolled := stage.enrollChannel address
      (enrolled.1, .flag enrolled.2)
  | .isAvailable address => (stage, .flag (stage.connector.isAvailable address))
  | .cancel address =>
      let cancelled := stage.connector.cancelReconnect address
      ({ stage with connector := cancelled.1 }, .number cancelled.2)
  | .cancelAll =>
      let cancelled := stage.connector.cancelAllReconnect
      ({ stage with connector := cancelled.1 }, .number cancelled.2)
  | .setReconnect number enabled =>
      match stage.numbered[number]? with
      | some connection =>
          (stage.onConnector fun connector => connector.setReconnect connection enabled, .nothing)
      | none => (stage, .missingNumber "c" number)
  | .shutDown =>
      let connector := stage.connector.shutDown
      ({ stage with connector }, .flag connector.fabric.timer.stopped)
  | .stopTimer => (stage.onConnector Connector.stopTimer, .nothing)
  | .advance delta =>
      (stage.onFabric fun fabric => { fabric with roster := fabric.roster.advance delta },
        .nothing)
  | .managed address => (stage, .list ((stage.managed address).map .numberOrNothing))
  | .limits =>
      let config := stage.connector.config
      (stage, .list [.number config.pool.bound.toNat, .span config.watchdog.backoff.step])
  | .describe => (stage, .text stage.connector.description)

/-- Take a step; then every worker goes on until it is idle. -/
def rehearse (stage : ConnectorStage) (step : ConnectorStep) : ConnectorStage × Turn :=
  let done := stage.carryOut step
  let settled := done.1.settleWorkers
  (settled.onFabric Fabric.clearJournal,
    .ofJournal done.2 settled.connector.fabric.roster.journal)

end ConnectorStage

end Uplink
