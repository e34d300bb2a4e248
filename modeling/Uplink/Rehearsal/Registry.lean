/-
Module: Uplink.Rehearsal.Registry
Purpose: Connections under management whose switches only show how they are turned.
Main exports: RegistryStage, RegistryStep, RegistryStage.rehearse
-/
import Uplink.Connector.Basic
import Uplink.Rehearsal.Turn

namespace Uplink

/-- A connector that makes no attempts, and the connections that have a number. -/
structure RegistryStage where
  connector : Connector
  numbered : List Nat
deriving Repr

/-- A step on the registry. -/
inductive RegistryStep where
  | create (address : Address) (bound : Bool)
  | manage (number : Nat)
  | manageMany (address : Address) (count : Nat)
  | cancel (address : Address)
  | cancelAll
  | managed (address : Address)
  | describe
deriving DecidableEq, Repr, Inhabited

namespace RegistryStage

/-- Nothing under management. -/
def fresh : RegistryStage :=
  { connector := Connector.make ConnectorConfig.standard none, numbered := [] }

/-- Make a connection with the next number; a bound one shows under it how it is turned. -/
def create (stage : RegistryStage) (address : Address) (bound : Bool) : RegistryStage × Nat :=
  let number := stage.numbered.length
  let added := stage.connector.fabric.addConnection address
  let fabric := if bound then (added.1.bind added.2 (.recorder number)).1 else added.1
  ({ connector := { stage.connector with fabric }, numbered := stage.numbered ++ [added.2] }, number)

/-- Take a numbered connection under management. -/
def manage (stage : RegistryStage) (number : Nat) : RegistryStage :=
  match stage.numbered[number]? with
  | none => stage
  | some connection =>
      match stage.connector.fabric.connections[connection]? with
      | none => stage
      | some found => { stage with connector := stage.connector.manage found.address connection }

/-- Take a new connection without a number under management. -/
def manageNew (stage : RegistryStage) (address : Address) : RegistryStage :=
  let added := stage.connector.fabric.addConnection address
  let there : Connector := { stage.connector with fabric := added.1 }
  { stage with connector := there.manage address added.2 }

/-- Take a number of new connections under management; the length of the address's list is the answer. -/
def manageMany (stage : RegistryStage) (address : Address) : Nat → RegistryStage × Nat
  | 0 => (stage, (stage.connector.registry.connections address).length)
  | count + 1 => (stage.manageNew address).manageMany address count

/-- The numbers of the connections under management of an address. -/
def managed (stage : RegistryStage) (address : Address) : List (Option Nat) :=
  (stage.connector.registry.connections address).map fun connection =>
    stage.numbered.findIdx? (· == connection)

/-- Carry out a step. -/
def carryOut (stage : RegistryStage) : RegistryStep → RegistryStage × Reply
  | .create address bound =>
      let created := stage.create address bound
      (created.1, .number created.2)
  | .manage number => (stage.manage number, .nothing)
  | .manageMany address count =>
      let managed := stage.manageMany address count
      (managed.1, .number managed.2)
  | .cancel address =>
      let cancelled := stage.connector.cancelReconnect address
      ({ stage with connector := cancelled.1 }, .number cancelled.2)
  | .cancelAll =>
      let cancelled := stage.connector.cancelAllReconnect
      ({ stage with connector := cancelled.1 }, .number cancelled.2)
  | .managed address => (stage, .list ((stage.managed address).map .numberOrNothing))
  | .describe => (stage, .text stage.connector.registry.description)

/-- Take a step. -/
def rehearse (stage : RegistryStage) (step : RegistryStep) : RegistryStage × Turn :=
  let done := stage.carryOut step
  ({ done.1 with connector := done.1.connector.onFabric Fabric.clearJournal },
    .ofJournal done.2 done.1.connector.fabric.roster.journal)

end RegistryStage

end Uplink
