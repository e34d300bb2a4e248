/-
Module: Uplink.Proofs.Connector.Chores
Purpose: What cancelling and shutting down are made of, one piece of work after another, and what all of it
  leaves as it is.
Main exports: Connector.Chore, Connector.Chores, Connector.chores_cancelEach,
  Connector.chores_closeMembers, Connector.chores_shutDown, Connector.Chores.kept
-/
import Uplink.Connector.Run
import Uplink.Proofs.Fabric.Calm

namespace Uplink.Connector

variable {before after connector : Connector}

/-- A single piece of work of which cancelling and shutting down consist. -/
inductive Chore : Connector → Connector → Prop where
  | turn (connector : Connector) (connection : Nat) (enabled : Bool) :
      Chore connector (connector.setReconnect connection enabled)
  | close (connector : Connector) (channel : Nat) : Chore connector (connector.close channel)
  | log (connector : Connector) (line : LogLine) :
      Chore connector (connector.onFabric fun fabric => fabric.log line)
  | setRegistry (connector : Connector) (registry : ConnectionRegistry) :
      Chore connector { connector with registry }
  | stopTimer (connector : Connector) : Chore connector connector.stopTimer

/-- Any number of chores. -/
abbrev Chores : Connector → Connector → Prop :=
  Relation.ReflTransGen Chore

theorem Chores.foldl {Entry : Type} {change : Connector → Entry → Connector}
    (does : ∀ changed entry, Chore changed (change changed entry)) (entries : List Entry)
    (connector : Connector) : Chores connector (entries.foldl change connector) := by
  induction entries generalizing connector with
  | nil => exact .refl
  | cons entry rest ih => exact .head (does connector entry) (ih _)

theorem chores_cancelReconnect (connector : Connector) (address : Address) :
    Chores connector (connector.cancelReconnect address).1 := by
  simp only [cancelReconnect]
  split
  · exact .refl
  · rename_i registry connections _
    have turned := Chores.foldl (fun changed found => .turn changed found false) connections
      { connector with registry }
    exact (Relation.ReflTransGen.head (.setRegistry connector registry) turned).tail (.log _ _)

theorem chores_cancelEach (addresses : List Address) (connector : Connector) :
    Chores connector (connector.cancelEach addresses).1 := by
  induction addresses generalizing connector with
  | nil => exact .refl
  | cons address rest ih => exact (chores_cancelReconnect connector address).trans (ih _)

theorem chores_closeMembers (pools : List Nat) (connector : Connector) :
    Chores connector (connector.closeMembers pools).1 := by
  induction pools generalizing connector with
  | nil => exact .refl
  | cons pool rest ih =>
      exact (Chores.foldl (fun changed channel => .close changed channel) _ connector).trans (ih _)

/-- Only the first shutdown does anything. -/
theorem shutDown_of_shutDown (isShutDown : connector.isShutDown = true) :
    connector.shutDown = connector := by
  simp only [shutDown]
  rw [if_pos isShutDown]

/-- Everything of a shutdown but the mark that it happened. -/
theorem chores_shutDown (running : connector.isShutDown = false) :
    Chores { connector with isShutDown := true } connector.shutDown := by
  simp only [shutDown]
  rw [if_neg (by rw [running]; exact Bool.false_ne_true)]
  refine Relation.ReflTransGen.tail ?_ (.log _ _)
  refine Relation.ReflTransGen.tail ?_ (.stopTimer _)
  exact (chores_cancelEach _ _).trans (chores_closeMembers _ _)

/-- What chores leave as it is. -/
structure Kept (before after : Connector) : Prop where
  calm : before.fabric.Calm after.fabric
  config : after.config = before.config
  groups : after.groups = before.groups
  calls : after.calls = before.calls
  isShutDown : after.isShutDown = before.isShutDown

theorem Kept.refl (connector : Connector) : Kept connector connector :=
  ⟨.refl _, rfl, rfl, rfl, rfl⟩

theorem Kept.trans {last : Connector} (first : Kept before after) (second : Kept after last) :
    Kept before last :=
  ⟨first.calm.trans second.calm, second.config.trans first.config, second.groups.trans first.groups,
    second.calls.trans first.calls, second.isShutDown.trans first.isShutDown⟩

theorem Kept.onFabric {change : Fabric → Fabric} (calm : connector.fabric.Calm (change connector.fabric)) :
    Kept connector (connector.onFabric change) :=
  ⟨calm, rfl, rfl, rfl, rfl⟩

theorem Chore.kept (chore : Chore before after) : Kept before after := by
  cases chore with
  | turn connection enabled => exact .onFabric (.turnSwitch _ connection enabled)
  | close channel => exact .onFabric (.close _ channel)
  | log line => exact .onFabric (.log _ line)
  | setRegistry registry => exact ⟨.refl _, rfl, rfl, rfl, rfl⟩
  | stopTimer => exact .onFabric (.setTimer (.stop before.fabric.timer))

/-- Cancelling and shutting down begin and end no attempt, and all callers go on waiting. -/
theorem Chores.kept (chores : Chores before after) : Kept before after := by
  induction chores with
  | refl => exact .refl before
  | tail _ chore ih => exact ih.trans chore.kept

end Uplink.Connector
