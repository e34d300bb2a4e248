/-
Module: Uplink.Proofs.Connector.ShutDown
Purpose: A connector that was shut down never begins an attempt again.
Main exports: Connector.Closed, Connector.Closed.step, Connector.closed_run,
  Connector.shutDown_ends_attempts
-/
import Uplink.Proofs.Connector.Chores
import Uplink.Proofs.Connector.Outline

namespace Uplink.Connector

variable {connector : Connector}

/-! ### The mark of a shutdown -/

theorem isShutDown_prepare {address : Address} {prepared : Connector} {call : PendingConnect}
    (isPrepared : connector.prepare address = .ok (prepared, call)) :
    prepared.isShutDown = connector.isShutDown := by
  simp only [prepare] at isPrepared
  split at isPrepared
  · cases isPrepared
  · injection isPrepared with isPair
    injection isPair with isConnector
    rw [← isConnector]
    exact (sameOffice_group connector address).isShutDown

theorem isShutDown_answer (connector : Connector) (call : PendingConnect)
    (result : Except TransportError Nat) :
    (connector.answer call result).1.isShutDown = connector.isShutDown := by
  cases result <;> rfl

theorem isShutDown_settle (connector : Connector) (place : Nat) (outcome : Outcome) :
    (connector.settle place outcome).1.isShutDown = connector.isShutDown := by
  rcases settle_cases connector place outcome with ⟨-, same⟩ | ⟨attempt, -, ended | ⟨call, result, -, ended⟩⟩
  · rw [same]
  · rw [ended]
  · rw [ended, isShutDown_answer]
    rfl

theorem isShutDown_fire (connector : Connector) (index : Nat) :
    (connector.fire index).1.isShutDown = connector.isShutDown := by
  simp only [fire]
  split <;> rfl

/-- Only a shutdown marks a connector as shut down. -/
theorem isShutDown_step (connector : Connector) {event : ConnectorEvent} (other : event ≠ .shutDown) :
    (connector.step event).isShutDown = connector.isShutDown := by
  cases event with
  | connect address =>
      simp only [step, beginConnect]
      split
      · rfl
      · rename_i prepared call isPrepared
        have same := isShutDown_prepare isPrepared
        exact same
  | connectAsync address =>
      simp only [step, connectAsync]
      split
      · rfl
      · rename_i prepared call isPrepared
        have same := isShutDown_prepare isPrepared
        split <;> exact same
  | settle place outcome => exact isShutDown_settle connector place outcome
  | fire index => exact isShutDown_fire connector index
  | cancelReconnect address => exact (chores_cancelReconnect connector address).kept.isShutDown
  | cancelAllReconnect => exact (chores_cancelEach _ connector).kept.isShutDown
  | shutDown => exact absurd rfl other
  | _ => rfl

/-! ### After a shutdown -/

theorem calm_answer (connector : Connector) (call : PendingConnect) (result : Except TransportError Nat) :
    connector.fabric.Calm (connector.answer call result).1.fabric := by
  cases result with
  | ok channel => exact (Fabric.Calm.log _ _).trans (.completeConnection _ call.connection)
  | error error => exact .stop connector.fabric call.watchdog

theorem idle_settle (connector : Connector) (place : Nat) (outcome : Outcome) :
    connector.fabric.Idle (connector.settle place outcome).1.fabric := by
  have settled := Fabric.Idle.settle connector.fabric place outcome
  rcases settle_cases connector place outcome with ⟨-, same⟩ | ⟨attempt, -, ended | ⟨call, result, -, ended⟩⟩
  · rw [same]
    exact .refl _
  · rw [ended]
    exact settled
  · rw [ended]
    exact settled.trans (calm_answer (connector.relieve _ call) call result).toIdle

/-- A connector that was shut down: its timer has stopped and holds nothing. -/
structure Closed (connector : Connector) : Prop where
  isShutDown : connector.isShutDown = true
  silent : connector.fabric.timer.Silent

/-- Whatever happens to a connector that was shut down, no attempt begins. -/
theorem Closed.idle_step (closed : connector.Closed) (event : ConnectorEvent) :
    connector.fabric.Idle (connector.step event).fabric := by
  cases event with
  | connect address =>
      simp only [step, beginConnect_of_shutDown closed.isShutDown]
      exact .refl _
  | connectAsync address =>
      simp only [step, connectAsync_of_shutDown closed.isShutDown]
      exact .refl _
  | settle place outcome => exact idle_settle connector place outcome
  | fire index =>
      simp only [step, fire, Fabric.release, closed.silent.release]
      exact .refl _
  | close channel => exact (Fabric.Calm.close _ channel).toIdle
  | setReconnect connection enabled => exact (Fabric.Calm.turnSwitch _ connection enabled).toIdle
  | manage address connection => exact .refl _
  | cancelReconnect address => exact (chores_cancelReconnect connector address).kept.calm.toIdle
  | cancelAllReconnect => exact (chores_cancelEach _ connector).kept.calm.toIdle
  | shutDown =>
      simp only [step, shutDown_of_shutDown closed.isShutDown]
      exact .refl _
  | workerStep watchdog worker => exact (Fabric.Calm.workerStep _ watchdog worker).toIdle
  | addCompletionListener connection listener =>
      exact (Fabric.Calm.addCompletionListener _ connection listener).toIdle

theorem Closed.step (closed : connector.Closed) (event : ConnectorEvent) :
    (connector.step event).Closed := by
  refine ⟨?_, (closed.idle_step event).moves.silent closed.silent⟩
  by_cases isSecond : event = .shutDown
  · rw [isSecond, Connector.step, shutDown_of_shutDown closed.isShutDown]
    exact closed.isShutDown
  · exact (isShutDown_step connector isSecond).trans closed.isShutDown

theorem Closed.run (closed : connector.Closed) (events : List ConnectorEvent) :
    (connector.run events).Closed ∧ connector.fabric.Idle (connector.run events).fabric := by
  induction events generalizing connector with
  | nil => exact ⟨closed, .refl _⟩
  | cons event rest ih =>
      obtain ⟨stays, idle⟩ := ih (closed.step event)
      exact ⟨stays, (closed.idle_step event).trans idle⟩

/-- The last chores of a shutdown stop the timer. -/
theorem closed_shutDown (running : connector.isShutDown = false) : connector.shutDown.Closed := by
  refine ⟨(chores_shutDown running).kept.isShutDown, ?_⟩
  simp only [shutDown]
  rw [if_neg (by rw [running]; exact Bool.false_ne_true)]
  exact ManualTimer.silent_stop _

theorem closed_step_of_running (running : connector.isShutDown = false) (event : ConnectorEvent)
    (isMarked : (connector.step event).isShutDown = true) : (connector.step event).Closed := by
  by_cases isShutDown : event = .shutDown
  · rw [isShutDown]
    exact closed_shutDown running
  · rw [isShutDown_step connector isShutDown, running] at isMarked
    cases isMarked

/-- In every run, the mark of a shutdown means that the timer is silent. -/
theorem closed_run (events : List ConnectorEvent) (sound : connector.isShutDown = true → connector.Closed)
    (isMarked : (connector.run events).isShutDown = true) : (connector.run events).Closed := by
  induction events generalizing connector with
  | nil => exact sound isMarked
  | cons event rest ih =>
      refine ih (fun marked => ?_) isMarked
      cases running : connector.isShutDown with
      | true => exact (sound running).step event
      | false => exact closed_step_of_running running event marked

/-- Once a connector was shut down, no attempt to connect begins for any address, whatever was under way or
pending and whatever happens afterwards.  Everyone who asks for a connection is refused, and nothing else
comes of it. -/
theorem shutDown_ends_attempts (config : ConnectorConfig) (application : Option String)
    (events later : List ConnectorEvent) :
    let down := ((make config application).run events).shutDown
    let after := down.run later
    after.fabric.connects = down.fabric.connects
      ∧ after.fabric.roster.dials = down.fabric.roster.dials
      ∧ ∀ address, after.beginConnect address = (after, .error .shutDown)
          ∧ after.connectAsync address = (after, .error .shutDown) := by
  intro down after
  have closed : down.Closed := by
    cases running : ((make config application).run events).isShutDown with
    | true =>
        have already := closed_run events (fun marked => absurd marked Bool.false_ne_true) running
        rw [show down = _ from shutDown_of_shutDown running]
        exact already
    | false => exact closed_shutDown running
  obtain ⟨stays, idle⟩ := closed.run later
  exact ⟨idle.connects, idle.dials, fun address =>
    ⟨beginConnect_of_shutDown stays.isShutDown address, connectAsync_of_shutDown stays.isShutDown address⟩⟩

end Uplink.Connector
