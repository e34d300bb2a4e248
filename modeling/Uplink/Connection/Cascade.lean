/-
Module: Uplink.Connection.Cascade
Purpose: A connection whose completion listeners call it again when they run.
Main exports: ConnectionCall, ConnectionWorld, ConnectionWorld.call
-/
import Uplink.Agenda
import Uplink.Connection.Basic
import Uplink.Json.Printer

namespace Uplink

/-- A call on a connection.  A registered listener carries the calls it makes when it runs; a bound
switch only shows how it is turned. -/
inductive ConnectionCall where
  | listen (label : String) (calls : List ConnectionCall)
  | setComplete
  | setConnected (connected : Bool)
  | bind (label : String)
  | setReconnect (enabled : Bool)
  | describe
deriving Repr, Inhabited

/-- A registered listener. -/
structure ConnectionListener where
  label : String
  calls : List ConnectionCall
deriving Repr, Inhabited

/-- What listeners and switches show. -/
inductive ConnectionEvent where
  | ran (label : String) (complete connected : Bool)
  | answered (label : String) (answer : Json)
  | switched (label : String) (enabled : Bool)
deriving Repr, Inhabited

/-- The text of an event. -/
def ConnectionEvent.text : ConnectionEvent → String
  | ran label complete connected =>
      label ++ " complete=" ++ flagText complete ++ " connected=" ++ flagText connected
  | answered label answer => label ++ " act " ++ answer.render
  | switched label enabled => "switch " ++ label ++ " " ++ flagText enabled

/-- A connection, the events so far and the log lines so far. -/
structure ConnectionWorld where
  connection : Connection ConnectionListener String
  events : List ConnectionEvent
  logs : List LogLine
deriving Repr

/-- Work that remains: to run a listener, to make a call in its name, or to show the answer. -/
inductive ConnectionTask where
  | run (listener : ConnectionListener)
  | make (label : String) (call : ConnectionCall)
  | announce (label : String) (answer : Json)
deriving Repr, Inhabited

/-- What a call gives: the world after it, the listeners to run, and its answer, which is due after
them. -/
structure ConnectionReply where
  world : ConnectionWorld
  due : List ConnectionListener
  answer : Json
deriving Repr

namespace ConnectionWorld

/-- A fresh connection to an address. -/
def fresh (address : Address) : ConnectionWorld :=
  { connection := Connection.fresh address, events := [], logs := [] }

/-- Show an event. -/
def record (world : ConnectionWorld) (event : ConnectionEvent) : ConnectionWorld :=
  { world with events := world.events ++ [event] }

/-- Turn the switch.  Without a switch nothing happens but a log line. -/
def turn (world : ConnectionWorld) (enabled : Bool) : ConnectionWorld :=
  match world.connection.switch with
  | some label => world.record (.switched label enabled)
  | none =>
      { world with logs := world.logs ++ [Connection.unboundLine world.connection.address] }

/-- One call. -/
def perform (world : ConnectionWorld) : ConnectionCall → ConnectionReply
  | .listen label calls =>
      let registered := world.connection.addListener { label, calls }
      { world := { world with connection := registered.1 }, due := registered.2, answer := .null }
  | .setComplete =>
      let completed := world.connection.setComplete
      { world := { world with connection := completed.1 }
        due := completed.2.2
        answer := .boolean completed.2.1 }
  | .setConnected connected =>
      { world := { world with connection := world.connection.setConnected connected }
        due := []
        answer := .null }
  | .bind label =>
      let bound := world.connection.bind label
      { world := { world with connection := bound.1 }, due := [], answer := .boolean bound.2 }
  | .setReconnect enabled => { world := world.turn enabled, due := [], answer := .null }
  | .describe => { world, due := [], answer := .text world.connection.description }

/-- One task. -/
def step (world : ConnectionWorld) : ConnectionTask → ConnectionWorld × List ConnectionTask
  | .run listener =>
      (world.record (.ran listener.label world.connection.isComplete world.connection.connected),
        listener.calls.map (.make listener.label))
  | .make label call =>
      let reply := world.perform call
      (reply.world, reply.due.map .run ++ [.announce label reply.answer])
  | .announce label answer => (world.record (.answered label answer), [])

/-! Every task uses up some weight: a call weighs more than the listener it may register. -/

mutual

/-- The weight of a call. -/
def callWeight : ConnectionCall → Nat
  | .listen _ calls => callsWeight calls + 4
  | _ => 4

/-- The weight of some calls. -/
def callsWeight : List ConnectionCall → Nat
  | [] => 0
  | call :: rest => callWeight call + callsWeight rest

end

/-- The weight of a listener. -/
def listenerWeight (listener : ConnectionListener) : Nat :=
  callsWeight listener.calls + 1

/-- The weight of the listeners that wait. -/
def waitingWeight (world : ConnectionWorld) : Nat :=
  Agenda.total listenerWeight world.connection.completion.hooks

/-- The weight of a task. -/
def taskWeight : ConnectionTask → Nat
  | .run listener => listenerWeight listener
  | .make _ call => callWeight call
  | .announce _ _ => 1

/-- The weight of world and tasks. -/
def weight (world : ConnectionWorld) (tasks : List ConnectionTask) : Nat :=
  waitingWeight world + Agenda.total taskWeight tasks

theorem sum_make (label : String) (calls : List ConnectionCall) :
    Agenda.total taskWeight (calls.map (ConnectionTask.make label)) = callsWeight calls := by
  induction calls with
  | nil => simp [callsWeight]
  | cons call rest ih => simp only [List.map_cons, Agenda.total_cons, callsWeight, ih, taskWeight]

theorem sum_run (listeners : List ConnectionListener) :
    Agenda.total taskWeight (listeners.map ConnectionTask.run)
      = Agenda.total listenerWeight listeners := by
  induction listeners with
  | nil => simp
  | cons listener rest ih => simp only [List.map_cons, Agenda.total_cons, ih, taskWeight]

/-- A call keeps two units of weight for its answer. -/
theorem perform_weight (world : ConnectionWorld) (call : ConnectionCall) :
    waitingWeight (world.perform call).world + Agenda.total listenerWeight (world.perform call).due + 2
      ≤ waitingWeight world + callWeight call := by
  rcases world with ⟨⟨address, connected, completion, switch⟩, events, logs⟩
  cases call with
  | listen label calls =>
      cases completion <;>
        simp [perform, waitingWeight, callWeight, Connection.addListener, Latch.listen, Latch.hooks,
          listenerWeight]
      omega
  | setComplete =>
      cases completion <;>
        simp [perform, waitingWeight, callWeight, Connection.setComplete, Latch.complete, Latch.hooks]
  | setConnected connected => simp [perform, waitingWeight, callWeight, Connection.setConnected]
  | bind label =>
      cases switch <;> simp [perform, waitingWeight, callWeight, Connection.bind]
  | setReconnect enabled =>
      cases switch <;> simp [perform, waitingWeight, callWeight, turn, record]
  | describe => simp [perform, waitingWeight, callWeight]

/-- Every task uses up some weight. -/
theorem step_decreases (world : ConnectionWorld) (task : ConnectionTask)
    (rest : List ConnectionTask) :
    weight (world.step task).1 ((world.step task).2 ++ rest) < weight world (task :: rest) := by
  cases task with
  | run listener =>
      simp only [step, weight, Agenda.total_append, sum_make, Agenda.total_cons, taskWeight,
        listenerWeight, waitingWeight, record]
      omega
  | make label call =>
      have := perform_weight world call
      simp only [step, weight, Agenda.total_append, sum_run, Agenda.total_cons, Agenda.total_nil,
        taskWeight]
      omega
  | announce label answer => simp [step, weight, waitingWeight, record, taskWeight]

/-- Work off some tasks. -/
def workOff (world : ConnectionWorld) (tasks : List ConnectionTask) : ConnectionWorld :=
  Agenda.run step weight step_decreases world tasks

/-- Make a call from outside: everything that it causes is done before its answer is given. -/
def call (world : ConnectionWorld) (call : ConnectionCall) : ConnectionWorld × Json :=
  let reply := world.perform call
  (reply.world.workOff (reply.due.map .run), reply.answer)

end ConnectionWorld

end Uplink
