/-
Module: Uplink.Latch.Cascade
Purpose: Latches whose hooks, when they run, register further hooks and complete latches.
Main exports: LatchCall, LatchHook, LatchWorld, LatchWorld.call
-/
import Uplink.Agenda
import Uplink.Json.Printer
import Uplink.Latch.Basic

namespace Uplink

/-- A call on one of several latches.  A registered hook carries the calls it makes when it runs. -/
inductive LatchCall where
  | listen (latch : Nat) (label : String) (calls : List LatchCall)
  | complete (latch : Nat)
  | isDone (latch : Nat)
  | describe (latch : Nat)
  | future (latch : Nat)
  | poll (future : Nat)
deriving Repr, Inhabited

/-- A registered hook: an observer with a serial number, or the signal that makes a future ready. -/
inductive LatchHook where
  | observer (serial : Nat) (label : String) (calls : List LatchCall)
  | signal (future : Nat)
deriving Repr, Inhabited

/-- A future that waits for a latch: pending, ready, or ready and already seen so. -/
inductive FutureState where
  | pending
  | ready
  | taken
deriving DecidableEq, Repr, Inhabited

/-- The name of a future's state. -/
def FutureState.name : FutureState → String
  | pending => "pending"
  | ready => "ready"
  | taken => "taken"

/-- What an observer shows: that it began to run, and the answers to its calls. -/
inductive LatchEvent where
  | ran (serial : Nat) (label : String) (done : Bool)
  | answered (label : String) (answer : Json)
deriving Repr, Inhabited

/-- The text of an event. -/
def LatchEvent.text : LatchEvent → String
  | ran _ label done => label ++ " done=" ++ flagText done
  | answered label answer => label ++ " act " ++ answer.render

/-- Some latches, the futures that wait for them, how many observers were registered, and the events
so far. -/
structure LatchWorld where
  latches : List (Latch LatchHook)
  futures : List FutureState
  registered : Nat
  events : List LatchEvent
deriving Repr

/-- Work that remains: to run a hook of a latch, to make a call in an observer's name, or to show the
answer to a call. -/
inductive LatchTask where
  | run (latch : Nat) (hook : LatchHook)
  | make (label : String) (call : LatchCall)
  | announce (label : String) (answer : Json)
deriving Repr, Inhabited

/-- What a call gives: the world after it, the work that it causes, and its answer, which is due after
that work. -/
structure LatchReply where
  world : LatchWorld
  due : List LatchTask
  answer : Json
deriving Repr

namespace LatchWorld

/-- A number of open latches. -/
def fresh (count : Nat) : LatchWorld :=
  { latches := List.replicate count Latch.fresh, futures := [], registered := 0, events := [] }

/-- A latch; one that does not exist counts as done. -/
def latch (world : LatchWorld) (index : Nat) : Latch LatchHook :=
  world.latches.getD index .done

/-- Put a latch into its place. -/
def setLatch (world : LatchWorld) (index : Nat) (latch : Latch LatchHook) : LatchWorld :=
  { world with latches := world.latches.set index latch }

/-- Register a hook; what is handed back is to be run now. -/
def register (world : LatchWorld) (index : Nat) (hook : LatchHook) : LatchWorld × List LatchTask :=
  let (latch, due) := (world.latch index).listen hook
  (world.setLatch index latch, due.map (.run index))

/-- One call. -/
def perform (world : LatchWorld) : LatchCall → LatchReply
  | .listen index label calls =>
      let registered := world.register index (.observer world.registered label calls)
      { world := { registered.1 with registered := world.registered + 1 }
        due := registered.2
        answer := .null }
  | .complete index =>
      let completed := (world.latch index).complete
      { world := world.setLatch index completed.1
        due := completed.2.2.map (.run index)
        answer := .boolean completed.2.1 }
  | .isDone index => { world, due := [], answer := .boolean (world.latch index).isDone }
  | .describe index => { world, due := [], answer := .text (world.latch index).description }
  | .future index =>
      let number := world.futures.length
      let registered := world.register index (.signal number)
      { world := { registered.1 with futures := world.futures ++ [.pending] }
        due := registered.2
        answer := .ofWord (UInt64.ofNat number) }
  | .poll future =>
      let state := world.futures.getD future .taken
      let futures := if state = .ready then world.futures.set future .taken else world.futures
      { world := { world with futures }, due := [], answer := .text state.name }

/-- Show an event. -/
def record (world : LatchWorld) (event : LatchEvent) : LatchWorld :=
  { world with events := world.events ++ [event] }

/-- One task. -/
def step (world : LatchWorld) : LatchTask → LatchWorld × List LatchTask
  | .run index (.observer serial label calls) =>
      (world.record (.ran serial label (world.latch index).isDone), calls.map (.make label))
  | .run _ (.signal future) => ({ world with futures := world.futures.set future .ready }, [])
  | .make label call =>
      let reply := world.perform call
      (reply.world, reply.due ++ [.announce label reply.answer])
  | .announce label answer => (world.record (.answered label answer), [])

/-! Every task uses up some weight: a call weighs more than the hook it may register, and completing a
latch only moves the weight of its hooks. -/

mutual

/-- The weight of a call. -/
def callWeight : LatchCall → Nat
  | .listen _ _ calls => callsWeight calls + 4
  | _ => 4

/-- The weight of some calls. -/
def callsWeight : List LatchCall → Nat
  | [] => 0
  | call :: rest => callWeight call + callsWeight rest

end

/-- The weight of a hook. -/
def hookWeight : LatchHook → Nat
  | .observer _ _ calls => callsWeight calls + 1
  | .signal _ => 1

/-- The weight of the hooks that wait for a latch. -/
def waitingWeight (latch : Latch LatchHook) : Nat :=
  Agenda.total hookWeight latch.hooks

/-- The weight of a task. -/
def taskWeight : LatchTask → Nat
  | .run _ hook => hookWeight hook
  | .make _ call => callWeight call
  | .announce _ _ => 1

/-- The weight of world and tasks. -/
def weight (world : LatchWorld) (tasks : List LatchTask) : Nat :=
  Agenda.total waitingWeight world.latches + Agenda.total taskWeight tasks

theorem callsWeight_eq_sum (label : String) (calls : List LatchCall) :
    Agenda.total taskWeight (calls.map (LatchTask.make label)) = callsWeight calls := by
  induction calls with
  | nil => simp [callsWeight]
  | cons call rest ih =>
      simp only [List.map_cons, Agenda.total_cons, callsWeight, ih, taskWeight]

theorem sum_run (index : Nat) (hooks : List LatchHook) :
    Agenda.total taskWeight (hooks.map (LatchTask.run index)) = Agenda.total hookWeight hooks := by
  induction hooks with
  | nil => simp
  | cons hook rest ih => simp only [List.map_cons, Agenda.total_cons, ih, taskWeight]

theorem sum_set (latches : List (Latch LatchHook)) (index : Nat) (latch : Latch LatchHook) :
    Agenda.total waitingWeight (latches.set index latch) + waitingWeight (latches.getD index .done)
      ≤ Agenda.total waitingWeight latches + waitingWeight latch := by
  induction latches generalizing index with
  | nil => simp [waitingWeight, Latch.hooks]
  | cons first rest ih =>
      cases index with
      | zero => simp; omega
      | succ index =>
          have := ih index
          simp only [List.set_cons_succ, Agenda.total_cons, List.getD_cons_succ]
          omega

/-- Registering a hook adds at most its weight, be it to the latch or to the tasks. -/
theorem register_weight (world : LatchWorld) (index : Nat) (hook : LatchHook) :
    weight (world.register index hook).1 (world.register index hook).2
      ≤ weight world [] + hookWeight hook := by
  have bound := sum_set world.latches index ((world.latch index).listen hook).1
  unfold weight register setLatch
  simp only [sum_run, Agenda.total_nil]
  unfold latch at *
  revert bound
  cases world.latches.getD index .done with
  | done => simp [Latch.listen, waitingWeight, Latch.hooks]
  | waiting hooks => simp [Latch.listen, waitingWeight, Latch.hooks]; omega

/-- A call keeps two units of weight for its answer. -/
theorem perform_weight (world : LatchWorld) (call : LatchCall) :
    weight (world.perform call).world (world.perform call).due + 2
      ≤ weight world [] + callWeight call := by
  cases call with
  | listen index label calls =>
      have := register_weight world index (.observer world.registered label calls)
      simp only [weight, perform, callWeight, hookWeight] at *
      omega
  | complete index =>
      have bound := sum_set world.latches index ((world.latch index).complete).1
      simp only [weight, perform, setLatch, sum_run, callWeight, Agenda.total_nil]
      unfold latch at *
      revert bound
      cases world.latches.getD index .done with
      | done => simp [Latch.complete, waitingWeight, Latch.hooks]; omega
      | waiting hooks => simp [Latch.complete, waitingWeight, Latch.hooks]; omega
  | future index =>
      have := register_weight world index (.signal world.futures.length)
      simp only [weight, perform, callWeight, hookWeight] at *
      omega
  | isDone index => simp [weight, perform, callWeight]
  | describe index => simp [weight, perform, callWeight]
  | poll future => simp [weight, perform, callWeight]

theorem weight_append (world : LatchWorld) (first second : List LatchTask) :
    weight world (first ++ second) = weight world first + Agenda.total taskWeight second := by
  simp [weight]; omega

/-- Every task uses up some weight. -/
theorem step_decreases (world : LatchWorld) (task : LatchTask) (rest : List LatchTask) :
    weight (world.step task).1 ((world.step task).2 ++ rest) < weight world (task :: rest) := by
  rw [weight_append]
  cases task with
  | run index hook =>
      cases hook with
      | observer serial label calls =>
          simp only [step, weight, record, callsWeight_eq_sum, Agenda.total_cons,
            taskWeight, hookWeight]
          omega
      | signal future => simp [step, weight, taskWeight, hookWeight]
  | make label call =>
      have := perform_weight world call
      simp only [step, weight_append, Agenda.total_cons, Agenda.total_nil,
        taskWeight]
      simp only [weight, Agenda.total_cons, Agenda.total_nil, taskWeight] at *
      omega
  | announce label answer => simp [step, weight, record, taskWeight]

/-- Work off some tasks. -/
def workOff (world : LatchWorld) (tasks : List LatchTask) : LatchWorld :=
  Agenda.run step weight step_decreases world tasks

/-- Make a call from outside: everything that it causes is done before its answer is given. -/
def call (world : LatchWorld) (call : LatchCall) : LatchWorld × Json :=
  let reply := world.perform call
  (reply.world.workOff reply.due, reply.answer)

end LatchWorld

end Uplink
