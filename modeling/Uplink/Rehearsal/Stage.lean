/-
Module: Uplink.Rehearsal.Stage
Purpose: Watchdogs at work where every attempt to connect ends at once, as a script says.
Main exports: Stage, StageStep, Stage.connectNow, Stage.fire, Stage.rehearse
-/
import Uplink.Rehearsal.Script
import Uplink.Rehearsal.Turn

namespace Uplink

/-- Watchdogs and what they work in, the script of the attempts to come, and every observer that was
used. -/
structure Stage where
  fabric : Fabric
  script : Script
  observers : List Observer
deriving Repr

/-- A step on watchdogs, pools, channels and the timer. -/
inductive StageStep where
  | schedule (watchdog : Nat) (delay : Span)
  | connectNow (watchdog : Nat)
  | start (watchdog : Nat)
  | stop (watchdog : Nat)
  | setReconnect (watchdog : Nat) (enabled : Bool)
  | bindConnection (watchdog : Nat)
  | turnSwitch (connection : Nat) (enabled : Bool)
  | listen (watchdog : Nat) (observer : Observer)
  | unlisten (watchdog : Nat) (label : String)
  | openChannel (handler : Option Nat)
  | close (channel : Nat)
  | enroll (pool channel : Nat)
  | evict (pool channel : Nat)
  | setCapacity (pool : Nat) (capacity : UInt64)
  | active (watchdog channel : Nat)
  | inactive (watchdog channel : Nat)
  | read (watchdog channel : Nat) (frame : Frame)
  | exception (watchdog channel : Nat) (error : TransportError)
  | fire (index count : Nat)
  | openGate
  | advance (delta : Span)
  | stopTimer
  | profile (watchdog : Nat)
  | describe (watchdog : Nat)
deriving Repr, Inhabited

/-- What a step names, in the order in which it is looked up. -/
inductive StageReference where
  | watchdog (number : Nat)
  | pool (number : Nat)
  | channel (number : Nat)
  | connection (number : Nat)
  | observer (label : String)
deriving DecidableEq, Repr, Inhabited

/-- The things that a step names. -/
def StageStep.references : StageStep → List StageReference
  | schedule watchdog _ | connectNow watchdog | start watchdog | stop watchdog
  | setReconnect watchdog _ | bindConnection watchdog | listen watchdog _ | profile watchdog
  | describe watchdog => [.watchdog watchdog]
  | unlisten watchdog label => [.watchdog watchdog, .observer label]
  | turnSwitch connection _ => [.connection connection]
  | openChannel handler => handler.toList.map .watchdog
  | close channel => [.channel channel]
  | enroll pool channel | evict pool channel => [.pool pool, .channel channel]
  | setCapacity pool _ => [.pool pool]
  | active watchdog channel | inactive watchdog channel | read watchdog channel _
  | exception watchdog channel _ => [.watchdog watchdog, .channel channel]
  | fire .. | openGate | advance _ | stopTimer => []

namespace Stage

/-- Change what the watchdogs work in. -/
def onFabric (stage : Stage) (change : Fabric → Fabric) : Stage :=
  { stage with fabric := change stage.fabric }

/-- Let the latest attempt go as the script says. -/
def play (stage : Stage) : Stage × Option (Except TransportError Nat) :=
  let turned := stage.script.next
  let place := stage.fabric.underWay.length - 1
  let hooked := stage.fabric.runHooks turned.2.hooks
  let settled := hooked.settle place (hooked.scriptedOutcome place turned.2.ending)
  ({ stage with fabric := settled.1, script := turned.1 }, settled.2)

/-- Let every worker go on until it is idle or waits at the gate. -/
def settleWorkers (stage : Stage) : Stage :=
  stage.onFabric Fabric.settleWorkers

/-- A caller asks for an attempt and waits for its result. -/
def connectNow (stage : Stage) (watchdog : Nat) : Stage × Option (Except TransportError Nat) :=
  (stage.onFabric fun fabric => fabric.beginCall watchdog).play

/-- Take the timer's entry at an index off, and let its task run to the end.  The answer says whether the
task ran, if there was an entry. -/
def fire (stage : Stage) (index : Nat) : Stage × Option Bool :=
  match stage.fabric.release index with
  | (fabric, none) => ({ stage with fabric }, none)
  | (fabric, some none) => ({ stage with fabric }, some false)
  | (fabric, some (some watchdog)) =>
      let begun := fabric.beginRetry watchdog
      let there : Stage := { stage with fabric := begun.1 }
      (if begun.2 then there.play.1 else there, some true)

/-- Fire a number of times at one index.  Workers go on after each. -/
def fireEach (stage : Stage) (index : Nat) : Nat → Stage × List (Option Bool)
  | 0 => (stage, [])
  | count + 1 =>
      let first := stage.fire index
      let others := first.1.settleWorkers.fireEach index count
      (others.1, first.2 :: others.2)

/-- The observer that was used under a label. -/
def observer? (stage : Stage) (label : String) : Option Observer :=
  stage.observers.find? fun found => found.label == label

/-- Add an observer to the listeners of a watchdog.  A label that was used before stands for the same
observer again. -/
def listen (stage : Stage) (watchdog : Nat) (observer : Observer) : Stage :=
  let known := stage.observer? observer.label
  let added := known.getD observer
  let listening := stage.onFabric fun fabric =>
    fabric.changeWatchdog watchdog fun found =>
      { found with listeners := found.listeners ++ [.observer added] }
  if known.isSome then listening
  else { listening with observers := stage.observers ++ [observer] }

/-- Remove the observer with a label from the listeners of a watchdog; the flag says whether it was
there. -/
def unlisten (stage : Stage) (watchdog : Nat) (label : String) : Stage × Bool :=
  match stage.fabric.watchdogs[watchdog]? with
  | none => (stage, false)
  | some found =>
      (stage.onFabric fun fabric =>
          fabric.changeWatchdog watchdog fun held => (held.dismiss label).1,
        found.hasListener label)

/-- Make a connection whose switch is a watchdog; the flag says whether the switch was bound. -/
def bindConnection (stage : Stage) (watchdog : Nat) : Stage × Bool :=
  match stage.fabric.watchdogs[watchdog]? with
  | none => (stage, false)
  | some found =>
      let added := stage.fabric.addConnection found.address
      let bound := added.1.bind added.2 (.watchdog watchdog)
      ({ stage with fabric := bound.1 }, bound.2)

/-- Whether what a step names is there; if not, the reply says what is missing. -/
def missing? (stage : Stage) : StageReference → Option Reply
  | .watchdog number =>
      if number < stage.fabric.watchdogs.length then none else some (.missingNumber "w" number)
  | .pool number =>
      if number < stage.fabric.roster.pools.length then none else some (.missingNumber "p" number)
  | .channel number =>
      if (stage.fabric.roster.channel? number).isSome then none
      else some (.missingNumber "channel" number)
  | .connection number =>
      if number < stage.fabric.connections.length then none else some (.missingNumber "c" number)
  | .observer label =>
      if (stage.observer? label).isSome then none else some (.missing "no listener")

/-- Put in what the watchdogs work in after a step, and the answer. -/
def after (stage : Stage) (fabric : Fabric) (reply : Reply) : Stage × Reply :=
  ({ stage with fabric }, reply)

/-- Put in the channels and pools after a step, and the answer. -/
def afterRoster (stage : Stage) (roster : Roster) (reply : Reply) : Stage × Reply :=
  stage.after { stage.fabric with roster } reply

/-- The reply to a caller: the channel of the attempt and whether it is still open, or the error. -/
def connectReply (stage : Stage) : Option (Except TransportError Nat) → Reply
  | some (.ok channel) => .linked channel (stage.fabric.roster.isOpen channel)
  | some (.error error) => .failed error
  | none => .nothing

/-- Carry out a step whose references are there. -/
def carryOut (stage : Stage) : StageStep → Stage × Reply
  | .schedule watchdog delay =>
      let scheduled := stage.fabric.schedule watchdog delay
      stage.after scheduled.1 (.ofAttempt scheduled.2)
  | .connectNow watchdog =>
      let connected := stage.connectNow watchdog
      (connected.1, connected.1.connectReply connected.2)
  | .start watchdog =>
      let started := stage.fabric.start watchdog
      stage.after started.1 (.flag started.2)
  | .stop watchdog =>
      let stopped := stage.fabric.stop watchdog
      stage.after stopped.1 (.flag stopped.2)
  | .setReconnect watchdog enabled =>
      stage.after (stage.fabric.setReconnect watchdog enabled) .nothing
  | .bindConnection watchdog =>
      let bound := stage.bindConnection watchdog
      (bound.1, .flag bound.2)
  | .turnSwitch connection enabled =>
      stage.after (stage.fabric.turnSwitch connection enabled) .nothing
  | .listen watchdog observer => (stage.listen watchdog observer, .nothing)
  | .unlisten watchdog label =>
      let removed := stage.unlisten watchdog label
      (removed.1, .flag removed.2)
  | .openChannel handler =>
      let opened := stage.fabric.roster.openChannel handler
      stage.afterRoster opened.1 (.number opened.2)
  | .close channel => stage.after (stage.fabric.close channel) .nothing
  | .enroll pool channel =>
      let enrolled := stage.fabric.roster.enroll pool channel
      stage.afterRoster enrolled.1 (.flag enrolled.2)
  | .evict pool channel =>
      let evicted := stage.fabric.roster.evict pool channel
      stage.afterRoster evicted.1 (.flag evicted.2)
  | .setCapacity pool capacity =>
      stage.afterRoster (stage.fabric.roster.changePool pool fun held => { held with capacity })
        .nothing
  | .active watchdog channel =>
      stage.after (stage.fabric.channelActive watchdog channel) .nothing
  | .inactive watchdog channel =>
      stage.after (stage.fabric.channelInactive watchdog channel) .nothing
  | .read watchdog channel frame =>
      stage.after (stage.fabric.channelRead watchdog channel frame) .nothing
  | .exception watchdog channel error =>
      stage.after (stage.fabric.channelException watchdog channel error) .nothing
  | .fire index count =>
      let fired := stage.fireEach index count
      (fired.1, .list (fired.2.map .flagOrNothing))
  | .openGate => stage.after stage.fabric.openGate .nothing
  | .advance delta => stage.afterRoster (stage.fabric.roster.advance delta) .nothing
  | .stopTimer =>
      stage.after { stage.fabric with timer := stage.fabric.timer.stop } .nothing
  | .profile watchdog =>
      (stage,
        match stage.fabric.watchdogs[watchdog]? with
        | some found =>
            .profile found.address found.pool.isSome found.backoff.step found.backoff.mostSteps
        | none => .nothing)
  | .describe watchdog =>
      (stage,
        match stage.fabric.watchdogs[watchdog]? with
        | some found => .text found.description
        | none => .nothing)

/-- Carry out a step, unless something that it names is missing: then nothing happens. -/
def answer (stage : Stage) (step : StageStep) : Stage × Reply :=
  match step.references.findSome? stage.missing? with
  | some reply => (stage, reply)
  | none => stage.carryOut step

/-- Take a step; then every worker goes on until it is idle or waits at the gate. -/
def rehearse (stage : Stage) (step : StageStep) : Stage × Turn :=
  let done := stage.answer step
  let settled := done.1.settleWorkers
  (settled.onFabric Fabric.clearJournal, .ofJournal done.2 settled.fabric.roster.journal)

end Stage

end Uplink
