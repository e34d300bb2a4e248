/-
Module: Uplink.Report.Rehearsal
Purpose: Reports of rehearsals: answers to steps, and what things look like after them.
Main exports: Reply.report, Turn.report, Stage.report, ConnectorStage.report
-/
import Uplink.Rehearsal.Connector
import Uplink.Rehearsal.Registry
import Uplink.Rehearsal.Stage
import Uplink.Rehearsal.Timing
import Uplink.Report.Error

namespace Uplink

namespace Reply

mutual

/-- The answer to a step. -/
def report : Reply → Json
  | nothing => .null
  | flag value => .boolean value
  | number value => .ofNat value
  | text value => .text value
  | span value => value.report
  | json value => value
  | list items => .array (reports items)
  | linked channel isOpen => .object [("ok", .ofNat channel), ("active", .boolean isOpen)]
  | exhausted error timed =>
      error.report (if timed then [("waited_enough", .boolean true)] else [])
  | failed error => error.report
  | refused error => error.report
  | profile address pooled step mostSteps =>
      .object
        [("address", .text address.text), ("pooled", .boolean pooled), ("step", step.report),
         ("max_steps", .ofNat mostSteps.toNat)]
  | pool held now => held.report now
  | missing what => .object [("bad_step", .text what)]

/-- The answers in a list. -/
def reports : List Reply → List Json
  | [] => []
  | item :: rest => report item :: reports rest

end

end Reply

namespace Report

/-- Texts in the order of their bytes. -/
def sortTexts (texts : List String) : List String :=
  texts.mergeSort fun first second => !decide (second < first)

/-- A list of texts. -/
def texts (values : List String) : Json := .array (values.map Json.text)

end Report

/-- A step: its answer, the state after it, what was observed if anything was, and the log if it is asked
for.  Where the order has no meaning, observations and log lines are sorted. -/
def Turn.report (turn : Turn) (logging sorted : Bool) (state : Json) : Json :=
  let order := fun (lines : List String) => if sorted then Report.sortTexts lines else lines
  let events := if turn.events.isEmpty then [] else [("ev", Report.texts (order turn.events))]
  let logs := if logging then [("log", Report.texts (order (turn.logs.map LogLine.text)))] else []
  .object ([("r", turn.reply.report), ("st", state)] ++ events ++ logs)

/-- What became of a delayed task. -/
def Timeout.report (timeout : Timeout) (more : List Json) : Json :=
  .array ([.boolean (timeout == .cancelled), .boolean (timeout == .fired)] ++ more)

/-- What became of the task of each handle. -/
def TimeoutRack.report (rack : TimeoutRack) : Json :=
  .array (rack.readings.map fun timeout => timeout.report [.text timeout.description])

/-- Whether a timer is stopped, and what became of each task. -/
def SleepTimer.report (timer : SleepTimer) : Json :=
  .array
    [.boolean timer.stopped, .array (timer.tasks.map fun (_, timeout) => timeout.report [])]

/-- Whether a connection is connected and complete. -/
def Connection.report {Listener Switch : Type} (connection : Connection Listener Switch) : Json :=
  .array [.boolean connection.connected, .boolean connection.isComplete]

/-- How many addresses are under management. -/
def RegistryStage.report (stage : RegistryStage) : Json :=
  let size := stage.connector.registry.size
  .array [.ofNat size, .boolean (size == 0)]

namespace Fabric

/-- The entries of the timer, each with its delay and whether it was cancelled. -/
def timerReport (fabric : Fabric) (owner : Nat → List Json) : Json :=
  .array (fabric.timer.entries.map fun entry =>
    let cancelled := fabric.timer.timeout entry.handle == .cancelled
    .array
      (owner entry.task
        ++ [entry.delay.report, .text (if cancelled then "cancelled" else "pending")]))

/-- The timer, the open channels, the number of attempts so far, and whatever else is known. -/
def report (fabric : Fabric) (owner : Nat → List Json) (more : List (String × Json)) : Json :=
  .object
    ([("timer", fabric.timerReport owner), ("open", .ofNats fabric.roster.openChannels),
      ("connects", .ofNat fabric.connects)] ++ more)

end Fabric

/-- The watchdogs, the pools and what they work in. -/
def Stage.report (stage : Stage) : Json :=
  let fabric := stage.fabric
  let watchdog := fun (found : Watchdog) =>
    Json.array
      [.boolean found.started, .ofNat found.attempts.toNat, .boolean (fabric.wants found)]
  fabric.report (fun task => [.ofNat task])
    [("dogs", .array (fabric.watchdogs.map watchdog)),
     ("pools", .array (fabric.roster.pools.map fun pool => .ofNats pool.members))]

/-- The numbered connections, the pools by address, and what the connector works in. -/
def ConnectorStage.report (stage : ConnectorStage) : Json :=
  let connector := stage.connector
  let connection := fun (number : Nat) =>
    Json.orNull Connection.report connector.fabric.connections[number]?
  let group := fun (address : Address) =>
    Json.array
      [.text address.text,
       .orNull (fun pool => .ofNats (connector.members pool)) (connector.group? address)]
  connector.fabric.report (fun _ => [])
    [("conns", .array (stage.numbered.map connection)),
     ("groups", .array ((Address.sort (connector.groups.map Prod.fst)).map group)),
     ("registered", .ofNat connector.registry.size)]

end Uplink
