/-
Module: Uplink.Fabric.Notification
Purpose: Telling listeners what became of an attempt: failures at once, successes through a worker.
Main exports: Fabric.notifyFailure, Fabric.notifySuccess, Fabric.settleWorkers, Fabric.openGate
-/
import Uplink.Fabric.Retry

namespace Uplink.Fabric

open Text

/-- A call that a listener makes on its watchdog, and what it shows of the result. -/
def makeCall (fabric : Fabric) (number : Nat) (label : String) : ListenerCall → Fabric
  | .stop =>
      let stopped := fabric.stop number
      stopped.1.record (.listenerStopped label stopped.2)
  | .start =>
      let started := fabric.start number
      started.1.record (.listenerStarted label started.2)
  | .enlist name gated calls outcome =>
      fabric.changeWatchdog number fun found =>
        { found with
          listeners := found.listeners ++ [.observer { label := name, gated, calls, outcome }] }
  | .dismiss removed =>
      match fabric.watchdogs[number]? with
      | none => fabric
      | some watchdog =>
          (fabric.changeWatchdog number fun found => (found.dismiss removed).1).record
            (.listenerRemoved label (watchdog.hasListener removed))
  | .schedule delay =>
      let scheduled := fabric.schedule number delay
      scheduled.1.record (.listenerScheduled label scheduled.2.isOk)

/-- An observer's calls, and the log line of a bad end. -/
def finishObserver (fabric : Fabric) (number : Nat) (success : Bool) (attempts : UInt32)
    (observer : Observer) : Fabric :=
  let called := observer.calls.foldl
    (fun changed call => changed.makeCall number observer.label call) fabric
  match called.watchdogs[number]? with
  | none => called
  | some watchdog =>
      let fields := [("success", flagText success), ("attempts", decimal attempts.toNat)]
      match observer.outcome with
      | .accepted => called
      | .rejected reason =>
          called.log
            (watchdog.line .error "reconnect listener failed" (fields ++ [("error", reason)]))
      | .panicked => called.log (watchdog.line .error "reconnect listener panicked" fields)

/-- Show that an observer is told. -/
def beginObserver (fabric : Fabric) (number : Nat) (success : Bool) (attempts : UInt32)
    (onWorker : Bool) (observer : Observer) : Fabric :=
  match fabric.watchdogs[number]? with
  | none => fabric
  | some watchdog =>
      fabric.record
        (.notified observer.label success attempts watchdog.attempts watchdog.started onWorker)

/-- Tell one listener. -/
def tell (fabric : Fabric) (number : Nat) (success : Bool) (attempts : UInt32) (onWorker : Bool) :
    Listener → Fabric
  | .completion connection => if success then fabric.completeConnection connection else fabric
  | .observer observer =>
      (fabric.beginObserver number success attempts onWorker observer).finishObserver number success
        attempts observer

/-- Tell every listener of a failure, in order, at once.  The listeners are those registered when this
begins. -/
def notifyFailure (fabric : Fabric) (number : Nat) (attempts : UInt32) : Fabric :=
  match fabric.watchdogs[number]? with
  | none => fabric
  | some watchdog =>
      watchdog.listeners.foldl
        (fun changed listener => changed.tell number false attempts false listener) fabric

/-- The log line of news that found the queue full. -/
def droppedLine (capacity : Nat) : LogLine :=
  { level := .warn, target := "spark.connector.watchdog",
    message := "notification queue full, dropping reconnect notification",
    fields := [("capacity", decimal capacity)] }

/-- Pass news of a success to the notifier.  A stopped watchdog and one without listeners pass nothing
on. -/
def notifySuccess (fabric : Fabric) (number : Nat) (attempts : UInt32) : Fabric :=
  match fabric.watchdogs[number]? with
  | none => fabric
  | some watchdog =>
      if watchdog.started && !watchdog.listeners.isEmpty then
        let submitted := watchdog.notifier.submit { attempts, held := none }
        let passed := fabric.changeWatchdog number fun found =>
          { found with notifier := submitted.1 }
        if submitted.2 then passed else passed.log (droppedLine watchdog.notifier.capacity)
      else
        fabric

/-- Change the notifier of a watchdog. -/
def changeNotifier (fabric : Fabric) (number : Nat)
    (change : Notifier SuccessNews → Notifier SuccessNews) : Fabric :=
  fabric.changeWatchdog number fun found => { found with notifier := change found.notifier }

/-- A worker tells listeners of a success, until it is done or an observer waits at the gate. -/
def tellOnWorker (fabric : Fabric) (number worker : Nat) (attempts : UInt32) :
    List Listener → Fabric
  | [] => fabric.changeNotifier number fun notifier => notifier.finish worker
  | .completion connection :: rest =>
      (fabric.completeConnection connection).tellOnWorker number worker attempts rest
  | .observer observer :: rest =>
      let begun := fabric.beginObserver number true attempts true observer
      if observer.gated && !fabric.gateOpen then
        begun.changeNotifier number fun notifier =>
          notifier.hold worker { attempts, held := some (observer, rest) }
      else
        (begun.finishObserver number true attempts observer).tellOnWorker number worker attempts rest

/-- A worker takes the next news.  News that reaches a stopped watchdog is let go. -/
def beginNews (fabric : Fabric) (number worker : Nat) (watchdog : Watchdog) : Fabric :=
  match watchdog.notifier.begin worker with
  | (_, none) => fabric
  | (begun, some news) =>
      let taken := fabric.changeNotifier number fun _ => begun
      if watchdog.started then
        taken.tellOnWorker number worker news.attempts watchdog.listeners
      else
        taken.changeNotifier number fun notifier => notifier.finish worker

/-- One step of a worker: it goes on with held news once the gate is open, or takes the next news. -/
def workerStep (fabric : Fabric) (number worker : Nat) : Fabric :=
  match fabric.watchdogs[number]? with
  | none => fabric
  | some watchdog =>
      match (watchdog.notifier.workers[worker]?).bind Worker.running with
      | some { attempts, held := some (observer, rest) } =>
          if fabric.gateOpen then
            (fabric.finishObserver number true attempts observer).tellOnWorker number worker attempts
              rest
          else
            fabric
      | _ => fabric.beginNews number worker watchdog

/-- Let a worker go on for a number of steps. -/
def workerSteps (number worker : Nat) : Nat → Fabric → Fabric
  | 0, fabric => fabric
  | count + 1, fabric => workerSteps number worker count (fabric.workerStep number worker)

/-- Let every worker of a watchdog go on until it is idle or waits at the gate.  A worker has no more to
do than its queue and the news it is at. -/
def settleWorkersOf (fabric : Fabric) (number : Nat) : Fabric :=
  match fabric.watchdogs[number]? with
  | none => fabric
  | some watchdog =>
      (List.range watchdog.notifier.workers.length).foldl
        (fun changed worker =>
          workerSteps number worker ((watchdog.notifier.queue worker).length + 1) changed)
        fabric

/-- Let every worker go on until it is idle or waits at the gate. -/
def settleWorkers (fabric : Fabric) : Fabric :=
  (List.range fabric.watchdogs.length).foldl settleWorkersOf fabric

/-- Open the gate for good. -/
def openGate (fabric : Fabric) : Fabric :=
  { fabric with gateOpen := true }

end Uplink.Fabric
