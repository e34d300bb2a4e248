/-
Module: Uplink.Fabric.Retry
Purpose: Starting and stopping watchdogs, and scheduling their retries.
Main exports: Fabric.start, Fabric.stop, Fabric.setReconnect, Fabric.reconnectNeeded, Fabric.schedule,
  Fabric.onDisconnected, Fabric.turnSwitch
-/
import Uplink.Fabric.Basic

namespace Uplink.Fabric

open Text

/-- Start a watchdog; the flag says whether it was stopped. -/
def start (fabric : Fabric) (number : Nat) : Fabric × Bool :=
  match fabric.watchdogs[number]? with
  | none => (fabric, false)
  | some watchdog =>
      if watchdog.started then (fabric, false)
      else
        ((fabric.changeWatchdog number fun found => { found with started := true }).log
          (watchdog.line .debug "watchdog started" []), true)

/-- Cancel the task of a timer handle, if there is one. -/
def cancelPending (fabric : Fabric) : Option Nat → Fabric
  | some handle => { fabric with timer := fabric.timer.cancel handle }
  | none => fabric

/-- Stop a watchdog; the flag says whether it was started.  The retry it scheduled last is cancelled, and
its notifier is shut down. -/
def stop (fabric : Fabric) (number : Nat) : Fabric × Bool :=
  match fabric.watchdogs[number]? with
  | none => (fabric, false)
  | some watchdog =>
      let stopped := (fabric.cancelPending watchdog.pending).changeWatchdog number fun found =>
        { found with started := false, pending := none, notifier := found.notifier.shutDown }
      if watchdog.started then (stopped.log (watchdog.line .debug "watchdog stopped" []), true)
      else (stopped, false)

/-- Turn reconnecting on or off. -/
def setReconnect (fabric : Fabric) (number : Nat) (enabled : Bool) : Fabric :=
  if enabled then (fabric.start number).1 else (fabric.stop number).1

/-- Turn the switch of a connection.  Without a switch nothing happens but a log line. -/
def turnSwitch (fabric : Fabric) (connection : Nat) (enabled : Bool) : Fabric :=
  match fabric.connections[connection]? with
  | none => fabric
  | some found =>
      match found.switch with
      | some (.watchdog number) => fabric.setReconnect number enabled
      | some (.recorder number) => fabric.record (.switched number enabled)
      | none => fabric.log (Connection.unboundLine found.address)

/-- Whether a watchdog wants another channel: it is started, and its pool has room. -/
def wants (fabric : Fabric) (watchdog : Watchdog) : Bool :=
  watchdog.started
    && match watchdog.pool.bind fun pool => fabric.roster.pools[pool]? with
      | some pool => pool.hasRoom
      | none => true

/-- Whether the watchdog with a number wants another channel. -/
def reconnectNeeded (fabric : Fabric) (number : Nat) : Bool :=
  match fabric.watchdogs[number]? with
  | some watchdog => fabric.wants watchdog
  | none => false

/-- Schedule an attempt of a watchdog after a delay.  The watchdog remembers the latest handle only. -/
def schedule (fabric : Fabric) (number : Nat) (delay : Span) :
    Fabric × Except TransportError Unit :=
  match fabric.timer.schedule delay number with
  | .error error => (fabric, .error error)
  | .ok (timer, handle) =>
      (({ fabric with timer }.record (.scheduled delay)).changeWatchdog number fun found =>
        { found with pending := some handle }, .ok ())

/-- A link is gone, or an attempt has failed: schedule the next attempt if one is wanted.  The count goes
up by one, and the delay follows the new count. -/
def onDisconnected (fabric : Fabric) (number : Nat) : Fabric :=
  match fabric.watchdogs[number]? with
  | none => fabric
  | some watchdog =>
      if fabric.wants watchdog then
        let attempts := watchdog.nextAttempts
        let delay := watchdog.backoff.delayFor attempts
        let counted := fabric.changeWatchdog number fun found =>
          { found with attempts := found.attempts + 1 }
        let announced := counted.log
          (watchdog.line .debug "reconnect scheduled"
            [("attempts", decimal attempts.toNat),
             ("delay_ms", decimal delay.clampedMillis.toNat)])
        match announced.schedule number delay with
        | (scheduled, .ok ()) => scheduled
        | (refused, .error error) =>
            refused.log
              (watchdog.line .warn "failed to schedule reconnect"
                [("code", error.code), ("error", error.message)])
      else
        fabric.log
          (watchdog.line .debug "reconnect not needed" [("started", flagText watchdog.started)])

end Uplink.Fabric
