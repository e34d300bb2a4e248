/-
Module: Uplink.Fabric.Link
Purpose: The life of a link: attempts begin and end, channels become active, are used and close.
Main exports: Fabric.beginRetry, Fabric.beginCall, Fabric.settle, Fabric.channelActive,
  Fabric.channelInactive, Fabric.channelRead, Fabric.channelException, Fabric.close, Fabric.release
-/
import Uplink.Fabric.Notification

namespace Uplink.Fabric

open Text

/-! ### Events of a channel -/

/-- Tell the handler behind a watchdog.  A tracker notes first whether the channel is up. -/
def tellNext (fabric : Fabric) (next : NextHandler) (channel : Nat) (notice : ChannelNotice) :
    Fabric :=
  match next with
  | .nobody => fabric
  | .recorder name => fabric.record (.noticed name channel notice)
  | .tracker connection application =>
      let noted :=
        match notice with
        | .active => fabric.setConnected connection true
        | .inactive _ => fabric.setConnected connection false
        | _ => fabric
      match application with
      | some name => noted.record (.noticed name channel notice)
      | none => noted

/-- The log line of a watchdog about a channel. -/
def channelLine (watchdog : Watchdog) (message : String) (channel : Nat)
    (fields : List (String × String)) : LogLine :=
  watchdog.line .debug message (("channel", (Roster.channelId channel).text) :: fields)

/-- A channel has become active: the count of attempts starts again, and the pool enrolls the channel. -/
def channelActive (fabric : Fabric) (number channel : Nat) : Fabric :=
  match fabric.watchdogs[number]? with
  | none => fabric
  | some watchdog =>
      let counted := fabric.changeWatchdog number fun found => { found with attempts := 0 }
      let enrolled :=
        match watchdog.pool with
        | some pool => { counted with roster := (counted.roster.enroll pool channel).1 }
        | none => counted
      (enrolled.log (channelLine watchdog "channel active" channel [])).tellNext watchdog.next channel
        .active

/-- A channel has become inactive: another attempt may be scheduled. -/
def channelInactive (fabric : Fabric) (number channel : Nat) : Fabric :=
  match fabric.watchdogs[number]? with
  | none => fabric
  | some watchdog =>
      let gone := (fabric.log (channelLine watchdog "channel inactive" channel [])).onDisconnected
        number
      gone.tellNext watchdog.next channel (.inactive (gone.roster.closing channel).isDone)

/-- A frame has arrived. -/
def channelRead (fabric : Fabric) (number channel : Nat) (frame : Frame) : Fabric :=
  match fabric.watchdogs[number]? with
  | none => fabric
  | some watchdog =>
      fabric.tellNext watchdog.next channel (.read frame.header.command frame.body.length)

/-- Something has gone wrong with a channel. -/
def channelException (fabric : Fabric) (number channel : Nat) (error : TransportError) : Fabric :=
  match fabric.watchdogs[number]? with
  | none => fabric
  | some watchdog =>
      (fabric.log
        (channelLine watchdog "channel exception" channel
          [("code", error.code), ("error", error.message)])).tellNext watchdog.next channel
        (.exception error.code)

/-- Close a channel: its closing is completed, then its watchdog is told. -/
def close (fabric : Fabric) (channel : Nat) : Fabric :=
  let closed := fabric.roster.close channel
  let shut : Fabric := { fabric with roster := closed.1 }
  match closed.2 with
  | some number => shut.channelInactive number channel
  | none => shut

/-! ### Attempts -/

/-- An attempt of a watchdog is under way from here on. -/
def issue (fabric : Fabric) (number : Nat) (origin : Origin) (watchdog : Watchdog) : Fabric :=
  let attempt : Attempt := { watchdog := number, origin, attempts := watchdog.attempts }
  let begun : Fabric :=
    { fabric with underWay := fabric.underWay ++ [attempt], connects := fabric.connects + 1 }
  begun.record (.connecting watchdog.address)

/-- The timer calls for an attempt.  It is given up if no channel is wanted any more; the flag says
whether it is under way. -/
def beginRetry (fabric : Fabric) (number : Nat) : Fabric × Bool :=
  match fabric.watchdogs[number]? with
  | none => (fabric, false)
  | some watchdog =>
      if fabric.wants watchdog then (fabric.issue number .retry watchdog, true)
      else
        (fabric.log
          (watchdog.line .debug "reconnect abandoned" [("started", flagText watchdog.started)]), false)

/-- A caller asks for an attempt, and gets one. -/
def beginCall (fabric : Fabric) (number : Nat) : Fabric :=
  match fabric.watchdogs[number]? with
  | none => fabric
  | some watchdog => fabric.issue number .caller watchdog

/-- An attempt has brought a channel. -/
def succeeded (fabric : Fabric) (attempt : Attempt) (channel : Nat) : Fabric :=
  let logged :=
    match attempt.origin, fabric.watchdogs[attempt.watchdog]? with
    | .retry, some watchdog =>
        fabric.log
          (channelLine watchdog "reconnected" channel [("attempts", decimal attempt.attempts.toNat)])
    | _, _ => fabric
  logged.notifySuccess attempt.watchdog attempt.attempts

/-- An attempt has failed.  After a retry a started watchdog tells its listeners, and then the link counts
as disconnected; a caller is told by the error alone. -/
def failed (fabric : Fabric) (attempt : Attempt) (error : TransportError) : Fabric :=
  match attempt.origin, fabric.watchdogs[attempt.watchdog]? with
  | .retry, some watchdog =>
      let logged := fabric.log
        (watchdog.line .warn "reconnect attempt failed"
          [("attempts", decimal attempt.attempts.toNat), ("code", error.code),
           ("error", error.message)])
      let told :=
        if watchdog.started then logged.notifyFailure attempt.watchdog attempt.attempts else logged
      told.onDisconnected attempt.watchdog
  | _, _ => fabric

/-- A channel comes up for a watchdog, and closes again at once if it flaps. -/
def establish (fabric : Fabric) (number : Nat) (flaps : Bool) : Fabric × Nat :=
  let opened := fabric.roster.openChannel (some number)
  let there : Fabric := { fabric with roster := opened.1 }
  let active := there.channelActive number opened.2
  (if flaps then active.close opened.2 else active, opened.2)

/-- End the attempt at a place among those under way. -/
def settle (fabric : Fabric) (place : Nat) (outcome : Outcome) :
    Fabric × Option (Except TransportError Nat) :=
  match fabric.underWay[place]? with
  | none => (fabric, none)
  | some attempt =>
      let ended : Fabric := { fabric with underWay := fabric.underWay.eraseIdx place }
      match outcome with
      | .established =>
          let up := ended.establish attempt.watchdog false
          (up.1.succeeded attempt up.2, some (.ok up.2))
      | .flapped =>
          let up := ended.establish attempt.watchdog true
          (up.1.succeeded attempt up.2, some (.ok up.2))
      | .failed error => (ended.failed attempt error, some (.error error))

/-- Take the timer's entry at an index off.  A task that was not cancelled calls for an attempt of its
watchdog, whose number is handed out. -/
def release (fabric : Fabric) (index : Nat) : Fabric × Option (Option Nat) :=
  let released := fabric.timer.release index
  ({ fabric with timer := released.1 }, released.2)

end Uplink.Fabric
