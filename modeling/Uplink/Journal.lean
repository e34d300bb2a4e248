/-
Module: Uplink.Journal
Purpose: What can be observed while channels, pools and watchdogs are at work.
Main exports: Event, Event.text, Journal
-/
import Uplink.Log
import Uplink.Time.Span
import Uplink.Transport.Address

namespace Uplink

open Text

/-- What a handler at the end of a chain was told about a channel. -/
inductive ChannelNotice where
  | active
  | inactive (closed : Bool)
  | read (command : UInt32) (length : Nat)
  | exception (code : String)
deriving DecidableEq, Repr, Inhabited

/-- An observation. -/
inductive Event where
  | connecting (address : Address)
  | scheduled (delay : Span)
  | wrote (channel length : Nat)
  | measured (label : String) (size : Nat)
  | reenrolled (label : String) (added : Bool)
  | hookStopped (changed : Bool)
  | hookStarted (changed : Bool)
  | hookEnrolled (added : Bool)
  | noticed (handler : String) (channel : Nat) (notice : ChannelNotice)
  | notified (label : String) (success : Bool) (attempts current : UInt32) (started onWorker : Bool)
  | listenerStopped (label : String) (changed : Bool)
  | listenerStarted (label : String) (changed : Bool)
  | listenerRemoved (label : String) (removed : Bool)
  | listenerScheduled (label : String) (accepted : Bool)
  | completed (connection : Nat) (connected : Bool)
  | switched (connection : Nat) (enabled : Bool)
deriving DecidableEq, Repr, Inhabited

/-- The text of what a handler was told. -/
def ChannelNotice.text (channel : String) : ChannelNotice → String
  | active => "active " ++ channel
  | inactive closed => "inactive " ++ channel ++ " closed=" ++ flagText closed
  | read command length =>
      "read " ++ channel ++ " cmd=" ++ decimal command.toNat ++ " len=" ++ decimal length
  | exception code => "exception " ++ channel ++ " " ++ code

/-- The text of an observation. -/
def Event.text : Event → String
  | connecting address => "connect " ++ address.text
  | scheduled delay => "schedule " ++ decimal delay.wholeMillis ++ "ms"
  | wrote channel length => "write c" ++ decimal channel ++ " len=" ++ decimal length
  | measured label size => label ++ " size=" ++ decimal size
  | reenrolled label added => label ++ " readd=" ++ flagText added
  | hookStopped changed => "hook stop=" ++ flagText changed
  | hookStarted changed => "hook start=" ++ flagText changed
  | hookEnrolled added => "hook add=" ++ flagText added
  | noticed handler channel notice => handler ++ " " ++ notice.text ("c" ++ decimal channel)
  | notified label success attempts current started onWorker =>
      label ++ " success=" ++ flagText success ++ " attempts=" ++ decimal attempts.toNat
        ++ " now=" ++ decimal current.toNat ++ " started=" ++ flagText started
        ++ " worker=" ++ flagText onWorker
  | listenerStopped label changed => label ++ " stop=" ++ flagText changed
  | listenerStarted label changed => label ++ " start=" ++ flagText changed
  | listenerRemoved label removed => label ++ " removed=" ++ flagText removed
  | listenerScheduled label accepted => label ++ " scheduled=" ++ flagText accepted
  | completed connection connected =>
      "completed " ++ decimal connection ++ " connected=" ++ flagText connected
  | switched connection enabled => "switch " ++ decimal connection ++ " " ++ flagText enabled

/-- Observations and log lines, in order. -/
structure Journal where
  events : List Event
  logs : List LogLine
deriving DecidableEq, Repr, Inhabited

namespace Journal

/-- Nothing observed yet. -/
def empty : Journal := { events := [], logs := [] }

/-- Add an observation. -/
def record (journal : Journal) (event : Event) : Journal :=
  { journal with events := journal.events ++ [event] }

/-- Add a log line. -/
def log (journal : Journal) (line : LogLine) : Journal :=
  { journal with logs := journal.logs ++ [line] }

end Journal

end Uplink
