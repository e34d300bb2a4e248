/-
Module: Uplink.Transport.Error
Purpose: What can go wrong below the connector: system faults and transport errors.
Main exports: SystemFault, TransportError, TransportError.message, TransportError.code,
  TransportError.isRetryable
-/
import Uplink.Frame.Codec
import Uplink.Time.Span
import Uplink.Transport.ChannelId
import Uplink.Transport.Operation

namespace Uplink

/-- The kinds of fault that the operating system reports. -/
inductive FaultKind where
  | notFound
  | permissionDenied
  | connectionRefused
  | connectionReset
  | connectionAborted
  | notConnected
  | addressInUse
  | addressNotAvailable
  | brokenPipe
  | alreadyExists
  | wouldBlock
  | invalidInput
  | invalidData
  | timedOut
  | writeZero
  | interrupted
  | unsupported
  | unexpectedEnd
  | outOfMemory
  | other
deriving DecidableEq, Repr, Inhabited

namespace FaultKind

/-- The plain words for a kind of fault. -/
def text : FaultKind → String
  | notFound => "entity not found"
  | permissionDenied => "permission denied"
  | connectionRefused => "connection refused"
  | connectionReset => "connection reset"
  | connectionAborted => "connection aborted"
  | notConnected => "not connected"
  | addressInUse => "address in use"
  | addressNotAvailable => "address not available"
  | brokenPipe => "broken pipe"
  | alreadyExists => "entity already exists"
  | wouldBlock => "operation would block"
  | invalidInput => "invalid input parameter"
  | invalidData => "invalid data"
  | timedOut => "timed out"
  | writeZero => "write zero"
  | interrupted => "operation interrupted"
  | unsupported => "unsupported"
  | unexpectedEnd => "unexpected end of file"
  | outOfMemory => "out of memory"
  | other => "other error"

/-- The name of a kind of fault. -/
def name : FaultKind → String
  | notFound => "NotFound"
  | permissionDenied => "PermissionDenied"
  | connectionRefused => "ConnectionRefused"
  | connectionReset => "ConnectionReset"
  | connectionAborted => "ConnectionAborted"
  | notConnected => "NotConnected"
  | addressInUse => "AddrInUse"
  | addressNotAvailable => "AddrNotAvailable"
  | brokenPipe => "BrokenPipe"
  | alreadyExists => "AlreadyExists"
  | wouldBlock => "WouldBlock"
  | invalidInput => "InvalidInput"
  | invalidData => "InvalidData"
  | timedOut => "TimedOut"
  | writeZero => "WriteZero"
  | interrupted => "Interrupted"
  | unsupported => "Unsupported"
  | unexpectedEnd => "UnexpectedEof"
  | outOfMemory => "OutOfMemory"
  | other => "Other"

/-- Every kind of fault. -/
def all : List FaultKind :=
  [notFound, permissionDenied, connectionRefused, connectionReset, connectionAborted, notConnected,
    addressInUse, addressNotAvailable, brokenPipe, alreadyExists, wouldBlock, invalidInput, invalidData,
    timedOut, writeZero, interrupted, unsupported, unexpectedEnd, outOfMemory, other]

/-- The kind with a name. -/
def ofName? (name : String) : Option FaultKind :=
  all.find? fun kind => kind.name == name

/-- Whether a fault of this kind means that the peer went away. -/
def isPeerLoss : FaultKind → Bool
  | connectionReset | connectionAborted | brokenPipe | unexpectedEnd => true
  | _ => false

end FaultKind

/-- A fault: its kind and the text that reports it. -/
structure SystemFault where
  kind : FaultKind
  text : String
deriving DecidableEq, Repr, Inhabited

/-- The fault that is reported by the plain words of its kind. -/
def SystemFault.ofKind (kind : FaultKind) : SystemFault :=
  { kind, text := kind.text }

/-- What can go wrong with a channel, an address or a timer. -/
inductive TransportError where
  | connectFailed (address : String) (cause : SystemFault)
  | connectTimeout (address : String) (timeout : Span)
  | invalidAddress (address : String)
  | channelClosed (id : ChannelId)
  | timerStopped
  | frame (error : FrameTooLarge)
  | io (operation : TransportOperation) (cause : SystemFault)
deriving DecidableEq, Repr, Inhabited

namespace TransportError

/-- The error's text.  A frame error speaks for itself. -/
def message : TransportError → String
  | connectFailed address cause => "connect to " ++ address ++ " failed: " ++ cause.text
  | connectTimeout address timeout => "connect to " ++ address ++ " timed out after " ++ timeout.text
  | invalidAddress address => "invalid address `" ++ address ++ "`"
  | channelClosed id => "channel " ++ id.text ++ " is closed"
  | timerStopped => "timer has been stopped"
  | frame error => error.message
  | io operation cause => operation.label ++ " failed: " ++ cause.text

/-- The error's stable code. -/
def code : TransportError → String
  | connectFailed .. => "spark.transport.connect_failed"
  | connectTimeout .. => "spark.transport.connect_timeout"
  | invalidAddress .. => "spark.transport.invalid_address"
  | channelClosed .. => "spark.transport.channel_closed"
  | timerStopped => "spark.transport.timer_stopped"
  | frame _ => FrameTooLarge.code
  | io .. => "spark.transport.io_failed"

/-- Whether trying again may help: it may after a failed or timed out connect and after a fault. -/
def isRetryable : TransportError → Bool
  | connectFailed .. | connectTimeout .. | io .. => true
  | _ => false

/-- The text of the fault behind an error. -/
def causeText? : TransportError → Option String
  | connectFailed _ cause | io _ cause => some cause.text
  | _ => none

/-- Whether an error means that the peer went away. -/
def isPeerLoss : TransportError → Bool
  | io _ cause => cause.kind.isPeerLoss
  | _ => false

end TransportError

end Uplink
