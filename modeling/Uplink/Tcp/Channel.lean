/-
Module: Uplink.Tcp.Channel
Purpose: One TCP channel: frames that wait to be written, bytes that wait to be decoded, and its end.
Main exports: TcpChannel, TcpChannel.write, TcpChannel.flush, TcpChannel.receive, TcpChannel.finish
-/
import Uplink.Frame.Stream
import Uplink.Latch.Basic
import Uplink.Tcp.Fault
import Uplink.Transport.Address
import Uplink.Transport.SocketOptions

namespace Uplink

open Text

/-- What the handler of a channel is told. -/
inductive TcpEvent where
  | active
  | read (frame : Frame)
  | exception (error : TransportError)
  | inactive (active closed : Bool)
deriving DecidableEq, Repr, Inhabited

/-- How far the life of a channel has come: it runs, its driver has ended and the handler has heard of the
error if there was one, or it is over. -/
inductive TcpPhase where
  | running
  | ending
  | finished
deriving DecidableEq, Repr, Inhabited

/-- A channel.  `queue` holds the frames that were accepted and not yet flushed, oldest first, and
`pendingBytes` counts their bytes; `incoming` holds the bytes that no frame was cut from yet; `parked`
says that the peer will send no more although the channel stays open.  Close hooks are numbers. -/
structure TcpChannel where
  id : ChannelId
  address : Address
  codec : FrameCodec
  lowWaterMark : Nat
  highWaterMark : Nat
  allowHalfClosure : Bool
  isActive : Bool
  isWritable : Bool
  pendingBytes : Nat
  queue : List Frame
  incoming : List UInt8
  parked : Bool
  closeRequested : Bool
  phase : TcpPhase
  closing : Latch Nat
  ranHooks : List Nat
  events : List TcpEvent
  logs : List LogLine
deriving Repr, Inhabited

namespace TcpChannel

/-- A channel over an established connection; its handler hears first that it is active. -/
def establish (id : ChannelId) (address : Address) (options : SocketOptions) (codec : FrameCodec) :
    TcpChannel :=
  { id, address, codec
    lowWaterMark := options.lowWaterMark.toNat
    highWaterMark := options.highWaterMark.toNat
    allowHalfClosure := options.allowHalfClosure
    isActive := true
    isWritable := true
    pendingBytes := 0
    queue := []
    incoming := []
    parked := false
    closeRequested := false
    phase := .running
    closing := Latch.fresh
    ranHooks := []
    events := [.active]
    logs := [] }

/-- Tell the handler. -/
def tell (channel : TcpChannel) (event : TcpEvent) : TcpChannel :=
  { channel with events := channel.events ++ [event] }

/-- Add a log line: the channel's identity comes before the other fields. -/
def log (channel : TcpChannel) (level : LogLevel) (message : String)
    (fields : List (String × String)) : TcpChannel :=
  { channel with
    logs := channel.logs
      ++ [{ level, target := tcpTarget, message
            fields := ("channel", channel.id.text) :: fields }] }

/-- Add the log line of a fault. -/
def logFault (channel : TcpChannel) (operation : TcpOperation) (fault : SystemFault) : TcpChannel :=
  { channel with logs := channel.logs ++ [operation.faultLine fault] }

/-! ### Writing -/

/-- The message of the log line of a channel that has too much to write. -/
def unwritableMessage : String := "channel unwritable"

/-- The message of the log line of a channel that can take more again. -/
def writableMessage : String := "channel writable again"

/-- Count the bytes of a frame as pending.  Above the high water mark the channel becomes unwritable. -/
def reserve (channel : TcpChannel) (length : Nat) : TcpChannel :=
  let pending := channel.pendingBytes + length
  let counted := { channel with pendingBytes := pending }
  if channel.highWaterMark < pending ∧ channel.isWritable then
    ({ counted with isWritable := false }).log .debug unwritableMessage
      [("pending", decimal pending), ("high_water_mark", decimal channel.highWaterMark)]
  else
    counted

/-- The bytes of a frame are no longer pending.  At the low water mark or below the channel becomes
writable again. -/
def discharge (channel : TcpChannel) (length : Nat) : TcpChannel :=
  let pending := channel.pendingBytes - length
  let counted := { channel with pendingBytes := pending }
  if pending ≤ channel.lowWaterMark ∧ !channel.isWritable then
    ({ counted with isWritable := true }).log .debug writableMessage
      [("pending", decimal pending), ("low_water_mark", decimal channel.lowWaterMark)]
  else
    counted

/-- Accept a frame to be written.  A channel that is not active refuses every frame, and each channel one
that its codec could not write. -/
def write (channel : TcpChannel) (frame : Frame) : TcpChannel × Except TransportError Unit :=
  if !channel.isActive then (channel, .error (.channelClosed channel.id))
  else if channel.codec.limit < frame.encodedLength then
    (channel, .error (.frame { length := frame.encodedLength, limit := channel.codec.limit }))
  else
    let reserved := channel.reserve frame.encodedLength
    ({ reserved with queue := channel.queue ++ [frame] }, .ok ())

/-- A write that found the channel active while its queue was being closed: what it counted is taken
back. -/
def writeTooLate (channel : TcpChannel) (frame : Frame) :
    TcpChannel × Except TransportError Unit :=
  ((channel.reserve frame.encodedLength).discharge frame.encodedLength,
    .error (.channelClosed channel.id))

/-! ### The end -/

/-- The driver ends, because of an error or for no other reason than that it is done.  A peer that went
away is nothing unusual; the handler hears of every error. -/
def stop (channel : TcpChannel) (error : Option TransportError) : TcpChannel :=
  let ended := { channel with phase := .ending }
  match error with
  | none => ended
  | some error =>
      let address := ("address", channel.address.text)
      let logged :=
        if error.isPeerLoss then
          ended.log .debug "peer disconnected" [address, ("error", error.message)]
        else
          ended.log .warn "channel failed"
            [address, ("code", error.code), ("error", error.message)]
      logged.tell (.exception error)

/-- A channel whose driver has ended is over: it is not active any more, its closing is completed, which
runs the close hooks, and then the handler hears that it is inactive. -/
def finish (channel : TcpChannel) : TcpChannel :=
  match channel.phase with
  | .ending =>
      let completed := channel.closing.complete
      let closed : TcpChannel :=
        { channel with
          isActive := false
          phase := .finished
          closing := completed.1
          ranHooks := channel.ranHooks ++ completed.2.2 }
      (closed.log .debug "channel closed" [("address", channel.address.text)]).tell
        (.inactive closed.isActive closed.closing.isDone)
  | _ => channel

/-- Ask an active channel to close.  Its driver notices later. -/
def requestClose (channel : TcpChannel) : TcpChannel :=
  if channel.isActive then { channel with closeRequested := true } else channel

/-- The driver notices that the channel is to close. -/
def noticeClose (channel : TcpChannel) : TcpChannel :=
  if channel.phase = .running ∧ channel.closeRequested then channel.stop none else channel

/-- Register a close hook; on a channel that is over it runs at once. -/
def listen (channel : TcpChannel) (hook : Nat) : TcpChannel :=
  let registered := channel.closing.listen hook
  { channel with closing := registered.1, ranHooks := channel.ranHooks ++ registered.2 }

/-! ### The driver -/

/-- The oldest frame that waits is written. -/
def flush (channel : TcpChannel) : TcpChannel :=
  match channel.phase, channel.queue with
  | .running, frame :: rest =>
      let taken := { channel with queue := rest }
      match channel.codec.encode frame [] with
      | .ok _ => taken.discharge frame.encodedLength
      | .error error => taken.stop (some (.frame error))
  | _, _ => channel

/-- Writing the oldest frame that waits fails. -/
def failFlush (channel : TcpChannel) (fault : SystemFault) : TcpChannel :=
  match channel.phase, channel.queue with
  | .running, frame :: rest =>
      let taken := { channel with queue := rest }
      match channel.codec.encode frame [] with
      | .ok _ =>
          ((taken.logFault .write fault).discharge frame.encodedLength).stop
            (some (TcpOperation.write.error fault))
      | .error error => taken.stop (some (.frame error))
  | _, _ => channel

/-- Hand a decoded frame to the handler. -/
def deliver (channel : TcpChannel) (frame : Frame) : TcpChannel :=
  let noted :=
    if frame.isHeartbeat then channel.log .trace "heartbeat received" [] else channel
  noted.tell (.read frame)

/-- Whether the driver waits for bytes. -/
def isReading (channel : TcpChannel) : Bool :=
  channel.phase == .running && !channel.parked

/-- Bytes arrive: every frame that they complete is handed over, and an oversized header ends the
driver. -/
def receive (channel : TcpChannel) (chunk : List UInt8) : TcpChannel :=
  if channel.isReading then
    let drained := channel.codec.drain (channel.incoming ++ chunk)
    let delivered := drained.frames.foldl deliver channel
    let left := { delivered with incoming := drained.rest }
    match drained.error with
    | none => left
    | some error => left.stop (some (.frame error))
  else
    channel

/-- The peer will send no more.  This ends the driver, unless the channel may stay half open. -/
def receiveEnd (channel : TcpChannel) : TcpChannel :=
  if channel.isReading then
    if channel.allowHalfClosure then { channel with parked := true } else channel.stop none
  else
    channel

/-- Reading fails. -/
def failReceive (channel : TcpChannel) (fault : SystemFault) : TcpChannel :=
  if channel.isReading then
    (channel.logFault .read fault).stop (some (TcpOperation.read.error fault))
  else
    channel

end TcpChannel

/-- What may happen to a channel next. -/
inductive TcpStep where
  | write (frame : Frame)
  | writeTooLate (frame : Frame)
  | flush
  | failFlush (fault : SystemFault)
  | receive (chunk : List UInt8)
  | receiveEnd
  | failReceive (fault : SystemFault)
  | requestClose
  | noticeClose
  | listen (hook : Nat)
  | finish
deriving Repr, Inhabited

namespace TcpChannel

/-- A step in the life of a channel. -/
def step (channel : TcpChannel) : TcpStep → TcpChannel
  | .write frame => (channel.write frame).1
  | .writeTooLate frame => (channel.writeTooLate frame).1
  | .flush => channel.flush
  | .failFlush fault => channel.failFlush fault
  | .receive chunk => channel.receive chunk
  | .receiveEnd => channel.receiveEnd
  | .failReceive fault => channel.failReceive fault
  | .requestClose => channel.requestClose
  | .noticeClose => channel.noticeClose
  | .listen hook => channel.listen hook
  | .finish => channel.finish

/-- Some steps in the life of a channel. -/
def run (channel : TcpChannel) (steps : List TcpStep) : TcpChannel :=
  steps.foldl step channel

end TcpChannel

end Uplink
