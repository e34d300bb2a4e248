/-
Module: Uplink.Transport.SocketOptions
Purpose: The options of an outbound socket and the setters that change them.
Main exports: SocketOptions, SocketOptions.standard, SocketOptions.setWaterMarks
-/
import Uplink.Time.Span

namespace Uplink

/-- The options of an outbound socket.  An absent value leaves the system's default alone. -/
structure SocketOptions where
  noDelay : Bool
  keepAlive : Bool
  reuseAddress : Bool
  allowHalfClosure : Bool
  sendBufferSize : Option UInt32
  receiveBufferSize : Option UInt32
  lingerMillis : Option UInt64
  typeOfService : Option UInt32
  lowWaterMark : UInt64
  highWaterMark : UInt64
  connectTimeoutMillis : UInt64
deriving DecidableEq, Repr

namespace SocketOptions

/-- The options of a socket that is not configured: a connect timeout of three seconds and water marks
of 32 and 64 KiB. -/
def standard : SocketOptions :=
  { noDelay := true
    keepAlive := true
    reuseAddress := true
    allowHalfClosure := false
    sendBufferSize := none
    receiveBufferSize := none
    lingerMillis := none
    typeOfService := none
    lowWaterMark := 32 * 1024
    highWaterMark := 64 * 1024
    connectTimeoutMillis := 3000 }

instance : Inhabited SocketOptions := ⟨standard⟩

/-- How long a closed socket keeps sending. -/
def linger (options : SocketOptions) : Option Span :=
  options.lingerMillis.map Span.ofMillis

/-- How long a connect may take. -/
def connectTimeout (options : SocketOptions) : Span :=
  Span.ofMillis options.connectTimeoutMillis

/-- Set the linger time in whole milliseconds. -/
def setLinger (options : SocketOptions) (value : Option Span) : SocketOptions :=
  { options with lingerMillis := value.map Span.clampedMillis }

/-- Set the connect timeout in whole milliseconds. -/
def setConnectTimeout (options : SocketOptions) (value : Span) : SocketOptions :=
  { options with connectTimeoutMillis := value.clampedMillis }

/-- Set both water marks; a low mark above the high one is lowered to it. -/
def setWaterMarks (options : SocketOptions) (low high : UInt64) : SocketOptions :=
  { options with lowWaterMark := min low high, highWaterMark := high }

/-- One change of one option. -/
inductive Change where
  | noDelay (value : Bool)
  | keepAlive (value : Bool)
  | reuseAddress (value : Bool)
  | allowHalfClosure (value : Bool)
  | sendBufferSize (value : Option UInt32)
  | receiveBufferSize (value : Option UInt32)
  | linger (value : Option Span)
  | typeOfService (value : Option UInt32)
  | waterMarks (low high : UInt64)
  | connectTimeout (value : Span)
deriving DecidableEq, Repr

/-- Apply a change. -/
def apply (options : SocketOptions) : Change → SocketOptions
  | .noDelay value => { options with noDelay := value }
  | .keepAlive value => { options with keepAlive := value }
  | .reuseAddress value => { options with reuseAddress := value }
  | .allowHalfClosure value => { options with allowHalfClosure := value }
  | .sendBufferSize value => { options with sendBufferSize := value }
  | .receiveBufferSize value => { options with receiveBufferSize := value }
  | .linger value => options.setLinger value
  | .typeOfService value => { options with typeOfService := value }
  | .waterMarks low high => options.setWaterMarks low high
  | .connectTimeout value => options.setConnectTimeout value

end SocketOptions

end Uplink
