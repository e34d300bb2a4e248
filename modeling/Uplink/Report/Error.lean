/-
Module: Uplink.Report.Error
Purpose: Reports of errors: their kind, their text, their stable code and what each kind tells besides.
Main exports: FrameTooLarge.report, TransportError.report, ConnectorError.report, PoolError.report,
  PayloadError.report, ConfigError.report
-/
import Uplink.Connector.Error
import Uplink.Payload.Format
import Uplink.Report.Value

namespace Uplink

namespace Report

/-- An error's kind and code, and what it tells besides. -/
def error (kind code : String) (more : List (String × Json)) : Json :=
  .object (("error", .text kind) :: ("code", .text code) :: more)

end Report

/-- A frame that is too long: its length and the limit. -/
def FrameTooLarge.report (error : FrameTooLarge) : Json :=
  Report.error "FrameTooLarge" FrameTooLarge.code
    [("message", .text error.message), ("length", .ofNat error.length), ("max", .ofNat error.limit)]

/-- The name of a kind of transport error. -/
def TransportError.kindName : TransportError → String
  | connectFailed .. => "ConnectFailed"
  | connectTimeout .. => "ConnectTimeout"
  | invalidAddress .. => "InvalidAddress"
  | channelClosed .. => "ChannelClosed"
  | timerStopped => "TimerStopped"
  | frame .. => "Frame"
  | io .. => "Io"

/-- A transport error: whether another attempt may help, and what caused it. -/
def TransportError.report (error : TransportError) : Json :=
  Report.error error.kindName error.code
    [("message", .text error.message), ("retryable", .boolean error.isRetryable),
     ("source", .orNull Json.text error.causeText?)]

/-- A connector's error; a failed connect tells its address and its cause. -/
def ConnectorError.report (error : ConnectorError) : Json :=
  match error with
  | connectFailed address cause =>
      Report.error "ConnectFailed" error.code
        [("message", .text error.message), ("address", .text address.text),
         ("source", cause.report)]
  | shutDown => Report.error "Shutdown" error.code [("message", .text error.message)]

/-- A pool's error and whatever else is known. -/
def PoolError.report (error : PoolError) (more : List (String × Json)) : Json :=
  match error with
  | noAvailableConnection address _ =>
      Report.error "NoAvailableConnection" error.code (("address", .text address.text) :: more)

/-- The name of a kind of payload error. -/
def PayloadError.kindName : PayloadError → String
  | unknownType _ => "UnknownType"
  | encode _ => "Encode"
  | decode _ => "Decode"

/-- A payload error and the type tag that it is about. -/
def PayloadError.report (error : PayloadError) : Json :=
  Report.error error.kindName error.code
    [("message", .text error.message), ("type_tag", .ofNat error.tag.toNat)]

/-- What is wrong with a configuration; an invalid value tells its field and the reason. -/
def ConfigError.report (error : ConfigError) : Json :=
  match error with
  | unreadable => Report.error "Parse" error.code []
  | invalid field reason =>
      Report.error "InvalidValue" error.code
        [("message", .text error.message), ("field", .text field), ("reason", .text reason)]

end Uplink
