/-
Module: Uplink.Tcp.Fault
Purpose: System faults of TCP operations: the transport error each becomes, and how it is logged.
Main exports: TcpOperation.code, TcpOperation.error, TcpOperation.faultLine
-/
import Uplink.Log
import Uplink.Transport.Error

namespace Uplink

/-- The target of log lines about TCP. -/
def tcpTarget : String := "spark.transport.tcp"

namespace TcpOperation

/-- The stable code of a failed operation. -/
def code : TcpOperation → String
  | configure => "spark.transport.tcp.configure_failed"
  | read => "spark.transport.tcp.read_failed"
  | write => "spark.transport.tcp.write_failed"
  | spawn => "spark.transport.tcp.spawn_failed"

/-- The transport error that a fault becomes. -/
def error (operation : TcpOperation) (fault : SystemFault) : TransportError :=
  .io (.tcp operation) fault

/-- The log line of a fault. -/
def faultLine (operation : TcpOperation) (fault : SystemFault) : LogLine :=
  { level := .trace, target := tcpTarget, message := "io error"
    fields := [("code", operation.code), ("kind", fault.kind.name)] }

end TcpOperation

end Uplink
