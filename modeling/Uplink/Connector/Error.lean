/-
Module: Uplink.Connector.Error
Purpose: What can go wrong when a connection is asked for.
Main exports: PoolError, ConnectorError
-/
import Uplink.Transport.Address

namespace Uplink

/-- A pool had no member for as long as the caller waited. -/
inductive PoolError where
  | noAvailableConnection (address : Address) (waited : Span)
deriving DecidableEq, Repr, Inhabited

namespace PoolError

/-- The error's text. -/
def message : PoolError → String
  | noAvailableConnection address waited =>
      "no available connection to " ++ address.text ++ " after waiting " ++ waited.text

/-- The error's stable code. -/
def code : PoolError → String
  | noAvailableConnection .. => "spark.connector.pool.no_available_connection"

end PoolError

/-- A connect failed, or the connector was shut down before. -/
inductive ConnectorError where
  | connectFailed (address : Address) (cause : TransportError)
  | shutDown
deriving DecidableEq, Repr, Inhabited

namespace ConnectorError

/-- The error's text. -/
def message : ConnectorError → String
  | connectFailed address _ => "connect to " ++ address.text ++ " failed"
  | shutDown => "connector has been shut down"

/-- The error's stable code. -/
def code : ConnectorError → String
  | connectFailed .. => "spark.connector.connect_failed"
  | shutDown => "spark.connector.shutdown"

end ConnectorError

end Uplink
