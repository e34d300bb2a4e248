/-
Module: Uplink.Transport.Operation
Purpose: The operations in which the system may report a fault, and the labels that errors give them.
Main exports: TcpOperation, TransportOperation, TransportOperation.label, TransportOperation.ofLabel
-/

namespace Uplink

/-- What a TCP channel was doing, or the bootstrap that was to open it. -/
inductive TcpOperation where
  | configure
  | read
  | write
  | spawn
deriving DecidableEq, Repr, Inhabited

namespace TcpOperation

/-- The words for an operation. -/
def label : TcpOperation → String
  | configure => "tcp configure"
  | read => "tcp read"
  | write => "tcp write"
  | spawn => "tcp connect task"

/-- Every operation. -/
def all : List TcpOperation := [configure, read, write, spawn]

end TcpOperation

/-- What was being done when the system reported a fault.  Errors name the transport's own operations and
no others. -/
inductive TransportOperation where
  | tcp (operation : TcpOperation)
  | runtimeLookup
  | unnamed
deriving DecidableEq, Repr, Inhabited

namespace TransportOperation

/-- The words for an operation; one of somebody else has none. -/
def label : TransportOperation → String
  | tcp operation => operation.label
  | runtimeLookup => "tokio runtime lookup"
  | unnamed => ""

/-- Every operation that has a name. -/
def named : List TransportOperation := TcpOperation.all.map tcp ++ [runtimeLookup]

/-- The operation with a label; words that are no label leave it unnamed. -/
def ofLabel (words : String) : TransportOperation :=
  (named.find? fun operation => operation.label == words).getD unnamed

/-- Labels tell operations apart. -/
theorem ofLabel_label (operation : TransportOperation) : ofLabel operation.label = operation := by
  cases operation with
  | tcp operation => cases operation <;> decide
  | runtimeLookup => decide
  | unnamed => decide

end TransportOperation

end Uplink
