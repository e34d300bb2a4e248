/-
Module: Uplink.Time.Timeout
Purpose: The fate of one delayed task: it is cancelled or it fires, and only one of the two.
Main exports: Timeout, Timeout.cancel, Timeout.markFired
-/

namespace Uplink

/-- The state of a delayed task. -/
inductive Timeout where
  | pending
  | cancelled
  | fired
deriving DecidableEq, Repr, Inhabited

namespace Timeout

/-- Cancel a task; the flag says whether it was still pending. -/
def cancel : Timeout → Timeout × Bool
  | pending => (cancelled, true)
  | settled => (settled, false)

/-- Begin a task; the flag says whether it was still pending. -/
def markFired : Timeout → Timeout × Bool
  | pending => (fired, true)
  | settled => (settled, false)

/-- The name of a state. -/
def name : Timeout → String
  | pending => "pending"
  | cancelled => "cancelled"
  | fired => "fired"

/-- The state with the type's name around it. -/
def description (timeout : Timeout) : String :=
  "Timeout \x7b state: \"" ++ timeout.name ++ "\" \x7d"

end Timeout

end Uplink
