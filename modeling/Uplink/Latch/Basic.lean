/-
Module: Uplink.Latch.Basic
Purpose: Latches: hooks wait until something is done, once and for all.
Main exports: Latch, Latch.listen, Latch.complete, Latch.isDone
-/
import Uplink.Log

namespace Uplink

/-- A latch: open with the hooks that wait, in the order in which they came, or done. -/
inductive Latch (Hook : Type) where
  | waiting (hooks : List Hook)
  | done
deriving DecidableEq, Repr

instance {Hook : Type} : Inhabited (Latch Hook) := ⟨.waiting []⟩

namespace Latch

variable {Hook : Type}

/-- The latch nobody waits for yet. -/
def fresh : Latch Hook := waiting []

/-- Whether a latch is done. -/
def isDone : Latch Hook → Bool
  | done => true
  | waiting _ => false

/-- The hooks that wait. -/
def hooks : Latch Hook → List Hook
  | done => []
  | waiting hooks => hooks

/-- Register a hook.  On a latch that is done it does not wait: it is handed back, to be run now. -/
def listen (hook : Hook) : Latch Hook → Latch Hook × List Hook
  | waiting hooks => (waiting (hooks ++ [hook]), [])
  | done => (done, [hook])

/-- Complete a latch.  The flag says whether it was open; the hooks that waited are handed out, to be
run in order. -/
def complete : Latch Hook → Latch Hook × Bool × List Hook
  | waiting hooks => (done, true, hooks)
  | done => (done, false, [])

/-- The latch with its type's name around it. -/
def description (latch : Latch Hook) : String :=
  "CloseFuture \x7b done: " ++ flagText latch.isDone ++ " \x7d"

end Latch

end Uplink
