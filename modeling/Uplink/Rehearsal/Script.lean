/-
Module: Uplink.Rehearsal.Script
Purpose: Scripts that say how attempts to connect end, and what happens while they are under way.
Main exports: ScriptHook, ScriptEnding, ScriptEntry, Script, Script.next, Fabric.runHook
-/
import Uplink.Fabric.Link

namespace Uplink

/-- What happens while an attempt is under way: a watchdog is stopped or started, or a new channel is
enrolled in a pool. -/
inductive ScriptHook where
  | stop (watchdog : Nat)
  | start (watchdog : Nat)
  | fill (pool : Nat)
deriving DecidableEq, Repr, Inhabited

/-- How an attempt ends: with a channel, with a channel that closes at once, because the other side
refuses, or with a given error. -/
inductive ScriptEnding where
  | established
  | flapped
  | refused
  | failed (error : TransportError)
deriving DecidableEq, Repr, Inhabited

/-- What a script says about one attempt. -/
structure ScriptEntry where
  hooks : List ScriptHook
  ending : ScriptEnding
deriving DecidableEq, Repr, Inhabited

/-- Entries for the attempts to come, and one for those after them. -/
structure Script where
  entries : List ScriptEntry
  fallback : ScriptEntry
deriving DecidableEq, Repr, Inhabited

/-- The entry for the next attempt. -/
def Script.next (script : Script) : Script × ScriptEntry :=
  match script.entries with
  | [] => (script, script.fallback)
  | entry :: rest => ({ script with entries := rest }, entry)

/-- The outcome of an attempt to reach an address. -/
def ScriptEnding.outcome (address : Address) : ScriptEnding → Outcome
  | established => .established
  | flapped => .flapped
  | refused => .failed (.connectFailed address.text (.ofKind .connectionRefused))
  | failed error => .failed error

namespace Fabric

/-- Run a hook, and show what it changed.  One that names a watchdog or a pool that is not there does
nothing. -/
def runHook (fabric : Fabric) : ScriptHook → Fabric
  | .stop watchdog =>
      if watchdog < fabric.watchdogs.length then
        let stopped := fabric.stop watchdog
        stopped.1.record (.hookStopped stopped.2)
      else
        fabric
  | .start watchdog =>
      if watchdog < fabric.watchdogs.length then
        let started := fabric.start watchdog
        started.1.record (.hookStarted started.2)
      else
        fabric
  | .fill pool =>
      if pool < fabric.roster.pools.length then
        let opened := fabric.roster.openChannel none
        let enrolled := opened.1.enroll pool opened.2
        ({ fabric with roster := enrolled.1 } : Fabric).record (.hookEnrolled enrolled.2)
      else
        fabric

/-- Run hooks in order. -/
def runHooks (fabric : Fabric) (hooks : List ScriptHook) : Fabric :=
  hooks.foldl runHook fabric

/-- The address that the attempt at a place among those under way wants to reach. -/
def addressOf? (fabric : Fabric) (place : Nat) : Option Address :=
  match fabric.underWay[place]? with
  | some attempt => (fabric.watchdogs[attempt.watchdog]?).map Watchdog.address
  | none => none

/-- The outcome that an entry gives to the attempt at a place. -/
def scriptedOutcome (fabric : Fabric) (place : Nat) (ending : ScriptEnding) : Outcome :=
  match fabric.addressOf? place with
  | some address => ending.outcome address
  | none => .failed .timerStopped

end Fabric

end Uplink
