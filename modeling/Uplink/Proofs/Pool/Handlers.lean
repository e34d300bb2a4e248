/-
Module: Uplink.Proofs.Pool.Handlers
Purpose: Who handles a channel: work on pools and what hooks do hand no channel to a watchdog, and closing a
  channel takes its handler off.
Main exports: Roster.handler?, RosterEvent.isBystander, Roster.handler?_enroll, Roster.handler?_listen,
  Roster.handler?_close, Roster.handler?_step
-/
import Uplink.Pool.Run
import Uplink.Proofs.Pool.Roster

namespace Uplink

namespace Roster

/-- The watchdog that handles a channel. -/
def handler? (roster : Roster) (channel : Nat) : Option Nat :=
  (roster.channel? channel).bind Channel.handler

theorem handler?_of_channels {before after : Roster} (same : after.channels = before.channels) :
    after.handler? = before.handler? := by
  funext channel
  rw [handler?, channel?, same]
  rfl

theorem handler?_changeChannel (roster : Roster) (channel other : Nat) {change : Channel → Channel}
    (keeps : ∀ found, (change found).handler = found.handler) :
    (roster.changeChannel channel change).handler? other = roster.handler? other := by
  rw [handler?, channel?_changeChannel]
  split
  · rw [handler?]
    cases roster.channel? other with
    | none => rfl
    | some found => exact keeps found
  · rfl

theorem handler?_openChannel (roster : Roster) (handler : Option Nat) (other : Nat) :
    (roster.openChannel handler).1.handler? other
      = if other = roster.channels.length + 1 then handler else roster.handler? other := by
  rw [handler?, channel?_openChannel]
  split <;> rfl

theorem handler?_evict (roster : Roster) (pool channel other : Nat) :
    (roster.evict pool channel).1.handler? other = roster.handler? other := by
  rw [handler?, channel?_evict]
  rfl

theorem handler?_enroll (roster : Roster) (pool channel other : Nat) :
    (roster.enroll pool channel).1.handler? other = roster.handler? other := by
  rw [handler?, channel?_enroll]
  split
  · rw [handler?]
    cases roster.channel? other <;> rfl
  · rfl

theorem handler?_perform (roster : Roster) (pool : Nat) (call : PoolCall) (other : Nat) :
    (roster.perform pool call).handler? other = roster.handler? other := by
  cases call with
  | enroll channel => exact handler?_enroll roster pool channel other
  | evict channel => exact handler?_evict roster pool channel other

theorem handler?_runHook (roster : Roster) (channel : Nat) (hook : CloseHook) (other : Nat) :
    (roster.runHook channel hook).handler? other = roster.handler? other := by
  cases hook with
  | release pool => exact handler?_evict roster pool channel other
  | observe label pool reenrolls =>
      rw [runHook]
      split
      · exact handler?_enroll (roster.record (.measured label (roster.sizeOf pool))) pool channel other
      · rfl
  | calls pool made =>
      rw [runHook]
      induction made generalizing roster with
      | nil => rfl
      | cons call rest ih => exact (ih _).trans (handler?_perform roster pool call other)

theorem handler?_runHooks (channel : Nat) (due : List CloseHook) (roster : Roster) (other : Nat) :
    (roster.runHooks channel due).handler? other = roster.handler? other := by
  induction due generalizing roster with
  | nil => rfl
  | cons hook rest ih => exact (ih _).trans (handler?_runHook roster channel hook other)

theorem handler?_listen (roster : Roster) (channel : Nat) (hook : CloseHook) (other : Nat) :
    (roster.listen channel hook).handler? other = roster.handler? other :=
  (handler?_runHooks channel _ _ other).trans
    (handler?_changeChannel roster channel other fun _ => rfl)

theorem handler?_unhandle (roster : Roster) (channel other : Nat) :
    (roster.unhandle channel).handler? other = if other = channel then none else roster.handler? other := by
  rw [handler?, channel?_unhandle]
  split
  · cases roster.channel? other <;> rfl
  · rfl

/-- An open channel that closes loses its handler, whatever its hooks do. -/
theorem handler?_close (roster : Roster) (channel other : Nat) :
    (roster.close channel).1.handler? other
      = if roster.isOpen channel = true ∧ other = channel then none else roster.handler? other := by
  cases isOpen : roster.isOpen channel with
  | false =>
      rw [close_of_not_open isOpen, if_neg (fun both => absurd both.1 Bool.false_ne_true)]
  | true =>
      rw [close_of_open isOpen, handler?_unhandle, handler?_runHooks]
      simp only [true_and]
      split
      · rfl
      · exact handler?_changeChannel roster channel other fun _ => rfl

/-- The handler that is to be told of a closing is the one that the channel had. -/
theorem handler?_of_close {roster : Roster} {channel number : Nat}
    (told : (roster.close channel).2 = some number) : roster.handler? channel = some number := by
  cases isOpen : roster.isOpen channel with
  | false =>
      rw [close_of_not_open isOpen] at told
      cases told
  | true =>
      rw [close_of_open isOpen] at told
      exact told

end Roster

/-- Whether an event is none of the watchdogs' business: it opens no channel for one, and closes no
channel, which the channel's watchdog would have to be told. -/
def RosterEvent.isBystander : RosterEvent → Bool
  | .openChannel handler => handler.isNone
  | .close _ => false
  | _ => true

/-- What is none of their business hands no channel to a watchdog. -/
theorem Roster.handler?_step (roster : Roster) {event : RosterEvent} (bystander : event.isBystander = true)
    {channel number : Nat} (handles : (roster.step event).handler? channel = some number) :
    roster.handler? channel = some number := by
  cases event with
  | openChannel handler =>
      rw [Roster.step, handler?_openChannel] at handles
      split at handles
      · rw [handles] at bystander
        cases bystander
      · exact handles
  | close channel => cases bystander
  | enroll pool other => exact (handler?_enroll roster pool other channel).symm.trans handles
  | evict pool other => exact (handler?_evict roster pool other channel).symm.trans handles
  | listen other hook => exact (handler?_listen roster other hook channel).symm.trans handles
  | takeTurns pool count =>
      rw [Roster.step, takeTurns] at handles
      split at handles <;> exact handles
  | addPool | setWarmUp | setCapacity | advance => exact handles

end Uplink
