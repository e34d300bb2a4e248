/-
Module: Uplink.Proofs.Pool.Discreet
Purpose: What channels and pools add to the journal: plain observations, that neither begin an attempt nor
  tell a listener.
Main exports: Event.isPlain, Roster.Discreet, Roster.Discreet.filterMap, Roster.Discreet.close,
  Roster.Discreet.step
-/
import Uplink.Proofs.Pool.Roster

namespace Uplink

/-- Whether an observation is neither the beginning of an attempt nor that of a listener's being told. -/
def Event.isPlain : Event → Bool
  | .connecting _ => false
  | .notified .. => false
  | _ => true

namespace Roster

/-- A change after which only plain observations are new. -/
def Discreet (before after : Roster) : Prop :=
  ∃ seen, after.journal.events = before.journal.events ++ seen ∧ ∀ event ∈ seen, event.isPlain = true

namespace Discreet

variable {before after : Roster}

/-- A change after which nothing new was observed. -/
theorem of_events (same : after.journal.events = before.journal.events) : Discreet before after :=
  ⟨[], by rw [same, List.append_nil], fun _ isSeen => absurd isSeen List.not_mem_nil⟩

theorem refl (roster : Roster) : Discreet roster roster :=
  of_events rfl

theorem trans {last : Roster} (first : Discreet before after) (second : Discreet after last) :
    Discreet before last := by
  obtain ⟨seen, isSeen, plain⟩ := first
  obtain ⟨more, isMore, plainMore⟩ := second
  refine ⟨seen ++ more, by rw [isMore, isSeen, List.append_assoc], ?_⟩
  intro event isNew
  rcases List.mem_append.1 isNew with earlier | later
  · exact plain event earlier
  · exact plainMore event later

theorem foldl {Entry : Type} {change : Roster → Entry → Roster}
    (keeps : ∀ changed entry, Discreet changed (change changed entry)) (entries : List Entry)
    (roster : Roster) : Discreet roster (entries.foldl change roster) := by
  induction entries generalizing roster with
  | nil => exact refl roster
  | cons entry rest ih => exact (keeps roster entry).trans (ih _)

/-- What disregards plain observations sees no difference. -/
theorem filterMap (discreet : Discreet before after) {Shown : Type} {view : Event → Option Shown}
    (disregards : ∀ event, event.isPlain = true → view event = none) :
    after.journal.events.filterMap view = before.journal.events.filterMap view := by
  obtain ⟨seen, isSeen, plain⟩ := discreet
  have nothing : seen.filterMap view = [] :=
    List.filterMap_eq_nil_iff.2 fun event isNew => disregards event (plain event isNew)
  rw [isSeen, List.filterMap_append, nothing, List.append_nil]

theorem record (roster : Roster) {event : Event} (plain : event.isPlain = true) :
    Discreet roster (roster.record event) :=
  ⟨[event], rfl, fun _ isSeen => List.mem_singleton.1 isSeen ▸ plain⟩

theorem changeChannel (roster : Roster) (channel : Nat) (change : Channel → Channel) :
    Discreet roster (roster.changeChannel channel change) := by
  apply of_events
  simp only [Roster.changeChannel]
  split <;> rfl

theorem evict (roster : Roster) (pool channel : Nat) : Discreet roster (roster.evict pool channel).1 := by
  apply of_events
  cases found : roster.pools[pool]? with
  | none => rw [evict_of_none found]
  | some held =>
      rw [evict_of_some found]
      split <;> rfl

theorem enroll (roster : Roster) (pool channel : Nat) :
    Discreet roster (roster.enroll pool channel).1 := by
  cases found : roster.pools[pool]? with
  | none =>
      rw [enroll_of_none found]
      exact refl roster
  | some held =>
      by_cases member : channel ∈ held.members
      · rw [enroll_of_mem found member]
        exact of_events rfl
      · have entered : Discreet roster (roster.entered pool channel held) :=
          changeChannel (roster.setPool pool _) channel _
        rw [enroll_of_not_mem found member]
        change Discreet roster (roster.admitted pool channel held)
        rw [admitted]
        split
        · exact entered.trans (evict _ pool channel)
        · exact entered

theorem perform (roster : Roster) (pool : Nat) (call : PoolCall) :
    Discreet roster (roster.perform pool call) := by
  cases call with
  | enroll channel => exact enroll roster pool channel
  | evict channel => exact evict roster pool channel

theorem runHook (roster : Roster) (channel : Nat) (hook : CloseHook) :
    Discreet roster (roster.runHook channel hook) := by
  cases hook with
  | release pool => exact evict roster pool channel
  | observe label pool reenrolls =>
      have measured : Discreet roster (roster.record (.measured label (roster.sizeOf pool))) :=
        record roster rfl
      rw [Roster.runHook]
      split
      · exact measured.trans ((enroll _ pool channel).trans (record _ rfl))
      · exact measured
  | calls pool made => exact foldl (fun changed call => perform changed pool call) made roster

theorem runHooks (channel : Nat) (due : List CloseHook) (roster : Roster) :
    Discreet roster (roster.runHooks channel due) :=
  foldl (fun changed hook => runHook changed channel hook) due roster

theorem close (roster : Roster) (channel : Nat) : Discreet roster (roster.close channel).1 := by
  cases isOpen : roster.isOpen channel with
  | false =>
      rw [close_of_not_open isOpen]
      exact refl roster
  | true =>
      rw [close_of_open isOpen]
      exact (changeChannel roster channel _).trans
        ((runHooks channel _ _).trans (changeChannel _ channel _))

theorem listen (roster : Roster) (channel : Nat) (hook : CloseHook) :
    Discreet roster (roster.listen channel hook) :=
  (changeChannel roster channel _).trans (runHooks channel _ _)

theorem step (roster : Roster) (event : RosterEvent) : Discreet roster (roster.step event) := by
  cases event with
  | enroll pool channel => exact enroll roster pool channel
  | evict pool channel => exact evict roster pool channel
  | close channel => exact close roster channel
  | listen channel hook => exact listen roster channel hook
  | takeTurns pool count =>
      apply of_events
      rw [Roster.step, takeTurns]
      split <;> rfl
  | _ => exact of_events rfl

end Discreet

end Roster

end Uplink
