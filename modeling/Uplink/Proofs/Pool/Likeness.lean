/-
Module: Uplink.Proofs.Pool.Likeness
Purpose: Channels and pools go the same way whatever was logged and whoever was told before.
Main exports: Event.isHeard, Roster.Alike, Roster.Alike.close, Roster.Alike.step
-/
import Uplink.Proofs.Pool.Roster

namespace Uplink

/-- Whether an observation is that a listener was told, or that it heard of a connection's completion. -/
def Event.isHeard : Event → Bool
  | .notified .. => true
  | .completed .. => true
  | _ => false

namespace Roster

/-- What was observed apart from what listeners heard. -/
def seen (roster : Roster) : List Event :=
  roster.journal.events.filter fun event => !event.isHeard

/-- Rosters that differ in nothing but log lines and what listeners heard. -/
structure Alike (first second : Roster) : Prop where
  now : second.now = first.now
  channels : second.channels = first.channels
  pools : second.pools = first.pools
  seen : second.seen = first.seen

theorem seen_record (roster : Roster) (event : Event) :
    (roster.record event).seen = roster.seen ++ if event.isHeard then [] else [event] := by
  simp only [seen, record, Journal.record, List.filter_append, List.filter_cons, List.filter_nil]
  cases event.isHeard <;> rfl

namespace Alike

variable {first second : Roster}

theorem refl (roster : Roster) : Alike roster roster :=
  ⟨rfl, rfl, rfl, rfl⟩

theorem symm (alike : Alike first second) : Alike second first :=
  ⟨alike.now.symm, alike.channels.symm, alike.pools.symm, alike.seen.symm⟩

theorem trans {third : Roster} (before : Alike first second) (after : Alike second third) :
    Alike first third :=
  ⟨after.now.trans before.now, after.channels.trans before.channels, after.pools.trans before.pools,
    after.seen.trans before.seen⟩

/-- The second roster is the first one with another journal. -/
theorem exists_journal (alike : Alike first second) : ∃ journal, second = { first with journal } := by
  refine ⟨second.journal, ?_⟩
  rw [← alike.now, ← alike.channels, ← alike.pools]

theorem foldl {Entry : Type} {change : Roster → Entry → Roster}
    (keeps : ∀ {first second : Roster}, Alike first second →
      ∀ entry, Alike (change first entry) (change second entry))
    (entries : List Entry) (alike : Alike first second) :
    Alike (entries.foldl change first) (entries.foldl change second) := by
  induction entries generalizing first second with
  | nil => exact alike
  | cons entry rest ih => exact ih (keeps alike entry)

/-! ### Single changes -/

theorem record (alike : Alike first second) (event : Event) :
    Alike (first.record event) (second.record event) := by
  refine ⟨alike.now, alike.channels, alike.pools, ?_⟩
  rw [seen_record, seen_record, alike.seen]

/-- What a listener heard makes no difference. -/
theorem record_heard (roster : Roster) {event : Event} (heard : event.isHeard = true) :
    Alike roster (roster.record event) := by
  refine ⟨rfl, rfl, rfl, ?_⟩
  rw [seen_record, heard]
  exact List.append_nil _

theorem log (alike : Alike first second) (line : LogLine) : Alike (first.log line) (second.log line) :=
  ⟨alike.now, alike.channels, alike.pools, alike.seen⟩

/-- A log line makes no difference. -/
theorem log_line (roster : Roster) (line : LogLine) : Alike roster (roster.log line) :=
  ⟨rfl, rfl, rfl, rfl⟩

theorem setPool (alike : Alike first second) (pool : Nat) (changed : Pool) :
    Alike (first.setPool pool changed) (second.setPool pool changed) :=
  ⟨alike.now, alike.channels, congrArg (·.set pool changed) alike.pools, alike.seen⟩

theorem changePool (alike : Alike first second) (pool : Nat) (change : Pool → Pool) :
    Alike (first.changePool pool change) (second.changePool pool change) :=
  ⟨alike.now, alike.channels, congrArg (·.modify pool change) alike.pools, alike.seen⟩

theorem changeChannel (alike : Alike first second) (channel : Nat) (change : Channel → Channel) :
    Alike (first.changeChannel channel change) (second.changeChannel channel change) := by
  simp only [Roster.changeChannel]
  split
  · exact alike
  · exact ⟨alike.now, congrArg (·.modify (channel - 1) change) alike.channels, alike.pools, alike.seen⟩

/-! ### Enrolling and evicting -/

theorem evict (alike : Alike first second) (pool channel : Nat) :
    Alike (first.evict pool channel).1 (second.evict pool channel).1 := by
  obtain ⟨journal, rfl⟩ := alike.exists_journal
  simp only [Roster.evict]
  cases first.pools[pool]? with
  | none => exact alike
  | some held =>
      dsimp only
      split
      · exact (alike.setPool pool _).log _
      · exact alike

theorem closing (alike : Alike first second) (channel : Nat) :
    second.closing channel = first.closing channel := by
  obtain ⟨journal, rfl⟩ := alike.exists_journal
  rfl

theorem sizeOf (alike : Alike first second) (pool : Nat) : second.sizeOf pool = first.sizeOf pool := by
  rw [Roster.sizeOf, Roster.sizeOf, alike.pools]

theorem entered (alike : Alike first second) (pool channel : Nat) (held : Pool) :
    Alike (first.entered pool channel held) (second.entered pool channel held) := by
  rw [Roster.entered, Roster.entered, alike.now]
  have placed := alike.setPool pool (held.enroll channel first.now.totalNanos).1
  rw [Roster.register, Roster.register, placed.closing]
  exact placed.changeChannel channel _

theorem admitted (alike : Alike first second) (pool channel : Nat) (held : Pool) :
    Alike (first.admitted pool channel held) (second.admitted pool channel held) := by
  have entered := alike.entered pool channel held
  rw [Roster.admitted, Roster.admitted, alike.closing]
  split
  · exact entered.evict pool channel
  · exact entered

/-- Both rosters enroll a channel, or neither does. -/
theorem enroll (alike : Alike first second) (pool channel : Nat) :
    Alike (first.enroll pool channel).1 (second.enroll pool channel).1
      ∧ (second.enroll pool channel).2 = (first.enroll pool channel).2 := by
  have pools := alike.pools
  cases found : first.pools[pool]? with
  | none =>
      rw [enroll_of_none found, enroll_of_none (by rw [pools]; exact found)]
      exact ⟨alike, rfl⟩
  | some held =>
      have alsoFound : second.pools[pool]? = some held := by rw [pools]; exact found
      by_cases member : channel ∈ held.members
      · rw [enroll_of_mem found member, enroll_of_mem alsoFound member, alike.now]
        exact ⟨alike.setPool pool _, rfl⟩
      · have admitted := alike.admitted pool channel held
        rw [enroll_of_not_mem found member, enroll_of_not_mem alsoFound member, admitted.sizeOf]
        exact ⟨admitted.log _, rfl⟩

theorem perform (alike : Alike first second) (pool : Nat) (call : PoolCall) :
    Alike (first.perform pool call) (second.perform pool call) := by
  cases call with
  | enroll channel => exact (alike.enroll pool channel).1
  | evict channel => exact alike.evict pool channel

/-! ### Closing -/

theorem runHook (alike : Alike first second) (channel : Nat) (hook : CloseHook) :
    Alike (first.runHook channel hook) (second.runHook channel hook) := by
  cases hook with
  | release pool => exact alike.evict pool channel
  | observe label pool reenrolls =>
      have measured := alike.record (.measured label (first.sizeOf pool))
      simp only [Roster.runHook, alike.sizeOf]
      split
      · obtain ⟨enrolled, sameFlag⟩ := measured.enroll pool channel
        rw [sameFlag]
        exact enrolled.record _
      · exact measured
  | calls pool made => exact foldl (fun alike call => alike.perform pool call) made alike

theorem runHooks (alike : Alike first second) (channel : Nat) (due : List CloseHook) :
    Alike (first.runHooks channel due) (second.runHooks channel due) :=
  foldl (fun alike hook => alike.runHook channel hook) due alike

theorem isOpen (alike : Alike first second) (channel : Nat) :
    second.isOpen channel = first.isOpen channel := by
  obtain ⟨journal, rfl⟩ := alike.exists_journal
  rfl

/-- Both rosters hand out the same handler of a channel that closes. -/
theorem close (alike : Alike first second) (channel : Nat) :
    Alike (first.close channel).1 (second.close channel).1
      ∧ (second.close channel).2 = (first.close channel).2 := by
  cases isOpen : first.isOpen channel with
  | false =>
      rw [close_of_not_open isOpen, close_of_not_open ((alike.isOpen channel).trans isOpen)]
      exact ⟨alike, rfl⟩
  | true =>
      rw [close_of_open isOpen, close_of_open ((alike.isOpen channel).trans isOpen), alike.closing]
      refine ⟨((alike.changeChannel channel _).runHooks channel _).changeChannel channel _, ?_⟩
      rw [channel?, channel?, alike.channels]

theorem listen (alike : Alike first second) (channel : Nat) (hook : CloseHook) :
    Alike (first.listen channel hook) (second.listen channel hook) := by
  simp only [Roster.listen, alike.closing]
  exact (alike.changeChannel channel _).runHooks channel _

theorem openChannel (alike : Alike first second) (handler : Option Nat) :
    Alike (first.openChannel handler).1 (second.openChannel handler).1
      ∧ (second.openChannel handler).2 = (first.openChannel handler).2 := by
  obtain ⟨journal, rfl⟩ := alike.exists_journal
  exact ⟨⟨rfl, rfl, rfl, alike.seen⟩, rfl⟩

/-- Whatever happens to both rosters leaves them alike. -/
theorem step (alike : Alike first second) (event : RosterEvent) :
    Alike (first.step event) (second.step event) := by
  cases event with
  | openChannel handler => exact (alike.openChannel handler).1
  | addPool address config =>
      obtain ⟨journal, rfl⟩ := alike.exists_journal
      exact ⟨rfl, rfl, rfl, alike.seen⟩
  | enroll pool channel => exact (alike.enroll pool channel).1
  | evict pool channel => exact alike.evict pool channel
  | close channel => exact (alike.close channel).1
  | listen channel hook => exact alike.listen channel hook
  | setWarmUp pool warmUp => exact alike.changePool pool _
  | setCapacity pool capacity => exact alike.changePool pool _
  | takeTurns pool count =>
      obtain ⟨journal, rfl⟩ := alike.exists_journal
      simp only [Roster.step, takeTurns]
      cases first.pools[pool]? with
      | none => exact alike
      | some held => exact alike.setPool pool _
  | advance delta =>
      obtain ⟨journal, rfl⟩ := alike.exists_journal
      exact ⟨rfl, rfl, rfl, alike.seen⟩

end Alike

end Roster

end Uplink
