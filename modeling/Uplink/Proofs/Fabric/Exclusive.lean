/-
Module: Uplink.Proofs.Fabric.Exclusive
Purpose: No step engages a watchdog twice: an engagement is given up before the next one takes its place,
  also when the timer has stopped.
Main exports: Outline.Spends, Outline.Spends.nodup, Outline.spends_close, Outline.spends_settle,
  Outline.spends_fire, Outline.spends_turnSwitch, Outline.spends_stopTimer
-/
import Mathlib.Data.List.Perm.Subperm
import Uplink.Proofs.Fabric.Engagement

namespace Uplink

namespace ManualTimer

/-- Cancelling takes tasks off those that are still to run, and adds none. -/
theorem waiting_cancel_sublist {Task : Type} (timer : ManualTimer Task) (handle : Nat) :
    (timer.cancel handle).waiting.Sublist timer.waiting := by
  have fewer : ∀ entries : List (TimerEntry Task),
      (entries.filter (timer.cancel handle).isWaiting).Sublist (entries.filter timer.isWaiting) := by
    intro entries
    exact List.monotone_filter_right entries fun _ waits => isWaiting_of_cancel waits
  exact (fewer timer.entries).map TimerEntry.task

end ManualTimer

namespace Outline

/-- What one step leaves of the engagements: none but those that were there or are gained, each at most as
often as before.  Watchdogs stay where they are. -/
structure Spends (before after : Outline) (gained : List Nat) : Prop where
  engaged : after.engagements.Subperm (gained ++ before.engagements)
  seats : after.posts.map Post.seat = before.posts.map Post.seat
  switches : after.switches = before.switches
  sound : ∀ groups bound, before.Sound groups bound →
    (∀ number ∈ gained, number < before.posts.length) → after.Sound groups bound

variable {before middle after outline : Outline} {gained spent : List Nat}

/-- A step that keeps the books engages nobody besides. -/
theorem Carries.spends (carries : Carries before after gained) : Spends before after gained := by
  refine ⟨?_, seats_of_stations carries.steady, carries.switches, carries.sound⟩
  rcases carries.balance with all | ⟨number, rest, -⟩
  · exact all.symm.subperm
  · exact (List.sublist_cons_self number _).subperm.trans rest.symm.subperm

/-- Whoever was engaged once at most still is. -/
theorem Spends.nodup (spends : Spends before after gained)
    (single : (gained ++ before.engagements).Nodup) : after.engagements.Nodup := by
  obtain ⟨part, perm, isPart⟩ := spends.engaged
  exact (single.sublist isPart).perm perm

/-- Nothing happens, and what could have been gained is not. -/
theorem spends_refl (outline : Outline) (gained : List Nat) : Spends outline outline gained :=
  ⟨(List.sublist_append_right gained _).subperm, rfl, rfl, fun _ _ sound _ => sound⟩

/-- Taking some engagements off first, and spending them in the step that follows. -/
theorem Spends.of_perm
    (perm : (gained ++ before.engagements).Perm (spent ++ middle.engagements))
    (seats : middle.posts.map Post.seat = before.posts.map Post.seat)
    (switches : middle.switches = before.switches)
    (sound : ∀ groups bound, before.Sound groups bound →
      (∀ number ∈ gained, number < before.posts.length) → middle.Sound groups bound)
    (spends : Spends middle after spent) : Spends before after gained := by
  refine ⟨spends.engaged.trans perm.symm.subperm, spends.seats.trans seats,
    spends.switches.trans switches, ?_⟩
  intro groups bound isSound exist
  apply spends.sound groups bound (sound groups bound isSound exist)
  intro number isSpent
  rw [length_of_seats seats]
  rcases List.mem_append.1 (perm.mem_iff.2 (List.mem_append_left _ isSpent)) with isGained | wasEngaged
  · exact exist number isGained
  · exact isSound.known number wasEngaged

/-! ### Retries -/

/-- A stopped timer takes no retry. -/
theorem schedule_of_stopped (isStopped : outline.timer.stopped = true) (number : Nat) :
    outline.schedule number = outline := by
  simp only [Outline.schedule, ManualTimer.schedule]
  rw [if_pos isStopped]

theorem spends_schedule (timer : outline.timer.Sound) (number : Nat) :
    Spends outline (outline.schedule number) [number] := by
  cases stopped : outline.timer.stopped with
  | false => exact (carries_schedule timer stopped number).spends
  | true =>
      rw [schedule_of_stopped stopped]
      exact spends_refl outline [number]

theorem spends_lose (timer : outline.timer.Sound) (number : Nat) :
    Spends outline (outline.lose number) [number] := by
  rcases lose_cases outline number with ⟨same, -⟩ | same
  · rw [same]
    exact spends_refl outline [number]
  · rw [same]
    exact spends_schedule timer number

/-! ### Channels -/

/-- A channel that closes leaves its watchdog at most a retry. -/
theorem spends_close (timer : outline.timer.Sound) (channel : Nat) :
    Spends outline (outline.close channel) [] := by
  simp only [Outline.close]
  cases isLink : outline.link? channel with
  | none => exact spends_refl outline []
  | some number =>
      have sameTimer : (outline.shut channel).timer.Sound := timer
      have ended : ([] ++ outline.engagements).Perm ([number] ++ (outline.shut channel).engagements) :=
        engagements_shut isLink
      exact Spends.of_perm ended rfl rfl (fun _ _ sound _ => sound.shut isLink)
        (spends_lose sameTimer number)

theorem links_lose (outline : Outline) (number : Nat) : (outline.lose number).links = outline.links := by
  rcases lose_cases outline number with ⟨same, -⟩ | same
  · rw [same]
  · simp only [same, Outline.schedule]
    split <;> rfl

/-- A watchdog that is engaged once has no other channel when this one closes, and nobody else loses one. -/
theorem mem_links_close (single : outline.engagements.Nodup) {channel number : Nat}
    (isLink : outline.link? channel = some number) :
    some number ∉ (outline.close channel).links ∧
      ∀ other, other ≠ number → (some other ∈ (outline.close channel).links ↔ some other ∈ outline.links) := by
  have closed : (outline.close channel).links = outline.links.set (channel - 1) none := by
    simp only [Outline.close, isLink, links_lose]
    rfl
  obtain ⟨bound, isThere⟩ := List.getElem?_eq_some_iff.1 (getElem?_of_link? isLink)
  have before := List.getElem_cons_eraseIdx_perm bound
  have after := List.set_perm_cons_eraseIdx bound none
  rw [isThere] at before
  rw [closed]
  constructor
  · intro stillLinked
    have alone := (List.nodup_cons.1 ((engagements_shut isLink).nodup_iff.1 single)).1
    exact alone (List.mem_append_left _ (List.mem_filterMap.2 ⟨some number, stillLinked, rfl⟩))
  · intro other different
    rw [after.mem_iff, ← before.mem_iff, List.mem_cons, List.mem_cons]
    simp only [reduceCtorEq, false_or, Option.some.injEq, different]

theorem spends_establish (timer : outline.timer.Sound) (number : Nat) (flaps : Bool) :
    Spends outline (outline.establish number flaps) [number] := by
  have isUp := (carries_up outline number).spends
  simp only [Outline.establish]
  cases flaps with
  | false => exact isUp
  | true =>
      have sameTimer : (outline.up number).timer.Sound := timer_up outline number ▸ timer
      exact Spends.of_perm (engagements_up outline number) isUp.seats isUp.switches isUp.sound
        (spends_close sameTimer (outline.links.length + 1))

/-! ### Attempts -/

theorem spends_conclude (timer : outline.timer.Sound) (number : Nat) (origin : Origin)
    (outcome : Outcome) : Spends outline (outline.conclude number origin outcome) [number] := by
  cases outcome with
  | established => exact spends_establish timer number false
  | flapped => exact spends_establish timer number true
  | failed error =>
      cases origin with
      | retry => exact spends_lose timer number
      | caller => exact spends_refl outline [number]

/-- An attempt that ends leaves its watchdog a channel, a retry or nothing. -/
theorem spends_settle (timer : outline.timer.Sound) (place : Nat) (outcome : Outcome) :
    Spends outline (outline.settle place outcome) [] := by
  simp only [Outline.settle]
  cases isThere : outline.attempts[place]? with
  | none => exact spends_refl outline []
  | some attempt =>
      obtain ⟨number, origin⟩ := attempt
      let left : Outline := { outline with attempts := outline.attempts.eraseIdx place }
      have sameTimer : left.timer.Sound := timer
      have ended : ([] ++ outline.engagements).Perm ([number] ++ left.engagements) :=
        engagements_end isThere
      exact Spends.of_perm ended rfl rfl (fun _ _ sound _ => sound.of_attempts place)
        (spends_conclude sameTimer number origin outcome)

theorem spends_fire (timer : outline.timer.Sound) (index : Nat) :
    Spends outline (outline.fire index) [] :=
  (carries_fire timer index).spends

theorem links_fire (outline : Outline) (index : Nat) : (outline.fire index).links = outline.links := by
  simp only [Outline.fire]
  split
  · simp only [Outline.retry, Outline.dial]
    split
    · rfl
    · split <;> rfl
  · rfl

/-! ### Starting and stopping -/

theorem spends_start (outline : Outline) (number : Nat) : Spends outline (outline.start number) [] :=
  ⟨List.Subperm.refl _, seats_start outline number, rfl, fun _ _ sound _ => sound.start number⟩

/-- A watchdog that is stopped loses the retry that it remembers, if anything. -/
theorem spends_stop (outline : Outline) (number : Nat) : Spends outline (outline.stop number) [] := by
  refine ⟨?_, seats_stop outline number, switches_stop outline number, fun _ _ sound _ => sound.stop number⟩
  cases isThere : outline.posts[number]? with
  | none =>
      rw [stop_of_none isThere]
      exact List.Subperm.refl _
  | some post =>
      rw [stop_of_some isThere]
      cases post.pending with
      | none => exact List.Subperm.refl _
      | some handle =>
          have fewer := (ManualTimer.waiting_cancel_sublist outline.timer handle).append_right
            (outline.attempts.map Prod.fst)
          exact (fewer.append_left (outline.links.filterMap id)).subperm

theorem links_stop (outline : Outline) (number : Nat) : (outline.stop number).links = outline.links := by
  simp only [Outline.stop]
  split
  · rfl
  · rename_i post _
    cases post.pending <;> rfl

theorem spends_turnSwitch (outline : Outline) (connection : Nat) (enabled : Bool) :
    Spends outline (outline.turnSwitch connection enabled) [] := by
  rcases turnSwitch_cases outline connection enabled with same | ⟨_, number, -, turned⟩
  · rw [same]
    exact spends_refl outline []
  · rw [turned]
    cases enabled with
    | true => exact spends_start outline number
    | false => exact spends_stop outline number

theorem links_turnSwitch (outline : Outline) (connection : Nat) (enabled : Bool) :
    (outline.turnSwitch connection enabled).links = outline.links := by
  rcases turnSwitch_cases outline connection enabled with same | ⟨_, number, -, turned⟩
  · rw [same]
  · rw [turned]
    cases enabled with
    | true => rfl
    | false => exact links_stop outline number

/-- The outline once the timer has stopped: no retry is left. -/
def stopTimer (outline : Outline) : Outline :=
  { outline with timer := outline.timer.stop }

theorem spends_stopTimer (outline : Outline) : Spends outline outline.stopTimer [] := by
  have fewer : outline.stopTimer.engagements.Sublist outline.engagements := by
    have none : ([] : List Nat).Sublist outline.timer.waiting := List.nil_sublist _
    exact (none.append_right _).append_left _
  refine ⟨fewer.subperm, rfl, rfl, ?_⟩
  intro groups bound sound _
  refine sound.of_seats ⟨fun _ isEntry => ?_, List.nodup_nil⟩ rfl rfl rfl rfl fun number isEngaged => ?_
  · exact absurd isEntry List.not_mem_nil
  · exact sound.known number (fewer.subset isEngaged)

end Outline

end Uplink
