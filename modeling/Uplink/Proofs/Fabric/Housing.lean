/-
Module: Uplink.Proofs.Fabric.Housing
Purpose: Every open channel is a member of its watchdog's pool, so the pools are empty exactly if all
  channels are closed.  An attempt that ends leaves an open channel only if it is established.
Main exports: Outline.Housed, Outline.Stays, Outline.Housed.close, Outline.Housed.settle, Outline.Live,
  Outline.not_live_settle, Outline.live_iff_exists_member
-/
import Uplink.Proofs.Fabric.Exclusive
import Uplink.Proofs.Fabric.Silence

namespace Uplink.Outline

variable {before after outline : Outline} {groups : List (Address × Nat)} {bound : Nat}

/-- Every open channel is a member of the pool of its watchdog. -/
def Housed (outline : Outline) : Prop :=
  ∀ channel number, outline.link? channel = some number →
    ∃ pool, outline.poolOf number = some pool ∧ channel ∈ outline.members pool

/-! ### Steps without channels -/

/-- A step in which no channel comes or goes, and the watchdogs keep their pools. -/
structure Stays (before after : Outline) : Prop where
  links : after.links = before.links
  members : after.members = before.members
  seats : after.posts.map Post.seat = before.posts.map Post.seat

theorem stays_refl (outline : Outline) : Stays outline outline := ⟨rfl, rfl, rfl⟩

theorem stays_start (outline : Outline) (number : Nat) : Stays outline (outline.start number) :=
  ⟨rfl, rfl, seats_start outline number⟩

theorem stays_stop (outline : Outline) (number : Nat) : Stays outline (outline.stop number) := by
  refine ⟨links_stop outline number, ?_, seats_stop outline number⟩
  cases isThere : outline.posts[number]? with
  | none => rw [stop_of_none isThere]
  | some post =>
      rw [stop_of_some isThere]
      cases post.pending <;> rfl

theorem stays_turnSwitch (outline : Outline) (connection : Nat) (enabled : Bool) :
    Stays outline (outline.turnSwitch connection enabled) := by
  rcases turnSwitch_cases outline connection enabled with same | ⟨_, number, -, turned⟩
  · rw [same]
    exact stays_refl outline
  · rw [turned]
    cases enabled with
    | true => exact stays_start outline number
    | false => exact stays_stop outline number

theorem stays_schedule (outline : Outline) (number : Nat) : Stays outline (outline.schedule number) := by
  refine ⟨links_schedule outline number, members_schedule outline number, ?_⟩
  simp only [schedule]
  split
  · rfl
  · rename_i timer handle _
    exact map_posts_change Post.seat (fun post => { post with pending := some handle }) (fun _ => rfl)
      { outline with timer } number

theorem stays_lose (outline : Outline) (number : Nat) : Stays outline (outline.lose number) := by
  rcases lose_cases outline number with ⟨same, -⟩ | same
  · rw [same]
    exact stays_refl outline
  · rw [same]
    exact stays_schedule outline number

theorem stays_dial (outline : Outline) (number : Nat) (origin : Origin) :
    Stays outline (outline.dial number origin) := by
  simp only [dial]
  split
  · exact stays_refl outline
  · exact ⟨rfl, rfl, rfl⟩

theorem stays_fire (outline : Outline) (index : Nat) : Stays outline (outline.fire index) := by
  cases isReleased : (outline.timer.release index).2.join with
  | none =>
      rw [fire_of_none isReleased]
      exact ⟨rfl, rfl, rfl⟩
  | some number =>
      rw [fire_of_some isReleased]
      rcases retry_cases { outline with timer := (outline.timer.release index).1 } number with
        ⟨same, -⟩ | ⟨_, -, -, dialled⟩
      · rw [same]
        exact ⟨rfl, rfl, rfl⟩
      · rw [dialled]
        have there := stays_dial { outline with timer := (outline.timer.release index).1 } number .retry
        exact ⟨there.links, there.members, there.seats⟩

theorem Housed.of_stays (housed : before.Housed) (stays : Stays before after) : after.Housed := by
  intro channel number isLink
  have wasLink : before.link? channel = some number := by
    simp only [link?] at isLink ⊢
    rw [← stays.links]
    exact isLink
  obtain ⟨pool, inPool, isMember⟩ := housed channel number wasLink
  refine ⟨pool, (poolOf_of_seats stays.seats number).trans inPool, ?_⟩
  rw [stays.members]
  exact isMember

/-! ### Channels that come and go -/

theorem Housed.shut (housed : outline.Housed) {channel owner : Nat}
    (isOpen : outline.link? channel = some owner) : (outline.shut channel).Housed := by
  intro other number isLink
  have otherNotZero := ne_zero_of_link? isLink
  have notZero := ne_zero_of_link? isOpen
  have isThere := getElem?_of_link? isLink
  have different : other ≠ channel := by
    intro same
    obtain ⟨known, -⟩ := List.getElem?_eq_some_iff.1 (getElem?_of_link? isOpen)
    simp only [Outline.shut, same] at isThere
    rw [List.getElem?_set_self known] at isThere
    cases isThere
  simp only [Outline.shut] at isThere
  rw [List.getElem?_set_ne (by omega)] at isThere
  obtain ⟨pool, inPool, isMember⟩ := housed other number (link?_of_getElem? otherNotZero isThere)
  exact ⟨pool, inPool, List.mem_filter.2 ⟨isMember, decide_eq_true different⟩⟩

/-- A channel that closes leaves its pool, and the others stay where they are. -/
theorem Housed.close (housed : outline.Housed) (channel : Nat) : (outline.close channel).Housed := by
  simp only [Outline.close]
  cases isLink : outline.link? channel with
  | none => exact housed
  | some number => exact (housed.shut isLink).of_stays (stays_lose _ number)

/-- The pool of a watchdog that exists takes in the channel that comes up. -/
theorem mem_members_up_self (sound : outline.Sound groups bound) {number : Nat}
    (known : number < outline.posts.length) :
    ∃ pool, outline.poolOf number = some pool
      ∧ outline.links.length + 1 ∈ (outline.up number).members pool := by
  have isThere := List.getElem?_eq_getElem known
  obtain ⟨pool, isPool, isGroup⟩ := sound.pooled number _ isThere
  have inPool : outline.poolOf number = some pool := by
    simp only [poolOf, isThere, Option.bind_some, isPool]
  refine ⟨pool, inPool, ?_⟩
  have exists' : (outline.capacity pool).isSome = true := by
    rw [sound.bounded _ pool isGroup]
    rfl
  simp only [up, inPool, enroll, exists', and_self, if_true]
  exact List.mem_append_right _ (List.mem_singleton_self _)

/-- Nobody leaves a pool because a channel comes up. -/
theorem members_up_of_mem {number pool channel : Nat} (isMember : channel ∈ outline.members pool) :
    channel ∈ (outline.up number).members pool := by
  simp only [up]
  cases outline.poolOf number with
  | none => exact isMember
  | some target =>
      simp only [enroll]
      split
      · rename_i same
        exact List.mem_append_left _ (same.1 ▸ isMember)
      · exact isMember

theorem Housed.up (housed : outline.Housed) (sound : outline.Sound groups bound) {number : Nat}
    (known : number < outline.posts.length) : (outline.up number).Housed := by
  intro channel owner isLink
  have notZero := ne_zero_of_link? isLink
  have isThere := getElem?_of_link? isLink
  rw [links_up, List.getElem?_append] at isThere
  have seats : (outline.up number).posts.map Post.seat = outline.posts.map Post.seat := by rw [posts_up]
  split at isThere
  · obtain ⟨pool, inPool, isMember⟩ := housed channel owner (link?_of_getElem? notZero isThere)
    exact ⟨pool, (poolOf_of_seats seats owner).trans inPool, members_up_of_mem isMember⟩
  · rename_i isNew
    obtain ⟨place, isOwner⟩ := List.getElem?_eq_some_iff.1 isThere
    rw [List.length_singleton] at place
    rw [List.getElem_singleton] at isOwner
    have isChannel : channel = outline.links.length + 1 := by omega
    obtain ⟨pool, inPool, isMember⟩ := mem_members_up_self sound known
    rw [← Option.some.inj isOwner, isChannel]
    exact ⟨pool, (poolOf_of_seats seats number).trans inPool, isMember⟩

theorem Housed.conclude (housed : outline.Housed) (sound : outline.Sound groups bound) {number : Nat}
    (known : number < outline.posts.length) (origin : Origin) (outcome : Outcome) :
    (outline.conclude number origin outcome).Housed := by
  cases outcome with
  | established => exact housed.up sound known
  | flapped => exact (housed.up sound known).close _
  | failed error =>
      cases origin with
      | retry => exact housed.of_stays (stays_lose outline number)
      | caller => exact housed

/-- However an attempt ends, every open channel is in its pool. -/
theorem Housed.settle (housed : outline.Housed) (sound : outline.Sound groups bound) (place : Nat)
    (outcome : Outcome) : (outline.settle place outcome).Housed := by
  simp only [Outline.settle]
  cases isThere : outline.attempts[place]? with
  | none => exact housed
  | some attempt =>
      obtain ⟨number, origin⟩ := attempt
      have isEngaged : number ∈ outline.engagements :=
        List.mem_append_right _ (List.mem_append_right _
          (List.mem_map.2 ⟨_, List.mem_of_getElem? isThere, rfl⟩))
      have ended : ({ outline with attempts := outline.attempts.eraseIdx place } : Outline).Housed :=
        housed
      exact ended.conclude (sound.of_attempts place) (sound.known number isEngaged) origin outcome

/-! ### Open channels -/

/-- Some channel is open. -/
def Live (outline : Outline) : Prop :=
  ∃ number, some number ∈ outline.links

/-- A channel is open exactly if some pool has a member. -/
theorem live_iff_exists_member (sound : outline.Sound groups bound) (housed : outline.Housed) :
    outline.Live ↔ ∃ pool channel, channel ∈ outline.members pool := by
  constructor
  · rintro ⟨number, isLink⟩
    obtain ⟨place, isThere⟩ := List.mem_iff_getElem?.1 isLink
    have open' : outline.link? (place + 1) = some number :=
      link?_of_getElem? (Nat.succ_ne_zero place) isThere
    obtain ⟨pool, -, isMember⟩ := housed _ number open'
    exact ⟨pool, _, isMember⟩
  · rintro ⟨pool, channel, isMember⟩
    obtain ⟨number, isLink, -⟩ := sound.enrolled pool channel isMember
    exact ⟨number, List.mem_of_getElem? (getElem?_of_link? isLink)⟩

/-- A channel that flaps is closed when it is heard of. -/
theorem links_establish_flapping (outline : Outline) (number : Nat) :
    (outline.establish number true).links = outline.links ++ [none] := by
  have isOpen : (outline.up number).link? (outline.links.length + 1) = some number :=
    link?_of_getElem? (Nat.succ_ne_zero _) (by
      rw [links_up, Nat.add_sub_cancel, List.getElem?_concat_length])
  simp only [establish, if_true, close, isOpen, links_lose, shut, links_up, Nat.add_sub_cancel]
  rw [List.set_append_right _ _ (Nat.le_refl _), Nat.sub_self]
  rfl

/-- After an attempt has ended, no channel is open exactly if none was and the attempt, if there was one,
is not established. -/
theorem not_live_settle (outline : Outline) (place : Nat) (outcome : Outcome) :
    ¬ (outline.settle place outcome).Live
      ↔ ¬ outline.Live ∧ ∀ attempt, outline.attempts[place]? = some attempt → outcome ≠ .established := by
  simp only [settle]
  cases isThere : outline.attempts[place]? with
  | none => simp only [reduceCtorEq, false_implies, implies_true, and_true]
  | some attempt =>
      obtain ⟨number, origin⟩ := attempt
      simp only [Option.some.injEq, forall_eq']
      cases outcome with
      | established =>
          have isOpen : some number ∈ (outline.links ++ [some number]) :=
            List.mem_append_right _ (List.mem_singleton_self _)
          refine iff_of_false (fun noneOpen => noneOpen ⟨number, ?_⟩) fun both => both.2 rfl
          simp only [conclude, establish, Bool.false_eq_true, if_false, links_up]
          exact isOpen
      | flapped =>
          simp only [conclude, Live, links_establish_flapping, List.mem_append, List.mem_singleton,
            reduceCtorEq, or_false, ne_eq, not_false_eq_true, and_true]
      | failed error =>
          cases origin <;> simp only [conclude, Live, links_lose, ne_eq, reduceCtorEq, not_false_eq_true,
            and_true]

end Uplink.Outline
