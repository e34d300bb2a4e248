/-
Module: Uplink.Proofs.Fabric.Engagement
Purpose: Which watchdogs have an open channel, a retry or an attempt, and that none of these is lost but
  where no other channel is wanted.
Main exports: Outline.engagements, Outline.needs, Outline.Balanced, Outline.Sound, Outline.Carries,
  Outline.carries_lose, Outline.carries_close, Outline.carries_establish, Outline.carries_settle,
  Outline.carries_fire
-/
import Mathlib.Data.List.Perm.Basic
import Uplink.Proofs.Fabric.Simulation

namespace Uplink

/-- Where a watchdog stands: its address and its pool. -/
def Post.seat (post : Post) : Address × Option Nat :=
  (post.address, post.pool)

/-- What of a watchdog its retries leave as it is. -/
def Post.station (post : Post) : (Address × Option Nat) × Bool :=
  (post.seat, post.started)

namespace Outline

/-- The watchdogs that are engaged, each once for every open channel, retry and attempt of its own. -/
def engagements (outline : Outline) : List Nat :=
  outline.links.filterMap id ++ (outline.timer.waiting ++ outline.attempts.map Prod.fst)

/-- Whether the watchdog with a number wants another channel. -/
def needs (outline : Outline) (number : Nat) : Bool :=
  match outline.posts[number]? with
  | some post => outline.wants post
  | none => false

/-- All engagements go on and some come in addition, but for one that may be given up by a watchdog that
wants no other channel. -/
def Balanced (before after : Outline) (gained : List Nat) : Prop :=
  (gained ++ before.engagements).Perm after.engagements ∨
    ∃ number, (gained ++ before.engagements).Perm (number :: after.engagements) ∧
      after.needs number = false

/-- Watchdogs of one address share a pool of a certain capacity, members are open channels of these
watchdogs, and only watchdogs that exist are engaged. -/
structure Sound (outline : Outline) (groups : List (Address × Nat)) (bound : Nat) : Prop where
  timer : outline.timer.Sound
  pooled : ∀ (number : Nat) (post : Post), outline.posts[number]? = some post →
    ∃ pool, post.pool = some pool ∧ groups.lookup post.address = some pool
  bounded : ∀ address pool, groups.lookup address = some pool → outline.capacity pool = some bound
  apart : ∀ first second pool, groups.lookup first = some pool → groups.lookup second = some pool →
    first = second
  enrolled : ∀ pool channel, channel ∈ outline.members pool →
    ∃ number, outline.link? channel = some number ∧ outline.poolOf number = some pool
  distinct : ∀ pool, (outline.members pool).Nodup
  known : ∀ number ∈ outline.engagements, number < outline.posts.length

/-- The timer handle that a watchdog remembers was given out, and belongs to no task of another one. -/
def Owned (outline : Outline) : Prop :=
  ∀ (number : Nat) (post : Post) (handle : Nat), outline.posts[number]? = some post →
    post.pending = some handle →
    handle < outline.timer.timeouts.length ∧
      ∀ entry ∈ outline.timer.entries, entry.handle = handle → entry.task = number

/-- What one step of the watchdogs does: it keeps the books, and leaves all watchdogs where they are. -/
structure Carries (before after : Outline) (gained : List Nat) : Prop where
  balance : Balanced before after gained
  steady : after.posts.map Post.station = before.posts.map Post.station
  capacity : after.capacity = before.capacity
  stopped : after.timer.stopped = before.timer.stopped
  switches : after.switches = before.switches
  owned : before.Owned → after.Owned
  sound : ∀ groups bound, before.Sound groups bound →
    (∀ number ∈ gained, number < before.posts.length) → after.Sound groups bound

variable {before after last outline : Outline} {gained : List Nat}

/-! ### Books -/

/-- Taking some engagements off first, and putting them back with the step. -/
theorem Balanced.of_perm {spent : List Nat} {middle : Outline}
    (perm : (gained ++ before.engagements).Perm (spent ++ middle.engagements))
    (balanced : Balanced middle after spent) : Balanced before after gained := by
  rcases balanced with all | ⟨number, rest, unwanted⟩
  · exact Or.inl (perm.trans all)
  · exact Or.inr ⟨number, perm.trans rest, unwanted⟩

/-- Nobody is engaged whose engagement was not there before or gained. -/
theorem Balanced.subset (balanced : Balanced before after gained) {number : Nat}
    (isEngaged : number ∈ after.engagements) : number ∈ gained ∨ number ∈ before.engagements := by
  rw [← List.mem_append]
  rcases balanced with all | ⟨other, rest, -⟩
  · exact all.mem_iff.2 isEngaged
  · exact rest.mem_iff.2 (List.mem_cons_of_mem _ isEngaged)

/-! ### Posts -/

theorem map_posts_change {Shown : Type} (view : Post → Shown) (change : Post → Post)
    (same : ∀ post, view (change post) = view post) (outline : Outline) (number : Nat) :
    (outline.change number change).posts.map view = outline.posts.map view :=
  map_modify_of_same view change same outline.posts number

/-- The watchdog that is there after a change was there before, and has changed if it is the one. -/
theorem exists_of_change {number other : Nat} {change : Post → Post} {post : Post}
    (isThere : (outline.posts.modify number change)[other]? = some post) :
    ∃ before, outline.posts[other]? = some before ∧
      (other = number ∧ post = change before ∨ other ≠ number ∧ post = before) := by
  simp only [List.getElem?_modify] at isThere
  obtain ⟨before, isBefore, same⟩ := Option.map_eq_some_iff.1 isThere
  refine ⟨before, isBefore, ?_⟩
  split at same
  · rename_i isNumber
    exact Or.inl ⟨isNumber.symm, same.symm⟩
  · rename_i different
    exact Or.inr ⟨Ne.symm different, same.symm⟩

theorem seats_of_stations (stations : after.posts.map Post.station = before.posts.map Post.station) :
    after.posts.map Post.seat = before.posts.map Post.seat := by
  have same := congrArg (List.map Prod.fst) stations
  simp only [List.map_map] at same
  exact same

theorem length_of_seats (seats : after.posts.map Post.seat = before.posts.map Post.seat) :
    after.posts.length = before.posts.length := by
  have lengths := congrArg List.length seats
  simp only [List.length_map] at lengths
  exact lengths

/-- The watchdog with a number stands where it stood. -/
theorem seat_of_seats (seats : after.posts.map Post.seat = before.posts.map Post.seat) (number : Nat) :
    (after.posts[number]?).map Post.seat = (before.posts[number]?).map Post.seat := by
  rw [← List.getElem?_map, seats, List.getElem?_map]

theorem poolOf_of_seats (seats : after.posts.map Post.seat = before.posts.map Post.seat) (number : Nat) :
    after.poolOf number = before.poolOf number := by
  have onSeat : ∀ outline : Outline,
      outline.poolOf number = ((outline.posts[number]?).map Post.seat).bind Prod.snd := by
    intro outline
    simp only [poolOf]
    cases outline.posts[number]? <;> rfl
  rw [onSeat, onSeat, seat_of_seats seats]

/-- A step that leaves links and members alone keeps everything sound, if its timer is and it engages
only watchdogs that exist. -/
theorem Sound.of_seats {groups : List (Address × Nat)} {bound : Nat} (sound : before.Sound groups bound)
    (timer : after.timer.Sound) (seats : after.posts.map Post.seat = before.posts.map Post.seat)
    (capacity : after.capacity = before.capacity) (links : after.links = before.links)
    (members : after.members = before.members)
    (known : ∀ number ∈ after.engagements, number < before.posts.length) :
    after.Sound groups bound := by
  refine ⟨timer, ?_, ?_, sound.apart, ?_, ?_, ?_⟩
  · intro number post isThere
    have same := seat_of_seats seats number
    simp only [isThere] at same
    obtain ⟨old, isOld, sameSeat⟩ := Option.map_eq_some_iff.1 same.symm
    obtain ⟨sameAddress, samePool⟩ := Prod.mk.inj sameSeat
    rw [← sameAddress, ← samePool]
    exact sound.pooled number old isOld
  · simp only [capacity]
    exact sound.bounded
  · intro pool channel isMember
    simp only [members] at isMember
    obtain ⟨number, isLink, isPool⟩ := sound.enrolled pool channel isMember
    refine ⟨number, ?_, (poolOf_of_seats seats number).trans isPool⟩
    simp only [link?] at isLink ⊢
    simp only [links]
    exact isLink
  · simp only [members]
    exact sound.distinct
  · simp only [length_of_seats seats]
    exact known

/-! ### Retries -/

/-- The engagements of a step in which some watchdogs come in addition exist, if these do. -/
theorem Balanced.known (balanced : Balanced before after gained)
    {groups : List (Address × Nat)} {bound : Nat} (sound : before.Sound groups bound)
    (exist : ∀ number ∈ gained, number < before.posts.length) :
    ∀ number ∈ after.engagements, number < before.posts.length := by
  intro number isEngaged
  rcases balanced.subset isEngaged with isGained | isOld
  · exact exist number isGained
  · exact sound.known number isOld

theorem carries_refl (outline : Outline) : Carries outline outline [] :=
  ⟨Or.inl (List.Perm.refl _), rfl, rfl, rfl, rfl, id, fun _ _ sound _ => sound⟩

theorem carries_refl_of_unwanted {number : Nat} (unwanted : outline.needs number = false) :
    Carries outline outline [number] :=
  ⟨Or.inr ⟨number, List.Perm.refl _, unwanted⟩, rfl, rfl, rfl, rfl, id, fun _ _ sound _ => sound⟩

/-- What scheduling makes of a timer that goes on. -/
theorem schedule_eq (goesOn : outline.timer.stopped = false) (number : Nat) :
    outline.schedule number
      = Outline.change { outline with timer := outline.timer.including Span.zero number } number
          fun post => { post with pending := some outline.timer.timeouts.length } := by
  simp only [Outline.schedule]
  simp only [ManualTimer.schedule_of_not_stopped goesOn]

/-- Scheduling engages a watchdog, as long as the timer goes on. -/
theorem engagements_schedule (timer : outline.timer.Sound) (goesOn : outline.timer.stopped = false)
    (number : Nat) : ([number] ++ outline.engagements).Perm (outline.schedule number).engagements := by
  have waiting := ManualTimer.waiting_including timer Span.zero number
  simp only [schedule_eq goesOn]
  simp only [engagements, Outline.change]
  simp only [waiting, List.append_assoc, List.singleton_append]
  refine List.perm_middle.symm.trans (List.Perm.append_left _ ?_)
  exact List.perm_middle.symm

/-- Scheduling gives out a handle that nobody had before. -/
theorem Owned.schedule (owned : outline.Owned) (timer : outline.timer.Sound)
    (goesOn : outline.timer.stopped = false) (number : Nat) : (outline.schedule number).Owned := by
  simp only [schedule_eq goesOn]
  intro other post handle isThere isPending
  simp only [Outline.change, ManualTimer.including]
  obtain ⟨before, isBefore, ⟨isNumber, same⟩ | ⟨-, same⟩⟩ := exists_of_change isThere
  · simp only [same] at isPending
    have isNew : outline.timer.timeouts.length = handle := Option.some.inj isPending
    simp only [List.length_append, List.length_singleton]
    refine ⟨by omega, ?_⟩
    intro entry isEntry isHandle
    rcases List.mem_append.1 isEntry with isOld | isLast
    · have given := timer.given entry isOld
      omega
    · simp only [List.mem_singleton.1 isLast]
      exact isNumber.symm
  · obtain ⟨given, alone⟩ := owned other before handle isBefore (same ▸ isPending)
    simp only [List.length_append, List.length_singleton]
    refine ⟨Nat.lt_succ_of_lt given, ?_⟩
    intro entry isEntry isHandle
    rcases List.mem_append.1 isEntry with isOld | isLast
    · exact alone entry isOld isHandle
    · rw [List.mem_singleton.1 isLast] at isHandle
      dsimp only at isHandle
      omega

theorem carries_schedule (timer : outline.timer.Sound) (goesOn : outline.timer.stopped = false)
    (number : Nat) : Carries outline (outline.schedule number) [number] := by
  have timerSound := ManualTimer.sound_including timer Span.zero number
  have balance : Balanced outline (outline.schedule number) [number] :=
    Or.inl (engagements_schedule timer goesOn number)
  have owned : outline.Owned → (outline.schedule number).Owned := fun owned =>
    owned.schedule timer goesOn number
  simp only [schedule_eq goesOn] at balance owned ⊢
  have stations := map_posts_change Post.station
    (fun post => { post with pending := some outline.timer.timeouts.length })
    (fun _ => rfl) outline number
  refine ⟨balance, stations, rfl, rfl, rfl, owned, ?_⟩
  intro groups bound sound exist
  exact sound.of_seats timerSound (seats_of_stations stations) rfl rfl rfl (balance.known sound exist)

theorem needs_of_some {number : Nat} {post : Post} (isThere : outline.posts[number]? = some post) :
    outline.needs number = outline.wants post := by
  simp only [needs, isThere]

theorem needs_of_none {number : Nat} (isAbsent : outline.posts[number]? = none) :
    outline.needs number = false := by
  simp only [needs, isAbsent]

/-- Losing a link does nothing where no other channel is wanted, and schedules an attempt otherwise. -/
theorem lose_cases (outline : Outline) (number : Nat) :
    outline.lose number = outline ∧ outline.needs number = false ∨
      outline.lose number = outline.schedule number := by
  cases isThere : outline.posts[number]? with
  | none =>
      simp only [Outline.lose, isThere]
      exact Or.inl ⟨trivial, needs_of_none isThere⟩
  | some post =>
      rw [needs_of_some isThere]
      simp only [Outline.lose, isThere]
      by_cases wanted : outline.wants post = true
      · rw [if_pos wanted]
        exact Or.inr rfl
      · rw [if_neg wanted]
        exact Or.inl ⟨rfl, Bool.eq_false_iff.2 wanted⟩

/-- A link is gone: the watchdog stays engaged, or wants no other channel. -/
theorem carries_lose (timer : outline.timer.Sound) (goesOn : outline.timer.stopped = false)
    (number : Nat) : Carries outline (outline.lose number) [number] := by
  rcases lose_cases outline number with ⟨same, unwanted⟩ | same
  · rw [same]
    exact carries_refl_of_unwanted unwanted
  · rw [same]
    exact carries_schedule timer goesOn number

/-! ### Channels -/

theorem ne_zero_of_link? {channel number : Nat} (isLink : outline.link? channel = some number) :
    channel ≠ 0 := by
  intro isZero
  simp only [isZero] at isLink
  cases isLink

/-- A channel with a link is among the links, at the place before its number. -/
theorem getElem?_of_link? {channel number : Nat} (isLink : outline.link? channel = some number) :
    outline.links[channel - 1]? = some (some number) := by
  have notZero := ne_zero_of_link? isLink
  simp only [link?] at isLink
  simp only [if_neg notZero] at isLink
  exact Option.join_eq_some_iff.1 isLink

theorem link?_of_getElem? {channel number : Nat} (notZero : channel ≠ 0)
    (isThere : outline.links[channel - 1]? = some (some number)) : outline.link? channel = some number := by
  simp only [link?]
  simp only [if_neg notZero, isThere]
  rfl

/-- A channel that closes ends one engagement of its watchdog. -/
theorem engagements_shut {channel number : Nat} (isLink : outline.link? channel = some number) :
    outline.engagements.Perm (number :: (outline.shut channel).engagements) := by
  obtain ⟨bound, isThere⟩ := List.getElem?_eq_some_iff.1 (getElem?_of_link? isLink)
  have before := List.getElem_cons_eraseIdx_perm bound
  have after := List.set_perm_cons_eraseIdx bound none
  simp only [isThere] at before
  have links : (outline.links.filterMap id).Perm
      (number :: (outline.links.set (channel - 1) none).filterMap id) := by
    apply (before.filterMap id).symm.trans
    exact ((after.filterMap id).symm.cons number)
  exact links.append_right _

theorem Sound.shut {groups : List (Address × Nat)} {bound : Nat} (sound : outline.Sound groups bound)
    {channel number : Nat} (isLink : outline.link? channel = some number) :
    (outline.shut channel).Sound groups bound := by
  have notZero := ne_zero_of_link? isLink
  refine ⟨sound.timer, sound.pooled, sound.bounded, sound.apart, ?_,
    fun pool => (sound.distinct pool).filter _, ?_⟩
  · intro pool other isMember
    obtain ⟨wasMember, different⟩ := List.mem_filter.1 isMember
    simp only [decide_eq_true_eq] at different
    obtain ⟨owner, isOwner, isPool⟩ := sound.enrolled pool other wasMember
    have otherNotZero := ne_zero_of_link? isOwner
    refine ⟨owner, link?_of_getElem? otherNotZero ?_, isPool⟩
    simp only [Outline.shut]
    rw [List.getElem?_set_ne (by omega)]
    exact getElem?_of_link? isOwner
  · intro other isEngaged
    exact sound.known other ((engagements_shut isLink).mem_iff.2 (List.mem_cons_of_mem _ isEngaged))

theorem carries_close (timer : outline.timer.Sound) (goesOn : outline.timer.stopped = false)
    (channel : Nat) : Carries outline (outline.close channel) [] := by
  simp only [Outline.close]
  cases isLink : outline.link? channel with
  | none => exact carries_refl outline
  | some number =>
      have sameTimer : (outline.shut channel).timer.Sound := timer
      have lost := carries_lose sameTimer goesOn number
      have ended := engagements_shut isLink
      have perm : ([] ++ outline.engagements).Perm ([number] ++ (outline.shut channel).engagements) := ended
      refine ⟨lost.balance.of_perm perm, lost.steady, lost.capacity, lost.stopped, lost.switches,
        lost.owned, ?_⟩
      intro groups bound sound _
      apply lost.sound groups bound (sound.shut isLink)
      intro other isNumber
      simp only [List.mem_singleton] at isNumber
      exact sound.known other (ended.mem_iff.2 (isNumber ▸ List.mem_cons_self))

/-- A channel that comes up is one more link, and apart from that it changes only who the members are. -/
theorem up_eq (outline : Outline) (number : Nat) :
    outline.up number =
      { outline with
        links := outline.links ++ [some number]
        members := (outline.up number).members } := by
  simp only [Outline.up]
  cases outline.poolOf number <;> rfl

/-- A channel that comes up engages its watchdog. -/
theorem engagements_up (outline : Outline) (number : Nat) :
    ([number] ++ outline.engagements).Perm (outline.up number).engagements := by
  have opened : ([number] ++ outline.engagements).Perm
      ((outline.links ++ [some number]).filterMap id
        ++ (outline.timer.waiting ++ outline.attempts.map Prod.fst)) := by
    simp only [List.filterMap_append]
    simp only [engagements]
    rw [← List.append_assoc]
    have swapped : ([number] ++ outline.links.filterMap id).Perm (outline.links.filterMap id ++ [number]) :=
      List.perm_append_comm
    exact swapped.append_right _
  rw [up_eq]
  exact opened

theorem posts_up (outline : Outline) (number : Nat) : (outline.up number).posts = outline.posts := by
  rw [up_eq]

theorem capacity_up (outline : Outline) (number : Nat) :
    (outline.up number).capacity = outline.capacity := by
  rw [up_eq]

theorem timer_up (outline : Outline) (number : Nat) : (outline.up number).timer = outline.timer := by
  rw [up_eq]

theorem links_up (outline : Outline) (number : Nat) :
    (outline.up number).links = outline.links ++ [some number] := by
  rw [up_eq]

theorem switches_up (outline : Outline) (number : Nat) :
    (outline.up number).switches = outline.switches := by
  rw [up_eq]

/-- The new channel is a member of its watchdog's pool, and nobody else comes or goes. -/
theorem mem_members_up {number pool channel : Nat}
    (isMember : channel ∈ (outline.up number).members pool) :
    channel ∈ outline.members pool ∨
      outline.poolOf number = some pool ∧ channel = outline.links.length + 1 := by
  simp only [Outline.up] at isMember
  cases isPool : outline.poolOf number with
  | none =>
      simp only [isPool] at isMember
      exact Or.inl isMember
  | some target =>
      simp only [isPool] at isMember
      simp only [Outline.enroll] at isMember
      split at isMember
      · rename_i same
        rw [same.1]
        rw [← same.1] at isMember ⊢
        rcases List.mem_append.1 isMember with before | isNew
        · exact Or.inl before
        · exact Or.inr ⟨rfl, List.mem_singleton.1 isNew⟩
      · exact Or.inl isMember

theorem Sound.up {groups : List (Address × Nat)} {bound : Nat} (sound : outline.Sound groups bound)
    {number : Nat} (exists' : number < outline.posts.length) : (outline.up number).Sound groups bound := by
  have fresh : ∀ pool, outline.links.length + 1 ∉ outline.members pool := by
    intro pool isMember
    obtain ⟨owner, isOwner, -⟩ := sound.enrolled pool _ isMember
    have isThere := getElem?_of_link? isOwner
    rw [Nat.add_sub_cancel, List.getElem?_eq_none (Nat.le_refl _)] at isThere
    cases isThere
  have seats : (outline.up number).posts.map Post.seat = outline.posts.map Post.seat := by
    simp only [posts_up]
  refine ⟨?_, ?_, ?_, sound.apart, ?_, ?_,
    ?_⟩
  · simp only [timer_up]
    exact sound.timer
  · simp only [posts_up]
    exact sound.pooled
  · simp only [capacity_up]
    exact sound.bounded
  · intro pool channel isMember
    rcases mem_members_up isMember with wasMember | ⟨isPool, isNew⟩
    · obtain ⟨owner, isOwner, isPool⟩ := sound.enrolled pool channel wasMember
      refine ⟨owner, link?_of_getElem? (ne_zero_of_link? isOwner) ?_,
        (poolOf_of_seats seats owner).trans isPool⟩
      have isThere := getElem?_of_link? isOwner
      rw [links_up, List.getElem?_append_left (List.getElem?_eq_some_iff.1 isThere).1]
      exact isThere
    · refine ⟨number, link?_of_getElem? (by omega) ?_, (poolOf_of_seats seats number).trans isPool⟩
      simp only [links_up, isNew, Nat.add_sub_cancel, List.getElem?_concat_length]
  · intro pool
    simp only [Outline.up]
    cases outline.poolOf number with
    | none => exact sound.distinct pool
    | some target =>
        simp only [Outline.enroll]
        split
        · simp only [List.nodup_append]
          refine ⟨sound.distinct target, List.pairwise_singleton _ _, ?_⟩
          intro member isMember other isNew same
          simp only [List.mem_singleton] at isNew
          exact fresh target (isNew ▸ same ▸ isMember)
        · exact sound.distinct pool
  · intro other isEngaged
    simp only [posts_up]
    rcases List.mem_append.1 ((engagements_up outline number).mem_iff.2 isEngaged) with isNew | isOld
    · simp only [List.mem_singleton] at isNew
      exact isNew ▸ exists'
    · exact sound.known other isOld

theorem carries_up (outline : Outline) (number : Nat) : Carries outline (outline.up number) [number] := by
  refine ⟨Or.inl (engagements_up outline number), ?_, capacity_up outline number, ?_,
    switches_up outline number, ?_, ?_⟩
  · simp only [posts_up]
  · simp only [timer_up]
  · intro owned
    simp only [Owned]
    simp only [posts_up, timer_up]
    exact owned
  · intro groups bound sound exist
    exact sound.up (exist number (List.mem_singleton_self number))

/-- One step after another; what the second gains is what the first gives up for it. -/
theorem Carries.trans {middle : Outline} (first : Carries before middle gained)
    (second : Carries middle after []) (kept : (gained ++ before.engagements).Perm middle.engagements) :
    Carries before after gained := by
  refine ⟨second.balance.of_perm kept, second.steady.trans first.steady,
    second.capacity.trans first.capacity, second.stopped.trans first.stopped,
    second.switches.trans first.switches, fun owned => second.owned (first.owned owned),
    ?_⟩
  intro groups bound sound exist
  exact second.sound groups bound (first.sound groups bound sound exist)
    fun _ isGained => absurd isGained List.not_mem_nil

theorem carries_establish (timer : outline.timer.Sound) (goesOn : outline.timer.stopped = false)
    (number : Nat) (flaps : Bool) : Carries outline (outline.establish number flaps) [number] := by
  simp only [Outline.establish]
  cases flaps with
  | false => exact carries_up outline number
  | true =>
      have timerUp := timer_up outline number
      have sameTimer : (outline.up number).timer.Sound := timerUp ▸ timer
      have closed := carries_close sameTimer (timerUp ▸ goesOn) (outline.links.length + 1)
      exact (carries_up outline number).trans closed (engagements_up outline number)

/-! ### Attempts -/

theorem dial_eq {number : Nat} {post : Post} (isThere : outline.posts[number]? = some post)
    (origin : Origin) :
    outline.dial number origin
      = { outline with
          attempts := outline.attempts ++ [(number, origin)]
          dials := outline.dials ++ [post.address] } := by
  simp only [Outline.dial]
  simp only [isThere]

/-- An attempt engages its watchdog. -/
theorem engagements_dial {number : Nat} {post : Post} (isThere : outline.posts[number]? = some post)
    (origin : Origin) :
    ([number] ++ outline.engagements).Perm (outline.dial number origin).engagements := by
  simp only [dial_eq isThere]
  simp only [engagements]
  simp only [List.map_append]
  refine List.perm_append_comm.trans (List.Perm.of_eq ?_)
  simp only [List.append_assoc, List.map_cons, List.map_nil]

theorem carries_dial {number : Nat} {post : Post} (isThere : outline.posts[number]? = some post)
    (origin : Origin) : Carries outline (outline.dial number origin) [number] := by
  have balance : Balanced outline (outline.dial number origin) [number] :=
    Or.inl (engagements_dial isThere origin)
  simp only [dial_eq isThere] at balance ⊢
  refine ⟨balance, rfl, rfl, rfl, rfl, id, ?_⟩
  intro groups bound sound exist
  exact sound.of_seats sound.timer rfl rfl rfl rfl (balance.known sound exist)

/-- The timer's call does nothing where no other channel is wanted, and begins an attempt otherwise. -/
theorem retry_cases (outline : Outline) (number : Nat) :
    outline.retry number = outline ∧ outline.needs number = false ∨
      ∃ post, outline.posts[number]? = some post ∧ outline.wants post = true ∧
        outline.retry number = outline.dial number .retry := by
  cases isThere : outline.posts[number]? with
  | none =>
      simp only [Outline.retry, isThere]
      exact Or.inl ⟨trivial, needs_of_none isThere⟩
  | some post =>
      rw [needs_of_some isThere]
      simp only [Outline.retry, isThere]
      by_cases wanted : outline.wants post = true
      · rw [if_pos wanted]
        exact Or.inr ⟨post, rfl, wanted, rfl⟩
      · rw [if_neg wanted]
        exact Or.inl ⟨rfl, Bool.eq_false_iff.2 wanted⟩

theorem carries_retry (number : Nat) : Carries outline (outline.retry number) [number] := by
  rcases retry_cases outline number with ⟨same, unwanted⟩ | ⟨post, isThere, -, same⟩
  · rw [same]
    exact carries_refl_of_unwanted unwanted
  · rw [same]
    exact carries_dial isThere .retry

/-- However an attempt ends, its watchdog stays engaged or wants no other channel; only a caller's failure
is the caller's affair. -/
theorem carries_conclude (timer : outline.timer.Sound) (goesOn : outline.timer.stopped = false)
    (number : Nat) (origin : Origin) (outcome : Outcome)
    (notCallers : origin = .retry ∨ ∀ error, outcome ≠ .failed error) :
    Carries outline (outline.conclude number origin outcome) [number] := by
  cases outcome with
  | established => exact carries_establish timer goesOn number false
  | flapped => exact carries_establish timer goesOn number true
  | failed error =>
      rcases notCallers with isRetry | noFailure
      · simp only [isRetry]
        exact carries_lose timer goesOn number
      · exact absurd rfl (noFailure error)

/-- An attempt is taken off those under way. -/
theorem engagements_end {place number : Nat} {origin : Origin}
    (isThere : outline.attempts[place]? = some (number, origin)) :
    outline.engagements.Perm
      (number :: ({ outline with attempts := outline.attempts.eraseIdx place } : Outline).engagements) := by
  obtain ⟨bound, isAttempt⟩ := List.getElem?_eq_some_iff.1 isThere
  have perm := List.getElem_cons_eraseIdx_perm bound
  simp only [isAttempt] at perm
  simp only [engagements]
  rw [← List.append_assoc, ← List.append_assoc]
  apply ((perm.map Prod.fst).symm.append_left _).trans
  exact List.perm_middle

theorem Sound.of_attempts {groups : List (Address × Nat)} {bound : Nat}
    (sound : outline.Sound groups bound) (place : Nat) :
    ({ outline with attempts := outline.attempts.eraseIdx place } : Outline).Sound groups bound := by
  refine sound.of_seats sound.timer rfl rfl rfl rfl fun number isEngaged => sound.known number ?_
  simp only [engagements] at isEngaged ⊢
  simp only [List.mem_append] at isEngaged ⊢
  refine isEngaged.imp_right (Or.imp_right ?_)
  intro isTried
  exact ((List.eraseIdx_sublist _ _).map Prod.fst).subset isTried

theorem carries_settle (timer : outline.timer.Sound) (goesOn : outline.timer.stopped = false)
    (place : Nat) (outcome : Outcome)
    (notCallers : ∀ number, outline.attempts[place]? = some (number, .caller) →
      ∀ error, outcome ≠ .failed error) :
    Carries outline (outline.settle place outcome) [] := by
  simp only [Outline.settle]
  cases isThere : outline.attempts[place]? with
  | none => exact carries_refl outline
  | some attempt =>
      obtain ⟨number, origin⟩ := attempt
      have ended := engagements_end isThere
      have ours : origin = .retry ∨ ∀ error, outcome ≠ .failed error := by
        cases origin with
        | retry => exact Or.inl rfl
        | caller => exact Or.inr (notCallers number isThere)
      let left : Outline := { outline with attempts := outline.attempts.eraseIdx place }
      have sameTimer : left.timer.Sound := timer
      have concluded := carries_conclude sameTimer goesOn number origin outcome ours
      have perm : ([] ++ outline.engagements).Perm ([number] ++ left.engagements) := ended
      refine ⟨concluded.balance.of_perm perm, concluded.steady, concluded.capacity, concluded.stopped,
        concluded.switches, concluded.owned, ?_⟩
      intro groups bound sound _
      apply concluded.sound groups bound (sound.of_attempts place)
      intro other isNumber
      simp only [List.mem_singleton] at isNumber
      exact sound.known other (ended.mem_iff.2 (isNumber ▸ List.mem_cons_self))

/-- A retry is taken off the timer. -/
theorem engagements_release (timer : outline.timer.Sound) (index : Nat) :
    outline.engagements.Perm ((outline.timer.release index).2.join.toList
      ++ ({ outline with timer := (outline.timer.release index).1 } : Outline).engagements) := by
  have perm := ManualTimer.waiting_release timer index
  simp only [engagements]
  apply (List.Perm.append_left _ (perm.append_right _)).trans
  simp only [← List.append_assoc]
  exact (List.perm_append_comm.append_right _).append_right _

theorem Sound.of_release {groups : List (Address × Nat)} {bound : Nat}
    (sound : outline.Sound groups bound) (index : Nat) :
    ({ outline with timer := (outline.timer.release index).1 } : Outline).Sound groups bound := by
  refine sound.of_seats (ManualTimer.sound_release sound.timer index) rfl rfl rfl rfl
    fun number isEngaged => sound.known number ?_
  exact (engagements_release sound.timer index).mem_iff.2 (List.mem_append_right _ isEngaged)

theorem Owned.of_release (owned : outline.Owned) (index : Nat) :
    ({ outline with timer := (outline.timer.release index).1 } : Outline).Owned := by
  intro number post handle isThere isPending
  obtain ⟨given, alone⟩ := owned number post handle isThere isPending
  cases found : outline.timer.entries[index]? with
  | none =>
      simp only [ManualTimer.release_of_none found]
      exact ⟨given, alone⟩
  | some entry =>
      simp only [ManualTimer.release_eq found]
      simp only [ManualTimer.without]
      simp only [List.length_set]
      exact ⟨given, fun other isOther => alone other (List.mem_of_mem_eraseIdx isOther)⟩

/-- When the timer fires, a task that was not cancelled calls for an attempt. -/
theorem fire_of_some {index number : Nat} (isReleased : (outline.timer.release index).2.join = some number) :
    outline.fire index
      = Outline.retry { outline with timer := (outline.timer.release index).1 } number := by
  simp only [Outline.fire]
  simp only [isReleased]

theorem fire_of_none {index : Nat} (isReleased : (outline.timer.release index).2.join = none) :
    outline.fire index = { outline with timer := (outline.timer.release index).1 } := by
  simp only [Outline.fire]
  simp only [isReleased]

theorem carries_fire (timer : outline.timer.Sound) (index : Nat) :
    Carries outline (outline.fire index) [] := by
  have released := engagements_release timer index
  have stopped := ManualTimer.stopped_release outline.timer index
  cases isReleased : (outline.timer.release index).2.join with
  | none =>
      simp only [isReleased] at released
      simp only [fire_of_none isReleased]
      exact ⟨Or.inl released, rfl, rfl, stopped, rfl, fun owned => owned.of_release index,
        fun _ _ sound _ => sound.of_release index⟩
  | some number =>
      simp only [isReleased] at released
      simp only [fire_of_some isReleased]
      let left : Outline := { outline with timer := (outline.timer.release index).1 }
      have retried : Carries left (left.retry number) [number] := carries_retry number
      refine ⟨retried.balance.of_perm released, retried.steady, retried.capacity,
        retried.stopped.trans stopped, retried.switches,
        fun owned => retried.owned (owned.of_release index), ?_⟩
      intro groups bound sound _
      apply retried.sound groups bound (sound.of_release index)
      intro other isNumber
      simp only [List.mem_singleton] at isNumber
      exact sound.known other (released.mem_iff.2 (isNumber ▸ List.mem_cons_self))

/-! ### Whose attempts there are -/

/-- The attempts under way, and the addresses of all attempts so far. -/
def trials (outline : Outline) : List (Nat × Origin) × List Address :=
  (outline.attempts, outline.dials)

theorem trials_schedule (outline : Outline) (number : Nat) :
    (outline.schedule number).trials = outline.trials := by
  simp only [Outline.schedule]
  split <;> rfl

theorem trials_lose (outline : Outline) (number : Nat) :
    (outline.lose number).trials = outline.trials := by
  rcases lose_cases outline number with ⟨same, -⟩ | same
  · rw [same]
  · rw [same]
    exact trials_schedule outline number

theorem trials_close (outline : Outline) (channel : Nat) :
    (outline.close channel).trials = outline.trials := by
  simp only [Outline.close]
  split
  · rfl
  · exact trials_lose _ _

theorem trials_establish (outline : Outline) (number : Nat) (flaps : Bool) :
    (outline.establish number flaps).trials = outline.trials := by
  have isUp : (outline.up number).trials = outline.trials := by
    rw [up_eq]
    rfl
  simp only [Outline.establish]
  split
  · exact (trials_close _ _).trans isUp
  · exact isUp

/-- No attempt begins when another one ends. -/
theorem trials_conclude (outline : Outline) (number : Nat) (origin : Origin) (outcome : Outcome) :
    (outline.conclude number origin outcome).trials = outline.trials := by
  cases outcome with
  | established => exact trials_establish outline number false
  | flapped => exact trials_establish outline number true
  | failed error =>
      cases origin with
      | retry => exact trials_lose outline number
      | caller => rfl

theorem trials_settle (outline : Outline) (place : Nat) (outcome : Outcome) :
    (outline.settle place outcome).trials = (outline.attempts.eraseIdx place, outline.dials) := by
  simp only [Outline.settle]
  cases isThere : outline.attempts[place]? with
  | none =>
      dsimp only
      rw [List.eraseIdx_of_length_le (List.getElem?_eq_none_iff.1 isThere)]
      rfl
  | some attempt => exact trials_conclude _ _ _ outcome

theorem attempts_settle (outline : Outline) (place : Nat) (outcome : Outcome) :
    (outline.settle place outcome).attempts = outline.attempts.eraseIdx place :=
  congrArg Prod.fst (trials_settle outline place outcome)

/-- An attempt that begins when the timer fires is the timer's. -/
theorem mem_attempts_fire {index : Nat} {attempt : Nat × Origin}
    (isTried : attempt ∈ (outline.fire index).attempts) :
    attempt ∈ outline.attempts ∨ attempt.2 = .retry := by
  cases isReleased : (outline.timer.release index).2.join with
  | none =>
      simp only [fire_of_none isReleased] at isTried
      exact Or.inl isTried
  | some number =>
      simp only [fire_of_some isReleased] at isTried
      let left : Outline := { outline with timer := (outline.timer.release index).1 }
      change attempt ∈ (left.retry number).attempts at isTried
      rcases retry_cases left number with ⟨same, -⟩ | ⟨post, isThere, -, same⟩
      · rw [same] at isTried
        exact Or.inl isTried
      · rw [same, dial_eq isThere] at isTried
        rcases List.mem_append.1 isTried with isOld | isNew
        · exact Or.inl isOld
        · rw [List.mem_singleton.1 isNew]
          exact Or.inr rfl

/-! ### Starting and stopping -/

theorem seats_start (outline : Outline) (number : Nat) :
    (outline.start number).posts.map Post.seat = outline.posts.map Post.seat :=
  map_posts_change Post.seat (fun post => { post with started := true }) (fun _ => rfl) outline number

theorem Sound.start {groups : List (Address × Nat)} {bound : Nat} (sound : outline.Sound groups bound)
    (number : Nat) : (outline.start number).Sound groups bound :=
  sound.of_seats sound.timer (seats_start outline number) rfl rfl rfl sound.known

theorem stop_of_none {number : Nat} (absent : outline.posts[number]? = none) :
    outline.stop number = outline := by
  simp only [Outline.stop]
  simp only [absent]

theorem stop_of_some {number : Nat} {post : Post} (isThere : outline.posts[number]? = some post) :
    outline.stop number = (outline.cancelPending post.pending).change number Post.atRest := by
  simp only [Outline.stop]
  simp only [isThere]

theorem posts_cancelPending (outline : Outline) (pending : Option Nat) :
    (outline.cancelPending pending).posts = outline.posts := by
  cases pending <;> rfl

theorem seats_stop (outline : Outline) (number : Nat) :
    (outline.stop number).posts.map Post.seat = outline.posts.map Post.seat := by
  cases isThere : outline.posts[number]? with
  | none => rw [stop_of_none isThere]
  | some post =>
      rw [stop_of_some isThere, map_posts_change Post.seat Post.atRest (fun _ => rfl), posts_cancelPending]

theorem engagements_cancelPending (outline : Outline) (pending : Option Nat) :
    (outline.cancelPending pending).engagements ⊆ outline.engagements := by
  cases pending with
  | none => exact fun _ isEngaged => isEngaged
  | some handle =>
      intro number isEngaged
      simp only [engagements, cancelPending] at isEngaged
      simp only [engagements]
      simp only [List.mem_append] at isEngaged ⊢
      exact isEngaged.imp_right (Or.imp_left fun waits => ManualTimer.waiting_cancel_subset _ _ waits)

theorem engagements_stop (outline : Outline) (number : Nat) :
    (outline.stop number).engagements ⊆ outline.engagements := by
  cases isThere : outline.posts[number]? with
  | none =>
      simp only [stop_of_none isThere]
      exact fun _ isEngaged => isEngaged
  | some post =>
      simp only [stop_of_some isThere]
      exact engagements_cancelPending outline post.pending

theorem Sound.cancelPending {groups : List (Address × Nat)} {bound : Nat}
    (sound : outline.Sound groups bound) (pending : Option Nat) :
    (outline.cancelPending pending).Sound groups bound := by
  cases pending with
  | none => exact sound
  | some handle =>
      exact sound.of_seats (ManualTimer.sound_cancel sound.timer handle) rfl rfl rfl rfl
        fun number isEngaged =>
          sound.known number (engagements_cancelPending outline (some handle) isEngaged)

theorem Sound.stop {groups : List (Address × Nat)} {bound : Nat} (sound : outline.Sound groups bound)
    (number : Nat) : (outline.stop number).Sound groups bound := by
  cases isThere : outline.posts[number]? with
  | none =>
      simp only [stop_of_none isThere]
      exact sound
  | some post =>
      simp only [stop_of_some isThere]
      have cancelled := sound.cancelPending post.pending
      exact cancelled.of_seats cancelled.timer
        (map_posts_change Post.seat Post.atRest (fun _ => rfl) _ _) rfl rfl rfl
        cancelled.known

theorem switches_stop (outline : Outline) (number : Nat) :
    (outline.stop number).switches = outline.switches := by
  cases isThere : outline.posts[number]? with
  | none => rw [stop_of_none isThere]
  | some post =>
      simp only [stop_of_some isThere]
      cases post.pending <;> rfl

theorem stopped_stop (outline : Outline) (number : Nat) :
    (outline.stop number).timer.stopped = outline.timer.stopped := by
  cases isThere : outline.posts[number]? with
  | none => rw [stop_of_none isThere]
  | some post =>
      simp only [stop_of_some isThere]
      cases post.pending <;> rfl

/-- Turning a switch starts or stops one watchdog, or nothing. -/
theorem turnSwitch_cases (outline : Outline) (connection : Nat) (enabled : Bool) :
    outline.turnSwitch connection enabled = outline ∨
      ∃ address number, outline.switches[connection]? = some (address, some (.watchdog number)) ∧
        outline.turnSwitch connection enabled
          = if enabled then outline.start number else outline.stop number := by
  simp only [Outline.turnSwitch]
  split
  · rename_i address number isThere
    exact Or.inr ⟨address, number, isThere, rfl⟩
  · exact Or.inl rfl

theorem Sound.turnSwitch {groups : List (Address × Nat)} {bound : Nat}
    (sound : outline.Sound groups bound) (connection : Nat) (enabled : Bool) :
    (outline.turnSwitch connection enabled).Sound groups bound := by
  rcases turnSwitch_cases outline connection enabled with same | ⟨_, number, -, turned⟩
  · simp only [same]
    exact sound
  · simp only [turned]
    cases enabled with
    | true => exact sound.start number
    | false => exact sound.stop number

theorem switches_turnSwitch (outline : Outline) (connection : Nat) (enabled : Bool) :
    (outline.turnSwitch connection enabled).switches = outline.switches := by
  rcases turnSwitch_cases outline connection enabled with same | ⟨_, number, -, turned⟩
  · simp only [same]
  · simp only [turned]
    cases enabled with
    | true => rfl
    | false => exact switches_stop outline number

theorem seats_turnSwitch (outline : Outline) (connection : Nat) (enabled : Bool) :
    (outline.turnSwitch connection enabled).posts.map Post.seat = outline.posts.map Post.seat := by
  rcases turnSwitch_cases outline connection enabled with same | ⟨_, number, -, turned⟩
  · simp only [same]
  · simp only [turned]
    cases enabled with
    | true =>
        exact seats_start outline number
    | false => exact seats_stop outline number

end Outline

/-! ### Engagements in a fabric -/

namespace Fabric.Shows

variable {fabric : Fabric} {outline : Outline}

/-- Counting watchdogs by their open channels. -/
theorem countP_links (shows : fabric.Shows outline) (keep : Nat → Bool) :
    (outline.links.filterMap id).countP keep
      = fabric.roster.channels.countP fun channel => channel.isOpen && channel.handler.any keep := by
  simp only [shows.links_eq, Roster.links, List.filterMap_map, List.countP_filterMap]
  congr 1
  funext channel
  dsimp only [Function.comp_apply, id_eq]
  simp only [Channel.link]
  cases channel.isOpen <;> cases channel.handler <;> rfl

/-- Counting watchdogs by the retries that the timer is still to run. -/
theorem countP_waiting (shows : fabric.Shows outline) (keep : Nat → Bool) :
    outline.timer.waiting.countP keep
      = fabric.timer.entries.countP fun entry =>
          fabric.timer.timeout entry.handle == .pending && keep entry.task := by
  have sameTimer : outline.timer = fabric.timer.undated := by
    rw [← shows.outlineEq]
    rfl
  simp only [sameTimer, ManualTimer.waiting_undated]
  simp only [ManualTimer.waiting, List.countP_map, List.countP_filter]
  congr 1
  funext entry
  exact Bool.and_comm _ _

/-- Counting watchdogs by their attempts under way. -/
theorem countP_attempts (shows : fabric.Shows outline) (keep : Nat → Bool) :
    (outline.attempts.map Prod.fst).countP keep
      = fabric.underWay.countP fun attempt => keep attempt.watchdog := by
  have attempts : outline.attempts
      = fabric.underWay.map fun attempt => (attempt.watchdog, attempt.origin) := by
    rw [← shows.outlineEq]
    rfl
  simp only [attempts, List.map_map, List.countP_map]
  rfl

end Fabric.Shows

end Uplink
