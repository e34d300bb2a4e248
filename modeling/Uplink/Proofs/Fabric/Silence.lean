/-
Module: Uplink.Proofs.Fabric.Silence
Purpose: When an address is not dialled any more: exactly if every watchdog of it that has an open channel,
  a retry or an attempt is stopped.
Main exports: Outline.Watches, Outline.Muted, Outline.Spares, Outline.turnOff, Outline.Controls,
  Outline.muted_turnOff_iff, Outline.dials_fire_of_released
-/
import Uplink.Proofs.Fabric.Engagement

namespace Uplink.Outline

variable {before after outline : Outline} {gained : List Nat} {address : Address} {number : Nat}

/-- The pool that a watchdog enrolls its channels in, if it has one, is to hold a channel at all. -/
def Roomy (outline : Outline) (pool : Option Nat) : Prop :=
  ∀ number, pool = some number → outline.capacity number ≠ some 0

/-- The watchdog with a number is started and watches over links to an address. -/
def Watches (outline : Outline) (address : Address) (number : Nat) : Prop :=
  ∃ post, outline.posts[number]? = some post ∧ post.address = address ∧ post.started = true ∧
    outline.Roomy post.pool

/-- Every watchdog of an address that is engaged is stopped. -/
def Muted (outline : Outline) (address : Address) : Prop :=
  ∀ number ∈ outline.engagements, ¬ outline.Watches address number

/-- A step that brings an address no attempt, no watchdog that could make one, and no connection. -/
structure Spares (before after : Outline) (address : Address) : Prop where
  muted : before.Muted address → after.Muted address
  dials : before.Muted address → after.dials.count address = before.dials.count address
  switches : ∀ connection : Nat, (after.switches[connection]?).map Prod.fst = some address →
    (before.switches[connection]?).map Prod.fst = some address

namespace Spares

theorem refl (outline : Outline) (address : Address) : Spares outline outline address :=
  ⟨id, fun _ => rfl, fun _ => id⟩

theorem trans {last : Outline} (first : Spares before after address) (second : Spares after last address) :
    Spares before last address :=
  ⟨fun muted => second.muted (first.muted muted),
    fun muted => (second.dials (first.muted muted)).trans (first.dials muted),
    fun connection isOurs => first.switches connection (second.switches connection isOurs)⟩

end Spares

/-! ### Steps of the watchdogs -/

theorem watches_of_stations (stations : after.posts.map Post.station = before.posts.map Post.station)
    (capacity : after.capacity = before.capacity) :
    after.Watches address number ↔ before.Watches address number := by
  have onStation : ∀ outline : Outline, outline.Watches address number
      ↔ ∃ station, (outline.posts[number]?).map Post.station = some station ∧
        station.1.1 = address ∧ station.2 = true ∧ outline.Roomy station.1.2 := by
    intro outline
    constructor
    · rintro ⟨post, isThere, watches⟩
      exact ⟨post.station, by rw [isThere]; rfl, watches⟩
    · rintro ⟨station, isThere, watches⟩
      obtain ⟨post, isPost, same⟩ := Option.map_eq_some_iff.1 isThere
      rw [← same] at watches
      exact ⟨post, isPost, watches⟩
  have roomy : ∀ pool, after.Roomy pool ↔ before.Roomy pool := by
    intro pool
    simp only [Roomy]
    simp only [capacity]
  rw [onStation, onStation, ← List.getElem?_map, stations, List.getElem?_map]
  simp only [roomy]

/-- A step engages nobody else than whom it gains. -/
theorem Carries.muted (carries : Carries before after gained) (muted : before.Muted address)
    (strangers : ∀ number ∈ gained, ¬ before.Watches address number) : after.Muted address := by
  intro number isEngaged watches
  have watched := (watches_of_stations carries.steady carries.capacity).1 watches
  rcases carries.balance.subset isEngaged with isGained | wasEngaged
  · exact strangers number isGained watched
  · exact muted number wasEngaged watched

theorem Carries.spares (carries : Carries before after gained)
    (strangers : ∀ number ∈ gained, ¬ before.Watches address number)
    (dials : before.Muted address → after.dials.count address = before.dials.count address) :
    Spares before after address :=
  ⟨fun muted => carries.muted muted strangers, dials, fun _ isOurs => carries.switches ▸ isOurs⟩

theorem spares_close (timer : outline.timer.Sound) (goesOn : outline.timer.stopped = false)
    (channel : Nat) (address : Address) : Spares outline (outline.close channel) address := by
  refine (carries_close timer goesOn channel).spares (fun _ isGained => absurd isGained List.not_mem_nil)
    ?_
  intro _
  have same := congrArg Prod.snd (trials_close outline channel)
  dsimp only [trials] at same
  simp only [same]

/-- However an attempt ends, no other one begins. -/
theorem spares_settle (timer : outline.timer.Sound) (goesOn : outline.timer.stopped = false)
    (place : Nat) (outcome : Outcome) (address : Address) :
    Spares outline (outline.settle place outcome) address := by
  have same := congrArg Prod.snd (trials_settle outline place outcome)
  have dials : outline.Muted address →
      (outline.settle place outcome).dials.count address = outline.dials.count address := by
    intro _
    dsimp only [trials] at same
    simp only [same]
  by_cases isCallers : ∃ number error,
      outline.attempts[place]? = some (number, .caller) ∧ outcome = .failed error
  · obtain ⟨number, error, isThere, isFailure⟩ := isCallers
    have ended := engagements_end isThere
    simp only [isFailure] at dials ⊢
    simp only [settle] at dials ⊢
    simp only [isThere] at dials ⊢
    refine ⟨?_, dials, fun _ => id⟩
    intro muted other isEngaged
    exact muted other (ended.mem_iff.2 (List.mem_cons_of_mem _ isEngaged))
  · have carries := carries_settle timer goesOn place outcome fun number isThere error isFailure =>
      isCallers ⟨number, error, isThere, isFailure⟩
    exact carries.spares (fun _ isGained => absurd isGained List.not_mem_nil) dials

/-- When the timer fires for a watchdog that is stopped, or of another address, an address is not
dialled. -/
theorem dials_retry (others : ¬ outline.Watches address number) :
    (outline.retry number).dials.count address = outline.dials.count address := by
  rcases retry_cases outline number with ⟨same, -⟩ | ⟨post, isThere, wanted, same⟩
  · rw [same]
  · simp only [wants] at wanted
    simp only [Bool.and_eq_true] at wanted
    have roomy : outline.Roomy post.pool := by
      intro pool isPool isFull
      simp only [isPool] at wanted
      simp only [hasRoom] at wanted
      simp only [isFull] at wanted
      exact Nat.not_lt_zero _ (of_decide_eq_true wanted.2)
    have different : post.address ≠ address := by
      intro isOurs
      exact others ⟨post, isThere, isOurs, wanted.1, roomy⟩
    rw [same, dial_eq isThere]
    dsimp only
    rw [List.count_append, List.count_singleton, if_neg (by simpa using different), Nat.add_zero]

theorem spares_fire (timer : outline.timer.Sound) (index : Nat) (address : Address) :
    Spares outline (outline.fire index) address := by
  refine (carries_fire timer index).spares (fun _ isGained => absurd isGained List.not_mem_nil)
    ?_
  intro muted
  have released := engagements_release timer index
  cases isReleased : (outline.timer.release index).2.join with
  | none => rw [fire_of_none isReleased]
  | some number =>
      simp only [isReleased] at released
      simp only [fire_of_some isReleased]
      have others : ¬ outline.Watches address number :=
        muted number (released.mem_iff.2 List.mem_cons_self)
      let left : Outline := { outline with timer := (outline.timer.release index).1 }
      have silent : ¬ left.Watches address number := others
      exact dials_retry silent

/-! ### Starting and stopping -/

theorem watches_start {other : Nat} (watches : (outline.start other).Watches address number) :
    number = other ∨ outline.Watches address number := by
  obtain ⟨post, isThere, watched⟩ := watches
  obtain ⟨before, isBefore, ⟨isOther, -⟩ | ⟨-, same⟩⟩ := exists_of_change isThere
  · exact Or.inl isOther
  · simp only [same] at watched
    exact Or.inr ⟨before, isBefore, watched⟩

/-- Starting a watchdog spares the other addresses. -/
theorem spares_start (others : ∀ post, outline.posts[number]? = some post → post.address ≠ address) :
    Spares outline (outline.start number) address := by
  refine ⟨?_, fun _ => rfl, fun _ => id⟩
  intro muted other isEngaged watches
  rcases watches_start watches with isStarted | watched
  · obtain ⟨post, isThere, isOurs, -⟩ := watches
    have same := seat_of_seats (seats_start outline number) other
    simp only [isThere] at same
    obtain ⟨before, isBefore, sameSeat⟩ := Option.map_eq_some_iff.1 same.symm
    simp only [isStarted] at isBefore
    exact others before isBefore ((congrArg Prod.fst sameSeat).trans isOurs)
  · exact muted other isEngaged watched

theorem posts_stop (outline : Outline) (number : Nat) :
    (outline.stop number).posts = outline.posts.modify number Post.atRest := by
  cases isThere : outline.posts[number]? with
  | none =>
      rw [stop_of_none isThere, List.modify_eq_self]
      exact List.getElem?_eq_none_iff.1 isThere
  | some post =>
      simp only [stop_of_some isThere]
      simp only [change]
      simp only [posts_cancelPending]

theorem capacity_stop (outline : Outline) (number : Nat) :
    (outline.stop number).capacity = outline.capacity := by
  cases isThere : outline.posts[number]? with
  | none => rw [stop_of_none isThere]
  | some post =>
      simp only [stop_of_some isThere]
      cases post.pending <;> rfl

/-- Whoever is stopped is not started any more, and nobody else notices. -/
theorem watches_stop {other : Nat} :
    (outline.stop other).Watches address number ↔ number ≠ other ∧ outline.Watches address number := by
  have roomy : ∀ pool, (outline.stop other).Roomy pool ↔ outline.Roomy pool := by
    intro pool
    simp only [Roomy]
    simp only [capacity_stop]
  simp only [Watches]
  simp only [posts_stop]
  simp only [roomy]
  constructor
  · rintro ⟨post, isThere, watched⟩
    obtain ⟨before, isBefore, ⟨-, same⟩ | ⟨different, same⟩⟩ := exists_of_change isThere
    · simp only [same] at watched
      cases watched.2.1
    · simp only [same] at watched
      exact ⟨different, before, isBefore, watched⟩
  · rintro ⟨different, post, isThere, watched⟩
    refine ⟨post, ?_, watched⟩
    simp only [List.getElem?_modify_ne _ _ different.symm]
    exact isThere

theorem dials_stop (outline : Outline) (number : Nat) : (outline.stop number).dials = outline.dials := by
  cases isThere : outline.posts[number]? with
  | none => rw [stop_of_none isThere]
  | some post =>
      simp only [stop_of_some isThere]
      cases post.pending <;> rfl

theorem spares_stop (outline : Outline) (number : Nat) (address : Address) :
    Spares outline (outline.stop number) address := by
  refine ⟨?_, fun _ => by rw [dials_stop], ?_⟩
  · intro muted other isEngaged watches
    exact muted other (engagements_stop outline number isEngaged) (watches_stop.1 watches).2
  · intro _ isOurs
    simp only [switches_stop] at isOurs
    exact isOurs

theorem Owned.stop (owned : outline.Owned) (number : Nat) : (outline.stop number).Owned := by
  intro other post handle isThere isPending
  have timer : (outline.stop number).timer.timeouts.length = outline.timer.timeouts.length ∧
      (outline.stop number).timer.entries = outline.timer.entries := by
    cases isStopped : outline.posts[number]? with
    | none => rw [stop_of_none isStopped]; exact ⟨rfl, rfl⟩
    | some stopped =>
        simp only [stop_of_some isStopped]
        cases stopped.pending with
        | none => exact ⟨rfl, rfl⟩
        | some held => exact ⟨List.length_modify .., rfl⟩
  simp only [posts_stop] at isThere
  simp only [timer.1, timer.2]
  obtain ⟨before, isBefore, ⟨-, same⟩ | ⟨-, same⟩⟩ := exists_of_change isThere
  · simp only [same] at isPending
    cases isPending
  · exact owned other before handle isBefore (same ▸ isPending)

theorem Owned.start (owned : outline.Owned) (number : Nat) : (outline.start number).Owned := by
  intro other post handle isThere isPending
  obtain ⟨before, isBefore, ⟨-, same⟩ | ⟨-, same⟩⟩ := exists_of_change isThere
  · simp only [same] at isPending
    exact owned other before handle isBefore isPending
  · exact owned other before handle isBefore (same ▸ isPending)

theorem Owned.turnSwitch (owned : outline.Owned) (connection : Nat) (enabled : Bool) :
    (outline.turnSwitch connection enabled).Owned := by
  rcases turnSwitch_cases outline connection enabled with same | ⟨_, number, -, turned⟩
  · simp only [same]
    exact owned
  · simp only [turned]
    cases enabled with
    | true => exact owned.start number
    | false => exact owned.stop number

/-! ### Turning off the switches of an address -/

/-- Turn some switches off. -/
def turnOff (outline : Outline) (connections : List Nat) : Outline :=
  connections.foldl (fun turned connection => turned.turnSwitch connection false) outline

/-- The switch of one of some connections turns a watchdog. -/
def Controls (outline : Outline) (connections : List Nat) (number : Nat) : Prop :=
  ∃ connection ∈ connections, ∃ address,
    outline.switches[connection]? = some (address, some (.watchdog number))

theorem Controls.of_switches {connections : List Nat} (controls : before.Controls connections number)
    (switches : after.switches = before.switches) : after.Controls connections number := by
  obtain ⟨connection, isListed, other, isSwitch⟩ := controls
  exact ⟨connection, isListed, other, switches ▸ isSwitch⟩

theorem controls_cons {connection : Nat} {rest : List Nat} :
    outline.Controls (connection :: rest) number ↔
      outline.Controls [connection] number ∨ outline.Controls rest number := by
  simp only [Controls]
  simp only [List.mem_cons, List.not_mem_nil, or_false, exists_eq_or_imp, exists_eq_left]

/-- Turning one switch off stops the watchdog that it turns. -/
theorem watches_turnSwitch_off {connection : Nat} :
    (outline.turnSwitch connection false).Watches address number ↔
      ¬ outline.Controls [connection] number ∧ outline.Watches address number := by
  have controls : ∀ other, outline.Controls [connection] other ↔
      ∃ address, outline.switches[connection]? = some (address, some (.watchdog other)) := by
    intro other
    simp only [Controls]
    simp only [List.mem_singleton, exists_eq_left]
  simp only [controls]
  simp only [Outline.turnSwitch]
  split
  · rename_i owner other isSwitch
    simp only [if_neg Bool.false_ne_true, watches_stop, isSwitch]
    simp only [Option.some.injEq, Prod.mk.injEq, ReconnectSwitch.watchdog.injEq, exists_eq_left',
      eq_comm (a := other), ne_eq]
  · rename_i noSwitch
    constructor
    · intro watches
      refine ⟨?_, watches⟩
      rintro ⟨owner, isSwitch⟩
      exact noSwitch owner number isSwitch
    · exact And.right

theorem watches_turnOff (connections : List Nat) :
    (outline.turnOff connections).Watches address number ↔
      ¬ outline.Controls connections number ∧ outline.Watches address number := by
  induction connections generalizing outline with
  | nil =>
      refine ⟨fun watches => ⟨?_, watches⟩, And.right⟩
      rintro ⟨connection, isListed, -⟩
      exact absurd isListed List.not_mem_nil
  | cons connection rest ih =>
      have switches := switches_turnSwitch outline connection false
      have same : (outline.turnSwitch connection false).Controls rest number ↔
          outline.Controls rest number :=
        ⟨fun controls => controls.of_switches switches.symm, fun controls => controls.of_switches switches⟩
      rw [controls_cons, not_or, and_assoc, and_left_comm, ← watches_turnSwitch_off, ← same]
      exact ih

/-- Stopping a watchdog ends no engagement of the others. -/
theorem mem_engagements_stop {other : Nat} (owned : outline.Owned)
    (isEngaged : number ∈ outline.engagements) (different : number ≠ other) :
    number ∈ (outline.stop other).engagements := by
  cases isThere : outline.posts[other]? with
  | none =>
      simp only [stop_of_none isThere]
      exact isEngaged
  | some post =>
      simp only [stop_of_some isThere]
      cases isPending : post.pending with
      | none => exact isEngaged
      | some handle =>
          simp only [engagements] at isEngaged
          simp only [engagements, change, cancelPending]
          simp only [List.mem_append] at isEngaged ⊢
          refine isEngaged.imp_right (Or.imp_left ?_)
          intro waits
          apply ManualTimer.mem_waiting_cancel waits
          intro entry isEntry isHandle same
          exact different (same.symm.trans ((owned other post handle isThere isPending).2 entry isEntry isHandle))

theorem mem_engagements_turnOff (owned : outline.Owned) {connections : List Nat}
    (isEngaged : number ∈ outline.engagements) (loose : ¬ outline.Controls connections number) :
    number ∈ (outline.turnOff connections).engagements := by
  induction connections generalizing outline with
  | nil => exact isEngaged
  | cons connection rest ih =>
      rw [controls_cons, not_or] at loose
      have switches := switches_turnSwitch outline connection false
      apply ih (owned.turnSwitch connection false)
      · rcases turnSwitch_cases outline connection false with same | ⟨owner, other, isSwitch, turned⟩
        · simp only [same]
          exact isEngaged
        · simp only [turned]
          apply mem_engagements_stop owned isEngaged
          intro isOther
          exact loose.1 ⟨connection, List.mem_singleton_self _, owner, isOther ▸ isSwitch⟩
      · exact fun controls => loose.2 (controls.of_switches switches.symm)

theorem engagements_turnOff (outline : Outline) (connections : List Nat) :
    (outline.turnOff connections).engagements ⊆ outline.engagements := by
  induction connections generalizing outline with
  | nil => exact fun _ isEngaged => isEngaged
  | cons connection rest ih =>
      apply List.Subset.trans (ih (outline.turnSwitch connection false))
      rcases turnSwitch_cases outline connection false with same | ⟨owner, other, -, turned⟩
      · simp only [same]
        exact fun _ isEngaged => isEngaged
      · simp only [turned]
        exact engagements_stop outline other

/-- Turning some switches off mutes an address exactly if they turn every watchdog of the address that is
engaged and started. -/
theorem muted_turnOff_iff (owned : outline.Owned) (connections : List Nat) (address : Address) :
    (outline.turnOff connections).Muted address ↔
      ∀ number ∈ outline.engagements, outline.Watches address number →
        outline.Controls connections number := by
  constructor
  · intro muted number isEngaged watches
    by_contra loose
    exact muted number (mem_engagements_turnOff owned isEngaged loose)
      ((watches_turnOff connections).2 ⟨loose, watches⟩)
  · intro controlled number isEngaged watches
    obtain ⟨loose, watched⟩ := (watches_turnOff connections).1 watches
    exact loose (controlled number (engagements_turnOff outline connections isEngaged) watched)

/-! ### Dialling again -/

/-- Close some channels. -/
def closeAll (outline : Outline) (channels : List Nat) : Outline :=
  channels.foldl close outline

theorem members_schedule (outline : Outline) (number : Nat) :
    (outline.schedule number).members = outline.members := by
  simp only [schedule]
  split <;> rfl

theorem links_schedule (outline : Outline) (number : Nat) :
    (outline.schedule number).links = outline.links := by
  simp only [schedule]
  split <;> rfl

theorem released_schedule {index : Nat} (timer : outline.timer.Sound)
    (released : (outline.timer.release index).2.join = some number) (other : Nat) :
    ((outline.schedule other).timer.release index).2.join = some number := by
  simp only [schedule]
  cases accepted : outline.timer.schedule Span.zero other with
  | error error => exact released
  | ok both =>
      dsimp only
      rw [ManualTimer.including_of_schedule accepted]
      exact ManualTimer.release_including timer Span.zero other released

/-- A channel that is closed is no member any more. -/
theorem not_mem_members_close {groups : List (Address × Nat)} {bound : Nat}
    (sound : outline.Sound groups bound) {pool channel member : Nat}
    (isMember : member ∈ (outline.close channel).members pool) :
    member ∈ outline.members pool ∧ member ≠ channel := by
  simp only [close] at isMember
  cases isLink : outline.link? channel with
  | none =>
      simp only [isLink] at isMember
      refine ⟨isMember, ?_⟩
      intro same
      obtain ⟨owner, isOwner, -⟩ := sound.enrolled pool member isMember
      simp only [same, isLink] at isOwner
      cases isOwner
  | some owner =>
      simp only [isLink] at isMember
      have stays : member ∈ (outline.shut channel).members pool := by
        rcases lose_cases (outline.shut channel) owner with ⟨same, -⟩ | same
        · exact same ▸ isMember
        · exact members_schedule (outline.shut channel) owner ▸ same ▸ isMember
      obtain ⟨wasMember, different⟩ := List.mem_filter.1 stays
      exact ⟨wasMember, of_decide_eq_true different⟩

theorem link?_close {channel other : Nat} (isLink : outline.link? channel = some number)
    (different : channel ≠ other) : (outline.close other).link? channel = some number := by
  have notZero := ne_zero_of_link? isLink
  simp only [close]
  cases isOther : outline.link? other with
  | none => exact isLink
  | some owner =>
      have otherNotZero := ne_zero_of_link? isOther
      have shut : (outline.shut other).link? channel = some number := by
        refine link?_of_getElem? notZero ?_
        simp only [Outline.shut]
        rw [List.getElem?_set_ne (by omega)]
        exact getElem?_of_link? isLink
      dsimp only
      rcases lose_cases (outline.shut other) owner with ⟨same, -⟩ | same
      · simp only [same]
        exact shut
      · simp only [same]
        simp only [link?] at shut ⊢
        simp only [links_schedule]
        exact shut

theorem released_close {index : Nat} (timer : outline.timer.Sound)
    (released : (outline.timer.release index).2.join = some number) (channel : Nat) :
    ((outline.close channel).timer.release index).2.join = some number := by
  simp only [close]
  cases outline.link? channel with
  | none => exact released
  | some owner =>
      dsimp only
      rcases lose_cases (outline.shut channel) owner with ⟨same, -⟩ | same
      · simp only [same]
        exact released
      · simp only [same]
        have sameTimer : (outline.shut channel).timer.Sound := timer
        exact released_schedule sameTimer released owner

/-- What closing some channels leaves as it was: the watchdogs, the other links, and the retries. -/
structure Closes (before after : Outline) (channels : List Nat) : Prop where
  stations : after.posts.map Post.station = before.posts.map Post.station
  capacity : after.capacity = before.capacity
  dials : after.dials = before.dials
  members : ∀ pool, ∀ member ∈ after.members pool, member ∈ before.members pool ∧ member ∉ channels
  links : ∀ channel number, channel ∉ channels → before.link? channel = some number →
    after.link? channel = some number
  released : ∀ index number, (before.timer.release index).2.join = some number →
    (after.timer.release index).2.join = some number

theorem closes_closeAll {groups : List (Address × Nat)} {bound : Nat}
    (sound : outline.Sound groups bound) (goesOn : outline.timer.stopped = false) (channels : List Nat) :
    Closes outline (outline.closeAll channels) channels := by
  induction channels generalizing outline with
  | nil =>
      exact ⟨rfl, rfl, rfl, fun _ _ isMember => ⟨isMember, List.not_mem_nil⟩, fun _ _ _ => id, fun _ _ => id⟩
  | cons channel rest ih =>
      have carries := carries_close sound.timer goesOn channel
      have others := ih (carries.sound groups bound sound fun _ isGained => absurd isGained List.not_mem_nil)
        (carries.stopped.trans goesOn)
      refine ⟨others.stations.trans carries.steady, others.capacity.trans carries.capacity,
        others.dials.trans ?_, ?_, ?_,
        ?_⟩
      · exact congrArg Prod.snd (trials_close outline channel)
      · intro pool member isMember
        obtain ⟨stays, isOther⟩ := others.members pool member isMember
        obtain ⟨wasMember, different⟩ := not_mem_members_close sound stays
        exact ⟨wasMember, List.not_mem_cons_of_ne_of_not_mem different isOther⟩
      · intro other number isOther isLink
        exact others.links other number (List.not_mem_of_not_mem_cons isOther)
          (link?_close isLink (List.ne_of_not_mem_cons isOther))
      · intro index number released
        exact others.released index number (released_close sound.timer released channel)

/-- A watchdog that is started wants another channel if its pool is empty. -/
theorem wants_of_empty {post : Post} (isStarted : post.started = true) (roomy : outline.Roomy post.pool)
    (empty : ∀ pool, post.pool = some pool → outline.members pool = []) : outline.wants post = true := by
  simp only [wants]
  simp only [isStarted, Bool.true_and]
  cases isPool : post.pool with
  | none => rfl
  | some pool =>
      dsimp only
      simp only [hasRoom]
      simp only [empty pool isPool]
      cases isCapacity : outline.capacity pool with
      | none => rfl
      | some capacity =>
          have different := roomy pool isPool
          simp only [isCapacity] at different
          exact decide_eq_true (Nat.pos_of_ne_zero fun isZero => different (congrArg some isZero))

/-- When the timer fires for a watchdog of an empty pool, its address is dialled. -/
theorem dials_fire {index : Nat} (watches : outline.Watches address number)
    (released : (outline.timer.release index).2.join = some number)
    (empty : ∀ pool, outline.poolOf number = some pool → outline.members pool = []) :
    (outline.fire index).dials = outline.dials ++ [address] := by
  obtain ⟨post, isThere, isOurs, isStarted, roomy⟩ := watches
  have isPost : ({ outline with timer := (outline.timer.release index).1 } : Outline).posts[number]?
      = some post := isThere
  have wanted : outline.wants post = true := by
    refine wants_of_empty isStarted roomy fun pool isPool => empty pool ?_
    simp only [poolOf]
    simp only [isThere]
    exact isPool
  have stillWanted : ({ outline with timer := (outline.timer.release index).1 } : Outline).wants post
      = true := wanted
  simp only [fire_of_some released]
  simp only [retry]
  rw [isPost]
  dsimp only
  simp only [if_pos stillWanted, dial_eq isPost, isOurs]

/-- When the last channel of a pool closes, its watchdog is scheduled last, unless it is stopped. -/
theorem released_close_of_empty {channel : Nat} (goesOn : outline.timer.stopped = false)
    (watches : outline.Watches address number) (isLink : outline.link? channel = some number)
    (last : ∀ pool, outline.poolOf number = some pool → ∀ member ∈ outline.members pool, member = channel) :
    ((outline.close channel).timer.release outline.timer.entries.length).2.join = some number := by
  obtain ⟨post, isThere, -, isStarted, roomy⟩ := watches
  have wanted : (outline.shut channel).wants post = true := by
    have stillRoomy : (outline.shut channel).Roomy post.pool := roomy
    apply wants_of_empty isStarted stillRoomy
    intro pool isPool
    apply List.filter_eq_nil_iff.2
    intro member isMember
    have same := last pool (by unfold poolOf; rw [isThere]; exact isPool) member isMember
    simp only [decide_eq_true_eq, not_not]
    exact same
  have isPost : (outline.shut channel).posts[number]? = some post := isThere
  have stillGoesOn : (outline.shut channel).timer.stopped = false := goesOn
  simp only [close]
  rw [isLink]
  dsimp only
  simp only [lose]
  rw [isPost]
  dsimp only
  simp only [if_pos wanted, schedule_eq stillGoesOn]
  exact ManualTimer.release_including_last outline.timer Span.zero number

/-- An attempt that succeeds leaves its watchdog with a link. -/
theorem link?_settle {place : Nat} {origin : Origin}
    (isThere : outline.attempts[place]? = some (number, origin)) :
    (outline.settle place .established).link? (outline.links.length + 1) = some number := by
  simp only [settle]
  simp only [isThere]
  apply link?_of_getElem? (Nat.succ_ne_zero _)
  dsimp only [conclude, establish]
  simp only [if_neg Bool.false_ne_true, links_up]
  exact List.getElem?_concat_length

end Uplink.Outline
