/-
Module: Uplink.Proofs.Pool.Tidy
Purpose: Channels and pools that only watchdogs and callers work on: every open channel has a handler, every
  hook is that of a pool, and a channel that closes leaves every pool.
Main exports: Channel.link, Roster.links, Roster.capacityOf, Roster.Tidy, Roster.Tidy.enroll,
  Roster.Tidy.close, Roster.membersOf_close, Roster.links_close
-/
import Uplink.Proofs.Pool.Discreet
import Uplink.Proofs.Pool.Membership

namespace Uplink

/-- The handler of a channel, as long as the channel is open. -/
def Channel.link (channel : Channel) : Option Nat :=
  if channel.isOpen then channel.handler else none

namespace Roster

/-- The handlers of the open channels, at their places. -/
def links (roster : Roster) : List (Option Nat) :=
  roster.channels.map Channel.link

/-- The capacity of a pool that exists. -/
def capacityOf (roster : Roster) (pool : Nat) : Option Nat :=
  (roster.pools[pool]?).map fun held => held.capacity.toNat

/-- The addresses that were dialled so far, in order. -/
def dials (roster : Roster) : List Address :=
  roster.journal.events.filterMap fun
    | .connecting address => some address
    | _ => none

/-- Every open channel has a handler, the latches agree with the channels, members have their hooks, and
there are no other hooks. -/
structure Tidy (roster : Roster) : Prop where
  latched : roster.Latched
  tracked : ∀ pool, ∃ calls, roster.Tracks pool calls 0 []
  released : ∀ channel, ∀ hook ∈ (roster.closing channel).hooks, ∃ pool, hook = .release pool
  handled : ∀ channel found, roster.channel? channel = some found → found.isOpen = true →
    found.handler.isSome = true

variable {roster changed : Roster}

/-! ### Links -/

/-- The channel at a place has the number after it. -/
theorem getElem?_links (roster : Roster) (place : Nat) :
    roster.links[place]? = (roster.channel? (place + 1)).map Channel.link := by
  rw [links, List.getElem?_map, channel?, if_neg (Nat.succ_ne_zero place), Nat.add_sub_cancel]

theorem links_ext
    (same : ∀ channel, (changed.channel? channel).map Channel.link
      = (roster.channel? channel).map Channel.link) :
    changed.links = roster.links := by
  apply List.ext_getElem?
  intro place
  simp only [getElem?_links, same]

theorem links_enroll (roster : Roster) (pool channel : Nat) :
    (roster.enroll pool channel).1.links = roster.links := by
  apply links_ext
  intro other
  simp only [channel?_enroll]
  split
  · cases roster.channel? other <;> rfl
  · rfl

theorem links_openChannel (roster : Roster) (handler : Option Nat) :
    (roster.openChannel handler).1.links = roster.links ++ [handler] :=
  List.map_append

/-- A channel that is open has the link that its handler gives. -/
theorem link_of_isOpen {channel : Nat} (isOpen : roster.isOpen channel = true) :
    ((roster.channel? channel).map Channel.link).join = (roster.channel? channel).bind Channel.handler := by
  simp only [Roster.isOpen] at isOpen
  cases found : roster.channel? channel with
  | none => rfl
  | some held =>
      rw [found] at isOpen
      dsimp only at isOpen
      dsimp only [Option.map_some, Option.join_some, Option.bind_some]
      simp only [Channel.link, if_pos isOpen]

theorem link_of_not_isOpen {channel : Nat} (notOpen : roster.isOpen channel = false) :
    ((roster.channel? channel).map Channel.link).join = none := by
  simp only [Roster.isOpen] at notOpen
  cases found : roster.channel? channel with
  | none => rfl
  | some held =>
      rw [found] at notOpen
      dsimp only at notOpen
      dsimp only [Option.map_some, Option.join_some]
      simp only [Channel.link, notOpen, if_neg Bool.false_ne_true]

/-! ### Hooks of pools -/

/-- What the hooks of pools leave as it is. -/
structure SameLinks (roster changed : Roster) : Prop where
  channels : changed.channels = roster.channels
  capacity : changed.capacityOf = roster.capacityOf
  dials : changed.dials = roster.dials

theorem capacityOf_evict (roster : Roster) (pool channel : Nat) :
    (roster.evict pool channel).1.capacityOf = roster.capacityOf := by
  funext other
  simp only [capacityOf]
  simp only [pools_evict, List.getElem?_modify]
  cases roster.pools[other]? with
  | none => rfl
  | some held =>
      dsimp only [Option.map_eq_map, Option.map_some]
      split
      · simp only [Pool.capacity_evict]
      · rfl

theorem capacityOf_enroll (roster : Roster) (pool channel : Nat) :
    (roster.enroll pool channel).1.capacityOf = roster.capacityOf := by
  funext other
  simp only [capacityOf]
  simp only [pools_enroll, List.getElem?_modify]
  cases roster.pools[other]? with
  | none => rfl
  | some held =>
      dsimp only [Option.map_eq_map, Option.map_some]
      split
      · simp only [afterEnrolling]
        split
        · simp only [Pool.capacity_evict, Pool.capacity_enroll]
        · simp only [Pool.capacity_enroll]
      · rfl

/-- Plain observations are no dials. -/
theorem Discreet.dials (discreet : Discreet roster changed) : changed.dials = roster.dials := by
  apply discreet.filterMap
  intro event plain
  cases event with
  | connecting address => cases plain
  | _ => rfl

theorem dials_evict (roster : Roster) (pool channel : Nat) :
    (roster.evict pool channel).1.dials = roster.dials :=
  (Discreet.evict roster pool channel).dials

theorem dials_enroll (roster : Roster) (pool channel : Nat) :
    (roster.enroll pool channel).1.dials = roster.dials :=
  (Discreet.enroll roster pool channel).dials

theorem dials_close (roster : Roster) (channel : Nat) :
    (roster.close channel).1.dials = roster.dials :=
  (Discreet.close roster channel).dials

/-- Only the beginning of an attempt counts as a dial. -/
theorem dials_record (roster : Roster) {event : Event} (noDial : ∀ address, event ≠ .connecting address) :
    (roster.record event).dials = roster.dials := by
  change List.filterMap _ (roster.journal.events ++ [event]) = _
  rw [List.filterMap_append]
  cases event with
  | connecting address => exact absurd rfl (noDial address)
  | _ => exact List.append_nil _

theorem sameLinks_evict (roster : Roster) (pool channel : Nat) :
    SameLinks roster (roster.evict pool channel).1 :=
  ⟨channels_evict roster pool channel, capacityOf_evict roster pool channel,
    dials_evict roster pool channel⟩

/-- The hooks of some pools evict the channel from these pools and do nothing else. -/
theorem runHooks_releases (channel : Nat) (due : List CloseHook)
    (releases : ∀ hook ∈ due, ∃ pool, hook = .release pool) (roster : Roster) :
    SameLinks roster (roster.runHooks channel due) ∧
      ∀ pool, (roster.runHooks channel due).membersOf pool
        = if .release pool ∈ due then (roster.membersOf pool).filter (· ≠ channel)
          else roster.membersOf pool := by
  induction due generalizing roster with
  | nil => exact ⟨⟨rfl, rfl, rfl⟩, fun pool => (if_neg List.not_mem_nil).symm⟩
  | cons hook rest ih =>
      obtain ⟨target, isRelease⟩ := releases hook List.mem_cons_self
      subst isRelease
      obtain ⟨same, members⟩ := ih (fun hook isDue => releases hook (List.mem_cons_of_mem _ isDue))
        (roster.evict target channel).1
      have first := sameLinks_evict roster target channel
      refine ⟨⟨same.channels.trans first.channels, same.capacity.trans first.capacity,
        same.dials.trans first.dials⟩, ?_⟩
      intro pool
      apply (members pool).trans
      simp only [membersOf_evict]
      by_cases isTarget : pool = target
      · subst isTarget
        rw [if_pos rfl, if_pos List.mem_cons_self]
        split
        · simp only [List.filter_filter]
          simp only [Bool.and_self]
        · rfl
      · simp only [if_neg isTarget]
        have further : CloseHook.release pool ∈ CloseHook.release target :: rest
            ↔ CloseHook.release pool ∈ rest := by
          rw [List.mem_cons, or_iff_right]
          exact fun equal => isTarget (CloseHook.release.inj equal)
        simp only [further]

/-! ### What keeps a roster tidy -/

namespace Tidy

theorem of_same (tidy : roster.Tidy) (channels : changed.channels = roster.channels)
    (members : changed.membersOf = roster.membersOf) : changed.Tidy := by
  have preserves := Preserves.of_channels channels
  refine ⟨tidy.latched.of_preserves preserves, ?_, ?_,
    ?_⟩
  · intro pool
    obtain ⟨calls, tracks⟩ := tidy.tracked pool
    exact ⟨calls, tracks.of_preserves preserves (congrFun members pool)⟩
  · intro channel
    simp only [closing, channel?]
    simp only [channels]
    exact tidy.released channel
  · intro channel
    simp only [channel?]
    simp only [channels]
    exact tidy.handled channel

theorem fresh : Roster.fresh.Tidy := by
  have nobody : ∀ channel, Roster.fresh.channel? channel = none := by
    intro channel
    simp only [channel?]
    split <;> rfl
  refine ⟨latched_fresh, fun pool => ⟨[], tracks_fresh pool⟩, ?_,
    ?_⟩
  · intro channel hook isHook
    simp only [closing, nobody] at isHook
    cases isHook
  · intro channel found isChannel
    simp only [nobody] at isChannel
    cases isChannel

theorem enroll (tidy : roster.Tidy) (pool channel : Nat) : (roster.enroll pool channel).1.Tidy := by
  refine ⟨tidy.latched.of_preserves (Preserves.enroll roster pool channel), ?_,
    ?_, ?_⟩
  · intro other
    obtain ⟨calls, tracks⟩ := tidy.tracked other
    exact ⟨_, tracks.perform pool (.enroll channel)⟩
  · intro other hook isHook
    simp only [closing_enroll] at isHook
    split at isHook
    · cases closingEq : roster.closing other with
      | done => rw [closingEq] at isHook; cases isHook
      | waiting hooks =>
          simp only [closingEq] at isHook
          rcases List.mem_append.1 isHook with before | isNew
          · exact tidy.released other hook (by rw [closingEq]; exact before)
          · exact ⟨pool, List.mem_singleton.1 isNew⟩
    · exact tidy.released other hook isHook
  · intro other found isChannel isOpen
    simp only [channel?_enroll] at isChannel
    split at isChannel
    · obtain ⟨before, isBefore, same⟩ := Option.map_eq_some_iff.1 isChannel
      rw [← same] at isOpen ⊢
      exact tidy.handled other before isBefore isOpen
    · exact tidy.handled other found isChannel isOpen

theorem openChannel (tidy : roster.Tidy) (handler : Nat) :
    (roster.openChannel (some handler)).1.Tidy := by
  refine ⟨tidy.latched.openChannel _, ?_, ?_,
    ?_⟩
  · intro pool
    obtain ⟨calls, tracks⟩ := tidy.tracked pool
    exact ⟨calls, tracks.openChannel _⟩
  · intro channel hook isHook
    simp only [closing, channel?_openChannel] at isHook
    by_cases isNew : channel = roster.channels.length + 1
    · simp only [if_pos isNew] at isHook
      cases isHook
    · simp only [if_neg isNew] at isHook
      exact tidy.released channel hook isHook
  · intro channel found isChannel isOpen
    simp only [channel?_openChannel] at isChannel
    by_cases isNew : channel = roster.channels.length + 1
    · simp only [if_pos isNew] at isChannel
      cases isChannel
      rfl
    · simp only [if_neg isNew] at isChannel
      exact tidy.handled channel found isChannel isOpen

theorem addPool (tidy : roster.Tidy) (address : Address) (config : PoolConfig) :
    (roster.addPool address config).1.Tidy := by
  refine ⟨tidy.latched.of_preserves (Preserves.of_channels rfl), ?_, tidy.released,
    tidy.handled⟩
  intro pool
  obtain ⟨calls, tracks⟩ := tidy.tracked pool
  exact ⟨calls, tracks.addPool address config⟩

/-- A member of a pool is an open channel with a handler. -/
theorem isOpen_of_mem (tidy : roster.Tidy) {pool channel : Nat}
    (isMember : channel ∈ roster.membersOf pool) : roster.isOpen channel = true := by
  obtain ⟨calls, tracks⟩ := tidy.tracked pool
  simp only [tidy.latched channel]
  exact tracks.awaits isMember

end Tidy

/-! ### Closing a channel of a tidy roster -/

/-- The hooks of a channel are due: those of the pools whose member it is, and no others that matter. -/
theorem Tidy.runHooks (tidy : roster.Tidy) (channel : Nat) :
    SameLinks (roster.shut channel) ((roster.shut channel).runHooks channel (roster.closing channel).hooks) ∧
      ∀ pool, ((roster.shut channel).runHooks channel (roster.closing channel).hooks).membersOf pool
        = (roster.membersOf pool).filter (· ≠ channel) := by
  obtain ⟨same, members⟩ := runHooks_releases channel (roster.closing channel).hooks
    (tidy.released channel) (roster.shut channel)
  refine ⟨same, fun pool => (members pool).trans ?_⟩
  have before : (roster.shut channel).membersOf pool = roster.membersOf pool :=
    membersOf_changeChannel roster channel pool _
  simp only [before]
  split
  · rfl
  · rename_i noHook
    -- A member would have a hook that waits.
    obtain ⟨calls, tracks⟩ := tidy.tracked pool
    symm
    simp only [List.filter_eq_self]
    intro member isMember
    refine decide_eq_true fun isChannel => noHook ?_
    exact isChannel ▸ (tracks.hooked member isMember).resolve_right fun isDue => nomatch isDue.2

/-- A channel that closes leaves every pool. -/
theorem membersOf_close (tidy : roster.Tidy) {channel : Nat} (isOpen : roster.isOpen channel = true)
    (pool : Nat) :
    (roster.close channel).1.membersOf pool = (roster.membersOf pool).filter (· ≠ channel) := by
  simp only [close_of_open isOpen]
  apply (membersOf_changeChannel _ channel pool _).trans
  exact (tidy.runHooks channel).2 pool

theorem capacityOf_changeChannel (roster : Roster) (channel : Nat) (change : Channel → Channel) :
    (roster.changeChannel channel change).capacityOf = roster.capacityOf := by
  simp only [changeChannel]
  split <;> rfl

theorem capacityOf_close (tidy : roster.Tidy) (channel : Nat) :
    (roster.close channel).1.capacityOf = roster.capacityOf := by
  cases isOpen : roster.isOpen channel with
  | false => rw [close_of_not_open isOpen]
  | true =>
      simp only [close_of_open isOpen]
      apply (capacityOf_changeChannel _ channel _).trans
      exact (tidy.runHooks channel).1.capacity.trans (capacityOf_changeChannel roster channel _)

/-- What closing leaves of each channel. -/
theorem channel?_close (tidy : roster.Tidy) {channel : Nat} (isOpen : roster.isOpen channel = true)
    (other : Nat) :
    (roster.close channel).1.channel? other
      = if other = channel then
          (roster.channel? other).map fun _ => { isOpen := false, closing := .done, handler := none }
        else roster.channel? other := by
  simp only [close_of_open isOpen]
  refine (channel?_unhandle _ channel other).trans ?_
  have kept : ((roster.shut channel).runHooks channel (roster.closing channel).hooks).channel? other
      = (roster.shut channel).channel? other := by
    simp only [channel?]
    rw [(tidy.runHooks channel).1.channels]
  simp only [kept, channel?_shut]
  split
  · simp only [Option.map_map]
    rfl
  · rfl

theorem links_close (tidy : roster.Tidy) {channel : Nat} (isOpen : roster.isOpen channel = true) :
    (roster.close channel).1.links = roster.links.set (channel - 1) none := by
  have positive : 0 < channel := by
    rcases Nat.eq_zero_or_pos channel with isZero | positive
    · simp only [isZero] at isOpen
      cases isOpen
    · exact positive
  apply List.ext_getElem?
  intro place
  simp only [getElem?_links, channel?_close tidy isOpen, List.getElem?_set]
  by_cases isPlace : place + 1 = channel
  · have exists' : place < roster.links.length := by
      simp only [links, List.length_map]
      by_contra beyond
      rw [← isPlace, Roster.isOpen, channel?_eq_none_of_length_lt (by omega)] at isOpen
      cases isOpen
    have isThere : (roster.channel? (place + 1)).isSome = true := by
      simp only [isPlace]
      simp only [Roster.isOpen] at isOpen
      cases found : roster.channel? channel with
      | none => rw [found] at isOpen; cases isOpen
      | some held => rfl
    obtain ⟨held, found⟩ := Option.isSome_iff_exists.1 isThere
    have samePlace : channel - 1 = place := by omega
    rw [if_pos isPlace, samePlace, if_pos rfl, if_pos exists', found]
    rfl
  · rw [if_neg isPlace, if_neg (by omega)]

theorem Tidy.close (tidy : roster.Tidy) (channel : Nat) : (roster.close channel).1.Tidy := by
  refine ⟨tidy.latched.close channel, ?_, ?_,
    ?_⟩
  · intro pool
    obtain ⟨calls, tracks⟩ := tidy.tracked pool
    exact ⟨_, tracks.close channel⟩
  · intro other hook isHook
    cases isOpen : roster.isOpen channel with
    | false =>
        simp only [close_of_not_open isOpen] at isHook
        exact tidy.released other hook isHook
    | true =>
        simp only [closing, channel?_close tidy isOpen] at isHook
        by_cases same : other = channel
        · simp only [if_pos same] at isHook
          cases found : roster.channel? other <;> rw [found] at isHook <;> cases isHook
        · simp only [if_neg same] at isHook
          exact tidy.released other hook isHook
  · intro other found isChannel isOpen'
    cases isOpen : roster.isOpen channel with
    | false =>
        simp only [close_of_not_open isOpen] at isChannel
        exact tidy.handled other found isChannel isOpen'
    | true =>
        simp only [channel?_close tidy isOpen] at isChannel
        by_cases same : other = channel
        · simp only [if_pos same] at isChannel
          obtain ⟨before, -, isFound⟩ := Option.map_eq_some_iff.1 isChannel
          rw [← isFound] at isOpen'
          cases isOpen'
        · simp only [if_neg same] at isChannel
          exact tidy.handled other found isChannel isOpen'

end Roster

end Uplink
