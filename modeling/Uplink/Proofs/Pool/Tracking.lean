/-
Module: Uplink.Proofs.Pool.Tracking
Purpose: While a pool is called from anywhere, and the hooks of a closing run one after another, its members
  follow the ledger of the calls.
Main exports: Roster.knows, Roster.awaits, Roster.Tracks, Roster.Preserves, Roster.Tracks.of_preserves,
  Roster.Tracks.enroll, Roster.Tracks.evict, Roster.Tracks.release, Roster.Tracks.perform
-/
import Uplink.Proofs.Pool.Ledger
import Uplink.Proofs.Pool.Roster

namespace Uplink

/-!
A pool learns that a member has closed from the hook that it registered when it enrolled the channel.
While the hooks of a closing run, members may be closed whose hook is still due, and hooks of others may
call the pool in between.  `Tracks` says what holds throughout: whoever is a member has a hook of the pool
that waits or is due, and apart from closed channels the members are the ledger of all calls so far.
-/

namespace Roster

/-- Whether a channel exists. -/
def knows (roster : Roster) (channel : Nat) : Bool :=
  (roster.channel? channel).isSome

/-- The calls that count: those on a pool that exists, about channels that exist. -/
def counted (roster : Roster) (pool : Nat) (calls : List PoolCall) : List PoolCall :=
  if pool < roster.pools.length then calls.filter fun call => roster.knows call.channel else []

/-- Whether the closing of a channel is still to come. -/
def awaits (roster : Roster) (channel : Nat) : Bool :=
  !(roster.closing channel).isDone

/-- The members of a pool follow a history of calls, while some hooks of a closed channel are still
due. -/
structure Tracks (roster : Roster) (pool : Nat) (calls : List PoolCall) (closed : Nat)
    (due : List CloseHook) : Prop where
  agrees : (roster.membersOf pool).filter roster.awaits = (ledger calls).filter roster.awaits
  distinct : (roster.membersOf pool).Nodup
  hooked : ∀ channel ∈ roster.membersOf pool,
    .release pool ∈ (roster.closing channel).hooks ∨ channel = closed ∧ .release pool ∈ due
  known : ∀ channel ∈ ledger calls, roster.knows channel
  shut : roster.awaits closed = false

variable {roster changed : Roster} {pool closed : Nat} {calls : List PoolCall} {due : List CloseHook}

/-- The channel with number zero does not exist, so its closing counts as done. -/
theorem awaits_zero (roster : Roster) : roster.awaits 0 = false := rfl

theorem awaits_of_hook {channel : Nat} {hook : CloseHook}
    (waits : hook ∈ (roster.closing channel).hooks) : roster.awaits channel = true := by
  simp only [awaits, Latch.isDone_of_hooks waits]
  rfl

theorem knows_of_awaits {channel : Nat} (waits : roster.awaits channel = true) :
    roster.knows channel = true := by
  simp only [knows]
  simp only [awaits, closing] at waits
  cases found : roster.channel? channel with
  | none => rw [found] at waits; cases waits
  | some _ => rfl

/-! ### What leaves the members as they are -/

/-- Changes elsewhere: no channel is opened, closed or forgotten, and no hook that waits is lost. -/
structure Preserves (roster changed : Roster) : Prop where
  awaits : ∀ channel, changed.awaits channel = roster.awaits channel
  opens : ∀ channel, changed.isOpen channel = roster.isOpen channel
  knows : ∀ channel, changed.knows channel = roster.knows channel
  hooks : ∀ channel hook, hook ∈ (roster.closing channel).hooks →
    hook ∈ (changed.closing channel).hooks

namespace Preserves

theorem of_channels (same : changed.channels = roster.channels) : Preserves roster changed := by
  have channelEq : ∀ channel, changed.channel? channel = roster.channel? channel := by
    intro channel
    simp only [channel?]
    simp only [same]
  refine ⟨?_, ?_, ?_, ?_⟩
  · intro channel
    simp only [Roster.awaits, closing, channelEq]
  · intro channel
    simp only [isOpen, channelEq]
  · intro channel
    simp only [Roster.knows, channelEq]
  · intro channel hook waits
    simp only [closing, channelEq]
    exact waits

theorem trans {last : Roster} (first : Preserves roster changed) (second : Preserves changed last) :
    Preserves roster last := by
  refine ⟨?_, ?_, ?_, ?_⟩
  · intro channel
    simp only [second.awaits, first.awaits]
  · intro channel
    simp only [second.opens, first.opens]
  · intro channel
    simp only [second.knows, first.knows]
  · intro channel hook waits
    exact second.hooks channel hook (first.hooks channel hook waits)

/-- One more hook with a closing loses none. -/
theorem register (roster : Roster) (channel : Nat) (hook : CloseHook) :
    Preserves roster (roster.register channel hook) := by
  refine ⟨?_, fun other => isOpen_register roster channel hook other, ?_,
    ?_⟩
  · intro other
    simp only [Roster.awaits, closing_register]
    split
    · simp only [Latch.isDone_listen]
    · rfl
  · intro other
    simp only [Roster.knows, channel?_register]
    split
    · simp only [Option.isSome_map]
    · rfl
  · intro other waiting waits
    simp only [closing_register]
    split
    · exact Latch.mem_hooks_listen waits hook
    · exact waits

/-- Taking a handler off concerns nobody here. -/
theorem unhandle (roster : Roster) (channel : Nat) : Preserves roster (roster.unhandle channel) := by
  refine ⟨?_, fun other => isOpen_unhandle roster channel other, ?_,
    ?_⟩
  · intro other
    simp only [Roster.awaits, closing_unhandle]
  · intro other
    simp only [Roster.knows, channel?_unhandle]
    split
    · simp only [Option.isSome_map]
    · rfl
  · intro other hook waits
    simp only [closing_unhandle]
    exact waits

theorem enroll (roster : Roster) (target channel : Nat) :
    Preserves roster (roster.enroll target channel).1 := by
  refine ⟨?_, fun other => isOpen_enroll roster target channel other, ?_,
    fun other hook waits => mem_hooks_enroll waits target channel⟩
  · intro other
    simp only [Roster.awaits, isDone_closing_enroll]
  · intro other
    simp only [Roster.knows, channel?_enroll]
    split
    · simp only [Option.isSome_map]
    · rfl

theorem evict (roster : Roster) (target channel : Nat) :
    Preserves roster (roster.evict target channel).1 :=
  of_channels (channels_evict roster target channel)

theorem perform (roster : Roster) (target : Nat) (call : PoolCall) :
    Preserves roster (roster.perform target call) := by
  cases call with
  | enroll channel => exact enroll roster target channel
  | evict channel => exact evict roster target channel

end Preserves

theorem Tracks.of_preserves (tracks : roster.Tracks pool calls closed due)
    (preserves : Preserves roster changed) (members : changed.membersOf pool = roster.membersOf pool) :
    changed.Tracks pool calls closed due := by
  have awaitsEq : changed.awaits = roster.awaits := funext preserves.awaits
  refine ⟨?_, ?_, ?_, ?_, ?_⟩
  · simp only [members, awaitsEq]
    exact tracks.agrees
  · simp only [members]
    exact tracks.distinct
  · intro channel member
    simp only [members] at member
    exact (tracks.hooked channel member).imp_left (preserves.hooks channel _)
  · intro channel entry
    simp only [preserves.knows]
    exact tracks.known channel entry
  · simp only [preserves.awaits]
    exact tracks.shut

/-! ### Calls on the pool -/

theorem filter_ne_filter (members : List Nat) (channel : Nat) (keep : Nat → Bool) :
    (members.filter (· ≠ channel)).filter keep = (members.filter keep).filter (· ≠ channel) := by
  simp only [List.filter_filter]
  simp only [Bool.and_comm]

/-- A channel that does not await its closing may leave unnoticed. -/
theorem filter_ne_of_not (members : List Nat) {channel : Nat} {keep : Nat → Bool}
    (dropped : keep channel = false) :
    (members.filter (· ≠ channel)).filter keep = members.filter keep := by
  simp only [filter_ne_filter, List.filter_eq_self]
  intro other kept
  apply decide_eq_true
  intro same
  simp only [same, List.mem_filter, dropped] at kept
  cases kept.2

namespace Tracks

/-- Enrolling a channel that exists in a pool that exists is entered into the ledger. -/
theorem enroll (tracks : roster.Tracks pool calls closed due) (inPools : pool < roster.pools.length)
    {channel : Nat} (exists' : roster.knows channel) :
    (roster.enroll pool channel).1.Tracks pool (calls ++ [.enroll channel]) closed due := by
  have preserves := Preserves.enroll roster pool channel
  have awaitsEq : (roster.enroll pool channel).1.awaits = roster.awaits := funext preserves.awaits
  have isKnown : ∀ entry ∈ ledger (calls ++ [.enroll channel]),
      (roster.enroll pool channel).1.knows entry := by
    intro entry listed
    simp only [mem_ledger_iff, enrolledIn_append_singleton] at listed
    rcases listed with same | ⟨before, -⟩
    · simp only [PoolCall.enroll.injEq] at same
      rw [preserves.knows, ← same]
      exact exists'
    · simp only [preserves.knows]
      exact tracks.known entry (mem_ledger_iff.2 before)
  have enters : (ledger (calls ++ [.enroll channel]))
      = if channel ∈ ledger calls then ledger calls else ledger calls ++ [channel] :=
    ledger_append_singleton calls (.enroll channel)
  cases isAwaited : roster.awaits channel with
  | false =>
      -- A channel that has closed does not stay, and the ledger's entry for it does not count.
      have members : (roster.enroll pool channel).1.membersOf pool = roster.membersOf pool := by
        rw [membersOf_enroll, if_neg]
        rintro ⟨-, -, -, notDone⟩
        simp only [awaits, notDone] at isAwaited
        cases isAwaited
      refine ⟨?_, ?_, ?_, isKnown, by rw [awaitsEq]; exact tracks.shut⟩
      · simp only [members, awaitsEq, tracks.agrees, enters]
        split
        · rfl
        · rw [List.filter_append, List.filter_cons_of_neg (by rw [isAwaited]; exact Bool.false_ne_true),
            List.filter_nil, List.append_nil]
      · simp only [members]
        exact tracks.distinct
      · intro member isMember
        simp only [members] at isMember
        exact (tracks.hooked member isMember).imp_left (preserves.hooks member _)
  | true =>
      have notDone : (roster.closing channel).isDone = false := by
        simp only [awaits] at isAwaited
        simpa using isAwaited
      have listed : channel ∈ roster.membersOf pool ↔ channel ∈ ledger calls := by
        have both := congrArg (channel ∈ ·) tracks.agrees
        simpa [List.mem_filter, isAwaited] using both
      by_cases member : channel ∈ roster.membersOf pool
      · have members : (roster.enroll pool channel).1.membersOf pool = roster.membersOf pool := by
          rw [membersOf_enroll, if_neg (fun all => all.2.2.1 member)]
        refine ⟨?_, ?_, ?_, isKnown, by rw [awaitsEq]; exact tracks.shut⟩
        · rw [members, awaitsEq, tracks.agrees, enters, if_pos (listed.1 member)]
        · simp only [members]
          exact tracks.distinct
        · intro other isMember
          simp only [members] at isMember
          exact (tracks.hooked other isMember).imp_left (preserves.hooks other _)
      · have members : (roster.enroll pool channel).1.membersOf pool
            = roster.membersOf pool ++ [channel] := by
          rw [membersOf_enroll, if_pos ⟨rfl, inPools, member, notDone⟩]
        refine ⟨?_, ?_, ?_, isKnown, by rw [awaitsEq]; exact tracks.shut⟩
        · rw [members, awaitsEq, enters, if_neg (fun entry => member (listed.2 entry)),
            List.filter_append, List.filter_append, tracks.agrees]
        · simp only [members, List.nodup_append]
          refine ⟨tracks.distinct, List.pairwise_singleton _ _, ?_⟩
          intro other isMember new isNew same
          simp only [List.mem_singleton] at isNew
          exact member (isNew ▸ same ▸ isMember)
        · intro other isMember
          simp only [members, List.mem_append, List.mem_singleton] at isMember
          rcases isMember with before | rfl
          · exact (tracks.hooked other before).imp_left (preserves.hooks other _)
          · left
            rw [closing_enroll, if_pos ⟨rfl, inPools, member⟩]
            exact Latch.mem_hooks_listen_self notDone _

/-- Evicting a channel is entered into the ledger. -/
theorem evict (tracks : roster.Tracks pool calls closed due) (channel : Nat) :
    (roster.evict pool channel).1.Tracks pool (calls ++ [.evict channel]) closed due := by
  have preserves := Preserves.evict roster pool channel
  have awaitsEq : (roster.evict pool channel).1.awaits = roster.awaits := funext preserves.awaits
  have members : (roster.evict pool channel).1.membersOf pool
      = (roster.membersOf pool).filter (· ≠ channel) := by
    rw [membersOf_evict, if_pos rfl]
  have leaves : ledger (calls ++ [.evict channel]) = (ledger calls).filter (· ≠ channel) :=
    ledger_append_singleton calls (.evict channel)
  refine ⟨?_, ?_, ?_, ?_, by rw [awaitsEq]; exact tracks.shut⟩
  · simp only [members, awaitsEq, leaves, filter_ne_filter, tracks.agrees]
  · simp only [members]
    exact tracks.distinct.filter _
  · intro other isMember
    simp only [members] at isMember
    exact (tracks.hooked other (List.mem_filter.1 isMember).1).imp_left (preserves.hooks other _)
  · intro entry listed
    simp only [leaves] at listed
    simp only [preserves.knows]
    exact tracks.known entry (List.mem_filter.1 listed).1

/-- A channel that does not await its closing may be evicted unnoticed. -/
theorem evict_shut (tracks : roster.Tracks pool calls closed due) {channel : Nat}
    (isShut : roster.awaits channel = false) :
    (roster.evict pool channel).1.Tracks pool calls closed due := by
  have preserves := Preserves.evict roster pool channel
  have awaitsEq : (roster.evict pool channel).1.awaits = roster.awaits := funext preserves.awaits
  have members : (roster.evict pool channel).1.membersOf pool
      = (roster.membersOf pool).filter (· ≠ channel) := by
    rw [membersOf_evict, if_pos rfl]
  refine ⟨?_, ?_, ?_, ?_, by rw [awaitsEq]; exact tracks.shut⟩
  · simp only [members, awaitsEq, filter_ne_of_not _ isShut, tracks.agrees]
  · simp only [members]
    exact tracks.distinct.filter _
  · intro other isMember
    simp only [members] at isMember
    exact (tracks.hooked other (List.mem_filter.1 isMember).1).imp_left (preserves.hooks other _)
  · intro entry listed
    simp only [preserves.knows]
    exact tracks.known entry listed

/-- A hook on which no member depends need not be due. -/
theorem shrink {hook : CloseHook} (tracks : roster.Tracks pool calls closed (hook :: due))
    (unneeded : closed ∉ roster.membersOf pool ∨ hook ≠ .release pool) :
    roster.Tracks pool calls closed due := by
  refine ⟨tracks.agrees, tracks.distinct, ?_, tracks.known, tracks.shut⟩
  intro channel isMember
  rcases tracks.hooked channel isMember with waits | ⟨isClosed, isDue⟩
  · exact Or.inl waits
  · right
    refine ⟨isClosed, ?_⟩
    rcases List.mem_cons.1 isDue with same | later
    · rcases unneeded with stranger | different
      · exact absurd (isClosed ▸ isMember) stranger
      · exact absurd same.symm different
    · exact later

/-- The pool's own hook lets go of the closed channel, and no member depends on that hook any more. -/
theorem release (tracks : roster.Tracks pool calls closed (.release pool :: due)) :
    (roster.evict pool closed).1.Tracks pool calls closed due := by
  apply (tracks.evict_shut tracks.shut).shrink
  left
  rw [membersOf_evict, if_pos rfl, List.mem_filter]
  rintro ⟨-, different⟩
  exact of_decide_eq_true different rfl

/-- Any call on any pool; only a call on this pool, about a channel that exists, counts. -/
theorem perform (tracks : roster.Tracks pool calls closed due) (target : Nat) (call : PoolCall) :
    (roster.perform target call).Tracks pool
      (calls ++ roster.counted pool (if target = pool then [call] else [])) closed due := by
  have preserves := Preserves.perform roster target call
  by_cases elsewhere : target = pool
  · subst elsewhere
    rw [if_pos rfl, counted]
    by_cases inPools : target < roster.pools.length
    · simp only [if_pos inPools]
      cases isKnown : roster.knows call.channel with
      | true =>
          rw [List.filter_cons_of_pos (by exact isKnown), List.filter_nil]
          cases call with
          | enroll channel => exact tracks.enroll inPools isKnown
          | evict channel => exact tracks.evict channel
      | false =>
          -- A channel that does not exist counts as closed, so it neither enters nor leaves.
          rw [List.filter_cons_of_neg (by rw [isKnown]; exact Bool.false_ne_true), List.filter_nil,
            List.append_nil]
          have isShut : roster.awaits call.channel = false := by
            by_contra waits
            rw [knows_of_awaits (Bool.not_eq_false _ ▸ waits)] at isKnown
            cases isKnown
          cases call with
          | enroll channel =>
              apply tracks.of_preserves preserves
              change (roster.enroll target channel).1.membersOf target = _
              rw [membersOf_enroll, if_neg]
              rintro ⟨-, -, -, notDone⟩
              simp only [PoolCall.channel, awaits, notDone] at isShut
              cases isShut
          | evict channel => exact tracks.evict_shut isShut
    · simp only [if_neg inPools, List.append_nil]
      have absent : roster.pools[target]? = none := List.getElem?_eq_none (by omega)
      cases call with
      | enroll channel =>
          simp only [Roster.perform, enroll_of_none absent]
          exact tracks
      | evict channel =>
          simp only [Roster.perform, evict_of_none absent]
          exact tracks
  · simp only [if_neg elsewhere, counted, List.filter_nil, ite_self, List.append_nil]
    apply tracks.of_preserves preserves
    cases call with
    | enroll channel =>
        change (roster.enroll target channel).1.membersOf pool = _
        rw [membersOf_enroll, if_neg (fun all => elsewhere all.1.symm)]
    | evict channel =>
        change (roster.evict target channel).1.membersOf pool = _
        rw [membersOf_evict, if_neg (Ne.symm elsewhere)]

end Tracks

end Roster

end Uplink
