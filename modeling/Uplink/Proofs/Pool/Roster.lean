/-
Module: Uplink.Proofs.Pool.Roster
Purpose: What enrolling, evicting and closing change about channels and pools, told through two views: the
  members of a pool and the channel with a number.
Main exports: Roster.membersOf, Roster.pools_enroll, Roster.pools_evict, Roster.channel?_enroll,
  Roster.membersOf_enroll, Roster.membersOf_evict, Roster.closing_enroll
-/
import Uplink.Pool.Run

namespace Uplink

/-! ### One pool -/

namespace Pool

theorem members_enroll (pool : Pool) (channel now : Nat) :
    (pool.enroll channel now).1.members
      = if channel ∈ pool.members then pool.members else pool.members ++ [channel] := by
  simp only [enroll]
  split <;> rfl

theorem enroll_flag (pool : Pool) (channel now : Nat) :
    (pool.enroll channel now).2 = decide (channel ∉ pool.members) := by
  simp only [enroll]
  split <;> rename_i member <;> simp [member]

theorem capacity_enroll (pool : Pool) (channel now : Nat) :
    (pool.enroll channel now).1.capacity = pool.capacity := by
  simp only [enroll]
  split <;> rfl

theorem members_evict (pool : Pool) (channel now : Nat) :
    (pool.evict channel now).1.members = pool.members.filter (· ≠ channel) := by
  simp only [evict]
  split
  · rfl
  · rename_i stranger
    symm
    simp only [List.filter_eq_self]
    intro member isMember
    exact decide_eq_true fun same => stranger (same ▸ isMember)

theorem evict_flag (pool : Pool) (channel now : Nat) :
    (pool.evict channel now).2 = decide (channel ∈ pool.members) := by
  simp only [evict]
  split <;> rename_i member <;> simp [member]

theorem capacity_evict (pool : Pool) (channel now : Nat) :
    (pool.evict channel now).1.capacity = pool.capacity := by
  simp only [evict]
  split <;> rfl

theorem members_setWarmUp (pool : Pool) (warmUp : Span) :
    (pool.setWarmUp warmUp).members = pool.members := by
  rw [setWarmUp]

/-- Taking turns moves the cursor and nothing else. -/
theorem turns_eq (count : Nat) (pool : Pool) : ∃ cursor, (turns count pool).1 = { pool with cursor } := by
  induction count generalizing pool with
  | zero => exact ⟨pool.cursor, rfl⟩
  | succ count ih =>
      have first : ∃ cursor, pool.tryNext.1 = { pool with cursor } := by
        rw [tryNext]
        split
        · exact ⟨pool.cursor, rfl⟩
        · exact ⟨pool.cursor, rfl⟩
        · exact ⟨pool.cursor + 1, rfl⟩
      obtain ⟨cursor, moved⟩ := first
      obtain ⟨last, others⟩ := ih pool.tryNext.1
      refine ⟨last, ?_⟩
      rw [turns]
      exact others.trans (by rw [moved])

theorem members_turns (count : Nat) (pool : Pool) : (turns count pool).1.members = pool.members := by
  obtain ⟨cursor, turned⟩ := turns_eq count pool
  rw [turned]

/-- Evicting a channel that is no member changes nothing. -/
theorem evict_of_not_mem {pool : Pool} {channel : Nat} (stranger : channel ∉ pool.members) (now : Nat) :
    (pool.evict channel now).1 = pool := by
  simp only [evict]
  simp only [if_neg stranger]

end Pool

/-! ### Latches -/

namespace Latch

variable {Hook : Type}

theorem isDone_listen (latch : Latch Hook) (hook : Hook) :
    (latch.listen hook).1.isDone = latch.isDone := by
  cases latch <;> rfl

/-- A hook that waits for a latch goes on waiting when another one comes. -/
theorem mem_hooks_listen {latch : Latch Hook} {hook : Hook} (waits : hook ∈ latch.hooks)
    (other : Hook) : hook ∈ (latch.listen other).1.hooks := by
  cases latch with
  | done => exact waits
  | waiting hooks => exact List.mem_append_left _ waits

/-- A hook registered with an open latch waits for it. -/
theorem mem_hooks_listen_self {latch : Latch Hook} (isOpen : latch.isDone = false) (hook : Hook) :
    hook ∈ (latch.listen hook).1.hooks := by
  cases latch with
  | done => cases isOpen
  | waiting hooks => exact List.mem_append_right _ (List.mem_singleton_self hook)

/-- A hook is handed back exactly by a latch that is done. -/
theorem listen_due (latch : Latch Hook) (hook : Hook) :
    (latch.listen hook).2 = if latch.isDone then [hook] else [] := by
  cases latch <;> rfl

theorem isDone_of_hooks {latch : Latch Hook} {hook : Hook} (waits : hook ∈ latch.hooks) :
    latch.isDone = false := by
  cases latch with
  | done => cases waits
  | waiting hooks => rfl

end Latch

namespace Roster

/-- The members of a pool; a pool that does not exist has none. -/
def membersOf (roster : Roster) (pool : Nat) : List Nat :=
  match roster.pools[pool]? with
  | some held => held.members
  | none => []

theorem membersOf_of_getElem? {roster : Roster} {pool : Nat} {held : Pool}
    (found : roster.pools[pool]? = some held) : roster.membersOf pool = held.members := by
  simp only [membersOf, found]

/-! ### Channels -/

theorem channel?_changeChannel (roster : Roster) (channel other : Nat) (change : Channel → Channel) :
    (roster.changeChannel channel change).channel? other
      = if other = channel then (roster.channel? other).map change else roster.channel? other := by
  simp only [changeChannel, channel?]
  by_cases channelZero : channel = 0
  · by_cases otherZero : other = 0 <;> simp [channelZero, otherZero]
  · by_cases otherZero : other = 0
    · simp [otherZero]
    · rw [if_neg channelZero, if_neg otherZero, if_neg otherZero]
      dsimp only
      simp only [List.getElem?_modify]
      by_cases same : other = channel
      · rw [same, if_pos rfl]
        simp
      · have places : channel - 1 ≠ other - 1 := by omega
        simp only [if_neg same]
        simp [places]

theorem pools_changeChannel (roster : Roster) (channel : Nat) (change : Channel → Channel) :
    (roster.changeChannel channel change).pools = roster.pools := by
  simp only [changeChannel]
  split <;> rfl

theorem now_changeChannel (roster : Roster) (channel : Nat) (change : Channel → Channel) :
    (roster.changeChannel channel change).now = roster.now := by
  simp only [changeChannel]
  split <;> rfl

theorem membersOf_changeChannel (roster : Roster) (channel pool : Nat) (change : Channel → Channel) :
    (roster.changeChannel channel change).membersOf pool = roster.membersOf pool := by
  simp only [membersOf]
  simp only [pools_changeChannel]

/-- Register a hook with the closing of a channel. -/
def register (roster : Roster) (channel : Nat) (hook : CloseHook) : Roster :=
  roster.changeChannel channel fun found =>
    { found with closing := ((roster.closing channel).listen hook).1 }

theorem channel?_register (roster : Roster) (channel : Nat) (hook : CloseHook) (other : Nat) :
    (roster.register channel hook).channel? other
      = if other = channel then
          (roster.channel? other).map fun found =>
            { found with closing := (found.closing.listen hook).1 }
        else roster.channel? other := by
  simp only [register, channel?_changeChannel]
  by_cases same : other = channel
  · rw [if_pos same, if_pos same, same]
    simp only [closing]
    cases roster.channel? channel <;> rfl
  · rw [if_neg same, if_neg same]

theorem closing_register (roster : Roster) (channel : Nat) (hook : CloseHook) (other : Nat) :
    (roster.register channel hook).closing other
      = if other = channel then ((roster.closing other).listen hook).1 else roster.closing other := by
  simp only [closing]
  simp only [channel?_register]
  by_cases same : other = channel
  · rw [if_pos same, if_pos same]
    cases roster.channel? other <;> rfl
  · rw [if_neg same, if_neg same]

theorem isOpen_register (roster : Roster) (channel : Nat) (hook : CloseHook) (other : Nat) :
    (roster.register channel hook).isOpen other = roster.isOpen other := by
  simp only [isOpen]
  simp only [channel?_register]
  by_cases same : other = channel
  · simp only [if_pos same]
    cases roster.channel? other <;> rfl
  · simp only [if_neg same]

/-- The channel that is opened is the last one, open, and its closing has no hooks yet. -/
theorem channel?_openChannel (roster : Roster) (handler : Option Nat) (other : Nat) :
    (roster.openChannel handler).1.channel? other
      = if other = roster.channels.length + 1 then
          some { isOpen := true, closing := Latch.fresh, handler }
        else roster.channel? other := by
  simp only [openChannel, channel?]
  by_cases otherZero : other = 0
  · simp [otherZero]
  · rw [if_neg otherZero, if_neg otherZero, List.getElem?_append]
    split
    · rename_i before
      rw [if_neg (by omega)]
    · rename_i behind
      by_cases last : other = roster.channels.length + 1
      · rw [if_pos last, last, Nat.add_sub_cancel, Nat.sub_self]
        rfl
      · rw [if_neg last, List.getElem?_eq_none (by simp; omega),
          List.getElem?_eq_none (by omega)]

/-- A channel number that was not handed out yet has no channel. -/
theorem channel?_eq_none_of_length_lt {roster : Roster} {channel : Nat}
    (beyond : roster.channels.length < channel) : roster.channel? channel = none := by
  simp only [channel?]
  rw [if_neg (by omega), List.getElem?_eq_none (by omega)]

/-- A pool that is added is empty, as it was before it existed. -/
theorem membersOf_addPool (roster : Roster) (address : Address) (config : PoolConfig) (pool : Nat) :
    (roster.addPool address config).1.membersOf pool = roster.membersOf pool := by
  simp only [membersOf, addPool]
  simp only [List.getElem?_append]
  by_cases before : pool < roster.pools.length
  · simp only [if_pos before]
  · rw [if_neg before, List.getElem?_eq_none (Nat.le_of_not_lt before)]
    cases pool - roster.pools.length <;> rfl

/-! ### Evicting -/

theorem evict_of_none {roster : Roster} {pool : Nat} (absent : roster.pools[pool]? = none)
    (channel : Nat) : roster.evict pool channel = (roster, false) := by
  simp only [evict, absent]

theorem evict_of_some {roster : Roster} {pool : Nat} {held : Pool}
    (found : roster.pools[pool]? = some held) (channel : Nat) :
    roster.evict pool channel
      = if channel ∈ held.members then
          ((roster.setPool pool (held.evict channel roster.now.totalNanos).1).log
            (membershipLine "channel removed" held.address channel
              (held.evict channel roster.now.totalNanos).1.size), true)
        else (roster, false) := by
  simp only [evict, found]
  simp only [Pool.evict_flag, decide_eq_true_eq]

/-- Evicting changes one pool, and only where the channel is a member. -/
theorem pools_evict (roster : Roster) (pool channel : Nat) :
    (roster.evict pool channel).1.pools
      = roster.pools.modify pool fun held => (held.evict channel roster.now.totalNanos).1 := by
  cases found : roster.pools[pool]? with
  | none =>
      rw [evict_of_none found, List.modify_eq_self (List.getElem?_eq_none_iff.1 found)]
  | some held =>
      simp only [evict_of_some found, List.modify_eq_set, found]
      split
      · rfl
      · rename_i stranger
        obtain ⟨bound, rfl⟩ := List.getElem?_eq_some_iff.1 found
        simp only [Option.getD_some, Pool.evict_of_not_mem stranger, List.set_getElem_self]

theorem channels_evict (roster : Roster) (pool channel : Nat) :
    (roster.evict pool channel).1.channels = roster.channels := by
  cases found : roster.pools[pool]? with
  | none => rw [evict_of_none found]
  | some held =>
      simp only [evict_of_some found]
      split <;> rfl

theorem now_evict (roster : Roster) (pool channel : Nat) :
    (roster.evict pool channel).1.now = roster.now := by
  cases found : roster.pools[pool]? with
  | none => rw [evict_of_none found]
  | some held =>
      rw [evict_of_some found]
      split <;> rfl

theorem channel?_evict (roster : Roster) (pool channel other : Nat) :
    (roster.evict pool channel).1.channel? other = roster.channel? other := by
  simp only [channel?]
  simp only [channels_evict]

theorem membersOf_evict (roster : Roster) (pool channel other : Nat) :
    (roster.evict pool channel).1.membersOf other
      = if other = pool then (roster.membersOf pool).filter (· ≠ channel)
        else roster.membersOf other := by
  simp only [membersOf]
  simp only [pools_evict]
  by_cases same : other = pool
  · rw [same, if_pos rfl, List.getElem?_modify_eq]
    cases roster.pools[pool]? with
    | none => rfl
    | some held => exact Pool.members_evict held channel _
  · rw [if_neg same, List.getElem?_modify_ne _ _ (Ne.symm same)]

theorem evict_flag (roster : Roster) (pool channel : Nat) :
    (roster.evict pool channel).2 = decide (channel ∈ roster.membersOf pool) := by
  cases found : roster.pools[pool]? with
  | none =>
      simp only [evict_of_none found, membersOf, found]
      rfl
  | some held =>
      simp only [evict_of_some found, membersOf_of_getElem? found]
      split <;> rename_i member <;> simp [member]

/-! ### Enrolling -/

theorem enroll_of_none {roster : Roster} {pool : Nat} (absent : roster.pools[pool]? = none)
    (channel : Nat) : roster.enroll pool channel = (roster, false) := by
  simp only [enroll, absent]

/-- A channel that is a member already changes only the loss deadline. -/
theorem enroll_of_mem {roster : Roster} {pool channel : Nat} {held : Pool}
    (found : roster.pools[pool]? = some held) (member : channel ∈ held.members) :
    roster.enroll pool channel
      = (roster.setPool pool (held.enroll channel roster.now.totalNanos).1, false) := by
  simp only [enroll, found]
  simp [Pool.enroll_flag, member]

/-- A stranger has entered a pool, and the pool has registered with its closing. -/
def entered (roster : Roster) (pool channel : Nat) (held : Pool) : Roster :=
  (roster.setPool pool (held.enroll channel roster.now.totalNanos).1).register channel (.release pool)

/-- A stranger has entered a pool, and has left it again if its closing was done. -/
def admitted (roster : Roster) (pool channel : Nat) (held : Pool) : Roster :=
  if (roster.closing channel).isDone then ((roster.entered pool channel held).evict pool channel).1
  else roster.entered pool channel held

theorem enroll_of_not_mem {roster : Roster} {pool channel : Nat} {held : Pool}
    (found : roster.pools[pool]? = some held) (stranger : channel ∉ held.members) :
    roster.enroll pool channel
      = ((roster.admitted pool channel held).log
          (membershipLine "channel added" held.address channel
            ((roster.admitted pool channel held).sizeOf pool)), true) := by
  simp only [enroll, found]
  simp only [Pool.enroll_flag, stranger, not_false_eq_true, decide_true, if_true, Latch.listen_due,
    admitted]
  cases isDone : (roster.closing channel).isDone <;>
    simp only [Bool.false_eq_true, if_false, List.isEmpty_nil, List.isEmpty_cons, if_true] <;> rfl

theorem pools_entered (roster : Roster) (pool channel : Nat) (held : Pool) :
    (roster.entered pool channel held).pools
      = roster.pools.set pool (held.enroll channel roster.now.totalNanos).1 := by
  simp only [entered, register, pools_changeChannel]
  rfl

theorem now_enroll (roster : Roster) (pool channel : Nat) :
    (roster.enroll pool channel).1.now = roster.now := by
  cases found : roster.pools[pool]? with
  | none => rw [enroll_of_none found]
  | some held =>
      by_cases member : channel ∈ held.members
      · rw [enroll_of_mem found member]
        rfl
      · have entered : (roster.entered pool channel held).now = roster.now := now_changeChannel _ _ _
        rw [enroll_of_not_mem found member]
        change (roster.admitted pool channel held).now = roster.now
        rw [admitted]
        split
        · rw [now_evict, entered]
        · exact entered

/-- What enrolling makes of a pool. -/
def afterEnrolling (roster : Roster) (channel : Nat) (held : Pool) : Pool :=
  if channel ∉ held.members ∧ (roster.closing channel).isDone then
    ((held.enroll channel roster.now.totalNanos).1.evict channel roster.now.totalNanos).1
  else (held.enroll channel roster.now.totalNanos).1

/-- Enrolling changes one pool. -/
theorem pools_enroll (roster : Roster) (pool channel : Nat) :
    (roster.enroll pool channel).1.pools
      = roster.pools.modify pool (roster.afterEnrolling channel) := by
  cases found : roster.pools[pool]? with
  | none => rw [enroll_of_none found, List.modify_eq_self (List.getElem?_eq_none_iff.1 found)]
  | some held =>
      simp only [List.modify_eq_set, found, Option.getD_some, afterEnrolling]
      by_cases member : channel ∈ held.members
      · rw [enroll_of_mem found member, if_neg (fun both => both.1 member)]
        rfl
      · have bound : pool < roster.pools.length := (List.getElem?_eq_some_iff.1 found).1
        simp only [enroll_of_not_mem found member]
        cases isDone : (roster.closing channel).isDone
        · rw [if_neg (by simp), admitted, isDone]
          exact pools_entered roster pool channel held
        · rw [if_pos ⟨member, rfl⟩, admitted, isDone, if_pos rfl]
          have entry : (roster.entered pool channel held).now = roster.now :=
            now_changeChannel _ _ _
          change ((roster.entered pool channel held).evict pool channel).1.pools = _
          rw [pools_evict, pools_entered, entry, List.modify_eq_set,
            List.getElem?_set_self bound, Option.getD_some, List.set_set]

theorem channel?_entered (roster : Roster) (pool channel : Nat) (held : Pool) (other : Nat) :
    (roster.entered pool channel held).channel? other
      = (roster.register channel (.release pool)).channel? other := by
  simp only [entered, channel?_register]
  rfl

/-- Enrolling a stranger registers with its closing, and changes nothing else about channels. -/
theorem channel?_enroll (roster : Roster) (pool channel other : Nat) :
    (roster.enroll pool channel).1.channel? other
      = if other = channel ∧ pool < roster.pools.length ∧ channel ∉ roster.membersOf pool then
          (roster.channel? other).map fun found =>
            { found with closing := (found.closing.listen (.release pool)).1 }
        else roster.channel? other := by
  cases found : roster.pools[pool]? with
  | none =>
      have beyond := List.getElem?_eq_none_iff.1 found
      rw [enroll_of_none found, if_neg (by omega)]
  | some held =>
      have bound : pool < roster.pools.length := (List.getElem?_eq_some_iff.1 found).1
      simp only [membersOf_of_getElem? found]
      by_cases member : channel ∈ held.members
      · rw [enroll_of_mem found member, if_neg (fun all => all.2.2 member)]
        rfl
      · simp only [enroll_of_not_mem found member]
        change (roster.admitted pool channel held).channel? other = _
        have admittedChannel : (roster.admitted pool channel held).channel? other
            = (roster.entered pool channel held).channel? other := by
          simp only [admitted]
          split
          · exact channel?_evict _ _ _ _
          · rfl
        simp only [admittedChannel, channel?_entered, channel?_register]
        simp only [bound, member, not_false_eq_true, and_true]

theorem enroll_flag (roster : Roster) (pool channel : Nat) :
    (roster.enroll pool channel).2
      = decide (pool < roster.pools.length ∧ channel ∉ roster.membersOf pool) := by
  cases found : roster.pools[pool]? with
  | none =>
      have beyond := List.getElem?_eq_none_iff.1 found
      simp only [enroll_of_none found]
      simp only [Nat.not_lt.2 beyond, false_and, decide_false]
  | some held =>
      have bound : pool < roster.pools.length := (List.getElem?_eq_some_iff.1 found).1
      simp only [membersOf_of_getElem? found]
      by_cases member : channel ∈ held.members
      · simp only [enroll_of_mem found member]
        simp [member]
      · simp only [enroll_of_not_mem found member]
        simp [member, bound]

theorem length_pools_enroll (roster : Roster) (pool channel : Nat) :
    (roster.enroll pool channel).1.pools.length = roster.pools.length := by
  simp only [pools_enroll, List.length_modify]

theorem length_pools_evict (roster : Roster) (pool channel : Nat) :
    (roster.evict pool channel).1.pools.length = roster.pools.length := by
  simp only [pools_evict, List.length_modify]

/-- A stranger whose closing is not done becomes the last member; nothing else changes any members. -/
theorem membersOf_enroll (roster : Roster) (pool channel other : Nat) :
    (roster.enroll pool channel).1.membersOf other
      = if other = pool ∧ pool < roster.pools.length ∧ channel ∉ roster.membersOf pool ∧
            (roster.closing channel).isDone = false then
          roster.membersOf pool ++ [channel]
        else roster.membersOf other := by
  unfold membersOf
  simp only [pools_enroll]
  by_cases same : other = pool
  · subst same
    simp only [List.getElem?_modify_eq]
    cases found : roster.pools[other]? with
    | none =>
        have beyond := List.getElem?_eq_none_iff.1 found
        rw [if_neg (by omega)]
        rfl
    | some held =>
        have bound : other < roster.pools.length := (List.getElem?_eq_some_iff.1 found).1
        change (roster.afterEnrolling channel held).members = _
        simp only [afterEnrolling]
        by_cases member : channel ∈ held.members
        · simp [member, Pool.members_enroll]
        · cases isDone : (roster.closing channel).isDone
          · simp [member, bound, Pool.members_enroll]
          · -- The channel leaves again, and no earlier member goes with it.
            have kept : held.members.filter (· ≠ channel) = held.members := by
              simp only [List.filter_eq_self]
              intro earlier isMember
              exact decide_eq_true fun equal => member (equal ▸ isMember)
            rw [if_pos ⟨member, rfl⟩, if_neg (fun all => Bool.noConfusion all.2.2.2),
              Pool.members_evict, Pool.members_enroll, if_neg member, List.filter_append, kept]
            simp
  · rw [List.getElem?_modify_ne _ _ (Ne.symm same), if_neg (fun all => same all.1)]

theorem closing_enroll (roster : Roster) (pool channel other : Nat) :
    (roster.enroll pool channel).1.closing other
      = if other = channel ∧ pool < roster.pools.length ∧ channel ∉ roster.membersOf pool then
          ((roster.closing other).listen (.release pool)).1
        else roster.closing other := by
  simp only [closing]
  simp only [channel?_enroll]
  by_cases registers :
      other = channel ∧ pool < roster.pools.length ∧ channel ∉ roster.membersOf pool
  · rw [if_pos registers, if_pos registers]
    cases roster.channel? other <;> rfl
  · rw [if_neg registers, if_neg registers]

theorem isDone_closing_enroll (roster : Roster) (pool channel other : Nat) :
    ((roster.enroll pool channel).1.closing other).isDone = (roster.closing other).isDone := by
  simp only [closing_enroll]
  split
  · exact Latch.isDone_listen _ _
  · rfl

/-- A hook that waits for a closing goes on waiting when any channel is enrolled. -/
theorem mem_hooks_enroll {roster : Roster} {other : Nat} {hook : CloseHook}
    (waits : hook ∈ (roster.closing other).hooks) (pool channel : Nat) :
    hook ∈ ((roster.enroll pool channel).1.closing other).hooks := by
  simp only [closing_enroll]
  split
  · exact Latch.mem_hooks_listen waits _
  · exact waits

theorem isOpen_enroll (roster : Roster) (pool channel other : Nat) :
    (roster.enroll pool channel).1.isOpen other = roster.isOpen other := by
  simp only [isOpen]
  simp only [channel?_enroll]
  by_cases registers :
      other = channel ∧ pool < roster.pools.length ∧ channel ∉ roster.membersOf pool
  · simp only [if_pos registers]
    cases roster.channel? other <;> rfl
  · simp only [if_neg registers]

/-! ### Closing -/

/-- A channel has closed, and neither its hooks nor its handler have been told. -/
def shut (roster : Roster) (channel : Nat) : Roster :=
  roster.changeChannel channel fun held => { held with isOpen := false, closing := .done }

/-- The hooks of a closing have run, in order. -/
def runHooks (roster : Roster) (channel : Nat) (due : List CloseHook) : Roster :=
  due.foldl (fun changed hook => changed.runHook channel hook) roster

/-- The handler of a channel is taken off. -/
def unhandle (roster : Roster) (channel : Nat) : Roster :=
  roster.changeChannel channel fun held => { held with handler := none }

/-- A channel that is not open stays as it is. -/
theorem close_of_not_open {roster : Roster} {channel : Nat} (notOpen : roster.isOpen channel = false) :
    roster.close channel = (roster, none) := by
  simp only [close]
  simp only [isOpen] at notOpen
  cases found : roster.channel? channel with
  | none => rfl
  | some held =>
      simp only [found] at notOpen
      dsimp only at notOpen ⊢
      simp only [notOpen, if_neg Bool.false_ne_true]

/-- An open channel closes in three steps, and its handler is handed out. -/
theorem close_of_open {roster : Roster} {channel : Nat} (isOpen : roster.isOpen channel = true) :
    roster.close channel
      = (((roster.shut channel).runHooks channel (roster.closing channel).hooks).unhandle channel,
          (roster.channel? channel).bind Channel.handler) := by
  simp only [close, closing]
  simp only [Roster.isOpen] at isOpen
  cases found : roster.channel? channel with
  | none => rw [found] at isOpen; cases isOpen
  | some held =>
      simp only [found] at isOpen
      dsimp only at isOpen ⊢
      rw [isOpen, if_pos rfl]
      cases closing : held.closing <;> rfl

theorem channel?_shut (roster : Roster) (channel other : Nat) :
    (roster.shut channel).channel? other
      = if other = channel then
          (roster.channel? other).map fun held => { held with isOpen := false, closing := .done }
        else roster.channel? other :=
  channel?_changeChannel roster channel other _

theorem closing_shut (roster : Roster) (channel other : Nat) :
    (roster.shut channel).closing other
      = if other = channel then .done else roster.closing other := by
  simp only [closing]
  simp only [channel?_shut]
  by_cases same : other = channel
  · rw [if_pos same, if_pos same]
    cases roster.channel? other <;> rfl
  · rw [if_neg same, if_neg same]

theorem isOpen_shut (roster : Roster) (channel other : Nat) :
    (roster.shut channel).isOpen other
      = if other = channel then false else roster.isOpen other := by
  simp only [isOpen]
  simp only [channel?_shut]
  by_cases same : other = channel
  · rw [if_pos same, if_pos same]
    cases roster.channel? other <;> rfl
  · rw [if_neg same, if_neg same]

theorem channel?_unhandle (roster : Roster) (channel other : Nat) :
    (roster.unhandle channel).channel? other
      = if other = channel then
          (roster.channel? other).map fun held => { held with handler := none }
        else roster.channel? other :=
  channel?_changeChannel roster channel other _

theorem closing_unhandle (roster : Roster) (channel other : Nat) :
    (roster.unhandle channel).closing other = roster.closing other := by
  simp only [closing]
  simp only [channel?_unhandle]
  by_cases same : other = channel
  · simp only [if_pos same]
    cases roster.channel? other <;> rfl
  · simp only [if_neg same]

theorem isOpen_unhandle (roster : Roster) (channel other : Nat) :
    (roster.unhandle channel).isOpen other = roster.isOpen other := by
  simp only [isOpen]
  simp only [channel?_unhandle]
  by_cases same : other = channel
  · simp only [if_pos same]
    cases roster.channel? other <;> rfl
  · simp only [if_neg same]

end Roster

end Uplink
