/-
Module: Uplink.Proofs.Pool.Chronicle
Purpose: What an onlooker writes down about a pool who sees nothing but its members and the clock, and how
  the times that the pool keeps agree with it.
Main exports: Chronicle, Chronicle.see, Chronicle.Tells, Chronicle.Tells.enroll, Chronicle.Tells.evict,
  Chronicle.Tells.times
-/
import Uplink.Pool.Basic

namespace Uplink

/-- A change of the members of a pool: its time, and the members after it. -/
structure MembershipChange where
  time : Nat
  members : List Nat
deriving DecidableEq, Repr, Inhabited

/-- What an onlooker knows about a pool: the time of its creation, its loss interval, the warm-up time that
was asked for last, and the changes of its members, oldest first. -/
structure Chronicle where
  created : Nat
  lossInterval : Span
  warmUp : Span
  changes : List MembershipChange
deriving DecidableEq, Repr, Inhabited

/-- The greatest time that a pool stores, one below the word for "no deadline". -/
def Pool.latestNanos : Nat := 0xFFFFFFFFFFFFFFFE

namespace Chronicle

/-- A pool has just been created. -/
def opening (config : PoolConfig) (now : Nat) : Chronicle :=
  { created := now, lossInterval := config.lossInterval, warmUp := config.warmUp, changes := [] }

/-- The members after the latest change. -/
def members (chronicle : Chronicle) : List Nat :=
  (chronicle.changes.getLast?.map MembershipChange.members).getD []

/-- The time of the latest change, that of the creation if there was none. -/
def lastChange (chronicle : Chronicle) : Nat :=
  (chronicle.changes.getLast?.map MembershipChange.time).getD chronicle.created

/-- When the last member went, the last time that this happened. -/
def lastEmptied (chronicle : Chronicle) : Option Nat :=
  (chronicle.changes.filter fun change => change.members.isEmpty).getLast?.map MembershipChange.time

/-- Whether more than the warm-up time has passed since the latest change. -/
def isWarm (chronicle : Chronicle) (now : Nat) : Bool :=
  decide (min chronicle.warmUp.totalNanos Pool.latestNanos < now - chronicle.lastChange)

/-- When a pool that was emptied counts as gone; one that has members, or never had any, has no such
time. -/
def lossDeadline (chronicle : Chronicle) : Option Nat :=
  if chronicle.members.isEmpty then
    chronicle.lastEmptied.map fun time =>
      min (time + chronicle.lossInterval.totalNanos) (chronicle.created + Pool.latestNanos)
  else none

/-- Members are seen at some time; they are written down if they are not those of before. -/
def see (chronicle : Chronicle) (seen : MembershipChange) : Chronicle :=
  if seen.members = chronicle.members then chronicle
  else { chronicle with changes := chronicle.changes ++ [seen] }

variable {chronicle : Chronicle} {seen : MembershipChange} {now : Nat}

theorem see_of_same (same : seen.members = chronicle.members) : chronicle.see seen = chronicle :=
  if_pos same

theorem see_of_new (new : seen.members ≠ chronicle.members) :
    chronicle.see seen = { chronicle with changes := chronicle.changes ++ [seen] } :=
  if_neg new

theorem created_see (chronicle : Chronicle) (seen : MembershipChange) :
    (chronicle.see seen).created = chronicle.created := by
  rw [see]
  split <;> rfl

theorem members_see (chronicle : Chronicle) (seen : MembershipChange) :
    (chronicle.see seen).members = seen.members := by
  by_cases same : seen.members = chronicle.members
  · rw [see_of_same same, same]
  · rw [see_of_new same, members, List.getLast?_append]
    rfl

/-- A change to no members is the latest emptying, and one to some members leaves it as it was. -/
theorem lastEmptied_see_of_new (new : seen.members ≠ chronicle.members) :
    (chronicle.see seen).lastEmptied
      = if seen.members.isEmpty then some seen.time else chronicle.lastEmptied := by
  rw [see_of_new new, lastEmptied, List.filter_append]
  cases isEmpty : seen.members.isEmpty
  · simp only [List.filter_cons, isEmpty, Bool.false_eq_true, if_false, List.filter_nil, List.append_nil]
    rfl
  · simp only [List.filter_cons, isEmpty, if_true, List.filter_nil, List.getLast?_append]
    rfl

theorem lastChange_see_of_new (new : seen.members ≠ chronicle.members) :
    (chronicle.see seen).lastChange = seen.time := by
  rw [see_of_new new, lastChange, List.getLast?_append]
  rfl

/-- Every change is dated between the creation and a time. -/
def Dated (chronicle : Chronicle) (now : Nat) : Prop :=
  chronicle.created ≤ now ∧
    ∀ change ∈ chronicle.changes, chronicle.created ≤ change.time ∧ change.time ≤ now

namespace Dated

theorem see (dated : chronicle.Dated now) (seenNow : seen.time = now) :
    (chronicle.see seen).Dated now := by
  by_cases same : seen.members = chronicle.members
  · rw [see_of_same same]
    exact dated
  · rw [see_of_new same]
    refine ⟨dated.1, fun change listed => ?_⟩
    rcases List.mem_append.1 listed with earlier | last
    · exact dated.2 change earlier
    · rw [List.mem_singleton.1 last, seenNow]
      exact ⟨dated.1, Nat.le_refl _⟩

theorem later (dated : chronicle.Dated now) {later : Nat} (passes : now ≤ later) :
    chronicle.Dated later :=
  ⟨Nat.le_trans dated.1 passes, fun change listed =>
    ⟨(dated.2 change listed).1, Nat.le_trans (dated.2 change listed).2 passes⟩⟩

theorem lastChange (dated : chronicle.Dated now) :
    chronicle.created ≤ chronicle.lastChange ∧ chronicle.lastChange ≤ now := by
  rw [Chronicle.lastChange]
  cases last : chronicle.changes.getLast? with
  | none => exact ⟨Nat.le_refl _, dated.1⟩
  | some change => exact dated.2 change (List.mem_of_getLast? last)

theorem lastEmptied (dated : chronicle.Dated now) {time : Nat}
    (emptied : chronicle.lastEmptied = some time) : chronicle.created ≤ time ∧ time ≤ now := by
  rw [Chronicle.lastEmptied, Option.map_eq_some_iff] at emptied
  obtain ⟨change, last, rfl⟩ := emptied
  exact dated.2 change (List.mem_filter.1 (List.mem_of_getLast? last)).1

end Dated

/-! ### The times that a pool keeps -/

/-- The deadline that a pool stores when its chronicle is known. -/
def storedDeadline (chronicle : Chronicle) (pool : Pool) : UInt64 :=
  if chronicle.members.isEmpty then
    (chronicle.lastEmptied.map fun time =>
      pool.deadlineAfter (Pool.clampedNanos (time - chronicle.created))).getD Pool.noDeadline
  else Pool.noDeadline

/-- A pool holds what its chronicle says, in 64-bit nanoseconds since its creation. -/
structure Tells (chronicle : Chronicle) (pool : Pool) : Prop where
  created : pool.created = chronicle.created
  lossInterval : pool.lossInterval = chronicle.lossInterval
  warmUp : pool.warmUpNanos = Pool.clampedNanos chronicle.warmUp.totalNanos
  members : pool.members = chronicle.members
  lastChange : pool.lastChangeNanos
    = Pool.clampedNanos (chronicle.lastChange - chronicle.created)
  deadline : pool.lossDeadlineNanos = chronicle.storedDeadline pool

namespace Tells

variable {pool : Pool}

theorem make (address : Address) (config : PoolConfig) (now : Nat) :
    (opening config now).Tells (Pool.make address config now) := by
  refine ⟨rfl, rfl, rfl, rfl, ?_, rfl⟩
  have still : (opening config now).lastChange - (opening config now).created = 0 := Nat.sub_self now
  rw [still, Pool.clampedNanos, if_pos (by decide)]
  rfl

/-- The stored deadline depends on the changes, and of the pool on no more than its loss interval. -/
theorem storedDeadline_congr {next : Pool} {other : Chronicle} (created : other.created = chronicle.created)
    (changes : other.changes = chronicle.changes) (lossInterval : next.lossInterval = pool.lossInterval) :
    other.storedDeadline next = chronicle.storedDeadline pool := by
  have members : other.members = chronicle.members := by rw [Chronicle.members, changes]; rfl
  have emptied : other.lastEmptied = chronicle.lastEmptied := by rw [lastEmptied, changes]; rfl
  have after : next.deadlineAfter = pool.deadlineAfter := by
    funext time
    rw [Pool.deadlineAfter, Pool.deadlineAfter, lossInterval]
  rw [storedDeadline, storedDeadline, members, emptied, created, after]

theorem setWarmUp (tells : chronicle.Tells pool) (warmUp : Span) :
    Tells { chronicle with warmUp } (pool.setWarmUp warmUp) := by
  rw [Pool.setWarmUp]
  refine ⟨tells.created, tells.lossInterval, rfl, tells.members, tells.lastChange, ?_⟩
  refine tells.deadline.trans (Eq.symm ?_)
  apply storedDeadline_congr <;> rfl

/-- A pool that has members keeps no deadline. -/
theorem deadline_of_mem (tells : chronicle.Tells pool) {channel : Nat} (member : channel ∈ pool.members) :
    pool.lossDeadlineNanos = Pool.noDeadline := by
  rw [tells.deadline, storedDeadline, ← tells.members, if_neg]
  rw [List.isEmpty_iff]
  exact List.ne_nil_of_mem member

/-- The members have changed just now, and the pool has taken down the time and the deadline. -/
theorem changed (tells : chronicle.Tells pool) {next : Pool} (new : next.members ≠ pool.members)
    (created : next.created = pool.created) (lossInterval : next.lossInterval = pool.lossInterval)
    (warmUp : next.warmUpNanos = pool.warmUpNanos)
    (lastChange : next.lastChangeNanos = pool.elapsedNanos now)
    (deadline : next.lossDeadlineNanos
      = if next.members.isEmpty then pool.deadlineAfter (pool.elapsedNanos now) else Pool.noDeadline) :
    (chronicle.see ⟨now, next.members⟩).Tells next := by
  have unseen : (⟨now, next.members⟩ : MembershipChange).members ≠ chronicle.members :=
    tells.members ▸ new
  have elapsed : pool.elapsedNanos now = Pool.clampedNanos (now - chronicle.created) := by
    rw [Pool.elapsedNanos, tells.created]
  refine ⟨?_, ?_, ?_, (members_see chronicle ⟨now, next.members⟩).symm, ?_, ?_⟩
  · rw [created, tells.created, created_see]
  · rw [lossInterval, tells.lossInterval, see_of_new unseen]
  · rw [warmUp, tells.warmUp, see_of_new unseen]
  · rw [lastChange, elapsed, lastChange_see_of_new unseen, created_see]
  · rw [deadline, elapsed, storedDeadline_congr rfl rfl lossInterval, storedDeadline, members_see,
      lastEmptied_see_of_new unseen, created_see]
    split
    · rw [Option.map_some, Option.getD_some]
    · exact Eq.refl Pool.noDeadline

/-- A channel is enrolled.  A stranger changes the members; one that is a member already clears a deadline
that was not set. -/
theorem enroll (tells : chronicle.Tells pool) (channel now : Nat) :
    (chronicle.see ⟨now, (pool.enroll channel now).1.members⟩).Tells (pool.enroll channel now).1 := by
  by_cases member : channel ∈ pool.members
  · have enrolled : (pool.enroll channel now).1 = pool := by
      rw [Pool.enroll]
      simp only [if_pos member, ← tells.deadline_of_mem member]
    rw [enrolled, see_of_same tells.members]
    exact tells
  · have enrolled : (pool.enroll channel now).1
        = { pool with
            members := pool.members ++ [channel]
            lastChangeNanos := pool.elapsedNanos now
            lossDeadlineNanos := Pool.noDeadline } := by
      rw [Pool.enroll]
      simp only [if_neg member]
    rw [enrolled]
    refine tells.changed ?_ rfl rfl rfl rfl ?_
    · exact fun same => List.cons_ne_nil _ _ (List.append_right_eq_self.1 same)
    · rw [if_neg (by simp)]

/-- A channel is evicted.  Only a member changes anything by going. -/
theorem evict (tells : chronicle.Tells pool) (channel now : Nat) :
    (chronicle.see ⟨now, (pool.evict channel now).1.members⟩).Tells (pool.evict channel now).1 := by
  by_cases member : channel ∈ pool.members
  · have evicted : (pool.evict channel now).1
        = { pool with
            members := pool.members.filter (· ≠ channel)
            lastChangeNanos := pool.elapsedNanos now
            lossDeadlineNanos :=
              if (pool.members.filter (· ≠ channel)).isEmpty then
                pool.deadlineAfter (pool.elapsedNanos now)
              else pool.lossDeadlineNanos } := by
      rw [Pool.evict]
      simp only [if_pos member]
    rw [evicted]
    refine tells.changed ?_ rfl rfl rfl rfl ?_
    · intro same
      have kept := List.filter_eq_self.1 same channel member
      exact of_decide_eq_true kept rfl
    · rw [tells.deadline_of_mem member]
  · have evicted : (pool.evict channel now).1 = pool := by
      rw [Pool.evict]
      simp only [if_neg member]
    rw [evicted, see_of_same tells.members]
    exact tells

/-- Neither the capacity nor the turns have to do with the times. -/
theorem retuned (tells : chronicle.Tells pool) (capacity cursor : UInt64) :
    chronicle.Tells { pool with capacity, cursor } := by
  refine ⟨tells.created, tells.lossInterval, tells.warmUp, tells.members, tells.lastChange, ?_⟩
  refine tells.deadline.trans (Eq.symm ?_)
  apply storedDeadline_congr <;> rfl

end Tells

end Chronicle

/-! ### Reading the times -/

namespace Pool

theorem toNat_clampedNanos (nanos : Nat) :
    (clampedNanos nanos).toNat = if nanos < 0x10000000000000000 then nanos else latestNanos := by
  rw [clampedNanos]
  split
  · rename_i fits
    exact UInt64.toNat_ofNat_of_lt fits
  · rfl

theorem toNat_clampedNanos_of_le {nanos : Nat} (fits : nanos ≤ latestNanos) :
    (clampedNanos nanos).toNat = nanos := by
  rw [toNat_clampedNanos, if_pos]
  exact Nat.lt_of_le_of_lt fits (by decide)

/-- Whatever is stored as a deadline stays below the word for "no deadline". -/
theorem toNat_deadlineAfter (pool : Pool) (time : UInt64) :
    (pool.deadlineAfter time).toNat
      = min (time.toNat + (clampedNanos pool.lossInterval.totalNanos).toNat) latestNanos := by
  rw [deadlineAfter]
  exact UInt64.toNat_ofNat_of_lt (Nat.lt_of_le_of_lt (Nat.min_le_right _ _) (by decide))

theorem deadlineAfter_ne_noDeadline (pool : Pool) (time : UInt64) :
    pool.deadlineAfter time ≠ noDeadline := by
  intro same
  have bound : (pool.deadlineAfter time).toNat ≤ latestNanos := by
    rw [toNat_deadlineAfter]
    exact Nat.min_le_right _ _
  rw [same] at bound
  exact absurd bound (by decide)

end Pool

namespace Chronicle.Tells

variable {chronicle : Chronicle} {pool : Pool} {now : Nat}

/-- As long as the clock has not outrun 64 bits, the times that the pool answers with are those of its
chronicle. -/
theorem times (tells : chronicle.Tells pool) (dated : chronicle.Dated now)
    (early : now ≤ chronicle.created + Pool.latestNanos) :
    pool.lastChange = chronicle.lastChange ∧ pool.isWarm now = chronicle.isWarm now ∧
      pool.lossDeadline = chronicle.lossDeadline := by
  have since : ∀ {time}, chronicle.created ≤ time ∧ time ≤ now →
      (Pool.clampedNanos (time - chronicle.created)).toNat = time - chronicle.created := by
    intro time between
    exact Pool.toNat_clampedNanos_of_le (by omega)
  have last := dated.lastChange
  refine ⟨?_, ?_, ?_⟩
  · rw [Pool.lastChange, tells.created, tells.lastChange, since last]
    omega
  · rw [Pool.isWarm, isWarm, Pool.elapsedNanos, tells.created, tells.lastChange, tells.warmUp,
      since last, since ⟨dated.1, Nat.le_refl now⟩, Pool.toNat_clampedNanos, decide_eq_decide]
    -- A warm-up time of exactly 2^64 - 1 ns is stored as it is, and no time is that long either.
    have apart : now - chronicle.created - (chronicle.lastChange - chronicle.created)
        = now - chronicle.lastChange := by omega
    rw [apart]
    simp only [Pool.latestNanos] at early ⊢
    split <;> omega
  · rw [Pool.lossDeadline, Pool.isAvailable, tells.members, tells.deadline, storedDeadline,
      lossDeadline]
    cases isEmpty : chronicle.members.isEmpty
    · rfl
    · cases emptied : chronicle.lastEmptied with
      | none => rfl
      | some time =>
          have between := dated.lastEmptied emptied
          simp only [Bool.not_true, Bool.false_eq_true, false_or, if_true, Option.map_some,
            Option.getD_some, Pool.deadlineAfter_ne_noDeadline, if_false, tells.created,
            Pool.toNat_deadlineAfter, since between, tells.lossInterval, Pool.toNat_clampedNanos,
            Option.some.injEq]
          simp only [Pool.latestNanos]
          split <;> omega

end Chronicle.Tells

end Uplink
