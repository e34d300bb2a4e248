/-
Module: Uplink.Proofs.Pool.Rotation
Purpose: The members of a pool take turns fairly.  The cursor counts modulo 2^64 and is read modulo 2^63, which
  need not be a multiple of the number of members: there alone the order of the turns breaks off.
Main exports: Pool.placeAfter, Pool.turns_add, Pool.turns_of_several, Pool.count_turns, Pool.turns_fair
-/
import Mathlib.Data.Int.CardIntervalMod
import Uplink.Proofs.Pool.Membership

namespace Uplink.Pool

/-! ### Remainders of numbers in a row -/

section Remainders

variable {members place other : Nat}

/-- How often a remainder comes up in a row of numbers: as often as below the end of the row, less the times
below its beginning. -/
theorem count_remainder (isPlace : place < members) (base count : Nat) :
    base / members + (if place < base % members then 1 else 0)
        + Nat.count (fun made => (base + made) % members = place) count
      = (base + count) / members + (if place < (base + count) % members then 1 else 0) := by
  have positive : 0 < members := Nat.zero_lt_of_lt isPlace
  have upTo := fun bound => Nat.count_modEq_card bound positive place
  simp only [Nat.ModEq, Nat.mod_eq_of_lt isPlace] at upTo
  rw [← upTo base, ← upTo (base + count), Nat.count_add]

/-- No remainder comes up more than once oftener than another one. -/
theorem count_remainder_le (isPlace : place < members) (isOther : other < members) (base count : Nat) :
    Nat.count (fun made => (base + made) % members = place) count
      ≤ Nat.count (fun made => (base + made) % members = other) count + 1 := by
  have ofPlace := count_remainder isPlace base count
  have ofOther := count_remainder isOther base count
  -- Both counts are the same number of whole rounds and what the two ends add, and the ends cannot differ
  -- in favour of one remainder at both of them.
  split at ofPlace <;> split at ofPlace <;> split at ofOther <;> split at ofOther <;> omega

/-- In a whole round every remainder comes up once. -/
theorem count_remainder_round (isPlace : place < members) (base : Nat) :
    Nat.count (fun made => (base + made) % members = place) members = 1 := by
  have ofPlace := count_remainder isPlace base members
  rw [Nat.add_mod_right, Nat.add_div_right base (Nat.zero_lt_of_lt isPlace)] at ofPlace
  omega

theorem countP_range (keep : Nat → Prop) [DecidablePred keep] (count : Nat) :
    (List.range count).countP (fun made => decide (keep made)) = Nat.count keep count := by
  induction count with
  | zero => rfl
  | succ count ih =>
      rw [List.range_succ, List.countP_append, ih, Nat.count_succ, List.countP_singleton]
      simp only [decide_eq_true_eq]

end Remainders

/-! ### Turns -/

variable {pool : Pool}

/-- The place of the member that is next after a number of turns. -/
def placeAfter (pool : Pool) (made : Nat) : Nat :=
  (pool.cursor.toNat + made) % 0x8000000000000000 % pool.members.length

/-- Turns are taken one after another. -/
theorem turns_add (first second : Nat) (pool : Pool) :
    turns (first + second) pool
      = ((turns second (turns first pool).1).1,
          (turns first pool).2 ++ (turns second (turns first pool).1).2) := by
  induction first generalizing pool with
  | zero => rw [Nat.zero_add, turns, List.nil_append]
  | succ first ih =>
      rw [Nat.succ_add, turns, ih]
      rfl

/-- A single member is always the one, and the cursor rests. -/
theorem turns_of_single {only : Nat} (isSingle : pool.members = [only]) (count : Nat) :
    turns count pool = (pool, List.replicate count (some only)) := by
  induction count with
  | zero => rfl
  | succ count ih =>
      have turn : pool.tryNext = (pool, some only) := by rw [tryNext, isSingle]
      rw [turns, turn, ih]
      rfl

theorem tryNext_of_several (several : 2 ≤ pool.members.length) :
    pool.tryNext
      = ({ pool with cursor := pool.cursor + 1 }, pool.members[pool.placeAfter 0]?) := by
  rw [tryNext]
  split
  · rename_i isEmpty
    rw [isEmpty] at several
    cases several
  · rename_i only isSingle
    rw [isSingle] at several
    exact absurd several (by decide : ¬ 2 ≤ 1)
  · rfl

/-- Several members take turns as the cursor goes up by one each time. -/
theorem turns_of_several (several : 2 ≤ pool.members.length) (count : Nat) :
    turns count pool
      = ({ pool with cursor := pool.cursor + UInt64.ofNat count },
          (List.range count).map fun made => pool.members[pool.placeAfter made]?) := by
  induction count with
  | zero =>
      have still : pool.cursor + UInt64.ofNat 0 = pool.cursor := UInt64.add_zero _
      rw [still]
      rfl
  | succ count ih =>
      let moved : Pool := { pool with cursor := pool.cursor + UInt64.ofNat count }
      have isMoved : moved.tryNext = _ := tryNext_of_several several
      have next : moved.placeAfter 0 = pool.placeAfter count := by
        simp only [placeAfter, moved, UInt64.toNat_add, UInt64.toNat_ofNat']
        congr 1
        omega
      have onwards : pool.cursor + UInt64.ofNat count + 1 = pool.cursor + UInt64.ofNat (count + 1) := by
        rw [UInt64.add_assoc, UInt64.ofNat_add]
        rfl
      rw [turns_add, ih, List.range_succ, List.map_append]
      change ((turns 1 moved).1, _ ++ (turns 1 moved).2) = _
      rw [turns, isMoved, next, turns, ← onwards]
      rfl

theorem placeAfter_lt (several : 2 ≤ pool.members.length) (made : Nat) :
    pool.placeAfter made < pool.members.length :=
  Nat.mod_lt _ (Nat.lt_of_lt_of_le Nat.zero_lt_two several)

/-- A member is taken as often as its place is next. -/
theorem count_turns (distinct : pool.members.Nodup) (several : 2 ≤ pool.members.length)
    {place channel : Nat} (isThere : pool.members[place]? = some channel) (count : Nat) :
    (turns count pool).2.count (some channel)
      = Nat.count (fun made => pool.placeAfter made = place) count := by
  have isTaken : ∀ made, (pool.members[pool.placeAfter made]? == some channel)
      = decide (pool.placeAfter made = place) := by
    intro made
    rw [Bool.eq_iff_iff, beq_iff_eq, decide_eq_true_eq, ← isThere]
    exact List.getElem?_inj (placeAfter_lt several made) distinct
  rw [turns_of_several several, List.count_eq_countP, List.countP_map, ← countP_range]
  exact List.countP_congr fun made _ => by rw [Function.comp_apply, isTaken]

/-! ### The end of the cursor's range -/

/-- The cursor as it is read, without its highest bit. -/
def reading (pool : Pool) : Nat :=
  pool.cursor.toNat % 0x8000000000000000

theorem reading_turns (several : 2 ≤ pool.members.length) (count : Nat) :
    (turns count pool).1.reading = (pool.reading + count) % 0x8000000000000000 := by
  rw [reading, turns_of_several several, UInt64.toNat_add, UInt64.toNat_ofNat', reading]
  omega

/-- Turns that stay within the range take the members in a row. -/
theorem count_turns_within (distinct : pool.members.Nodup) (several : 2 ≤ pool.members.length)
    {place channel count : Nat} (isThere : pool.members[place]? = some channel)
    (within : pool.reading + count ≤ 0x8000000000000000) :
    (turns count pool).2.count (some channel)
      = Nat.count (fun made => (pool.reading + made) % pool.members.length = place) count := by
  rw [count_turns distinct several isThere, ← countP_range, ← countP_range]
  refine List.countP_congr fun made isMade => ?_
  have before := List.mem_range.1 isMade
  have inRow : (pool.cursor.toNat + made) % 0x8000000000000000 = pool.reading + made := by
    rw [reading] at within ⊢
    omega
  rw [placeAfter, inRow]

/-- Within the range, no member is taken more than once oftener than another one. -/
theorem count_turns_le (distinct : pool.members.Nodup) (several : 2 ≤ pool.members.length)
    {first second count : Nat} (isFirst : first ∈ pool.members) (isSecond : second ∈ pool.members)
    (within : pool.reading + count ≤ 0x8000000000000000) :
    (turns count pool).2.count (some first) ≤ (turns count pool).2.count (some second) + 1 := by
  obtain ⟨place, isThere⟩ := List.mem_iff_getElem?.1 isFirst
  obtain ⟨other, isOther⟩ := List.mem_iff_getElem?.1 isSecond
  rw [count_turns_within distinct several isThere within, count_turns_within distinct several isOther within]
  exact count_remainder_le (List.getElem?_eq_some_iff.1 isThere).1 (List.getElem?_eq_some_iff.1 isOther).1
    pool.reading count

/-- Within the range, as many turns as there are members take every member once. -/
theorem count_turns_round (distinct : pool.members.Nodup) (several : 2 ≤ pool.members.length)
    {channel : Nat} (isMember : channel ∈ pool.members)
    (within : pool.reading + pool.members.length ≤ 0x8000000000000000) :
    (turns pool.members.length pool).2.count (some channel) = 1 := by
  obtain ⟨place, isThere⟩ := List.mem_iff_getElem?.1 isMember
  rw [count_turns_within distinct several isThere within]
  exact count_remainder_round (List.getElem?_eq_some_iff.1 isThere).1 pool.reading

/-- The end of the range is met at most once in so few turns: before and behind it the turns are fair. -/
theorem count_turns_le_across (distinct : pool.members.Nodup) (several : 2 ≤ pool.members.length)
    {first second count : Nat} (isFirst : first ∈ pool.members) (isSecond : second ∈ pool.members)
    (bounded : count < 0x8000000000000000) :
    (turns count pool).2.count (some first) ≤ (turns count pool).2.count (some second) + 2 := by
  have range : pool.reading < 0x8000000000000000 := Nat.mod_lt _ (by decide)
  by_cases within : pool.reading + count ≤ 0x8000000000000000
  · have fair := count_turns_le distinct several isFirst isSecond within
    omega
  · let before := 0x8000000000000000 - pool.reading
    let there := (turns before pool).1
    have sameMembers : there.members = pool.members := members_turns before pool
    have atStart : there.reading = 0 := by
      rw [reading_turns several, Nat.add_sub_cancel' (Nat.le_of_lt range), Nat.mod_self]
    have split : count = before + (count - before) := by omega
    rw [split, turns_add, List.count_append, List.count_append]
    have fairBefore : (turns before pool).2.count (some first)
        ≤ (turns before pool).2.count (some second) + 1 :=
      count_turns_le distinct several isFirst isSecond (by omega)
    have fairBehind : (turns (count - before) there).2.count (some first)
        ≤ (turns (count - before) there).2.count (some second) + 1 :=
      count_turns_le (sameMembers ▸ distinct) (sameMembers ▸ several) (sameMembers ▸ isFirst)
        (sameMembers ▸ isSecond) (by omega)
    change _ + (turns (count - before) there).2.count _ ≤ _ + (turns (count - before) there).2.count _ + 2
    omega

/-- The turns of a window are those of the pool at its beginning. -/
theorem take_drop_turns {start count : Nat} (width : Nat) (inside : start + width ≤ count) :
    ((turns count pool).2.drop start).take width = (turns width (turns start pool).1).2 := by
  have split : count = start + (width + (count - (start + width))) := by omega
  have length : ∀ (count : Nat) (pool : Pool), (turns count pool).2.length = count := by
    intro count pool
    induction count generalizing pool with
    | zero => rfl
    | succ count ih => rw [turns, List.length_cons, ih]
  rw [split, turns_add, List.drop_left' (length _ _), turns_add, List.take_left' (length _ _)]

/-- Take any pool, with its cursor anywhere.  A single member is taken in every turn, and the cursor rests.
Of several members each turn takes one, and less than 2^63 turns take no member more than twice oftener than
another.  If no turn but the first begins where the cursor is a multiple of 2^63, they take no member more than
once oftener than another, and in any row of as many turns as there are members each member has one. -/
theorem turns_fair (events : List RosterEvent) (number : Nat) {held : Pool}
    (found : (Roster.fresh.run events).pools[number]? = some held) (cursor : UInt64) :
    let pool := { held with cursor }
    (∀ only, pool.members = [only] → ∀ count,
        turns count pool = (pool, List.replicate count (some only)))
      ∧ (2 ≤ pool.members.length → ∀ count < 0x8000000000000000,
        let taken := (turns count pool).2
        taken.length = count
          ∧ (∀ turn ∈ taken, ∃ channel ∈ pool.members, turn = some channel)
          ∧ (∀ first ∈ pool.members, ∀ second ∈ pool.members,
            taken.count (some first) ≤ taken.count (some second) + 2)
          ∧ ((∀ made, 0 < made → made < count →
              ¬ 0x8000000000000000 ∣ (turns made pool).1.cursor.toNat) →
            (∀ first ∈ pool.members, ∀ second ∈ pool.members,
                taken.count (some first) ≤ taken.count (some second) + 1)
              ∧ ∀ start, start + pool.members.length ≤ count → ∀ channel ∈ pool.members,
                ((taken.drop start).take pool.members.length).count (some channel) = 1)) := by
  intro pool
  have distinct : pool.members.Nodup := by
    have tracks := (Roster.tracks_fresh number).run events
    rw [← Roster.membersOf_of_getElem? found]
    exact tracks.distinct
  refine ⟨fun only isSingle => turns_of_single isSingle, fun several count bounded => ?_⟩
  intro taken
  have isTaken : taken = _ := congrArg Prod.snd (turns_of_several several count)
  refine ⟨?_, ?_, ?_, ?_⟩
  · rw [isTaken, List.length_map, List.length_range]
  · intro turn isTurn
    rw [isTaken] at isTurn
    obtain ⟨made, -, rfl⟩ := List.mem_map.1 isTurn
    have isPlace := placeAfter_lt several made
    exact ⟨pool.members[pool.placeAfter made], List.getElem_mem isPlace, List.getElem?_eq_getElem isPlace⟩
  · intro first isFirst second isSecond
    exact count_turns_le_across distinct several isFirst isSecond bounded
  · intro stays
    have within : pool.reading + count ≤ 0x8000000000000000 := by
      have range : pool.reading < 0x8000000000000000 := Nat.mod_lt _ (by decide)
      by_contra beyond
      refine stays (0x8000000000000000 - pool.reading) (by omega) (by omega) (Nat.dvd_of_mod_eq_zero ?_)
      have atEnd := reading_turns several (0x8000000000000000 - pool.reading)
      rw [Nat.add_sub_cancel' (Nat.le_of_lt range), Nat.mod_self] at atEnd
      exact atEnd
    refine ⟨fun first isFirst second isSecond => count_turns_le distinct several isFirst isSecond within, ?_⟩
    intro start inside channel isMember
    let there := (turns start pool).1
    have sameMembers : there.members = pool.members := members_turns start pool
    have reads : there.reading = pool.reading + start := by
      rw [reading_turns several, Nat.mod_eq_of_lt (by omega)]
    have row : (turns there.members.length there).2.count (some channel) = 1 :=
      count_turns_round (sameMembers ▸ distinct) (sameMembers ▸ several) (sameMembers ▸ isMember)
        (by rw [sameMembers]; omega)
    rw [sameMembers] at row
    rw [take_drop_turns pool.members.length inside]
    exact row

/-- Three channels join a pool. -/
def joining : List RosterEvent :=
  [.addPool { host := "relay", port := 7000 } PoolConfig.standard,
    .openChannel none, .openChannel none, .openChannel none, .enroll 0 1, .enroll 0 2, .enroll 0 3]

/-- The pool that they have joined, with a cursor that wraps after some turns. -/
def wrapping (turns : UInt64) : Pool :=
  { (Roster.fresh.run joining).pools[0]?.getD default with cursor := 0 - turns }

/-- When the cursor wraps after two turns, the third member waits while the other two are taken twice.  When it
wraps after three turns, these take every member once. -/
theorem turns_fair_wrapping :
    ((turns 4 (wrapping 2)).2 = [some 1, some 2, some 1, some 2]
        ∧ (∀ first ∈ (wrapping 2).members, ∀ second ∈ (wrapping 2).members,
          (turns 4 (wrapping 2)).2.count (some first) ≤ (turns 4 (wrapping 2)).2.count (some second) + 2)
        ∧ (turns 4 (wrapping 2)).2.count (some 1) = (turns 4 (wrapping 2)).2.count (some 3) + 2)
      ∧ ∀ channel ∈ (wrapping 3).members,
        (((turns 3 (wrapping 3)).2.drop 0).take 3).count (some channel) = 1 := by
  have across := ((turns_fair joining 0 rfl (0 - 2)).2 (by decide) 4 (by decide)).2.2.1
  have within := ((turns_fair joining 0 rfl (0 - 3)).2 (by decide) 3 (by decide)).2.2.2 (by
    intro made begun unfinished
    obtain rfl | rfl : made = 1 ∨ made = 2 := by omega
    · decide
    · decide)
  exact ⟨⟨by decide, across, by decide⟩, within.2 0 (by decide)⟩

end Uplink.Pool
