/-
Module: Uplink.Proofs.Fabric.Stake
Purpose: How many links, retries and attempts there are for an address: a step that gives one up leaves at
  least as many as the pool of the address asks for.
Main exports: Outline.serves, Outline.stake, Outline.Manned, Outline.bound_le_stake, Outline.Carries.stake
-/
import Mathlib.Data.List.Nodup
import Uplink.Proofs.Fabric.Engagement

namespace Uplink.Outline

variable {before after outline : Outline} {gained : List Nat}

/-- Whether a watchdog exists and watches over links to an address. -/
def serves (outline : Outline) (address : Address) (number : Nat) : Bool :=
  match outline.posts[number]? with
  | some post => post.address == address
  | none => false

/-- The number of open channels, retries and attempts for an address. -/
def stake (outline : Outline) (address : Address) : Nat :=
  outline.engagements.countP (outline.serves address)

/-- Every watchdog that is engaged is started. -/
def Manned (outline : Outline) : Prop :=
  ∀ number ∈ outline.engagements, ∀ post, outline.posts[number]? = some post → post.started = true

theorem serves_of_seats (seats : after.posts.map Post.seat = before.posts.map Post.seat)
    (address : Address) : after.serves address = before.serves address := by
  have onSeat : ∀ (outline : Outline) (number : Nat), outline.serves address number
      = match (outline.posts[number]?).map Post.seat with
        | some seat => seat.1 == address
        | none => false := by
    intro outline number
    simp only [serves]
    cases outline.posts[number]? <;> rfl
  funext number
  rw [onSeat, onSeat, seat_of_seats seats]

/-- The watchdogs behind the members of an address's pool watch over links to that address. -/
theorem serves_of_pool {groups : List (Address × Nat)} {bound pool : Nat} {address : Address}
    (sound : outline.Sound groups bound) (isPool : groups.lookup address = some pool) {number : Nat}
    (inPool : outline.poolOf number = some pool) : outline.serves address number = true := by
  obtain ⟨post, isThere, isSame⟩ := Option.bind_eq_some_iff.1 inPool
  obtain ⟨other, isOther, isGroup⟩ := sound.pooled number post isThere
  simp only [isOther] at isSame
  have sameAddress := sound.apart post.address address pool (Option.some.inj isSame ▸ isGroup) isPool
  simp only [serves]
  simp only [isThere]
  exact beq_iff_eq.2 sameAddress

/-- Distinct places at which a list satisfies something are no more than there are such entries. -/
theorem length_le_countP {Entry : Type} {keep : Entry → Bool} (entries : List Entry) (places : List Nat)
    (distinct : places.Nodup)
    (kept : ∀ place ∈ places, ∃ entry, entries[place]? = some entry ∧ keep entry = true) :
    places.length ≤ entries.countP keep := by
  induction entries generalizing places with
  | nil =>
      cases places with
      | nil => exact Nat.zero_le _
      | cons place rest =>
          obtain ⟨entry, isThere, -⟩ := kept place List.mem_cons_self
          cases isThere
  | cons entry entries ih =>
      -- The places behind the first one count among the entries behind the first one.
      have behind : ((places.filter (· ≠ 0)).map Nat.pred).length ≤ entries.countP keep := by
        apply ih
        · apply List.Nodup.map_on _ (distinct.filter _)
          intro first isFirst second isSecond same
          have firstPositive := of_decide_eq_true (List.mem_filter.1 isFirst).2
          have secondPositive := of_decide_eq_true (List.mem_filter.1 isSecond).2
          simp only [Nat.pred_eq_sub_one] at same
          omega
        · intro place isPlace
          obtain ⟨original, isOriginal, same⟩ := List.mem_map.1 isPlace
          obtain ⟨isMember, positive⟩ := List.mem_filter.1 isOriginal
          obtain ⟨found, isThere, isKept⟩ := kept original isMember
          cases original with
          | zero => exact absurd rfl (of_decide_eq_true positive)
          | succ original => exact ⟨found, same ▸ isThere, isKept⟩
      simp only [List.length_map] at behind
      have split : places.length = (places.filter (· ≠ 0)).length + places.count 0 := by
        rw [← List.countP_eq_length_filter, List.count, List.length_eq_countP_add_countP (· ≠ 0)]
        congr 1
        apply List.countP_congr
        intro place _
        simp
      simp only [List.countP_cons, split]
      by_cases isMember : 0 ∈ places
      · obtain ⟨found, isThere, isKept⟩ := kept 0 isMember
        have isEntry : entry = found := Option.some.inj isThere
        rw [isEntry, isKept, if_pos rfl]
        have once := List.nodup_iff_count_le_one.1 distinct 0
        omega
      · simp only [List.count_eq_zero_of_not_mem isMember]
        omega

/-- A pool without room has as many open channels as it asks for. -/
theorem bound_le_stake {groups : List (Address × Nat)} {bound pool : Nat} {address : Address}
    (sound : outline.Sound groups bound) (isPool : groups.lookup address = some pool)
    (noRoom : outline.hasRoom pool = false) : bound ≤ outline.stake address := by
  have full : bound ≤ (outline.members pool).length := by
    simp only [hasRoom] at noRoom
    simp only [sound.bounded address pool isPool] at noRoom
    exact Nat.le_of_not_lt (of_decide_eq_false noRoom)
  have members : ((outline.members pool).map Nat.pred).length
      ≤ outline.links.countP fun link => link.any (outline.serves address) := by
    apply length_le_countP
    · apply List.Nodup.map_on _ (sound.distinct pool)
      intro first isFirst second isSecond same
      obtain ⟨_, isLink, -⟩ := sound.enrolled pool first isFirst
      obtain ⟨_, isOther, -⟩ := sound.enrolled pool second isSecond
      have firstPositive := ne_zero_of_link? isLink
      have secondPositive := ne_zero_of_link? isOther
      simp only [Nat.pred_eq_sub_one] at same
      omega
    · intro place isPlace
      obtain ⟨channel, isMember, same⟩ := List.mem_map.1 isPlace
      obtain ⟨number, isLink, inPool⟩ := sound.enrolled pool channel isMember
      refine ⟨some number, ?_, serves_of_pool sound isPool inPool⟩
      rw [← same, Nat.pred_eq_sub_one]
      exact getElem?_of_link? isLink
  have live : outline.links.countP (fun link => link.any (outline.serves address))
      = (outline.links.filterMap id).countP (outline.serves address) := by
    simp only [List.countP_filterMap]
    congr 1
    funext link
    cases link <;> rfl
  simp only [List.length_map, live] at members
  simp only [stake, engagements]
  simp only [List.countP_append]
  omega

/-- Whoever is started and wants no other channel has a pool without room. -/
theorem hasRoom_of_not_needs {number pool : Nat} {post : Post}
    (isThere : outline.posts[number]? = some post) (isPool : post.pool = some pool)
    (isStarted : post.started = true) (unwanted : outline.needs number = false) :
    outline.hasRoom pool = false := by
  simp only [needs] at unwanted
  rw [isThere] at unwanted
  dsimp only at unwanted
  simp only [wants] at unwanted
  simp only [isStarted, isPool, Bool.true_and] at unwanted
  exact unwanted

/-- A balanced step among watchdogs that are started raises the stake of an address by what is gained for
it, unless the pool of the address is full. -/
theorem Balanced.stake {groups : List (Address × Nat)} {bound : Nat}
    (balanced : Balanced before after gained) (sound : after.Sound groups bound)
    (seats : after.posts.map Post.seat = before.posts.map Post.seat)
    (known : ∀ number ∈ gained ++ before.engagements,
      ∃ post, after.posts[number]? = some post ∧ post.started = true)
    (address : Address) :
    after.stake address ≤ gained.countP (before.serves address) + before.stake address ∧
      (gained.countP (before.serves address) + before.stake address ≤ after.stake address ∨
        bound ≤ after.stake address) := by
  have whole : gained.countP (before.serves address) + before.stake address
      = (gained ++ before.engagements).countP (after.serves address) := by
    simp only [List.countP_append, serves_of_seats seats, Outline.stake]
  simp only [whole]
  rcases balanced with all | ⟨number, rest, unwanted⟩
  · simp only [all.countP_eq]
    exact ⟨Nat.le_refl _, Or.inl (Nat.le_refl _)⟩
  · simp only [rest.countP_eq, List.countP_cons]
    cases isServed : after.serves address number with
    | false => exact ⟨Nat.le_refl _, Or.inl (Nat.le_refl _)⟩
    | true =>
        refine ⟨Nat.le_add_right _ _, Or.inr ?_⟩
        obtain ⟨post, isThere, isStarted⟩ := known number (rest.mem_iff.2 List.mem_cons_self)
        obtain ⟨pool, isPool, isGroup⟩ := sound.pooled number post isThere
        have sameAddress : post.address = address := by
          simp only [serves] at isServed
          simp only [isThere] at isServed
          exact beq_iff_eq.1 isServed
        simp only [sameAddress] at isGroup
        exact bound_le_stake sound isGroup (hasRoom_of_not_needs isThere isPool isStarted unwanted)

/-- Whoever is engaged after a step of started watchdogs is started. -/
theorem Carries.manned (carries : Carries before after gained) (manned : before.Manned)
    (recruits : ∀ number ∈ gained, ∀ post, before.posts[number]? = some post → post.started = true) :
    after.Manned := by
  intro number isEngaged post isThere
  have same : (after.posts[number]?).map Post.station = (before.posts[number]?).map Post.station := by
    rw [← List.getElem?_map, carries.steady, List.getElem?_map]
  simp only [isThere] at same
  obtain ⟨old, isOld, sameStation⟩ := Option.map_eq_some_iff.1 same.symm
  have sameStart : old.started = post.started := congrArg Prod.snd sameStation
  rw [← sameStart]
  rcases carries.balance.subset isEngaged with isGained | wasEngaged
  · exact recruits number isGained old isOld
  · exact manned number wasEngaged old isOld

/-- A step of started watchdogs in the books of an address. -/
theorem Carries.stake {groups : List (Address × Nat)} {bound : Nat}
    (carries : Carries before after []) (sound : before.Sound groups bound) (manned : before.Manned)
    (address : Address) :
    after.stake address ≤ before.stake address ∧
      (before.stake address ≤ after.stake address ∨ bound ≤ after.stake address) := by
  have afterSound := carries.sound groups bound sound fun _ isGained => absurd isGained List.not_mem_nil
  have booked := carries.balance.stake afterSound (seats_of_stations carries.steady) (fun number isEngaged => ?_)
    address
  · simp only [List.countP_nil, Nat.zero_add] at booked
    exact booked
  · have exists' := sound.known number isEngaged
    have isOld : before.posts[number]? = some before.posts[number] := List.getElem?_eq_getElem exists'
    have isStarted := manned number isEngaged _ isOld
    have same : (after.posts[number]?).map Post.station = (before.posts[number]?).map Post.station := by
      rw [← List.getElem?_map, carries.steady, List.getElem?_map]
    simp only [isOld] at same
    obtain ⟨post, isThere, sameStation⟩ := Option.map_eq_some_iff.1 same
    have sameStart : post.started = before.posts[number].started := congrArg Prod.snd sameStation
    exact ⟨post, isThere, sameStart.trans isStarted⟩

end Uplink.Outline
