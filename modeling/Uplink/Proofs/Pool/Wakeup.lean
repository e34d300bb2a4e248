/-
Module: Uplink.Proofs.Pool.Wakeup
Purpose: No wake-up is lost: as long as a waiter is parked and nobody has notified it, the pool is empty, or
  somebody has enrolled a channel and not yet woken those who wait.
Main exports: PoolThreads.Watchful, PoolThreads.Watchful.move, PoolThreads.lastOperation?,
  PoolThreads.Enrolling, PoolThreads.no_lost_wakeup
-/
import Uplink.Proofs.Pool.Turn

namespace Uplink.PoolThreads

open PoolAction PoolThread

variable {before after : PoolThreads} {number : Nat} {old new : PoolThread}

/-! ### Whoever is parked will hear of a member -/

/-- Threads keep to their order, the lock belongs to the thread that acts under it, and nobody watches in vain:
while a thread watches, the flag is up or somebody is going to wake it, and while a parked one has not been
notified, somebody owes a wake-up for each member that there may be. -/
structure Watchful (state : PoolThreads) : Prop where
  orderly : ∀ (number : Nat) (thread : PoolThread), state.threads[number]? = some thread → thread.Orderly
  lockedBy : ∀ (number : Nat) (thread : PoolThread), state.threads[number]? = some thread →
    thread.needsLock = true → state.lockedBy = some number
  awaited : ∀ (number : Nat) (thread : PoolThread), state.threads[number]? = some thread →
    thread.watches = true → state.flagRaised = true ∨
      ∃ (other : Nat) (waker : PoolThread), state.threads[other]? = some waker ∧ waker.wakes = true
  announced : state.pool.isAvailable = true →
    ∀ (number : Nat) (thread : PoolThread), state.threads[number]? = some thread → thread.isStranded = true →
      ∃ (other : Nat) (adder : PoolThread), state.threads[other]? = some adder ∧ adder.owesWakeUp = true

theorem watchful_fresh (pool : Pool) (count : Nat) : (fresh pool count).Watchful := by
  have isIdle : ∀ (number : Nat) (thread : PoolThread), (fresh pool count).threads[number]? = some thread →
      thread = .running [] := by
    intro number thread isThere
    exact List.eq_of_mem_replicate (List.mem_of_getElem? isThere)
  constructor
  case orderly =>
    intro number thread isThere
    rw [isIdle number thread isThere]
    exact List.isChain_nil
  case lockedBy =>
    intro number thread isThere needs
    rw [isIdle number thread isThere] at needs
    cases needs
  case awaited =>
    intro number thread isThere watching
    rw [isIdle number thread isThere] at watching
    cases watching
  case announced => exact nofun

namespace Turn

variable {move : PoolMove}

theorem getElem? (turn : Turn before move after number old new) (other : Nat) :
    after.threads[other]? = if other = number then some new else before.threads[other]? := by
  obtain ⟨bound, -⟩ := List.getElem?_eq_some_iff.1 turn.isThere
  rw [turn.threads, List.getElem?_set]
  by_cases same : number = other
  · rw [if_pos same, if_pos same.symm, if_pos bound]
  · rw [if_neg same, if_neg (Ne.symm same)]

theorem itself (turn : Turn before move after number old new) : after.threads[number]? = some new := by
  rw [turn.getElem?, if_pos rfl]

/-- What some thread is going to do, some thread is still going to do. -/
theorem still (turn : Turn before move after number old new) {due : PoolThread → Bool}
    (kept : due old = true → due new = true) {other : Nat} {thread : PoolThread}
    (isThere : before.threads[other]? = some thread) (isDue : due thread = true) :
    ∃ (place : Nat) (found : PoolThread), after.threads[place]? = some found ∧ due found = true := by
  by_cases same : other = number
  · rw [same, turn.isThere] at isThere
    cases isThere
    exact ⟨number, new, turn.itself, kept isDue⟩
  · refine ⟨other, thread, ?_, isDue⟩
    rw [turn.getElem?, if_neg same, isThere]

/-- Whoever had the flag or somebody's call to rely on still has one of them. -/
theorem awaited (turn : Turn before move after number old new)
    (awaited : before.flagRaised = true ∨
      ∃ (other : Nat) (waker : PoolThread), before.threads[other]? = some waker ∧ waker.wakes = true) :
    after.flagRaised = true ∨
      ∃ (other : Nat) (waker : PoolThread), after.threads[other]? = some waker ∧ waker.wakes = true := by
  rcases awaited with raised | ⟨other, waker, isThere, waking⟩
  · rcases turn.flagRaised raised with up | waking
    · exact .inl up
    · exact .inr ⟨number, new, turn.itself, waking⟩
  · exact .inr (turn.still turn.wakes isThere waking)

theorem watchful (turn : Turn before move after number old new) (watchful : before.Watchful) :
    after.Watchful := by
  constructor
  case orderly =>
    intro other thread isThere
    rw [turn.getElem? other] at isThere
    split at isThere
    · cases isThere
      exact turn.orderly
    · exact watchful.orderly other thread isThere
  case lockedBy =>
    intro other thread isThere needs
    rw [turn.getElem? other] at isThere
    split at isThere
    · rename_i same
      cases isThere
      rw [same]
      rcases turn.needsLock needs with taken | ⟨needed, kept⟩
      · exact taken
      · exact kept.trans (watchful.lockedBy number old turn.isThere needed)
    · rename_i different
      have mine := watchful.lockedBy other thread isThere needs
      rcases turn.lockedBy with kept | isFree | needed
      · exact kept.trans mine
      · rw [mine] at isFree
        cases isFree
      · have its := watchful.lockedBy number old turn.isThere needed
        rw [mine] at its
        exact absurd (Option.some.inj its) different
  case awaited =>
    intro other thread isThere watching
    rw [turn.getElem? other] at isThere
    split at isThere
    · cases isThere
      rcases turn.watches watching with raised | watched
      · exact .inl raised
      · exact turn.awaited (watchful.awaited number old turn.isThere watched)
    · exact turn.awaited (watchful.awaited other thread isThere watching)
  case announced =>
    intro available other thread isThere stranded
    rw [turn.getElem? other] at isThere
    split at isThere
    · cases isThere
      rw [turn.isStranded stranded] at available
      cases available
    · rcases turn.isAvailable available with wasAvailable | owing
      · obtain ⟨adder, adding, isAdder, owing⟩ :=
          watchful.announced wasAvailable other thread isThere stranded
        by_cases lowered : before.flagRaised = true
        · have kept : old.owesWakeUp = true → new.owesWakeUp = true := by
            intro pending
            rcases turn.owesWakeUp pending with still | down
            · exact still
            · exact absurd lowered (ne_true_of_eq_false down)
          exact turn.still kept isAdder owing
        · -- The flag is down already, so somebody is going to wake those who are parked.
          rcases watchful.awaited other thread isThere (watches_of_isStranded stranded) with
            raised | ⟨place, waker, isWaker, waking⟩
          · exact absurd raised lowered
          · obtain ⟨place, waker, isWaker, waking⟩ := turn.still turn.wakes isWaker waking
            exact ⟨place, waker, isWaker, owesWakeUp_of_wakes waking⟩
      · exact ⟨number, new, turn.itself, owing⟩

end Turn

/-- The threads after everybody who is parked has been notified. -/
theorem getElem?_wakeAll {rest : List PoolAction}
    (isThere : before.threads[number]? = some (.running (.wakeAll :: rest))) (other : Nat) :
    (({ before with threads := before.threads.map PoolThread.notify }).goOn number rest).threads[other]?
      = if other = number then some (.running rest) else (before.threads[other]?).map PoolThread.notify := by
  obtain ⟨bound, -⟩ := List.getElem?_eq_some_iff.1 isThere
  simp only [goOn, List.getElem?_set, List.length_map, List.getElem?_map]
  by_cases same : number = other
  · rw [if_pos same, if_pos same.symm, if_pos bound]
  · rw [if_neg same, if_neg (Ne.symm same)]

/-- Nobody watches any more once everybody who is parked has been notified: a thread that was about to look at
the members would have the lock, which the caller has. -/
theorem not_watches_wakeAll {rest : List PoolAction}
    (isThere : before.threads[number]? = some (.running (.wakeAll :: rest))) (watchful : before.Watchful)
    {other : Nat} {thread : PoolThread}
    (isOther : (({ before with threads := before.threads.map PoolThread.notify }).goOn number
      rest).threads[other]? = some thread) : thread.watches = false := by
  have orderly : (.wakeAll :: rest : List PoolAction).IsChain Follows :=
    watchful.orderly number _ isThere
  rw [getElem?_wakeAll isThere] at isOther
  split at isOther
  · cases isOther
    cases rest with
    | nil => rfl
    | cons next others =>
        have prepared := (List.isChain_cons_cons.1 orderly).1.prepared
        cases next with
        | lookAgain => cases prepared
        | _ => rfl
  · rename_i different
    obtain ⟨found, isFound, rfl⟩ := Option.map_eq_some_iff.1 isOther
    cases found with
    | parked notified => rfl
    | running actions =>
        apply not_watches_of_not_needsLock
        apply eq_false_of_ne_true
        intro needs
        have mine := watchful.lockedBy other _ isFound needs
        rw [watchful.lockedBy number _ isThere rfl] at mine
        exact different (Option.some.inj mine).symm

theorem Watchful.wakeAll {rest : List PoolAction}
    (isThere : before.threads[number]? = some (.running (.wakeAll :: rest))) (watchful : before.Watchful) :
    (({ before with threads := before.threads.map PoolThread.notify }).goOn number rest).Watchful := by
  have inOrder : (.wakeAll :: rest : List PoolAction).IsChain Follows :=
    watchful.orderly number _ isThere
  constructor
  case orderly =>
    intro other thread isOther
    rw [getElem?_wakeAll isThere] at isOther
    split at isOther
    · cases isOther
      exact inOrder.of_cons
    · obtain ⟨found, isFound, rfl⟩ := Option.map_eq_some_iff.1 isOther
      cases found with
      | parked notified => trivial
      | running actions => exact watchful.orderly other _ isFound
  case lockedBy =>
    intro other thread isOther needs
    rw [getElem?_wakeAll isThere] at isOther
    split at isOther
    · rename_i same
      rw [same]
      exact watchful.lockedBy number _ isThere rfl
    · obtain ⟨found, isFound, rfl⟩ := Option.map_eq_some_iff.1 isOther
      cases found with
      | parked notified => cases needs
      | running actions => exact watchful.lockedBy other _ isFound needs
  case awaited =>
    intro other thread isOther watching
    exact absurd watching (ne_true_of_eq_false (not_watches_wakeAll isThere watchful isOther))
  case announced =>
    intro _ other thread isOther stranded
    exact absurd (watches_of_isStranded stranded)
      (ne_true_of_eq_false (not_watches_wakeAll isThere watchful isOther))

theorem Watchful.orderly_of_mem (watchful : before.Watchful) : ∀ thread ∈ before.threads, thread.Orderly := by
  intro thread isThread
  obtain ⟨number, isThere⟩ := List.mem_iff_getElem?.1 isThread
  exact watchful.orderly number thread isThere

theorem Watchful.move {move : PoolMove} (watchful : before.Watchful)
    (moved : before.move? move = some after) : after.Watchful := by
  rcases turn_of_move watchful.orderly_of_mem moved with
    ⟨number, rest, -, isThere, rfl⟩ | ⟨nanos, -, rfl⟩ | ⟨number, old, new, turn⟩
  · exact watchful.wakeAll isThere
  · exact ⟨watchful.orderly, watchful.lockedBy, watchful.awaited, watchful.announced⟩
  · exact turn.watchful watchful

/-! ### Who owes a wake-up -/

/-- The operation that a thread was asked for last. -/
def lastOperation? (moves : List PoolMove) (number : Nat) : Option PoolOperation :=
  (moves.filterMap fun
    | .begin thread operation => if thread = number then some operation else none
    | _ => none).getLast?

theorem lastOperation?_begin (moves : List PoolMove) (number : Nat) (operation : PoolOperation) :
    lastOperation? (moves ++ [.begin number operation]) number = some operation := by
  simp only [lastOperation?, List.filterMap_append, List.filterMap_cons, if_true, List.filterMap_nil,
    List.getLast?_concat]

theorem lastOperation?_of_other {move : PoolMove} (moves : List PoolMove)
    (notBegun : ∀ operation, move ≠ .begin number operation) :
    lastOperation? (moves ++ [move]) number = lastOperation? moves number := by
  have nothing : ([move].filterMap fun
      | .begin thread operation => if thread = number then some operation else none
      | _ => none) = [] := by
    apply List.filterMap_eq_nil_iff.2
    intro other isOther
    rw [List.mem_singleton.1 isOther]
    cases move with
    | begin thread operation =>
        apply if_neg
        intro same
        exact notBegun operation (congrArg (PoolMove.begin · operation) same)
    | _ => rfl
  simp only [lastOperation?, List.filterMap_append]
  rw [nothing, List.append_nil]

/-- Only a thread that was asked last to enroll a channel has an action left that goes with it. -/
def Enrolling (moves : List PoolMove) (state : PoolThreads) : Prop :=
  ∀ (number : Nat) (thread : PoolThread), state.threads[number]? = some thread → thread.enrolls = true →
    ∃ channel, lastOperation? moves number = some (.enroll channel)

theorem Turn.enrolling {move : PoolMove} (turn : Turn before move after number old new)
    {moves : List PoolMove} (enrolling : Enrolling moves before) :
    Enrolling (moves ++ [move]) after := by
  intro other thread isThere enrolls
  rw [turn.getElem?] at isThere
  split at isThere
  · rename_i same
    cases isThere
    subst same
    rcases turn.enrolls enrolls with ⟨before', notBegun⟩ | ⟨channel, rfl⟩
    · rw [lastOperation?_of_other moves notBegun]
      exact enrolling other old turn.isThere before'
    · exact ⟨channel, lastOperation?_begin moves other _⟩
  · rename_i different
    rw [lastOperation?_of_other moves fun operation isBegun => different (turn.begins other operation isBegun)]
    exact enrolling other thread isThere enrolls

theorem Enrolling.move {move : PoolMove} {moves : List PoolMove} (enrolling : Enrolling moves before)
    (watchful : before.Watchful) (moved : before.move? move = some after) :
    Enrolling (moves ++ [move]) after := by
  rcases turn_of_move watchful.orderly_of_mem moved with
    ⟨number, rest, rfl, isThere, rfl⟩ | ⟨nanos, rfl, rfl⟩ | ⟨number, old, new, turn⟩
  · intro other thread isOther enrolls
    rw [lastOperation?_of_other moves (by simp)]
    rw [getElem?_wakeAll isThere] at isOther
    split at isOther
    · rename_i same
      exact same ▸ enrolling number _ isThere rfl
    · obtain ⟨found, isFound, rfl⟩ := Option.map_eq_some_iff.1 isOther
      cases found with
      | parked notified => cases enrolls
      | running actions => exact enrolling other _ isFound enrolls
  · intro other thread isOther enrolls
    rw [lastOperation?_of_other moves (by simp)]
    exact enrolling other thread isOther enrolls
  · exact turn.enrolling enrolling

/-- What one move preserves a whole run preserves. -/
theorem watchful_of_run {moves : List PoolMove} (watchful : before.Watchful) {made : List PoolMove}
    (enrolling : Enrolling made before) (ran : before.run? moves = some after) :
    after.Watchful ∧ Enrolling (made ++ moves) after := by
  induction moves generalizing before made with
  | nil =>
      cases ran
      exact ⟨watchful, (List.append_nil made).symm ▸ enrolling⟩
  | cons move rest ih =>
      obtain ⟨between, moved, ran⟩ := Option.bind_eq_some_iff.1 ran
      have there := ih (watchful.move moved) (enrolling.move watchful moved) ran
      rw [List.append_assoc] at there
      exact there

/-- No wake-up is lost.  Whatever threads do to a pool that was empty, and in whatever order their actions
come: when the pool has a member and a waiter is parked whom nobody has notified, some thread that was asked
last to enroll a channel has published it, and has yet to lower the flag or to wake everybody who is parked. -/
theorem no_lost_wakeup (pool : Pool) (count : Nat) {moves : List PoolMove} {state : PoolThreads}
    (reached : (fresh pool count).run? moves = some state) (isAvailable : state.pool.isAvailable = true)
    {waiter : Nat} (isParked : state.threads[waiter]? = some (.parked false)) :
    ∃ adder channel actions, state.threads[adder]? = some (.running actions) ∧
      lastOperation? moves adder = some (.enroll channel) ∧
      (PoolAction.lowerFlag ∈ actions ∨ PoolAction.wakeAll ∈ actions) := by
  have begins : Enrolling [] (fresh pool count) := by
    intro number thread isThere enrolls
    rw [List.eq_of_mem_replicate (List.mem_of_getElem? isThere)] at enrolls
    cases enrolls
  obtain ⟨watchful, enrolling⟩ := watchful_of_run (watchful_fresh pool count) begins reached
  obtain ⟨adder, thread, isAdder, owing⟩ := watchful.announced isAvailable waiter _ isParked rfl
  cases thread with
  | parked notified => cases owing
  | running actions =>
      simp only [owesWakeUp, Bool.or_eq_true, List.contains_iff_mem] at owing
      have enrolls : (running actions).enrolls = true := by
        simp only [PoolThread.enrolls, List.any_eq_true]
        rcases owing with lowering | waking
        · exact ⟨_, lowering, rfl⟩
        · exact ⟨_, waking, rfl⟩
      obtain ⟨channel, isLast⟩ := enrolling adder _ isAdder enrolls
      exact ⟨adder, channel, actions, isAdder, isLast, owing⟩

/-- A waiter is parked.  The thread that has enrolled channel 7 has lowered the flag and is about to take the
lock; the thread that has enrolled channel 8 after it found the flag down and is done. -/
theorem adder_owes_parked_waiter :
    let moves : List PoolMove := .begin 0 .waitForMember :: List.replicate 4 (.act 0)
      ++ .begin 1 (.enroll 7) :: List.replicate 5 (.act 1)
      ++ .begin 2 (.enroll 8) :: List.replicate 5 (.act 2)
    let state : PoolThreads := { fresh default 3 with
      pool := { (default : Pool) with
        members := [7, 8]
        lastChangeNanos := Pool.elapsedNanos default 0
        lossDeadlineNanos := Pool.noDeadline }
      hooks := [7, 8]
      populated := true
      threads := [.parked false, .running wakeActions, .running []] }
    (fresh default 3).run? moves = some state ∧ state.pool.isAvailable = true ∧
      state.threads[0]? = some (.parked false) ∧
      ∃ adder channel actions, state.threads[adder]? = some (.running actions) ∧
        lastOperation? moves adder = some (.enroll channel) ∧
        (PoolAction.lowerFlag ∈ actions ∨ PoolAction.wakeAll ∈ actions) := by
  intro moves state
  have reached : (fresh default 3).run? moves = some state := rfl
  have isParked : state.threads[0]? = some (.parked false) := rfl
  exact ⟨reached, rfl, isParked, no_lost_wakeup default 3 reached rfl isParked⟩

end Uplink.PoolThreads
