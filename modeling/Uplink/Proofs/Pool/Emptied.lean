/-
Module: Uplink.Proofs.Pool.Emptied
Purpose: A pool that has lost its last member has a loss deadline as soon as nobody works on it any more, in
  whatever order the actions of several threads came.
Main exports: PoolThread.owesDeadline, PoolThread.Announces, PoolThreads.Dating, PoolThreads.dating_of_act,
  PoolThreads.Dated, PoolThreads.Dated.move, PoolThreads.lossDeadline_eq_none_iff
-/
import Uplink.Proofs.Pool.Chronicle
import Uplink.Proofs.Pool.Wakeup

namespace Uplink

namespace Pool

variable {pool : Pool}

/-- A pool without a member and with a stored deadline reports the deadline; any member takes it back. -/
theorem lossDeadline_eq_none (dated : pool.isAvailable = true ∨ pool.lossDeadlineNanos ≠ noDeadline) :
    pool.lossDeadline = none ↔ pool.isAvailable = true := by
  rw [lossDeadline]
  constructor
  · intro nothing
    by_contra isEmpty
    rw [if_neg (not_or.2 ⟨isEmpty, dated.resolve_left isEmpty⟩)] at nothing
    cases nothing
  · intro available
    exact if_pos (.inl available)

theorem isAvailable_of_mem {channel : Nat} (isMember : channel ∈ pool.members) : pool.isAvailable = true := by
  rw [isAvailable, Bool.not_eq_true', List.isEmpty_eq_false_iff]
  exact List.ne_nil_of_mem isMember

end Pool

/-! ### Who owes the pool a deadline -/

/-- Whether an action gives the pool a member, or leads to a stored deadline. -/
def PoolAction.dates : PoolAction → Bool
  | publish _ => true
  | touchAfterWithdrawal emptied => emptied
  | storeDeadline _ => true
  | _ => false

namespace PoolThread

open PoolAction

/-- Whether a thread is going to give the pool a member or a deadline. -/
def owesDeadline : PoolThread → Bool
  | running actions => actions.any PoolAction.dates
  | parked _ => false

/-- A thread clears the deadline only when it is about to publish a channel. -/
def Announces : PoolThread → Prop
  | running actions =>
      .clearDeadline ∈ actions → ∃ channel, actions = [.clearDeadline, .publish channel]
  | parked _ => True

variable {action : PoolAction} {front rest : List PoolAction} {thread : PoolThread}

theorem owesDeadline_notify (thread : PoolThread) : thread.notify.owesDeadline = thread.owesDeadline := by
  cases thread <;> rfl

theorem announces_notify (announces : thread.Announces) : thread.notify.Announces := by
  cases thread with
  | running actions => exact announces
  | parked notified => trivial

theorem not_owesDeadline_of_isIdle (isIdle : thread.isIdle = true) : thread.owesDeadline = false := by
  cases thread with
  | parked notified => rfl
  | running actions =>
      cases actions with
      | nil => rfl
      | cons action rest => cases isIdle

/-- What a thread owes besides its next action it goes on owing. -/
theorem owesDeadline_of_cons (notDating : action.dates = false)
    (owing : (running (action :: rest)).owesDeadline = true) : (running (front ++ rest)).owesDeadline = true := by
  simp only [owesDeadline, List.any_cons, notDating, Bool.false_or, List.any_append, Bool.or_eq_true] at owing ⊢
  exact .inr owing

/-- Behind its first action a thread clears nothing. -/
theorem announces_append (announces : (running (action :: rest)).Announces) (clear : .clearDeadline ∉ front) :
    (running (front ++ rest)).Announces := by
  intro clears
  have isLeft := (List.mem_append.1 clears).resolve_left clear
  obtain ⟨channel, isEnrolment⟩ := announces (List.mem_cons_of_mem action isLeft)
  obtain ⟨-, isRest⟩ := List.cons.inj isEnrolment
  rw [isRest, List.mem_singleton] at isLeft
  cases isLeft

end PoolThread

namespace PoolThreads

open PoolAction PoolThread

variable {before after : PoolThreads} {number : Nat} {old new : PoolThread}

/-! ### What one thread does to the deadline -/

/-- A move of one thread, as far as the deadline goes.  Afterwards the pool has a member, or the thread owes it
one or a deadline, or the deadline is stored, or the move has not touched any of this. -/
structure Dating (before after : PoolThreads) (number : Nat) (old new : PoolThread) : Prop where
  isThere : before.threads[number]? = some old
  threads : after.threads = before.threads.set number new ∨
    after.threads = (before.threads.map PoolThread.notify).set number new
  announces : new.Announces
  populated : (before.populated = true → after.populated = true) ∧
    (after.pool.isAvailable = true → before.pool.isAvailable = true ∨ after.populated = true)
  dated : (after.pool.isAvailable = true ∨ new.owesDeadline = true ∨
      after.pool.lossDeadlineNanos ≠ Pool.noDeadline) ∨
    (after.populated = before.populated ∧ after.pool.isAvailable = before.pool.isAvailable ∧
      after.pool.lossDeadlineNanos = before.pool.lossDeadlineNanos ∧
      (old.owesDeadline = true → new.owesDeadline = true))

/-- An action that touches neither members nor deadline, with actions that it puts in front of those that are
left. -/
theorem dating_of_aside {action : PoolAction} {rest : List PoolAction} (front : List PoolAction)
    (isThere : before.threads[number]? = some (.running (action :: rest)))
    (announces : (running (action :: rest)).Announces)
    (threads : after.threads = before.threads.set number (.running (front ++ rest)) ∨
      after.threads = (before.threads.map PoolThread.notify).set number (.running (front ++ rest)))
    (clear : .clearDeadline ∉ front) (notDating : action.dates = false)
    (populated : after.populated = before.populated)
    (isAvailable : after.pool.isAvailable = before.pool.isAvailable)
    (deadline : after.pool.lossDeadlineNanos = before.pool.lossDeadlineNanos) :
    Dating before after number (.running (action :: rest)) (.running (front ++ rest)) := by
  constructor
  case isThere => exact isThere
  case threads => exact threads
  case announces => exact announces_append announces clear
  case populated => exact ⟨populated.trans, fun available => .inl (isAvailable ▸ available)⟩
  case dated => exact .inr ⟨populated, isAvailable, deadline, owesDeadline_of_cons notDating⟩

/-- An action after which the pool has a member, or the thread owes it one or a deadline, or the deadline is
stored. -/
theorem dating_of_settled {action : PoolAction} {rest : List PoolAction} (front : List PoolAction)
    (isThere : before.threads[number]? = some (.running (action :: rest)))
    (announces : (running (action :: rest)).Announces)
    (threads : after.threads = before.threads.set number (.running (front ++ rest)))
    (clear : .clearDeadline ∉ front)
    (populated : (before.populated = true → after.populated = true) ∧
      (after.pool.isAvailable = true → before.pool.isAvailable = true ∨ after.populated = true))
    (dated : after.pool.isAvailable = true ∨ (running (front ++ rest)).owesDeadline = true ∨
      after.pool.lossDeadlineNanos ≠ Pool.noDeadline) :
    Dating before after number (.running (action :: rest)) (.running (front ++ rest)) :=
  ⟨isThere, .inl threads, announces_append announces clear, populated, .inl dated⟩

/-- A thread that owes nothing turns to something else. -/
theorem dating_of_errand (isThere : before.threads[number]? = some old)
    (threads : after.threads = before.threads.set number new) (announces : new.Announces)
    (free : old.owesDeadline = false) (pool : after.pool = before.pool)
    (populated : after.populated = before.populated) : Dating before after number old new := by
  constructor
  case isThere => exact isThere
  case threads => exact .inl threads
  case announces => exact announces
  case populated => exact ⟨populated.trans, fun available => .inl (pool ▸ available)⟩
  case dated =>
    exact .inr ⟨populated, by rw [pool], by rw [pool], fun owing => absurd owing (ne_true_of_eq_false free)⟩

/-- Only a member that was there can leave. -/
theorem isAvailable_of_filter {pool : Pool} {channel : Nat}
    (available : ({ pool with members := pool.members.filter (· ≠ channel) } : Pool).isAvailable = true) :
    pool.isAvailable = true := by
  rw [Pool.isAvailable, Bool.not_eq_true', List.isEmpty_eq_false_iff] at available ⊢
  intro isEmpty
  exact available (by rw [isEmpty]; rfl)

theorem dating_of_withdraw {channel : Nat} {rest : List PoolAction}
    (isThere : before.threads[number]? = some (.running (.withdraw channel :: rest)))
    (announces : (running (.withdraw channel :: rest)).Announces)
    (acted : before.act number rest (.withdraw channel) = some after) :
    ∃ new, Dating before after number (.running (.withdraw channel :: rest)) new := by
  simp only [act] at acted
  split at acted
  · cases acted
    refine ⟨_, dating_of_settled [.touchAfterWithdrawal _] isThere announces rfl (by simp) ?_ ?_⟩
    · exact ⟨id, fun available => .inl (isAvailable_of_filter available)⟩
    · -- Whoever takes the last member off has the deadline to store.
      cases emptied : (before.pool.members.filter (· ≠ channel)).isEmpty with
      | true => exact .inr (.inl rfl)
      | false => exact .inl (by simp only [goOn, Pool.isAvailable, emptied, Bool.not_false])
  · cases acted
    exact ⟨_, dating_of_aside [] isThere announces (.inl rfl) List.not_mem_nil rfl rfl rfl rfl⟩

theorem dating_of_publish {channel : Nat} {rest : List PoolAction}
    (isThere : before.threads[number]? = some (.running (.publish channel :: rest)))
    (announces : (running (.publish channel :: rest)).Announces)
    (acted : before.act number rest (.publish channel) = some after) :
    ∃ new, Dating before after number (.running (.publish channel :: rest)) new := by
  simp only [act] at acted
  split at acted
  · rename_i isMember
    cases acted
    exact ⟨_, dating_of_settled [] isThere announces rfl List.not_mem_nil ⟨id, .inl⟩
      (.inl (Pool.isAvailable_of_mem isMember))⟩
  · cases acted
    refine ⟨_, dating_of_settled (publishedActions channel) isThere announces rfl (by simp [publishedActions])
      ⟨fun _ => rfl, fun _ => .inr rfl⟩ (.inl ?_)⟩
    exact Pool.isAvailable_of_mem (List.mem_append_right _ List.mem_cons_self)

/-- What a thread does to the deadline by its next action. -/
theorem dating_of_act {action : PoolAction} {rest : List PoolAction}
    (isThere : before.threads[number]? = some (.running (action :: rest)))
    (orderly : (action :: rest).IsChain Follows) (announces : (running (action :: rest)).Announces)
    (acted : before.act number rest action = some after) :
    ∃ new, Dating before after number (.running (action :: rest)) new := by
  have aside : ∀ front : List PoolAction, .clearDeadline ∉ front → action.dates = false →
      after.threads = before.threads.set number (.running (front ++ rest)) →
      after.populated = before.populated → after.pool.isAvailable = before.pool.isAvailable →
      after.pool.lossDeadlineNanos = before.pool.lossDeadlineNanos →
      ∃ new, Dating before after number (.running (action :: rest)) new :=
    fun front clear notDating threads populated isAvailable deadline =>
      ⟨_, dating_of_aside front isThere announces (.inl threads) clear notDating populated isAvailable deadline⟩
  cases action with
  | publish channel => exact dating_of_publish isThere announces acted
  | withdraw channel => exact dating_of_withdraw isThere announces acted
  | clearDeadline =>
      -- The deadline is gone, but the thread is about to see to it that there is a member.
      obtain ⟨channel, isEnrolment⟩ := announces List.mem_cons_self
      obtain ⟨-, isRest⟩ := List.cons.inj isEnrolment
      cases acted
      refine ⟨_, dating_of_settled [] isThere announces rfl List.not_mem_nil ⟨id, .inl⟩ (.inr (.inl ?_))⟩
      rw [isRest]
      rfl
  | touchAfterWithdrawal emptied =>
      cases acted
      cases emptied with
      | true =>
          exact ⟨_, dating_of_settled [.storeDeadline _] isThere announces rfl (by simp) ⟨id, .inl⟩
            (.inr (.inl rfl))⟩
      | false => exact aside [] List.not_mem_nil rfl rfl rfl rfl rfl
  | storeDeadline time =>
      obtain ⟨deadline, stored, rfl⟩ : ∃ deadline, deadline ≠ Pool.noDeadline ∧ after
          = ({ before with pool := { before.pool with lossDeadlineNanos := deadline } }).goOn number rest :=
        ⟨_, before.pool.deadlineAfter_ne_noDeadline time, (Option.some.inj acted).symm⟩
      exact ⟨_, dating_of_settled [] isThere announces rfl List.not_mem_nil ⟨id, .inl⟩ (.inr (.inr stored))⟩
  | touch =>
      cases acted
      exact aside [] List.not_mem_nil rfl rfl rfl rfl rfl
  | registerHook channel =>
      simp only [act] at acted
      split at acted
      · cases acted
        exact aside [.withdraw channel] (by simp) rfl rfl rfl rfl rfl
      · cases acted
        exact aside [] List.not_mem_nil rfl rfl rfl rfl rfl
  | completeClosing channel =>
      simp only [act] at acted
      split at acted
      · cases acted
        exact aside [] List.not_mem_nil rfl rfl rfl rfl rfl
      · cases acted
        exact aside _ (by simp) rfl rfl rfl rfl rfl
  | lowerFlag =>
      cases raised : before.flagRaised with
      | false =>
          simp only [act, raised] at acted
          cases acted
          exact aside [] List.not_mem_nil rfl rfl rfl rfl rfl
      | true =>
          simp only [act, raised] at acted
          cases acted
          exact aside wakeActions (by simp [wakeActions]) rfl rfl rfl rfl rfl
  | takeLock =>
      simp only [act] at acted
      split at acted
      · cases acted
      · cases acted
        exact aside [] List.not_mem_nil rfl rfl rfl rfl rfl
  | wakeAll =>
      cases acted
      exact ⟨_, dating_of_aside [] isThere announces (.inr rfl) List.not_mem_nil rfl rfl rfl rfl⟩
  | releaseLock =>
      cases acted
      exact aside [] List.not_mem_nil rfl rfl rfl rfl rfl
  | raiseFlag =>
      cases acted
      exact aside [] List.not_mem_nil rfl rfl rfl rfl rfl
  | lookFirst =>
      cases isAvailable : before.pool.isAvailable with
      | true =>
          simp only [act, isAvailable] at acted
          cases acted
          exact aside [] List.not_mem_nil rfl rfl rfl rfl rfl
      | false =>
          simp only [act, isAvailable] at acted
          cases acted
          exact aside (.takeLock :: waitActions) (by simp [waitActions]) rfl rfl rfl rfl rfl
  | lookAgain =>
      obtain rfl := nothing_of_looks orderly rfl
      simp only [act] at acted
      split at acted
      · cases acted
        exact aside [.releaseLock] (by simp) rfl rfl rfl rfl rfl
      · cases acted
        exact ⟨.parked false, dating_of_errand isThere rfl trivial rfl rfl rfl⟩

/-- What a move does to the deadline: nothing but time passes, or one thread has its turn. -/
theorem dating_of_move {move : PoolMove} (orderly : ∀ thread ∈ before.threads, thread.Orderly)
    (announces : ∀ thread ∈ before.threads, thread.Announces) (moved : before.move? move = some after) :
    (∃ nanos, after = { before with now := before.now + nanos }) ∨
      ∃ number old new, Dating before after number old new := by
  cases move with
  | advance nanos =>
      cases moved
      exact .inl ⟨nanos, rfl⟩
  | begin number operation =>
      simp only [move?] at moved
      split at moved
      · rename_i isThere
        cases moved
        refine .inr ⟨number, _, _, dating_of_errand isThere rfl ?_ rfl rfl rfl⟩
        cases operation with
        | enroll channel => exact fun _ => ⟨channel, rfl⟩
        | _ => simp [Announces, PoolOperation.actions]
      · cases moved
  | act number =>
      simp only [move?] at moved
      split at moved
      · rename_i action rest isThere
        have isThread := List.mem_of_getElem? isThere
        have inOrder : (action :: rest).IsChain Follows := orderly _ isThread
        obtain ⟨new, dating⟩ := dating_of_act isThere inOrder (announces _ isThread) moved
        exact .inr ⟨number, _, new, dating⟩
      · cases moved
  | wake number =>
      simp only [move?] at moved
      split at moved
      · rename_i isThere
        cases moved
        refine .inr ⟨number, _, _, dating_of_errand isThere rfl ?_ rfl rfl rfl⟩
        simp [Announces, waitActions]
      · cases moved
  | giveUp number =>
      simp only [move?] at moved
      split at moved
      · rename_i isThere
        cases moved
        refine .inr ⟨number, _, _, dating_of_errand isThere rfl ?_ rfl rfl rfl⟩
        simp [Announces]
      · cases moved

namespace Dating

/-- A thread after a move is the one that had its turn, or was there before it, perhaps not notified yet. -/
theorem mem_cases (dating : Dating before after number old new) {thread : PoolThread}
    (isThread : thread ∈ after.threads) :
    thread = new ∨ ∃ other ∈ before.threads, thread = other ∨ thread = other.notify := by
  rcases dating.threads with same | notified
  · rw [same] at isThread
    rcases List.mem_or_eq_of_mem_set isThread with isOld | isNew
    · exact .inr ⟨thread, isOld, .inl rfl⟩
    · exact .inl isNew
  · rw [notified] at isThread
    rcases List.mem_or_eq_of_mem_set isThread with isOld | isNew
    · obtain ⟨other, isOther, same⟩ := List.mem_map.1 isOld
      exact .inr ⟨other, isOther, .inr same.symm⟩
    · exact .inl isNew

/-- The thread that had its turn is among the threads. -/
theorem itself (dating : Dating before after number old new) : new ∈ after.threads := by
  obtain ⟨bound, -⟩ := List.getElem?_eq_some_iff.1 dating.isThere
  rcases dating.threads with same | notified
  · rw [same]
    exact List.mem_set bound new
  · rw [notified]
    exact List.mem_set (by rwa [List.length_map]) new

/-- Whoever owed the pool something still does, be it the thread that had its turn or another one. -/
theorem still (dating : Dating before after number old new)
    (kept : old.owesDeadline = true → new.owesDeadline = true) {thread : PoolThread}
    (isThread : thread ∈ before.threads) (owing : thread.owesDeadline = true) :
    ∃ found ∈ after.threads, found.owesDeadline = true := by
  obtain ⟨place, isThere⟩ := List.mem_iff_getElem?.1 isThread
  by_cases same : number = place
  · rw [← same, dating.isThere] at isThere
    rw [← Option.some.inj isThere] at owing
    exact ⟨new, dating.itself, kept owing⟩
  · rcases dating.threads with others | notified
    · refine ⟨thread, List.mem_of_getElem? (i := place) ?_, owing⟩
      rw [others, List.getElem?_set_ne same, isThere]
    · refine ⟨thread.notify, List.mem_of_getElem? (i := place) ?_, ?_⟩
      · rw [notified, List.getElem?_set_ne same, List.getElem?_map, isThere]
        rfl
      · rw [owesDeadline_notify]
        exact owing

end Dating

/-! ### Every emptied pool gets a deadline -/

/-- Whoever clears the deadline is about to publish a channel, and a pool that ever had a member has one, or a
stored deadline, or some thread owes it one of them. -/
structure Dated (state : PoolThreads) : Prop where
  announces : ∀ thread ∈ state.threads, thread.Announces
  populated : state.pool.isAvailable = true → state.populated = true
  dated : state.populated = true →
    state.pool.isAvailable = true ∨ state.pool.lossDeadlineNanos ≠ Pool.noDeadline ∨
      ∃ thread ∈ state.threads, thread.owesDeadline = true

theorem dated_fresh (pool : Pool) (count : Nat) : (fresh pool count).Dated := by
  constructor
  case announces =>
    intro thread isThread
    rw [List.eq_of_mem_replicate isThread]
    exact fun clears => absurd clears List.not_mem_nil
  case populated => exact nofun
  case dated => exact nofun

theorem Dating.dated_after (dating : Dating before after number old new) (dated : before.Dated) :
    after.Dated := by
  constructor
  case announces =>
    intro thread isThread
    rcases dating.mem_cases isThread with rfl | ⟨other, isOther, rfl | rfl⟩
    · exact dating.announces
    · exact dated.announces thread isOther
    · exact announces_notify (dated.announces other isOther)
  case populated =>
    intro available
    rcases dating.populated.2 available with wasAvailable | populated
    · exact dating.populated.1 (dated.populated wasAvailable)
    · exact populated
  case dated =>
    intro populated
    rcases dating.dated with (available | owing | stored) | ⟨samePopulated, sameMembers, sameDeadline, kept⟩
    · exact .inl available
    · exact .inr (.inr ⟨new, dating.itself, owing⟩)
    · exact .inr (.inl stored)
    · rw [sameMembers, sameDeadline]
      rw [samePopulated] at populated
      rcases dated.dated populated with available | stored | ⟨thread, isThread, owing⟩
      · exact .inl available
      · exact .inr (.inl stored)
      · exact .inr (.inr (dating.still kept isThread owing))

theorem Dated.move {move : PoolMove} (dated : before.Dated) (watchful : before.Watchful)
    (moved : before.move? move = some after) :
    after.Dated ∧ (before.populated = true → after.populated = true) := by
  rcases dating_of_move watchful.orderly_of_mem dated.announces moved with
    ⟨nanos, rfl⟩ | ⟨number, old, new, dating⟩
  · exact ⟨⟨dated.announces, dated.populated, dated.dated⟩, id⟩
  · exact ⟨dating.dated_after dated, dating.populated.1⟩

/-- What one move preserves a whole run preserves. -/
theorem Dated.run {moves : List PoolMove} (dated : before.Dated) (watchful : before.Watchful)
    (ran : before.run? moves = some after) :
    after.Dated ∧ after.Watchful ∧ (before.populated = true → after.populated = true) := by
  induction moves generalizing before with
  | nil =>
      cases ran
      exact ⟨dated, watchful, id⟩
  | cons move rest ih =>
      obtain ⟨between, moved, ran⟩ := Option.bind_eq_some_iff.1 ran
      obtain ⟨datedThere, stays⟩ := dated.move watchful moved
      obtain ⟨datedThen, watchfulThen, staysThen⟩ := ih datedThere (watchful.move moved) ran
      exact ⟨datedThen, watchfulThen, fun populated => staysThen (stays populated)⟩

/-- An emptied pool always reports a loss deadline.  Whatever threads do to a pool that was empty, and in
whatever order their actions come: when the pool has had a member at some time, and nobody works on it any
more, it reports no deadline exactly if it has a member. -/
theorem lossDeadline_eq_none_iff (pool : Pool) (count : Nat) {earlier later : List PoolMove}
    {between state : PoolThreads} (began : (fresh pool count).run? earlier = some between)
    (admitted : between.pool.isAvailable = true) (reached : between.run? later = some state)
    (isQuiet : state.isQuiet = true) :
    state.pool.lossDeadline = none ↔ state.pool.isAvailable = true := by
  obtain ⟨datedThere, watchfulThere, -⟩ := (dated_fresh pool count).run (watchful_fresh pool count) began
  obtain ⟨dated, -, stays⟩ := datedThere.run watchfulThere reached
  apply Pool.lossDeadline_eq_none
  rcases dated.dated (stays (datedThere.populated admitted)) with available | stored | ⟨thread, isThread, owing⟩
  · exact .inl available
  · exact .inr stored
  · have isIdle := List.all_eq_true.1 isQuiet thread isThread
    rw [not_owesDeadline_of_isIdle isIdle] at owing
    cases owing

/-- Channel 7 is enrolled twice at once.  The second enrolment has yet to clear the deadline when the channel is
published; it clears it and finds the channel there.  Then the channel closes, which takes it off the pool and
stores a deadline, while the first enrolment has yet to lower the flag. -/
theorem lossDeadline_after_hasty_enrolments :
    let earlier : List PoolMove := [.begin 0 (.enroll 7), .begin 1 (.enroll 7), .act 0, .act 0]
    let later : List PoolMove := [.act 1, .act 1, .act 0, .act 0, .begin 1 (.close 7)]
      ++ List.replicate 4 (.act 1) ++ [.act 0]
    ∃ between state, (fresh default 2).run? earlier = some between ∧ between.pool.members = [7] ∧
      between.run? later = some state ∧ state.isQuiet = true ∧ state.pool.members = [] ∧
      state.pool.lossDeadline ≠ none := by
  intro earlier later
  refine ⟨_, _, rfl, rfl, rfl, rfl, rfl, ?_⟩
  intro nothing
  have began : (fresh default 2).run? earlier = some _ := rfl
  have asks := lossDeadline_eq_none_iff default 2 began rfl (show PoolThreads.run? _ later = some _ from rfl) rfl
  exact absurd (asks.1 nothing) Bool.false_ne_true

end PoolThreads

end Uplink
