/-
Module: Uplink.Proofs.Pool.Turn
Purpose: What one move of several threads at a pool can do to the flag, to the lock, and to who waits for whom.
Main exports: PoolAction.Follows, PoolThread.Orderly, PoolThreads.Turn, PoolThreads.turn_of_act,
  PoolThreads.turn_of_move
-/
import Mathlib.Data.List.Chain
import Uplink.Pool.Interleaving

namespace Uplink

/-! ### The order of actions -/

namespace PoolAction

/-- Whether an action is only for the thread that has the lock. -/
def needsLock : PoolAction → Bool
  | wakeAll => true
  | releaseLock => true
  | raiseFlag => true
  | lookAgain => true
  | _ => false

/-- Whether only the enrolment of a channel has such an action. -/
def enrolls : PoolAction → Bool
  | publish _ => true
  | lowerFlag => true
  | wakeAll => true
  | _ => false

/-- Whether an action looks at the members for a waiter.  Nothing is left behind it. -/
def looks : PoolAction → Bool
  | lookFirst => true
  | lookAgain => true
  | _ => false

/-- Whether an action only works on members, times and hooks. -/
def isPlain : PoolAction → Bool
  | clearDeadline => true
  | touch => true
  | registerHook _ => true
  | withdraw _ => true
  | touchAfterWithdrawal _ => true
  | storeDeadline _ => true
  | completeClosing _ => true
  | _ => false

/-- What has to come before an action that needs the lock: taking it, or what was done with it. -/
def Prepares (first : PoolAction) : PoolAction → Prop
  | wakeAll => first = takeLock
  | releaseLock => first = takeLock ∨ first = wakeAll
  | raiseFlag => first = takeLock
  | lookAgain => first = raiseFlag
  | _ => True

/-- Which action may come next. -/
structure Follows (first next : PoolAction) : Prop where
  goesOn : first.looks = false
  prepared : Prepares first next

variable {action first next : PoolAction}

theorem prepares_of_not_needsLock (first : PoolAction) (apart : next.needsLock = false) :
    Prepares first next := by
  cases next with
  | wakeAll => cases apart
  | releaseLock => cases apart
  | raiseFlag => cases apart
  | lookAgain => cases apart
  | _ => trivial

/-- Whoever has not just taken the lock, raised the flag or woken the others does not need the lock next. -/
theorem Follows.apart (follows : Follows first next) (notTaking : first ≠ takeLock)
    (notRaising : first ≠ raiseFlag) (notWaking : first ≠ wakeAll) : next.needsLock = false := by
  cases next with
  | wakeAll => exact absurd follows.prepared notTaking
  | releaseLock =>
      rcases follows.prepared with taking | waking
      · exact absurd taking notTaking
      · exact absurd waking notWaking
  | raiseFlag => exact absurd follows.prepared notTaking
  | lookAgain => exact absurd follows.prepared notRaising
  | _ => rfl

theorem not_needsLock_of_isPlain : action.isPlain = true → action.needsLock = false := by
  cases action <;> simp [isPlain, needsLock]

theorem not_enrolls_of_isPlain : action.isPlain = true → action.enrolls = false := by
  cases action <;> simp [isPlain, enrolls]

theorem not_looks_of_isPlain : action.isPlain = true → action.looks = false := by
  cases action <;> simp [isPlain, looks]

end PoolAction

open PoolAction

namespace PoolThread

/-- Whether the next action of a thread needs the lock. -/
def needsLock : PoolThread → Bool
  | running (action :: _) => action.needsLock
  | _ => false

/-- Whether a thread is parked and not notified, or is about to look at the members for the last time. -/
def watches : PoolThread → Bool
  | parked notified => !notified
  | running (.lookAgain :: _) => true
  | _ => false

/-- Whether a thread is going to wake everybody who is parked. -/
def wakes : PoolThread → Bool
  | running actions => actions.contains .wakeAll
  | parked _ => false

/-- Whether a thread has an action left that only the enrolment of a channel has. -/
def enrolls : PoolThread → Bool
  | running actions => actions.any PoolAction.enrolls
  | parked _ => false

/-- The actions of a thread come in their order. -/
def Orderly : PoolThread → Prop
  | running actions => actions.IsChain Follows
  | parked _ => True

theorem watches_of_isStranded {thread : PoolThread} (stranded : thread.isStranded = true) :
    thread.watches = true := by
  cases thread with
  | running actions => cases stranded
  | parked notified => exact stranded

theorem owesWakeUp_of_wakes {thread : PoolThread} (pending : thread.wakes = true) :
    thread.owesWakeUp = true := by
  cases thread with
  | running actions => exact Bool.or_eq_true_iff.2 (.inr pending)
  | parked notified => cases pending

variable {action : PoolAction} {front rest : List PoolAction}

theorem wakes_append (pending : (running rest).wakes = true) : (running (front ++ rest)).wakes = true := by
  simp only [wakes, List.contains_iff_mem] at pending ⊢
  exact List.mem_append_right front pending

theorem wakes_of_cons (different : action ≠ .wakeAll) (pending : (running (action :: rest)).wakes = true) :
    (running rest).wakes = true := by
  simp only [wakes, List.contains_iff_mem] at pending ⊢
  exact (List.mem_cons.1 pending).resolve_left (Ne.symm different)

theorem owesWakeUp_append (pending : (running rest).owesWakeUp = true) :
    (running (front ++ rest)).owesWakeUp = true := by
  simp only [owesWakeUp, Bool.or_eq_true, List.contains_iff_mem] at pending ⊢
  exact pending.imp (List.mem_append_right front) (List.mem_append_right front)

theorem owesWakeUp_of_cons (notLowering : action ≠ .lowerFlag) (notWaking : action ≠ .wakeAll)
    (pending : (running (action :: rest)).owesWakeUp = true) : (running rest).owesWakeUp = true := by
  simp only [owesWakeUp, Bool.or_eq_true, List.contains_iff_mem, List.mem_cons] at pending ⊢
  exact pending.imp (·.resolve_left (Ne.symm notLowering)) (·.resolve_left (Ne.symm notWaking))

theorem not_watches_of_not_needsLock {actions : List PoolAction}
    (apart : (running actions).needsLock = false) : (running actions).watches = false := by
  cases actions with
  | nil => rfl
  | cons action rest =>
      cases action with
      | lookAgain => cases apart
      | _ => rfl

/-- Plain actions may stand in front of any actions that do not begin with one that needs the lock. -/
theorem orderly_append (plain : ∀ action ∈ front, action.isPlain = true) (left : rest.IsChain Follows)
    (apart : (running rest).needsLock = false) : (running (front ++ rest)).Orderly := by
  induction front with
  | nil => exact left
  | cons first others ih =>
      apply List.isChain_cons.2
      refine ⟨?_, ih fun action isOther => plain action (List.mem_cons_of_mem first isOther)⟩
      intro next isNext
      refine ⟨not_looks_of_isPlain (plain first List.mem_cons_self), prepares_of_not_needsLock first ?_⟩
      cases others with
      | cons second more =>
          cases isNext
          exact not_needsLock_of_isPlain (plain _ (List.mem_cons_of_mem first List.mem_cons_self))
      | nil =>
          cases rest with
          | nil => cases isNext
          | cons action more =>
              cases isNext
              exact apart

theorem not_needsLock_append (plain : ∀ action ∈ front, action.isPlain = true)
    (apart : (running rest).needsLock = false) : (running (front ++ rest)).needsLock = false := by
  cases front with
  | nil => exact apart
  | cons first others => exact not_needsLock_of_isPlain (plain first List.mem_cons_self)

theorem enrolls_of_append (plain : ∀ action ∈ front, action.isPlain = true)
    (enrolls : (running (front ++ rest)).enrolls = true) : (running (action :: rest)).enrolls = true := by
  simp only [PoolThread.enrolls, List.any_eq_true] at enrolls ⊢
  obtain ⟨other, isOther, enrolls⟩ := enrolls
  rcases List.mem_append.1 isOther with inFront | left
  · rw [not_enrolls_of_isPlain (plain other inFront)] at enrolls
    cases enrolls
  · exact ⟨other, List.mem_cons_of_mem action left, enrolls⟩

end PoolThread

namespace PoolThreads

open PoolThread

variable {before after : PoolThreads} {number : Nat} {old new : PoolThread}

/-! ### What one thread does -/

/-- A move that concerns one thread alone, as far as wake-ups go.  The lock changes hands only if it is free or
the thread has it; the flag goes down only if the thread is going to wake the others; and the pool gets its
first member only if the thread owes a wake-up for it.  What the thread owes it goes on owing, unless it finds
the flag down. -/
structure Turn (before : PoolThreads) (move : PoolMove) (after : PoolThreads) (number : Nat)
    (old new : PoolThread) : Prop where
  isThere : before.threads[number]? = some old
  threads : after.threads = before.threads.set number new
  orderly : new.Orderly
  needsLock : new.needsLock = true →
    after.lockedBy = some number ∨ old.needsLock = true ∧ after.lockedBy = before.lockedBy
  lockedBy : after.lockedBy = before.lockedBy ∨ before.lockedBy = none ∨ old.needsLock = true
  flagRaised : before.flagRaised = true → after.flagRaised = true ∨ new.wakes = true
  watches : new.watches = true → after.flagRaised = true ∨ old.watches = true
  isStranded : new.isStranded = true → after.pool.isAvailable = false
  wakes : old.wakes = true → new.wakes = true
  owesWakeUp : old.owesWakeUp = true → new.owesWakeUp = true ∨ before.flagRaised = false
  isAvailable : after.pool.isAvailable = true →
    before.pool.isAvailable = true ∨ new.owesWakeUp = true
  enrolls : new.enrolls = true →
    (old.enrolls = true ∧ ∀ operation, move ≠ .begin number operation) ∨
      ∃ channel, move = .begin number (.enroll channel)
  begins : ∀ other operation, move = .begin other operation → other = number

/-- The next action needs the lock only where the order lets it. -/
theorem apart_of_orderly {action : PoolAction} {rest : List PoolAction}
    (orderly : (action :: rest).IsChain Follows) (notTaking : action ≠ .takeLock)
    (notRaising : action ≠ .raiseFlag) (notWaking : action ≠ .wakeAll) :
    (running rest).needsLock = false := by
  cases rest with
  | nil => rfl
  | cons next others => exact (List.isChain_cons_cons.1 orderly).1.apart notTaking notRaising notWaking

/-- Nothing is left behind a look at the members. -/
theorem nothing_of_looks {action : PoolAction} {rest : List PoolAction}
    (orderly : (action :: rest).IsChain Follows) (looks : action.looks = true) : rest = [] := by
  cases rest with
  | nil => rfl
  | cons next others =>
      have goesOn := (List.isChain_cons_cons.1 orderly).1.goesOn
      rw [looks] at goesOn
      cases goesOn

/-- An action that touches neither the flag nor the lock, with plain actions that it puts in front of those that
are left. -/
theorem turn_of_plain {action : PoolAction} {rest : List PoolAction} (front : List PoolAction)
    (isThere : before.threads[number]? = some (.running (action :: rest)))
    (orderly : (action :: rest).IsChain Follows)
    (threads : after.threads = before.threads.set number (.running (front ++ rest)))
    (plain : ∀ other ∈ front, other.isPlain = true) (apart : action.needsLock = false)
    (notTaking : action ≠ .takeLock) (notLowering : action ≠ .lowerFlag)
    (flagRaised : after.flagRaised = before.flagRaised) (lockedBy : after.lockedBy = before.lockedBy)
    (isAvailable : after.pool.isAvailable = true → before.pool.isAvailable = true) :
    Turn before (.act number) after number (.running (action :: rest)) (.running (front ++ rest)) := by
  have notRaising : action ≠ .raiseFlag := by
    rintro rfl
    cases apart
  have notWaking : action ≠ .wakeAll := by
    rintro rfl
    cases apart
  have left := apart_of_orderly orderly notTaking notRaising notWaking
  have ahead := not_needsLock_append plain left
  constructor
  case isThere => exact isThere
  case threads => exact threads
  case orderly => exact orderly_append plain orderly.of_cons left
  case needsLock => exact fun needs => absurd needs (ne_true_of_eq_false ahead)
  case lockedBy => exact .inl lockedBy
  case flagRaised => exact fun raised => .inl (flagRaised.trans raised)
  case watches =>
    exact fun watching => absurd watching (ne_true_of_eq_false (not_watches_of_not_needsLock ahead))
  case isStranded => exact fun stranded => nomatch stranded
  case wakes => exact fun pending => wakes_append (wakes_of_cons notWaking pending)
  case owesWakeUp =>
    exact fun pending => .inl (owesWakeUp_append (owesWakeUp_of_cons notLowering notWaking pending))
  case isAvailable => exact fun available => .inl (isAvailable available)
  case enrolls => exact fun enrolls => .inl ⟨enrolls_of_append plain enrolls, nofun⟩
  case begins => exact nofun

theorem turn_of_publish {channel : Nat} {rest : List PoolAction}
    (isThere : before.threads[number]? = some (.running (.publish channel :: rest)))
    (orderly : (.publish channel :: rest : List PoolAction).IsChain Follows) (pool : Pool) :
    Turn before (.act number)
      (({ before with pool, populated := true }).goOn number (publishedActions channel ++ rest)) number
      (.running (.publish channel :: rest)) (.running (publishedActions channel ++ rest)) := by
  have left := apart_of_orderly orderly nofun nofun nofun
  have owing : (running (publishedActions channel ++ rest)).owesWakeUp = true := rfl
  constructor
  case isThere => exact isThere
  case threads => rfl
  case orderly =>
    have lowering : (running (.lowerFlag :: rest)).Orderly := by
      cases rest with
      | nil => exact List.isChain_singleton _
      | cons next others =>
          exact List.isChain_cons_cons.2 ⟨⟨rfl, prepares_of_not_needsLock _ left⟩, orderly.of_cons⟩
    have noted : (running ([.touch, .registerHook channel] ++ .lowerFlag :: rest)).Orderly :=
      orderly_append (by simp [isPlain]) lowering rfl
    exact noted
  case needsLock => exact nofun
  case lockedBy => exact .inl rfl
  case flagRaised => exact fun raised => .inl raised
  case watches => exact nofun
  case isStranded => exact nofun
  case wakes =>
    intro pending
    have still : (running rest).wakes = true := wakes_of_cons (by simp) pending
    exact wakes_append still
  case owesWakeUp => exact fun _ => .inl owing
  case isAvailable => exact fun _ => .inr owing
  case enrolls => exact fun _ => .inl ⟨rfl, nofun⟩
  case begins => exact nofun

/-- Whoever finds the flag up when he lowers it is going to wake the others. -/
theorem turn_of_lowerFlag {rest : List PoolAction}
    (isThere : before.threads[number]? = some (.running (.lowerFlag :: rest)))
    (orderly : (.lowerFlag :: rest : List PoolAction).IsChain Follows) :
    let actions := if before.flagRaised then wakeActions ++ rest else rest
    Turn before (.act number) (({ before with flagRaised := false }).goOn number actions) number
      (.running (.lowerFlag :: rest)) (.running actions) := by
  have left := apart_of_orderly orderly nofun nofun nofun
  intro actions
  have ahead : (running actions).needsLock = false := by
    simp only [actions]
    split
    · rfl
    · exact left
  constructor
  case isThere => exact isThere
  case threads => rfl
  case orderly =>
    simp only [actions]
    split
    · have releasing : (.releaseLock :: rest : List PoolAction).IsChain Follows := by
        cases rest with
        | nil => exact List.isChain_singleton _
        | cons next others =>
            exact List.isChain_cons_cons.2 ⟨⟨rfl, prepares_of_not_needsLock _ left⟩, orderly.of_cons⟩
      exact .cons_cons ⟨rfl, rfl⟩ (.cons_cons ⟨rfl, .inr rfl⟩ releasing)
    · exact orderly.of_cons
  case needsLock => exact fun needs => absurd needs (ne_true_of_eq_false ahead)
  case lockedBy => exact .inl rfl
  case flagRaised =>
    intro raised
    simp only [actions, raised, if_true]
    exact .inr rfl
  case watches =>
    exact fun watching => absurd watching (ne_true_of_eq_false (not_watches_of_not_needsLock ahead))
  case isStranded => exact nofun
  case wakes =>
    intro pending
    have still : (running rest).wakes = true := wakes_of_cons (by simp) pending
    simp only [actions]
    split
    · exact wakes_append still
    · exact still
  case owesWakeUp =>
    intro _
    cases raised : before.flagRaised with
    | false => exact .inr rfl
    | true =>
        have waking : (running (wakeActions ++ rest)).wakes = true := rfl
        simp only [actions, raised, if_true]
        exact .inl (owesWakeUp_of_wakes waking)
  case isAvailable => exact fun available => .inl available
  case enrolls => exact fun _ => .inl ⟨rfl, nofun⟩
  case begins => exact nofun

/-- What a thread does with the lock, its own wake-up call apart: the flag, the lock and the thread change, and
the actions that are left follow, or the thread is parked because the pool is empty. -/
theorem turn_of_lock {action : PoolAction} {rest : List PoolAction}
    (isThere : before.threads[number]? = some (.running (action :: rest)))
    (threads : after.threads = before.threads.set number (.running rest))
    (orderly : (action :: rest).IsChain Follows)
    (notLowering : action ≠ .lowerFlag) (notWaking : action ≠ .wakeAll) (pool : after.pool = before.pool)
    (needsLock : (running rest).needsLock = true →
      after.lockedBy = some number ∨ action.needsLock = true ∧ after.lockedBy = before.lockedBy)
    (lockedBy : after.lockedBy = before.lockedBy ∨ before.lockedBy = none ∨ action.needsLock = true)
    (flagRaised : before.flagRaised = true → after.flagRaised = true)
    (watches : (running rest).watches = true → after.flagRaised = true) :
    Turn before (.act number) after number (.running (action :: rest)) (.running rest) := by
  constructor
  case isThere => exact isThere
  case threads => exact threads
  case orderly => exact orderly.of_cons
  case needsLock => exact needsLock
  case lockedBy => exact lockedBy
  case flagRaised => exact fun raised => .inl (flagRaised raised)
  case watches => exact fun watching => .inl (watches watching)
  case isStranded => exact nofun
  case wakes => exact fun pending => wakes_of_cons notWaking pending
  case owesWakeUp => exact fun pending => .inl (owesWakeUp_of_cons notLowering notWaking pending)
  case isAvailable => exact fun available => .inl (pool ▸ available)
  case enrolls =>
    intro enrolls
    refine .inl ⟨?_, nofun⟩
    simp only [PoolThread.enrolls, List.any_cons, Bool.or_eq_true]
    exact .inr enrolls
  case begins => exact nofun

/-- A waiter's last look at the members: he goes on if there is one, and is parked otherwise. -/
theorem turn_of_lookAgain (isThere : before.threads[number]? = some (.running [.lookAgain]))
    (acted : before.act number [] .lookAgain = some after) :
    ∃ new, Turn before (.act number) after number (.running [.lookAgain]) new := by
  simp only [act] at acted
  split at acted
  · cases acted
    refine ⟨.running [.releaseLock], isThere, rfl, List.isChain_singleton _, fun _ => .inr ⟨rfl, rfl⟩, .inl rfl,
      fun raised => .inl raised, nofun, nofun, nofun, nofun, fun available => .inl available, nofun, nofun⟩
  · rename_i isEmpty
    cases acted
    exact ⟨.parked false, isThere, rfl, trivial, nofun, .inr (.inr rfl), fun raised => .inl raised,
      fun _ => .inr rfl, fun _ => eq_false_of_ne_true isEmpty, nofun, nofun,
      fun available => .inl available, nofun, nofun⟩

/-- A thread that owes nobody a wake-up turns to something else. -/
theorem turn_of_errand {move : PoolMove} {actions : List PoolAction}
    (isThere : before.threads[number]? = some old)
    (threads : after.threads = before.threads.set number (.running actions))
    (orderly : actions.IsChain Follows) (apart : (running actions).needsLock = false)
    (free : old.owesWakeUp = false) (pool : after.pool = before.pool)
    (flagRaised : after.flagRaised = before.flagRaised) (lockedBy : after.lockedBy = before.lockedBy)
    (enrolls : (running actions).enrolls = true → ∃ channel, move = .begin number (.enroll channel))
    (begins : ∀ other operation, move = .begin other operation → other = number) :
    Turn before move after number old (.running actions) := by
  have nothing : ∀ {claim : Prop}, old.owesWakeUp = true → claim :=
    fun owing => absurd owing (ne_true_of_eq_false free)
  constructor
  case isThere => exact isThere
  case threads => exact threads
  case orderly => exact orderly
  case needsLock => exact fun needs => absurd needs (ne_true_of_eq_false apart)
  case lockedBy => exact .inl lockedBy
  case flagRaised => exact fun raised => .inl (flagRaised.trans raised)
  case watches =>
    exact fun watching => absurd watching (ne_true_of_eq_false (not_watches_of_not_needsLock apart))
  case isStranded => exact nofun
  case wakes => exact fun pending => nothing (owesWakeUp_of_wakes pending)
  case owesWakeUp => exact nothing
  case isAvailable => exact fun available => .inl (pool ▸ available)
  case enrolls => exact fun enrolling => .inr (enrolls enrolling)
  case begins => exact begins

theorem orderly_waiting : (.takeLock :: waitActions : List PoolAction).IsChain Follows :=
  .cons_cons ⟨rfl, rfl⟩ (.cons_cons ⟨rfl, rfl⟩ (List.isChain_singleton _))

/-- What a thread does by its next action, if that is not to wake everybody. -/
theorem turn_of_act {action : PoolAction} {rest : List PoolAction}
    (isThere : before.threads[number]? = some (.running (action :: rest)))
    (orderly : (action :: rest).IsChain Follows) (notWaking : action ≠ .wakeAll)
    (acted : before.act number rest action = some after) :
    ∃ new, Turn before (.act number) after number (.running (action :: rest)) new := by
  cases action with
  | clearDeadline =>
      cases acted
      exact ⟨_, turn_of_plain [] isThere orderly rfl nofun rfl nofun nofun rfl rfl id⟩
  | publish channel =>
      simp only [act] at acted
      split at acted
      · cases acted
        exact ⟨_, turn_of_plain [] isThere orderly rfl nofun rfl nofun nofun rfl rfl id⟩
      · cases acted
        exact ⟨_, turn_of_publish isThere orderly _⟩
  | touch =>
      cases acted
      exact ⟨_, turn_of_plain [] isThere orderly rfl nofun rfl nofun nofun rfl rfl id⟩
  | registerHook channel =>
      simp only [act] at acted
      split at acted
      · cases acted
        exact ⟨_, turn_of_plain [.withdraw channel] isThere orderly rfl (by simp [isPlain]) rfl nofun nofun
          rfl rfl id⟩
      · cases acted
        exact ⟨_, turn_of_plain [] isThere orderly rfl nofun rfl nofun nofun rfl rfl id⟩
  | lowerFlag =>
      cases acted
      exact ⟨_, turn_of_lowerFlag isThere orderly⟩
  | takeLock =>
      simp only [act] at acted
      split at acted
      · cases acted
      · rename_i isFree
        cases acted
        refine ⟨_, turn_of_lock isThere rfl orderly nofun nofun rfl (fun _ => .inl rfl) (.inr (.inl isFree)) id ?_⟩
        intro watching
        cases rest with
        | nil => cases watching
        | cons next others =>
            have prepared := (List.isChain_cons_cons.1 orderly).1.prepared
            cases next with
            | lookAgain => cases prepared
            | _ => cases watching
  | wakeAll => exact absurd rfl notWaking
  | releaseLock =>
      cases acted
      have apart := apart_of_orderly orderly nofun nofun nofun
      exact ⟨_, turn_of_lock isThere rfl orderly nofun nofun rfl
        (fun needs => absurd needs (ne_true_of_eq_false apart)) (.inr (.inr rfl)) id
        fun watching => absurd watching (ne_true_of_eq_false (not_watches_of_not_needsLock apart))⟩
  | withdraw channel =>
      simp only [act] at acted
      split at acted
      · cases acted
        refine ⟨_, turn_of_plain [.touchAfterWithdrawal _] isThere orderly rfl (by simp [isPlain]) rfl nofun
          nofun rfl rfl ?_⟩
        intro available
        simp only [goOn, Pool.isAvailable, Bool.not_eq_true', List.isEmpty_eq_false_iff] at available ⊢
        exact fun isEmpty => available (by rw [isEmpty, List.filter_nil])
      · cases acted
        exact ⟨_, turn_of_plain [] isThere orderly rfl nofun rfl nofun nofun rfl rfl id⟩
  | touchAfterWithdrawal emptied =>
      cases acted
      cases emptied with
      | true =>
          exact ⟨_, turn_of_plain [.storeDeadline _] isThere orderly rfl (by simp [isPlain]) rfl nofun nofun
            rfl rfl id⟩
      | false => exact ⟨_, turn_of_plain [] isThere orderly rfl nofun rfl nofun nofun rfl rfl id⟩
  | storeDeadline time =>
      obtain ⟨deadline, rfl⟩ : ∃ deadline, after
          = ({ before with pool := { before.pool with lossDeadlineNanos := deadline } }).goOn number rest :=
        ⟨_, (Option.some.inj acted).symm⟩
      exact ⟨_, turn_of_plain [] isThere orderly rfl nofun rfl nofun nofun rfl rfl id⟩
  | completeClosing channel =>
      simp only [act] at acted
      split at acted
      · cases acted
        exact ⟨_, turn_of_plain [] isThere orderly rfl nofun rfl nofun nofun rfl rfl id⟩
      · cases acted
        exact ⟨_, turn_of_plain _ isThere orderly rfl (by simp [isPlain]) rfl nofun nofun rfl rfl id⟩
  | lookFirst =>
      obtain rfl := nothing_of_looks orderly rfl
      cases acted
      cases isAvailable : before.pool.isAvailable with
      | true =>
          simp only [if_true]
          exact ⟨_, turn_of_plain [] isThere orderly rfl nofun rfl nofun nofun rfl rfl id⟩
      | false =>
          simp only [Bool.false_eq_true, if_false]
          exact ⟨_, turn_of_errand isThere rfl orderly_waiting rfl rfl rfl rfl rfl nofun nofun⟩
  | raiseFlag =>
      cases acted
      exact ⟨_, turn_of_lock isThere rfl orderly nofun nofun rfl (fun _ => .inr ⟨rfl, rfl⟩) (.inl rfl)
        (fun _ => rfl) fun _ => rfl⟩
  | lookAgain =>
      obtain rfl := nothing_of_looks orderly rfl
      exact turn_of_lookAgain isThere acted

/-- What a move is: everybody who is parked is notified, or only time passes, or one thread has its turn. -/
theorem turn_of_move {move : PoolMove} (orderly : ∀ thread ∈ before.threads, thread.Orderly)
    (moved : before.move? move = some after) :
    (∃ number rest, move = .act number ∧ before.threads[number]? = some (.running (.wakeAll :: rest)) ∧
      after = ({ before with threads := before.threads.map PoolThread.notify }).goOn number rest) ∨
    (∃ nanos, move = .advance nanos ∧ after = { before with now := before.now + nanos }) ∨
    ∃ number old new, Turn before move after number old new := by
  cases move with
  | begin number operation =>
      simp only [move?] at moved
      split at moved
      · rename_i isThere
        cases moved
        refine .inr (.inr ⟨number, _, _, turn_of_errand isThere rfl ?_ ?_ rfl rfl rfl rfl ?_ ?_⟩)
        · cases operation with
          | enroll channel => exact .cons_cons ⟨rfl, trivial⟩ (List.isChain_singleton _)
          | evict channel => exact List.isChain_singleton _
          | close channel => exact List.isChain_singleton _
          | waitForMember => exact List.isChain_singleton _
        · cases operation <;> rfl
        · intro enrolling
          cases operation with
          | enroll channel => exact ⟨channel, rfl⟩
          | evict channel => cases enrolling
          | close channel => cases enrolling
          | waitForMember => cases enrolling
        · rintro other operation ⟨⟩
          rfl
      · cases moved
  | act number =>
      simp only [move?] at moved
      split at moved
      · rename_i action rest isThere
        by_cases waking : action = .wakeAll
        · subst waking
          cases moved
          exact .inl ⟨number, rest, rfl, isThere, rfl⟩
        · have inOrder : (action :: rest).IsChain Follows := orderly _ (List.mem_of_getElem? isThere)
          obtain ⟨new, turn⟩ := turn_of_act isThere inOrder waking moved
          exact .inr (.inr ⟨number, _, new, turn⟩)
      · cases moved
  | wake number =>
      simp only [move?] at moved
      split at moved
      · rename_i isThere
        cases moved
        exact .inr (.inr ⟨number, _, _,
          turn_of_errand isThere rfl orderly_waiting rfl rfl rfl rfl rfl nofun nofun⟩)
      · cases moved
  | giveUp number =>
      simp only [move?] at moved
      split at moved
      · rename_i isThere
        cases moved
        exact .inr (.inr ⟨number, _, _, turn_of_errand isThere rfl
          (.cons_cons ⟨rfl, .inl rfl⟩ (List.isChain_singleton _)) rfl rfl rfl rfl rfl nofun nofun⟩)
      · cases moved
  | advance nanos =>
      cases moved
      exact .inr (.inl ⟨nanos, rfl, rfl⟩)

end PoolThreads

end Uplink
