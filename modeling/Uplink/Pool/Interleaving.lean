/-
Module: Uplink.Pool.Interleaving
Purpose: A pool that several threads work on at once, one atomic action at a time.
Main exports: PoolAction, PoolThread, PoolThreads, PoolMove, PoolThreads.move?
-/
import Uplink.Pool.Basic

namespace Uplink

/-!
Each operation of a thread is a list of atomic actions; an action may put further ones in front of those
that are left.  Threads take turns in any order.  A waiter raises a flag before it looks at the members for
the last time, and whoever enrolls a channel lowers the flag after the channel is visible; only if the flag
was up does he take the lock and wake everybody who is parked.
-/

/-- An atomic action on a pool. -/
inductive PoolAction where
  | clearDeadline
  | publish (channel : Nat)
  | touch
  | registerHook (channel : Nat)
  | lowerFlag
  | takeLock
  | wakeAll
  | releaseLock
  | withdraw (channel : Nat)
  | touchAfterWithdrawal (emptied : Bool)
  | storeDeadline (time : UInt64)
  | completeClosing (channel : Nat)
  | lookFirst
  | raiseFlag
  | lookAgain
deriving DecidableEq, Repr, Inhabited

/-- What a thread may be asked to do. -/
inductive PoolOperation where
  | enroll (channel : Nat)
  | evict (channel : Nat)
  | close (channel : Nat)
  | waitForMember
deriving DecidableEq, Repr, Inhabited

/-- The actions that an operation begins with. -/
def PoolOperation.actions : PoolOperation → List PoolAction
  | enroll channel => [.clearDeadline, .publish channel]
  | evict channel => [.withdraw channel]
  | close channel => [.completeClosing channel]
  | waitForMember => [.lookFirst]

/-- A thread runs with some actions left, or is parked and perhaps notified. -/
inductive PoolThread where
  | running (actions : List PoolAction)
  | parked (notified : Bool)
deriving DecidableEq, Repr, Inhabited

namespace PoolThread

/-- Whether a thread has nothing to do. -/
def isIdle : PoolThread → Bool
  | running [] => true
  | _ => false

/-- Whether a thread is parked and nobody has notified it. -/
def isStranded : PoolThread → Bool
  | parked notified => !notified
  | running _ => false

/-- Whether a thread has enrolled a channel and not yet woken those who wait for one. -/
def owesWakeUp : PoolThread → Bool
  | running actions => actions.contains .lowerFlag || actions.contains .wakeAll
  | parked _ => false

/-- Notify a thread that is parked. -/
def notify : PoolThread → PoolThread
  | parked _ => parked true
  | running actions => running actions

end PoolThread

/-- A pool and the threads that work on it.  `hooks` holds a channel once for every close hook that the
pool has registered with it; `populated` says whether any channel was ever enrolled. -/
structure PoolThreads where
  pool : Pool
  now : Nat
  closed : List Nat
  hooks : List Nat
  flagRaised : Bool
  lockedBy : Option Nat
  populated : Bool
  threads : List PoolThread
deriving DecidableEq, Repr, Inhabited

namespace PoolThreads

/-- An empty pool and a number of idle threads. -/
def fresh (pool : Pool) (count : Nat) : PoolThreads :=
  { pool := { pool with members := [] }
    now := pool.created
    closed := []
    hooks := []
    flagRaised := false
    lockedBy := none
    populated := false
    threads := List.replicate count (.running []) }

/-- Let a thread go on with some actions. -/
def goOn (state : PoolThreads) (thread : Nat) (actions : List PoolAction) : PoolThreads :=
  { state with threads := state.threads.set thread (.running actions) }

/-- The actions that follow once a channel is visible. -/
def publishedActions (channel : Nat) : List PoolAction :=
  [.touch, .registerHook channel, .lowerFlag]

/-- The actions that wake everybody who is parked. -/
def wakeActions : List PoolAction := [.takeLock, .wakeAll, .releaseLock]

/-- The actions of a waiter who holds the lock. -/
def waitActions : List PoolAction := [.raiseFlag, .lookAgain]

/-- Carry out the first action of a thread; `rest` are the actions behind it.  There is no result where
the thread has to wait for the lock. -/
def act (state : PoolThreads) (thread : Nat) (rest : List PoolAction) :
    PoolAction → Option PoolThreads
  | .clearDeadline =>
      let pool := { state.pool with lossDeadlineNanos := Pool.noDeadline }
      some (({ state with pool }).goOn thread rest)
  | .publish channel =>
      if channel ∈ state.pool.members then some (state.goOn thread rest)
      else
        let pool := { state.pool with members := state.pool.members ++ [channel] }
        some (({ state with pool, populated := true }).goOn thread
          (publishedActions channel ++ rest))
  | .touch =>
      let pool := { state.pool with lastChangeNanos := state.pool.elapsedNanos state.now }
      some (({ state with pool }).goOn thread rest)
  | .registerHook channel =>
      if channel ∈ state.closed then some (state.goOn thread (.withdraw channel :: rest))
      else some (({ state with hooks := state.hooks ++ [channel] }).goOn thread rest)
  | .lowerFlag =>
      let after := if state.flagRaised then wakeActions ++ rest else rest
      some (({ state with flagRaised := false }).goOn thread after)
  | .takeLock =>
      match state.lockedBy with
      | some _ => none
      | none => some (({ state with lockedBy := some thread }).goOn thread rest)
  | .wakeAll =>
      some (({ state with threads := state.threads.map PoolThread.notify }).goOn thread rest)
  | .releaseLock => some (({ state with lockedBy := none }).goOn thread rest)
  | .withdraw channel =>
      if channel ∈ state.pool.members then
        let members := state.pool.members.filter (· ≠ channel)
        let pool := { state.pool with members }
        some (({ state with pool }).goOn thread
          (.touchAfterWithdrawal members.isEmpty :: rest))
      else
        some (state.goOn thread rest)
  | .touchAfterWithdrawal emptied =>
      let time := state.pool.elapsedNanos state.now
      let pool := { state.pool with lastChangeNanos := time }
      let after := if emptied then .storeDeadline time :: rest else rest
      some (({ state with pool }).goOn thread after)
  | .storeDeadline time =>
      let pool := { state.pool with lossDeadlineNanos := state.pool.deadlineAfter time }
      some (({ state with pool }).goOn thread rest)
  | .completeClosing channel =>
      if channel ∈ state.closed then some (state.goOn thread rest)
      else
        let due := (state.hooks.filter (· = channel)).map PoolAction.withdraw
        let hooks := state.hooks.filter (· ≠ channel)
        some (({ state with closed := channel :: state.closed, hooks }).goOn thread (due ++ rest))
  | .lookFirst =>
      let after := if state.pool.isAvailable then rest else .takeLock :: waitActions ++ rest
      some (state.goOn thread after)
  | .raiseFlag => some (({ state with flagRaised := true }).goOn thread rest)
  | .lookAgain =>
      if state.pool.isAvailable then some (state.goOn thread (.releaseLock :: rest))
      else
        some
          { state with
            lockedBy := none
            threads := state.threads.set thread (.parked false) }

end PoolThreads

/-- What may happen next: an idle thread begins an operation, a thread carries out its next action, a
notified thread wakes up, a parked one gives up, or time passes. -/
inductive PoolMove where
  | begin (thread : Nat) (operation : PoolOperation)
  | act (thread : Nat)
  | wake (thread : Nat)
  | giveUp (thread : Nat)
  | advance (nanos : Nat)
deriving DecidableEq, Repr, Inhabited

namespace PoolThreads

/-- Make a move, if it is possible. -/
def move? (state : PoolThreads) : PoolMove → Option PoolThreads
  | .begin thread operation =>
      match state.threads[thread]? with
      | some (.running []) => some (state.goOn thread operation.actions)
      | _ => none
  | .act thread =>
      match state.threads[thread]? with
      | some (.running (action :: rest)) => state.act thread rest action
      | _ => none
  | .wake thread =>
      match state.threads[thread]? with
      | some (.parked true) => some (state.goOn thread (.takeLock :: waitActions))
      | _ => none
  | .giveUp thread =>
      match state.threads[thread]? with
      | some (.parked false) => some (state.goOn thread [.takeLock, .releaseLock])
      | _ => none
  | .advance nanos => some { state with now := state.now + nanos }

/-- Make some moves, if they are possible one after another. -/
def run? (state : PoolThreads) : List PoolMove → Option PoolThreads
  | [] => some state
  | move :: rest => (state.move? move).bind fun after => after.run? rest

/-- Whether no operation is in progress. -/
def isQuiet (state : PoolThreads) : Bool :=
  state.threads.all PoolThread.isIdle

end PoolThreads

end Uplink
