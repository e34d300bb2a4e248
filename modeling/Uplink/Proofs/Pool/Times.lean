/-
Module: Uplink.Proofs.Pool.Times
Purpose: In every run the times that a pool answers with are those of the history of its members.
Main exports: Roster.stages, Chronicle.enter, Chronicle.follow, Roster.Chronicled, Roster.Chronicled.perform,
  Roster.Chronicled.runHooks, Roster.Chronicled.step, Roster.Chronicled.run, Roster.times_after_run
-/
import Uplink.Pool.Run
import Uplink.Proofs.Pool.Chronicle
import Uplink.Proofs.Pool.Roster

namespace Uplink

/-- Adding to a span never makes it shorter, not even where the sum does not fit. -/
theorem Span.totalNanos_le_add (first second : Span) :
    first.totalNanos ≤ (first.add second).totalNanos := by
  have firstSeconds := first.seconds_lt
  have firstNanos := first.nanos_lt
  simp only [add, carried, ofParts?, totalNanos]
  split
  · simp only [Option.getD_some]
    omega
  · simp only [Option.getD_none, longest]
    omega

/-! ### What there is to see of a run -/

namespace Roster

/-- A channel has been made a member, and the pool has not yet registered with its closing. -/
def published (roster : Roster) (pool channel : Nat) : Roster :=
  roster.changePool pool fun held => (held.enroll channel roster.now.totalNanos).1

/-- The states that a call on a pool passes through.  A channel that has closed is published as well, and
leaves again within the call. -/
def stagesOfCall (roster : Roster) (pool : Nat) : PoolCall → List Roster
  | .enroll channel => [roster.published pool channel, (roster.enroll pool channel).1]
  | .evict channel => [(roster.evict pool channel).1]

/-- The states that some calls on a pool pass through. -/
def stagesOfCalls (pool : Nat) : Roster → List PoolCall → List Roster
  | _, [] => []
  | roster, call :: rest =>
      roster.stagesOfCall pool call ++ stagesOfCalls pool (roster.perform pool call) rest

/-- The states that a hook of a channel passes through. -/
def stagesOfHook (roster : Roster) (channel : Nat) : CloseHook → List Roster
  | .release pool => roster.stagesOfCall pool (.evict channel)
  | .observe label pool reenrolls =>
      if reenrolls then
        (roster.record (.measured label (roster.sizeOf pool))).stagesOfCall pool (.enroll channel)
      else []
  | .calls pool calls => stagesOfCalls pool roster calls

/-- The states that the hooks of a channel pass through. -/
def stagesOfHooks (channel : Nat) : Roster → List CloseHook → List Roster
  | _, [] => []
  | roster, hook :: rest =>
      roster.stagesOfHook channel hook ++ stagesOfHooks channel (roster.runHook channel hook) rest

/-- The states inside an event: those of the call that it is, and of the hooks that it runs. -/
def innerStages (roster : Roster) : RosterEvent → List Roster
  | .enroll pool channel => roster.stagesOfCall pool (.enroll channel)
  | .evict pool channel => roster.stagesOfCall pool (.evict channel)
  | .close channel =>
      if roster.isOpen channel then
        stagesOfHooks channel (roster.shut channel) (roster.closing channel).hooks
      else []
  | .listen channel hook =>
      stagesOfHooks channel (roster.register channel hook) ((roster.closing channel).listen hook).2
  | _ => []

/-- The states that an event passes through, up to the one in which it leaves everything. -/
def stages (roster : Roster) (event : RosterEvent) : List Roster :=
  roster.innerStages event ++ [roster.step event]

end Roster

namespace Chronicle

/-- An onlooker watches a pool through some states. -/
def watch (chronicle : Chronicle) (pool : Nat) (stages : List Roster) : Chronicle :=
  stages.foldl (fun written stage => written.see ⟨stage.now.totalNanos, stage.membersOf pool⟩) chronicle

/-- A warm-up time that is asked for is written down. -/
def ask (chronicle : Chronicle) (pool : Nat) : RosterEvent → Chronicle
  | .setWarmUp target warmUp => if target = pool then { chronicle with warmUp } else chronicle
  | _ => chronicle

/-- An event is written down: what it asks of a pool, and what there is to see of the pool. -/
def enter (chronicle : Chronicle) (pool : Nat) (roster : Roster) (event : RosterEvent) : Chronicle :=
  (chronicle.ask pool event).watch pool (roster.stages event)

/-- Some events are written down. -/
def follow (pool : Nat) : Roster → Chronicle → List RosterEvent → Chronicle
  | _, chronicle, [] => chronicle
  | roster, chronicle, event :: rest =>
      follow pool (roster.step event) (chronicle.enter pool roster event) rest

theorem watch_append (chronicle : Chronicle) (pool : Nat) (first second : List Roster) :
    chronicle.watch pool (first ++ second) = (chronicle.watch pool first).watch pool second :=
  List.foldl_append

theorem created_watch (chronicle : Chronicle) (pool : Nat) (stages : List Roster) :
    (chronicle.watch pool stages).created = chronicle.created := by
  induction stages generalizing chronicle with
  | nil => rfl
  | cons stage rest ih => exact (ih _).trans (created_see _ _)

theorem created_follow (pool : Nat) (roster : Roster) (chronicle : Chronicle)
    (events : List RosterEvent) : (follow pool roster chronicle events).created = chronicle.created := by
  induction events generalizing roster chronicle with
  | nil => rfl
  | cons event rest ih =>
      rw [follow, ih, enter, created_watch]
      cases event with
      | setWarmUp target warmUp =>
          rw [ask]
          split <;> rfl
      | _ => rfl

end Chronicle

namespace Roster

/-- After a channel is published, enrolling it does no more than to evict it if it turns out closed. -/
theorem pools_enroll_published (roster : Roster) (pool channel : Nat) :
    (roster.enroll pool channel).1.pools
      = (roster.published pool channel).pools.modify pool fun held =>
          if channel ∉ roster.membersOf pool ∧ (roster.closing channel).isDone then
            (held.evict channel roster.now.totalNanos).1
          else held := by
  rw [pools_enroll, published, changePool, List.modify_modify_eq]
  cases found : roster.pools[pool]? with
  | none =>
      have beyond := List.getElem?_eq_none_iff.1 found
      rw [List.modify_eq_self beyond, List.modify_eq_self beyond]
  | some held =>
      simp only [List.modify_eq_set, found, Option.getD_some, afterEnrolling,
        membersOf_of_getElem? found, Function.comp_apply]

/-! ### A pool and its chronicle -/

variable {roster next : Roster} {pool : Nat} {chronicle : Chronicle}

/-- A pool is there and holds what a chronicle says, and nothing in the chronicle lies ahead of the clock. -/
structure Chronicled (roster : Roster) (pool : Nat) (chronicle : Chronicle) : Prop where
  dated : chronicle.Dated roster.now.totalNanos
  held : ∃ held, roster.pools[pool]? = some held ∧ chronicle.Tells held

namespace Chronicled

theorem membersOf (chronicled : roster.Chronicled pool chronicle) :
    roster.membersOf pool = chronicle.members := by
  obtain ⟨held, found, tells⟩ := chronicled.held
  rw [membersOf_of_getElem? found, tells.members]

/-- Whoever looks again sees nothing new. -/
theorem watch_self (chronicled : roster.Chronicled pool chronicle) :
    chronicle.watch pool [roster] = chronicle :=
  Chronicle.see_of_same chronicled.membersOf

/-- The pool is as before, and time may have passed. -/
theorem of_same (chronicled : roster.Chronicled pool chronicle)
    (same : next.pools[pool]? = roster.pools[pool]?)
    (passes : roster.now.totalNanos ≤ next.now.totalNanos) : next.Chronicled pool chronicle := by
  obtain ⟨held, found, tells⟩ := chronicled.held
  exact ⟨chronicled.dated.later passes, held, same.trans found, tells⟩

/-- Some pool changes at once, and if it is this one, then in the way that its chronicle will tell. -/
theorem change (chronicled : roster.Chronicled pool chronicle) {target : Nat} {change : Pool → Pool}
    (pools : next.pools = roster.pools.modify target change) (now : next.now = roster.now)
    (tells : ∀ held, chronicle.Tells held →
      (chronicle.see ⟨roster.now.totalNanos, (change held).members⟩).Tells (change held)) :
    next.Chronicled pool (chronicle.watch pool [next]) := by
  by_cases same : target = pool
  · subst same
    obtain ⟨held, found, told⟩ := chronicled.held
    have changed : next.pools[target]? = some (change held) := by
      rw [pools, List.getElem?_modify_eq, found]
      rfl
    have seen : chronicle.watch target [next]
        = chronicle.see ⟨roster.now.totalNanos, (change held).members⟩ := by
      rw [← membersOf_of_getElem? changed, ← now]
      rfl
    rw [seen]
    refine ⟨?_, change held, changed, tells held told⟩
    rw [now]
    exact chronicled.dated.see rfl
  · have elsewhere : next.Chronicled pool chronicle := by
      refine chronicled.of_same ?_ (Nat.le_of_eq (by rw [now]))
      rw [pools, List.getElem?_modify_ne _ _ same]
    rw [elsewhere.watch_self]
    exact elsewhere

/-- Some pool changes, and what an onlooker is told of it goes into the chronicle of that pool alone. -/
theorem tell (chronicled : roster.Chronicled pool chronicle) (target : Nat) {change : Pool → Pool}
    {told : Chronicle} (dated : told.Dated roster.now.totalNanos)
    (here : target = pool → ∀ held, chronicle.Tells held → told.Tells (change held))
    (elsewhere : target ≠ pool → told = chronicle) :
    (roster.changePool target change).Chronicled pool told := by
  obtain ⟨held, found, tells⟩ := chronicled.held
  refine ⟨dated, ?_⟩
  rw [changePool]
  by_cases same : target = pool
  · refine ⟨change held, ?_, here same held tells⟩
    rw [same, List.getElem?_modify_eq, found]
    rfl
  · refine ⟨held, ?_, elsewhere same ▸ tells⟩
    rw [List.getElem?_modify_ne _ _ same, found]

/-! ### Calls and hooks -/

theorem evict (chronicled : roster.Chronicled pool chronicle) (target channel : Nat) :
    (roster.evict target channel).1.Chronicled pool
      (chronicle.watch pool (roster.stagesOfCall target (.evict channel))) :=
  chronicled.change (pools_evict roster target channel) (now_evict roster target channel)
    fun _ tells => tells.evict channel _

/-- A channel that has closed enters and leaves in one call, and both are seen. -/
theorem enroll (chronicled : roster.Chronicled pool chronicle) (target channel : Nat) :
    (roster.enroll target channel).1.Chronicled pool
      (chronicle.watch pool (roster.stagesOfCall target (.enroll channel))) := by
  have published : (roster.published target channel).Chronicled pool
      (chronicle.watch pool [roster.published target channel]) :=
    chronicled.change rfl rfl fun _ tells => tells.enroll channel _
  refine published.change (pools_enroll_published roster target channel) (now_enroll _ _ _) ?_
  intro held tells
  split
  · exact tells.evict channel _
  · rw [Chronicle.see_of_same tells.members]
    exact tells

theorem perform (chronicled : roster.Chronicled pool chronicle) (target : Nat) (call : PoolCall) :
    (roster.perform target call).Chronicled pool
      (chronicle.watch pool (roster.stagesOfCall target call)) := by
  cases call with
  | enroll channel => exact chronicled.enroll target channel
  | evict channel => exact chronicled.evict target channel

theorem performAll (made : List PoolCall) (target : Nat) (chronicled : roster.Chronicled pool chronicle) :
    (made.foldl (fun changed call => changed.perform target call) roster).Chronicled pool
      (chronicle.watch pool (stagesOfCalls target roster made)) := by
  induction made generalizing roster chronicle with
  | nil => exact chronicled
  | cons call rest ih =>
      rw [stagesOfCalls, Chronicle.watch_append]
      exact ih (chronicled.perform target call)

theorem runHook (chronicled : roster.Chronicled pool chronicle) (channel : Nat) (hook : CloseHook) :
    (roster.runHook channel hook).Chronicled pool
      (chronicle.watch pool (roster.stagesOfHook channel hook)) := by
  cases hook with
  | release target => exact chronicled.evict target channel
  | observe label target reenrolls =>
      have measured : (roster.record (.measured label (roster.sizeOf target))).Chronicled pool chronicle :=
        chronicled.of_same rfl (Nat.le_refl _)
      rw [Roster.runHook, stagesOfHook]
      cases reenrolls
      · exact measured
      · exact (measured.enroll target channel).of_same rfl (Nat.le_refl _)
  | calls target made => exact chronicled.performAll made target

theorem runHooks (chronicled : roster.Chronicled pool chronicle) (channel : Nat) (due : List CloseHook) :
    (roster.runHooks channel due).Chronicled pool
      (chronicle.watch pool (stagesOfHooks channel roster due)) := by
  induction due generalizing roster chronicle with
  | nil => exact chronicled
  | cons hook rest ih =>
      rw [stagesOfHooks, Chronicle.watch_append]
      exact ih (chronicled.runHook channel hook)

/-! ### Events -/

/-- A change of a channel concerns no pool. -/
theorem changeChannel (chronicled : roster.Chronicled pool chronicle) (channel : Nat)
    (change : Channel → Channel) : (roster.changeChannel channel change).Chronicled pool chronicle := by
  refine chronicled.of_same ?_ (Nat.le_of_eq ?_)
  · rw [pools_changeChannel]
  · rw [now_changeChannel]

theorem close (chronicled : roster.Chronicled pool chronicle) (channel : Nat) :
    (roster.close channel).1.Chronicled pool
      (chronicle.watch pool (roster.innerStages (.close channel))) := by
  rw [innerStages]
  cases isOpen : roster.isOpen channel with
  | false =>
      rw [close_of_not_open isOpen]
      exact chronicled
  | true =>
      rw [close_of_open isOpen]
      have shut : (roster.shut channel).Chronicled pool chronicle := chronicled.changeChannel channel _
      exact (shut.runHooks channel _).changeChannel channel _

theorem listen (chronicled : roster.Chronicled pool chronicle) (channel : Nat) (hook : CloseHook) :
    (roster.listen channel hook).Chronicled pool
      (chronicle.watch pool (roster.innerStages (.listen channel hook))) := by
  have registered : (roster.register channel hook).Chronicled pool chronicle :=
    chronicled.changeChannel channel _
  exact registered.runHooks channel _

theorem setWarmUp (chronicled : roster.Chronicled pool chronicle) (target : Nat) (warmUp : Span) :
    (roster.changePool target fun held => held.setWarmUp warmUp).Chronicled pool
      (chronicle.ask pool (.setWarmUp target warmUp)) := by
  have dated : (chronicle.ask pool (.setWarmUp target warmUp)).Dated roster.now.totalNanos := by
    rw [Chronicle.ask]
    split <;> exact chronicled.dated
  refine chronicled.tell target dated ?_ fun other => if_neg other
  intro same held tells
  rw [Chronicle.ask, if_pos same]
  exact tells.setWarmUp warmUp

theorem takeTurns (chronicled : roster.Chronicled pool chronicle) (target count : Nat) :
    (roster.takeTurns target count).1.Chronicled pool chronicle := by
  rw [Roster.takeTurns]
  cases found : roster.pools[target]? with
  | none => exact chronicled
  | some held =>
      have modified : roster.setPool target (Pool.turns count held).1
          = roster.changePool target fun other => (Pool.turns count other).1 := by
        rw [setPool, changePool, List.modify_eq_set, found, Option.getD_some]
      change (roster.setPool target (Pool.turns count held).1).Chronicled pool chronicle
      rw [modified]
      refine chronicled.tell target chronicled.dated ?_ fun _ => rfl
      intro _ other tells
      obtain ⟨cursor, turned⟩ := Pool.turns_eq count other
      rw [turned]
      exact tells.retuned other.capacity cursor

/-- One event, whatever it is. -/
theorem step (chronicled : roster.Chronicled pool chronicle) (event : RosterEvent) :
    (roster.step event).Chronicled pool (chronicle.enter pool roster event) := by
  have inner : (roster.step event).Chronicled pool
      ((chronicle.ask pool event).watch pool (roster.innerStages event)) := by
    cases event with
    | enroll target channel => exact chronicled.enroll target channel
    | evict target channel => exact chronicled.evict target channel
    | close channel => exact chronicled.close channel
    | listen channel hook => exact chronicled.listen channel hook
    | setWarmUp target warmUp => exact chronicled.setWarmUp target warmUp
    | takeTurns target count => exact chronicled.takeTurns target count
    | openChannel handler => exact chronicled.of_same rfl (Nat.le_refl _)
    | advance delta => exact chronicled.of_same rfl (Span.totalNanos_le_add _ _)
    | addPool address config =>
        obtain ⟨held, found, tells⟩ := chronicled.held
        have bound : pool < roster.pools.length := (List.getElem?_eq_some_iff.1 found).1
        exact chronicled.of_same (List.getElem?_append_left bound) (Nat.le_refl _)
    | setCapacity target capacity =>
        exact chronicled.tell target chronicled.dated
          (fun _ held tells => tells.retuned capacity held.cursor) fun _ => rfl
  rw [Chronicle.enter, stages, Chronicle.watch_append, inner.watch_self]
  exact inner

/-- Any number of events. -/
theorem run (chronicled : roster.Chronicled pool chronicle) (events : List RosterEvent) :
    (roster.run events).Chronicled pool (Chronicle.follow pool roster chronicle events) := by
  induction events generalizing roster chronicle with
  | nil => exact chronicled
  | cons event rest ih => exact ih (chronicled.step event)

end Chronicled

theorem chronicled_addPool (roster : Roster) (address : Address) (config : PoolConfig) :
    (roster.addPool address config).1.Chronicled roster.pools.length
      (Chronicle.opening config roster.now.totalNanos) := by
  refine ⟨⟨Nat.le_refl _, fun _ listed => absurd listed List.not_mem_nil⟩, _, ?_,
    Chronicle.Tells.make address config roster.now.totalNanos⟩
  exact List.getElem?_concat_length

/-- What an onlooker writes down about a pool that is added to a roster, in the course of some events. -/
def chronicleOf (roster : Roster) (address : Address) (config : PoolConfig) (events : List RosterEvent) :
    Chronicle :=
  Chronicle.follow roster.pools.length (roster.addPool address config).1
    (Chronicle.opening config roster.now.totalNanos) events

/-- Whatever happens after a pool is added, as long as the clock reads less than 2^64 - 1 nanoseconds since
then, its members and the times that it answers with are those of its chronicle. -/
theorem times_after_run (roster : Roster) (address : Address) (config : PoolConfig)
    (events : List RosterEvent)
    (early : ((roster.addPool address config).1.run events).now.totalNanos
      < roster.now.totalNanos + 0xFFFFFFFFFFFFFFFF) :
    ∃ held, ((roster.addPool address config).1.run events).pools[roster.pools.length]? = some held ∧
      held.members = (roster.chronicleOf address config events).members ∧
      held.lastChange = (roster.chronicleOf address config events).lastChange ∧
      held.isWarm ((roster.addPool address config).1.run events).now.totalNanos
        = (roster.chronicleOf address config events).isWarm
            ((roster.addPool address config).1.run events).now.totalNanos ∧
      held.lossDeadline = (roster.chronicleOf address config events).lossDeadline := by
  have chronicled := (chronicled_addPool roster address config).run events
  obtain ⟨held, found, tells⟩ := chronicled.held
  have created : (roster.chronicleOf address config events).created = roster.now.totalNanos :=
    Chronicle.created_follow _ _ _ _
  refine ⟨held, found, tells.members, tells.times chronicled.dated ?_⟩
  change _ ≤ (roster.chronicleOf address config events).created + Pool.latestNanos
  rw [created]
  exact Nat.le_of_lt_succ early

/-- A member is enrolled once more and then closes, and after it has closed it is enrolled a third time. -/
def comingAndGoing : List RosterEvent :=
  [.openChannel none, .advance (Span.ofMillis 1000), .enroll 0 1, .setWarmUp 0 (Span.ofMillis 2000),
    .advance (Span.ofMillis 1000), .enroll 0 1, .close 1, .advance (Span.ofMillis 1000), .enroll 0 1,
    .advance (Span.ofMillis 2001)]

/-- The third enrollment empties the pool a second time, after three seconds. -/
theorem times_after_comingAndGoing :
    ((fresh.addPool { host := "relay", port := 7000 } PoolConfig.standard).1.run
        comingAndGoing).now.totalNanos < fresh.now.totalNanos + 0xFFFFFFFFFFFFFFFF ∧
    ∃ held, ((fresh.addPool { host := "relay", port := 7000 } PoolConfig.standard).1.run
        comingAndGoing).pools[0]? = some held ∧
      held.members = [] ∧ held.lastChange = 3000000000 ∧ held.isWarm 5001000000 = true ∧
      held.lossDeadline = some 303000000000 := by
  have early : ((fresh.addPool { host := "relay", port := 7000 } PoolConfig.standard).1.run
      comingAndGoing).now.totalNanos < fresh.now.totalNanos + 0xFFFFFFFFFFFFFFFF := by decide
  obtain ⟨held, found, members, lastChange, isWarm, lossDeadline⟩ :=
    times_after_run fresh { host := "relay", port := 7000 } PoolConfig.standard comingAndGoing early
  refine ⟨early, held, found, members.trans ?_, lastChange.trans ?_, isWarm.trans ?_,
    lossDeadline.trans ?_⟩
  · decide
  · decide
  · decide
  · decide

end Roster

end Uplink
