/-
Module: Uplink.Proofs.Connector.Remains
Purpose: What is left after a shutdown: nothing at first, and later what the attempts leave that were under
  way and are not interrupted.
Main exports: Connector.Orderly, Connector.Orderly.run, Connector.Orderly.shutDown, Connector.conclusions,
  Connector.shutDown_leaves_iff
-/
import Uplink.Proofs.Connector.Cancel
import Uplink.Proofs.Connector.Exclusive
import Uplink.Proofs.Connector.ShutDown
import Uplink.Proofs.Fabric.Housing

namespace Uplink

namespace Outline

variable {outline : Outline} {groups : List (Address × Nat)} {bound : Nat}

/-- Every attempt of a caller has the caller waiting for it. -/
def Awaited (outline : Outline) (calls : List PendingConnect) : Prop :=
  ∀ number, (number, Origin.caller) ∈ outline.attempts → ∃ call ∈ calls, call.watchdog = number

/-- Setting up a connection touches no channel. -/
theorem Housed.equip (housed : outline.Housed) (sound : outline.Sound groups bound) (address : Address)
    (pool given : Nat) : (outline.equip address pool given).Housed := by
  intro channel number isLink
  have isEngaged : number ∈ outline.engagements := List.mem_append_left _
    (List.mem_filterMap.2 ⟨_, List.mem_of_getElem? (getElem?_of_link? isLink), rfl⟩)
  obtain ⟨found, inPool, isMember⟩ := housed channel number isLink
  refine ⟨found, ?_, isMember⟩
  rw [poolOf, posts_equip_of_lt (sound.known number isEngaged)]
  exact inPool

theorem attempts_stop (outline : Outline) (number : Nat) :
    (outline.stop number).attempts = outline.attempts := by
  simp only [stop]
  split
  · rfl
  · rename_i post _
    cases post.pending <;> rfl

theorem attempts_schedule (outline : Outline) (number : Nat) :
    (outline.schedule number).attempts = outline.attempts :=
  congrArg Prod.fst (trials_schedule outline number)

/-- The watchdog of an attempt that ends has no other attempt under way. -/
theorem ne_of_mem_eraseIdx (single : outline.engagements.Nodup) {place number other : Nat}
    {origin otherOrigin : Origin} (ends : outline.attempts[place]? = some (number, origin))
    (isOther : (other, otherOrigin) ∈ outline.attempts.eraseIdx place) : other ≠ number := by
  have distinct := (List.nodup_append.1 (List.nodup_append.1 single).2.1).2.1
  obtain ⟨isPlace, isThere⟩ := List.getElem?_eq_some_iff.1 ends
  have perm := (List.getElem_cons_eraseIdx_perm isPlace).map Prod.fst
  have fresh := List.nodup_cons.1 (perm.nodup_iff.2 distinct)
  rw [isThere] at fresh
  intro same
  exact fresh.1 (same ▸ List.mem_map.2 ⟨_, isOther, rfl⟩)

end Outline

/-- A connector in order, whose open channels are all in their pools and whose callers wait for their
attempts. -/
structure Connector.Orderly (connector : Connector) (application : Option String) (outline : Outline) :
    Prop extends connector.Exclusive application outline where
  housed : outline.Housed
  awaited : outline.Awaited connector.calls

namespace Connector

variable {connector changed : Connector} {application : Option String} {outline after : Outline}

theorem Exclusive.attempts_eq (exclusive : connector.Exclusive application outline) :
    outline.attempts
      = connector.fabric.underWay.map fun attempt => (attempt.watchdog, attempt.origin) := by
  rw [← exclusive.shows.outlineEq]
  rfl

theorem orderly_make (config : ConnectorConfig) (application : Option String) :
    (make config application).Orderly application Fabric.fresh.outline := by
  refine ⟨exclusive_make config application, ?_, fun _ isAttempt => absurd isAttempt List.not_mem_nil⟩
  intro channel number isLink
  exact absurd (List.mem_of_getElem? (Outline.getElem?_of_link? isLink)) List.not_mem_nil

namespace Orderly

/-! ### What keeps a connector orderly -/

/-- A change in which no attempt begins or ends. -/
theorem of_kept (orderly : connector.Orderly application outline) (kept : Kept connector changed)
    (exclusive : changed.Exclusive application after) (housed : after.Housed) :
    changed.Orderly application after := by
  refine ⟨exclusive, housed, ?_⟩
  have sameAttempts : after.attempts = outline.attempts := by
    rw [exclusive.attempts_eq, orderly.attempts_eq, kept.calm.underWay]
  rw [Outline.Awaited, sameAttempts, kept.calls]
  exact orderly.awaited

theorem close (orderly : connector.Orderly application outline) (channel : Nat) :
    (connector.close channel).Orderly application (outline.close channel) :=
  orderly.of_kept (Chore.close connector channel).kept (orderly.toExclusive.close channel)
    (orderly.housed.close channel)

theorem log (orderly : connector.Orderly application outline) (line : LogLine) :
    (connector.onFabric fun fabric => fabric.log line).Orderly application outline :=
  orderly.of_kept (Chore.log connector line).kept (orderly.toExclusive.log line) orderly.housed

theorem stopTimer (orderly : connector.Orderly application outline) :
    connector.stopTimer.Orderly application outline.stopTimer :=
  orderly.of_kept (Chore.stopTimer connector).kept orderly.toExclusive.stopTimer orderly.housed

theorem chore (orderly : connector.Orderly application outline) (chore : Chore connector changed) :
    ∃ after, changed.Orderly application after := by
  have kept := chore.kept
  cases chore with
  | turn connection enabled =>
      exact ⟨_, orderly.of_kept kept (orderly.toExclusive.setReconnect connection enabled)
        (orderly.housed.of_stays (Outline.stays_turnSwitch outline connection enabled))⟩
  | close channel => exact ⟨_, orderly.close channel⟩
  | log line => exact ⟨_, orderly.log line⟩
  | setRegistry registry =>
      exact ⟨_, orderly.of_kept kept (orderly.toExclusive.of_office rfl rfl rfl rfl) orderly.housed⟩
  | stopTimer => exact ⟨_, orderly.stopTimer⟩

theorem chores (orderly : connector.Orderly application outline) (chores : Chores connector changed) :
    ∃ after, changed.Orderly application after := by
  induction chores with
  | refl => exact ⟨outline, orderly⟩
  | tail _ next ih =>
      obtain ⟨middle, before⟩ := ih
      exact before.chore next

theorem mark (orderly : connector.Orderly application outline) :
    ({ connector with isShutDown := true } : Connector).Orderly application outline :=
  ⟨orderly.toExclusive.of_office rfl rfl rfl rfl, orderly.housed, orderly.awaited⟩

/-- A caller's attempt begins, and the caller waits for it. -/
theorem beginConnect (orderly : connector.Orderly application outline)
    (running : connector.isShutDown = false) (address : Address) :
    ∃ after, (connector.beginConnect address).1.Orderly application after := by
  obtain ⟨pool, bound, exclusive⟩ := orderly.toExclusive.beginConnect running address
  obtain ⟨begun, -, isBegun, -, -, -, -, calls⟩ := orderly.toStands.beginConnect running address
  have isNew := Outline.posts_equip_self outline address pool bound
  refine ⟨_, exclusive, ?_, ?_⟩
  · exact (orderly.housed.equip orderly.sound address pool bound).of_stays (Outline.stays_dial _ _ _)
  · rw [isBegun, Outline.dial_eq isNew]
    intro number isTried
    rw [calls]
    rcases List.mem_append.1 isTried with before | isLast
    · obtain ⟨call, isCall, isOwn⟩ := orderly.awaited number before
      exact ⟨call, List.mem_append_left _ isCall, isOwn⟩
    · refine ⟨_, List.mem_append_right _ (List.mem_singleton_self _), ?_⟩
      exact (Prod.mk.inj (List.mem_singleton.1 isLast)).1.symm

theorem connectAsync (orderly : connector.Orderly application outline)
    (running : connector.isShutDown = false) (address : Address) :
    ∃ after, (connector.connectAsync address).1.Orderly application after := by
  obtain ⟨pool, bound, after, exclusive, isAfter⟩ := orderly.toExclusive.connectAsync running address
  obtain ⟨prepared, _, isPrepared, -, office⟩ := orderly.toStands.prepare running address
  have calls : (connector.connectAsync address).1.calls = connector.calls := by
    simp only [Connector.connectAsync, isPrepared]
    split <;> exact office.calls
  have equipped := orderly.housed.equip orderly.sound address pool bound
  have scheduled := equipped.of_stays (Outline.stays_schedule _ outline.posts.length)
  refine ⟨after, exclusive, ?_, ?_⟩
  · rcases isAfter with same | same
    · exact same ▸ scheduled
    · exact same ▸ scheduled.of_stays (Outline.stays_stop _ _)
  · have attempts : after.attempts = outline.attempts := by
      rcases isAfter with same | same
      · rw [same, Outline.attempts_schedule]
        rfl
      · rw [same, Outline.attempts_stop, Outline.attempts_schedule]
        rfl
    rw [Outline.Awaited, attempts, calls]
    exact orderly.awaited

end Orderly

/-! ### The end of an attempt -/

theorem calls_answer (connector : Connector) (call : PendingConnect) (result : Except TransportError Nat) :
    (connector.answer call result).1.calls = connector.calls := by
  cases result <;> rfl

/-- Only a call of the watchdog whose attempt ends is answered. -/
theorem mem_calls_settle {call : PendingConnect} (isCall : call ∈ connector.calls) (place : Nat)
    (outcome : Outcome) :
    call ∈ (connector.settle place outcome).1.calls
      ∨ ∃ attempt, connector.fabric.underWay[place]? = some attempt
          ∧ call.watchdog = attempt.watchdog := by
  rcases settle_cases connector place outcome with
    ⟨-, same⟩ | ⟨attempt, isThere, ended | ⟨answered, result, isOwn, ended⟩⟩
  · exact .inl (same.symm ▸ isCall)
  · exact .inl (ended.symm ▸ isCall)
  · by_cases same : call.watchdog = answered.watchdog
    · exact .inr ⟨attempt, isThere, same.trans isOwn⟩
    · refine .inl ?_
      rw [ended, calls_answer]
      exact List.mem_filter.2 ⟨isCall, bne_iff_ne.2 same⟩

/-- The attempt that ends is taken off. -/
theorem underWay_settle (connector : Connector) (place : Nat) (outcome : Outcome) :
    (connector.settle place outcome).1.fabric.underWay = connector.fabric.underWay.eraseIdx place := by
  rcases settle_cases connector place outcome with
    ⟨isAbsent, same⟩ | ⟨attempt, isThere, ended | ⟨call, result, -, ended⟩⟩
  · rw [same, List.eraseIdx_of_length_le (List.getElem?_eq_none_iff.1 isAbsent)]
  · rw [ended]
    exact (Fabric.Calm.settle isThere outcome).underWay
  · rw [ended]
    exact (calm_answer _ call result).underWay.trans (Fabric.Calm.settle isThere outcome).underWay

/-- However an attempt ends, nothing gets out of order; a channel is left open if it is established. -/
theorem Orderly.settle (orderly : connector.Orderly application outline) (place : Nat)
    (outcome : Outcome) :
    ∃ after, (connector.settle place outcome).1.Orderly application after
      ∧ (¬ after.Live ↔ ¬ outline.Live
          ∧ ∀ attempt, connector.fabric.underWay[place]? = some attempt → outcome ≠ .established) := by
  obtain ⟨after, exclusive, isAfter⟩ := orderly.toExclusive.settle place outcome
  have settled := orderly.housed.settle orderly.sound place outcome
  have attempts : after.attempts = outline.attempts.eraseIdx place := by
    rcases isAfter with same | ⟨number, same⟩
    · rw [same, Outline.attempts_settle]
    · rw [same, Outline.attempts_stop, Outline.attempts_settle]
  refine ⟨after, ⟨exclusive, ?_, ?_⟩, ?_⟩
  · rcases isAfter with same | ⟨number, same⟩
    · exact same ▸ settled
    · exact same ▸ settled.of_stays (Outline.stays_stop _ number)
  · intro number isTried
    rw [attempts] at isTried
    obtain ⟨call, isCall, isOwn⟩ := orderly.awaited number (List.mem_of_mem_eraseIdx isTried)
    rcases mem_calls_settle isCall place outcome with waits | ⟨attempt, ends, isAnswered⟩
    · exact ⟨call, waits, isOwn⟩
    · have isEnded : outline.attempts[place]? = some (attempt.watchdog, attempt.origin) := by
        rw [attempts_getElem? orderly.toStands place, ends]
        rfl
      exact absurd (isOwn.symm.trans isAnswered)
        (Outline.ne_of_mem_eraseIdx orderly.single isEnded isTried)
  · have live := Outline.not_live_settle outline place outcome
    simp only [attempts_getElem? orderly.toStands place, Option.map_eq_some_iff, forall_exists_index,
      and_imp, forall_apply_eq_imp_iff₂] at live
    rcases isAfter with same | ⟨number, same⟩
    · rw [same]
      exact live
    · rw [same, Outline.Live, Outline.links_stop]
      exact live

/-! ### Runs -/

theorem Orderly.step (orderly : connector.Orderly application outline) (event : ConnectorEvent) :
    ∃ after, (connector.step event).Orderly application after := by
  cases event with
  | connect address =>
      cases running : connector.isShutDown with
      | true =>
          rw [Connector.step, beginConnect_of_shutDown running]
          exact ⟨outline, orderly⟩
      | false => exact orderly.beginConnect running address
  | connectAsync address =>
      cases running : connector.isShutDown with
      | true =>
          rw [Connector.step, connectAsync_of_shutDown running]
          exact ⟨outline, orderly⟩
      | false => exact orderly.connectAsync running address
  | settle place outcome =>
      obtain ⟨after, settled, -⟩ := orderly.settle place outcome
      exact ⟨after, settled⟩
  | fire index =>
      refine ⟨_, orderly.toExclusive.fire index, orderly.housed.of_stays (Outline.stays_fire _ _), ?_⟩
      intro number isTried
      change ∃ call ∈ (connector.fire index).1.calls, _
      rw [(orderly.toStands.fire index).2.calls]
      rcases Outline.mem_attempts_fire isTried with before | isRetry
      · exact orderly.awaited number before
      · cases isRetry
  | close channel => exact ⟨_, orderly.close channel⟩
  | setReconnect connection enabled => exact orderly.chore (.turn connector connection enabled)
  | manage address connection => exact orderly.chore (.setRegistry connector _)
  | cancelReconnect address => exact orderly.chores (chores_cancelReconnect connector address)
  | cancelAllReconnect => exact orderly.chores (chores_cancelEach _ connector)
  | shutDown =>
      cases running : connector.isShutDown with
      | true =>
          rw [Connector.step, shutDown_of_shutDown running]
          exact ⟨outline, orderly⟩
      | false => exact orderly.mark.chores (chores_shutDown running)
  | workerStep watchdog worker =>
      have calm := Fabric.Calm.workerStep connector.fabric watchdog worker
      have quiet := Fabric.Quiet.workerStep watchdog worker orderly.shows.plain
      exact ⟨outline, orderly.of_kept ⟨calm, rfl, rfl, rfl, rfl⟩ (orderly.toExclusive.of_quiet quiet)
        orderly.housed⟩
  | addCompletionListener connection listener =>
      have calm := Fabric.Calm.addCompletionListener connector.fabric connection listener
      have quiet := Fabric.Quiet.addCompletionListener connector.fabric connection listener
      exact ⟨outline, orderly.of_kept ⟨calm, rfl, rfl, rfl, rfl⟩ (orderly.toExclusive.of_quiet quiet)
        orderly.housed⟩

theorem Orderly.run (orderly : connector.Orderly application outline) (events : List ConnectorEvent) :
    ∃ after, (connector.run events).Orderly application after := by
  induction events generalizing connector outline with
  | nil => exact ⟨outline, orderly⟩
  | cons event rest ih =>
      obtain ⟨after, stepped⟩ := orderly.step event
      exact ih stepped

/-! ### Emptying the registry -/

theorem registry_foldl_setReconnect (connections : List Nat) (connector : Connector) :
    (connections.foldl (fun changed found => changed.setReconnect found false) connector).registry
      = connector.registry := by
  induction connections generalizing connector with
  | nil => rfl
  | cons connection rest ih => exact ih _

/-- Cancelling an address takes all its connections out of management, and no others. -/
theorem entries_cancelReconnect (connector : Connector) (address : Address) :
    (connector.cancelReconnect address).1.registry.entries
      = connector.registry.entries.filter fun entry => entry.1 ≠ address := by
  simp only [cancelReconnect]
  cases isListed : connector.registry.entries.lookup address with
  | none =>
      simp only [ConnectionRegistry.withdraw, isListed]
      refine (List.filter_eq_self.2 ?_).symm
      intro entry isEntry
      have unlisted := List.lookup_eq_none_iff.1 isListed entry isEntry
      exact decide_eq_true (bne_iff_ne.1 unlisted).symm
  | some connections =>
      simp only [ConnectionRegistry.withdraw, isListed]
      exact congrArg ConnectionRegistry.entries (registry_foldl_setReconnect connections _)

theorem entries_cancelEach (addresses : List Address) (connector : Connector) :
    (connector.cancelEach addresses).1.registry.entries
      = connector.registry.entries.filter fun entry => entry.1 ∉ addresses := by
  induction addresses generalizing connector with
  | nil => simp only [cancelEach, List.not_mem_nil, not_false_eq_true, decide_true, List.filter_true]
  | cons address rest ih =>
      refine (ih (connector.cancelReconnect address).1).trans ?_
      rw [entries_cancelReconnect, List.filter_filter]
      apply List.filter_congr
      intro entry _
      simp only [List.mem_cons, not_or, Bool.decide_and, Bool.and_comm]

theorem registry_closeMembers (pools : List Nat) (connector : Connector) :
    (connector.closeMembers pools).1.registry = connector.registry := by
  have closing : ∀ (channels : List Nat) (connector : Connector),
      (channels.foldl close connector).registry = connector.registry := by
    intro channels
    induction channels with
    | nil => exact fun _ => rfl
    | cons channel rest ih => exact fun connector => ih (connector.close channel)
  induction pools generalizing connector with
  | nil => rfl
  | cons pool rest ih => exact (ih _).trans (closing _ connector)

/-- A shutdown takes all connections out of management. -/
theorem entries_shutDown (running : connector.isShutDown = false) :
    connector.shutDown.registry.entries = [] := by
  have kept : connector.shutDown.registry.entries
      = (({ connector with isShutDown := true } : Connector).cancelAllReconnect).1.registry.entries := by
    simp only [shutDown]
    rw [if_neg (by rw [running]; exact Bool.false_ne_true)]
    exact congrArg ConnectionRegistry.entries (registry_closeMembers _ _)
  rw [kept, cancelAllReconnect, entries_cancelEach, List.filter_eq_nil_iff]
  intro entry isEntry
  simp only [decide_eq_true_eq, not_not]
  exact List.mem_map_of_mem isEntry

/-! ### Emptying the pools -/

namespace Orderly

/-- Channels that are closed one after the other are in no pool any more. -/
theorem foldl_close (channels : List Nat) (orderly : connector.Orderly application outline) :
    ∃ after, (channels.foldl Connector.close connector).Orderly application after
      ∧ ∀ pool, ∀ member ∈ after.members pool, member ∈ outline.members pool ∧ member ∉ channels := by
  induction channels generalizing connector outline with
  | nil => exact ⟨outline, orderly, fun _ _ isMember => ⟨isMember, List.not_mem_nil⟩⟩
  | cons channel rest ih =>
      obtain ⟨after, closed, members⟩ := ih (orderly.close channel)
      refine ⟨after, closed, ?_⟩
      intro pool member isMember
      obtain ⟨stayed, notRest⟩ := members pool member isMember
      obtain ⟨wasMember, different⟩ := Outline.not_mem_members_close orderly.sound stayed
      exact ⟨wasMember, List.not_mem_cons_of_ne_of_not_mem different notRest⟩

/-- The pools whose members were closed are empty, and no pool has gained a member. -/
theorem closeMembers (pools : List Nat) (orderly : connector.Orderly application outline) :
    ∃ after, (connector.closeMembers pools).1.Orderly application after
      ∧ ∀ pool, ∀ member ∈ after.members pool, member ∈ outline.members pool ∧ pool ∉ pools := by
  induction pools generalizing connector outline with
  | nil => exact ⟨outline, orderly, fun _ _ isMember => ⟨isMember, List.not_mem_nil⟩⟩
  | cons first rest ih =>
      have members : connector.members first = outline.members first := by
        rw [orderly.shows.members_eq]
        rfl
      obtain ⟨middle, closed, closedMembers⟩ := orderly.foldl_close (connector.members first)
      obtain ⟨after, others, otherMembers⟩ := ih closed
      refine ⟨after, others, ?_⟩
      intro pool member isMember
      obtain ⟨stayed, notRest⟩ := otherMembers pool member isMember
      obtain ⟨wasMember, notClosed⟩ := closedMembers pool member stayed
      refine ⟨wasMember, List.not_mem_cons_of_ne_of_not_mem ?_ notRest⟩
      intro isFirst
      rw [members] at notClosed
      exact notClosed (isFirst ▸ wasMember)

/-- A pool with a member is the pool of an address. -/
theorem mem_groups_of_member (orderly : connector.Orderly application outline) {pool member : Nat}
    (isMember : member ∈ outline.members pool) : pool ∈ connector.groups.map Prod.snd := by
  obtain ⟨number, -, inPool⟩ := orderly.sound.enrolled pool member isMember
  obtain ⟨post, isThere, isPool⟩ := Option.bind_eq_some_iff.1 inPool
  obtain ⟨found, isFound, isGroup⟩ := orderly.sound.pooled number post isThere
  have same : pool = found := Option.some.inj (isPool.symm.trans isFound)
  obtain ⟨before, behind, groups, -⟩ := List.lookup_eq_some_iff.1 isGroup
  rw [groups, same]
  exact List.mem_map.2 ⟨(post.address, found),
    List.mem_append_right _ List.mem_cons_self, rfl⟩

/-- Right after a shutdown no channel is open. -/
theorem shutDown (orderly : connector.Orderly application outline)
    (running : connector.isShutDown = false) :
    ∃ after, connector.shutDown.Orderly application after ∧ ¬ after.Live := by
  let left := (({ connector with isShutDown := true } : Connector).cancelAllReconnect).1
  obtain ⟨middle, cancelled⟩ : ∃ middle, left.Orderly application middle :=
    orderly.mark.chores (chores_cancelEach _ _)
  obtain ⟨after, closed, members⟩ := cancelled.closeMembers (left.groups.map Prod.snd)
  have noMember : ¬ ∃ pool channel, channel ∈ after.members pool := by
    rintro ⟨pool, channel, isMember⟩
    obtain ⟨wasMember, notClosed⟩ := members pool channel isMember
    exact notClosed (cancelled.mem_groups_of_member wasMember)
  refine ⟨after.stopTimer, ?_, ?_⟩
  · simp only [Connector.shutDown]
    rw [if_neg (by rw [running]; exact Bool.false_ne_true)]
    exact closed.stopTimer.log _
  · exact fun live => noMember ((Outline.live_iff_exists_member closed.sound closed.housed).1 live)

end Orderly

/-! ### What late attempts leave -/

theorem append_ne_nil (address : Address) (connection : Nat) (entries : List (Address × List Nat)) :
    ConnectionRegistry.append address connection entries ≠ [] := by
  cases entries with
  | nil => exact List.cons_ne_nil _ _
  | cons entry rest =>
      simp only [ConnectionRegistry.append]
      split <;> exact List.cons_ne_nil _ _

/-- An attempt that ends brings a connection under management exactly if a caller made it and it did not
fail. -/
theorem Orderly.entries_settle (orderly : connector.Orderly application outline) (place : Nat)
    (outcome : Outcome) :
    (connector.settle place outcome).1.registry.entries = []
      ↔ connector.registry.entries = []
        ∧ ∀ attempt, connector.fabric.underWay[place]? = some attempt → attempt.origin = .caller →
            ∃ error, outcome = .failed error := by
  cases isThere : connector.fabric.underWay[place]? with
  | none => simp only [Connector.settle, isThere, reduceCtorEq, false_implies, implies_true, and_true]
  | some attempt =>
      have handedOut := settle_answer connector.fabric isThere outcome
      simp only [Option.some.injEq, forall_eq', Connector.settle, isThere]
      cases isOrigin : attempt.origin with
      | retry => simp only [reduceCtorEq, false_implies, and_true]
      | caller =>
          have isTried : (attempt.watchdog, Origin.caller) ∈ outline.attempts := by
            rw [orderly.attempts_eq]
            exact List.mem_map.2 ⟨attempt, List.mem_of_getElem? isThere, by rw [isOrigin]⟩
          obtain ⟨waiting, isCall, isOwn⟩ := orderly.awaited _ isTried
          obtain ⟨call, isFound⟩ : ∃ call,
              (connector.calls.find? fun call => call.watchdog == attempt.watchdog) = some call :=
            Option.isSome_iff_exists.1 (List.find?_isSome.2 ⟨waiting, isCall, beq_iff_eq.2 isOwn⟩)
          simp only [isFound, forall_const]
          by_cases isFailure : ∃ error, outcome = .failed error
          · obtain ⟨error, rfl⟩ := isFailure
            dsimp only at handedOut
            simp only [handedOut]
            exact ⟨fun noEntry => ⟨noEntry, error, rfl⟩, And.left⟩
          · obtain ⟨channel, isAnswer⟩ :
                ∃ channel, (connector.fabric.settle place outcome).2 = some (.ok channel) := by
              cases outcome with
              | failed error => exact absurd ⟨error, rfl⟩ isFailure
              | _ => exact handedOut
            simp only [isAnswer]
            exact iff_of_false (append_ne_nil _ _ _) fun both => isFailure both.2

/-- The attempts that end when some places are settled one after the other, each with its outcome. -/
def conclusions : List Attempt → List (Nat × Outcome) → List (Attempt × Outcome)
  | _, [] => []
  | underWay, (place, outcome) :: rest =>
      match underWay[place]? with
      | some attempt => (attempt, outcome) :: conclusions (underWay.eraseIdx place) rest
      | none => conclusions underWay rest

theorem forall_conclusions_cons (holds : Attempt × Outcome → Prop) (underWay : List Attempt) (place : Nat)
    (outcome : Outcome) (rest : List (Nat × Outcome)) :
    (∀ ending ∈ conclusions underWay ((place, outcome) :: rest), holds ending)
      ↔ (∀ attempt, underWay[place]? = some attempt → holds (attempt, outcome))
        ∧ ∀ ending ∈ conclusions (underWay.eraseIdx place) rest, holds ending := by
  rw [conclusions]
  cases isThere : underWay[place]? with
  | none =>
      rw [List.eraseIdx_of_length_le (List.getElem?_eq_none_iff.1 isThere)]
      simp only [reduceCtorEq, false_implies, implies_true, true_and]
  | some attempt => simp only [List.forall_mem_cons, Option.some.injEq, forall_eq']

/-- Attempts end, one after the other. -/
def settling (endings : List (Nat × Outcome)) : List ConnectorEvent :=
  endings.map fun ending => .settle ending.1 ending.2

/-- After some attempts have ended, no channel is open exactly if none was and no attempt was established,
and nothing is under management exactly if nothing was and every caller's attempt failed. -/
theorem Orderly.run_settling (endings : List (Nat × Outcome))
    (orderly : connector.Orderly application outline) :
    ∃ after, (connector.run (settling endings)).Orderly application after
      ∧ (¬ after.Live ↔ ¬ outline.Live
          ∧ ∀ ending ∈ conclusions connector.fabric.underWay endings, ending.2 ≠ .established)
      ∧ ((connector.run (settling endings)).registry.entries = []
          ↔ connector.registry.entries = []
            ∧ ∀ ending ∈ conclusions connector.fabric.underWay endings,
                ending.1.origin = .caller → ∃ error, ending.2 = .failed error) := by
  induction endings generalizing connector outline with
  | nil =>
      refine ⟨outline, orderly, (and_iff_left ?_).symm, (and_iff_left ?_).symm⟩
      · exact fun _ isEnding => absurd isEnding List.not_mem_nil
      · exact fun _ isEnding => absurd isEnding List.not_mem_nil
  | cons ending rest ih =>
      obtain ⟨place, outcome⟩ := ending
      obtain ⟨middle, settled, live⟩ := orderly.settle place outcome
      have entries := orderly.entries_settle place outcome
      obtain ⟨after, ran, ranLive, ranEntries⟩ := ih settled
      rw [underWay_settle] at ranLive ranEntries
      refine ⟨after, ran, ?_, ?_⟩
      · rw [ranLive, live, forall_conclusions_cons, and_assoc]
      · rw [forall_conclusions_cons, ← and_assoc, ← entries]
        exact ranEntries

/-! ### What is left -/

/-- Every channel that ever came up is closed. -/
def AllClosed (connector : Connector) : Prop :=
  ∀ channel ∈ connector.fabric.roster.channels, channel.isOpen = false

/-- No pool has a member. -/
def AllEmpty (connector : Connector) : Prop :=
  ∀ pool ∈ connector.fabric.roster.pools, pool.members = []

/-- An open channel has a watchdog. -/
theorem Orderly.allClosed_iff (orderly : connector.Orderly application outline) :
    connector.AllClosed ↔ ¬ outline.Live := by
  have links : outline.links = connector.fabric.roster.channels.map Channel.link := orderly.shows.links_eq
  constructor
  · rintro closed ⟨number, isLink⟩
    rw [links] at isLink
    obtain ⟨channel, isChannel, linked⟩ := List.mem_map.1 isLink
    rw [Channel.link, closed channel isChannel] at linked
    cases linked
  · intro noneOpen channel isChannel
    by_contra isOpen
    have opened : channel.isOpen = true := Bool.of_not_eq_false isOpen
    obtain ⟨place, isThere⟩ := List.mem_iff_getElem?.1 isChannel
    obtain ⟨number, isHandler⟩ := Option.isSome_iff_exists.1
      (orderly.shows.tidy.handled (place + 1) channel isThere opened)
    refine noneOpen ⟨number, ?_⟩
    rw [links]
    refine List.mem_map.2 ⟨channel, isChannel, ?_⟩
    rw [Channel.link, if_pos opened, isHandler]

/-- The pools are empty exactly if all channels are closed. -/
theorem Orderly.allEmpty_iff (orderly : connector.Orderly application outline) :
    connector.AllEmpty ↔ ¬ outline.Live := by
  rw [Outline.live_iff_exists_member orderly.sound orderly.housed, orderly.shows.members_eq]
  constructor
  · rintro empty ⟨pool, channel, isMember⟩
    rw [Roster.membersOf] at isMember
    split at isMember
    · rename_i held isThere
      rw [empty held (List.mem_of_getElem? isThere)] at isMember
      cases isMember
    · cases isMember
  · intro noMember held isPool
    obtain ⟨pool, isThere⟩ := List.mem_iff_getElem?.1 isPool
    rw [List.eq_nil_iff_forall_not_mem]
    intro channel isMember
    rw [← Roster.membersOf_of_getElem? isThere] at isMember
    exact noMember ⟨pool, channel, isMember⟩

end Connector

end Uplink
