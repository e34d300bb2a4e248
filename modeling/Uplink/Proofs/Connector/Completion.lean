/-
Module: Uplink.Proofs.Connector.Completion
Purpose: A connection is complete only after an attempt of its own watchdog has succeeded.  It stays complete,
  and each of its completion listeners runs once if it is complete and not at all otherwise.
Main exports: runsOf, Latch.Accounts, Files.Truthful, Connector.Succeeded, Connector.registered,
  Connector.Truthful.step, Connector.Truthful.run, Connector.completion_is_truthful
-/
import Uplink.Proofs.Connector.Chores
import Uplink.Proofs.Connector.Outline
import Uplink.Proofs.Fabric.Files
import Uplink.Proofs.Fabric.Rounds

namespace Uplink

/-! ### Who ran -/

/-- The listeners of a connection among all those that ran, each of which is noted behind the number of its
connection. -/
def runsOf (ran : List (Nat × Nat)) (connection : Nat) : List Nat :=
  (ran.filter fun run => run.1 == connection).map Prod.snd

theorem runsOf_append (ran more : List (Nat × Nat)) (connection : Nat) :
    runsOf (ran ++ more) connection = runsOf ran connection ++ runsOf more connection := by
  simp only [runsOf, List.filter_append, List.map_append]

/-- Listeners of one connection are no listeners of another. -/
theorem runsOf_tagged (number : Nat) (listeners : List Nat) (connection : Nat) :
    runsOf (listeners.map (Prod.mk number)) connection = if number = connection then listeners else [] := by
  induction listeners with
  | nil => simp [runsOf]
  | cons listener rest ih =>
      simp only [runsOf, List.map_cons, List.filter_cons, beq_iff_eq] at ih ⊢
      split at ih
      · rename_i same
        rw [if_pos same, if_pos same, List.map_cons, ih]
      · rename_i different
        rw [if_neg different, if_neg different, ih]

/-- The latch of a completion goes with what is known of its connection.  As long as it is open, all those who
were registered wait and nobody ran; once it is done there was a success, and all of them ran in order. -/
def Latch.Accounts (latch : Latch Nat) (succeeded : Prop) (registered ran : List Nat) : Prop :=
  match latch with
  | .waiting hooks => hooks = registered ∧ ran = []
  | .done => succeeded ∧ ran = registered

theorem Latch.Accounts.cases {latch : Latch Nat} {succeeded : Prop} {registered ran : List Nat}
    (accounts : latch.Accounts succeeded registered ran) :
    (latch.isDone = true → succeeded) ∧ ran = if latch.isDone = true then registered else [] := by
  cases latch with
  | waiting hooks => exact ⟨fun isDone => Bool.noConfusion isDone, accounts.2⟩
  | done => exact ⟨fun _ => accounts.1, accounts.2⟩

/-- What is on file is true of the connections: each one's watchdog has its own number and tells nobody but the
connection, no news waits without a success, and every latch goes with what has happened.  The connections that
are known to be complete are so. -/
structure Files.Truthful (files : Files) (known succeeded : Nat → Prop) (registered : Nat → List Nat)
    (ran : List (Nat × Nat)) : Prop where
  paired : files.latches.length = files.audiences.length
  aligned : files.switches.length = files.latches.length
  audience : ∀ (number : Nat) (audience : List Listener), files.audiences[number]? = some audience →
    audience = [.completion number]
  news : ∀ (number : Nat) (staff : List (Worker SuccessNews)), files.staffs[number]? = some staff →
    ∀ worker ∈ staff,
    (∀ job ∈ worker.queue, job.held = none ∧ succeeded number)
      ∧ ∀ job, worker.running = some job → job.held = none ∧ succeeded number
  wired : ∀ (number : Nat) (switch : Option ReconnectSwitch), files.switches[number]? = some switch →
    switch = some (.watchdog number)
  latch : ∀ number,
    (files.latches.getD number .fresh).Accounts (succeeded number) (registered number) (runsOf ran number)
  known : ∀ number, known number → files.latches[number]? = some .done
  reports : files.reports = ran.map Prod.snd

namespace Files

variable {files : Files} {known succeeded more : Nat → Prop} {registered : Nat → List Nat}
  {ran : List (Nat × Nat)} {number : Nat}

namespace Truthful

/-- Further successes are no contradiction. -/
theorem weaken (truthful : files.Truthful known succeeded registered ran)
    (implied : ∀ number, succeeded number → more number) : files.Truthful known more registered ran := by
  refine ⟨truthful.paired, truthful.aligned, truthful.audience, ?_, truthful.wired, ?_, truthful.known,
    truthful.reports⟩
  · intro number staff isThere worker isWorker
    obtain ⟨queued, running⟩ := truthful.news number staff isThere worker isWorker
    exact ⟨fun job isJob => (queued job isJob).imp_right (implied number),
      fun job isRunning => (running job isRunning).imp_right (implied number)⟩
  · intro number
    have before := truthful.latch number
    cases isLatch : files.latches.getD number .fresh with
    | waiting hooks =>
        rw [isLatch] at before
        exact before
    | done =>
        rw [isLatch] at before
        exact before.imp_left (implied number)

/-- Some connections are known to be complete, others are forgotten. -/
theorem know (truthful : files.Truthful known succeeded registered ran)
    (isDone : ∀ number, more number → files.latches[number]? = some .done) :
    files.Truthful more succeeded registered ran :=
  { truthful with known := isDone }

/-- A success completes its connection, and whoever waited runs. -/
theorem complete (truthful : files.Truthful known succeeded registered ran) (isSuccess : succeeded number) :
    ∃ ran, (files.complete number).Truthful known succeeded registered ran := by
  simp only [Files.complete]
  cases isThere : files.latches[number]? with
  | none => exact ⟨ran, truthful⟩
  | some latch =>
      have isLatch : files.latches.getD number .fresh = latch := by
        rw [List.getD_eq_getElem?_getD, isThere, Option.getD_some]
      have bound : number < files.latches.length := (List.getElem?_eq_some_iff.1 isThere).1
      have isDone : latch.complete.1 = .done := by cases latch <;> rfl
      refine ⟨ran ++ latch.complete.2.2.map (Prod.mk number), ⟨?_, ?_, truthful.audience, truthful.news,
        truthful.wired, ?_, ?_, ?_⟩⟩
      · exact List.length_set.trans truthful.paired
      · exact truthful.aligned.trans List.length_set.symm
      · intro other
        have before := truthful.latch other
        rw [runsOf_append, runsOf_tagged, List.getD_eq_getElem?_getD]
        by_cases same : number = other
        · rw [← same, isLatch] at before
          rw [← same, List.getElem?_set_self bound, Option.getD_some, isDone, if_pos rfl]
          cases latch with
          | waiting hooks => exact ⟨isSuccess, by rw [before.2]; exact before.1⟩
          | done => exact ⟨isSuccess, by rw [before.2]; exact List.append_nil _⟩
        · rw [List.getElem?_set_ne same, if_neg same, List.append_nil, ← List.getD_eq_getElem?_getD]
          exact before
      · intro other isKnown
        by_cases same : number = other
        · rw [← same, List.getElem?_set_self bound, isDone]
        · rw [List.getElem?_set_ne same]
          exact truthful.known other isKnown
      · simp only [truthful.reports, List.map_append, List.map_map, Function.comp_def, List.map_id']

/-- A listener that is registered waits, or runs at once if the connection is complete. -/
theorem listen (truthful : files.Truthful known succeeded registered ran) (number listener : Nat) :
    ∃ ran, (files.listen number listener).Truthful known succeeded
      (fun other => registered other
        ++ if number = other ∧ number < files.latches.length then [listener] else []) ran := by
  simp only [Files.listen]
  cases isThere : files.latches[number]? with
  | none =>
      have isAbsent := List.getElem?_eq_none_iff.1 isThere
      refine ⟨ran, ?_⟩
      simp only [Nat.not_lt.2 isAbsent, and_false, if_false, List.append_nil]
      exact truthful
  | some latch =>
      have isLatch : files.latches.getD number .fresh = latch := by
        rw [List.getD_eq_getElem?_getD, isThere, Option.getD_some]
      have bound : number < files.latches.length := (List.getElem?_eq_some_iff.1 isThere).1
      refine ⟨ran ++ (latch.listen listener).2.map (Prod.mk number), ⟨?_, ?_, truthful.audience,
        truthful.news, truthful.wired, ?_, ?_, ?_⟩⟩
      · exact List.length_set.trans truthful.paired
      · exact truthful.aligned.trans List.length_set.symm
      · intro other
        have before := truthful.latch other
        rw [runsOf_append, runsOf_tagged, List.getD_eq_getElem?_getD]
        simp only [bound, and_true]
        by_cases same : number = other
        · rw [← same, isLatch] at before
          rw [← same, List.getElem?_set_self bound, Option.getD_some, if_pos rfl, if_pos rfl]
          cases latch with
          | waiting hooks => exact ⟨by rw [before.1], by rw [before.2]; rfl⟩
          | done => exact ⟨before.1, by rw [before.2]; rfl⟩
        · rw [List.getElem?_set_ne same, if_neg same, if_neg same, List.append_nil, List.append_nil,
            ← List.getD_eq_getElem?_getD]
          exact before
      · intro other isKnown
        have wasDone := truthful.known other isKnown
        by_cases same : number = other
        · rw [same, wasDone] at isThere
          rw [← same, List.getElem?_set_self bound, ← Option.some.inj isThere]
          rfl
        · rw [List.getElem?_set_ne same]
          exact wasDone
      · simp only [truthful.reports, List.map_append, List.map_map, Function.comp_def, List.map_id']

end Truthful

/-- A connection comes in, and a watchdog of its own. -/
def equip (files : Files) : Files :=
  { files with
    audiences := files.audiences ++ [[.completion files.latches.length]]
    staffs := files.staffs ++ [[]]
    latches := files.latches ++ [.fresh]
    switches := files.switches ++ [some (.watchdog files.audiences.length)] }

/-- What is at a place of a list that has become longer by one. -/
theorem cases_getElem?_concat {Entry : Type} {entries : List Entry} {last found : Entry} {place : Nat}
    (isThere : (entries ++ [last])[place]? = some found) :
    entries[place]? = some found ∨ place = entries.length ∧ found = last := by
  rw [List.getElem?_append] at isThere
  split at isThere
  · exact .inl isThere
  · rename_i behind
    obtain ⟨bound, isLast⟩ := List.getElem?_eq_some_iff.1 isThere
    rw [List.length_singleton] at bound
    rw [List.getElem_singleton] at isLast
    exact .inr ⟨by omega, isLast.symm⟩

/-- A fresh connection waits for its first success. -/
theorem Truthful.equip (truthful : files.Truthful known succeeded registered ran) :
    files.equip.Truthful known succeeded registered ran := by
  refine ⟨?_, ?_, ?_, ?_, ?_, ?_, ?_, truthful.reports⟩
  · simp only [Files.equip, List.length_append, List.length_singleton, truthful.paired]
  · simp only [Files.equip, List.length_append, List.length_singleton, truthful.aligned]
  · intro number audience isThere
    rcases cases_getElem?_concat isThere with before | ⟨isLast, isNew⟩
    · exact truthful.audience number audience before
    · rw [isNew, isLast, truthful.paired]
  · intro number staff isThere worker isWorker
    rcases cases_getElem?_concat isThere with before | ⟨-, isNew⟩
    · exact truthful.news number staff before worker isWorker
    · rw [isNew] at isWorker
      exact absurd isWorker List.not_mem_nil
  · intro number switch isThere
    rcases cases_getElem?_concat isThere with before | ⟨isLast, isNew⟩
    · exact truthful.wired number switch before
    · rw [isNew, isLast, truthful.aligned, truthful.paired]
  · intro number
    have same : (files.latches ++ [Latch.fresh]).getD number .fresh = files.latches.getD number .fresh := by
      simp only [List.getD_eq_getElem?_getD, List.getElem?_append]
      split
      · rfl
      · rename_i behind
        rw [List.getElem?_eq_none (Nat.le_of_not_lt behind)]
        cases number - files.latches.length <;> rfl
    simp only [Files.equip, same]
    exact truthful.latch number
  · intro number isKnown
    have wasDone := truthful.known number isKnown
    simp only [Files.equip]
    rw [List.getElem?_append_left (List.getElem?_eq_some_iff.1 wasDone).1]
    exact wasDone

end Files

/-! ### Watchdogs -/

/-- A connection is complete if its latch is done. -/
theorem Fabric.complete?_iff {fabric : Fabric} {number : Nat} :
    fabric.complete? number = some true ↔ fabric.files.latches[number]? = some .done := by
  simp only [Fabric.complete?, Fabric.files, List.getElem?_map, Option.map_eq_some_iff]
  constructor
  case mp =>
    rintro ⟨found, isThere, isComplete⟩
    refine ⟨found, isThere, ?_⟩
    rw [Connection.isComplete] at isComplete
    cases isLatch : found.completion with
    | done => rfl
    | waiting hooks =>
        rw [isLatch] at isComplete
        cases isComplete
  case mpr =>
    rintro ⟨found, isThere, isDone⟩
    exact ⟨found, isThere, by rw [Connection.isComplete, isDone]; rfl⟩

/-- A connection that is not there is not complete. -/
theorem Fabric.isDone_latch {fabric : Fabric} {number : Nat} :
    (fabric.files.latches.getD number .fresh).isDone = true ↔ fabric.complete? number = some true := by
  rw [Fabric.complete?_iff, List.getD_eq_getElem?_getD]
  cases fabric.files.latches[number]? with
  | none =>
      constructor
      case mp => exact fun isDone => Bool.noConfusion isDone
      case mpr => exact fun isThere => nomatch isThere
  | some latch => cases latch <;> simp [Latch.isDone]

/-- What is on file about the connections of a fabric is true. -/
def Fabric.Truthful (fabric : Fabric) (known succeeded : Nat → Prop) (registered : Nat → List Nat) : Prop :=
  ∃ ran, fabric.files.Truthful known succeeded registered ran

namespace Fabric.Truthful

variable {fabric after : Fabric} {known succeeded more : Nat → Prop} {registered : Nat → List Nat}
  {number : Nat} {watchdog : Watchdog}

theorem of_files (truthful : fabric.Truthful known succeeded registered)
    (same : after.files = fabric.files) : after.Truthful known succeeded registered := by
  obtain ⟨ran, isTrue⟩ := truthful
  exact ⟨ran, same.symm ▸ isTrue⟩

theorem weaken (truthful : fabric.Truthful known succeeded registered)
    (implied : ∀ number, succeeded number → more number) : fabric.Truthful known more registered := by
  obtain ⟨ran, isTrue⟩ := truthful
  exact ⟨ran, isTrue.weaken implied⟩

theorem completeConnection (truthful : fabric.Truthful known succeeded registered)
    (isSuccess : succeeded number) :
    (fabric.completeConnection number).Truthful known succeeded registered := by
  obtain ⟨ran, isTrue⟩ := truthful
  rw [Truthful, files_completeConnection]
  exact isTrue.complete isSuccess

theorem audience (truthful : fabric.Truthful known succeeded registered)
    (isThere : fabric.watchdogs[number]? = some watchdog) :
    watchdog.listeners = [.completion number] := by
  obtain ⟨ran, isTrue⟩ := truthful
  apply isTrue.audience number
  simp only [files, List.getElem?_map, isThere, Option.map_some]

/-- All news is free to be told, and of a success. -/
theorem news (truthful : fabric.Truthful known succeeded registered)
    (isThere : fabric.watchdogs[number]? = some watchdog) :
    watchdog.notifier.Every fun job => job.held = none ∧ succeeded number := by
  obtain ⟨ran, isTrue⟩ := truthful
  apply isTrue.news number
  simp only [files, List.getElem?_map, isThere, Option.map_some]

/-- Work on a notifier that brings in no news but of a success. -/
theorem changeNotifier (truthful : fabric.Truthful known succeeded registered)
    {change : Notifier SuccessNews → Notifier SuccessNews}
    (keeps : ∀ notifier : Notifier SuccessNews,
      (notifier.Every fun job => job.held = none ∧ succeeded number) →
      (change notifier).Every fun job => job.held = none ∧ succeeded number) :
    (fabric.changeNotifier number change).Truthful known succeeded registered := by
  have before : ∀ (other : Nat) (watchdog : Watchdog), fabric.watchdogs[other]? = some watchdog →
      watchdog.notifier.Every fun job => job.held = none ∧ succeeded other := fun _ _ => truthful.news
  obtain ⟨ran, isTrue⟩ := truthful
  rw [Truthful, files_changeNotifier]
  refine ⟨ran, isTrue.paired, isTrue.aligned, isTrue.audience, ?_, isTrue.wired, isTrue.latch, isTrue.known,
    isTrue.reports⟩
  intro other staff isThere
  simp only [files, List.getElem?_map] at isThere
  obtain ⟨found, isFound, isStaff⟩ := Option.map_eq_some_iff.1 isThere
  simp only [Fabric.changeNotifier, Fabric.changeWatchdog, List.getElem?_modify] at isFound
  obtain ⟨earlier, wasThere, same⟩ := Option.map_eq_some_iff.1 isFound
  rw [← isStaff, ← same]
  by_cases isNumber : number = other
  · rw [if_pos isNumber]
    rw [← isNumber] at wasThere ⊢
    exact keeps earlier.notifier (before number earlier wasThere)
  · rw [if_neg isNumber]
    exact before other earlier wasThere

theorem notifySuccess (truthful : fabric.Truthful known succeeded registered) (isSuccess : succeeded number)
    (attempts : UInt32) : (fabric.notifySuccess number attempts).Truthful known succeeded registered := by
  rcases level_notifySuccess fabric number attempts with level | ⟨watchdog, isThere, level⟩
  · exact truthful.of_files level.files
  · have submitted : (watchdog.notifier.submit { attempts, held := none }).1.Every
        fun job => job.held = none ∧ succeeded number :=
      (truthful.news isThere).submit ⟨rfl, isSuccess⟩
    exact (truthful.changeNotifier fun _ _ => submitted).of_files level.files

/-- A worker that takes news completes the connection of its watchdog, unless the watchdog is stopped. -/
theorem beginNews (truthful : fabric.Truthful known succeeded registered)
    (isThere : fabric.watchdogs[number]? = some watchdog) (worker : Nat) :
    (fabric.beginNews number worker watchdog).Truthful known succeeded registered := by
  have begun := (truthful.news isThere).begin worker
  unfold Fabric.beginNews
  split
  · exact truthful
  · rename_i notifier news isBegun
    rw [isBegun] at begun
    have isSuccess : succeeded number := (begun.2 news rfl).2
    have taken : (fabric.changeNotifier number fun _ => notifier).Truthful known succeeded registered :=
      truthful.changeNotifier fun _ _ => begun.1
    dsimp only
    split
    · rw [truthful.audience isThere]
      exact (taken.completeConnection isSuccess).changeNotifier fun _ every => every.finish worker
    · exact taken.changeNotifier fun _ every => every.finish worker

theorem workerStep (truthful : fabric.Truthful known succeeded registered) (number worker : Nat) :
    (fabric.workerStep number worker).Truthful known succeeded registered := by
  simp only [Fabric.workerStep]
  cases isThere : fabric.watchdogs[number]? with
  | none => exact truthful
  | some watchdog =>
      dsimp only
      split
      · rename_i attempts observer rest isRunning
        obtain ⟨found, isWorker, runs⟩ := Option.bind_eq_some_iff.1 isRunning
        have news := truthful.news isThere
        have unheld := ((news found (List.mem_of_getElem? isWorker)).2 _ runs).1
        cases unheld
      · exact truthful.beginNews isThere worker

/-- A connection does not wait for failures. -/
theorem failed (truthful : fabric.Truthful known succeeded registered) (attempt : Attempt)
    (error : TransportError) : (fabric.failed attempt error).Truthful known succeeded registered := by
  have lost : ∀ {after : Fabric}, after.files = fabric.files →
      (after.onDisconnected attempt.watchdog).Truthful known succeeded registered := by
    intro after same
    apply truthful.of_files
    rw [(level_onDisconnected after attempt.watchdog).files, files_lose, same]
  simp only [Fabric.failed]
  split
  · rename_i watchdog isRetry isThere
    apply lost
    split
    · have stillThere : (fabric.log (watchdog.line .warn "reconnect attempt failed"
          [("attempts", Text.decimal attempt.attempts.toNat), ("code", error.code),
           ("error", error.message)])).watchdogs[attempt.watchdog]? = some watchdog := isThere
      simp only [notifyFailure, stillThere, truthful.audience isThere]
      rfl
    · rfl
  · exact truthful

/-- An attempt ends.  If it brings a channel, that is a success of its watchdog. -/
theorem settle (truthful : fabric.Truthful known succeeded registered) {place : Nat} {outcome : Outcome}
    (successful : ∀ attempt, fabric.underWay[place]? = some attempt → outcome.isUp = true →
      succeeded attempt.watchdog) :
    (fabric.settle place outcome).1.Truthful known succeeded registered := by
  simp only [Fabric.settle]
  cases isThere : fabric.underWay[place]? with
  | none => exact truthful
  | some attempt =>
      have ended : Fabric.Truthful { fabric with underWay := fabric.underWay.eraseIdx place }
          known succeeded registered := truthful.of_files rfl
      have up : ∀ flaps channel, succeeded attempt.watchdog →
          (((Fabric.establish { fabric with underWay := fabric.underWay.eraseIdx place }
            attempt.watchdog flaps).1).succeeded attempt channel).Truthful known succeeded registered := by
        intro flaps channel isSuccess
        have established := ended.of_files (files_establish _ attempt.watchdog flaps)
        simp only [Fabric.succeeded]
        split
        · exact (established.of_files (Level.log _ _).files).notifySuccess isSuccess _
        · exact established.notifySuccess isSuccess _
      cases outcome with
      | established => exact up false _ (successful attempt isThere rfl)
      | flapped => exact up true _ (successful attempt isThere rfl)
      | failed error => exact ended.failed attempt error

end Fabric.Truthful

/-! ### Connectors -/

namespace Connector

/-- An event brings a watchdog a channel that it attempted to get. -/
def Succeeds (connector : Connector) (watchdog : Nat) (event : ConnectorEvent) : Prop :=
  ∃ place outcome attempt, event = .settle place outcome ∧ outcome.isUp = true
    ∧ connector.fabric.underWay[place]? = some attempt ∧ attempt.watchdog = watchdog

/-- An attempt of a watchdog has succeeded in the course of some events. -/
def Succeeded (connector : Connector) (watchdog : Nat) (events : List ConnectorEvent) : Prop :=
  ∃ earlier event later, events = earlier ++ event :: later
    ∧ (connector.run earlier).Succeeds watchdog event

/-- The listener that an event registers on a connection, if the connection is there. -/
def registers (connector : Connector) (connection : Nat) : ConnectorEvent → List Nat
  | .addCompletionListener number listener =>
      if number = connection ∧ number < connector.fabric.connections.length then [listener] else []
  | _ => []

/-- The listeners that some events register on a connection, in order. -/
def registered (connector : Connector) (connection : Nat) : List ConnectorEvent → List Nat
  | [] => []
  | event :: rest =>
      connector.registers connection event ++ (connector.step event).registered connection rest

/-- What is on file about the connections is true, and everyone who waits for a connection waits for an attempt
of its own watchdog. -/
structure Truthful (connector : Connector) (known succeeded : Nat → Prop) (registered : Nat → List Nat) :
    Prop where
  fabric : connector.fabric.Truthful known succeeded registered
  calls : ∀ call ∈ connector.calls, call.connection = call.watchdog

variable {connector changed : Connector} {known succeeded : Nat → Prop} {registered : Nat → List Nat}

theorem files_group (connector : Connector) (address : Address) :
    (connector.group address).1.fabric.files = connector.fabric.files := by
  simp only [group]
  split <;> rfl

theorem files_equip (connector : Connector) (fabric : Fabric) (address : Address) (pool : Nat) :
    (((fabric.addConnection address).1.addWatchdog
        (connector.guard address pool fabric.connections.length)).1.bind fabric.connections.length
        (.watchdog fabric.watchdogs.length)).1.files = fabric.files.equip := by
  have isNew : (fabric.connections ++ [Connection.fresh address])[fabric.connections.length]?
      = some (Connection.fresh address) := List.getElem?_concat_length
  simp only [Fabric.bind, Fabric.addWatchdog, Fabric.addConnection, isNew]
  simp only [Fabric.files, List.map_append, List.map_cons, List.map_nil, Files.equip, List.length_map,
    List.set_append_right _ _ (Nat.le_refl _), Nat.sub_self, List.set_cons_zero]
  rfl

/-- Setting up a connection brings in a connection and a watchdog with the same number. -/
theorem files_prepare {prepared : Connector} {address : Address} {call : PendingConnect}
    (isPrepared : connector.prepare address = .ok (prepared, call)) :
    prepared.fabric.files = connector.fabric.files.equip ∧ prepared.calls = connector.calls
      ∧ call.connection = connector.fabric.connections.length
      ∧ call.watchdog = connector.fabric.watchdogs.length := by
  have same : (connector.group address).1.fabric.connections = connector.fabric.connections
      ∧ (connector.group address).1.fabric.watchdogs = connector.fabric.watchdogs
      ∧ (connector.group address).1.calls = connector.calls := by
    simp only [group]
    split <;> exact ⟨rfl, rfl, rfl⟩
  simp only [prepare] at isPrepared
  split at isPrepared
  · cases isPrepared
  · injection isPrepared with isPair
    injection isPair with isConnector isCall
    rw [← isConnector, ← isCall, ← files_group connector address, ← same.1, ← same.2.1, ← same.2.2]
    exact ⟨files_equip connector _ address _, rfl, rfl, rfl⟩

theorem files_chores (chores : Chores connector changed) :
    changed.fabric.files = connector.fabric.files := by
  induction chores with
  | refl => rfl
  | tail _ chore ih =>
      refine Eq.trans ?_ ih
      cases chore with
      | turn connection enabled => exact (Fabric.level_turnSwitch _ connection enabled).files
      | close channel => exact Fabric.files_close _ channel
      | log | setRegistry | stopTimer => rfl

namespace Truthful

theorem of_files (truthful : connector.Truthful known succeeded registered)
    (files : changed.fabric.files = connector.fabric.files) (calls : changed.calls = connector.calls) :
    changed.Truthful known succeeded registered :=
  ⟨truthful.fabric.of_files files, calls ▸ truthful.calls⟩

theorem chores (truthful : connector.Truthful known succeeded registered)
    (chores : Chores connector changed) : changed.Truthful known succeeded registered :=
  truthful.of_files (files_chores chores) chores.kept.calls

/-- A connector with a connection more, whose watchdog has the number of the connection. -/
theorem prepare (truthful : connector.Truthful known succeeded registered) {prepared : Connector}
    {address : Address} {call : PendingConnect}
    (isPrepared : connector.prepare address = .ok (prepared, call)) :
    prepared.Truthful known succeeded registered ∧ call.connection = call.watchdog := by
  obtain ⟨files, calls, isConnection, isWatchdog⟩ := files_prepare isPrepared
  obtain ⟨ran, isTrue⟩ := truthful.fabric
  have paired := isTrue.paired
  simp only [Fabric.files, List.length_map] at paired
  refine ⟨⟨⟨ran, files.symm ▸ isTrue.equip⟩, calls.symm ▸ truthful.calls⟩, ?_⟩
  rw [isConnection, isWatchdog, paired]

theorem beginConnect (truthful : connector.Truthful known succeeded registered) (address : Address) :
    (connector.beginConnect address).1.Truthful known succeeded registered := by
  simp only [Connector.beginConnect]
  cases isPrepared : connector.prepare address with
  | error error => exact truthful
  | ok both =>
      obtain ⟨prepared, call⟩ := both
      obtain ⟨there, sameNumber⟩ := truthful.prepare isPrepared
      refine ⟨there.fabric.of_files (Fabric.level_beginCall _ call.watchdog).files, ?_⟩
      intro other isCall
      rcases List.mem_append.1 isCall with before | isNew
      · exact there.calls other before
      · rw [List.mem_singleton.1 isNew]
        exact sameNumber

theorem connectAsync (truthful : connector.Truthful known succeeded registered) (address : Address) :
    (connector.connectAsync address).1.Truthful known succeeded registered := by
  simp only [Connector.connectAsync]
  cases isPrepared : connector.prepare address with
  | error error => exact truthful
  | ok both =>
      obtain ⟨prepared, call⟩ := both
      have there := (truthful.prepare isPrepared).1
      have scheduled := (Fabric.level_schedule prepared.fabric call.watchdog Span.zero).files
      dsimp only
      split
      · rename_i fabric isScheduled
        rw [isScheduled] at scheduled
        exact there.of_files scheduled rfl
      · rename_i fabric error isScheduled
        rw [isScheduled] at scheduled
        exact there.of_files ((Fabric.level_stop fabric call.watchdog).files.trans scheduled) rfl

/-- A caller is answered; the connection is complete if the attempt has succeeded. -/
theorem answer (truthful : connector.Truthful known succeeded registered) {call : PendingConnect}
    (sameNumber : call.connection = call.watchdog) {result : Except TransportError Nat}
    (successful : result.isOk = true → succeeded call.watchdog) :
    (connector.answer call result).1.Truthful known succeeded registered := by
  cases result with
  | error error => exact truthful.of_files (Fabric.level_stop _ call.watchdog).files rfl
  | ok channel =>
      have isSuccess : succeeded call.connection := sameNumber.symm ▸ successful rfl
      have logged := truthful.fabric.of_files
        (Fabric.Level.log connector.fabric (connectedLine call.address channel)).files
      exact ⟨logged.completeConnection isSuccess, truthful.calls⟩

/-- An attempt ends, and a caller who waits for it is answered. -/
theorem settle (truthful : connector.Truthful known succeeded registered) {place : Nat} {outcome : Outcome}
    (successful : ∀ attempt, connector.fabric.underWay[place]? = some attempt → outcome.isUp = true →
      succeeded attempt.watchdog) :
    (connector.settle place outcome).1.Truthful known succeeded registered := by
  have ended := truthful.fabric.settle successful
  simp only [Connector.settle]
  cases isThere : connector.fabric.underWay[place]? with
  | none => exact truthful
  | some attempt =>
      have handedOut := settle_answer connector.fabric isThere outcome
      dsimp only
      split
      · rename_i result call isCaller isResult isFound
        have isCall := List.mem_of_find?_eq_some isFound
        have isMatch := List.find?_some isFound
        have sameWatchdog : call.watchdog = attempt.watchdog := beq_iff_eq.1 isMatch
        have left : (connector.relieve (connector.fabric.settle place outcome).1 call).Truthful known
            succeeded registered :=
          ⟨ended, fun other isOther => truthful.calls other (List.mem_of_mem_filter isOther)⟩
        apply left.answer (truthful.calls call isCall)
        intro isOk
        rw [sameWatchdog]
        apply successful attempt isThere
        cases outcome with
        | failed error =>
            rw [handedOut] at isResult
            rw [← Option.some.inj isResult] at isOk
            cases isOk
        | _ => rfl
      · exact ⟨ended, truthful.calls⟩

theorem fire (truthful : connector.Truthful known succeeded registered) (index : Nat) :
    (connector.fire index).1.Truthful known succeeded registered := by
  have released := (Fabric.level_release connector.fabric index).files
  simp only [Connector.fire]
  split
  all_goals
    rename_i isReleased
    rw [isReleased] at released
  · exact truthful.of_files released rfl
  · exact truthful.of_files released rfl
  · exact truthful.of_files ((Fabric.level_beginRetry _ _).files.trans released) rfl

/-- An event that registers no listener. -/
theorem unregistered (truthful : changed.Truthful known succeeded registered) {event : ConnectorEvent}
    (nobody : ∀ number, connector.registers number event = []) :
    changed.Truthful known (fun number => succeeded number ∨ connector.Succeeds number event)
      (fun number => registered number ++ connector.registers number event) := by
  simp only [nobody, List.append_nil]
  exact ⟨truthful.fabric.weaken fun _ => .inl, truthful.calls⟩

/-- Whatever happens next, what is on file stays true. -/
theorem step (truthful : connector.Truthful known succeeded registered) (event : ConnectorEvent) :
    (connector.step event).Truthful known
      (fun number => succeeded number ∨ connector.Succeeds number event)
      (fun number => registered number ++ connector.registers number event) := by
  cases event with
  | settle place outcome =>
      have weakened : connector.Truthful known
          (fun number => succeeded number ∨ connector.Succeeds number (.settle place outcome)) registered :=
        ⟨truthful.fabric.weaken fun _ => .inl, truthful.calls⟩
      simp only [registers, List.append_nil]
      apply weakened.settle
      intro attempt isThere isUp
      exact .inr ⟨place, outcome, attempt, rfl, isUp, isThere, rfl⟩
  | addCompletionListener connection listener =>
      obtain ⟨ran, isTrue⟩ := truthful.fabric
      have listened := (isTrue.listen connection listener)
      rw [← Fabric.files_addCompletionListener] at listened
      have length : connector.fabric.files.latches.length = connector.fabric.connections.length :=
        List.length_map _
      rw [length] at listened
      exact ⟨Fabric.Truthful.weaken listened fun _ => .inl, truthful.calls⟩
  | connect address => exact (truthful.beginConnect address).unregistered fun _ => rfl
  | connectAsync address => exact (truthful.connectAsync address).unregistered fun _ => rfl
  | fire index => exact (truthful.fire index).unregistered fun _ => rfl
  | close channel =>
      exact (truthful.chores (.single (.close connector channel))).unregistered fun _ => rfl
  | setReconnect connection enabled =>
      exact (truthful.chores (.single (.turn connector connection enabled))).unregistered fun _ => rfl
  | manage address connection =>
      have managed : (connector.manage address connection).Truthful known succeeded registered :=
        truthful.of_files rfl rfl
      exact managed.unregistered fun _ => rfl
  | cancelReconnect address =>
      exact (truthful.chores (chores_cancelReconnect connector address)).unregistered fun _ => rfl
  | cancelAllReconnect =>
      have cancelled : (connector.step .cancelAllReconnect).Truthful known succeeded registered :=
        truthful.chores (chores_cancelEach _ connector)
      exact cancelled.unregistered fun _ => rfl
  | shutDown =>
      cases running : connector.isShutDown with
      | true =>
          rw [Connector.step, shutDown_of_shutDown running]
          exact truthful.unregistered fun _ => rfl
      | false =>
          have marked : ({ connector with isShutDown := true } : Connector).Truthful known succeeded
              registered := truthful.of_files rfl rfl
          exact (marked.chores (chores_shutDown running)).unregistered fun _ => rfl
  | workerStep watchdog worker =>
      have stepped : (connector.step (.workerStep watchdog worker)).Truthful known succeeded registered :=
        ⟨truthful.fabric.workerStep watchdog worker, truthful.calls⟩
      exact stepped.unregistered fun _ => rfl

theorem run (truthful : connector.Truthful known succeeded registered) (events : List ConnectorEvent) :
    (connector.run events).Truthful known
      (fun number => succeeded number ∨ connector.Succeeded number events)
      (fun number => registered number ++ connector.registered number events) := by
  induction events generalizing connector succeeded registered with
  | nil =>
      simp only [Connector.registered, List.append_nil]
      exact ⟨truthful.fabric.weaken fun _ => .inl, truthful.calls⟩
  | cons event rest ih =>
      have others := ih (truthful.step event)
      simp only [List.append_assoc] at others
      refine ⟨others.fabric.weaken ?_, others.calls⟩
      intro number succeededBefore
      rcases succeededBefore with (before | now) | ⟨earlier, later, more, isSplit, succeeds⟩
      · exact .inl before
      · exact .inr ⟨[], event, rest, rfl, now⟩
      · exact .inr ⟨event :: earlier, later, more, congrArg (List.cons event) isSplit, succeeds⟩

end Truthful

/-- Nothing is on file about a connector that was not used yet. -/
theorem truthful_make (config : ConnectorConfig) (application : Option String) :
    (make config application).Truthful (fun _ => False) (fun _ => False) fun _ => [] := by
  refine ⟨⟨[], rfl, rfl, ?_, ?_, ?_, ?_, ?_, rfl⟩, fun _ isCall => absurd isCall List.not_mem_nil⟩
  · intro number audience isThere
    cases isThere
  · intro number staff isThere
    cases isThere
  · intro number switch isThere
    cases isThere
  · exact fun _ => ⟨rfl, rfl⟩
  · exact fun _ isKnown => isKnown.elim

/-- However connecting, retries, failures, losses, news, cancelling and shutting down follow each other, a
connection is complete only if an attempt of its own watchdog has succeeded, and then it stays complete.  Of all
the reports of completion listeners there are, those of each connection are, in order, the ones of the listeners
that were registered on it if it is complete, and none otherwise.  A listener that is registered on a complete
connection reports at once. -/
theorem completion_is_truthful (config : ConnectorConfig) (application : Option String)
    (events : List ConnectorEvent) :
    let start := make config application
    let connector := start.run events
    (∀ number found, connector.fabric.connections[number]? = some found →
        found.switch = some (.watchdog number)
          ∧ (found.isComplete = true → start.Succeeded number events))
      ∧ (∀ number more, connector.fabric.complete? number = some true →
          (connector.run more).fabric.complete? number = some true)
      ∧ (∃ ran : List (Nat × Nat), connector.fabric.roster.reports = ran.map Prod.snd
          ∧ ∀ number, runsOf ran number
            = if connector.fabric.complete? number = some true then start.registered number events else [])
      ∧ ∀ number listener, connector.fabric.complete? number = some true →
          (connector.step (.addCompletionListener number listener)).fabric.roster.reports
            = connector.fabric.roster.reports ++ [listener] := by
  intro start connector
  have truthful := (truthful_make config application).run events
  simp only [false_or, List.nil_append] at truthful
  obtain ⟨ran, isTrue⟩ := truthful.fabric
  refine ⟨?_, ?_, ⟨ran, isTrue.reports, ?_⟩, ?_⟩
  · intro number found isThere
    constructor
    · apply isTrue.wired number
      simp only [Fabric.files, List.getElem?_map]
      exact congrArg (Option.map Connection.switch) isThere
    · intro isComplete
      apply (isTrue.latch number).cases.1
      apply Fabric.isDone_latch.2
      exact (congrArg (Option.map Connection.isComplete) isThere).trans (congrArg some isComplete)
  · intro number more isComplete
    have knowing : connector.Truthful (fun number => connector.fabric.complete? number = some true)
        (fun number => start.Succeeded number events) (fun number => start.registered number events) :=
      ⟨⟨ran, isTrue.know fun _ => Fabric.complete?_iff.1⟩, truthful.calls⟩
    obtain ⟨later, staysTrue⟩ := (knowing.run more).fabric
    exact Fabric.complete?_iff.2 (staysTrue.known number isComplete)
  · intro number
    rw [(isTrue.latch number).cases.2]
    exact if_congr Fabric.isDone_latch rfl rfl
  · intro number listener isComplete
    have listened := Fabric.files_addCompletionListener connector.fabric number listener
    rw [Files.listen, Fabric.complete?_iff.1 isComplete] at listened
    exact congrArg Files.reports listened

end Connector

end Uplink
