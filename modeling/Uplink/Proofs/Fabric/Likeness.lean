/-
Module: Uplink.Proofs.Fabric.Likeness
Purpose: Fabrics that differ in nothing but who listens, what listeners have heard, and what workers are at.  As
  long as listeners make no calls, they stay so.
Main exports: Watchdog.Passive, Fabric.Passive, Fabric.Alike, Fabric.Alike.notifyFailure,
  Fabric.Alike.workerStep, Fabric.Alike.settle, Fabric.Alike.step
-/
import Uplink.Proofs.Fabric.Rounds
import Uplink.Proofs.Pool.Likeness
import Uplink.Proofs.Watchdog.Notifier

namespace Uplink

/-! ### Lists place by place -/

/-- Both lists have entries at the same places, and the entries at a place are related. -/
def PlaceByPlace {Entry : Type} (related : Entry → Entry → Prop) (first second : List Entry) : Prop :=
  ∀ place : Nat, Option.Rel related first[place]? second[place]?

namespace PlaceByPlace

variable {Entry : Type} {related : Entry → Entry → Prop} {first second third : List Entry}

theorem cases (beside : PlaceByPlace related first second) (place : Nat) :
    (first[place]? = none ∧ second[place]? = none)
      ∨ ∃ one other, first[place]? = some one ∧ second[place]? = some other ∧ related one other := by
  have there := beside place
  generalize first[place]? = found, second[place]? = counterpart at there
  cases there with
  | none => exact .inl ⟨rfl, rfl⟩
  | some holds => exact .inr ⟨_, _, rfl, rfl, holds⟩

theorem refl (reflexive : ∀ entry ∈ first, related entry entry) : PlaceByPlace related first first := by
  intro place
  cases isThere : first[place]? with
  | none => exact .none
  | some entry => exact .some (reflexive entry (List.mem_of_getElem? isThere))

theorem symm (turns : ∀ {one other}, related one other → related other one)
    (beside : PlaceByPlace related first second) : PlaceByPlace related second first := by
  intro place
  rcases beside.cases place with ⟨noFirst, noSecond⟩ | ⟨one, other, isFirst, isSecond, holds⟩
  · rw [noFirst, noSecond]
    exact .none
  · rw [isFirst, isSecond]
    exact .some (turns holds)

theorem trans (composes : ∀ {one other last}, related one other → related other last → related one last)
    (before : PlaceByPlace related first second) (after : PlaceByPlace related second third) :
    PlaceByPlace related first third := by
  intro place
  have next := after place
  rcases before.cases place with ⟨noFirst, noSecond⟩ | ⟨one, other, isFirst, isSecond, holds⟩
  · rw [noSecond] at next
    rw [noFirst]
    generalize third[place]? = counterpart at next ⊢
    cases next
    exact .none
  · rw [isSecond] at next
    rw [isFirst]
    generalize third[place]? = counterpart at next ⊢
    cases next with
    | some alsoHolds => exact .some (composes holds alsoHolds)

/-- Both lists are changed at one place, if there is an entry. -/
theorem modify (beside : PlaceByPlace related first second) (number : Nat)
    {change counterpart : Entry → Entry}
    (keeps : ∀ one other, first[number]? = some one → second[number]? = some other → related one other →
      related (change one) (counterpart other)) :
    PlaceByPlace related (first.modify number change) (second.modify number counterpart) := by
  intro place
  rw [List.getElem?_modify, List.getElem?_modify]
  rcases beside.cases place with ⟨noFirst, noSecond⟩ | ⟨one, other, isFirst, isSecond, holds⟩
  · rw [noFirst, noSecond]
    exact .none
  · rw [isFirst, isSecond]
    apply Option.Rel.some
    split
    · rename_i isPlace
      exact keeps one other (isPlace ▸ isFirst) (isPlace ▸ isSecond) holds
    · exact holds

end PlaceByPlace

/-! ### What is alike -/

/-- News whose listeners, as far as a worker has them at the gate, make no calls. -/
def SuccessNews.Passive (news : SuccessNews) : Prop :=
  ∀ observer rest, news.held = some (observer, rest) →
    observer.calls = [] ∧ ∀ listener ∈ rest, listener.calls = []

/-- A watchdog whose listeners make no calls, and neither do those that workers have at the gate. -/
structure Watchdog.Passive (watchdog : Watchdog) : Prop where
  listeners : ∀ listener ∈ watchdog.listeners, listener.calls = []
  news : watchdog.notifier.Every SuccessNews.Passive

/-- Passive watchdogs that differ in nothing but their listeners and their workers. -/
structure Watchdog.Alike (first second : Watchdog) : Prop where
  same : second = { first with listeners := second.listeners, notifier := second.notifier }
  passive : first.Passive
  counterpart : second.Passive

namespace Watchdog

variable {watchdog first second third : Watchdog}

/-- Whoever a worker has at the gate makes no calls. -/
theorem Passive.held (passive : watchdog.Passive) {worker : Nat} {observer : Observer} {rest : List Listener}
    (isHeld : watchdog.heldBy worker = some (observer, rest)) :
    observer.calls = [] ∧ ∀ listener ∈ rest, listener.calls = [] := by
  obtain ⟨news, isJob, atGate⟩ := Option.bind_eq_some_iff.1 isHeld
  obtain ⟨found, isFound, isRunning⟩ := Option.bind_eq_some_iff.1 isJob
  exact (passive.news found (List.mem_of_getElem? isFound)).2 news isRunning observer rest atGate

/-- A watchdog is passive for its listeners and for what its workers are at. -/
theorem Passive.of_same (passive : first.Passive) (listeners : second.listeners = first.listeners)
    (workers : second.notifier.workers = first.notifier.workers) : second.Passive := by
  refine ⟨?_, ?_⟩
  · rw [listeners]
    exact passive.listeners
  · rw [Notifier.Every, workers]
    exact passive.news

theorem Passive.alike (passive : watchdog.Passive) : watchdog.Alike watchdog :=
  ⟨rfl, passive, passive⟩

theorem Alike.symm (alike : first.Alike second) : second.Alike first := by
  refine ⟨?_, alike.counterpart, alike.passive⟩
  rw [alike.same]

theorem Alike.trans (before : first.Alike second) (after : second.Alike third) : first.Alike third := by
  refine ⟨?_, before.passive, after.counterpart⟩
  rw [after.same, before.same]

/-- What does not depend on listeners and workers, and leaves them alone, keeps watchdogs alike. -/
theorem Alike.change (alike : first.Alike second) {change : Watchdog → Watchdog}
    (unswayed : ∀ (watchdog : Watchdog) (listeners : List Listener) (notifier : Notifier SuccessNews),
      ∃ others, change { watchdog with listeners, notifier }
        = { change watchdog with listeners, notifier := others })
    (same : ∀ watchdog : Watchdog, (change watchdog).listeners = watchdog.listeners
      ∧ (change watchdog).notifier.workers = watchdog.notifier.workers) :
    (change first).Alike (change second) := by
  obtain ⟨others, changed⟩ := unswayed first second.listeners second.notifier
  rw [← alike.same] at changed
  refine ⟨?_, alike.passive.of_same (same first).1 (same first).2,
    alike.counterpart.of_same (same second).1 (same second).2⟩
  rw [changed]

end Watchdog

/-- Connections that differ in nothing but who waits for their completion. -/
structure Connection.Alike {Listener Switch : Type} (first second : Connection Listener Switch) : Prop where
  address : second.address = first.address
  connected : second.connected = first.connected
  switch : second.switch = first.switch

namespace Connection.Alike

variable {Listener Switch : Type} {first second third : Connection Listener Switch}

theorem refl (connection : Connection Listener Switch) : connection.Alike connection :=
  ⟨rfl, rfl, rfl⟩

theorem symm (alike : first.Alike second) : second.Alike first :=
  ⟨alike.address.symm, alike.connected.symm, alike.switch.symm⟩

theorem trans (before : first.Alike second) (after : second.Alike third) : first.Alike third :=
  ⟨after.address.trans before.address, after.connected.trans before.connected,
    after.switch.trans before.switch⟩

end Connection.Alike

namespace Fabric

/-- A fabric whose watchdogs are passive. -/
def Passive (fabric : Fabric) : Prop :=
  ∀ watchdog ∈ fabric.watchdogs, watchdog.Passive

/-- Fabrics with passive watchdogs that differ in nothing but who listens, what listeners have heard, what
was logged, and the gate. -/
structure Alike (first second : Fabric) : Prop where
  roster : first.roster.Alike second.roster
  timer : second.timer = first.timer
  watchdogs : PlaceByPlace Watchdog.Alike first.watchdogs second.watchdogs
  connections : PlaceByPlace Connection.Alike first.connections second.connections
  underWay : second.underWay = first.underWay
  connects : second.connects = first.connects

theorem Passive.alike {fabric : Fabric} (passive : fabric.Passive) : fabric.Alike fabric :=
  { roster := .refl _
    timer := rfl
    watchdogs := .refl fun watchdog isWatchdog => (passive watchdog isWatchdog).alike
    connections := .refl fun connection _ => .refl connection
    underWay := rfl
    connects := rfl }

namespace Alike

variable {first second third : Fabric}

theorem symm (alike : first.Alike second) : second.Alike first :=
  { roster := alike.roster.symm
    timer := alike.timer.symm
    watchdogs := alike.watchdogs.symm Watchdog.Alike.symm
    connections := alike.connections.symm Connection.Alike.symm
    underWay := alike.underWay.symm
    connects := alike.connects.symm }

theorem trans (before : first.Alike second) (after : second.Alike third) : first.Alike third :=
  { roster := before.roster.trans after.roster
    timer := after.timer.trans before.timer
    watchdogs := before.watchdogs.trans Watchdog.Alike.trans after.watchdogs
    connections := before.connections.trans Connection.Alike.trans after.connections
    underWay := after.underWay.trans before.underWay
    connects := after.connects.trans before.connects }

/-- A fabric that is like another is like itself, as its watchdogs are passive. -/
theorem left (alike : first.Alike second) : first.Alike first :=
  alike.trans alike.symm

theorem right (alike : first.Alike second) : second.Alike second :=
  alike.symm.trans alike

theorem passive (alike : first.Alike second) : first.Passive := by
  intro watchdog isWatchdog
  obtain ⟨place, isThere⟩ := List.mem_iff_getElem?.1 isWatchdog
  rcases alike.watchdogs.cases place with ⟨noFirst, -⟩ | ⟨one, other, isFirst, -, holds⟩
  · rw [noFirst] at isThere
    cases isThere
  · rw [isFirst] at isThere
    exact Option.some.inj isThere ▸ holds.passive

/-- The watchdog with a number, if there is one, is the same in both fabrics but for listeners and
workers. -/
theorem watchdog_cases (alike : first.Alike second) (number : Nat) :
    (first.watchdogs[number]? = none ∧ second.watchdogs[number]? = none)
      ∨ ∃ watchdog listeners notifier, first.watchdogs[number]? = some watchdog
          ∧ second.watchdogs[number]? = some { watchdog with listeners, notifier }
          ∧ watchdog.Alike { watchdog with listeners, notifier } := by
  rcases alike.watchdogs.cases number with noOne | ⟨one, other, isFirst, isSecond, holds⟩
  · exact .inl noOne
  · refine .inr ⟨one, other.listeners, other.notifier, isFirst, ?_, ?_⟩
    · rw [isSecond, ← holds.same]
    · rw [← holds.same]
      exact holds

/-! ### Single changes -/

theorem setRoster (alike : first.Alike second) {roster counterpart : Roster}
    (same : roster.Alike counterpart) :
    Alike { first with roster } { second with roster := counterpart } :=
  { alike with roster := same }

theorem record (alike : first.Alike second) (event : Event) :
    (first.record event).Alike (second.record event) :=
  alike.setRoster (alike.roster.record event)

theorem log (alike : first.Alike second) (line counterpart : LogLine) :
    (first.log line).Alike (second.log counterpart) :=
  alike.setRoster ⟨alike.roster.now, alike.roster.channels, alike.roster.pools, alike.roster.seen⟩

theorem setTimer (alike : first.Alike second) (timer : ManualTimer Nat) :
    Alike { first with timer } { second with timer } :=
  { alike with timer := rfl }

theorem changeWatchdog (alike : first.Alike second) (number : Nat) {change counterpart : Watchdog → Watchdog}
    (keeps : ∀ one other, first.watchdogs[number]? = some one → second.watchdogs[number]? = some other →
      one.Alike other → (change one).Alike (counterpart other)) :
    (first.changeWatchdog number change).Alike (second.changeWatchdog number counterpart) :=
  { alike with watchdogs := alike.watchdogs.modify number keeps }

theorem changeBoth (alike : first.Alike second) (number : Nat) (change : Watchdog → Watchdog)
    (unswayed : ∀ (watchdog : Watchdog) (listeners : List Listener) (notifier : Notifier SuccessNews),
      ∃ others, change { watchdog with listeners, notifier }
        = { change watchdog with listeners, notifier := others })
    (same : ∀ watchdog : Watchdog, (change watchdog).listeners = watchdog.listeners
      ∧ (change watchdog).notifier.workers = watchdog.notifier.workers) :
    (first.changeWatchdog number change).Alike (second.changeWatchdog number change) :=
  alike.changeWatchdog number fun _ _ _ _ likewise => likewise.change unswayed same

/-! ### Starting, stopping and scheduling -/

theorem wants (alike : first.Alike second) (watchdog : Watchdog) (listeners : List Listener)
    (notifier : Notifier SuccessNews) :
    second.wants { watchdog with listeners, notifier } = first.wants watchdog := by
  rw [Fabric.wants, Fabric.wants, alike.roster.pools]

theorem start (alike : first.Alike second) (number : Nat) :
    (first.start number).1.Alike (second.start number).1 := by
  simp only [Fabric.start]
  rcases alike.watchdog_cases number with ⟨noFirst, noSecond⟩ | ⟨watchdog, _, _, isFirst, isSecond, -⟩
  · rw [noFirst, noSecond]
    exact alike
  · simp only [isFirst, isSecond]
    split
    · exact alike
    · apply Alike.log
      exact alike.changeBoth number (fun found => { found with started := true }) (fun _ _ _ => ⟨_, rfl⟩)
        fun _ => ⟨rfl, rfl⟩

theorem cancelPending (alike : first.Alike second) (pending : Option Nat) :
    (first.cancelPending pending).Alike (second.cancelPending pending) := by
  cases pending with
  | none => exact alike
  | some handle =>
      simp only [Fabric.cancelPending, alike.timer]
      exact alike.setTimer _

theorem stop (alike : first.Alike second) (number : Nat) :
    (first.stop number).1.Alike (second.stop number).1 := by
  simp only [Fabric.stop]
  rcases alike.watchdog_cases number with ⟨noFirst, noSecond⟩ | ⟨watchdog, _, _, isFirst, isSecond, -⟩
  · rw [noFirst, noSecond]
    exact alike
  · simp only [isFirst, isSecond]
    have stopped := (alike.cancelPending watchdog.pending).changeBoth number
      (fun found => { found with started := false, pending := none, notifier := found.notifier.shutDown })
      (fun _ _ _ => ⟨_, rfl⟩) fun _ => ⟨rfl, rfl⟩
    split
    · exact stopped.log _ _
    · exact stopped

theorem turnSwitch (alike : first.Alike second) (connection : Nat) (enabled : Bool) :
    (first.turnSwitch connection enabled).Alike (second.turnSwitch connection enabled) := by
  simp only [Fabric.turnSwitch]
  rcases alike.connections.cases connection with ⟨noFirst, noSecond⟩ | ⟨one, other, isFirst, isSecond, same⟩
  · rw [noFirst, noSecond]
    exact alike
  · simp only [isFirst, isSecond, same.switch]
    cases one.switch with
    | none => exact alike.log _ _
    | some switch =>
        cases switch with
        | recorder number => exact alike.record _
        | watchdog number =>
            cases enabled with
            | true => exact alike.start number
            | false => exact alike.stop number

/-- Both fabrics schedule an attempt after the same delay, or neither does. -/
theorem schedule (alike : first.Alike second) (number : Nat) (delay : Span) :
    (first.schedule number delay).1.Alike (second.schedule number delay).1
      ∧ (second.schedule number delay).2 = (first.schedule number delay).2 := by
  simp only [Fabric.schedule, alike.timer]
  cases first.timer.schedule delay number with
  | error error => exact ⟨alike, rfl⟩
  | ok scheduled =>
      exact ⟨((alike.setTimer scheduled.1).record _).changeBoth number _ (fun _ _ _ => ⟨_, rfl⟩)
        fun _ => ⟨rfl, rfl⟩, rfl⟩

/-- What is done about a refusal is no more than a log line. -/
theorem scheduleOrLog (alike : first.Alike second) (number : Nat) (delay : Span)
    (line counterpart : TransportError → LogLine) :
    (match first.schedule number delay with
      | (scheduled, .ok ()) => scheduled
      | (refused, .error error) => refused.log (line error)).Alike
    (match second.schedule number delay with
      | (scheduled, .ok ()) => scheduled
      | (refused, .error error) => refused.log (counterpart error)) := by
  obtain ⟨scheduled, sameAnswer⟩ := alike.schedule number delay
  generalize first.schedule number delay = one, second.schedule number delay = other at scheduled sameAnswer ⊢
  obtain ⟨fabric, answer⟩ := one
  obtain ⟨likewise, sameAgain⟩ := other
  cases sameAnswer
  cases answer with
  | ok _ => exact scheduled
  | error error => exact scheduled.log _ _

theorem onDisconnected (alike : first.Alike second) (number : Nat) :
    (first.onDisconnected number).Alike (second.onDisconnected number) := by
  simp only [Fabric.onDisconnected]
  rcases alike.watchdog_cases number with ⟨noFirst, noSecond⟩
    | ⟨watchdog, listeners, notifier, isFirst, isSecond, -⟩
  · rw [noFirst, noSecond]
    exact alike
  · simp only [isFirst, isSecond, alike.wants watchdog listeners notifier]
    split
    · apply Alike.scheduleOrLog
      apply Alike.log
      exact alike.changeBoth number (fun found => { found with attempts := found.attempts + 1 })
        (fun _ _ _ => ⟨_, rfl⟩) fun _ => ⟨rfl, rfl⟩
    · exact alike.log _ _

/-! ### Channels -/

theorem setConnected (alike : first.Alike second) (number : Nat) (connected : Bool) :
    (first.setConnected number connected).Alike (second.setConnected number connected) :=
  { alike with
    connections := alike.connections.modify number fun _ _ _ _ same => ⟨same.address, rfl, same.switch⟩ }

theorem tellNext (alike : first.Alike second) (next : NextHandler) (channel : Nat) (notice : ChannelNotice) :
    (first.tellNext next channel notice).Alike (second.tellNext next channel notice) := by
  cases next with
  | nobody => exact alike
  | recorder name => exact alike.record _
  | tracker connection application =>
      have noted : (first.tellNext (.tracker connection none) channel notice).Alike
          (second.tellNext (.tracker connection none) channel notice) := by
        cases notice with
        | active => exact alike.setConnected connection true
        | inactive closed => exact alike.setConnected connection false
        | read command length => exact alike
        | exception code => exact alike
      cases application with
      | none => exact noted
      | some name => exact noted.record _

theorem channelActive (alike : first.Alike second) (number channel : Nat) :
    (first.channelActive number channel).Alike (second.channelActive number channel) := by
  simp only [Fabric.channelActive]
  rcases alike.watchdog_cases number with ⟨noFirst, noSecond⟩ | ⟨watchdog, _, _, isFirst, isSecond, -⟩
  · rw [noFirst, noSecond]
    exact alike
  · simp only [isFirst, isSecond]
    have counted := alike.changeBoth number (fun found => { found with attempts := 0 })
      (fun _ _ _ => ⟨_, rfl⟩) fun _ => ⟨rfl, rfl⟩
    apply Alike.tellNext
    apply Alike.log
    cases watchdog.pool with
    | none => exact counted
    | some pool => exact counted.setRoster (counted.roster.enroll pool channel).1

theorem channelInactive (alike : first.Alike second) (number channel : Nat) :
    (first.channelInactive number channel).Alike (second.channelInactive number channel) := by
  simp only [Fabric.channelInactive]
  rcases alike.watchdog_cases number with ⟨noFirst, noSecond⟩ | ⟨watchdog, _, _, isFirst, isSecond, -⟩
  · rw [noFirst, noSecond]
    exact alike
  · simp only [isFirst, isSecond]
    have gone := fun line counterpart => (alike.log line counterpart).onDisconnected number
    rw [(gone _ _).roster.closing]
    exact (gone _ _).tellNext _ channel _

theorem channelRead (alike : first.Alike second) (number channel : Nat) (frame : Frame) :
    (first.channelRead number channel frame).Alike (second.channelRead number channel frame) := by
  simp only [Fabric.channelRead]
  rcases alike.watchdog_cases number with ⟨noFirst, noSecond⟩ | ⟨watchdog, _, _, isFirst, isSecond, -⟩
  · rw [noFirst, noSecond]
    exact alike
  · simp only [isFirst, isSecond]
    exact alike.tellNext _ channel _

theorem channelException (alike : first.Alike second) (number channel : Nat) (error : TransportError) :
    (first.channelException number channel error).Alike (second.channelException number channel error) := by
  simp only [Fabric.channelException]
  rcases alike.watchdog_cases number with ⟨noFirst, noSecond⟩ | ⟨watchdog, _, _, isFirst, isSecond, -⟩
  · rw [noFirst, noSecond]
    exact alike
  · simp only [isFirst, isSecond]
    exact (alike.log _ _).tellNext _ channel _

theorem close (alike : first.Alike second) (channel : Nat) :
    (first.close channel).Alike (second.close channel) := by
  obtain ⟨closed, sameHandler⟩ := alike.roster.close channel
  have shut := alike.setRoster closed
  simp only [Fabric.close, sameHandler]
  cases (first.roster.close channel).2 with
  | none => exact shut
  | some number => exact shut.channelInactive number channel

/-- The same channel comes up in both fabrics. -/
theorem establish (alike : first.Alike second) (number : Nat) (flaps : Bool) :
    (first.establish number flaps).1.Alike (second.establish number flaps).1
      ∧ (second.establish number flaps).2 = (first.establish number flaps).2 := by
  obtain ⟨opened, sameChannel⟩ := alike.roster.openChannel (some number)
  have active := (alike.setRoster opened).channelActive number (first.roster.openChannel (some number)).2
  simp only [Fabric.establish, sameChannel, and_true]
  split
  · exact active.close _
  · exact active

/-! ### Attempts -/

theorem issue (alike : first.Alike second) (number : Nat) (origin : Origin) (watchdog : Watchdog)
    (listeners : List Listener) (notifier : Notifier SuccessNews) :
    (first.issue number origin watchdog).Alike
      (second.issue number origin { watchdog with listeners, notifier }) := by
  have begun : Alike
      { first with
        underWay := first.underWay ++ [{ watchdog := number, origin, attempts := watchdog.attempts }]
        connects := first.connects + 1 }
      { second with
        underWay := second.underWay ++ [{ watchdog := number, origin, attempts := watchdog.attempts }]
        connects := second.connects + 1 } :=
    { alike with
      underWay := congrArg (· ++ _) alike.underWay
      connects := congrArg (· + 1) alike.connects }
  exact begun.record _

theorem beginRetry (alike : first.Alike second) (number : Nat) :
    (first.beginRetry number).1.Alike (second.beginRetry number).1 := by
  simp only [Fabric.beginRetry]
  rcases alike.watchdog_cases number with ⟨noFirst, noSecond⟩
    | ⟨watchdog, listeners, notifier, isFirst, isSecond, -⟩
  · rw [noFirst, noSecond]
    exact alike
  · simp only [isFirst, isSecond, alike.wants watchdog listeners notifier]
    split
    · exact alike.issue number .retry watchdog listeners notifier
    · exact alike.log _ _

theorem beginCall (alike : first.Alike second) (number : Nat) :
    (first.beginCall number).Alike (second.beginCall number) := by
  simp only [Fabric.beginCall]
  rcases alike.watchdog_cases number with ⟨noFirst, noSecond⟩
    | ⟨watchdog, listeners, notifier, isFirst, isSecond, -⟩
  · rw [noFirst, noSecond]
    exact alike
  · simp only [isFirst, isSecond]
    exact alike.issue number .caller watchdog listeners notifier

theorem fire (alike : first.Alike second) (index : Nat) : (first.fire index).Alike (second.fire index) := by
  simp only [Fabric.fire, Fabric.release, alike.timer]
  have released := alike.setTimer (first.timer.release index).1
  cases (first.timer.release index).2 with
  | none => exact released
  | some task =>
      cases task with
      | none => exact released
      | some number => exact released.beginRetry number

/-! ### Telling listeners -/

theorem record_heard (alike : first.Alike second) {event : Event} (heard : event.isHeard = true) :
    first.Alike (second.record event) :=
  { alike with roster := alike.roster.trans (.record_heard second.roster heard) }

theorem log_line (alike : first.Alike second) (line : LogLine) : first.Alike (second.log line) :=
  { alike with roster := alike.roster.trans (.log_line second.roster line) }

theorem changeAside (alike : first.Alike second) (number : Nat) {change : Watchdog → Watchdog}
    (keeps : ∀ watchdog, second.watchdogs[number]? = some watchdog → watchdog.Passive →
      watchdog.Alike (change watchdog)) : first.Alike (second.changeWatchdog number change) := by
  have changed : PlaceByPlace Watchdog.Alike (first.watchdogs.modify number id)
      (second.watchdogs.modify number change) :=
    alike.watchdogs.modify number fun _ other _ isThere likewise =>
      likewise.trans (keeps other isThere likewise.counterpart)
  rw [List.modify_id] at changed
  exact { alike with watchdogs := changed }

/-- Who a watchdog tells, and what its workers are at, makes no difference as long as it stays passive. -/
theorem changeNotifier (alike : first.Alike second) (number : Nat)
    {change : Notifier SuccessNews → Notifier SuccessNews}
    (keeps : ∀ notifier : Notifier SuccessNews, notifier.Every SuccessNews.Passive →
      (change notifier).Every SuccessNews.Passive) :
    first.Alike (second.changeNotifier number change) := by
  apply alike.changeAside number
  intro watchdog _ passive
  exact ⟨rfl, passive, ⟨passive.listeners, keeps _ passive.news⟩⟩

theorem reportCompletion (alike : first.Alike second) (number : Nat) (listeners : List Nat) :
    first.Alike (second.reportCompletion number listeners) := by
  induction listeners generalizing second with
  | nil => exact alike
  | cons listener rest ih => exact ih (alike.record_heard rfl)

theorem setConnection (alike : first.Alike second) {number : Nat} {found : Connection Nat ReconnectSwitch}
    (isThere : second.connections[number]? = some found) (changed : Connection Nat ReconnectSwitch)
    (same : found.Alike changed) :
    first.Alike { second with connections := second.connections.set number changed } := by
  have set : PlaceByPlace Connection.Alike (first.connections.modify number id)
      (second.connections.modify number fun _ => changed) := by
    apply alike.connections.modify number
    intro one other _ isOther likewise
    rw [isThere] at isOther
    exact likewise.trans (Option.some.inj isOther ▸ same)
  rw [List.modify_id, ← List.set_eq_modify] at set
  exact { alike with connections := set }

theorem completeConnection (alike : first.Alike second) (number : Nat) :
    first.Alike (second.completeConnection number) := by
  simp only [Fabric.completeConnection]
  split
  · exact alike
  · rename_i found isThere
    exact (alike.setConnection isThere found.setComplete.1 ⟨rfl, rfl, rfl⟩).reportCompletion number _

theorem addCompletionListener (alike : first.Alike second) (number listener : Nat) :
    first.Alike (second.addCompletionListener number listener) := by
  simp only [Fabric.addCompletionListener]
  split
  · exact alike
  · rename_i found isThere
    exact (alike.setConnection isThere (found.addListener listener).1 ⟨rfl, rfl, rfl⟩).reportCompletion
      number _

theorem beginObserver (alike : first.Alike second) (number : Nat) (success : Bool) (attempts : UInt32)
    (onWorker : Bool) (observer : Observer) :
    first.Alike (second.beginObserver number success attempts onWorker observer) := by
  simp only [Fabric.beginObserver]
  split
  · exact alike
  · exact alike.record_heard rfl

/-- However an observer ends, there is no more to it than a log line. -/
theorem finishObserver (alike : first.Alike second) (number : Nat) (success : Bool) (attempts : UInt32)
    {observer : Observer} (passive : observer.calls = []) :
    first.Alike (second.finishObserver number success attempts observer) := by
  simp only [Fabric.finishObserver, passive, List.foldl_nil]
  split
  · exact alike
  · split
    · exact alike
    · exact alike.log_line _
    · exact alike.log_line _

theorem tell (alike : first.Alike second) (number : Nat) (success : Bool) (attempts : UInt32)
    (onWorker : Bool) {listener : Listener} (passive : listener.calls = []) :
    first.Alike (second.tell number success attempts onWorker listener) := by
  cases listener with
  | observer observer =>
      exact (alike.beginObserver number success attempts onWorker observer).finishObserver number success
        attempts passive
  | completion connection =>
      simp only [Fabric.tell]
      split
      · exact alike.completeConnection connection
      · exact alike

theorem passive_of_getElem? (alike : first.Alike second) {number : Nat} {watchdog : Watchdog}
    (isThere : second.watchdogs[number]? = some watchdog) : watchdog.Passive :=
  alike.symm.passive watchdog (List.mem_of_getElem? isThere)

theorem tellEach (alike : first.Alike second) (number : Nat) (success : Bool) (attempts : UInt32)
    (onWorker : Bool) {listeners : List Listener} (passive : ∀ listener ∈ listeners, listener.calls = []) :
    first.Alike
      (listeners.foldl (fun changed listener => changed.tell number success attempts onWorker listener) second) := by
  induction listeners generalizing second with
  | nil => exact alike
  | cons listener rest ih =>
      have told := alike.tell number success attempts onWorker (passive listener List.mem_cons_self)
      exact ih told fun other isOther => passive other (List.mem_cons_of_mem listener isOther)

theorem notifyFailure_right (alike : first.Alike second) (number : Nat) (attempts : UInt32) :
    first.Alike (second.notifyFailure number attempts) := by
  simp only [Fabric.notifyFailure]
  split
  · exact alike
  · rename_i watchdog isThere
    exact alike.tellEach number false attempts false (alike.passive_of_getElem? isThere).listeners

theorem notifyFailure (alike : first.Alike second) (number : Nat) (attempts : UInt32) :
    (first.notifyFailure number attempts).Alike (second.notifyFailure number attempts) :=
  ((alike.notifyFailure_right number attempts).symm.notifyFailure_right number attempts).symm

theorem notifySuccess_right (alike : first.Alike second) (number : Nat) (attempts : UInt32) :
    first.Alike (second.notifySuccess number attempts) := by
  simp only [Fabric.notifySuccess]
  split
  · exact alike
  · rename_i watchdog isThere
    split
    · have passed : first.Alike (second.changeWatchdog number fun found =>
          { found with notifier := (watchdog.notifier.submit { attempts, held := none }).1 }) := by
        apply alike.changeAside number
        intro other isOther passive
        rw [isThere] at isOther
        cases isOther
        refine ⟨rfl, passive, passive.listeners, passive.news.submit ?_⟩
        intro observer rest isHeld
        cases isHeld
      split
      · exact passed
      · exact passed.log_line _
    · exact alike

theorem tellOnWorker (alike : first.Alike second) (number worker : Nat) (attempts : UInt32)
    {listeners : List Listener} (passive : ∀ listener ∈ listeners, listener.calls = []) :
    first.Alike (second.tellOnWorker number worker attempts listeners) := by
  induction listeners generalizing second with
  | nil => exact alike.changeNotifier number fun _ every => every.finish worker
  | cons listener rest ih =>
      have others := fun other isOther => passive other (List.mem_cons_of_mem listener isOther)
      have isPassive := passive listener List.mem_cons_self
      cases listener with
      | completion connection => exact ih (alike.completeConnection connection) others
      | observer observer =>
          have begun := alike.beginObserver number true attempts true observer
          simp only [Fabric.tellOnWorker]
          split
          · apply begun.changeNotifier number
            intro notifier every
            apply every.hold worker
            intro held behind isHeld
            cases isHeld
            exact ⟨isPassive, others⟩
          · exact ih (begun.finishObserver number true attempts isPassive) others

theorem beginNews (alike : first.Alike second) {number : Nat} (worker : Nat) {watchdog : Watchdog}
    (isThere : second.watchdogs[number]? = some watchdog) :
    first.Alike (second.beginNews number worker watchdog) := by
  have passive := alike.passive_of_getElem? isThere
  simp only [Fabric.beginNews]
  split
  · exact alike
  · rename_i begun news isBegun
    have taken : first.Alike (second.changeNotifier number fun _ => begun) := by
      apply alike.changeNotifier number
      intro _ _
      have every := (passive.news.begin worker).1
      rw [isBegun] at every
      exact every
    split
    · exact taken.tellOnWorker number worker news.attempts passive.listeners
    · exact taken.changeNotifier number fun _ every => every.finish worker

/-- A worker goes on without anything else noticing. -/
theorem workerStep (alike : first.Alike second) (number worker : Nat) :
    first.Alike (second.workerStep number worker) := by
  cases isThere : second.watchdogs[number]? with
  | none =>
      simp only [Fabric.workerStep, isThere]
      exact alike
  | some watchdog =>
      cases isHeld : watchdog.heldBy worker with
      | none =>
          rw [workerStep_of_unheld isThere isHeld]
          exact alike.beginNews worker isThere
      | some held =>
          obtain ⟨observer, rest⟩ := held
          obtain ⟨attempts, goesOn⟩ := workerStep_of_held isThere isHeld
          rw [goesOn]
          obtain ⟨isPassive, others⟩ := (alike.passive_of_getElem? isThere).held isHeld
          split
          · exact (alike.finishObserver number true attempts isPassive).tellOnWorker number worker attempts others
          · exact alike

/-! ### The end of an attempt -/

theorem succeeded_right (alike : first.Alike second) (attempt : Attempt) (channel : Nat) :
    first.Alike (second.succeeded attempt channel) := by
  simp only [Fabric.succeeded]
  apply Alike.notifySuccess_right
  split
  · exact alike.log_line _
  · exact alike

theorem succeeded (alike : first.Alike second) (attempt : Attempt) (channel : Nat) :
    (first.succeeded attempt channel).Alike (second.succeeded attempt channel) :=
  ((alike.succeeded_right attempt channel).symm.succeeded_right attempt channel).symm

/-- After a failure both fabrics schedule the next attempt, or neither does, whoever is told before. -/
theorem failed (alike : first.Alike second) (attempt : Attempt) (error : TransportError) :
    (first.failed attempt error).Alike (second.failed attempt error) := by
  simp only [Fabric.failed]
  cases attempt.origin with
  | caller => exact alike
  | retry =>
      rcases alike.watchdog_cases attempt.watchdog with ⟨noFirst, noSecond⟩
        | ⟨watchdog, _, _, isFirst, isSecond, -⟩
      · rw [noFirst, noSecond]
        exact alike
      · simp only [isFirst, isSecond]
        apply Alike.onDisconnected
        split
        · apply Alike.notifyFailure
          exact alike.log _ _
        · exact alike.log _ _

theorem settle (alike : first.Alike second) (place : Nat) (outcome : Outcome) :
    (first.settle place outcome).1.Alike (second.settle place outcome).1 := by
  simp only [Fabric.settle, alike.underWay]
  cases first.underWay[place]? with
  | none => exact alike
  | some attempt =>
      have ended : Alike { first with underWay := first.underWay.eraseIdx place }
          { second with underWay := first.underWay.eraseIdx place } := { alike with underWay := rfl }
      cases outcome with
      | established =>
          obtain ⟨up, sameChannel⟩ := ended.establish attempt.watchdog false
          simp only [sameChannel]
          exact up.succeeded attempt _
      | flapped =>
          obtain ⟨up, sameChannel⟩ := ended.establish attempt.watchdog true
          simp only [sameChannel]
          exact up.succeeded attempt _
      | failed error => exact ended.failed attempt error

end Alike

end Fabric

/-! ### Whole runs -/

/-- Whether an event is about listeners and nothing else. -/
def FabricEvent.isListening : FabricEvent → Bool
  | .addListener _ _ => true
  | .dismiss _ _ => true
  | .workerStep _ _ => true
  | .addCompletionListener _ _ => true
  | .openGate => true
  | _ => false

/-- An event that does not bring in a listener which makes calls. -/
def FabricEvent.Passive : FabricEvent → Prop
  | .addListener _ listener => listener.calls = []
  | _ => True

namespace Fabric.Alike

variable {first second : Fabric}

/-- What is about listeners makes no difference. -/
theorem listen (alike : first.Alike second) {event : FabricEvent} (passive : event.Passive)
    (isListening : event.isListening = true) : first.Alike (second.step event) := by
  cases event with
  | addListener number listener =>
      apply alike.changeAside number
      intro watchdog _ watchdogPassive
      refine ⟨rfl, watchdogPassive, ?_, watchdogPassive.news⟩
      intro other isOther
      rcases List.mem_append.1 isOther with before | isNew
      · exact watchdogPassive.listeners other before
      · rw [List.mem_singleton.1 isNew]
        exact passive
  | dismiss number label =>
      apply alike.changeAside number
      intro watchdog _ watchdogPassive
      refine ⟨rfl, watchdogPassive, ?_, watchdogPassive.news⟩
      exact fun other isOther => watchdogPassive.listeners other (List.mem_filter.1 isOther).1
  | workerStep number worker => exact alike.workerStep number worker
  | addCompletionListener number listener => exact alike.addCompletionListener number listener
  | openGate => exact { alike with }
  | _ => cases isListening

/-- What is not about listeners keeps fabrics alike. -/
theorem step (alike : first.Alike second) {event : FabricEvent} (isRetrying : event.isListening = false) :
    (first.step event).Alike (second.step event) := by
  cases event with
  | schedule number delay =>
      simp only [Fabric.step]
      rcases alike.watchdog_cases number with ⟨noFirst, noSecond⟩ | ⟨watchdog, _, _, isFirst, isSecond, -⟩
      · rw [if_neg (Nat.not_lt.2 (List.getElem?_eq_none_iff.1 noFirst)),
          if_neg (Nat.not_lt.2 (List.getElem?_eq_none_iff.1 noSecond))]
        exact alike
      · rw [if_pos (List.getElem?_eq_some_iff.1 isFirst).1, if_pos (List.getElem?_eq_some_iff.1 isSecond).1]
        exact (alike.schedule number delay).1
  | beginCall number => exact alike.beginCall number
  | settle place outcome => exact alike.settle place outcome
  | fire index => exact alike.fire index
  | start number => exact alike.start number
  | stop number => exact alike.stop number
  | turnSwitch connection enabled => exact alike.turnSwitch connection enabled
  | active number channel => exact alike.channelActive number channel
  | inactive number channel => exact alike.channelInactive number channel
  | read number channel frame => exact alike.channelRead number channel frame
  | exception number channel error => exact alike.channelException number channel error
  | close channel => exact alike.close channel
  | stopTimer =>
      simp only [Fabric.step, alike.timer]
      exact alike.setTimer _
  | onRoster event => exact alike.setRoster (alike.roster.step event)
  | _ => cases isRetrying

end Fabric.Alike

end Uplink
