/-
Module: Uplink.Proofs.Connector.Exclusive
Purpose: In every run of a connector each watchdog has at most one open channel, retry or attempt, and the
  connection that it serves shows whether it has the channel.
Main exports: Fabric.channelsOf, Fabric.retriesOf, Fabric.attemptsOf, Connector.Exclusive,
  Connector.Exclusive.step, Connector.Exclusive.run, Connector.engaged_at_most_once
-/
import Mathlib.Data.List.Nodup
import Uplink.Proofs.Connector.Chores
import Uplink.Proofs.Connector.Outline
import Uplink.Proofs.Fabric.Mirror

namespace Uplink

/-! ### What a watchdog has -/

namespace Fabric

/-- The number of open channels that a watchdog handles. -/
def channelsOf (fabric : Fabric) (number : Nat) : Nat :=
  fabric.roster.channels.countP fun channel => channel.isOpen && channel.handler == some number

/-- The number of retries of a watchdog that the timer is still to run: they were neither cancelled nor have
they fired. -/
def retriesOf (fabric : Fabric) (number : Nat) : Nat :=
  fabric.timer.entries.countP fun entry =>
    fabric.timer.timeout entry.handle == .pending && entry.task == number

/-- The number of attempts of a watchdog that are under way. -/
def attemptsOf (fabric : Fabric) (number : Nat) : Nat :=
  fabric.underWay.countP fun attempt => attempt.watchdog == number

variable {fabric : Fabric} {outline : Outline}

theorem Shows.channelsOf_eq (shows : fabric.Shows outline) (number : Nat) :
    fabric.channelsOf number = (outline.links.filterMap id).count number := by
  rw [List.count_eq_countP, shows.countP_links, channelsOf]
  congr 1
  funext channel
  cases channel.handler <;> rfl

theorem Shows.engagements_eq (shows : fabric.Shows outline) (number : Nat) :
    fabric.channelsOf number + fabric.retriesOf number + fabric.attemptsOf number
      = outline.engagements.count number := by
  rw [shows.channelsOf_eq, Outline.engagements, List.count_append, List.count_append, Nat.add_assoc]
  congr 1
  rw [List.count_eq_countP, List.count_eq_countP, shows.countP_waiting, shows.countP_attempts]
  rfl

theorem mirrors_fresh (application : Option String) : fresh.Mirrors application [] := by
  refine ⟨?_, rfl, ?_⟩
  · intro number watchdog isThere
    cases isThere
  · intro number found isThere
    cases isThere

/-- A new connection shows no channel, and its watchdog tells it of those to come. -/
theorem Mirrors.equip {application : Option String} {links : List (Option Nat)}
    (mirrors : fabric.Mirrors application links)
    (known : ∀ number, some number ∈ links → number < fabric.watchdogs.length) (address : Address)
    {watchdog : Watchdog} (next : watchdog.next = .tracker fabric.connections.length application) :
    ((fabric.addConnection address).1.addWatchdog watchdog).1.Mirrors application links := by
  refine ⟨?_, ?_, ?_⟩
  · intro number found isThere
    simp only [addConnection, addWatchdog, List.getElem?_append] at isThere
    split at isThere
    · exact mirrors.told number found isThere
    · rename_i isNew
      obtain ⟨bound, isFound⟩ := List.getElem?_eq_some_iff.1 isThere
      rw [List.length_singleton] at bound
      rw [List.getElem_singleton] at isFound
      have isLast : number = fabric.connections.length := by
        rw [mirrors.paired]
        omega
      rw [← isFound, next, isLast]
  · simp only [addConnection, addWatchdog, List.length_append, List.length_singleton, mirrors.paired]
  · intro number found isThere
    simp only [addConnection, addWatchdog, List.getElem?_append] at isThere
    split at isThere
    · exact mirrors.shown number found isThere
    · rename_i isNew
      rw [List.mem_singleton.1 (List.mem_of_getElem? isThere)]
      have unknown : some number ∉ links := fun isLink => isNew (mirrors.paired ▸ known number isLink)
      exact iff_of_false Bool.false_ne_true unknown

end Fabric

/-! ### Connectors -/

/-- A connector in order: no watchdog is engaged twice, and connections show who has a channel. -/
structure Connector.Exclusive (connector : Connector) (application : Option String) (outline : Outline) :
    Prop extends connector.Stands outline where
  named : connector.application = application
  single : outline.engagements.Nodup
  mirrors : connector.fabric.Mirrors application outline.links

namespace Connector

variable {connector changed : Connector} {application : Option String} {outline : Outline}

theorem exclusive_make (config : ConnectorConfig) (application : Option String) :
    (make config application).Exclusive application Fabric.fresh.outline :=
  ⟨stands_make config application, rfl, List.nodup_nil, Fabric.mirrors_fresh application⟩

namespace Exclusive

/-- A step of the watchdogs that engages some who are not engaged. -/
theorem engage {fabric : Fabric} {after : Outline} {gained : List Nat}
    (exclusive : connector.Exclusive application outline) (shows : fabric.Shows after)
    (spends : outline.Spends after gained) (exist : ∀ number ∈ gained, number < outline.posts.length)
    (single : (gained ++ outline.engagements).Nodup) (mirrors : fabric.Mirrors application after.links) :
    ({ connector with fabric } : Connector).Exclusive application after :=
  ⟨exclusive.toStands.of_fabric shows (spends.sound _ _ exclusive.sound exist) spends.switches
    spends.seats, exclusive.named, spends.nodup single, mirrors⟩

/-- A step of the watchdogs that engages nobody anew. -/
theorem spend {fabric : Fabric} {after : Outline} (exclusive : connector.Exclusive application outline)
    (shows : fabric.Shows after) (spends : outline.Spends after [])
    (mirrors : fabric.Mirrors application after.links) :
    ({ connector with fabric } : Connector).Exclusive application after :=
  exclusive.engage shows spends (fun _ isGained => absurd isGained List.not_mem_nil) exclusive.single
    mirrors

/-- A change of the fabric that does not show. -/
theorem of_quiet {fabric : Fabric} (exclusive : connector.Exclusive application outline)
    (quiet : connector.fabric.Quiet fabric) :
    ({ connector with fabric } : Connector).Exclusive application outline :=
  ⟨exclusive.toStands.of_quiet quiet, exclusive.named, exclusive.single,
    exclusive.mirrors.of_steady quiet.toSteady⟩

/-- The registry, the callers and the flag of the connector concern nobody who is engaged. -/
theorem of_office {changed : Connector} (exclusive : connector.Exclusive application outline)
    (fabric : changed.fabric = connector.fabric) (config : changed.config = connector.config)
    (groups : changed.groups = connector.groups) (named : changed.application = connector.application) :
    changed.Exclusive application outline := by
  refine ⟨⟨fabric ▸ exclusive.shows, ?_, exclusive.wired⟩, named.trans exclusive.named,
    exclusive.single, fabric ▸ exclusive.mirrors⟩
  rw [config, groups]
  exact exclusive.sound

/-! ### Channels, switches and the timer -/

theorem close (exclusive : connector.Exclusive application outline) (channel : Nat) :
    (connector.close channel).Exclusive application (outline.close channel) :=
  exclusive.spend (exclusive.shows.close channel)
    (Outline.spends_close exclusive.sound.timer channel)
    (exclusive.mirrors.close exclusive.shows exclusive.single exclusive.sound.known channel)

theorem setReconnect (exclusive : connector.Exclusive application outline) (connection : Nat)
    (enabled : Bool) :
    (connector.setReconnect connection enabled).Exclusive application
      (outline.turnSwitch connection enabled) := by
  refine exclusive.spend (exclusive.shows.turnSwitch connection enabled)
    (Outline.spends_turnSwitch outline connection enabled) ?_
  rw [Outline.links_turnSwitch]
  exact exclusive.mirrors.of_steady (Fabric.Steady.turnSwitch _ connection enabled)

theorem stop (exclusive : connector.Exclusive application outline) (number : Nat) :
    (connector.onFabric fun fabric => (fabric.stop number).1).Exclusive application
      (outline.stop number) := by
  refine exclusive.spend (exclusive.shows.stop number) (Outline.spends_stop outline number) ?_
  rw [Outline.links_stop]
  exact exclusive.mirrors.of_steady (Fabric.Steady.stop _ number)

theorem fire (exclusive : connector.Exclusive application outline) (index : Nat) :
    (connector.fire index).1.Exclusive application (outline.fire index) := by
  obtain ⟨stands, -⟩ := exclusive.toStands.fire index
  have steady : connector.fabric.Steady (connector.fire index).1.fabric := by
    have released : connector.fabric.Steady (connector.fabric.release index).1 := ⟨rfl, rfl⟩
    simp only [Connector.fire]
    split
    all_goals
      rename_i isReleased
      rw [isReleased] at released
    · exact released
    · exact released
    · exact released.trans (Fabric.Steady.beginRetry _ _)
  have named : (connector.fire index).1.application = application := by
    simp only [Connector.fire]
    split <;> exact exclusive.named
  refine ⟨stands, named, (Outline.spends_fire exclusive.sound.timer index).nodup exclusive.single, ?_⟩
  rw [Outline.links_fire]
  exact exclusive.mirrors.of_steady steady

theorem stopTimer (exclusive : connector.Exclusive application outline) :
    connector.stopTimer.Exclusive application outline.stopTimer := by
  refine exclusive.spend ⟨exclusive.shows.tidy, exclusive.shows.plain, ?_⟩
    (Outline.spends_stopTimer outline) (exclusive.mirrors.of_steady ⟨rfl, rfl⟩)
  rw [← exclusive.shows.outlineEq]
  rfl

/-! ### Attempts -/

/-- A caller is answered; on failure the watchdog of the call is stopped. -/
theorem answer (exclusive : connector.Exclusive application outline) (call : PendingConnect)
    (result : Except TransportError Nat) :
    ∃ after, (connector.answer call result).1.Exclusive application after
      ∧ (after = outline ∨ after = outline.stop call.watchdog) := by
  cases result with
  | error error => exact ⟨_, exclusive.stop call.watchdog, .inr rfl⟩
  | ok channel =>
      have logged := Fabric.Quiet.log connector.fabric (connectedLine call.address channel)
      have completed := exclusive.of_quiet
        (logged.trans (Fabric.Quiet.completeConnection _ call.connection))
      exact ⟨outline, completed.of_office rfl rfl rfl rfl, .inl rfl⟩

/-- An attempt ends, and a caller who waits for it is answered. -/
theorem settle (exclusive : connector.Exclusive application outline) (place : Nat) (outcome : Outcome) :
    ∃ after, (connector.settle place outcome).1.Exclusive application after
      ∧ (after = outline.settle place outcome
          ∨ ∃ number, after = (outline.settle place outcome).stop number) := by
  have settled := exclusive.spend (exclusive.shows.settle place outcome)
    (Outline.spends_settle exclusive.sound.timer place outcome)
    (exclusive.mirrors.settle exclusive.shows exclusive.single exclusive.sound.known place outcome)
  rcases settle_cases connector place outcome with
    ⟨isAbsent, same⟩ | ⟨attempt, -, ended | ⟨call, result, -, ended⟩⟩
  · have unchanged : outline.settle place outcome = outline := by
      rw [Outline.settle, attempts_getElem? exclusive.toStands place, isAbsent]
      rfl
    exact ⟨outline, same.symm ▸ exclusive, .inl unchanged.symm⟩
  · exact ⟨_, ended.symm ▸ settled, .inl rfl⟩
  · have waits : (connector.relieve (connector.fabric.settle place outcome).1 call).Exclusive application
        (outline.settle place outcome) := settled.of_office rfl rfl rfl rfl
    obtain ⟨after, answered, isAfter⟩ := waits.answer call result
    exact ⟨after, ended.symm ▸ answered, isAfter.imp_right fun isStopped => ⟨_, isStopped⟩⟩

/-! ### New connections -/

theorem group (exclusive : connector.Exclusive application outline) (address : Address) :
    (connector.group address).1.application = application ∧
      (connector.group address).1.fabric.Mirrors application outline.links := by
  simp only [Connector.group]
  split
  · exact ⟨exclusive.named, exclusive.mirrors⟩
  · exact ⟨exclusive.named, exclusive.mirrors.setRoster _⟩

/-- A connection is set up; nobody is engaged by that. -/
theorem prepare (exclusive : connector.Exclusive application outline)
    (running : connector.isShutDown = false) (address : Address) :
    ∃ prepared pool bound, connector.prepare address = .ok (prepared,
        { address, connection := outline.switches.length, watchdog := outline.posts.length }) ∧
      prepared.Exclusive application (outline.equip address pool bound) := by
  obtain ⟨prepared, pool, isPrepared, stands, -⟩ := exclusive.toStands.prepare running address
  obtain ⟨named, grouped⟩ := exclusive.group address
  have known : ∀ number, some number ∈ outline.links →
      number < (connector.group address).1.fabric.watchdogs.length := by
    intro number isLink
    have isEngaged : number ∈ outline.engagements :=
      List.mem_append_left _ (List.mem_filterMap.2 ⟨some number, isLink, rfl⟩)
    rw [Fabric.Mirrors.length_watchdogs (exclusive.toStands.group address).1.shows]
    exact exclusive.sound.known number isEngaged
  refine ⟨prepared, pool, _, isPrepared, stands, ?_, exclusive.single, ?_⟩
  all_goals
    simp only [Connector.prepare] at isPrepared
    rw [if_neg (by rw [running]; exact Bool.false_ne_true)] at isPrepared
    injection isPrepared with isPair
    injection isPair with isConnector
    rw [← isConnector]
  · exact named
  · refine (grouped.equip known address ?_).of_steady (Fabric.Steady.bind _ _ _)
    exact congrArg (NextHandler.tracker _) exclusive.named

/-- The watchdog of a new connection gets its first attempt or retry. -/
theorem recruit {address : Address} {pool bound : Nat} {prepared : Connector} {fabric : Fabric}
    {after : Outline} (exclusive : connector.Exclusive application outline)
    (set : prepared.Exclusive application (outline.equip address pool bound)) (shows : fabric.Shows after)
    (spends : (outline.equip address pool bound).Spends after [outline.posts.length])
    (links : after.links = outline.links) (steady : prepared.fabric.Steady fabric) :
    ({ prepared with fabric } : Connector).Exclusive application after := by
  refine set.engage shows spends ?_ ?_ ?_
  · intro number isNew
    rw [List.mem_singleton.1 isNew, length_posts_equip]
    exact Nat.lt_succ_self _
  · refine List.nodup_cons.2 ⟨?_, exclusive.single⟩
    intro isEngaged
    exact Nat.lt_irrefl _ (exclusive.sound.known _ isEngaged)
  · rw [links]
    exact set.mirrors.of_steady steady

/-- A caller's attempt begins. -/
theorem beginConnect (exclusive : connector.Exclusive application outline)
    (running : connector.isShutDown = false) (address : Address) :
    ∃ pool bound, (connector.beginConnect address).1.Exclusive application
      ((outline.equip address pool bound).dial outline.posts.length .caller) := by
  obtain ⟨prepared, pool, bound, isPrepared, set⟩ := exclusive.prepare running address
  have isNew := Outline.posts_equip_self outline address pool bound
  have begun := exclusive.recruit set (set.shows.beginCall outline.posts.length)
    (Outline.carries_dial isNew .caller).spends (by rw [Outline.dial_eq isNew]; rfl)
    (Fabric.Steady.beginCall _ _)
  simp only [Connector.beginConnect, isPrepared]
  exact ⟨pool, bound, begun.of_office rfl rfl rfl rfl⟩

/-- A retry of a new watchdog is scheduled; if the timer refuses, the watchdog is stopped. -/
theorem connectAsync (exclusive : connector.Exclusive application outline)
    (running : connector.isShutDown = false) (address : Address) :
    ∃ pool bound after, (connector.connectAsync address).1.Exclusive application after
      ∧ (after = (outline.equip address pool bound).schedule outline.posts.length
          ∨ after = ((outline.equip address pool bound).schedule outline.posts.length).stop
              outline.posts.length) := by
  obtain ⟨prepared, pool, bound, isPrepared, set⟩ := exclusive.prepare running address
  have links : ((outline.equip address pool bound).schedule outline.posts.length).links
      = outline.links := by
    simp only [Outline.schedule]
    split <;> rfl
  have scheduled := exclusive.recruit set (set.shows.schedule outline.posts.length Span.zero)
    (Outline.spends_schedule set.sound.timer _) links (Fabric.Steady.schedule _ _ Span.zero)
  simp only [Connector.connectAsync, isPrepared]
  split
  · rename_i fabric isScheduled
    rw [isScheduled] at scheduled
    exact ⟨pool, bound, _, scheduled.of_office rfl rfl rfl rfl, .inl rfl⟩
  · rename_i fabric error isScheduled
    rw [isScheduled] at scheduled
    exact ⟨pool, bound, _, scheduled.stop outline.posts.length, .inr rfl⟩

/-! ### Cancelling and shutting down -/

theorem log (exclusive : connector.Exclusive application outline) (line : LogLine) :
    (connector.onFabric fun fabric => fabric.log line).Exclusive application outline :=
  exclusive.of_quiet (Fabric.Quiet.log _ line)

theorem chore (exclusive : connector.Exclusive application outline) (chore : Chore connector changed) :
    ∃ after, changed.Exclusive application after := by
  cases chore with
  | turn connection enabled => exact ⟨_, exclusive.setReconnect connection enabled⟩
  | close channel => exact ⟨_, exclusive.close channel⟩
  | log line => exact ⟨_, exclusive.log line⟩
  | setRegistry registry => exact ⟨_, exclusive.of_office rfl rfl rfl rfl⟩
  | stopTimer => exact ⟨_, exclusive.stopTimer⟩

theorem chores (exclusive : connector.Exclusive application outline) (chores : Chores connector changed) :
    ∃ after, changed.Exclusive application after := by
  induction chores with
  | refl => exact ⟨outline, exclusive⟩
  | tail _ next ih =>
      obtain ⟨middle, before⟩ := ih
      exact before.chore next

theorem shutDown (exclusive : connector.Exclusive application outline) :
    ∃ after, connector.shutDown.Exclusive application after := by
  cases running : connector.isShutDown with
  | true =>
      rw [shutDown_of_shutDown running]
      exact ⟨outline, exclusive⟩
  | false =>
      have marked : ({ connector with isShutDown := true } : Connector).Exclusive application outline :=
        exclusive.of_office rfl rfl rfl rfl
      exact marked.chores (chores_shutDown running)

/-! ### Runs -/

/-- Whatever happens next, no watchdog is engaged twice. -/
theorem step (exclusive : connector.Exclusive application outline) (event : ConnectorEvent) :
    ∃ after, (connector.step event).Exclusive application after := by
  cases event with
  | connect address =>
      cases running : connector.isShutDown with
      | true =>
          rw [Connector.step, beginConnect_of_shutDown running]
          exact ⟨outline, exclusive⟩
      | false =>
          obtain ⟨_, _, begun⟩ := exclusive.beginConnect running address
          exact ⟨_, begun⟩
  | connectAsync address =>
      cases running : connector.isShutDown with
      | true =>
          rw [Connector.step, connectAsync_of_shutDown running]
          exact ⟨outline, exclusive⟩
      | false =>
          obtain ⟨_, _, after, asked, -⟩ := exclusive.connectAsync running address
          exact ⟨after, asked⟩
  | settle place outcome =>
      obtain ⟨after, settled, -⟩ := exclusive.settle place outcome
      exact ⟨after, settled⟩
  | fire index => exact ⟨_, exclusive.fire index⟩
  | close channel => exact ⟨_, exclusive.close channel⟩
  | setReconnect connection enabled => exact ⟨_, exclusive.setReconnect connection enabled⟩
  | manage address connection => exact ⟨outline, exclusive.of_office rfl rfl rfl rfl⟩
  | cancelReconnect address => exact exclusive.chores (chores_cancelReconnect connector address)
  | cancelAllReconnect => exact exclusive.chores (chores_cancelEach _ connector)
  | shutDown => exact exclusive.shutDown
  | workerStep watchdog worker =>
      exact ⟨outline, exclusive.of_quiet
        (Fabric.Quiet.workerStep watchdog worker exclusive.shows.plain)⟩
  | addCompletionListener connection listener =>
      exact ⟨outline, exclusive.of_quiet (Fabric.Quiet.addCompletionListener _ connection listener)⟩

theorem run (exclusive : connector.Exclusive application outline) (events : List ConnectorEvent) :
    ∃ after, (connector.run events).Exclusive application after := by
  induction events generalizing connector outline with
  | nil => exact ⟨outline, exclusive⟩
  | cons event rest ih =>
      obtain ⟨after, stepped⟩ := exclusive.step event
      exact ih stepped

end Exclusive

/-- However connecting, retries, failures, losses, cancelling and shutting down follow each other, every
watchdog has at most one of an open channel, a retry that is still to run and an attempt under way.  It
serves the connection with its own number, and that connection shows exactly whether the watchdog has an
open channel. -/
theorem engaged_at_most_once (config : ConnectorConfig) (application : Option String)
    (events : List ConnectorEvent) :
    let fabric := ((make config application).run events).fabric
    ∀ number : Fin fabric.watchdogs.length,
      fabric.channelsOf number + fabric.retriesOf number + fabric.attemptsOf number ≤ 1 ∧
        fabric.watchdogs[number].next = .tracker number application ∧
        ∃ found, fabric.connections[number.val]? = some found ∧
          (found.connected = true ↔ fabric.channelsOf number = 1) := by
  intro fabric number
  obtain ⟨outline, exclusive⟩ := (exclusive_make config application).run events
  have single := List.nodup_iff_count_le_one.1 exclusive.single number
  have isThere : number.val < fabric.connections.length :=
    Nat.lt_of_lt_of_eq number.isLt exclusive.mirrors.paired.symm
  have found := List.getElem?_eq_getElem isThere
  refine ⟨?_, ?_, _, found, ?_⟩
  · rw [exclusive.shows.engagements_eq]
    exact single
  · exact exclusive.mirrors.told number _ (List.getElem?_eq_getElem number.isLt)
  · have linked := (List.nodup_append.1 exclusive.single).1
    rw [exclusive.mirrors.shown number _ found, exclusive.shows.channelsOf_eq]
    constructor
    · intro isLink
      exact List.count_eq_one_of_mem linked (List.mem_filterMap.2 ⟨some number.val, isLink, rfl⟩)
    · intro once
      have isEngaged : number.val ∈ outline.links.filterMap id := List.count_pos_iff.1 (by omega)
      obtain ⟨link, isLink, same⟩ := List.mem_filterMap.1 isEngaged
      exact same ▸ isLink

end Connector

end Uplink
