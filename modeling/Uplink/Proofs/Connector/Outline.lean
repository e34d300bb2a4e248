/-
Module: Uplink.Proofs.Connector.Outline
Purpose: A connector and its outline: what connecting, answering callers and the other operations of a
  connector do to the watchdogs, pools and switches behind it.
Main exports: Outline.equip, Connector.Stands, Connector.Stands.prepare, Connector.Stands.beginConnect,
  Connector.Stands.connectAsync, Connector.Stands.settle, Connector.Stands.fire, Connector.Stands.close,
  Connector.Stands.setReconnect
-/
import Uplink.Connector.Run
import Uplink.Proofs.Fabric.Engagement

namespace Uplink

namespace Outline

/-- A pool of a certain capacity is there. -/
def withPool (outline : Outline) (pool bound : Nat) : Outline :=
  { outline with
    capacity := fun other => if other = pool then some bound else outline.capacity other }

/-- A connection to an address and its watchdog, which has done nothing yet. -/
def withConnection (outline : Outline) (address : Address) (pool : Nat) : Outline :=
  { outline with
    posts := outline.posts ++ [{ address, pool := some pool, started := true, pending := none }]
    switches := outline.switches ++ [(address, some (.watchdog outline.posts.length))] }

/-- A connection to an address, its watchdog, and the pool of the address. -/
def equip (outline : Outline) (address : Address) (pool bound : Nat) : Outline :=
  (outline.withPool pool bound).withConnection address pool

/-- The switch of every connection turns a watchdog of the connection's address. -/
def Wired (outline : Outline) : Prop :=
  ∀ (connection : Nat) (address : Address) (switch : Option ReconnectSwitch),
    outline.switches[connection]? = some (address, switch) →
    ∃ (number : Nat) (post : Post), switch = some (.watchdog number) ∧
      outline.posts[number]? = some post ∧ post.address = address

variable {outline changed : Outline} {groups : List (Address × Nat)} {bound : Nat}

theorem Wired.of_seats (wired : outline.Wired) (switches : changed.switches = outline.switches)
    (seats : changed.posts.map Post.seat = outline.posts.map Post.seat) : changed.Wired := by
  intro connection address switch isThere
  simp only [switches] at isThere
  obtain ⟨number, post, isWatchdog, isPost, sameAddress⟩ := wired connection address switch isThere
  have same := seat_of_seats seats number
  simp only [isPost] at same
  obtain ⟨other, isOther, sameSeat⟩ := Option.map_eq_some_iff.1 same
  exact ⟨number, other, isWatchdog, isOther, (congrArg Prod.fst sameSeat).trans sameAddress⟩

theorem engagements_equip (outline : Outline) (address : Address) (pool bound : Nat) :
    (outline.equip address pool bound).engagements = outline.engagements := rfl

/-- A watchdog that existed before a connection was set up is as it was. -/
theorem posts_equip_of_lt {number : Nat} (isOld : number < outline.posts.length) (address : Address)
    (pool bound : Nat) : (outline.equip address pool bound).posts[number]? = outline.posts[number]? :=
  List.getElem?_append_left isOld

/-- The watchdog of a new connection. -/
theorem posts_equip_self (outline : Outline) (address : Address) (pool bound : Nat) :
    (outline.equip address pool bound).posts[outline.posts.length]?
      = some { address, pool := some pool, started := true, pending := none } :=
  List.getElem?_concat_length

theorem Wired.withConnection (wired : outline.Wired) (address : Address) (pool : Nat) :
    (outline.withConnection address pool).Wired := by
  intro connection other switch isThere
  simp only [Outline.withConnection] at isThere ⊢
  simp only [List.getElem?_append] at isThere
  split at isThere
  · obtain ⟨number, post, isWatchdog, isPost, sameAddress⟩ := wired connection other switch isThere
    refine ⟨number, post, isWatchdog, ?_, sameAddress⟩
    rw [List.getElem?_append_left (List.getElem?_eq_some_iff.1 isPost).1]
    exact isPost
  · obtain ⟨sameAddress, sameSwitch⟩ := Prod.mk.inj (List.mem_singleton.1 (List.mem_of_getElem? isThere))
    refine ⟨outline.posts.length, _, sameSwitch, List.getElem?_concat_length, sameAddress.symm⟩

/-- A new watchdog engages nobody, and all others are where they were. -/
theorem Sound.withConnection (sound : outline.Sound groups bound) {address : Address} {pool : Nat}
    (isPool : groups.lookup address = some pool) :
    (outline.withConnection address pool).Sound groups bound := by
  have keeps : ∀ number, number < outline.posts.length →
      (outline.withConnection address pool).posts[number]? = outline.posts[number]? := by
    intro number isOld
    exact List.getElem?_append_left isOld
  refine ⟨sound.timer, ?_, sound.bounded, sound.apart,
    ?_, sound.distinct, ?_⟩
  · intro number post isThere
    simp only [Outline.withConnection] at isThere
    simp only [List.getElem?_append] at isThere
    split at isThere
    · exact sound.pooled number post isThere
    · rw [List.mem_singleton.1 (List.mem_of_getElem? isThere)]
      exact ⟨pool, rfl, isPool⟩
  · intro other channel isMember
    obtain ⟨number, isLink, inPool⟩ := sound.enrolled other channel isMember
    refine ⟨number, isLink, ?_⟩
    obtain ⟨post, isThere, -⟩ := Option.bind_eq_some_iff.1 inPool
    simp only [poolOf]
    rw [keeps number (List.getElem?_eq_some_iff.1 isThere).1]
    exact inPool
  · intro number isEngaged
    have isOld := sound.known number isEngaged
    simp only [Outline.withConnection]
    simp only [List.length_append]
    exact Nat.lt_add_right _ isOld

/-- Giving an address a pool that was not there gives it to no other address. -/
theorem Sound.withPool (sound : outline.Sound groups bound) {address : Address} {pool : Nat}
    (isNew : outline.capacity pool = none) :
    (outline.withPool pool bound).Sound (groups ++ [(address, pool)]) bound := by
  have given : ∀ other taken, (groups ++ [(address, pool)]).lookup other = some taken →
      groups.lookup other = some taken ∧ taken ≠ pool ∨ other = address ∧ taken = pool := by
    intro other taken isGroup
    simp only [List.lookup_append] at isGroup
    rcases Option.or_eq_some_iff.1 isGroup with isOld | ⟨-, isAdded⟩
    · refine Or.inl ⟨isOld, ?_⟩
      intro same
      have isBounded := sound.bounded other taken isOld
      simp only [same, isNew] at isBounded
      cases isBounded
    · simp only [List.lookup_cons] at isAdded
      cases isAddress : other == address with
      | true =>
          simp only [isAddress] at isAdded
          exact Or.inr ⟨beq_iff_eq.1 isAddress, (Option.some.inj isAdded).symm⟩
      | false =>
          simp only [isAddress] at isAdded
          cases isAdded
  refine ⟨sound.timer, ?_, ?_,
    ?_, sound.enrolled, sound.distinct, sound.known⟩
  · intro number post isThere
    obtain ⟨taken, isPool, isGroup⟩ := sound.pooled number post isThere
    refine ⟨taken, isPool, ?_⟩
    simp only [List.lookup_append, isGroup, Option.some_or]
  · intro other taken isGroup
    simp only [Outline.withPool]
    rcases given other taken isGroup with ⟨isOld, different⟩ | ⟨-, isPool⟩
    · simp only [if_neg different]
      exact sound.bounded other taken isOld
    · simp only [if_pos isPool]
  · intro first second taken isFirst isSecond
    rcases given first taken isFirst with ⟨firstOld, different⟩ | ⟨isAddress, isPool⟩
    · rcases given second taken isSecond with ⟨secondOld, -⟩ | ⟨-, isPool⟩
      · exact sound.apart first second taken firstOld secondOld
      · exact absurd isPool different
    · rcases given second taken isSecond with ⟨-, different⟩ | ⟨isSame, -⟩
      · exact absurd isPool different
      · exact isAddress.trans isSame.symm

end Outline

/-- A connector whose fabric shows an outline, in which everything is in order. -/
structure Connector.Stands (connector : Connector) (outline : Outline) : Prop where
  shows : connector.fabric.Shows outline
  sound : outline.Sound connector.groups connector.config.pool.bound.toNat
  wired : outline.Wired

namespace Connector

variable {connector : Connector} {outline : Outline}

theorem Stands.of_fabric {fabric : Fabric} {changed : Outline} (stands : connector.Stands outline)
    (shows : fabric.Shows changed)
    (sound : changed.Sound connector.groups connector.config.pool.bound.toNat)
    (switches : changed.switches = outline.switches)
    (seats : changed.posts.map Post.seat = outline.posts.map Post.seat) :
    ({ connector with fabric } : Connector).Stands changed :=
  ⟨shows, sound, stands.wired.of_seats switches seats⟩

/-- A change of the fabric that does not show. -/
theorem Stands.of_quiet {fabric : Fabric} (stands : connector.Stands outline)
    (quiet : connector.fabric.Quiet fabric) : ({ connector with fabric } : Connector).Stands outline :=
  ⟨stands.shows.of_quiet quiet, stands.sound, stands.wired⟩

/-- The outline of a connector that was not used yet. -/
theorem stands_make (config : ConnectorConfig) (application : Option String) :
    (make config application).Stands Fabric.fresh.outline := by
  refine ⟨⟨Roster.Tidy.fresh, fun _ isWatchdog => absurd isWatchdog List.not_mem_nil, rfl⟩,
    ⟨?_, ?_, ?_, ?_, ?_, ?_, ?_⟩, ?_⟩
  · exact ⟨fun _ isEntry => absurd isEntry List.not_mem_nil, List.nodup_nil⟩
  · intro number post isThere
    cases isThere
  · intro address pool isGroup
    cases isGroup
  · intro first second pool isGroup
    cases isGroup
  · intro pool channel isMember
    cases isMember
  · intro pool
    exact List.nodup_nil
  · intro number isEngaged
    cases isEngaged
  · intro connection address switch isThere
    cases isThere

/-! ### Setting up a connection -/

/-- The pool of an address is there once it is asked for. -/
theorem Stands.group (stands : connector.Stands outline) (address : Address) :
    (connector.group address).1.Stands
        (outline.withPool (connector.group address).2 connector.config.pool.bound.toNat) ∧
      (connector.group address).1.groups.lookup address = some (connector.group address).2 := by
  simp only [Connector.group]
  cases isGroup : connector.group? address with
  | some pool =>
      have isThere := stands.sound.bounded address pool isGroup
      have same : outline.withPool pool connector.config.pool.bound.toNat = outline := by
        simp only [Outline.withPool]
        have capacity : (fun other => if other = pool then some connector.config.pool.bound.toNat
            else outline.capacity other) = outline.capacity := by
          funext other
          split
          · rename_i isPool
            simp only [isPool, isThere]
          · rfl
        simp only [capacity]
      dsimp only
      simp only [same]
      exact ⟨stands, isGroup⟩
  | none =>
      have isNew : outline.capacity connector.fabric.roster.pools.length = none := by
        rw [stands.shows.capacity_eq, Roster.capacityOf, List.getElem?_eq_none (Nat.le_refl _)]
        rfl
      refine ⟨⟨stands.shows.addPool address connector.config.pool, ?_, ?_⟩, ?_⟩
      · exact stands.sound.withPool isNew
      · exact stands.wired.of_seats rfl rfl
      · have absent : connector.groups.lookup address = none := isGroup
        dsimp only
        simp only [List.lookup_append, absent, Option.none_or, List.lookup_cons_self]

/-- A connector that was shut down sets nothing up. -/
theorem prepare_of_shutDown (isShutDown : connector.isShutDown = true) (address : Address) :
    connector.prepare address = .error .shutDown := by
  simp only [Connector.prepare]
  rw [if_pos isShutDown]

/-- A connector that was shut down refuses to connect, and stays as it is. -/
theorem beginConnect_of_shutDown (isShutDown : connector.isShutDown = true) (address : Address) :
    connector.beginConnect address = (connector, .error .shutDown) := by
  simp only [beginConnect, prepare_of_shutDown isShutDown]

theorem connectAsync_of_shutDown (isShutDown : connector.isShutDown = true) (address : Address) :
    connector.connectAsync address = (connector, .error .shutDown) := by
  simp only [connectAsync, prepare_of_shutDown isShutDown]

/-- What setting up a connection leaves as it is. -/
structure SameOffice (connector changed : Connector) : Prop where
  config : changed.config = connector.config
  registry : changed.registry = connector.registry
  calls : changed.calls = connector.calls
  isShutDown : changed.isShutDown = connector.isShutDown

theorem sameOffice_group (connector : Connector) (address : Address) :
    SameOffice connector (connector.group address).1 := by
  simp only [Connector.group]
  split <;> exact ⟨rfl, rfl, rfl, rfl⟩

/-- The watchdog of a new connection. -/
def guard (connector : Connector) (address : Address) (pool connection : Nat) : Watchdog :=
  { Watchdog.make address (some pool) connector.config.watchdog.backoff
      (.tracker connection connector.application) connector.config.watchdog.notifyQueueCapacity.toNat with
    listeners := [.completion connection] }

theorem plain_guard (connector : Connector) (address : Address) (pool connection : Nat) :
    (connector.guard address pool connection).Plain := by
  refine ⟨?_, Notifier.unheld_make _⟩
  intro listener isListener
  exact ⟨connection, List.mem_singleton.1 isListener⟩

/-- A connection and its watchdog are added and wired. -/
theorem shows_withConnection (connector : Connector) {fabric : Fabric} (shows : fabric.Shows outline)
    (address : Address) (pool : Nat) :
    (((fabric.addConnection address).1.addWatchdog
        (connector.guard address pool fabric.connections.length)).1.bind fabric.connections.length
        (.watchdog fabric.watchdogs.length)).1.Shows (outline.withConnection address pool) := by
  have isConnection : fabric.connections.length = outline.switches.length := by
    rw [← shows.outlineEq]
    exact (List.length_map _).symm
  have isWatchdog : fabric.watchdogs.length = outline.posts.length := by
    rw [← shows.outlineEq]
    exact (List.length_map _).symm
  have there := (shows.addConnection address).addWatchdog
    (connector.plain_guard address pool fabric.connections.length)
  simp only [isConnection] at there
  simp only [isConnection, isWatchdog]
  have isNew : (outline.switches ++ [(address, none)])[outline.switches.length]? = some (address, none) :=
    List.getElem?_concat_length
  have bound := there.bind isNew (.watchdog outline.posts.length)
  dsimp only at bound
  rw [List.set_append_right _ _ (Nat.le_refl _), Nat.sub_self] at bound
  exact bound

/-- Preparing a connection succeeds unless the connector was shut down. -/
theorem Stands.prepare (stands : connector.Stands outline) (running : connector.isShutDown = false)
    (address : Address) :
    ∃ prepared pool, connector.prepare address = .ok (prepared,
        { address, connection := outline.switches.length, watchdog := outline.posts.length }) ∧
      prepared.Stands (outline.equip address pool connector.config.pool.bound.toNat) ∧
      SameOffice connector prepared := by
  obtain ⟨grouped, isPool⟩ := stands.group address
  have office := sameOffice_group connector address
  have isConnection : (connector.group address).1.fabric.connections.length
      = outline.switches.length := by
    rw [← List.length_map Connection.binding]
    exact congrArg (fun shown => shown.switches.length) grouped.shows.outlineEq
  have isWatchdog : (connector.group address).1.fabric.watchdogs.length = outline.posts.length := by
    rw [← List.length_map Watchdog.post]
    exact congrArg (fun shown => shown.posts.length) grouped.shows.outlineEq
  have shows := connector.shows_withConnection grouped.shows address (connector.group address).2
  simp only [isConnection, isWatchdog] at shows
  simp only [Connector.prepare]
  rw [if_neg (by rw [running]; exact Bool.false_ne_true)]
  dsimp only [Fabric.addConnection, Fabric.addWatchdog]
  simp only [isConnection, isWatchdog]
  refine ⟨_, (connector.group address).2, rfl, ⟨shows, ?_, ?_⟩,
    ⟨office.config, office.registry, office.calls, office.isShutDown⟩⟩
  · exact grouped.sound.withConnection isPool
  · exact grouped.wired.withConnection address _

/-- A step of the watchdogs of a fabric. -/
theorem Stands.carry {fabric : Fabric} {changed : Outline} {gained : List Nat}
    (stands : connector.Stands outline) (shows : fabric.Shows changed)
    (carries : outline.Carries changed gained)
    (exist : ∀ number ∈ gained, number < outline.posts.length) :
    ({ connector with fabric } : Connector).Stands changed :=
  stands.of_fabric shows (carries.sound _ _ stands.sound exist) carries.switches
    (Outline.seats_of_stations carries.steady)

theorem length_posts_equip (outline : Outline) (address : Address) (pool bound : Nat) :
    (outline.equip address pool bound).posts.length = outline.posts.length + 1 :=
  List.length_append

/-- A caller's attempt is under way from here on. -/
theorem Stands.beginConnect (stands : connector.Stands outline) (running : connector.isShutDown = false)
    (address : Address) :
    ∃ begun pool, connector.beginConnect address = (begun, .ok outline.switches.length) ∧
      begun.Stands ((outline.equip address pool connector.config.pool.bound.toNat).dial
        outline.posts.length .caller) ∧
      begun.config = connector.config ∧ begun.registry = connector.registry ∧
      begun.isShutDown = false ∧
      begun.calls = connector.calls ++
        [{ address, connection := outline.switches.length, watchdog := outline.posts.length }] := by
  obtain ⟨prepared, pool, isPrepared, there, office⟩ := stands.prepare running address
  have dialled := there.carry (there.shows.beginCall outline.posts.length)
    (Outline.carries_dial (Outline.posts_equip_self outline address pool _) .caller)
    (by
      intro number isNew
      simp only [List.mem_singleton.1 isNew, length_posts_equip]
      exact Nat.lt_succ_self _)
  simp only [Connector.beginConnect]
  simp only [isPrepared]
  refine ⟨_, pool, rfl, ⟨dialled.shows, dialled.sound, dialled.wired⟩, office.config, office.registry,
    office.isShutDown.trans running, ?_⟩
  dsimp only
  simp only [office.calls]

/-- Asking for a connection without waiting schedules an attempt, as long as the timer goes on. -/
theorem Stands.connectAsync (stands : connector.Stands outline) (running : connector.isShutDown = false)
    (goesOn : outline.timer.stopped = false) (address : Address) :
    ∃ asked pool, connector.connectAsync address = (asked, .ok outline.switches.length) ∧
      asked.Stands ((outline.equip address pool connector.config.pool.bound.toNat).schedule
        outline.posts.length) ∧
      asked.config = connector.config ∧
      asked.registry = connector.registry.manage address outline.switches.length ∧
      asked.isShutDown = false ∧ asked.calls = connector.calls := by
  obtain ⟨prepared, pool, isPrepared, there, office⟩ := stands.prepare running address
  have scheduled := there.carry (there.shows.schedule outline.posts.length Span.zero)
    (Outline.carries_schedule there.sound.timer goesOn _)
    (by
      intro number isNew
      simp only [List.mem_singleton.1 isNew, length_posts_equip]
      exact Nat.lt_succ_self _)
  have accepted : (prepared.fabric.schedule outline.posts.length Span.zero).2 = .ok () := by
    have sameStop : prepared.fabric.timer.stopped = false :=
      (congrArg (fun shown => shown.timer.stopped) there.shows.outlineEq).trans goesOn
    simp only [Fabric.schedule]
    simp only [ManualTimer.schedule_of_not_stopped sameStop]
  simp only [Connector.connectAsync]
  rw [isPrepared]
  cases isScheduled : prepared.fabric.schedule outline.posts.length Span.zero with
  | mk fabric answer =>
      simp only [isScheduled] at scheduled accepted
      dsimp only at scheduled accepted ⊢
      simp only [isScheduled, accepted]
      refine ⟨_, pool, rfl, ⟨scheduled.shows, scheduled.sound, scheduled.wired⟩, office.config, ?_,
        office.isShutDown.trans running, office.calls⟩
      simp only [manage]
      simp only [office.registry]

/-! ### The end of an attempt -/

theorem attempts_getElem? (stands : connector.Stands outline) (place : Nat) :
    outline.attempts[place]?
      = (connector.fabric.underWay[place]?).map fun attempt => (attempt.watchdog, attempt.origin) := by
  rw [← stands.shows.outlineEq]
  exact List.getElem?_map

/-- What is handed out when an attempt ends. -/
theorem settle_answer (fabric : Fabric) {place : Nat} {attempt : Attempt}
    (isThere : fabric.underWay[place]? = some attempt) (outcome : Outcome) :
    match outcome with
    | .failed error => (fabric.settle place outcome).2 = some (.error error)
    | _ => ∃ channel, (fabric.settle place outcome).2 = some (.ok channel) := by
  simp only [Fabric.settle]
  simp only [isThere]
  cases outcome with
  | established => exact ⟨_, rfl⟩
  | flapped => exact ⟨_, rfl⟩
  | failed error => rfl

/-- The connector once its fabric has ended an attempt and a call does not wait any more. -/
def relieve (connector : Connector) (fabric : Fabric) (call : PendingConnect) : Connector :=
  { connector with
    fabric
    calls := connector.calls.filter fun waiting => waiting.watchdog != call.watchdog }

/-- The end of an attempt is what the fabric makes of it, and after it the answer to a caller who waits for
the same watchdog. -/
theorem settle_cases (connector : Connector) (place : Nat) (outcome : Outcome) :
    (connector.fabric.underWay[place]? = none ∧ (connector.settle place outcome).1 = connector)
      ∨ ∃ attempt, connector.fabric.underWay[place]? = some attempt
        ∧ ((connector.settle place outcome).1
              = { connector with fabric := (connector.fabric.settle place outcome).1 }
            ∨ ∃ call result, call.watchdog = attempt.watchdog
              ∧ (connector.settle place outcome).1
                = ((connector.relieve (connector.fabric.settle place outcome).1 call).answer call result).1) := by
  simp only [settle]
  split
  · rename_i isAbsent
    exact .inl ⟨isAbsent, rfl⟩
  · rename_i attempt isThere
    refine .inr ⟨attempt, isThere, ?_⟩
    split
    · rename_i result call _ _ isFound
      have isMatch := List.find?_some isFound
      exact .inr ⟨call, result, beq_iff_eq.1 isMatch, rfl⟩
    · exact .inl rfl

/-- The fabric ends an attempt. -/
theorem Stands.settled (stands : connector.Stands outline) (goesOn : outline.timer.stopped = false)
    (place : Nat) (outcome : Outcome) :
    ({ connector with fabric := (connector.fabric.settle place outcome).1 } : Connector).Stands
      (outline.settle place outcome) := by
  have shows := stands.shows.settle place outcome
  by_cases isCallers : ∃ number error,
      outline.attempts[place]? = some (number, .caller) ∧ outcome = .failed error
  · obtain ⟨number, error, isThere, isFailure⟩ := isCallers
    have taken : outline.settle place (.failed error)
        = { outline with attempts := outline.attempts.eraseIdx place } := by
      simp only [Outline.settle]
      simp only [isThere]
      rfl
    simp only [isFailure] at shows ⊢
    simp only [taken] at shows ⊢
    exact stands.of_fabric shows (stands.sound.of_attempts place) rfl rfl
  · have carries := Outline.carries_settle stands.sound.timer goesOn place outcome
      fun number isThere error isFailure => isCallers ⟨number, error, isThere, isFailure⟩
    exact stands.carry shows carries fun _ isGained => absurd isGained List.not_mem_nil

/-- An attempt of the timer ends. -/
theorem Stands.settle_retry (stands : connector.Stands outline) (goesOn : outline.timer.stopped = false)
    {place : Nat}
    (isRetry : ∀ number origin, outline.attempts[place]? = some (number, origin) → origin = .retry)
    (outcome : Outcome) :
    (connector.settle place outcome).1.Stands (outline.settle place outcome) ∧
      (connector.settle place outcome).2 = none ∧
      SameOffice connector (connector.settle place outcome).1 := by
  have attempts := attempts_getElem? stands place
  have settled := stands.settled goesOn place outcome
  simp only [Connector.settle]
  cases isThere : connector.fabric.underWay[place]? with
  | none =>
      simp only [isThere] at attempts
      have same : outline.settle place outcome = outline := by
        simp only [Outline.settle]
        simp only [attempts]
        rfl
      rw [same]
      exact ⟨stands, rfl, rfl, rfl, rfl, rfl⟩
  | some attempt =>
      simp only [isThere] at attempts
      have origin : attempt.origin = .retry := isRetry _ _ attempts
      dsimp only
      rw [origin]
      exact ⟨settled, rfl, rfl, rfl, rfl, rfl⟩

theorem Stands.stop (stands : connector.Stands outline) (number : Nat) :
    (connector.onFabric fun fabric => (fabric.stop number).1).Stands (outline.stop number) :=
  stands.of_fabric (stands.shows.stop number) (stands.sound.stop number)
    (Outline.switches_stop outline number) (Outline.seats_stop outline number)

/-- A caller is answered: on success the connection comes under management, on failure its watchdog is
stopped. -/
theorem Stands.answer (stands : connector.Stands outline) (call : PendingConnect) :
    (∀ channel, (connector.answer call (.ok channel)).1.Stands outline ∧
      (connector.answer call (.ok channel)).2 = .ok call.connection) ∧
    ∀ error, (connector.answer call (.error error)).1.Stands (outline.stop call.watchdog) ∧
      (connector.answer call (.error error)).2 = .error (.connectFailed call.address error) := by
  refine ⟨fun channel => ⟨?_, rfl⟩, fun error => ⟨stands.stop call.watchdog, rfl⟩⟩
  have completed := stands.of_quiet ((Fabric.Quiet.log connector.fabric
    (connectedLine call.address channel)).trans (Fabric.Quiet.completeConnection _ call.connection))
  exact ⟨completed.shows, completed.sound, completed.wired⟩

/-- An attempt ends that a caller waits for. -/
theorem Stands.settle_caller (stands : connector.Stands outline) (goesOn : outline.timer.stopped = false)
    {place number : Nat} (isCaller : outline.attempts[place]? = some (number, .caller))
    {call : PendingConnect}
    (waits : (connector.calls.find? fun waiting => waiting.watchdog == number) = some call)
    (outcome : Outcome) :
    (connector.settle place outcome).1.calls
        = connector.calls.filter (fun waiting => waiting.watchdog != call.watchdog) ∧
      (connector.settle place outcome).1.config = connector.config ∧
      (connector.settle place outcome).1.isShutDown = connector.isShutDown ∧
      match outcome with
      | .failed error =>
          (connector.settle place outcome).1.Stands
              ((outline.settle place outcome).stop call.watchdog) ∧
            (connector.settle place outcome).2 = some (.error (.connectFailed call.address error)) ∧
            (connector.settle place outcome).1.registry = connector.registry
      | _ =>
          (connector.settle place outcome).1.Stands (outline.settle place outcome) ∧
            (connector.settle place outcome).2 = some (.ok call.connection) ∧
            (connector.settle place outcome).1.registry
              = connector.registry.manage call.address call.connection := by
  have attempts := attempts_getElem? stands place
  simp only [isCaller] at attempts
  obtain ⟨attempt, isThere, same⟩ := Option.map_eq_some_iff.1 attempts.symm
  obtain ⟨isNumber, isOrigin⟩ := Prod.mk.inj same
  have settled := stands.settled goesOn place outcome
  have handedOut := settle_answer connector.fabric isThere outcome
  simp only [Connector.settle]
  rw [isThere]
  dsimp only
  simp only [isOrigin, isNumber, waits]
  cases outcome with
  | failed error =>
      dsimp only at handedOut
      simp only [handedOut]
      have left : ({ connector with
          fabric := (connector.fabric.settle place (.failed error)).1
          calls := connector.calls.filter fun waiting => waiting.watchdog != call.watchdog } :
            Connector).Stands (outline.settle place (.failed error)) :=
        ⟨settled.shows, settled.sound, settled.wired⟩
      exact ⟨rfl, rfl, rfl, ((left.answer call).2 error).1, rfl, rfl⟩
  | established =>
      obtain ⟨channel, isAnswer⟩ := handedOut
      simp only [isAnswer]
      have left : ({ connector with
          fabric := (connector.fabric.settle place .established).1
          calls := connector.calls.filter fun waiting => waiting.watchdog != call.watchdog } :
            Connector).Stands (outline.settle place .established) :=
        ⟨settled.shows, settled.sound, settled.wired⟩
      exact ⟨rfl, rfl, rfl, ((left.answer call).1 channel).1, rfl, rfl⟩
  | flapped =>
      obtain ⟨channel, isAnswer⟩ := handedOut
      simp only [isAnswer]
      have left : ({ connector with
          fabric := (connector.fabric.settle place .flapped).1
          calls := connector.calls.filter fun waiting => waiting.watchdog != call.watchdog } :
            Connector).Stands (outline.settle place .flapped) :=
        ⟨settled.shows, settled.sound, settled.wired⟩
      exact ⟨rfl, rfl, rfl, ((left.answer call).1 channel).1, rfl, rfl⟩

/-- However an attempt ends, all that happens besides is that a watchdog may be stopped after a failure. -/
theorem Stands.settle (stands : connector.Stands outline) (goesOn : outline.timer.stopped = false)
    (place : Nat) (outcome : Outcome) :
    (connector.settle place outcome).1.config = connector.config ∧
      (connector.settle place outcome).1.isShutDown = connector.isShutDown ∧
      ((connector.settle place outcome).1.Stands (outline.settle place outcome) ∨
        (∃ error, outcome = .failed error) ∧ ∃ number,
          (connector.settle place outcome).1.Stands ((outline.settle place outcome).stop number)) := by
  have attempts := attempts_getElem? stands place
  by_cases isCallers : ∃ number call, outline.attempts[place]? = some (number, .caller) ∧
      (connector.calls.find? fun waiting => waiting.watchdog == number) = some call
  · obtain ⟨number, call, isCaller, waits⟩ := isCallers
    obtain ⟨-, config, isShutDown, answered⟩ := stands.settle_caller goesOn isCaller waits outcome
    refine ⟨config, isShutDown, ?_⟩
    cases outcome with
    | established => exact Or.inl answered.1
    | flapped => exact Or.inl answered.1
    | failed error => exact Or.inr ⟨⟨error, rfl⟩, call.watchdog, answered.1⟩
  · have settled := stands.settled goesOn place outcome
    simp only [Connector.settle]
    cases isThere : connector.fabric.underWay[place]? with
    | none =>
        simp only [isThere] at attempts
        have same : outline.settle place outcome = outline := by
          simp only [Outline.settle]
          simp only [attempts]
          rfl
        rw [same]
        exact ⟨rfl, rfl, Or.inl stands⟩
    | some attempt =>
        simp only [isThere] at attempts
        dsimp only
        split
        · rename_i isCaller isAnswer waits
          exact absurd ⟨attempt.watchdog, _, isCaller ▸ attempts, waits⟩ isCallers
        · exact ⟨rfl, rfl, Or.inl settled⟩

/-! ### Timer, channels and switches -/

/-- An entry of the timer fires; the calls and the rest of the office stay as they are. -/
theorem Stands.fire (stands : connector.Stands outline) (index : Nat) :
    (connector.fire index).1.Stands (outline.fire index) ∧
      SameOffice connector (connector.fire index).1 := by
  obtain ⟨released, handedOut⟩ := stands.shows.release index
  have carries := Outline.carries_fire stands.sound.timer index
  have steps : ∀ fabric : Fabric, fabric.Shows (outline.fire index) →
      ({ connector with fabric } : Connector).Stands (outline.fire index) := fun fabric shows =>
    stands.carry shows carries fun _ isGained => absurd isGained List.not_mem_nil
  simp only [Connector.fire]
  cases isReleased : connector.fabric.release index with
  | mk fabric task =>
      simp only [isReleased] at released handedOut
      have joined := congrArg Option.join handedOut.symm
      rcases task with - | - | watchdog
      · have fired := Outline.fire_of_none joined
        exact ⟨steps fabric (fired ▸ released), rfl, rfl, rfl, rfl⟩
      · have fired := Outline.fire_of_none joined
        exact ⟨steps fabric (fired ▸ released), rfl, rfl, rfl, rfl⟩
      · have fired := Outline.fire_of_some joined
        exact ⟨steps _ (fired ▸ released.beginRetry watchdog), rfl, rfl, rfl, rfl⟩

theorem Stands.close (stands : connector.Stands outline) (goesOn : outline.timer.stopped = false)
    (channel : Nat) : (connector.close channel).Stands (outline.close channel) :=
  stands.carry (stands.shows.close channel) (Outline.carries_close stands.sound.timer goesOn channel)
    fun _ isGained => absurd isGained List.not_mem_nil

theorem Stands.setReconnect (stands : connector.Stands outline) (connection : Nat) (enabled : Bool) :
    (connector.setReconnect connection enabled).Stands (outline.turnSwitch connection enabled) :=
  stands.of_fabric (stands.shows.turnSwitch connection enabled)
    (stands.sound.turnSwitch connection enabled) (Outline.switches_turnSwitch outline connection enabled)
    (Outline.seats_turnSwitch outline connection enabled)

theorem Stands.workerStep (stands : connector.Stands outline) (watchdog worker : Nat) :
    (connector.step (.workerStep watchdog worker)).Stands outline :=
  stands.of_quiet (Fabric.Quiet.workerStep watchdog worker stands.shows.plain)

theorem Stands.addCompletionListener (stands : connector.Stands outline) (connection listener : Nat) :
    (connector.step (.addCompletionListener connection listener)).Stands outline :=
  stands.of_quiet (Fabric.Quiet.addCompletionListener connector.fabric connection listener)

end Connector

end Uplink
