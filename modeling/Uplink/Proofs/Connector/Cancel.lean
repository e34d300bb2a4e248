/-
Module: Uplink.Proofs.Connector.Cancel
Purpose: What cancelling the retries of an address achieves: the address is not dialled any more, exactly if
  the registry lists the connection of every started watchdog of the address that is engaged.
Main exports: ConnectorEvent.isEveryday, ConnectorEvent.Spares, Fabric.Engaged, Fabric.Watches,
  Fabric.dialled, Connector.Lists, Connector.Abides, Connector.Abides.step,
  Connector.cancelReconnect_silences_iff
-/
import Uplink.Proofs.Connector.Outline
import Uplink.Proofs.Fabric.Silence

namespace Uplink

/-! ### Engaged watchdogs -/

namespace Fabric

/-- A watchdog is engaged: it handles an open channel, the timer is to run a retry of it, or an attempt of
it is under way. -/
def Engaged (fabric : Fabric) (number : Nat) : Prop :=
  (∃ channel ∈ fabric.roster.channels, channel.isOpen = true ∧ channel.handler = some number) ∨
    (∃ entry ∈ fabric.timer.entries,
      fabric.timer.timeout entry.handle = .pending ∧ entry.task = number) ∨
    ∃ attempt ∈ fabric.underWay, attempt.watchdog = number

/-- A watchdog is started, and watches over links to an address. -/
def Watches (fabric : Fabric) (address : Address) (number : Nat) : Prop :=
  ∃ watchdog, fabric.watchdogs[number]? = some watchdog ∧ watchdog.address = address ∧
    watchdog.started = true

/-- How often an address was dialled so far. -/
def dialled (fabric : Fabric) (address : Address) : Nat :=
  fabric.roster.dials.count address

variable {fabric : Fabric} {outline : Outline}

theorem Shows.engaged_iff (shows : fabric.Shows outline) (number : Nat) :
    number ∈ outline.engagements ↔ fabric.Engaged number := by
  rw [← shows.outlineEq]
  simp only [Outline.engagements, Engaged]
  simp only [List.mem_append]
  refine or_congr ?_ (or_congr ?_ ?_)
  · simp only [Fabric.outline, Roster.links]
    simp only [List.filterMap_map, List.mem_filterMap]
    refine exists_congr fun channel => and_congr_right ?_
    intro _
    unfold Channel.link
    cases isOpen : channel.isOpen <;> simp [isOpen]
  · simp only [Fabric.outline]
    simp only [ManualTimer.waiting_undated]
    unfold ManualTimer.waiting ManualTimer.isWaiting
    simp only [List.mem_map, List.mem_filter, beq_iff_eq, and_assoc]
  · simp only [Fabric.outline]
    simp only [List.map_map, List.mem_map, Function.comp_apply]

theorem Shows.dialled_eq (shows : fabric.Shows outline) (address : Address) :
    fabric.dialled address = outline.dials.count address := by
  rw [← shows.outlineEq]
  rfl

theorem Shows.switches_getElem? (shows : fabric.Shows outline) (connection : Nat) :
    outline.switches[connection]? = (fabric.connections[connection]?).map Connection.binding := by
  rw [← shows.outlineEq]
  exact List.getElem?_map

end Fabric

/-! ### Events -/

/-- Whether an event is one of every day: the connector is not shut down, and connections come under
management by connecting only. -/
def ConnectorEvent.isEveryday : ConnectorEvent → Bool
  | .shutDown => false
  | .manage _ _ => false
  | _ => true

/-- An event of every day that does not ask for an address: nobody connects to it, and reconnecting is not
turned on for a connection to it. -/
def ConnectorEvent.Spares (fabric : Fabric) (address : Address) : ConnectorEvent → Prop
  | .connect other => other ≠ address
  | .connectAsync other => other ≠ address
  | .setReconnect connection true =>
      (fabric.connections[connection]?).map Connection.address ≠ some address
  | event => event.isEveryday = true

theorem ConnectorEvent.Spares.isEveryday {fabric : Fabric} {address : Address} {event : ConnectorEvent}
    (spares : event.Spares fabric address) : event.isEveryday = true := by
  cases event with
  | shutDown => exact spares
  | manage => exact spares
  | _ => rfl

/-- The registry lists a connection to an address whose switch turns a watchdog. -/
def Connector.Lists (connector : Connector) (address : Address) (number : Nat) : Prop :=
  ∃ connection ∈ connector.registry.connections address, ∃ found,
    connector.fabric.connections[connection]? = some found ∧ found.switch = some (.watchdog number)

/-! ### Steps -/

namespace Outline

variable {outline : Outline} {address other : Address}

theorem Owned.equip (owned : outline.Owned) (address : Address) (pool bound : Nat) :
    (outline.equip address pool bound).Owned := by
  intro number post handle isThere isPending
  simp only [Outline.equip, Outline.withConnection] at isThere
  simp only [List.getElem?_append] at isThere
  split at isThere
  · exact owned number post handle isThere isPending
  · rw [List.mem_singleton.1 (List.mem_of_getElem? isThere)] at isPending
    cases isPending

/-- A connection to another address spares an address. -/
theorem spares_equip {groups : List (Address × Nat)} {bound : Nat} (sound : outline.Sound groups bound)
    (different : other ≠ address) (pool : Nat) :
    outline.Spares (outline.equip other pool bound) address := by
  refine ⟨?_, fun _ => rfl, ?_⟩
  · intro muted number isEngaged watches
    obtain ⟨post, isThere, isOurs, isStarted, roomy⟩ := watches
    rw [posts_equip_of_lt (sound.known number isEngaged)] at isThere
    refine muted number isEngaged ⟨post, isThere, isOurs, isStarted, ?_⟩
    intro held isHeld isFull
    apply roomy held isHeld
    obtain ⟨same, isSame, isGroup⟩ := sound.pooled number post isThere
    simp only [isHeld] at isSame
    have isBound := sound.bounded post.address same isGroup
    rw [← Option.some.inj isSame, isFull] at isBound
    simp only [Outline.equip, Outline.withConnection, Outline.withPool]
    rw [isFull, ← isBound, ite_self]
  · intro connection isOurs
    simp only [Outline.equip, Outline.withConnection] at isOurs
    simp only [List.getElem?_append] at isOurs
    split at isOurs
    · exact isOurs
    · obtain ⟨binding, isThere, isAddress⟩ := Option.map_eq_some_iff.1 isOurs
      rw [List.mem_singleton.1 (List.mem_of_getElem? isThere)] at isAddress
      exact absurd isAddress different

/-- The watchdog of a new connection watches over links to its address only. -/
theorem not_watches_equip (outline : Outline) (different : other ≠ address) (pool bound : Nat) :
    ¬ (outline.equip other pool bound).Watches address outline.posts.length := by
  rintro ⟨post, isThere, isOurs, -⟩
  simp only [posts_equip_self] at isThere
  rw [← Option.some.inj isThere] at isOurs
  exact different isOurs

/-- A caller who asks for another address spares an address. -/
theorem spares_call {groups : List (Address × Nat)} {bound : Nat} (sound : outline.Sound groups bound)
    (different : other ≠ address) (pool : Nat) :
    outline.Spares ((outline.equip other pool bound).dial outline.posts.length .caller) address := by
  have isNew := posts_equip_self outline other pool bound
  refine (spares_equip sound different pool).trans
    ((carries_dial isNew .caller).spares ?_ ?_)
  · intro number isRecruit
    simp only [List.mem_singleton.1 isRecruit]
    exact not_watches_equip outline different pool bound
  · intro _
    rw [dial_eq isNew]
    dsimp only
    rw [List.count_append, List.count_singleton, if_neg (by simpa using different), Nat.add_zero]

/-- An attempt that is scheduled for another address spares an address. -/
theorem spares_ask {groups : List (Address × Nat)} {bound : Nat} (sound : outline.Sound groups bound)
    (goesOn : outline.timer.stopped = false) (different : other ≠ address) (pool : Nat) :
    outline.Spares ((outline.equip other pool bound).schedule outline.posts.length) address := by
  have sameTimer : (outline.equip other pool bound).timer.Sound := sound.timer
  have carries := carries_schedule sameTimer goesOn outline.posts.length
  refine (spares_equip sound different pool).trans
    (carries.spares ?_ ?_)
  · intro number isRecruit
    simp only [List.mem_singleton.1 isRecruit]
    exact not_watches_equip outline different pool bound
  · intro _
    have same := congrArg Prod.snd (trials_schedule (outline.equip other pool bound) outline.posts.length)
    dsimp only [trials] at same
    simp only [same]

/-- Reconnecting that is turned off, or turned on for a connection to another address, spares an
address. -/
theorem spares_turnSwitch (wired : outline.Wired) {connection : Nat} {enabled : Bool}
    (elsewhere : enabled = true → (outline.switches[connection]?).map Prod.fst ≠ some address) :
    outline.Spares (outline.turnSwitch connection enabled) address := by
  rcases turnSwitch_cases outline connection enabled with same | ⟨owner, number, isSwitch, turned⟩
  · simp only [same]
    exact Spares.refl outline address
  · simp only [turned]
    cases enabled with
    | false => exact spares_stop outline number address
    | true =>
        refine spares_start fun post isThere isOurs => elsewhere rfl ?_
        obtain ⟨watched, found, isWatched, isFound, sameAddress⟩ :=
          wired connection owner (some (.watchdog number)) isSwitch
        have sameNumber : number = watched :=
          ReconnectSwitch.watchdog.inj (Option.some.inj isWatched)
        rw [← sameNumber, isThere] at isFound
        rw [isSwitch, Option.map_some, ← sameAddress, ← Option.some.inj isFound, isOurs]

theorem spares_turnOff (wired : outline.Wired) (connections : List Nat) (address : Address) :
    outline.Spares (outline.turnOff connections) address := by
  induction connections generalizing outline with
  | nil => exact Spares.refl outline address
  | cons connection rest ih =>
      have first : outline.Spares (outline.turnSwitch connection false) address :=
        spares_turnSwitch wired fun isOn => absurd isOn Bool.false_ne_true
      refine first.trans (ih (wired.of_seats ?_ ?_))
      · exact switches_turnSwitch outline connection false
      · exact seats_turnSwitch outline connection false

end Outline

namespace Connector

variable {connector : Connector} {outline : Outline}

/-- A started watchdog of an address in the outline and in the fabric, where pools have a capacity. -/
theorem Stands.watches_iff (stands : connector.Stands outline) (address : Address) (number : Nat) :
    outline.Watches address number ↔
      0 < connector.config.pool.bound.toNat ∧ connector.fabric.Watches address number := by
  have posts := stands.shows.posts_getElem? number
  constructor
  · rintro ⟨post, isThere, isOurs, isStarted, roomy⟩
    obtain ⟨pool, isPool, isGroup⟩ := stands.sound.pooled number post isThere
    have capacity := stands.sound.bounded post.address pool isGroup
    simp only [posts] at isThere
    obtain ⟨watchdog, isWatchdog, same⟩ := Option.map_eq_some_iff.1 isThere
    refine ⟨Nat.pos_of_ne_zero fun isZero => roomy pool isPool (isZero ▸ capacity), watchdog, isWatchdog, ?_⟩
    rw [← same] at isOurs isStarted
    exact ⟨isOurs, isStarted⟩
  · rintro ⟨room, watchdog, isWatchdog, isOurs, isStarted⟩
    simp only [isWatchdog] at posts
    refine ⟨watchdog.post, posts, isOurs, isStarted, ?_⟩
    intro pool isPool isFull
    obtain ⟨held, isHeld, isGroup⟩ := stands.sound.pooled number watchdog.post posts
    simp only [isPool] at isHeld
    have capacity := stands.sound.bounded watchdog.post.address held isGroup
    rw [← Option.some.inj isHeld, isFull] at capacity
    have isZero : 0 = connector.config.pool.bound.toNat := Option.some.inj capacity
    omega

/-- The registry lists a watchdog's connection in the outline and in the fabric. -/
theorem Stands.controls_iff (stands : connector.Stands outline) (address : Address) (number : Nat) :
    outline.Controls (connector.registry.connections address) number ↔ connector.Lists address number := by
  simp only [Outline.Controls, Lists]
  refine exists_congr fun connection => and_congr_right ?_
  intro _
  simp only [stands.shows.switches_getElem? connection]
  cases connector.fabric.connections[connection]? <;> simp [Connection.binding]

/-- A connector that goes on: everything is in order, and the timer and the connector accept requests. -/
structure Abides (connector : Connector) (outline : Outline) : Prop extends connector.Stands outline where
  goesOn : outline.timer.stopped = false
  running : connector.isShutDown = false
  owned : outline.Owned

namespace Abides

theorem make (config : ConnectorConfig) (application : Option String) :
    (Connector.make config application).Abides Fabric.fresh.outline :=
  ⟨stands_make config application, rfl, rfl, fun _ _ _ isThere => nomatch isThere⟩

/-- A change of the connector that its outline does not show. -/
theorem of_stands {changed : Connector} (abides : connector.Abides outline)
    (stands : changed.Stands outline) (running : changed.isShutDown = connector.isShutDown) :
    changed.Abides outline :=
  ⟨stands, abides.goesOn, running.trans abides.running, abides.owned⟩

/-- A step of the watchdogs. -/
theorem carry {changed : Connector} {after : Outline} {gained : List Nat}
    (abides : connector.Abides outline) (stands : changed.Stands after)
    (carries : outline.Carries after gained) (running : changed.isShutDown = false) :
    changed.Abides after :=
  ⟨stands, carries.stopped.trans abides.goesOn, running, carries.owned abides.owned⟩

theorem setReconnect (abides : connector.Abides outline) (connection : Nat) (enabled : Bool) :
    (connector.setReconnect connection enabled).Abides (outline.turnSwitch connection enabled) := by
  refine ⟨abides.toStands.setReconnect connection enabled, ?_, abides.running,
    abides.owned.turnSwitch connection enabled⟩
  rcases Outline.turnSwitch_cases outline connection enabled with same | ⟨_, number, -, turned⟩
  · simp only [same]
    exact abides.goesOn
  · simp only [turned]
    cases enabled with
    | true => exact abides.goesOn
    | false => exact (Outline.stopped_stop outline number).trans abides.goesOn

/-- Cancelling turns off the switches of the connections that the registry lists. -/
theorem cancelReconnect (abides : connector.Abides outline) (address : Address) :
    (connector.cancelReconnect address).1.Abides
        (outline.turnOff (connector.registry.connections address)) ∧
      (connector.cancelReconnect address).1.config = connector.config := by
  have turned : ∀ (connections : List Nat) (started : Connector) (before : Outline),
      started.Abides before →
      (connections.foldl (fun changed found => changed.setReconnect found false) started).Abides
          (before.turnOff connections) ∧
        (connections.foldl (fun changed found => changed.setReconnect found false) started).config
          = started.config := by
    intro connections
    induction connections with
    | nil => exact fun started before begins => ⟨begins, rfl⟩
    | cons connection rest ih =>
        intro started before begins
        exact ih _ _ (begins.setReconnect connection false)
  simp only [Connector.cancelReconnect, ConnectionRegistry.connections, ConnectionRegistry.withdraw]
  cases isListed : connector.registry.entries.lookup address with
  | none => exact ⟨abides, rfl⟩
  | some connections =>
      dsimp only [Option.getD_some]
      let left : Connector := { connector with
        registry := { entries := connector.registry.entries.filter fun entry => entry.1 ≠ address } }
      have begins : left.Abides outline :=
        ⟨⟨abides.shows, abides.sound, abides.wired⟩, abides.goesOn, abides.running, abides.owned⟩
      obtain ⟨ends, config⟩ := turned connections left outline begins
      have logged := ends.toStands.of_quiet (Fabric.Quiet.log _
        (ConnectionRegistry.cancelledLine address connections.length))
      exact ⟨ends.of_stands ⟨logged.shows, logged.sound, logged.wired⟩ rfl, config⟩

theorem cancelEach (abides : connector.Abides outline) (addresses : List Address) :
    ∃ after, (connector.cancelEach addresses).1.Abides after ∧
      (connector.cancelEach addresses).1.config = connector.config ∧
      ∀ address, outline.Spares after address := by
  induction addresses generalizing connector outline with
  | nil => exact ⟨outline, abides, rfl, fun address => Outline.Spares.refl outline address⟩
  | cons cancelled rest ih =>
      obtain ⟨first, config⟩ := abides.cancelReconnect cancelled
      obtain ⟨after, others, sameConfig, spares⟩ := ih first
      refine ⟨after, others, sameConfig.trans config, ?_⟩
      intro address
      exact (Outline.spares_turnOff abides.wired _ address).trans (spares address)

/-- However an attempt ends, every address is spared. -/
theorem settle (abides : connector.Abides outline) (place : Nat) (outcome : Outcome) :
    ∃ after, (connector.settle place outcome).1.Abides after ∧
      (connector.settle place outcome).1.config = connector.config ∧
      (∀ address, outline.Spares after address) ∧
      (outcome = .established → after = outline.settle place outcome) := by
  obtain ⟨config, isShutDown, ends⟩ := abides.toStands.settle abides.goesOn place outcome
  have spares := Outline.spares_settle abides.sound.timer abides.goesOn place outcome
  have ended : (outline.settle place outcome).timer.stopped = false ∧
      (outline.settle place outcome).Owned := by
    by_cases isCallers : ∃ number error,
        outline.attempts[place]? = some (number, .caller) ∧ outcome = .failed error
    · obtain ⟨number, error, isThere, isFailure⟩ := isCallers
      simp only [isFailure]
      simp only [Outline.settle]
      simp only [isThere]
      exact ⟨abides.goesOn, abides.owned⟩
    · have carries := Outline.carries_settle abides.sound.timer abides.goesOn place outcome
        fun number isThere error isFailure => isCallers ⟨number, error, isThere, isFailure⟩
      exact ⟨carries.stopped.trans abides.goesOn, carries.owned abides.owned⟩
  rcases ends with stands | ⟨⟨error, isFailure⟩, number, stands⟩
  · exact ⟨_, ⟨stands, ended.1, isShutDown.trans abides.running, ended.2⟩, config, spares, fun _ => rfl⟩
  · refine ⟨_, ⟨stands, ?_, isShutDown.trans abides.running, ended.2.stop number⟩, config,
      fun address => (spares address).trans (Outline.spares_stop _ number address), ?_⟩
    · exact (Outline.stopped_stop _ number).trans ended.1
    · intro isSuccess
      simp only [isFailure] at isSuccess
      cases isSuccess

/-- One event of every day: the connector goes on, and every address that is not asked for is spared. -/
theorem step (abides : connector.Abides outline) {event : ConnectorEvent}
    (everyday : event.isEveryday = true) :
    ∃ after, (connector.step event).Abides after ∧
      (connector.step event).config = connector.config ∧
      ∀ address, event.Spares connector.fabric address → outline.Spares after address := by
  have unseen : ∀ changed : Connector, changed.Stands outline →
      changed.isShutDown = connector.isShutDown → changed.config = connector.config →
      ∃ after, changed.Abides after ∧ changed.config = connector.config ∧
        ∀ address, event.Spares connector.fabric address → outline.Spares after address := by
    intro changed stands running config
    exact ⟨outline, abides.of_stands stands running, config,
      fun address _ => Outline.Spares.refl outline address⟩
  cases event with
  | connect other =>
      obtain ⟨begun, pool, isBegun, stands, config, -, running, -⟩ :=
        abides.toStands.beginConnect abides.running other
      have isNew := Outline.posts_equip_self outline other pool connector.config.pool.bound.toNat
      have carries := Outline.carries_dial isNew .caller
      simp only [Connector.step]
      simp only [isBegun]
      refine ⟨_, ⟨stands, carries.stopped.trans abides.goesOn, running,
        carries.owned (abides.owned.equip other pool _)⟩, config, ?_⟩
      intro address different
      exact Outline.spares_call abides.sound different pool
  | connectAsync other =>
      obtain ⟨asked, pool, isAsked, stands, config, -, running, -⟩ :=
        abides.toStands.connectAsync abides.running abides.goesOn other
      have sameTimer : (outline.equip other pool connector.config.pool.bound.toNat).timer.Sound :=
        abides.sound.timer
      have carries := Outline.carries_schedule sameTimer abides.goesOn outline.posts.length
      simp only [Connector.step]
      simp only [isAsked]
      refine ⟨_, ⟨stands, carries.stopped.trans abides.goesOn, running,
        carries.owned (abides.owned.equip other pool _)⟩, config, ?_⟩
      intro address different
      exact Outline.spares_ask abides.sound abides.goesOn different pool
  | settle place outcome =>
      obtain ⟨after, ends, config, spares, -⟩ := abides.settle place outcome
      exact ⟨after, ends, config, fun address _ => spares address⟩
  | fire index =>
      obtain ⟨stands, office⟩ := abides.toStands.fire index
      exact ⟨_, abides.carry stands (Outline.carries_fire abides.sound.timer index)
        (office.isShutDown.trans abides.running), office.config,
        fun address _ => Outline.spares_fire abides.sound.timer index address⟩
  | close channel =>
      exact ⟨_, abides.carry (abides.toStands.close abides.goesOn channel)
        (Outline.carries_close abides.sound.timer abides.goesOn channel) abides.running, rfl,
        fun address _ => Outline.spares_close abides.sound.timer abides.goesOn channel address⟩
  | setReconnect connection enabled =>
      refine ⟨_, abides.setReconnect connection enabled, rfl, ?_⟩
      intro address spares
      apply Outline.spares_turnSwitch abides.wired
      intro isOn
      simp only [isOn] at spares
      simp only [abides.shows.switches_getElem? connection, Option.map_map]
      exact spares
  | manage address connection => cases everyday
  | cancelReconnect cancelled =>
      obtain ⟨ends, config⟩ := abides.cancelReconnect cancelled
      exact ⟨_, ends, config, fun address _ => Outline.spares_turnOff abides.wired _ address⟩
  | cancelAllReconnect =>
      obtain ⟨after, ends, config, spares⟩ := abides.cancelEach connector.registry.addresses
      exact ⟨after, ends, config, fun address _ => spares address⟩
  | shutDown => cases everyday
  | workerStep watchdog worker =>
      exact unseen _ (abides.toStands.workerStep watchdog worker) rfl rfl
  | addCompletionListener connection listener =>
      exact unseen _ (abides.toStands.addCompletionListener connection listener) rfl rfl

/-- Any number of events of every day. -/
theorem run (abides : connector.Abides outline) (events : List ConnectorEvent)
    (everyday : ∀ event ∈ events, event.isEveryday = true) :
    ∃ after, (connector.run events).Abides after ∧ (connector.run events).config = connector.config := by
  induction events generalizing connector outline with
  | nil => exact ⟨outline, abides, rfl⟩
  | cons event rest ih =>
      obtain ⟨middle, first, config, -⟩ := abides.step (everyday event List.mem_cons_self)
      obtain ⟨after, others, sameConfig⟩ :=
        ih first fun other isOther => everyday other (List.mem_cons_of_mem _ isOther)
      exact ⟨after, others, sameConfig.trans config⟩

/-! ### Silence -/

/-- What spared an address at first spares it later, as long as no connection to it has come. -/
theorem spares_of_foreign (abides : connector.Abides outline) {fabric : Fabric} {address : Address}
    {event : ConnectorEvent} (spares : event.Spares fabric address)
    (foreign : ∀ connection : Nat, (outline.switches[connection]?).map Prod.fst = some address →
      (fabric.connections[connection]?).map Connection.address = some address) :
    event.Spares connector.fabric address := by
  cases event with
  | setReconnect connection enabled =>
      cases enabled with
      | false => rfl
      | true =>
          intro isOurs
          apply spares
          apply foreign
          simp only [abides.shows.switches_getElem? connection, Option.map_map]
          exact isOurs
  | _ => exact spares

/-- A muted address is not dialled, as long as nobody asks for it. -/
theorem silent (abides : connector.Abides outline) {fabric : Fabric} {address : Address}
    (muted : outline.Muted address) (later : List ConnectorEvent)
    (spared : ∀ event ∈ later, event.Spares fabric address)
    (foreign : ∀ connection : Nat, (outline.switches[connection]?).map Prod.fst = some address →
      (fabric.connections[connection]?).map Connection.address = some address) :
    (connector.run later).fabric.dialled address = connector.fabric.dialled address := by
  induction later generalizing connector outline with
  | nil => rfl
  | cons event rest ih =>
      have isSpared := spared event List.mem_cons_self
      obtain ⟨middle, steps, -, spares⟩ := abides.step isSpared.isEveryday
      have sparing := spares address (abides.spares_of_foreign isSpared foreign)
      have others := ih steps (sparing.muted muted)
        (fun other isOther => spared other (List.mem_cons_of_mem _ isOther))
        fun connection isOurs => foreign connection (sparing.switches connection isOurs)
      have same := sparing.dials muted
      rw [← steps.shows.dialled_eq, ← abides.shows.dialled_eq] at same
      exact others.trans same

/-! ### Noise -/

theorem closeAll (abides : connector.Abides outline) (channels : List Nat) :
    (connector.run (channels.map .close)).Abides (outline.closeAll channels) := by
  induction channels generalizing connector outline with
  | nil => exact abides
  | cons channel rest ih =>
      exact ih (abides.carry (abides.toStands.close abides.goesOn channel)
        (Outline.carries_close abides.sound.timer abides.goesOn channel) abides.running)

/-- An address is dialled again in the course of things: nobody asks for it. -/
def Redials (connector : Connector) (address : Address) : Prop :=
  ∃ later : List ConnectorEvent, (∀ event ∈ later, ∀ fabric, event.Spares fabric address) ∧
    connector.fabric.dialled address < (connector.run later).fabric.dialled address

/-- What is dialled again after some events is dialled again. -/
theorem redials_of_run {connector : Connector} {address : Address} {first : List ConnectorEvent}
    (spared : ∀ event ∈ first, ∀ fabric, event.Spares fabric address)
    (same : (connector.run first).fabric.dialled address = connector.fabric.dialled address)
    (redials : Redials (connector.run first) address) : Redials connector address := by
  obtain ⟨later, laterSpared, more⟩ := redials
  refine ⟨first ++ later, ?_, ?_⟩
  · intro event isEvent
    rcases List.mem_append.1 isEvent with isFirst | isLater
    · exact spared event isFirst
    · exact laterSpared event isLater
  · simp only [Connector.run] at same more ⊢
    simp only [List.foldl_append]
    exact same ▸ more

theorem spares_close {channels : List Nat} {address : Address} {event : ConnectorEvent}
    (isClose : event ∈ channels.map ConnectorEvent.close) (fabric : Fabric) :
    event.Spares fabric address := by
  obtain ⟨channel, -, same⟩ := List.mem_map.1 isClose
  rw [← same]
  rfl

theorem dialled_closeAll (abides : connector.Abides outline) (channels : List Nat) (address : Address) :
    (connector.run (channels.map .close)).fabric.dialled address = connector.fabric.dialled address := by
  have closes := Outline.closes_closeAll abides.sound abides.goesOn channels
  rw [(abides.closeAll channels).shows.dialled_eq, closes.dials, abides.shows.dialled_eq]

variable {address : Address} {number : Nat}

/-- A retry of a started watchdog: close the members of its pool, and let the timer fire. -/
theorem redials_of_released (abides : connector.Abides outline)
    (watches : outline.Watches address number) {index : Nat}
    (released : (outline.timer.release index).2.join = some number) :
    Redials connector address := by
  let members := (outline.poolOf number).elim [] outline.members
  have closes := Outline.closes_closeAll abides.sound abides.goesOn members
  have closed := abides.closeAll members
  apply redials_of_run (fun event => spares_close) (abides.dialled_closeAll members address)
  have empty : ∀ pool, (outline.closeAll members).poolOf number = some pool →
      (outline.closeAll members).members pool = [] := by
    intro pool isPool
    rw [Outline.poolOf_of_seats (Outline.seats_of_stations closes.stations)] at isPool
    apply List.eq_nil_iff_forall_not_mem.2
    intro member isMember
    obtain ⟨wasMember, isOther⟩ := closes.members pool member isMember
    apply isOther
    dsimp only [members]
    simp only [isPool]
    exact wasMember
  have watched := (Outline.watches_of_stations closes.stations closes.capacity).2 watches
  have dialled := Outline.dials_fire watched (closes.released index number released) empty
  obtain ⟨fired, -⟩ := closed.toStands.fire index
  refine ⟨[.fire index], ?_, ?_⟩
  · intro event isFire fabric
    simp only [List.mem_singleton.1 isFire]
    rfl
  · change _ < ((connector.run (members.map .close)).fire index).1.fabric.dialled address
    rw [closed.shows.dialled_eq, fired.shows.dialled_eq, dialled, List.count_append,
      List.count_singleton_self]
    exact Nat.lt_succ_self _

/-- An open channel of a started watchdog: close the other members of its pool, and then the channel. -/
theorem redials_of_link (abides : connector.Abides outline)
    (watches : outline.Watches address number) {channel : Nat}
    (isLink : outline.link? channel = some number) : Redials connector address := by
  let others := ((outline.poolOf number).elim [] outline.members).filter (· ≠ channel)
  have closes := Outline.closes_closeAll abides.sound abides.goesOn others
  have closed := abides.closeAll others
  apply redials_of_run (fun event => spares_close) (abides.dialled_closeAll others address)
  have isOther : channel ∉ others := by
    intro isMember
    exact of_decide_eq_true (List.mem_filter.1 isMember).2 rfl
  have last : ∀ pool, (outline.closeAll others).poolOf number = some pool →
      ∀ member ∈ (outline.closeAll others).members pool, member = channel := by
    intro pool isPool member isMember
    rw [Outline.poolOf_of_seats (Outline.seats_of_stations closes.stations)] at isPool
    obtain ⟨wasMember, notClosed⟩ := closes.members pool member isMember
    by_contra different
    apply notClosed
    refine List.mem_filter.2 ⟨?_, decide_eq_true different⟩
    simp only [isPool]
    exact wasMember
  have watched := (Outline.watches_of_stations closes.stations closes.capacity).2 watches
  have released := Outline.released_close_of_empty closed.goesOn watched
    (closes.links channel number isOther isLink) last
  have lastCloses := Outline.closes_closeAll closed.sound closed.goesOn [channel]
  have lost := closed.closeAll [channel]
  apply redials_of_run (fun event => spares_close) (closed.dialled_closeAll [channel] address)
  exact lost.redials_of_released
    ((Outline.watches_of_stations lastCloses.stations lastCloses.capacity).2 watched) released

/-- An attempt of a started watchdog: let it succeed first. -/
theorem redials_of_attempt (abides : connector.Abides outline)
    (watches : outline.Watches address number) {place : Nat} {origin : Origin}
    (isThere : outline.attempts[place]? = some (number, origin)) :
    Redials connector address := by
  obtain ⟨after, settled, -, -, isAfter⟩ := abides.settle place .established
  simp only [isAfter rfl] at settled
  have carries := Outline.carries_settle abides.sound.timer abides.goesOn place .established
    fun _ _ error isFailure => nomatch isFailure
  have same : (connector.run [.settle place .established]).fabric.dialled address
      = connector.fabric.dialled address := by
    have trials := congrArg Prod.snd (Outline.trials_settle outline place .established)
    dsimp only [Outline.trials] at trials
    change (connector.settle place .established).1.fabric.dialled address = _
    simp only [settled.shows.dialled_eq, trials, abides.shows.dialled_eq]
  refine redials_of_run ?_ same ?_
  · intro event isSettle fabric
    simp only [List.mem_singleton.1 isSettle]
    rfl
  · exact settled.redials_of_link
      ((Outline.watches_of_stations carries.steady carries.capacity).2 watches)
      (Outline.link?_settle isThere)

/-- A started watchdog that is engaged makes its address be dialled again. -/
theorem redials (abides : connector.Abides outline) (isEngaged : number ∈ outline.engagements)
    (watches : outline.Watches address number) : Redials connector address := by
  simp only [Outline.engagements] at isEngaged
  rcases List.mem_append.1 isEngaged with isLink | isEngaged
  · obtain ⟨link, isThere, isNumber⟩ := List.mem_filterMap.1 isLink
    obtain ⟨place, found⟩ := List.mem_iff_getElem?.1 isThere
    simp only [id_eq] at isNumber
    simp only [isNumber] at found
    have isChannel : outline.link? (place + 1) = some number :=
      Outline.link?_of_getElem? (Nat.succ_ne_zero place) found
    exact abides.redials_of_link watches isChannel
  · rcases List.mem_append.1 isEngaged with waits | isTried
    · obtain ⟨index, released⟩ := ManualTimer.exists_release waits
      exact abides.redials_of_released watches released
    · obtain ⟨⟨other, origin⟩, isThere, isNumber⟩ := List.mem_map.1 isTried
      obtain ⟨place, found⟩ := List.mem_iff_getElem?.1 isThere
      dsimp only at isNumber
      simp only [isNumber] at found
      exact abides.redials_of_attempt watches found

end Abides

/-- Whatever happened to a connector: after the retries of an address were cancelled, the address is not
dialled any more until somebody asks for it, exactly if the registry lists the connections of all started
watchdogs of the address that are engaged.  The watchdog of a caller who still waits is among those that it
does not list, and so is one that was started again after it left the registry.  Pools without any capacity
never have their watchdogs retry. -/
theorem cancelReconnect_silences_iff (config : ConnectorConfig) (application : Option String)
    (events : List ConnectorEvent) (everyday : ∀ event ∈ events, event.isEveryday = true)
    (address : Address) :
    let reached := (make config application).run events
    let cancelled := (reached.cancelReconnect address).1
    (∀ later : List ConnectorEvent, (∀ event ∈ later, event.Spares cancelled.fabric address) →
      (cancelled.run later).fabric.dialled address = cancelled.fabric.dialled address) ↔
    (0 < config.pool.bound.toNat → ∀ number, reached.fabric.Engaged number →
      reached.fabric.Watches address number → reached.Lists address number) := by
  intro reached cancelled
  obtain ⟨outline, abides, sameConfig⟩ := (Abides.make config application).run events everyday
  obtain ⟨silenced, -⟩ := abides.cancelReconnect address
  have muted := Outline.muted_turnOff_iff abides.owned (reached.registry.connections address) address
  have covered : (outline.turnOff (reached.registry.connections address)).Muted address ↔
      (0 < config.pool.bound.toNat → ∀ number, reached.fabric.Engaged number →
        reached.fabric.Watches address number → reached.Lists address number) := by
    simp only [muted]
    constructor
    · intro controlled room number isEngaged watches
      apply (abides.toStands.controls_iff address number).1
      apply controlled number ((abides.shows.engaged_iff number).2 isEngaged)
      apply (abides.toStands.watches_iff address number).2 ⟨_, watches⟩
      simp only [sameConfig]
      exact room
    · intro lists number isEngaged watched
      obtain ⟨room, watches⟩ := (abides.toStands.watches_iff address number).1 watched
      simp only [sameConfig] at room
      apply (abides.toStands.controls_iff address number).2
      exact lists room number ((abides.shows.engaged_iff number).1 isEngaged) watches
  rw [← covered]
  constructor
  · intro silent number isEngaged watches
    obtain ⟨later, spared, more⟩ := silenced.redials isEngaged watches
    have same := silent later fun event isEvent => spared event isEvent cancelled.fabric
    exact absurd same (Nat.ne_of_gt more)
  · intro isMuted later spared
    apply silenced.silent isMuted later spared
    intro connection isOurs
    simp only [silenced.shows.switches_getElem? connection, Option.map_map] at isOurs
    exact isOurs

/-- A server to connect to. -/
def server : Address := { host := "10.0.0.1", port := 6001 }

/-- A connection comes up. -/
def greeting : List ConnectorEvent := [.connect server, .settle 0 .established]

/-- A connection comes up, its retries are cancelled, and its reconnecting is turned on again. -/
def revival : List ConnectorEvent := greeting ++ [.cancelReconnect server, .setReconnect 0 true]

/-- Cancelling silences a connection that is listed, but not one that was revived. -/
theorem greeting_silenced_revival_not :
    let greeted := (((make ConnectorConfig.standard none).run greeting).cancelReconnect server).1
    let revived := (((make ConnectorConfig.standard none).run revival).cancelReconnect server).1
    (∀ later : List ConnectorEvent, (∀ event ∈ later, event.Spares greeted.fabric server) →
      (greeted.run later).fabric.dialled server = greeted.fabric.dialled server) ∧
    ¬ ∀ later : List ConnectorEvent, (∀ event ∈ later, event.Spares revived.fabric server) →
      (revived.run later).fabric.dialled server = revived.fabric.dialled server := by
  refine ⟨(cancelReconnect_silences_iff ConnectorConfig.standard none greeting (by decide) server).2 ?_,
    ?_⟩
  · rintro - number - ⟨watchdog, isThere, -, -⟩
    have isFirst : number = 0 := Nat.lt_one_iff.1 (List.getElem?_eq_some_iff.1 isThere).1
    simp only [isFirst]
    exact ⟨0, by decide, _, rfl, rfl⟩
  · intro silent
    have lists := (cancelReconnect_silences_iff ConnectorConfig.standard none revival (by decide) server).1
      silent (by decide) 0 (Or.inl ⟨_, List.mem_singleton_self _, by decide, by decide⟩)
      ⟨_, rfl, by decide, by decide⟩
    obtain ⟨connection, isListed, -⟩ := lists
    exact absurd isListed List.not_mem_nil

end Connector

end Uplink
