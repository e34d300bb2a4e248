/-
Module: Uplink.Proofs.Connector.Capacity
Purpose: Links are never lost for good: as long as reconnecting is not turned off, an address keeps as many
  links, retries and attempts as it was given connections, or as its pool asks for.
Main exports: Fabric.liveLinks, Fabric.pendingRetries, Fabric.inFlight, LinkEvent, Connector.play,
  Connector.playAll, Connector.Thrives, Connector.Thrives.play, Connector.stake_between
-/
import Uplink.Proofs.Connector.Outline
import Uplink.Proofs.Fabric.Stake

namespace Uplink

/-! ### What an address has -/

namespace Fabric

/-- Whether a watchdog exists and watches over links to an address. -/
def serves (fabric : Fabric) (address : Address) (number : Nat) : Bool :=
  match fabric.watchdogs[number]? with
  | some watchdog => watchdog.address == address
  | none => false

/-- The number of open channels that the watchdogs of an address handle. -/
def liveLinks (fabric : Fabric) (address : Address) : Nat :=
  fabric.roster.channels.countP fun channel =>
    channel.isOpen && channel.handler.any (fabric.serves address)

/-- The number of retries for an address that the timer is still to run. -/
def pendingRetries (fabric : Fabric) (address : Address) : Nat :=
  fabric.timer.entries.countP fun entry =>
    fabric.timer.timeout entry.handle == .pending && fabric.serves address entry.task

/-- The number of attempts to connect to an address that are under way. -/
def inFlight (fabric : Fabric) (address : Address) : Nat :=
  fabric.underWay.countP fun attempt => fabric.serves address attempt.watchdog

/-- The open channels, retries and attempts of an address, taken together. -/
theorem stake_eq {fabric : Fabric} {outline : Outline} (shows : fabric.Shows outline)
    (address : Address) :
    fabric.liveLinks address + fabric.pendingRetries address + fabric.inFlight address
      = outline.stake address := by
  have serves : outline.serves address = fabric.serves address := by
    funext number
    simp only [Outline.serves, Fabric.serves]
    simp only [shows.posts_getElem? number]
    cases fabric.watchdogs[number]? <;> rfl
  simp only [Outline.stake, Outline.engagements, serves, List.countP_append]
  rw [shows.countP_links, shows.countP_waiting, shows.countP_attempts, ← Nat.add_assoc]
  rfl

end Fabric

/-! ### Runs -/

/-- What may happen as long as reconnecting is not turned off.  A caller's attempt begins and ends in one
go; attempts of the timer end at any later time, and workers deliver their news whenever it is their turn. -/
inductive LinkEvent where
  | connect (address : Address) (outcome : Outcome)
  | connectAsync (address : Address)
  | fire (index : Nat)
  | settle (place : Nat) (outcome : Outcome)
  | close (channel : Nat)
  | workerStep (watchdog worker : Nat)
deriving Repr, Inhabited

namespace Outline

variable {outline changed : Outline}

theorem Manned.equip (manned : outline.Manned)
    (known : ∀ number ∈ outline.engagements, number < outline.posts.length) (address : Address)
    (pool bound : Nat) : (outline.equip address pool bound).Manned := by
  intro number isEngaged post isThere
  rw [posts_equip_of_lt (known number isEngaged)] at isThere
  exact manned number isEngaged post isThere

/-- Books agree where the same watchdogs are engaged for the same addresses. -/
theorem stake_congr (engagements : changed.engagements = outline.engagements)
    (known : ∀ number ∈ outline.engagements, ∀ address,
      changed.serves address number = outline.serves address number) (address : Address) :
    changed.stake address = outline.stake address := by
  simp only [stake]
  simp only [engagements]
  exact List.countP_congr fun number isEngaged => by rw [known number isEngaged address]

theorem stake_equip (known : ∀ number ∈ outline.engagements, number < outline.posts.length)
    (address : Address) (pool bound : Nat) (other : Address) :
    (outline.equip address pool bound).stake other = outline.stake other := by
  refine stake_congr (engagements_equip outline address pool bound) ?_ other
  intro number isEngaged asked
  simp only [serves]
  rw [posts_equip_of_lt (known number isEngaged)]

/-- The new watchdog is engaged for the address of the connection. -/
theorem stake_recruit {address : Address} {pool bound : Nat}
    (known : ∀ number ∈ outline.engagements, number < outline.posts.length)
    (perm : ([outline.posts.length] ++ (outline.equip address pool bound).engagements).Perm
      changed.engagements)
    (seats : changed.posts.map Post.seat = (outline.equip address pool bound).posts.map Post.seat)
    (other : Address) :
    changed.stake other = outline.stake other + [address].count other := by
  have isRecruit : (outline.equip address pool bound).serves other outline.posts.length
      = (address == other) := by
    simp only [serves]
    simp only [posts_equip_self]
  have recruited : [outline.posts.length].countP ((outline.equip address pool bound).serves other)
      = [address].count other := by
    simp only [List.countP_singleton, isRecruit, List.count_singleton]
  rw [← stake_equip known address pool bound other]
  simp only [stake]
  rw [serves_of_seats seats, ← perm.countP_eq, List.countP_append, recruited, Nat.add_comm]

end Outline

namespace Connector

/-- A caller connects and waits for the result.  The address is handed out if the caller got a
connection. -/
def connect (connector : Connector) (address : Address) (outcome : Outcome) :
    Connector × List Address :=
  match connector.beginConnect address with
  | (begun, .error _) => (begun, [])
  | (begun, .ok _) =>
      let settled := begun.settle (begun.fabric.underWay.length - 1) outcome
      match settled.2 with
      | some (.ok _) => (settled.1, [address])
      | _ => (settled.1, [])

/-- One event, and the address for which it granted a connection, if it did. -/
def play (connector : Connector) : LinkEvent → Connector × List Address
  | .connect address outcome => connector.connect address outcome
  | .connectAsync address =>
      match connector.connectAsync address with
      | (asked, .ok _) => (asked, [address])
      | (asked, .error _) => (asked, [])
  | .fire index => ((connector.fire index).1, [])
  | .settle place outcome => ((connector.settle place outcome).1, [])
  | .close channel => (connector.close channel, [])
  | .workerStep watchdog worker => (connector.step (.workerStep watchdog worker), [])

/-- Some events, and the addresses for which they granted connections. -/
def playAll (connector : Connector) : List LinkEvent → Connector × List Address
  | [] => (connector, [])
  | event :: rest =>
      let first := connector.play event
      let others := first.1.playAll rest
      (others.1, first.2 ++ others.2)

/-- A connector that goes on: everything is in order, whoever is engaged is started, and nobody waits for
an attempt. -/
structure Thrives (connector : Connector) (outline : Outline) : Prop extends connector.Stands outline where
  goesOn : outline.timer.stopped = false
  running : connector.isShutDown = false
  manned : outline.Manned
  retries : ∀ attempt ∈ outline.attempts, attempt.2 = .retry
  alone : connector.calls = []

namespace Thrives

variable {connector : Connector} {outline : Outline}

theorem make (config : ConnectorConfig) (application : Option String) :
    (Connector.make config application).Thrives Fabric.fresh.outline := by
  refine ⟨stands_make config application, rfl, rfl, ?_, ?_,
    rfl⟩
  · intro number isEngaged
    cases isEngaged
  · intro attempt isTried
    cases isTried

/-- A step that grants nothing. -/
theorem carry {changed : Connector} {after : Outline} (thrives : connector.Thrives outline)
    (stands : changed.Stands after) (office : SameOffice connector changed)
    (carries : outline.Carries after [])
    (retries : ∀ attempt ∈ after.attempts, attempt ∈ outline.attempts ∨ attempt.2 = .retry) :
    changed.Thrives after := by
  refine ⟨stands, carries.stopped.trans thrives.goesOn, office.isShutDown.trans thrives.running,
    carries.manned thrives.manned fun _ isGained => absurd isGained List.not_mem_nil,
    ?_, office.calls.trans thrives.alone⟩
  intro attempt isTried
  rcases retries attempt isTried with isOld | isRetry
  · exact thrives.retries attempt isOld
  · exact isRetry

/-- What an event may do to the books of an address. -/
def Books (before after granted bound : Nat) : Prop :=
  after ≤ before + granted ∧ (before + granted ≤ after ∨ bound ≤ after)

/-- A step that grants nothing, in the books. -/
theorem books {after : Outline} (thrives : connector.Thrives outline)
    (carries : outline.Carries after []) (address : Address) :
    Books (outline.stake address) (after.stake address) 0 connector.config.pool.bound.toNat :=
  carries.stake thrives.sound thrives.manned address

/-- Connecting without waiting grants a connection, and its watchdog is engaged. -/
theorem connectAsync (thrives : connector.Thrives outline) (address : Address) :
    ∃ asked after connection, connector.connectAsync address = (asked, .ok connection) ∧
      asked.Thrives after ∧ asked.config = connector.config ∧
      ∀ other, after.stake other = outline.stake other + [address].count other := by
  obtain ⟨asked, pool, isAsked, stands, config, -, running, calls⟩ :=
    thrives.toStands.connectAsync thrives.running thrives.goesOn address
  have known := thrives.sound.known
  have sameTimer : (outline.equip address pool connector.config.pool.bound.toNat).timer.Sound :=
    thrives.sound.timer
  have carries := Outline.carries_schedule sameTimer thrives.goesOn outline.posts.length
  have manned := thrives.manned.equip known address pool connector.config.pool.bound.toNat
  have perm := Outline.engagements_schedule sameTimer thrives.goesOn outline.posts.length
  refine ⟨asked, _, _, isAsked, ⟨stands, carries.stopped.trans thrives.goesOn, running,
    carries.manned manned ?_, ?_, calls.trans thrives.alone⟩, config, ?_⟩
  · intro number isNew post isThere
    simp only [List.mem_singleton.1 isNew, Outline.posts_equip_self] at isThere
    rw [← Option.some.inj isThere]
  · intro attempt isTried
    have same := congrArg Prod.fst (Outline.trials_schedule
      (outline.equip address pool connector.config.pool.bound.toNat) outline.posts.length)
    dsimp only [Outline.trials] at same
    simp only [same] at isTried
    exact thrives.retries attempt isTried
  · intro other
    exact Outline.stake_recruit known perm (Outline.seats_of_stations carries.steady) other

/-- A caller's attempt is under way: its watchdog is new, and it is the last attempt of all. -/
structure Tries (connector : Connector) (outline : Outline) (address : Address) (begun : Connector)
    (tried : Outline) : Prop where
  stands : begun.Stands tried
  config : begun.config = connector.config
  running : begun.isShutDown = false
  calls : begun.calls
    = [{ address, connection := outline.switches.length, watchdog := outline.posts.length }]
  goesOn : tried.timer.stopped = false
  manned : tried.Manned
  attempts : tried.attempts = outline.attempts ++ [(outline.posts.length, .caller)]
  recruit : ∃ pool, tried.posts[outline.posts.length]?
    = some { address, pool := some pool, started := true, pending := none }
  others : ∀ number, number < outline.posts.length → tried.posts[number]? = outline.posts[number]?
  links : tried.links = outline.links
  timer : tried.timer = outline.timer
  stake : ∀ other, tried.stake other = outline.stake other + [address].count other

theorem beginConnect (thrives : connector.Thrives outline) (address : Address) :
    ∃ begun tried, connector.beginConnect address = (begun, .ok outline.switches.length) ∧
      Tries connector outline address begun tried := by
  obtain ⟨begun, pool, isBegun, stands, config, -, running, calls⟩ :=
    thrives.toStands.beginConnect thrives.running address
  have known := thrives.sound.known
  have isNew := Outline.posts_equip_self outline address pool connector.config.pool.bound.toNat
  have carries := Outline.carries_dial isNew .caller
  have perm := Outline.engagements_dial isNew .caller
  have manned := thrives.manned.equip known address pool connector.config.pool.bound.toNat
  have dialled := Outline.dial_eq isNew .caller
  simp only [thrives.alone, List.nil_append] at calls
  refine ⟨begun, _, isBegun, ⟨stands, config, running, calls, carries.stopped.trans thrives.goesOn,
    carries.manned manned ?_, ?_, ⟨pool, ?_⟩, ?_, ?_, ?_, ?_⟩⟩
  · intro number isRecruit post isThere
    simp only [List.mem_singleton.1 isRecruit, isNew] at isThere
    rw [← Option.some.inj isThere]
  · simp only [dialled]
    rfl
  · simp only [dialled]
    exact isNew
  · intro number isOld
    simp only [dialled]
    exact Outline.posts_equip_of_lt isOld address pool _
  · simp only [dialled]
    rfl
  · simp only [dialled]
    rfl
  · intro other
    exact Outline.stake_recruit known perm (Outline.seats_of_stations carries.steady) other

namespace Tries

variable {address : Address} {begun : Connector} {tried : Outline}

/-- The place of the attempt. -/
theorem place (tries : Tries connector outline address begun tried) :
    begun.fabric.underWay.length - 1 = outline.attempts.length ∧
      tried.attempts[outline.attempts.length]? = some (outline.posts.length, .caller) := by
  have length : begun.fabric.underWay.length = tried.attempts.length := by
    rw [← tries.stands.shows.outlineEq]
    exact (List.length_map _).symm
  rw [length, tries.attempts, List.length_append, List.length_singleton, Nat.add_sub_cancel]
  exact ⟨rfl, List.getElem?_concat_length⟩

/-- The attempt brings a channel, and the caller a connection. -/
theorem succeed (thrives : connector.Thrives outline)
    (tries : Tries connector outline address begun tried) {outcome : Outcome}
    (succeeds : ∀ error, outcome ≠ .failed error)
    {ended : Connector} (stands : ended.Stands (tried.settle outline.attempts.length outcome))
    (running : ended.isShutDown = false) (calls : ended.calls = []) :
    ended.Thrives (tried.settle outline.attempts.length outcome) ∧
      ∀ other, Books (outline.stake other)
        ((tried.settle outline.attempts.length outcome).stake other) ([address].count other)
        connector.config.pool.bound.toNat := by
  have carries := Outline.carries_settle tries.stands.sound.timer tries.goesOn outline.attempts.length
    outcome fun _ _ => succeeds
  refine ⟨⟨stands, carries.stopped.trans tries.goesOn, running,
    carries.manned tries.manned fun _ isGained => absurd isGained List.not_mem_nil,
    ?_, calls⟩, ?_⟩
  · intro attempt isTried
    rw [Outline.attempts_settle, tries.attempts, List.eraseIdx_append_of_length_le (Nat.le_refl _),
      Nat.sub_self] at isTried
    rcases List.mem_append.1 isTried with isOld | isNone
    · exact thrives.retries attempt isOld
    · exact absurd isNone List.not_mem_nil
  · intro other
    have booked := carries.stake tries.stands.sound tries.manned other
    simp only [tries.stake other, tries.config] at booked
    exact booked

/-- What a failure leaves: the attempt is gone, and its watchdog is at rest. -/
theorem failed_eq (tries : Tries connector outline address begun tried) (error : TransportError) :
    (tried.settle outline.attempts.length (.failed error)).stop outline.posts.length
      = Outline.change { tried with attempts := outline.attempts } outline.posts.length Post.atRest := by
  obtain ⟨pool, isRecruit⟩ := tries.recruit
  have taken : tried.settle outline.attempts.length (.failed error)
      = { tried with attempts := outline.attempts } := by
    simp only [Outline.settle]
    rw [tries.place.2, tries.attempts, List.eraseIdx_append_of_length_le (Nat.le_refl _), Nat.sub_self,
      List.eraseIdx_cons_zero, List.append_nil]
    rfl
  simp only [taken]
  have isThere : ({ tried with attempts := outline.attempts } : Outline).posts[outline.posts.length]?
      = some { address, pool := some pool, started := true, pending := none } := isRecruit
  exact Outline.stop_of_some isThere

/-- The attempt fails, and its watchdog is stopped; nobody else notices. -/
theorem fail (thrives : connector.Thrives outline)
    (tries : Tries connector outline address begun tried) (error : TransportError) {ended : Connector}
    (stands : ended.Stands
      ((tried.settle outline.attempts.length (.failed error)).stop outline.posts.length))
    (running : ended.isShutDown = false) (calls : ended.calls = []) :
    ended.Thrives ((tried.settle outline.attempts.length (.failed error)).stop outline.posts.length) ∧
      ∀ other, ((tried.settle outline.attempts.length (.failed error)).stop
        outline.posts.length).stake other = outline.stake other := by
  simp only [tries.failed_eq error] at stands ⊢
  have engagements : (Outline.change { tried with attempts := outline.attempts } outline.posts.length
      Post.atRest).engagements = outline.engagements := by
    simp only [Outline.engagements, Outline.change]
    simp only [tries.links, tries.timer]
  have posts : ∀ number ∈ outline.engagements,
      (Outline.change { tried with attempts := outline.attempts } outline.posts.length
        Post.atRest).posts[number]? = outline.posts[number]? := by
    intro number isEngaged
    have isOld := thrives.sound.known number isEngaged
    simp only [Outline.change]
    rw [List.getElem?_modify_ne _ _ (Nat.ne_of_gt isOld), tries.others number isOld]
  refine ⟨⟨stands, tries.goesOn, running, ?_, thrives.retries, calls⟩,
    fun other => Outline.stake_congr engagements ?_ other⟩
  · intro number isEngaged post isThere
    simp only [engagements] at isEngaged
    simp only [posts number isEngaged] at isThere
    exact thrives.manned number isEngaged post isThere
  · intro number isEngaged asked
    simp only [Outline.serves]
    simp only [posts number isEngaged]

end Tries

/-- A caller connects: if it gets a connection, the books of the address go up by one. -/
theorem connect (thrives : connector.Thrives outline) (address : Address) (outcome : Outcome) :
    ∃ after, (connector.connect address outcome).1.Thrives after ∧
      (connector.connect address outcome).1.config = connector.config ∧
      ∀ other, Books (outline.stake other) (after.stake other)
        ((connector.connect address outcome).2.count other) connector.config.pool.bound.toNat := by
  obtain ⟨begun, tried, isBegun, tries⟩ := thrives.beginConnect address
  obtain ⟨isPlace, isCaller⟩ := tries.place
  have waits : (begun.calls.find? fun waiting => waiting.watchdog == outline.posts.length)
      = some { address, connection := outline.switches.length, watchdog := outline.posts.length } := by
    rw [tries.calls, List.find?_singleton, if_pos (beq_self_eq_true _)]
  obtain ⟨calls, config, isShutDown, answered⟩ :=
    tries.stands.settle_caller tries.goesOn isCaller waits outcome
  have nobody : (begun.settle outline.attempts.length outcome).1.calls = [] := by
    simp only [calls, tries.calls]
    simp
  have running := isShutDown.trans tries.running
  simp only [Connector.connect]
  rw [isBegun]
  dsimp only
  simp only [isPlace]
  cases outcome with
  | failed error =>
      obtain ⟨stands, isAnswer, -⟩ := answered
      obtain ⟨goesOn, same⟩ := tries.fail thrives error stands running nobody
      simp only [isAnswer]
      refine ⟨_, goesOn, config.trans tries.config, ?_⟩
      intro other
      simp only [same other]
      exact ⟨Nat.le_refl _, Or.inl (Nat.le_refl _)⟩
  | established =>
      obtain ⟨stands, isAnswer, -⟩ := answered
      obtain ⟨goesOn, books⟩ := tries.succeed thrives (by simp) stands running nobody
      simp only [isAnswer]
      exact ⟨_, goesOn, config.trans tries.config, books⟩
  | flapped =>
      obtain ⟨stands, isAnswer, -⟩ := answered
      obtain ⟨goesOn, books⟩ := tries.succeed thrives (by simp) stands running nobody
      simp only [isAnswer]
      exact ⟨_, goesOn, config.trans tries.config, books⟩

/-- One event: the connector goes on, and the books of every address go up by what is granted, or the
pool of the address is full. -/
theorem play (thrives : connector.Thrives outline) (event : LinkEvent) :
    ∃ after, (connector.play event).1.Thrives after ∧
      (connector.play event).1.config = connector.config ∧
      ∀ address, Books (outline.stake address) (after.stake address)
        ((connector.play event).2.count address) connector.config.pool.bound.toNat := by
  have keeps : ∀ (changed : Connector) (after : Outline), changed.Stands after →
      SameOffice connector changed → outline.Carries after [] →
      (∀ attempt ∈ after.attempts, attempt ∈ outline.attempts ∨ attempt.2 = .retry) →
      ∃ after, changed.Thrives after ∧ changed.config = connector.config ∧
        ∀ address, Books (outline.stake address) (after.stake address) 0
          connector.config.pool.bound.toNat := by
    intro changed after stands office carries retries
    exact ⟨after, thrives.carry stands office carries retries, office.config, thrives.books carries⟩
  cases event with
  | connect address outcome => exact thrives.connect address outcome
  | connectAsync address =>
      obtain ⟨asked, after, connection, isAsked, goesOn, config, stake⟩ := thrives.connectAsync address
      simp only [Connector.play]
      simp only [isAsked]
      refine ⟨after, goesOn, config, ?_⟩
      intro other
      simp only [stake other]
      exact ⟨Nat.le_refl _, Or.inl (Nat.le_refl _)⟩
  | fire index =>
      obtain ⟨stands, office⟩ := thrives.toStands.fire index
      exact keeps _ _ stands office (Outline.carries_fire thrives.sound.timer index)
        fun attempt isTried => Outline.mem_attempts_fire isTried
  | settle place outcome =>
      have isRetry : ∀ number origin, outline.attempts[place]? = some (number, origin) →
          origin = .retry := by
        intro number origin isThere
        exact thrives.retries (number, origin) (List.mem_of_getElem? isThere)
      obtain ⟨stands, -, office⟩ := thrives.toStands.settle_retry thrives.goesOn isRetry outcome
      refine keeps _ _ stands office (Outline.carries_settle thrives.sound.timer thrives.goesOn place
        outcome fun number isCaller => nomatch isRetry number .caller isCaller) ?_
      intro attempt isTried
      simp only [Outline.attempts_settle] at isTried
      exact Or.inl (List.mem_of_mem_eraseIdx isTried)
  | close channel =>
      refine keeps _ _ (thrives.toStands.close thrives.goesOn channel) ⟨rfl, rfl, rfl, rfl⟩
        (Outline.carries_close thrives.sound.timer thrives.goesOn channel) ?_
      intro attempt isTried
      have same := congrArg Prod.fst (Outline.trials_close outline channel)
      dsimp only [Outline.trials] at same
      simp only [same] at isTried
      exact Or.inl isTried
  | workerStep watchdog worker =>
      exact keeps _ _ (thrives.toStands.workerStep watchdog worker) ⟨rfl, rfl, rfl, rfl⟩
        (Outline.carries_refl outline)
        fun attempt isTried => Or.inl isTried

/-- Any number of events.  The books never exceed what was granted, and do not fall below it unless a pool
was full; from then on they stay at least at the capacity of the pool. -/
theorem playAll (thrives : connector.Thrives outline) (events : List LinkEvent) (granted : Nat)
    (address : Address) (atMost : outline.stake address ≤ granted)
    (atLeast : min connector.config.pool.bound.toNat granted ≤ outline.stake address) :
    ∃ after, (connector.playAll events).1.Thrives after ∧
      after.stake address ≤ granted + (connector.playAll events).2.count address ∧
      min connector.config.pool.bound.toNat (granted + (connector.playAll events).2.count address)
        ≤ after.stake address := by
  induction events generalizing connector outline granted with
  | nil => exact ⟨outline, thrives, atMost, atLeast⟩
  | cons event rest ih =>
      obtain ⟨middle, goesOn, config, books⟩ := thrives.play event
      obtain ⟨rises, falls⟩ := books address
      have next := ih goesOn (granted + (connector.play event).2.count address) (by omega)
        (by rw [config]; omega)
      obtain ⟨after, ended, final⟩ := next
      refine ⟨after, ended, ?_⟩
      simp only [config] at final
      simp only [Connector.playAll]
      rw [List.count_append, ← Nat.add_assoc]
      exact final

end Thrives

/-- However connections, retries, failures and losses follow each other, an address has at least as many
open channels, retries and attempts as the smaller of the capacity of its pool and the number of connections
that were granted for it, and at most that number. -/
theorem stake_between (config : ConnectorConfig) (application : Option String) (events : List LinkEvent)
    (address : Address) :
    let played := (make config application).playAll events
    min config.pool.bound.toNat (played.2.count address)
        ≤ played.1.fabric.liveLinks address + played.1.fabric.pendingRetries address
          + played.1.fabric.inFlight address ∧
      played.1.fabric.liveLinks address + played.1.fabric.pendingRetries address
          + played.1.fabric.inFlight address ≤ played.2.count address := by
  intro played
  obtain ⟨after, thrives, atMost, atLeast⟩ :=
    (Thrives.make config application).playAll events 0 address (Nat.le_refl _) (Nat.min_le_right _ _)
  simp only [Nat.zero_add] at atMost atLeast
  rw [Fabric.stake_eq thrives.shows address]
  exact ⟨atLeast, atMost⟩

end Connector

end Uplink
