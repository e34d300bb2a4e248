/-
Module: Uplink.Proofs.Fabric.Simulation
Purpose: Everything that happens in a plain fabric happens in its outline as well, step by step.
Main exports: Fabric.Shows.turnSwitch, Fabric.Shows.schedule, Fabric.Shows.onDisconnected,
  Fabric.Shows.close, Fabric.Shows.establish, Fabric.Shows.beginRetry, Fabric.Shows.settle,
  Fabric.Shows.release, Fabric.Shows.addWatchdog
-/
import Uplink.Proofs.Fabric.Outline

namespace Uplink.Fabric.Shows

variable {fabric : Fabric} {outline : Outline}

theorem posts_getElem? (shows : fabric.Shows outline) (number : Nat) :
    outline.posts[number]? = (fabric.watchdogs[number]?).map Watchdog.post := by
  rw [← shows.outlineEq]
  exact List.getElem?_map

theorem log (shows : fabric.Shows outline) (line : LogLine) : (fabric.log line).Shows outline :=
  shows.of_quiet (Quiet.log fabric line)

/-! ### Watchdogs -/

/-- A change of what a watchdog decides by. -/
theorem changeWatchdog (shows : fabric.Shows outline) (number : Nat) {change : Watchdog → Watchdog}
    {shown : Post → Post} (agree : ∀ watchdog, (change watchdog).post = shown watchdog.post)
    (keeps : ∀ watchdog, watchdog.Plain → (change watchdog).Plain) :
    (fabric.changeWatchdog number change).Shows (outline.change number shown) := by
  refine ⟨shows.tidy, ?_, ?_⟩
  · intro watchdog isWatchdog
    obtain ⟨place, isThere⟩ := List.mem_iff_getElem?.1 isWatchdog
    simp only [Fabric.changeWatchdog] at isThere
    simp only [List.getElem?_modify] at isThere
    obtain ⟨before, isBefore, isSame⟩ := Option.map_eq_some_iff.1 isThere
    have isMember := List.mem_of_getElem? isBefore
    rw [← isSame]
    split
    · exact keeps before (shows.plain before isMember)
    · exact shows.plain before isMember
  · rw [← shows.outlineEq, Outline.change]
    have posts : (fabric.watchdogs.modify number change).map Watchdog.post
        = (fabric.watchdogs.map Watchdog.post).modify number shown := map_modify agree _ _
    simp only [Fabric.changeWatchdog, Fabric.outline]
    simp only [posts]

theorem start (shows : fabric.Shows outline) (number : Nat) :
    (fabric.start number).1.Shows (outline.start number) := by
  have posts := shows.posts_getElem? number
  have turned : (fabric.changeWatchdog number fun found => { found with started := true }).Shows
      (outline.start number) :=
    shows.changeWatchdog number (fun _ => rfl) fun _ plain => ⟨plain.listeners, plain.unheld⟩
  simp only [Fabric.start]
  cases isThere : fabric.watchdogs[number]? with
  | none =>
      simp only [isThere] at posts
      simp only [Outline.start, Outline.change]
      rw [List.modify_eq_self (List.getElem?_eq_none_iff.1 posts)]
      exact shows
  | some watchdog =>
      dsimp only
      split
      · rename_i isStarted
        have same : fabric.changeWatchdog number (fun found => { found with started := true }) = fabric := by
          obtain ⟨bound, rfl⟩ := List.getElem?_eq_some_iff.1 isThere
          simp only [Fabric.changeWatchdog]
          rw [List.modify_eq_set, isThere, Option.getD_some, ← isStarted, List.set_getElem_self]
        simp only [same] at turned
        exact turned
      · exact turned.log _

theorem cancelPending (shows : fabric.Shows outline) (pending : Option Nat) :
    (fabric.cancelPending pending).Shows (outline.cancelPending pending) := by
  cases pending with
  | none => exact shows
  | some handle =>
      refine ⟨shows.tidy, shows.plain, ?_⟩
      rw [← shows.outlineEq]
      rfl

theorem stop (shows : fabric.Shows outline) (number : Nat) :
    (fabric.stop number).1.Shows (outline.stop number) := by
  simp only [Fabric.stop, Outline.stop]
  simp only [shows.posts_getElem? number]
  cases isThere : fabric.watchdogs[number]? with
  | none => exact shows
  | some watchdog =>
      have stopped : ((fabric.cancelPending watchdog.pending).changeWatchdog number fun found =>
          { found with started := false, pending := none, notifier := found.notifier.shutDown }).Shows
          ((outline.cancelPending watchdog.pending).change number Post.atRest) :=
        (shows.cancelPending watchdog.pending).changeWatchdog number (fun _ => rfl)
          fun _ plain => ⟨plain.listeners, plain.unheld⟩
      dsimp only [Option.map_some]
      split
      · exact stopped.log _
      · exact stopped

/-- A switch turns the watchdog that it is bound to. -/
theorem turnSwitch (shows : fabric.Shows outline) (connection : Nat) (enabled : Bool) :
    (fabric.turnSwitch connection enabled).Shows (outline.turnSwitch connection enabled) := by
  have switches : outline.switches[connection]?
      = (fabric.connections[connection]?).map Connection.binding := by
    rw [← shows.outlineEq]
    exact List.getElem?_map
  simp only [Fabric.turnSwitch, Outline.turnSwitch]
  simp only [switches]
  cases isThere : fabric.connections[connection]? with
  | none => exact shows
  | some found =>
      dsimp only [Option.map_some, Connection.binding]
      cases isSwitch : found.switch with
      | none => exact shows.log _
      | some switch =>
          cases switch with
          | watchdog number =>
              cases enabled with
              | true => exact shows.start number
              | false => exact shows.stop number
          | recorder number => exact shows.of_quiet (Quiet.record fabric (by simp))

theorem links_eq (shows : fabric.Shows outline) : outline.links = fabric.roster.links := by
  rw [← shows.outlineEq]
  rfl

theorem members_eq (shows : fabric.Shows outline) : outline.members = fabric.roster.membersOf := by
  rw [← shows.outlineEq]
  rfl

theorem capacity_eq (shows : fabric.Shows outline) : outline.capacity = fabric.roster.capacityOf := by
  rw [← shows.outlineEq]
  rfl

theorem hasRoom_of_getElem? (shows : fabric.Shows outline) {pool : Nat} {held : Pool}
    (found : fabric.roster.pools[pool]? = some held) : outline.hasRoom pool = held.hasRoom := by
  simp only [Outline.hasRoom]
  rw [shows.capacity_eq, shows.members_eq, Roster.capacityOf, found,
    Roster.membersOf_of_getElem? found]
  rfl

theorem hasRoom_of_none (shows : fabric.Shows outline) {pool : Nat}
    (absent : fabric.roster.pools[pool]? = none) : outline.hasRoom pool = true := by
  simp only [Outline.hasRoom]
  simp only [shows.capacity_eq, Roster.capacityOf, absent]
  rfl

theorem wants (shows : fabric.Shows outline) (watchdog : Watchdog) :
    fabric.wants watchdog = outline.wants watchdog.post := by
  simp only [Fabric.wants, Outline.wants, Watchdog.post]
  cases watchdog.pool with
  | none => rfl
  | some pool =>
      dsimp only [Option.bind_some]
      cases found : fabric.roster.pools[pool]? with
      | none => rw [shows.hasRoom_of_none found]
      | some held => rw [shows.hasRoom_of_getElem? found]

theorem schedule (shows : fabric.Shows outline) (number : Nat) (delay : Span) :
    (fabric.schedule number delay).1.Shows (outline.schedule number) := by
  have sameTimer : outline.timer = fabric.timer.undated := by
    rw [← shows.outlineEq]
    rfl
  simp only [Fabric.schedule, Outline.schedule]
  simp only [sameTimer]
  cases scheduled : fabric.timer.schedule delay number with
  | error error =>
      simp only [ManualTimer.undated_schedule_error scheduled]
      exact shows
  | ok accepted =>
      obtain ⟨timer, handle⟩ := accepted
      simp only [ManualTimer.undated_schedule scheduled]
      have there : ({ fabric with timer } : Fabric).Shows { outline with timer := timer.undated } := by
        refine ⟨shows.tidy, shows.plain, ?_⟩
        rw [← shows.outlineEq]
        rfl
      exact (there.of_quiet (Quiet.record _ (by simp))).changeWatchdog number (fun _ => rfl)
        fun _ plain => ⟨plain.listeners, plain.unheld⟩

/-- A link is gone: if another is wanted, a retry is scheduled. -/
theorem onDisconnected (shows : fabric.Shows outline) (number : Nat) :
    (fabric.onDisconnected number).Shows (outline.lose number) := by
  simp only [Fabric.onDisconnected, Outline.lose]
  simp only [shows.posts_getElem? number]
  cases isThere : fabric.watchdogs[number]? with
  | none => exact shows
  | some watchdog =>
      dsimp only [Option.map_some]
      rw [← shows.wants watchdog]
      split
      · have counted : (fabric.changeWatchdog number fun found =>
            { found with attempts := found.attempts + 1 }).Shows outline :=
          shows.of_quiet (Quiet.changeWatchdog fabric number (fun _ => rfl) (fun _ => rfl)
            fun _ _ plain => ⟨plain.listeners, plain.unheld⟩)
        have announced := counted.log (watchdog.line .debug "reconnect scheduled"
          [("attempts", Text.decimal watchdog.nextAttempts.toNat),
           ("delay_ms",
              Text.decimal (watchdog.backoff.delayFor watchdog.nextAttempts).clampedMillis.toNat)])
        have scheduled := announced.schedule number (watchdog.backoff.delayFor watchdog.nextAttempts)
        split
        · rename_i changed isChanged
          simp only [isChanged] at scheduled
          exact scheduled
        · rename_i changed error isChanged
          simp only [isChanged] at scheduled
          exact scheduled.log _
      · exact shows.log _

/-! ### Channels -/

/-- A change of the roster. -/
theorem setRoster (shows : fabric.Shows outline) {roster : Roster} (tidy : roster.Tidy)
    (dials : roster.dials = fabric.roster.dials) :
    ({ fabric with roster } : Fabric).Shows
      { outline with
        links := roster.links
        members := roster.membersOf
        capacity := roster.capacityOf } := by
  refine ⟨tidy, shows.plain, ?_⟩
  rw [← shows.outlineEq]
  simp only [Fabric.outline]
  simp only [dials]

/-- The open channel's watchdog. -/
theorem link?_eq (shows : fabric.Shows outline) (channel : Nat) :
    outline.link? channel
      = if fabric.roster.isOpen channel then (fabric.roster.channel? channel).bind Channel.handler
        else none := by
  simp only [Outline.link?]
  simp only [shows.links_eq]
  by_cases isZero : channel = 0
  · simp only [isZero]
    rfl
  · have place : channel - 1 + 1 = channel := by omega
    simp only [if_neg isZero, Roster.getElem?_links, place]
    cases isOpen : fabric.roster.isOpen channel with
    | true => rw [if_pos rfl, Roster.link_of_isOpen isOpen]
    | false => rw [if_neg Bool.false_ne_true, Roster.link_of_not_isOpen isOpen]

theorem channelInactive (shows : fabric.Shows outline) (number channel : Nat) :
    (fabric.channelInactive number channel).Shows (outline.lose number) := by
  simp only [Fabric.channelInactive]
  cases isThere : fabric.watchdogs[number]? with
  | none =>
      have posts := shows.posts_getElem? number
      simp only [isThere] at posts
      simp only [Outline.lose]
      simp only [posts]
      exact shows
  | some watchdog => exact ((shows.log _).onDisconnected number).tellNext _ _ _

theorem close (shows : fabric.Shows outline) (channel : Nat) :
    (fabric.close channel).Shows (outline.close channel) := by
  unfold Fabric.close Outline.close
  rw [shows.link?_eq]
  cases isOpen : fabric.roster.isOpen channel with
  | false =>
      simp only [Roster.close_of_not_open isOpen, if_neg Bool.false_ne_true]
      exact shows
  | true =>
      have closed := shows.setRoster (shows.tidy.close channel)
        (Roster.dials_close _ channel)
      have handler : (fabric.roster.close channel).2
          = (fabric.roster.channel? channel).bind Channel.handler := by
        simp only [Roster.close_of_open isOpen]
      have isHandled : ∃ number, (fabric.roster.channel? channel).bind Channel.handler = some number := by
        simp only [Roster.isOpen] at isOpen
        cases isThere : fabric.roster.channel? channel with
        | none => rw [isThere] at isOpen; cases isOpen
        | some found =>
            simp only [isThere] at isOpen
            exact Option.isSome_iff_exists.1 (shows.tidy.handled channel found isThere isOpen)
      obtain ⟨number, isNumber⟩ := isHandled
      have sameOutline : outline.shut channel
          = { outline with
              links := (fabric.roster.close channel).1.links
              members := (fabric.roster.close channel).1.membersOf
              capacity := (fabric.roster.close channel).1.capacityOf } := by
        rw [Roster.links_close shows.tidy isOpen,
          funext (Roster.membersOf_close shows.tidy isOpen), Roster.capacityOf_close shows.tidy]
        simp only [Outline.shut]
        rw [shows.links_eq, shows.members_eq, ← shows.capacity_eq]
      dsimp only
      rw [handler, if_pos rfl, isNumber]
      dsimp only
      simp only [sameOutline]
      exact closed.channelInactive number channel

/-- A fresh channel is no member of any pool. -/
theorem fresh_channel_not_mem (shows : fabric.Shows outline) (pool : Nat) :
    fabric.roster.channels.length + 1 ∉ fabric.roster.membersOf pool := by
  intro isMember
  have isOpen := shows.tidy.isOpen_of_mem isMember
  rw [Roster.isOpen, Roster.channel?_eq_none_of_length_lt (Nat.lt_succ_self _)] at isOpen
  cases isOpen

theorem length_links (shows : fabric.Shows outline) :
    outline.links.length = fabric.roster.channels.length := by
  simp only [shows.links_eq, Roster.links, List.length_map]

/-- Enrolling an open channel that is no member yet. -/
theorem enroll (shows : fabric.Shows outline) {pool channel : Nat}
    (stranger : channel ∉ outline.members pool)
    (isAwaited : (fabric.roster.closing channel).isDone = false) :
    ({ fabric with roster := (fabric.roster.enroll pool channel).1 } : Fabric).Shows
      (outline.enroll pool channel) := by
  have exists' : (outline.capacity pool).isSome = true ↔ pool < fabric.roster.pools.length := by
    simp only [shows.capacity_eq, Roster.capacityOf, Option.isSome_map, isSome_getElem?]
  have members : (fabric.roster.enroll pool channel).1.membersOf
      = (outline.enroll pool channel).members := by
    funext other
    simp only [Outline.enroll]
    simp only [shows.members_eq] at stranger ⊢
    simp only [Roster.membersOf_enroll]
    simp only [isAwaited, stranger, not_false_eq_true, and_true, exists']
  have there := shows.setRoster (shows.tidy.enroll pool channel) (Roster.dials_enroll _ _ _)
  rw [Roster.links_enroll, Roster.capacityOf_enroll, ← shows.links_eq, ← shows.capacity_eq, members] at there
  exact there

/-- A channel comes up: it is opened, and its watchdog's pool enrolls it. -/
theorem channelUp (shows : fabric.Shows outline) (number : Nat) :
    (({ fabric with roster := (fabric.roster.openChannel (some number)).1 } : Fabric).channelActive number
      (fabric.roster.openChannel (some number)).2).Shows (outline.up number) := by
  have isFresh : (fabric.roster.openChannel (some number)).2 = outline.links.length + 1 := by
    simp only [shows.length_links]
    rfl
  have opened : ({ fabric with roster := (fabric.roster.openChannel (some number)).1 } : Fabric).Shows
      { outline with links := outline.links ++ [some number] } := by
    have there := shows.setRoster (shows.tidy.openChannel number) rfl
    have members : (fabric.roster.openChannel (some number)).1.membersOf = outline.members :=
      shows.members_eq.symm
    have capacity : (fabric.roster.openChannel (some number)).1.capacityOf = outline.capacity :=
      shows.capacity_eq.symm
    rw [Roster.links_openChannel, ← shows.links_eq, members, capacity] at there
    exact there
  have isAwaited : ((fabric.roster.openChannel (some number)).1.closing
      (outline.links.length + 1)).isDone = false := by
    rw [Roster.closing, Roster.channel?_openChannel, shows.length_links, if_pos rfl]
    rfl
  unfold Fabric.channelActive Outline.up Outline.poolOf
  rw [shows.posts_getElem? number, isFresh]
  dsimp only
  cases isThere : fabric.watchdogs[number]? with
  | none => exact opened
  | some watchdog =>
      dsimp only [Option.map_some, Option.bind_some, Watchdog.post]
      refine (Shows.log ?_ _).tellNext _ _ _
      have reset : ∀ counting : Fabric, Quiet counting
          (counting.changeWatchdog number fun found => { found with attempts := 0 }) := fun counting =>
        Quiet.changeWatchdog counting number (fun _ => rfl) (fun _ => rfl)
          fun _ _ plain => ⟨plain.listeners, plain.unheld⟩
      have counted := opened.of_quiet (reset _)
      cases watchdog.pool with
      | none => exact counted
      | some pool =>
          refine counted.enroll ?_ isAwaited
          rw [shows.length_links]
          change _ ∉ outline.members pool
          simp only [shows.members_eq]
          exact shows.fresh_channel_not_mem pool

theorem establish (shows : fabric.Shows outline) (number : Nat) (flaps : Bool) :
    (fabric.establish number flaps).1.Shows (outline.establish number flaps) := by
  have isFresh : (fabric.roster.openChannel (some number)).2 = outline.links.length + 1 := by
    simp only [shows.length_links]
    rfl
  have isUp := shows.channelUp number
  unfold Fabric.establish Outline.establish
  cases flaps with
  | false => exact isUp
  | true =>
      simp only [isFresh] at isUp
      dsimp only
      rw [if_pos rfl, if_pos rfl, isFresh]
      exact isUp.close _

/-! ### Attempts -/

theorem issue (shows : fabric.Shows outline) {number : Nat} {watchdog : Watchdog}
    (isThere : fabric.watchdogs[number]? = some watchdog) (origin : Origin) :
    (fabric.issue number origin watchdog).Shows (outline.dial number origin) := by
  refine ⟨shows.tidy.of_same rfl rfl, shows.plain, ?_⟩
  simp only [Outline.dial]
  simp only [shows.posts_getElem? number, isThere]
  dsimp only [Option.map_some]
  have dials : (fabric.issue number origin watchdog).roster.dials
      = fabric.roster.dials ++ [watchdog.address] := List.filterMap_append
  have attempts : (fabric.issue number origin watchdog).outline.attempts
      = fabric.outline.attempts ++ [(number, origin)] := List.map_append
  rw [← shows.outlineEq, ← attempts]
  simp only [Fabric.outline]
  simp only [dials]
  rfl

/-- A caller's attempt. -/
theorem beginCall (shows : fabric.Shows outline) (number : Nat) :
    (fabric.beginCall number).Shows (outline.dial number .caller) := by
  have posts := shows.posts_getElem? number
  simp only [Fabric.beginCall]
  cases isThere : fabric.watchdogs[number]? with
  | none =>
      simp only [isThere] at posts
      simp only [Outline.dial]
      simp only [posts]
      exact shows
  | some watchdog => exact shows.issue isThere .caller

/-- The timer's attempt, if one is wanted. -/
theorem beginRetry (shows : fabric.Shows outline) (number : Nat) :
    (fabric.beginRetry number).1.Shows (outline.retry number) := by
  simp only [Fabric.beginRetry, Outline.retry]
  simp only [shows.posts_getElem? number]
  cases isThere : fabric.watchdogs[number]? with
  | none => exact shows
  | some watchdog =>
      dsimp only [Option.map_some]
      rw [← shows.wants watchdog]
      split
      · exact shows.issue isThere .retry
      · exact shows.log _

theorem succeeded (shows : fabric.Shows outline) (attempt : Attempt) (channel : Nat) :
    (fabric.succeeded attempt channel).Shows outline :=
  shows.of_quiet (Quiet.succeeded shows.plain attempt channel)

theorem failed (shows : fabric.Shows outline) (attempt : Attempt) (error : TransportError) :
    (fabric.failed attempt error).Shows
      (outline.conclude attempt.watchdog attempt.origin (.failed error)) := by
  simp only [Fabric.failed, Outline.conclude]
  cases attempt.origin with
  | caller => exact shows
  | retry =>
      dsimp only
      cases isThere : fabric.watchdogs[attempt.watchdog]? with
      | none =>
          have posts := shows.posts_getElem? attempt.watchdog
          simp only [isThere] at posts
          simp only [Outline.lose]
          simp only [posts]
          exact shows
      | some watchdog =>
          have logged := shows.log (watchdog.line .warn "reconnect attempt failed"
            [("attempts", Text.decimal attempt.attempts.toNat), ("code", error.code),
              ("error", error.message)])
          dsimp only
          simp only [notifyFailure_of_plain logged.plain, ite_self]
          exact logged.onDisconnected _

/-- An attempt ends. -/
theorem settle (shows : fabric.Shows outline) (place : Nat) (outcome : Outcome) :
    (fabric.settle place outcome).1.Shows (outline.settle place outcome) := by
  have attempts : outline.attempts[place]?
      = (fabric.underWay[place]?).map fun attempt => (attempt.watchdog, attempt.origin) := by
    rw [← shows.outlineEq]
    exact List.getElem?_map
  simp only [Fabric.settle, Outline.settle]
  simp only [attempts]
  cases isThere : fabric.underWay[place]? with
  | none => exact shows
  | some attempt =>
      have ended : ({ fabric with underWay := fabric.underWay.eraseIdx place } : Fabric).Shows
          { outline with attempts := outline.attempts.eraseIdx place } := by
        refine ⟨shows.tidy, shows.plain, ?_⟩
        rw [← shows.outlineEq]
        simp only [Fabric.outline]
        simp only [List.eraseIdx_map]
      dsimp only [Option.map_some]
      cases outcome with
      | established => exact (ended.establish attempt.watchdog false).succeeded attempt _
      | flapped => exact (ended.establish attempt.watchdog true).succeeded attempt _
      | failed error => exact ended.failed attempt error

theorem release (shows : fabric.Shows outline) (index : Nat) :
    (fabric.release index).1.Shows { outline with timer := (outline.timer.release index).1 } ∧
      (fabric.release index).2 = (outline.timer.release index).2 := by
  have sameTimer : outline.timer = fabric.timer.undated := by
    rw [← shows.outlineEq]
    rfl
  simp only [sameTimer, ManualTimer.undated_release]
  refine ⟨⟨shows.tidy, shows.plain, ?_⟩, rfl⟩
  rw [← shows.outlineEq]
  rfl

/-! ### New watchdogs, connections and pools -/

theorem addWatchdog (shows : fabric.Shows outline) {watchdog : Watchdog} (plain : watchdog.Plain) :
    (fabric.addWatchdog watchdog).1.Shows { outline with posts := outline.posts ++ [watchdog.post] } := by
  refine ⟨shows.tidy, ?_, ?_⟩
  · intro other isOther
    rcases List.mem_append.1 isOther with before | isNew
    · exact shows.plain other before
    · simp only [List.mem_singleton] at isNew
      exact isNew ▸ plain
  · rw [← shows.outlineEq]
    simp only [Fabric.addWatchdog, Fabric.outline]
    simp only [List.map_append, List.map_singleton]

theorem addConnection (shows : fabric.Shows outline) (address : Address) :
    (fabric.addConnection address).1.Shows
      { outline with switches := outline.switches ++ [(address, none)] } := by
  refine ⟨shows.tidy, shows.plain, ?_⟩
  rw [← shows.outlineEq]
  simp only [Fabric.addConnection, Fabric.outline]
  simp only [List.map_append, List.map_singleton]
  rfl

theorem bind (shows : fabric.Shows outline) {connection : Nat} {address : Address}
    (unbound : outline.switches[connection]? = some (address, none)) (switch : ReconnectSwitch) :
    (fabric.bind connection switch).1.Shows
      { outline with switches := outline.switches.set connection (address, some switch) } := by
  have switches : outline.switches = fabric.connections.map Connection.binding := by
    rw [← shows.outlineEq]
    rfl
  simp only [switches, List.getElem?_map] at unbound
  obtain ⟨found, isThere, same⟩ := Option.map_eq_some_iff.1 unbound
  obtain ⟨isAddress, isUnbound⟩ := Prod.mk.inj same
  have bound : (found.bind switch).1.binding = (address, some switch) := by
    simp only [Connection.bind]
    rw [isUnbound, ← isAddress]
    rfl
  simp only [Fabric.bind]
  simp only [isThere]
  refine ⟨shows.tidy, shows.plain, ?_⟩
  rw [switches, ← shows.outlineEq, ← bound, ← List.map_set]
  rfl

/-- A pool is added.  It is empty, as it was before it existed. -/
theorem addPool (shows : fabric.Shows outline) (address : Address) (config : PoolConfig) :
    ({ fabric with roster := (fabric.roster.addPool address config).1 } : Fabric).Shows
      { outline with
        capacity := fun pool =>
          if pool = fabric.roster.pools.length then some config.bound.toNat else outline.capacity pool } := by
  have there := shows.setRoster (shows.tidy.addPool address config) rfl
  have links : (fabric.roster.addPool address config).1.links = outline.links := shows.links_eq.symm
  have members : (fabric.roster.addPool address config).1.membersOf = outline.members := by
    simp only [shows.members_eq]
    funext pool
    exact Roster.membersOf_addPool fabric.roster address config pool
  have capacity : (fabric.roster.addPool address config).1.capacityOf = fun pool =>
      if pool = fabric.roster.pools.length then some config.bound.toNat else outline.capacity pool := by
    funext pool
    simp only [shows.capacity_eq, Roster.capacityOf, Roster.addPool, List.getElem?_append]
    by_cases before : pool < fabric.roster.pools.length
    · rw [if_pos before, if_neg (Nat.ne_of_lt before)]
    · rw [if_neg before, List.getElem?_eq_none (Nat.le_of_not_lt before)]
      by_cases isNew : pool = fabric.roster.pools.length
      · rw [if_pos isNew, isNew, Nat.sub_self]
        rfl
      · rw [if_neg isNew, List.getElem?_eq_none (by rw [List.length_singleton]; omega), Option.map_none]
  simp only [links, members, capacity] at there
  exact there

end Uplink.Fabric.Shows
