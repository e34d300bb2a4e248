/-
Module: Uplink.Proofs.Fabric.Mirror
Purpose: The connection that a watchdog serves shows whether the watchdog has an open channel.
Main exports: Fabric.Mirrors, Fabric.Mirrors.of_steady, Fabric.Mirrors.close, Fabric.Mirrors.establish,
  Fabric.Mirrors.settle
-/
import Uplink.Proofs.Fabric.Exclusive

namespace Uplink.Fabric

/-- Every watchdog tells the connection with its own number what becomes of its channels, and that
connection shows whether the watchdog is among the links. -/
structure Mirrors (fabric : Fabric) (application : Option String) (links : List (Option Nat)) : Prop where
  told : ∀ (number : Nat) (watchdog : Watchdog), fabric.watchdogs[number]? = some watchdog →
    watchdog.next = .tracker number application
  paired : fabric.connections.length = fabric.watchdogs.length
  shown : ∀ (number : Nat) (found : Connection Nat ReconnectSwitch),
    fabric.connections[number]? = some found → (found.connected = true ↔ some number ∈ links)

/-! ### Steady changes -/

variable {fabric changed : Fabric} {outline : Outline} {application : Option String}
  {links : List (Option Nat)}

namespace Steady

theorem start (fabric : Fabric) (number : Nat) : Steady fabric (fabric.start number).1 := by
  simp only [Fabric.start]
  split
  · exact refl fabric
  · split
    · exact refl fabric
    · apply trans (changeWatchdog fabric number ?_) (log _ _)
      exact fun _ => rfl

theorem cancelPending (fabric : Fabric) (pending : Option Nat) :
    Steady fabric (fabric.cancelPending pending) := by
  cases pending <;> exact ⟨rfl, rfl⟩

theorem stop (fabric : Fabric) (number : Nat) : Steady fabric (fabric.stop number).1 := by
  simp only [Fabric.stop]
  split
  · exact refl fabric
  · rename_i watchdog isThere
    have stopped : Steady fabric ((fabric.cancelPending watchdog.pending).changeWatchdog number
        fun found =>
          { found with started := false, pending := none, notifier := found.notifier.shutDown }) :=
      (cancelPending fabric watchdog.pending).trans (changeWatchdog _ number fun _ => rfl)
    split
    · exact stopped.trans (log _ _)
    · exact stopped

theorem turnSwitch (fabric : Fabric) (connection : Nat) (enabled : Bool) :
    Steady fabric (fabric.turnSwitch connection enabled) := by
  simp only [Fabric.turnSwitch]
  split
  · exact refl fabric
  · split
    · rename_i number isSwitch
      cases enabled with
      | true => exact start fabric number
      | false => exact stop fabric number
    · exact record fabric _
    · exact log fabric _

theorem schedule (fabric : Fabric) (number : Nat) (delay : Span) :
    Steady fabric (fabric.schedule number delay).1 := by
  simp only [Fabric.schedule]
  split
  · exact refl fabric
  · rename_i timer handle accepted
    have taken : Steady fabric { fabric with timer } := ⟨rfl, rfl⟩
    apply (taken.trans (record _ _)).trans (changeWatchdog _ number ?_)
    exact fun _ => rfl

theorem onDisconnected (fabric : Fabric) (number : Nat) :
    Steady fabric (fabric.onDisconnected number) := by
  simp only [Fabric.onDisconnected]
  split
  · exact refl fabric
  · rename_i watchdog isThere
    split
    · have counted : Steady fabric (fabric.changeWatchdog number fun found =>
          { found with attempts := found.attempts + 1 }) := changeWatchdog fabric number fun _ => rfl
      have announced := counted.trans (log _ (watchdog.line .debug "reconnect scheduled"
        [("attempts", Text.decimal watchdog.nextAttempts.toNat),
          ("delay_ms",
            Text.decimal (watchdog.backoff.delayFor watchdog.nextAttempts).clampedMillis.toNat)]))
      have scheduled := announced.trans
        (schedule _ number (watchdog.backoff.delayFor watchdog.nextAttempts))
      split
      · rename_i after isScheduled
        rw [isScheduled] at scheduled
        exact scheduled
      · rename_i after error isScheduled
        rw [isScheduled] at scheduled
        exact scheduled.trans (log _ _)
    · exact log fabric _

theorem bind (fabric : Fabric) (number : Nat) (switch : ReconnectSwitch) :
    Steady fabric (fabric.bind number switch).1 := by
  simp only [Fabric.bind]
  split
  · exact refl fabric
  · rename_i found isThere
    have same : (found.bind switch).1.connected = found.connected := by
      simp only [Connection.bind]
      split <;> rfl
    exact setConnection isThere same

theorem issue (fabric : Fabric) (number : Nat) (origin : Origin) (watchdog : Watchdog) :
    Steady fabric (fabric.issue number origin watchdog) := ⟨rfl, rfl⟩

theorem beginCall (fabric : Fabric) (number : Nat) : Steady fabric (fabric.beginCall number) := by
  simp only [Fabric.beginCall]
  split
  · exact refl fabric
  · exact issue fabric number .caller _

theorem beginRetry (fabric : Fabric) (number : Nat) : Steady fabric (fabric.beginRetry number).1 := by
  simp only [Fabric.beginRetry]
  split
  · exact refl fabric
  · split
    · exact issue fabric number .retry _
    · exact log fabric _

/-- Nobody who listens does anything about a failure. -/
theorem failed (plain : ∀ watchdog ∈ fabric.watchdogs, watchdog.Plain) (attempt : Attempt)
    (error : TransportError) : Steady fabric (fabric.failed attempt error) := by
  simp only [Fabric.failed]
  split
  · rename_i watchdog isRetry isThere
    have told : ∀ logged : Fabric, Steady fabric logged →
        (∀ watchdog ∈ logged.watchdogs, watchdog.Plain) →
        Steady fabric ((if watchdog.started then logged.notifyFailure attempt.watchdog attempt.attempts
          else logged).onDisconnected attempt.watchdog) := by
      intro logged steady stillPlain
      rw [notifyFailure_of_plain stillPlain, ite_self]
      exact steady.trans (onDisconnected logged attempt.watchdog)
    exact told _ (log fabric _) plain
  · exact refl fabric

end Steady

namespace Mirrors

theorem of_steady (mirrors : fabric.Mirrors application links) (steady : Steady fabric changed) :
    changed.Mirrors application links := by
  have sameLengths := congrArg List.length steady.nexts
  have sameConnections := congrArg List.length steady.flags
  simp only [List.length_map] at sameLengths sameConnections
  refine ⟨?_, sameConnections.trans (mirrors.paired.trans sameLengths.symm), ?_⟩
  · intro number watchdog isThere
    have same := congrArg (fun nexts => nexts[number]?) steady.nexts
    simp only [List.getElem?_map, isThere, Option.map_some] at same
    obtain ⟨before, wasThere, isNext⟩ := Option.map_eq_some_iff.1 same.symm
    rw [← isNext]
    exact mirrors.told number before wasThere
  · intro number found isThere
    have same := congrArg (fun flags => flags[number]?) steady.flags
    simp only [List.getElem?_map, isThere, Option.map_some] at same
    obtain ⟨before, wasThere, isFlag⟩ := Option.map_eq_some_iff.1 same.symm
    rw [← isFlag]
    exact mirrors.shown number before wasThere

/-! ### Channels -/

/-- The connection of one watchdog notes whether its channel is up. -/
theorem setConnected {changedLinks : List (Option Nat)} {number : Nat} {connected : Bool}
    (mirrors : fabric.Mirrors application links)
    (self : connected = true ↔ some number ∈ changedLinks)
    (others : ∀ other, other ≠ number → (some other ∈ changedLinks ↔ some other ∈ links)) :
    (fabric.setConnected number connected).Mirrors application changedLinks := by
  refine ⟨mirrors.told, ?_, ?_⟩
  · simp only [Fabric.setConnected, List.length_modify]
    exact mirrors.paired
  · intro other found isThere
    simp only [Fabric.setConnected, List.getElem?_modify] at isThere
    obtain ⟨before, wasThere, same⟩ := Option.map_eq_some_iff.1 isThere
    by_cases isNumber : number = other
    · rw [if_pos isNumber] at same
      rw [← same, ← isNumber]
      exact self
    · rw [if_neg isNumber] at same
      rw [← same, others other (Ne.symm isNumber)]
      exact mirrors.shown other before wasThere

/-- What a tracker passes on to the application behind it changes no connection. -/
theorem tellNext_active {number : Nat} (noted : (fabric.setConnected number true).Mirrors application links)
    (channel : Nat) :
    (fabric.tellNext (.tracker number application) channel .active).Mirrors application links := by
  cases application with
  | none => exact noted
  | some name => exact noted.of_steady (Steady.record _ _)

theorem tellNext_inactive {number : Nat}
    (noted : (fabric.setConnected number false).Mirrors application links) (channel : Nat) (done : Bool) :
    (fabric.tellNext (.tracker number application) channel (.inactive done)).Mirrors application
      links := by
  cases application with
  | none => exact noted
  | some name => exact noted.of_steady (Steady.record _ _)

/-- A channel comes up for a watchdog. -/
theorem channelActive (mirrors : fabric.Mirrors application links) {number : Nat}
    (isThere : number < fabric.watchdogs.length) (channel : Nat) :
    (fabric.channelActive number channel).Mirrors application (links ++ [some number]) := by
  have found := List.getElem?_eq_getElem isThere
  have next := mirrors.told number _ found
  simp only [Fabric.channelActive]
  rw [found]
  dsimp only
  rw [next]
  apply tellNext_active
  refine setConnected (mirrors.of_steady ?_) ?_ ?_
  · have counted : Steady fabric
        (fabric.changeWatchdog number fun found => { found with attempts := 0 }) :=
      Steady.changeWatchdog fabric number fun _ => rfl
    apply Steady.trans ?_ (Steady.log _ _)
    split
    · exact counted.trans ⟨rfl, rfl⟩
    · exact counted
  · simp only [List.mem_append, List.mem_singleton, or_true]
  · intro other different
    simp only [List.mem_append, List.mem_singleton, Option.some.injEq, different, or_false]

/-- A channel of a watchdog closes, after which it has none. -/
theorem channelInactive (mirrors : fabric.Mirrors application links) {number : Nat}
    (isThere : number < fabric.watchdogs.length) (channel : Nat) {changedLinks : List (Option Nat)}
    (self : some number ∉ changedLinks)
    (others : ∀ other, other ≠ number → (some other ∈ changedLinks ↔ some other ∈ links)) :
    (fabric.channelInactive number channel).Mirrors application changedLinks := by
  have found := List.getElem?_eq_getElem isThere
  have next := mirrors.told number _ found
  simp only [Fabric.channelInactive]
  rw [found]
  dsimp only
  rw [next]
  apply tellNext_inactive
  refine setConnected (mirrors.of_steady ?_) ?_ others
  · exact (Steady.log fabric _).trans (Steady.onDisconnected _ number)
  · exact iff_of_false Bool.false_ne_true self

theorem length_watchdogs (shows : fabric.Shows outline) :
    fabric.watchdogs.length = outline.posts.length := by
  rw [← shows.outlineEq]
  exact (List.length_map _).symm

/-- What is told when a channel closes is its link. -/
theorem close_handler (shows : fabric.Shows outline) (channel : Nat) :
    (fabric.roster.close channel).2 = outline.link? channel := by
  rw [shows.link?_eq]
  cases isOpen : fabric.roster.isOpen channel with
  | false => rw [Roster.close_of_not_open isOpen, if_neg Bool.false_ne_true]
  | true =>
      rw [if_pos rfl]
      simp only [Roster.close_of_open isOpen]

/-- A change of the roster is told to nobody. -/
theorem setRoster (mirrors : fabric.Mirrors application links) (roster : Roster) :
    ({ fabric with roster } : Fabric).Mirrors application links :=
  mirrors.of_steady ⟨rfl, rfl⟩

/-- A channel closes, and the connection of its watchdog shows that it is gone. -/
theorem close (mirrors : fabric.Mirrors application outline.links) (shows : fabric.Shows outline)
    (single : outline.engagements.Nodup) (known : ∀ number ∈ outline.engagements, number < outline.posts.length)
    (channel : Nat) : (fabric.close channel).Mirrors application (outline.close channel).links := by
  simp only [Fabric.close, close_handler shows]
  cases isLink : outline.link? channel with
  | none =>
      simp only [Outline.close, isLink]
      exact mirrors.setRoster _
  | some number =>
      obtain ⟨self, others⟩ := Outline.mem_links_close single isLink
      have isEngaged := (Outline.engagements_shut isLink).mem_iff.2 List.mem_cons_self
      have isThere : number < fabric.watchdogs.length := length_watchdogs shows ▸ known number isEngaged
      have shut := mirrors.setRoster (fabric.roster.close channel).1
      exact shut.channelInactive isThere channel self others

/-- A channel comes up for a watchdog that was not engaged, and closes again at once if it flaps. -/
theorem establish (mirrors : fabric.Mirrors application outline.links) (shows : fabric.Shows outline)
    {number : Nat} (single : ([number] ++ outline.engagements).Nodup)
    (known : ∀ other ∈ [number] ++ outline.engagements, other < outline.posts.length) (flaps : Bool) :
    (fabric.establish number flaps).1.Mirrors application (outline.establish number flaps).links := by
  have isThere : number < fabric.watchdogs.length :=
    length_watchdogs shows ▸ known number List.mem_cons_self
  have perm := Outline.engagements_up outline number
  have isUp := (mirrors.setRoster (fabric.roster.openChannel (some number)).1).channelActive isThere
    (fabric.roster.openChannel (some number)).2
  rw [← Outline.links_up] at isUp
  have isFresh : (fabric.roster.openChannel (some number)).2 = outline.links.length + 1 := by
    rw [shows.length_links]
    rfl
  simp only [Fabric.establish, Outline.establish]
  cases flaps with
  | false => exact isUp
  | true =>
      rw [if_pos rfl, if_pos rfl, ← isFresh]
      refine isUp.close (shows.channelUp number) (perm.nodup_iff.1 single) ?_ _
      intro other isEngaged
      rw [Outline.posts_up]
      exact known other (perm.mem_iff.2 isEngaged)

/-- An attempt is taken off those under way. -/
theorem shows_eraseIdx (shows : fabric.Shows outline) (place : Nat) :
    ({ fabric with underWay := fabric.underWay.eraseIdx place } : Fabric).Shows
      { outline with attempts := outline.attempts.eraseIdx place } := by
  refine ⟨shows.tidy, shows.plain, ?_⟩
  rw [← shows.outlineEq]
  simp only [Fabric.outline, List.eraseIdx_map]

/-- However an attempt ends, connections show which watchdogs have a channel. -/
theorem settle (mirrors : fabric.Mirrors application outline.links) (shows : fabric.Shows outline)
    (single : outline.engagements.Nodup) (known : ∀ number ∈ outline.engagements, number < outline.posts.length)
    (place : Nat) (outcome : Outcome) :
    (fabric.settle place outcome).1.Mirrors application (outline.settle place outcome).links := by
  have attempts : outline.attempts[place]?
      = (fabric.underWay[place]?).map fun attempt => (attempt.watchdog, attempt.origin) := by
    rw [← shows.outlineEq]
    exact List.getElem?_map
  simp only [Fabric.settle, Outline.settle, attempts]
  cases isThere : fabric.underWay[place]? with
  | none => exact mirrors
  | some attempt =>
      rw [isThere] at attempts
      have ended := Outline.engagements_end attempts
      let rest : Outline := { outline with attempts := outline.attempts.eraseIdx place }
      have left : ({ fabric with underWay := fabric.underWay.eraseIdx place } : Fabric).Shows rest :=
        shows_eraseIdx shows place
      have still : ({ fabric with underWay := fabric.underWay.eraseIdx place } : Fabric).Mirrors application
          rest.links := mirrors.of_steady ⟨rfl, rfl⟩
      have alone : ([attempt.watchdog] ++ rest.engagements).Nodup := ended.nodup_iff.1 single
      have established := still.establish left alone
        fun number isEngaged => known number (ended.mem_iff.2 isEngaged)
      have succeeded := fun flaps =>
        Quiet.succeeded (left.establish attempt.watchdog flaps).plain attempt
      dsimp only [Option.map_some]
      cases outcome with
      | established => exact (established false).of_steady (succeeded false _).toSteady
      | flapped => exact (established true).of_steady (succeeded true _).toSteady
      | failed error =>
          have failed := still.of_steady (Steady.failed left.plain attempt error)
          simp only [Outline.conclude]
          cases attempt.origin with
          | retry =>
              rw [Outline.links_lose]
              exact failed
          | caller => exact failed

end Mirrors

end Uplink.Fabric
