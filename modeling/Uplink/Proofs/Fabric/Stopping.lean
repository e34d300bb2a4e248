/-
Module: Uplink.Proofs.Fabric.Stopping
Purpose: Which retries a stop takes back for good.  A watchdog can have several retries pending but
  remembers one handle; the others survive the stop and run once the watchdog is started again.
Main exports: Fabric.Dials, Fabric.exists_needed, Fabric.stop_suppresses_iff
-/
import Uplink.Proofs.Fabric.Calm

namespace Uplink

/-! ### Pools without members -/

namespace Roster

theorem membersOf_evicts (pool : Nat) (leaving : List Nat) (roster : Roster) :
    (roster.run (leaving.map (RosterEvent.evict pool))).membersOf pool
      = (roster.membersOf pool).filter (· ∉ leaving) := by
  induction leaving generalizing roster with
  | nil => simp only [List.map_nil, run, List.foldl_nil, List.not_mem_nil, not_false_eq_true, decide_true,
      List.filter_true]
  | cons channel rest ih =>
      simp only [run, List.map_cons, List.foldl_cons, step]
      refine (ih (roster.evict pool channel).1).trans ?_
      rw [membersOf_evict, if_pos rfl, List.filter_filter]
      apply List.filter_congr
      intro other _
      simp only [List.mem_cons, not_or, Bool.decide_and, Bool.and_comm]

/-- Every member of a pool leaves, and the pool is to hold one channel. -/
def clearing (roster : Roster) (pool : Nat) : List RosterEvent :=
  (roster.membersOf pool).map (RosterEvent.evict pool) ++ [.setCapacity pool 1]

/-- A cleared pool has room. -/
theorem hasRoom_clearing (roster : Roster) (pool : Nat) {held : Pool}
    (isThere : (roster.run (roster.clearing pool)).pools[pool]? = some held) : held.hasRoom = true := by
  have cleared : roster.run (roster.clearing pool)
      = (roster.run ((roster.membersOf pool).map (RosterEvent.evict pool))).changePool pool
          fun found => { found with capacity := 1 } := by
    simp only [run, clearing, List.foldl_append, List.foldl_cons, List.foldl_nil, step]
  have noMembers := membersOf_evicts pool (roster.membersOf pool) roster
  rw [List.filter_eq_nil_iff.2 (by simp)] at noMembers
  rw [cleared, changePool, List.getElem?_modify_eq] at isThere
  obtain ⟨found, isFound, same⟩ := Option.map_eq_some_iff.1 isThere
  rw [membersOf_of_getElem? isFound] at noMembers
  rw [← same, Pool.hasRoom, Pool.size, noMembers]
  rfl

end Roster

namespace Fabric

variable {fabric : Fabric} {number : Nat} {watchdog : Watchdog}

theorem run_onRoster (events : List RosterEvent) (fabric : Fabric) :
    fabric.run (events.map .onRoster) = { fabric with roster := fabric.roster.run events } := by
  induction events generalizing fabric with
  | nil => rfl
  | cons event rest ih => exact ih { fabric with roster := fabric.roster.step event }

/-! ### Watchdogs that want a channel -/

/-- Whatever has happened, a watchdog can come to want another channel while the timer is left alone: its
pool is cleared, and the watchdog is started. -/
theorem exists_needed (isThere : fabric.watchdogs[number]? = some watchdog) :
    ∃ later, (fabric.run later).timer = fabric.timer
      ∧ (fabric.run later).reconnectNeeded number = true := by
  let clearing := (watchdog.pool.map fabric.roster.clearing).getD []
  let cleared : Fabric := { fabric with roster := fabric.roster.run clearing }
  have ran : fabric.run (clearing.map .onRoster ++ [.start number]) = (cleared.start number).1 := by
    rw [run, List.foldl_append]
    change (fabric.run (clearing.map .onRoster)).run [.start number] = _
    rw [run_onRoster]
    rfl
  have wasThere : cleared.watchdogs[number]? = some watchdog := isThere
  obtain ⟨isStarted, timer, pools⟩ := start_of_getElem? wasThere
  refine ⟨clearing.map .onRoster ++ [.start number], ?_, ?_⟩
  · rw [ran]
    exact timer
  · rw [ran]
    simp only [reconnectNeeded, isStarted, wants, pools, Bool.true_and]
    split
    · rename_i held isHeld
      obtain ⟨pool, isPool, isPlace⟩ := Option.bind_eq_some_iff.1 isHeld
      have sameClearing : clearing = fabric.roster.clearing pool := by
        simp only [clearing, isPool, Option.map_some, Option.getD_some]
      exact fabric.roster.hasRoom_clearing pool (sameClearing ▸ isPlace)
    · rfl

/-! ### Tasks that fire -/

/-- The task of a handle begins an attempt if it fires now. -/
def Dials (fabric : Fabric) (handle : Nat) : Prop :=
  ∃ index entry, fabric.timer.entries[index]? = some entry ∧ entry.handle = handle
    ∧ (fabric.fire index).connects = fabric.connects + 1

/-- A task that is not to run begins nothing. -/
theorem not_dials_of_settled {handle : Nat} (settled : fabric.timer.Settled handle) :
    ¬ fabric.Dials handle := by
  rintro ⟨index, entry, isThere, isHandle, dials⟩
  have idle : fabric.timer.isWaiting entry = false := by
    rw [ManualTimer.isWaiting, isHandle]
    exact beq_eq_false_iff_ne.2 settled.timeout
  simp only [fire, release, ManualTimer.release_eq isThere, idle, Bool.false_eq_true, if_false] at dials
  omega

/-- The task of a watchdog that wants another channel begins an attempt, if it is still to run. -/
theorem dials_of_pending {entry : TimerEntry Nat} (isEntry : entry ∈ fabric.timer.entries)
    (pending : fabric.timer.timeout entry.handle = .pending)
    (needed : fabric.reconnectNeeded entry.task = true) : fabric.Dials entry.handle := by
  obtain ⟨index, isThere⟩ := List.mem_iff_getElem?.1 isEntry
  refine ⟨index, entry, isThere, rfl, ?_⟩
  have waits : fabric.timer.isWaiting entry = true := beq_iff_eq.2 pending
  simp only [fire, release, ManualTimer.release_eq isThere, waits, if_true, beginRetry]
  simp only [reconnectNeeded] at needed
  cases isWatchdog : fabric.watchdogs[entry.task]? with
  | none =>
      rw [isWatchdog] at needed
      cases needed
  | some watchdog =>
      rw [isWatchdog] at needed
      dsimp only at needed ⊢
      rw [if_pos (by exact needed)]
      rfl

/-! ### Stopping -/

/-- All that a stop does to the timer is to cancel the handle that the watchdog remembers. -/
theorem timer_stop (isThere : fabric.watchdogs[number]? = some watchdog) :
    (fabric.stop number).1.timer = (fabric.cancelPending watchdog.pending).timer := by
  simp only [stop, isThere]
  split <;> rfl

theorem entries_stop (fabric : Fabric) (number : Nat) :
    (fabric.stop number).1.timer.entries = fabric.timer.entries := by
  cases isThere : fabric.watchdogs[number]? with
  | none => simp only [stop, isThere]
  | some watchdog =>
      rw [timer_stop isThere]
      cases watchdog.pending <;> rfl

/-- A handle that the watchdog does not remember is passed over. -/
theorem timeout_stop (isThere : fabric.watchdogs[number]? = some watchdog) {handle : Nat}
    (notRemembered : watchdog.pending ≠ some handle) :
    (fabric.stop number).1.timer.timeout handle = fabric.timer.timeout handle := by
  rw [timer_stop isThere]
  cases isPending : watchdog.pending with
  | none => rfl
  | some other =>
      have different : other ≠ handle := fun same => notRemembered (same ▸ isPending)
      change (fabric.timer.timeouts.modify other _).getD handle _ = _
      rw [List.getD_eq_getElem?_getD, List.getElem?_modify_ne _ _ different, ← List.getD_eq_getElem?_getD]
      rfl

/-- A retry that was not to run any more, or that the watchdog remembers, is settled by a stop. -/
theorem settled_stop (sound : fabric.timer.Sound) (isThere : fabric.watchdogs[number]? = some watchdog)
    {entry : TimerEntry Nat} (isEntry : entry ∈ fabric.timer.entries)
    (remembered : fabric.timer.timeout entry.handle = .pending → watchdog.pending = some entry.handle) :
    (fabric.stop number).1.timer.Settled entry.handle := by
  have given := sound.given entry isEntry
  by_cases pending : fabric.timer.timeout entry.handle = .pending
  · rw [timer_stop isThere, remembered pending]
    exact ManualTimer.settled_cancel given
  · exact (Calm.stop fabric number).moves.settled (ManualTimer.settled_of_timeout given pending)

/-- A retry of a watchdog that was there when the watchdog was stopped never begins an attempt afterwards,
whatever follows, exactly if it was not to run any more or its handle is the one that the watchdog
remembered.  Every other pending retry begins one after some later start. -/
theorem stop_suppresses_iff {opening : Fabric} (unused : opening.timer = ManualTimer.fresh)
    (events : List FabricEvent) (number : Nat) :
    let reached := opening.run events
    let stopped := (reached.stop number).1
    ∀ watchdog, reached.watchdogs[number]? = some watchdog →
    ∀ entry ∈ stopped.timer.entries, entry.task = number →
      ((∀ later, ¬ (stopped.run later).Dials entry.handle)
        ↔ (reached.timer.timeout entry.handle = .pending → watchdog.pending = some entry.handle)) := by
  intro reached stopped watchdog isThere entry isEntry isOwn
  constructor
  · intro never pending
    by_contra notRemembered
    have still : stopped.timer.timeout entry.handle = .pending :=
      (timeout_stop isThere notRemembered).trans pending
    obtain ⟨later, sameTimer, needed⟩ := exists_needed (watchdogs_stop isThere)
    refine never later (dials_of_pending ?_ ?_ ?_)
    · rw [sameTimer]
      exact isEntry
    · rw [sameTimer]
      exact still
    · rw [isOwn]
      exact needed
  · intro remembered later
    have sound : reached.timer.Sound :=
      (moves_run events opening).sound (unused ▸ ManualTimer.sound_fresh)
    have wasEntry : entry ∈ reached.timer.entries := entries_stop reached number ▸ isEntry
    have settled := settled_stop sound isThere wasEntry remembered
    exact not_dials_of_settled ((moves_run later stopped).settled settled)

/-- One watchdog without a pool, and nothing else. -/
def lone : Fabric :=
  { fresh with
    watchdogs := [Watchdog.make { host := "10.0.0.1", port := 6001 } none .standard .nobody
      Watchdog.defaultNotifyCapacity] }

/-- Of two retries that are pending when their watchdog is stopped, the first one runs after a restart;
the second one never does. -/
theorem stop_spares_first_retry :
    let stopped := ((lone.run [.schedule 0 Span.zero, .schedule 0 Span.zero]).stop 0).1
    (stopped.run [.start 0]).Dials 0 ∧ (¬ ∀ later, ¬ (stopped.run later).Dials 0)
      ∧ ∀ later, ¬ (stopped.run later).Dials 1 := by
  have unused : lone.timer = ManualTimer.fresh := rfl
  have suppresses := stop_suppresses_iff unused [.schedule 0 Span.zero, .schedule 0 Span.zero] 0 _ rfl
  refine ⟨⟨0, _, rfl, rfl, rfl⟩, ?_, ?_⟩
  · intro never
    have remembered := (suppresses { delay := Span.zero, handle := 0, task := 0 } (by decide) rfl).1 never
    exact absurd (remembered rfl) (by decide)
  · exact (suppresses { delay := Span.zero, handle := 1, task := 0 } (by decide) rfl).2 fun _ => rfl

end Fabric

end Uplink
