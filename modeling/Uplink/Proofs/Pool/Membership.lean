/-
Module: Uplink.Proofs.Pool.Membership
Purpose: After any run, the members of a pool are the channels that were enrolled after their last eviction
  and have not closed, in the order in which they came.
Main exports: CloseHook.callsOn, Roster.callsOn, Roster.history, Roster.Tracks.runHook,
  Roster.Tracks.step, Roster.Tracks.run, Roster.members_after_run
-/
import Uplink.Pool.Run
import Uplink.Proofs.Pool.Tracking

namespace Uplink

/-! ### The calls of a run -/

/-- The calls that a hook of a channel makes on a pool.  The hook by which a pool lets go of a member is
the pool's own and makes none. -/
def CloseHook.callsOn (pool channel : Nat) : CloseHook → List PoolCall
  | .release _ => []
  | .observe _ target reenrolls => if target = pool ∧ reenrolls then [.enroll channel] else []
  | .calls target made => if target = pool then made else []

namespace Roster

/-- The calls that an event makes on a pool, itself or by the hooks that it runs. -/
def callsOn (roster : Roster) (pool : Nat) : RosterEvent → List PoolCall
  | .enroll target channel => if target = pool then [.enroll channel] else []
  | .evict target channel => if target = pool then [.evict channel] else []
  | .close channel =>
      if roster.isOpen channel then
        (roster.closing channel).hooks.flatMap (CloseHook.callsOn pool channel)
      else []
  | .listen channel hook =>
      if (roster.closing channel).isDone then hook.callsOn pool channel else []
  | _ => []

/-- The calls on a pool in the course of some events, in the order in which they are made. -/
def history (pool : Nat) : Roster → List RosterEvent → List PoolCall
  | _, [] => []
  | roster, event :: rest =>
      roster.counted pool (roster.callsOn pool event) ++ history pool (roster.step event) rest

variable {roster changed : Roster} {pool closed : Nat} {calls : List PoolCall} {due : List CloseHook}

theorem counted_append (roster : Roster) (pool : Nat) (first second : List PoolCall) :
    roster.counted pool (first ++ second) = roster.counted pool first ++ roster.counted pool second := by
  simp only [counted]
  split
  · exact List.filter_append _ _
  · rfl

theorem counted_nil (roster : Roster) (pool : Nat) : roster.counted pool [] = [] := by
  simp only [counted, List.filter_nil, ite_self]

/-- Which calls count does not change while pools and channels stay. -/
theorem Preserves.counted (preserves : Preserves roster changed)
    (length : changed.pools.length = roster.pools.length) (pool : Nat) (calls : List PoolCall) :
    changed.counted pool calls = roster.counted pool calls := by
  simp only [Roster.counted]
  simp only [length, funext preserves.knows]

theorem awaits_shut (roster : Roster) (channel other : Nat) :
    (roster.shut channel).awaits other = (roster.awaits other && decide (other ≠ channel)) := by
  rw [awaits, closing_shut]
  by_cases same : other = channel
  · rw [if_pos same, decide_eq_false (not_not_intro same), Bool.and_false]
    rfl
  · simp only [if_neg same, decide_eq_true same, Bool.and_true, awaits]

theorem knows_shut (roster : Roster) (channel other : Nat) :
    (roster.shut channel).knows other = roster.knows other := by
  simp only [knows, channel?_shut]
  split
  · simp only [Option.isSome_map]
  · rfl

/-! ### The hooks of a closing -/

theorem length_pools_perform (roster : Roster) (target : Nat) (call : PoolCall) :
    (roster.perform target call).pools.length = roster.pools.length := by
  cases call with
  | enroll channel => exact length_pools_enroll roster target channel
  | evict channel => exact length_pools_evict roster target channel

/-- The calls that a hook makes one after another. -/
theorem Tracks.performAll (made : List PoolCall) (target : Nat)
    (tracks : roster.Tracks pool calls closed due) :
    (made.foldl (fun changed call => changed.perform target call) roster).Tracks pool
      (calls ++ roster.counted pool (if target = pool then made else [])) closed due := by
  induction made generalizing roster calls with
  | nil =>
      simp only [ite_self, counted_nil, List.append_nil]
      exact tracks
  | cons call rest ih =>
      have next := ih (tracks.perform target call)
      rw [(Preserves.perform roster target call).counted (length_pools_perform roster target call),
        List.append_assoc, ← counted_append] at next
      have joined : (if target = pool then [call] else []) ++ (if target = pool then rest else [])
          = if target = pool then call :: rest else [] := by
        split <;> rfl
      simp only [joined] at next
      exact next

theorem preserves_performAll (made : List PoolCall) (target : Nat) (roster : Roster) :
    Preserves roster (made.foldl (fun changed call => changed.perform target call) roster) := by
  induction made generalizing roster with
  | nil => exact Preserves.of_channels rfl
  | cons call rest ih => exact (Preserves.perform roster target call).trans (ih _)

theorem length_pools_performAll (made : List PoolCall) (target : Nat) (roster : Roster) :
    (made.foldl (fun changed call => changed.perform target call) roster).pools.length
      = roster.pools.length := by
  induction made generalizing roster with
  | nil => rfl
  | cons call rest ih => exact (ih _).trans (length_pools_perform roster target call)

theorem Preserves.runHook (roster : Roster) (channel : Nat) (hook : CloseHook) :
    Preserves roster (roster.runHook channel hook) := by
  cases hook with
  | release target => exact Preserves.evict roster target channel
  | observe label target reenrolls =>
      simp only [Roster.runHook]
      split
      · have measured : Preserves roster (roster.record (.measured label (roster.sizeOf target))) :=
          Preserves.of_channels rfl
        exact measured.trans ((Preserves.enroll _ target channel).trans (Preserves.of_channels rfl))
      · exact Preserves.of_channels rfl
  | calls target made => exact preserves_performAll made target roster

theorem length_pools_runHook (roster : Roster) (channel : Nat) (hook : CloseHook) :
    (roster.runHook channel hook).pools.length = roster.pools.length := by
  cases hook with
  | release target => exact length_pools_evict roster target channel
  | observe label target reenrolls =>
      simp only [runHook]
      split
      · exact length_pools_enroll (roster.record _) target channel
      · rfl
  | calls target made => exact length_pools_performAll made target roster

namespace Tracks

/-- One hook runs, and is not due any more. -/
theorem runHook {hook : CloseHook} (tracks : roster.Tracks pool calls closed (hook :: due)) :
    (roster.runHook closed hook).Tracks pool
      (calls ++ roster.counted pool (hook.callsOn pool closed)) closed due := by
  cases hook with
  | release target =>
      simp only [CloseHook.callsOn, counted_nil, List.append_nil]
      change (roster.evict target closed).1.Tracks pool calls closed due
      by_cases same : target = pool
      · subst same
        exact tracks.release
      · refine (tracks.shrink (Or.inr ?_)).of_preserves (Preserves.evict roster target closed) ?_
        · intro equal
          exact same (CloseHook.release.inj equal)
        · rw [membersOf_evict, if_neg (Ne.symm same)]
  | observe label target reenrolls =>
      have rest := tracks.shrink (Or.inr (by simp))
      have recorded : Preserves roster (roster.record (.measured label (roster.sizeOf target))) :=
        Preserves.of_channels rfl
      have measured := rest.of_preserves recorded rfl
      simp only [Roster.runHook, CloseHook.callsOn]
      cases reenrolls with
      | true =>
          simp only [and_true, if_true]
          exact (measured.perform target (.enroll closed)).of_preserves (Preserves.of_channels rfl) rfl
      | false =>
          simp only [Bool.false_eq_true, and_false, if_false]
          simp only [counted_nil, List.append_nil]
          exact measured
  | calls target made => exact (tracks.shrink (Or.inr (by simp))).performAll made target

/-- All hooks that are due run. -/
theorem runHooks (tracks : roster.Tracks pool calls closed due) :
    (roster.runHooks closed due).Tracks pool
      (calls ++ roster.counted pool (due.flatMap (CloseHook.callsOn pool closed))) closed [] := by
  induction due generalizing roster calls with
  | nil =>
      simp only [List.flatMap_nil, counted_nil, List.append_nil]
      exact tracks
  | cons hook rest ih =>
      have next := ih tracks.runHook
      rw [(Preserves.runHook roster closed hook).counted (length_pools_runHook roster closed hook),
        List.append_assoc, ← counted_append] at next
      exact next

/-- When no hook is due, it does not matter which channel has closed. -/
theorem rest (tracks : roster.Tracks pool calls closed []) : roster.Tracks pool calls 0 [] := by
  refine ⟨tracks.agrees, tracks.distinct, ?_, tracks.known, awaits_zero roster⟩
  intro channel isMember
  rcases tracks.hooked channel isMember with waits | ⟨-, isDue⟩
  · exact Or.inl waits
  · exact absurd isDue List.not_mem_nil

/-- Before any hook is due, any closed channel may be the one that has closed. -/
theorem begin (tracks : roster.Tracks pool calls 0 []) (isShut : roster.awaits closed = false)
    (due : List CloseHook) : roster.Tracks pool calls closed due := by
  refine ⟨tracks.agrees, tracks.distinct, ?_, tracks.known, isShut⟩
  intro channel isMember
  rcases tracks.hooked channel isMember with waits | ⟨-, isDue⟩
  · exact Or.inl waits
  · exact absurd isDue List.not_mem_nil

/-- Between events every member awaits its closing. -/
theorem awaits (tracks : roster.Tracks pool calls 0 []) {channel : Nat}
    (isMember : channel ∈ roster.membersOf pool) : roster.awaits channel = true := by
  rcases tracks.hooked channel isMember with waits | ⟨-, isDue⟩
  · exact awaits_of_hook waits
  · exact absurd isDue List.not_mem_nil

/-- Between events the members are the entries of the ledger that await their closing. -/
theorem members_eq (tracks : roster.Tracks pool calls 0 []) :
    roster.membersOf pool = (ledger calls).filter roster.awaits := by
  rw [← tracks.agrees, eq_comm, List.filter_eq_self]
  intro channel isMember
  exact tracks.awaits isMember

/-! ### Events -/

/-- A channel has shut: its hooks are due, and the ledger's entry for it does not count any more. -/
theorem shutting (tracks : roster.Tracks pool calls 0 []) (channel : Nat) :
    (roster.shut channel).Tracks pool calls channel (roster.closing channel).hooks := by
  have members : (roster.shut channel).membersOf pool = roster.membersOf pool :=
    membersOf_changeChannel roster channel pool _
  have parts : ∀ entries : List Nat, entries.filter (roster.shut channel).awaits
      = (entries.filter roster.awaits).filter (· ≠ channel) := by
    intro entries
    rw [funext (awaits_shut roster channel), List.filter_filter]
    simp only [Bool.and_comm]
  refine ⟨?_, ?_, ?_, ?_, ?_⟩
  · rw [members, parts, parts, tracks.agrees]
  · simp only [members]
    exact tracks.distinct
  · intro other isMember
    simp only [members] at isMember
    have waits := (tracks.hooked other isMember).resolve_right fun isDue => nomatch isDue.2
    by_cases same : other = channel
    · exact Or.inr ⟨same, same ▸ waits⟩
    · left
      simp only [closing_shut, if_neg same]
      exact waits
  · rw [funext (knows_shut roster channel)]
    exact tracks.known
  · rw [awaits_shut, decide_eq_false (not_not_intro rfl), Bool.and_false]

/-- A channel closes: its hooks become due and run, and the handler is taken off. -/
theorem close (tracks : roster.Tracks pool calls 0 []) (channel : Nat) :
    (roster.close channel).1.Tracks pool
      (calls ++ roster.counted pool (roster.callsOn pool (.close channel))) 0 [] := by
  simp only [callsOn]
  cases isOpen : roster.isOpen channel with
  | false =>
      simp only [close_of_not_open isOpen, if_neg Bool.false_ne_true, counted_nil, List.append_nil]
      exact tracks
  | true =>
      have counts : ∀ made, (roster.shut channel).counted pool made = roster.counted pool made := by
        intro made
        rw [counted, counted, funext (knows_shut roster channel), Roster.shut, pools_changeChannel]
      rw [close_of_open isOpen, if_pos rfl, ← counts]
      have ran := (tracks.shutting channel).runHooks.rest
      exact ran.of_preserves (Preserves.unhandle _ channel) (membersOf_changeChannel _ channel pool _)

/-- A hook is registered, and runs at once if the channel has closed. -/
theorem listen (tracks : roster.Tracks pool calls 0 []) (channel : Nat) (hook : CloseHook) :
    (roster.listen channel hook).Tracks pool
      (calls ++ roster.counted pool (roster.callsOn pool (.listen channel hook))) 0 [] := by
  have preserves := Preserves.register roster channel hook
  have registered : (roster.register channel hook).Tracks pool calls 0 [] :=
    tracks.of_preserves preserves (membersOf_changeChannel roster channel pool _)
  have counts : ∀ made, (roster.register channel hook).counted pool made = roster.counted pool made :=
    preserves.counted (congrArg List.length (pools_changeChannel roster channel _)) pool
  change (List.foldl (fun changed due => changed.runHook channel due) (roster.register channel hook)
    ((roster.closing channel).listen hook).2).Tracks pool _ 0 []
  simp only [callsOn, Latch.listen_due]
  cases isDone : (roster.closing channel).isDone with
  | false =>
      rw [if_neg Bool.false_ne_true, if_neg Bool.false_ne_true, counted_nil, List.append_nil]
      exact registered
  | true =>
      have isShut : (roster.register channel hook).awaits channel = false := by
        rw [preserves.awaits, Roster.awaits, isDone]
        rfl
      rw [if_pos rfl, if_pos rfl, ← counts]
      exact (registered.begin isShut [hook]).runHook.rest

/-- A channel that is opened was not there before, so nobody has enrolled it. -/
theorem openChannel (tracks : roster.Tracks pool calls 0 []) (handler : Option Nat) :
    (roster.openChannel handler).1.Tracks pool calls 0 [] := by
  have fresh : roster.channel? (roster.channels.length + 1) = none :=
    channel?_eq_none_of_length_lt (Nat.lt_succ_self _)
  have keeps : ∀ other, roster.knows other = true →
      (roster.openChannel handler).1.channel? other = roster.channel? other := by
    intro other isKnown
    rw [channel?_openChannel, if_neg]
    intro isNew
    simp only [Roster.knows, isNew, fresh] at isKnown
    cases isKnown
  have closingEq : ∀ other, roster.knows other = true →
      (roster.openChannel handler).1.closing other = roster.closing other := by
    intro other isKnown
    simp only [closing, keeps other isKnown]
  have awaitsEq : ∀ other, roster.knows other = true →
      (roster.openChannel handler).1.awaits other = roster.awaits other := by
    intro other isKnown
    simp only [Roster.awaits, closingEq other isKnown]
  have members : (roster.openChannel handler).1.membersOf pool = roster.membersOf pool := rfl
  refine ⟨?_, tracks.distinct, ?_, ?_, awaits_zero _⟩
  · rw [members, List.filter_congr fun other isMember =>
        awaitsEq other (knows_of_awaits (tracks.awaits isMember)),
      tracks.agrees, List.filter_congr fun other entry => awaitsEq other (tracks.known other entry)]
  · intro other isMember
    simp only [members] at isMember
    rw [closingEq other (knows_of_awaits (tracks.awaits isMember))]
    exact tracks.hooked other isMember
  · intro other entry
    have isKnown := tracks.known other entry
    simp only [Roster.knows, keeps other isKnown]
    exact isKnown

/-- A change of a pool that leaves its members alone. -/
theorem changePool (tracks : roster.Tracks pool calls 0 []) (target : Nat) {change : Pool → Pool}
    (keeps : ∀ held, (change held).members = held.members) :
    (roster.changePool target change).Tracks pool calls 0 [] := by
  refine tracks.of_preserves (Preserves.of_channels rfl) ?_
  simp only [membersOf, Roster.changePool]
  simp only [List.getElem?_modify]
  cases roster.pools[pool]? with
  | none => rfl
  | some held =>
      dsimp only [Option.map_eq_map, Option.map_some]
      split
      · exact keeps held
      · rfl

theorem addPool (tracks : roster.Tracks pool calls 0 []) (address : Address) (config : PoolConfig) :
    (roster.addPool address config).1.Tracks pool calls 0 [] :=
  tracks.of_preserves (Preserves.of_channels rfl) (membersOf_addPool roster address config pool)

/-- Taking turns moves the cursor and nobody else. -/
theorem takeTurns (tracks : roster.Tracks pool calls 0 []) (target count : Nat) :
    (roster.takeTurns target count).1.Tracks pool calls 0 [] := by
  simp only [Roster.takeTurns]
  cases found : roster.pools[target]? with
  | none => exact tracks
  | some held =>
      have modified : roster.setPool target (Pool.turns count held).1
          = roster.changePool target fun other => (Pool.turns count other).1 := by
        simp only [setPool, Roster.changePool, List.modify_eq_set, found, Option.getD_some]
      change (roster.setPool target (Pool.turns count held).1).Tracks pool calls 0 []
      simp only [modified]
      exact tracks.changePool target (Pool.members_turns count)

/-- One event, whatever it is. -/
theorem step (tracks : roster.Tracks pool calls 0 []) (event : RosterEvent) :
    (roster.step event).Tracks pool (calls ++ roster.counted pool (roster.callsOn pool event)) 0 [] := by
  have silent : ∀ changed : Roster, roster.callsOn pool event = [] → changed.Tracks pool calls 0 [] →
      changed.Tracks pool (calls ++ roster.counted pool (roster.callsOn pool event)) 0 [] := by
    intro changed noCalls after
    simp only [noCalls, counted_nil, List.append_nil]
    exact after
  cases event with
  | enroll target channel => exact tracks.perform target (.enroll channel)
  | evict target channel => exact tracks.perform target (.evict channel)
  | close channel => exact tracks.close channel
  | listen channel hook => exact tracks.listen channel hook
  | openChannel handler => exact silent _ rfl (tracks.openChannel handler)
  | addPool address config => exact silent _ rfl (tracks.addPool address config)
  | setWarmUp target warmUp =>
      exact silent _ rfl (tracks.changePool target fun held => held.members_setWarmUp warmUp)
  | setCapacity target capacity => exact silent _ rfl (tracks.changePool target fun _ => rfl)
  | takeTurns target count => exact silent _ rfl (tracks.takeTurns target count)
  | advance delta => exact silent _ rfl (tracks.of_preserves (Preserves.of_channels rfl) rfl)

/-- Any number of events. -/
theorem run (tracks : roster.Tracks pool calls 0 []) (events : List RosterEvent) :
    (roster.run events).Tracks pool (calls ++ history pool roster events) 0 [] := by
  induction events generalizing roster calls with
  | nil =>
      simp only [history, List.append_nil]
      exact tracks
  | cons event rest ih =>
      rw [history, ← List.append_assoc]
      exact ih (tracks.step event)

end Tracks

/-! ### Open channels -/

theorem Preserves.runHooks (channel : Nat) (due : List CloseHook) (roster : Roster) :
    Preserves roster (roster.runHooks channel due) := by
  induction due generalizing roster with
  | nil => exact Preserves.of_channels rfl
  | cons hook rest ih => exact (Preserves.runHook roster channel hook).trans (ih _)

theorem Preserves.listen (roster : Roster) (channel : Nat) (hook : CloseHook) :
    Preserves roster (roster.listen channel hook) :=
  (Preserves.register roster channel hook).trans (Preserves.runHooks channel _ _)

/-- The open channels are those that await their closing. -/
def Latched (roster : Roster) : Prop :=
  ∀ channel, roster.isOpen channel = roster.awaits channel

namespace Latched

theorem of_preserves (latched : roster.Latched) (preserves : Preserves roster changed) :
    changed.Latched := by
  intro channel
  simp only [preserves.opens, preserves.awaits]
  exact latched channel

theorem shut (latched : roster.Latched) (channel : Nat) : (roster.shut channel).Latched := by
  intro other
  simp only [isOpen_shut, awaits_shut]
  by_cases same : other = channel
  · rw [if_pos same, decide_eq_false (not_not_intro same), Bool.and_false]
  · simp only [if_neg same, decide_eq_true same, Bool.and_true]
    exact latched other

theorem close (latched : roster.Latched) (channel : Nat) : (roster.close channel).1.Latched := by
  cases isOpen : roster.isOpen channel with
  | false =>
      simp only [close_of_not_open isOpen]
      exact latched
  | true =>
      simp only [close_of_open isOpen]
      exact (latched.shut channel).of_preserves
        ((Preserves.runHooks channel _ _).trans (Preserves.unhandle _ channel))

theorem openChannel (latched : roster.Latched) (handler : Option Nat) :
    (roster.openChannel handler).1.Latched := by
  intro other
  simp only [isOpen, awaits, closing]
  simp only [channel?_openChannel]
  by_cases isNew : other = roster.channels.length + 1
  · simp only [if_pos isNew]
    rfl
  · simp only [if_neg isNew]
    exact latched other

theorem step (latched : roster.Latched) (event : RosterEvent) : (roster.step event).Latched := by
  cases event with
  | openChannel handler => exact latched.openChannel handler
  | close channel => exact latched.close channel
  | enroll target channel => exact latched.of_preserves (Preserves.enroll roster target channel)
  | evict target channel => exact latched.of_preserves (Preserves.evict roster target channel)
  | listen channel hook => exact latched.of_preserves (Preserves.listen roster channel hook)
  | takeTurns target count =>
      refine latched.of_preserves (Preserves.of_channels ?_)
      simp only [Roster.step, takeTurns]
      split <;> rfl
  | addPool | setWarmUp | setCapacity | advance =>
      exact latched.of_preserves (Preserves.of_channels rfl)

theorem run (latched : roster.Latched) (events : List RosterEvent) : (roster.run events).Latched := by
  induction events generalizing roster with
  | nil => exact latched
  | cons event rest ih => exact ih (latched.step event)

end Latched

theorem latched_fresh : fresh.Latched := by
  intro channel
  simp only [isOpen, awaits, closing]
  by_cases isZero : channel = 0
  · simp only [isZero]
    rfl
  · rw [channel?_eq_none_of_length_lt (Nat.pos_of_ne_zero isZero)]
    rfl

theorem tracks_fresh (pool : Nat) : fresh.Tracks pool [] 0 [] :=
  ⟨rfl, List.nodup_nil, fun _ isMember => absurd isMember List.not_mem_nil,
    fun _ entry => absurd entry List.not_mem_nil, rfl⟩

/-- After any run the members of a pool are the channels that were enrolled after their last eviction and
have not closed, each once, in the order of their latest enrollments, and all of them are open.  In any
state, enrolling answers whether the channel was a stranger and evicting whether it was a member. -/
theorem members_after_run (pool : Nat) (events : List RosterEvent) {held : Pool}
    (found : (fresh.run events).pools[pool]? = some held) :
    (∀ channel, channel ∈ held.members ↔
      EnrolledIn (history pool fresh events) channel ∧
        ((fresh.run events).closing channel).isDone = false) ∧
    held.members.Nodup ∧
    held.members.Pairwise (EnteredBefore (history pool fresh events)) ∧
    (∀ channel ∈ held.members, (fresh.run events).isOpen channel = true) ∧
    held.size = held.members.length ∧
    (held.isAvailable = true ↔ ∃ channel, channel ∈ held.members) ∧
    ∀ (between : Roster) (current : Pool), between.pools[pool]? = some current → ∀ channel,
      (between.enroll pool channel).2 = decide (channel ∉ current.members) ∧
      (between.evict pool channel).2 = decide (channel ∈ current.members) := by
  have tracks := (tracks_fresh pool).run events
  have latched := latched_fresh.run events
  have members : held.members
      = (ledger (history pool fresh events)).filter (fresh.run events).awaits := by
    rw [← membersOf_of_getElem? found]
    exact tracks.members_eq
  refine ⟨?_, ?_, ?_, ?_, rfl, ?_, ?_⟩
  · intro channel
    simp only [members, List.mem_filter, mem_ledger_iff, awaits, Bool.not_eq_true']
  · rw [← membersOf_of_getElem? found]
    exact tracks.distinct
  · simp only [members]
    exact (ledger_pairwise _).filter _
  · intro channel isMember
    simp only [latched channel]
    rw [← membersOf_of_getElem? found] at isMember
    exact tracks.awaits isMember
  · simp only [Pool.isAvailable]
    simp only [Bool.not_eq_true', List.isEmpty_eq_false_iff_exists_mem]
  · intro between current isCurrent channel
    have bound : pool < between.pools.length := (List.getElem?_eq_some_iff.1 isCurrent).1
    simp only [enroll_flag, evict_flag, membersOf_of_getElem? isCurrent]
    simp only [bound, true_and, and_self]

/-- A channel returns after its removal, and while another one closes, a hook enrolls a third channel and
the one that closes. -/
def hookedClosing : List RosterEvent :=
  [.addPool { host := "relay", port := 7000 } PoolConfig.standard,
    .openChannel none, .openChannel none, .openChannel none,
    .enroll 0 1, .enroll 0 2, .evict 0 1, .enroll 0 1,
    .listen 2 (.calls 0 [.enroll 3, .enroll 2]), .close 2]

theorem members_after_hookedClosing :
    ∃ held, (fresh.run hookedClosing).pools[0]? = some held ∧ held.members = [1, 3] ∧
      (EnrolledIn (history 0 fresh hookedClosing) 3 ∧
        ((fresh.run hookedClosing).closing 3).isDone = false) ∧
      ¬ (EnrolledIn (history 0 fresh hookedClosing) 2 ∧
        ((fresh.run hookedClosing).closing 2).isDone = false) ∧
      EnteredBefore (history 0 fresh hookedClosing) 1 3 := by
  have exists' : ∃ held, (fresh.run hookedClosing).pools[0]? = some held := ⟨_, rfl⟩
  obtain ⟨held, found⟩ := exists'
  obtain ⟨contains, -, ordered, -⟩ := members_after_run 0 hookedClosing found
  have members : held.members = [1, 3] := by
    rw [← membersOf_of_getElem? found]
    decide
  refine ⟨held, found, members, ?_, ?_, ?_⟩
  · rw [← contains, members]
    decide
  · rw [← contains, members]
    decide
  · simp only [members] at ordered
    exact (List.pairwise_cons.1 ordered).1 3 (List.mem_singleton_self 3)

end Roster

end Uplink
