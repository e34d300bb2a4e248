/-
Module: Uplink.Proofs.Fabric.Outline
Purpose: The outline of a fabric: the links, pools, retries, attempts and switches, and of each watchdog only
  what it decides by.  Everything that retries depend on is in it.
Main exports: Post, Outline, Outline.wants, Outline.lose, Outline.close, Outline.establish, Outline.settle,
  Outline.fire, Outline.turnSwitch, Fabric.outline, Fabric.Shows, Fabric.Steady, Fabric.Quiet
-/
import Uplink.Fabric.Run
import Uplink.Proofs.Pool.Tidy
import Uplink.Proofs.Time.Timer
import Uplink.Proofs.Watchdog.Notifier

namespace Uplink

/-- What a watchdog decides by. -/
structure Post where
  address : Address
  pool : Option Nat
  started : Bool
  pending : Option Nat

/-- A stopped watchdog remembers no timer handle. -/
def Post.atRest (post : Post) : Post :=
  { post with started := false, pending := none }

/-- The watchdog without its listeners, its notifier and its count of attempts. -/
def Watchdog.post (watchdog : Watchdog) : Post :=
  { address := watchdog.address
    pool := watchdog.pool
    started := watchdog.started
    pending := watchdog.pending }

/-- The outline of a fabric.  `links` holds, for each channel that is open, the watchdog that handles it;
`attempts` the watchdogs and origins of the attempts under way; `dials` the addresses of all attempts so
far; `switches` the address and the switch of each connection. -/
structure Outline where
  links : List (Option Nat)
  members : Nat → List Nat
  capacity : Nat → Option Nat
  timer : ManualTimer Nat
  posts : List Post
  attempts : List (Nat × Origin)
  dials : List Address
  switches : List (Address × Option ReconnectSwitch)

namespace Outline

/-! ### Watchdogs -/

/-- Change a watchdog. -/
def change (outline : Outline) (number : Nat) (change : Post → Post) : Outline :=
  { outline with posts := outline.posts.modify number change }

/-- Start a watchdog. -/
def start (outline : Outline) (number : Nat) : Outline :=
  outline.change number fun post => { post with started := true }

/-- Cancel the task of a timer handle, if there is one. -/
def cancelPending (outline : Outline) : Option Nat → Outline
  | some handle => { outline with timer := outline.timer.cancel handle }
  | none => outline

/-- Stop a watchdog. -/
def stop (outline : Outline) (number : Nat) : Outline :=
  match outline.posts[number]? with
  | none => outline
  | some post =>
      (outline.cancelPending post.pending).change number Post.atRest

/-- Turn the switch of a connection. -/
def turnSwitch (outline : Outline) (connection : Nat) (enabled : Bool) : Outline :=
  match outline.switches[connection]? with
  | some (_, some (.watchdog number)) =>
      if enabled then outline.start number else outline.stop number
  | _ => outline

/-- Whether a pool has room; one that does not exist has. -/
def hasRoom (outline : Outline) (pool : Nat) : Bool :=
  match outline.capacity pool with
  | some capacity => decide ((outline.members pool).length < capacity)
  | none => true

/-- Whether a watchdog wants another channel. -/
def wants (outline : Outline) (post : Post) : Bool :=
  post.started && match post.pool with
    | some pool => outline.hasRoom pool
    | none => true

/-- Schedule an attempt of a watchdog. -/
def schedule (outline : Outline) (number : Nat) : Outline :=
  match outline.timer.schedule Span.zero number with
  | .error _ => outline
  | .ok (timer, handle) =>
      ({ outline with timer }).change number fun post => { post with pending := some handle }

/-- A link is gone, or an attempt has failed. -/
def lose (outline : Outline) (number : Nat) : Outline :=
  match outline.posts[number]? with
  | none => outline
  | some post => if outline.wants post then outline.schedule number else outline

/-! ### Channels -/

/-- The watchdog that handles a channel, if the channel is open. -/
def link? (outline : Outline) (channel : Nat) : Option Nat :=
  if channel = 0 then none else (outline.links[channel - 1]?).join

/-- A channel has closed and left every pool. -/
def shut (outline : Outline) (channel : Nat) : Outline :=
  { outline with
    links := outline.links.set (channel - 1) none
    members := fun pool => (outline.members pool).filter (· ≠ channel) }

/-- Close a channel. -/
def close (outline : Outline) (channel : Nat) : Outline :=
  match outline.link? channel with
  | none => outline
  | some number => (outline.shut channel).lose number

/-- The pool that a watchdog enrolls its channels in. -/
def poolOf (outline : Outline) (number : Nat) : Option Nat :=
  (outline.posts[number]?).bind Post.pool

/-- Enroll a channel that is no member in a pool. -/
def enroll (outline : Outline) (pool channel : Nat) : Outline :=
  { outline with
    members := fun other =>
      if other = pool ∧ (outline.capacity pool).isSome then outline.members pool ++ [channel]
      else outline.members other }

/-- A channel comes up for a watchdog. -/
def up (outline : Outline) (number : Nat) : Outline :=
  let opened : Outline := { outline with links := outline.links ++ [some number] }
  match outline.poolOf number with
  | some pool => opened.enroll pool (outline.links.length + 1)
  | none => opened

/-- A channel comes up for a watchdog, and closes again at once if it flaps. -/
def establish (outline : Outline) (number : Nat) (flaps : Bool) : Outline :=
  if flaps then (outline.up number).close (outline.links.length + 1) else outline.up number

/-! ### Attempts -/

/-- An attempt of a watchdog is under way from here on. -/
def dial (outline : Outline) (number : Nat) (origin : Origin) : Outline :=
  match outline.posts[number]? with
  | none => outline
  | some post =>
      { outline with
        attempts := outline.attempts ++ [(number, origin)]
        dials := outline.dials ++ [post.address] }

/-- The timer calls for an attempt. -/
def retry (outline : Outline) (number : Nat) : Outline :=
  match outline.posts[number]? with
  | none => outline
  | some post => if outline.wants post then outline.dial number .retry else outline

/-- An attempt ends, that is not among those under way any more. -/
def conclude (outline : Outline) (number : Nat) (origin : Origin) : Outcome → Outline
  | .established => outline.establish number false
  | .flapped => outline.establish number true
  | .failed _ =>
      match origin with
      | .retry => outline.lose number
      | .caller => outline

/-- End the attempt at a place among those under way. -/
def settle (outline : Outline) (place : Nat) (outcome : Outcome) : Outline :=
  match outline.attempts[place]? with
  | none => outline
  | some (number, origin) =>
      ({ outline with attempts := outline.attempts.eraseIdx place }).conclude number origin outcome

/-- Take the timer's entry at an index off; a task that was not cancelled calls for an attempt. -/
def fire (outline : Outline) (index : Nat) : Outline :=
  let released : Outline := { outline with timer := (outline.timer.release index).1 }
  match (outline.timer.release index).2.join with
  | some number => released.retry number
  | none => released

end Outline

/-- The address and the switch of a connection. -/
def Connection.binding {Listener Switch : Type} (connection : Connection Listener Switch) :
    Address × Option Switch :=
  (connection.address, connection.switch)

/-- The outline of a fabric. -/
def Fabric.outline (fabric : Fabric) : Outline :=
  { links := fabric.roster.links
    members := fabric.roster.membersOf
    capacity := fabric.roster.capacityOf
    timer := fabric.timer.undated
    posts := fabric.watchdogs.map Watchdog.post
    attempts := fabric.underWay.map fun attempt => (attempt.watchdog, attempt.origin)
    dials := fabric.roster.dials
    switches := fabric.connections.map Connection.binding }

/-- Changing one entry of a list and looking at the whole. -/
theorem map_modify {First Second : Type} {view : First → Second} {change : First → First}
    {shown : Second → Second} (agree : ∀ entry, view (change entry) = shown (view entry))
    (entries : List First) (place : Nat) :
    (entries.modify place change).map view = (entries.map view).modify place shown := by
  apply List.ext_getElem?
  intro other
  simp only [List.getElem?_map, List.getElem?_modify]
  cases entries[other]? with
  | none => rfl
  | some entry =>
      dsimp only [Option.map_eq_map, Option.map_some]
      split
      · simp only [agree]
      · rfl

/-- Changing one entry of a list where the view does not show it. -/
theorem map_modify_of_same {First Second : Type} (view : First → Second) (change : First → First)
    (same : ∀ entry, view (change entry) = view entry) (entries : List First) (place : Nat) :
    (entries.modify place change).map view = entries.map view := by
  have agree : ∀ entry, view (change entry) = id (view entry) := same
  simp only [map_modify agree, List.modify_id]

/-! ### Fabrics in which nothing but retries goes on -/

/-- No news is held at the gate for an observer. -/
def Notifier.Unheld (notifier : Notifier SuccessNews) : Prop :=
  ∀ worker ∈ notifier.workers,
    (∀ news ∈ worker.queue, news.held = none) ∧ ∀ news, worker.running = some news → news.held = none

/-- The listeners of a watchdog do nothing but complete connections. -/
structure Watchdog.Plain (watchdog : Watchdog) : Prop where
  listeners : ∀ listener ∈ watchdog.listeners, ∃ connection, listener = .completion connection
  unheld : watchdog.notifier.Unheld

/-- A watchdog is plain for its listeners and for what its workers are at. -/
theorem Watchdog.Plain.of_same {before after : Watchdog} (plain : before.Plain)
    (listeners : after.listeners = before.listeners)
    (workers : after.notifier.workers = before.notifier.workers) : after.Plain := by
  refine ⟨?_, ?_⟩
  · rw [listeners]
    exact plain.listeners
  · rw [Notifier.Unheld, workers]
    exact plain.unheld

/-- The fabric is tidy and plain, and has a certain outline. -/
structure Fabric.Shows (fabric : Fabric) (outline : Outline) : Prop where
  tidy : fabric.roster.Tidy
  plain : ∀ watchdog ∈ fabric.watchdogs, watchdog.Plain
  outlineEq : fabric.outline = outline

/-- A change that leaves alone whom watchdogs tell and what connections show. -/
structure Fabric.Steady (fabric changed : Fabric) : Prop where
  nexts : changed.watchdogs.map Watchdog.next = fabric.watchdogs.map Watchdog.next
  flags : changed.connections.map Connection.connected = fabric.connections.map Connection.connected

/-- A steady change that the outline does not show. -/
structure Fabric.Quiet (fabric changed : Fabric) : Prop extends Fabric.Steady fabric changed where
  channels : changed.roster.channels = fabric.roster.channels
  pools : changed.roster.pools = fabric.roster.pools
  dials : changed.roster.dials = fabric.roster.dials
  timer : changed.timer = fabric.timer
  posts : changed.watchdogs.map Watchdog.post = fabric.watchdogs.map Watchdog.post
  underWay : changed.underWay = fabric.underWay
  switches : changed.connections.map Connection.binding = fabric.connections.map Connection.binding
  plain : (∀ watchdog ∈ fabric.watchdogs, watchdog.Plain) → ∀ watchdog ∈ changed.watchdogs, watchdog.Plain

namespace Notifier

variable {notifier : Notifier SuccessNews}

theorem unheld_make (capacity : Nat) : (make capacity : Notifier SuccessNews).Unheld :=
  every_make capacity _

theorem Unheld.submit (unheld : notifier.Unheld) {news : SuccessNews} (isFree : news.held = none) :
    (notifier.submit news).1.Unheld :=
  Every.submit unheld isFree

theorem Unheld.finish (unheld : notifier.Unheld) (number : Nat) : (notifier.finish number).Unheld :=
  Every.finish unheld number

theorem Unheld.begin (unheld : notifier.Unheld) (number : Nat) : (notifier.begin number).1.Unheld :=
  (Every.begin unheld number).1

end Notifier

namespace Fabric

variable {fabric changed : Fabric}

/-- Putting a connection into its place that looks the same. -/
theorem map_set_of_same {Shown : Type} {view : Connection Nat ReconnectSwitch → Shown} {number : Nat}
    {found other : Connection Nat ReconnectSwitch} (isThere : fabric.connections[number]? = some found)
    (same : view other = view found) :
    (fabric.connections.set number other).map view = fabric.connections.map view := by
  obtain ⟨bound, isFound⟩ := List.getElem?_eq_some_iff.1 isThere
  rw [List.map_set, same, ← isFound, ← List.getElem_map view, List.set_getElem_self]
  rwa [List.length_map]

namespace Steady

theorem refl (fabric : Fabric) : Steady fabric fabric := ⟨rfl, rfl⟩

theorem trans {last : Fabric} (first : Steady fabric changed) (second : Steady changed last) :
    Steady fabric last :=
  ⟨second.nexts.trans first.nexts, second.flags.trans first.flags⟩

theorem log (fabric : Fabric) (line : LogLine) : Steady fabric (fabric.log line) := ⟨rfl, rfl⟩

theorem record (fabric : Fabric) (event : Event) : Steady fabric (fabric.record event) := ⟨rfl, rfl⟩

theorem changeWatchdog (fabric : Fabric) (number : Nat) {change : Watchdog → Watchdog}
    (same : ∀ watchdog, (change watchdog).next = watchdog.next) :
    Steady fabric (fabric.changeWatchdog number change) :=
  ⟨map_modify_of_same Watchdog.next change same fabric.watchdogs number, rfl⟩

/-- Putting a connection into a place where one was that showed the same. -/
theorem setConnection {number : Nat} {found other : Connection Nat ReconnectSwitch}
    (isThere : fabric.connections[number]? = some found) (same : other.connected = found.connected) :
    Steady fabric { fabric with connections := fabric.connections.set number other } :=
  ⟨rfl, map_set_of_same isThere same⟩

end Steady

namespace Quiet

theorem refl (fabric : Fabric) : Quiet fabric fabric :=
  ⟨Steady.refl fabric, rfl, rfl, rfl, rfl, rfl, rfl, rfl, id⟩

theorem trans {last : Fabric} (first : Quiet fabric changed) (second : Quiet changed last) :
    Quiet fabric last :=
  ⟨first.toSteady.trans second.toSteady, second.channels.trans first.channels,
    second.pools.trans first.pools, second.dials.trans first.dials, second.timer.trans first.timer,
    second.posts.trans first.posts, second.underWay.trans first.underWay,
    second.switches.trans first.switches, fun plain => second.plain (first.plain plain)⟩

theorem log (fabric : Fabric) (line : LogLine) : Quiet fabric (fabric.log line) :=
  ⟨Steady.log fabric line, rfl, rfl, rfl, rfl, rfl, rfl, rfl, id⟩

/-- An observation that is no attempt to connect does not show. -/
theorem record (fabric : Fabric) {event : Event} (noDial : ∀ address, event ≠ .connecting address) :
    Quiet fabric (fabric.record event) :=
  ⟨Steady.record fabric event, rfl, rfl, Roster.dials_record fabric.roster noDial, rfl, rfl, rfl, rfl, id⟩

/-- A change of a watchdog that touches neither what it decides by nor whom it tells. -/
theorem changeWatchdog (fabric : Fabric) (number : Nat) {change : Watchdog → Watchdog}
    (next : ∀ watchdog, (change watchdog).next = watchdog.next)
    (same : ∀ watchdog, (change watchdog).post = watchdog.post)
    (keeps : ∀ watchdog ∈ fabric.watchdogs, watchdog.Plain → (change watchdog).Plain) :
    Quiet fabric (fabric.changeWatchdog number change) := by
  refine ⟨Steady.changeWatchdog fabric number next, rfl, rfl, rfl, rfl, ?_, rfl, rfl, ?_⟩
  · exact map_modify_of_same Watchdog.post change same fabric.watchdogs number
  · intro plain watchdog isWatchdog
    obtain ⟨place, isThere⟩ := List.mem_iff_getElem?.1 isWatchdog
    simp only [Fabric.changeWatchdog] at isThere
    simp only [List.getElem?_modify] at isThere
    obtain ⟨before, isBefore, isSame⟩ := Option.map_eq_some_iff.1 isThere
    have isMember := List.mem_of_getElem? isBefore
    rw [← isSame]
    split
    · exact keeps before isMember (plain before isMember)
    · exact plain before isMember

theorem reportCompletion (number : Nat) (listeners : List Nat) (fabric : Fabric) :
    Quiet fabric (fabric.reportCompletion number listeners) := by
  simp only [Fabric.reportCompletion]
  induction listeners generalizing fabric with
  | nil => exact refl fabric
  | cons listener rest ih => exact (record fabric (by simp)).trans (ih _)

/-- Putting a connection into its place that shows the same and has the same address and switch. -/
theorem setConnection {number : Nat} {found other : Connection Nat ReconnectSwitch}
    (isThere : fabric.connections[number]? = some found) (flag : other.connected = found.connected)
    (same : other.binding = found.binding) :
    Quiet fabric { fabric with connections := fabric.connections.set number other } :=
  ⟨Steady.setConnection isThere flag, rfl, rfl, rfl, rfl, rfl, rfl, map_set_of_same isThere same, id⟩

theorem completeConnection (fabric : Fabric) (number : Nat) :
    Quiet fabric (fabric.completeConnection number) := by
  simp only [Fabric.completeConnection]
  cases isThere : fabric.connections[number]? with
  | none => exact refl fabric
  | some found =>
      have flag : found.setComplete.1.connected = found.connected := rfl
      have same : found.setComplete.1.binding = found.binding := rfl
      exact (setConnection isThere flag same).trans (reportCompletion number _ _)

theorem addCompletionListener (fabric : Fabric) (number listener : Nat) :
    Quiet fabric (fabric.addCompletionListener number listener) := by
  simp only [Fabric.addCompletionListener]
  cases isThere : fabric.connections[number]? with
  | none => exact refl fabric
  | some found =>
      have flag : (found.addListener listener).1.connected = found.connected := rfl
      have same : (found.addListener listener).1.binding = found.binding := rfl
      exact (setConnection isThere flag same).trans (reportCompletion number _ _)

/-- A change of a notifier that lets no news be held. -/
theorem changeNotifier (fabric : Fabric) (number : Nat)
    {change : Notifier SuccessNews → Notifier SuccessNews}
    (keeps : ∀ watchdog ∈ fabric.watchdogs, watchdog.notifier.Unheld → (change watchdog.notifier).Unheld) :
    Quiet fabric (fabric.changeNotifier number change) :=
  changeWatchdog fabric number (fun _ => rfl) (fun _ => rfl) fun watchdog isWatchdog plain =>
    ⟨plain.listeners, keeps watchdog isWatchdog plain.unheld⟩

theorem notifySuccess (number : Nat) (attempts : UInt32)
    (plain : ∀ watchdog ∈ fabric.watchdogs, watchdog.Plain) :
    Quiet fabric (fabric.notifySuccess number attempts) := by
  simp only [Fabric.notifySuccess]
  cases isThere : fabric.watchdogs[number]? with
  | none => exact refl fabric
  | some watchdog =>
      dsimp only
      split
      · have isPlain := plain watchdog (List.mem_of_getElem? isThere)
        have passed : Quiet fabric (fabric.changeNotifier number fun _ =>
            (watchdog.notifier.submit { attempts, held := none }).1) :=
          changeNotifier fabric number fun _ _ _ => isPlain.unheld.submit rfl
        split
        · exact passed
        · exact passed.trans (log _ _)
      · exact refl fabric

/-- A success is only logged and passed on. -/
theorem succeeded (plain : ∀ watchdog ∈ fabric.watchdogs, watchdog.Plain) (attempt : Attempt)
    (channel : Nat) : Quiet fabric (fabric.succeeded attempt channel) := by
  have told : ∀ logged : Fabric, Quiet fabric logged →
      Quiet fabric (logged.notifySuccess attempt.watchdog attempt.attempts) := by
    intro logged quiet
    exact quiet.trans (notifySuccess _ _ (quiet.plain plain))
  simp only [Fabric.succeeded]
  apply told
  split
  · exact log fabric _
  · exact refl fabric

/-- A worker that has only connections to complete. -/
theorem tellOnWorker (number worker : Nat) (attempts : UInt32) (listeners : List Listener)
    (completions : ∀ listener ∈ listeners, ∃ connection, listener = .completion connection)
    (fabric : Fabric) : Quiet fabric (fabric.tellOnWorker number worker attempts listeners) := by
  induction listeners generalizing fabric with
  | nil => exact changeNotifier fabric number fun _ _ unheld => unheld.finish worker
  | cons listener rest ih =>
      obtain ⟨connection, isCompletion⟩ := completions listener List.mem_cons_self
      simp only [isCompletion, Fabric.tellOnWorker]
      exact (completeConnection fabric connection).trans
        (ih (fun other isOther => completions other (List.mem_cons_of_mem _ isOther)) _)

theorem beginNews {watchdog : Watchdog} (number worker : Nat) (isPlain : watchdog.Plain) :
    Quiet fabric (fabric.beginNews number worker watchdog) := by
  have begun := isPlain.unheld.begin worker
  unfold Fabric.beginNews
  split
  · exact refl fabric
  · rename_i notifier news isBegun
    simp only [isBegun] at begun
    have taken : Quiet fabric (fabric.changeNotifier number fun _ => notifier) :=
      changeNotifier fabric number fun _ _ _ => begun
    dsimp only
    split
    · exact taken.trans (tellOnWorker number worker _ _ isPlain.listeners _)
    · exact taken.trans (changeNotifier _ number fun _ _ unheld => unheld.finish worker)

theorem workerStep (number worker : Nat) (plain : ∀ watchdog ∈ fabric.watchdogs, watchdog.Plain) :
    Quiet fabric (fabric.workerStep number worker) := by
  simp only [Fabric.workerStep]
  cases isThere : fabric.watchdogs[number]? with
  | none => exact refl fabric
  | some watchdog =>
      have isPlain := plain watchdog (List.mem_of_getElem? isThere)
      dsimp only
      split
      · rename_i attempts observer rest isRunning
        obtain ⟨found, isWorker, runs⟩ := Option.bind_eq_some_iff.1 isRunning
        exact nomatch (isPlain.unheld found (List.mem_of_getElem? isWorker)).2 _ runs
      · exact beginNews number worker isPlain

end Quiet

theorem Shows.of_quiet {outline : Outline} (shows : fabric.Shows outline) (quiet : Quiet fabric changed) :
    changed.Shows outline := by
  have members : changed.roster.membersOf = fabric.roster.membersOf := by
    funext pool
    simp only [Roster.membersOf, quiet.pools]
  have capacity : changed.roster.capacityOf = fabric.roster.capacityOf := by
    funext pool
    simp only [Roster.capacityOf, quiet.pools]
  have links : changed.roster.links = fabric.roster.links := by
    simp only [Roster.links, quiet.channels]
  refine ⟨shows.tidy.of_same quiet.channels members, quiet.plain shows.plain, ?_⟩
  rw [← shows.outlineEq]
  simp only [Fabric.outline]
  simp only [members, capacity, links, quiet.dials, quiet.timer, quiet.posts, quiet.underWay, quiet.switches]

/-- What a connection shows of its channel is not in the outline. -/
theorem Shows.setConnected {outline : Outline} (shows : fabric.Shows outline) (number : Nat)
    (connected : Bool) : (fabric.setConnected number connected).Shows outline := by
  have same : ∀ found : Connection Nat ReconnectSwitch,
      (found.setConnected connected).binding = found.binding := fun _ => rfl
  refine ⟨shows.tidy, shows.plain, ?_⟩
  rw [← shows.outlineEq]
  simp only [Fabric.setConnected, Fabric.outline]
  simp only [map_modify_of_same Connection.binding _ same]

/-- The handlers behind a watchdog are told of a channel. -/
theorem Shows.tellNext {outline : Outline} (shows : fabric.Shows outline) (next : NextHandler)
    (channel : Nat) (notice : ChannelNotice) :
    (fabric.tellNext next channel notice).Shows outline := by
  cases next with
  | nobody => exact shows
  | recorder name => exact shows.of_quiet (Quiet.record fabric (by simp))
  | tracker number application =>
      have noted : (fabric.tellNext (.tracker number none) channel notice).Shows outline := by
        simp only [Fabric.tellNext]
        split
        · exact shows.setConnected number true
        · exact shows.setConnected number false
        · exact shows
      cases application with
      | none => exact noted
      | some name => exact noted.of_quiet (Quiet.record _ (by simp))

/-- Telling listeners of a failure, none of whom cares. -/
theorem notifyFailure_of_plain (plain : ∀ watchdog ∈ fabric.watchdogs, watchdog.Plain) (number : Nat)
    (attempts : UInt32) : fabric.notifyFailure number attempts = fabric := by
  have untold : ∀ listeners : List Listener,
      (∀ listener ∈ listeners, ∃ connection, listener = .completion connection) →
      listeners.foldl (fun changed listener => changed.tell number false attempts false listener) fabric
        = fabric := by
    intro listeners completions
    induction listeners with
    | nil => rfl
    | cons listener rest ih =>
        obtain ⟨connection, isCompletion⟩ := completions listener List.mem_cons_self
        simp only [List.foldl_cons, isCompletion]
        exact ih fun other isOther => completions other (List.mem_cons_of_mem _ isOther)
  simp only [notifyFailure]
  cases isThere : fabric.watchdogs[number]? with
  | none => rfl
  | some watchdog => exact untold _ (plain watchdog (List.mem_of_getElem? isThere)).listeners

end Fabric

end Uplink
