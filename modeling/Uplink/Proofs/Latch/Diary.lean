/-
Module: Uplink.Proofs.Latch.Diary
Purpose: Calls on latches with a diary beside them, which notes when a hook is registered, begins and ends,
  when its registration returns and when a latch is completed.
Main exports: LatchHook.name, LatchDeed, LatchWatch, LatchWatch.call, LatchWatch.ofCalls,
  LatchWatch.ofCalls_world, LatchWatch.Faithful, LatchWatch.Faithful.step
-/
import Uplink.Latch.Cascade

namespace Uplink

/-- The name of a hook: each registration of an observer has a serial number, and each future has one. -/
inductive HookName where
  | observer (serial : Nat)
  | signal (future : Nat)
deriving DecidableEq, Repr

/-- The name of a hook, whatever it does. -/
def LatchHook.name : LatchHook → HookName
  | .observer serial _ _ => .observer serial
  | .signal future => .signal future

/-- What happens to hooks and latches.  A completion says whether the call found the latch open, which is
its answer; the beginning of a run says whether the latch is done at that moment. -/
inductive LatchDeed where
  | registers (hook : HookName) (latch : Nat)
  | returns (hook : HookName) (latch : Nat)
  | completes (latch : Nat) (first : Bool)
  | begins (hook : HookName) (latch : Nat) (done : Bool)
  | ends (hook : HookName) (latch : Nat)
deriving DecidableEq, Repr

/-- Some latches and the diary of what happened to them so far. -/
structure LatchWatch where
  world : LatchWorld
  deeds : List LatchDeed

/-- Work under watch: a task of the latches, or the moment when a hook has made all its calls or when the
call that registered a hook gives its answer. -/
inductive WatchTask where
  | plain (task : LatchTask)
  | ended (hook : HookName) (latch : Nat)
  | returned (hook : HookName) (latch : Nat)

/-- The task of the latches, if it is one. -/
def WatchTask.plain? : WatchTask → Option LatchTask
  | .plain task => some task
  | _ => none

namespace LatchWatch

/-- What happens as a call begins. -/
def opening (world : LatchWorld) : LatchCall → List LatchDeed
  | .listen latch _ _ => [.registers (.observer world.registered) latch]
  | .future latch => [.registers (.signal world.futures.length) latch]
  | .complete latch => [.completes latch (world.latch latch).complete.2.1]
  | _ => []

/-- What remains to be noted when all that a call causes is done. -/
def closing (world : LatchWorld) : LatchCall → List WatchTask
  | .listen latch _ _ => [.returned (.observer world.registered) latch]
  | .future latch => [.returned (.signal world.futures.length) latch]
  | _ => []

/-- The watch right after a call began. -/
def performed (watch : LatchWatch) (call : LatchCall) : LatchWatch :=
  { world := (watch.world.perform call).world, deeds := watch.deeds ++ opening watch.world call }

/-- The work that a call causes. -/
def caused (watch : LatchWatch) (call : LatchCall) : List WatchTask :=
  (watch.world.perform call).due.map .plain ++ closing watch.world call

/-- Make a note. -/
def note (watch : LatchWatch) (deed : LatchDeed) : LatchWatch :=
  { watch with deeds := watch.deeds ++ [deed] }

/-- One piece of work under watch. -/
def step (watch : LatchWatch) : WatchTask → LatchWatch × List WatchTask
  | .plain (.run latch hook) =>
      let stepped := watch.world.step (.run latch hook)
      ({ world := stepped.1
         deeds := watch.deeds ++ [.begins hook.name latch (watch.world.latch latch).isDone] },
        stepped.2.map .plain ++ [.ended hook.name latch])
  | .plain (.make label call) =>
      (watch.performed call,
        watch.caused call ++ [.plain (.announce label (watch.world.perform call).answer)])
  | .plain (.announce label answer) =>
      ({ watch with world := (watch.world.step (.announce label answer)).1 }, [])
  | .ended hook latch => (watch.note (.ends hook latch), [])
  | .returned hook latch => (watch.note (.returns hook latch), [])

/-- The weight of a piece of work.  A task weighs twice what it does without the watch, since it may leave
one note to be made. -/
def taskWeight : WatchTask → Nat
  | .plain task => 2 * LatchWorld.taskWeight task
  | _ => 1

/-- The weight of watch and work. -/
def weight (watch : LatchWatch) (tasks : List WatchTask) : Nat :=
  2 * watch.world.weight [] + Agenda.total taskWeight tasks

theorem total_plain (tasks : List LatchTask) :
    Agenda.total taskWeight (tasks.map .plain) = 2 * Agenda.total LatchWorld.taskWeight tasks := by
  induction tasks with
  | nil => rfl
  | cons task rest ih =>
      simp only [List.map_cons, Agenda.total_cons, ih, taskWeight]
      omega

theorem total_closing (world : LatchWorld) (call : LatchCall) :
    Agenda.total taskWeight (closing world call) ≤ 1 := by
  cases call <;> simp [closing, taskWeight]

/-- Every piece of work uses up some weight. -/
theorem step_decreases (watch : LatchWatch) (task : WatchTask) (rest : List WatchTask) :
    weight (watch.step task).1 ((watch.step task).2 ++ rest) < weight watch (task :: rest) := by
  match task with
  | .plain (.run latch hook) =>
      have lighter := LatchWorld.step_decreases watch.world (.run latch hook) []
      simp only [LatchWorld.weight, Agenda.total_append, Agenda.total_cons, Agenda.total_nil] at lighter
      simp only [weight, step, LatchWorld.weight, Agenda.total_append, Agenda.total_cons,
        Agenda.total_nil, total_plain, taskWeight]
      omega
  | .plain (.make label call) =>
      have lighter := LatchWorld.perform_weight watch.world call
      have oneNote := total_closing watch.world call
      simp only [LatchWorld.weight, Agenda.total_nil] at lighter
      simp only [weight, step, performed, caused, LatchWorld.weight, Agenda.total_append,
        Agenda.total_cons, Agenda.total_nil, total_plain, taskWeight, LatchWorld.taskWeight]
      omega
  | .plain (.announce label answer) =>
      simp [weight, step, LatchWorld.step, LatchWorld.weight, LatchWorld.record, taskWeight,
        LatchWorld.taskWeight]
  | .ended hook latch => simp [weight, step, note, taskWeight]
  | .returned hook latch => simp [weight, step, note, taskWeight]

/-- Work off some work under watch. -/
def workOff (watch : LatchWatch) (tasks : List WatchTask) : LatchWatch :=
  Agenda.run step weight step_decreases watch tasks

/-- A call from outside, with all that it causes. -/
def call (watch : LatchWatch) (call : LatchCall) : LatchWatch :=
  (watch.performed call).workOff (watch.caused call)

/-- A number of open latches and an empty diary. -/
def fresh (count : Nat) : LatchWatch :=
  { world := LatchWorld.fresh count, deeds := [] }

/-- Some calls on a number of open latches, one after the other. -/
def ofCalls (count : Nat) (calls : List LatchCall) : LatchWatch :=
  calls.foldl call (fresh count)

/-! ### The latches do not notice the watch -/

theorem plain?_map (tasks : List LatchTask) :
    (tasks.map WatchTask.plain).filterMap WatchTask.plain? = tasks := by
  rw [List.filterMap_map]
  exact List.filterMap_some

theorem plain?_closing (world : LatchWorld) (call : LatchCall) :
    (closing world call).filterMap WatchTask.plain? = [] := by
  cases call <;> rfl

theorem plain?_caused (watch : LatchWatch) (call : LatchCall) :
    (watch.caused call).filterMap WatchTask.plain? = (watch.world.perform call).due := by
  rw [caused, List.filterMap_append, plain?_map, plain?_closing, List.append_nil]

/-- Work under watch does to the latches what its tasks do. -/
theorem workOff_world (watch : LatchWatch) (tasks : List WatchTask) :
    (watch.workOff tasks).world = watch.world.workOff (tasks.filterMap WatchTask.plain?) := by
  refine Agenda.run_simulates ?_ ?_ watch tasks
  · intro watch task plain isPlain
    cases task with
    | plain task =>
        cases isPlain
        cases plain with
        | run latch hook =>
            refine ⟨rfl, ?_⟩
            rw [step, List.filterMap_append, plain?_map]
            exact List.append_nil _
        | make label call =>
            refine ⟨rfl, ?_⟩
            rw [step, List.filterMap_append, plain?_caused]
            rfl
        | announce label answer => exact ⟨rfl, rfl⟩
    | ended hook latch => cases isPlain
    | returned hook latch => cases isPlain
  · intro watch task notPlain
    cases task with
    | plain task => cases notPlain
    | ended hook latch => exact ⟨rfl, rfl⟩
    | returned hook latch => exact ⟨rfl, rfl⟩

/-- A call under watch does to the latches what the call does. -/
theorem call_world (watch : LatchWatch) (call : LatchCall) :
    (watch.call call).world = (watch.world.call call).1 := by
  rw [LatchWatch.call, workOff_world, plain?_caused]
  rfl

/-- Calls under watch do to the latches what the calls do. -/
theorem ofCalls_world (count : Nat) (calls : List LatchCall) :
    (ofCalls count calls).world
      = calls.foldl (fun world call => (world.call call).1) (LatchWorld.fresh count) := by
  unfold ofCalls
  rw [show LatchWorld.fresh count = (fresh count).world from rfl]
  generalize fresh count = watch
  induction calls generalizing watch with
  | nil => rfl
  | cons call rest ih => rw [List.foldl_cons, List.foldl_cons, ih, call_world]

/-! ### The diary misses nothing -/

end LatchWatch

/-- Whether a name has been given to a hook. -/
def HookName.Given (world : LatchWorld) : HookName → Prop
  | .observer serial => serial < world.registered
  | .signal future => future < world.futures.length

namespace LatchWatch

/-- A call gives a name to the hook that it registers, and to no other one. -/
theorem given_perform_iff {world : LatchWorld} {call : LatchCall} {hook : HookName} :
    hook.Given (world.perform call).world ↔
      hook.Given world ∨ ∃ latch, .registers hook latch ∈ opening world call := by
  cases call with
  | listen place label calls =>
      cases hook with
      | observer serial =>
          have isNext : serial < world.registered + 1 ↔
              serial < world.registered ∨ serial = world.registered := Nat.lt_succ_iff_lt_or_eq
          simpa [HookName.Given, LatchWorld.perform, opening] using isNext
      | signal future =>
          simp [HookName.Given, LatchWorld.perform, LatchWorld.register, LatchWorld.setLatch, opening]
  | future place =>
      cases hook with
      | observer serial =>
          simp [HookName.Given, LatchWorld.perform, LatchWorld.register, LatchWorld.setLatch, opening]
      | signal future =>
          have isNext : future < world.futures.length + 1 ↔
              future < world.futures.length ∨ future = world.futures.length := Nat.lt_succ_iff_lt_or_eq
          simpa [HookName.Given, LatchWorld.perform, opening] using isNext
  | poll other =>
      cases hook with
      | observer serial => simp [HookName.Given, LatchWorld.perform, opening]
      | signal future =>
          simp only [HookName.Given, LatchWorld.perform, opening]
          split <;> simp
  | complete place => cases hook <;> simp [HookName.Given, LatchWorld.perform, LatchWorld.setLatch, opening]
  | isDone => simp [LatchWorld.perform, opening]
  | describe => simp [LatchWorld.perform, opening]

/-- The name of a hook that is registered was not given before. -/
theorem not_given_of_opening {world : LatchWorld} {call : LatchCall} {hook : HookName} {latch : Nat}
    (isCall : .registers hook latch ∈ opening world call) : ¬ hook.Given world := by
  cases call with
  | listen place label calls =>
      obtain ⟨rfl, rfl⟩ : hook = .observer world.registered ∧ latch = place := by
        simpa [opening] using isCall
      exact Nat.lt_irrefl _
  | future place =>
      obtain ⟨rfl, rfl⟩ : hook = .signal world.futures.length ∧ latch = place := by
        simpa [opening] using isCall
      exact Nat.lt_irrefl _
  | complete place => simp [opening] at isCall
  | isDone => cases isCall
  | describe => cases isCall
  | poll => cases isCall

/-- The run of an observer that an event shows: its serial number, and whether the latch was done. -/
def runShown? : LatchEvent → Option (Nat × Bool)
  | .ran serial _ done => some (serial, done)
  | .answered .. => none

/-- The run of an observer that a deed begins. -/
def runBegun? : LatchDeed → Option (Nat × Bool)
  | .begins (.observer serial) _ done => some (serial, done)
  | _ => none

/-- The diary has the runs that the observers show, in their order, and a registration for every hook that was
given a name. -/
structure Faithful (watch : LatchWatch) : Prop where
  runs : watch.world.events.filterMap runShown? = watch.deeds.filterMap runBegun?
  names : ∀ hook : HookName, hook.Given watch.world ↔ ∃ latch, .registers hook latch ∈ watch.deeds

variable {watch : LatchWatch}

theorem faithful_fresh (count : Nat) : (fresh count).Faithful where
  runs := rfl
  names hook := by cases hook <;> simp [HookName.Given, fresh, LatchWorld.fresh]

theorem perform_events (world : LatchWorld) (call : LatchCall) :
    (world.perform call).world.events = world.events := by
  cases call <;> rfl

theorem Faithful.performed (faithful : watch.Faithful) (call : LatchCall) :
    (watch.performed call).Faithful where
  runs := by
    have noRun : (opening watch.world call).filterMap runBegun? = [] := by cases call <;> rfl
    rw [LatchWatch.performed, perform_events, List.filterMap_append, noRun, List.append_nil]
    exact faithful.runs
  names hook := by
    simp only [LatchWatch.performed, given_perform_iff, faithful.names, List.mem_append, exists_or]

/-- What is no call adds nothing to the names. -/
theorem Faithful.names_of_noted (faithful : watch.Faithful) {next : LatchWatch} {noted : List LatchDeed}
    (given : ∀ hook : HookName, hook.Given next.world ↔ hook.Given watch.world)
    (isNoted : next.deeds = watch.deeds ++ noted) (noCall : ∀ hook latch, .registers hook latch ∉ noted)
    (hook : HookName) : hook.Given next.world ↔ ∃ latch, .registers hook latch ∈ next.deeds := by
  simp only [given, isNoted, faithful.names, List.mem_append, noCall, or_false]

/-- All work keeps the diary faithful. -/
theorem Faithful.step (faithful : watch.Faithful) (task : WatchTask) : (watch.step task).1.Faithful := by
  match task with
  | .plain (.run latch (.observer serial label calls)) =>
      refine ⟨?_, faithful.names_of_noted (fun _ => .rfl) rfl (by simp)⟩
      simp [LatchWatch.step, LatchWorld.step, LatchWorld.record, faithful.runs, runShown?, runBegun?,
        LatchHook.name]
  | .plain (.run latch (.signal future)) =>
      refine ⟨?_, faithful.names_of_noted (fun hook => ?_) rfl (by simp)⟩
      · simp [LatchWatch.step, LatchWorld.step, faithful.runs, runBegun?, LatchHook.name]
      · cases hook <;> simp [HookName.Given, LatchWatch.step, LatchWorld.step]
  | .plain (.make label call) => exact faithful.performed call
  | .plain (.announce label answer) =>
      refine ⟨?_, faithful.names⟩
      simp [LatchWatch.step, LatchWorld.step, LatchWorld.record, faithful.runs, runShown?]
  | .ended hook latch =>
      refine ⟨?_, faithful.names_of_noted (fun _ => .rfl) rfl (by simp)⟩
      simp [LatchWatch.step, note, faithful.runs, runBegun?]
  | .returned hook latch =>
      refine ⟨?_, faithful.names_of_noted (fun _ => .rfl) rfl (by simp)⟩
      simp [LatchWatch.step, note, faithful.runs, runBegun?]

end LatchWatch

end Uplink
