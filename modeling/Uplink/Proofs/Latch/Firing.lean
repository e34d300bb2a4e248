/-
Module: Uplink.Proofs.Latch.Firing
Purpose: Hooks of latches fire exactly once, whatever calls they make themselves when they run.  What has
  happened and what is due make a plan, which only grows, by what each call adds at the point it has reached.
Main exports: LatchWatch.plan, LatchWatch.added, LatchWatch.registration, LatchWatch.completion,
  LatchWatch.adds_added, LatchWatch.Orderly, LatchWatch.Orderly.step, LatchWatch.firesOnce_ofCalls
-/
import Uplink.Proofs.Latch.Chronicle

namespace Uplink

namespace LatchWatch

open LatchDeed

/-- The deeds that a piece of work is sure to bring. -/
def foreseen : WatchTask → List LatchDeed
  | .plain (.run latch hook) => [.begins hook.name latch true, .ends hook.name latch]
  | .plain _ => []
  | .ended hook latch => [.ends hook latch]
  | .returned hook latch => [.returns hook latch]

/-- The deeds that have been done and those that are due. -/
def plan (watch : LatchWatch) (tasks : List WatchTask) : List LatchDeed :=
  watch.deeds ++ tasks.flatMap foreseen

/-- What a call adds to the plan. -/
def added (watch : LatchWatch) (call : LatchCall) : List LatchDeed :=
  opening watch.world call ++ (watch.caused call).flatMap foreseen

theorem plan_performed (watch : LatchWatch) (call : LatchCall) (rest : List WatchTask) :
    plan (watch.performed call) (watch.caused call ++ rest) =
      watch.deeds ++ watch.added call ++ rest.flatMap foreseen := by
  simp [plan, performed, added, List.append_assoc]

/-- No call is due: what it does is known only when it is made. -/
theorem not_calls_of_foreseen {tasks : List WatchTask} :
    ∀ deed ∈ tasks.flatMap foreseen, ¬ deed.Calls := by
  intro deed isForeseen
  obtain ⟨task, -, isDeed⟩ := List.mem_flatMap.mp isForeseen
  match task with
  | .plain (.run latch hook) =>
      obtain rfl | rfl : deed = .begins hook.name latch true ∨ deed = .ends hook.name latch := by
        simpa [foreseen] using isDeed
      · exact id
      · exact id
  | .plain (.make label call) => cases isDeed
  | .plain (.announce label answer) => cases isDeed
  | .ended hook latch =>
      obtain rfl := List.mem_singleton.mp isDeed
      exact id
  | .returned hook latch =>
      obtain rfl := List.mem_singleton.mp isDeed
      exact id

/-- Hooks that are handed out will run one after the other. -/
theorem foreseen_runs (latch : Nat) (hooks : List LatchHook) :
    ((hooks.map (LatchTask.run latch)).map WatchTask.plain).flatMap foreseen =
      runsOf latch (hooks.map LatchHook.name) := by
  rw [runsOf, List.flatMap_map, List.flatMap_map, List.flatMap_map]
  rfl

/-- What registering a hook adds to the plan: its run, if it is due at once, stands between its registration
and the return of the call. -/
def registration (world : LatchWorld) (place : Nat) (hook : LatchHook) : List LatchDeed :=
  .registers hook.name place ::
    runsOf place (((world.latch place).listen hook).2.map LatchHook.name) ++ [.returns hook.name place]

/-- What completing a latch adds to the plan: the runs of the hooks that waited. -/
def completion (world : LatchWorld) (place : Nat) : List LatchDeed :=
  .completes place (world.latch place).complete.2.1 ::
    runsOf place ((world.latch place).complete.2.2.map LatchHook.name)

theorem added_listen (watch : LatchWatch) (place : Nat) (label : String) (calls : List LatchCall) :
    watch.added (.listen place label calls) =
      registration watch.world place (.observer watch.world.registered label calls) := by
  rw [added, caused, List.flatMap_append, registration, ← foreseen_runs]
  rfl

theorem added_future (watch : LatchWatch) (place : Nat) :
    watch.added (.future place) =
      registration watch.world place (.signal watch.world.futures.length) := by
  rw [added, caused, List.flatMap_append, registration, ← foreseen_runs]
  rfl

theorem added_complete (watch : LatchWatch) (place : Nat) :
    watch.added (.complete place) = completion watch.world place := by
  rw [added, caused, List.flatMap_append, completion, ← foreseen_runs]
  exact congrArg (LatchDeed.completes place _ :: ·) (List.append_nil _)

theorem latch_setLatch_of_ne {world : LatchWorld} {place latch : Nat} (other : latch ≠ place)
    (state : Latch LatchHook) : (world.setLatch place state).latch latch = world.latch latch := by
  simp [LatchWorld.latch, LatchWorld.setLatch, Ne.symm other]

/-- A latch that is open has a place, where another state can be put. -/
theorem latch_setLatch_of_waiting {world : LatchWorld} {place : Nat} {hooks : List LatchHook}
    (isOpen : world.latch place = .waiting hooks) (state : Latch LatchHook) :
    (world.setLatch place state).latch place = state := by
  have inside : place < world.latches.length := by
    by_contra outside
    simp [LatchWorld.latch, List.getElem?_eq_none (Nat.le_of_not_lt outside)] at isOpen
  simp [LatchWorld.latch, LatchWorld.setLatch, inside]

/-- A latch that is put down as done is done, also one that does not exist. -/
theorem latch_setLatch_done (world : LatchWorld) (place : Nat) :
    (world.setLatch place .done).latch place = .done := by
  by_cases inside : place < world.latches.length
  · simp [LatchWorld.latch, LatchWorld.setLatch, inside]
  · simp [LatchWorld.latch, LatchWorld.setLatch, inside]

/-- A registration waits if the latch is open, and is late if it is done. -/
theorem adds_registration (world : LatchWorld) (place : Nat) (hook : LatchHook) (latch : Nat) :
    Adds latch (world.latch latch) (registration world place hook)
      ((world.register place hook).1.latch latch) := by
  unfold LatchWorld.register registration
  by_cases same : latch = place
  · subst same
    cases state : world.latch latch with
    | waiting hooks =>
        simp only [Latch.listen]
        rw [latch_setLatch_of_waiting state]
        refine .waits ?_ ?_
        · simp [LatchDeed.Fires, runsOf]
        · simp [registeredOn, runsOf]
    | done =>
        simp only [Latch.listen]
        rw [latch_setLatch_done]
        refine .late ⟨?_, ?_, ?_, ?_⟩
        · simp [runsOf]
        · simp [runsOf]
        · simp [runsOf]
        · simp [runsOf, List.count_cons]
  · rw [latch_setLatch_of_ne same]
    refine Adds.elsewhere (fun deed isDeed => ?_) _
    simp only [List.cons_append, List.mem_cons, List.mem_append, List.not_mem_nil, or_false,
      mem_runsOf] at isDeed
    obtain rfl | ⟨_, -, rfl | rfl⟩ | rfl := isDeed
    all_goals exact Ne.symm same

/-- A completion fires if the latch is open, and adds no more than its answer if it is done. -/
theorem adds_completion (world : LatchWorld) (place latch : Nat) :
    Adds latch (world.latch latch) (completion world place)
      ((world.setLatch place (world.latch place).complete.1).latch latch) := by
  unfold completion
  by_cases same : latch = place
  · subst same
    cases state : world.latch latch with
    | waiting hooks =>
        simp only [Latch.complete]
        rw [latch_setLatch_of_waiting state]
        exact .fires
    | done =>
        simp only [Latch.complete]
        rw [latch_setLatch_done]
        refine .late ⟨?_, ?_, ?_, ?_⟩
        · simp [runsOf]
        · simp [runsOf]
        · simp [runsOf]
        · simp [runsOf]
  · rw [latch_setLatch_of_ne same]
    refine Adds.elsewhere (fun deed isDeed => ?_) _
    simp only [List.mem_cons, mem_runsOf] at isDeed
    obtain rfl | ⟨_, -, rfl | rfl⟩ := isDeed
    all_goals exact Ne.symm same

/-- What a call adds to the plan is right for every latch. -/
theorem adds_added (watch : LatchWatch) (call : LatchCall) (latch : Nat) :
    Adds latch (watch.world.latch latch) (watch.added call)
      ((watch.world.perform call).world.latch latch) := by
  have nothing : Adds latch (watch.world.latch latch) [] (watch.world.latch latch) :=
    Adds.elsewhere (by simp) _
  cases call with
  | listen place label calls =>
      rw [added_listen]
      exact adds_registration ..
  | future place =>
      rw [added_future]
      exact adds_registration ..
  | complete place =>
      rw [added_complete]
      exact adds_completion ..
  | isDone => exact nothing
  | describe => exact nothing
  | poll => exact nothing

/-! ### What all work keeps -/

theorem balanced_runsOf (latch : Nat) (hooks : List HookName) : Balanced (runsOf latch hooks) := by
  intro hook place
  have noReturn : returns hook place ∉ runsOf latch hooks := by simp [mem_runsOf]
  have noCall : registers hook place ∉ runsOf latch hooks := by simp [mem_runsOf]
  rw [(count_runsOf hook hooks place).1, (count_runsOf hook hooks place).2,
    List.count_eq_zero.mpr noReturn, List.count_eq_zero.mpr noCall]
  exact ⟨rfl, rfl⟩

theorem balanced_registration (world : LatchWorld) (place : Nat) (hook : LatchHook) :
    Balanced (registration world place hook) := by
  intro name latch
  obtain ⟨ends, returned⟩ :=
    balanced_runsOf place (((world.latch place).listen hook).2.map LatchHook.name) name latch
  simp only [registration, List.cons_append, List.count_cons, List.count_append, List.count_nil]
  simp [ends, returned]

theorem balanced_completion (world : LatchWorld) (place : Nat) : Balanced (completion world place) := by
  intro name latch
  have runs := balanced_runsOf place ((world.latch place).complete.2.2.map LatchHook.name) name latch
  simpa [completion] using runs

theorem balanced_added (watch : LatchWatch) (call : LatchCall) : Balanced (watch.added call) := by
  have nothing : Balanced [] := fun _ _ => ⟨rfl, rfl⟩
  cases call with
  | listen place label calls =>
      rw [added_listen]
      exact balanced_registration _ _ _
  | future place =>
      rw [added_future]
      exact balanced_registration _ _ _
  | complete place =>
      rw [added_complete]
      exact balanced_completion _ _
  | isDone => exact nothing
  | describe => exact nothing
  | poll => exact nothing

theorem length_opening_le (world : LatchWorld) (call : LatchCall) : (opening world call).length ≤ 1 := by
  cases call <;> simp [opening]

/-- What holds of a number of latches under watch, and of the work that is due, at any time. -/
structure Orderly (count : Nat) (watch : LatchWatch) (tasks : List WatchTask) : Prop where
  beyond : ∀ latch, count ≤ latch → watch.world.latch latch = .done
  chronicle : ∀ latch, latch < count → Chronicle latch (watch.world.latch latch) (watch.plan tasks)
  balanced : Balanced (watch.plan tasks)
  faithful : watch.Faithful
  distinct : ∀ hook latch, watch.deeds.count (.registers hook latch) ≤ 1

variable {count : Nat} {watch : LatchWatch} {task : WatchTask} {tasks rest : List WatchTask}

/-- At first there is nothing to keep in order. -/
theorem orderly_fresh (count : Nat) : Orderly count (fresh count) [] where
  beyond latch outside := by
    simp [fresh, LatchWorld.fresh, LatchWorld.latch, Nat.not_lt.mpr outside]
  chronicle latch inside := by
    have isOpen : (fresh count).world.latch latch = .waiting [] := by
      simp [fresh, LatchWorld.fresh, LatchWorld.latch, inside, Latch.fresh]
    rw [isOpen]
    exact .waiting (by simp [plan, fresh]) rfl
  balanced _ _ := ⟨rfl, rfl⟩
  faithful := faithful_fresh count
  distinct _ _ := Nat.zero_le 1

/-- Work that changes no latch and does what was due keeps the order. -/
theorem Orderly.same (orderly : Orderly count watch tasks) {next : LatchWatch} {others : List WatchTask}
    (latches : next.world.latches = watch.world.latches)
    (asPlanned : next.plan others = watch.plan tasks) (faithful : next.Faithful)
    (calls : ∀ hook latch,
      next.deeds.count (.registers hook latch) = watch.deeds.count (.registers hook latch)) :
    Orderly count next others := by
  have sameLatch (latch : Nat) : next.world.latch latch = watch.world.latch latch := by
    rw [LatchWorld.latch, latches, LatchWorld.latch]
  exact
    { beyond := fun latch outside => (sameLatch latch).trans (orderly.beyond latch outside)
      chronicle := fun latch inside => by
        rw [sameLatch, asPlanned]
        exact orderly.chronicle latch inside
      balanced := asPlanned ▸ orderly.balanced
      faithful
      distinct := fun hook latch => calls hook latch ▸ orderly.distinct hook latch }

/-- A call keeps the order. -/
theorem Orderly.performed (orderly : Orderly count watch rest) (call : LatchCall) :
    Orderly count (watch.performed call) (watch.caused call ++ rest) where
  beyond latch outside := by
    have adds := adds_added watch call latch
    rw [orderly.beyond latch outside] at adds
    exact adds.done
  chronicle latch inside := by
    rw [plan_performed]
    exact (orderly.chronicle latch inside).insert not_calls_of_foreseen (adds_added watch call latch)
  balanced := by
    rw [plan_performed]
    exact orderly.balanced.insert (balanced_added watch call)
  faithful := orderly.faithful.performed call
  distinct hook latch := by
    rw [LatchWatch.performed, List.count_append]
    by_cases isNew : .registers hook latch ∈ opening watch.world call
    · have unknown : .registers hook latch ∉ watch.deeds := fun isOld =>
        not_given_of_opening isNew ((orderly.faithful.names hook).mpr ⟨latch, isOld⟩)
      rw [List.count_eq_zero.mpr unknown, Nat.zero_add]
      exact Nat.le_trans List.count_le_length (length_opening_le watch.world call)
    · rw [List.count_eq_zero.mpr isNew]
      exact orderly.distinct hook latch

/-- A hook is due to run only on a latch that is done. -/
theorem Orderly.isDone_of_run {latch : Nat} {hook : LatchHook}
    (orderly : Orderly count watch (.plain (.run latch hook) :: rest)) :
    (watch.world.latch latch).isDone = true := by
  by_cases inside : latch < count
  · have isDue : .begins hook.name latch true ∈ watch.plan (.plain (.run latch hook) :: rest) :=
      List.mem_append_right _ List.mem_cons_self
    exact (orderly.chronicle latch inside).isDone_of_fires isDue rfl
  · rw [orderly.beyond latch (Nat.le_of_not_lt inside)]
    rfl

/-- Every piece of work keeps the order. -/
theorem Orderly.step (orderly : Orderly count watch (task :: rest)) :
    Orderly count (watch.step task).1 ((watch.step task).2 ++ rest) := by
  have faithful := orderly.faithful.step task
  match task with
  | .plain (.run latch hook) =>
      -- The plan says that the latch is found done; it is, since no run is due on one that is open.
      have isDone := orderly.isDone_of_run
      cases hook with
      | observer serial label calls =>
          refine orderly.same rfl ?_ faithful fun _ _ => ?_
          · simp [plan, LatchWatch.step, LatchWorld.step, foreseen, isDone]
          · simp [LatchWatch.step]
      | signal future =>
          refine orderly.same rfl ?_ faithful fun _ _ => ?_
          · simp [plan, LatchWatch.step, LatchWorld.step, foreseen, isDone]
          · simp [LatchWatch.step]
  | .plain (.make label call) =>
      have planned : Orderly count watch
          (.plain (.announce label (watch.world.perform call).answer) :: rest) :=
        orderly.same rfl rfl orderly.faithful fun _ _ => rfl
      simpa [LatchWatch.step] using planned.performed call
  | .plain (.announce label answer) => exact orderly.same rfl rfl faithful fun _ _ => rfl
  | .ended hook latch =>
      refine orderly.same rfl ?_ faithful fun _ _ => ?_
      · simp [plan, LatchWatch.step, note, foreseen]
      · simp [LatchWatch.step, note]
  | .returned hook latch =>
      refine orderly.same rfl ?_ faithful fun _ _ => ?_
      · simp [plan, LatchWatch.step, note, foreseen]
      · simp [LatchWatch.step, note]

/-- Calls from outside keep the order, and leave nothing due. -/
theorem orderly_ofCalls (count : Nat) (calls : List LatchCall) : Orderly count (ofCalls count calls) [] := by
  suffices ∀ watch : LatchWatch, Orderly count watch [] → Orderly count (calls.foldl call watch) [] from
    this (fresh count) (orderly_fresh count)
  induction calls with
  | nil => exact fun watch orderly => orderly
  | cons call rest ih =>
      intro watch orderly
      have caused : Orderly count (watch.performed call) (watch.caused call) := by
        simpa using orderly.performed call
      exact ih _ (Agenda.run_keeps (Orderly count) (fun _ _ _ orderly => orderly.step) caused)

/-- A hook that registers another one on its own latch, which tries to complete it once more. -/
example :
    (ofCalls 1 [.listen 0 "outer" [.listen 0 "inner" [.complete 0]], .complete 0]).deeds =
      [.registers (.observer 0) 0, .returns (.observer 0) 0,
       .completes 0 true, .begins (.observer 0) 0 true,
       .registers (.observer 1) 0, .begins (.observer 1) 0 true, .completes 0 false, .ends (.observer 1) 0,
       .returns (.observer 1) 0, .ends (.observer 0) 0] := by
  decide +kernel

end LatchWatch

end Uplink
