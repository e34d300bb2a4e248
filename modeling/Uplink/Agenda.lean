/-
Module: Uplink.Agenda
Purpose: Working off tasks that may put further tasks in front of the ones that wait.
Main exports: Agenda.total, Agenda.run, Agenda.run_keeps, Agenda.run_simulates
-/

namespace Uplink.Agenda

/-- The measures of some entries, added up. -/
def total {Entry : Type} (measure : Entry → Nat) : List Entry → Nat
  | [] => 0
  | entry :: rest => measure entry + total measure rest

section

variable {Entry : Type} (measure : Entry → Nat)

@[simp] theorem total_nil : total measure [] = 0 := rfl

@[simp] theorem total_cons (entry : Entry) (rest : List Entry) :
    total measure (entry :: rest) = measure entry + total measure rest := rfl

@[simp] theorem total_append (first second : List Entry) :
    total measure (first ++ second) = total measure first + total measure second := by
  induction first with
  | nil => simp
  | cons entry rest ih => simp [ih, Nat.add_assoc]

end

/-- Work off tasks in order.  A task may change the world and put further tasks in front of the others;
some weight of world and tasks must decrease with every task, so the work ends. -/
def run {World Task : Type} (step : World → Task → World × List Task)
    (weight : World → List Task → Nat)
    (decreases : ∀ world task rest,
      weight (step world task).1 ((step world task).2 ++ rest) < weight world (task :: rest))
    (world : World) (tasks : List Task) : World :=
  match tasks with
  | [] => world
  | task :: rest => run step weight decreases (step world task).1 ((step world task).2 ++ rest)
termination_by weight world tasks
decreasing_by exact decreases world task rest

section

variable {World Task : Type} {step : World → Task → World × List Task} {weight : World → List Task → Nat}
  {decreases : ∀ world task rest,
    weight (step world task).1 ((step world task).2 ++ rest) < weight world (task :: rest)}

@[simp] theorem run_nil (world : World) : run step weight decreases world [] = world := by
  rw [run]

theorem run_cons (world : World) (task : Task) (rest : List Task) :
    run step weight decreases world (task :: rest) =
      run step weight decreases (step world task).1 ((step world task).2 ++ rest) := by
  rw [run]

/-- What every task keeps of world and tasks holds when all work is done. -/
theorem run_keeps (Holds : World → List Task → Prop)
    (keeps : ∀ world task rest, Holds world (task :: rest) →
      Holds (step world task).1 ((step world task).2 ++ rest))
    {world : World} {tasks : List Task} (start : Holds world tasks) :
    Holds (run step weight decreases world tasks) [] := by
  fun_induction run step weight decreases world tasks with
  | case1 world => exact start
  | case2 world task rest ih => exact ih (keeps world task rest start)

variable {Small Chore : Type} {move : Small → Chore → Small × List Chore}
  {burden : Small → List Chore → Nat}
  {lightens : ∀ small chore rest,
    burden (move small chore).1 ((move small chore).2 ++ rest) < burden small (chore :: rest)}

/-- Work seen through a view of the world, in which some of the tasks do not show: if every task that
shows does there what it does, and the others do nothing there, then so does the work as a whole. -/
theorem run_simulates {view : World → Small} {chore? : Task → Option Chore}
    (shown : ∀ world task chore, chore? task = some chore →
      view (step world task).1 = (move (view world) chore).1 ∧
        (step world task).2.filterMap chore? = (move (view world) chore).2)
    (hidden : ∀ world task, chore? task = none →
      view (step world task).1 = view world ∧ (step world task).2.filterMap chore? = [])
    (world : World) (tasks : List Task) :
    view (run step weight decreases world tasks) =
      run move burden lightens (view world) (tasks.filterMap chore?) := by
  fun_induction run step weight decreases world tasks with
  | case1 world => rw [List.filterMap_nil, run_nil]
  | case2 world task rest ih =>
      rw [ih, List.filterMap_append]
      cases isShown : chore? task with
      | none =>
          obtain ⟨sameWorld, noTasks⟩ := hidden world task isShown
          rw [sameWorld, noTasks, List.nil_append, List.filterMap_cons_none isShown]
      | some chore =>
          obtain ⟨sameWorld, sameTasks⟩ := shown world task chore isShown
          rw [sameWorld, sameTasks, List.filterMap_cons_some isShown, run_cons]

end

end Uplink.Agenda
