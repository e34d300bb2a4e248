/-
Module: Uplink.Proofs.Latch.Chronicle
Purpose: The shape that the history of a latch keeps when a call adds something to it between what has
  happened and what is due, and what it comes to in the end: each hook runs exactly once.
Main exports: LatchDeed.registeredOn, LatchDeed.runsOf, LatchDeed.FiresOnce, LatchDeed.Chronicle,
  LatchDeed.Late, LatchDeed.Adds, LatchDeed.Chronicle.insert, LatchDeed.Chronicle.firesOnce
-/
import Mathlib.Data.List.Basic
import Uplink.Proofs.Latch.Diary

namespace Uplink

namespace LatchDeed

/-- The hooks that were registered on a latch, in order. -/
def registeredOn (latch : Nat) (deeds : List LatchDeed) : List HookName :=
  deeds.filterMap fun deed =>
    match deed with
    | registers hook other => if other = latch then some hook else none
    | _ => none

/-- The complete runs of some hooks of a latch, one after the other. -/
def runsOf (latch : Nat) (hooks : List HookName) : List LatchDeed :=
  hooks.flatMap fun hook => [begins hook latch true, ends hook latch]

/-- What the diary has to say of a latch and its hooks. -/
structure FiresOnce (latch : Nat) (deeds : List LatchDeed) : Prop where
  /-- Once a call was made to complete the latch, every registered hook has run, and has run once. -/
  once : ∀ first, completes latch first ∈ deeds → ∀ hook, registers hook latch ∈ deeds →
    deeds.count (begins hook latch true) = 1 ∧ deeds.count (ends hook latch) = 1
  /-- A hook only runs after the latch was completed, and then finds it done. -/
  notOpen : ∀ hook done before after, deeds = before ++ begins hook latch done :: after →
    completes latch true ∈ before ∧ done = true
  /-- Nothing runs that was not registered. -/
  known : ∀ hook done, begins hook latch done ∈ deeds → registers hook latch ∈ deeds
  /-- Hooks registered before the completion run after it one by one, in the order of registration. -/
  ordered : ∀ before after, deeds = before ++ completes latch true :: after →
    (runsOf latch (registeredOn latch before)).Sublist after
  /-- A hook registered after the completion has begun and ended its run before its registration returns. -/
  late : ∀ before after, deeds = before ++ completes latch true :: after →
    ∀ hook, registers hook latch ∈ after →
      [registers hook latch, begins hook latch true, ends hook latch, returns hook latch].Sublist after
  /-- Each registration is one call, which returns once. -/
  called : ∀ hook, registers hook latch ∈ deeds →
    deeds.count (registers hook latch) = 1 ∧ deeds.count (returns hook latch) = 1
  /-- If calls were made to complete the latch, exactly one was told that it did. -/
  one : ∀ first, completes latch first ∈ deeds → deeds.count (completes latch true) = 1

/-- The latch that a deed is about. -/
def latch : LatchDeed → Nat
  | registers _ latch | returns _ latch | completes latch _ | begins _ latch _ | ends _ latch => latch

/-- What cannot be due: only a call registers a hook or completes a latch. -/
def Calls : LatchDeed → Prop
  | registers .. | completes .. => True
  | _ => False

/-- What does not happen as long as a latch is open. -/
def Fires (latch : Nat) : LatchDeed → Prop
  | completes other _ | begins _ other _ => other = latch
  | _ => False

/-- Runs that began have ended, and calls that registered a hook have returned. -/
def Balanced (deeds : List LatchDeed) : Prop :=
  ∀ hook latch, deeds.count (ends hook latch) = deeds.count (begins hook latch true) ∧
    deeds.count (returns hook latch) = deeds.count (registers hook latch)

/-- What the deeds on both sides of a latch's completion are like. -/
structure Settled (latch : Nat) (before after : List LatchDeed) : Prop where
  quiet : ∀ deed ∈ before, ¬ deed.Fires latch
  once : completes latch true ∉ after
  timely : ∀ hook, begins hook latch false ∉ after
  ordered : (runsOf latch (registeredOn latch before)).Sublist after
  served : ∀ hook, registers hook latch ∈ after →
    [registers hook latch, begins hook latch true, ends hook latch, returns hook latch].Sublist after
  counted : ∀ hook, after.count (begins hook latch true) = (before ++ after).count (registers hook latch)

/-- The history of a latch: as long as it is open nothing ran and the hooks registered wait, and when it is
done there is one moment at which it was completed. -/
inductive Chronicle (latch : Nat) : Latch LatchHook → List LatchDeed → Prop where
  | waiting {hooks : List LatchHook} {deeds : List LatchDeed} (quiet : ∀ deed ∈ deeds, ¬ deed.Fires latch)
      (registered : registeredOn latch deeds = hooks.map LatchHook.name) :
      Chronicle latch (.waiting hooks) deeds
  | done {before after : List LatchDeed} (settled : Settled latch before after) :
      Chronicle latch .done (before ++ completes latch true :: after)

/-- What is added to the history of a latch that is done: it is not completed again, and each hook that is
registered runs before its registration returns. -/
structure Late (latch : Nat) (block : List LatchDeed) : Prop where
  once : completes latch true ∉ block
  timely : ∀ hook, begins hook latch false ∉ block
  served : ∀ hook, registers hook latch ∈ block →
    [registers hook latch, begins hook latch true, ends hook latch, returns hook latch].Sublist block
  counted : ∀ hook, block.count (begins hook latch true) = block.count (registers hook latch)

/-- What a call may add to the history of a latch. -/
inductive Adds (latch : Nat) : Latch LatchHook → List LatchDeed → Latch LatchHook → Prop where
  | waits {hooks added : List LatchHook} {block : List LatchDeed}
      (quiet : ∀ deed ∈ block, ¬ deed.Fires latch)
      (registered : registeredOn latch block = added.map LatchHook.name) :
      Adds latch (.waiting hooks) block (.waiting (hooks ++ added))
  | fires {hooks : List LatchHook} :
      Adds latch (.waiting hooks) (completes latch true :: runsOf latch (hooks.map LatchHook.name)) .done
  | late {block : List LatchDeed} (late : Late latch block) : Adds latch .done block .done

variable {latch : Nat} {deeds block planned first second : List LatchDeed}

@[simp] theorem registeredOn_append :
    registeredOn latch (first ++ second) = registeredOn latch first ++ registeredOn latch second :=
  List.filterMap_append

theorem mem_insert {deed : LatchDeed} :
    deed ∈ deeds ++ block ++ planned ↔ deed ∈ deeds ++ planned ∨ deed ∈ block := by
  simp only [List.mem_append]
  tauto

/-- What is due registers nothing. -/
theorem registeredOn_eq_nil (due : ∀ deed ∈ planned, ¬ deed.Calls) : registeredOn latch planned = [] := by
  refine List.filterMap_eq_nil_iff.mpr fun deed isPlanned => ?_
  have noCall := due deed isPlanned
  cases deed with
  | registers => exact absurd trivial noCall
  | _ => rfl

/-- How often a hook was registered on a latch. -/
theorem count_registeredOn (hook : HookName) (deeds : List LatchDeed) :
    (registeredOn latch deeds).count hook = deeds.count (registers hook latch) := by
  induction deeds with
  | nil => rfl
  | cons deed rest ih =>
      cases deed with
      | registers other place =>
          by_cases same : place = latch
          · simp only [registeredOn, List.filterMap_cons, if_pos same, List.count_cons] at ih ⊢
            simp [ih, same]
          · simp only [registeredOn, List.filterMap_cons, if_neg same, List.count_cons] at ih ⊢
            simp [ih, same]
      | _ => simpa [registeredOn] using ih

theorem mem_runsOf {deed : LatchDeed} {hooks : List HookName} :
    deed ∈ runsOf latch hooks ↔ ∃ hook ∈ hooks, deed = begins hook latch true ∨ deed = ends hook latch := by
  simp [runsOf]

/-- How often a hook runs in the runs of some hooks. -/
theorem count_runsOf (hook : HookName) (hooks : List HookName) (place : Nat) :
    (runsOf latch hooks).count (begins hook place true) = (if place = latch then hooks.count hook else 0) ∧
      (runsOf latch hooks).count (ends hook place) = (if place = latch then hooks.count hook else 0) := by
  induction hooks with
  | nil => simp [runsOf]
  | cons first rest ih =>
      simp only [runsOf, List.flatMap_cons, List.count_append, List.count_cons, List.count_nil] at ih ⊢
      by_cases same : place = latch
      · subst same
        simp [ih]
        omega
      · simp [ih, same, Ne.symm same]

/-- Runs are runs only. -/
theorem not_calls_of_mem_runsOf {deed : LatchDeed} {hooks : List HookName}
    (isRun : deed ∈ runsOf latch hooks) : ¬ deed.Calls := by
  obtain ⟨hook, -, rfl | rfl⟩ := mem_runsOf.mp isRun <;> exact id

theorem Balanced.insert (plan : Balanced (deeds ++ planned)) (added : Balanced block) :
    Balanced (deeds ++ block ++ planned) := by
  intro hook place
  obtain ⟨endsPlan, returnsPlan⟩ := plan hook place
  obtain ⟨endsAdded, returnsAdded⟩ := added hook place
  simp only [List.count_append] at endsPlan returnsPlan ⊢
  omega

/-- Where the completion stands, if what is due contains none. -/
theorem split_at_completion {before after : List LatchDeed} (due : ∀ deed ∈ planned, ¬ deed.Calls)
    (isPlan : deeds ++ planned = before ++ completes latch true :: after) :
    ∃ middle, deeds = before ++ completes latch true :: middle ∧ after = middle ++ planned := by
  have notDue : completes latch true ∉ planned := fun isDue => due _ isDue trivial
  obtain ⟨middle, isDeeds, isRest⟩ | ⟨middle, -, isPlanned⟩ := List.append_eq_append_iff.mp isPlan.symm
  · cases middle with
    | nil =>
        rw [List.nil_append] at isRest
        exact absurd (isRest ▸ List.mem_cons_self) notDue
    | cons deed middle =>
        obtain ⟨rfl, rfl⟩ := List.cons_eq_cons.mp isRest
        exact ⟨middle, isDeeds, rfl⟩
  · exact absurd (by simp [isPlanned]) notDue

/-- The completion itself: all that waited is due next, and nothing else of the latch is. -/
theorem Settled.of_quiet {hooks : List LatchHook} (due : ∀ deed ∈ planned, ¬ deed.Calls)
    (quiet : ∀ deed ∈ deeds ++ planned, ¬ deed.Fires latch)
    (registered : registeredOn latch deeds = hooks.map LatchHook.name) :
    Settled latch deeds (runsOf latch (hooks.map LatchHook.name) ++ planned) where
  quiet deed isDeed := quiet deed (List.mem_append_left _ isDeed)
  once isAfter := by
    obtain isRun | isDue := List.mem_append.mp isAfter
    · exact not_calls_of_mem_runsOf isRun trivial
    · exact due _ isDue trivial
  timely hook isAfter := by
    obtain isRun | isDue := List.mem_append.mp isAfter
    · simp [mem_runsOf] at isRun
    · exact quiet _ (List.mem_append_right _ isDue) rfl
  ordered := by
    rw [registered]
    exact List.sublist_append_left ..
  served hook isAfter := by
    obtain isRun | isDue := List.mem_append.mp isAfter
    · exact absurd trivial (not_calls_of_mem_runsOf isRun)
    · exact absurd trivial (due _ isDue)
  counted hook := by
    have noneDue : planned.count (begins hook latch true) = 0 :=
      List.count_eq_zero.mpr fun isDue => quiet _ (List.mem_append_right _ isDue) rfl
    have noCallDue : planned.count (registers hook latch) = 0 :=
      List.count_eq_zero.mpr fun isDue => due _ isDue trivial
    have noCallRuns : (runsOf latch (hooks.map LatchHook.name)).count (registers hook latch) = 0 :=
      List.count_eq_zero.mpr fun isRun => not_calls_of_mem_runsOf isRun trivial
    simp only [List.count_append, noneDue, noCallDue, noCallRuns, (count_runsOf hook _ latch).1, if_pos,
      ← count_registeredOn, registered, Nat.add_zero]

/-- What is added late goes behind the completion, wherever that is. -/
theorem Settled.insert {before middle : List LatchDeed} (settled : Settled latch before (middle ++ planned))
    (late : Late latch block) : Settled latch before (middle ++ block ++ planned) where
  quiet := settled.quiet
  once := by
    rw [mem_insert, not_or]
    exact ⟨settled.once, late.once⟩
  timely hook := by
    rw [mem_insert, not_or]
    exact ⟨settled.timely hook, late.timely hook⟩
  ordered := by
    refine settled.ordered.trans ?_
    exact (List.sublist_append_left middle block).append_right planned
  served hook isAfter := by
    obtain isOld | isBlock := mem_insert.mp isAfter
    · exact (settled.served hook isOld).trans
        ((List.sublist_append_left middle block).append_right planned)
    · exact (late.served hook isBlock).trans
        ((List.sublist_append_right middle block).trans (List.sublist_append_left _ planned))
  counted hook := by
    have asMany := settled.counted hook
    have added := late.counted hook
    simp only [List.count_append] at asMany added ⊢
    omega

/-- A call's additions go between what has happened and what is due, and the history of every latch goes on
as such. -/
theorem Chronicle.insert {old new : Latch LatchHook} (chronicle : Chronicle latch old (deeds ++ planned))
    (due : ∀ deed ∈ planned, ¬ deed.Calls) (adds : Adds latch old block new) :
    Chronicle latch new (deeds ++ block ++ planned) := by
  -- The latch before the call decides both which additions are possible and which history there was.
  generalize isPlan : deeds ++ planned = plan at chronicle
  cases adds with
  | waits quietBlock registeredBlock =>
      cases chronicle with
      | waiting quiet registered =>
          subst isPlan
          refine .waiting (fun deed isDeed => ?_) ?_
          · obtain isOld | isBlock := mem_insert.mp isDeed
            · exact quiet deed isOld
            · exact quietBlock deed isBlock
          · simp only [registeredOn_append, registeredOn_eq_nil due, List.append_nil] at registered ⊢
            rw [registered, registeredBlock, List.map_append]
  | fires =>
      cases chronicle with
      | waiting quiet registered =>
          subst isPlan
          simp only [registeredOn_append, registeredOn_eq_nil due, List.append_nil] at registered
          simpa using Chronicle.done (.of_quiet due quiet registered)
  | late late =>
      cases chronicle with
      | done settled =>
          -- No completion is due, so it has happened, and the additions come after it.
          obtain ⟨middle, rfl, rfl⟩ := split_at_completion due isPlan
          simpa using Chronicle.done (settled.insert late)

/-- A call that is about other latches adds nothing to the history of a latch. -/
theorem Adds.elsewhere (other : ∀ deed ∈ block, deed.latch ≠ latch) (state : Latch LatchHook) :
    Adds latch state block state := by
  have notHere {deed : LatchDeed} (isHere : deed.latch = latch) : deed ∉ block := fun isBlock =>
    other deed isBlock isHere
  have noneHere {deed : LatchDeed} (isHere : deed.latch = latch) : block.count deed = 0 :=
    List.count_eq_zero.mpr (notHere isHere)
  cases state with
  | waiting hooks =>
      have none : registeredOn latch block = ([] : List LatchHook).map LatchHook.name := by
        refine List.filterMap_eq_nil_iff.mpr fun deed isBlock => ?_
        cases deed with
        | registers hook place => exact if_neg (other _ isBlock)
        | _ => rfl
      have quiet : ∀ deed ∈ block, ¬ deed.Fires latch := fun deed isBlock fires => by
        cases deed with
        | completes place first => exact other _ isBlock fires
        | begins hook place done => exact other _ isBlock fires
        | _ => exact fires
      simpa using Adds.waits quiet none
  | done =>
      exact .late
        { once := notHere rfl
          timely := fun _ => notHere rfl
          served := fun _ isBlock => absurd isBlock (notHere rfl)
          counted := fun _ => by rw [noneHere rfl, noneHere rfl] }

/-- A latch on which something has run, or is due to run, is done. -/
theorem Chronicle.isDone_of_fires {state : Latch LatchHook} (chronicle : Chronicle latch state deeds)
    {deed : LatchDeed} (isDeed : deed ∈ deeds) (fires : deed.Fires latch) : state.isDone = true := by
  cases chronicle with
  | waiting quiet _ => exact absurd fires (quiet deed isDeed)
  | done _ => rfl

/-- A latch is done exactly if a call was made to complete it. -/
theorem Chronicle.isDone_iff {state : Latch LatchHook} (chronicle : Chronicle latch state deeds) :
    state.isDone = true ↔ ∃ first, completes latch first ∈ deeds := by
  constructor
  · intro isDone
    cases chronicle with
    | waiting => cases isDone
    | done => exact ⟨true, by simp⟩
  · rintro ⟨first, isCompleted⟩
    exact chronicle.isDone_of_fires isCompleted rfl

/-! ### What the history of a latch comes to -/

theorem FiresOnce.of_quiet (quiet : ∀ deed ∈ deeds, ¬ deed.Fires latch) (balanced : Balanced deeds)
    (distinct : ∀ hook, deeds.count (registers hook latch) ≤ 1) : FiresOnce latch deeds where
  once first isDeed := absurd rfl (quiet _ isDeed)
  notOpen hook done before after isSplit := absurd rfl (quiet (begins hook latch done) (by simp [isSplit]))
  known hook done isDeed := absurd rfl (quiet _ isDeed)
  ordered before after isSplit := absurd rfl (quiet (completes latch true) (by simp [isSplit]))
  late before after isSplit := absurd rfl (quiet (completes latch true) (by simp [isSplit]))
  called hook isDeed := by
    have isOne : deeds.count (registers hook latch) = 1 :=
      Nat.le_antisymm (distinct hook) (List.count_pos_iff.mpr isDeed)
    exact ⟨isOne, (balanced hook latch).2.trans isOne⟩
  one first isDeed := absurd rfl (quiet _ isDeed)

variable {before after : List LatchDeed}

/-- Of a run that began after the completion, and of no other one, there is a registration. -/
theorem Settled.count_begins (settled : Settled latch before after) (hook : HookName) :
    (before ++ completes latch true :: after).count (begins hook latch true) =
      (before ++ completes latch true :: after).count (registers hook latch) := by
  have noneBefore : before.count (begins hook latch true) = 0 :=
    List.count_eq_zero.mpr fun isBefore => settled.quiet _ isBefore rfl
  have counted := settled.counted hook
  simp only [List.count_append, List.count_cons, noneBefore] at counted ⊢
  simpa using counted

/-- The latch is completed once. -/
theorem Settled.split_unique (settled : Settled latch before after) {front back : List LatchDeed}
    (isSplit : before ++ completes latch true :: after = front ++ completes latch true :: back) :
    front = before ∧ back = after := by
  have notBefore : completes latch true ∉ before := fun isBefore => settled.quiet _ isBefore rfl
  obtain ⟨sameFront, -, sameBack⟩ := (List.append_cons_inj_of_notMem notBefore settled.once).mp isSplit
  exact ⟨sameFront.symm, sameBack.symm⟩

/-- What begins a run stands after the completion. -/
theorem Settled.begins_after (settled : Settled latch before after) {front back : List LatchDeed}
    {hook : HookName} {done : Bool}
    (isSplit : before ++ completes latch true :: after = front ++ begins hook latch done :: back) :
    completes latch true ∈ front ∧ begins hook latch done ∈ after := by
  obtain ⟨middle, isFront, isRest⟩ | ⟨middle, isBefore, isRest⟩ := List.append_eq_append_iff.mp isSplit
  · cases middle with
    | nil => simp at isRest
    | cons deed middle =>
        obtain ⟨rfl, rfl⟩ := List.cons_eq_cons.mp isRest
        exact ⟨by simp [isFront], by simp⟩
  · cases middle with
    | nil => simp at isRest
    | cons deed middle =>
        obtain ⟨rfl, -⟩ := List.cons_eq_cons.mp isRest
        exact absurd rfl (settled.quiet (begins hook latch done) (by simp [isBefore]))

theorem Settled.begins_true (settled : Settled latch before after) {hook : HookName} {done : Bool}
    (isAfter : begins hook latch done ∈ after) : done = true := by
  cases done with
  | false => exact absurd isAfter (settled.timely hook)
  | true => rfl

theorem FiresOnce.of_settled (settled : Settled latch before after)
    (balanced : Balanced (before ++ completes latch true :: after))
    (distinct : ∀ hook, (before ++ completes latch true :: after).count (registers hook latch) ≤ 1) :
    FiresOnce latch (before ++ completes latch true :: after) where
  once first isDone hook isDeed := by
    have isOne := Nat.le_antisymm (distinct hook) (List.count_pos_iff.mpr isDeed)
    exact ⟨(settled.count_begins hook).trans isOne,
      (balanced hook latch).1.trans ((settled.count_begins hook).trans isOne)⟩
  notOpen hook done front back isSplit := by
    obtain ⟨isCompleted, isAfter⟩ := settled.begins_after isSplit
    exact ⟨isCompleted, settled.begins_true isAfter⟩
  known hook done isDeed := by
    obtain ⟨front, back, isSplit⟩ := List.append_of_mem isDeed
    obtain rfl := settled.begins_true (settled.begins_after isSplit).2
    rw [← List.count_pos_iff, settled.count_begins hook, List.count_pos_iff] at isDeed
    exact isDeed
  ordered front back isSplit := by
    obtain ⟨rfl, rfl⟩ := settled.split_unique isSplit
    exact settled.ordered
  late front back isSplit := by
    obtain ⟨rfl, rfl⟩ := settled.split_unique isSplit
    exact settled.served
  called hook isDeed := by
    have isOne := Nat.le_antisymm (distinct hook) (List.count_pos_iff.mpr isDeed)
    exact ⟨isOne, (balanced hook latch).2.trans isOne⟩
  one first isDone := by
    have notBefore : before.count (completes latch true) = 0 :=
      List.count_eq_zero.mpr fun isBefore => settled.quiet _ isBefore rfl
    have notAfter : after.count (completes latch true) = 0 := List.count_eq_zero.mpr settled.once
    rw [List.count_append, List.count_cons_self, notBefore, notAfter]

theorem Chronicle.firesOnce {state : Latch LatchHook} (chronicle : Chronicle latch state deeds)
    (balanced : Balanced deeds) (distinct : ∀ hook, deeds.count (registers hook latch) ≤ 1) :
    FiresOnce latch deeds := by
  cases chronicle with
  | waiting quiet _ => exact .of_quiet quiet balanced distinct
  | done settled => exact .of_settled settled balanced distinct

/-- A latch that is done stays done. -/
theorem Adds.done {new : Latch LatchHook} (adds : Adds latch .done block new) : new = .done := by
  cases adds with
  | late => rfl

end LatchDeed

end Uplink
