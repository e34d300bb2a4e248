/-
Module: Uplink.Proofs.Pool.Ledger
Purpose: Which channels a history of calls leaves enrolled, and in which order they came.
Main exports: PoolCall.channel, EnrolledIn, EnteredBefore, ledger, mem_ledger_iff, ledger_pairwise
-/
import Mathlib.Data.List.Induction
import Uplink.Pool.Roster

namespace Uplink

/-- The channel that a call is about. -/
def PoolCall.channel : PoolCall → Nat
  | .enroll channel => channel
  | .evict channel => channel

/-- A channel was enrolled, and not evicted since. -/
def EnrolledIn (calls : List PoolCall) (channel : Nat) : Prop :=
  ∃ before after, calls = before ++ .enroll channel :: after ∧ .evict channel ∉ after

/-- There was a time at which one channel was enrolled for good and another was not: the latest
enrollment of the first lies before that of the second. -/
def EnteredBefore (calls : List PoolCall) (first second : Nat) : Prop :=
  ∃ before after, calls = before ++ after ∧
    EnrolledIn before first ∧ .evict first ∉ after ∧ ¬ EnrolledIn before second

/-- Enter one call into a list of the channels that are enrolled. -/
def enterCall (entries : List Nat) : PoolCall → List Nat
  | .enroll channel => if channel ∈ entries then entries else entries ++ [channel]
  | .evict channel => entries.filter (· ≠ channel)

/-- The channels that a history leaves enrolled, in the order of their latest enrollment. -/
def ledger (calls : List PoolCall) : List Nat :=
  calls.foldl enterCall []

theorem ledger_append_singleton (calls : List PoolCall) (call : PoolCall) :
    ledger (calls ++ [call]) = enterCall (ledger calls) call := by
  simp only [ledger, List.foldl_append]
  rfl

theorem not_enrolledIn_nil (channel : Nat) : ¬ EnrolledIn [] channel := by
  rintro ⟨before, after, split, -⟩
  cases before <;> cases split

/-- One more call enrolls its channel, or leaves enrolled what it does not evict. -/
theorem enrolledIn_append_singleton {calls : List PoolCall} {call : PoolCall} {channel : Nat} :
    EnrolledIn (calls ++ [call]) channel ↔
      call = .enroll channel ∨ EnrolledIn calls channel ∧ call ≠ .evict channel := by
  constructor
  · rintro ⟨before, after, split, kept⟩
    rcases List.eq_nil_or_concat after with rfl | ⟨earlier, last, rfl⟩
    · exact Or.inl (List.append_inj_right' split rfl |> List.singleton_inj.1)
    · rw [List.concat_eq_append, ← List.cons_append, ← List.append_assoc] at split
      have sameLast := List.singleton_inj.1 (List.append_inj_right' split rfl)
      have sameEarlier := List.append_inj_left' split rfl
      simp only [List.concat_eq_append, List.mem_append, not_or, List.mem_singleton] at kept
      exact Or.inr ⟨⟨before, earlier, sameEarlier, kept.1⟩, fun evicts =>
        kept.2 (evicts.symm.trans sameLast)⟩
  · rintro (rfl | ⟨⟨before, after, rfl, kept⟩, spares⟩)
    · exact ⟨calls, [], rfl, List.not_mem_nil⟩
    · refine ⟨before, after ++ [call], by rw [List.append_assoc, List.cons_append], ?_⟩
      simp only [List.mem_append, not_or, List.mem_singleton]
      exact ⟨kept, fun evicts => spares evicts.symm⟩

/-- The ledger holds the channels that were enrolled and not evicted since. -/
theorem mem_ledger_iff {calls : List PoolCall} {channel : Nat} :
    channel ∈ ledger calls ↔ EnrolledIn calls channel := by
  induction calls using List.reverseRecOn with
  | nil =>
      exact ⟨fun member => absurd member List.not_mem_nil, fun enrolled =>
        absurd enrolled (not_enrolledIn_nil _)⟩
  | append_singleton calls call ih =>
      rw [ledger_append_singleton, enrolledIn_append_singleton, ← ih]
      cases call with
      | enroll other =>
          simp only [enterCall, PoolCall.enroll.injEq, ne_eq, reduceCtorEq, not_false_eq_true, and_true]
          split
          · rename_i known
            exact ⟨Or.inr, fun either => either.elim (fun same => same ▸ known) id⟩
          · simp only [List.mem_append, List.mem_singleton, or_comm, eq_comm]
      | evict other =>
          simp only [enterCall, List.mem_filter, decide_eq_true_eq, reduceCtorEq, false_or, ne_eq,
            PoolCall.evict.injEq]
          simp only [eq_comm]

/-- One more call that spares the first of two channels does not change which of them came before. -/
theorem EnteredBefore.append_singleton {calls : List PoolCall} {first second : Nat}
    (earlier : EnteredBefore calls first second) {call : PoolCall} (spares : call ≠ .evict first) :
    EnteredBefore (calls ++ [call]) first second := by
  obtain ⟨before, after, rfl, enrolled, kept, absent⟩ := earlier
  refine ⟨before, after ++ [call], List.append_assoc _ _ _, enrolled, ?_, absent⟩
  simp only [List.mem_append, not_or, List.mem_singleton]
  exact ⟨kept, fun evicts => spares evicts.symm⟩

/-- The ledger is in the order of the latest enrollments. -/
theorem ledger_pairwise (calls : List PoolCall) :
    (ledger calls).Pairwise (EnteredBefore calls) := by
  induction calls using List.reverseRecOn with
  | nil => exact List.Pairwise.nil
  | append_singleton calls call ih =>
      simp only [ledger_append_singleton]
      cases call with
      | enroll other =>
          have kept : (ledger calls).Pairwise (EnteredBefore (calls ++ [.enroll other])) :=
            ih.imp fun earlier => earlier.append_singleton (by simp)
          simp only [enterCall]
          split
          · exact kept
          · rename_i stranger
            simp only [List.pairwise_append]
            refine ⟨kept, List.pairwise_singleton _ _, ?_⟩
            intro first isMember second isNew
            simp only [List.mem_singleton] at isNew
            subst isNew
            exact ⟨calls, [.enroll second], rfl, mem_ledger_iff.1 isMember, by simp,
              fun enrolled => stranger (mem_ledger_iff.2 enrolled)⟩
      | evict other =>
          simp only [enterCall]
          apply (ih.filter _).imp_of_mem
          intro first second firstKept _ earlier
          have different := (List.mem_filter.1 firstKept).2
          simp only [decide_eq_true_eq] at different
          exact earlier.append_singleton fun evicts => different (PoolCall.evict.inj evicts).symm

end Uplink
