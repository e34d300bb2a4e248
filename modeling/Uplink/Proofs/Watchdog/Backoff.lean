/-
Module: Uplink.Proofs.Watchdog.Backoff
Purpose: The delays of a backoff in nanoseconds: exact products as far as a span can hold them, the longest span
  beyond, never shrinking and constant in the end.
Main exports: Span.totalNanos_inj, Span.exists_totalNanos_iff, Span.totalNanos_scale,
  Backoff.totalNanos_delayFor, Backoff.delay_exact_or_longest
-/
import Uplink.Watchdog.Backoff

namespace Uplink

namespace Span

/-- A span is nothing but its number of nanoseconds. -/
theorem totalNanos_inj {first second : Span} (same : first.totalNanos = second.totalNanos) :
    first = second := by
  obtain ⟨seconds, nanos, _, small⟩ := first
  obtain ⟨seconds', nanos', _, small'⟩ := second
  simp only [totalNanos] at same
  obtain rfl : seconds = seconds' := by omega
  obtain rfl : nanos = nanos' := by omega
  rfl

theorem totalNanos_le_longest (span : Span) : span.totalNanos ≤ longest.totalNanos := by
  have seconds := span.seconds_lt
  have nanos := span.nanos_lt
  simp only [totalNanos, longest]
  omega

/-- A sum of seconds and nanoseconds is exact, or the longest span. -/
theorem totalNanos_carried (seconds nanos : Nat) :
    (carried seconds nanos).totalNanos = min (seconds * 1000000000 + nanos) longest.totalNanos := by
  have parts := Nat.div_add_mod nanos 1000000000
  have small := Nat.mod_lt nanos (show 0 < 1000000000 by decide)
  simp only [carried, ofParts?]
  split
  · simp only [Option.getD_some, totalNanos, longest]
    omega
  · simp only [Option.getD_none, totalNanos, longest]
    omega

/-- A span taken some times is exact, or the longest span. -/
theorem totalNanos_scale (span : Span) (factor : Nat) :
    (span.scale factor).totalNanos = min (span.totalNanos * factor) longest.totalNanos := by
  have spread : span.totalNanos * factor = span.seconds * factor * 1000000000 + span.nanos * factor := by
    rw [totalNanos, Nat.add_mul, Nat.mul_right_comm]
  rw [scale, totalNanos_carried, spread]

/-- The numbers of nanoseconds that a span can hold are those up to the longest span's. -/
theorem exists_totalNanos_iff {total : Nat} :
    (∃ span : Span, span.totalNanos = total) ↔ total ≤ longest.totalNanos := by
  constructor
  · rintro ⟨span, rfl⟩
    exact span.totalNanos_le_longest
  · intro fits
    refine ⟨ofNanos total, ?_⟩
    rw [ofNanos, totalNanos_carried, Nat.zero_mul, Nat.zero_add, Nat.min_eq_left fits]

/-- A number of nanoseconds that is exact or the longest span's says which span it is. -/
theorem eq_of_totalNanos_eq_min {delay : Span} {total : Nat}
    (isTotal : delay.totalNanos = min total longest.totalNanos) :
    (∀ span : Span, span.totalNanos = total → delay = span)
      ∧ ((¬ ∃ span : Span, span.totalNanos = total) → delay = longest) := by
  constructor
  · rintro span rfl
    apply totalNanos_inj
    rw [isTotal, Nat.min_eq_left span.totalNanos_le_longest]
  · intro beyond
    rw [exists_totalNanos_iff] at beyond
    apply totalNanos_inj
    rw [isTotal, Nat.min_eq_right (Nat.le_of_not_le beyond)]

end Span

namespace Backoff

theorem mostSteps_make (step : Span) (mostSteps : UInt32) :
    (make step mostSteps).step = step ∧ (make step mostSteps).mostSteps.toNat = max mostSteps.toNat 1 := by
  simp only [make]
  split
  · rename_i enough
    have enough : 1 ≤ mostSteps.toNat := enough
    exact ⟨rfl, (Nat.max_eq_left enough).symm⟩
  · rename_i few
    have few : ¬ 1 ≤ mostSteps.toNat := few
    refine ⟨rfl, ?_⟩
    rw [Nat.max_eq_right (by omega)]
    rfl

/-- The delay grows with the attempts by one step each, up to the most steps and up to the longest span. -/
theorem totalNanos_delayFor (backoff : Backoff) (attempts : UInt32) :
    (backoff.delayFor attempts).totalNanos
      = min (backoff.step.totalNanos * min attempts.toNat backoff.mostSteps.toNat)
          Span.longest.totalNanos := by
  have steps : (min attempts backoff.mostSteps).toNat = min attempts.toNat backoff.mostSteps.toNat := by
    rw [Nat.min_def]
    exact apply_ite UInt32.toNat _ _ _
  rw [delayFor, Span.totalNanos_scale, steps]

/-- More attempts are no reason to wait less. -/
theorem delayFor_mono (backoff : Backoff) {fewer more : UInt32} (isFewer : fewer.toNat ≤ more.toNat) :
    (backoff.delayFor fewer).totalNanos ≤ (backoff.delayFor more).totalNanos := by
  rw [totalNanos_delayFor, totalNanos_delayFor]
  have steps : min fewer.toNat backoff.mostSteps.toNat ≤ min more.toNat backoff.mostSteps.toNat := by omega
  have nanos := Nat.mul_le_mul_left backoff.step.totalNanos steps
  omega

/-- From the most steps on all delays are the same. -/
theorem delayFor_of_most (backoff : Backoff) {attempts : UInt32}
    (isMost : backoff.mostSteps.toNat ≤ attempts.toNat) :
    backoff.delayFor attempts = backoff.delayFor backoff.mostSteps := by
  apply Span.totalNanos_inj
  rw [totalNanos_delayFor, totalNanos_delayFor, Nat.min_eq_right isMost, Nat.min_self]

/-- The delay before an attempt is as many steps as attempts went before, at most the most steps and at least
one at most.  It is the span with exactly so many nanoseconds if there is one, and the longest span if there is
none; it never shrinks as the attempts grow, and it is the same for all attempts from the most steps on. -/
theorem delay_exact_or_longest (step : Span) (mostSteps attempts : UInt32) :
    let backoff := make step mostSteps
    let delay := backoff.delayFor attempts
    let product := step.totalNanos * min attempts.toNat (max mostSteps.toNat 1)
    (delay.seconds < 0x10000000000000000 ∧ delay.nanos < 1000000000)
      ∧ (∀ span : Span, span.totalNanos = product → delay = span)
      ∧ ((¬ ∃ span : Span, span.totalNanos = product) → delay = Span.longest)
      ∧ (∀ more : UInt32, attempts ≤ more → delay.totalNanos ≤ (backoff.delayFor more).totalNanos)
      ∧ (max mostSteps 1 ≤ attempts → delay = backoff.delayFor (max mostSteps 1)) := by
  intro backoff delay product
  obtain ⟨isStep, isMost⟩ := mostSteps_make step mostSteps
  have isTotal : delay.totalNanos = min product Span.longest.totalNanos := by
    rw [totalNanos_delayFor, isStep, isMost]
  obtain ⟨exact, longest⟩ := Span.eq_of_totalNanos_eq_min isTotal
  refine ⟨⟨delay.seconds_lt, delay.nanos_lt⟩, exact, longest, ?_, ?_⟩
  · intro more isMore
    exact backoff.delayFor_mono isMore
  · intro atLeast
    have sameMost : (max mostSteps 1).toNat = backoff.mostSteps.toNat := by
      rw [isMost, Nat.max_def]
      exact apply_ite UInt32.toNat _ _ _
    have atLeast : (max mostSteps 1).toNat ≤ attempts.toNat := atLeast
    rw [UInt32.toNat_inj.1 sameMost]
    rw [sameMost] at atLeast
    exact backoff.delayFor_of_most atLeast

end Backoff

end Uplink
