/-
**The budget validator is exact.**

`validate_for_storage_timeout` computes the lease a pool needs on machine words, with checked sums
and products and a conversion through 128 bits. `validateWords` is that computation operation by
operation, with a failure wherever a plain operation would panic or wrap.

* `validateWords_eq`: it never fails, and is the exact validator;
* `requiredLease_of_lt`: an overflow is answered only where the budget exceeds every lease;
* `validator_exact`: the lease is accepted exactly if, in whole nanoseconds, it exceeds the budget.
-/

import Mathlib.Algebra.Order.Floor.Div
import AccountManagement.Library.Words
import AccountManagement.Runtime.Config

namespace AccountManagement.Runtime

open AccountManagement.Library AccountManagement.Task
open Words

namespace TaskWorkerPoolConfig

variable (config : TaskWorkerPoolConfig) (storageTimeout : Duration)

/-! ### On machine words -/

/-- The time of the queued rounds. -/
def queuedWords (invocation : Duration) (waves : Nat) : Words Duration := do
  let nanos ← invocation.asNanosWords
  let queuedNanos ← checked 128 (nanos * waves)
  let queuedSeconds ← checked 64 (queuedNanos / 1000000000)
  let rest ← plain 32 (queuedNanos % 1000000000)
  Duration.newWords queuedSeconds rest

def requiredLeaseWords : Words Duration := do
  let waves ← divCeil config.queueCapacity config.concurrency
  let invocation ← config.handlerTimeout.checkedAddWords storageTimeout
  let queued ← queuedWords invocation waves
  let twice ← storageTimeout.checkedMulWords 2
  let handled ← twice.checkedAddWords config.handlerTimeout
  let safe ← handled.checkedAddWords leaseSafetyMargin
  safe.checkedAddWords queued

/-- The validator on machine words; no value where it would panic or wrap. -/
def validateWords : Option (Except TaskWorkerPoolConfigError Unit) :=
  if storageTimeout.isZero then some (.error .invalidStorageTimeout)
  else (config.requiredLeaseWords storageTimeout).run.map fun required =>
    match required with
    | none => .error .leaseBudgetOverflow
    | some required =>
      if config.leaseDuration.leWords required then .error .leaseTooShort else .ok ()

theorem queuedWords_eq (invocation : Duration) (waves : Nat) :
    queuedWords invocation waves = answer (durationOfNanos (invocation.asNanos * waves)) := by
  have rest : invocation.asNanos * waves % 1000000000 < 1000000000 := Nat.mod_lt _ (by norm_num)
  rw [queuedWords, Duration.asNanosWords_eq, answer_some_bind, durationOfNanos]
  split
  · rename_i fits
    rw [checked_of_lt fits, answer_some_bind]
    by_cases secsFit : invocation.asNanos * waves / 1000000000 < 2 ^ 64
    · rw [checked_of_lt secsFit, answer_some_bind, plain_of_lt (rest.trans (by norm_num)),
        answer_some_bind, Duration.newWords_eq secsFit rest, Duration.ofParts, dif_pos secsFit]
    · rw [checked_of_le (Nat.not_lt.mp secsFit), answer_none_bind, Duration.ofParts, dif_neg secsFit]
  · rename_i overflows
    rw [checked_of_le (Nat.not_lt.mp overflows), answer_none_bind]

theorem requiredLeaseWords_eq :
    config.requiredLeaseWords storageTimeout = answer (config.requiredLease storageTimeout) := by
  have fits : config.queueCapacity < 2 ^ 64 :=
    config.capacityValid.2.trans_lt (by decide)
  have small : 2 < 2 ^ 32 := by decide
  simp only [requiredLeaseWords, divCeil_eq config.concurrencyPositive fits,
    Duration.checkedAddWords_eq, queuedWords_eq, Duration.checkedMulWords_eq _ small, answer_bind]
  rfl

/-- **The machine computes the exact validator**: nothing panics and nothing wraps. -/
theorem validateWords_eq :
    config.validateWords storageTimeout = some (config.validateForStorageTimeout storageTimeout) := by
  rw [validateWords, validateForStorageTimeout, requiredLeaseWords_eq]
  split
  · rfl
  · cases config.requiredLease storageTimeout with
    | none => rfl
    | some required =>
      have same := Duration.leWords_iff config.leaseDuration required
      show some (if _ then _ else _) = some (if _ then _ else _)
      simp only [same]

/-! ### In whole nanoseconds -/

/-- What a lease has to exceed, in unbounded nanoseconds. -/
def budget : Nat :=
  2 * storageTimeout.asNanos + config.handlerTimeout.asNanos + 5 * 10 ^ 9 +
    (config.queueCapacity ⌈/⌉ config.concurrency) *
      (config.handlerTimeout.asNanos + storageTimeout.asNanos)

variable {config storageTimeout}

theorem budget_eq (config : TaskWorkerPoolConfig) (storageTimeout : Duration) :
    config.budget storageTimeout = storageTimeout.asNanos * 2 + config.handlerTimeout.asNanos +
      leaseSafetyMargin.asNanos +
        (config.handlerTimeout.asNanos + storageTimeout.asNanos) * config.waves := by
  rw [budget, Nat.ceilDiv_eq_add_pred_div, waves, Nat.mul_comm 2, Nat.mul_comm (_ / _)]
  rfl

theorem requiredLease_budget {required : Duration}
    (enough : config.requiredLease storageTimeout = some required) :
    required.asNanos = config.budget storageTimeout := by
  obtain ⟨invocation, added, same⟩ := requiredLease_asNanos enough
  rw [same, Duration.checkedAdd_asNanos added, budget_eq]

theorem durationOfNanos_of_lt {nanos : Nat} (fits : nanos < 2 ^ 64 * 1000000000) :
    ∃ duration, durationOfNanos nanos = some duration := by
  rw [durationOfNanos, if_pos (fits.trans (by norm_num))]
  exact Duration.exists_ofParts (by omega) _

/-- The required lease is a duration whenever it is below one. -/
theorem requiredLease_of_lt (fits : config.budget storageTimeout < 2 ^ 64 * 1000000000) :
    ∃ required, config.requiredLease storageTimeout = some required := by
  have part : ∀ nanos, nanos ≤ config.budget storageTimeout → nanos < 2 ^ 64 * 1000000000 :=
    fun nanos below => below.trans_lt fits
  clear fits
  rw [budget_eq] at part
  obtain ⟨invocation, added⟩ := Duration.checkedAdd_of_lt (part
    (config.handlerTimeout.asNanos + storageTimeout.asNanos) (by omega))
  rw [← Duration.checkedAdd_asNanos added] at part
  obtain ⟨queued, rounds⟩ := durationOfNanos_of_lt (part
    (invocation.asNanos * config.waves) (Nat.le_add_left _ _))
  obtain ⟨twice, doubled⟩ := Duration.checkedMul_of_lt (part (storageTimeout.asNanos * 2) (by omega))
  rw [← Duration.checkedMul_asNanos doubled, ← durationOfNanos_asNanos rounds] at part
  obtain ⟨handled, more⟩ := Duration.checkedAdd_of_lt (part
    (twice.asNanos + config.handlerTimeout.asNanos) (by omega))
  rw [← Duration.checkedAdd_asNanos more] at part
  obtain ⟨safe, margin⟩ := Duration.checkedAdd_of_lt (part
    (handled.asNanos + leaseSafetyMargin.asNanos) (Nat.le_add_right _ _))
  rw [← Duration.checkedAdd_asNanos margin] at part
  obtain ⟨required, last⟩ := Duration.checkedAdd_of_lt (part (safe.asNanos + queued.asNanos) le_rfl)
  refine ⟨required, Option.bind_eq_some_iff.mpr ⟨invocation, added, ?_⟩⟩
  refine Option.bind_eq_some_iff.mpr ⟨queued, rounds, ?_⟩
  refine Option.bind_eq_some_iff.mpr ⟨twice, doubled, ?_⟩
  refine Option.bind_eq_some_iff.mpr ⟨handled, more, ?_⟩
  exact Option.bind_eq_some_iff.mpr ⟨safe, margin, last⟩

theorem isZero_false_iff (duration : Duration) : duration.isZero = false ↔ 0 < duration.asNanos := by
  refine ⟨Duration.asNanos_pos, fun positive => ?_⟩
  cases zero : duration.isZero with
  | false => rfl
  | true =>
    simp only [Duration.isZero, Bool.and_eq_true, beq_iff_eq] at zero
    simp [Duration.asNanos, zero] at positive

theorem validate_ok_iff :
    config.validateForStorageTimeout storageTimeout = .ok () ↔
      0 < storageTimeout.asNanos ∧ config.budget storageTimeout < config.leaseDuration.asNanos := by
  constructor
  · intro accepted
    obtain ⟨required, enough, longer⟩ := validateForStorageTimeout_ok accepted
    rw [requiredLease_budget enough] at longer
    refine ⟨(isZero_false_iff _).mp ?_, longer⟩
    cases zero : storageTimeout.isZero with
    | false => rfl
    | true =>
      rw [validateForStorageTimeout, if_pos zero] at accepted
      cases accepted
  · rintro ⟨positive, longer⟩
    obtain ⟨required, enough⟩ :=
      requiredLease_of_lt (longer.trans config.leaseDuration.asNanos_lt)
    have exceeds : ¬ config.leaseDuration ≤ required := by
      rw [← requiredLease_budget enough] at longer
      exact Nat.not_le.mpr longer
    have nonzero := (isZero_false_iff storageTimeout).mpr positive
    simp only [validateForStorageTimeout, nonzero, enough, if_neg exceeds, Bool.false_eq_true,
      if_false]

/-- **The validator is exact.** On machine words it neither panics nor wraps; it accepts a storage
timeout exactly if that is positive and the lease exceeds the budget; an overflow is reported only
for a lease that does not; and an accepted timeout can be added to the handler's, as the drain
does. -/
theorem validator_exact (config : TaskWorkerPoolConfig) (storageTimeout : Duration) :
    config.validateWords storageTimeout = some (config.validateForStorageTimeout storageTimeout) ∧
    (config.validateForStorageTimeout storageTimeout = .ok () ↔
      0 < storageTimeout.asNanos ∧
        config.budget storageTimeout < config.leaseDuration.asNanos) ∧
    (config.validateForStorageTimeout storageTimeout = .error .leaseBudgetOverflow →
      ¬ config.budget storageTimeout < config.leaseDuration.asNanos) ∧
    (config.validateForStorageTimeout storageTimeout = .ok () →
      ∃ total, config.handlerTimeout.checkedAdd storageTimeout = some total ∧
        total.asNanos = config.handlerTimeout.asNanos + storageTimeout.asNanos) := by
  refine ⟨config.validateWords_eq storageTimeout, validate_ok_iff, fun overflow => ?_,
    fun accepted => ?_⟩
  · intro longer
    obtain ⟨required, enough⟩ :=
      requiredLease_of_lt (longer.trans config.leaseDuration.asNanos_lt)
    unfold validateForStorageTimeout at overflow
    rw [enough] at overflow
    split at overflow
    · cases overflow
    · simp only at overflow
      split at overflow <;> cases overflow
  · obtain ⟨required, enough, _⟩ := validateForStorageTimeout_ok accepted
    obtain ⟨total, added, _⟩ := requiredLease_asNanos enough
    exact ⟨total, added, Duration.checkedAdd_asNanos added⟩

end TaskWorkerPoolConfig

end AccountManagement.Runtime
