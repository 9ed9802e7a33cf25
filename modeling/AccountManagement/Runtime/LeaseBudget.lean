/-
**The plan of one execution.**

Before a handler runs, the executor compares the rest of the lease with the budget of the handler
and of the settlement. `executionPlan_cases` is the inversion of a plan. `executionPlan_run`: a
handler that is run has to stop early enough to leave the storage timeout and the safety margin
before the local deadline of the lease.
-/

import AccountManagement.Runtime.Config

namespace AccountManagement.Runtime

open AccountManagement.Library AccountManagement.Task

inductive ExecutionPlan where
  | run (handlerDeadline settlementDeadline : Instant)
  | retryOnly (settlementDeadline : Instant)
  | recoverOnly
deriving DecidableEq

def executionPlan (now leaseDeadline : Instant) (handlerTimeout storageTimeout : Duration) :
    Except TaskProcessingError ExecutionPlan :=
  if handlerTimeout.isZero then .error .invalidExecutionBudget
  else
    match handlerTimeout.checkedAdd storageTimeout with
    | none => .error .invalidExecutionBudget
    | some required =>
      match leaseDeadline.checkedSub leaseSafetyMargin with
      | none => .ok .recoverOnly
      | some settlementDeadline =>
        if settlementDeadline ≤ now then .ok .recoverOnly
        else if settlementDeadline - now < required.asNanos then
          .ok (.retryOnly settlementDeadline)
        else
          match now.checkedAdd handlerTimeout with
          | none => .error .invalidExecutionBudget
          | some handlerDeadline => .ok (.run handlerDeadline settlementDeadline)

/-- **Everything a plan says.** -/
inductive Planned (now leaseDeadline : Instant) (handlerTimeout storageTimeout : Duration) :
    Except TaskProcessingError ExecutionPlan → Prop
  | invalid : Planned now leaseDeadline handlerTimeout storageTimeout
      (.error .invalidExecutionBudget)
  | recoverOnly : leaseDeadline - leaseSafetyMargin.asNanos ≤ now ∨
        ¬ Instant.Representable (leaseDeadline - leaseSafetyMargin.asNanos) →
      Planned now leaseDeadline handlerTimeout storageTimeout (.ok .recoverOnly)
  | retryOnly (settlementDeadline : Instant) :
      settlementDeadline = leaseDeadline - leaseSafetyMargin.asNanos → now < settlementDeadline →
      Instant.Representable settlementDeadline →
      settlementDeadline < now + handlerTimeout.asNanos + storageTimeout.asNanos →
      Planned now leaseDeadline handlerTimeout storageTimeout (.ok (.retryOnly settlementDeadline))
  | run (handlerDeadline settlementDeadline : Instant) :
      settlementDeadline = leaseDeadline - leaseSafetyMargin.asNanos → now < settlementDeadline →
      Instant.Representable settlementDeadline → handlerDeadline = now + handlerTimeout.asNanos →
      handlerDeadline + storageTimeout.asNanos ≤ settlementDeadline →
      Planned now leaseDeadline handlerTimeout storageTimeout
        (.ok (.run handlerDeadline settlementDeadline))

theorem executionPlan_cases (now leaseDeadline : Instant) (handlerTimeout storageTimeout : Duration) :
    Planned now leaseDeadline handlerTimeout storageTimeout
      (executionPlan now leaseDeadline handlerTimeout storageTimeout) := by
  unfold executionPlan
  split
  · exact .invalid
  · split
    · exact .invalid
    · rename_i required added
      have total := Duration.checkedAdd_asNanos added
      split
      · rename_i outside
        refine .recoverOnly (.inr fun fits => ?_)
        rw [Instant.checkedSub, if_pos fits] at outside
        cases outside
      · rename_i margin subtracted
        have safe := Instant.checkedSub_eq subtracted
        have fits := Instant.checkedSub_representable subtracted
        split
        · rename_i late
          rw [safe] at late
          exact .recoverOnly (.inl late)
        · rename_i early
          have before : now < margin := not_le.mp early
          split
          · rename_i short
            refine .retryOnly margin safe before fits ?_
            rw [total, Nat.cast_add] at short
            rw [add_assoc]
            exact sub_lt_iff_lt_add'.mp short
          · rename_i enough
            split
            · exact .invalid
            · rename_i later handled
              have first := Instant.checkedAdd_eq handled
              refine .run later margin safe before fits first ?_
              have rest : (required.asNanos : Int) ≤ margin - now := not_lt.mp enough
              rw [total, Nat.cast_add] at rest
              rw [first, add_assoc]
              exact le_sub_iff_add_le'.mp rest

/-- **A handler that is run** leaves its settlement the whole storage timeout, and ends the safety
margin before the lease. -/
theorem executionPlan_run {now leaseDeadline handlerDeadline settlementDeadline : Instant}
    {handlerTimeout storageTimeout : Duration}
    (planned : executionPlan now leaseDeadline handlerTimeout storageTimeout
      = .ok (.run handlerDeadline settlementDeadline)) :
    handlerDeadline = now + handlerTimeout.asNanos ∧
      settlementDeadline = leaseDeadline - leaseSafetyMargin.asNanos ∧
      handlerDeadline + storageTimeout.asNanos ≤ settlementDeadline := by
  have cases := executionPlan_cases now leaseDeadline handlerTimeout storageTimeout
  rw [planned] at cases
  cases cases with
  | run _ _ safe _ _ first enough => exact ⟨first, safe, enough⟩

end AccountManagement.Runtime
