/-
**The local deadline of a lease.**

A claim counts the lease from an instant before its statement, in full precision, and asks the
database for whole milliseconds, as a double. The local clock is that of the database with an
offset, and the delay is the time from the local instant to the evaluation of the UPDATE.

* `deadline_conservative_iff`: the local deadline of a delivery is not later than the end of the
  lease in its row exactly if what the database leaves of the lease out is at most the delay;
* `deadline_late`: a lease of a second and a nanosecond, granted at once, ends in the database
  before the local deadline.
-/

import AccountManagement.Library.Results
import AccountManagement.Outbox.Statements
import AccountManagement.Runtime.Config
import AccountManagement.Store.Framework

namespace AccountManagement.Runtime

open AccountManagement.Library AccountManagement.Task AccountManagement.Outbox

/-- A deadline that counts the whole lease, against an end that counts its microseconds in the
database. -/
theorem deadline_le_afterMillis_iff (anchor offset : Int) (reading : DateTime) (lease : Duration) :
    anchor + lease.asNanos ≤ afterMillis reading (millisAsDouble lease) + offset ↔
      (lease.asNanos : Int) - 1000 * intervalMicros (millisAsDouble lease)
        ≤ reading + offset - anchor := by
  unfold afterMillis
  constructor
  · intro bound
    omega
  · intro bound
    omega

/-- Where the doubles are exact, only the part of the lease below a millisecond is missing. -/
theorem missing_eq {lease : Duration} (small : 1000 * lease.asMillis ≤ 2 ^ 53) :
    (lease.asNanos : Int) - 1000 * intervalMicros (millisAsDouble lease)
      = (lease.asNanos % 1000000 : Nat) := by
  rw [intervalMicros_exact small, lease.asMillis_eq]
  omega

section Claims

variable {Value : Type} [JsonValue Value]

/-- **The local deadline is conservative exactly up to the delay.** For every delivery of a claim
with the lease of a pool's configuration: its row has the token of the delivery and the end of the
lease as the database computes it, and the local deadline is not later exactly if what the database
leaves of the lease out is at most the delay. Up to 2 ^ 53 microseconds that is the part of the
lease below a millisecond. -/
theorem deadline_conservative_iff (config : TaskWorkerPoolConfig)
    {rows updated : List (OutboxRow Value)} (checks : ∀ row ∈ rows, row.Checks)
    (distinct : (rows.map OutboxRow.id).Nodup) {format : TaskFormat} {owner : String} {limit : Nat}
    {anchor : Instant} {now : DateTime} {locked : Uuid → Bool} {grants : Uuid → Grant}
    {tasks : List (LeasedTask Value)}
    (claimed : claim format owner limit config.leaseDuration anchor now locked grants rows
      = (updated, .ok tasks)) (offset : Int) :
    ∀ task ∈ tasks, ∃ row ∈ updated, row.id = task.attempt.id ∧
      row.lockToken = some task.lease.lockToken ∧
      let until_ := afterMillis (grants row.id).reading (millisAsDouble config.leaseDuration)
      let delay := (grants row.id).reading + offset - anchor
      row.lockedUntil = some until_ ∧
        (task.lease.deadline ≤ until_ + offset ↔
          (config.leaseDuration.asNanos : Int)
            - 1000 * intervalMicros (millisAsDouble config.leaseDuration) ≤ delay) ∧
        (1000 * config.leaseDuration.asMillis ≤ 2 ^ 53 →
          (task.lease.deadline ≤ until_ + offset ↔
            ((config.leaseDuration.asNanos % 1000000 : Nat) : Int) ≤ delay)) := by
  rcases claim_cases checks distinct format owner limit config.leaseDuration anchor now locked
    grants with ⟨reason, rejected⟩ | ⟨deadline, granted, added, _, answered, delivered⟩
  · exact absurd (claimed.symm.trans rejected) (by simp)
  · obtain ⟨rfl, same⟩ := Prod.mk.inj (claimed.symm.trans answered)
    obtain rfl := Except.ok.inj same
    intro task member
    obtain ⟨row, chosen, made⟩ := exists_left_of_forall₂ delivered member
    have known : row ∈ rows := (mem_selectRows chosen).1
    have bound := deadline_le_afterMillis_iff anchor offset (grants row.id).reading
      config.leaseDuration
    refine ⟨grantedRow owner (millisAsDouble config.leaseDuration) grants row, ?_, made.id.symm, ?_,
      rfl, ?_, fun small => ?_⟩
    · refine List.mem_map.mpr ⟨row, known, if_pos ?_⟩
      exact List.mem_map_of_mem chosen
    · rw [made.lease]
      rfl
    · rw [made.lease, Instant.checkedAdd_eq added]
      exact bound
    · rw [made.lease, Instant.checkedAdd_eq added, ← missing_eq small]
      exact bound

end Claims

/-! ### A lease with a part below a millisecond -/

/-- A second and a nanosecond. -/
def unevenLease : Duration := .fromNanos 1000000001

/-- One worker that leases its deliveries for a second and a nanosecond. -/
def unevenConfig : TaskWorkerPoolConfig :=
  ⟨1, 1, .fromSecs 1, .fromNanos 1, unevenLease,
    Nat.one_ne_zero, by decide, TaskWorkerPoolConfig.default.pollValid, by decide, by decide⟩

def pendingRow : OutboxRow (Store.PlainValue Nat Nat) where
  id := 7
  aggregateType := "account"
  aggregateId := "a"
  aggregateSequence := 1
  taskType := "mail"
  taskVersion := 1
  payload := .object
  metadata := .object
  status := .pending
  availableAt := 0
  finishedAt := none
  attempts := 0
  maxAttempts := 3
  lastError := none
  lockedBy := none
  lockToken := none
  lockedUntil := none

/-- A claim of the row whose UPDATE reads its clock `delay` nanoseconds after the local
instant 0. -/
def pendingClaim (delay : Nat) : List (OutboxRow (Store.PlainValue Nat Nat)) ×
    Except TaskProcessingError (List (LeasedTask (Store.PlainValue Nat Nat))) :=
  claim mailFormat "worker" 1 unevenConfig.leaseDuration 0 0 (fun _ => false) (fun _ => ⟨9, delay⟩)
    [pendingRow]

/-- The row and the delivery of that claim. -/
def claimedRow (delay : Nat) : OutboxRow (Store.PlainValue Nat Nat) :=
  pendingRow.claimed "worker" 9 (1000000000 + delay)

def claimedTask : LeasedTask (Store.PlainValue Nat Nat) :=
  ⟨⟨7, mailFormat, .object, .object, 1, Store.PlainValue.isObject_object,
    Store.PlainValue.isObject_object, Int.zero_lt_one⟩, ⟨9, 1000000001⟩⟩

/-- **A deadline after the end of the lease.** The configuration is accepted, the claim succeeds
without a delay, and the row is free a nanosecond before the local deadline. -/
theorem deadline_late :
    TaskWorkerPoolConfig.new 1 1 unevenConfig.pollInterval unevenConfig.handlerTimeout unevenLease
        = .ok unevenConfig ∧
      pendingClaim 0 = ([claimedRow 0], .ok [claimedTask]) ∧
      (claimedRow 0).lockedUntil = some 1000000000 ∧
      claimedTask.lease.deadline = 1000000001 :=
  ⟨TaskWorkerPoolConfig.new_self unevenConfig, by decide +kernel, rfl, rfl⟩

/-- With a delay of a nanosecond the same lease has a conservative deadline. -/
theorem deadline_conservative_iff_pendingClaim :
    pendingClaim 1 = ([claimedRow 1], .ok [claimedTask]) ∧
      (claimedRow 1).lockedUntil.any (claimedTask.lease.deadline ≤ ·) = true := by
  have claimed : pendingClaim 1 = ([claimedRow 1], .ok [claimedTask]) := by decide +kernel
  have checks : ∀ row ∈ [pendingRow], row.Checks := by decide +kernel
  have bound := deadline_conservative_iff unevenConfig checks (by decide +kernel) claimed 0
  obtain ⟨row, member, _, _, ends, late, _⟩ := bound claimedTask List.mem_cons_self
  obtain rfl := List.mem_singleton.mp member
  refine ⟨claimed, ?_⟩
  rw [ends, Option.any_some]
  refine decide_eq_true ?_
  simpa using late.mpr (by decide +kernel)

/-- Whole seconds that are no double in microseconds. -/
example : intervalMicros (millisAsDouble (.fromSecs 576460752305)) + 64
    = 1000 * (Duration.fromSecs 576460752305).asMillis := by decide +kernel

end AccountManagement.Runtime
