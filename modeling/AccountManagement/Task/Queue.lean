/-
**The queue port: requests, leases and reported results.**

The data the queue adapter, the executor and the workers exchange, and the redelivery backoff.
`backoffNanos_bounds`: every backoff lies between 4 and 300 seconds, whatever the attempt and the
jitter, so it is always representable as milliseconds (`milliseconds_redeliveryBackoff`).
-/

import AccountManagement.Library.Double
import AccountManagement.Task.Data

namespace AccountManagement.Task

open AccountManagement.Library

inductive QueueRequestError where
  | invalidLimit
  | invalidLeaseDuration
  | invalidRetryDelay
deriving DecidableEq

inductive TaskProcessingError where
  | invalidRequest (reason : QueueRequestError)
  | invalidDelivery
  | invalidExecutionBudget
  | unavailable
  | timedOut
  | leaseBudgetExhausted
deriving DecidableEq

/-- A requested transition; storage may reject it or exhaust the attempt budget. -/
inductive SettlementRequest where
  | completed
  | retry (delay : Duration) (reason : String)
  | failed (reason : String)
deriving DecidableEq

inductive TaskFailureCause where
  | permanentRejection
  | attemptLimitReached
  | leaseExpired
deriving DecidableEq

structure TaskFailure where
  id : Uuid
  format : TaskFormat
  attempt : Int
  cause : TaskFailureCause
deriving DecidableEq

/-- A confirmed settlement. -/
inductive SettlementResult where
  | ownershipLost
  | completed
  | retryScheduled
  | failed (failure : TaskFailure)
deriving DecidableEq

/-- A confirmed recovery. -/
structure LeaseRecoveryReport where
  retriedCount : Nat
  failures : List TaskFailure
deriving DecidableEq

/-- The reserve kept at the end of every lease. -/
def leaseSafetyMargin : Duration := .fromSecs 5

/-- The ownership token of a delivery and its conservative local deadline. -/
structure TaskLease where
  lockToken : Uuid
  deadline : Instant
deriving DecidableEq

/-- A delivery with its lease. -/
structure LeasedTask (Value : Type) [JsonValue Value] where
  attempt : TaskAttempt Value
  lease : TaskLease
deriving DecidableEq

/-- The whole milliseconds of a duration as a double. -/
def millisAsDouble (duration : Duration) : Nat := nearestDouble duration.asMillis

/-- Whole milliseconds, when they fit into a signed 64-bit number. -/
def milliseconds (duration : Duration) (invalid : QueueRequestError) :
    Except TaskProcessingError Nat :=
  if duration.asMillis ≤ 2 ^ 63 - 1 then
    .ok (millisAsDouble duration)
  else
    .error (.invalidRequest invalid)

/-- A jitter factor between 0.8 and 1.2, in billionths. -/
structure Jitter where
  billionths : Nat
  low : 800000000 ≤ billionths
  high : billionths ≤ 1200000000

/-- The factor that leaves a delay as it is. -/
def Jitter.neutral : Jitter := ⟨1000000000, by omega, by omega⟩

/-- The exponential base in seconds: 5 doubled up to six times, at most 300. -/
def backoffBase (attempt : Int) : Nat := min (5 * 2 ^ (min (attempt - 1).toNat 6)) 300

/-- The nanoseconds of a jittered backoff. -/
def backoffNanos (attempt : Int) (jitter : Jitter) : Nat :=
  min (backoffBase attempt * jitter.billionths) 300000000000

theorem backoffBase_bounds (attempt : Int) : 5 ≤ backoffBase attempt ∧ backoffBase attempt ≤ 300 := by
  unfold backoffBase
  have : 1 ≤ 2 ^ min (attempt - 1).toNat 6 := Nat.one_le_two_pow
  omega

/-- **Every backoff lies between 4 and 300 seconds.** -/
theorem backoffNanos_bounds (attempt : Int) (jitter : Jitter) :
    4000000000 ≤ backoffNanos attempt jitter ∧ backoffNanos attempt jitter ≤ 300000000000 := by
  unfold backoffNanos
  have product := Nat.mul_le_mul (backoffBase_bounds attempt).1 jitter.low
  omega

/-- The jittered redelivery backoff, also used after lease expiry. -/
def redeliveryBackoff (attempt : Int) (jitter : Jitter) : Duration where
  secs := backoffNanos attempt jitter / 1000000000
  subsecNanos := backoffNanos attempt jitter % 1000000000
  secsFit := by
    have := (backoffNanos_bounds attempt jitter).2
    omega
  nanosFit := Nat.mod_lt _ (by norm_num)

theorem asNanos_redeliveryBackoff (attempt : Int) (jitter : Jitter) :
    (redeliveryBackoff attempt jitter).asNanos = backoffNanos attempt jitter := by
  unfold redeliveryBackoff Duration.asNanos
  exact Nat.div_add_mod' _ _

/-- A backoff is always representable as milliseconds. -/
theorem milliseconds_redeliveryBackoff (attempt : Int) (jitter : Jitter)
    (invalid : QueueRequestError) :
    milliseconds (redeliveryBackoff attempt jitter) invalid
      = .ok (millisAsDouble (redeliveryBackoff attempt jitter)) := by
  have bounds := (backoffNanos_bounds attempt jitter).2
  have fits : (redeliveryBackoff attempt jitter).asMillis ≤ 2 ^ 63 - 1 := by
    rw [Duration.asMillis_eq, asNanos_redeliveryBackoff]
    omega
  exact if_pos fits

end AccountManagement.Task
