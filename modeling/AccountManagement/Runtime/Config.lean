/-
**The checked budgets of the task runtime.**

The storage timeout, the limits of the worker pool and their combination. What a constructor has
checked is a field of its type; a `TaskRuntimeConfig` exists only for a pool whose lease covers the
whole budget.
-/

import AccountManagement.Task.Queue

namespace AccountManagement.Runtime

open AccountManagement.Library AccountManagement.Task

inductive TaskStorageConfigError where
  | invalidEnvironmentValue
  | invalidStorageTimeout
deriving DecidableEq

/-- The end-to-end budget of one storage operation. -/
structure TaskStorageConfig where
  storageTimeout : Duration
  timeoutPositive : storageTimeout.isZero = false
  timeoutFits : storageTimeout.asMillis ≤ 2 ^ 63 - 1

def TaskStorageConfig.new (storageTimeout : Duration) :
    Except TaskStorageConfigError TaskStorageConfig :=
  if valid : storageTimeout.isZero = false ∧ storageTimeout.asMillis ≤ 2 ^ 63 - 1 then
    .ok ⟨storageTimeout, valid.1, valid.2⟩
  else .error .invalidStorageTimeout

/-- Six seconds. -/
def TaskStorageConfig.default : TaskStorageConfig := ⟨.fromSecs 6, by decide, by decide⟩

inductive TaskWorkerPoolConfigError where
  | invalidEnvironmentValue (name : String)
  | invalidConcurrency
  | invalidQueueCapacity
  | invalidPollInterval
  | invalidHandlerTimeout
  | invalidLeaseDuration
  | invalidStorageTimeout
  | leaseBudgetOverflow
  | leaseTooShort
deriving DecidableEq

/-- An eighth of the range of a 64-bit size. -/
def maxQueueCapacity : Nat := (2 ^ 64 - 1) / 2 ^ 3

/-- The limits of the worker pool. -/
structure TaskWorkerPoolConfig where
  concurrency : Nat
  queueCapacity : Nat
  pollInterval : Duration
  handlerTimeout : Duration
  leaseDuration : Duration
  concurrencyPositive : concurrency ≠ 0
  capacityValid : queueCapacity ≠ 0 ∧ queueCapacity ≤ maxQueueCapacity
  pollValid : pollInterval.isZero = false ∧ pollInterval.asMillis ≤ 2 ^ 63 - 1
  leaseValid : leaseDuration.isZero = false ∧ leaseDuration.asMillis ≤ 2 ^ 63 - 1
  handlerValid : handlerTimeout.isZero = false ∧ handlerTimeout < leaseDuration

namespace TaskWorkerPoolConfig

def new (concurrency queueCapacity : Nat) (pollInterval handlerTimeout leaseDuration : Duration) :
    Except TaskWorkerPoolConfigError TaskWorkerPoolConfig :=
  if concurrencyPositive : concurrency ≠ 0 then
    if capacityValid : queueCapacity ≠ 0 ∧ queueCapacity ≤ maxQueueCapacity then
      if pollValid : pollInterval.isZero = false ∧ pollInterval.asMillis ≤ 2 ^ 63 - 1 then
        if leaseValid : leaseDuration.isZero = false ∧ leaseDuration.asMillis ≤ 2 ^ 63 - 1 then
          if handlerValid : handlerTimeout.isZero = false ∧ handlerTimeout < leaseDuration then
            .ok ⟨concurrency, queueCapacity, pollInterval, handlerTimeout, leaseDuration,
              concurrencyPositive, capacityValid, pollValid, leaseValid, handlerValid⟩
          else .error .invalidHandlerTimeout
        else .error .invalidLeaseDuration
      else .error .invalidPollInterval
    else .error .invalidQueueCapacity
  else .error .invalidConcurrency

/-- Every configuration is the one that is made of its parts. -/
theorem new_self (config : TaskWorkerPoolConfig) :
    new config.concurrency config.queueCapacity config.pollInterval config.handlerTimeout
      config.leaseDuration = .ok config := by
  rw [new, dif_pos config.concurrencyPositive, dif_pos config.capacityValid,
    dif_pos config.pollValid, dif_pos config.leaseValid, dif_pos config.handlerValid]

/-- 128 workers, 128 waiting deliveries, a poll every second, 15 seconds for a handler and a lease
of 60. -/
def default : TaskWorkerPoolConfig :=
  ⟨128, 128, .fromSecs 1, .fromSecs 15, .fromSecs 60,
    by decide, by decide, by decide, by decide, by decide⟩

/-- The rounds in which the workers empty a full queue. -/
def waves (config : TaskWorkerPoolConfig) : Nat :=
  (config.queueCapacity + config.concurrency - 1) / config.concurrency

/-- A 128-bit number of nanoseconds as a duration. -/
def durationOfNanos (nanos : Nat) : Option Duration :=
  if nanos < 2 ^ 128 then
    Duration.ofParts (nanos / 1000000000) (nanos % 1000000000) (Duration.subsec_lt nanos)
  else none

/-- What a lease has to exceed: two storage operations, the handler, the safety margin and the
rounds of the queued deliveries. -/
def requiredLease (config : TaskWorkerPoolConfig) (storageTimeout : Duration) : Option Duration := do
  let invocation ← config.handlerTimeout.checkedAdd storageTimeout
  let queued ← durationOfNanos (invocation.asNanos * config.waves)
  let twice ← storageTimeout.checkedMul 2
  let handled ← twice.checkedAdd config.handlerTimeout
  let safe ← handled.checkedAdd leaseSafetyMargin
  safe.checkedAdd queued

def validateForStorageTimeout (config : TaskWorkerPoolConfig) (storageTimeout : Duration) :
    Except TaskWorkerPoolConfigError Unit :=
  if storageTimeout.isZero then .error .invalidStorageTimeout
  else
    match config.requiredLease storageTimeout with
    | none => .error .leaseBudgetOverflow
    | some required =>
      if config.leaseDuration ≤ required then .error .leaseTooShort else .ok ()

theorem durationOfNanos_asNanos {nanos : Nat} {duration : Duration}
    (made : durationOfNanos nanos = some duration) : duration.asNanos = nanos := by
  unfold durationOfNanos at made
  split at made
  · rw [Duration.ofParts_asNanos made]
    omega
  · cases made

/-- The required lease is exact, and its parts have not overflowed. -/
theorem requiredLease_asNanos {config : TaskWorkerPoolConfig} {storageTimeout required : Duration}
    (enough : config.requiredLease storageTimeout = some required) :
    ∃ invocation, config.handlerTimeout.checkedAdd storageTimeout = some invocation ∧
      required.asNanos = storageTimeout.asNanos * 2 + config.handlerTimeout.asNanos
        + leaseSafetyMargin.asNanos + invocation.asNanos * config.waves := by
  unfold requiredLease at enough
  obtain ⟨invocation, added, enough⟩ := Option.bind_eq_some_iff.mp enough
  obtain ⟨queued, rounds, enough⟩ := Option.bind_eq_some_iff.mp enough
  obtain ⟨twice, doubled, enough⟩ := Option.bind_eq_some_iff.mp enough
  obtain ⟨handled, more, enough⟩ := Option.bind_eq_some_iff.mp enough
  obtain ⟨safe, margin, enough⟩ := Option.bind_eq_some_iff.mp enough
  refine ⟨invocation, added, ?_⟩
  rw [Duration.checkedAdd_asNanos enough, Duration.checkedAdd_asNanos margin,
    Duration.checkedAdd_asNanos more, Duration.checkedMul_asNanos doubled,
    durationOfNanos_asNanos rounds]

/-- **An accepted lease** exceeds the required one. -/
theorem validateForStorageTimeout_ok {config : TaskWorkerPoolConfig} {storageTimeout : Duration}
    (accepted : config.validateForStorageTimeout storageTimeout = .ok ()) :
    ∃ required, config.requiredLease storageTimeout = some required ∧
      required.asNanos < config.leaseDuration.asNanos := by
  unfold validateForStorageTimeout at accepted
  split at accepted
  · cases accepted
  · split at accepted
    · cases accepted
    · rename_i required enough
      split at accepted
      · cases accepted
      · rename_i longer
        exact ⟨required, enough, Nat.not_le.mp longer⟩

end TaskWorkerPoolConfig

inductive TaskRuntimeConfigError where
  | storage (error : TaskStorageConfigError)
  | worker (error : TaskWorkerPoolConfigError)
deriving DecidableEq

/-- Storage and worker budgets that fit together. -/
structure TaskRuntimeConfig where
  storage : TaskStorageConfig
  worker : TaskWorkerPoolConfig
  valid : worker.validateForStorageTimeout storage.storageTimeout = .ok ()

def TaskRuntimeConfig.new (storage : TaskStorageConfig) (worker : TaskWorkerPoolConfig) :
    Except TaskRuntimeConfigError TaskRuntimeConfig :=
  match valid : worker.validateForStorageTimeout storage.storageTimeout with
  | .error error => .error (.worker error)
  | .ok () => .ok ⟨storage, worker, valid⟩

def TaskRuntimeConfig.default : TaskRuntimeConfig := ⟨.default, .default, by decide⟩

end AccountManagement.Runtime
