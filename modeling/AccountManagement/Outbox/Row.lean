/-
**Rows of the transactional outbox.**

The columns of the table, its CHECK constraints (`Checks`), and what each statement of the runtime
assigns in one row: publication, claim, settlement, recovery and manual requeue. Every assignment
keeps the constraints when its WHERE clause holds: `published_checks`, `claimed_checks`,
`settled_checks`, `recovered_checks`, `requeued_checks`; and none of the updates touches the
identity of a row (`Identity`).
-/

import AccountManagement.Task.Queue

namespace AccountManagement.Outbox

open AccountManagement.Library AccountManagement.Task

inductive TaskStatus where
  | pending
  | processing
  | completed
  | failed
deriving DecidableEq

/-- A row of the table, without the creation time, which nothing reads. -/
structure OutboxRow (Value : Type) where
  id : Uuid
  aggregateType : String
  aggregateId : String
  aggregateSequence : Nat
  taskType : String
  taskVersion : Int
  payload : Value
  metadata : Value
  status : TaskStatus
  availableAt : DateTime
  finishedAt : Option DateTime
  attempts : Int
  maxAttempts : Int
  lastError : Option String
  lockedBy : Option String
  lockToken : Option Uuid
  lockedUntil : Option DateTime
deriving DecidableEq

/-! ### Times in the database

Timestamps are integers without bounds. The server keeps whole microseconds of a time that is bound
to a parameter and rejects times out of its range; neither is modelled. -/

/-- `$1 * interval '1 millisecond'`, in microseconds: the database multiplies doubles. -/
def intervalMicros (millis : Nat) : Nat := nearestDouble (1000 * millis)

/-- The time after a number of milliseconds. -/
def afterMillis (now : DateTime) (millis : Nat) : DateTime :=
  now + 1000 * (intervalMicros millis : Int)

theorem le_afterMillis (now : DateTime) (millis : Nat) : now ≤ afterMillis now millis :=
  Int.le_add_of_nonneg_right (Int.mul_nonneg (by decide) (Int.natCast_nonneg _))

/-- The doubles are exact up to 2 ^ 53 microseconds. -/
theorem intervalMicros_exact {delay : Duration} (small : 1000 * delay.asMillis ≤ 2 ^ 53) :
    intervalMicros (millisAsDouble delay) = 1000 * delay.asMillis := by
  have millis : millisAsDouble delay = delay.asMillis := nearestDouble_of_le (by omega)
  rw [intervalMicros, millis, nearestDouble_of_le small]

/-- Of accepted durations they lose at most 512 milliseconds and 2 ^ 19 microseconds. -/
theorem intervalMicros_near {delay : Duration} (fits : delay.asMillis ≤ 2 ^ 63 - 1) :
    1000 * delay.asMillis ≤ intervalMicros (millisAsDouble delay) + 1036288 := by
  have millis := nearestDouble_near (k := 10) (show delay.asMillis < 2 ^ (53 + 10) by omega)
  have micros := nearestDouble_near (k := 20)
    (show 1000 * millisAsDouble delay < 2 ^ (53 + 20) by unfold millisAsDouble; omega)
  unfold intervalMicros
  unfold millisAsDouble at micros ⊢
  omega

/-- The time and the delay in milliseconds, as a double, of a schedule. -/
def scheduleParts : TaskSchedule → Option DateTime × Nat
  | .now => (none, 0)
  | .at time => (some time, 0)
  | .after delay => (none, millisAsDouble delay)

/-- When a task is available, as the database computes it. -/
def databaseTime (schedule : TaskSchedule) (now : DateTime) : DateTime :=
  (scheduleParts schedule).1.getD (afterMillis now (scheduleParts schedule).2)

/-- The columns that no statement may change. -/
structure Identity (Value : Type) where
  id : Uuid
  aggregateType : String
  aggregateId : String
  aggregateSequence : Nat
  taskType : String
  taskVersion : Int
  payload : Value
  metadata : Value
  maxAttempts : Int

/-- The parameters the settlement statement is bound to. -/
structure SettlementParameters where
  status : TaskStatus
  delay : Duration
  lastError : Option String
  failureCause : Option TaskFailureCause

def settlementParameters : SettlementRequest → SettlementParameters
  | .completed => ⟨.completed, .fromSecs 0, none, none⟩
  | .retry delay reason => ⟨.pending, delay, some reason, some .attemptLimitReached⟩
  | .failed reason => ⟨.failed, .fromSecs 0, some reason, some .permanentRejection⟩

/-- Stored reasons keep their first 2048 characters. -/
def storedReason (reason : String) : String := String.ofList (reason.toList.take 2048)

namespace OutboxRow

variable {Value : Type}

def identity (row : OutboxRow Value) : Identity Value where
  id := row.id
  aggregateType := row.aggregateType
  aggregateId := row.aggregateId
  aggregateSequence := row.aggregateSequence
  taskType := row.taskType
  taskVersion := row.taskVersion
  payload := row.payload
  metadata := row.metadata
  maxAttempts := row.maxAttempts

/-! ### The assignments of the statements -/

/-- The row a command inserts for a task. -/
def published [JsonValue Value] (task : NewTask Value) (aggregateType aggregateId : String)
    (sequence : Nat) (now : DateTime) : OutboxRow Value where
  id := task.id
  aggregateType := aggregateType
  aggregateId := aggregateId
  aggregateSequence := sequence
  taskType := task.format.taskType
  taskVersion := task.format.taskVersion
  payload := task.payload
  metadata := task.metadata
  status := .pending
  availableAt := databaseTime task.schedule now
  finishedAt := none
  attempts := 0
  maxAttempts := task.maxAttempts
  lastError := none
  lockedBy := none
  lockToken := none
  lockedUntil := none

/-- The row after a claim. -/
def claimed (row : OutboxRow Value) (owner : String) (token : Uuid) (until_ : DateTime) :
    OutboxRow Value :=
  { row with
    status := .processing
    attempts := row.attempts + 1
    lockedBy := some owner
    lockToken := some token
    lockedUntil := some until_ }

/-- The row after a settlement. -/
def settled (row : OutboxRow Value) (request : SettlementRequest) (now : DateTime) :
    OutboxRow Value :=
  let parameters := settlementParameters request
  { row with
    status :=
      if parameters.status = .pending ∧ row.attempts ≥ row.maxAttempts then .failed
      else parameters.status
    availableAt :=
      if parameters.status = .pending ∧ row.attempts < row.maxAttempts then
        afterMillis now (millisAsDouble parameters.delay)
      else row.availableAt
    finishedAt :=
      if parameters.status ≠ .pending ∨ row.attempts ≥ row.maxAttempts then some now else none
    lastError := parameters.lastError.map storedReason
    lockedBy := none
    lockToken := none
    lockedUntil := none }

/-- The row after the recovery of its expired lease. -/
def recovered (row : OutboxRow Value) (delay : Duration) (now : DateTime) : OutboxRow Value :=
  { row with
    status := if row.attempts ≥ row.maxAttempts then .failed else .pending
    availableAt := afterMillis now (millisAsDouble delay)
    finishedAt := if row.attempts ≥ row.maxAttempts then some now else none
    lastError := some "worker lease expired"
    lockedBy := none
    lockToken := none
    lockedUntil := none }

/-- The row after a manual requeue. -/
def requeued (row : OutboxRow Value) (now : DateTime) : OutboxRow Value :=
  { row with
    status := .pending
    attempts := 0
    availableAt := now
    finishedAt := none
    lastError := none
    lockedBy := none
    lockToken := none
    lockedUntil := none }

section Identity

variable (row : OutboxRow Value)

@[simp] theorem identity_claimed (owner : String) (token : Uuid) (until_ : DateTime) :
    (row.claimed owner token until_).identity = row.identity := rfl

@[simp] theorem identity_settled (request : SettlementRequest) (now : DateTime) :
    (row.settled request now).identity = row.identity := rfl

@[simp] theorem identity_recovered (delay : Duration) (now : DateTime) :
    (row.recovered delay now).identity = row.identity := rfl

@[simp] theorem identity_requeued (now : DateTime) :
    (row.requeued now).identity = row.identity := rfl

end Identity

/-! ### The constraints of the table -/

variable [JsonValue Value]

/-- The CHECK constraints of the table; the attempt limit is also within its 32 bits. -/
structure Checks (row : OutboxRow Value) : Prop where
  sequencePositive : 0 < row.aggregateSequence
  typeNonempty : row.taskType ≠ ""
  versionPositive : 0 < row.taskVersion
  payloadObject : JsonValue.isObject row.payload = true
  metadataObject : JsonValue.isObject row.metadata = true
  attemptsNonnegative : 0 ≤ row.attempts
  limitPositive : 0 < row.maxAttempts
  limitFits : row.maxAttempts < 2 ^ 31
  withinLimit : row.attempts ≤ row.maxAttempts
  locks : (row.status = .processing ∧ row.lockedBy.isSome ∧ row.lockToken.isSome ∧
      row.lockedUntil.isSome) ∨
    (row.status ≠ .processing ∧ row.lockedBy = none ∧ row.lockToken = none ∧
      row.lockedUntil = none)
  finished : (row.status = .completed ∨ row.status = .failed) ↔ row.finishedAt.isSome
  pendingLeft : row.status ≠ .pending ∨ row.attempts < row.maxAttempts

instance (row : OutboxRow Value) : Decidable row.Checks :=
  decidable_of_iff
    (0 < row.aggregateSequence ∧ row.taskType ≠ "" ∧ 0 < row.taskVersion ∧
      JsonValue.isObject row.payload = true ∧ JsonValue.isObject row.metadata = true ∧
      0 ≤ row.attempts ∧ 0 < row.maxAttempts ∧ row.maxAttempts < 2 ^ 31 ∧
      row.attempts ≤ row.maxAttempts ∧
      ((row.status = .processing ∧ row.lockedBy.isSome ∧ row.lockToken.isSome ∧
          row.lockedUntil.isSome) ∨
        (row.status ≠ .processing ∧ row.lockedBy = none ∧ row.lockToken = none ∧
          row.lockedUntil = none)) ∧
      ((row.status = .completed ∨ row.status = .failed) ↔ row.finishedAt.isSome) ∧
      (row.status ≠ .pending ∨ row.attempts < row.maxAttempts))
    ⟨fun ⟨a, b, c, d, e, f, g, h, i, j, k, l⟩ => ⟨a, b, c, d, e, f, g, h, i, j, k, l⟩,
      fun ⟨a, b, c, d, e, f, g, h, i, j, k, l⟩ => ⟨a, b, c, d, e, f, g, h, i, j, k, l⟩⟩

/-- **A published row meets the constraints**, for every task the constructors accept. -/
theorem published_checks (task : NewTask Value) (aggregateType aggregateId : String)
    {sequence : Nat} (now : DateTime) (positive : 0 < sequence) :
    (published task aggregateType aggregateId sequence now).Checks where
  sequencePositive := positive
  typeNonempty := task.format.typeNonempty
  versionPositive := task.format.versionPositive
  payloadObject := task.payloadObject
  metadataObject := task.metadataObject
  attemptsNonnegative := le_refl 0
  limitPositive := task.limitPositive
  limitFits := task.limitFits
  withinLimit := le_of_lt task.limitPositive
  locks := .inr ⟨nofun, rfl, rfl, rfl⟩
  finished := by simp [published]
  pendingLeft := .inr task.limitPositive

/-- A claim of a pending row keeps the constraints. -/
theorem claimed_checks {row : OutboxRow Value} (checks : row.Checks)
    (pending : row.status = .pending) (owner : String) (token : Uuid) (until_ : DateTime) :
    (row.claimed owner token until_).Checks := by
  have left : row.attempts < row.maxAttempts :=
    checks.pendingLeft.resolve_left fun other => other pending
  have unfinished : row.finishedAt = none := by
    have := checks.finished
    simpa [pending] using this
  refine ⟨checks.sequencePositive, checks.typeNonempty, checks.versionPositive,
    checks.payloadObject, checks.metadataObject, ?_, checks.limitPositive, checks.limitFits, ?_,
    .inl ⟨rfl, rfl, rfl, rfl⟩, ?_, .inl nofun⟩
  · show 0 ≤ row.attempts + 1
    have := checks.attemptsNonnegative
    omega
  · show row.attempts + 1 ≤ row.maxAttempts
    omega
  · simp [claimed, unfinished]

/-- A settlement keeps the constraints, also when it turns a retry into a failure. -/
theorem settled_checks {row : OutboxRow Value} (checks : row.Checks)
    (request : SettlementRequest) (now : DateTime) : (row.settled request now).Checks := by
  have rest : ∀ status finishedAt, (row.settled request now).status = status →
      (row.settled request now).finishedAt = finishedAt → status ≠ .processing →
      ((status = .completed ∨ status = .failed) ↔ finishedAt.isSome) →
      (status ≠ .pending ∨ row.attempts < row.maxAttempts) →
      (row.settled request now).Checks := by
    rintro _ _ rfl rfl unlocked finished left
    exact ⟨checks.sequencePositive, checks.typeNonempty, checks.versionPositive,
      checks.payloadObject, checks.metadataObject, checks.attemptsNonnegative,
      checks.limitPositive, checks.limitFits, checks.withinLimit, .inr ⟨unlocked, rfl, rfl, rfl⟩,
      finished, left⟩
  cases request with
  | completed => exact rest .completed (some now) rfl rfl nofun (by simp) (.inl nofun)
  | failed reason => exact rest .failed (some now) rfl rfl nofun (by simp) (.inl nofun)
  | retry delay reason =>
    by_cases exhausted : row.attempts ≥ row.maxAttempts
    · refine rest .failed (some now) ?_ ?_ nofun (by simp) (.inl nofun)
      · simp [settled, settlementParameters, exhausted]
      · simp [settled, settlementParameters, exhausted]
    · refine rest .pending none ?_ ?_ nofun (by simp) (.inr (not_le.mp exhausted))
      · simp [settled, settlementParameters, exhausted]
      · simp [settled, settlementParameters, exhausted]

/-- The recovery of a row keeps the constraints. -/
theorem recovered_checks {row : OutboxRow Value} (checks : row.Checks) (delay : Duration)
    (now : DateTime) : (row.recovered delay now).Checks := by
  by_cases exhausted : row.attempts ≥ row.maxAttempts
  · refine ⟨checks.sequencePositive, checks.typeNonempty, checks.versionPositive,
      checks.payloadObject, checks.metadataObject, checks.attemptsNonnegative,
      checks.limitPositive, checks.limitFits, checks.withinLimit, .inr ⟨?_, rfl, rfl, rfl⟩, ?_, ?_⟩
    · simp [recovered, exhausted]
    · simp [recovered, exhausted]
    · simp [recovered, exhausted]
  · refine ⟨checks.sequencePositive, checks.typeNonempty, checks.versionPositive,
      checks.payloadObject, checks.metadataObject, checks.attemptsNonnegative,
      checks.limitPositive, checks.limitFits, checks.withinLimit, .inr ⟨?_, rfl, rfl, rfl⟩, ?_,
      .inr (not_le.mp exhausted)⟩
    · simp [recovered, exhausted]
    · simp [recovered, exhausted]

/-- A manual requeue keeps the constraints. -/
theorem requeued_checks {row : OutboxRow Value} (checks : row.Checks) (now : DateTime) :
    (row.requeued now).Checks where
  sequencePositive := checks.sequencePositive
  typeNonempty := checks.typeNonempty
  versionPositive := checks.versionPositive
  payloadObject := checks.payloadObject
  metadataObject := checks.metadataObject
  attemptsNonnegative := le_refl 0
  limitPositive := checks.limitPositive
  limitFits := checks.limitFits
  withinLimit := le_of_lt checks.limitPositive
  locks := .inr ⟨nofun, rfl, rfl, rfl⟩
  finished := by simp [requeued]
  pendingLeft := .inr checks.limitPositive

end OutboxRow

end AccountManagement.Outbox
