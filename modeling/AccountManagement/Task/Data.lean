/-
**Published tasks and delivered attempts.**

The checked task data of the runtime: formats, schedules, `NewTask` and `TaskAttempt`. What a
constructor checks is a field of the type, so every task in the model is one the constructors
accept (`NewTask.rebuild_self`). The JSON library enters as the class `JsonValue`: whether a value
is an object, and the empty object.
-/

import AccountManagement.Library.Results
import AccountManagement.Library.Text
import AccountManagement.Library.Time

namespace AccountManagement.Task

open AccountManagement.Library

/-- JSON values, as far as the runtime looks into them. -/
class JsonValue (Value : Type) where
  isObject : Value → Bool
  emptyObject : Value
  isObject_emptyObject : isObject emptyObject = true

inductive TaskFormatError where
  | emptyType
  | invalidVersion
deriving DecidableEq

/-- One durable type and version; also the routing key of a task. -/
@[ext] structure TaskFormat where
  taskType : String
  taskVersion : Int
  typeNonempty : taskType ≠ ""
  versionPositive : 0 < taskVersion
deriving DecidableEq

def TaskFormat.new (taskType : String) (taskVersion : Int) : Except TaskFormatError TaskFormat :=
  if empty : taskType = "" then
    .error .emptyType
  else if invalid : taskVersion ≤ 0 then
    .error .invalidVersion
  else
    .ok ⟨taskType, taskVersion, empty, not_le.mp invalid⟩

/-- The constructor accepts the data of every format. -/
theorem TaskFormat.new_self (format : TaskFormat) :
    TaskFormat.new format.taskType format.taskVersion = .ok format := by
  unfold TaskFormat.new
  rw [dif_neg format.typeNonempty, dif_neg (not_le.mpr format.versionPositive)]

theorem TaskFormat.new_fields {taskType : String} {taskVersion : Int} {format : TaskFormat}
    (made : TaskFormat.new taskType taskVersion = .ok format) :
    format.taskType = taskType ∧ format.taskVersion = taskVersion := by
  unfold TaskFormat.new at made
  split at made
  · cases made
  · split at made
    · cases made
    · obtain rfl := Except.ok.inj made
      exact ⟨rfl, rfl⟩

/-- The format of the examples. -/
def mailFormat : TaskFormat := ⟨"mail", 1, by decide, Int.zero_lt_one⟩

inductive TaskValidationError where
  | format (reason : TaskFormatError)
  | serialization
  | payloadNotObject
  | metadataNotObject
  | invalidAttemptLimit
  | invalidAttempt
  | invalidSchedule
deriving DecidableEq

/-- When a published task becomes available. -/
inductive TaskSchedule where
  | now
  | after (delay : Duration)
  | at (time : DateTime)
deriving DecidableEq

/-- A delay must fit into signed 64-bit milliseconds. -/
def TaskSchedule.Valid : TaskSchedule → Prop
  | .after delay => delay.asMillis ≤ 2 ^ 63 - 1
  | _ => True

instance (schedule : TaskSchedule) : Decidable schedule.Valid := by
  cases schedule <;> unfold TaskSchedule.Valid <;> infer_instance

/-- The check of a schedule; like the other checks below it returns what it has checked. -/
def TaskSchedule.validate (schedule : TaskSchedule) :
    Except TaskValidationError (PLift schedule.Valid) :=
  if valid : schedule.Valid then .ok ⟨valid⟩ else .error .invalidSchedule

theorem TaskSchedule.validate_ok {schedule : TaskSchedule} (valid : schedule.Valid) :
    schedule.validate = .ok ⟨valid⟩ := dif_pos valid

section Values

variable {Value : Type} [JsonValue Value]

def validatePayload (payload : Value) :
    Except TaskValidationError (PLift (JsonValue.isObject payload = true)) :=
  if object : JsonValue.isObject payload = true then .ok ⟨object⟩ else .error .payloadNotObject

def validateMetadata (metadata : Value) :
    Except TaskValidationError (PLift (JsonValue.isObject metadata = true)) :=
  if object : JsonValue.isObject metadata = true then .ok ⟨object⟩ else .error .metadataNotObject

theorem validatePayload_ok {payload : Value} (object : JsonValue.isObject payload = true) :
    validatePayload payload = .ok ⟨object⟩ := dif_pos object

theorem validateMetadata_ok {metadata : Value} (object : JsonValue.isObject metadata = true) :
    validateMetadata metadata = .ok ⟨object⟩ := dif_pos object

variable (Value) in
/-- Immutable work bound to a command, with everything its constructors check. -/
structure NewTask where
  id : Uuid
  format : TaskFormat
  payload : Value
  metadata : Value
  schedule : TaskSchedule
  maxAttempts : Int
  payloadObject : JsonValue.isObject payload = true
  metadataObject : JsonValue.isObject metadata = true
  scheduleValid : schedule.Valid
  limitPositive : 0 < maxAttempts
  limitFits : maxAttempts < 2 ^ 31

namespace NewTask

theorem defaultLimit_positive : (0 : Int) < 10 := by omega

theorem defaultLimit_fits : (10 : Int) < 2 ^ 31 := by omega

/-- A task with the default metadata, schedule and limit. The ID is generated by the caller. -/
def fromPayload (id : Uuid) (format : TaskFormat) (payload : Value) :
    Except TaskValidationError (NewTask Value) := do
  let object ← validatePayload payload
  return {
    id := id
    format := format
    payload := payload
    metadata := JsonValue.emptyObject
    schedule := .now
    maxAttempts := 10
    payloadObject := object.down
    metadataObject := JsonValue.isObject_emptyObject
    scheduleValid := trivial
    limitPositive := defaultLimit_positive
    limitFits := defaultLimit_fits }

def scheduled (self : NewTask Value) (schedule : TaskSchedule) :
    Except TaskValidationError (NewTask Value) := do
  let valid ← schedule.validate
  return { self with schedule := schedule, scheduleValid := valid.down }

def withMetadata (self : NewTask Value) (metadata : Value) :
    Except TaskValidationError (NewTask Value) := do
  let object ← validateMetadata metadata
  return { self with metadata := metadata, metadataObject := object.down }

/-- The limit is a 32-bit integer; zero and negative limits are rejected. -/
def withMaxAttempts (self : NewTask Value) (maxAttempts : Int) (fits : maxAttempts < 2 ^ 31) :
    Except TaskValidationError (NewTask Value) :=
  if invalid : maxAttempts ≤ 0 then
    .error .invalidAttemptLimit
  else
    .ok { self with
      maxAttempts := maxAttempts
      limitPositive := not_le.mp invalid
      limitFits := fits }

/-- **The constructors accept the data of every task**, one field after the other. -/
theorem rebuild_self (task : NewTask Value) :
    (do
      let made ← fromPayload task.id task.format task.payload
      let described ← made.withMetadata task.metadata
      let timed ← described.scheduled task.schedule
      timed.withMaxAttempts task.maxAttempts task.limitFits) = .ok task := by
  unfold fromPayload withMetadata scheduled withMaxAttempts
  rw [validatePayload_ok task.payloadObject, validateMetadata_ok task.metadataObject,
    TaskSchedule.validate_ok task.scheduleValid]
  exact dif_neg (not_le.mpr task.limitPositive)

end NewTask

variable (Value) in
/-- The input of one delivery. -/
structure TaskAttempt where
  id : Uuid
  format : TaskFormat
  payload : Value
  metadata : Value
  number : Int
  payloadObject : JsonValue.isObject payload = true
  metadataObject : JsonValue.isObject metadata = true
  numberPositive : 0 < number
deriving DecidableEq

def TaskAttempt.new (id : Uuid) (format : TaskFormat) (payload metadata : Value) (number : Int) :
    Except TaskValidationError (TaskAttempt Value) := do
  let payloadObject ← validatePayload payload
  let metadataObject ← validateMetadata metadata
  if invalid : number ≤ 0 then
    .error .invalidAttempt
  else
    .ok ⟨id, format, payload, metadata, number, payloadObject.down, metadataObject.down,
      not_le.mp invalid⟩

/-- **Objects with a positive delivery number** are accepted. -/
theorem TaskAttempt.new_ok {id : Uuid} {format : TaskFormat} {payload metadata : Value}
    {number : Int} (payloadObject : JsonValue.isObject payload = true)
    (metadataObject : JsonValue.isObject metadata = true) (positive : 0 < number) :
    TaskAttempt.new id format payload metadata number
      = .ok ⟨id, format, payload, metadata, number, payloadObject, metadataObject, positive⟩ := by
  unfold TaskAttempt.new
  rw [validatePayload_ok payloadObject, validateMetadata_ok metadataObject]
  exact dif_neg (not_le.mpr positive)

/-- The data an attempt was made from. -/
structure TaskAttempt.MadeFrom (attempt : TaskAttempt Value) (id : Uuid) (format : TaskFormat)
    (payload metadata : Value) (number : Int) : Prop where
  id : attempt.id = id
  format : attempt.format = format
  payload : attempt.payload = payload
  metadata : attempt.metadata = metadata
  number : attempt.number = number

theorem TaskAttempt.new_fields {id : Uuid} {format : TaskFormat} {payload metadata : Value}
    {number : Int} {attempt : TaskAttempt Value}
    (made : TaskAttempt.new id format payload metadata number = .ok attempt) :
    attempt.MadeFrom id format payload metadata number := by
  unfold TaskAttempt.new at made
  obtain ⟨payloadObject, _, made⟩ := bind_ok made
  obtain ⟨metadataObject, _, made⟩ := bind_ok made
  split at made
  · cases made
  · obtain rfl := Except.ok.inj made
    exact ⟨rfl, rfl, rfl, rfl, rfl⟩

end Values

end AccountManagement.Task
