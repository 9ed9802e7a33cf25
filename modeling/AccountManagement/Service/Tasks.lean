/-
**The tasks of the service and their JSON form.**

The three task payloads with their formats, and everything the service writes as JSON. That reading
back what was written yields the same value is the contract of the serialization library; the digest
of a token is any function. A task is determined by its ID and payload, and its payload can be read
back from it (`payloadOf_taskOf`).
-/

import AccountManagement.Domain.EmailReservation
import AccountManagement.Domain.UserAccount
import AccountManagement.Store.Reapplication

namespace AccountManagement.Service

open AccountManagement.Library AccountManagement.Task AccountManagement.Domain
open AccountManagement.Store AccountManagement.Outbox

/-! ### Payloads -/

structure SendVerificationCodeTaskV1 where
  email : Email
  accountId : UserAccountId
  verificationCode : Nat
deriving DecidableEq

structure CreateAccountTaskV1 where
  email : Email
  accountId : UserAccountId
  profile : RegistrationProfile
deriving DecidableEq

structure RecordAccountCreatedTaskV1 where
  email : Email
  accountId : UserAccountId
  profile : RegistrationProfile
  createdAt : DateTime
deriving DecidableEq

/-- A payload type has a constant task type and version. -/
class TaskPayload (Payload : Type) where
  format : TaskFormat

theorem createAccount_nonempty : "create_account" ≠ "" := by decide

instance : TaskPayload SendVerificationCodeTaskV1 :=
  ⟨"send_verification_code", 1, by decide, Int.zero_lt_one⟩

instance : TaskPayload CreateAccountTaskV1 :=
  ⟨"create_account", 1, createAccount_nonempty, Int.zero_lt_one⟩

instance : TaskPayload RecordAccountCreatedTaskV1 :=
  ⟨"record_account_created", 1, by decide, Int.zero_lt_one⟩

/-- The checked format of a payload type. -/
def formatOf (Payload : Type) [TaskPayload Payload] : Except TaskFormatError TaskFormat :=
  TaskFormat.new (TaskPayload.format Payload).taskType (TaskPayload.format Payload).taskVersion

/-- The JSON form of a payload type. -/
structure PayloadCodec (Payload Value : Type) [JsonValue Value] where
  encode : Payload → Value
  decode : Value → Option Payload
  encode_object : ∀ payload, JsonValue.isObject (encode payload) = true
  decode_encode : ∀ payload, decode (encode payload) = some payload

/-- Everything the service writes as JSON, and the digest of its tokens. -/
structure Wire (Value : Type) [JsonValue Value] where
  reservation : Codec EmailReservationEvent EmailReservation Value
  account : Codec UserAccountEvent UserAccount Value
  sendVerificationCode : PayloadCodec SendVerificationCodeTaskV1 Value
  createAccount : PayloadCodec CreateAccountTaskV1 Value
  recordAccountCreated : PayloadCodec RecordAccountCreatedTaskV1 Value
  digest : String → String

section Tasks

variable {Value : Type} [JsonValue Value] {Payload : Type} [TaskPayload Payload]

/-- The stored aggregates of the service. -/
abbrev Wire.reservations (wire : Wire Value) : StoredAggregate Value := emailStored wire.reservation

abbrev Wire.accounts (wire : Wire Value) : StoredAggregate Value := accountStored wire.account

/-- A new task for a payload. -/
def newTask (codec : PayloadCodec Payload Value) (id : Uuid) (payload : Payload) :
    Except TaskValidationError (NewTask Value) :=
  match formatOf Payload with
  | .error reason => .error (.format reason)
  | .ok format => NewTask.fromPayload id format (codec.encode payload)

/-- The task that `newTask` returns. -/
def taskOf (codec : PayloadCodec Payload Value) (id : Uuid) (payload : Payload) : NewTask Value where
  id := id
  format := TaskPayload.format Payload
  payload := codec.encode payload
  metadata := JsonValue.emptyObject
  schedule := .now
  maxAttempts := 10
  payloadObject := codec.encode_object payload
  metadataObject := JsonValue.isObject_emptyObject
  scheduleValid := trivial
  limitPositive := NewTask.defaultLimit_positive
  limitFits := NewTask.defaultLimit_fits

/-- Every payload of the service is accepted. -/
theorem newTask_eq (codec : PayloadCodec Payload Value) (id : Uuid) (payload : Payload) :
    newTask codec id payload = .ok (taskOf codec id payload) := by
  unfold newTask formatOf
  rw [TaskFormat.new_self]
  unfold NewTask.fromPayload
  rw [validatePayload_ok (codec.encode_object payload)]
  rfl

/-- The payload of stored or delivered data, if the data is of this type. -/
def payloadOf (codec : PayloadCodec Payload Value) (format : TaskFormat) (data : Value) :
    Option Payload :=
  if format = TaskPayload.format Payload then codec.decode data else none

theorem payloadOf_taskOf (codec : PayloadCodec Payload Value) (id : Uuid) (payload : Payload) :
    payloadOf codec (taskOf codec id payload).format (taskOf codec id payload).payload
      = some payload :=
  (if_pos rfl).trans (codec.decode_encode payload)

/-- Tasks of another type have no payload of this one. -/
theorem payloadOf_other {Other : Type} [TaskPayload Other] (codec : PayloadCodec Payload Value)
    (other : PayloadCodec Other Value)
    (different : TaskPayload.format Other ≠ TaskPayload.format Payload) (id : Uuid)
    (payload : Other) :
    payloadOf codec (taskOf other id payload).format (taskOf other id payload).payload = none :=
  if_neg different

end Tasks

/-! ### The simplest wire -/

/-- The simplest JSON form: every value of the service is written as itself. -/
inductive PlainJson where
  | object
  | reservationEvent (event : EmailReservationEvent)
  | reservation (state : EmailReservation)
  | accountEvent (event : UserAccountEvent)
  | account (state : UserAccount)
  | sendVerificationCode (task : SendVerificationCodeTaskV1)
  | createAccount (task : CreateAccountTaskV1)
  | recordAccountCreated (task : RecordAccountCreatedTaskV1)
deriving DecidableEq

instance : JsonValue PlainJson where
  isObject _ := true
  emptyObject := .object
  isObject_emptyObject := rfl

def plainWire : Wire PlainJson where
  reservation := ⟨fun _ => "event", fun _ => "1", .reservationEvent,
    fun | .reservationEvent event => some event | _ => none, .reservation,
    fun | .reservation state => some state | _ => none, fun _ => rfl, fun _ => rfl⟩
  account := ⟨fun _ => "event", fun _ => "1", .accountEvent,
    fun | .accountEvent event => some event | _ => none, .account,
    fun | .account state => some state | _ => none, fun _ => rfl, fun _ => rfl⟩
  sendVerificationCode := ⟨.sendVerificationCode,
    fun | .sendVerificationCode task => some task | _ => none, fun _ => rfl, fun _ => rfl⟩
  createAccount := ⟨.createAccount,
    fun | .createAccount task => some task | _ => none, fun _ => rfl, fun _ => rfl⟩
  recordAccountCreated := ⟨.recordAccountCreated,
    fun | .recordAccountCreated task => some task | _ => none, fun _ => rfl, fun _ => rfl⟩
  digest token := token

end AccountManagement.Service
