/-
**The operations of the service.**

The use cases of the two application services and the three task handlers. Each is a function up to
its one call of a command gateway, with its answer as a function of the gateway's reply; generated
IDs, codes and tokens and the readings of the clock are arguments.

* `dispatch_cases`: everything the handler of a delivery can do.
* `createAccountReply_ok`, `recordAccountCreatedReply_ok`: a continuation succeeds on a new commit
  and on an exact repetition, and on nothing else.
-/

import AccountManagement.Runtime.Handling
import AccountManagement.Service.Tasks

namespace AccountManagement.Service

open AccountManagement.Library AccountManagement.Task AccountManagement.Domain
open AccountManagement.Store AccountManagement.Runtime

/-- An operation ends by itself, or calls a command gateway once and answers from its reply. -/
inductive UseCase (Value Command Error Result : Type) [JsonValue Value] where
  | ends (result : Result)
  | calls (command : Command) (tasks : List (NewTask Value))
      (reply : Except (CommandGatewayError Error) Unit → Result)

/-! ### Email reservation -/

inductive EmailReservationServiceError where
  | alreadyReserved
  | notReserved
  | notCurrentAccountId
  | alreadyVerified
  | accountCreationStarted
  | invalidVerificationCode
  | conflict
  | unavailable
  | unexpectedDomainRejection (error : EmailReservationError)
deriving DecidableEq

structure ReservedEmail where
  email : Email
  accountId : UserAccountId
deriving DecidableEq

structure VerifiedEmail where
  email : Email
  accountId : UserAccountId
  accountCreationToken : String
deriving DecidableEq

/-- The operations that call the gateway of the reservations. -/
abbrev ReservationUseCase (Value Result : Type) [JsonValue Value] :=
  UseCase Value EmailReservationCommand EmailReservationError Result

section UseCases

variable {Value : Type} [JsonValue Value] (wire : Wire Value)

def reserveEmail (accountId : UserAccountId) (verificationCode : Nat) (taskId : Uuid)
    (email : Email) : ReservationUseCase Value (Except EmailReservationServiceError ReservedEmail) :=
  match newTask wire.sendVerificationCode taskId ⟨email, accountId, verificationCode⟩ with
  | .error _ => .ends (.error .unavailable)
  | .ok task => .calls (.reserveEmail email accountId verificationCode) [task] fun
    | .ok () => .ok ⟨email, accountId⟩
    | .error (.domain .alreadyReserved) => .error .alreadyReserved
    | .error .conflict => .error .conflict
    | .error (.domain error) => .error (.unexpectedDomainRejection error)
    | .error .unavailable => .error .unavailable

def requestNewVerificationCode (accountId : UserAccountId) (verificationCode : Nat) (taskId : Uuid)
    (email : Email) : ReservationUseCase Value (Except EmailReservationServiceError Unit) :=
  match newTask wire.sendVerificationCode taskId ⟨email, accountId, verificationCode⟩ with
  | .error _ => .ends (.error .unavailable)
  | .ok task => .calls (.requestVerificationCode email accountId verificationCode) [task] fun
    | .ok () => .ok ()
    | .error (.domain .accountIdUnchanged) => .error .conflict
    | .error .conflict => .error .conflict
    | .error (.domain .notReserved) => .error .notReserved
    | .error (.domain .accountCreationStarted) => .error .accountCreationStarted
    | .error (.domain error) => .error (.unexpectedDomainRejection error)
    | .error .unavailable => .error .unavailable

def confirmEmail (accountCreationToken : String) (email : Email) (accountId : UserAccountId)
    (code : Nat) : ReservationUseCase Value (Except EmailReservationServiceError VerifiedEmail) :=
  if ¬ (1000000 ≤ code ∧ code ≤ 9999999) then .ends (.error .invalidVerificationCode)
  else .calls (.verifyEmail email accountId code (wire.digest accountCreationToken)) [] fun
    | .ok () => .ok ⟨email, accountId, accountCreationToken⟩
    | .error (.domain .notReserved) => .error .notReserved
    | .error (.domain .notCurrentAccountId) => .error .notCurrentAccountId
    | .error (.domain .alreadyVerified) => .error .alreadyVerified
    | .error (.domain .accountCreationStarted) => .error .accountCreationStarted
    | .error (.domain .invalidVerificationCode) => .error .invalidVerificationCode
    | .error (.domain error) => .error (.unexpectedDomainRejection error)
    | .error .conflict => .error .conflict
    | .error .unavailable => .error .unavailable

/-! ### Registration -/

structure ProfileSubmission where
  email : Email
  accountId : UserAccountId
  accountCreationToken : String
  firstName : String
  lastName : String
  dateOfBirth : NaiveDate
deriving DecidableEq

structure AcceptedSubmission where
  email : Email
  accountId : UserAccountId
deriving DecidableEq

inductive SubmissionError where
  | domain (error : EmailReservationError)
  | conflict
  | unavailable
deriving DecidableEq

inductive ContinuationError where
  | retry
  | permanent
deriving DecidableEq

/-- The profile of a submission, dated by the clock. -/
def ProfileSubmission.profile (submission : ProfileSubmission) (now : DateTime) :
    RegistrationProfile :=
  .new submission.firstName submission.lastName submission.dateOfBirth (dateNaive now)

def submitProfile (now : DateTime) (taskId : Uuid) (submission : ProfileSubmission) :
    ReservationUseCase Value (Except SubmissionError AcceptedSubmission) :=
  match newTask wire.createAccount taskId
      ⟨submission.email, submission.accountId, submission.profile now⟩ with
  | .error _ => .ends (.error .unavailable)
  | .ok task => .calls (.submitRegistrationProfile submission.email submission.accountId
      (wire.digest submission.accountCreationToken) (submission.profile now)) [task] fun
    | .ok () => .ok ⟨submission.email, submission.accountId⟩
    | .error .conflict => .error .conflict
    | .error .unavailable => .error .unavailable
    | .error (.domain error) => .error (.domain error)

/-- The command of a continuation, with the creation time that was read once. -/
def CreateAccountTaskV1.command (task : CreateAccountTaskV1) (createdAt : DateTime) :
    UserAccountCommand :=
  .createAccount task.accountId task.email task.profile.firstName task.profile.lastName
    task.profile.dateOfBirth task.profile.validationDate createdAt

/-- The continuation that follows the creation. -/
def CreateAccountTaskV1.completion (task : CreateAccountTaskV1) (createdAt : DateTime) :
    RecordAccountCreatedTaskV1 :=
  ⟨task.email, task.accountId, task.profile, createdAt⟩

def createAccountReply : Except (CommandGatewayError UserAccountError) Unit →
    Except ContinuationError Unit
  | .ok () => .ok ()
  | .error (.domain .alreadyCreated) => .ok ()
  | .error .conflict => .error .retry
  | .error .unavailable => .error .retry
  | .error (.domain _) => .error .permanent

def createAccount (now : DateTime) (taskId : Uuid) (task : CreateAccountTaskV1) :
    UseCase Value UserAccountCommand UserAccountError (Except ContinuationError Unit) :=
  match newTask wire.recordAccountCreated taskId (task.completion now) with
  | .error _ => .ends (.error .permanent)
  | .ok completion => .calls (task.command now) [completion] createAccountReply

def RecordAccountCreatedTaskV1.command (task : RecordAccountCreatedTaskV1) :
    EmailReservationCommand :=
  .recordAccountCreated task.email task.accountId task.profile task.createdAt

def recordAccountCreatedReply : Except (CommandGatewayError EmailReservationError) Unit →
    Except ContinuationError Unit
  | .ok () => .ok ()
  | .error (.domain .accountCreationAlreadyCompleted) => .ok ()
  | .error .conflict => .error .retry
  | .error .unavailable => .error .retry
  | .error (.domain _) => .error .permanent

def recordAccountCreated (task : RecordAccountCreatedTaskV1) :
    ReservationUseCase Value (Except ContinuationError Unit) :=
  .calls task.command [] recordAccountCreatedReply

/-! ### Task handlers -/

def deliveryError : ContinuationError → TaskHandlerError
  | .retry => .retry "registration continuation temporarily unavailable" none
  | .permanent => .permanent "registration continuation data does not match"

/-- The input of the sender of verification codes. -/
structure VerificationCodeDelivery where
  email : Email
  accountId : UserAccountId
  verificationCode : Nat
deriving DecidableEq

variable (Value) in
/-- What the handler of a delivery does: answer, call one of the gateways, or send a message. -/
inductive Dispatch where
  | answers (result : HandlerResult)
  | reservation (useCase : ReservationUseCase Value (Except ContinuationError Unit))
  | account (useCase : UseCase Value UserAccountCommand UserAccountError
      (Except ContinuationError Unit))
  | sends (message : VerificationCodeDelivery)

def sendVerificationCode (payload : SendVerificationCodeTaskV1) : Dispatch Value :=
  if ¬ (1000000 ≤ payload.verificationCode ∧ payload.verificationCode ≤ 9999999) then
    .answers (.error (.permanent "invalid verification code"))
  else .sends ⟨payload.email, payload.accountId, payload.verificationCode⟩

/-- A type name in a diagnostic. -/
def safeType (value : String) : String :=
  if value ≠ "" ∧ value.toList.all (fun c => c.isAlphanum || c == '_') then value else "unknown"

def invalidPayload (format : TaskFormat) : HandlerResult :=
  .error (.permanent ("invalid " ++ safeType format.taskType ++ " v" ++ toString format.taskVersion
    ++ " task payload"))

/-- The adapter of a payload type: decode, then handle. -/
def invokeAdapter {Payload : Type} [TaskPayload Payload] (codec : PayloadCodec Payload Value)
    (handle : Payload → Dispatch Value) (attempt : TaskAttempt Value) : Dispatch Value :=
  match codec.decode attempt.payload with
  | none => .answers (invalidPayload (TaskPayload.format Payload))
  | some payload => handle payload

/-- The dispatcher routes a delivery by its format. -/
def dispatch (now : DateTime) (taskId : Uuid) (attempt : TaskAttempt Value) : Dispatch Value :=
  if attempt.format = TaskPayload.format SendVerificationCodeTaskV1 then
    invokeAdapter wire.sendVerificationCode sendVerificationCode attempt
  else if attempt.format = TaskPayload.format CreateAccountTaskV1 then
    invokeAdapter wire.createAccount (fun task => .account (createAccount wire now taskId task))
      attempt
  else if attempt.format = TaskPayload.format RecordAccountCreatedTaskV1 then
    invokeAdapter wire.recordAccountCreated (fun task => .reservation (recordAccountCreated task))
      attempt
  else .answers (.error (.permanent "unsupported task format"))

/-! ### What the operations do -/

/-- **A continuation succeeds** on a commit or on an exact repetition. -/
theorem createAccountReply_ok {answer : Except (CommandGatewayError UserAccountError) Unit}
    (succeeded : createAccountReply answer = .ok ()) :
    answer = .ok () ∨ answer = .error (.domain .alreadyCreated) := by
  unfold createAccountReply at succeeded
  split at succeeded
  · exact .inl rfl
  · exact .inr rfl
  · cases succeeded
  · cases succeeded
  · cases succeeded

theorem recordAccountCreatedReply_ok
    {answer : Except (CommandGatewayError EmailReservationError) Unit}
    (succeeded : recordAccountCreatedReply answer = .ok ()) :
    answer = .ok () ∨ answer = .error (.domain .accountCreationAlreadyCompleted) := by
  unfold recordAccountCreatedReply at succeeded
  split at succeeded
  · exact .inl rfl
  · exact .inr rfl
  · cases succeeded
  · cases succeeded
  · cases succeeded

theorem createAccount_eq (now : DateTime) (taskId : Uuid) (task : CreateAccountTaskV1) :
    createAccount wire now taskId task = .calls (task.command now)
      [taskOf wire.recordAccountCreated taskId (task.completion now)] createAccountReply := by
  unfold createAccount
  rw [newTask_eq]

/-- **Everything a dispatched delivery can do.** An answer without a call is a permanent error. -/
inductive Dispatched (now : DateTime) (taskId : Uuid) (attempt : TaskAttempt Value) :
    Dispatch Value → Prop
  | rejected (reason : String) :
      Dispatched now taskId attempt (.answers (.error (.permanent reason)))
  | account (task : CreateAccountTaskV1) :
      payloadOf wire.createAccount attempt.format attempt.payload = some task →
      Dispatched now taskId attempt (.account (.calls (task.command now)
        [taskOf wire.recordAccountCreated taskId (task.completion now)] createAccountReply))
  | reservation (task : RecordAccountCreatedTaskV1) :
      payloadOf wire.recordAccountCreated attempt.format attempt.payload = some task →
      Dispatched now taskId attempt
        (.reservation (.calls task.command [] recordAccountCreatedReply))
  | sends (message : VerificationCodeDelivery) :
      attempt.format = TaskPayload.format SendVerificationCodeTaskV1 →
      Dispatched now taskId attempt (.sends message)

theorem dispatch_cases (now : DateTime) (taskId : Uuid) (attempt : TaskAttempt Value) :
    Dispatched wire now taskId attempt (dispatch wire now taskId attempt) := by
  unfold dispatch
  split
  · rename_i format
    unfold invokeAdapter
    split
    · exact .rejected _
    · unfold sendVerificationCode
      split
      · exact .rejected _
      · exact .sends _ format
  · split
    · rename_i format
      unfold invokeAdapter
      split
      · exact .rejected _
      · rename_i task decoded
        show Dispatched wire now taskId attempt (.account (createAccount wire now taskId task))
        rw [createAccount_eq]
        exact .account task ((if_pos format).trans decoded)
    · split
      · rename_i format
        unfold invokeAdapter
        split
        · exact .rejected _
        · rename_i task decoded
          exact .reservation task ((if_pos format).trans decoded)
      · exact .rejected _

end UseCases

end AccountManagement.Service
