/-
**The HTTP handlers.**

A handler reads its request, runs one operation of the application and turns its result into a
response. What other libraries do for it is a parameter: the router that finds the handler in the
table of routes, the readers of JSON bodies, addresses, UUIDs and dates, and the percent encoding.
Generated values are arguments, and a generated verification code carries its range.

* `answer` is the whole service behind its routes: one request, up to its one call of a gateway.
* `Reports`, `Explains`: what a success and a rejection say, in terms of the event that was stored
  and of the reservation that was found.
* `answer_cases`: everything a request can do. A request that calls no gateway is refused; the
  response to every other one is honest (`Honest`), so no request is answered with an internal
  error.
-/

import AccountManagement.Service.System

namespace AccountManagement.Service

open AccountManagement.Task

/-- The same operation with its result seen through a function. -/
def UseCase.map {Value Command Error First Second : Type} [JsonValue Value]
    (view : First → Second) : UseCase Value Command Error First → UseCase Value Command Error Second
  | .ends result => .ends (view result)
  | .calls command tasks reply => .calls command tasks (view ∘ reply)

end AccountManagement.Service

namespace AccountManagement.Presentation

open AccountManagement.Library AccountManagement.Task AccountManagement.Domain
open AccountManagement.Store AccountManagement.Service

/-! ### Routes -/

inductive Method where
  | get
  | post
  | put
  | delete
  | head
  | options
  | connect
  | patch
  | trace
  | extension (name : String)
deriving DecidableEq

inductive Endpoint where
  | reserve
  | requestCode
  | verify
  | registrationStatusNotImplemented
  | submitProfile
deriving DecidableEq

/-- A path, with its parameters in braces, and the handler of one method. -/
structure Route where
  path : String
  method : Method
  endpoint : Endpoint
deriving DecidableEq

def emailReservationsRouter : List Route :=
  [⟨"/email-reservations", .post, .reserve⟩,
    ⟨"/email-reservations/\x7bemail\x7d/verification-codes", .post, .requestCode⟩,
    ⟨"/email-reservations/\x7bemail\x7d/verify", .post, .verify⟩,
    ⟨"/email-reservations/\x7bemail\x7d/registrations/\x7baccount_id\x7d", .get,
      .registrationStatusNotImplemented⟩]

def userAccountsRouter : List Route := [⟨"/user-accounts", .post, .submitProfile⟩]

def router : List Route := emailReservationsRouter ++ userAccountsRouter

/-- Where a request goes. The parameters are missing if one of them cannot be decoded. That the
response to a `HEAD` request loses its body on the way out is not modelled. -/
inductive Routed where
  | endpoint (endpoint : Endpoint) (parameters : Option (List String))
  | methodNotAllowed (allow : String)
  | notFound
deriving DecidableEq

/-! ### The status URL -/

/-- A set of ASCII bytes that are written as escapes. -/
abbrev AsciiSet := UInt8 → Bool

def AsciiSet.remove (set : AsciiSet) (byte : UInt8) : AsciiSet :=
  fun other => set other && other != byte

def nonAlphanumeric : AsciiSet :=
  fun byte => byte.toNat < 128 && !(Char.ofNat byte.toNat).isAlphanum

/-- The set without `-`, `.`, `_` and `~`. -/
def pathSegment : AsciiSet :=
  (((AsciiSet.remove nonAlphanumeric 45).remove 46).remove 95).remove 126

/-- The percent encoding of a text. It can be undone when the percent sign itself, byte 37, is
written as an escape. -/
structure PercentEncoding where
  utf8PercentEncode : String → AsciiSet → String
  injective : ∀ set : AsciiSet, set 37 = true → ∀ text other,
    utf8PercentEncode text set = utf8PercentEncode other set → text = other

def statusUrl (encoding : PercentEncoding) (email : Email) (accountId : UserAccountId) : String :=
  "/email-reservations/" ++ encoding.utf8PercentEncode email.address pathSegment
    ++ "/registrations/" ++ accountId.toString

/-- An account has one status URL for each email. -/
theorem statusUrl_injective {encoding : PercentEncoding} {email other : Email}
    {accountId : UserAccountId}
    (same : statusUrl encoding email accountId = statusUrl encoding other accountId) :
    email = other := by
  unfold statusUrl at same
  rw [String.append_left_inj, String.append_left_inj, String.append_right_inj] at same
  exact Email.toString_injective (encoding.injective pathSegment (by decide) _ _ same)

/-! ### Responses -/

/-- A response: its status, the headers that the service sets, and the texts of its JSON body. -/
structure Response where
  status : Nat
  headers : List (String × String)
  body : List (String × String)
deriving DecidableEq

def errorResponse (status : Nat) (code message : String) : Response :=
  ⟨status, [], [("code", code), ("message", message)]⟩

/-- A conflict may be tried again after a second. -/
def Response.retryAfter (response : Response) (conflict : Bool) : Response :=
  if conflict then { response with headers := response.headers ++ [("retry-after", "1")] }
  else response

inductive EmailReservationsError where
  | invalidRequest
  | invalidEmail
  | alreadyReserved
  | notReserved
  | notCurrentAccountId
  | alreadyVerified
  | accountCreationStarted
  | invalidCode
  | conflict
  | unavailable
  | internal
deriving DecidableEq

namespace EmailReservationsError

def ofService : EmailReservationServiceError → EmailReservationsError
  | .alreadyReserved => .alreadyReserved
  | .notReserved => .notReserved
  | .notCurrentAccountId => .notCurrentAccountId
  | .alreadyVerified => .alreadyVerified
  | .accountCreationStarted => .accountCreationStarted
  | .invalidVerificationCode => .invalidCode
  | .conflict => .conflict
  | .unavailable => .unavailable
  | .unexpectedDomainRejection _ => .internal

def intoResponse (error : EmailReservationsError) : Response :=
  let response := match error with
    | .invalidRequest => errorResponse 400 "invalid_request" "invalid request"
    | .invalidEmail => errorResponse 422 "invalid_email" "invalid email address"
    | .alreadyReserved => errorResponse 409 "email_already_reserved" "email is already reserved"
    | .notReserved => errorResponse 404 "email_not_reserved" "email is not reserved"
    | .notCurrentAccountId =>
      errorResponse 404 "registration_not_current" "registration is not current"
    | .alreadyVerified => errorResponse 409 "already_verified" "email is already verified"
    | .accountCreationStarted =>
      errorResponse 409 "account_creation_started" "account creation has already started"
    | .invalidCode => errorResponse 422 "invalid_verification_code" "invalid verification code"
    | .conflict =>
      errorResponse 429 "email_reservation_conflict" "email reservation changed concurrently"
    | .unavailable =>
      errorResponse 503 "service_unavailable" "email reservation is temporarily unavailable"
    | .internal => errorResponse 500 "internal_error" "email reservation failed"
  response.retryAfter (error = .conflict)

end EmailReservationsError

inductive UserAccountsError where
  | invalidRequest
  | invalidEmail
  | invalidProfile
  | invalidAccountCreationToken
  | registrationNotFound
  | registrationNotCurrent
  | emailNotVerified
  | profileAlreadySubmitted
  | conflict
  | unavailable
  | internal
deriving DecidableEq

namespace UserAccountsError

def ofSubmission : SubmissionError → UserAccountsError
  | .domain .invalidAccountCreationToken => .invalidAccountCreationToken
  | .domain .notReserved => .registrationNotFound
  | .domain .notCurrentAccountId => .registrationNotCurrent
  | .domain .notAwaitingProfile => .emailNotVerified
  | .domain .profileAlreadySubmitted => .profileAlreadySubmitted
  | .domain .emptyFirstName => .invalidProfile
  | .domain .emptyLastName => .invalidProfile
  | .domain .futureDateOfBirth => .invalidProfile
  | .conflict => .conflict
  | .unavailable => .unavailable
  | .domain _ => .internal

def intoResponse (error : UserAccountsError) : Response :=
  let response := match error with
    | .invalidRequest => errorResponse 400 "invalid_request" "invalid request"
    | .invalidEmail => errorResponse 422 "invalid_email" "invalid email address"
    | .invalidProfile => errorResponse 422 "invalid_profile" "registration profile is invalid"
    | .invalidAccountCreationToken =>
      errorResponse 403 "invalid_account_creation_token" "account creation token is invalid"
    | .registrationNotFound =>
      errorResponse 404 "registration_not_found" "registration was not found"
    | .registrationNotCurrent =>
      errorResponse 404 "registration_not_current" "registration is not current"
    | .emailNotVerified => errorResponse 409 "email_not_verified" "email has not been verified"
    | .profileAlreadySubmitted =>
      errorResponse 409 "profile_already_submitted" "a registration profile was already submitted"
    | .conflict => errorResponse 429 "registration_conflict" "registration changed concurrently"
    | .unavailable =>
      errorResponse 503 "service_unavailable" "registration is temporarily unavailable"
    | .internal => errorResponse 500 "internal_error" "registration failed"
  response.retryAfter (error = .conflict)

end UserAccountsError

def reserveEmailResponse (reserved : ReservedEmail) : Response :=
  ⟨202, [], [("email", reserved.email.toString), ("account_id", reserved.accountId.toString)]⟩

def requestCodeResponse : Response := ⟨202, [], [("status", "verification_code_requested")]⟩

def verifyEmailResponse (verified : VerifiedEmail) : Response :=
  ⟨200, [("cache-control", "no-store")], [("email", verified.email.toString),
    ("account_id", verified.accountId.toString),
    ("account_creation_token", verified.accountCreationToken)]⟩

def submitProfileResponse (encoding : PercentEncoding) (accepted : AcceptedSubmission) : Response :=
  ⟨202, [], [("account_id", accepted.accountId.toString),
    ("status_url", statusUrl encoding accepted.email accepted.accountId)]⟩

def registrationStatusNotImplemented : Response :=
  errorResponse 501 "not_implemented" "registration status is not implemented"

/-! ### Requests -/

structure ReserveEmailRequest where
  email : String
deriving DecidableEq

structure VerifyEmailRequest where
  accountId : String
  code : Nat
deriving DecidableEq

structure SubmitProfileRequest where
  email : String
  accountId : String
  accountCreationToken : String
  firstName : String
  lastName : String
  dateOfBirth : String
deriving DecidableEq

/-- What other libraries do: they route a request by a table, read JSON bodies, the syntax of an
address, UUIDs and dates, and encode what is put into a path. -/
structure Parsing (Body : Type) where
  route : List Route → Method → String → Routed
  reserveEmailRequest : Body → Option ReserveEmailRequest
  verifyEmailRequest : Body → Option VerifyEmailRequest
  submitProfileRequest : Body → Option SubmitProfileRequest
  toLowercase : String → String
  isEmailAddress : String → Bool
  uuid : String → Option Uuid
  date : String → Option NaiveDate
  encoding : PercentEncoding

section Reading

variable {Body : Type} (parsing : Parsing Body)

/-- The parser of emails: no quotes, then the trimmed lower-case address. -/
def Parsing.email (value : String) : Option Email :=
  if '"' ∈ value.toList then none
  else if parsing.isEmailAddress (parsing.toLowercase (trim value)) then
    some ⟨parsing.toLowercase (trim value)⟩
  else none

def Parsing.accountId (value : String) : Option UserAccountId := (parsing.uuid value).map .mk

end Reading

/-- A request as it arrives. -/
structure HttpRequest (Body : Type) where
  method : Method
  path : String
  body : Body

/-- The values generated for a request. A verification code is drawn from `1_000_000..10_000_000`. -/
structure Generated where
  accountId : UserAccountId
  verificationCode : Nat
  accountCreationToken : String
  taskId : Uuid
  now : DateTime
  codeLow : 1000000 ≤ verificationCode
  codeHigh : verificationCode < 10000000

/-! ### Handlers -/

/-- The value an extractor or a parser yields, or the error it is mapped to. -/
def required {Error Result : Type} (error : Error) : Option Result → Except Error Result
  | none => .error error
  | some result => .ok result

section Handlers

variable {Value Body : Type} [JsonValue Value] (wire : Wire Value) (parsing : Parsing Body)
  (generated : Generated)

/-- A handler that has read its request, or failed to, runs its operation. -/
def respond {Error ServiceError Result : Type} (intoResponse : Error → Response)
    (ofService : ServiceError → Error) (success : Result → Response) :
    Except Error (ReservationUseCase Value (Except ServiceError Result)) →
      ReservationUseCase Value Response
  | .error error => .ends (intoResponse error)
  | .ok useCase => useCase.map fun
    | .ok result => success result
    | .error error => intoResponse (ofService error)

def reserve (payload : Option ReserveEmailRequest) : ReservationUseCase Value Response :=
  respond EmailReservationsError.intoResponse .ofService reserveEmailResponse do
    let request ← required .invalidRequest payload
    let email ← required .invalidEmail (parsing.email request.email)
    return reserveEmail wire generated.accountId generated.verificationCode generated.taskId email

def requestCode (path : Option String) : ReservationUseCase Value Response :=
  respond EmailReservationsError.intoResponse .ofService (fun () => requestCodeResponse) do
    let path ← required .invalidRequest path
    let email ← required .invalidEmail (parsing.email path)
    return requestNewVerificationCode wire generated.accountId generated.verificationCode
      generated.taskId email

def verify (path : Option String) (payload : Option VerifyEmailRequest) :
    ReservationUseCase Value Response :=
  respond EmailReservationsError.intoResponse .ofService verifyEmailResponse do
    let path ← required .invalidRequest path
    let request ← required .invalidRequest payload
    let accountId ← required .invalidRequest (parsing.accountId request.accountId)
    let email ← required .invalidEmail (parsing.email path)
    return confirmEmail wire generated.accountCreationToken email accountId request.code

def submitProfile (payload : Option SubmitProfileRequest) : ReservationUseCase Value Response :=
  respond UserAccountsError.intoResponse .ofSubmission (submitProfileResponse parsing.encoding) do
    let request ← required .invalidRequest payload
    let email ← required .invalidEmail (parsing.email request.email)
    let accountId ← required .invalidRequest (parsing.accountId request.accountId)
    let dateOfBirth ← required .invalidProfile (parsing.date request.dateOfBirth)
    return Service.submitProfile wire generated.now generated.taskId ⟨email, accountId,
      request.accountCreationToken, request.firstName, request.lastName, dateOfBirth⟩

/-- The service behind its routes. -/
def answer (request : HttpRequest Body) : ReservationUseCase Value Response :=
  match parsing.route router request.method request.path with
  | .notFound => .ends ⟨404, [], []⟩
  | .methodNotAllowed allow => .ends ⟨405, [("allow", allow)], []⟩
  | .endpoint .registrationStatusNotImplemented _ => .ends registrationStatusNotImplemented
  | .endpoint .reserve _ =>
    reserve wire parsing generated (parsing.reserveEmailRequest request.body)
  | .endpoint .requestCode parameters =>
    requestCode wire parsing generated (parameters.bind List.head?)
  | .endpoint .verify parameters => verify wire parsing generated (parameters.bind List.head?)
    (parsing.verifyEmailRequest request.body)
  | .endpoint .submitProfile _ =>
    submitProfile wire parsing generated (parsing.submitProfileRequest request.body)

end Handlers

/-! ### What a response says -/

/-- A success reports the event that was stored. The token of a verification is the one whose digest
was stored. -/
inductive Reports (digest : String → String) (encoding : PercentEncoding) :
    Response → EmailReservationEvent → Prop
  | reserved (email : Email) (accountId : UserAccountId) (code : Nat) :
      Reports digest encoding (reserveEmailResponse ⟨email, accountId⟩)
        (.emailReserved email accountId code)
  | requested (email : Email) (accountId : UserAccountId) (code : Nat) :
      Reports digest encoding requestCodeResponse (.verificationCodeRequested email accountId code)
  | restarted (email : Email) (accountId : UserAccountId) (code : Nat) :
      Reports digest encoding requestCodeResponse (.verificationRestarted email accountId code)
  | verified (email : Email) (accountId : UserAccountId) (token : String) :
      Reports digest encoding (verifyEmailResponse ⟨email, accountId, token⟩)
        (.emailVerified email accountId (digest token))
  | accepted (email : Email) (accountId : UserAccountId) (consumed : String)
      (profile : RegistrationProfile) :
      Reports digest encoding (submitProfileResponse encoding ⟨email, accountId⟩)
        (.registrationProfileAccepted email accountId consumed profile)

/-- The account of a reservation is being created, or was. -/
def IsCreating (self : EmailReservation) (accountId : UserAccountId) (digest : String) : Prop :=
  (∃ profile, self.phase = .creatingAccount accountId digest profile) ∨
    ∃ profile createdAt, self.phase = .accountCreated accountId digest profile createdAt

/-- **What a rejection says** about the reservation it was decided on. -/
inductive Explains (self : EmailReservation) : EmailReservationCommand → Response → Prop
  | alreadyReserved (email : Email) (accountId : UserAccountId) (code : Nat) :
      self.phase ≠ .absent → Explains self (.reserveEmail email accountId code)
        EmailReservationsError.alreadyReserved.intoResponse
  | nothingToReissue (email : Email) (accountId : UserAccountId) (code : Nat) :
      self.phase = .absent → Explains self (.requestVerificationCode email accountId code)
        EmailReservationsError.notReserved.intoResponse
  | accountIdUnchanged (email : Email) (accountId : UserAccountId) (code : Nat) :
      self.accountId = some accountId →
      Explains self (.requestVerificationCode email accountId code)
        EmailReservationsError.conflict.intoResponse
  | tooLateToReissue (email : Email) (accountId : UserAccountId) (code : Nat)
      (current : UserAccountId) (digest : String) : IsCreating self current digest →
      Explains self (.requestVerificationCode email accountId code)
        EmailReservationsError.accountCreationStarted.intoResponse
  | nothingToVerify (email : Email) (accountId : UserAccountId) (code : Nat) (digest : String) :
      self.phase = .absent → Explains self (.verifyEmail email accountId code digest)
        EmailReservationsError.notReserved.intoResponse
  | verifiesAnother (email : Email) (accountId : UserAccountId) (code : Nat) (digest : String)
      (current : UserAccountId) : self.accountId = some current → current ≠ accountId →
      Explains self (.verifyEmail email accountId code digest)
        EmailReservationsError.notCurrentAccountId.intoResponse
  | wrongCode (email : Email) (accountId : UserAccountId) (code : Nat) (digest : String)
      (expected : Nat) : self.phase = .awaitingCode accountId expected → expected ≠ code →
      Explains self (.verifyEmail email accountId code digest)
        EmailReservationsError.invalidCode.intoResponse
  | alreadyVerified (email : Email) (accountId : UserAccountId) (code : Nat) (digest : String)
      (stored : String) : self.phase = .awaitingProfile accountId stored →
      Explains self (.verifyEmail email accountId code digest)
        EmailReservationsError.alreadyVerified.intoResponse
  | tooLateToVerify (email : Email) (accountId : UserAccountId) (code : Nat) (digest : String)
      (current : UserAccountId) (stored : String) : IsCreating self current stored →
      Explains self (.verifyEmail email accountId code digest)
        EmailReservationsError.accountCreationStarted.intoResponse
  | nothingToRegister (email : Email) (accountId : UserAccountId) (digest : String)
      (profile : RegistrationProfile) : self.phase = .absent →
      Explains self (.submitRegistrationProfile email accountId digest profile)
        UserAccountsError.registrationNotFound.intoResponse
  | registersAnother (email : Email) (accountId : UserAccountId) (digest : String)
      (profile : RegistrationProfile) (current : UserAccountId) :
      self.accountId = some current → current ≠ accountId →
      Explains self (.submitRegistrationProfile email accountId digest profile)
        UserAccountsError.registrationNotCurrent.intoResponse
  | notVerified (email : Email) (accountId : UserAccountId) (digest : String)
      (profile : RegistrationProfile) (code : Nat) : self.phase = .awaitingCode accountId code →
      Explains self (.submitRegistrationProfile email accountId digest profile)
        UserAccountsError.emailNotVerified.intoResponse
  | wrongToken (email : Email) (accountId : UserAccountId) (digest : String)
      (profile : RegistrationProfile) (expected : String) :
      self.phase = .awaitingProfile accountId expected ∨ IsCreating self accountId expected →
      expected ≠ digest → Explains self (.submitRegistrationProfile email accountId digest profile)
        UserAccountsError.invalidAccountCreationToken.intoResponse
  | alreadySubmitted (email : Email) (accountId : UserAccountId) (digest : String)
      (profile : RegistrationProfile) : IsCreating self accountId digest →
      Explains self (.submitRegistrationProfile email accountId digest profile)
        UserAccountsError.profileAlreadySubmitted.intoResponse
  | badProfile (email : Email) (accountId : UserAccountId) (digest : String)
      (profile : RegistrationProfile) : self.phase = .awaitingProfile accountId digest →
      trim profile.firstName = "" ∨ trim profile.lastName = "" ∨
        profile.dateOfBirth > profile.validationDate →
      Explains self (.submitRegistrationProfile email accountId digest profile)
        UserAccountsError.invalidProfile.intoResponse

/-- **An honest reply** to a command: a success reports the event, a rejection explains itself, and a
conflict and a failure are told apart from both. -/
structure Honest (digest : String → String) (encoding : PercentEncoding)
    (command : EmailReservationCommand)
    (reply : Except (CommandGatewayError EmailReservationError) Unit → Response) : Prop where
  success : ∀ (self : EmailReservation) event, self.Accepts command event →
    Reports digest encoding (reply (.ok ())) event
  rejection : ∀ (self : EmailReservation) reason, self.handle command = .error reason →
    Explains self command (reply (.error (.domain reason)))
  conflict : reply (.error .conflict) = EmailReservationsError.conflict.intoResponse ∨
    reply (.error .conflict) = UserAccountsError.conflict.intoResponse
  unavailable : reply (.error .unavailable) = EmailReservationsError.unavailable.intoResponse ∨
    reply (.error .unavailable) = UserAccountsError.unavailable.intoResponse

/-! ### One lemma for each command -/

theorem ensureCodeFormat_of_generated (generated : Generated) :
    EmailReservation.ensureCodeFormat generated.verificationCode = .ok () :=
  if_pos ⟨generated.codeLow, Nat.le_of_lt_succ generated.codeHigh⟩

theorem rejected_reserve {self : EmailReservation} {email : Email} {accountId : UserAccountId}
    {code : Nat} {reason : EmailReservationError}
    (fits : EmailReservation.ensureCodeFormat code = .ok ())
    (handled : self.handle (.reserveEmail email accountId code) = .error reason) :
    reason = .alreadyReserved ∧ self.phase ≠ .absent := by
  simp only [EmailReservation.handle, EmailReservation.handleReserve, fits] at handled
  split at handled
  · rename_i taken
    refine ⟨(Outcome.error.inj handled).symm, fun absent => ?_⟩
    simp [EmailReservation.isReserved, absent] at taken
  · cases handled

theorem rejected_request {self : EmailReservation} {email : Email} {accountId : UserAccountId}
    {code : Nat} {reason : EmailReservationError}
    (fits : EmailReservation.ensureCodeFormat code = .ok ())
    (handled : self.handle (.requestVerificationCode email accountId code) = .error reason) :
    (reason = .notReserved ∧ self.phase = .absent) ∨
      (reason = .accountIdUnchanged ∧ self.accountId = some accountId) ∨
      (reason = .accountCreationStarted ∧ ∃ current digest, IsCreating self current digest) := by
  simp only [EmailReservation.handle, EmailReservation.handleRequestVerificationCode, fits]
    at handled
  split at handled
  · rename_i none
    refine .inl ⟨(Outcome.error.inj handled).symm, ?_⟩
    cases phase : self.phase <;> simp_all [EmailReservation.accountId]
  · rename_i current holds
    split at handled
    · rename_i same
      subst same
      exact .inr (.inl ⟨(Outcome.error.inj handled).symm, holds⟩)
    · split at handled
      · cases handled
      · cases handled
      · rename_i known digest profile phase
        exact .inr (.inr ⟨(Outcome.error.inj handled).symm, known, digest, .inl ⟨profile, phase⟩⟩)
      · rename_i known digest profile createdAt phase
        exact .inr (.inr ⟨(Outcome.error.inj handled).symm, known, digest,
          .inr ⟨profile, createdAt, phase⟩⟩)
      · cases handled

theorem rejected_verify {self : EmailReservation} {email : Email} {accountId : UserAccountId}
    {code : Nat} {digest : String} {reason : EmailReservationError}
    (handled : self.handle (.verifyEmail email accountId code digest) = .error reason) :
    (reason = .notReserved ∧ self.phase = .absent) ∨
      (reason = .notCurrentAccountId ∧ ∃ current, self.accountId = some current ∧
        current ≠ accountId) ∨
      (reason = .invalidVerificationCode ∧ ∃ expected,
        self.phase = .awaitingCode accountId expected ∧ expected ≠ code) ∨
      (reason = .alreadyVerified ∧ ∃ stored, self.phase = .awaitingProfile accountId stored) ∨
      (reason = .accountCreationStarted ∧ ∃ current stored, IsCreating self current stored) := by
  simp only [EmailReservation.handle, EmailReservation.handleVerify] at handled
  split at handled
  · rename_i phase
    exact .inl ⟨(Outcome.error.inj handled).symm, phase⟩
  · rename_i current expected phase
    split at handled
    · rename_i other
      refine .inr (.inl ⟨(Outcome.error.inj handled).symm, current, ?_, other⟩)
      simp [EmailReservation.accountId, phase]
    · rename_i same
      obtain rfl : current = accountId := not_not.mp same
      split at handled
      · rename_i wrong
        exact .inr (.inr (.inl ⟨(Outcome.error.inj handled).symm, expected, phase, wrong⟩))
      · cases handled
  · rename_i current stored phase
    split at handled
    · rename_i same
      subst same
      exact .inr (.inr (.inr (.inl ⟨(Outcome.error.inj handled).symm, stored, phase⟩)))
    · rename_i other
      refine .inr (.inl ⟨(Outcome.error.inj handled).symm, current, ?_, other⟩)
      simp [EmailReservation.accountId, phase]
  · rename_i current stored profile phase
    exact .inr (.inr (.inr (.inr ⟨(Outcome.error.inj handled).symm, current, stored,
      .inl ⟨profile, phase⟩⟩)))
  · rename_i current stored profile createdAt phase
    exact .inr (.inr (.inr (.inr ⟨(Outcome.error.inj handled).symm, current, stored,
      .inr ⟨profile, createdAt, phase⟩⟩)))

/-- The response to a rejected submission. -/
def submissionRejected (reason : EmailReservationError) : Response :=
  (UserAccountsError.ofSubmission (.domain reason)).intoResponse

/-- A submission after the accepted one. -/
theorem explains_resubmission {self : EmailReservation} {current accountId : UserAccountId}
    {stored digest : String} (creating : IsCreating self current stored)
    (known : self.accountId = some current) (email : Email) (profile : RegistrationProfile) :
    Explains self (.submitRegistrationProfile email accountId digest profile)
      (submissionRejected (EmailReservation.rejectResubmission current stored accountId digest)) := by
  unfold EmailReservation.rejectResubmission
  split
  · rename_i other
    exact .registersAnother email accountId digest profile current known other
  · rename_i same
    obtain rfl : current = accountId := not_not.mp same
    split
    · rename_i wrong
      exact .wrongToken email current digest profile stored (.inr creating) wrong
    · rename_i right
      obtain rfl : stored = digest := not_not.mp right
      exact .alreadySubmitted email current stored profile creating

theorem explains_submission {self : EmailReservation} {email : Email} {accountId : UserAccountId}
    {digest : String} {profile : RegistrationProfile} {reason : EmailReservationError}
    (handled : self.handle (.submitRegistrationProfile email accountId digest profile)
      = .error reason) :
    Explains self (.submitRegistrationProfile email accountId digest profile)
      (submissionRejected reason) := by
  simp only [EmailReservation.handle, EmailReservation.handleSubmitProfile] at handled
  split at handled
  · rename_i phase
    obtain rfl := Outcome.error.inj handled
    exact .nothingToRegister email accountId digest profile phase
  · rename_i current code phase
    split at handled
    · rename_i same
      subst same
      obtain rfl := Outcome.error.inj handled
      exact .notVerified email current digest profile code phase
    · rename_i other
      obtain rfl := Outcome.error.inj handled
      refine .registersAnother email accountId digest profile current ?_ other
      simp [EmailReservation.accountId, phase]
  · rename_i current expected phase
    split at handled
    · rename_i other
      obtain rfl := Outcome.error.inj handled
      refine .registersAnother email accountId digest profile current ?_ other
      simp [EmailReservation.accountId, phase]
    · rename_i same
      obtain rfl : current = accountId := not_not.mp same
      split at handled
      · rename_i wrong
        obtain rfl := Outcome.error.inj handled
        exact .wrongToken email current digest profile expected (.inl phase) wrong
      · rename_i right
        obtain rfl : expected = digest := not_not.mp right
        split at handled
        · rename_i empty
          obtain rfl := Outcome.error.inj handled
          exact .badProfile email current expected profile phase (.inl empty)
        · split at handled
          · rename_i empty
            obtain rfl := Outcome.error.inj handled
            exact .badProfile email current expected profile phase (.inr (.inl empty))
          · split at handled
            · rename_i future
              obtain rfl := Outcome.error.inj handled
              exact .badProfile email current expected profile phase (.inr (.inr future))
            · cases handled
  · rename_i current stored accepted phase
    obtain rfl := Outcome.error.inj handled
    refine explains_resubmission (.inl ⟨accepted, phase⟩) ?_ email profile
    simp [EmailReservation.accountId, phase]
  · rename_i current stored accepted createdAt phase
    obtain rfl := Outcome.error.inj handled
    refine explains_resubmission (.inr ⟨accepted, createdAt, phase⟩) ?_ email profile
    simp [EmailReservation.accountId, phase]

/-! ### Everything a request can do -/

section Cases

variable {Value Body : Type} [JsonValue Value] (wire : Wire Value) (parsing : Parsing Body)
  (generated : Generated)

/-- A request is refused, or makes the call of one client request and is answered honestly. -/
inductive Answers : ReservationUseCase Value Response → Prop
  | refused (response : Response) : response.status ∈ [400, 404, 405, 422, 501] →
      Answers (.ends response)
  | called (request : ClientRequest) (command : EmailReservationCommand)
      (tasks : List (NewTask Value))
      (reply : Except (CommandGatewayError EmailReservationError) Unit → Response) :
      request.call wire generated.taskId = some (command, tasks) →
      Honest wire.digest parsing.encoding command reply → Answers (.calls command tasks reply)

variable {wire parsing generated} in
/-- A handler that cannot read what it requires refuses the request. -/
theorem Answers.required {Error ServiceError Result Read : Type} {intoResponse : Error → Response}
    {ofService : ServiceError → Error} {success : Result → Response} {error : Error}
    {read : Option Read}
    {next : Read → Except Error (ReservationUseCase Value (Except ServiceError Result))}
    (status : (intoResponse error).status ∈ [400, 404, 405, 422, 501])
    (continues : ∀ value,
      Answers wire parsing generated (respond intoResponse ofService success (next value))) :
    Answers wire parsing generated
      (respond intoResponse ofService success (Presentation.required error read >>= next)) := by
  cases read with
  | none => exact .refused _ status
  | some value => exact continues value

theorem reserve_cases (payload : Option ReserveEmailRequest) :
    Answers wire parsing generated (reserve wire parsing generated payload) := by
  refine .required (by decide) fun request => .required (by decide) fun email => ?_
  have fits := ensureCodeFormat_of_generated generated
  simp only [reserveEmail, newTask_eq]
  refine .called (.reserve email generated.accountId generated.verificationCode) _ _ _ ?_ ?_
  · simp only [ClientRequest.call, reserveEmail, newTask_eq]
    rfl
  · constructor
    · intro self event accepted
      cases accepted
      exact .reserved _ _ _
    · intro self reason handled
      obtain ⟨rfl, taken⟩ := rejected_reserve fits handled
      exact .alreadyReserved _ _ _ taken
    · exact .inl rfl
    · exact .inl rfl

theorem requestCode_cases (path : Option String) :
    Answers wire parsing generated (requestCode wire parsing generated path) := by
  refine .required (by decide) fun path => .required (by decide) fun email => ?_
  have fits := ensureCodeFormat_of_generated generated
  simp only [requestNewVerificationCode, newTask_eq]
  refine .called (.reissue email generated.accountId generated.verificationCode) _ _ _ ?_ ?_
  · simp only [ClientRequest.call, requestNewVerificationCode, newTask_eq]
    rfl
  · constructor
    · intro self event accepted
      cases accepted
      · exact .requested _ _ _
      · exact .restarted _ _ _
    · intro self reason handled
      rcases rejected_request fits handled with ⟨rfl, absent⟩ | ⟨rfl, same⟩ |
        ⟨rfl, current, digest, creating⟩
      · exact .nothingToReissue _ _ _ absent
      · exact .accountIdUnchanged _ _ _ same
      · exact .tooLateToReissue _ _ _ current digest creating
    · exact .inl rfl
    · exact .inl rfl

theorem verify_cases (path : Option String) (payload : Option VerifyEmailRequest) :
    Answers wire parsing generated (verify wire parsing generated path payload) := by
  refine .required (by decide) fun path => .required (by decide) fun request =>
    .required (by decide) fun accountId => .required (by decide) fun email => ?_
  simp only [confirmEmail]
  by_cases fits : ¬ (1000000 ≤ request.code ∧ request.code ≤ 9999999)
  · rw [if_pos fits]
    exact .refused _ (by decide)
  · rw [if_neg fits]
    refine .called (.confirm email accountId request.code generated.accountCreationToken)
      _ _ _ ?_ ?_
    · simp only [ClientRequest.call, confirmEmail, if_neg fits]
      rfl
    · constructor
      · intro self event accepted
        cases accepted
        exact .verified _ _ _
      · intro self reason handled
        rcases rejected_verify handled with ⟨rfl, absent⟩ | ⟨rfl, current, known, other⟩ |
          ⟨rfl, expected, phase, wrong⟩ | ⟨rfl, stored, phase⟩ | ⟨rfl, current, stored, creating⟩
        · exact .nothingToVerify _ _ _ _ absent
        · exact .verifiesAnother _ _ _ _ current known other
        · exact .wrongCode _ _ _ _ expected phase wrong
        · exact .alreadyVerified _ _ _ _ stored phase
        · exact .tooLateToVerify _ _ _ _ current stored creating
      · exact .inl rfl
      · exact .inl rfl

theorem submitProfile_cases (payload : Option SubmitProfileRequest) :
    Answers wire parsing generated (submitProfile wire parsing generated payload) := by
  refine .required (by decide) fun request => .required (by decide) fun email =>
    .required (by decide) fun accountId => .required (by decide) fun dateOfBirth => ?_
  simp only [Service.submitProfile, newTask_eq]
  refine .called (.submit ⟨email, accountId, request.accountCreationToken, request.firstName,
    request.lastName, dateOfBirth⟩ generated.now) _ _ _ ?_ ?_
  · simp only [ClientRequest.call, Service.submitProfile, newTask_eq]
    rfl
  · constructor
    · intro self event accepted
      cases accepted
      exact .accepted _ _ _ _
    · intro self reason handled
      exact explains_submission handled
    · exact .inr rfl
    · exact .inr rfl

/-- **Everything a request can do.** -/
theorem answer_cases (request : HttpRequest Body) :
    Answers wire parsing generated (answer wire parsing generated request) := by
  unfold answer
  split
  · exact .refused _ (by decide)
  · exact .refused _ (by simp)
  · exact .refused _ (by decide)
  · exact reserve_cases wire parsing generated _
  · exact requestCode_cases wire parsing generated _
  · exact verify_cases wire parsing generated _ _
  · exact submitProfile_cases wire parsing generated _

end Cases

end AccountManagement.Presentation
