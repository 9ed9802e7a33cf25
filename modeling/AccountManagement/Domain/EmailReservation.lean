/-
**The `EmailReservation` aggregate.**

The reservation of one email goes through five phases. The five handlers and `apply` are the
source's: a handler that accepts a command writes one event, and `apply` has no value where the
source panics (completion without an accepted profile).

* `handle_cases`: everything an accepted command can do, one case per event, with the phase it
  starts from.
* `handle_ne_panicked`, `apply_emitted`: deciding never panics, and neither does the first
  application of the event it emits.
* `apply_again`: the second application of an emitted event yields the same state, except for
  `AccountCreationCompleted`, where it panics. So the aggregate is `RepeatSafe`
  (`emailReservation_repeatSafe`) but not `RepeatTolerant`.
-/

import AccountManagement.Library.EventSourcing
import AccountManagement.Domain.Values

namespace AccountManagement.Domain

open AccountManagement.Library

/-- The phase of a reservation. -/
inductive ReservationPhase where
  | absent
  | awaitingCode (accountId : UserAccountId) (verificationCode : Nat)
  | awaitingProfile (accountId : UserAccountId) (tokenDigest : String)
  | creatingAccount (accountId : UserAccountId) (consumedTokenDigest : String)
      (acceptedProfile : RegistrationProfile)
  | accountCreated (accountId : UserAccountId) (consumedTokenDigest : String)
      (acceptedProfile : RegistrationProfile) (createdAt : DateTime)
deriving DecidableEq

/-- The reservation of one email. -/
structure EmailReservation where
  phase : ReservationPhase
deriving DecidableEq

/-- The commands of a reservation. -/
inductive EmailReservationCommand where
  | reserveEmail (email : Email) (accountId : UserAccountId) (verificationCode : Nat)
  | requestVerificationCode (email : Email) (accountId : UserAccountId) (verificationCode : Nat)
  | verifyEmail (email : Email) (accountId : UserAccountId) (code : Nat) (tokenDigest : String)
  | submitRegistrationProfile (email : Email) (accountId : UserAccountId) (tokenDigest : String)
      (profile : RegistrationProfile)
  | recordAccountCreated (email : Email) (accountId : UserAccountId)
      (profile : RegistrationProfile) (createdAt : DateTime)
deriving DecidableEq

/-- The events of a reservation. -/
inductive EmailReservationEvent where
  | emailReserved (email : Email) (accountId : UserAccountId) (verificationCode : Nat)
  | verificationCodeRequested (email : Email) (accountId : UserAccountId) (verificationCode : Nat)
  | verificationRestarted (email : Email) (accountId : UserAccountId) (verificationCode : Nat)
  | emailVerified (email : Email) (accountId : UserAccountId) (tokenDigest : String)
  | registrationProfileAccepted (email : Email) (accountId : UserAccountId)
      (consumedTokenDigest : String) (profile : RegistrationProfile)
  | accountCreationCompleted (email : Email) (accountId : UserAccountId) (createdAt : DateTime)
deriving DecidableEq

/-- Why a reservation rejects a command. -/
inductive EmailReservationError where
  | alreadyReserved
  | notReserved
  | notCurrentAccountId
  | alreadyVerified
  | invalidVerificationCode
  | invalidVerificationCodeFormat
  | accountIdUnchanged
  | notAwaitingProfile
  | invalidAccountCreationToken
  | profileAlreadySubmitted
  | emptyFirstName
  | emptyLastName
  | futureDateOfBirth
  | accountCreationStarted
  | accountCreationMismatch
  | accountCreationAlreadyCompleted
deriving DecidableEq

/-- What a handler of a reservation returns: the events it wrote, or its rejection. -/
abbrev ReservationOutcome := Outcome EmailReservationError (List EmailReservationEvent)

namespace EmailReservation

/-- The account ID of the current phase. -/
def accountId (self : EmailReservation) : Option UserAccountId :=
  match self.phase with
  | .absent => none
  | .awaitingCode accountId _ => some accountId
  | .awaitingProfile accountId _ => some accountId
  | .creatingAccount accountId _ _ => some accountId
  | .accountCreated accountId _ _ _ => some accountId

def isReserved (self : EmailReservation) : Bool :=
  match self.phase with
  | .absent => false
  | _ => true

/-- Verification codes have seven decimal digits. -/
def ensureCodeFormat (code : Nat) : Except EmailReservationError Unit :=
  if 1000000 ≤ code ∧ code ≤ 9999999 then .ok () else .error .invalidVerificationCodeFormat

def handleReserve (self : EmailReservation) (email : Email) (accountId : UserAccountId)
    (verificationCode : Nat) : ReservationOutcome :=
  if self.isReserved then
    .error .alreadyReserved
  else
    match ensureCodeFormat verificationCode with
    | .error reason => .error reason
    | .ok () => .ok [.emailReserved email accountId verificationCode]

def handleRequestVerificationCode (self : EmailReservation) (email : Email)
    (accountId : UserAccountId) (verificationCode : Nat) : ReservationOutcome :=
  match self.accountId with
  | none => .error .notReserved
  | some current =>
    if current = accountId then
      .error .accountIdUnchanged
    else
      match ensureCodeFormat verificationCode with
      | .error reason => .error reason
      | .ok () =>
        match self.phase with
        | .awaitingCode _ _ => .ok [.verificationCodeRequested email accountId verificationCode]
        | .awaitingProfile _ _ => .ok [.verificationRestarted email accountId verificationCode]
        | .creatingAccount _ _ _ => .error .accountCreationStarted
        | .accountCreated _ _ _ _ => .error .accountCreationStarted
        | .absent => .panicked

def handleVerify (self : EmailReservation) (email : Email) (accountId : UserAccountId)
    (code : Nat) (tokenDigest : String) : ReservationOutcome :=
  match self.phase with
  | .absent => .error .notReserved
  | .awaitingCode current verificationCode =>
    if current ≠ accountId then
      .error .notCurrentAccountId
    else if verificationCode ≠ code then
      .error .invalidVerificationCode
    else
      .ok [.emailVerified email accountId tokenDigest]
  | .awaitingProfile current _ =>
    if current = accountId then .error .alreadyVerified else .error .notCurrentAccountId
  | .creatingAccount _ _ _ => .error .accountCreationStarted
  | .accountCreated _ _ _ _ => .error .accountCreationStarted

/-- The answer to a profile submission once a profile has been accepted. -/
def rejectResubmission (current : UserAccountId) (consumedTokenDigest : String)
    (accountId : UserAccountId) (tokenDigest : String) : EmailReservationError :=
  if current ≠ accountId then
    .notCurrentAccountId
  else if consumedTokenDigest ≠ tokenDigest then
    .invalidAccountCreationToken
  else
    .profileAlreadySubmitted

def handleSubmitProfile (self : EmailReservation) (email : Email) (accountId : UserAccountId)
    (tokenDigest : String) (submitted : RegistrationProfile) : ReservationOutcome :=
  let profile := RegistrationProfile.new submitted.firstName submitted.lastName
    submitted.dateOfBirth submitted.validationDate
  match self.phase with
  | .absent => .error .notReserved
  | .awaitingCode current _ =>
    if current = accountId then .error .notAwaitingProfile else .error .notCurrentAccountId
  | .awaitingProfile current expected =>
    if current ≠ accountId then
      .error .notCurrentAccountId
    else if expected ≠ tokenDigest then
      .error .invalidAccountCreationToken
    else if profile.firstName = "" then
      .error .emptyFirstName
    else if profile.lastName = "" then
      .error .emptyLastName
    else if profile.dateOfBirth > profile.validationDate then
      .error .futureDateOfBirth
    else
      .ok [.registrationProfileAccepted email accountId tokenDigest profile]
  | .creatingAccount current consumedTokenDigest _ =>
    .error (rejectResubmission current consumedTokenDigest accountId tokenDigest)
  | .accountCreated current consumedTokenDigest _ _ =>
    .error (rejectResubmission current consumedTokenDigest accountId tokenDigest)

def handleRecordAccountCreated (self : EmailReservation) (email : Email)
    (accountId : UserAccountId) (profile : RegistrationProfile) (createdAt : DateTime) :
    ReservationOutcome :=
  match self.phase with
  | .creatingAccount current _ acceptedProfile =>
    if current = accountId ∧ acceptedProfile = profile then
      .ok [.accountCreationCompleted email accountId createdAt]
    else
      .error .accountCreationMismatch
  | .accountCreated current _ acceptedProfile original =>
    if current = accountId ∧ acceptedProfile = profile ∧ original = createdAt then
      .error .accountCreationAlreadyCompleted
    else
      .error .accountCreationMismatch
  | .absent => .error .notReserved
  | .awaitingCode _ _ => .error .notAwaitingProfile
  | .awaitingProfile _ _ => .error .notAwaitingProfile

def handle (self : EmailReservation) : EmailReservationCommand → ReservationOutcome
  | .reserveEmail email accountId verificationCode =>
    self.handleReserve email accountId verificationCode
  | .requestVerificationCode email accountId verificationCode =>
    self.handleRequestVerificationCode email accountId verificationCode
  | .verifyEmail email accountId code tokenDigest =>
    self.handleVerify email accountId code tokenDigest
  | .submitRegistrationProfile email accountId tokenDigest profile =>
    self.handleSubmitProfile email accountId tokenDigest profile
  | .recordAccountCreated email accountId profile createdAt =>
    self.handleRecordAccountCreated email accountId profile createdAt

/-- The state after an event; no value where the source panics. -/
def apply (self : EmailReservation) : EmailReservationEvent → Option EmailReservation
  | .emailReserved _ accountId verificationCode
  | .verificationCodeRequested _ accountId verificationCode
  | .verificationRestarted _ accountId verificationCode =>
    some ⟨.awaitingCode accountId verificationCode⟩
  | .emailVerified _ accountId tokenDigest => some ⟨.awaitingProfile accountId tokenDigest⟩
  | .registrationProfileAccepted _ accountId consumedTokenDigest profile =>
    some ⟨.creatingAccount accountId consumedTokenDigest profile⟩
  | .accountCreationCompleted _ accountId createdAt =>
    match self.phase with
    | .creatingAccount _ consumedTokenDigest acceptedProfile =>
      some ⟨.accountCreated accountId consumedTokenDigest acceptedProfile createdAt⟩
    | _ => none

end EmailReservation

/-- The aggregate, as the command framework runs it. -/
abbrev emailReservation : Aggregate where
  State := EmailReservation
  Command := EmailReservationCommand
  Event := EmailReservationEvent
  Error := EmailReservationError
  initial := ⟨.absent⟩
  handle := EmailReservation.handle
  apply := EmailReservation.apply

namespace EmailReservation

/-! ### What an accepted command does -/

theorem ensureCodeFormat_ok {code : Nat} (fits : ensureCodeFormat code = .ok ()) :
    1000000 ≤ code ∧ code ≤ 9999999 := by
  unfold ensureCodeFormat at fits
  split at fits
  · assumption
  · cases fits

/-- **Everything an accepted command can do**, with the phase it needs. -/
inductive Accepts (self : EmailReservation) :
    EmailReservationCommand → EmailReservationEvent → Prop
  | reserved (email : Email) (accountId : UserAccountId) (code : Nat) :
      self.phase = .absent → 1000000 ≤ code → code ≤ 9999999 →
      Accepts self (.reserveEmail email accountId code) (.emailReserved email accountId code)
  | reissued (email : Email) (accountId : UserAccountId) (code : Nat)
      (current : UserAccountId) (previous : Nat) :
      self.phase = .awaitingCode current previous → current ≠ accountId →
      1000000 ≤ code → code ≤ 9999999 →
      Accepts self (.requestVerificationCode email accountId code)
        (.verificationCodeRequested email accountId code)
  | restarted (email : Email) (accountId : UserAccountId) (code : Nat)
      (current : UserAccountId) (digest : String) :
      self.phase = .awaitingProfile current digest → current ≠ accountId →
      1000000 ≤ code → code ≤ 9999999 →
      Accepts self (.requestVerificationCode email accountId code)
        (.verificationRestarted email accountId code)
  | verified (email : Email) (accountId : UserAccountId) (code : Nat) (digest : String) :
      self.phase = .awaitingCode accountId code →
      Accepts self (.verifyEmail email accountId code digest)
        (.emailVerified email accountId digest)
  | accepted (email : Email) (accountId : UserAccountId) (digest : String)
      (submitted profile : RegistrationProfile) :
      self.phase = .awaitingProfile accountId digest →
      profile = RegistrationProfile.new submitted.firstName submitted.lastName
        submitted.dateOfBirth submitted.validationDate →
      profile.firstName ≠ "" → profile.lastName ≠ "" →
      profile.dateOfBirth ≤ profile.validationDate →
      Accepts self (.submitRegistrationProfile email accountId digest submitted)
        (.registrationProfileAccepted email accountId digest profile)
  | completed (email : Email) (accountId : UserAccountId) (digest : String)
      (profile : RegistrationProfile) (createdAt : DateTime) :
      self.phase = .creatingAccount accountId digest profile →
      Accepts self (.recordAccountCreated email accountId profile createdAt)
        (.accountCreationCompleted email accountId createdAt)

/-- **One event per accepted command**, and which one. -/
theorem handle_cases {self : EmailReservation} {command : EmailReservationCommand}
    {events : List EmailReservationEvent} (handled : self.handle command = .ok events) :
    ∃ event, events = [event] ∧ self.Accepts command event := by
  cases command with
  | reserveEmail email accountId code =>
    simp only [handle, handleReserve] at handled
    split at handled
    · cases handled
    · rename_i free
      split at handled
      · cases handled
      · rename_i fits
        obtain ⟨low, high⟩ := ensureCodeFormat_ok fits
        refine ⟨_, (Outcome.ok.inj handled).symm, .reserved email accountId code ?_ low high⟩
        cases phase : self.phase <;> simp_all [isReserved]
  | requestVerificationCode email accountId code =>
    simp only [handle, handleRequestVerificationCode] at handled
    split at handled
    · cases handled
    · rename_i current holds
      split at handled
      · cases handled
      · rename_i different
        split at handled
        · cases handled
        · rename_i fits
          obtain ⟨low, high⟩ := ensureCodeFormat_ok fits
          split at handled
          · rename_i known previous phase
            obtain rfl : known = current := by simpa [EmailReservation.accountId, phase] using holds
            exact ⟨_, (Outcome.ok.inj handled).symm,
              .reissued email accountId code known previous phase different low high⟩
          · rename_i known digest phase
            obtain rfl : known = current := by simpa [EmailReservation.accountId, phase] using holds
            exact ⟨_, (Outcome.ok.inj handled).symm,
              .restarted email accountId code known digest phase different low high⟩
          · cases handled
          · cases handled
          · cases handled
  | verifyEmail email accountId code digest =>
    simp only [handle, handleVerify] at handled
    split at handled
    · cases handled
    · rename_i current expected phase
      split at handled
      · cases handled
      · rename_i sameAccount
        split at handled
        · cases handled
        · rename_i sameCode
          obtain rfl : current = accountId := not_not.mp sameAccount
          obtain rfl : expected = code := not_not.mp sameCode
          exact ⟨_, (Outcome.ok.inj handled).symm, .verified email current expected digest phase⟩
    · split at handled <;> cases handled
    · cases handled
    · cases handled
  | submitRegistrationProfile email accountId digest submitted =>
    simp only [handle, handleSubmitProfile] at handled
    split at handled
    · cases handled
    · split at handled <;> cases handled
    · rename_i current expected phase
      split at handled
      · cases handled
      · rename_i sameAccount
        split at handled
        · cases handled
        · rename_i sameDigest
          obtain rfl : current = accountId := not_not.mp sameAccount
          obtain rfl : expected = digest := not_not.mp sameDigest
          split at handled
          · cases handled
          · rename_i firstName
            split at handled
            · cases handled
            · rename_i lastName
              split at handled
              · cases handled
              · rename_i born
                exact ⟨_, (Outcome.ok.inj handled).symm, .accepted email current expected
                  submitted _ phase rfl firstName lastName (not_lt.mp born)⟩
    · cases handled
    · cases handled
  | recordAccountCreated email accountId profile createdAt =>
    simp only [handle, handleRecordAccountCreated] at handled
    split at handled
    · rename_i current digest acceptedProfile phase
      split at handled
      · rename_i matching
        obtain ⟨rfl, rfl⟩ := matching
        exact ⟨_, (Outcome.ok.inj handled).symm,
          .completed email current digest acceptedProfile createdAt phase⟩
      · cases handled
    · split at handled <;> cases handled
    · cases handled
    · cases handled
    · cases handled

/-- An exact repetition of a completion is recognised only in the phase it led to. -/
theorem handle_alreadyCompleted {self : EmailReservation} {email : Email}
    {accountId : UserAccountId} {profile : RegistrationProfile} {createdAt : DateTime}
    (handled : self.handle (.recordAccountCreated email accountId profile createdAt)
      = .error .accountCreationAlreadyCompleted) :
    ∃ digest, self.phase = .accountCreated accountId digest profile createdAt := by
  simp only [handle, handleRecordAccountCreated] at handled
  split at handled
  · split at handled <;> cases handled
  · rename_i current digest acceptedProfile original phase
    split at handled
    · rename_i matching
      obtain ⟨rfl, rfl, rfl⟩ := matching
      exact ⟨digest, phase⟩
    · cases handled
  · cases handled
  · cases handled
  · cases handled

/-- Deciding never panics: the branch the source marks unreachable is. -/
theorem handle_ne_panicked (self : EmailReservation) (command : EmailReservationCommand) :
    self.handle command ≠ .panicked := by
  intro panicked
  cases command with
  | reserveEmail email accountId code =>
    simp only [handle, handleReserve] at panicked
    (repeat' split at panicked) <;> cases panicked
  | requestVerificationCode email accountId code =>
    simp only [handle, handleRequestVerificationCode] at panicked
    split at panicked
    · cases panicked
    · rename_i current holds
      (repeat' split at panicked) <;> cases panicked
      rename_i phase
      simp [EmailReservation.accountId, phase] at holds
  | verifyEmail email accountId code digest =>
    simp only [handle, handleVerify] at panicked
    (repeat' split at panicked) <;> cases panicked
  | submitRegistrationProfile email accountId digest submitted =>
    simp only [handle, handleSubmitProfile] at panicked
    (repeat' split at panicked) <;> cases panicked
  | recordAccountCreated email accountId profile createdAt =>
    simp only [handle, handleRecordAccountCreated] at panicked
    (repeat' split at panicked) <;> cases panicked

/-! ### What the event does -/

/-- The event of an accepted command applies. -/
theorem apply_emitted {self : EmailReservation} {command : EmailReservationCommand}
    {event : EmailReservationEvent} (accepted : self.Accepts command event) :
    ∃ next, self.apply event = some next := by
  cases accepted with
  | completed email accountId digest profile createdAt phase =>
    refine ⟨⟨.accountCreated accountId digest profile createdAt⟩, ?_⟩
    simp only [apply, phase]
  | _ => exact ⟨_, rfl⟩

/-- A completion keeps what was accepted. -/
theorem apply_completed {self next : EmailReservation} (email : Email)
    {accountId : UserAccountId} {digest : String} {profile : RegistrationProfile}
    {createdAt : DateTime} (phase : self.phase = .creatingAccount accountId digest profile)
    (applied : self.apply (.accountCreationCompleted email accountId createdAt) = some next) :
    next = ⟨.accountCreated accountId digest profile createdAt⟩ := by
  simp only [apply, phase] at applied
  exact (Option.some.inj applied).symm

/-- The completion event: the one that `apply` reads the phase for. -/
def IsCompletion : EmailReservationEvent → Prop
  | .accountCreationCompleted _ _ _ => True
  | _ => False

instance (event : EmailReservationEvent) : Decidable (IsCompletion event) := by
  cases event <;> unfold IsCompletion <;> infer_instance

/-- A completion is emitted exactly for the account and the profile that were accepted. -/
theorem Accepts.isCompletion_iff {self : EmailReservation} {command : EmailReservationCommand}
    {event : EmailReservationEvent} (accepted : self.Accepts command event) :
    IsCompletion event ↔ ∃ email accountId digest profile createdAt,
      self = ⟨.creatingAccount accountId digest profile⟩ ∧
      command = .recordAccountCreated email accountId profile createdAt := by
  cases accepted with
  | completed email accountId digest profile createdAt phase =>
    refine ⟨fun _ => ⟨email, accountId, digest, profile, createdAt, ?_, rfl⟩, fun _ => trivial⟩
    rw [← phase]
  | _ => exact ⟨False.elim, fun ⟨_, _, _, _, _, _, other⟩ => nomatch other⟩

/-- **The second application** of an event panics for a completion and changes nothing for every
other event. -/
theorem apply_again {self next : EmailReservation} {event : EmailReservationEvent}
    (applied : self.apply event = some next) :
    next.apply event = if IsCompletion event then none else some next := by
  cases event with
  | accountCreationCompleted email accountId createdAt =>
    simp only [apply] at applied
    split at applied
    · obtain rfl := Option.some.inj applied
      rfl
    · cases applied
  | _ =>
    obtain rfl := Option.some.inj applied
    rfl

end EmailReservation

theorem emailReservation_neverSilent : emailReservation.NeverSilent := by
  intro state command silent
  obtain ⟨_, one, _⟩ := EmailReservation.handle_cases silent
  cases one

/-- A repeated application never yields another state. -/
theorem emailReservation_repeatSafe : emailReservation.RepeatSafe := by
  intro state event next again applied repeated
  have second := EmailReservation.apply_again applied
  change EmailReservation.apply next event = some again at repeated
  rw [second] at repeated
  split at repeated
  · cases repeated
  · exact (Option.some.inj repeated).symm

end AccountManagement.Domain
