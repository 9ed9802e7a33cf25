/-
**Histories of the two aggregates.**

What the state of a serial history says about its commands and events.

* `reservation_recorded`: the phase of a reservation determines how often a profile was accepted
  and a creation completed, at most once each, and an accepted profile and a completion in the
  phase are those of the history.
* `reservation_final`: a completion is never undone.
* `account_history`: a history of an account is empty, or it is one creation.
-/

import AccountManagement.Domain.EmailReservation
import AccountManagement.Domain.UserAccount
import AccountManagement.Library.Keyed

namespace AccountManagement.Domain

open AccountManagement.Library

/-! ### What commands and events are about -/

def EmailReservationCommand.email : EmailReservationCommand → Email
  | .reserveEmail email _ _ => email
  | .requestVerificationCode email _ _ => email
  | .verifyEmail email _ _ _ => email
  | .submitRegistrationProfile email _ _ _ => email
  | .recordAccountCreated email _ _ _ => email

def EmailReservationEvent.email : EmailReservationEvent → Email
  | .emailReserved email _ _ => email
  | .verificationCodeRequested email _ _ => email
  | .verificationRestarted email _ _ => email
  | .emailVerified email _ _ => email
  | .registrationProfileAccepted email _ _ _ => email
  | .accountCreationCompleted email _ _ => email

def UserAccountCommand.accountId : UserAccountCommand → UserAccountId
  | .createAccount accountId _ _ _ _ _ _ => accountId

def UserAccountEvent.accountId : UserAccountEvent → UserAccountId
  | .accountCreated accountId _ _ _ _ _ _ => accountId

def UserAccountEvent.email : UserAccountEvent → Email
  | .accountCreated _ email _ _ _ _ _ => email

/-- The account ID that a command issues. -/
def EmailReservationCommand.issued : EmailReservationCommand → Option UserAccountId
  | .reserveEmail _ accountId _ => some accountId
  | .requestVerificationCode _ accountId _ => some accountId
  | _ => none

def EmailReservationEvent.isAcceptance : EmailReservationEvent → Bool
  | .registrationProfileAccepted _ _ _ _ => true
  | _ => false

/-- An accepted profile: both names trimmed and not empty, and no birth after the validation. -/
structure RegistrationProfile.Valid (profile : RegistrationProfile) : Prop where
  normal : RegistrationProfile.new profile.firstName profile.lastName profile.dateOfBirth
    profile.validationDate = profile
  firstName : profile.firstName ≠ ""
  lastName : profile.lastName ≠ ""
  born : profile.dateOfBirth ≤ profile.validationDate

theorem RegistrationProfile.trim_eq {profile : RegistrationProfile}
    (normal : RegistrationProfile.new profile.firstName profile.lastName profile.dateOfBirth
      profile.validationDate = profile) :
    trim profile.firstName = profile.firstName ∧ trim profile.lastName = profile.lastName :=
  ⟨congrArg RegistrationProfile.firstName normal, congrArg RegistrationProfile.lastName normal⟩

/-! ### Reservations -/

/-- The commands of a reservation with the events they emitted. -/
abbrev ReservationHistory := List (EmailReservationCommand × EmailReservationEvent)

def acceptances (history : ReservationHistory) : Nat :=
  history.countP fun step => step.2.isAcceptance

def completions (history : ReservationHistory) : Nat :=
  history.countP fun step => EmailReservation.IsCompletion step.2

/-- The accepted profile is that of a submission in the history. -/
def AcceptedIn (history : ReservationHistory) (accountId : UserAccountId) (digest : String)
    (profile : RegistrationProfile) : Prop :=
  ∃ email submitted, profile = RegistrationProfile.new submitted.firstName submitted.lastName
      submitted.dateOfBirth submitted.validationDate ∧
    (.submitRegistrationProfile email accountId digest submitted,
      .registrationProfileAccepted email accountId digest profile) ∈ history

/-- What a phase says about the history that led to it. -/
def Recorded (history : ReservationHistory) : ReservationPhase → Prop
  | .absent | .awaitingCode _ _ | .awaitingProfile _ _ =>
    acceptances history = 0 ∧ completions history = 0
  | .creatingAccount accountId digest profile =>
    acceptances history = 1 ∧ completions history = 0 ∧
      AcceptedIn history accountId digest profile
  | .accountCreated accountId digest profile createdAt =>
    acceptances history = 1 ∧ completions history = 1 ∧
      AcceptedIn history accountId digest profile ∧
      ∃ email, (.recordAccountCreated email accountId profile createdAt,
        .accountCreationCompleted email accountId createdAt) ∈ history

theorem acceptances_append (history : ReservationHistory) (command : EmailReservationCommand)
    (event : EmailReservationEvent) : acceptances (history ++ [(command, event)])
      = acceptances history + if event.isAcceptance then 1 else 0 := by
  unfold acceptances
  rw [List.countP_append, List.countP_singleton]

theorem completions_append (history : ReservationHistory) (command : EmailReservationCommand)
    (event : EmailReservationEvent) : completions (history ++ [(command, event)])
      = completions history + if EmailReservation.IsCompletion event then 1 else 0 := by
  unfold completions
  rw [List.countP_append, List.countP_singleton]
  simp only [decide_eq_true_eq]

theorem AcceptedIn.append {history : ReservationHistory} {accountId : UserAccountId}
    {digest : String} {profile : RegistrationProfile}
    (accepted : AcceptedIn history accountId digest profile) (more : ReservationHistory) :
    AcceptedIn (history ++ more) accountId digest profile := by
  obtain ⟨email, submitted, normal, member⟩ := accepted
  exact ⟨email, submitted, normal, List.mem_append_left _ member⟩

/-- **The phase records the history.** -/
theorem reservation_recorded {history : ReservationHistory} {state : EmailReservation}
    (serial : emailReservation.Serial history state) : Recorded history state.phase := by
  refine serial.invariant (A := emailReservation)
    (P := fun history state => Recorded history (EmailReservation.phase state)) ⟨rfl, rfl⟩ ?_
  · intro history state next command event ih handled applied
    obtain ⟨emitted, one, accepts⟩ := EmailReservation.handle_cases handled
    obtain rfl : event = emitted := List.head_eq_of_cons_eq one
    have last : (command, event) ∈ history ++ [(command, event)] :=
      List.mem_append_right _ (List.mem_singleton.mpr rfl)
    have acceptance := acceptances_append history command event
    have completion := completions_append history command event
    cases accepts with
    | reserved email accountId code phase _ _ =>
      rw [phase] at ih
      obtain rfl := Option.some.inj applied
      exact ⟨acceptance.trans ih.1, completion.trans ih.2⟩
    | reissued email accountId code current previous phase _ _ _ =>
      rw [phase] at ih
      obtain rfl := Option.some.inj applied
      exact ⟨acceptance.trans ih.1, completion.trans ih.2⟩
    | restarted email accountId code current digest phase _ _ _ =>
      rw [phase] at ih
      obtain rfl := Option.some.inj applied
      exact ⟨acceptance.trans ih.1, completion.trans ih.2⟩
    | verified email accountId code digest phase =>
      rw [phase] at ih
      obtain rfl := Option.some.inj applied
      exact ⟨acceptance.trans ih.1, completion.trans ih.2⟩
    | accepted email accountId digest submitted profile phase normal _ _ _ =>
      rw [phase] at ih
      obtain rfl := Option.some.inj applied
      exact ⟨acceptance.trans (congrArg (· + 1) ih.1), completion.trans ih.2, email, submitted,
        normal, last⟩
    | completed email accountId digest profile createdAt phase =>
      rw [phase] at ih
      obtain ⟨accepted, none, origin⟩ := ih
      obtain rfl := EmailReservation.apply_completed email phase applied
      exact ⟨acceptance.trans accepted, completion.trans (congrArg (· + 1) none),
        origin.append _, email, last⟩

/-- **At most one acceptance and one completion.** -/
theorem reservation_once {history : ReservationHistory} {state : EmailReservation}
    (serial : emailReservation.Serial history state) :
    acceptances history ≤ 1 ∧ completions history ≤ 1 := by
  have recorded := reservation_recorded serial
  cases phase : state.phase with
  | absent | awaitingCode | awaitingProfile =>
    rw [phase] at recorded
    exact ⟨le_of_eq_of_le recorded.1 (Nat.zero_le 1), le_of_eq_of_le recorded.2 (Nat.zero_le 1)⟩
  | creatingAccount =>
    rw [phase] at recorded
    exact ⟨le_of_eq recorded.1, le_of_eq_of_le recorded.2.1 (Nat.zero_le 1)⟩
  | accountCreated =>
    rw [phase] at recorded
    exact ⟨le_of_eq recorded.1, le_of_eq recorded.2.1⟩

/-- **A completion is final.** -/
theorem reservation_final {history : ReservationHistory} {state : EmailReservation}
    (serial : emailReservation.Serial history state) (completed : 0 < completions history) :
    ∃ accountId digest profile createdAt,
      state.phase = .accountCreated accountId digest profile createdAt := by
  have recorded := reservation_recorded serial
  cases phase : state.phase with
  | absent | awaitingCode | awaitingProfile =>
    rw [phase] at recorded
    exact absurd recorded.2 completed.ne'
  | creatingAccount =>
    rw [phase] at recorded
    exact absurd recorded.2.1 completed.ne'
  | accountCreated accountId digest profile createdAt =>
    exact ⟨accountId, digest, profile, createdAt, rfl⟩

/-- **An acceptance determines the phase** from then on. -/
theorem reservation_accepted {history : ReservationHistory} {state : EmailReservation}
    (serial : emailReservation.Serial history state) {email : Email} {accountId : UserAccountId}
    {digest : String} {submitted profile : RegistrationProfile}
    (accepted : (.submitRegistrationProfile email accountId digest submitted,
      .registrationProfileAccepted email accountId digest profile) ∈ history) :
    state.phase = .creatingAccount accountId digest profile ∨
      ∃ createdAt, state.phase = .accountCreated accountId digest profile createdAt := by
  have recorded := reservation_recorded serial
  have once := (reservation_once serial).1
  have some_ : 0 < acceptances history := List.countP_pos_iff.mpr ⟨_, accepted, rfl⟩
  have same : ∀ {current : UserAccountId} {consumed : String} {known : RegistrationProfile},
      AcceptedIn history current consumed known →
      current = accountId ∧ consumed = digest ∧ known = profile := by
    rintro current consumed known ⟨_, _, _, member⟩
    have equal := Keyed.eq_of_countP_le_one once member accepted rfl rfl
    obtain ⟨_, sameId, sameDigest, sameProfile⟩ :=
      EmailReservationEvent.registrationProfileAccepted.inj (Prod.mk.inj equal).2
    exact ⟨sameId, sameDigest, sameProfile⟩
  cases phase : state.phase with
  | absent | awaitingCode | awaitingProfile =>
    rw [phase] at recorded
    exact absurd recorded.1 some_.ne'
  | creatingAccount =>
    rw [phase] at recorded
    obtain ⟨rfl, rfl, rfl⟩ := same recorded.2.2
    exact .inl rfl
  | accountCreated _ _ _ createdAt =>
    rw [phase] at recorded
    obtain ⟨rfl, rfl, rfl⟩ := same recorded.2.2.1
    exact .inr ⟨createdAt, rfl⟩

/-- **The account ID of a reservation was issued** by one of its commands. -/
theorem reservation_issued {history : ReservationHistory} {state : EmailReservation}
    (serial : emailReservation.Serial history state) {accountId : UserAccountId}
    (current : state.accountId = some accountId) :
    ∃ step ∈ history, step.1.issued = some accountId := by
  refine serial.invariant (A := emailReservation)
    (P := fun history state => ∀ accountId, EmailReservation.accountId state = some accountId →
      ∃ step ∈ history, step.1.issued = some accountId) nofun ?_ accountId current
  intro history state next command event ih handled applied accountId current
  obtain ⟨emitted, one, accepts⟩ := EmailReservation.handle_cases handled
  obtain rfl : event = emitted := List.head_eq_of_cons_eq one
  have new : command.issued = some accountId →
      ∃ step ∈ history ++ [(command, event)], step.1.issued = some accountId := fun issues =>
    ⟨_, List.mem_append_right _ (List.mem_singleton.mpr rfl), issues⟩
  have kept : EmailReservation.accountId state = some accountId →
      ∃ step ∈ history ++ [(command, event)], step.1.issued = some accountId := fun before => by
    obtain ⟨step, member, issues⟩ := ih accountId before
    exact ⟨step, List.mem_append_left _ member, issues⟩
  cases accepts with
  | reserved | reissued | restarted =>
    obtain rfl := Option.some.inj applied
    exact new current
  | verified email known code digest phase =>
    obtain rfl := Option.some.inj applied
    refine kept ?_
    rw [EmailReservation.accountId, phase]
    exact current
  | accepted email known digest submitted profile phase =>
    obtain rfl := Option.some.inj applied
    refine kept ?_
    rw [EmailReservation.accountId, phase]
    exact current
  | completed email known digest profile createdAt phase =>
    obtain rfl := EmailReservation.apply_completed email phase applied
    refine kept ?_
    rw [EmailReservation.accountId, phase]
    exact current

/-- Every event is about the email of its command. -/
theorem EmailReservation.handle_email {self : EmailReservation} {command : EmailReservationCommand}
    {event : EmailReservationEvent} (handled : self.handle command = .ok [event]) :
    event.email = command.email := by
  obtain ⟨emitted, one, accepts⟩ := EmailReservation.handle_cases handled
  obtain rfl : event = emitted := List.head_eq_of_cons_eq one
  cases accepts <;> rfl

/-! ### Accounts -/

/-- The account that an event creates. -/
def UserAccountEvent.account : UserAccountEvent → CreatedAccount
  | .accountCreated accountId email firstName lastName dateOfBirth validationDate createdAt =>
    ⟨accountId, email, firstName, lastName, dateOfBirth, validationDate, createdAt⟩

/-- **A history of an account** is empty, or it is the creation of the account. -/
theorem account_history {history : List (UserAccountCommand × UserAccountEvent)}
    {state : UserAccount} (serial : userAccount.Serial history state) :
    (history = [] ∧ state.created = none) ∨
      ∃ command event, history = [(command, event)] ∧ state.created = some event.account := by
  refine serial.invariant (A := userAccount)
    (P := fun history state => (history = [] ∧ UserAccount.created state = none) ∨
      ∃ command event, history = [(command, event)] ∧
        UserAccount.created state = some event.account)
    (.inl ⟨rfl, rfl⟩) ?_
  rintro history state next ⟨⟩ event ih handled applied
  obtain ⟨absent, _⟩ := UserAccount.handle_cases handled
  rcases ih with ⟨rfl, _⟩ | ⟨_, _, _, present⟩
  · cases event
    obtain rfl := Option.some.inj applied
    exact .inr ⟨_, _, rfl, rfl⟩
  · rw [absent] at present
    cases present

end AccountManagement.Domain
