/-
**The `UserAccount` aggregate.**

An account is created once. A repeated creation is rejected, as `AlreadyCreated` when all of its
data but the creation time agree with the account (`handle_alreadyCreated`), and as a conflict of
data otherwise. `apply` assigns the account, so the aggregate is `RepeatTolerant`.
-/

import AccountManagement.Library.EventSourcing
import AccountManagement.Domain.Values

namespace AccountManagement.Domain

open AccountManagement.Library

/-- The data of a created account. -/
structure CreatedAccount where
  accountId : UserAccountId
  email : Email
  firstName : String
  lastName : String
  dateOfBirth : NaiveDate
  validationDate : NaiveDate
  createdAt : DateTime
deriving DecidableEq

/-- A user account, created or not. -/
structure UserAccount where
  created : Option CreatedAccount
deriving DecidableEq

/-- The command of an account. -/
inductive UserAccountCommand where
  | createAccount (accountId : UserAccountId) (email : Email) (firstName lastName : String)
      (dateOfBirth validationDate : NaiveDate) (createdAt : DateTime)
deriving DecidableEq

/-- The event of an account. -/
inductive UserAccountEvent where
  | accountCreated (accountId : UserAccountId) (email : Email) (firstName lastName : String)
      (dateOfBirth validationDate : NaiveDate) (createdAt : DateTime)
deriving DecidableEq

/-- Why an account rejects a command. -/
inductive UserAccountError where
  | emptyFirstName
  | emptyLastName
  | futureDateOfBirth (dateOfBirth validationDate : NaiveDate)
  | alreadyExistsWithDifferentData
  | alreadyCreated
deriving DecidableEq

namespace UserAccount

def handleCreateAccount (self : UserAccount) (accountId : UserAccountId) (email : Email)
    (givenFirstName givenLastName : String) (dateOfBirth validationDate : NaiveDate)
    (createdAt : DateTime) : Outcome UserAccountError (List UserAccountEvent) :=
  let firstName := trim givenFirstName
  let lastName := trim givenLastName
  match self.created with
  | some existing =>
    if existing.accountId = accountId ∧ existing.email = email ∧ existing.firstName = firstName ∧
        existing.lastName = lastName ∧ existing.dateOfBirth = dateOfBirth ∧
        existing.validationDate = validationDate then
      .error .alreadyCreated
    else
      .error .alreadyExistsWithDifferentData
  | none =>
    if firstName = "" then
      .error .emptyFirstName
    else if lastName = "" then
      .error .emptyLastName
    else if dateOfBirth > validationDate then
      .error (.futureDateOfBirth dateOfBirth validationDate)
    else
      .ok [.accountCreated accountId email firstName lastName dateOfBirth validationDate createdAt]

def handle (self : UserAccount) :
    UserAccountCommand → Outcome UserAccountError (List UserAccountEvent)
  | .createAccount accountId email firstName lastName dateOfBirth validationDate createdAt =>
    self.handleCreateAccount accountId email firstName lastName dateOfBirth validationDate createdAt

def apply (_ : UserAccount) : UserAccountEvent → Option UserAccount
  | .accountCreated accountId email firstName lastName dateOfBirth validationDate createdAt =>
    some ⟨some ⟨accountId, email, firstName, lastName, dateOfBirth, validationDate, createdAt⟩⟩

end UserAccount

/-- The aggregate, as the command framework runs it. -/
abbrev userAccount : Aggregate where
  State := UserAccount
  Command := UserAccountCommand
  Event := UserAccountEvent
  Error := UserAccountError
  initial := ⟨none⟩
  handle := UserAccount.handle
  apply := UserAccount.apply

namespace UserAccount

/-- **One event per accepted creation**, only of an account that does not exist yet, with both
names trimmed. -/
theorem handle_cases {self : UserAccount} {accountId : UserAccountId} {email : Email}
    {firstName lastName : String} {dateOfBirth validationDate : NaiveDate} {createdAt : DateTime}
    {events : List UserAccountEvent}
    (handled : self.handle (.createAccount accountId email firstName lastName dateOfBirth
      validationDate createdAt) = .ok events) :
    self.created = none ∧ trim firstName ≠ "" ∧ trim lastName ≠ "" ∧
      dateOfBirth ≤ validationDate ∧
      events = [.accountCreated accountId email (trim firstName) (trim lastName) dateOfBirth
        validationDate createdAt] := by
  simp only [handle, handleCreateAccount] at handled
  split at handled
  · split at handled <;> cases handled
  · rename_i absent
    split at handled
    · cases handled
    · rename_i first
      split at handled
      · cases handled
      · rename_i last
        split at handled
        · cases handled
        · rename_i born
          exact ⟨absent, first, last, not_lt.mp born, (Outcome.ok.inj handled).symm⟩

theorem handle_ne_panicked (self : UserAccount) (command : UserAccountCommand) :
    self.handle command ≠ .panicked := by
  intro panicked
  cases command
  simp only [handle, handleCreateAccount] at panicked
  (repeat' split at panicked) <;> cases panicked

/-- **An exact repetition** is recognised only when the stored account has the same data, up to
the creation time. -/
theorem handle_alreadyCreated {self : UserAccount} {accountId : UserAccountId} {email : Email}
    {firstName lastName : String} {dateOfBirth validationDate : NaiveDate} {createdAt : DateTime}
    (handled : self.handle (.createAccount accountId email firstName lastName dateOfBirth
      validationDate createdAt) = .error .alreadyCreated) :
    ∃ original, self.created = some ⟨accountId, email, trim firstName, trim lastName, dateOfBirth,
      validationDate, original⟩ := by
  simp only [handle, handleCreateAccount] at handled
  split at handled
  · rename_i existing present
    split at handled
    · rename_i matching
      obtain ⟨rfl, rfl, first, last, rfl, rfl⟩ := matching
      refine ⟨existing.createdAt, ?_⟩
      rw [present, ← first, ← last]
    · cases handled
  · (repeat' split at handled) <;> cases handled

end UserAccount

theorem userAccount_neverSilent : userAccount.NeverSilent := by
  rintro state ⟨⟩ silent
  obtain ⟨_, _, _, _, one⟩ := UserAccount.handle_cases silent
  cases one

/-- Assigning the account twice is assigning it once. -/
theorem userAccount_repeatTolerant : userAccount.RepeatTolerant := by
  intro state event next applied
  cases event
  obtain rfl := Option.some.inj applied
  rfl

end AccountManagement.Domain
