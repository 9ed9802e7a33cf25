/-
**Value objects of the registration domain.**

Identifiers, emails, dates and the registration profile, as the domain layer declares them. An
`Email` is the canonical address its parser produced; its stream key is its text. A
`UserAccountId` wraps a UUID; its stream key is the hyphenated spelling, which determines it
(`UserAccountId.toString_injective`).
-/

import AccountManagement.Library.Text
import AccountManagement.Library.Time

namespace AccountManagement.Domain

open AccountManagement.Library

/-- A calendar date, in days. -/
abbrev NaiveDate := Int

/-- The calendar date of a timestamp. -/
def dateNaive (time : DateTime) : NaiveDate := time / 86400000000000

/-- A canonical email address. -/
structure Email where
  address : String
deriving DecidableEq

/-- The text of an email, which is also the key of its stream. -/
def Email.toString (email : Email) : String := email.address

theorem Email.toString_injective {first second : Email}
    (same : first.toString = second.toString) : first = second := by
  cases first
  cases second
  exact congrArg Email.mk same

/-- The identifier of a user account. -/
structure UserAccountId where
  uuid : Uuid
deriving DecidableEq

/-- The hyphenated spelling of an account ID, which is also the key of its stream. -/
def UserAccountId.toString (accountId : UserAccountId) : String := hyphenated accountId.uuid

theorem UserAccountId.toString_injective {first second : UserAccountId}
    (same : first.toString = second.toString) : first = second := by
  cases first
  cases second
  exact congrArg UserAccountId.mk (hyphenated_injective same)

/-- The personal data of a registration. -/
structure RegistrationProfile where
  firstName : String
  lastName : String
  dateOfBirth : NaiveDate
  validationDate : NaiveDate
deriving DecidableEq

/-- The constructor of a profile trims both names. -/
def RegistrationProfile.new (firstName lastName : String)
    (dateOfBirth validationDate : NaiveDate) : RegistrationProfile where
  firstName := trim firstName
  lastName := trim lastName
  dateOfBirth := dateOfBirth
  validationDate := validationDate

/-- **A profile built by the constructor is unchanged when it is built again from its fields.** -/
theorem RegistrationProfile.new_new (firstName lastName : String)
    (dateOfBirth validationDate : NaiveDate) :
    let profile := RegistrationProfile.new firstName lastName dateOfBirth validationDate
    RegistrationProfile.new profile.firstName profile.lastName profile.dateOfBirth
      profile.validationDate = profile := by
  simp [RegistrationProfile.new]

end AccountManagement.Domain
