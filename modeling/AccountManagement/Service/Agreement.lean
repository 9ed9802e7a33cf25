/-
**The two aggregates agree.**

* `registration_agrees`: when a reservation says that its account was created, the account's stream
  holds exactly one event, with the email, the accepted profile and the creation time of the
  reservation; and every event is about the email, or the account ID, of its stream.

A completion was recorded for a stored `RecordAccountCreated` task, which was posted with the
creation of the account. The creation time travels in that task, so it does not matter that every
delivery of the creation reads the clock again.
-/

import AccountManagement.Service.OneAccount

namespace AccountManagement.Service

open AccountManagement.Library AccountManagement.Task AccountManagement.Domain
open AccountManagement.Store AccountManagement.Outbox AccountManagement.Runtime

section Agreement

variable {Value : Type} [JsonValue Value] {wire : Wire Value} {config : PostgresCommandConfig}
  {offset : String → Int} {clock : DateTime} {sender : HandlerResult → Bool}
  {s : ServiceState wire}

/-- The state of a reservation, from its stored events. -/
def ServiceState.reservation (s : ServiceState wire) (email : Email) : Option EmailReservation :=
  emailReservation.replay (storedEvents wire.reservations email.toString s.tables)

variable (traced : Traced config offset s)
include traced

/-- The state of a reservation is that of its history. -/
theorem Traced.reservation (email : Email) : ∃ state, s.reservation email = some state ∧
    emailReservation.Serial (stream s.reservations.log email.toString) state := by
  obtain ⟨state, serial⟩ := traced.reservations.store.serial email.toString
  refine ⟨state, ?_, serial⟩
  have stored : storedEvents wire.reservations email.toString s.tables
      = (stream s.reservations.log email.toString).map Prod.snd :=
    traced.reservations.store.storedEvents email.toString
  rw [ServiceState.reservation, stored]
  exact serial.replay

theorem Traced.serial {email : Email} {state : EmailReservation}
    (loaded : s.reservation email = some state) :
    emailReservation.Serial (stream s.reservations.log email.toString) state := by
  obtain ⟨known, found, serial⟩ := traced.reservation email
  obtain rfl := Option.some.inj (found.symm.trans loaded)
  exact serial

/-- The commits of a reservation are about its email. -/
theorem Traced.commit_email {email : Email} {command : EmailReservationCommand}
    {event : EmailReservationEvent}
    (member : (command, event) ∈ stream s.reservations.log email.toString) :
    command.email = email ∧ event.email = email ∧ ∃ tasks,
      ReservationCommitted wire s.queue.identities command event tasks ∧
      ⟨email.toString, command, event, tasks⟩ ∈ s.reservations.log := by
  obtain ⟨commit, found, keyed, rfl, rfl⟩ := commit_of_mem_stream member
  obtain ⟨named, committed⟩ := traced.reservation_commit found
  have about : EmailReservationCommand.email commit.command = email :=
    Email.toString_injective (named.symm.trans keyed)
  refine ⟨about, Eq.trans ?_ about, commit.tasks, committed, ?_⟩
  · obtain ⟨state, handled⟩ := traced.reservations.store.emitted found
    exact EmailReservation.handle_email handled
  · rw [← keyed]
    exact found

/-- The creation of an account is the only event of its stream. -/
theorem Traced.only_event {task : CreateAccountTaskV1} {createdAt : DateTime}
    {tasks : List (NewTask Value)}
    (created : ⟨task.accountId.toString, task.command createdAt, task.event createdAt, tasks⟩
      ∈ s.accounts.log) :
    storedEvents wire.accounts task.accountId.toString s.tables = [task.event createdAt] := by
  have stored : storedEvents wire.accounts task.accountId.toString s.tables
      = (stream s.accounts.log task.accountId.toString).map Prod.snd :=
    traced.accounts.store.storedEvents task.accountId.toString
  have inside := mem_stream created
  rw [stored]
  rcases traced.account_events task.accountId.toString with none | ⟨command, event, one⟩
  · rw [none] at inside
    cases inside
  · rw [one] at inside ⊢
    obtain ⟨_, same⟩ := Prod.mk.inj (List.mem_singleton.mp inside)
    exact congrArg (fun event => [event]) same.symm

/-- **A completed reservation** has its account, with the accepted profile and the same time. -/
theorem Traced.completed {email : Email} {accountId : UserAccountId} {digest : String}
    {profile : RegistrationProfile} {createdAt : DateTime}
    (created : s.reservation email = some ⟨.accountCreated accountId digest profile createdAt⟩) :
    storedEvents wire.accounts accountId.toString s.tables
      = [CreateAccountTaskV1.event ⟨email, accountId, profile⟩ createdAt] := by
  obtain ⟨_, _, _, email', recorded⟩ := reservation_recorded (traced.serial created)
  obtain ⟨rfl, _, tasks, committed, _⟩ := traced.commit_email recorded
  cases committed with
  | completed task posted =>
    obtain ⟨create, same, _, commit, found, taskId, rfl⟩ := traced.recordAccountCreated posted
    have only := traced.only_event found
    rw [same]
    exact only

omit traced

/-- **Agreement of the two aggregates.** In every reachable state of the service: the account of a
reservation that says `AccountCreated` has exactly one event, with the data and the creation time of
the reservation; and every stored event is about the email, or the account ID, of its stream. -/
theorem registration_agrees
    (reached : (serviceMachine wire config offset clock sender).Reachable s) :
    (∀ email accountId digest profile createdAt,
      s.reservation email = some ⟨.accountCreated accountId digest profile createdAt⟩ →
      storedEvents wire.accounts accountId.toString s.tables
        = [.accountCreated accountId email profile.firstName profile.lastName profile.dateOfBirth
            profile.validationDate createdAt]) ∧
      (∀ (email : Email), ∀ event ∈ storedEvents wire.reservations email.toString s.tables,
        EmailReservationEvent.email event = email) ∧
      ∀ (accountId : UserAccountId),
        ∀ event ∈ storedEvents wire.accounts accountId.toString s.tables,
          UserAccountEvent.accountId event = accountId := by
  have traced := traced_reachable reached
  refine ⟨fun email accountId digest profile createdAt created => traced.completed created,
    fun email event member => ?_, fun accountId event member => ?_⟩
  · have stored : storedEvents wire.reservations email.toString s.tables
        = (stream s.reservations.log email.toString).map Prod.snd :=
      traced.reservations.store.storedEvents email.toString
    rw [stored] at member
    obtain ⟨⟨command, emitted⟩, found, rfl⟩ := List.mem_map.mp member
    exact (traced.commit_email found).2.1
  · obtain ⟨task, createdAt, _, keyed, rfl⟩ := traced.account_event member
    exact (UserAccountId.toString_injective keyed).symm

end Agreement

theorem registration_agrees_registered :
    let s := plainService.after (submission ++ creation ++ completion) registration_enabled
    s.reservation ⟨"ann@example.com"⟩
        = some ⟨.accountCreated ⟨7⟩ "token" ⟨"Ann", "Lee", 0, 2⟩ 200000000000000⟩ ∧
      storedEvents plainWire.accounts (UserAccountId.toString ⟨7⟩) s.tables
        = [.accountCreated ⟨7⟩ ⟨"ann@example.com"⟩ "Ann" "Lee" 0 2 200000000000000] := by
  intro s
  have created : s.reservation ⟨"ann@example.com"⟩
      = some ⟨.accountCreated ⟨7⟩ "token" ⟨"Ann", "Lee", 0, 2⟩ 200000000000000⟩ := by
    decide +kernel
  exact ⟨created, (registration_agrees (Machine.reachable_after
    (submission ++ creation ++ completion) registration_enabled)).1 _ _ _ _ _ created⟩

end AccountManagement.Service
