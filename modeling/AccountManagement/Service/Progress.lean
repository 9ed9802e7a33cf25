/-
**No registration is silently stuck.**

* `no_stuck_registration`: while a reservation is creating its account, there is an uncompleted row
  that continues it: its `CreateAccount` task, or, once the account exists, the
  `RecordAccountCreated` task with the data of the account. So when every registration row of an
  email is completed and its profile was accepted, the reservation says that the account was created.

A completed row has had its effect (`handled_reachable`), and the effect of the first task is the
commit that posts the second.
-/

import AccountManagement.Service.Continuations

namespace AccountManagement.Service

open AccountManagement.Library AccountManagement.Task AccountManagement.Domain
open AccountManagement.Store AccountManagement.Outbox AccountManagement.Runtime

section Progress

variable {Value : Type} [JsonValue Value] {wire : Wire Value} {config : PostgresCommandConfig}
  {offset : String → Int} {clock : DateTime} {sender : HandlerResult → Bool}
  {s : ServiceState wire}

variable (wire) in
/-- The stored task continues the registration of this email. -/
def registersFor (email : Email) (identity : Identity Value) : Bool :=
  createsFor wire email identity ||
    (readIdentity wire.recordAccountCreated identity).any fun task => task.email = email

/-- The row of a committed task. -/
theorem row_of_task {S : StoredAggregate Value} {log : List (Commit S)}
    (published : Published log s.queue.identities) {commit : Commit S} (member : commit ∈ log)
    {Payload : Type} [TaskPayload Payload] {codec : PayloadCodec Payload Value} {taskId : Uuid}
    {payload : Payload} (carried : taskOf codec taskId payload ∈ commit.tasks) :
    ∃ row ∈ s.queue.rows, readIdentity codec row.identity = some payload := by
  obtain ⟨sequence, stored⟩ := published.posted member carried
  obtain ⟨row, inside, same⟩ := List.mem_map.mp stored
  refine ⟨row, inside, ?_⟩
  rw [same, readIdentity_posted]
  exact payloadOf_taskOf codec taskId payload

variable (traced : Traced config offset s)
include traced

/-- An accepted profile has its `CreateAccount` row. -/
theorem Traced.create_row {email : Email} {accountId : UserAccountId} {digest : String}
    {profile : RegistrationProfile}
    (accepted : AcceptedIn (stream s.reservations.log email.toString) accountId digest profile) :
    ∃ row ∈ s.queue.rows,
      readIdentity wire.createAccount row.identity = some ⟨email, accountId, profile⟩ := by
  obtain ⟨_, submitted, _, member⟩ := accepted
  obtain ⟨rfl, _, tasks, committed, logged⟩ := traced.commit_email member
  cases committed with
  | accepted taskId _ _ _ _ _ =>
    exact row_of_task traced.tasks.reservations logged (List.mem_singleton.mpr rfl)

/-- An account has its `RecordAccountCreated` row, with the data of the account. -/
theorem Traced.record_row {task : CreateAccountTaskV1}
    (posted : Posted wire.createAccount task s.queue.identities) (made : AccountMade s task) :
    ∃ createdAt, storedEvents wire.accounts task.accountId.toString s.tables
        = [task.event createdAt] ∧
      ∃ row ∈ s.queue.rows, readIdentity wire.recordAccountCreated row.identity
        = some (task.completion createdAt) := by
  obtain ⟨command, createdAt, member⟩ := made
  obtain ⟨commit, logged, _, _, event⟩ := commit_of_mem_stream member
  obtain ⟨other, time, taskId, otherPosted, rfl⟩ := traced.account_commit logged
  obtain ⟨_, sameEmail, _, _, _, _, rfl⟩ := UserAccountEvent.accountCreated.inj event
  obtain rfl := traced.createAccount_unique otherPosted posted sameEmail
  exact ⟨time, traced.only_event logged,
    row_of_task traced.tasks.accounts logged (List.mem_singleton.mpr rfl)⟩

/-- **A row continues the registration** as long as the account is being created. -/
theorem Traced.continued (handled : Handled s) {email : Email} {accountId : UserAccountId}
    {digest : String} {profile : RegistrationProfile}
    (creating : s.reservation email = some ⟨.creatingAccount accountId digest profile⟩) :
    (∃ row ∈ s.queue.rows, row.status ≠ .completed ∧
      readIdentity wire.createAccount row.identity = some ⟨email, accountId, profile⟩) ∨
    ∃ createdAt, storedEvents wire.accounts accountId.toString s.tables
        = [CreateAccountTaskV1.event ⟨email, accountId, profile⟩ createdAt] ∧
      ∃ row ∈ s.queue.rows, row.status ≠ .completed ∧
        readIdentity wire.recordAccountCreated row.identity
          = some ⟨email, accountId, profile, createdAt⟩ := by
  obtain ⟨_, uncompleted, accepted⟩ := reservation_recorded (traced.serial creating)
  obtain ⟨row, stored, read⟩ := traced.create_row accepted
  by_cases done : row.status = .completed
  · have made := (handled.completed row stored done).created _ read
    obtain ⟨createdAt, only, next, storedNext, readNext⟩ :=
      traced.record_row ⟨_, List.mem_map_of_mem stored, read⟩ made
    refine .inr ⟨createdAt, only, next, storedNext, fun doneNext => ?_, readNext⟩
    have completed := (handled.completed next storedNext doneNext).recorded _ readNext
    exact absurd uncompleted (Nat.ne_of_gt completed)
  · exact .inl ⟨row, stored, done, read⟩

omit traced

/-- **No silently stuck registration.** In every reachable state of the service and for every email:
while its reservation is creating the account, its `CreateAccount` row is not completed, or the
account has its one event and the `RecordAccountCreated` row for it is not completed. So if all
registration rows of the email are completed and a profile was accepted, its reservation says that
the account was created. -/
theorem no_stuck_registration
    (reached : (serviceMachine wire config offset clock sender).Reachable s) (email : Email) :
    (∀ accountId digest profile,
      s.reservation email = some ⟨.creatingAccount accountId digest profile⟩ →
      (∃ row ∈ s.queue.rows, row.status ≠ .completed ∧
        readIdentity wire.createAccount row.identity = some ⟨email, accountId, profile⟩) ∨
      ∃ createdAt, storedEvents wire.accounts accountId.toString s.tables
          = [.accountCreated accountId email profile.firstName profile.lastName
              profile.dateOfBirth profile.validationDate createdAt] ∧
        ∃ row ∈ s.queue.rows, row.status ≠ .completed ∧
          readIdentity wire.recordAccountCreated row.identity
            = some ⟨email, accountId, profile, createdAt⟩) ∧
    ((∀ row ∈ s.queue.rows, registersFor wire email row.identity = true →
        row.status = .completed) →
      (∃ event ∈ storedEvents wire.reservations email.toString s.tables,
        EmailReservationEvent.isAcceptance event = true) →
      ∃ accountId digest profile createdAt,
        s.reservation email = some ⟨.accountCreated accountId digest profile createdAt⟩) := by
  have traced := traced_reachable reached
  have handled := handled_reachable reached
  refine ⟨fun accountId digest profile creating => traced.continued handled creating,
    fun allDone ⟨event, member, acceptance⟩ => ?_⟩
  obtain ⟨⟨phase⟩, loaded, serial⟩ := traced.reservation email
  have stored : storedEvents wire.reservations email.toString s.tables
      = (stream s.reservations.log email.toString).map Prod.snd :=
    traced.reservations.store.storedEvents email.toString
  rw [stored] at member
  obtain ⟨step, found, rfl⟩ := List.mem_map.mp member
  have accepted : 0 < acceptances (stream s.reservations.log email.toString) :=
    List.countP_pos_iff.mpr ⟨step, found, acceptance⟩
  have recorded := reservation_recorded serial
  cases phase with
  | absent | awaitingCode | awaitingProfile => exact absurd recorded.1 (Nat.ne_of_gt accepted)
  | accountCreated accountId digest profile createdAt =>
    exact ⟨accountId, digest, profile, createdAt, loaded⟩
  | creatingAccount accountId digest profile =>
    exfalso
    rcases traced.continued handled loaded with ⟨row, inside, open_, read⟩ |
      ⟨_, _, row, inside, open_, read⟩
    · refine open_ (allDone row inside ?_)
      simp [registersFor, createsFor, read]
    · refine open_ (allDone row inside ?_)
      simp [registersFor, read]

end Progress

theorem no_stuck_registration_created :
    let s := plainService.after (submission ++ creation) (by decide +kernel)
    (s.reservation ⟨"ann@example.com"⟩
        = some ⟨.creatingAccount ⟨7⟩ "token" ⟨"Ann", "Lee", 0, 2⟩⟩ ∧
      s.queue.rows.map OutboxRow.status = [.pending, .completed, .pending]) ∧
    ((∃ row ∈ s.queue.rows, row.status ≠ .completed ∧
        readIdentity plainWire.createAccount row.identity
          = some ⟨⟨"ann@example.com"⟩, ⟨7⟩, ⟨"Ann", "Lee", 0, 2⟩⟩) ∨
      ∃ createdAt, storedEvents plainWire.accounts (UserAccountId.toString ⟨7⟩) s.tables
          = [.accountCreated ⟨7⟩ ⟨"ann@example.com"⟩ "Ann" "Lee" 0 2 createdAt] ∧
        ∃ row ∈ s.queue.rows, row.status ≠ .completed ∧
          readIdentity plainWire.recordAccountCreated row.identity
            = some ⟨⟨"ann@example.com"⟩, ⟨7⟩, ⟨"Ann", "Lee", 0, 2⟩, createdAt⟩) := by
  intro s
  have creating : s.reservation ⟨"ann@example.com"⟩
      = some ⟨.creatingAccount ⟨7⟩ "token" ⟨"Ann", "Lee", 0, 2⟩⟩ := by
    decide +kernel
  exact ⟨⟨creating, by decide +kernel⟩, (no_stuck_registration (Machine.reachable_after
    (submission ++ creation) (by decide +kernel)) ⟨"ann@example.com"⟩).1 _ _ _ creating⟩

end AccountManagement.Service
