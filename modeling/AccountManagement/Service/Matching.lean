/-
**Stored tasks match the aggregates they are for.**

A stored task was posted by a commit. So its payload is well formed and its handler does not reject it
before its call (`Traced.dispatches`), and the aggregate it is for is in a phase that the task
matches: `Traced.record_phase` for reservations, whatever the account IDs, and `Traced.create_account`
for accounts, which needs that an ID was issued for one email only.
-/

import AccountManagement.Service.Continuations

namespace AccountManagement.Service

open AccountManagement.Library AccountManagement.Task AccountManagement.Domain
open AccountManagement.Store AccountManagement.Outbox AccountManagement.Runtime

section Matching

variable {Value : Type} [JsonValue Value] {wire : Wire Value} {config : PostgresCommandConfig}
  {offset : String → Int} {s : ServiceState wire}

/-- The account IDs that were generated for the requests so far. -/
def ServiceState.issuedIds (s : ServiceState wire) : List UserAccountId :=
  (s.reservations.calls.map Execution.command).filterMap EmailReservationCommand.issued

/-! ### What a stored task meets -/

variable (traced : Traced config offset s)
include traced

/-- An accepted account ID was issued by a command for the email. -/
theorem Traced.issued {task : CreateAccountTaskV1}
    (posted : Posted wire.createAccount task s.queue.identities) :
    ∃ command ∈ s.reservations.calls.map Execution.command,
      EmailReservationCommand.email command = task.email ∧
      EmailReservationCommand.issued command = some task.accountId := by
  obtain ⟨digest, accepted⟩ := traced.accepted posted
  obtain ⟨state, _, serial⟩ := traced.reservation task.email
  have current : state.accountId = some task.accountId := by
    rcases reservation_accepted serial accepted with phase | ⟨_, phase⟩
    · rw [EmailReservation.accountId, phase]
    · rw [EmailReservation.accountId, phase]
  obtain ⟨⟨command, event⟩, member, issues⟩ := reservation_issued serial current
  obtain ⟨about, _, tasks, _, logged⟩ := traced.commit_email member
  obtain ⟨call, found, _, same, _⟩ := traced.reservations.answers.origin _ logged
  exact ⟨command, List.mem_map.mpr ⟨call, found, same⟩, about, issues⟩

/-- **An account ID belongs to one `CreateAccount` task.** -/
theorem Traced.create_of_id (distinct : s.issuedIds.Nodup) {first second : CreateAccountTaskV1}
    (firstPosted : Posted wire.createAccount first s.queue.identities)
    (secondPosted : Posted wire.createAccount second s.queue.identities)
    (same : first.accountId = second.accountId) : first = second := by
  obtain ⟨command, called, about, issues⟩ := traced.issued firstPosted
  obtain ⟨command', called', about', issues'⟩ := traced.issued secondPosted
  rw [← same] at issues'
  obtain rfl := Keyed.eq_of_nodup_filterMap distinct called called' issues issues'
  exact traced.createAccount_unique firstPosted secondPosted (about.symm.trans about')

/-- **What a `CreateAccount` task meets**: no account, or the account it asks for. -/
theorem Traced.create_account (distinct : s.issuedIds.Nodup) {task : CreateAccountTaskV1}
    (posted : Posted wire.createAccount task s.queue.identities) {command : UserAccountCommand}
    {event : UserAccountEvent}
    (member : (command, event) ∈ stream s.accounts.log task.accountId.toString) :
    ∃ createdAt, event = task.event createdAt := by
  obtain ⟨commit, logged, keyed, _, rfl⟩ := commit_of_mem_stream member
  obtain ⟨other, createdAt, _, otherPosted, rfl⟩ := traced.account_commit logged
  obtain rfl := traced.create_of_id distinct otherPosted posted
    (UserAccountId.toString_injective keyed)
  exact ⟨createdAt, rfl⟩

/-- **What a `RecordAccountCreated` task meets**: the reservation it was made for. -/
theorem Traced.record_phase {task : RecordAccountCreatedTaskV1}
    (posted : Posted wire.recordAccountCreated task s.queue.identities) {state : EmailReservation}
    (serial : emailReservation.Serial (stream s.reservations.log task.email.toString) state) :
    ∃ digest, state.phase = .creatingAccount task.accountId digest task.profile ∨
      state.phase = .accountCreated task.accountId digest task.profile task.createdAt := by
  obtain ⟨create, same, created, commit, logged, taskId, rfl⟩ := traced.recordAccountCreated posted
  obtain ⟨digest, accepted⟩ := traced.accepted created
  have email : task.email = create.email := congrArg RecordAccountCreatedTaskV1.email same
  have accountId : task.accountId = create.accountId :=
    congrArg RecordAccountCreatedTaskV1.accountId same
  have profile : task.profile = create.profile := congrArg RecordAccountCreatedTaskV1.profile same
  rw [email] at serial
  rw [accountId, profile]
  refine ⟨digest, ?_⟩
  rcases reservation_accepted serial accepted with phase | ⟨createdAt, phase⟩
  · exact .inl phase
  · -- the completion was recorded for a task of the same account, whose stream has one event
    right
    have recorded := reservation_recorded serial
    rw [phase] at recorded
    obtain ⟨_, _, _, about, completion⟩ := recorded
    obtain ⟨rfl, _, _, committed, _⟩ := traced.commit_email completion
    generalize event_eq : EmailReservationEvent.accountCreationCompleted create.email
      create.accountId createdAt = event at committed
    generalize command_eq : EmailReservationCommand.recordAccountCreated create.email
      create.accountId create.profile createdAt = command at committed
    cases committed with
    | reserved | reissued | restarted | verified | accepted => cases event_eq
    | completed other otherPosted =>
      obtain ⟨_, _, sameTime⟩ := EmailReservationEvent.accountCreationCompleted.inj event_eq
      obtain ⟨otherCreate, otherSame, otherCreated, _, otherLogged, _, rfl⟩ :=
        traced.recordAccountCreated otherPosted
      have otherEmail : otherCreate.email = create.email :=
        (congrArg RecordAccountCreatedTaskV1.email otherSame).symm.trans
          (EmailReservationEvent.accountCreationCompleted.inj event_eq).1.symm
      obtain rfl := traced.createAccount_unique otherCreated created otherEmail
      have only := traced.only_event logged
      rw [traced.only_event otherLogged] at only
      obtain ⟨_, _, _, _, _, _, time⟩ :=
        UserAccountEvent.accountCreated.inj (List.head_eq_of_cons_eq only)
      rw [phase, sameTime, time]

omit traced

/-! ### Dispatch -/

theorem decode_of_payload {Payload : Type} [TaskPayload Payload] {codec : PayloadCodec Payload Value}
    {format : TaskFormat} {data : Value} {payload : Payload}
    (read : payloadOf codec format data = some payload) : codec.decode data = some payload := by
  unfold payloadOf at read
  split at read
  · exact read
  · cases read

theorem dispatch_sends {attempt : TaskAttempt Value} {task : SendVerificationCodeTaskV1}
    (read : payloadOf wire.sendVerificationCode attempt.format attempt.payload = some task)
    (low : 1000000 ≤ task.verificationCode) (high : task.verificationCode ≤ 9999999)
    (now : DateTime) (taskId : Uuid) : dispatch wire now taskId attempt
      = .sends ⟨task.email, task.accountId, task.verificationCode⟩ := by
  unfold dispatch
  rw [if_pos (format_of_payload read)]
  simp only [invokeAdapter, decode_of_payload read]
  exact if_neg fun outside => outside ⟨low, high⟩

theorem dispatch_creates {attempt : TaskAttempt Value} {task : CreateAccountTaskV1}
    (read : payloadOf wire.createAccount attempt.format attempt.payload = some task)
    (now : DateTime) (taskId : Uuid) : dispatch wire now taskId attempt
      = .account (createAccount wire now taskId task) := by
  have format := format_of_payload read
  unfold dispatch
  rw [if_neg (by rw [format]; decide), if_pos format]
  simp only [invokeAdapter, decode_of_payload read]

theorem dispatch_records {attempt : TaskAttempt Value} {task : RecordAccountCreatedTaskV1}
    (read : payloadOf wire.recordAccountCreated attempt.format attempt.payload = some task)
    (now : DateTime) (taskId : Uuid) : dispatch wire now taskId attempt
      = .reservation (recordAccountCreated task) := by
  have format := format_of_payload read
  unfold dispatch
  rw [if_neg (by rw [format]; decide), if_neg (by rw [format]; decide), if_pos format]
  simp only [invokeAdapter, decode_of_payload read]

/-- **A delivered task is well formed**: its handler does not reject it before its call. -/
theorem Traced.dispatches (traced : Traced config offset s) {attempt : TaskAttempt Value}
    (delivered : Delivered s.queue.identities attempt) (now : DateTime) (taskId : Uuid)
    (result : HandlerResult) : dispatch wire now taskId attempt ≠ .answers result := by
  obtain ⟨identity, stored, delivers⟩ := delivered
  rcases traced.row_commit stored with ⟨_, commit, logged, _, carried, inside, reads⟩ |
    ⟨_, commit, logged, _, carried, inside, reads⟩
  · obtain ⟨_, committed⟩ := traced.reservation_commit logged
    obtain ⟨_, command, event, tasks⟩ := commit
    cases committed with
    | reserved id email accountId code low high | reissued id email accountId code low high
    | restarted id email accountId code low high =>
      obtain rfl := List.mem_singleton.mp inside
      have read := (delivers.read wire.sendVerificationCode).symm.trans (reads _)
      rw [payloadOf_taskOf] at read
      rw [dispatch_sends read low high]
      exact nofun
    | verified | completed => cases inside
    | accepted =>
      obtain rfl := List.mem_singleton.mp inside
      have read := (delivers.read wire.createAccount).symm.trans (reads _)
      rw [payloadOf_taskOf] at read
      rw [dispatch_creates read]
      exact nofun
  · obtain ⟨create, createdAt, _, _, rfl⟩ := traced.account_commit logged
    obtain rfl := List.mem_singleton.mp inside
    have read := (delivers.read wire.recordAccountCreated).symm.trans (reads _)
    rw [payloadOf_taskOf] at read
    rw [dispatch_records read]
    exact nofun

/-! ### What a continuation is answered -/

/-- A creation for the account that exists is recognised. -/
theorem handle_created {task : CreateAccountTaskV1} (valid : task.profile.Valid)
    {state : UserAccount} {original : DateTime}
    (exists_ : state.created = some (task.event original).account) (createdAt : DateTime) :
    state.handle (task.command createdAt) = .error .alreadyCreated := by
  obtain ⟨firstName, lastName⟩ := RegistrationProfile.trim_eq valid.normal
  simp only [CreateAccountTaskV1.command, UserAccount.handle, UserAccount.handleCreateAccount,
    exists_, firstName, lastName]
  exact if_pos ⟨rfl, rfl, rfl, rfl, rfl, rfl⟩

/-- A creation of an account that does not exist is accepted. -/
theorem handle_create {task : CreateAccountTaskV1} (valid : task.profile.Valid)
    {state : UserAccount} (absent : state.created = none) (createdAt : DateTime) :
    state.handle (task.command createdAt) = .ok [task.event createdAt] := by
  obtain ⟨firstName, lastName⟩ := RegistrationProfile.trim_eq valid.normal
  simp only [CreateAccountTaskV1.command, UserAccount.handle, UserAccount.handleCreateAccount,
    absent, firstName, lastName]
  rw [if_neg valid.firstName, if_neg valid.lastName, if_neg (not_lt.mpr valid.born)]
  rfl

theorem RecordAccountCreatedTaskV1.command_injective {first second : RecordAccountCreatedTaskV1}
    (same : first.command = second.command) : first = second := by
  cases first
  cases second
  obtain ⟨rfl, rfl, rfl, rfl⟩ := EmailReservationCommand.recordAccountCreated.inj same
  rfl

theorem handle_record {task : RecordAccountCreatedTaskV1} {state : EmailReservation}
    {digest : String} (phase : state.phase = .creatingAccount task.accountId digest task.profile) :
    state.handle task.command
      = .ok [.accountCreationCompleted task.email task.accountId task.createdAt] := by
  unfold RecordAccountCreatedTaskV1.command EmailReservation.handle
    EmailReservation.handleRecordAccountCreated
  rw [phase]
  exact if_pos ⟨rfl, rfl⟩

/-- A completion that was recorded is recognised. -/
theorem handle_recorded {task : RecordAccountCreatedTaskV1} {state : EmailReservation}
    {digest : String}
    (phase : state.phase = .accountCreated task.accountId digest task.profile task.createdAt) :
    state.handle task.command = .error .accountCreationAlreadyCompleted := by
  unfold RecordAccountCreatedTaskV1.command EmailReservation.handle
    EmailReservation.handleRecordAccountCreated
  rw [phase]
  exact if_pos ⟨rfl, rfl, rfl⟩

end Matching

end AccountManagement.Service
