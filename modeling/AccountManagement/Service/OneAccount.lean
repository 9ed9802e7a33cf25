/-
**One account per email.**

* `one_account_per_email`: whatever clients, command attempts, lost replies and deliveries do, an
  email has at most one accepted profile, one completion, one `CreateAccount` task and one account;
  and an account has at most one event.

A `CreateAccount` task is posted with the acceptance of its profile, and a reservation accepts once;
so there is one such task per email (`Traced.createAccount_unique`), and with it one account ID.
-/

import AccountManagement.Service.Tracing

namespace AccountManagement.Service

open AccountManagement.Library AccountManagement.Task AccountManagement.Domain
open AccountManagement.Store AccountManagement.Outbox AccountManagement.Runtime

section OneAccount

variable {Value : Type} [JsonValue Value] {wire : Wire Value} {config : PostgresCommandConfig}
  {offset : String → Int} {clock : DateTime} {sender : HandlerResult → Bool}
  {s : ServiceState wire}

variable (wire) in
/-- The stored task creates an account for this email. -/
def createsFor (email : Email) (identity : Identity Value) : Bool :=
  (readIdentity wire.createAccount identity).any fun task => task.email = email

theorem createsFor_iff {email : Email} {identity : Identity Value} :
    createsFor wire email identity = true ↔
      ∃ task, readIdentity wire.createAccount identity = some task ∧ task.email = email := by
  unfold createsFor
  rw [Option.any_eq_true_iff_get]
  constructor
  · rintro ⟨present, same⟩
    exact ⟨_, (Option.some_get present).symm, of_decide_eq_true same⟩
  · rintro ⟨task, read, same⟩
    exact ⟨Option.isSome_of_eq_some read, decide_eq_true (by simp only [read, Option.get_some, same])⟩

/-- A commit is in its stream. -/
theorem mem_stream {S : StoredAggregate Value} {log : List (Commit S)} {commit : Commit S}
    (member : commit ∈ log) : (commit.command, commit.event) ∈ stream log commit.aggregateId :=
  List.mem_map.mpr ⟨commit, List.mem_filter.mpr ⟨member, decide_eq_true rfl⟩, rfl⟩

theorem commit_of_mem_stream {S : StoredAggregate Value} {log : List (Commit S)}
    {aggregateId : String} {command : S.Command} {event : S.Event}
    (member : (command, event) ∈ stream log aggregateId) :
    ∃ commit ∈ log, commit.aggregateId = aggregateId ∧ commit.command = command ∧
      commit.event = event := by
  obtain ⟨commit, found, same⟩ := List.mem_map.mp member
  obtain ⟨inside, own⟩ := List.mem_filter.mp found
  obtain ⟨rfl, rfl⟩ := Prod.mk.inj same
  exact ⟨commit, inside, of_decide_eq_true own, rfl, rfl⟩

variable (traced : Traced config offset s)
include traced

/-- The acceptance that posted a `CreateAccount` task is in the stream of its email. -/
theorem Traced.accepted {task : CreateAccountTaskV1}
    (posted : Posted wire.createAccount task s.queue.identities) :
    ∃ digest, (.submitRegistrationProfile task.email task.accountId digest task.profile,
        .registrationProfileAccepted task.email task.accountId digest task.profile)
      ∈ stream s.reservations.log task.email.toString := by
  obtain ⟨identity, member, read⟩ := posted
  obtain ⟨_, _, _, commit, found, taskId, digest, rfl⟩ := traced.createAccount member read
  exact ⟨digest, mem_stream found⟩

/-- **There is one `CreateAccount` task per email.** -/
theorem Traced.createAccount_unique {first second : CreateAccountTaskV1}
    (firstPosted : Posted wire.createAccount first s.queue.identities)
    (secondPosted : Posted wire.createAccount second s.queue.identities)
    (same : first.email = second.email) : first = second := by
  obtain ⟨digest, accepted⟩ := traced.accepted firstPosted
  obtain ⟨digest', accepted'⟩ := traced.accepted secondPosted
  rw [← same] at accepted'
  obtain ⟨state, serial⟩ := traced.reservations.store.serial first.email.toString
  have equal := Keyed.eq_of_countP_le_one (reservation_once serial).1 accepted accepted' rfl rfl
  obtain ⟨sameEmail, sameId, _, sameProfile⟩ :=
    EmailReservationCommand.submitRegistrationProfile.inj (Prod.mk.inj equal).1
  cases first
  cases second
  exact congr (congr (congrArg CreateAccountTaskV1.mk same) sameId) sameProfile

theorem Traced.count_createAccount (email : Email) :
    s.queue.identities.countP (createsFor wire email) ≤ 1 := by
  obtain ⟨state, serial⟩ := traced.reservations.store.serial email.toString
  -- all of them stand in the stream of the email, one for each acceptance
  have own : s.queue.identities.countP (createsFor wire email)
      = (ownTasks wire.reservations email.toString s.queue.identities).countP
        (createsFor wire email) := by
    unfold ownTasks
    rw [List.countP_filter]
    refine List.countP_congr fun identity member => ?_
    rw [Bool.and_eq_true]
    refine ⟨fun creates => ⟨creates, decide_eq_true ?_⟩, And.left⟩
    obtain ⟨task, read, rfl⟩ := createsFor_iff.mp creates
    obtain ⟨typed, keyed, _⟩ := traced.createAccount member read
    exact ⟨typed, keyed⟩
  rw [own, traced.tasks.reservations email.toString]
  refine (countP_postings_le (fun commit => EmailReservationEvent.isAcceptance commit.event) 0
    fun commit member position => ?_).trans ?_
  · obtain ⟨_, committed⟩ := traced.reservation_commit (List.mem_filter.mp member).1
    obtain ⟨aggregateId, command, event, tasks⟩ := commit
    cases committed with
    | reserved | reissued | restarted =>
      refine le_of_eq (List.countP_eq_zero.mpr fun identity found creates => ?_)
      obtain ⟨_, inside, rfl⟩ := List.mem_map.mp found
      obtain rfl := List.mem_singleton.mp inside
      obtain ⟨task, read, _⟩ := createsFor_iff.mp creates
      rw [readIdentity_posted, payloadOf_other _ _ (by decide)] at read
      cases read
    | verified | completed => exact Nat.le_refl 0
    | accepted => exact List.countP_le_length
  · have once := (reservation_once serial).1
    unfold acceptances stream at once
    rw [List.countP_map] at once
    exact once

/-- **One event per account.** -/
theorem Traced.account_events (aggregateId : String) :
    stream s.accounts.log aggregateId = [] ∨
      ∃ command event, stream s.accounts.log aggregateId = [(command, event)] := by
  obtain ⟨state, serial⟩ := traced.accounts.store.serial aggregateId
  rcases account_history serial with ⟨none, _⟩ | ⟨command, event, one, _⟩
  · exact .inl none
  · exact .inr ⟨command, event, one⟩

/-- An event of an account names the email of its task. -/
theorem Traced.account_event {aggregateId : String} {event : UserAccountEvent}
    (member : event ∈ storedEvents wire.accounts aggregateId s.tables) :
    ∃ task createdAt, Posted wire.createAccount task s.queue.identities ∧
      aggregateId = task.accountId.toString ∧ event = task.event createdAt := by
  have log := traced.accounts.store.storedEvents aggregateId
  simp only [Gateway.view] at log
  rw [log] at member
  obtain ⟨⟨command, same⟩, found, rfl⟩ := List.mem_map.mp member
  obtain ⟨commit, inside, rfl, rfl, rfl⟩ := commit_of_mem_stream found
  obtain ⟨task, createdAt, taskId, posted, rfl⟩ := traced.account_commit inside
  exact ⟨task, createdAt, posted, rfl, rfl⟩

omit traced

/-- **One account per email.** In every reachable state of the service, for every email: its stream
holds at most one acceptance and one completion, at most one `CreateAccount` task for it is stored,
the accounts that name it are in one stream, and every account's stream holds at most one event. -/
theorem one_account_per_email
    (reached : (serviceMachine wire config offset clock sender).Reachable s) (email : Email) :
    (storedEvents wire.reservations email.toString s.tables).countP
        EmailReservationEvent.isAcceptance ≤ 1 ∧
      (storedEvents wire.reservations email.toString s.tables).countP
        (fun event => EmailReservation.IsCompletion event) ≤ 1 ∧
      s.queue.rows.countP (fun row => createsFor wire email row.identity) ≤ 1 ∧
      (∀ first second : String,
        (∃ event ∈ storedEvents wire.accounts first s.tables,
          UserAccountEvent.email event = email) →
        (∃ event ∈ storedEvents wire.accounts second s.tables,
          UserAccountEvent.email event = email) → first = second) ∧
      ∀ aggregateId, (ownEvents wire.accounts aggregateId s.tables).length ≤ 1 := by
  have traced := traced_reachable reached
  obtain ⟨state, serial⟩ := traced.reservations.store.serial email.toString
  obtain ⟨acceptedOnce, completedOnce⟩ := reservation_once serial
  have stored : storedEvents wire.reservations email.toString s.tables
      = (stream s.reservations.log email.toString).map Prod.snd :=
    traced.reservations.store.storedEvents email.toString
  refine ⟨?_, ?_, ?_, ?_, fun aggregateId => ?_⟩
  · rw [stored, List.countP_map]
    exact acceptedOnce
  · rw [stored, List.countP_map]
    exact completedOnce
  · have tasks := traced.count_createAccount email
    unfold QueueState.identities at tasks
    rw [List.countP_map] at tasks
    exact tasks
  · rintro first second ⟨event, member, named⟩ ⟨event', member', named'⟩
    obtain ⟨task, createdAt, posted, rfl, rfl⟩ := traced.account_event member
    obtain ⟨task', createdAt', posted', rfl, rfl⟩ := traced.account_event member'
    rw [traced.createAccount_unique posted posted' (named.trans named'.symm)]
  · have length : (ownEvents wire.accounts aggregateId s.tables).length
        = (stream s.accounts.log aggregateId).length :=
      traced.accounts.store.length_ownEvents aggregateId
    rw [length]
    rcases traced.account_events aggregateId with none | ⟨command, event, one⟩
    · rw [none]
      exact Nat.zero_le 1
    · rw [one]
      exact Nat.le_refl 1

end OneAccount

theorem one_account_per_email_registered :
    let s := plainService.after (submission ++ creation ++ completion) registration_enabled
    ((storedEvents plainWire.reservations "ann@example.com" s.tables).length = 4 ∧
      (storedEvents plainWire.accounts (UserAccountId.toString ⟨7⟩) s.tables).length = 1) ∧
    s.queue.rows.countP (fun row => createsFor plainWire ⟨"ann@example.com"⟩ row.identity) ≤ 1 :=
  ⟨by decide +kernel, (one_account_per_email
    (Machine.reachable_after (submission ++ creation ++ completion) registration_enabled)
    ⟨"ann@example.com"⟩).2.2.1⟩

end AccountManagement.Service
