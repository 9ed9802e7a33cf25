/-
**What a finished continuation has achieved.**

A handler that returns without error has its effect in the log: after `CreateAccount` the account
exists with the data of the task, and after `RecordAccountCreated` the reservation is completed
(`Done`), whether the effect is its own or that of an earlier delivery. A settlement asks for a
completion only after that, so every completed row of the outbox is done
(`handled_reachable`).

What is known of a state is kept by every later one: logs and calls only grow (`Continues`).
-/

import AccountManagement.Service.Agreement

namespace AccountManagement.Service

open AccountManagement.Library AccountManagement.Task AccountManagement.Domain
open AccountManagement.Store AccountManagement.Outbox AccountManagement.Runtime

section Continuations

variable {Value : Type} [JsonValue Value] {wire : Wire Value} {config : PostgresCommandConfig}
  {offset : String → Int} {clock : DateTime} {sender : HandlerResult → Bool}
  {s t : ServiceState wire}

/-! ### What later states keep -/

/-- The log of a gateway grows, and its calls stay the calls of their commands. -/
structure Gateway.Continues {S : StoredAggregate Value} (before after : Gateway S) : Prop where
  log : before.log <+: after.log
  calls : ∀ (index : Nat) (call : Execution S), before.calls[index]? = some call →
    ∃ next, after.calls[index]? = some next ∧ call.SameCommand next

theorem Gateway.Continues.refl {S : StoredAggregate Value} (gateway : Gateway S) :
    gateway.Continues gateway :=
  ⟨List.prefix_refl _, fun _ call present => ⟨call, present, rfl, rfl, rfl⟩⟩

theorem Gateway.continues_begin {S : StoredAggregate Value} (gateway : Gateway S)
    (aggregateId : String) (command : S.Command) (tasks : List (NewTask Value)) :
    gateway.Continues (gateway.begin aggregateId command tasks) := by
  refine ⟨List.prefix_refl _, fun index call present => ⟨call, ?_, rfl, rfl, rfl⟩⟩
  obtain ⟨inside, _⟩ := List.getElem?_eq_some_iff.mp present
  show (gateway.calls ++ _)[index]? = some call
  rw [List.getElem?_append_left inside]
  exact present

theorem Gateway.continues_move {S : StoredAggregate Value} {gateway : Gateway S} {call : Nat}
    {move : Move} {tables : Tables Value} {execution : Execution S} {stepped : Stepped S}
    (found : gateway.calls[call]? = some execution)
    (moved : execution.step config move tables = some stepped) :
    gateway.Continues ⟨gateway.log ++ stepped.committed.toList,
      gateway.calls.set call stepped.execution⟩ := by
  refine ⟨List.prefix_append _ _, fun index other present => ?_⟩
  by_cases here : call = index
  · subst here
    obtain rfl := Option.some.inj (found.symm.trans present)
    obtain ⟨inside, _⟩ := List.getElem?_eq_some_iff.mp present
    exact ⟨stepped.execution, List.getElem?_set_self inside, Execution.step_same moved⟩
  · exact ⟨other, (List.getElem?_set_ne here).trans present, rfl, rfl, rfl⟩

structure Continues (s t : ServiceState wire) : Prop where
  reservations : s.reservations.Continues t.reservations
  accounts : s.accounts.Continues t.accounts

theorem continues_step (stepped : ServiceStep config offset sender s t) : Continues s t := by
  cases stepped with
  | ended | rejected | send | finish | queue | settle =>
    exact ⟨Gateway.Continues.refl _, Gateway.Continues.refl _⟩
  | request command tasks _ =>
    exact ⟨s.reservations.continues_begin _ command tasks, Gateway.Continues.refl _⟩
  | record index delivery task _ _ _ =>
    exact ⟨s.reservations.continues_begin _ task.command [], Gateway.Continues.refl _⟩
  | create index delivery task createdAt taskId _ _ _ =>
    exact ⟨Gateway.Continues.refl _, s.accounts.continues_begin _ (task.command createdAt) _⟩
  | reservation call move execution result _ found moved =>
    exact ⟨Gateway.continues_move found moved, Gateway.Continues.refl _⟩
  | account call move execution result _ found moved =>
    exact ⟨Gateway.Continues.refl _, Gateway.continues_move found moved⟩

theorem stream_mono {S : StoredAggregate Value} {before after : List (Commit S)}
    (grown : before <+: after) (aggregateId : String) :
    stream before aggregateId <+: stream after aggregateId := by
  obtain ⟨more, rfl⟩ := grown
  exact stream_grows before more aggregateId

/-! ### The effect of a continuation -/

/-- The account of a task exists, with the data of the task. -/
def AccountMade (s : ServiceState wire) (task : CreateAccountTaskV1) : Prop :=
  ∃ command createdAt,
    (command, task.event createdAt) ∈ stream s.accounts.log task.accountId.toString

/-- The reservation of an email is completed. -/
def RegistrationCompleted (s : ServiceState wire) (email : Email) : Prop :=
  0 < completions (stream s.reservations.log email.toString)

/-- The task, of whichever type it is, has had its effect. -/
structure Done (s : ServiceState wire) (create : Option CreateAccountTaskV1)
    (record : Option RecordAccountCreatedTaskV1) : Prop where
  created : ∀ task, create = some task → AccountMade s task
  recorded : ∀ task, record = some task → RegistrationCompleted s task.email

/-- The delivered task has had its effect. -/
def AttemptDone (s : ServiceState wire) (attempt : TaskAttempt Value) : Prop :=
  Done s (payloadOf wire.createAccount attempt.format attempt.payload)
    (payloadOf wire.recordAccountCreated attempt.format attempt.payload)

/-- The stored task has had its effect. -/
def RowDone (s : ServiceState wire) (identity : Identity Value) : Prop :=
  Done s (readIdentity wire.createAccount identity) (readIdentity wire.recordAccountCreated identity)

theorem Done.mono {create : Option CreateAccountTaskV1} {record : Option RecordAccountCreatedTaskV1}
    (done : Done s create record) (continues : Continues s t) : Done t create record where
  created task read := by
    obtain ⟨command, createdAt, member⟩ := done.created task read
    exact ⟨command, createdAt, (stream_mono continues.accounts.log _).subset member⟩
  recorded task read :=
    Nat.lt_of_lt_of_le (done.recorded task read)
      (stream_mono continues.reservations.log _).sublist.countP_le

theorem Delivers.done {identity : Identity Value} {attempt : TaskAttempt Value}
    (delivers : Delivers identity attempt) (done : AttemptDone s attempt) : RowDone s identity := by
  unfold RowDone
  rw [delivers.read, delivers.read]
  exact done

theorem format_of_payload {Payload : Type} [TaskPayload Payload] {codec : PayloadCodec Payload Value}
    {format : TaskFormat} {data : Value} {payload : Payload}
    (read : payloadOf codec format data = some payload) : format = TaskPayload.format Payload := by
  unfold payloadOf at read
  split at read
  · assumption
  · cases read

theorem payloadOf_format_ne {Payload : Type} [TaskPayload Payload]
    (codec : PayloadCodec Payload Value) {format : TaskFormat} (data : Value)
    (different : format ≠ TaskPayload.format Payload) : payloadOf codec format data = none :=
  if_neg different

/-! ### Answers -/

variable (traced : Traced config offset s)
include traced

/-- **A successful creation**, new or repeated, has made the account. -/
theorem Traced.created_ok {task : CreateAccountTaskV1} {createdAt : DateTime}
    {execution : Execution wire.accounts}
    (posted : Posted wire.createAccount task s.queue.identities)
    (member : execution ∈ s.accounts.calls) (keyed : execution.aggregateId = task.accountId.toString)
    (command : execution.command = task.command createdAt)
    {answer : Except (CommandGatewayError UserAccountError) Unit}
    (returned : execution.phase = .returned answer)
    (succeeded : answer = .ok () ∨ answer = .error (.domain .alreadyCreated)) :
    AccountMade s task := by
  have answered := traced.accounts.answers.answered execution member
  rcases succeeded with rfl | rfl
  · rw [Execution.Answered, returned] at answered
    obtain ⟨event, inside⟩ := answered
    obtain ⟨other, time, _, _, same⟩ := traced.account_commit inside
    obtain ⟨_, sameCommand, rfl, _⟩ := Commit.mk.inj same
    obtain ⟨sameId, sameEmail, first, last, birth, date, sameTime⟩ :=
      UserAccountCommand.createAccount.inj (command.symm.trans sameCommand)
    refine ⟨execution.command, createdAt, ?_⟩
    have emitted : other.event time = task.event createdAt := by
      unfold CreateAccountTaskV1.event
      rw [sameId, sameEmail, first, last, birth, date, sameTime]
    rw [← keyed, ← emitted]
    exact mem_stream inside
  · rw [Execution.Answered, returned, keyed, command] at answered
    obtain ⟨earlier, state, before, serial, handled⟩ := answered
    obtain ⟨original, exists_⟩ := UserAccount.handle_alreadyCreated handled
    rcases account_history serial with ⟨_, none⟩ | ⟨first, event, one, made⟩
    · rw [none] at exists_
      cases exists_
    · obtain ⟨identity, stored, read⟩ := posted
      obtain ⟨_, _, valid, _⟩ := traced.createAccount stored read
      obtain ⟨firstName, lastName⟩ := RegistrationProfile.trim_eq valid.normal
      rw [firstName, lastName] at exists_
      have account := Option.some.inj (made.symm.trans exists_)
      refine ⟨first, original, before.subset ?_⟩
      rw [one]
      cases event
      obtain ⟨rfl, rfl, rfl, rfl, rfl, rfl, rfl⟩ := CreatedAccount.mk.inj account
      exact List.mem_singleton.mpr rfl

/-- **A successful record**, new or repeated, has completed the reservation. -/
theorem Traced.recorded_ok {task : RecordAccountCreatedTaskV1}
    {execution : Execution wire.reservations} (member : execution ∈ s.reservations.calls)
    (keyed : execution.aggregateId = task.email.toString) (command : execution.command = task.command)
    {answer : Except (CommandGatewayError EmailReservationError) Unit}
    (returned : execution.phase = .returned answer)
    (succeeded : answer = .ok () ∨
      answer = .error (.domain .accountCreationAlreadyCompleted)) :
    RegistrationCompleted s task.email := by
  have answered := traced.reservations.answers.answered execution member
  rcases succeeded with rfl | rfl
  · rw [Execution.Answered, returned, keyed, command] at answered
    obtain ⟨event, inside⟩ := answered
    obtain ⟨state, handled⟩ := traced.reservations.store.emitted inside
    have emits : EmailReservation.handle state task.command = .ok [event] := handled
    obtain ⟨emitted, one, accepts⟩ := EmailReservation.handle_cases emits
    rw [List.head_eq_of_cons_eq one] at inside
    refine List.countP_pos_iff.mpr ⟨_, mem_stream inside, decide_eq_true ?_⟩
    cases accepts
    trivial
  · rw [Execution.Answered, returned, keyed, command] at answered
    obtain ⟨earlier, state, before, serial, handled⟩ := answered
    obtain ⟨digest, completed⟩ := EmailReservation.handle_alreadyCompleted handled
    have recorded := reservation_recorded serial
    rw [completed] at recorded
    have one : 0 < completions earlier := recorded.2.1 ▸ Nat.one_pos
    exact Nat.lt_of_lt_of_le one before.sublist.countP_le

omit traced

/-! ### The invariant -/

/-- What is known of a delivery in its phase. -/
def Handling (s : ServiceState wire) (delivery : Delivery Value HandlerPhase) : Prop :=
  let attempt := delivery.task.attempt
  match delivery.phase with
  | .recording call => ∃ execution task, s.reservations.calls[call]? = some execution ∧
      payloadOf wire.recordAccountCreated attempt.format attempt.payload = some task ∧
      execution.aggregateId = task.email.toString ∧ execution.command = task.command
  | .creating call => ∃ execution task createdAt, s.accounts.calls[call]? = some execution ∧
      payloadOf wire.createAccount attempt.format attempt.payload = some task ∧
      execution.aggregateId = task.accountId.toString ∧ execution.command = task.command createdAt
  | .sending => attempt.format = TaskPayload.format SendVerificationCodeTaskV1
  | .finished (.ok ()) => AttemptDone s attempt
  | _ => True

theorem Handling.mono {delivery : Delivery Value HandlerPhase} (handling : Handling s delivery)
    (continues : Continues s t) : Handling t delivery := by
  unfold Handling at handling ⊢
  split
  · rename_i call phase
    simp only [phase] at handling
    obtain ⟨execution, task, present, read, keyed, command⟩ := handling
    obtain ⟨next, later, same⟩ := continues.reservations.calls call execution present
    exact ⟨next, task, later, read, same.aggregateId.trans keyed, same.command.trans command⟩
  · rename_i call phase
    simp only [phase] at handling
    obtain ⟨execution, task, createdAt, present, read, keyed, command⟩ := handling
    obtain ⟨next, later, same⟩ := continues.accounts.calls call execution present
    exact ⟨next, task, createdAt, later, read, same.aggregateId.trans keyed,
      same.command.trans command⟩
  · rename_i phase
    simp only [phase] at handling
    exact handling
  · rename_i phase
    simp only [phase] at handling
    exact handling.mono continues
  · trivial

structure Handled (s : ServiceState wire) : Prop where
  handling : ∀ delivery ∈ s.deliveries, Handling s delivery
  settlements : ∀ transaction ∈ s.queue.transactions, ∀ task,
    transaction.operation = .settle task .completed → AttemptDone s task.attempt
  completed : ∀ row ∈ s.queue.rows, row.status = .completed → RowDone s row.identity

/-- **A handler that returns without error** has had its effect. -/
theorem Traced.finished (traced : Traced config offset s)
    {delivery : Delivery Value HandlerPhase} (member : delivery ∈ s.deliveries)
    (handling : Handling s delivery) {result : HandlerResult}
    (ended : HandlerEnd sender s delivery result) (succeeded : result = .ok ()) :
    AttemptDone s delivery.task.attempt := by
  have delivered := traced.known.deliveries delivery member
  cases ended with
  | stopped reason => cases succeeded
  | recorded call execution answer phase found returned =>
    simp only [Handling, phase] at handling
    obtain ⟨known, task, present, read, keyed, command⟩ := handling
    obtain rfl := Option.some.inj (found.symm.trans present)
    have format := format_of_payload read
    refine ⟨fun other reads => ?_, fun other reads => ?_⟩
    · rw [format, payloadOf_format_ne _ _ (by decide)] at reads
      cases reads
    · obtain rfl := Option.some.inj (read.symm.trans reads)
      refine traced.recorded_ok (List.mem_of_getElem? found) keyed command returned
        (recordAccountCreatedReply_ok ?_)
      generalize recordAccountCreatedReply answer = reply at succeeded
      cases reply with
      | ok => rfl
      | error => cases succeeded
  | created call execution answer phase found returned =>
    simp only [Handling, phase] at handling
    obtain ⟨known, task, createdAt, present, read, keyed, command⟩ := handling
    obtain rfl := Option.some.inj (found.symm.trans present)
    have format := format_of_payload read
    refine ⟨fun other reads => ?_, fun other reads => ?_⟩
    · obtain rfl := Option.some.inj (read.symm.trans reads)
      refine traced.created_ok (delivered.posted read) (List.mem_of_getElem? found) keyed command
        returned (createAccountReply_ok ?_)
      generalize createAccountReply answer = reply at succeeded
      cases reply with
      | ok => rfl
      | error => cases succeeded
    · rw [format, payloadOf_format_ne _ _ (by decide)] at reads
      cases reads
  | sent _ phase _ =>
    simp only [Handling, phase] at handling
    refine ⟨fun other reads => ?_, fun other reads => ?_⟩
    · rw [handling, payloadOf_format_ne _ _ (by decide)] at reads
      cases reads
    · rw [handling, payloadOf_format_ne _ _ (by decide)] at reads
      cases reads

/-- The deliveries after the phase of one of them was set. -/
theorem handling_setPhase (handled : Handled s) (continues : Continues s t) {index : Nat}
    {delivery : Delivery Value HandlerPhase} {phase : HandlerPhase}
    (new : Handling t { delivery with phase }) :
    ∀ other ∈ (s.setPhase index delivery phase).deliveries, Handling t other := by
  intro other member
  rcases List.mem_or_eq_of_mem_set member with old | rfl
  · exact (handled.handling other old).mono continues
  · exact new

theorem handled_step (traced : Traced config offset s) (handled : Handled s)
    (stepped : ServiceStep config offset sender s t) : Handled t := by
  have continues := continues_step stepped
  have settlements : ∀ transaction ∈ s.queue.transactions, ∀ task,
      transaction.operation = .settle task .completed → AttemptDone t task.attempt :=
    fun transaction member task settles =>
      (handled.settlements transaction member task settles).mono continues
  have completed : ∀ row ∈ s.queue.rows, row.status = .completed → RowDone t row.identity :=
    fun row member done => (handled.completed row member done).mono continues
  have kept : ∀ delivery ∈ s.deliveries, Handling t delivery :=
    fun delivery member => (handled.handling delivery member).mono continues
  have queueRows : ∀ {action : QueueAction Value} {after : QueueState Value},
      QueueStep offset s.queue action after → after.identities = s.queue.identities →
      ∀ row ∈ after.rows, row.status = .completed → RowDone t row.identity := by
    intro action after moved same row member done
    rcases traced.queue.completed moved member done with old | ⟨transaction, found, task, settles, id⟩
    · exact completed row old done
    · obtain ⟨identity, stored, delivers⟩ :=
        traced.known.settlements transaction found task .completed settles
      rw [← same] at stored
      obtain ⟨known, inside, rfl⟩ := List.mem_map.mp stored
      obtain rfl : known = row := List.inj_on_of_nodup_map (queueSound_step traced.queue moved).keyed
        inside member (delivers.id.trans id)
      exact delivers.done (settlements transaction found task settles)
  cases stepped with
  | ended => exact ⟨kept, settlements, completed⟩
  | request => exact ⟨kept, settlements, completed⟩
  | rejected index delivery reason _ _ present _ _ =>
    exact ⟨handling_setPhase handled continues trivial, settlements, completed⟩
  | send index delivery present _ format =>
    exact ⟨handling_setPhase handled continues format, settlements, completed⟩
  | record index delivery task present _ read =>
    refine ⟨handling_setPhase handled continues ?_, settlements, completed⟩
    exact ⟨_, task, List.getElem?_concat_length, read, rfl, rfl⟩
  | create index delivery task createdAt taskId present _ read =>
    refine ⟨handling_setPhase handled continues ?_, settlements, completed⟩
    exact ⟨_, task, createdAt, List.getElem?_concat_length, read, rfl, rfl⟩
  | finish index delivery result present ended =>
    have member := List.mem_of_getElem? present
    refine ⟨handling_setPhase handled continues ?_, settlements, completed⟩
    cases result with
    | ok =>
      exact (traced.finished member (handled.handling delivery member) ended rfl).mono continues
    | error => trivial
  | reservation call move execution result _ _ moved =>
    exact ⟨kept, settlements, fun row member done => completed row
      (Execution.step_completed moved member done) done⟩
  | account call move execution result _ _ moved =>
    exact ⟨kept, settlements, fun row member done => completed row
      (Execution.step_completed moved member done) done⟩
  | queue action after permitted moved =>
    refine ⟨List.forall_mem_append.mpr ⟨kept, fun delivery arrived => ?_⟩,
      fun transaction member task settles => ?_,
      queueRows moved (identities_queue traced.queue moved (.inl permitted))⟩
    · have waiting := ((arrivals_granted traced.queue moved _).2 delivery arrived).1
      simp only [Handling, waiting]
    · rcases moved.settles member settles with ⟨before, old, same⟩ | began
      · exact settlements before old task same
      · subst began
        cases permitted
  | settle index delivery result delay after present finished moved =>
    have member := List.mem_of_getElem? present
    refine ⟨handling_setPhase handled continues trivial, fun transaction found task settles => ?_,
      queueRows moved (identities_queue traced.queue moved (.inr ⟨_, rfl⟩))⟩
    rcases moved.settles found settles with ⟨before, old, same⟩ | began
    · exact settlements before old task same
    · obtain ⟨rfl, completes⟩ := Operation.settle.inj (QueueAction.begin.inj began)
      have handling := handled.handling delivery member
      simp only [Handling, finished, settlementRequest_completed completes] at handling
      exact handling.mono continues

/-- **In every reachable state**, a completed row has had its effect. -/
theorem handled_reachable (reached : (serviceMachine wire config offset clock sender).Reachable s) :
    Handled s := by
  refine reached.invariant (P := Handled) ?_ fun _ _ _ before handled moved =>
    handled_step (traced_reachable before) handled (serviceMachine_step moved)
  exact ⟨fun _ none => absurd none List.not_mem_nil, fun _ none => absurd none List.not_mem_nil,
    fun _ none => absurd none List.not_mem_nil⟩

end Continuations

end AccountManagement.Service
