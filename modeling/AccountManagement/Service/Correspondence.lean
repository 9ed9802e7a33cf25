/-
**Events and tasks correspond one to one.**

* `events_and_tasks_correspond`: an event that needs a continuation has exactly one stored task, with
  the event's key and the event's own data; any other event has none; and every stored task belongs to
  a stored event.

A commit inserts its event and its tasks together, under one sequence of its stream. So the tasks
under the key of an event are those of its commit (`Published.tasks_at`), and what a commit posts is
known (`Traced.reservation_commit`, `Traced.account_commit`). A reissue that was retried after a
conflict has posted nothing for the attempts that failed.
-/

import AccountManagement.Service.OneAccount

namespace AccountManagement.Service

open AccountManagement.Library AccountManagement.Task AccountManagement.Domain
open AccountManagement.Store AccountManagement.Outbox AccountManagement.Runtime

/-! ### Events and the tasks they need -/

/-- A task of the service. -/
inductive ServiceTask where
  | sendVerificationCode (task : SendVerificationCodeTaskV1)
  | createAccount (task : CreateAccountTaskV1)
  | recordAccountCreated (task : RecordAccountCreatedTaskV1)
deriving DecidableEq

/-- An event of the service. -/
inductive ServiceEvent where
  | reservation (event : EmailReservationEvent)
  | account (event : UserAccountEvent)
deriving DecidableEq

/-- The task that must follow an event, with the data of the event. -/
def ServiceEvent.task : ServiceEvent → Option ServiceTask
  | .reservation (.emailReserved email accountId code) =>
    some (.sendVerificationCode ⟨email, accountId, code⟩)
  | .reservation (.verificationCodeRequested email accountId code) =>
    some (.sendVerificationCode ⟨email, accountId, code⟩)
  | .reservation (.verificationRestarted email accountId code) =>
    some (.sendVerificationCode ⟨email, accountId, code⟩)
  | .reservation (.emailVerified _ _ _) => none
  | .reservation (.registrationProfileAccepted email accountId _ profile) =>
    some (.createAccount ⟨email, accountId, profile⟩)
  | .reservation (.accountCreationCompleted _ _ _) => none
  | .account (.accountCreated accountId email firstName lastName dateOfBirth validationDate
      createdAt) =>
    some (.recordAccountCreated
      ⟨email, accountId, ⟨firstName, lastName, dateOfBirth, validationDate⟩, createdAt⟩)

section Correspondence

variable {Value : Type} [JsonValue Value] (wire : Wire Value)

/-- A stored event, read by the type of its aggregate. -/
def readEvent (row : EventRow Value) : Option ServiceEvent :=
  if row.aggregateType = wire.reservations.typeName then
    (wire.reservation.decodeEvent row.payload).map .reservation
  else if row.aggregateType = wire.accounts.typeName then
    (wire.account.decodeEvent row.payload).map .account
  else none

/-- A stored task, read by its type and version. -/
def readService (identity : Identity Value) : Option ServiceTask :=
  ((readIdentity wire.sendVerificationCode identity).map .sendVerificationCode).or
    (((readIdentity wire.createAccount identity).map .createAccount).or
      ((readIdentity wire.recordAccountCreated identity).map .recordAccountCreated))

/-- The event that a stored task names. -/
def sourceOf (identity : Identity Value) : String × String × Nat :=
  (identity.aggregateType, identity.aggregateId, identity.aggregateSequence)

variable {wire}

/-- The stored tasks that name an event. -/
def ServiceState.tasksOf (s : ServiceState wire) (row : EventRow Value) : List (OutboxRow Value) :=
  s.queue.rows.filter fun task => sourceOf task.identity = row.key

/-! ### Reading what a commit posted -/

variable (typeName aggregateId : String) (sequence : Nat) (taskId : Uuid)

theorem readService_sendVerificationCode (task : SendVerificationCodeTaskV1) :
    readService wire (postedIdentity typeName aggregateId sequence
      (taskOf wire.sendVerificationCode taskId task)) = some (.sendVerificationCode task) := by
  unfold readService
  rw [readIdentity_posted, payloadOf_taskOf]
  rfl

theorem readService_createAccount (task : CreateAccountTaskV1) :
    readService wire (postedIdentity typeName aggregateId sequence
      (taskOf wire.createAccount taskId task)) = some (.createAccount task) := by
  unfold readService
  rw [readIdentity_posted, payloadOf_other _ _ (by decide), readIdentity_posted, payloadOf_taskOf]
  rfl

theorem readService_recordAccountCreated (task : RecordAccountCreatedTaskV1) :
    readService wire (postedIdentity typeName aggregateId sequence
      (taskOf wire.recordAccountCreated taskId task)) = some (.recordAccountCreated task) := by
  unfold readService
  rw [readIdentity_posted, payloadOf_other _ _ (by decide), readIdentity_posted,
    payloadOf_other _ _ (by decide), readIdentity_posted, payloadOf_taskOf]
  rfl

/-! ### One stream -/

variable {typeName aggregateId sequence taskId}
variable {S : StoredAggregate Value} {log : List (Commit S)}

/-- **The tasks under the key of an event** are those of its commit. -/
theorem Published.tasks_at {identities : List (Identity Value)}
    (published : Published log identities) {position : Nat} {commit : Commit S}
    (found : (commitsOf log aggregateId)[position]? = some commit) :
    identities.filter (fun identity => sourceOf identity = (S.typeName, aggregateId, position + 1))
      = commit.tasks.map (postedIdentity S.typeName aggregateId (position + 1)) := by
  have own : identities.filter
        (fun identity => sourceOf identity = (S.typeName, aggregateId, position + 1))
      = (ownTasks S aggregateId identities).filter
        (fun identity => identity.aggregateSequence = 0 + position + 1) := by
    unfold ownTasks
    rw [List.filter_filter, Nat.zero_add]
    refine List.filter_congr fun identity _ => ?_
    rw [← Bool.decide_and]
    refine decide_eq_decide.mpr ?_
    unfold sourceOf
    rw [Prod.mk.injEq, Prod.mk.injEq]
    tauto
  rw [own, published aggregateId, postings_at 0 position, found, Nat.zero_add]
  rfl

/-- A stored event is that of a commit, at its position. -/
theorem Gateway.Sound.commit_of_row {config : PostgresCommandConfig} {gateway : Gateway S}
    {tables : Tables Value} (sound : gateway.Sound config tables) {row : EventRow Value}
    (member : row ∈ tables.events) (typed : row.aggregateType = S.typeName) :
    ∃ position commit, (commitsOf gateway.log row.aggregateId)[position]? = some commit ∧
      row.key = (S.typeName, row.aggregateId, position + 1) ∧
      row.payload = S.encodeEvent commit.event := by
  have own : row ∈ ownEvents S row.aggregateId tables :=
    List.mem_filter.mpr ⟨member, decide_eq_true ⟨typed, rfl⟩⟩
  have rows : ownEvents S row.aggregateId tables
      = streamRows S row.aggregateId 0 (streamEvents gateway.log row.aggregateId) :=
    sound.store.stored row.aggregateId
  rw [rows] at own
  obtain ⟨position, event, present, same⟩ := streamRow_of_mem own
  rw [Nat.zero_add] at same
  have read : (commitsOf gateway.log row.aggregateId)[position]?.map
      (fun commit => commit.event) = some event := by
    rw [← present, streamEvents, stream, List.map_map, List.getElem?_map]
    rfl
  obtain ⟨commit, found, emitted⟩ := Option.map_eq_some_iff.mp read
  refine ⟨position, commit, found, ?_, ?_⟩
  · exact (congrArg EventRow.key same).trans rfl
  · rw [emitted]
    exact (congrArg EventRow.payload same).trans rfl

/-- The event of a commit is stored, at its position. -/
theorem Gateway.Sound.row_of_commit {config : PostgresCommandConfig} {gateway : Gateway S}
    {tables : Tables Value} (sound : gateway.Sound config tables) {position : Nat}
    {commit : Commit S} (found : (commitsOf gateway.log aggregateId)[position]? = some commit) :
    ∃ row ∈ tables.events, row.key = (S.typeName, aggregateId, position + 1) := by
  have within : position + 1 ≤ 0 + (streamEvents gateway.log aggregateId).length := by
    have inside := (List.getElem?_eq_some_iff.mp found).1
    rw [length_commitsOf] at inside
    rw [streamEvents, List.length_map]
    omega
  obtain ⟨row, member, key⟩ :
      ∃ row ∈ streamRows S aggregateId 0 (streamEvents gateway.log aggregateId),
        row.key = (S.typeName, aggregateId, position + 1) :=
    exists_streamRow (Nat.succ_pos position) within
  have rows : ownEvents S aggregateId tables
      = streamRows S aggregateId 0 (streamEvents gateway.log aggregateId) :=
    sound.store.stored aggregateId
  rw [← rows] at member
  exact ⟨row, (List.mem_filter.mp member).1, key⟩

/-! ### The whole service -/

variable {config : PostgresCommandConfig} {offset : String → Int} {clock : DateTime}
  {sender : HandlerResult → Bool} {s t : ServiceState wire}

/-- Every stored event is one of a reservation or one of an account. -/
def EventsTyped (s : ServiceState wire) : Prop :=
  ∀ row ∈ s.events, row.aggregateType = wire.reservations.typeName ∨
    row.aggregateType = wire.accounts.typeName

/-- A statement stores events of its own type only. -/
theorem events_of_step {execution : Execution S} {move : Move} {tables : Tables Value}
    {stepped : Stepped S} (moved : execution.step config move tables = some stepped)
    {row : EventRow Value} (member : row ∈ stepped.tables.events) :
    row ∈ tables.events ∨ row.aggregateType = S.typeName := by
  rcases Execution.step_effect moved with ⟨same, _⟩ | ⟨_, _, _, _, _, _, _, done, _⟩
  · exact .inl (same ▸ member)
  · rw [done.events] at member
    rcases List.mem_append.mp member with old | new
    · exact .inl old
    · obtain rfl := List.mem_singleton.mp new
      exact .inr rfl

theorem eventsTyped_reachable
    (reached : (serviceMachine wire config offset clock sender).Reachable s) : EventsTyped s := by
  refine reached.invariant (P := EventsTyped) (fun _ none => absurd none List.not_mem_nil) ?_
  intro s action t _ typed moved
  cases serviceMachine_step moved with
  | ended | request | queue | rejected | record | create | send | finish | settle => exact typed
  | reservation call move execution stepped _ _ ran =>
    exact fun row member => (events_of_step ran member).elim (typed row) .inl
  | account call move execution stepped _ _ ran =>
    exact fun row member => (events_of_step ran member).elim (typed row) .inr

theorem ServiceState.tasksOf_eq (s : ServiceState wire) (row : EventRow Value) :
    (s.tasksOf row).map (fun task => readService wire task.identity)
      = (s.queue.identities.filter fun identity => sourceOf identity = row.key).map
        (readService wire) := by
  unfold ServiceState.tasksOf QueueState.identities
  rw [List.filter_map, List.map_map]
  rfl

variable (traced : Traced config offset s)
include traced

/-- What the commit of a reservation posted is what its event needs. -/
theorem Traced.reservation_task {commit : Commit wire.reservations}
    (member : commit ∈ s.reservations.log) (aggregateId : String) (sequence : Nat) :
    (commit.tasks.map (postedIdentity wire.reservations.typeName aggregateId sequence)).map
        (readService wire)
      = (ServiceEvent.reservation commit.event).task.toList.map some := by
  obtain ⟨_, committed⟩ := traced.reservation_commit member
  obtain ⟨_, command, event, tasks⟩ := commit
  cases committed with
  | reserved | reissued | restarted =>
    exact congrArg (fun read => [read]) (readService_sendVerificationCode ..)
  | verified | completed => rfl
  | accepted => exact congrArg (fun read => [read]) (readService_createAccount ..)

/-- What the commit of an account posted is what its event needs. -/
theorem Traced.account_task {commit : Commit wire.accounts} (member : commit ∈ s.accounts.log)
    (aggregateId : String) (sequence : Nat) :
    (commit.tasks.map (postedIdentity wire.accounts.typeName aggregateId sequence)).map
        (readService wire)
      = (ServiceEvent.account commit.event).task.toList.map some := by
  obtain ⟨task, createdAt, taskId, _, rfl⟩ := traced.account_commit member
  exact congrArg (fun read => [read]) (readService_recordAccountCreated ..)

omit traced

/-- **Events and tasks correspond.** In every reachable state of the service no two stored events
share their key; the tasks that name an event are exactly the one its kind needs, with its own data,
or none; and every stored task names a stored event. -/
theorem events_and_tasks_correspond
    (reached : (serviceMachine wire config offset clock sender).Reachable s) :
    (s.events.map EventRow.key).Nodup ∧
      (∀ row ∈ s.events, ∃ event, readEvent wire row = some event ∧
        (s.tasksOf row).map (fun task => readService wire task.identity)
          = event.task.toList.map some) ∧
      ∀ task ∈ s.queue.rows, ∃ row ∈ s.events, task ∈ s.tasksOf row := by
  have traced := traced_reachable reached
  refine ⟨(ServiceState.sound_reachable reached).2.events, fun row member => ?_,
    fun task member => ?_⟩
  · rw [ServiceState.tasksOf_eq]
    rcases eventsTyped_reachable reached row member with typed | typed
    · obtain ⟨position, commit, found, key, payload⟩ :=
        traced.reservations.commit_of_row member typed
      refine ⟨.reservation commit.event, ?_, ?_⟩
      · rw [readEvent, if_pos typed, payload]
        exact congrArg (Option.map ServiceEvent.reservation)
          (wire.reservations.decode_encodeEvent commit.event)
      · rw [key, traced.tasks.reservations.tasks_at found]
        exact traced.reservation_task (List.mem_filter.mp (List.mem_of_getElem? found)).1 _ _
    · obtain ⟨position, commit, found, key, payload⟩ :=
        traced.accounts.commit_of_row member typed
      refine ⟨.account commit.event, ?_, ?_⟩
      · rw [readEvent, if_neg (typed ▸ wire.types_differ.symm), if_pos typed, payload]
        exact congrArg (Option.map ServiceEvent.account)
          (wire.accounts.decode_encodeEvent commit.event)
      · rw [key, traced.tasks.accounts.tasks_at found]
        exact traced.account_task (List.mem_filter.mp (List.mem_of_getElem? found)).1 _ _
  · have stored : task.identity ∈ s.queue.identities := List.mem_map_of_mem member
    rcases traced.tasks.typed task.identity stored with own | own
    · obtain ⟨commit, position, found, _, _, same⟩ := traced.tasks.reservations.origin stored own
      obtain ⟨row, inside, key⟩ := traced.reservations.row_of_commit found
      refine ⟨row, inside, List.mem_filter.mpr ⟨member, decide_eq_true ?_⟩⟩
      rw [key]
      exact congrArg sourceOf same
    · obtain ⟨commit, position, found, _, _, same⟩ := traced.tasks.accounts.origin stored own
      obtain ⟨row, inside, key⟩ := traced.accounts.row_of_commit found
      refine ⟨row, inside, List.mem_filter.mpr ⟨member, decide_eq_true ?_⟩⟩
      rw [key]
      exact congrArg sourceOf same

end Correspondence

theorem events_and_tasks_correspond_registered :
    let s := plainService.after (submission ++ creation ++ completion) registration_enabled
    s.events.map (fun row => (s.tasksOf row).map fun task => readService plainWire task.identity)
        = [[some (.sendVerificationCode ⟨⟨"ann@example.com"⟩, ⟨7⟩, 1234567⟩)], [],
          [some (.createAccount ⟨⟨"ann@example.com"⟩, ⟨7⟩, ⟨"Ann", "Lee", 0, 2⟩⟩)],
          [some (.recordAccountCreated
            ⟨⟨"ann@example.com"⟩, ⟨7⟩, ⟨"Ann", "Lee", 0, 2⟩, 200000000000000⟩)], []] ∧
      (s.events.map EventRow.key).Nodup ∧
      (∀ row ∈ s.events, ∃ event, readEvent plainWire row = some event ∧
        (s.tasksOf row).map (fun task => readService plainWire task.identity)
          = event.task.toList.map some) ∧
      ∀ task ∈ s.queue.rows, ∃ row ∈ s.events, task ∈ s.tasksOf row :=
  ⟨by decide +kernel, events_and_tasks_correspond (Machine.reachable_after
    (submission ++ creation ++ completion) registration_enabled)⟩

end AccountManagement.Service
