/-
**Where every command and every task of the service comes from.**

A command of a reservation was requested by a client, or continues a stored `RecordAccountCreated`
task; a command of an account continues a stored `CreateAccount` task; and every stored task is the
task of a commit (`Traced`). Read backwards, a stored task determines the commit that posted it:
`Traced.createAccount`, `Traced.recordAccountCreated`.
-/

import AccountManagement.Service.Postings
import AccountManagement.Service.System

namespace AccountManagement.Service

open AccountManagement.Library AccountManagement.Task AccountManagement.Domain
open AccountManagement.Store AccountManagement.Outbox AccountManagement.Runtime

section Tracing

variable {Value : Type} [JsonValue Value] (wire : Wire Value)

/-! ### The origin of a command -/

/-- The commands of the reservations, with their tasks. -/
inductive ReservationIssued (identities : List (Identity Value)) :
    EmailReservationCommand → List (NewTask Value) → Prop
  | requested (command : EmailReservationCommand) (tasks : List (NewTask Value)) :
      Requested wire command tasks → ReservationIssued identities command tasks
  | continued (task : RecordAccountCreatedTaskV1) :
      Posted wire.recordAccountCreated task identities →
      ReservationIssued identities task.command []

/-- The commands of the accounts, with their tasks. -/
inductive AccountIssued (identities : List (Identity Value)) :
    UserAccountCommand → List (NewTask Value) → Prop
  | continued (task : CreateAccountTaskV1) (createdAt : DateTime) (taskId : Uuid) :
      Posted wire.createAccount task identities →
      AccountIssued identities (task.command createdAt)
        [taskOf wire.recordAccountCreated taskId (task.completion createdAt)]

variable {wire}

theorem ReservationIssued.mono {before after : List (Identity Value)}
    {command : EmailReservationCommand} {tasks : List (NewTask Value)}
    (issued : ReservationIssued wire before command tasks) (grown : before ⊆ after) :
    ReservationIssued wire after command tasks := by
  cases issued with
  | requested _ _ requested => exact .requested command tasks requested
  | continued task posted => exact .continued task (posted.mono grown)

theorem AccountIssued.mono {before after : List (Identity Value)} {command : UserAccountCommand}
    {tasks : List (NewTask Value)} (issued : AccountIssued wire before command tasks)
    (grown : before ⊆ after) : AccountIssued wire after command tasks := by
  cases issued with
  | continued task createdAt taskId posted =>
    exact .continued task createdAt taskId (posted.mono grown)

/-- A delivery is of one of the stored tasks. -/
def Delivered (identities : List (Identity Value)) (attempt : TaskAttempt Value) : Prop :=
  ∃ identity ∈ identities, Delivers identity attempt

theorem Delivered.mono {before after : List (Identity Value)} {attempt : TaskAttempt Value}
    (delivered : Delivered before attempt) (grown : before ⊆ after) : Delivered after attempt := by
  obtain ⟨identity, member, delivers⟩ := delivered
  exact ⟨identity, grown member, delivers⟩

theorem Delivered.posted {identities : List (Identity Value)} {attempt : TaskAttempt Value}
    (delivered : Delivered identities attempt) {Payload : Type} [TaskPayload Payload]
    {codec : PayloadCodec Payload Value} {payload : Payload}
    (read : payloadOf codec attempt.format attempt.payload = some payload) :
    Posted codec payload identities := by
  obtain ⟨identity, member, delivers⟩ := delivered
  exact ⟨identity, member, (delivers.read codec).trans read⟩

/-! ### The invariant -/

/-- The calls of the gateways. -/
structure CallsIssued (s : ServiceState wire) : Prop where
  reservations : ∀ call ∈ s.reservations.calls,
    call.aggregateId = (EmailReservationCommand.email call.command).toString ∧
      ReservationIssued wire s.queue.identities call.command call.tasks
  accounts : ∀ call ∈ s.accounts.calls,
    call.aggregateId = (UserAccountCommand.accountId call.command).toString ∧
      AccountIssued wire s.queue.identities call.command call.tasks

/-- The stored tasks. -/
structure TasksPublished (s : ServiceState wire) : Prop where
  typed : ∀ identity ∈ s.queue.identities, identity.aggregateType = wire.reservations.typeName ∨
    identity.aggregateType = wire.accounts.typeName
  reservations : Published s.reservations.log s.queue.identities
  accounts : Published s.accounts.log s.queue.identities

/-- The deliveries, in the hands of a process or of a settlement. -/
structure DeliveriesKnown (s : ServiceState wire) : Prop where
  deliveries : ∀ delivery ∈ s.deliveries, Delivered s.queue.identities delivery.task.attempt
  settlements : ∀ transaction ∈ s.queue.transactions, ∀ task request,
    transaction.operation = .settle task request → Delivered s.queue.identities task.attempt

variable {config : PostgresCommandConfig} {offset : String → Int} {clock : DateTime}
  {sender : HandlerResult → Bool} {s t : ServiceState wire}

/-! ### Stored tasks -/

/-- What a statement of a call does to the stored tasks and to its log. -/
theorem Gateway.Sound.effect {S : StoredAggregate Value} {gateway : Gateway S}
    (sound : gateway.Sound config s.tables) {call : Nat} {move : Move} {execution : Execution S}
    {stepped : Stepped S} (found : gateway.calls[call]? = some execution)
    (moved : execution.step config move s.tables = some stepped) :
    ((s.setTables stepped.tables).queue.identities = s.queue.identities ∧
      stepped.committed = none) ∨
    ∃ event, stepped.committed
        = some ⟨execution.aggregateId, execution.command, event, execution.tasks⟩ ∧
      (s.setTables stepped.tables).queue.identities = s.queue.identities
        ++ execution.tasks.map (postedIdentity S.typeName execution.aggregateId
          ((stream gateway.log execution.aggregateId).length + 1)) := by
  rcases sound.store.effect (List.mem_of_getElem? found) moved with
    ⟨same, none⟩ | ⟨event, write, now, lost, _, done, committed⟩
  · refine .inl ⟨?_, none⟩
    rw [same]
    rfl
  · refine .inr ⟨event, committed, ?_⟩
    show stepped.tables.outbox.map OutboxRow.identity = _
    rw [done.outbox, List.map_append, identities_taskRows]
    rfl

/-- **A statement of a call keeps the record**: of its own aggregate type and of any other. -/
theorem Gateway.Sound.published {S : StoredAggregate Value} {gateway : Gateway S}
    (sound : gateway.Sound config s.tables) {call : Nat} {move : Move} {execution : Execution S}
    {stepped : Stepped S} (found : gateway.calls[call]? = some execution)
    (moved : execution.step config move s.tables = some stepped) :
    (Published gateway.log s.queue.identities →
      Published (gateway.log ++ stepped.committed.toList)
        (s.setTables stepped.tables).queue.identities) ∧
    (∀ {T : StoredAggregate Value} {log : List (Commit T)}, S.typeName ≠ T.typeName →
      Published log s.queue.identities →
      Published log (s.setTables stepped.tables).queue.identities) ∧
    ∀ identity ∈ (s.setTables stepped.tables).queue.identities, identity ∈ s.queue.identities ∨
      identity.aggregateType = S.typeName := by
  rcases sound.effect found moved with ⟨same, none⟩ | ⟨event, committed, grown⟩
  · rw [same, none, Option.toList_none, List.append_nil]
    exact ⟨id, fun _ => id, fun _ => .inl⟩
  · rw [grown, committed]
    refine ⟨fun published => published_append published _,
      fun other published => published_foreign published other _ _ _, fun identity member => ?_⟩
    rcases List.mem_append.mp member with old | new
    · exact .inl old
    · obtain ⟨task, _, rfl⟩ := List.mem_map.mp new
      exact .inr rfl

/-- The queue itself stores no task and loses none. -/
theorem identities_queue (sound : QueueSound offset s.queue) {action : QueueAction Value}
    {after : QueueState Value} (stepped : QueueStep offset s.queue action after)
    (permitted : ServiceState.permits action = true ∨ ∃ operation, action = .begin operation) :
    after.identities = s.queue.identities := by
  refine sound.identities stepped fun typeName event tasks publishes => ?_
  subst publishes
  rcases permitted with permitted | ⟨_, begins⟩
  · cases permitted
  · cases begins

theorem tasksPublished_step (sound : ServiceSound config offset s) (published : TasksPublished s)
    (stepped : ServiceStep config offset sender s t) : TasksPublished t := by
  obtain ⟨typed, reservations, accounts⟩ := published
  cases stepped with
  | ended | request | rejected | record | create | send | finish =>
    exact ⟨typed, reservations, accounts⟩
  | reservation call move execution result _ found moved =>
    obtain ⟨own, others, mine⟩ := sound.reservations.published found moved
    exact ⟨fun identity member => (mine identity member).elim (typed identity) .inl,
      own reservations, others wire.types_differ accounts⟩
  | account call move execution result _ found moved =>
    obtain ⟨own, others, mine⟩ := sound.accounts.published found moved
    exact ⟨fun identity member => (mine identity member).elim (typed identity) .inr,
      others wire.types_differ.symm reservations, own accounts⟩
  | queue action after permitted moved =>
    have same := identities_queue sound.queue moved (.inl permitted)
    constructor <;> simp only [same] <;> assumption
  | settle index delivery result delay after _ _ moved =>
    have same := identities_queue sound.queue moved (.inr ⟨_, rfl⟩)
    constructor <;> simp only [ServiceState.setPhase, same] <;> assumption

/-- No stored task is ever lost. -/
theorem identities_grow (sound : ServiceSound config offset s)
    (stepped : ServiceStep config offset sender s t) : s.queue.identities ⊆ t.queue.identities := by
  cases stepped with
  | ended | request | rejected | record | create | send | finish => exact List.Subset.refl _
  | reservation call move execution result _ found moved =>
    rcases sound.reservations.effect found moved with ⟨same, _⟩ | ⟨_, _, grown⟩
    · exact fun identity member => same ▸ member
    · exact fun identity member => grown ▸ List.mem_append_left _ member
  | account call move execution result _ found moved =>
    rcases sound.accounts.effect found moved with ⟨same, _⟩ | ⟨_, _, grown⟩
    · exact fun identity member => same ▸ member
    · exact fun identity member => grown ▸ List.mem_append_left _ member
  | queue action after permitted moved =>
    exact fun identity member => identities_queue sound.queue moved (.inl permitted) ▸ member
  | settle index delivery result delay after _ _ moved =>
    exact fun identity member => identities_queue sound.queue moved (.inr ⟨_, rfl⟩) ▸ member

/-! ### Deliveries -/

theorem Granted.delivers {row : OutboxRow Value}
    {delivery : Delivery Value HandlerPhase} (granted : Granted offset row delivery) :
    Delivers row.identity delivery.task.attempt :=
  ⟨granted.id, granted.taskType, granted.taskVersion, granted.payload⟩

/-- A change of phase changes no delivered task. -/
theorem ServiceState.mem_setPhase {index : Nat} {delivery other : Delivery Value HandlerPhase}
    {phase : HandlerPhase} (present : s.deliveries[index]? = some delivery)
    (member : other ∈ (s.setPhase index delivery phase).deliveries) :
    ∃ before ∈ s.deliveries, before.task = other.task := by
  rcases List.mem_or_eq_of_mem_set member with old | rfl
  · exact ⟨other, old, rfl⟩
  · exact ⟨delivery, List.mem_of_getElem? present, rfl⟩

theorem deliveriesKnown_step (sound : ServiceSound config offset s) (known : DeliveriesKnown s)
    (stepped : ServiceStep config offset sender s t) : DeliveriesKnown t := by
  have grown := identities_grow sound stepped
  have phase : ∀ {index : Nat} {delivery : Delivery Value HandlerPhase} {phase : HandlerPhase},
      s.deliveries[index]? = some delivery →
      ∀ other ∈ (s.setPhase index delivery phase).deliveries,
        Delivered t.queue.identities other.task.attempt := by
    intro index delivery phase present other member
    obtain ⟨before, old, same⟩ := ServiceState.mem_setPhase present member
    rw [← same]
    exact (known.deliveries before old).mono grown
  cases stepped with
  | ended | request => exact ⟨known.deliveries, known.settlements⟩
  | reservation | account =>
    exact ⟨fun delivery member => (known.deliveries delivery member).mono grown,
      fun transaction member task request settles =>
        (known.settlements transaction member task request settles).mono grown⟩
  | rejected index delivery _ _ _ present | send index delivery present
  | finish index delivery _ present => exact ⟨phase present, known.settlements⟩
  | record index delivery _ present | create index delivery _ _ _ present =>
    exact ⟨phase present, known.settlements⟩
  | queue action after permitted moved =>
    refine ⟨fun delivery member => ?_, fun transaction member task request settles => ?_⟩
    · rcases List.mem_append.mp member with old | new
      · exact (known.deliveries delivery old).mono grown
      · obtain ⟨_, row, inside, granted⟩ := (arrivals_granted sound.queue moved _).2 delivery new
        exact ⟨row.identity, List.mem_map_of_mem inside, Granted.delivers granted⟩
    · rcases moved.settles member settles with ⟨before, old, same⟩ | began
      · exact (known.settlements before old task request same).mono grown
      · subst began
        cases permitted
  | settle index delivery result delay after present _ moved =>
    refine ⟨phase present, fun transaction member task request settles => ?_⟩
    rcases moved.settles member settles with ⟨before, old, same⟩ | began
    · exact (known.settlements before old task request same).mono grown
    · obtain ⟨rfl, _⟩ := Operation.settle.inj (QueueAction.begin.inj began)
      exact (known.deliveries delivery (List.mem_of_getElem? present)).mono grown

/-! ### Calls -/

theorem callsIssued_step (sound : ServiceSound config offset s) (known : DeliveriesKnown s)
    (issued : CallsIssued s) (stepped : ServiceStep config offset sender s t) : CallsIssued t := by
  have grown := identities_grow sound stepped
  have reservations : ∀ call ∈ s.reservations.calls,
      call.aggregateId = (EmailReservationCommand.email call.command).toString ∧
        ReservationIssued wire t.queue.identities call.command call.tasks := fun call member =>
    ⟨(issued.reservations call member).1, (issued.reservations call member).2.mono grown⟩
  have accounts : ∀ call ∈ s.accounts.calls,
      call.aggregateId = (UserAccountCommand.accountId call.command).toString ∧
        AccountIssued wire t.queue.identities call.command call.tasks := fun call member =>
    ⟨(issued.accounts call member).1, (issued.accounts call member).2.mono grown⟩
  cases stepped with
  | ended | rejected | send | finish | queue | settle => exact ⟨reservations, accounts⟩
  | request command tasks requested =>
    exact ⟨List.forall_mem_append.mpr ⟨reservations, List.forall_mem_singleton.mpr
      ⟨rfl, .requested command tasks requested⟩⟩, accounts⟩
  | record index delivery task present _ read =>
    have posted := (known.deliveries delivery (List.mem_of_getElem? present)).posted read
    exact ⟨List.forall_mem_append.mpr ⟨reservations, List.forall_mem_singleton.mpr
      ⟨rfl, .continued task posted⟩⟩, accounts⟩
  | create index delivery task createdAt taskId present _ read =>
    have posted := (known.deliveries delivery (List.mem_of_getElem? present)).posted read
    exact ⟨reservations, List.forall_mem_append.mpr ⟨accounts, List.forall_mem_singleton.mpr
      ⟨rfl, .continued task createdAt taskId posted⟩⟩⟩
  | reservation call move execution result _ found moved =>
    refine ⟨fun other member => ?_, accounts⟩
    rcases List.mem_or_eq_of_mem_set member with old | rfl
    · exact reservations other old
    · have same := Execution.step_same moved
      rw [same.aggregateId, same.command, same.tasks]
      exact reservations execution (List.mem_of_getElem? found)
  | account call move execution result _ found moved =>
    refine ⟨reservations, fun other member => ?_⟩
    rcases List.mem_or_eq_of_mem_set member with old | rfl
    · exact accounts other old
    · have same := Execution.step_same moved
      rw [same.aggregateId, same.command, same.tasks]
      exact accounts execution (List.mem_of_getElem? found)

/-! ### Every reachable state -/

/-- **The origin of everything** in a reachable state. -/
structure Traced (config : PostgresCommandConfig) (offset : String → Int) (s : ServiceState wire) :
    Prop extends ServiceSound config offset s where
  calls : CallsIssued s
  tasks : TasksPublished s
  known : DeliveriesKnown s

theorem traced_reachable
    (reached : (serviceMachine wire config offset clock sender).Reachable s) :
    Traced config offset s := by
  have invariant : CallsIssued s ∧ TasksPublished s ∧ DeliveriesKnown s := by
    refine reached.invariant (P := fun s => CallsIssued s ∧ TasksPublished s ∧ DeliveriesKnown s)
      ⟨⟨fun _ none => absurd none List.not_mem_nil, fun _ none => absurd none List.not_mem_nil⟩,
        ⟨fun _ none => absurd none List.not_mem_nil, fun _ => rfl, fun _ => rfl⟩,
        ⟨fun _ none => absurd none List.not_mem_nil, fun _ none => absurd none List.not_mem_nil⟩⟩
      ?_
    rintro s action t before ⟨calls, tasks, known⟩ moved
    have sound := serviceSound_reachable before
    have stepped := serviceMachine_step moved
    exact ⟨callsIssued_step sound known calls stepped, tasksPublished_step sound tasks stepped,
      deliveriesKnown_step sound known stepped⟩
  exact { toServiceSound := serviceSound_reachable reached, calls := invariant.1,
          tasks := invariant.2.1, known := invariant.2.2 }

/-! ### Back from the commits and the stored tasks -/

/-- The event that the continuation of a creation leads to. -/
def CreateAccountTaskV1.event (task : CreateAccountTaskV1) (createdAt : DateTime) :
    UserAccountEvent :=
  .accountCreated task.accountId task.email task.profile.firstName task.profile.lastName
    task.profile.dateOfBirth task.profile.validationDate createdAt

variable (wire) in
/-- **What a committed command of a reservation emitted and posted.** -/
inductive ReservationCommitted (identities : List (Identity Value)) :
    EmailReservationCommand → EmailReservationEvent → List (NewTask Value) → Prop
  | reserved (taskId : Uuid) (email : Email) (accountId : UserAccountId) (code : Nat) :
      1000000 ≤ code → code ≤ 9999999 →
      ReservationCommitted identities (.reserveEmail email accountId code)
        (.emailReserved email accountId code)
        [taskOf wire.sendVerificationCode taskId ⟨email, accountId, code⟩]
  | reissued (taskId : Uuid) (email : Email) (accountId : UserAccountId) (code : Nat) :
      1000000 ≤ code → code ≤ 9999999 →
      ReservationCommitted identities (.requestVerificationCode email accountId code)
        (.verificationCodeRequested email accountId code)
        [taskOf wire.sendVerificationCode taskId ⟨email, accountId, code⟩]
  | restarted (taskId : Uuid) (email : Email) (accountId : UserAccountId) (code : Nat) :
      1000000 ≤ code → code ≤ 9999999 →
      ReservationCommitted identities (.requestVerificationCode email accountId code)
        (.verificationRestarted email accountId code)
        [taskOf wire.sendVerificationCode taskId ⟨email, accountId, code⟩]
  | verified (email : Email) (accountId : UserAccountId) (code : Nat) (digest : String) :
      ReservationCommitted identities (.verifyEmail email accountId code digest)
        (.emailVerified email accountId digest) []
  | accepted (taskId : Uuid) (email : Email) (accountId : UserAccountId) (digest : String)
      (profile : RegistrationProfile) : profile.Valid →
      ReservationCommitted identities (.submitRegistrationProfile email accountId digest profile)
        (.registrationProfileAccepted email accountId digest profile)
        [taskOf wire.createAccount taskId ⟨email, accountId, profile⟩]
  | completed (task : RecordAccountCreatedTaskV1) :
      Posted wire.recordAccountCreated task identities →
      ReservationCommitted identities task.command
        (.accountCreationCompleted task.email task.accountId task.createdAt) []

theorem Requested.committed {identities : List (Identity Value)}
    {command : EmailReservationCommand} {tasks : List (NewTask Value)}
    (requested : Requested wire command tasks) {state : EmailReservation}
    {event : EmailReservationEvent} (accepts : state.Accepts command event) :
    ReservationCommitted wire identities command event tasks := by
  cases requested with
  | reserve taskId email accountId code =>
    cases accepts with
    | reserved _ _ _ _ low high => exact .reserved taskId email accountId code low high
  | reissue taskId email accountId code =>
    cases accepts with
    | reissued _ _ _ _ _ _ _ low high => exact .reissued taskId email accountId code low high
    | restarted _ _ _ _ _ _ _ low high => exact .restarted taskId email accountId code low high
  | confirm email accountId code digest =>
    cases accepts with
    | verified => exact .verified email accountId code digest
  | submit taskId email accountId digest profile normal =>
    cases accepts with
    | accepted _ _ _ _ kept _ same first last born =>
      obtain rfl : kept = profile := same.trans normal
      exact .accepted taskId email accountId digest kept ⟨normal, first, last, born⟩

variable (traced : Traced config offset s)
include traced

theorem Traced.reservation_commit {commit : Commit wire.reservations}
    (member : commit ∈ s.reservations.log) :
    commit.aggregateId = (EmailReservationCommand.email commit.command).toString ∧
      ReservationCommitted wire s.queue.identities commit.command commit.event commit.tasks := by
  obtain ⟨call, found, sameId, sameCommand, sameTasks⟩ :=
    traced.reservations.answers.origin commit member
  obtain ⟨keyed, issued⟩ := traced.calls.reservations call found
  rw [← sameId, ← sameCommand, ← sameTasks]
  refine ⟨keyed, ?_⟩
  obtain ⟨state, handled⟩ := traced.reservations.store.emitted member
  obtain ⟨event, one, accepts⟩ := EmailReservation.handle_cases handled
  rw [List.head_eq_of_cons_eq one]
  rw [← sameCommand] at accepts
  obtain ⟨_, command, tasks, _, _⟩ := call
  cases issued with
  | requested _ _ requested => exact requested.committed accepts
  | continued task posted =>
    cases accepts
    exact .completed task posted

/-- A stored task leads back to a commit, of one type or of the other. -/
theorem Traced.row_commit {identity : Identity Value} (member : identity ∈ s.queue.identities) :
    (identity.aggregateType = wire.reservations.typeName ∧ ∃ commit ∈ s.reservations.log,
      commit.aggregateId = identity.aggregateId ∧ ∃ task ∈ commit.tasks,
        ∀ {Payload : Type} [TaskPayload Payload] (codec : PayloadCodec Payload Value),
          readIdentity codec identity = payloadOf codec task.format task.payload) ∨
    (identity.aggregateType = wire.accounts.typeName ∧ ∃ commit ∈ s.accounts.log,
      commit.aggregateId = identity.aggregateId ∧ ∃ task ∈ commit.tasks,
        ∀ {Payload : Type} [TaskPayload Payload] (codec : PayloadCodec Payload Value),
          readIdentity codec identity = payloadOf codec task.format task.payload) := by
  rcases traced.tasks.typed identity member with own | own
  · obtain ⟨commit, position, found, task, carried, same⟩ :=
      traced.tasks.reservations.origin member own
    obtain ⟨inside, keyed⟩ := List.mem_filter.mp (List.mem_of_getElem? found)
    refine .inl ⟨own, commit, inside, of_decide_eq_true keyed, task, carried, fun codec => ?_⟩
    rw [same, readIdentity_posted]
  · obtain ⟨commit, position, found, task, carried, same⟩ :=
      traced.tasks.accounts.origin member own
    obtain ⟨inside, keyed⟩ := List.mem_filter.mp (List.mem_of_getElem? found)
    refine .inr ⟨own, commit, inside, of_decide_eq_true keyed, task, carried, fun codec => ?_⟩
    rw [same, readIdentity_posted]

/-- The tasks of an account's commit record its creation. -/
theorem Traced.account_tasks {commit : Commit wire.accounts} (member : commit ∈ s.accounts.log) :
    commit.aggregateId = (UserAccountCommand.accountId commit.command).toString ∧
      AccountIssued wire s.queue.identities commit.command commit.tasks := by
  obtain ⟨call, found, sameId, sameCommand, sameTasks⟩ :=
    traced.accounts.answers.origin commit member
  rw [← sameId, ← sameCommand, ← sameTasks]
  exact traced.calls.accounts call found

/-- **A stored `CreateAccount` task** was posted by the acceptance of its profile. -/
theorem Traced.createAccount {identity : Identity Value} (member : identity ∈ s.queue.identities)
    {task : CreateAccountTaskV1} (read : readIdentity wire.createAccount identity = some task) :
    identity.aggregateType = wire.reservations.typeName ∧
      identity.aggregateId = task.email.toString ∧ task.profile.Valid ∧
      ∃ commit ∈ s.reservations.log, ∃ taskId digest, commit = ⟨task.email.toString,
        .submitRegistrationProfile task.email task.accountId digest task.profile,
        .registrationProfileAccepted task.email task.accountId digest task.profile,
        [taskOf wire.createAccount taskId task]⟩ := by
  rcases traced.row_commit member with ⟨own, commit, found, keyed, carried, inside, reads⟩ |
    ⟨own, commit, found, keyed, carried, inside, reads⟩
  · obtain ⟨named, committed⟩ := traced.reservation_commit found
    rw [reads] at read
    obtain ⟨aggregateId, command, event, tasks⟩ := commit
    cases committed with
    | reserved | reissued | restarted =>
      obtain rfl := List.mem_singleton.mp inside
      rw [payloadOf_other _ _ (by decide)] at read
      cases read
    | verified | completed => cases inside
    | accepted taskId email accountId digest profile valid =>
      obtain rfl := List.mem_singleton.mp inside
      rw [payloadOf_taskOf] at read
      obtain rfl := Option.some.inj read
      obtain rfl : aggregateId = email.toString := named
      exact ⟨own, keyed.symm, valid, _, found, taskId, digest, rfl⟩
  · obtain ⟨_, issued⟩ := traced.account_tasks found
    rw [reads] at read
    obtain ⟨aggregateId, command, event, tasks⟩ := commit
    cases issued with
    | continued =>
      obtain rfl := List.mem_singleton.mp inside
      rw [payloadOf_other _ _ (by decide)] at read
      cases read

/-- **A commit of an account** creates it, for a stored task, and posts the record of it. -/
theorem Traced.account_commit {commit : Commit wire.accounts} (member : commit ∈ s.accounts.log) :
    ∃ task createdAt taskId, Posted wire.createAccount task s.queue.identities ∧
      commit = ⟨task.accountId.toString, task.command createdAt, task.event createdAt,
        [taskOf wire.recordAccountCreated taskId (task.completion createdAt)]⟩ := by
  obtain ⟨keyed, issued⟩ := traced.account_tasks member
  obtain ⟨state, handled⟩ := traced.accounts.store.emitted member
  obtain ⟨aggregateId, command, event, tasks⟩ := commit
  cases issued with
  | continued task createdAt taskId posted =>
    obtain ⟨identity, stored, read⟩ := posted
    obtain ⟨_, _, ⟨normal, _⟩, _⟩ := traced.createAccount stored read
    obtain ⟨_, _, _, _, one⟩ := UserAccount.handle_cases handled
    obtain rfl := List.head_eq_of_cons_eq one
    obtain ⟨first, last⟩ := RegistrationProfile.trim_eq normal
    obtain rfl : aggregateId = task.accountId.toString := keyed
    refine ⟨task, createdAt, taskId, ⟨identity, stored, read⟩, ?_⟩
    rw [first, last]
    rfl

/-- **A stored `RecordAccountCreated` task** was posted by the creation of its account. -/
theorem Traced.recordAccountCreated {task : RecordAccountCreatedTaskV1}
    (posted : Posted wire.recordAccountCreated task s.queue.identities) :
    ∃ create : CreateAccountTaskV1, task = create.completion task.createdAt ∧
      Posted wire.createAccount create s.queue.identities ∧ ∃ commit ∈ s.accounts.log, ∃ taskId,
        commit = ⟨create.accountId.toString, create.command task.createdAt,
          create.event task.createdAt, [taskOf wire.recordAccountCreated taskId task]⟩ := by
  obtain ⟨identity, stored, read⟩ := posted
  rcases traced.row_commit stored with ⟨_, commit, member, _, carried, inside, reads⟩ |
    ⟨_, commit, member, _, carried, inside, reads⟩
  · obtain ⟨_, committed⟩ := traced.reservation_commit member
    rw [reads] at read
    obtain ⟨aggregateId, command, event, tasks⟩ := commit
    cases committed with
    | reserved | reissued | restarted | accepted =>
      obtain rfl := List.mem_singleton.mp inside
      rw [payloadOf_other _ _ (by decide)] at read
      cases read
    | verified | completed => cases inside
  · obtain ⟨create, createdAt, taskId, created, rfl⟩ := traced.account_commit member
    rw [reads] at read
    obtain rfl := List.mem_singleton.mp inside
    rw [payloadOf_taskOf] at read
    obtain rfl := Option.some.inj read
    exact ⟨create, rfl, created, _, member, taskId, rfl⟩

end Tracing

end AccountManagement.Service
