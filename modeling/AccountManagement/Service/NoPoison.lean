/-
**No registration task is poison.**

* `no_poison_tasks`: while generated account IDs do not repeat, the sender of codes gives no permanent
  answer and no snapshot is due, no delivery of a task of the service ever ends with a permanent
  error, and none panics. Once the event of a continuation is committed, a delivery that loads its
  state after that changes nothing and, if its storage calls succeed, ends without error.

`Unpoisoned` is the invariant of the calls and the deliveries. `Repeats` says what a late delivery
does, and `RepeatedCreation` and `RepeatedRecord` are kept until it has returned.
-/

import AccountManagement.Service.Matching

namespace AccountManagement.Service

open AccountManagement.Library AccountManagement.Task AccountManagement.Domain
open AccountManagement.Store AccountManagement.Outbox AccountManagement.Runtime

section NoPoison

variable {Value : Type} [JsonValue Value] {wire : Wire Value} {config : PostgresCommandConfig}
  {offset : String → Int} {clock : DateTime} {sender : HandlerResult → Bool}
  {s t : ServiceState wire}

/-! ### Assumptions -/

/-- No reservation has come near its first snapshot, so its state is always a plain replay. -/
def ServiceState.PlainReplay (config : PostgresCommandConfig) (s : ServiceState wire) : Prop :=
  ∀ aggregateId, (ownEvents wire.reservations aggregateId s.tables).length + 1
    < config.snapshotInterval

theorem Gateway.commands_begin {S : StoredAggregate Value} (gateway : Gateway S)
    (aggregateId : String) (command : S.Command) (tasks : List (NewTask Value)) :
    gateway.calls.map Execution.command
      <+: (gateway.begin aggregateId command tasks).calls.map Execution.command := by
  unfold Gateway.begin
  rw [List.map_append]
  exact List.prefix_append _ _

/-- The commands of a gateway stay what they are. -/
theorem Gateway.commands_move {S : StoredAggregate Value} {gateway : Gateway S} {call : Nat}
    {move : Move} {tables : Tables Value} {execution : Execution S} {stepped : Stepped S}
    (found : gateway.calls[call]? = some execution)
    (moved : execution.step config move tables = some stepped) :
    (gateway.calls.set call stepped.execution).map Execution.command
      = gateway.calls.map Execution.command := by
  obtain ⟨inside, rfl⟩ := List.getElem?_eq_some_iff.mp found
  rw [List.map_set, (Execution.step_same moved).command]
  have within : call < (gateway.calls.map Execution.command).length := by rwa [List.length_map]
  have same := List.set_getElem_self within
  rwa [List.getElem_map] at same

/-- Generated IDs are never forgotten. -/
theorem issuedIds_step (stepped : ServiceStep config offset sender s t) :
    s.issuedIds <+: t.issuedIds := by
  unfold ServiceState.issuedIds
  refine List.IsPrefix.filterMap _ ?_
  cases stepped with
  | ended | rejected | send | finish | queue | settle | create | account => exact List.prefix_refl _
  | request command tasks _ => exact s.reservations.commands_begin _ command tasks
  | record index delivery task _ _ _ => exact s.reservations.commands_begin _ task.command []
  | reservation call move execution result _ found moved =>
    have kept := Gateway.commands_move found moved
    exact ⟨[], (List.append_nil _).trans kept.symm⟩

theorem plainReplay_step (before : ServiceSound config offset s) (after : ServiceSound config offset t)
    (stepped : ServiceStep config offset sender s t) (plain : t.PlainReplay config) :
    s.PlainReplay config := by
  intro aggregateId
  have first : (ownEvents wire.reservations aggregateId s.tables).length
      = (stream s.reservations.log aggregateId).length :=
    before.reservations.store.length_ownEvents aggregateId
  have second : (ownEvents wire.reservations aggregateId t.tables).length
      = (stream t.reservations.log aggregateId).length :=
    after.reservations.store.length_ownEvents aggregateId
  have grown := (stream_mono (continues_step stepped).reservations.log aggregateId).length_le
  have bound := plain aggregateId
  omega

/-! ### The invariant -/

/-- What is known of the calls and of the deliveries. -/
structure Unpoisoned (s : ServiceState wire) : Prop where
  calm : ∀ call ∈ s.reservations.calls, call.phase ≠ .panicked
  recorded : ∀ call ∈ s.reservations.calls, ∀ task : RecordAccountCreatedTaskV1,
    call.command = task.command → ∀ reason, call.phase = .returned (.error (.domain reason)) →
      reason = .accountCreationAlreadyCompleted
  created : ∀ call ∈ s.accounts.calls, ∀ reason,
    call.phase = .returned (.error (.domain reason)) → reason = .alreadyCreated
  deliveries : ∀ delivery ∈ s.deliveries, ∀ reason,
    delivery.phase ≠ .finished (.error (.permanent reason))

/-- A rejected record was recorded before. -/
theorem Traced.record_rejected (traced : Traced config offset s)
    {execution : Execution wire.reservations} (member : execution ∈ s.reservations.calls)
    {task : RecordAccountCreatedTaskV1} (command : execution.command = task.command) {move : Move}
    {stepped : Stepped wire.reservations} {reason : EmailReservationError}
    (moved : execution.step config move s.tables = some stepped)
    (returned : stepped.execution.phase = .returned (.error (.domain reason))) :
    reason = .accountCreationAlreadyCompleted := by
  obtain ⟨final, serial, handled⟩ := traced.reservations.store.rejected member moved returned
  obtain ⟨keyed, issued⟩ := traced.calls.reservations execution member
  rw [command] at keyed issued handled
  rw [keyed] at serial
  have posted : Posted wire.recordAccountCreated task s.queue.identities := by
    generalize other : task.command = named at issued
    generalize execution.tasks = tasks at issued
    cases issued with
    | requested _ _ requested => cases requested <;> cases other
    | continued known posted =>
      rw [RecordAccountCreatedTaskV1.command_injective other]
      exact posted
  obtain ⟨digest, phase | phase⟩ := traced.record_phase posted serial
  · have emits : EmailReservation.handle final task.command = .error reason := handled
    rw [handle_record phase] at emits
    cases emits
  · have emits : EmailReservation.handle final task.command = .error reason := handled
    rw [handle_recorded phase] at emits
    exact (Outcome.error.inj emits).symm

/-- The state of an account, as a `CreateAccount` task meets it. -/
theorem Traced.create_state (traced : Traced config offset s) (distinct : s.issuedIds.Nodup)
    {task : CreateAccountTaskV1} (posted : Posted wire.createAccount task s.queue.identities)
    {state : UserAccount}
    (serial : userAccount.Serial (stream s.accounts.log task.accountId.toString) state) :
    state.created = none ∨ ∃ createdAt, state.created = some (task.event createdAt).account := by
  rcases account_history serial with ⟨_, absent⟩ | ⟨command, event, one, present⟩
  · exact .inl absent
  · have member : (command, event) ∈ stream s.accounts.log task.accountId.toString := by
      rw [one]
      exact List.mem_singleton.mpr rfl
    obtain ⟨createdAt, rfl⟩ := traced.create_account distinct posted member
    exact .inr ⟨createdAt, present⟩

/-- A rejected creation was made before. -/
theorem Traced.create_rejected (traced : Traced config offset s) (distinct : s.issuedIds.Nodup)
    {execution : Execution wire.accounts} (member : execution ∈ s.accounts.calls) {move : Move}
    {stepped : Stepped wire.accounts} {reason : UserAccountError}
    (moved : execution.step config move s.tables = some stepped)
    (returned : stepped.execution.phase = .returned (.error (.domain reason))) :
    reason = .alreadyCreated := by
  obtain ⟨final, serial, handled⟩ := traced.accounts.store.rejected member moved returned
  obtain ⟨keyed, issued⟩ := traced.calls.accounts execution member
  rw [keyed] at serial
  obtain ⟨aggregateId, command, tasks, attempt, phase⟩ := execution
  cases issued with
  | continued task createdAt taskId posted =>
    have emits : UserAccount.handle final (task.command createdAt) = .error reason := handled
    obtain ⟨identity, stored, read⟩ := posted
    obtain ⟨_, _, valid, _⟩ := traced.createAccount stored read
    rcases traced.create_state distinct ⟨identity, stored, read⟩ serial with absent | ⟨_, present⟩
    · rw [handle_create valid absent] at emits
      cases emits
    · rw [handle_created valid present] at emits
      exact (Outcome.error.inj emits).symm

/-- Without a snapshot no reservation panics. -/
theorem Traced.calm (traced : Traced config offset s) (plain : s.PlainReplay config) {call : Nat}
    {execution : Execution wire.reservations} {move : Move}
    {stepped : Stepped wire.reservations} (found : s.reservations.calls[call]? = some execution)
    (moved : execution.step config move s.tables = some stepped) :
    stepped.execution.phase ≠ .panicked := by
  intro panicked
  obtain ⟨_, context, final, _, replayed, failed⟩ :=
    traced.reservations.store.panics found (Execution.step_moved moved) panicked
  obtain ⟨_, _, _, _, _, _, _, boundary⟩ :=
    (email_loaded_panics_iff config.intervalPositive replayed context _).mp failed
  have below := plain execution.aggregateId
  have length : (ownEvents wire.reservations execution.aggregateId s.tables).length
      = (stream s.reservations.log execution.aggregateId).length :=
    traced.reservations.store.length_ownEvents execution.aggregateId
  simp only [Gateway.view, streamEvents, List.length_map, ← length] at boundary
  rw [Nat.mod_eq_of_lt below] at boundary
  cases boundary

/-- A reply without a permanent error. -/
theorem Unpoisoned.finished (unpoisoned : Unpoisoned s)
    (polite : ∀ reason, sender (.error (.permanent reason)) = false)
    {delivery : Delivery Value HandlerPhase} (handling : Handling s delivery)
    {result : HandlerResult} (ended : HandlerEnd sender s delivery result) (reason : String) :
    result ≠ .error (.permanent reason) := by
  intro permanent
  cases ended with
  | stopped => cases permanent
  | sent _ _ allowed =>
    rw [permanent, polite] at allowed
    cases allowed
  | recorded call execution answer phase found returned =>
    simp only [Handling, phase] at handling
    obtain ⟨known, task, present, _, _, command⟩ := handling
    obtain rfl := Option.some.inj (found.symm.trans present)
    have harmless := unpoisoned.recorded execution (List.mem_of_getElem? found) task command
    cases answer with
    | ok => cases permanent
    | error error =>
      cases error with
      | conflict | unavailable => cases permanent
      | domain error =>
        obtain rfl := harmless error returned
        cases permanent
  | created call execution answer phase found returned =>
    have harmless := unpoisoned.created execution (List.mem_of_getElem? found)
    cases answer with
    | ok => cases permanent
    | error error =>
      cases error with
      | conflict | unavailable => cases permanent
      | domain error =>
        obtain rfl := harmless error returned
        cases permanent

theorem unpoisoned_step (traced : Traced config offset s) (handled : Handled s)
    (distinct : s.issuedIds.Nodup) (plain : s.PlainReplay config)
    (polite : ∀ reason, sender (.error (.permanent reason)) = false) (unpoisoned : Unpoisoned s)
    (stepped : ServiceStep config offset sender s t) : Unpoisoned t := by
  obtain ⟨calm, recorded, created, deliveries⟩ := unpoisoned
  have phases : ∀ {index : Nat} {delivery : Delivery Value HandlerPhase} {phase : HandlerPhase},
      (∀ reason, phase ≠ .finished (.error (.permanent reason))) →
      ∀ other ∈ (s.setPhase index delivery phase).deliveries, ∀ reason,
        other.phase ≠ .finished (.error (.permanent reason)) := by
    intro index delivery phase fine other member
    rcases List.mem_or_eq_of_mem_set member with old | rfl
    · exact deliveries other old
    · exact fine
  cases stepped with
  | ended => exact ⟨calm, recorded, created, deliveries⟩
  | request command tasks _ =>
    exact ⟨List.forall_mem_append.mpr ⟨calm, List.forall_mem_singleton.mpr nofun⟩,
      List.forall_mem_append.mpr ⟨recorded, List.forall_mem_singleton.mpr fun _ _ _ => nofun⟩,
      created, deliveries⟩
  | record index delivery task _ _ _ =>
    exact ⟨List.forall_mem_append.mpr ⟨calm, List.forall_mem_singleton.mpr nofun⟩,
      List.forall_mem_append.mpr ⟨recorded, List.forall_mem_singleton.mpr fun _ _ _ => nofun⟩,
      created, phases nofun⟩
  | create index delivery task createdAt taskId _ _ _ =>
    exact ⟨calm, recorded,
      List.forall_mem_append.mpr ⟨created, List.forall_mem_singleton.mpr fun _ => nofun⟩,
      phases nofun⟩
  | reservation call move execution result _ found moved =>
    have member := List.mem_of_getElem? found
    refine ⟨fun other inside => ?_, fun other inside task command reason returned => ?_, created,
      deliveries⟩
    · rcases List.mem_or_eq_of_mem_set inside with old | rfl
      · exact calm other old
      · exact traced.calm plain found moved
    · rcases List.mem_or_eq_of_mem_set inside with old | rfl
      · exact recorded other old task command reason returned
      · rw [(Execution.step_same moved).command] at command
        exact traced.record_rejected member command moved returned
  | account call move execution result _ found moved =>
    refine ⟨calm, recorded, fun other inside reason returned => ?_, deliveries⟩
    rcases List.mem_or_eq_of_mem_set inside with old | rfl
    · exact created other old reason returned
    · exact traced.create_rejected distinct (List.mem_of_getElem? found) moved returned
  | queue action after permitted moved =>
    refine ⟨calm, recorded, created,
      List.forall_mem_append.mpr ⟨deliveries, fun delivery arrived => ?_⟩⟩
    rw [((arrivals_granted traced.queue moved _).2 delivery arrived).1]
    exact nofun
  | rejected index delivery reason now taskId present _ answered =>
    exact absurd answered (traced.dispatches
      (traced.known.deliveries delivery (List.mem_of_getElem? present)) now taskId _)
  | send | settle => exact ⟨calm, recorded, created, phases nofun⟩
  | finish index delivery result present ended =>
    have handling := handled.handling delivery (List.mem_of_getElem? present)
    refine ⟨calm, recorded, created, phases fun reason permanent => ?_⟩
    exact Unpoisoned.finished ⟨calm, recorded, created, deliveries⟩ polite handling ended reason
      (HandlerPhase.finished.inj permanent)

/-- **In every reachable state** that meets the assumptions, nothing is poisoned. -/
theorem unpoisoned_reachable (polite : ∀ reason, sender (.error (.permanent reason)) = false)
    (reached : (serviceMachine wire config offset clock sender).Reachable s)
    (distinct : s.issuedIds.Nodup) (plain : s.PlainReplay config) : Unpoisoned s := by
  -- the assumptions hold of all earlier states, since IDs and events only become more
  refine reached.invariant
    (P := fun s => s.issuedIds.Nodup → s.PlainReplay config → Unpoisoned s) ?_ ?_ distinct plain
  · exact fun _ _ => ⟨fun _ none => absurd none List.not_mem_nil,
      fun _ none => absurd none List.not_mem_nil, fun _ none => absurd none List.not_mem_nil,
      fun _ none => absurd none List.not_mem_nil⟩
  · intro s action t before unpoisoned moved distinct plain
    have stepped := serviceMachine_step moved
    have traced := traced_reachable before
    have earlier := distinct.sublist (issuedIds_step stepped).sublist
    have after := serviceSound_reachable (before.step action moved)
    have plainBefore := plainReplay_step traced.toServiceSound after stepped plain
    exact unpoisoned_step traced (handled_reachable before) earlier plainBefore polite
      (unpoisoned earlier plainBefore) stepped

/-! ### Repetitions -/

/-- The call decides on a state that it has still to load, or has returned. -/
def Phase.Quiet {S : StoredAggregate Value} : Phase S → Prop
  | .loading => True
  | .snapshotRead _ => True
  | .returned _ => True
  | _ => False

/-- **A call that repeats what was done**: its next statement changes nothing, and unless storage
fails it reads on or returns, and its continuation then ends without error. -/
def Repeats {S : StoredAggregate Value} (config : PostgresCommandConfig)
    (reply : Except (CommandGatewayError S.Error) Unit → Except ContinuationError Unit)
    (tables : Tables Value) (execution : Execution S) : Prop :=
  ∀ move stepped, execution.step config move tables = some stepped →
    stepped.tables = tables ∧ stepped.committed = none ∧
      (move = .fault ∨ (∃ context, stepped.execution.phase = .snapshotRead context) ∨
        ∃ answer, stepped.execution.phase = .returned answer ∧ reply answer = .ok ())

/-- A quiet call whose command is rejected as done repeats it, and stays quiet. -/
theorem Gateway.Sound.repeats {S : StoredAggregate Value} {gateway : Gateway S}
    {tables : Tables Value} (sound : gateway.Sound config tables) {call : Nat}
    {execution : Execution S} (found : gateway.calls[call]? = some execution)
    (quiet : Phase.Quiet execution.phase) (reason : S.Error)
    (rejects : ∀ final, S.Serial (stream gateway.log execution.aggregateId) final →
      S.handle final execution.command = .error reason)
    {reply : Except (CommandGatewayError S.Error) Unit → Except ContinuationError Unit}
    (done : reply (.error (.domain reason)) = .ok ()) :
    Repeats config reply tables execution ∧
      ∀ move stepped, execution.step config move tables = some stepped →
        Phase.Quiet stepped.execution.phase := by
  have step : ∀ move stepped, execution.step config move tables = some stepped →
      (stepped.tables = tables ∧ stepped.committed = none ∧
        (move = .fault ∨ (∃ context, stepped.execution.phase = .snapshotRead context) ∨
          ∃ answer, stepped.execution.phase = .returned answer ∧ reply answer = .ok ())) ∧
      Phase.Quiet stepped.execution.phase := by
    intro move stepped moved
    unfold Execution.step at moved
    split at moved
    · obtain rfl := Option.some.inj moved
      exact ⟨⟨rfl, rfl, .inr (.inl ⟨_, rfl⟩)⟩, trivial⟩
    · rename_i context phase
      obtain ⟨state, serial⟩ := sound.store.serial execution.aggregateId
      obtain ⟨_, final, replayed, whole⟩ := sound.store.reads (List.mem_of_getElem? found) phase
      obtain rfl : state = final := Option.some.inj (serial.replay.symm.trans replayed)
      have tail : loadTail context tables = .ok _ := whole
      have rejected := rejects state serial
      obtain rfl := Option.some.inj moved
      simp only [Execution.decideTail, tail, decideCommand, rejected, Execution.finishAttempt]
      exact ⟨⟨trivial, trivial, .inr (.inr ⟨_, rfl, done⟩)⟩, trivial⟩
    · rename_i decision now lost phase
      rw [phase] at quiet
      exact quiet.elim
    · obtain rfl := Option.some.inj moved
      exact ⟨⟨rfl, rfl, .inl rfl⟩, trivial⟩
    · obtain rfl := Option.some.inj moved
      exact ⟨⟨rfl, rfl, .inl rfl⟩, trivial⟩
    · obtain rfl := Option.some.inj moved
      exact ⟨⟨rfl, rfl, .inl rfl⟩, trivial⟩
    · cases moved
  exact ⟨fun move stepped moved => (step move stepped moved).1,
    fun move stepped moved => (step move stepped moved).2⟩

/-- A call after a statement of its gateway: the statement was its own, or it is as before. -/
theorem Gateway.call_move {S : StoredAggregate Value} {gateway : Gateway S} {call index : Nat}
    {move : Move} {tables : Tables Value} {mover execution : Execution S} {stepped : Stepped S}
    (found : gateway.calls[call]? = some mover)
    (moved : mover.step config move tables = some stepped)
    (present : gateway.calls[index]? = some execution) :
    (gateway.calls.set call stepped.execution)[index]? = some execution ∨
      execution.step config move tables = some stepped ∧
        (gateway.calls.set call stepped.execution)[index]? = some stepped.execution := by
  by_cases here : call = index
  · subst here
    obtain rfl := Option.some.inj (found.symm.trans present)
    obtain ⟨inside, _⟩ := List.getElem?_eq_some_iff.mp present
    exact .inr ⟨moved, List.getElem?_set_self inside⟩
  · exact .inl ((List.getElem?_set_ne here).trans present)

theorem Gateway.call_begin {S : StoredAggregate Value} {gateway : Gateway S} {index : Nat}
    {execution : Execution S} (present : gateway.calls[index]? = some execution)
    (aggregateId : String) (command : S.Command) (tasks : List (NewTask Value)) :
    (gateway.begin aggregateId command tasks).calls[index]? = some execution := by
  obtain ⟨inside, _⟩ := List.getElem?_eq_some_iff.mp present
  show (gateway.calls ++ _)[index]? = some execution
  rw [List.getElem?_append_left inside]
  exact present

theorem account_call_step (stepped : ServiceStep config offset sender s t) {index : Nat}
    {execution : Execution wire.accounts} (present : s.accounts.calls[index]? = some execution) :
    t.accounts.calls[index]? = some execution ∨
      ∃ move result, execution.step config move s.tables = some result ∧
        t.accounts.calls[index]? = some result.execution := by
  cases stepped with
  | ended | request | rejected | record | send | finish | queue | settle | reservation =>
    exact .inl present
  | create _ _ task createdAt => exact .inl (Gateway.call_begin present _ _ _)
  | account call move mover result _ found moved =>
    rcases Gateway.call_move found moved present with same | ⟨own, next⟩
    · exact .inl same
    · exact .inr ⟨move, result, own, next⟩

theorem reservation_call_step (stepped : ServiceStep config offset sender s t) {index : Nat}
    {execution : Execution wire.reservations}
    (present : s.reservations.calls[index]? = some execution) :
    t.reservations.calls[index]? = some execution ∨
      ∃ move result, execution.step config move s.tables = some result ∧
        t.reservations.calls[index]? = some result.execution := by
  cases stepped with
  | ended | rejected | create | send | finish | queue | settle | account => exact .inl present
  | request command tasks => exact .inl (Gateway.call_begin present _ _ _)
  | record _ _ task => exact .inl (Gateway.call_begin present _ _ _)
  | reservation call move mover result _ found moved =>
    rcases Gateway.call_move found moved present with same | ⟨own, next⟩
    · exact .inl same
    · exact .inr ⟨move, result, own, next⟩

/-- A quiet call of a creation whose account exists. -/
structure RepeatedCreation (s : ServiceState wire) (call : Nat) (task : CreateAccountTaskV1)
    (execution : Execution wire.accounts) : Prop where
  present : s.accounts.calls[call]? = some execution
  quiet : Phase.Quiet execution.phase
  keyed : execution.aggregateId = task.accountId.toString
  command : ∃ createdAt, execution.command = task.command createdAt
  made : AccountMade s task

theorem RepeatedCreation.repeats (traced : Traced config offset s) {task : CreateAccountTaskV1}
    (valid : task.profile.Valid) {call : Nat} {execution : Execution wire.accounts}
    (repeated : RepeatedCreation s call task execution) :
    Repeats config createAccountReply s.tables execution ∧
      ∀ move stepped, execution.step config move s.tables = some stepped →
        Phase.Quiet stepped.execution.phase := by
  obtain ⟨createdAt, command⟩ := repeated.command
  obtain ⟨_, original, made⟩ := repeated.made
  refine traced.accounts.repeats repeated.present repeated.quiet UserAccountError.alreadyCreated
    (fun final serial => ?_) rfl
  rw [repeated.keyed] at serial
  rw [command]
  suffices exists_ : UserAccount.created final = some (task.event original).account from
    handle_created valid exists_ createdAt
  rcases account_history serial with ⟨none, _⟩ | ⟨_, event, one, present⟩
  · rw [none] at made
    cases made
  · rw [one] at made
    obtain ⟨_, same⟩ := Prod.mk.inj (List.mem_singleton.mp made)
    rw [present, same]

theorem repeatedCreation_step (traced : Traced config offset s)
    (stepped : ServiceStep config offset sender s t) {task : CreateAccountTaskV1}
    (valid : task.profile.Valid) {call : Nat} {execution : Execution wire.accounts}
    (repeated : RepeatedCreation s call task execution) :
    ∃ next, RepeatedCreation t call task next := by
  obtain ⟨command, createdAt, member⟩ := repeated.made
  have made : AccountMade t task := ⟨command, createdAt,
    (stream_mono (continues_step stepped).accounts.log _).subset member⟩
  rcases account_call_step stepped repeated.present with same | ⟨move, result, moved, next⟩
  · exact ⟨execution, same, repeated.quiet, repeated.keyed, repeated.command, made⟩
  · have same := Execution.step_same moved
    refine ⟨result.execution, next, (repeated.repeats traced valid).2 move result moved,
      same.aggregateId.trans repeated.keyed, ?_, made⟩
    rw [same.command]
    exact repeated.command

/-- A quiet call of a record whose reservation is completed. -/
structure RepeatedRecord (s : ServiceState wire) (call : Nat) (task : RecordAccountCreatedTaskV1)
    (execution : Execution wire.reservations) : Prop where
  present : s.reservations.calls[call]? = some execution
  quiet : Phase.Quiet execution.phase
  keyed : execution.aggregateId = task.email.toString
  command : execution.command = task.command
  posted : Posted wire.recordAccountCreated task s.queue.identities
  completed : RegistrationCompleted s task.email

theorem RepeatedRecord.repeats (traced : Traced config offset s) {task : RecordAccountCreatedTaskV1}
    {call : Nat} {execution : Execution wire.reservations}
    (repeated : RepeatedRecord s call task execution) :
    Repeats config recordAccountCreatedReply s.tables execution ∧
      ∀ move stepped, execution.step config move s.tables = some stepped →
        Phase.Quiet stepped.execution.phase := by
  refine traced.reservations.repeats repeated.present repeated.quiet
    EmailReservationError.accountCreationAlreadyCompleted (fun final serial => ?_) rfl
  rw [repeated.keyed] at serial
  rw [repeated.command]
  obtain ⟨digest, creating | created⟩ := traced.record_phase repeated.posted serial
  · obtain ⟨_, _, _, _, final⟩ := reservation_final serial repeated.completed
    rw [creating] at final
    cases final
  · exact handle_recorded created

theorem repeatedRecord_step (traced : Traced config offset s)
    (stepped : ServiceStep config offset sender s t) {task : RecordAccountCreatedTaskV1}
    {call : Nat} {execution : Execution wire.reservations}
    (repeated : RepeatedRecord s call task execution) :
    ∃ next, RepeatedRecord t call task next := by
  have completed : RegistrationCompleted t task.email := Nat.lt_of_lt_of_le repeated.completed
    (stream_mono (continues_step stepped).reservations.log _).sublist.countP_le
  have posted := repeated.posted.mono (identities_grow traced.toServiceSound stepped)
  rcases reservation_call_step stepped repeated.present with same | ⟨move, result, moved, next⟩
  · exact ⟨execution, same, repeated.quiet, repeated.keyed, repeated.command, posted, completed⟩
  · have same := Execution.step_same moved
    exact ⟨result.execution, next, (repeated.repeats traced).2 move result moved,
      same.aggregateId.trans repeated.keyed, same.command.trans repeated.command, posted, completed⟩

theorem repeatedCreation_run
    (reached : (serviceMachine wire config offset clock sender).Reachable s)
    {task : CreateAccountTaskV1} (valid : task.profile.Valid) {call : Nat}
    {execution : Execution wire.accounts} (repeated : RepeatedCreation s call task execution)
    {actions : List (ServiceAction Value)}
    (ran : (serviceMachine wire config offset clock sender).run s actions = some t) :
    ∃ later, RepeatedCreation t call task later := by
  refine reached.run_invariant (P := fun s => ∃ later, RepeatedCreation s call task later) ?_
    ⟨execution, repeated⟩ ran
  rintro s action u before ⟨_, held⟩ moved
  exact repeatedCreation_step (traced_reachable before) (serviceMachine_step moved) valid held

theorem repeatedRecord_run (reached : (serviceMachine wire config offset clock sender).Reachable s)
    {task : RecordAccountCreatedTaskV1} {call : Nat} {execution : Execution wire.reservations}
    (repeated : RepeatedRecord s call task execution) {actions : List (ServiceAction Value)}
    (ran : (serviceMachine wire config offset clock sender).run s actions = some t) :
    ∃ later, RepeatedRecord t call task later := by
  refine reached.run_invariant (P := fun s => ∃ later, RepeatedRecord s call task later) ?_
    ⟨execution, repeated⟩ ran
  rintro s action u before ⟨_, held⟩ moved
  exact repeatedRecord_step (traced_reachable before) (serviceMachine_step moved) held

/-! ### The result -/

/-- The call has still to load its state. -/
def Phase.Unread {S : StoredAggregate Value} : Phase S → Prop
  | .loading => True
  | .snapshotRead _ => True
  | _ => False

instance {S : StoredAggregate Value} (phase : Phase S) : Decidable (Phase.Unread phase) := by
  cases phase <;> unfold Phase.Unread <;> infer_instance

omit [JsonValue Value] in
theorem Phase.Unread.quiet {S : StoredAggregate Value} {phase : Phase S}
    (unread : Phase.Unread phase) : Phase.Quiet phase := by
  cases phase with
  | loading | snapshotRead | returned => trivial
  | decided | panicked => exact unread

/-- **No poison tasks.** Let the generated account IDs not repeat, no reservation come near a snapshot,
and the sender give no permanent answer. Then in every reachable state of the service no delivery has
ended with a permanent error and no call has panicked. Moreover, if the event of a delivered
`CreateAccount` or `RecordAccountCreated` task is stored and the delivery's call has still to load its
state, then after every run from there each statement of that call changes nothing, and if it does not
fail the call reads on or returns, and the delivery ends without error. -/
theorem no_poison_tasks (reached : (serviceMachine wire config offset clock sender).Reachable s)
    (distinct : s.issuedIds.Nodup) (plain : s.PlainReplay config)
    (polite : ∀ reason, sender (.error (.permanent reason)) = false) :
    (∀ delivery ∈ s.deliveries, ∀ reason, delivery.phase ≠ .finished (.error (.permanent reason))) ∧
    ((∀ call ∈ s.reservations.calls, call.phase ≠ .panicked) ∧
      ∀ call ∈ s.accounts.calls, call.phase ≠ .panicked) ∧
    (∀ delivery ∈ s.deliveries, ∀ call execution task, delivery.phase = .creating call →
      s.accounts.calls[call]? = some execution → Phase.Unread execution.phase →
      payloadOf wire.createAccount delivery.task.attempt.format delivery.task.attempt.payload
        = some task →
      storedEvents wire.accounts task.accountId.toString s.tables ≠ [] →
      ∀ actions t, (serviceMachine wire config offset clock sender).run s actions = some t →
        ∃ later, t.accounts.calls[call]? = some later ∧
          Repeats config createAccountReply t.tables later) ∧
    ∀ delivery ∈ s.deliveries, ∀ call execution task, delivery.phase = .recording call →
      s.reservations.calls[call]? = some execution → Phase.Unread execution.phase →
      payloadOf wire.recordAccountCreated delivery.task.attempt.format delivery.task.attempt.payload
        = some task →
      (∃ event ∈ storedEvents wire.reservations task.email.toString s.tables,
        EmailReservation.IsCompletion event) →
      ∀ actions t, (serviceMachine wire config offset clock sender).run s actions = some t →
        ∃ later, t.reservations.calls[call]? = some later ∧
          Repeats config recordAccountCreatedReply t.tables later := by
  have traced := traced_reachable reached
  have handled := handled_reachable reached
  obtain ⟨calm, _, _, deliveries⟩ := unpoisoned_reachable polite reached distinct plain
  refine ⟨deliveries, ⟨calm, ?_⟩, ?_, ?_⟩
  · classical exact account_noPanic (accounts_reachable reached)
  · intro delivery member call execution task phase present unread read stored actions t ran
    have handling := handled.handling delivery member
    simp only [Handling, phase] at handling
    obtain ⟨known, other, createdAt, found, sameRead, keyed, command⟩ := handling
    obtain rfl := Option.some.inj (found.symm.trans present)
    obtain rfl := Option.some.inj (sameRead.symm.trans read)
    have posted := (traced.known.deliveries delivery member).posted read
    obtain ⟨event, first⟩ := List.exists_mem_of_ne_nil _ stored
    have log : storedEvents wire.accounts other.accountId.toString s.tables
        = (stream s.accounts.log other.accountId.toString).map Prod.snd :=
      traced.accounts.store.storedEvents other.accountId.toString
    rw [log] at first
    obtain ⟨⟨original, _⟩, inside, rfl⟩ := List.mem_map.mp first
    obtain ⟨time, rfl⟩ := traced.create_account distinct posted inside
    obtain ⟨identity, row, reads⟩ := posted
    obtain ⟨_, _, valid, _⟩ := traced.createAccount row reads
    have repeated : RepeatedCreation s call other known :=
      ⟨present, unread.quiet, keyed, ⟨createdAt, command⟩, original, time, inside⟩
    obtain ⟨later, held⟩ := repeatedCreation_run reached valid repeated ran
    exact ⟨later, held.present, (held.repeats (traced_reachable (reached.run ran)) valid).1⟩
  · rintro delivery member call execution task phase present unread read ⟨event, stored, completes⟩
      actions t ran
    have handling := handled.handling delivery member
    simp only [Handling, phase] at handling
    obtain ⟨known, other, found, sameRead, keyed, command⟩ := handling
    obtain rfl := Option.some.inj (found.symm.trans present)
    obtain rfl := Option.some.inj (sameRead.symm.trans read)
    have log : storedEvents wire.reservations other.email.toString s.tables
        = (stream s.reservations.log other.email.toString).map Prod.snd :=
      traced.reservations.store.storedEvents other.email.toString
    rw [log] at stored
    obtain ⟨step, inside, rfl⟩ := List.mem_map.mp stored
    have completed : RegistrationCompleted s other.email :=
      List.countP_pos_iff.mpr ⟨step, inside, decide_eq_true completes⟩
    have repeated : RepeatedRecord s call other known := ⟨present, unread.quiet, keyed, command,
      (traced.known.deliveries delivery member).posted read, completed⟩
    obtain ⟨later, held⟩ := repeatedRecord_run reached repeated ran
    exact ⟨later, held.present, (held.repeats (traced_reachable (reached.run ran))).1⟩

end NoPoison

/-! ### A redelivery -/

/-- The service whose sender never gives a permanent answer. -/
abbrev politeService : Machine (ServiceState plainWire) (ServiceAction PlainJson) :=
  serviceMachine plainWire .default (fun _ => 0) 0 fun
    | .error (.permanent _) => false
    | _ => true

/-- The reply of the creation is lost, its lease expires, and the task is delivered again. -/
def redelivery : List (ServiceAction PlainJson) :=
  submission ++ claiming (TaskPayload.format CreateAccountTaskV1) 0 3 11 ++
    [.handle 0 200000000000000 4] ++ committing .account 0 true ++
    [.queue (.tick 1000000000000), .queue (.begin (.recoverExpired 10)), .queue (.lock 1 3),
      .queue (.write 1 3 0 .neutral), .queue (.commit 1 false),
      .queue (.tick 3000000000000)] ++
    claiming (TaskPayload.format CreateAccountTaskV1) 2 3 13 ++ [.handle 1 300000000000000 5]

theorem no_poison_tasks_redelivered :
    let s := politeService.after redelivery (by decide +kernel)
    s.issuedIds = [⟨7⟩] ∧ s.deliveries.map Delivery.phase = [.creating 0, .creating 1] ∧
      ∀ actions t, politeService.run s actions = some t →
        ∃ later, t.accounts.calls[1]? = some later ∧
          Repeats .default createAccountReply t.tables later := by
  intro s
  have plain : s.PlainReplay .default := fun aggregateId => by
    have stored : s.events.length = 4 := by decide +kernel
    have fewer : (ownEvents plainWire.reservations aggregateId s.tables).length ≤ s.events.length :=
      List.length_filter_le _ _
    show _ + 1 < 25
    omega
  have late := (no_poison_tasks (Machine.reachable_after redelivery (by decide +kernel))
    (by decide +kernel) plain fun _ => rfl).2.2.1
  let delivery := s.deliveries[1]?.get (by decide +kernel)
  let execution := s.accounts.calls[1]?.get (by decide +kernel)
  have present : s.deliveries[1]? = some delivery := (Option.some_get _).symm
  have found : s.accounts.calls[1]? = some execution := (Option.some_get _).symm
  have unread : Phase.Unread execution.phase := by decide +kernel
  exact ⟨by decide +kernel, by decide +kernel, late delivery (List.mem_of_getElem? present) 1
    execution ⟨⟨"ann@example.com"⟩, ⟨7⟩, ⟨"Ann", "Lee", 0, 2⟩⟩ (by decide +kernel) found unread
    (by decide +kernel) (by decide +kernel)⟩

end AccountManagement.Service
