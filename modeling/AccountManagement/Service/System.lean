/-
**The service: requests, command attempts, the outbox and its deliveries.**

One machine for the whole registration service. Clients make requests; every request and every
delivered continuation makes one call of a command gateway; the statements of all calls interleave
over shared tables; tasks are claimed, handled, settled, recovered and requeued by any number of
processes. A reply can be lost after its commit, a call or a delivery that is dropped never moves
again, and a completion is asked for only after the handler returned without error.

* `serviceMachine_step` is the inversion of a step.
* `serviceSound_reachable`: the invariants of the queue and of both event stores hold together,
  since a step of the service is a step of each of them, or is foreign to it.
-/

import AccountManagement.Domain.Histories
import AccountManagement.Runtime.Deliveries
import AccountManagement.Service.UseCases
import AccountManagement.Store.Answers

namespace AccountManagement.Service

open AccountManagement.Library AccountManagement.Task AccountManagement.Domain
open AccountManagement.Store AccountManagement.Outbox AccountManagement.Runtime

/-! ### Requests -/

/-- A request of a client, with the values that are generated for it. -/
inductive ClientRequest where
  | reserve (email : Email) (accountId : UserAccountId) (verificationCode : Nat)
  | reissue (email : Email) (accountId : UserAccountId) (verificationCode : Nat)
  | confirm (email : Email) (accountId : UserAccountId) (code : Nat)
      (accountCreationToken : String)
  | submit (submission : ProfileSubmission) (now : DateTime)
deriving DecidableEq

/-- The one call of an operation that does not end by itself. -/
def UseCase.call {Value Command Error Result : Type} [JsonValue Value] :
    UseCase Value Command Error Result → Option (Command × List (NewTask Value))
  | .ends _ => none
  | .calls command tasks _ => some (command, tasks)

section System

variable {Value : Type} [JsonValue Value] (wire : Wire Value)

def ClientRequest.call (taskId : Uuid) :
    ClientRequest → Option (EmailReservationCommand × List (NewTask Value))
  | .reserve email accountId code => (reserveEmail wire accountId code taskId email).call
  | .reissue email accountId code =>
    (requestNewVerificationCode wire accountId code taskId email).call
  | .confirm email accountId code token => (confirmEmail wire token email accountId code).call
  | .submit submission now => (submitProfile wire now taskId submission).call

/-- **The commands of the clients** and the tasks they carry. -/
inductive Requested : EmailReservationCommand → List (NewTask Value) → Prop
  | reserve (taskId : Uuid) (email : Email) (accountId : UserAccountId) (code : Nat) :
      Requested (.reserveEmail email accountId code)
        [taskOf wire.sendVerificationCode taskId ⟨email, accountId, code⟩]
  | reissue (taskId : Uuid) (email : Email) (accountId : UserAccountId) (code : Nat) :
      Requested (.requestVerificationCode email accountId code)
        [taskOf wire.sendVerificationCode taskId ⟨email, accountId, code⟩]
  | confirm (email : Email) (accountId : UserAccountId) (code : Nat) (digest : String) :
      Requested (.verifyEmail email accountId code digest) []
  | submit (taskId : Uuid) (email : Email) (accountId : UserAccountId) (digest : String)
      (profile : RegistrationProfile) :
      RegistrationProfile.new profile.firstName profile.lastName profile.dateOfBirth
        profile.validationDate = profile →
      Requested (.submitRegistrationProfile email accountId digest profile)
        [taskOf wire.createAccount taskId ⟨email, accountId, profile⟩]

theorem ClientRequest.call_some {taskId : Uuid} {request : ClientRequest}
    {command : EmailReservationCommand} {tasks : List (NewTask Value)}
    (called : request.call wire taskId = some (command, tasks)) : Requested wire command tasks := by
  cases request with
  | reserve email accountId code =>
    simp only [call, reserveEmail, newTask_eq] at called
    obtain ⟨rfl, rfl⟩ := Prod.mk.inj (Option.some.inj called)
    exact .reserve taskId email accountId code
  | reissue email accountId code =>
    simp only [call, requestNewVerificationCode, newTask_eq] at called
    obtain ⟨rfl, rfl⟩ := Prod.mk.inj (Option.some.inj called)
    exact .reissue taskId email accountId code
  | confirm email accountId code token =>
    simp only [call, confirmEmail] at called
    split at called
    · cases called
    · obtain ⟨rfl, rfl⟩ := Prod.mk.inj (Option.some.inj called)
      exact .confirm email accountId code _
  | submit submission now =>
    simp only [call, submitProfile, newTask_eq] at called
    obtain ⟨rfl, rfl⟩ := Prod.mk.inj (Option.some.inj called)
    exact .submit taskId _ _ _ _ (RegistrationProfile.new_new _ _ _ _)

/-! ### The state -/

/-- The commits and the calls of one command gateway. -/
structure Gateway (S : StoredAggregate Value) where
  log : List (Commit S)
  calls : List (Execution S)

/-- Where the handling of a delivery is. -/
inductive HandlerPhase where
  | waiting
  | recording (call : Nat)
  | creating (call : Nat)
  | sending
  | finished (result : HandlerResult)
  | settled
deriving DecidableEq

/-- The tables, with the outbox inside the queue; both gateways; and the deliveries. -/
structure ServiceState where
  queue : QueueState Value
  events : List (EventRow Value)
  snapshots : List (SnapshotRow Value)
  reservations : Gateway wire.reservations
  accounts : Gateway wire.accounts
  deliveries : List (Delivery Value HandlerPhase)

/-- How the handling of a delivery ends: the handler returns, the sender answers, the handler is
stopped at its deadline, or the lease leaves no time to start it. -/
inductive Ending where
  | returned
  | sent (result : HandlerResult)
  | timedOut
  | skipped

variable (Value) in
inductive ServiceAction where
  | request (request : ClientRequest) (taskId : Uuid)
  | reservation (call : Nat) (move : Move)
  | account (call : Nat) (move : Move)
  | queue (action : QueueAction Value)
  | handle (index : Nat) (now : DateTime) (taskId : Uuid)
  | finish (index : Nat) (ending : Ending)
  | settle (index : Nat) (jitter : Jitter)

def Gateway.begin {S : StoredAggregate Value} (gateway : Gateway S) (aggregateId : String)
    (command : S.Command) (tasks : List (NewTask Value)) : Gateway S :=
  { gateway with calls := gateway.calls ++ [.begin aggregateId command tasks] }

/-- One statement of a call. -/
def Gateway.move {S : StoredAggregate Value} (config : PostgresCommandConfig) (gateway : Gateway S)
    (call : Nat) (move : Move) (tables : Tables Value) : Option (Tables Value × Gateway S) := do
  let execution ← gateway.calls[call]?
  let stepped ← execution.step config move tables
  return (stepped.tables, ⟨gateway.log ++ stepped.committed.toList,
    gateway.calls.set call stepped.execution⟩)

namespace ServiceState

variable {wire} (s : ServiceState wire)

def tables : Tables Value := ⟨s.events, s.snapshots, s.queue.rows⟩

def setTables (tables : Tables Value) : ServiceState wire :=
  { s with
    queue := { s.queue with rows := tables.outbox }
    events := tables.events
    snapshots := tables.snapshots }

/-- A write happens at the present reading of the database clock. -/
def isTimely : Move → Bool
  | .write now _ => now = s.queue.clock
  | _ => true

/-- Tasks are published only by commits, and only deliveries are settled. -/
def permits : QueueAction Value → Bool
  | .publish _ _ _ => false
  | .begin (.settle _ _) => false
  | _ => true

def setPhase (index : Nat) (delivery : Delivery Value HandlerPhase) (phase : HandlerPhase) :
    ServiceState wire :=
  { s with deliveries := s.deliveries.set index { delivery with phase } }

def reserve (command : EmailReservationCommand) (tasks : List (NewTask Value)) :
    ServiceState wire :=
  { s with reservations := s.reservations.begin command.email.toString command tasks }

def create (command : UserAccountCommand) (tasks : List (NewTask Value)) : ServiceState wire :=
  { s with accounts := s.accounts.begin command.accountId.toString command tasks }

/-- The handler of a delivery starts. -/
def handle (index : Nat) (delivery : Delivery Value HandlerPhase) :
    Dispatch Value → ServiceState wire
  | .answers result => s.setPhase index delivery (.finished result)
  | .sends _ => s.setPhase index delivery .sending
  | .reservation (.ends result) =>
    s.setPhase index delivery (.finished (result.mapError deliveryError))
  | .reservation (.calls command tasks _) =>
    (s.reserve command tasks).setPhase index delivery (.recording s.reservations.calls.length)
  | .account (.ends result) =>
    s.setPhase index delivery (.finished (result.mapError deliveryError))
  | .account (.calls command tasks _) =>
    (s.create command tasks).setPhase index delivery (.creating s.accounts.calls.length)

/-- The result of a handler, where its ending is possible. -/
def result (sender : HandlerResult → Bool) : HandlerPhase → Ending → Option HandlerResult
  | .waiting, .skipped => some insufficientLease
  | .recording call, .returned => do
    let execution ← s.reservations.calls[call]?
    match execution.phase with
    | .returned answer => return (recordAccountCreatedReply answer).mapError deliveryError
    | _ => none
  | .creating call, .returned => do
    let execution ← s.accounts.calls[call]?
    match execution.phase with
    | .returned answer => return (createAccountReply answer).mapError deliveryError
    | _ => none
  | .sending, .sent result => if sender result then some result else none
  | .recording _, .timedOut => some handlerTimedOut
  | .creating _, .timedOut => some handlerTimedOut
  | .sending, .timedOut => some handlerTimedOut
  | _, _ => none

end ServiceState

/-! ### The machine -/

/-- The service. `sender` says what the sender of codes may answer, and `offset` what the clock of a
process is ahead of the database clock. -/
def serviceMachine (config : PostgresCommandConfig) (offset : String → Int) (clock : DateTime)
    (sender : HandlerResult → Bool) : Machine (ServiceState wire) (ServiceAction Value) where
  start := ⟨(queueMachine Value offset clock).start, [], [], ⟨[], []⟩, ⟨[], []⟩, []⟩
  step s
    | .request request taskId =>
      match request.call wire taskId with
      | none => some s
      | some (command, tasks) => some (s.reserve command tasks)
    | .reservation call move =>
      if s.isTimely move then do
        let (tables, reservations) ← s.reservations.move config call move s.tables
        return { s.setTables tables with reservations }
      else none
    | .account call move =>
      if s.isTimely move then do
        let (tables, accounts) ← s.accounts.move config call move s.tables
        return { s.setTables tables with accounts }
      else none
    | .queue action =>
      if ServiceState.permits action then do
        let queue ← (queueMachine Value offset clock).step s.queue action
        return { s with queue, deliveries := s.deliveries ++ arrivals .waiting queue action }
      else none
    | .handle index now taskId => do
      let delivery ← s.deliveries[index]?
      match delivery.phase with
      | .waiting => return s.handle index delivery (dispatch wire now taskId delivery.task.attempt)
      | _ => none
    | .finish index ending => do
      let delivery ← s.deliveries[index]?
      let result ← s.result sender delivery.phase ending
      return s.setPhase index delivery (.finished result)
    | .settle index jitter => do
      let delivery ← s.deliveries[index]?
      match delivery.phase with
      | .finished result =>
        let request := settlementRequest result
          (fallbackDelay result delivery.task.attempt.number jitter)
        let queue ← (queueMachine Value offset clock).step s.queue
          (.begin (.settle delivery.task request))
        return ({ s with queue }).setPhase index delivery .settled
      | _ => none

variable {wire}

/-- What the end of a handler says. -/
inductive HandlerEnd (sender : HandlerResult → Bool) (s : ServiceState wire)
    (delivery : Delivery Value HandlerPhase) : HandlerResult → Prop
  | stopped (reason : String) : HandlerEnd sender s delivery (.error (.retry reason none))
  | recorded (call : Nat) (execution : Execution wire.reservations)
      (answer : Except (CommandGatewayError EmailReservationError) Unit) :
      delivery.phase = .recording call → s.reservations.calls[call]? = some execution →
      execution.phase = .returned answer →
      HandlerEnd sender s delivery ((recordAccountCreatedReply answer).mapError deliveryError)
  | created (call : Nat) (execution : Execution wire.accounts)
      (answer : Except (CommandGatewayError UserAccountError) Unit) :
      delivery.phase = .creating call → s.accounts.calls[call]? = some execution →
      execution.phase = .returned answer →
      HandlerEnd sender s delivery ((createAccountReply answer).mapError deliveryError)
  | sent (result : HandlerResult) : delivery.phase = .sending → sender result = true →
      HandlerEnd sender s delivery result

theorem ServiceState.result_some {sender : HandlerResult → Bool} {s : ServiceState wire}
    {delivery : Delivery Value HandlerPhase} {ending : Ending} {result : HandlerResult}
    (ended : s.result sender delivery.phase ending = some result) :
    HandlerEnd sender s delivery result := by
  unfold ServiceState.result at ended
  split at ended
  · obtain rfl := Option.some.inj ended
    exact .stopped _
  · rename_i call phase
    obtain ⟨execution, found, ended⟩ := Option.bind_eq_some_iff.mp ended
    split at ended
    · rename_i answer returned
      obtain rfl := Option.some.inj ended
      exact .recorded call execution answer phase found returned
    · cases ended
  · rename_i call phase
    obtain ⟨execution, found, ended⟩ := Option.bind_eq_some_iff.mp ended
    split at ended
    · rename_i answer returned
      obtain rfl := Option.some.inj ended
      exact .created call execution answer phase found returned
    · cases ended
  · rename_i phase
    split at ended
    · rename_i allowed
      obtain rfl := Option.some.inj ended
      exact .sent _ phase allowed
    · cases ended
  · obtain rfl := Option.some.inj ended
    exact .stopped _
  · obtain rfl := Option.some.inj ended
    exact .stopped _
  · obtain rfl := Option.some.inj ended
    exact .stopped _
  · cases ended

/-- **Everything a step of the service can do.** -/
inductive ServiceStep (config : PostgresCommandConfig) (offset : String → Int)
    (sender : HandlerResult → Bool) (s : ServiceState wire) : ServiceState wire → Prop
  | ended : ServiceStep config offset sender s s
  | request (command : EmailReservationCommand) (tasks : List (NewTask Value)) :
      Requested wire command tasks →
      ServiceStep config offset sender s (s.reserve command tasks)
  | reservation (call : Nat) (move : Move) (execution : Execution wire.reservations)
      (stepped : Stepped wire.reservations) : s.isTimely move = true →
      s.reservations.calls[call]? = some execution →
      execution.step config move s.tables = some stepped →
      ServiceStep config offset sender s { s.setTables stepped.tables with
        reservations := ⟨s.reservations.log ++ stepped.committed.toList,
          s.reservations.calls.set call stepped.execution⟩ }
  | account (call : Nat) (move : Move) (execution : Execution wire.accounts)
      (stepped : Stepped wire.accounts) : s.isTimely move = true →
      s.accounts.calls[call]? = some execution →
      execution.step config move s.tables = some stepped →
      ServiceStep config offset sender s { s.setTables stepped.tables with
        accounts := ⟨s.accounts.log ++ stepped.committed.toList,
          s.accounts.calls.set call stepped.execution⟩ }
  | queue (action : QueueAction Value) (after : QueueState Value) :
      ServiceState.permits action = true → QueueStep offset s.queue action after →
      ServiceStep config offset sender s
        { s with queue := after, deliveries := s.deliveries ++ arrivals .waiting after action }
  | rejected (index : Nat) (delivery : Delivery Value HandlerPhase) (reason : String)
      (now : DateTime) (taskId : Uuid) : s.deliveries[index]? = some delivery →
      delivery.phase = .waiting →
      dispatch wire now taskId delivery.task.attempt = .answers (.error (.permanent reason)) →
      ServiceStep config offset sender s
        (s.setPhase index delivery (.finished (.error (.permanent reason))))
  | record (index : Nat) (delivery : Delivery Value HandlerPhase)
      (task : RecordAccountCreatedTaskV1) : s.deliveries[index]? = some delivery →
      delivery.phase = .waiting → payloadOf wire.recordAccountCreated delivery.task.attempt.format
        delivery.task.attempt.payload = some task →
      ServiceStep config offset sender s ((s.reserve task.command []).setPhase index delivery
        (.recording s.reservations.calls.length))
  | create (index : Nat) (delivery : Delivery Value HandlerPhase) (task : CreateAccountTaskV1)
      (createdAt : DateTime) (taskId : Uuid) : s.deliveries[index]? = some delivery →
      delivery.phase = .waiting → payloadOf wire.createAccount delivery.task.attempt.format
        delivery.task.attempt.payload = some task →
      ServiceStep config offset sender s ((s.create (task.command createdAt)
        [taskOf wire.recordAccountCreated taskId (task.completion createdAt)]).setPhase index
          delivery (.creating s.accounts.calls.length))
  | send (index : Nat) (delivery : Delivery Value HandlerPhase) :
      s.deliveries[index]? = some delivery → delivery.phase = .waiting →
      delivery.task.attempt.format = TaskPayload.format SendVerificationCodeTaskV1 →
      ServiceStep config offset sender s (s.setPhase index delivery .sending)
  | finish (index : Nat) (delivery : Delivery Value HandlerPhase) (result : HandlerResult) :
      s.deliveries[index]? = some delivery → HandlerEnd sender s delivery result →
      ServiceStep config offset sender s (s.setPhase index delivery (.finished result))
  | settle (index : Nat) (delivery : Delivery Value HandlerPhase) (result : HandlerResult)
      (delay : Duration) (after : QueueState Value) : s.deliveries[index]? = some delivery →
      delivery.phase = .finished result →
      QueueStep offset s.queue (.begin (.settle delivery.task (settlementRequest result delay)))
        after →
      ServiceStep config offset sender s (({ s with queue := after }).setPhase index delivery
        .settled)

theorem Gateway.move_some {S : StoredAggregate Value} {config : PostgresCommandConfig}
    {gateway : Gateway S} {call : Nat} {move : Move} {tables : Tables Value}
    {moved : Tables Value × Gateway S}
    (stepped : gateway.move config call move tables = some moved) :
    ∃ execution result, gateway.calls[call]? = some execution ∧
      execution.step config move tables = some result ∧
      moved = (result.tables, ⟨gateway.log ++ result.committed.toList,
        gateway.calls.set call result.execution⟩) := by
  obtain ⟨execution, found, stepped⟩ := Option.bind_eq_some_iff.mp stepped
  obtain ⟨result, ran, stepped⟩ := Option.bind_eq_some_iff.mp stepped
  exact ⟨execution, result, found, ran, (Option.some.inj stepped).symm⟩

variable {config : PostgresCommandConfig} {offset : String → Int} {clock : DateTime}
  {sender : HandlerResult → Bool} {s t : ServiceState wire}

/-- A dispatched delivery. -/
theorem ServiceState.handle_step {index : Nat} {delivery : Delivery Value HandlerPhase}
    (present : s.deliveries[index]? = some delivery) (waiting : delivery.phase = .waiting)
    (now : DateTime) (taskId : Uuid) : ServiceStep config offset sender s
      (s.handle index delivery (dispatch wire now taskId delivery.task.attempt)) := by
  have cases := dispatch_cases wire now taskId delivery.task.attempt
  generalize dispatched : dispatch wire now taskId delivery.task.attempt = result at cases ⊢
  cases cases with
  | rejected reason => exact .rejected index delivery reason now taskId present waiting dispatched
  | account task payload => exact .create index delivery task now taskId present waiting payload
  | reservation task payload => exact .record index delivery task present waiting payload
  | sends message format => exact .send index delivery present waiting format

theorem serviceMachine_step {action : ServiceAction Value}
    (stepped : (serviceMachine wire config offset clock sender).step s action = some t) :
    ServiceStep config offset sender s t := by
  cases action with
  | request request taskId =>
    simp only [serviceMachine] at stepped
    split at stepped
    · obtain rfl := Option.some.inj stepped
      exact .ended
    · rename_i command tasks called
      obtain rfl := Option.some.inj stepped
      exact .request command tasks (ClientRequest.call_some wire called)
  | reservation call move =>
    simp only [serviceMachine] at stepped
    split at stepped
    · rename_i timely
      obtain ⟨moved, ran, stepped⟩ := Option.bind_eq_some_iff.mp stepped
      obtain ⟨execution, result, found, effect, rfl⟩ := Gateway.move_some ran
      obtain rfl := Option.some.inj stepped
      exact .reservation call move execution result timely found effect
    · cases stepped
  | account call move =>
    simp only [serviceMachine] at stepped
    split at stepped
    · rename_i timely
      obtain ⟨moved, ran, stepped⟩ := Option.bind_eq_some_iff.mp stepped
      obtain ⟨execution, result, found, effect, rfl⟩ := Gateway.move_some ran
      obtain rfl := Option.some.inj stepped
      exact .account call move execution result timely found effect
    · cases stepped
  | queue action =>
    simp only [serviceMachine] at stepped
    split at stepped
    · rename_i permitted
      obtain ⟨after, moved, stepped⟩ := Option.bind_eq_some_iff.mp stepped
      obtain rfl := Option.some.inj stepped
      exact .queue action after permitted (queueMachine_step moved)
    · cases stepped
  | handle index now taskId =>
    obtain ⟨delivery, present, stepped⟩ := Option.bind_eq_some_iff.mp stepped
    split at stepped
    · rename_i waiting
      obtain rfl := Option.some.inj stepped
      exact ServiceState.handle_step present waiting now taskId
    · cases stepped
  | finish index ending =>
    obtain ⟨delivery, present, stepped⟩ := Option.bind_eq_some_iff.mp stepped
    obtain ⟨result, ended, stepped⟩ := Option.bind_eq_some_iff.mp stepped
    obtain rfl := Option.some.inj stepped
    exact .finish index delivery result present (ServiceState.result_some ended)
  | settle index jitter =>
    obtain ⟨delivery, present, stepped⟩ := Option.bind_eq_some_iff.mp stepped
    split at stepped
    · rename_i result finished
      obtain ⟨after, moved, stepped⟩ := Option.bind_eq_some_iff.mp stepped
      obtain rfl := Option.some.inj stepped
      exact .settle index delivery result _ after present finished (queueMachine_step moved)
    · cases stepped

/-! ### The invariants of the parts -/

/-- A statement of a call, seen from the queue and from the primary keys. -/
theorem ServiceState.move_sound {S : StoredAggregate Value} {execution : Execution S} {move : Move}
    {stepped : Stepped S} (sound : QueueSound offset s.queue) (keyed : s.tables.Keyed)
    (timely : s.isTimely move = true)
    (moved : execution.step config move s.tables = some stepped) :
    QueueSound offset (s.setTables stepped.tables).queue ∧ stepped.tables.Keyed := by
  rcases Execution.step_effect moved with
    ⟨same, _⟩ | ⟨aggregateId, sequence, event, write, now, lost, rfl, done, _⟩
  · rw [same]
    exact ⟨sound, keyed⟩
  · obtain rfl : now = s.queue.clock := of_decide_eq_true timely
    exact ⟨sound.publish done.inserted, done.keyed keyed⟩

/-- The queue and the primary keys are sound. -/
def ServiceState.Sound (offset : String → Int) (s : ServiceState wire) : Prop :=
  QueueSound offset s.queue ∧ s.tables.Keyed

theorem ServiceState.sound_step (sound : s.Sound offset)
    (stepped : ServiceStep config offset sender s t) : t.Sound offset := by
  obtain ⟨queue, keyed⟩ := sound
  cases stepped with
  | ended | request | rejected | record | create | send | finish => exact ⟨queue, keyed⟩
  | reservation call move execution result timely _ moved =>
    exact ServiceState.move_sound queue keyed timely moved
  | account call move execution result timely _ moved =>
    exact ServiceState.move_sound queue keyed timely moved
  | queue action after _ moved =>
    have after := queueSound_step queue moved
    exact ⟨after, keyed.events, keyed.snapshots, after.keyed⟩
  | settle index delivery result delay after _ _ moved =>
    have after := queueSound_step queue moved
    exact ⟨after, keyed.events, keyed.snapshots, after.keyed⟩

theorem ServiceState.sound_reachable
    (reached : (serviceMachine wire config offset clock sender).Reachable s) : s.Sound offset := by
  refine reached.invariant (P := ServiceState.Sound offset) ?_ fun _ _ _ _ sound stepped =>
    ServiceState.sound_step sound (serviceMachine_step stepped)
  have queue : QueueSound offset (queueMachine Value offset clock).start :=
    queueSound_reachable .start
  exact ⟨queue, List.nodup_nil, List.nodup_nil, List.nodup_nil⟩

/-- A gateway with the tables is a store. -/
def Gateway.view {S : StoredAggregate Value} (gateway : Gateway S) (tables : Tables Value) :
    StoreState S :=
  ⟨tables, gateway.log, gateway.calls⟩

theorem Gateway.view_foreign [DecidableEq Value] {S : StoredAggregate Value} (gateway : Gateway S)
    {before after : Tables Value} (untouched : Untouched S before after) (keyed : after.Keyed) :
    ∃ action, (storeMachine S config).step (gateway.view before) action
      = some (gateway.view after) :=
  ⟨.foreign after, if_pos ⟨untouched, keyed⟩⟩

/-- A statement of a call of another aggregate type. -/
theorem ServiceState.move_untouched {S T : StoredAggregate Value} {execution : Execution S}
    {move : Move} {tables : Tables Value} {stepped : Stepped S}
    (other : S.typeName ≠ T.typeName)
    (moved : execution.step config move tables = some stepped) :
    Untouched T tables stepped.tables := by
  rcases Execution.step_effect moved with ⟨same, _⟩ | ⟨_, _, _, _, _, _, _, done, _⟩
  · rw [same]
    exact ⟨rfl, rfl⟩
  · exact done.untouched other

theorem Wire.types_differ (wire : Wire Value) :
    wire.reservations.typeName ≠ wire.accounts.typeName := by
  show "email_reservation" ≠ "user_account"
  decide

/-- **The reservations are a store**: every step of the service is a step of it, or foreign. -/
theorem reservations_reachable [DecidableEq Value]
    (reached : (serviceMachine wire config offset clock sender).Reachable s) :
    (storeMachine wire.reservations config).Reachable (s.reservations.view s.tables) := by
  refine reached.simulate (n := storeMachine wire.reservations config)
    (fun s => s.reservations.view s.tables) rfl fun s action t before moved => ?_
  have keyed := (ServiceState.sound_reachable (before.step action moved)).2
  cases serviceMachine_step moved with
  | ended | rejected | create | send | finish => exact .inl rfl
  | request command tasks _ => exact .inr ⟨.start command.email.toString command tasks, rfl⟩
  | record index delivery task _ _ _ =>
    exact .inr ⟨.start task.email.toString task.command [], rfl⟩
  | reservation call move execution stepped _ found ran =>
    exact .inr ⟨.act call move, storeMachine_act (s := s.reservations.view s.tables) found ran⟩
  | account call move execution stepped _ _ ran =>
    have untouched :=
      ServiceState.move_untouched (T := wire.reservations) wire.types_differ.symm ran
    exact .inr (Gateway.view_foreign s.reservations untouched keyed)
  | queue action after => exact .inr (Gateway.view_foreign s.reservations ⟨rfl, rfl⟩ keyed)
  | settle => exact .inr (Gateway.view_foreign s.reservations ⟨rfl, rfl⟩ keyed)

/-- **The accounts are a store.** -/
theorem accounts_reachable [DecidableEq Value]
    (reached : (serviceMachine wire config offset clock sender).Reachable s) :
    (storeMachine wire.accounts config).Reachable (s.accounts.view s.tables) := by
  refine reached.simulate (n := storeMachine wire.accounts config)
    (fun s => s.accounts.view s.tables) rfl fun s action t before moved => ?_
  have keyed := (ServiceState.sound_reachable (before.step action moved)).2
  cases serviceMachine_step moved with
  | ended | request | rejected | record | send | finish => exact .inl rfl
  | create index delivery task createdAt taskId _ _ _ =>
    exact .inr ⟨.start task.accountId.toString (task.command createdAt) _, rfl⟩
  | account call move execution stepped _ found ran =>
    exact .inr ⟨.act call move, storeMachine_act (s := s.accounts.view s.tables) found ran⟩
  | reservation call move execution stepped _ _ ran =>
    have untouched := ServiceState.move_untouched (T := wire.accounts) wire.types_differ ran
    exact .inr (Gateway.view_foreign s.accounts untouched keyed)
  | queue action after => exact .inr (Gateway.view_foreign s.accounts ⟨rfl, rfl⟩ keyed)
  | settle => exact .inr (Gateway.view_foreign s.accounts ⟨rfl, rfl⟩ keyed)

/-- What is known of a gateway: its store is sound, and its answers are true. -/
structure Gateway.Sound {S : StoredAggregate Value} (config : PostgresCommandConfig)
    (gateway : Gateway S) (tables : Tables Value) : Prop where
  store : StoreSound config (gateway.view tables)
  answers : AnswersSound (gateway.view tables)

structure ServiceSound (config : PostgresCommandConfig) (offset : String → Int)
    (s : ServiceState wire) : Prop where
  queue : QueueSound offset s.queue
  reservations : s.reservations.Sound config s.tables
  accounts : s.accounts.Sound config s.tables

/-- **The invariants of the queue and of both stores**, in every reachable state. -/
theorem serviceSound_reachable
    (reached : (serviceMachine wire config offset clock sender).Reachable s) :
    ServiceSound config offset s := by
  classical
  have reservations := reservations_reachable reached
  have accounts := accounts_reachable reached
  exact {
    queue := (ServiceState.sound_reachable reached).1
    reservations := ⟨storeSound_reachable emailReservation_repeatSafe reservations,
      answersSound_reachable emailReservation_repeatSafe emailReservation_neverSilent
        reservations⟩
    accounts := ⟨storeSound_reachable userAccount_repeatTolerant.repeatSafe accounts,
      answersSound_reachable userAccount_repeatTolerant.repeatSafe userAccount_neverSilent
        accounts⟩ }

end System

/-! ### A registration -/

/-- The statements of a call that commits. -/
def committing (action : Nat → Move → ServiceAction PlainJson) (call : Nat) (lost : Bool) :
    List (ServiceAction PlainJson) :=
  [action call (.readSnapshot 0), action call .readTail, action call (.write 0 lost)]

/-- The claim of one task. -/
def claiming (format : TaskFormat) (transaction : Nat) (id token : Uuid) :
    List (ServiceAction PlainJson) :=
  let lease : Duration := .fromSecs 60
  [.queue (.begin (.claim format "worker" 1 lease 0 60000000000)), .queue (.lock transaction id),
    .queue (.write transaction id token .neutral),
    .queue (.commit transaction false)]

/-- The settlement of a finished delivery. -/
def settling (delivery transaction : Nat) (id : Uuid) : List (ServiceAction PlainJson) :=
  [.settle delivery .neutral, .queue (.lock transaction id),
    .queue (.write transaction id 0 .neutral),
    .queue (.commit transaction false)]

/-- A registration up to the acceptance of its profile. The reply of the confirmation is lost, and
the profile is submitted twice at once. -/
def submission : List (ServiceAction PlainJson) :=
  let email : Email := ⟨"ann@example.com"⟩
  let profile : ProfileSubmission := ⟨email, ⟨7⟩, "token", " Ann", "Lee ", 0⟩
  [.request (.reserve email ⟨7⟩ 1234567) 1] ++ committing .reservation 0 false ++
    [.request (.confirm email ⟨7⟩ 1234567 "token") 0] ++ committing .reservation 1 true ++
    [.request (.submit profile 86400000000000) 2, .request (.submit profile 172800000000000) 3,
      .reservation 2 (.readSnapshot 0), .reservation 3 (.readSnapshot 0), .reservation 2 .readTail,
      .reservation 3 .readTail, .reservation 3 (.write 0 false), .reservation 2 (.write 0 false)]

/-- The creation of its account, and the settlement of the task. -/
def creation : List (ServiceAction PlainJson) :=
  claiming (TaskPayload.format CreateAccountTaskV1) 0 3 11 ++ [.handle 0 200000000000000 4] ++
    committing .account 0 false ++ [.finish 0 .returned] ++ settling 0 1 3

/-- The record of the creation, and the settlement of the task. -/
def completion : List (ServiceAction PlainJson) :=
  claiming (TaskPayload.format RecordAccountCreatedTaskV1) 2 4 12 ++ [.handle 1 0 0] ++
    committing .reservation 4 false ++ [.finish 1 .returned] ++ settling 1 3 4

/-- The service with the simplest wire, where every clock agrees. -/
abbrev plainService : Machine (ServiceState plainWire) (ServiceAction PlainJson) :=
  serviceMachine plainWire .default (fun _ => 0) 0 fun _ => true

/-- Every step of the registration is enabled. -/
theorem registration_enabled :
    (plainService.run plainService.start (submission ++ creation ++ completion)).isSome = true := by
  decide +kernel

end AccountManagement.Service
