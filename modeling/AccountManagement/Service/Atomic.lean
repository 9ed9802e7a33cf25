/-
**The service refines a service with atomic commands.**

The specification of the registration service: clients make requests, the queue moves as it does,
and every command of a request or of a continuation takes effect at one instant, on the whole
history of its aggregate, together with the tasks it posts. It has no snapshots, no attempts, no
reads and no retries, and does not depend on the configuration of the command gateways.

* `ServiceState.atomic_step`: a step of the service is a step of the specification, or not seen.
* `service_refines_atomic`: so the states of every run are, seen from the histories, the answers,
  the queue and the deliveries, a run of the specification.
-/

import AccountManagement.Library.Refinement
import AccountManagement.Service.System
import AccountManagement.Store.Atomic

namespace AccountManagement.Service

open AccountManagement.Library AccountManagement.Task AccountManagement.Domain
open AccountManagement.Store AccountManagement.Outbox AccountManagement.Runtime
open Relation (ReflGen)

section Atomic

variable {Value : Type} [JsonValue Value]

/-! ### The specification -/

/-- The queue, the two gateways and the deliveries. -/
structure AtomicService (wire : Wire Value) where
  queue : QueueState Value
  reservations : AtomicGateway wire.reservations
  accounts : AtomicGateway wire.accounts
  deliveries : List (Delivery Value HandlerPhase)

variable {wire : Wire Value}

namespace AtomicService

/-- Nothing is stored and nobody has called. -/
def start (wire : Wire Value) (offset : String → Int) (clock : DateTime) : AtomicService wire :=
  ⟨(queueMachine Value offset clock).start, ⟨fun _ => [], []⟩, ⟨fun _ => [], []⟩, []⟩

variable (s : AtomicService wire)

def setPhase (index : Nat) (delivery : Delivery Value HandlerPhase) (phase : HandlerPhase) :
    AtomicService wire :=
  { s with deliveries := s.deliveries.set index { delivery with phase } }

def reserve (command : EmailReservationCommand) (tasks : List (NewTask Value)) :
    AtomicService wire :=
  { s with reservations := s.reservations.begin command.email.toString command tasks }

def create (command : UserAccountCommand) (tasks : List (NewTask Value)) : AtomicService wire :=
  { s with accounts := s.accounts.begin command.accountId.toString command tasks }

/-- How the handler of a delivery ends: it is stopped, its call was answered, or its message was
sent. -/
inductive HandlerEnds (sender : HandlerResult → Bool) (phase : HandlerPhase) :
    HandlerResult → Prop
  | stopped (reason : String) : HandlerEnds sender phase (.error (.retry reason none))
  | recorded (index : Nat) (call : AtomicCall wire.reservations)
      (answer : Except (CommandGatewayError EmailReservationError) Unit) :
      phase = .recording index → s.reservations.calls[index]? = some call →
      call.status = .answered answer →
      HandlerEnds sender phase ((recordAccountCreatedReply answer).mapError deliveryError)
  | created (index : Nat) (call : AtomicCall wire.accounts)
      (answer : Except (CommandGatewayError UserAccountError) Unit) :
      phase = .creating index → s.accounts.calls[index]? = some call →
      call.status = .answered answer →
      HandlerEnds sender phase ((createAccountReply answer).mapError deliveryError)
  | sent (result : HandlerResult) : phase = .sending → sender result = true →
      HandlerEnds sender phase result

/-- **One step of the specification.** -/
inductive Step (offset : String → Int) (sender : HandlerResult → Bool) (s : AtomicService wire) :
    AtomicService wire → Prop
  | request (command : EmailReservationCommand) (tasks : List (NewTask Value)) :
      Requested wire command tasks → Step offset sender s (s.reserve command tasks)
  | reservation (after : AtomicGateway wire.reservations) (rows : List (OutboxRow Value)) :
      s.reservations.Acts s.queue.clock s.queue.rows after rows →
      Step offset sender s { s with queue := { s.queue with rows }, reservations := after }
  | account (after : AtomicGateway wire.accounts) (rows : List (OutboxRow Value)) :
      s.accounts.Acts s.queue.clock s.queue.rows after rows →
      Step offset sender s { s with queue := { s.queue with rows }, accounts := after }
  | queue (action : QueueAction Value) (after : QueueState Value) :
      ServiceState.permits action = true → QueueStep offset s.queue action after →
      Step offset sender s
        { s with queue := after, deliveries := s.deliveries ++ arrivals .waiting after action }
  | rejected (index : Nat) (delivery : Delivery Value HandlerPhase) (reason : String)
      (now : DateTime) (taskId : Uuid) : s.deliveries[index]? = some delivery →
      delivery.phase = .waiting →
      dispatch wire now taskId delivery.task.attempt = .answers (.error (.permanent reason)) →
      Step offset sender s (s.setPhase index delivery (.finished (.error (.permanent reason))))
  | record (index : Nat) (delivery : Delivery Value HandlerPhase)
      (task : RecordAccountCreatedTaskV1) : s.deliveries[index]? = some delivery →
      delivery.phase = .waiting → payloadOf wire.recordAccountCreated delivery.task.attempt.format
        delivery.task.attempt.payload = some task →
      Step offset sender s ((s.reserve task.command []).setPhase index delivery
        (.recording s.reservations.calls.length))
  | create (index : Nat) (delivery : Delivery Value HandlerPhase) (task : CreateAccountTaskV1)
      (createdAt : DateTime) (taskId : Uuid) : s.deliveries[index]? = some delivery →
      delivery.phase = .waiting → payloadOf wire.createAccount delivery.task.attempt.format
        delivery.task.attempt.payload = some task →
      Step offset sender s ((s.create (task.command createdAt)
        [taskOf wire.recordAccountCreated taskId (task.completion createdAt)]).setPhase index
          delivery (.creating s.accounts.calls.length))
  | send (index : Nat) (delivery : Delivery Value HandlerPhase) :
      s.deliveries[index]? = some delivery → delivery.phase = .waiting →
      delivery.task.attempt.format = TaskPayload.format SendVerificationCodeTaskV1 →
      Step offset sender s (s.setPhase index delivery .sending)
  | finish (index : Nat) (delivery : Delivery Value HandlerPhase) (result : HandlerResult) :
      s.deliveries[index]? = some delivery → s.HandlerEnds sender delivery.phase result →
      Step offset sender s (s.setPhase index delivery (.finished result))
  | settle (index : Nat) (delivery : Delivery Value HandlerPhase) (result : HandlerResult)
      (delay : Duration) (after : QueueState Value) : s.deliveries[index]? = some delivery →
      delivery.phase = .finished result →
      QueueStep offset s.queue (.begin (.settle delivery.task (settlementRequest result delay)))
        after →
      Step offset sender s (({ s with queue := after }).setPhase index delivery .settled)

end AtomicService

/-! ### The view -/

/-- The service, seen from its histories, its answers, the queue and the deliveries. -/
def ServiceState.atomic (s : ServiceState wire) : AtomicService wire :=
  ⟨s.queue, (s.reservations.view s.tables).atomic, (s.accounts.view s.tables).atomic, s.deliveries⟩

variable {config : PostgresCommandConfig} {offset : String → Int} {clock : DateTime}
  {sender : HandlerResult → Bool} {s t : ServiceState wire}

/-- A call that is begun is begun in the view. -/
theorem Gateway.atomic_begin {S : StoredAggregate Value} (gateway : Gateway S)
    (tables : Tables Value) (aggregateId : String) (command : S.Command)
    (tasks : List (NewTask Value)) :
    ((gateway.begin aggregateId command tasks).view tables).atomic
      = (gateway.view tables).atomic.begin aggregateId command tasks := by
  show (⟨_, List.map _ (gateway.calls ++ [_])⟩ : AtomicGateway S) = _
  rw [List.map_append]
  rfl

theorem ServiceState.atomic_reserve (command : EmailReservationCommand)
    (tasks : List (NewTask Value)) :
    (s.reserve command tasks).atomic = s.atomic.reserve command tasks := by
  show (⟨_, StoreState.atomic (Gateway.view (Gateway.begin _ _ _ _) _), _, _⟩ : AtomicService wire)
    = _
  rw [Gateway.atomic_begin]
  rfl

theorem ServiceState.atomic_create (command : UserAccountCommand) (tasks : List (NewTask Value)) :
    (s.create command tasks).atomic = s.atomic.create command tasks := by
  show (⟨_, _, StoreState.atomic (Gateway.view (Gateway.begin _ _ _ _) _), _⟩ : AtomicService wire)
    = _
  rw [Gateway.atomic_begin]
  rfl

theorem ServiceState.length_calls :
    s.atomic.reservations.calls.length = s.reservations.calls.length ∧
      s.atomic.accounts.calls.length = s.accounts.calls.length :=
  ⟨List.length_map _, List.length_map _⟩

/-- The other gateway does not see a statement of a call. -/
theorem Gateway.atomic_untouched {S : StoredAggregate Value} (gateway : Gateway S)
    {before after : Tables Value} (untouched : Untouched S before after) :
    (gateway.view after).atomic = (gateway.view before).atomic := by
  have same : (fun aggregateId => storedEvents S aggregateId after)
      = fun aggregateId => storedEvents S aggregateId before := by
    funext aggregateId
    unfold storedEvents
    rw [(untouched.own aggregateId).1]
  exact congrArg (fun histories => (⟨histories, gateway.calls.map Execution.call⟩ : AtomicGateway S))
    same

theorem ServiceState.handler_ends {delivery : Delivery Value HandlerPhase} {result : HandlerResult}
    (ended : HandlerEnd sender s delivery result) :
    s.atomic.HandlerEnds sender delivery.phase result := by
  cases ended with
  | stopped reason => exact .stopped reason
  | sent result phase allowed => exact .sent result phase allowed
  | recorded index execution answer phase found returned =>
    refine .recorded index execution.call answer phase ?_ ?_
    · show (s.reservations.calls.map Execution.call)[index]? = _
      rw [List.getElem?_map, found]
      rfl
    · show execution.phase.status = _
      rw [returned]
      rfl
  | created index execution answer phase found returned =>
    refine .created index execution.call answer phase ?_ ?_
    · show (s.accounts.calls.map Execution.call)[index]? = _
      rw [List.getElem?_map, found]
      rfl
    · show execution.phase.status = _
      rw [returned]
      rfl

/-- A write happens at the present reading of the clock. -/
theorem ServiceState.timely {move : Move} (timely : s.isTimely move = true) :
    ∀ time lost, move = .write time lost → time = s.queue.clock := by
  rintro time lost rfl
  exact of_decide_eq_true timely

/-- The gateway after a statement of one of its calls. -/
def Gateway.after {S : StoredAggregate Value} (gateway : Gateway S) (index : Nat)
    (result : Stepped S) : Gateway S :=
  ⟨gateway.log ++ result.committed.toList, gateway.calls.set index result.execution⟩

/-- A statement of a call is a step of the specification of its gateway, or not seen. -/
theorem Gateway.acts {S : StoredAggregate Value} {gateway : Gateway S} {tables : Tables Value}
    (store : StoreSound config (gateway.view tables)) (emits : S.NeverSilent) {index : Nat}
    {execution : Execution S} (found : gateway.calls[index]? = some execution) {move : Move}
    {result : Stepped S} (moved : execution.step config move tables = some result) {now : DateTime}
    (timely : ∀ time lost, move = .write time lost → time = now) :
    (((gateway.after index result).view result.tables).atomic = (gateway.view tables).atomic ∧
        result.tables = tables) ∨
      (gateway.view tables).atomic.Acts now tables.outbox
        ((gateway.after index result).view result.tables).atomic result.tables.outbox :=
  store.acts emits found moved now timely

/-- A statement of a call of the reservations, in the view. -/
theorem ServiceState.reservation_seen (result : Stepped wire.reservations) (index : Nat) :
    ServiceState.atomic { s.setTables result.tables with
        reservations := ⟨s.reservations.log ++ result.committed.toList,
          s.reservations.calls.set index result.execution⟩ }
      = ⟨{ s.queue with rows := result.tables.outbox },
        ((s.reservations.after index result).view result.tables).atomic,
        (s.accounts.view result.tables).atomic, s.deliveries⟩ := rfl

/-- A statement of a call of the accounts, in the view. -/
theorem ServiceState.account_seen (result : Stepped wire.accounts) (index : Nat) :
    ServiceState.atomic { s.setTables result.tables with
        accounts := ⟨s.accounts.log ++ result.committed.toList,
          s.accounts.calls.set index result.execution⟩ }
      = ⟨{ s.queue with rows := result.tables.outbox },
        (s.reservations.view result.tables).atomic,
        ((s.accounts.after index result).view result.tables).atomic, s.deliveries⟩ := rfl

/-! ### One step, and whole runs -/

/-- **A step of the service is a step of the specification, or not seen.** -/
theorem ServiceState.atomic_step (sound : ServiceSound config offset s)
    (stepped : ServiceStep config offset sender s t) :
    ReflGen (AtomicService.Step offset sender) s.atomic t.atomic := by
  cases stepped with
  | ended => exact .refl
  | request command tasks requested =>
    rw [atomic_reserve]
    exact .single (.request command tasks requested)
  | reservation index move execution result timely found moved =>
    have other : (s.accounts.view result.tables).atomic = (s.accounts.view s.tables).atomic :=
      Gateway.atomic_untouched s.accounts (move_untouched wire.types_differ moved)
    rcases Gateway.acts sound.reservations.store emailReservation_neverSilent found moved
        (ServiceState.timely timely) with ⟨same, sameTables⟩ | acts
    · rw [reservation_seen, same, other, sameTables]
      exact .refl
    · rw [reservation_seen, other]
      exact .single (.reservation _ _ acts)
  | account index move execution result timely found moved =>
    have other : (s.reservations.view result.tables).atomic
        = (s.reservations.view s.tables).atomic :=
      Gateway.atomic_untouched s.reservations (move_untouched wire.types_differ.symm moved)
    rcases Gateway.acts sound.accounts.store userAccount_neverSilent found moved
        (ServiceState.timely timely) with ⟨same, sameTables⟩ | acts
    · rw [account_seen, same, other, sameTables]
      exact .refl
    · rw [account_seen, other]
      exact .single (.account _ _ acts)
  | queue action after permitted moved => exact .single (.queue action after permitted moved)
  | rejected index delivery reason now taskId present waiting answered =>
    exact .single (.rejected index delivery reason now taskId present waiting answered)
  | record index delivery task present waiting payload =>
    have step : AtomicService.Step offset sender s.atomic _ :=
      .record index delivery task present waiting payload
    rw [length_calls.1, ← atomic_reserve] at step
    exact .single step
  | create index delivery task createdAt taskId present waiting payload =>
    have step : AtomicService.Step offset sender s.atomic _ :=
      .create index delivery task createdAt taskId present waiting payload
    rw [length_calls.2, ← atomic_create] at step
    exact .single step
  | send index delivery present waiting format =>
    exact .single (.send index delivery present waiting format)
  | finish index delivery result present ended =>
    exact .single (.finish index delivery result present (handler_ends ended))
  | settle index delivery result delay after present finished moved =>
    exact .single (.settle index delivery result delay after present finished moved)

/-- **The service refines the service with atomic commands.** For every configuration, every list of
actions and every interleaving they describe: the states the service passes through, seen from the
histories of the aggregates, the calls and their answers, the queue and the deliveries, form a run
of the specification that starts empty and may stand still. In it every command takes effect at one
instant between its call and its answer. -/
theorem service_refines_atomic (wire : Wire Value) (config : PostgresCommandConfig)
    (offset : String → Int) (clock : DateTime) (sender : HandlerResult → Bool)
    (actions : List (ServiceAction Value)) :
    let service := serviceMachine wire config offset clock sender
    service.start.atomic = AtomicService.start wire offset clock ∧
      ((service.visited service.start actions).map ServiceState.atomic).IsChain
        (ReflGen (AtomicService.Step offset sender)) := by
  refine ⟨rfl, Machine.Reachable.start.refines ServiceState.atomic ?_ actions⟩
  intro s action t reached stepped
  exact ServiceState.atomic_step (serviceSound_reachable reached) (serviceMachine_step stepped)

end Atomic

end AccountManagement.Service
