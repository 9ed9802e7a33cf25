/-
**Command execution over the snapshot store.**

How the event-sourcing framework and the executor run one command: read the snapshot, read the
events after it, decide, and write; on an optimistic conflict, start over, up to the attempt limit.
The reads and the write are separate moves of an `Execution`, so that any number of executions can
interleave over the same tables. The framework's behaviour is its documented one: the accepted
events are applied once while the command is handled, and a second time, to the same state, when a
snapshot is due.
-/

import AccountManagement.Library.EventSourcing
import AccountManagement.Store.Write
import Mathlib.Data.List.Sort

namespace AccountManagement.Store

open AccountManagement.Library AccountManagement.Task AccountManagement.Outbox

/-- The JSON form of an aggregate's events and states. Reading back what was written is the
contract of the serialization library. -/
structure Codec (Event State Value : Type) where
  eventType : Event → String
  eventVersion : Event → String
  encodeEvent : Event → Value
  decodeEvent : Value → Option Event
  encodeState : State → Value
  decodeState : Value → Option State
  decode_encodeEvent : ∀ event, decodeEvent (encodeEvent event) = some event
  decode_encodeState : ∀ state, decodeState (encodeState state) = some state

/-- An aggregate with its type name and its JSON form. -/
structure StoredAggregate (Value : Type) extends Aggregate, Codec Event State Value where
  typeName : String

/-- An aggregate in a given JSON form. -/
abbrev stored {Value : Type} (A : Aggregate) (typeName : String)
    (codec : Codec A.Event A.State Value) : StoredAggregate Value :=
  { A, codec with typeName := typeName }

/-- The simplest stored form: a value is an event, a state, or the empty object. -/
inductive PlainValue (Event State : Type) where
  | object
  | event (event : Event)
  | state (state : State)
deriving DecidableEq

instance (Event State : Type) : JsonValue (PlainValue Event State) where
  isObject _ := true
  emptyObject := .object
  isObject_emptyObject := rfl

theorem PlainValue.isObject_object {Event State : Type} :
    JsonValue.isObject (.object : PlainValue Event State) = true := rfl

/-- The tasks of the examples. -/
def mailTask {Event State : Type} (id : Uuid) (schedule : TaskSchedule) (valid : schedule.Valid) :
    NewTask (PlainValue Event State) :=
  ⟨id, mailFormat, .object, .object, schedule, 10, PlainValue.isObject_object,
    PlainValue.isObject_object, valid, NewTask.defaultLimit_positive, NewTask.defaultLimit_fits⟩

def plainCodec (Event State : Type) : Codec Event State (PlainValue Event State) where
  eventType _ := "event"
  eventVersion _ := "1"
  encodeEvent := .event
  decodeEvent
    | .event event => some event
    | _ => none
  encodeState := .state
  decodeState
    | .state state => some state
    | _ => none
  decode_encodeEvent _ := rfl
  decode_encodeState _ := rfl

abbrev plainStored (A : Aggregate) (typeName : String) :
    StoredAggregate (PlainValue A.Event A.State) :=
  stored A typeName (plainCodec A.Event A.State)

/-! ### Configuration -/

/-- The conflict retry policy; its backoff only takes time. -/
structure AggregateConflictRetryPolicy where
  maxAttempts : Nat
  attemptsPositive : 0 < maxAttempts

inductive PostgresCommandConfigError where
  | invalidSnapshotInterval
deriving DecidableEq

structure PostgresCommandConfig where
  snapshotInterval : Nat
  intervalPositive : 0 < snapshotInterval
  conflictRetry : AggregateConflictRetryPolicy

def PostgresCommandConfig.new (snapshotInterval : Nat)
    (conflictRetry : AggregateConflictRetryPolicy) :
    Except PostgresCommandConfigError PostgresCommandConfig :=
  if positive : 0 < snapshotInterval then
    .ok ⟨snapshotInterval, positive, conflictRetry⟩
  else
    .error .invalidSnapshotInterval

/-- The constructor accepts the data of every configuration. -/
theorem PostgresCommandConfig.new_self (config : PostgresCommandConfig) :
    PostgresCommandConfig.new config.snapshotInterval config.conflictRetry = .ok config :=
  dif_pos config.intervalPositive

/-- The defaults: a snapshot every 25 events, three attempts. -/
def PostgresCommandConfig.default : PostgresCommandConfig := ⟨25, by decide, ⟨3, by decide⟩⟩

/-! ### Errors -/

inductive AggregateError (Error : Type) where
  | userError (error : Error)
  | aggregateConflict
  | databaseConnectionError
  | deserializationError
  | unexpectedError (source : UnknownSource)
deriving DecidableEq

def aggregateError {Error : Type} : PersistenceError → AggregateError Error
  | .optimisticLockError => .aggregateConflict
  | .connectionError => .databaseConnectionError
  | .deserializationError => .deserializationError
  | .unknownError source => .unexpectedError source

inductive CommandGatewayError (Error : Type) where
  | domain (error : Error)
  | conflict
  | unavailable
deriving DecidableEq

def mapAggregateError {Error : Type} : AggregateError Error → CommandGatewayError Error
  | .userError error => .domain error
  | .aggregateConflict => .conflict
  | .databaseConnectionError => .unavailable
  | .deserializationError => .unavailable
  | .unexpectedError _ => .unavailable

section Framework

variable {Value : Type} (S : StoredAggregate Value)

/-! ### Loading -/

/-- An aggregate as it was loaded. -/
structure Context where
  aggregateId : String
  state : S.State
  currentSequence : Nat
  currentSnapshot : Option Nat

variable {S}

/-- The rows of one stream. -/
def ownEvents (S : StoredAggregate Value) (aggregateId : String) (tables : Tables Value) :
    List (EventRow Value) :=
  tables.events.filter fun row => row.aggregateType = S.typeName ∧ row.aggregateId = aggregateId

/-- The snapshot rows of one aggregate. -/
def ownSnapshots (S : StoredAggregate Value) (aggregateId : String) (tables : Tables Value) :
    List (SnapshotRow Value) :=
  tables.snapshots.filter fun row => row.aggregateType = S.typeName ∧ row.aggregateId = aggregateId

/-- The query names no order: with several rows, any of them may come first. -/
def getSnapshot (S : StoredAggregate Value) (aggregateId : String) (choice : Nat)
    (tables : Tables Value) : Option (SnapshotRow Value) :=
  let rows := ownSnapshots S aggregateId tables
  rows[choice % rows.length]?

def getLastEvents (S : StoredAggregate Value) (aggregateId : String) (lastSequence : Nat)
    (tables : Tables Value) : List (EventRow Value) :=
  ((ownEvents S aggregateId tables).filter fun row => row.sequence > lastSequence).insertionSort
    fun first second => first.sequence ≤ second.sequence

def contextFor (S : StoredAggregate Value) (aggregateId : String) : Context S :=
  ⟨aggregateId, S.initial, 0, none⟩

/-- The first read: the snapshot, or the initial state if there is none. A snapshot that cannot be
decoded is ignored: then all the events are replayed. -/
def loadSnapshot (S : StoredAggregate Value) (aggregateId : String) (choice : Nat)
    (tables : Tables Value) : Context S :=
  match getSnapshot S aggregateId choice tables with
  | none => contextFor S aggregateId
  | some row =>
    match S.decodeState row.payload with
    | none => contextFor S aggregateId
    | some state => ⟨aggregateId, state, row.lastSequence, some row.currentSnapshot⟩

def decodeEvents (S : StoredAggregate Value) : List (EventRow Value) →
    Option (List (Nat × S.Event))
  | [] => some []
  | row :: rest => do
    let event ← S.decodeEvent row.payload
    let events ← decodeEvents S rest
    return (row.sequence, event) :: events

/-- The fold over the loaded events; no value where `apply` panics. -/
def applyEvents (context : Context S) : List (Nat × S.Event) → Option (Context S)
  | [] => some context
  | (sequence, event) :: rest => do
    let state ← S.apply context.state event
    applyEvents { context with state := state, currentSequence := sequence } rest

/-- The second read: the events after the snapshot, folded into the state. -/
def loadTail (context : Context S) (tables : Tables Value) :
    Outcome PersistenceError (Context S) :=
  match decodeEvents S (getLastEvents S context.aggregateId context.currentSequence tables) with
  | none => .error .deserializationError
  | some events =>
    match applyEvents context events with
    | none => .panicked
    | some loaded => .ok loaded

/-! ### Deciding -/

/-- How many of the new events the due snapshot covers; zero when none is due. -/
def commitSnapshotToEvent (currentSequence interval newEvents : Nat) : Nat :=
  let nextSnapshotAt := interval - currentSequence % interval
  if newEvents < nextSnapshotAt then 0
  else
    let additional := newEvents - nextSnapshotAt
    nextSnapshotAt + (additional - additional % interval)

variable (S) in
/-- What an attempt is about to write. -/
structure Decision where
  context : Context S
  events : List S.Event
  update : Option (SnapshotUpdate Value)

/-- Handle the command, apply its events, and apply those a due snapshot covers once more. -/
def decideCommand (interval : Nat) (context : Context S) (command : S.Command) :
    Outcome (AggregateError S.Error) (Decision S) :=
  match S.handle context.state command with
  | .error error => .error (.userError error)
  | .panicked => .panicked
  | .ok events =>
    match S.replayFrom context.state events with
    | none => .panicked
    | some applied =>
      match commitSnapshotToEvent context.currentSequence interval events.length with
      | 0 => .ok ⟨context, events, none⟩
      | count =>
        match S.replayFrom applied (events.take count) with
        | none => .panicked
        | some again =>
          .ok ⟨context, events, some ⟨context.aggregateId, S.encodeState again,
            context.currentSnapshot.getD 0 + 1⟩⟩

variable [JsonValue Value]

def serializeEvent (S : StoredAggregate Value) (aggregateId : String) (sequence : Nat)
    (event : S.Event) : SerializedEvent Value where
  aggregateId := aggregateId
  sequence := sequence
  aggregateType := S.typeName
  eventType := S.eventType event
  eventVersion := S.eventVersion event
  payload := S.encodeEvent event
  metadata := JsonValue.emptyObject

/-- The events with consecutive sequences after the loaded one. -/
def wrapEvents (context : Context S) (events : List S.Event) : List (SerializedEvent Value) :=
  events.mapIdx fun index event =>
    serializeEvent S context.aggregateId (context.currentSequence + index + 1) event

/-! ### Executing -/

variable (S)

inductive Phase where
  | loading
  | snapshotRead (context : Context S)
  | decided (decision : Decision S)
  | returned (result : Except (CommandGatewayError S.Error) Unit)
  | panicked

/-- A command in execution, with the number of its current attempt. -/
structure Execution where
  aggregateId : String
  command : S.Command
  tasks : List (NewTask Value)
  attempt : Nat
  phase : Phase S

/-- A committed event with its command and tasks. -/
structure Commit where
  aggregateId : String
  command : S.Command
  event : S.Event
  tasks : List (NewTask Value)

variable {S}

/-- One statement of an execution. A `fault` is a statement that fails without effect; a lost write
is one that runs, and whose answer does not arrive. -/
inductive Move where
  | readSnapshot (choice : Nat)
  | readTail
  | write (now : DateTime) (lost : Bool)
  | fault
deriving DecidableEq

def Execution.begin (aggregateId : String) (command : S.Command) (tasks : List (NewTask Value)) :
    Execution S :=
  ⟨aggregateId, command, tasks, 1, .loading⟩

/-- The end of an attempt: only a conflict is repeated, and only within the limit. -/
def Execution.finishAttempt (maxAttempts : Nat) (execution : Execution S)
    (result : Except (AggregateError S.Error) Unit) : Execution S :=
  match result with
  | .ok () => { execution with phase := .returned (.ok ()) }
  | .error error =>
    match error with
    | .aggregateConflict =>
      if execution.attempt < maxAttempts then
        { execution with attempt := execution.attempt + 1, phase := .loading }
      else { execution with phase := .returned (.error (mapAggregateError .aggregateConflict)) }
    | error => { execution with phase := .returned (.error (mapAggregateError error)) }

/-- What one move leaves behind: the tables, the execution, and the event it committed. -/
structure Stepped (S : StoredAggregate Value) where
  tables : Tables Value
  execution : Execution S
  committed : Option (Commit S)

/-- The event a confirmed write has committed. -/
def Execution.commit (execution : Execution S) (events : List S.Event) :
    Except PersistenceError Unit → Option (Commit S)
  | .error _ => none
  | .ok () =>
    match events with
    | [event] => some ⟨execution.aggregateId, execution.command, event, execution.tasks⟩
    | _ => none

/-- The write of a decision. -/
def Execution.write (config : PostgresCommandConfig) (execution : Execution S)
    (decision : Decision S) (now : DateTime) (lost : Bool) (tables : Tables Value) : Stepped S :=
  let (written, result) := persistCommand S.typeName execution.tasks
    (wrapEvents decision.context decision.events) decision.update now tables
  { tables := written
    execution :=
      if lost then { execution with phase := .returned (.error .unavailable) }
      else execution.finishAttempt config.conflictRetry.maxAttempts (result.mapError aggregateError)
    committed := execution.commit decision.events result }

/-- The state after the tail has been read and the command decided. -/
def Execution.decideTail (config : PostgresCommandConfig) (execution : Execution S)
    (context : Context S) (tables : Tables Value) : Execution S :=
  let finish := fun error => execution.finishAttempt config.conflictRetry.maxAttempts (.error error)
  match loadTail context tables with
  | .error error => finish (aggregateError error)
  | .panicked => { execution with phase := .panicked }
  | .ok loaded =>
    match decideCommand config.snapshotInterval loaded execution.command with
    | .error error => finish error
    | .panicked => { execution with phase := .panicked }
    | .ok decision => { execution with phase := .decided decision }

def Execution.step (config : PostgresCommandConfig) (execution : Execution S) (move : Move)
    (tables : Tables Value) : Option (Stepped S) :=
  match execution.phase, move with
  | .loading, .readSnapshot choice =>
    let context := loadSnapshot S execution.aggregateId choice tables
    some ⟨tables, { execution with phase := .snapshotRead context }, none⟩
  | .snapshotRead context, .readTail =>
    some ⟨tables, execution.decideTail config context tables, none⟩
  | .decided decision, .write now lost => some (execution.write config decision now lost tables)
  | .loading, .fault | .snapshotRead _, .fault | .decided _, .fault =>
    some ⟨tables, { execution with phase := .returned (.error .unavailable) }, none⟩
  | _, _ => none

end Framework

end AccountManagement.Store
