/-
**The compiled write statement.**

`persist_one` puts its statement together from text and bound values. `persistOneQuery` does the
same with a query builder; `writeQuery` is the statement that the text spells, with its column lists
and the numbers of its parameters, and `execute` its meaning on the three tables.

* `persistOneQuery_tokens`, `persistOneQuery_arguments`: what the builder has at the end;
* `execute_writeQuery`: the statement does to the tables what the parts of the write do;
* `compiled_statement`: the placeholders of an accepted plan are those it has counted, every value
  is the field its column names, and the statement stores the event, the snapshot and the tasks
  exactly where no key is taken, an update finds its previous version, and tasks come with a
  positive sequence;
* `statement_stores_nothing`: without the last two it stores nothing, also in empty tables.

Not covered: how the server parses the text, values it cannot store, and times out of its range.
-/

import AccountManagement.Library.QueryBuilder
import AccountManagement.Store.Framework
import AccountManagement.Store.Write

namespace AccountManagement.Store

open AccountManagement.Library AccountManagement.Task AccountManagement.Outbox

/-! ### The builder -/

/-- A bound value, by the type of its parameter. -/
inductive SqlValue (Value : Type) where
  | text (value : String)
  | bigint (value : Int)
  | integer (value : Int)
  | uuid (value : Uuid)
  | json (value : Value)
  | timestamp (value : Option DateTime)
  | double (value : Nat)

def insertSnapshotText : String :=
  "written_snapshot AS (INSERT INTO snapshots (aggregate_type, aggregate_id, last_sequence, " ++
    "current_snapshot, payload) VALUES ("

def insertEventText : String :=
  "written_events AS (INSERT INTO events (aggregate_type, aggregate_id, sequence, event_type, " ++
    "event_version, payload, metadata) "

def eventInputText : String :=
  ") AS input(aggregate_type, aggregate_id, sequence, event_type, event_version, payload, " ++
    "metadata) WHERE EXISTS (SELECT 1 FROM written_snapshot)"

def insertTasksText : String :=
  ", written_tasks AS (INSERT INTO transactional_outbox (id, aggregate_type, aggregate_id, " ++
    "aggregate_sequence, task_type, task_version, payload, metadata, available_at, max_attempts) "

def selectTasksText : String :=
  "SELECT id, aggregate_type, aggregate_id, aggregate_sequence, task_type, task_version, " ++
    "payload, metadata, COALESCE(scheduled_at, statement_timestamp() + delay_ms * interval " ++
    "'1 millisecond'), max_attempts FROM ("

def taskInputText : String :=
  ") AS input(id, aggregate_type, aggregate_id, aggregate_sequence, task_type, task_version, " ++
    "payload, metadata, scheduled_at, delay_ms, max_attempts) WHERE EXISTS (SELECT 1 FROM " ++
    "written_events) RETURNING id)"

section Builder

variable {Value : Type} [JsonValue Value]

def SnapshotWrite.isDue : SnapshotWrite Value → Bool
  | .none => false
  | .insert _ _ _ => true
  | .update _ _ _ => true

variable (typeName : String) (sequence : Nat)

def appendSnapshot (query : QueryBuilder (SqlValue Value)) :
    SnapshotWrite Value → QueryBuilder (SqlValue Value)
  | .none => query
  | .insert aggregateId payload version =>
    query
      |>.push insertSnapshotText
      |>.pushBind (.text typeName)
      |>.push ", "
      |>.pushBind (.text aggregateId)
      |>.push ", "
      |>.pushBind (.bigint sequence)
      |>.push ", "
      |>.pushBind (.bigint version)
      |>.push ", "
      |>.pushBind (.json payload)
      |>.push ") RETURNING 1), "
  | .update aggregateId payload version =>
    query
      |>.push "written_snapshot AS (UPDATE snapshots SET last_sequence = "
      |>.pushBind (.bigint sequence)
      |>.push ", current_snapshot = "
      |>.pushBind (.bigint version)
      |>.push ", payload = "
      |>.pushBind (.json payload)
      |>.push " WHERE aggregate_type = "
      |>.pushBind (.text typeName)
      |>.push " AND aggregate_id = "
      |>.pushBind (.text aggregateId)
      |>.push " AND current_snapshot = "
      |>.pushBind (.bigint (version - 1))
      |>.push " RETURNING 1), "

/-- The values of the event, in the order they are bound. -/
def eventValues (event : SerializedEvent Value) : List (SqlValue Value) :=
  [.text typeName, .text event.aggregateId, .bigint sequence, .text event.eventType,
    .text event.eventVersion, .json event.payload, .json event.metadata]

def appendEvent (event : SerializedEvent Value) (hasSnapshot : Bool)
    (query : QueryBuilder (SqlValue Value)) : QueryBuilder (SqlValue Value) :=
  let query := query.push insertEventText
  let query := if hasSnapshot then query.push "SELECT * FROM (" else query
  let query := query.pushValues [eventValues typeName sequence event]
  let query := if hasSnapshot then query.push eventInputText else query
  query.push " RETURNING sequence)"

/-- The values of a task, in the order they are bound. -/
def taskValues (event : SerializedEvent Value) (task : NewTask Value) : List (SqlValue Value) :=
  [.uuid task.id, .text typeName, .text event.aggregateId, .bigint sequence,
    .text task.format.taskType, .integer task.format.taskVersion, .json task.payload,
    .json task.metadata, .timestamp (scheduleParts task.schedule).1,
    .double (scheduleParts task.schedule).2, .integer task.maxAttempts]

def appendTasks (event : SerializedEvent Value) (tasks : List (NewTask Value))
    (query : QueryBuilder (SqlValue Value)) : QueryBuilder (SqlValue Value) :=
  if tasks.isEmpty then query
  else
    query
      |>.push insertTasksText
      |>.push selectTasksText
      |>.pushValues (tasks.map (taskValues typeName sequence event))
      |>.push taskInputText

/-- The statement that `persist_one` builds. -/
def persistOneQuery (tasks : List (NewTask Value)) (event : SerializedEvent Value)
    (snapshot : SnapshotWrite Value) : QueryBuilder (SqlValue Value) :=
  let query := appendSnapshot typeName sequence (.new "WITH ") snapshot
  let query := appendEvent typeName sequence event snapshot.isDue query
  let query := appendTasks typeName sequence event tasks query
  match snapshot with
  | .none => query.push " SELECT 1::bigint AS snapshot_count"
  | _ => query.push " SELECT COUNT(*)::bigint AS snapshot_count FROM written_snapshot"

end Builder

/-! ### What the text spells -/

inductive Column where
  | aggregateType
  | aggregateId
  | sequence
  | eventType
  | eventVersion
  | payload
  | metadata
  | lastSequence
  | currentSnapshot
  | id
  | aggregateSequence
  | taskType
  | taskVersion
  | availableAt
  | maxAttempts
  | scheduledAt
  | delayMs
deriving DecidableEq

def Column.name : Column → String
  | .aggregateType => "aggregate_type"
  | .aggregateId => "aggregate_id"
  | .sequence => "sequence"
  | .eventType => "event_type"
  | .eventVersion => "event_version"
  | .payload => "payload"
  | .metadata => "metadata"
  | .lastSequence => "last_sequence"
  | .currentSnapshot => "current_snapshot"
  | .id => "id"
  | .aggregateSequence => "aggregate_sequence"
  | .taskType => "task_type"
  | .taskVersion => "task_version"
  | .availableAt => "available_at"
  | .maxAttempts => "max_attempts"
  | .scheduledAt => "scheduled_at"
  | .delayMs => "delay_ms"

/-- What the tasks select from their input: a column, or the time they are available at. -/
inductive TaskItem where
  | column (own : Column)
  | availability
deriving DecidableEq

def TaskItem.sql : TaskItem → String
  | .column own => own.name
  | .availability =>
    "COALESCE(scheduled_at, statement_timestamp() + delay_ms * interval '1 millisecond')"

inductive SnapshotClause where
  | insert (columns : List Column) (row : List Nat)
  | update (assigned conditions : List (Column × Nat))

structure EventClause where
  columns : List Column
  row : List Nat
  guarded : Bool

structure TaskClause where
  columns : List Column
  items : List TaskItem
  input : List Column
  rows : List (List Nat)

/-- A write: its snapshot, its event and its tasks, with the numbers of their parameters. -/
structure WriteQuery where
  snapshot : Option SnapshotClause
  event : EventClause
  tasks : Option TaskClause

def commaList (names : List String) : String := String.intercalate ", " names

def columnList (columns : List Column) : String := commaList (columns.map Column.name)

/-- Columns with their parameters: the first after one text, the others after another. -/
def pairTokens (first next : String) : List (Column × Nat) → List Token
  | [] => []
  | (column, number) :: rest =>
    .text (first ++ column.name ++ " = ") :: .placeholder number :: pairTokens next next rest

def SnapshotClause.tokens : SnapshotClause → List Token
  | .insert columns row =>
    .text ("written_snapshot AS (INSERT INTO snapshots (" ++ columnList columns ++ ") VALUES (")
      :: separatedTokens row ++ [.text ") RETURNING 1), "]
  | .update assigned conditions =>
    pairTokens "written_snapshot AS (UPDATE snapshots SET " ", " assigned
      ++ pairTokens " WHERE " " AND " conditions ++ [.text " RETURNING 1), "]

def EventClause.tokens (clause : EventClause) : List Token :=
  .text ("written_events AS (INSERT INTO events (" ++ columnList clause.columns ++ ") ")
    :: (if clause.guarded then [.text "SELECT * FROM ("] else [])
    ++ valuesTokens [clause.row]
    ++ (if clause.guarded then [.text (") AS input(" ++ columnList clause.columns
      ++ ") WHERE EXISTS (SELECT 1 FROM written_snapshot)")] else [])
    ++ [.text " RETURNING sequence)"]

def TaskClause.tokens (clause : TaskClause) : List Token :=
  .text (", written_tasks AS (INSERT INTO transactional_outbox (" ++ columnList clause.columns
      ++ ") ")
    :: .text ("SELECT " ++ commaList (clause.items.map TaskItem.sql) ++ " FROM (")
    :: valuesTokens clause.rows
    ++ [.text (") AS input(" ++ columnList clause.input
      ++ ") WHERE EXISTS (SELECT 1 FROM written_events) RETURNING id)")]

def WriteQuery.tokens (query : WriteQuery) : List Token :=
  .text "WITH " :: (query.snapshot.elim [] SnapshotClause.tokens) ++ query.event.tokens
    ++ query.tasks.elim [] TaskClause.tokens
    ++ [.text (if query.snapshot.isSome then
        " SELECT COUNT(*)::bigint AS snapshot_count FROM written_snapshot"
      else " SELECT 1::bigint AS snapshot_count")]

def snapshotColumns : List Column :=
  [.aggregateType, .aggregateId, .lastSequence, .currentSnapshot, .payload]

def eventColumns : List Column :=
  [.aggregateType, .aggregateId, .sequence, .eventType, .eventVersion, .payload, .metadata]

/-- The columns of the outbox that an insert names. -/
def outboxColumns : List Column :=
  [.id, .aggregateType, .aggregateId, .aggregateSequence, .taskType, .taskVersion, .payload,
    .metadata, .availableAt, .maxAttempts]

/-- The columns of the input that the tasks are selected from. -/
def inputColumns : List Column :=
  [.id, .aggregateType, .aggregateId, .aggregateSequence, .taskType, .taskVersion, .payload,
    .metadata, .scheduledAt, .delayMs, .maxAttempts]

def outboxItems : List TaskItem :=
  [.column .id, .column .aggregateType, .column .aggregateId, .column .aggregateSequence,
    .column .taskType, .column .taskVersion, .column .payload, .column .metadata, .availability,
    .column .maxAttempts]

/-! The pieces of text name the columns of the lists. -/

theorem insertSnapshotText_eq : insertSnapshotText
    = "written_snapshot AS (INSERT INTO snapshots (" ++ columnList snapshotColumns
      ++ ") VALUES (" := by decide +kernel

theorem insertEventText_eq : insertEventText
    = "written_events AS (INSERT INTO events (" ++ columnList eventColumns ++ ") " := by
  decide +kernel

theorem eventInputText_eq : eventInputText = ") AS input(" ++ columnList eventColumns
    ++ ") WHERE EXISTS (SELECT 1 FROM written_snapshot)" := by decide +kernel

theorem insertTasksText_eq : insertTasksText
    = ", written_tasks AS (INSERT INTO transactional_outbox (" ++ columnList outboxColumns
      ++ ") " := by decide +kernel

theorem selectTasksText_eq : selectTasksText
    = "SELECT " ++ commaList (outboxItems.map TaskItem.sql) ++ " FROM (" := by decide +kernel

theorem taskInputText_eq : taskInputText = ") AS input(" ++ columnList inputColumns
    ++ ") WHERE EXISTS (SELECT 1 FROM written_events) RETURNING id)" := by decide +kernel

section Compiled

variable {Value : Type} [JsonValue Value]

def snapshotClause : SnapshotWrite Value → Option SnapshotClause
  | .none => none
  | .insert _ _ _ => some (.insert snapshotColumns [1, 2, 3, 4, 5])
  | .update _ _ _ => some (.update [(.lastSequence, 1), (.currentSnapshot, 2), (.payload, 3)]
      [(.aggregateType, 4), (.aggregateId, 5), (.currentSnapshot, 6)])

variable (typeName : String) (sequence : Nat) (tasks : List (NewTask Value))
  (event : SerializedEvent Value) (snapshot : SnapshotWrite Value)

/-- The statement of a write. -/
def writeQuery : WriteQuery where
  snapshot := snapshotClause snapshot
  event := ⟨eventColumns, List.range' (snapshot.bindCount + 1) 7, snapshot.isDue⟩
  tasks := if tasks.isEmpty then none else some ⟨outboxColumns, outboxItems, inputColumns,
    numberRows (snapshot.bindCount + 8) (tasks.map (taskValues typeName sequence event))⟩

/-- The values of the snapshot, in the order they are bound. -/
def snapshotValues : SnapshotWrite Value → List (SqlValue Value)
  | .none => []
  | .insert aggregateId payload version =>
    [.text typeName, .text aggregateId, .bigint sequence, .bigint version, .json payload]
  | .update aggregateId payload version =>
    [.bigint sequence, .bigint version, .json payload, .text typeName, .text aggregateId,
      .bigint (version - 1)]

/-! ### The builder spells the statement -/

omit [JsonValue Value] in
theorem snapshotValues_length :
    (snapshotValues typeName sequence snapshot).length = snapshot.bindCount := by
  cases snapshot <;> rfl

omit [JsonValue Value] in
theorem appendSnapshot_arguments :
    (appendSnapshot typeName sequence (.new "WITH ") snapshot).arguments
      = snapshotValues typeName sequence snapshot := by
  cases snapshot <;> rfl

omit [JsonValue Value] in
/-- The snapshot of the builder, as text. -/
theorem appendSnapshot_tokens :
    (appendSnapshot typeName sequence (.new "WITH ") snapshot).tokens
      = .text "WITH " :: (snapshotClause snapshot).elim [] SnapshotClause.tokens := by
  cases snapshot with
  | none => rfl
  | insert aggregateId payload version =>
    simp only [appendSnapshot, insertSnapshotText_eq]
    rfl
  | update aggregateId payload version => rfl

variable {typeName sequence event}

omit [JsonValue Value] in
theorem appendEvent_arguments (due : Bool) (query : QueryBuilder (SqlValue Value)) :
    (appendEvent typeName sequence event due query).arguments
      = query.arguments ++ eventValues typeName sequence event := by
  cases due <;> simp [appendEvent]

omit [JsonValue Value] in
/-- The event of the builder, as text. -/
theorem appendEvent_tokens (due : Bool) (query : QueryBuilder (SqlValue Value)) :
    (appendEvent typeName sequence event due query).tokens = query.tokens
      ++ EventClause.tokens ⟨eventColumns, List.range' (query.arguments.length + 1) 7, due⟩ := by
  cases due with
  | false =>
    simp only [appendEvent, insertEventText_eq, EventClause.tokens, Bool.false_eq_true, if_false,
      QueryBuilder.push_tokens, QueryBuilder.pushValues_tokens, QueryBuilder.push_arguments]
    simp [numberRows, eventValues]
  | true =>
    simp only [appendEvent, insertEventText_eq, eventInputText_eq, EventClause.tokens, if_true,
      QueryBuilder.push_tokens, QueryBuilder.pushValues_tokens, QueryBuilder.push_arguments]
    simp [numberRows, eventValues]

theorem appendTasks_arguments (query : QueryBuilder (SqlValue Value)) :
    (appendTasks typeName sequence event tasks query).arguments
      = query.arguments ++ (tasks.map (taskValues typeName sequence event)).flatten := by
  cases tasks with
  | nil => exact (List.append_nil _).symm
  | cons task rest => simp [appendTasks]

/-- The tasks of the builder, as text. -/
theorem appendTasks_tokens (query : QueryBuilder (SqlValue Value)) :
    (appendTasks typeName sequence event tasks query).tokens = query.tokens
      ++ (if tasks.isEmpty then none else some ⟨outboxColumns, outboxItems, inputColumns,
        numberRows (query.arguments.length + 1)
          (tasks.map (taskValues typeName sequence event))⟩ : Option TaskClause).elim []
            TaskClause.tokens := by
  cases tasks with
  | nil => exact (List.append_nil _).symm
  | cons task rest =>
    simp only [appendTasks, insertTasksText_eq, selectTasksText_eq, taskInputText_eq,
      List.isEmpty_cons, Bool.false_eq_true, if_false, QueryBuilder.push_tokens,
      QueryBuilder.pushValues_tokens, QueryBuilder.push_arguments, Option.elim, TaskClause.tokens]
    simp

variable (typeName sequence event)

/-- **The arguments of the statement**: the values of the snapshot, the event and the tasks. -/
theorem persistOneQuery_arguments :
    (persistOneQuery typeName sequence tasks event snapshot).arguments
      = snapshotValues typeName sequence snapshot ++ eventValues typeName sequence event
        ++ (tasks.map (taskValues typeName sequence event)).flatten := by
  rw [← appendSnapshot_arguments, ← appendEvent_arguments snapshot.isDue, ← appendTasks_arguments]
  cases snapshot <;> rfl

/-- **The builder spells the statement.** -/
theorem persistOneQuery_tokens :
    (persistOneQuery typeName sequence tasks event snapshot).tokens
      = (writeQuery typeName sequence tasks event snapshot).tokens := by
  have first : (appendSnapshot typeName sequence (.new "WITH ") snapshot).arguments.length
      = snapshot.bindCount := by
    rw [appendSnapshot_arguments, snapshotValues_length]
  have built : ∀ sql, ((appendTasks typeName sequence event tasks (appendEvent typeName sequence
      event snapshot.isDue (appendSnapshot typeName sequence (.new "WITH ") snapshot))).push
        sql).tokens
      = .text "WITH " :: (snapshotClause snapshot).elim [] SnapshotClause.tokens
        ++ (writeQuery typeName sequence tasks event snapshot).event.tokens
        ++ (writeQuery typeName sequence tasks event snapshot).tasks.elim [] TaskClause.tokens
        ++ [.text sql] := by
    intro sql
    rw [QueryBuilder.push_tokens, appendTasks_tokens, appendEvent_tokens, appendSnapshot_tokens,
      appendEvent_arguments, List.length_append, first]
    rfl
  cases snapshot with
  | none => exact built " SELECT 1::bigint AS snapshot_count"
  | insert aggregateId payload version | update aggregateId payload version =>
    exact built " SELECT COUNT(*)::bigint AS snapshot_count FROM written_snapshot"

end Compiled

/-! ### The meaning of a statement -/

namespace SqlValue

variable {Value : Type}

def asText : SqlValue Value → Option String
  | .text value => some value
  | _ => none

def asBigint : SqlValue Value → Option Int
  | .bigint value => some value
  | _ => none

/-- A bigint in a column that holds no negative numbers. -/
def asNatural : SqlValue Value → Option Nat
  | .bigint (.ofNat value) => some value
  | _ => none

def asInteger : SqlValue Value → Option Int
  | .integer value => some value
  | _ => none

def asUuid : SqlValue Value → Option Uuid
  | .uuid value => some value
  | _ => none

def asJson : SqlValue Value → Option Value
  | .json value => some value
  | _ => none

def asTimestamp : SqlValue Value → Option (Option DateTime)
  | .timestamp value => some value
  | _ => none

def asDouble : SqlValue Value → Option Nat
  | .double value => some value
  | _ => none

end SqlValue

section Execution

variable {Value : Type}

/-- A row of values under the columns of a list. -/
abbrev Fields (Value : Type) := List (Column × SqlValue Value)

/-- The value of a column, if it is of the type that is read. -/
def Fields.get {β : Type} (fields : Fields Value) (column : Column)
    (read : SqlValue Value → Option β) : Option β :=
  (fields.lookup column).bind read

def readSnapshot (fields : Fields Value) : Option (SnapshotRow Value) := do
  let aggregateType ← fields.get .aggregateType SqlValue.asText
  let aggregateId ← fields.get .aggregateId SqlValue.asText
  let lastSequence ← fields.get .lastSequence SqlValue.asNatural
  let currentSnapshot ← fields.get .currentSnapshot SqlValue.asNatural
  let payload ← fields.get .payload SqlValue.asJson
  return ⟨aggregateType, aggregateId, lastSequence, currentSnapshot, payload⟩

def readEvent (fields : Fields Value) : Option (EventRow Value) := do
  let aggregateType ← fields.get .aggregateType SqlValue.asText
  let aggregateId ← fields.get .aggregateId SqlValue.asText
  let sequence ← fields.get .sequence SqlValue.asNatural
  let eventType ← fields.get .eventType SqlValue.asText
  let eventVersion ← fields.get .eventVersion SqlValue.asText
  let payload ← fields.get .payload SqlValue.asJson
  let metadata ← fields.get .metadata SqlValue.asJson
  return ⟨aggregateType, aggregateId, sequence, eventType, eventVersion, payload, metadata⟩

/-- A row of the outbox; the columns that are not named have their defaults. -/
def readTask (fields : Fields Value) : Option (OutboxRow Value) := do
  let id ← fields.get .id SqlValue.asUuid
  let aggregateType ← fields.get .aggregateType SqlValue.asText
  let aggregateId ← fields.get .aggregateId SqlValue.asText
  let aggregateSequence ← fields.get .aggregateSequence SqlValue.asNatural
  let taskType ← fields.get .taskType SqlValue.asText
  let taskVersion ← fields.get .taskVersion SqlValue.asInteger
  let payload ← fields.get .payload SqlValue.asJson
  let metadata ← fields.get .metadata SqlValue.asJson
  let available ← fields.get .availableAt SqlValue.asTimestamp
  let availableAt ← available
  let maxAttempts ← fields.get .maxAttempts SqlValue.asInteger
  return ⟨id, aggregateType, aggregateId, aggregateSequence, taskType, taskVersion, payload,
    metadata, .pending, availableAt, none, 0, maxAttempts, none, none, none, none⟩

def TaskItem.value (now : DateTime) (input : Fields Value) : TaskItem → Option (SqlValue Value)
  | .column own => input.lookup own
  | .availability => do
    let scheduled ← input.get .scheduledAt SqlValue.asTimestamp
    let delay ← input.get .delayMs SqlValue.asDouble
    return .timestamp (some (scheduled.getD (afterMillis now delay)))

/-- The values of columns with their parameters. -/
def fieldsOf (arguments : List (SqlValue Value)) (pairs : List (Column × Nat)) :
    Option (Fields Value) := do
  let values ← parameters arguments (pairs.map Prod.snd)
  return (pairs.map Prod.fst).zip values

/-- The snapshots after the statement, and how many of them it wrote. -/
def executeSnapshot (arguments : List (SqlValue Value)) (snapshots : List (SnapshotRow Value)) :
    Option SnapshotClause → Option (Except SqlxError (List (SnapshotRow Value) × Nat))
  | none => some (.ok (snapshots, 1))
  | some (.insert columns row) => do
    let values ← parameters arguments row
    let row ← readSnapshot (columns.zip values)
    return insertSnapshotRow row snapshots
  | some (.update assigned conditions) => do
    let changes ← fieldsOf arguments assigned
    let lastSequence ← changes.get .lastSequence SqlValue.asNatural
    let currentSnapshot ← changes.get .currentSnapshot SqlValue.asNatural
    let payload ← changes.get .payload SqlValue.asJson
    let keys ← fieldsOf arguments conditions
    let aggregateType ← keys.get .aggregateType SqlValue.asText
    let aggregateId ← keys.get .aggregateId SqlValue.asText
    let previous ← keys.get .currentSnapshot SqlValue.asBigint
    let addressed (row : SnapshotRow Value) : Bool := row.aggregateType = aggregateType ∧
      row.aggregateId = aggregateId ∧ (row.currentSnapshot : Int) = previous
    let updated := snapshots.map fun row =>
      if addressed row then { row with lastSequence, currentSnapshot, payload } else row
    return if (updated.map SnapshotRow.key).Nodup then .ok (updated, snapshots.countP addressed)
      else .error .snapshotsPkey

/-- The rows that the tasks insert. -/
def selectTasks (arguments : List (SqlValue Value)) (now : DateTime) :
    Option TaskClause → Option (List (OutboxRow Value))
  | none => some []
  | some clause => do
    let rows ← clause.rows.mapM (parameters arguments)
    rows.mapM fun values => do
      let items ← clause.items.mapM (TaskItem.value now (clause.input.zip values))
      readTask (clause.columns.zip items)

variable [JsonValue Value]

def insertTaskRows (rows outbox : List (OutboxRow Value)) :
    Except SqlxError (List (OutboxRow Value)) :=
  if ¬ ∀ row ∈ rows, row.Checks then .error .outboxCheck
  else if ((outbox ++ rows).map OutboxRow.id).Nodup then .ok (outbox ++ rows)
  else .error .outboxPkey

/-- A statement on the tables: no value if a parameter or a column is missing or of another type,
else the tables and the count it returns, or the constraint it violates. -/
def execute (query : WriteQuery) (arguments : List (SqlValue Value)) (now : DateTime)
    (tables : Tables Value) : Option (Except SqlxError (Tables Value × Nat)) := do
  let snapshot ← executeSnapshot arguments tables.snapshots query.snapshot
  let values ← parameters arguments query.event.row
  let event ← readEvent (query.event.columns.zip values)
  let tasks ← selectTasks arguments now query.tasks
  return do
    let (snapshots, count) ← snapshot
    if query.event.guarded ∧ count = 0 then
      return ({ tables with snapshots := snapshots }, count)
    let events ← insertEventRow event tables.events
    let outbox ← insertTaskRows tasks tables.outbox
    return (⟨events, snapshots, outbox⟩, count)

/-! ### What the statement does -/

variable (typeName : String) (sequence : Nat) (tasks : List (NewTask Value))
  (event : SerializedEvent Value) (snapshot : SnapshotWrite Value)

theorem readTask_taskValues (now : DateTime) (task : NewTask Value) :
    (do
      let items ← outboxItems.mapM
        (TaskItem.value now (inputColumns.zip (taskValues typeName sequence event task)))
      readTask (outboxColumns.zip items))
      = some (.published task typeName event.aggregateId sequence now) :=
  rfl

theorem readTasks_taskValues (now : DateTime) :
    (tasks.map (taskValues typeName sequence event)).mapM (fun values => do
        let items ← outboxItems.mapM (TaskItem.value now (inputColumns.zip values))
        readTask (outboxColumns.zip items))
      = some (taskRows typeName sequence event now tasks) := by
  induction tasks with
  | nil => rfl
  | cons task rest ih =>
    rw [List.map_cons, List.mapM_cons, readTask_taskValues, ih]
    rfl

/-- The numbers of the event's placeholders lead to its values. -/
theorem eventParameters :
    parameters (persistOneQuery typeName sequence tasks event snapshot).arguments
      (writeQuery typeName sequence tasks event snapshot).event.row
      = some (eventValues typeName sequence event) := by
  rw [persistOneQuery_arguments]
  have found := parameters_append (snapshotValues typeName sequence snapshot)
    (eventValues typeName sequence event) (tasks.map (taskValues typeName sequence event)).flatten
  rw [snapshotValues_length] at found
  exact found

/-- The numbers of the tasks' placeholders lead to the values of the tasks. -/
theorem taskParameters :
    (numberRows (snapshot.bindCount + 8) (tasks.map (taskValues typeName sequence event))).mapM
      (parameters (persistOneQuery typeName sequence tasks event snapshot).arguments)
      = some (tasks.map (taskValues typeName sequence event)) := by
  have numbers : snapshot.bindCount + 8 = (snapshotValues typeName sequence snapshot
      ++ eventValues typeName sequence event).length + 1 := by
    rw [List.length_append, snapshotValues_length]
    rfl
  have found := rowParameters_append (snapshotValues typeName sequence snapshot
    ++ eventValues typeName sequence event) (tasks.map (taskValues typeName sequence event)) []
  rw [List.append_nil, ← numbers, ← persistOneQuery_arguments] at found
  exact found

theorem selectTasks_writeQuery (now : DateTime) :
    selectTasks (persistOneQuery typeName sequence tasks event snapshot).arguments now
      (writeQuery typeName sequence tasks event snapshot).tasks
      = some (taskRows typeName sequence event now tasks) := by
  have found := taskParameters typeName sequence tasks event snapshot
  cases tasks with
  | nil => rfl
  | cons task rest =>
    show (List.mapM _ _ >>= fun rows => List.mapM _ rows) = _
    rw [found]
    exact readTasks_taskValues typeName sequence (task :: rest) event now

omit [JsonValue Value] in
/-- The rows that an update addresses are those of the version before. -/
theorem isPrevious_eq (aggregateId : String) (version : Nat) :
    (fun row : SnapshotRow Value => decide (row.aggregateType = typeName ∧
      row.aggregateId = aggregateId ∧ (row.currentSnapshot : Int) = (version : Int) - 1))
      = isPrevious typeName aggregateId version := by
  funext row
  have same : (row.currentSnapshot : Int) = (version : Int) - 1
      ↔ row.currentSnapshot + 1 = version := by omega
  simp only [isPrevious, same]

theorem executeSnapshot_writeQuery (snapshots : List (SnapshotRow Value)) :
    executeSnapshot (persistOneQuery typeName sequence tasks event snapshot).arguments snapshots
      (writeQuery typeName sequence tasks event snapshot).snapshot
      = some (writeSnapshot typeName sequence snapshots snapshot) := by
  rw [persistOneQuery_arguments]
  cases snapshot with
  | none => rfl
  | insert aggregateId payload version => rfl
  | update aggregateId payload version =>
    show some (if _ then Except.ok (_, snapshots.countP fun row => decide (_ ∧ _ ∧ _)) else _) = _
    simp only [writeSnapshot, updatedSnapshots, ← isPrevious_eq]

/-- **The meaning of the compiled statement.** -/
theorem execute_writeQuery (now : DateTime) (tables : Tables Value) :
    execute (writeQuery typeName sequence tasks event snapshot)
      (persistOneQuery typeName sequence tasks event snapshot).arguments now tables
      = some (statement typeName sequence tasks event snapshot now tables) := by
  rw [execute, executeSnapshot_writeQuery, eventParameters, selectTasks_writeQuery]
  show some _ = some _
  cases snapshot with
  | none => rfl
  | insert aggregateId payload version | update aggregateId payload version =>
    simp only [statement, writeQuery, SnapshotWrite.isDue, true_and]
    rfl

/-! ### The values and their columns -/

/-- The field of the event that a column names. -/
def eventField : Column → Option (SqlValue Value)
  | .aggregateType => some (.text typeName)
  | .aggregateId => some (.text event.aggregateId)
  | .sequence => some (.bigint sequence)
  | .eventType => some (.text event.eventType)
  | .eventVersion => some (.text event.eventVersion)
  | .payload => some (.json event.payload)
  | .metadata => some (.json event.metadata)
  | _ => none

/-- The field of a task that a column of the input names. -/
def taskField (task : NewTask Value) : Column → Option (SqlValue Value)
  | .id => some (.uuid task.id)
  | .aggregateType => some (.text typeName)
  | .aggregateId => some (.text event.aggregateId)
  | .aggregateSequence => some (.bigint sequence)
  | .taskType => some (.text task.format.taskType)
  | .taskVersion => some (.integer task.format.taskVersion)
  | .payload => some (.json task.payload)
  | .metadata => some (.json task.metadata)
  | .scheduledAt => some (.timestamp (scheduleParts task.schedule).1)
  | .delayMs => some (.double (scheduleParts task.schedule).2)
  | .maxAttempts => some (.integer task.maxAttempts)
  | _ => none

omit [JsonValue Value] in
/-- The parameters of a row are the fields that its columns name, place by place. -/
def BoundTo (arguments : List (SqlValue Value)) (row : List Nat) (columns : List Column)
    (field : Column → Option (SqlValue Value)) : Prop :=
  ∃ values, parameters arguments row = some values ∧ columns.map field = values.map some

theorem eventBound :
    BoundTo (persistOneQuery typeName sequence tasks event snapshot).arguments
      (writeQuery typeName sequence tasks event snapshot).event.row
      (writeQuery typeName sequence tasks event snapshot).event.columns
      (eventField typeName sequence event) :=
  ⟨_, eventParameters typeName sequence tasks event snapshot, rfl⟩

/-- Every task has a row of parameters, which are its fields. -/
theorem tasksBound {clause : TaskClause}
    (clauses : (writeQuery typeName sequence tasks event snapshot).tasks = some clause) :
    List.Forall₂ (fun row task =>
      BoundTo (persistOneQuery typeName sequence tasks event snapshot).arguments row clause.input
        (taskField typeName sequence event task)) clause.rows tasks := by
  unfold writeQuery at clauses
  split at clauses
  · cases clauses
  · obtain rfl := Option.some.inj clauses
    have pairs := forall₂_of_mapM (taskParameters typeName sequence tasks event snapshot)
    rw [List.forall₂_map_right_iff] at pairs
    exact pairs.imp fun row task values => ⟨_, values, rfl⟩

omit [JsonValue Value] in
/-- Every bigint that is bound fits into 64 bits. -/
theorem bigints_fit (fits : sequence < 2 ^ 63)
    (versions : ∀ aggregateId payload version, snapshot = .insert aggregateId payload version ∨
      snapshot = .update aggregateId payload version → version < 2 ^ 63) {value : Int}
    (bound : SqlValue.bigint value ∈ snapshotValues typeName sequence snapshot) :
    -2 ^ 63 ≤ value ∧ value < 2 ^ 63 := by
  cases snapshot with
  | none => cases bound
  | insert aggregateId payload version | update aggregateId payload version =>
    have small := versions aggregateId payload version (by simp)
    simp only [snapshotValues, List.mem_cons, SqlValue.bigint.injEq, List.not_mem_nil, or_false,
      reduceCtorEq, false_or] at bound
    omega

/-! ### What is stored -/

omit [JsonValue Value] in
/-- The snapshots after a write that was due and done. -/
def snapshotsAfter (snapshots : List (SnapshotRow Value)) :
    SnapshotWrite Value → List (SnapshotRow Value)
  | .none => snapshots
  | .insert aggregateId payload version =>
    snapshots ++ [insertedSnapshot typeName sequence aggregateId payload version]
  | .update aggregateId payload version =>
    updatedSnapshots typeName sequence aggregateId payload version snapshots

/-- The tables with the event, the snapshot and the tasks, and nothing else changed. -/
def tablesAfter (now : DateTime) (tables : Tables Value) : Tables Value where
  events := tables.events ++ [eventRow typeName sequence event]
  snapshots := snapshotsAfter typeName sequence tables.snapshots snapshot
  outbox := tables.outbox ++ taskRows typeName sequence event now tasks

omit [JsonValue Value] in
/-- No key of the snapshot is taken, and an update finds the one row of the version before. -/
def SnapshotFree (snapshots : List (SnapshotRow Value)) : SnapshotWrite Value → Prop
  | .none => True
  | .insert aggregateId _ _ => (typeName, aggregateId, sequence) ∉ snapshots.map SnapshotRow.key
  | .update aggregateId payload version =>
    snapshots.countP (isPrevious typeName aggregateId version) = 1 ∧
      ((updatedSnapshots typeName sequence aggregateId payload version snapshots).map
        SnapshotRow.key).Nodup

/-- Nothing hinders a write: no key is taken, an update finds its row, and tasks have a sequence
that their table accepts. -/
structure Unhindered (tables : Tables Value) : Prop where
  eventFree : (typeName, event.aggregateId, sequence) ∉ tables.events.map EventRow.key
  snapshotFree : SnapshotFree typeName sequence tables.snapshots snapshot
  tasksFree : (tables.outbox.map OutboxRow.id ++ tasks.map NewTask.id).Nodup
  positive : tasks ≠ [] → 0 < sequence

theorem taskRows_ids (now : DateTime) :
    (taskRows typeName sequence event now tasks).map OutboxRow.id = tasks.map NewTask.id := by
  rw [taskRows, List.map_map]
  rfl

/-- The rows of the tasks meet the constraints exactly with a positive sequence. -/
theorem taskRows_checks (now : DateTime) :
    (∀ row ∈ taskRows typeName sequence event now tasks, row.Checks) ↔
      (tasks ≠ [] → 0 < sequence) := by
  constructor
  · intro checks some_
    obtain ⟨task, member⟩ := List.exists_mem_of_ne_nil tasks some_
    exact (checks _ (List.mem_map_of_mem member)).sequencePositive
  · intro positive row member
    obtain ⟨task, given, rfl⟩ := List.mem_map.mp member
    exact OutboxRow.published_checks task typeName event.aggregateId now
      (positive (List.ne_nil_of_mem given))

variable {typeName sequence tasks event snapshot}

omit [JsonValue Value] in
theorem writeSnapshot_one_iff {before after : List (SnapshotRow Value)} :
    writeSnapshot typeName sequence before snapshot = .ok (after, 1) ↔
      SnapshotFree typeName sequence before snapshot ∧
        after = snapshotsAfter typeName sequence before snapshot := by
  constructor
  · intro written
    rcases writeSnapshot_cases typeName sequence written with ⟨_, done⟩ | ⟨zero, _⟩
    · cases done with
      | none same => exact ⟨trivial, same⟩
      | inserted aggregateId payload version fresh added => exact ⟨fresh, added⟩
      | updated aggregateId payload version one changed kept =>
        exact ⟨⟨one, changed ▸ kept⟩, changed⟩
    · cases zero
  · rintro ⟨free, rfl⟩
    cases snapshot with
    | none => rfl
    | insert aggregateId payload version => exact if_neg free
    | update aggregateId payload version =>
      obtain ⟨one, kept⟩ := free
      simp only [writeSnapshot, if_pos kept, one, snapshotsAfter]

theorem insertTasks_iff {now : DateTime} {outbox after : List (OutboxRow Value)} :
    insertTasks typeName sequence event now tasks outbox = .ok after ↔
      (tasks ≠ [] → 0 < sequence) ∧ (outbox.map OutboxRow.id ++ tasks.map NewTask.id).Nodup ∧
        after = outbox ++ taskRows typeName sequence event now tasks := by
  rw [← taskRows_checks typeName sequence tasks event now,
    ← taskRows_ids typeName sequence tasks event now, ← List.map_append]
  constructor
  · intro inserted
    obtain ⟨rfl, checks, distinct⟩ := insertTasks_ok inserted
    exact ⟨checks, distinct, rfl⟩
  · rintro ⟨checks, distinct, rfl⟩
    simp only [insertTasks, if_neg (not_not.mpr checks), if_pos distinct]

/-- **Everything is stored exactly where nothing hinders it.** -/
theorem statement_iff (now : DateTime) (tables : Tables Value) :
    statement typeName sequence tasks event snapshot now tables
        = .ok (tablesAfter typeName sequence tasks event snapshot now tables, 1) ↔
      Unhindered typeName sequence tasks event snapshot tables := by
  constructor
  · intro stored
    obtain ⟨⟨snapshots, count⟩, written, stored⟩ := bind_ok stored
    rcases writeSnapshot_cases typeName sequence written with ⟨rfl, _⟩ | ⟨rfl, _⟩
    · obtain ⟨events, inserted, stored⟩ := bind_ok stored
      obtain ⟨outbox, added, _⟩ := bind_ok stored
      obtain ⟨positive, distinct, _⟩ := insertTasks_iff.mp added
      refine ⟨fun taken => ?_, (writeSnapshot_one_iff.mp written).1, distinct, positive⟩
      have refused : insertEvent typeName sequence event tables.events = .error .eventsPkey :=
        if_pos taken
      exact absurd (refused.symm.trans inserted) nofun
    · exact absurd (Prod.mk.inj (Except.ok.inj stored)).2 nofun
  · rintro ⟨fresh, free, distinct, positive⟩
    have written := writeSnapshot_one_iff.mpr ⟨free, rfl⟩
    have inserted : insertEvent typeName sequence event tables.events
        = .ok (tables.events ++ [eventRow typeName sequence event]) := if_neg fresh
    have added := insertTasks_iff.mpr ⟨positive, distinct,
      (rfl : tables.outbox ++ taskRows typeName sequence event now tasks = _)⟩
    unfold statement
    rw [written]
    show (insertEvent typeName sequence event tables.events).bind _ = _
    rw [inserted]
    show (insertTasks typeName sequence event now tasks tables.outbox).bind _ = _
    rw [added]
    rfl

/-! ### Accepted plans -/

variable (typeName sequence tasks event snapshot)

/-- What holds of the statement of an accepted plan. -/
structure CompiledStatement : Prop where
  counted : bindCount tasks.length snapshot.bindCount
    = some (7 + 11 * tasks.length + snapshot.bindCount)
  numbered : placeholders (persistOneQuery typeName sequence tasks event snapshot).tokens
    = List.range' 1 (7 + 11 * tasks.length + snapshot.bindCount)
  bound : (persistOneQuery typeName sequence tasks event snapshot).arguments.length
    = 7 + 11 * tasks.length + snapshot.bindCount
  below : 7 + 11 * tasks.length + snapshot.bindCount < 65535
  kept : sequence = event.sequence
  fits : ∀ value, SqlValue.bigint value ∈
    (persistOneQuery typeName sequence tasks event snapshot).arguments →
      -2 ^ 63 ≤ value ∧ value < 2 ^ 63
  spelled : (persistOneQuery typeName sequence tasks event snapshot).tokens
    = (writeQuery typeName sequence tasks event snapshot).tokens
  eventFields : BoundTo (persistOneQuery typeName sequence tasks event snapshot).arguments
    (writeQuery typeName sequence tasks event snapshot).event.row
    (writeQuery typeName sequence tasks event snapshot).event.columns
    (eventField typeName sequence event)
  taskFields : ∀ clause, (writeQuery typeName sequence tasks event snapshot).tasks = some clause →
    List.Forall₂ (fun row task =>
      BoundTo (persistOneQuery typeName sequence tasks event snapshot).arguments row clause.input
        (taskField typeName sequence event task)) clause.rows tasks
  stored : ∀ now tables, execute (writeQuery typeName sequence tasks event snapshot)
      (persistOneQuery typeName sequence tasks event snapshot).arguments now tables
      = some (.ok (tablesAfter typeName sequence tasks event snapshot now tables, 1)) ↔
    Unhindered typeName sequence tasks event snapshot tables
  modelled : ∀ now tables, execute (writeQuery typeName sequence tasks event snapshot)
      (persistOneQuery typeName sequence tasks event snapshot).arguments now tables
      = some (statement typeName sequence tasks event snapshot now tables)

theorem persistOneQuery_length :
    (persistOneQuery typeName sequence tasks event snapshot).arguments.length
      = 7 + 11 * tasks.length + snapshot.bindCount := by
  have each : ∀ tasks : List (NewTask Value),
      (tasks.map (taskValues typeName sequence event)).flatten.length = 11 * tasks.length := by
    intro tasks
    induction tasks with
    | nil => rfl
    | cons task rest ih =>
      rw [List.map_cons, List.flatten_cons, List.length_append, ih, List.length_cons]
      show 11 + _ = _
      omega
  rw [persistOneQuery_arguments, List.length_append, List.length_append, each,
    snapshotValues_length]
  show _ + 7 + _ = _
  omega

/-- The bigints of the event and of the tasks are the sequence. -/
theorem bigint_rows {value : Int}
    (bound : SqlValue.bigint value ∈ eventValues typeName sequence event
      ++ (tasks.map (taskValues typeName sequence event)).flatten) : value = sequence := by
  rcases List.mem_append.mp bound with inEvent | inTasks
  · simpa [eventValues] using inEvent
  · obtain ⟨row, listed, member⟩ := List.mem_flatten.mp inTasks
    obtain ⟨task, _, rfl⟩ := List.mem_map.mp listed
    simpa [taskValues] using member

variable {typeName sequence tasks event snapshot}

/-- **The statement of an accepted plan matches it.** -/
theorem compiled_statement (typeName : String) {events : List (SerializedEvent Value)}
    {update : Option (SnapshotUpdate Value)} {tasks : List (NewTask Value)}
    {event : SerializedEvent Value} {sequence : Nat} {snapshot : SnapshotWrite Value}
    (planned : WritePlan.new events update tasks = .ok (.oneEvent event sequence snapshot)) :
    CompiledStatement typeName sequence tasks event snapshot := by
  obtain ⟨made, accepted, converted⟩ := WritePlan.new_oneEvent planned
  obtain ⟨counted, below⟩ := validateBindCount_ok accepted
  have fits := sequenceAsI64_fits converted
  have length := persistOneQuery_length typeName sequence tasks event snapshot
  refine ⟨counted, ?_, length, below, sequenceAsI64_ok converted, fun value bound => ?_,
    persistOneQuery_tokens typeName sequence tasks event snapshot,
    eventBound typeName sequence tasks event snapshot,
    fun clause => tasksBound typeName sequence tasks event snapshot, fun now tables => ?_,
    fun now tables => ?_⟩
  · rw [QueryBuilder.placeholders_tokens, length]
  · rw [persistOneQuery_arguments, List.append_assoc] at bound
    rcases List.mem_append.mp bound with inSnapshot | inRows
    · exact bigints_fit typeName sequence snapshot fits (SnapshotWrite.new_fits made) inSnapshot
    · have same := bigint_rows typeName sequence tasks event inRows
      omega
  · rw [execute_writeQuery, Option.some_inj]
    exact statement_iff now tables
  · exact execute_writeQuery typeName sequence tasks event snapshot now tables

end Execution

/-! ### Statements on empty tables -/

def emptyTables : Tables (PlainValue Nat Nat) := ⟨[], [], []⟩

def plainEvent (sequence : Nat) : SerializedEvent (PlainValue Nat Nat) :=
  ⟨"a", sequence, "account", "opened", "1", .event 1, .object⟩

def plainTask : NewTask (PlainValue Nat Nat) := mailTask 7 .now trivial

/-- **Two accepted plans that store nothing** in empty tables: the update of a snapshot whose
version before is not there, and a task with an event of sequence 0. -/
theorem statement_stores_nothing :
    (WritePlan.new [plainEvent 2] (some ⟨"a", .state 1, 2⟩) []
        = .ok (.oneEvent (plainEvent 2) 2 (.update "a" (.state 1) 2)) ∧
      execute (writeQuery "account" 2 [] (plainEvent 2) (.update "a" (.state 1) 2))
        (persistOneQuery "account" 2 [] (plainEvent 2) (.update "a" (.state 1) 2)).arguments 0
        emptyTables = some (.ok (emptyTables, 0))) ∧
    (WritePlan.new [plainEvent 0] none [plainTask] = .ok (.oneEvent (plainEvent 0) 0 .none) ∧
      execute (writeQuery "account" 0 [plainTask] (plainEvent 0) .none)
        (persistOneQuery "account" 0 [plainTask] (plainEvent 0) .none).arguments 0 emptyTables
        = some (.error .outboxCheck)) := by
  refine ⟨⟨?_, ?_⟩, ?_, ?_⟩ <;> decide +kernel

/-- The first event of an aggregate, with its snapshot and a task. -/
theorem compiled_statement_first :
    WritePlan.new [plainEvent 1] (some ⟨"a", .state 1, 1⟩) [plainTask]
        = .ok (.oneEvent (plainEvent 1) 1 (.insert "a" (.state 1) 1)) ∧
      CompiledStatement "account" 1 [plainTask] (plainEvent 1) (.insert "a" (.state 1) 1) := by
  have planned : WritePlan.new [plainEvent 1] (some ⟨"a", .state 1, 1⟩) [plainTask]
      = .ok (.oneEvent (plainEvent 1) 1 (.insert "a" (.state 1) 1)) := by decide +kernel
  exact ⟨planned, compiled_statement "account" planned⟩

end AccountManagement.Store
