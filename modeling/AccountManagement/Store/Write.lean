/-
**The single write statement.**

The three tables with their primary keys, and the one modifying statement that stores an event, its
snapshot and its tasks. A violated constraint rolls the statement back; a statement that completes
without its snapshot has inserted nothing.

* `persistOne_cases`, `persistCommand_cases`: a confirmed write is `Committed`, with the complete
  event, snapshot and tasks; every other answer leaves all three tables as they were.
* `persistOne_ne_conflict`: a free event key and a writable snapshot exclude a conflict.
* `Committed.keyed`: the primary keys survive.
-/

import AccountManagement.Outbox.Row
import AccountManagement.Store.WritePlan
import Mathlib.Data.List.Nodup

namespace AccountManagement.Store

open AccountManagement.Library AccountManagement.Task AccountManagement.Outbox

/-! ### Tables -/

structure EventRow (Value : Type) where
  aggregateType : String
  aggregateId : String
  sequence : Nat
  eventType : String
  eventVersion : String
  payload : Value
  metadata : Value
deriving DecidableEq

structure SnapshotRow (Value : Type) where
  aggregateType : String
  aggregateId : String
  lastSequence : Nat
  currentSnapshot : Nat
  payload : Value
deriving DecidableEq

structure Tables (Value : Type) where
  events : List (EventRow Value)
  snapshots : List (SnapshotRow Value)
  outbox : List (OutboxRow Value)
deriving DecidableEq

section Tables

variable {Value : Type}

/-- The primary key of the events. -/
def EventRow.key (row : EventRow Value) : String × String × Nat :=
  (row.aggregateType, row.aggregateId, row.sequence)

/-- The primary key of the snapshots. -/
def SnapshotRow.key (row : SnapshotRow Value) : String × String × Nat :=
  (row.aggregateType, row.aggregateId, row.lastSequence)

/-- Tables whose rows satisfy the primary keys. -/
structure Tables.Keyed (tables : Tables Value) : Prop where
  events : (tables.events.map EventRow.key).Nodup
  snapshots : (tables.snapshots.map SnapshotRow.key).Nodup
  outbox : (tables.outbox.map OutboxRow.id).Nodup

instance (tables : Tables Value) : Decidable tables.Keyed :=
  decidable_of_iff ((tables.events.map EventRow.key).Nodup ∧
      (tables.snapshots.map SnapshotRow.key).Nodup ∧ (tables.outbox.map OutboxRow.id).Nodup)
    ⟨fun ⟨events, snapshots, outbox⟩ => ⟨events, snapshots, outbox⟩,
      fun ⟨events, snapshots, outbox⟩ => ⟨events, snapshots, outbox⟩⟩

/-! ### The parts of the statement -/

def insertSnapshotRow (row : SnapshotRow Value) (snapshots : List (SnapshotRow Value)) :
    Except SqlxError (List (SnapshotRow Value) × Nat) :=
  if row.key ∈ snapshots.map SnapshotRow.key then .error .snapshotsPkey
  else .ok (snapshots ++ [row], 1)

def insertEventRow (row : EventRow Value) (events : List (EventRow Value)) :
    Except SqlxError (List (EventRow Value)) :=
  if row.key ∈ events.map EventRow.key then .error .eventsPkey else .ok (events ++ [row])

variable (typeName : String) (sequence : Nat)

def insertedSnapshot (aggregateId : String) (payload : Value) (version : Nat) :
    SnapshotRow Value where
  aggregateType := typeName
  aggregateId := aggregateId
  lastSequence := sequence
  currentSnapshot := version
  payload := payload

/-- The rows an update of version `version` addresses: those of the version before. -/
def isPrevious (aggregateId : String) (version : Nat) (row : SnapshotRow Value) : Bool :=
  row.aggregateType = typeName ∧ row.aggregateId = aggregateId ∧ row.currentSnapshot + 1 = version

def updatedSnapshots (aggregateId : String) (payload : Value) (version : Nat)
    (snapshots : List (SnapshotRow Value)) : List (SnapshotRow Value) :=
  snapshots.map fun row =>
    if isPrevious typeName aggregateId version row then
      { row with lastSequence := sequence, currentSnapshot := version, payload := payload }
    else row

/-- The snapshots after the statement, and how many of them it wrote. -/
def writeSnapshot (snapshots : List (SnapshotRow Value)) :
    SnapshotWrite Value → Except SqlxError (List (SnapshotRow Value) × Nat)
  | .none => .ok (snapshots, 1)
  | .insert aggregateId payload version =>
    insertSnapshotRow (insertedSnapshot typeName sequence aggregateId payload version) snapshots
  | .update aggregateId payload version =>
    let updated := updatedSnapshots typeName sequence aggregateId payload version snapshots
    if (updated.map SnapshotRow.key).Nodup then
      .ok (updated, snapshots.countP (isPrevious typeName aggregateId version))
    else .error .snapshotsPkey

def eventRow (event : SerializedEvent Value) : EventRow Value where
  aggregateType := typeName
  aggregateId := event.aggregateId
  sequence := sequence
  eventType := event.eventType
  eventVersion := event.eventVersion
  payload := event.payload
  metadata := event.metadata

def insertEvent (event : SerializedEvent Value) (events : List (EventRow Value)) :
    Except SqlxError (List (EventRow Value)) :=
  insertEventRow (eventRow typeName sequence event) events

variable [JsonValue Value]

def taskRows (event : SerializedEvent Value) (now : DateTime) (tasks : List (NewTask Value)) :
    List (OutboxRow Value) :=
  tasks.map fun task => .published task typeName event.aggregateId sequence now

def insertTasks (event : SerializedEvent Value) (now : DateTime) (tasks : List (NewTask Value))
    (outbox : List (OutboxRow Value)) : Except SqlxError (List (OutboxRow Value)) :=
  let rows := taskRows typeName sequence event now tasks
  if ¬ ∀ row ∈ rows, row.Checks then .error .outboxCheck
  else if ((outbox ++ rows).map OutboxRow.id).Nodup then .ok (outbox ++ rows)
  else .error .outboxPkey

/-- The statement: the new tables and the snapshot count it returns. The event is inserted only if
a due snapshot was written, and the tasks only with the event. -/
def statement (tasks : List (NewTask Value)) (event : SerializedEvent Value)
    (snapshot : SnapshotWrite Value) (now : DateTime) (tables : Tables Value) :
    Except SqlxError (Tables Value × Nat) := do
  let (snapshots, count) ← writeSnapshot typeName sequence tables.snapshots snapshot
  if count = 0 then
    return ({ tables with snapshots := snapshots }, count)
  let events ← insertEvent typeName sequence event tables.events
  let outbox ← insertTasks typeName sequence event now tasks tables.outbox
  return (⟨events, snapshots, outbox⟩, count)

/-- The tables after a write, and what the repository answers. -/
def persistOne (tasks : List (NewTask Value)) (event : SerializedEvent Value)
    (snapshot : SnapshotWrite Value) (now : DateTime) (tables : Tables Value) :
    Tables Value × Except PersistenceError Unit :=
  match statement typeName sequence tasks event snapshot now tables with
  | .error error => (tables, .error (mapSqlxError error))
  | .ok (written, 1) => (written, .ok ())
  | .ok (written, _) => (written, .error .optimisticLockError)

/-- A command's write: its plan, then its statement. -/
def persistCommand (tasks : List (NewTask Value)) (events : List (SerializedEvent Value))
    (snapshot : Option (SnapshotUpdate Value)) (now : DateTime) (tables : Tables Value) :
    Tables Value × Except PersistenceError Unit :=
  match WritePlan.new events snapshot tasks with
  | .error error => (tables, .error error)
  | .ok .noOp => (tables, .ok ())
  | .ok (.oneEvent event sequence snapshot) =>
    persistOne typeName sequence tasks event snapshot now tables

/-! ### What a write does -/

omit [JsonValue Value] in
theorem updatedSnapshots_of_none {aggregateId : String} (payload : Value) {version : Nat}
    {snapshots : List (SnapshotRow Value)}
    (absent : snapshots.countP (isPrevious typeName aggregateId version) = 0) :
    updatedSnapshots typeName sequence aggregateId payload version snapshots = snapshots := by
  rw [List.countP_eq_zero] at absent
  unfold updatedSnapshots
  conv_rhs => rw [← List.map_id snapshots]
  refine List.map_congr_left fun row member => ?_
  rw [if_neg (absent row member), id]

omit [JsonValue Value] in
/-- An update that passes the key addressed at most one row: it gives all of them one key. -/
theorem countP_isPrevious_le {aggregateId : String} {payload : Value} {version : Nat}
    {snapshots : List (SnapshotRow Value)}
    (distinct : ((updatedSnapshots typeName sequence aggregateId payload version snapshots).map
      SnapshotRow.key).Nodup) :
    snapshots.countP (isPrevious typeName aggregateId version) ≤ 1 := by
  rw [updatedSnapshots, List.map_map] at distinct
  have addressed := distinct.sublist
    ((List.filter_sublist (p := isPrevious typeName aggregateId version)).map _)
  have constant : ∀ key ∈ (snapshots.filter (isPrevious typeName aggregateId version)).map
      (SnapshotRow.key ∘ fun row => if isPrevious typeName aggregateId version row then
        { row with lastSequence := sequence, currentSnapshot := version, payload := payload }
      else row), key = (typeName, aggregateId, sequence) := by
    intro key member
    obtain ⟨row, found, rfl⟩ := List.mem_map.mp member
    have previous := (List.mem_filter.mp found).2
    obtain ⟨sameType, sameId, _⟩ := of_decide_eq_true previous
    rw [Function.comp_apply, if_pos previous]
    exact Prod.ext sameType (Prod.ext sameId rfl)
  rw [List.eq_replicate_of_mem constant, List.nodup_replicate, List.length_map] at addressed
  rw [List.countP_eq_length_filter]
  exact addressed

/-- What a snapshot write that was due and done did. -/
inductive SnapshotCommitted (before after : List (SnapshotRow Value)) : SnapshotWrite Value → Prop
  | none : after = before → SnapshotCommitted before after .none
  | inserted (aggregateId : String) (payload : Value) (version : Nat) :
      (typeName, aggregateId, sequence) ∉ before.map SnapshotRow.key →
      after = before ++ [insertedSnapshot typeName sequence aggregateId payload version] →
      SnapshotCommitted before after (.insert aggregateId payload version)
  | updated (aggregateId : String) (payload : Value) (version : Nat) :
      before.countP (isPrevious typeName aggregateId version) = 1 →
      after = updatedSnapshots typeName sequence aggregateId payload version before →
      (after.map SnapshotRow.key).Nodup →
      SnapshotCommitted before after (.update aggregateId payload version)

omit [JsonValue Value] in
/-- A snapshot write that passes the keys was done, or addressed a version that does not exist. -/
theorem writeSnapshot_cases {before after : List (SnapshotRow Value)} {count : Nat}
    {write : SnapshotWrite Value}
    (written : writeSnapshot typeName sequence before write = .ok (after, count)) :
    (count = 1 ∧ SnapshotCommitted typeName sequence before after write) ∨
      (count = 0 ∧ after = before) := by
  cases write with
  | none =>
    obtain ⟨rfl, rfl⟩ := Prod.mk.inj (Except.ok.inj written)
    exact .inl ⟨rfl, .none rfl⟩
  | insert aggregateId payload version =>
    simp only [writeSnapshot, insertSnapshotRow] at written
    split at written
    · cases written
    · rename_i fresh
      obtain ⟨rfl, rfl⟩ := Prod.mk.inj (Except.ok.inj written)
      exact .inl ⟨rfl, .inserted aggregateId payload version fresh rfl⟩
  | update aggregateId payload version =>
    simp only [writeSnapshot] at written
    split at written
    · rename_i distinct
      obtain ⟨rfl, rfl⟩ := Prod.mk.inj (Except.ok.inj written)
      have atMost := countP_isPrevious_le typeName sequence distinct
      rcases Nat.le_one_iff_eq_zero_or_eq_one.mp atMost with absent | one
      · exact .inr ⟨absent, updatedSnapshots_of_none typeName sequence payload absent⟩
      · exact .inl ⟨one, .updated aggregateId payload version one rfl distinct⟩
    · cases written

/-- **A complete write**: the event under a free key, the due snapshot, and every task once, tagged
with the event's aggregate and sequence. -/
structure Committed (tasks : List (NewTask Value)) (event : SerializedEvent Value)
    (snapshot : SnapshotWrite Value) (now : DateTime) (before after : Tables Value) : Prop where
  eventFresh : (typeName, event.aggregateId, sequence) ∉ before.events.map EventRow.key
  events : after.events = before.events ++ [eventRow typeName sequence event]
  snapshots : SnapshotCommitted typeName sequence before.snapshots after.snapshots snapshot
  outbox : after.outbox = before.outbox ++ taskRows typeName sequence event now tasks
  tasksChecked : ∀ row ∈ taskRows typeName sequence event now tasks, row.Checks
  tasksFresh : (after.outbox.map OutboxRow.id).Nodup

variable {typeName sequence}

/-- The tasks of a complete write were inserted as a whole. -/
theorem Committed.inserted {tasks : List (NewTask Value)} {event : SerializedEvent Value}
    {snapshot : SnapshotWrite Value} {now : DateTime} {before after : Tables Value}
    (done : Committed typeName sequence tasks event snapshot now before after) :
    insertTasks typeName sequence event now tasks before.outbox = .ok after.outbox := by
  have fresh := done.tasksFresh
  rw [done.outbox] at fresh ⊢
  simp only [insertTasks]
  rw [if_neg (not_not.mpr done.tasksChecked), if_pos fresh]

theorem insertTasks_ok {event : SerializedEvent Value} {now : DateTime}
    {tasks : List (NewTask Value)} {before after : List (OutboxRow Value)}
    (inserted : insertTasks typeName sequence event now tasks before = .ok after) :
    after = before ++ taskRows typeName sequence event now tasks ∧
      (∀ row ∈ taskRows typeName sequence event now tasks, row.Checks) ∧
      (after.map OutboxRow.id).Nodup := by
  simp only [insertTasks] at inserted
  split at inserted
  · cases inserted
  · rename_i checked
    split at inserted
    · rename_i distinct
      obtain rfl := Except.ok.inj inserted
      exact ⟨rfl, not_not.mp checked, distinct⟩
    · cases inserted

/-- A statement that completes wrote everything, or nothing because its snapshot row was gone. -/
theorem statement_cases {tasks : List (NewTask Value)} {event : SerializedEvent Value}
    {snapshot : SnapshotWrite Value} {now : DateTime} {tables written : Tables Value} {count : Nat}
    (completed : statement typeName sequence tasks event snapshot now tables
      = .ok (written, count)) :
    (count = 1 ∧ Committed typeName sequence tasks event snapshot now tables written) ∨
      (count = 0 ∧ written = tables) := by
  obtain ⟨⟨snapshots, found⟩, snapshotWritten, completed⟩ := bind_ok completed
  rcases writeSnapshot_cases typeName sequence snapshotWritten with ⟨rfl, done⟩ | ⟨rfl, rfl⟩
  · obtain ⟨events, eventWritten, completed⟩ := bind_ok completed
    obtain ⟨outbox, tasksWritten, completed⟩ := bind_ok completed
    obtain ⟨rfl, rfl⟩ := Prod.mk.inj (Except.ok.inj completed)
    obtain ⟨tasksInserted, tasksChecked, tasksFresh⟩ := insertTasks_ok tasksWritten
    simp only [insertEvent, insertEventRow] at eventWritten
    split at eventWritten
    · cases eventWritten
    · rename_i fresh
      obtain rfl := Except.ok.inj eventWritten
      exact .inl ⟨rfl, fresh, rfl, done, tasksInserted, tasksChecked, tasksFresh⟩
  · obtain ⟨rfl, rfl⟩ := Prod.mk.inj (Except.ok.inj completed)
    exact .inr ⟨rfl, rfl⟩

/-- **Everything a write can do**: commit completely and say so, or leave the tables as they were
and report an error. -/
theorem persistOne_cases (typeName : String) (sequence : Nat) (tasks : List (NewTask Value))
    (event : SerializedEvent Value) (snapshot : SnapshotWrite Value) (now : DateTime)
    (tables : Tables Value) :
    (∃ written, persistOne typeName sequence tasks event snapshot now tables = (written, .ok ()) ∧
      Committed typeName sequence tasks event snapshot now tables written) ∨
    ∃ error, persistOne typeName sequence tasks event snapshot now tables
      = (tables, .error error) := by
  unfold persistOne
  cases completed : statement typeName sequence tasks event snapshot now tables with
  | error error => exact .inr ⟨_, rfl⟩
  | ok result =>
    obtain ⟨written, count⟩ := result
    rcases statement_cases completed with ⟨rfl, done⟩ | ⟨rfl, rfl⟩
    · exact .inl ⟨written, rfl, done⟩
    · exact .inr ⟨_, rfl⟩

/-- A write whose event key is free and whose snapshot can be written is not a conflict. -/
theorem persistOne_ne_conflict {tasks : List (NewTask Value)} {event : SerializedEvent Value}
    {snapshot : SnapshotWrite Value} {now : DateTime} {tables : Tables Value}
    {snapshots : List (SnapshotRow Value)}
    (fresh : (typeName, event.aggregateId, sequence) ∉ tables.events.map EventRow.key)
    (due : writeSnapshot typeName sequence tables.snapshots snapshot = .ok (snapshots, 1)) :
    (persistOne typeName sequence tasks event snapshot now tables).2
      ≠ .error .optimisticLockError := by
  have inserted : insertEvent typeName sequence event tables.events
      = .ok (tables.events ++ [eventRow typeName sequence event]) := if_neg fresh
  have reduced : statement typeName sequence tasks event snapshot now tables
      = (insertTasks typeName sequence event now tasks tables.outbox).bind fun outbox =>
        .ok (⟨tables.events ++ [eventRow typeName sequence event], snapshots, outbox⟩, 1) := by
    unfold statement
    rw [due]
    show (insertEvent typeName sequence event tables.events).bind _ = _
    rw [inserted]
    rfl
  unfold persistOne
  rw [reduced]
  simp only [insertTasks]
  split
  · rename_i checkFailed
    split at checkFailed
    · obtain rfl := Except.error.inj checkFailed
      exact nofun
    · split at checkFailed
      · cases checkFailed
      · obtain rfl := Except.error.inj checkFailed
        exact nofun
  · exact nofun
  · rename_i notOne completed
    split at completed
    · cases completed
    · split at completed
      · obtain ⟨rfl, rfl⟩ := Prod.mk.inj (Except.ok.inj completed)
        exact absurd rfl notOne
      · cases completed

omit [JsonValue Value] in
theorem SnapshotCommitted.keyed {before after : List (SnapshotRow Value)}
    {write : SnapshotWrite Value} (done : SnapshotCommitted typeName sequence before after write)
    (distinct : (before.map SnapshotRow.key).Nodup) : (after.map SnapshotRow.key).Nodup := by
  cases done with
  | none same =>
    rw [same]
    exact distinct
  | inserted aggregateId payload version fresh added =>
    rw [added, List.map_append, List.map_singleton, ← List.concat_eq_append]
    exact List.Nodup.concat fresh distinct
  | updated aggregateId payload version one changed kept => exact kept

omit [JsonValue Value] in
/-- Every row after a snapshot write was there before, or is the one that was due. -/
theorem SnapshotCommitted.mem {before after : List (SnapshotRow Value)}
    {update : Option (SnapshotUpdate Value)} {write : SnapshotWrite Value}
    (done : SnapshotCommitted typeName sequence before after write)
    (made : SnapshotWrite.new update = .ok write) {row : SnapshotRow Value} (member : row ∈ after) :
    row ∈ before ∨ ∃ due, update = some due ∧
      row = insertedSnapshot typeName sequence due.aggregateId due.payload due.version := by
  rcases SnapshotWrite.new_ok made with ⟨rfl, rfl⟩ | ⟨due, rfl, written⟩
  · cases done with
    | none same =>
      rw [same] at member
      exact .inl member
  · cases done with
    | none same =>
      rw [same] at member
      exact .inl member
    | inserted aggregateId payload version fresh added =>
      split at written
      · obtain ⟨rfl, rfl, rfl⟩ := SnapshotWrite.insert.inj written
        rw [added] at member
        rcases List.mem_append.mp member with old | new
        · exact .inl old
        · exact .inr ⟨due, rfl, List.mem_singleton.mp new⟩
      · cases written
    | updated aggregateId payload version one changed kept =>
      split at written
      · cases written
      · obtain ⟨rfl, rfl, rfl⟩ := SnapshotWrite.update.inj written
        rw [changed] at member
        obtain ⟨old, found, rfl⟩ := List.mem_map.mp member
        split
        · rename_i previous
          obtain ⟨sameType, sameId, _⟩ := of_decide_eq_true previous
          refine .inr ⟨due, rfl, ?_⟩
          rw [sameType, sameId]
          rfl
        · exact .inl found

/-- The primary keys survive a write. -/
theorem Committed.keyed {tasks : List (NewTask Value)} {event : SerializedEvent Value}
    {snapshot : SnapshotWrite Value} {now : DateTime} {before after : Tables Value}
    (done : Committed typeName sequence tasks event snapshot now before after)
    (keyed : before.Keyed) : after.Keyed where
  events := by
    rw [done.events, List.map_append, List.map_singleton, ← List.concat_eq_append]
    exact List.Nodup.concat done.eventFresh keyed.events
  snapshots := done.snapshots.keyed keyed.snapshots
  outbox := done.tasksFresh

/-- **Everything a command's write can do.** -/
theorem persistCommand_cases (typeName : String) (tasks : List (NewTask Value))
    (events : List (SerializedEvent Value)) (snapshot : Option (SnapshotUpdate Value))
    (now : DateTime) (tables : Tables Value) :
    (events = [] ∧ snapshot = none ∧ tasks = [] ∧
      persistCommand typeName tasks events snapshot now tables = (tables, .ok ())) ∨
    (∃ event write written, events = [event] ∧ SnapshotWrite.new snapshot = .ok write ∧
      persistCommand typeName tasks events snapshot now tables = (written, .ok ()) ∧
      Committed typeName event.sequence tasks event write now tables written) ∨
    ∃ error, persistCommand typeName tasks events snapshot now tables
      = (tables, .error error) := by
  cases planned : WritePlan.new events snapshot tasks with
  | error error =>
    refine .inr (.inr ⟨error, ?_⟩)
    simp only [persistCommand, planned]
  | ok plan =>
    rcases WritePlan.new_cases planned with ⟨rfl, rfl, rfl, rfl⟩ | ⟨event, write, rfl, made, rfl⟩
    · exact .inl ⟨rfl, rfl, rfl, rfl⟩
    · rcases persistOne_cases typeName event.sequence tasks event write now tables with
        ⟨written, persisted, done⟩ | ⟨error, persisted⟩
      · refine .inr (.inl ⟨event, write, written, rfl, made, ?_, done⟩)
        simp only [persistCommand, planned, persisted]
      · refine .inr (.inr ⟨error, ?_⟩)
        simp only [persistCommand, planned, persisted]

end Tables

end AccountManagement.Store
