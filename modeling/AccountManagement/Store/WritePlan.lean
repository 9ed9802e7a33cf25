/-
**Write plans: the checks before any SQL.**

A command commits at most one event, and a snapshot or tasks only together with it; sequences and
versions must fit into a signed 64-bit column, and the statement's parameters into the protocol's
limit. `WritePlan.new_cases` says what an accepted plan is, `WritePlan.new_error` that a rejected one
is never taken for an optimistic conflict.
-/

import AccountManagement.Library.Results
import AccountManagement.Task.Data

namespace AccountManagement.Store

open AccountManagement.Library AccountManagement.Task

/-- An event as the repository receives it. -/
structure SerializedEvent (Value : Type) where
  aggregateId : String
  sequence : Nat
  aggregateType : String
  eventType : String
  eventVersion : String
  payload : Value
  metadata : Value
deriving DecidableEq

/-- The snapshot that is due with a commit. -/
structure SnapshotUpdate (Value : Type) where
  aggregateId : String
  payload : Value
  version : Nat
deriving DecidableEq

inductive WriteValidationError where
  | multipleEvents
  | snapshotWithoutEvent
  | tasksWithoutEvent
  | sequenceOverflow
  | bindLimitExceeded
deriving DecidableEq

/-- What a database call can fail with: a violated constraint by name, a lost connection, or
anything else. -/
inductive SqlxError where
  | eventsPkey
  | snapshotsPkey
  | outboxPkey
  | outboxCheck
  | connection
  | other
deriving DecidableEq

/-- The error of an unclassified failure. -/
inductive UnknownSource where
  | invalidWrite (reason : WriteValidationError)
  | database (error : SqlxError)
deriving DecidableEq

inductive PersistenceError where
  | optimisticLockError
  | connectionError
  | deserializationError
  | unknownError (source : UnknownSource)
deriving DecidableEq

/-- Only the two event-store keys are optimistic conflicts. -/
def mapSqlxError : SqlxError → PersistenceError
  | .eventsPkey => .optimisticLockError
  | .snapshotsPkey => .optimisticLockError
  | .connection => .connectionError
  | error => .unknownError (.database error)

def invalidWrite (reason : WriteValidationError) : PersistenceError :=
  .unknownError (.invalidWrite reason)

/-- What the statement does to the snapshots. -/
inductive SnapshotWrite (Value : Type) where
  | none
  | insert (aggregateId : String) (payload : Value) (version : Nat)
  | update (aggregateId : String) (payload : Value) (version : Nat)
deriving DecidableEq

inductive WritePlan (Value : Type) where
  | noOp
  | oneEvent (event : SerializedEvent Value) (sequence : Nat) (snapshot : SnapshotWrite Value)
deriving DecidableEq

def sequenceAsI64 (sequence : Nat) : Except PersistenceError Nat :=
  if sequence ≤ 2 ^ 63 - 1 then .ok sequence else .error (invalidWrite .sequenceOverflow)

/-- 64-bit sizes. -/
def checkedSize (size : Nat) : Option Nat := if size < 2 ^ 64 then some size else none

/-- Eleven parameters a task, seven for the event, and those of the snapshot. -/
def bindCount (tasks snapshotBinds : Nat) : Option Nat := do
  let count ← checkedSize (tasks * 11)
  let count ← checkedSize (count + 7)
  checkedSize (count + snapshotBinds)

def validateBindCount (tasks snapshotBinds : Nat) : Except PersistenceError Unit :=
  match bindCount tasks snapshotBinds with
  | some count =>
    if count < 65535 then .ok () else .error (invalidWrite .bindLimitExceeded)
  | none => .error (invalidWrite .bindLimitExceeded)

section Plans

variable {Value : Type}

/-- Version 1 is inserted, every other version updates the one before it. -/
def SnapshotWrite.new : Option (SnapshotUpdate Value) → Except PersistenceError (SnapshotWrite Value)
  | Option.none => .ok .none
  | some due => do
    let version ← sequenceAsI64 due.version
    return if version = 1 then .insert due.aggregateId due.payload version
      else .update due.aggregateId due.payload version

def SnapshotWrite.bindCount : SnapshotWrite Value → Nat
  | .none => 0
  | .insert _ _ _ => 5
  | .update _ _ _ => 6

theorem sequenceAsI64_ok {sequence stored : Nat} (fits : sequenceAsI64 sequence = .ok stored) :
    stored = sequence := by
  unfold sequenceAsI64 at fits
  split at fits
  · exact (Except.ok.inj fits).symm
  · cases fits

theorem sequenceAsI64_fits {sequence stored : Nat} (fits : sequenceAsI64 sequence = .ok stored) :
    stored < 2 ^ 63 := by
  unfold sequenceAsI64 at fits
  split at fits
  · obtain rfl := Except.ok.inj fits
    omega
  · cases fits

/-- Every check fails with an invalid write. -/
theorem sequenceAsI64_error {sequence : Nat} {error : PersistenceError}
    (rejected : sequenceAsI64 sequence = .error error) :
    error = invalidWrite .sequenceOverflow := by
  unfold sequenceAsI64 at rejected
  split at rejected
  · cases rejected
  · exact (Except.error.inj rejected).symm

theorem validateBindCount_error {tasks binds : Nat} {error : PersistenceError}
    (rejected : validateBindCount tasks binds = .error error) :
    error = invalidWrite .bindLimitExceeded := by
  unfold validateBindCount at rejected
  split at rejected
  · split at rejected
    · cases rejected
    · exact (Except.error.inj rejected).symm
  · exact (Except.error.inj rejected).symm

/-- A checked size is the exact one. -/
theorem checkedSize_some {size checked : Nat} (fits : checkedSize size = some checked) :
    checked = size ∧ size < 2 ^ 64 := by
  unfold checkedSize at fits
  split at fits
  · exact ⟨(Option.some.inj fits).symm, ‹_›⟩
  · cases fits

/-- An accepted number of parameters is counted without an overflow, and is below the limit. -/
theorem validateBindCount_ok {tasks binds : Nat} (accepted : validateBindCount tasks binds = .ok ()) :
    bindCount tasks binds = some (7 + 11 * tasks + binds) ∧ 7 + 11 * tasks + binds < 65535 := by
  unfold validateBindCount at accepted
  split at accepted
  · rename_i count counted
    split at accepted
    · rename_i below
      have parts := counted
      unfold bindCount at parts
      obtain ⟨product, first, parts⟩ := Option.bind_eq_some_iff.mp parts
      obtain ⟨sum, second, third⟩ := Option.bind_eq_some_iff.mp parts
      obtain ⟨rfl, _⟩ := checkedSize_some first
      obtain ⟨rfl, _⟩ := checkedSize_some second
      obtain ⟨rfl, _⟩ := checkedSize_some third
      have total : tasks * 11 + 7 + binds = 7 + 11 * tasks + binds := by omega
      rw [total] at counted below
      exact ⟨counted, below⟩
    · cases accepted
  · cases accepted

/-- What a snapshot write is made from. -/
theorem SnapshotWrite.new_ok {snapshot : Option (SnapshotUpdate Value)}
    {write : SnapshotWrite Value} (made : SnapshotWrite.new snapshot = .ok write) :
    (snapshot = Option.none ∧ write = .none) ∨
      ∃ due, snapshot = some due ∧
        write = if due.version = 1 then .insert due.aggregateId due.payload due.version
          else .update due.aggregateId due.payload due.version := by
  cases snapshot with
  | none => exact .inl ⟨rfl, (Except.ok.inj made).symm⟩
  | some due =>
    obtain ⟨version, fits, made⟩ := bind_ok made
    obtain rfl := sequenceAsI64_ok fits
    exact .inr ⟨due, rfl, (Except.ok.inj made).symm⟩

/-- The version of a snapshot write fits into its column. -/
theorem SnapshotWrite.new_fits {snapshot : Option (SnapshotUpdate Value)}
    {write : SnapshotWrite Value} (made : SnapshotWrite.new snapshot = .ok write)
    (aggregateId : String) (payload : Value) (version : Nat)
    (writes : write = .insert aggregateId payload version ∨
      write = .update aggregateId payload version) : version < 2 ^ 63 := by
  cases snapshot with
  | none =>
    obtain rfl := Except.ok.inj made
    rcases writes with same | same <;> cases same
  | some due =>
    obtain ⟨stored, fits, made⟩ := bind_ok made
    have small := sequenceAsI64_fits fits
    obtain rfl := Except.ok.inj made
    split at writes
    · rcases writes with same | same
      · obtain ⟨_, _, rfl⟩ := SnapshotWrite.insert.inj same
        exact small
      · cases same
    · rcases writes with same | same
      · cases same
      · obtain ⟨_, _, rfl⟩ := SnapshotWrite.update.inj same
        exact small

variable [JsonValue Value]

def WritePlan.new (events : List (SerializedEvent Value)) (snapshot : Option (SnapshotUpdate Value))
    (tasks : List (NewTask Value)) : Except PersistenceError (WritePlan Value) :=
  match events with
  | [] =>
    if snapshot.isSome then .error (invalidWrite .snapshotWithoutEvent)
    else if tasks ≠ [] then .error (invalidWrite .tasksWithoutEvent)
    else .ok .noOp
  | [event] => do
    let write ← SnapshotWrite.new snapshot
    validateBindCount tasks.length write.bindCount
    let sequence ← sequenceAsI64 event.sequence
    return .oneEvent event sequence write
  | _ => .error (invalidWrite .multipleEvents)

/-- **An accepted plan** is empty, or it is the one event of the command. -/
theorem WritePlan.new_cases {events : List (SerializedEvent Value)}
    {snapshot : Option (SnapshotUpdate Value)} {tasks : List (NewTask Value)}
    {plan : WritePlan Value} (planned : WritePlan.new events snapshot tasks = .ok plan) :
    (events = [] ∧ snapshot = none ∧ tasks = [] ∧ plan = .noOp) ∨
      ∃ event write, events = [event] ∧ SnapshotWrite.new snapshot = .ok write ∧
        plan = .oneEvent event event.sequence write := by
  unfold WritePlan.new at planned
  split at planned
  · split at planned
    · cases planned
    · rename_i noSnapshot
      split at planned
      · cases planned
      · rename_i noTasks
        exact .inl ⟨rfl, by simpa using noSnapshot, not_not.mp noTasks,
          (Except.ok.inj planned).symm⟩
  · rename_i event
    obtain ⟨write, made, planned⟩ := bind_ok planned
    obtain ⟨_, _, planned⟩ := bind_ok planned
    obtain ⟨sequence, fits, planned⟩ := bind_ok planned
    obtain rfl := sequenceAsI64_ok fits
    exact .inr ⟨event, write, rfl, made, (Except.ok.inj planned).symm⟩
  · cases planned

/-- The checks that the plan of an event has passed. -/
theorem WritePlan.new_oneEvent {events : List (SerializedEvent Value)}
    {snapshot : Option (SnapshotUpdate Value)} {tasks : List (NewTask Value)}
    {event : SerializedEvent Value} {sequence : Nat} {write : SnapshotWrite Value}
    (planned : WritePlan.new events snapshot tasks = .ok (.oneEvent event sequence write)) :
    SnapshotWrite.new snapshot = .ok write ∧ validateBindCount tasks.length write.bindCount = .ok () ∧
      sequenceAsI64 event.sequence = .ok sequence := by
  unfold WritePlan.new at planned
  split at planned
  · split at planned
    · cases planned
    · split at planned
      · cases planned
      · cases planned
  · obtain ⟨made, written, planned⟩ := bind_ok planned
    obtain ⟨_, counted, planned⟩ := bind_ok planned
    obtain ⟨stored, fits, planned⟩ := bind_ok planned
    obtain ⟨rfl, rfl, rfl⟩ := WritePlan.oneEvent.inj (Except.ok.inj planned)
    exact ⟨written, counted, fits⟩
  · cases planned

/-- **A rejected plan** is an invalid write, never an optimistic conflict. -/
theorem WritePlan.new_error {events : List (SerializedEvent Value)}
    {snapshot : Option (SnapshotUpdate Value)} {tasks : List (NewTask Value)}
    {error : PersistenceError} (rejected : WritePlan.new events snapshot tasks = .error error) :
    ∃ reason, error = invalidWrite reason := by
  unfold WritePlan.new at rejected
  split at rejected
  · split at rejected
    · exact ⟨_, (Except.error.inj rejected).symm⟩
    · split at rejected
      · exact ⟨_, (Except.error.inj rejected).symm⟩
      · cases rejected
  · rcases bind_error rejected with failed | ⟨write, _, rejected⟩
    · cases snapshot with
      | none => cases failed
      | some due =>
        rcases bind_error failed with overflow | ⟨_, _, made⟩
        · exact ⟨_, sequenceAsI64_error overflow⟩
        · cases made
    · rcases bind_error rejected with tooMany | ⟨_, _, rejected⟩
      · exact ⟨_, validateBindCount_error tooMany⟩
      · rcases bind_error rejected with overflow | ⟨_, _, planned⟩
        · exact ⟨_, sequenceAsI64_error overflow⟩
        · cases planned
  · exact ⟨_, (Except.error.inj rejected).symm⟩

end Plans

end AccountManagement.Store
