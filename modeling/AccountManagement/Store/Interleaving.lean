/-
**The store machine: any number of executions over the same tables.**

A state holds the tables, the committed events in commit order, and the executions. An action
starts an execution, makes one move of one of them, or lets other writers change what does not
belong to this aggregate type, within the primary keys: rows of other types and the whole outbox. An
execution that is dropped just never moves again.

`Execution.step_moved` is the inversion of a move: the cases every invariant distinguishes.
-/

import AccountManagement.Library.Keyed
import AccountManagement.Library.Machine
import AccountManagement.Store.Streams

namespace AccountManagement.Store

open AccountManagement.Library AccountManagement.Task AccountManagement.Outbox

section Interleaving

variable {Value : Type} [JsonValue Value] {S : StoredAggregate Value}

/-! ### Moves -/

/-- A phase between attempts or after the last one. -/
def Phase.Idle : Phase S → Prop
  | .loading => True
  | .returned _ => True
  | _ => False

/-- The same command with the same tasks. -/
structure Execution.SameCommand (first second : Execution S) : Prop where
  aggregateId : second.aggregateId = first.aggregateId
  command : second.command = first.command
  tasks : second.tasks = first.tasks

theorem Execution.finishAttempt_same (maxAttempts : Nat) (execution : Execution S)
    (result : Except (AggregateError S.Error) Unit) :
    execution.SameCommand (execution.finishAttempt maxAttempts result) ∧
      (execution.finishAttempt maxAttempts result).phase.Idle := by
  unfold finishAttempt
  split
  · exact ⟨⟨rfl, rfl, rfl⟩, trivial⟩
  · split
    · split
      · exact ⟨⟨rfl, rfl, rfl⟩, trivial⟩
      · exact ⟨⟨rfl, rfl, rfl⟩, trivial⟩
    · exact ⟨⟨rfl, rfl, rfl⟩, trivial⟩

/-- **What a move can do.** -/
inductive Execution.Moved (config : PostgresCommandConfig) (execution : Execution S)
    (tables : Tables Value) : Move → Stepped S → Prop
  | readSnapshot (choice : Nat) :
      Moved config execution tables (.readSnapshot choice)
        ⟨tables, { execution with
          phase := .snapshotRead (loadSnapshot S execution.aggregateId choice tables) }, none⟩
  | readTail (context loaded : Context S) (decision : Decision S) :
      execution.phase = .snapshotRead context → loadTail context tables = .ok loaded →
      decideCommand config.snapshotInterval loaded execution.command = .ok decision →
      Moved config execution tables .readTail
        ⟨tables, { execution with phase := .decided decision }, none⟩
  | write (decision : Decision S) (now : DateTime) (lost : Bool) :
      execution.phase = .decided decision →
      Moved config execution tables (.write now lost)
        (execution.write config decision now lost tables)
  | panicked (context : Context S) :
      execution.phase = .snapshotRead context →
      (loadTail context tables = .panicked ∨ ∃ loaded, loadTail context tables = .ok loaded ∧
        decideCommand config.snapshotInterval loaded execution.command = .panicked) →
      Moved config execution tables .readTail
        ⟨tables, { execution with phase := .panicked }, none⟩
  | ended (move : Move) (next : Execution S) :
      execution.SameCommand next → next.phase.Idle →
      Moved config execution tables move ⟨tables, next, none⟩

theorem Execution.step_moved {config : PostgresCommandConfig} {execution : Execution S}
    {move : Move} {tables : Tables Value} {stepped : Stepped S}
    (moved : execution.step config move tables = some stepped) :
    execution.Moved config tables move stepped := by
  unfold step at moved
  split at moved
  · rename_i choice _
    obtain rfl := Option.some.inj moved
    exact .readSnapshot choice
  · rename_i context phase
    obtain rfl := Option.some.inj moved
    have same := execution.finishAttempt_same config.conflictRetry.maxAttempts
    unfold decideTail
    split
    · exact .ended _ _ (same _).1 (same _).2
    · rename_i failed
      exact .panicked context phase (.inl failed)
    · rename_i loaded read
      split
      · exact .ended _ _ (same _).1 (same _).2
      · rename_i failed
        exact .panicked context phase (.inr ⟨loaded, read, failed⟩)
      · rename_i decision decided
        exact .readTail context loaded decision phase read decided
  · rename_i decision now lost phase
    obtain rfl := Option.some.inj moved
    exact .write decision now lost phase
  · obtain rfl := Option.some.inj moved
    exact .ended _ _ ⟨rfl, rfl, rfl⟩ trivial
  · obtain rfl := Option.some.inj moved
    exact .ended _ _ ⟨rfl, rfl, rfl⟩ trivial
  · obtain rfl := Option.some.inj moved
    exact .ended _ _ ⟨rfl, rfl, rfl⟩ trivial
  · cases moved

theorem Execution.write_execution (config : PostgresCommandConfig) (execution : Execution S)
    (decision : Decision S) (now : DateTime) (lost : Bool) (tables : Tables Value) :
    execution.SameCommand (execution.write config decision now lost tables).execution ∧
      (execution.write config decision now lost tables).execution.phase.Idle := by
  unfold write
  cases lost with
  | true => exact ⟨⟨rfl, rfl, rfl⟩, trivial⟩
  | false => exact execution.finishAttempt_same _ _

/-- **The effect of a write**: it commits the one event of its decision completely, or it leaves
the tables as they were. -/
theorem Execution.write_cases (config : PostgresCommandConfig) (execution : Execution S)
    (decision : Decision S) (now : DateTime) (lost : Bool) (tables : Tables Value) :
    (∃ event write written,
      decision.events = [event] ∧ SnapshotWrite.new decision.update = .ok write ∧
      Committed S.typeName (decision.context.currentSequence + 1) execution.tasks
        (serializeEvent S decision.context.aggregateId
          (decision.context.currentSequence + 1) event) write now tables written ∧
      (execution.write config decision now lost tables).tables = written ∧
      (execution.write config decision now lost tables).committed
        = some ⟨execution.aggregateId, execution.command, event, execution.tasks⟩) ∨
    ((execution.write config decision now lost tables).tables = tables ∧
      (execution.write config decision now lost tables).committed = none) := by
  rcases persistCommand_cases S.typeName execution.tasks
      (wrapEvents decision.context decision.events) decision.update now tables with
    ⟨none, _, _, persisted⟩ | ⟨stored, write, written, one, made, persisted, done⟩ |
    ⟨error, persisted⟩
  · refine .inr ⟨?_, ?_⟩
    · simp only [Execution.write, persisted]
    · have empty : decision.events = [] := by simpa [wrapEvents] using none
      simp only [Execution.write, persisted]
      rw [empty]
      rfl
  · obtain ⟨event, single, rfl⟩ := wrapEvents_singleton one
    refine .inl ⟨event, write, written, single, made, done, ?_, ?_⟩
    · simp only [Execution.write, persisted]
    · simp only [Execution.write, persisted]
      rw [single]
      rfl
  · refine .inr ⟨?_, ?_⟩
    · simp only [Execution.write, persisted]
    · simp only [Execution.write, persisted, Execution.commit]

/-- **The effect of a move**: it commits one event completely, or it leaves the tables as they
were. -/
theorem Execution.step_effect {config : PostgresCommandConfig} {execution : Execution S}
    {move : Move} {tables : Tables Value} {stepped : Stepped S}
    (moved : execution.step config move tables = some stepped) :
    (stepped.tables = tables ∧ stepped.committed = none) ∨
    ∃ aggregateId sequence event write now lost, move = .write now lost ∧
      Committed S.typeName sequence execution.tasks (serializeEvent S aggregateId sequence event)
        write now tables stepped.tables ∧
      stepped.committed
        = some ⟨execution.aggregateId, execution.command, event, execution.tasks⟩ := by
  cases step_moved moved with
  | readSnapshot | readTail | panicked | ended => exact .inl ⟨rfl, rfl⟩
  | write decision now lost phase =>
    rcases execution.write_cases config decision now lost tables with
      ⟨event, write, written, _, _, done, same, committed⟩ | same
    · rw [← same] at done
      exact .inr ⟨_, _, event, write, now, lost, rfl, done, committed⟩
    · exact .inl same

/-- A commit posts pending rows only. -/
theorem Execution.step_completed {config : PostgresCommandConfig} {execution : Execution S}
    {move : Move} {tables : Tables Value} {stepped : Stepped S}
    (moved : execution.step config move tables = some stepped) {row : OutboxRow Value}
    (member : row ∈ stepped.tables.outbox) (completed : row.status = .completed) :
    row ∈ tables.outbox := by
  rcases step_effect moved with ⟨same, _⟩ | ⟨_, _, _, _, _, _, _, done, _⟩
  · rw [same] at member
    exact member
  · rw [done.outbox] at member
    rcases List.mem_append.mp member with old | new
    · exact old
    · obtain ⟨task, _, rfl⟩ := List.mem_map.mp new
      cases completed

/-! ### The machine -/

variable (S)

/-- The tables, what was committed, and the executions. -/
structure StoreState where
  tables : Tables Value
  log : List (Commit S)
  executions : List (Execution S)

inductive StoreAction where
  | start (aggregateId : String) (command : S.Command) (tasks : List (NewTask Value))
  | act (index : Nat) (move : Move)
  | foreign (tables : Tables Value)

/-- Two tables that agree on the rows of this aggregate type. -/
def Untouched (before after : Tables Value) : Prop :=
  after.events.filter (fun row => row.aggregateType = S.typeName)
      = before.events.filter (fun row => row.aggregateType = S.typeName) ∧
    after.snapshots.filter (fun row => row.aggregateType = S.typeName)
      = before.snapshots.filter (fun row => row.aggregateType = S.typeName)

instance [DecidableEq Value] (before after : Tables Value) : Decidable (Untouched S before after) :=
  inferInstanceAs (Decidable (_ ∧ _))

variable {S} in
omit [JsonValue Value] in
/-- Streams and snapshots of this type survive what other writers do. -/
theorem Untouched.own {before after : Tables Value} (untouched : Untouched S before after)
    (aggregateId : String) :
    ownEvents S aggregateId after = ownEvents S aggregateId before ∧
      ownSnapshots S aggregateId after = ownSnapshots S aggregateId before := by
  have events : ∀ tables : Tables Value, ownEvents S aggregateId tables
      = (tables.events.filter fun row => row.aggregateType = S.typeName).filter
        fun row => row.aggregateId = aggregateId := by
    intro tables
    rw [List.filter_filter]
    refine List.filter_congr fun row _ => ?_
    rw [Bool.decide_and, Bool.and_comm]
  have snapshots : ∀ tables : Tables Value, ownSnapshots S aggregateId tables
      = (tables.snapshots.filter fun row => row.aggregateType = S.typeName).filter
        fun row => row.aggregateId = aggregateId := by
    intro tables
    rw [List.filter_filter]
    refine List.filter_congr fun row _ => ?_
    rw [Bool.decide_and, Bool.and_comm]
  rw [events, events, snapshots, snapshots, untouched.1, untouched.2]
  exact ⟨rfl, rfl⟩

variable {S} in
/-- A write of another aggregate type touches no row of this one. -/
theorem Committed.untouched {typeName : String} {sequence : Nat} {tasks : List (NewTask Value)}
    {event : SerializedEvent Value} {write : SnapshotWrite Value} {now : DateTime}
    {before after : Tables Value}
    (done : Committed typeName sequence tasks event write now before after)
    (other : typeName ≠ S.typeName) : Untouched S before after := by
  constructor
  · rw [done.events, List.filter_append, List.filter_cons_of_neg, List.filter_nil, List.append_nil]
    exact fun same => other (of_decide_eq_true same)
  · cases done.snapshots with
    | none same => rw [same]
    | inserted aggregateId payload version _ added =>
      rw [added, List.filter_append, List.filter_cons_of_neg, List.filter_nil, List.append_nil]
      exact fun same => other (of_decide_eq_true same)
    | updated aggregateId payload version _ changed _ =>
      rw [changed, updatedSnapshots]
      refine Keyed.filter_map_spared (fun row own => if_neg fun previous => ?_) (fun row => ?_) _
      · exact other ((of_decide_eq_true previous).1.symm.trans (of_decide_eq_true own))
      · split <;> rfl

/-- The store machine, from empty tables. -/
def storeMachine [DecidableEq Value] (config : PostgresCommandConfig) :
    Machine (StoreState S) (StoreAction S) where
  start := ⟨⟨[], [], []⟩, [], []⟩
  step s
    | .start aggregateId command tasks =>
      some { s with executions := s.executions ++ [.begin aggregateId command tasks] }
    | .act index move => do
      let execution ← s.executions[index]?
      let stepped ← execution.step config move s.tables
      return {
        tables := stepped.tables
        log := s.log ++ stepped.committed.toList
        executions := s.executions.set index stepped.execution }
    | .foreign tables =>
      if Untouched S s.tables tables ∧ tables.Keyed then some { s with tables } else none

variable {S}

/-- A move of an execution, as a step of the store. -/
theorem storeMachine_act [DecidableEq Value] {config : PostgresCommandConfig} {s : StoreState S}
    {index : Nat} {move : Move} {execution : Execution S} {stepped : Stepped S}
    (found : s.executions[index]? = some execution)
    (moved : execution.step config move s.tables = some stepped) :
    (storeMachine S config).step s (.act index move)
      = some ⟨stepped.tables, s.log ++ stepped.committed.toList,
        s.executions.set index stepped.execution⟩ := by
  show (s.executions[index]?).bind _ = _
  rw [found, Option.bind_some, moved]
  rfl

/-- **Everything a step of the store can do.** -/
theorem storeMachine_cases [DecidableEq Value] {config : PostgresCommandConfig}
    {s t : StoreState S} {action : StoreAction S}
    (stepped : (storeMachine S config).step s action = some t) :
    (∃ aggregateId command tasks, action = .start aggregateId command tasks ∧
      t = { s with executions := s.executions ++ [.begin aggregateId command tasks] }) ∨
    (∃ index move execution result, action = .act index move ∧
      s.executions[index]? = some execution ∧ execution.Moved config s.tables move result ∧
      t = ⟨result.tables, s.log ++ result.committed.toList,
        s.executions.set index result.execution⟩) ∨
    (∃ tables, action = .foreign tables ∧ Untouched S s.tables tables ∧ tables.Keyed ∧
      t = { s with tables := tables }) := by
  cases action with
  | start aggregateId command tasks =>
    exact .inl ⟨aggregateId, command, tasks, rfl, (Option.some.inj stepped).symm⟩
  | act index move =>
    obtain ⟨execution, found, stepped⟩ := Option.bind_eq_some_iff.mp stepped
    obtain ⟨result, moved, stepped⟩ := Option.bind_eq_some_iff.mp stepped
    exact .inr (.inl ⟨index, move, execution, result, rfl, found, Execution.step_moved moved,
      (Option.some.inj stepped).symm⟩)
  | foreign tables =>
    simp only [storeMachine] at stepped
    split at stepped
    · rename_i allowed
      exact .inr (.inr ⟨tables, rfl, allowed.1, allowed.2, (Option.some.inj stepped).symm⟩)
    · cases stepped

end Interleaving

end AccountManagement.Store
