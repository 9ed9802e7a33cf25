/-
**What a command's result says about the tables.**

One command is executed while other writers change the tables between its statements in any way
the primary keys allow. Every statement of the command is recorded with the tables it found and
left.

* `command_outcome_exact`: a success means one of the attempts committed the complete set of event,
  tasks and due snapshot, or that there was nothing to commit; a domain error or a conflict means
  that no statement changed anything; unavailability means nothing or the complete set, once. A
  further attempt is made only after a conflict and only within the limit.
-/

import AccountManagement.Store.Snapshots

namespace AccountManagement.Store

open AccountManagement.Library AccountManagement.Task AccountManagement.Outbox

section Outcome

variable {Value : Type} [JsonValue Value] {S : StoredAggregate Value}

/-! ### The machine -/

variable (S)

/-- A statement of the command: the execution that ran it, and the tables around it. -/
structure Statement where
  before : Tables Value
  execution : Execution S
  move : Move
  after : Tables Value

/-- The tables, the execution, and the statements it has run. -/
structure OutcomeState where
  tables : Tables Value
  execution : Execution S
  statements : List (Statement S)

inductive OutcomeAction (Value : Type) where
  | own (move : Move)
  | others (tables : Tables Value)

variable {S}

/-- One command from any tables; other writers leave any tables that satisfy the keys. -/
def outcomeMachine (config : PostgresCommandConfig) (start : Tables Value) (aggregateId : String)
    (command : S.Command) (tasks : List (NewTask Value)) :
    Machine (OutcomeState S) (OutcomeAction Value) where
  start := ⟨start, .begin aggregateId command tasks, []⟩
  step s
    | .own move => do
      let stepped ← s.execution.step config move s.tables
      return {
        tables := stepped.tables
        execution := stepped.execution
        statements := s.statements ++ [⟨s.tables, s.execution, move, stepped.tables⟩] }
    | .others tables => if tables.Keyed then some { s with tables } else none

/-! ### Effects -/

/-- None of the statements changed any table. -/
def NoEffect (statements : List (Statement S)) : Prop :=
  ∀ statement ∈ statements, statement.after = statement.before

/-- The decision of an attempt, from the state its own reads loaded. -/
structure DecidedFrom (config : PostgresCommandConfig) (aggregateId : String) (command : S.Command)
    (attempt : Nat) (statements : List (Statement S)) (decision : Decision S) : Prop where
  loaded : ∃ read ∈ statements, read.execution.attempt = attempt ∧ read.move = .readTail ∧
    ∃ context, read.execution.phase = .snapshotRead context ∧
      loadTail context read.before = .ok decision.context
  decided : decideCommand config.snapshotInterval decision.context command = .ok decision
  aggregateId : decision.context.aggregateId = aggregateId

/-- The statement is a write that committed everything: the one event `handle` emitted on the
loaded state, the snapshot exactly if it is due, and each task under the event's sequence. -/
def CommitsAll (config : PostgresCommandConfig) (aggregateId : String) (command : S.Command)
    (tasks : List (NewTask Value)) (earlier : List (Statement S)) (last : Statement S) : Prop :=
  ∃ decision event snapshot now lost,
    last.execution.phase = .decided decision ∧ last.move = .write now lost ∧
    DecidedFrom config aggregateId command last.execution.attempt earlier decision ∧
    decision.events = [event] ∧ S.handle decision.context.state command = .ok [event] ∧
    (decision.update.isSome ↔
      (decision.context.currentSequence + 1) % config.snapshotInterval = 0) ∧
    SnapshotWrite.new decision.update = .ok snapshot ∧
    Committed S.typeName (decision.context.currentSequence + 1) tasks
      (serializeEvent S aggregateId (decision.context.currentSequence + 1) event) snapshot now
      last.before last.after

/-- Exactly one of the statements had an effect, the last, and it committed everything. -/
def CommittedOnce (config : PostgresCommandConfig) (aggregateId : String) (command : S.Command)
    (tasks : List (NewTask Value)) (statements : List (Statement S)) : Prop :=
  ∃ earlier last, statements = earlier ++ [last] ∧ NoEffect earlier ∧
    CommitsAll config aggregateId command tasks earlier last

/-- The command emitted no event and came without tasks. -/
def NothingToCommit (config : PostgresCommandConfig) (aggregateId : String) (command : S.Command)
    (tasks : List (NewTask Value)) (attempt : Nat) (statements : List (Statement S)) : Prop :=
  tasks = [] ∧ ∃ decision, DecidedFrom config aggregateId command attempt statements decision ∧
    S.handle decision.context.state command = .ok []

/-- A write that was answered as an optimistic conflict. -/
def Statement.Conflicted (statement : Statement S) : Prop :=
  ∃ decision now, statement.execution.phase = .decided decision ∧
    statement.move = .write now false ∧
    (persistCommand S.typeName statement.execution.tasks
      (wrapEvents decision.context decision.events) decision.update now statement.before).2
      = .error .optimisticLockError

theorem noEffect_append {statements : List (Statement S)} {statement : Statement S}
    (none : NoEffect statements) (unchanged : statement.after = statement.before) :
    NoEffect (statements ++ [statement]) :=
  List.forall_mem_append.mpr ⟨none, List.forall_mem_singleton.mpr unchanged⟩

theorem DecidedFrom.append {config : PostgresCommandConfig} {aggregateId : String}
    {command : S.Command} {attempt : Nat} {statements : List (Statement S)}
    {decision : Decision S}
    (from_ : DecidedFrom config aggregateId command attempt statements decision)
    (statement : Statement S) :
    DecidedFrom config aggregateId command attempt (statements ++ [statement]) decision := by
  obtain ⟨⟨read, member, loaded⟩, decided, same⟩ := from_
  exact ⟨⟨read, List.mem_append_left _ member, loaded⟩, decided, same⟩

/-! ### Reads and writes -/

omit [JsonValue Value] in
theorem loadSnapshot_aggregateId (aggregateId : String) (choice : Nat) (tables : Tables Value) :
    (loadSnapshot S aggregateId choice tables).aggregateId = aggregateId := by
  rcases loadSnapshot_cases S aggregateId choice tables with ⟨start, _⟩ | ⟨row, state, _, _, read⟩
  · rw [start]
    rfl
  · rw [read]

omit [JsonValue Value] in
theorem applyEvents_aggregateId {context loaded : Context S} {events : List (Nat × S.Event)}
    (folded : applyEvents context events = some loaded) :
    loaded.aggregateId = context.aggregateId := by
  induction events generalizing context with
  | nil =>
    obtain rfl := Option.some.inj folded
    rfl
  | cons head rest ih =>
    obtain ⟨state, _, folded⟩ := Option.bind_eq_some_iff.mp folded
    exact (ih folded).trans rfl

omit [JsonValue Value] in
theorem loadTail_aggregateId {context loaded : Context S} {tables : Tables Value}
    (read : loadTail context tables = .ok loaded) : loaded.aggregateId = context.aggregateId := by
  unfold loadTail at read
  split at read
  · cases read
  · split at read
    · cases read
    · rename_i folded
      obtain rfl := Outcome.ok.inj read
      exact applyEvents_aggregateId folded

omit [JsonValue Value] in
/-- A decision of one event carries a snapshot exactly at the interval. -/
theorem decideCommand_due {interval : Nat} {context : Context S} {command : S.Command}
    {decision : Decision S} {event : S.Event} (positive : 0 < interval)
    (decided : decideCommand interval context command = .ok decision)
    (one : decision.events = [event]) :
    decision.update.isSome ↔ (context.currentSequence + 1) % interval = 0 := by
  have boundary : commitSnapshotToEvent context.currentSequence interval 1
      = if (context.currentSequence + 1) % interval = 0 then 1 else 0 :=
    commitSnapshotToEvent_one positive
  obtain ⟨_, _, applied, _, ⟨notDue, absent⟩ | ⟨due, again, _, present⟩⟩ :=
    decideCommand_ok decided
  · rw [one, List.length_singleton, boundary] at notDue
    rw [absent]
    by_cases multiple : (context.currentSequence + 1) % interval = 0
    · rw [if_pos multiple] at notDue
      cases notDue
    · exact iff_of_false Bool.false_ne_true multiple
  · rw [one, List.length_singleton, boundary] at due
    rw [present]
    by_cases multiple : (context.currentSequence + 1) % interval = 0
    · exact iff_of_true rfl multiple
    · rw [if_neg multiple] at due
      exact absurd rfl due

/-- A write that is answered as a conflict has changed nothing, whatever was to be written. -/
theorem persistCommand_conflict {typeName : String} {tasks : List (NewTask Value)}
    {events : List (SerializedEvent Value)} {update : Option (SnapshotUpdate Value)}
    {now : DateTime} {tables : Tables Value}
    (conflict : (persistCommand typeName tasks events update now tables).2
      = .error .optimisticLockError) :
    (persistCommand typeName tasks events update now tables).1 = tables := by
  rcases persistCommand_cases typeName tasks events update now tables with
    ⟨_, _, _, persisted⟩ | ⟨_, _, _, _, _, persisted, _⟩ | ⟨error, persisted⟩
  · rw [persisted]
  · rw [persisted] at conflict
    cases conflict
  · rw [persisted]

/-! ### The invariant -/

section Invariant

variable (config : PostgresCommandConfig) (aggregateId : String) (command : S.Command)
  (tasks : List (NewTask Value))

/-- What the statements have done when the execution is in a phase. -/
def PhaseSound (attempt : Nat) (statements : List (Statement S)) : Phase S → Prop
  | .loading | .panicked => NoEffect statements
  | .snapshotRead context => NoEffect statements ∧ context.aggregateId = aggregateId
  | .decided decision =>
    NoEffect statements ∧ DecidedFrom config aggregateId command attempt statements decision
  | .returned (.ok ()) =>
    CommittedOnce config aggregateId command tasks statements ∨
      (NoEffect statements ∧
        NothingToCommit config aggregateId command tasks attempt statements)
  | .returned (.error (.domain _)) => NoEffect statements
  | .returned (.error .conflict) =>
    NoEffect statements ∧ attempt = config.conflictRetry.maxAttempts ∧
      ∃ last ∈ statements, last.execution.attempt = attempt ∧ last.Conflicted
  | .returned (.error .unavailable) =>
    NoEffect statements ∨ CommittedOnce config aggregateId command tasks statements

/-- The invariant of one command. -/
structure OutcomeSound (s : OutcomeState S) : Prop where
  keyed : s.tables.Keyed
  same : (Execution.begin aggregateId command tasks).SameCommand s.execution
  attempts : s.execution.attempt ≤ config.conflictRetry.maxAttempts
  numbered : ∀ statement ∈ s.statements, statement.execution.attempt ≤ s.execution.attempt
  repeated : ∀ earlier, 0 < earlier → earlier < s.execution.attempt →
    ∃ statement ∈ s.statements, statement.execution.attempt = earlier ∧ statement.Conflicted
  phase : PhaseSound config aggregateId command tasks s.execution.attempt s.statements
    s.execution.phase

variable {config aggregateId command tasks}

/-- A failed attempt that is not a conflict ends the command, with no effect. -/
theorem phaseSound_failed {execution : Execution S} {statements : List (Statement S)}
    {error : AggregateError S.Error} (other : error ≠ .aggregateConflict)
    (none : NoEffect statements) :
    PhaseSound config aggregateId command tasks execution.attempt statements
        (.returned (.error (mapAggregateError error))) := by
  cases error with
  | userError reason => exact none
  | aggregateConflict => exact absurd rfl other
  | databaseConnectionError => exact .inl none
  | deserializationError => exact .inl none
  | unexpectedError source => exact .inl none

theorem Execution.finishAttempt_failed {maxAttempts : Nat} {execution : Execution S}
    {error : AggregateError S.Error} (other : error ≠ .aggregateConflict) :
    execution.finishAttempt maxAttempts (.error error)
      = { execution with phase := .returned (.error (mapAggregateError error)) } := by
  cases error with
  | aggregateConflict => exact absurd rfl other
  | _ => rfl

/-- A statement that keeps the attempt leads to a sound state if the phase it leads to is sound. -/
theorem OutcomeSound.next {s : OutcomeState S} {move : Move} {tables : Tables Value}
    {phase : Phase S} (sound : OutcomeSound config aggregateId command tasks s)
    (keyed : tables.Keyed)
    (reached : PhaseSound config aggregateId command tasks s.execution.attempt
      (s.statements ++ [⟨s.tables, s.execution, move, tables⟩]) phase) :
    OutcomeSound config aggregateId command tasks
      ⟨tables, { s.execution with phase := phase },
        s.statements ++ [⟨s.tables, s.execution, move, tables⟩]⟩ where
  keyed := keyed
  same := ⟨sound.same.aggregateId, sound.same.command, sound.same.tasks⟩
  attempts := sound.attempts
  numbered :=
    List.forall_mem_append.mpr ⟨sound.numbered, List.forall_mem_singleton.mpr le_rfl⟩
  repeated earlier positive before := by
    obtain ⟨statement, member, conflicted⟩ := sound.repeated earlier positive before
    exact ⟨statement, List.mem_append_left _ member, conflicted⟩
  phase := reached

/-- **The effect of a write**, whether or not its answer arrives. -/
theorem OutcomeSound.write {s : OutcomeState S} {decision : Decision S} {now : DateTime}
    {lost : Bool} {event : S.Event} {snapshot : SnapshotWrite Value} {written : Tables Value}
    (sound : OutcomeSound config aggregateId command tasks s)
    (phase : s.execution.phase = .decided decision) (single : decision.events = [event])
    (made : SnapshotWrite.new decision.update = .ok snapshot)
    (done : Committed S.typeName (decision.context.currentSequence + 1) s.execution.tasks
      (serializeEvent S decision.context.aggregateId
        (decision.context.currentSequence + 1) event) snapshot now s.tables written) :
    CommittedOnce config aggregateId command tasks
      (s.statements ++ [⟨s.tables, s.execution, .write now lost, written⟩]) := by
  have before := sound.phase
  rw [phase] at before
  obtain ⟨none, decidedFrom⟩ := before
  have handled := (decideCommand_ok decidedFrom.decided).2.1
  rw [single] at handled
  rw [decidedFrom.aggregateId, sound.same.tasks] at done
  exact ⟨s.statements, _, rfl, none, decision, event, snapshot, now, lost, phase, rfl, decidedFrom,
    single, handled, decideCommand_due config.intervalPositive decidedFrom.decided single, made,
    done⟩

/-- A statement without effect that leaves the attempt with a failure. -/
theorem OutcomeSound.failed {s : OutcomeState S} {move : Move} {error : AggregateError S.Error}
    (sound : OutcomeSound config aggregateId command tasks s) (none : NoEffect s.statements)
    (other : error ≠ .aggregateConflict) :
    OutcomeSound config aggregateId command tasks
      ⟨s.tables, s.execution.finishAttempt config.conflictRetry.maxAttempts (.error error),
        s.statements ++ [⟨s.tables, s.execution, move, s.tables⟩]⟩ := by
  rw [Execution.finishAttempt_failed other]
  exact sound.next sound.keyed (phaseSound_failed other (noEffect_append none rfl))

/-- The second read and the decision. -/
theorem OutcomeSound.tail {s : OutcomeState S} {context : Context S}
    (sound : OutcomeSound config aggregateId command tasks s)
    (phase : s.execution.phase = .snapshotRead context) :
    OutcomeSound config aggregateId command tasks
      ⟨s.tables, s.execution.decideTail config context s.tables,
        s.statements ++ [⟨s.tables, s.execution, .readTail, s.tables⟩]⟩ := by
  have before := sound.phase
  rw [phase] at before
  obtain ⟨none, same⟩ := before
  unfold Execution.decideTail
  split
  · rename_i error failed
    rw [loadTail_error failed]
    exact sound.failed none nofun
  · exact sound.next sound.keyed (noEffect_append none rfl)
  · rename_i loaded read
    split
    · rename_i error rejected
      obtain ⟨reason, _, rfl⟩ := decideCommand_error rejected
      exact sound.failed none nofun
    · exact sound.next sound.keyed (noEffect_append none rfl)
    · rename_i decision decided
      have unchanged := (decideCommand_ok decided).1
      refine sound.next sound.keyed ⟨noEffect_append none rfl, ?_, ?_, ?_⟩
      · refine ⟨_, List.mem_append_right _ (List.mem_singleton.mpr rfl), rfl, rfl, context, phase, ?_⟩
        rw [unchanged]
        exact read
      · rw [unchanged, ← show s.execution.command = command from sound.same.command]
        exact decided
      · rw [unchanged, loadTail_aggregateId read]
        exact same

/-- A conflict: the next attempt, or the last answer. -/
theorem OutcomeSound.conflict {s : OutcomeState S} {decision : Decision S} {now : DateTime}
    (sound : OutcomeSound config aggregateId command tasks s)
    (phase : s.execution.phase = .decided decision)
    (answered : (persistCommand S.typeName s.execution.tasks
      (wrapEvents decision.context decision.events) decision.update now s.tables).2
      = .error .optimisticLockError) :
    OutcomeSound config aggregateId command tasks
      ⟨s.tables, s.execution.finishAttempt config.conflictRetry.maxAttempts
          (.error .aggregateConflict),
        s.statements ++ [⟨s.tables, s.execution, .write now false, s.tables⟩]⟩ := by
  have before := sound.phase
  rw [phase] at before
  have none : NoEffect (s.statements ++ [⟨s.tables, s.execution, .write now false, s.tables⟩]) :=
    noEffect_append before.1 rfl
  have conflicted : ∃ statement ∈ s.statements ++ [⟨s.tables, s.execution, .write now false,
      s.tables⟩], statement.execution.attempt = s.execution.attempt ∧ statement.Conflicted :=
    ⟨_, List.mem_append_right _ (List.mem_singleton.mpr rfl), rfl, decision, now, phase, rfl,
      answered⟩
  have limit := sound.attempts
  unfold Execution.finishAttempt
  simp only
  split
  · rename_i more
    refine ⟨sound.keyed, ⟨sound.same.aggregateId, sound.same.command, sound.same.tasks⟩, more,
      List.forall_mem_append.mpr ⟨fun statement member => (sound.numbered statement member).trans
        (Nat.le_succ _), List.forall_mem_singleton.mpr (Nat.le_succ _)⟩,
      fun earlier positive before => ?_, none⟩
    rcases Nat.lt_succ_iff_lt_or_eq.mp before with older | rfl
    · obtain ⟨statement, member, known⟩ := sound.repeated earlier positive older
      exact ⟨statement, List.mem_append_left _ member, known⟩
    · exact conflicted
  · rename_i last
    exact sound.next sound.keyed ⟨none, by omega, conflicted⟩

/-- The write of a decision. -/
theorem OutcomeSound.written {s : OutcomeState S} {decision : Decision S} (now : DateTime)
    (lost : Bool) (sound : OutcomeSound config aggregateId command tasks s)
    (phase : s.execution.phase = .decided decision) :
    OutcomeSound config aggregateId command tasks
      ⟨(s.execution.write config decision now lost s.tables).tables,
        (s.execution.write config decision now lost s.tables).execution,
        s.statements ++ [⟨s.tables, s.execution, .write now lost,
          (s.execution.write config decision now lost s.tables).tables⟩]⟩ := by
  have before := sound.phase
  rw [phase] at before
  obtain ⟨none, decidedFrom⟩ := before
  have unchanged : ∀ lost, NoEffect
      (s.statements ++ [⟨s.tables, s.execution, .write now lost, s.tables⟩]) :=
    fun lost => noEffect_append none rfl
  unfold Execution.write
  rcases persistCommand_cases S.typeName s.execution.tasks
      (wrapEvents decision.context decision.events) decision.update now s.tables with
    ⟨empty, _, noTasks, persisted⟩ | ⟨stored, snapshot, written, one, made, persisted, done⟩ |
    ⟨error, persisted⟩
  · simp only [persisted]
    cases lost with
    | true => exact sound.next sound.keyed (.inl (unchanged true))
    | false =>
      refine sound.next sound.keyed (.inr ⟨unchanged false, ?_, decision, decidedFrom.append _, ?_⟩)
      · rw [← noTasks]
        exact sound.same.tasks.symm
      · have noEvents : decision.events = [] := by simpa [wrapEvents] using empty
        rw [(decideCommand_ok decidedFrom.decided).2.1, noEvents]
  · simp only [persisted]
    obtain ⟨event, single, rfl⟩ := wrapEvents_singleton one
    have once : ∀ lost, CommittedOnce config aggregateId command tasks
        (s.statements ++ [⟨s.tables, s.execution, .write now lost, written⟩]) :=
      fun lost => sound.write phase single made done
    cases lost with
    | true => exact sound.next (done.keyed sound.keyed) (.inr (once true))
    | false => exact sound.next (done.keyed sound.keyed) (.inl (once false))
  · simp only [persisted]
    cases lost with
    | true => exact sound.next sound.keyed (.inl (unchanged true))
    | false =>
      by_cases conflict : error = .optimisticLockError
      · rw [conflict] at persisted ⊢
        exact sound.conflict phase (by rw [persisted])
      · refine sound.failed none fun mapped => conflict ?_
        exact Except.error.inj (aggregateError_conflict (congrArg Except.error mapped))

/-- **Every statement keeps the invariant.** -/
theorem OutcomeSound.own {s : OutcomeState S} {move : Move} {stepped : Stepped S}
    (sound : OutcomeSound config aggregateId command tasks s)
    (moved : s.execution.step config move s.tables = some stepped) :
    OutcomeSound config aggregateId command tasks
      ⟨stepped.tables, stepped.execution,
        s.statements ++ [⟨s.tables, s.execution, move, stepped.tables⟩]⟩ := by
  have before := sound.phase
  unfold Execution.step at moved
  split at moved
  · rename_i choice phase
    rw [phase] at before
    obtain rfl := Option.some.inj moved
    refine sound.next sound.keyed ⟨noEffect_append before rfl, ?_⟩
    rw [loadSnapshot_aggregateId]
    exact sound.same.aggregateId
  · rename_i context phase
    obtain rfl := Option.some.inj moved
    exact sound.tail phase
  · rename_i decision now lost phase
    obtain rfl := Option.some.inj moved
    exact sound.written now lost phase
  · rename_i phase
    rw [phase] at before
    obtain rfl := Option.some.inj moved
    exact sound.next sound.keyed (.inl (noEffect_append before rfl))
  · rename_i context phase
    rw [phase] at before
    obtain rfl := Option.some.inj moved
    exact sound.next sound.keyed (.inl (noEffect_append before.1 rfl))
  · rename_i decision phase
    rw [phase] at before
    obtain rfl := Option.some.inj moved
    exact sound.next sound.keyed (.inl (noEffect_append before.1 rfl))
  · cases moved

theorem outcomeSound_reachable {start : Tables Value} (keyed : start.Keyed) {s : OutcomeState S}
    (reached : (outcomeMachine config start aggregateId command tasks).Reachable s) :
    OutcomeSound config aggregateId command tasks s := by
  refine reached.invariant ?_ ?_
  · exact ⟨keyed, ⟨rfl, rfl, rfl⟩, config.conflictRetry.attemptsPositive, nofun,
      fun earlier positive before => absurd before (Nat.not_lt.mpr positive), nofun⟩
  · rintro s action t _ sound stepped
    cases action with
    | own move =>
      obtain ⟨result, moved, stepped⟩ := Option.bind_eq_some_iff.mp stepped
      obtain rfl := Option.some.inj stepped
      exact sound.own moved
    | others tables =>
      simp only [outcomeMachine] at stepped
      split at stepped
      · rename_i allowed
        obtain rfl := Option.some.inj stepped
        exact ⟨allowed, sound.same, sound.attempts, sound.numbered, sound.repeated, sound.phase⟩
      · cases stepped

end Invariant

/-! ### The result -/

/-- **The result of a command is exact.** In every state of a command's execution among any other
writers: success is the complete set committed once, or nothing to commit; a domain error or a
conflict has changed nothing; unavailability is nothing or the complete set once; and so is an
execution that has not returned. A write that is answered as a conflict changes nothing, and only
such an answer leads to a further attempt, within the limit. -/
theorem command_outcome_exact (config : PostgresCommandConfig) {start : Tables Value}
    (keyed : start.Keyed) (aggregateId : String) (command : S.Command)
    (tasks : List (NewTask Value)) {s : OutcomeState S}
    (reached : (outcomeMachine config start aggregateId command tasks).Reachable s) :
    s.tables.Keyed ∧
    (s.execution.phase = .returned (.ok ()) →
      CommittedOnce config aggregateId command tasks s.statements ∨
        (NoEffect s.statements ∧
          NothingToCommit config aggregateId command tasks s.execution.attempt s.statements)) ∧
    (∀ error, s.execution.phase = .returned (.error (.domain error)) → NoEffect s.statements) ∧
    (s.execution.phase = .returned (.error .conflict) → NoEffect s.statements) ∧
    (s.execution.phase = .returned (.error .unavailable) →
      NoEffect s.statements ∨ CommittedOnce config aggregateId command tasks s.statements) ∧
    ((∀ result, s.execution.phase ≠ .returned result) → NoEffect s.statements) ∧
    (∀ (events : List (SerializedEvent Value)) (update : Option (SnapshotUpdate Value))
      (now : DateTime) (tables : Tables Value),
      (persistCommand S.typeName tasks events update now tables).2 = .error .optimisticLockError →
      (persistCommand S.typeName tasks events update now tables).1 = tables) ∧
    s.execution.attempt ≤ config.conflictRetry.maxAttempts ∧
    (∀ statement ∈ s.statements, statement.execution.attempt ≤ s.execution.attempt) ∧
    ∀ earlier, 0 < earlier → earlier < s.execution.attempt →
      ∃ statement ∈ s.statements, statement.execution.attempt = earlier ∧
        statement.Conflicted := by
  have sound := outcomeSound_reachable keyed reached
  have phaseSound := sound.phase
  refine ⟨sound.keyed, fun phase => ?_, fun error phase => ?_, fun phase => ?_, fun phase => ?_,
    fun running => ?_, fun events update now tables => persistCommand_conflict, sound.attempts,
    sound.numbered, sound.repeated⟩
  · rw [phase] at phaseSound
    exact phaseSound
  · rw [phase] at phaseSound
    exact phaseSound
  · rw [phase] at phaseSound
    exact phaseSound.1
  · rw [phase] at phaseSound
    exact phaseSound
  · cases phase : s.execution.phase with
    | returned result => exact absurd phase (running result)
    | loading =>
      rw [phase] at phaseSound
      exact phaseSound
    | snapshotRead context =>
      rw [phase] at phaseSound
      exact phaseSound.1
    | decided decision =>
      rw [phase] at phaseSound
      exact phaseSound.1
    | panicked =>
      rw [phase] at phaseSound
      exact phaseSound

end Outcome

/-- Another writer takes the sequence between the read and the write, and leaves a snapshot that
does not decode; the second attempt replays the event and commits the next one. -/
def overtaken : List (OutcomeAction (PlainValue Nat Nat)) :=
  [.own (.readSnapshot 0), .own .readTail,
    .others ⟨[streamRow (S := plainStored register "register") "r" 1 (5 : Nat)],
      [⟨"register", "r", 1, 1, .object⟩], []⟩,
    .own (.write 0 false), .own (.readSnapshot 0), .own .readTail, .own (.write 0 false)]

/-- Whether the command has succeeded. -/
def Phase.isOk {Value : Type} {S : StoredAggregate Value} : Phase S → Bool
  | .returned (.ok ()) => true
  | _ => false

theorem Phase.isOk_iff {Value : Type} {S : StoredAggregate Value} {phase : Phase S} :
    phase.isOk = true ↔ phase = .returned (.ok ()) := by
  unfold Phase.isOk
  split
  · exact ⟨fun _ => rfl, fun _ => rfl⟩
  · rename_i other
    exact ⟨nofun, fun same => absurd same other⟩

theorem command_outcome_exact_overtaken :
    let machine := outcomeMachine (S := plainStored register "register") everyEvent ⟨[], [], []⟩ "r"
      (7 : Nat) [mailTask 3 .now trivial]
    let s := machine.after overtaken (by decide +kernel)
    s.execution.attempt = 2 ∧ s.execution.phase = .returned (.ok ()) ∧
      s.tables.outbox.map (fun row => (row.id, row.aggregateId, row.aggregateSequence))
        = [(3, "r", 2)] ∧
      CommittedOnce (S := plainStored register "register") everyEvent "r" (7 : Nat)
        [mailTask 3 .now trivial] s.statements := by
  intro machine s
  have phase : s.execution.phase = .returned (.ok ()) := Phase.isOk_iff.mp (by decide +kernel)
  refine ⟨by decide +kernel, phase, by decide +kernel, ?_⟩
  have outcome := (command_outcome_exact (S := plainStored register "register") everyEvent
    (by decide) "r" (7 : Nat) [mailTask 3 .now trivial]
    (Machine.reachable_after overtaken (by decide +kernel))).2.1 phase
  exact outcome.resolve_right fun nothing => absurd nothing.2.1 (List.cons_ne_nil _ _)

end AccountManagement.Store
