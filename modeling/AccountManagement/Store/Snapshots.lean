/-
**Snapshot rows: how many there are, and when a command meets no conflict.**

The snapshot table is keyed by the sequence, so nothing but the protocol keeps an aggregate at one
row. An execution that read no snapshot inserts version 1 at its own boundary, even when another
execution has meanwhile inserted one at an earlier boundary: then the aggregate has two rows of
version 1, every update of version 2 addresses both, and the key rejects it for ever
(`duplicate_snapshot_blocks`).

* `undisturbed_of_unique`: with at most one row for each aggregate, a command that runs alone never
  meets an optimistic conflict.
* `snapshots_unique`: in a run in which no attempt reads its tail after the first snapshot of its
  aggregate has been committed behind its back, every state has at most one row for each aggregate
  and no conflicts for undisturbed commands.
-/

import AccountManagement.Store.Serializability

namespace AccountManagement.Store

open AccountManagement.Library AccountManagement.Task AccountManagement.Outbox

section Rows

variable {Value : Type} {S : StoredAggregate Value}

/-! ### One row, or none -/

theorem ownSnapshots_eq_nil {aggregateId : String} {choice : Nat} {tables : Tables Value}
    (absent : getSnapshot S aggregateId choice tables = none) :
    ownSnapshots S aggregateId tables = [] := by
  by_contra present
  have inside := Nat.mod_lt choice (List.length_pos_iff.mpr present)
  rw [getSnapshot, List.getElem?_eq_getElem inside] at absent
  cases absent

/-- The snapshots around the only row of an aggregate. -/
theorem ownSnapshots_eq_singleton {aggregateId : String} {tables : Tables Value}
    {row : SnapshotRow Value} (only : ownSnapshots S aggregateId tables = [row]) :
    ∃ front back, tables.snapshots = front ++ row :: back ∧
      (row.aggregateType = S.typeName ∧ row.aggregateId = aggregateId) ∧
      ∀ other ∈ front ++ back,
        ¬ (other.aggregateType = S.typeName ∧ other.aggregateId = aggregateId) := by
  obtain ⟨front, back, split, before, own, after⟩ := List.filter_eq_cons_iff.mp only
  refine ⟨front, back, split, of_decide_eq_true own, fun other member => ?_⟩
  rcases List.mem_append.mp member with early | late
  · exact fun other => before _ early (decide_eq_true other)
  · exact fun other => List.filter_eq_nil_iff.mp after _ late (decide_eq_true other)

/-- A first snapshot can be inserted where there is none. -/
theorem writeSnapshot_insert {aggregateId : String} {sequence version : Nat} {payload : Value}
    {tables : Tables Value} (absent : ownSnapshots S aggregateId tables = []) :
    ∃ snapshots, writeSnapshot S.typeName sequence tables.snapshots
      (.insert aggregateId payload version) = .ok (snapshots, 1) := by
  refine ⟨_, if_neg fun taken => ?_⟩
  obtain ⟨row, member, key⟩ := List.mem_map.mp taken
  obtain ⟨sameType, sameRest⟩ := Prod.mk.inj key
  obtain ⟨sameId, _⟩ := Prod.mk.inj sameRest
  exact List.filter_eq_nil_iff.mp absent row member (decide_eq_true ⟨sameType, sameId⟩)

/-- Among rows of other aggregates there is no previous version. -/
theorem countP_foreign {aggregateId : String} {version : Nat} {rows : List (SnapshotRow Value)}
    (foreign : ∀ other ∈ rows,
      ¬ (other.aggregateType = S.typeName ∧ other.aggregateId = aggregateId)) :
    rows.countP (isPrevious S.typeName aggregateId version) = 0 := by
  refine List.countP_eq_zero.mpr fun other member previous => ?_
  obtain ⟨sameType, sameId, _⟩ := of_decide_eq_true previous
  exact foreign other member ⟨sameType, sameId⟩

/-- The only row of an aggregate can be updated to the next version. -/
theorem writeSnapshot_update {aggregateId : String} {sequence : Nat} {payload : Value}
    {tables : Tables Value} {row : SnapshotRow Value} (keyed : tables.Keyed)
    (only : ownSnapshots S aggregateId tables = [row]) :
    ∃ snapshots, writeSnapshot S.typeName sequence tables.snapshots
      (.update aggregateId payload (row.currentSnapshot + 1)) = .ok (snapshots, 1) := by
  obtain ⟨front, back, split, own, foreign⟩ := ownSnapshots_eq_singleton only
  have inFront : front.countP (isPrevious S.typeName aggregateId (row.currentSnapshot + 1)) = 0 :=
    countP_foreign fun other member => foreign other (List.mem_append_left _ member)
  have inBack : back.countP (isPrevious S.typeName aggregateId (row.currentSnapshot + 1)) = 0 :=
    countP_foreign fun other member => foreign other (List.mem_append_right _ member)
  have this : isPrevious S.typeName aggregateId (row.currentSnapshot + 1) row = true :=
    decide_eq_true ⟨own.1, own.2, rfl⟩
  have count : tables.snapshots.countP
      (isPrevious S.typeName aggregateId (row.currentSnapshot + 1)) = 1 := by
    rw [split, List.countP_append, List.countP_cons_of_pos this, inFront, inBack]
  have updated : updatedSnapshots S.typeName sequence aggregateId payload
      (row.currentSnapshot + 1) tables.snapshots
      = front ++ insertedSnapshot S.typeName sequence aggregateId payload
        (row.currentSnapshot + 1) :: back := by
    have frontSame := updatedSnapshots_of_none S.typeName sequence payload inFront
    have backSame := updatedSnapshots_of_none S.typeName sequence payload inBack
    rw [updatedSnapshots] at frontSame backSame
    rw [split, updatedSnapshots, List.map_append, List.map_cons, if_pos this, frontSame, backSame,
      own.1, own.2]
    rfl
  have distinct : ((updatedSnapshots S.typeName sequence aggregateId payload
      (row.currentSnapshot + 1) tables.snapshots).map SnapshotRow.key).Nodup := by
    have before := keyed.snapshots
    rw [split, List.map_append, List.map_cons, List.nodup_middle, List.nodup_cons,
      ← List.map_append] at before
    rw [updated, List.map_append, List.map_cons, List.nodup_middle, List.nodup_cons,
      ← List.map_append]
    refine ⟨fun taken => ?_, before.2⟩
    obtain ⟨other, member, key⟩ := List.mem_map.mp taken
    obtain ⟨sameType, sameRest⟩ := Prod.mk.inj key
    exact foreign other member ⟨sameType, (Prod.mk.inj sameRest).1⟩
  refine ⟨updatedSnapshots S.typeName sequence aggregateId payload (row.currentSnapshot + 1)
    tables.snapshots, ?_⟩
  simp only [writeSnapshot]
  rw [if_pos distinct, count]

end Rows

section Known

variable {Value : Type} [JsonValue Value] {S : StoredAggregate Value}

/-! ### What is known of every reachable store -/

/-- The invariant, the primary keys, and that snapshot versions start at one. -/
structure StoreKnown (config : PostgresCommandConfig) (s : StoreState S) : Prop where
  sound : StoreSound config s
  keyed : s.tables.Keyed
  versions : ∀ aggregateId, ∀ row ∈ ownSnapshots S aggregateId s.tables, 0 < row.currentSnapshot

omit [JsonValue Value] in
theorem decideCommand_version {interval : Nat} {context : Context S} {command : S.Command}
    {decision : Decision S} {due : SnapshotUpdate Value}
    (decided : decideCommand interval context command = .ok decision)
    (update : decision.update = some due) :
    due.aggregateId = context.aggregateId ∧ due.version = context.currentSnapshot.getD 0 + 1 := by
  obtain ⟨_, _, _, _, ⟨_, notDue⟩ | ⟨_, _, _, isDue⟩⟩ := decideCommand_ok decided
  · rw [notDue] at update
    cases update
  · rw [isDue] at update
    obtain rfl := Option.some.inj update
    exact ⟨rfl, rfl⟩

theorem storeKnown_step [DecidableEq Value] (safe : S.RepeatSafe) {config : PostgresCommandConfig}
    {s t : StoreState S} {action : StoreAction S} (known : StoreKnown config s)
    (stepped : (storeMachine S config).step s action = some t) : StoreKnown config t := by
  have sound := storeSound_step safe known.sound stepped
  rcases storeMachine_cases stepped with ⟨aggregateId, command, tasks, _, rfl⟩ |
    ⟨index, move, execution, result, _, found, moved, rfl⟩ | ⟨tables, _, untouched, keyed, rfl⟩
  · exact ⟨sound, known.keyed, known.versions⟩
  · have held := known.sound.executions execution (List.mem_of_getElem? found)
    cases moved with
    | readSnapshot choice => exact ⟨sound, known.keyed, known.versions⟩
    | readTail context loaded decision phase read decided =>
      exact ⟨sound, known.keyed, known.versions⟩
    | panicked context phase failed => exact ⟨sound, known.keyed, known.versions⟩
    | ended move next same idle => exact ⟨sound, known.keyed, known.versions⟩
    | write decision now lost phase =>
      rw [Execution.Sound, phase] at held
      obtain ⟨_, _, decided⟩ := held
      rcases execution.write_cases config decision now lost s.tables with
        ⟨event, write, written, one, made, done, sameTables, committed⟩ | ⟨sameTables, committed⟩
      · refine ⟨sound, ?_, fun aggregateId row member => ?_⟩
        · show Tables.Keyed (execution.write config decision now lost s.tables).tables
          rw [sameTables]
          exact done.keyed known.keyed
        · rw [sameTables] at member
          obtain ⟨inside, own⟩ := List.mem_filter.mp member
          rcases done.snapshots.mem made inside with old | ⟨due, update, rfl⟩
          · exact known.versions aggregateId row (List.mem_filter.mpr ⟨old, own⟩)
          · show 0 < due.version
            rw [(decideCommand_version decided update).2]
            exact Nat.succ_pos _
      · refine ⟨sound, ?_, ?_⟩
        · show Tables.Keyed (execution.write config decision now lost s.tables).tables
          rw [sameTables]
          exact known.keyed
        · rw [sameTables]
          exact known.versions
  · refine ⟨sound, keyed, fun aggregateId => ?_⟩
    rw [(untouched.own aggregateId).2]
    exact known.versions aggregateId

theorem storeKnown_start [DecidableEq Value] (config : PostgresCommandConfig) :
    StoreKnown config (storeMachine S config).start where
  sound := storeSound_start config
  keyed := ⟨.nil, .nil, .nil⟩
  versions _ _ member := nomatch member

/-! ### Commands that run alone -/

/-- The moves of one execution while nobody else moves. -/
def Execution.alone (config : PostgresCommandConfig) :
    List Move → Tables Value → Execution S → Option (Tables Value × Execution S)
  | [], tables, execution => some (tables, execution)
  | move :: rest, tables, execution => do
    let stepped ← execution.step config move tables
    alone config rest stepped.tables stepped.execution

/-- Every aggregate has at most one snapshot row. -/
def UniqueSnapshots (s : StoreState S) : Prop :=
  ∀ aggregateId, (ownSnapshots S aggregateId s.tables).length ≤ 1

/-- No command that runs alone meets an optimistic conflict: it neither returns one nor needs a
second attempt. -/
def Undisturbed (config : PostgresCommandConfig) (s : StoreState S) : Prop :=
  ∀ (aggregateId : String) (command : S.Command) (tasks : List (NewTask Value))
    (moves : List Move) (tables : Tables Value) (execution : Execution S),
    Execution.alone config moves s.tables (.begin aggregateId command tasks)
      = some (tables, execution) →
    execution.attempt = 1 ∧ execution.phase ≠ .returned (.error .conflict)

/-- Every row of a sound store decodes, so that a read without a state has found no row. -/
theorem StoreSound.absent {config : PostgresCommandConfig} {s : StoreState S}
    (sound : StoreSound config s) {aggregateId : String} {choice : Nat}
    (undecoded : ∀ row, getSnapshot S aggregateId choice s.tables = some row →
      S.decodeState row.payload = none) : ownSnapshots S aggregateId s.tables = [] := by
  have none : getSnapshot S aggregateId choice s.tables = none := by
    refine Option.eq_none_iff_forall_ne_some.mpr fun row found => ?_
    obtain ⟨state, _, payload⟩ :=
      (sound.snapshots aggregateId row (List.mem_of_getElem? found)).folded
    have decoded := S.decode_encodeState state
    rw [← payload, undecoded row found] at decoded
    cases decoded
  exact ownSnapshots_eq_nil none

/-- The snapshot of a command that ran alone so far can be written. -/
theorem writeSnapshot_alone {config : PostgresCommandConfig} {s : StoreState S}
    (known : StoreKnown config s) (unique : UniqueSnapshots s) {aggregateId : String}
    {choice sequence : Nat} {loaded : Context S} {command : S.Command}
    {decision : Decision S} {write : SnapshotWrite Value}
    (decided : decideCommand config.snapshotInterval loaded command = .ok decision)
    (sameId : loaded.aggregateId = aggregateId)
    (sameVersion : loaded.currentSnapshot
      = (loadSnapshot S aggregateId choice s.tables).currentSnapshot)
    (made : SnapshotWrite.new decision.update = .ok write) :
    ∃ snapshots, writeSnapshot S.typeName sequence s.tables.snapshots write
      = .ok (snapshots, 1) := by
  rcases SnapshotWrite.new_ok made with ⟨_, rfl⟩ | ⟨due, update, rfl⟩
  · exact ⟨_, rfl⟩
  · obtain ⟨dueId, dueVersion⟩ := decideCommand_version decided update
    rw [sameId] at dueId
    rw [sameVersion] at dueVersion
    rcases loadSnapshot_cases S aggregateId choice s.tables with
      ⟨start, undecoded⟩ | ⟨row, state, found, _, read⟩
    · rw [start] at dueVersion
      have one : due.version = 1 := dueVersion
      rw [if_pos one, dueId]
      exact writeSnapshot_insert (known.sound.absent undecoded)
    · rw [read] at dueVersion
      have member := List.mem_of_getElem? found
      have positive := known.versions aggregateId row member
      have only : ownSnapshots S aggregateId s.tables = [row] := by
        obtain ⟨other, alone⟩ := List.length_eq_one_iff.mp
          (le_antisymm (unique aggregateId) (List.length_pos_of_mem member))
        rw [alone] at member ⊢
        rw [List.mem_singleton.mp member]
      have later : due.version = row.currentSnapshot + 1 := dueVersion
      rw [if_neg (by omega), dueId, later]
      exact writeSnapshot_update known.keyed only

/-- The write of a command that ran alone so far is no conflict. -/
theorem persistCommand_alone {config : PostgresCommandConfig} {s : StoreState S}
    (known : StoreKnown config s) (unique : UniqueSnapshots s) {aggregateId : String}
    {choice : Nat} {loaded : Context S} {command : S.Command} {decision : Decision S}
    (second : loadTail (loadSnapshot S aggregateId choice s.tables) s.tables = .ok loaded)
    (decided : decideCommand config.snapshotInterval loaded command = .ok decision)
    (tasks : List (NewTask Value)) (now : DateTime) :
    (persistCommand S.typeName tasks (wrapEvents decision.context decision.events)
      decision.update now s.tables).2 ≠ .error .optimisticLockError := by
  obtain ⟨sameId, contextSound⟩ :=
    loadSnapshot_sound (known.sound.snapshots aggregateId) choice
  obtain ⟨final, _, whole⟩ := known.sound.readsTail sameId contextSound
  obtain rfl := Outcome.ok.inj (second.symm.trans whole)
  obtain ⟨fromLoaded, _⟩ := decideCommand_ok decided
  cases planned : WritePlan.new (wrapEvents decision.context decision.events) decision.update
    tasks with
  | error error =>
    obtain ⟨reason, rfl⟩ := WritePlan.new_error planned
    simp [persistCommand, planned, invalidWrite]
  | ok plan =>
    rcases WritePlan.new_cases planned with ⟨_, _, _, rfl⟩ | ⟨stored, write, one, made, rfl⟩
    · simp [persistCommand, planned]
    · obtain ⟨event, _, rfl⟩ := wrapEvents_singleton one
      obtain ⟨snapshots, due⟩ := writeSnapshot_alone known unique decided sameId rfl made
      simp only [persistCommand, planned]
      refine persistOne_ne_conflict ?_ due
      rw [fromLoaded]
      show (S.typeName, (loadSnapshot S aggregateId choice s.tables).aggregateId, _) ∉ _
      rw [sameId]
      exact known.sound.nextFree aggregateId

omit [JsonValue Value] in
/-- Only an optimistic lock error is reported as a conflict of the aggregate. -/
theorem aggregateError_conflict {Error : Type} {result : Except PersistenceError Unit}
    (conflict : result.mapError aggregateError
      = (.error .aggregateConflict : Except (AggregateError Error) Unit)) :
    result = .error .optimisticLockError := by
  cases result with
  | ok _ => cases conflict
  | error error =>
    cases error with
    | optimisticLockError => rfl
    | _ => cases conflict

theorem Execution.finishAttempt_final {maxAttempts : Nat} {execution : Execution S}
    {result : Except (AggregateError S.Error) Unit} (noConflict : result ≠ .error .aggregateConflict) :
    (execution.finishAttempt maxAttempts result).attempt = execution.attempt ∧
      ∃ answer, (execution.finishAttempt maxAttempts result).phase = .returned answer ∧
        answer ≠ .error .conflict := by
  unfold finishAttempt
  split
  · exact ⟨rfl, .ok (), rfl, nofun⟩
  · rename_i error
    split
    · exact absurd rfl noConflict
    · rename_i other
      refine ⟨rfl, _, rfl, ?_⟩
      cases error with
      | aggregateConflict => exact absurd rfl other
      | _ => exact nofun

/-- What an execution that runs alone from given tables has done so far. -/
inductive AloneSound (config : PostgresCommandConfig) (start : Tables Value) :
    Tables Value → Execution S → Prop
  | loading (execution : Execution S) : execution.attempt = 1 → execution.phase = .loading →
      AloneSound config start start execution
  | snapshotRead (execution : Execution S) (choice : Nat) : execution.attempt = 1 →
      execution.phase = .snapshotRead (loadSnapshot S execution.aggregateId choice start) →
      AloneSound config start start execution
  | decided (execution : Execution S) (choice : Nat) (loaded : Context S)
      (decision : Decision S) : execution.attempt = 1 → execution.phase = .decided decision →
      loadTail (loadSnapshot S execution.aggregateId choice start) start = .ok loaded →
      decideCommand config.snapshotInterval loaded execution.command = .ok decision →
      AloneSound config start start execution
  | past (tables : Tables Value) (execution : Execution S)
      (answer : Except (CommandGatewayError S.Error) Unit) : execution.attempt = 1 →
      execution.phase = .returned answer → answer ≠ .error .conflict →
      AloneSound config start tables execution
  | panicked (tables : Tables Value) (execution : Execution S) : execution.attempt = 1 →
      execution.phase = .panicked → AloneSound config start tables execution

theorem AloneSound.finish {config : PostgresCommandConfig} {start : Tables Value}
    (tables : Tables Value) {execution : Execution S}
    {result : Except (AggregateError S.Error) Unit} (first : execution.attempt = 1)
    (noConflict : result ≠ .error .aggregateConflict) :
    AloneSound config start tables
      (execution.finishAttempt config.conflictRetry.maxAttempts result) := by
  obtain ⟨same, answer, phase, final⟩ := Execution.finishAttempt_final noConflict
  exact .past tables _ answer (same.trans first) phase final

theorem AloneSound.step {config : PostgresCommandConfig} {s : StoreState S}
    (known : StoreKnown config s) (unique : UniqueSnapshots s) {tables : Tables Value}
    {execution : Execution S} {move : Move} {stepped : Stepped S}
    (sound : AloneSound config s.tables tables execution)
    (moved : execution.step config move tables = some stepped) :
    AloneSound config s.tables stepped.tables stepped.execution := by
  unfold Execution.step at moved
  cases sound with
  | loading _ first phase =>
    rw [phase] at moved
    cases move with
    | readSnapshot choice =>
      obtain rfl := Option.some.inj moved
      exact .snapshotRead _ choice first rfl
    | fault =>
      obtain rfl := Option.some.inj moved
      exact .past s.tables _ _ first rfl nofun
    | readTail => cases moved
    | write now lost => cases moved
  | snapshotRead _ choice first phase =>
    rw [phase] at moved
    cases move with
    | readTail =>
      obtain rfl := Option.some.inj moved
      show AloneSound config s.tables s.tables (execution.decideTail config _ s.tables)
      unfold Execution.decideTail
      split
      · rename_i error failed
        refine .finish s.tables first ?_
        rw [loadTail_error failed]
        exact nofun
      · exact .panicked s.tables _ first rfl
      · rename_i whole read
        split
        · rename_i error rejected
          obtain ⟨reason, _, rfl⟩ := decideCommand_error rejected
          exact .finish s.tables first nofun
        · exact .panicked s.tables _ first rfl
        · rename_i decision decided
          exact .decided _ choice whole decision first rfl read decided
    | fault =>
      obtain rfl := Option.some.inj moved
      exact .past s.tables _ _ first rfl nofun
    | readSnapshot choice => cases moved
    | write now lost => cases moved
  | decided _ choice loaded decision first phase tail decided =>
    rw [phase] at moved
    cases move with
    | write now lost =>
      obtain rfl := Option.some.inj moved
      cases lost with
      | true => exact .past _ _ _ first rfl nofun
      | false =>
        refine .finish _ first fun conflict => ?_
        refine persistCommand_alone known unique tail decided execution.tasks now ?_
        exact aggregateError_conflict conflict
    | fault =>
      obtain rfl := Option.some.inj moved
      exact .past s.tables _ _ first rfl nofun
    | readSnapshot choice => cases moved
    | readTail => cases moved
  | past _ _ answer first phase final =>
    rw [phase] at moved
    cases moved
  | panicked _ _ first phase =>
    rw [phase] at moved
    cases moved

theorem AloneSound.alone {config : PostgresCommandConfig} {s : StoreState S}
    (known : StoreKnown config s) (unique : UniqueSnapshots s) {tables final : Tables Value}
    {execution last : Execution S} {moves : List Move}
    (sound : AloneSound config s.tables tables execution)
    (ran : Execution.alone config moves tables execution = some (final, last)) :
    AloneSound config s.tables final last := by
  induction moves generalizing tables execution with
  | nil =>
    obtain ⟨rfl, rfl⟩ := Prod.mk.inj (Option.some.inj ran)
    exact sound
  | cons move rest ih =>
    obtain ⟨stepped, moved, ran⟩ := Option.bind_eq_some_iff.mp ran
    exact ih (sound.step known unique moved) ran

/-- **No conflict without a concurrent writer**, as long as snapshot rows are unique. -/
theorem undisturbed_of_unique {config : PostgresCommandConfig} {s : StoreState S}
    (known : StoreKnown config s) (unique : UniqueSnapshots s) : Undisturbed config s := by
  intro aggregateId command tasks moves tables execution ran
  have sound := AloneSound.alone known unique (.loading _ rfl rfl) ran
  cases sound with
  | loading _ first phase => exact ⟨first, fun same => nomatch phase.symm.trans same⟩
  | snapshotRead _ choice first phase =>
    exact ⟨first, fun same => nomatch phase.symm.trans same⟩
  | decided _ choice loaded decision first phase _ _ =>
    exact ⟨first, fun same => nomatch phase.symm.trans same⟩
  | past _ _ answer first phase final =>
    exact ⟨first, fun same => final (Phase.returned.inj (phase.symm.trans same))⟩
  | panicked _ _ first phase => exact ⟨first, fun same => nomatch phase.symm.trans same⟩

/-! ### The rows after a commit -/

/-- A committed first snapshot is one more row of its aggregate. -/
theorem Committed.ownSnapshots_insert {tasks : List (NewTask Value)}
    {event : SerializedEvent Value} {now : DateTime} {sequence version : Nat} {payload : Value}
    {aggregateId : String} {before after : Tables Value}
    (done : Committed S.typeName sequence tasks event (.insert aggregateId payload version) now
      before after) :
    (ownSnapshots S aggregateId after).length = (ownSnapshots S aggregateId before).length + 1 := by
  cases done.snapshots with
  | inserted target payload version fresh added =>
    rw [ownSnapshots, added, List.filter_append, List.length_append, ← ownSnapshots]
    congr 1
    rw [List.filter_cons, if_pos (decide_eq_true ⟨rfl, rfl⟩)]
    rfl

/-- Every other commit keeps the number of rows. -/
theorem Committed.ownSnapshots_kept {tasks : List (NewTask Value)} {event : SerializedEvent Value}
    {write : SnapshotWrite Value} {now : DateTime} {sequence : Nat} {aggregateId : String}
    {before after : Tables Value}
    (done : Committed S.typeName sequence tasks event write now before after)
    (notFirst : ∀ payload version, write ≠ .insert aggregateId payload version) :
    (ownSnapshots S aggregateId after).length = (ownSnapshots S aggregateId before).length := by
  unfold ownSnapshots
  cases done.snapshots with
  | none same => rw [same]
  | inserted target payload version fresh added =>
    have other : ¬ target = aggregateId := fun same => notFirst payload version (by rw [same])
    rw [added, List.filter_append, List.length_append, List.filter_cons, if_neg]
    · rfl
    · exact fun this => other (of_decide_eq_true this).2
  | updated target payload version one changed kept =>
    rw [changed, updatedSnapshots, List.filter_map, List.length_map]
    refine congrArg List.length (List.filter_congr fun row _ => ?_)
    rw [Function.comp_apply]
    split <;> rfl

/-! ### Reads around a first snapshot -/

/-- The first read of an attempt has found no snapshot. -/
def Phase.lacksSnapshot : Phase S → Bool
  | .snapshotRead context => context.currentSnapshot.isNone
  | _ => false

/-- An execution whose first read found no snapshot of its aggregate, which has one by now. -/
def Execution.Stale (tables : Tables Value) (execution : Execution S) : Prop :=
  execution.phase.lacksSnapshot = true ∧
    0 < (ownSnapshots S execution.aggregateId tables).length

instance (tables : Tables Value) (execution : Execution S) : Decidable (execution.Stale tables) :=
  inferInstanceAs (Decidable (_ ∧ _))

/-- The second read of an attempt, when the first snapshot of its aggregate has been committed since
the first read. -/
def SplitsReads (s : StoreState S) : StoreAction S → Prop
  | .act index .readTail => ∃ execution ∈ s.executions[index]?, execution.Stale s.tables
  | _ => False

instance (s : StoreState S) : ∀ action, Decidable (SplitsReads s action)
  | .act _ .readTail => Option.decidableExistsMem _
  | .act _ (.readSnapshot _) | .act _ (.write _ _) | .act _ .fault | .start .. | .foreign _ =>
    isFalse nofun

/-- A decision without a snapshot was made where the aggregate still has none, or its place in the
stream is taken. -/
def Execution.Guarded (tables : Tables Value) (log : List (Commit S)) (execution : Execution S) :
    Prop :=
  match execution.phase with
  | .snapshotRead context => context.currentSnapshot ≠ some 0
  | .decided decision => decision.context.currentSnapshot ≠ some 0 ∧
    (decision.context.currentSnapshot = none →
      ownSnapshots S execution.aggregateId tables = [] ∨
        decision.context.currentSequence < (streamEvents log execution.aggregateId).length)
  | _ => True

theorem Execution.guarded_of_idle {tables : Tables Value} {log : List (Commit S)}
    {execution : Execution S} (idle : execution.phase.Idle) : execution.Guarded tables log := by
  unfold Guarded
  cases phase : execution.phase with
  | snapshotRead context =>
    rw [phase] at idle
    exact idle.elim
  | decided decision =>
    rw [phase] at idle
    exact idle.elim
  | loading => trivial
  | returned result => trivial
  | panicked => trivial

/-- The guard survives commits of other aggregates, and every commit of its own takes its place. -/
theorem Execution.Guarded.later {interval : Nat} {before after : Tables Value}
    {log more : List (Commit S)} {execution : Execution S}
    (guarded : execution.Guarded before log)
    (sound : execution.Sound interval (streamEvents log execution.aggregateId))
    (kept : (streamEvents more execution.aggregateId = streamEvents log execution.aggregateId ∧
        (ownSnapshots S execution.aggregateId before = [] →
          ownSnapshots S execution.aggregateId after = [])) ∨
      (streamEvents log execution.aggregateId).length
        < (streamEvents more execution.aggregateId).length) :
    execution.Guarded after more := by
  unfold Guarded at guarded ⊢
  unfold Execution.Sound at sound
  cases phase : execution.phase with
  | snapshotRead context =>
    rw [phase] at guarded
    exact guarded
  | decided decision =>
    rw [phase] at guarded sound
    refine ⟨guarded.1, fun none => ?_⟩
    rcases kept with ⟨sameStream, still⟩ | longer
    · rw [sameStream]
      exact (guarded.2 none).imp still id
    · exact .inr (lt_of_le_of_lt sound.2.1.within longer)
  | loading => trivial
  | returned result => trivial
  | panicked => trivial

/-- One row for each aggregate, and decisions that will not add a second one. -/
structure SnapshotsSingle (config : PostgresCommandConfig) (s : StoreState S) : Prop where
  known : StoreKnown config s
  unique : UniqueSnapshots s
  guarded : ∀ execution ∈ s.executions, execution.Guarded s.tables s.log

/-- A first snapshot whose event has a free key is inserted where there is none. -/
theorem SnapshotsSingle.absent {config : PostgresCommandConfig} {s : StoreState S}
    (single : SnapshotsSingle config s) {execution : Execution S}
    (member : execution ∈ s.executions) {decision : Decision S}
    (phase : execution.phase = .decided decision) {due : SnapshotUpdate Value}
    (update : decision.update = some due) (first : due.version = 1)
    (fresh : (S.typeName, decision.context.aggregateId, decision.context.currentSequence + 1)
      ∉ s.tables.events.map EventRow.key) : ownSnapshots S due.aggregateId s.tables = [] := by
  have held := single.known.sound.executions execution member
  have guarded := single.guarded execution member
  rw [Execution.Sound, phase] at held
  rw [Execution.Guarded, phase] at guarded
  obtain ⟨sameId, contextSound, decided⟩ := held
  obtain ⟨dueId, dueVersion⟩ := decideCommand_version decided update
  have none : decision.context.currentSnapshot = none := by
    cases version : decision.context.currentSnapshot with
    | none => rfl
    | some number =>
      rw [version, Option.getD_some] at dueVersion
      exact absurd (version.trans (congrArg some (by omega))) guarded.1
  rw [dueId, sameId]
  rcases guarded.2 none with absent | taken
  · exact absent
  · rw [← sameId] at contextSound taken
    have position := single.known.sound.position contextSound fresh
    omega

/-- **A commit keeps the rows unique.** -/
theorem SnapshotsSingle.unique_commit {config : PostgresCommandConfig} {s : StoreState S}
    (single : SnapshotsSingle config s) {execution : Execution S}
    (member : execution ∈ s.executions) {decision : Decision S}
    (phase : execution.phase = .decided decision) {event : S.Event} {write : SnapshotWrite Value}
    {now : DateTime} {written : Tables Value}
    (made : SnapshotWrite.new decision.update = .ok write)
    (done : Committed S.typeName (decision.context.currentSequence + 1) execution.tasks
      (serializeEvent S decision.context.aggregateId (decision.context.currentSequence + 1) event)
      write now s.tables written) (aggregateId : String) :
    (ownSnapshots S aggregateId written).length ≤ 1 := by
  by_cases first : ∃ payload version, write = .insert aggregateId payload version
  · obtain ⟨payload, version, rfl⟩ := first
    rcases SnapshotWrite.new_ok made with ⟨_, none⟩ | ⟨due, update, inserted⟩
    · cases none
    · by_cases one : due.version = 1
      · rw [if_pos one] at inserted
        obtain ⟨rfl, _, _⟩ := SnapshotWrite.insert.inj inserted
        rw [done.ownSnapshots_insert, single.absent member phase update one done.eventFresh]
        exact le_refl 1
      · rw [if_neg one] at inserted
        cases inserted
  · rw [done.ownSnapshots_kept fun payload version same => first ⟨payload, version, same⟩]
    exact single.unique aggregateId

/-- **A commit keeps the guards** of all the other decisions. -/
theorem SnapshotsSingle.guarded_commit {config : PostgresCommandConfig} {s : StoreState S}
    (single : SnapshotsSingle config s) {execution : Execution S}
    (member : execution ∈ s.executions) {decision : Decision S}
    (phase : execution.phase = .decided decision) {event : S.Event} {write : SnapshotWrite Value}
    {now : DateTime} {written : Tables Value}
    (made : SnapshotWrite.new decision.update = .ok write)
    (done : Committed S.typeName (decision.context.currentSequence + 1) execution.tasks
      (serializeEvent S decision.context.aggregateId (decision.context.currentSequence + 1) event)
      write now s.tables written) {other : Execution S} (present : other ∈ s.executions) :
    other.Guarded written
      (s.log ++ [⟨execution.aggregateId, execution.command, event, execution.tasks⟩]) := by
  have held := single.known.sound.executions execution member
  rw [Execution.Sound, phase] at held
  obtain ⟨sameId, _, decided⟩ := held
  refine (single.guarded other present).later (single.known.sound.executions other present) ?_
  rw [streamEvents_append]
  by_cases same : execution.aggregateId = other.aggregateId
  · rw [if_pos same, List.length_append]
    exact .inr (Nat.lt_succ_self _)
  · rw [if_neg same, List.append_nil]
    refine .inl ⟨rfl, fun absent => ?_⟩
    have elsewhere : ∀ payload version, write ≠ .insert other.aggregateId payload version := by
      rintro payload version rfl
      rcases SnapshotWrite.new_ok made with ⟨_, none⟩ | ⟨due, update, inserted⟩
      · cases none
      · split at inserted
        · obtain ⟨sameTarget, _, _⟩ := SnapshotWrite.insert.inj inserted
          rw [(decideCommand_version decided update).1, sameId] at sameTarget
          exact same sameTarget.symm
        · cases inserted
    have length := done.ownSnapshots_kept elsewhere
    rw [absent] at length
    exact List.length_eq_zero_iff.mp length

/-- An execution that moves on without a write. -/
theorem SnapshotsSingle.moved {config : PostgresCommandConfig} {s : StoreState S}
    (single : SnapshotsSingle config s) {index : Nat} {next : Execution S}
    (known : StoreKnown config { s with executions := s.executions.set index next })
    (guarded : next.Guarded s.tables s.log) :
    SnapshotsSingle config { s with executions := s.executions.set index next } := by
  refine ⟨known, single.unique, fun other member => ?_⟩
  rcases List.mem_or_eq_of_mem_set member with old | rfl
  · exact single.guarded other old
  · exact guarded

/-- A loaded snapshot has a positive version. -/
theorem SnapshotsSingle.guarded_readSnapshot {config : PostgresCommandConfig} {s : StoreState S}
    (single : SnapshotsSingle config s) (execution : Execution S) (choice : Nat) :
    Execution.Guarded s.tables s.log { execution with
      phase := .snapshotRead (loadSnapshot S execution.aggregateId choice s.tables) } := by
  show (loadSnapshot S execution.aggregateId choice s.tables).currentSnapshot ≠ some 0
  rcases loadSnapshot_cases S execution.aggregateId choice s.tables with
    ⟨start, _⟩ | ⟨row, state, chosen, _, read⟩
  · rw [start]
    exact nofun
  · rw [read]
    intro zero
    have positive := single.known.versions _ row (List.mem_of_getElem? chosen)
    exact absurd (Option.some.inj zero) positive.ne'

/-- A decision whose reads are not split is made where there is a snapshot, or none is stored. -/
theorem SnapshotsSingle.guarded_readTail {config : PostgresCommandConfig} {s : StoreState S}
    (single : SnapshotsSingle config s) {execution : Execution S}
    (member : execution ∈ s.executions) {context loaded : Context S} {decision : Decision S}
    (phase : execution.phase = .snapshotRead context) (fresh : ¬ execution.Stale s.tables)
    (read : loadTail context s.tables = .ok loaded)
    (decided : decideCommand config.snapshotInterval loaded execution.command = .ok decision) :
    Execution.Guarded s.tables s.log { execution with phase := .decided decision } := by
  have guarded := single.guarded execution member
  rw [Execution.Guarded, phase] at guarded
  obtain ⟨_, final, _, whole⟩ := single.known.sound.reads member phase
  obtain rfl := Outcome.ok.inj (read.symm.trans whole)
  show decision.context.currentSnapshot ≠ some 0 ∧ (_ → _)
  rw [(decideCommand_ok decided).1]
  refine ⟨guarded, fun none => .inl ?_⟩
  by_contra present
  refine fresh ?_
  rw [Execution.Stale, phase]
  exact ⟨Option.isNone_iff_eq_none.mpr none, List.length_pos_iff.mpr present⟩

/-- **Every step that does not split two reads** keeps the rows single. -/
theorem snapshotsSingle_step [DecidableEq Value] (safe : S.RepeatSafe)
    {config : PostgresCommandConfig} {s t : StoreState S} {action : StoreAction S}
    (whole : ¬ SplitsReads s action) (single : SnapshotsSingle config s)
    (stepped : (storeMachine S config).step s action = some t) : SnapshotsSingle config t := by
  have known := storeKnown_step safe single.known stepped
  rcases storeMachine_cases stepped with ⟨aggregateId, command, tasks, _, rfl⟩ |
    ⟨index, move, execution, result, rfl, found, moved, rfl⟩ | ⟨tables, _, untouched, _, rfl⟩
  · refine ⟨known, single.unique, fun other member => ?_⟩
    rcases List.mem_append.mp member with old | new
    · exact single.guarded other old
    · rw [List.mem_singleton.mp new]
      exact Execution.guarded_of_idle trivial
  · have member := List.mem_of_getElem? found
    cases moved with
    | readSnapshot choice =>
      rw [Option.toList_none, List.append_nil] at known ⊢
      exact single.moved known (single.guarded_readSnapshot execution choice)
    | readTail context loaded decision phase read decided =>
      rw [Option.toList_none, List.append_nil] at known ⊢
      have fresh : ¬ execution.Stale s.tables := fun stale => whole ⟨execution, found, stale⟩
      exact single.moved known (single.guarded_readTail member phase fresh read decided)
    | write decision now lost phase =>
      have idle := (execution.write_execution config decision now lost s.tables).2
      rcases execution.write_cases config decision now lost s.tables with
        ⟨event, write, written, one, made, done, sameTables, committed⟩ | ⟨sameTables, committed⟩
      · rw [sameTables, committed] at known ⊢
        refine ⟨known, single.unique_commit member phase made done, fun other inside => ?_⟩
        rcases List.mem_or_eq_of_mem_set inside with old | rfl
        · exact single.guarded_commit member phase made done old
        · exact Execution.guarded_of_idle idle
      · rw [sameTables, committed, Option.toList_none, List.append_nil] at known ⊢
        exact single.moved known (Execution.guarded_of_idle idle)
    | panicked context phase failed =>
      rw [Option.toList_none, List.append_nil] at known ⊢
      exact single.moved known trivial
    | ended move next same idle =>
      rw [Option.toList_none, List.append_nil] at known ⊢
      exact single.moved known (Execution.guarded_of_idle idle)
  · refine ⟨known, fun aggregateId => ?_, fun other member => ?_⟩
    · rw [(untouched.own aggregateId).2]
      exact single.unique aggregateId
    · refine (single.guarded other member).later (single.known.sound.executions other member) ?_
      refine .inl ⟨rfl, fun absent => ?_⟩
      rw [(untouched.own other.aggregateId).2]
      exact absent

theorem snapshotsSingle_start [DecidableEq Value] (config : PostgresCommandConfig) :
    SnapshotsSingle config (storeMachine S config).start where
  known := storeKnown_start config
  unique _ := Nat.zero_le 1
  guarded _ member := nomatch member

/-- **Snapshot uniqueness and undisturbed progress.** For every aggregate whose repeated application
is tolerated and every run of the store: if no attempt reads its tail after the first snapshot of
its aggregate has been committed since its snapshot read found none, then the run ends with at most
one snapshot row for each aggregate and no conflicts for undisturbed commands. -/
theorem snapshots_unique [DecidableEq Value] (tolerant : S.RepeatTolerant)
    (config : PostgresCommandConfig) (actions : List (StoreAction S)) {final : StoreState S}
    (ran : (storeMachine S config).run (storeMachine S config).start actions = some final)
    (whole : (storeMachine S config).EveryStep (fun s action => ¬ SplitsReads s action)
      (storeMachine S config).start actions) :
    UniqueSnapshots final ∧ Undisturbed config final := by
  have single : SnapshotsSingle config final :=
    whole.invariant (fun s action t met kept stepped =>
      snapshotsSingle_step tolerant.repeatSafe met kept stepped) (snapshotsSingle_start config) ran
  exact ⟨single.unique, undisturbed_of_unique single.known single.unique⟩

end Known

/-! ### A run with two rows -/

/-- A register: every command assigns its value. -/
abbrev register : Aggregate where
  State := Nat
  Command := Nat
  Event := Nat
  Error := Empty
  initial := 0
  handle _ value := .ok [value]
  apply _ value := some value

theorem register_repeatTolerant : register.RepeatTolerant := fun _ _ _ applied => applied

/-- The second command reads that there is no snapshot, then the first runs to its end, then the
second reads the tail and writes. -/
def staleInsert : List (StoreAction (plainStored register "register")) :=
  [.start "r" (1 : Nat) [], .start "r" (2 : Nat) [], .act 1 (.readSnapshot 0),
    .act 0 (.readSnapshot 0), .act 0 .readTail, .act 0 (.write 0 false), .act 1 .readTail,
    .act 1 (.write 0 false)]

/-- The second command has read everything before the first commits its snapshot: its write is a
conflict, and its second attempt finds the snapshot. -/
def retriedInsert : List (StoreAction (plainStored register "register")) :=
  [.start "r" (1 : Nat) [], .start "r" (2 : Nat) [], .act 1 (.readSnapshot 0), .act 1 .readTail,
    .act 0 (.readSnapshot 0), .act 0 .readTail, .act 0 (.write 0 false), .act 1 (.write 0 false),
    .act 1 (.readSnapshot 0), .act 1 .readTail, .act 1 (.write 0 false)]

theorem snapshots_unique_retriedInsert :
    let s := (storeMachine (plainStored register "register") everyEvent).after retriedInsert
      (by decide)
    (ownEvents (plainStored register "register") "r" s.tables).length = 2 ∧
      (ownSnapshots (plainStored register "register") "r" s.tables).length = 1 ∧
      UniqueSnapshots s ∧ Undisturbed everyEvent s := by
  intro s
  exact ⟨rfl, rfl, snapshots_unique register_repeatTolerant everyEvent retriedInsert
    (Machine.run_after retriedInsert (by decide)) (by decide)⟩

/-- The moves of a command that uses up both attempts of `everyEvent`. -/
def bothAttempts : List Move :=
  [.readSnapshot 0, .readTail, .write 0 false, .readSnapshot 1, .readTail, .write 0 false]

/-- **Two snapshot rows block an aggregate.** A store with two rows of one aggregate is reachable,
and there a command that runs alone ends in a conflict. -/
theorem duplicate_snapshot_blocks :
    register.RepeatTolerant ∧
      ∃ s, (storeMachine (plainStored register "register") everyEvent).Reachable s ∧
        (ownSnapshots (plainStored register "register") "r" s.tables).length = 2 ∧
        (Execution.alone (S := plainStored register "register") everyEvent bothAttempts s.tables
          (.begin "r" (3 : Nat) [])).map (fun ended => ended.2.phase)
          = some (.returned (.error .conflict)) ∧
        ¬ UniqueSnapshots s ∧ ¬ Undisturbed everyEvent s := by
  have blocked : (Execution.alone (S := plainStored register "register") everyEvent bothAttempts
      ((storeMachine (plainStored register "register") everyEvent).after staleInsert
        (by decide)).tables (.begin "r" (3 : Nat) [])).map (fun ended => ended.2.phase)
      = some (.returned (.error .conflict)) := rfl
  refine ⟨register_repeatTolerant, _, Machine.reachable_after staleInsert (by decide), rfl,
    blocked, fun unique => ?_, fun undisturbed => ?_⟩
  · exact absurd (unique "r") (by decide)
  · obtain ⟨⟨tables, execution⟩, ran, phase⟩ := Option.map_eq_some_iff.mp blocked
    exact (undisturbed "r" (3 : Nat) [] bothAttempts tables execution ran).2 phase

end AccountManagement.Store
