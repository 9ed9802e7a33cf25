/-
**What an answer says about the log.**

* `answersSound_reachable`: in every reachable store, every commit is of one of the executions; an
  execution that was answered with success has its commit in the log, and one that was answered with
  a domain error was rejected by `handle` on the state of a prefix of its stream.
-/

import AccountManagement.Store.Serializability

namespace AccountManagement.Store

open AccountManagement.Library AccountManagement.Task AccountManagement.Outbox

section Answers

variable {Value : Type} [JsonValue Value] {S : StoredAggregate Value}

/-! ### The answer of a move -/

/-- A returned answer is the result of its attempt. -/
theorem Execution.finishAttempt_returned {maxAttempts : Nat} {execution : Execution S}
    {result : Except (AggregateError S.Error) Unit}
    {answer : Except (CommandGatewayError S.Error) Unit}
    (returned : (execution.finishAttempt maxAttempts result).phase = .returned answer) :
    answer = result.mapError mapAggregateError := by
  unfold finishAttempt at returned
  split at returned
  · exact (Phase.returned.inj returned).symm
  · split at returned
    · split at returned
      · cases returned
      · exact (Phase.returned.inj returned).symm
    · exact (Phase.returned.inj returned).symm

omit [JsonValue Value] in
/-- A failure of storage is never a domain error. -/
theorem mapAggregateError_storage (error : PersistenceError) :
    mapAggregateError (aggregateError error : AggregateError S.Error) = .conflict ∨
      mapAggregateError (aggregateError error : AggregateError S.Error) = .unavailable := by
  cases error with
  | optimisticLockError => exact .inl rfl
  | connectionError | deserializationError | unknownError => exact .inr rfl

/-- **Where an answer comes from**: a rejection of the loaded state, a commit, a decision without an
event, or storage. -/
inductive Execution.Answer (config : PostgresCommandConfig) (execution : Execution S)
    (tables : Tables Value) (stepped : Stepped S) :
    Except (CommandGatewayError S.Error) Unit → Prop
  | rejected (context loaded : Context S) (reason : S.Error) :
      execution.phase = .snapshotRead context → loadTail context tables = .ok loaded →
      S.handle loaded.state execution.command = .error reason →
      Answer config execution tables stepped (.error (.domain reason))
  | committed (event : S.Event) :
      stepped.committed
        = some ⟨execution.aggregateId, execution.command, event, execution.tasks⟩ →
      Answer config execution tables stepped (.ok ())
  | silent (decision : Decision S) :
      execution.phase = .decided decision → decision.events = [] →
      Answer config execution tables stepped (.ok ())
  | conflict : Answer config execution tables stepped (.error .conflict)
  | unavailable : Answer config execution tables stepped (.error .unavailable)

theorem Execution.Answer.storage {config : PostgresCommandConfig} {execution : Execution S}
    {tables : Tables Value} {stepped : Stepped S} (error : PersistenceError) :
    execution.Answer config tables stepped (.error (mapAggregateError (aggregateError error))) := by
  rcases mapAggregateError_storage (S := S) error with same | same
  · rw [same]
    exact .conflict
  · rw [same]
    exact .unavailable

theorem Execution.write_answer {config : PostgresCommandConfig} {execution : Execution S}
    {decision : Decision S} {now : DateTime} {lost : Bool} {tables : Tables Value}
    {answer : Except (CommandGatewayError S.Error) Unit}
    (phase : execution.phase = .decided decision)
    (returned : (execution.write config decision now lost tables).execution.phase
      = .returned answer) :
    execution.Answer config tables (execution.write config decision now lost tables) answer := by
  cases lost with
  | true =>
    obtain rfl := Phase.returned.inj returned
    exact .unavailable
  | false =>
    rcases persistCommand_cases S.typeName execution.tasks
        (wrapEvents decision.context decision.events) decision.update now tables with
      ⟨none, _, _, persisted⟩ | ⟨stored, write, written, one, made, persisted, done⟩ |
      ⟨error, persisted⟩
    · simp only [Execution.write, persisted, Bool.false_eq_true, if_false] at returned
      obtain rfl := finishAttempt_returned returned
      exact .silent decision phase (by simpa [wrapEvents] using none)
    · obtain ⟨event, single, _⟩ := wrapEvents_singleton one
      have committed : (execution.write config decision now false tables).committed
          = some ⟨execution.aggregateId, execution.command, event, execution.tasks⟩ := by
        simp only [Execution.write, persisted]
        rw [single]
        rfl
      simp only [Execution.write, persisted, Bool.false_eq_true, if_false] at returned
      obtain rfl := finishAttempt_returned returned
      exact .committed event committed
    · simp only [Execution.write, persisted, Bool.false_eq_true, if_false] at returned
      obtain rfl := finishAttempt_returned returned
      exact .storage error

theorem Execution.step_answer {config : PostgresCommandConfig} {execution : Execution S}
    {move : Move} {tables : Tables Value} {stepped : Stepped S}
    {answer : Except (CommandGatewayError S.Error) Unit}
    (moved : execution.step config move tables = some stepped)
    (returned : stepped.execution.phase = .returned answer) :
    execution.Answer config tables stepped answer := by
  unfold step at moved
  split at moved
  · obtain rfl := Option.some.inj moved
    cases returned
  · rename_i context phase
    obtain rfl := Option.some.inj moved
    unfold decideTail at returned
    split at returned
    · obtain rfl := finishAttempt_returned returned
      exact .storage _
    · cases returned
    · rename_i loaded read
      split at returned
      · rename_i error failed
        obtain ⟨reason, handled, rfl⟩ := decideCommand_error failed
        obtain rfl := finishAttempt_returned returned
        exact .rejected context loaded reason phase read handled
      · cases returned
      · cases returned
  · rename_i decision now lost phase
    obtain rfl := Option.some.inj moved
    exact execution.write_answer phase returned
  · obtain rfl := Option.some.inj moved
    obtain rfl := Phase.returned.inj returned
    exact .unavailable
  · obtain rfl := Option.some.inj moved
    obtain rfl := Phase.returned.inj returned
    exact .unavailable
  · obtain rfl := Option.some.inj moved
    obtain rfl := Phase.returned.inj returned
    exact .unavailable
  · cases moved

/-! ### The invariant -/

theorem stream_grows (log more : List (Commit S)) (aggregateId : String) :
    stream log aggregateId <+: stream (log ++ more) aggregateId := by
  unfold stream
  rw [List.filter_append, List.map_append]
  exact List.prefix_append _ _

/-- What the answer of an execution says about the log. -/
def Execution.Answered (log : List (Commit S)) (execution : Execution S) : Prop :=
  match execution.phase with
  | .returned (.ok ()) =>
    ∃ event, ⟨execution.aggregateId, execution.command, event, execution.tasks⟩ ∈ log
  | .returned (.error (.domain reason)) =>
    ∃ earlier state, earlier <+: stream log execution.aggregateId ∧ S.Serial earlier state ∧
      S.handle state execution.command = .error reason
  | _ => True

theorem Execution.Answered.append {log : List (Commit S)} {execution : Execution S}
    (answered : execution.Answered log) (more : List (Commit S)) :
    execution.Answered (log ++ more) := by
  unfold Answered at answered ⊢
  split
  · rename_i phase
    rw [phase] at answered
    obtain ⟨event, member⟩ := answered
    exact ⟨event, List.mem_append_left _ member⟩
  · rename_i reason phase
    rw [phase] at answered
    obtain ⟨earlier, state, before, serial, handled⟩ := answered
    exact ⟨earlier, state, before.trans (stream_grows log more _), serial, handled⟩
  · trivial

structure AnswersSound (s : StoreState S) : Prop where
  origin : ∀ commit ∈ s.log, ∃ execution ∈ s.executions,
    execution.aggregateId = commit.aggregateId ∧ execution.command = commit.command ∧
      execution.tasks = commit.tasks
  answered : ∀ execution ∈ s.executions, execution.Answered s.log

/-- The next execution of a move is the same command. -/
theorem Execution.step_same {config : PostgresCommandConfig} {execution : Execution S}
    {move : Move} {tables : Tables Value} {stepped : Stepped S}
    (moved : execution.step config move tables = some stepped) :
    execution.SameCommand stepped.execution := by
  cases step_moved moved with
  | readSnapshot | readTail | panicked => exact ⟨rfl, rfl, rfl⟩
  | write decision now lost _ => exact (execution.write_execution config decision now lost tables).1
  | ended _ next same _ => exact same

/-- A commit is of the execution that makes it. -/
theorem Execution.step_committed {config : PostgresCommandConfig} {execution : Execution S}
    {move : Move} {tables : Tables Value} {stepped : Stepped S} {commit : Commit S}
    (moved : execution.step config move tables = some stepped)
    (committed : stepped.committed = some commit) :
    execution.aggregateId = commit.aggregateId ∧ execution.command = commit.command ∧
      execution.tasks = commit.tasks := by
  cases step_moved moved with
  | readSnapshot | readTail | panicked | ended => cases committed
  | write decision now lost _ =>
    rcases execution.write_cases config decision now lost tables with
      ⟨event, _, _, _, _, _, _, made⟩ | ⟨_, made⟩
    · obtain rfl := Option.some.inj (made.symm.trans committed)
      exact ⟨rfl, rfl, rfl⟩
    · rw [made] at committed
      cases committed

/-- A command is rejected on the state of its whole stream. -/
theorem StoreSound.rejected {config : PostgresCommandConfig} {s : StoreState S}
    (sound : StoreSound config s) {execution : Execution S} (member : execution ∈ s.executions)
    {move : Move} {stepped : Stepped S} {reason : S.Error}
    (moved : execution.step config move s.tables = some stepped)
    (returned : stepped.execution.phase = .returned (.error (.domain reason))) :
    ∃ final, S.Serial (stream s.log execution.aggregateId) final ∧
      S.handle final execution.command = .error reason := by
  cases Execution.step_answer moved returned with
  | rejected context loaded _ read loads handled =>
    obtain ⟨final, serial⟩ := sound.serial execution.aggregateId
    obtain ⟨_, again, replayed, whole⟩ := sound.reads member read
    obtain rfl := Option.some.inj (replayed.symm.trans serial.replay)
    obtain rfl := Outcome.ok.inj (loads.symm.trans whole)
    exact ⟨_, serial, handled⟩

/-- What a move says about the log when it answers. -/
theorem StoreSound.answered {config : PostgresCommandConfig} {s : StoreState S}
    (sound : StoreSound config s) (emits : S.NeverSilent) {execution : Execution S}
    (member : execution ∈ s.executions) {move : Move} {stepped : Stepped S}
    (moved : execution.step config move s.tables = some stepped) :
    stepped.execution.Answered (s.log ++ stepped.committed.toList) := by
  have same := Execution.step_same moved
  have held := sound.executions execution member
  unfold Execution.Answered
  split
  · rename_i phase
    cases Execution.step_answer moved phase with
    | committed event made =>
      rw [made, same.aggregateId, same.command, same.tasks]
      exact ⟨event, List.mem_append_right _ (List.mem_singleton.mpr rfl)⟩
    | silent decision decided none =>
      rw [Execution.Sound, decided] at held
      have handled := (decideCommand_ok held.2.2).2.1
      rw [none] at handled
      exact absurd handled (emits _ _)
  · rename_i reason phase
    obtain ⟨final, serial, handled⟩ := sound.rejected member moved phase
    rw [same.aggregateId, same.command]
    exact ⟨_, final, stream_grows s.log _ _, serial, handled⟩
  · trivial

theorem answersSound_step [DecidableEq Value] (emits : S.NeverSilent)
    {config : PostgresCommandConfig} {s t : StoreState S} {action : StoreAction S}
    (sound : StoreSound config s) (answers : AnswersSound s)
    (stepped : (storeMachine S config).step s action = some t) : AnswersSound t := by
  cases action with
  | start aggregateId command tasks =>
    obtain rfl := Option.some.inj stepped
    refine ⟨fun commit member => ?_, List.forall_mem_append.mpr
      ⟨answers.answered, List.forall_mem_singleton.mpr trivial⟩⟩
    obtain ⟨execution, found, same⟩ := answers.origin commit member
    exact ⟨execution, List.mem_append_left _ found, same⟩
  | act index move =>
    obtain ⟨execution, found, stepped⟩ := Option.bind_eq_some_iff.mp stepped
    obtain ⟨result, moved, stepped⟩ := Option.bind_eq_some_iff.mp stepped
    obtain rfl := Option.some.inj stepped
    have same := Execution.step_same moved
    have after := sound.answered emits (List.mem_of_getElem? found) moved
    have next : result.execution ∈ s.executions.set index result.execution := by
      obtain ⟨inside, _⟩ := List.getElem?_eq_some_iff.mp found
      exact List.mem_of_getElem? (List.getElem?_set_self inside)
    refine ⟨fun commit member => ?_, fun other member => ?_⟩
    · rcases List.mem_append.mp member with old | new
      · obtain ⟨before, present, sameId, sameCommand, sameTasks⟩ := answers.origin commit old
        obtain ⟨place, there⟩ := List.mem_iff_getElem?.mp present
        by_cases here : place = index
        · subst here
          obtain rfl := Option.some.inj (found.symm.trans there)
          exact ⟨_, next, same.aggregateId.trans sameId, same.command.trans sameCommand,
            same.tasks.trans sameTasks⟩
        · refine ⟨before, List.mem_of_getElem? (i := place) ?_, sameId, sameCommand, sameTasks⟩
          show (s.executions.set index _)[place]? = some before
          rw [List.getElem?_set_ne (Ne.symm here)]
          exact there
      · obtain ⟨sameId, sameCommand, sameTasks⟩ :=
          Execution.step_committed moved (Option.mem_toList.mp new)
        exact ⟨_, next, same.aggregateId.trans sameId, same.command.trans sameCommand,
          same.tasks.trans sameTasks⟩
    · rcases List.mem_or_eq_of_mem_set member with old | rfl
      · exact (answers.answered other old).append _
      · exact after
  | foreign tables =>
    simp only [storeMachine] at stepped
    split at stepped
    · obtain rfl := Option.some.inj stepped
      exact ⟨answers.origin, answers.answered⟩
    · cases stepped

/-- **Answers are true of every reachable store.** -/
theorem answersSound_reachable [DecidableEq Value] (safe : S.RepeatSafe) (emits : S.NeverSilent)
    {config : PostgresCommandConfig} {s : StoreState S}
    (reached : (storeMachine S config).Reachable s) : AnswersSound s := by
  refine reached.invariant (P := AnswersSound) ?_ fun _ _ _ before answers stepped =>
    answersSound_step emits (storeSound_reachable safe before) answers stepped
  show AnswersSound ⟨⟨[], [], []⟩, [], []⟩
  exact ⟨fun _ => nofun, fun _ => nofun⟩

/-- **The effect of a move on a sound store**: it commits the next event of its stream completely, or
it leaves the tables as they were. -/
theorem StoreSound.effect {config : PostgresCommandConfig} {s : StoreState S}
    (sound : StoreSound config s) {execution : Execution S} (member : execution ∈ s.executions)
    {move : Move} {stepped : Stepped S}
    (moved : execution.step config move s.tables = some stepped) :
    (stepped.tables = s.tables ∧ stepped.committed = none) ∨
    ∃ event write now lost, move = .write now lost ∧
      Committed S.typeName ((stream s.log execution.aggregateId).length + 1) execution.tasks
        (serializeEvent S execution.aggregateId ((stream s.log execution.aggregateId).length + 1)
          event) write now s.tables stepped.tables ∧
      stepped.committed
        = some ⟨execution.aggregateId, execution.command, event, execution.tasks⟩ := by
  cases Execution.step_moved moved with
  | readSnapshot | readTail | panicked | ended => exact .inl ⟨rfl, rfl⟩
  | write decision now lost phase =>
    have held := sound.executions execution member
    rw [Execution.Sound, phase] at held
    obtain ⟨sameId, context, _⟩ := held
    rcases execution.write_cases config decision now lost s.tables with
      ⟨event, write, written, _, _, done, same, committed⟩ | same
    · rw [← sameId] at context
      have position := sound.position context done.eventFresh
      rw [← same, position, sameId, streamEvents, List.length_map] at done
      exact .inr ⟨event, write, now, lost, rfl, done, committed⟩
    · exact .inl same

/-- Every commit is what `handle` emits for its command. -/
theorem StoreSound.emitted {config : PostgresCommandConfig} {s : StoreState S}
    (sound : StoreSound config s) {commit : Commit S} (member : commit ∈ s.log) :
    ∃ state, S.handle state commit.command = .ok [commit.event] := by
  obtain ⟨final, serial⟩ := sound.serial commit.aggregateId
  have inside : (commit.command, commit.event) ∈ stream s.log commit.aggregateId :=
    List.mem_map.mpr ⟨commit, List.mem_filter.mpr ⟨member, decide_eq_true rfl⟩, rfl⟩
  obtain ⟨position, within, same⟩ := List.getElem_of_mem inside
  obtain ⟨state, _, handled⟩ := serial.emitted position within
  rw [same] at handled
  exact ⟨state, handled⟩

/-! ### What the tables hold -/

/-- The events of a stream, read back from its rows. -/
def storedEvents (S : StoredAggregate Value) (aggregateId : String) (tables : Tables Value) :
    List S.Event :=
  (ownEvents S aggregateId tables).filterMap fun row => S.decodeEvent row.payload

/-- **The tables hold the log**: the stored events of a stream are its committed ones. -/
theorem StoreSound.storedEvents {config : PostgresCommandConfig} {s : StoreState S}
    (sound : StoreSound config s) (aggregateId : String) :
    storedEvents S aggregateId s.tables = (stream s.log aggregateId).map Prod.snd := by
  have payloads : (ownEvents S aggregateId s.tables).map EventRow.payload
      = (streamEvents s.log aggregateId).map S.encodeEvent := by
    rw [sound.stored, map_payload_streamRows]
  have each : S.decodeEvent ∘ S.encodeEvent = some := funext S.decode_encodeEvent
  unfold Store.storedEvents
  rw [show (fun row : EventRow Value => S.decodeEvent row.payload)
    = S.decodeEvent ∘ EventRow.payload from rfl, ← List.filterMap_map, payloads, List.filterMap_map,
    each, List.filterMap_some]
  rfl

theorem StoreSound.length_ownEvents {config : PostgresCommandConfig} {s : StoreState S}
    (sound : StoreSound config s) (aggregateId : String) :
    (ownEvents S aggregateId s.tables).length = (stream s.log aggregateId).length := by
  rw [sound.stored, ← List.length_map EventRow.sequence, map_sequence_streamRows,
    List.length_range', streamEvents, List.length_map]

end Answers

end AccountManagement.Store
