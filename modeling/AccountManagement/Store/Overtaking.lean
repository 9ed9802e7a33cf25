/-
**A conflict is answered only to a command that was overtaken.**

Every attempt of a command reads the whole stream of its aggregate before it writes, so a conflict
of its write shows that somebody else committed to that stream after the read. While the stream
stays below the first snapshot the converse holds too: nothing else is a conflict.

* `StoreSound.overtaken`: a write that meets a conflict finds a stream longer than the one it read.
* `Execution.Behind`: how many commits an execution must have seen by its present attempt; kept by
  every step of the store (`behind_step`).
* `conflict_needs_overtakers`: so a command that is answered with a conflict was overtaken at least
  once for each attempt it is allowed, by commits of other commands.
-/

import AccountManagement.Store.Atomic
import AccountManagement.Store.Outcome

namespace AccountManagement.Store

open AccountManagement.Library AccountManagement.Task AccountManagement.Outbox

section Overtaking

variable {Value : Type} [JsonValue Value] {S : StoredAggregate Value}

/-! ### One conflict -/

omit [JsonValue Value] in
/-- Below the interval no snapshot is due. -/
theorem decideCommand_update_none {interval : Nat} {context : Context S} {command : S.Command}
    {decision : Decision S} {event : S.Event} (decided : decideCommand interval context command
      = .ok decision) (one : decision.events = [event])
    (short : context.currentSequence + 1 < interval) : decision.update = none := by
  have due := decideCommand_due (Nat.zero_lt_of_lt short) decided one
  rw [Nat.mod_eq_of_lt short] at due
  cases update : decision.update with
  | none => rfl
  | some snapshot =>
    rw [update] at due
    exact absurd (due.mp rfl) (Nat.succ_ne_zero _)

/-- **A conflict shows a commit since the read.** -/
theorem StoreSound.overtaken {config : PostgresCommandConfig} {s : StoreState S}
    (sound : StoreSound config s) {execution : Execution S} (member : execution ∈ s.executions)
    {decision : Decision S} (phase : execution.phase = .decided decision)
    (short : (stream s.log execution.aggregateId).length + 1 < config.snapshotInterval)
    {now : DateTime} (conflict : (persistCommand S.typeName execution.tasks
      (wrapEvents decision.context decision.events) decision.update now s.tables).2
      = .error .optimisticLockError) :
    decision.context.currentSequence + 1 ≤ (stream s.log execution.aggregateId).length := by
  have held := sound.executions execution member
  rw [Execution.Sound, phase] at held
  obtain ⟨sameId, context, decided⟩ := held
  have within := context.within
  rw [streamEvents, List.length_map] at within
  by_contra ahead
  have whole : decision.context.currentSequence = (stream s.log execution.aggregateId).length := by
    omega
  -- The stream is the one that was read, so its next key is free and no snapshot is due.
  have free := sound.nextFree execution.aggregateId
  rw [streamEvents, List.length_map, ← whole] at free
  revert conflict
  cases planned : WritePlan.new (wrapEvents decision.context decision.events) decision.update
    execution.tasks with
  | error error =>
    obtain ⟨reason, rfl⟩ := WritePlan.new_error planned
    simp [persistCommand, planned, invalidWrite]
  | ok plan =>
    rcases WritePlan.new_cases planned with ⟨_, _, _, rfl⟩ | ⟨stored, write, one, made, rfl⟩
    · simp [persistCommand, planned]
    · obtain ⟨event, single, rfl⟩ := wrapEvents_singleton one
      have none := decideCommand_update_none decided single (by omega)
      rw [none] at made
      obtain rfl := Except.ok.inj made
      simp only [persistCommand, planned]
      have none : writeSnapshot S.typeName (decision.context.currentSequence + 1)
          s.tables.snapshots .none = .ok (s.tables.snapshots, 1) := rfl
      refine persistOne_ne_conflict ?_ none
      show (S.typeName, decision.context.aggregateId, _) ∉ _
      rw [sameId]
      exact free

/-! ### Every attempt -/

/-- How far an execution is behind the commits of its stream, which had `base` events when it began:
each attempt but the present one was overtaken, and so was the last one if it is answered with a
conflict. -/
def Execution.Behind (config : PostgresCommandConfig) (base length : Nat)
    (execution : Execution S) : Prop :=
  match execution.phase with
  | .loading | .snapshotRead _ => base + execution.attempt ≤ length + 1
  | .decided decision => base + execution.attempt ≤ decision.context.currentSequence + 1
  | .returned (.error .conflict) => base + config.conflictRetry.maxAttempts ≤ length
  | _ => True

theorem Execution.Behind.mono {config : PostgresCommandConfig} {base length longer : Nat}
    {execution : Execution S} (behind : execution.Behind config base length)
    (grown : length ≤ longer) : execution.Behind config base longer := by
  unfold Execution.Behind at behind ⊢
  split
  · rename_i phase
    rw [phase] at behind
    exact behind.trans (Nat.succ_le_succ grown)
  · rename_i phase
    rw [phase] at behind
    exact behind.trans (Nat.succ_le_succ grown)
  · rename_i phase
    rw [phase] at behind
    exact behind
  · rename_i phase
    rw [phase] at behind
    exact behind.trans grown
  · trivial

/-- An answer other than a conflict says nothing. -/
theorem Execution.behind_returned {config : PostgresCommandConfig} {base length : Nat}
    {execution : Execution S} {answer : Except (CommandGatewayError S.Error) Unit}
    (phase : execution.phase = .returned answer) (other : answer ≠ .error .conflict) :
    execution.Behind config base length := by
  unfold Execution.Behind
  rw [phase]
  split
  · rename_i wrong
    cases wrong
  · rename_i wrong
    cases wrong
  · rename_i wrong
    cases wrong
  · rename_i wrong
    exact absurd (Phase.returned.inj wrong) other
  · trivial

/-- The end of an attempt: a conflict has cost one more commit. -/
theorem Execution.behind_finishAttempt {config : PostgresCommandConfig} {base length : Nat}
    {execution : Execution S} {result : Except (AggregateError S.Error) Unit}
    (cost : result = .error .aggregateConflict → base + execution.attempt ≤ length) :
    (execution.finishAttempt config.conflictRetry.maxAttempts result).Behind config base length := by
  by_cases conflict : result = .error .aggregateConflict
  · have paid := cost conflict
    subst conflict
    unfold finishAttempt
    simp only
    split
    · show base + (execution.attempt + 1) ≤ length + 1
      omega
    · show base + config.conflictRetry.maxAttempts ≤ length
      omega
  · obtain ⟨_, answer, phase, other⟩ := Execution.finishAttempt_final conflict
    exact behind_returned phase other

/-- **A statement of the execution keeps the count.** -/
theorem StoreSound.behind {config : PostgresCommandConfig} {s : StoreState S}
    (sound : StoreSound config s) {execution : Execution S} (member : execution ∈ s.executions)
    (short : (stream s.log execution.aggregateId).length + 1 < config.snapshotInterval)
    {base : Nat}
    (before : execution.Behind config base (stream s.log execution.aggregateId).length)
    {move : Move} {stepped : Stepped S}
    (moved : execution.step config move s.tables = some stepped) :
    stepped.execution.Behind config base (stream s.log execution.aggregateId).length := by
  unfold Execution.step at moved
  split at moved
  · rename_i choice phase
    rw [Execution.Behind, phase] at before
    obtain rfl := Option.some.inj moved
    exact before
  · rename_i context phase
    obtain rfl := Option.some.inj moved
    rw [Execution.Behind, phase] at before
    obtain ⟨_, final, _, whole⟩ := sound.reads member phase
    show (execution.decideTail config context s.tables).Behind config base _
    unfold Execution.decideTail
    rw [whole]
    simp only
    split
    · rename_i error rejected
      obtain ⟨reason, _, rfl⟩ := decideCommand_error rejected
      exact Execution.behind_finishAttempt fun conflict => absurd conflict (by simp)
    · trivial
    · rename_i decision decided
      show base + execution.attempt ≤ decision.context.currentSequence + 1
      rw [(decideCommand_ok decided).1]
      show base + execution.attempt ≤ (streamEvents s.log execution.aggregateId).length + 1
      rw [streamEvents, List.length_map]
      exact before
  · rename_i decision now lost phase
    obtain rfl := Option.some.inj moved
    rw [Execution.Behind, phase] at before
    unfold Execution.write
    cases lost with
    | true => exact Execution.behind_returned rfl (by simp)
    | false =>
      refine Execution.behind_finishAttempt fun conflict => ?_
      exact before.trans (sound.overtaken member phase short (aggregateError_conflict conflict))
  · obtain rfl := Option.some.inj moved
    exact Execution.behind_returned rfl (by simp)
  · obtain rfl := Option.some.inj moved
    exact Execution.behind_returned rfl (by simp)
  · obtain rfl := Option.some.inj moved
    exact Execution.behind_returned rfl (by simp)
  · cases moved

/-- A commit of an execution is answered, and not with a conflict. -/
theorem Execution.committed_returned {config : PostgresCommandConfig} {execution : Execution S}
    {move : Move} {tables : Tables Value} {stepped : Stepped S} {commit : Commit S}
    (moved : execution.step config move tables = some stepped)
    (committed : stepped.committed = some commit) :
    ∃ answer, stepped.execution.phase = .returned answer ∧ answer ≠ .error .conflict := by
  cases Execution.step_moved moved with
  | readSnapshot | readTail | panicked | ended => cases committed
  | write decision now lost phase =>
    obtain ⟨answer, returned, rfl | rfl⟩ := Execution.write_returned committed
    · exact ⟨_, returned, by simp⟩
    · exact ⟨_, returned, by simp⟩

/-! ### Whole runs -/

/-- Streams only grow. -/
theorem length_stream_le (log more : List (Commit S)) (aggregateId : String) :
    (stream log aggregateId).length ≤ (stream (log ++ more) aggregateId).length :=
  (stream_grows log more aggregateId).length_le

variable [DecidableEq Value] {config : PostgresCommandConfig} {s t : StoreState S}

theorem storeMachine_grows {action : StoreAction S}
    (stepped : (storeMachine S config).step s action = some t) (aggregateId : String) :
    (stream s.log aggregateId).length ≤ (stream t.log aggregateId).length := by
  rcases storeMachine_cases stepped with ⟨_, _, _, _, rfl⟩ | ⟨_, _, _, _, _, _, _, rfl⟩ |
    ⟨_, _, _, _, rfl⟩
  · exact le_rfl
  · exact length_stream_le _ _ _
  · exact le_rfl

/-- The execution at an index is behind by as many commits as its attempts have cost. -/
def BehindAt (config : PostgresCommandConfig) (aggregateId : String) (base index : Nat)
    (s : StoreState S) : Prop :=
  (stream s.log aggregateId).length + 1 < config.snapshotInterval →
    ∃ execution, s.executions[index]? = some execution ∧ execution.aggregateId = aggregateId ∧
      execution.Behind config base (stream s.log aggregateId).length

/-- An execution is as it was after a step, unless it moved itself. -/
theorem storeMachine_at {index : Nat} {execution : Execution S} {action : StoreAction S}
    (found : s.executions[index]? = some execution)
    (stepped : (storeMachine S config).step s action = some t) :
    t.executions[index]? = some execution ∨
      ∃ move result, execution.step config move s.tables = some result ∧
        t = ⟨result.tables, s.log ++ result.committed.toList,
          s.executions.set index result.execution⟩ := by
  obtain ⟨inside, _⟩ := List.getElem?_eq_some_iff.mp found
  cases action with
  | start otherId command tasks =>
    obtain rfl := Option.some.inj stepped
    left
    show (s.executions ++ [_])[index]? = some execution
    rw [List.getElem?_append_left inside]
    exact found
  | act place move =>
    obtain ⟨mover, present, stepped⟩ := Option.bind_eq_some_iff.mp stepped
    obtain ⟨result, moved, stepped⟩ := Option.bind_eq_some_iff.mp stepped
    obtain rfl := Option.some.inj stepped
    by_cases own : place = index
    · subst own
      obtain rfl := Option.some.inj (found.symm.trans present)
      exact .inr ⟨move, result, moved, rfl⟩
    · left
      show (s.executions.set place _)[index]? = some execution
      rw [List.getElem?_set_ne own]
      exact found
  | foreign tables =>
    simp only [storeMachine] at stepped
    split at stepped
    · obtain rfl := Option.some.inj stepped
      exact .inl found
    · cases stepped

/-- **Every step of the store keeps the count.** -/
theorem behind_step {aggregateId : String} {base index : Nat} {action : StoreAction S}
    (sound : StoreSound config s) (behind : BehindAt config aggregateId base index s)
    (stepped : (storeMachine S config).step s action = some t) :
    BehindAt config aggregateId base index t := by
  intro short
  have grown := storeMachine_grows stepped aggregateId
  have shorter := lt_of_le_of_lt (Nat.succ_le_succ grown) short
  obtain ⟨execution, found, rfl, before⟩ := behind shorter
  rcases storeMachine_at found stepped with still | ⟨move, result, moved, rfl⟩
  · exact ⟨execution, still, rfl, before.mono grown⟩
  · obtain ⟨inside, _⟩ := List.getElem?_eq_some_iff.mp found
    have after := sound.behind (List.mem_of_getElem? found) shorter before moved
    exact ⟨result.execution, List.getElem?_set_self inside,
      (Execution.step_same moved).aggregateId, after.mono grown⟩

/-- An execution that has returned stays as it is. -/
theorem returned_run {index : Nat} {execution : Execution S}
    {answer : Except (CommandGatewayError S.Error) Unit} {actions : List (StoreAction S)}
    (found : s.executions[index]? = some execution) (phase : execution.phase = .returned answer)
    (ran : (storeMachine S config).run s actions = some t) :
    t.executions[index]? = some execution := by
  induction actions generalizing s with
  | nil =>
    obtain rfl : s = t := Option.some.inj ran
    exact found
  | cons action rest ih =>
    obtain ⟨middle, stepped, ran⟩ := Machine.run_cons ran
    refine ih ?_ ran
    rcases storeMachine_at found stepped with still | ⟨move, result, moved, rfl⟩
    · exact still
    · simp [Execution.step, phase] at moved

/-- The step leaves the log alone if it is one of this execution. -/
def SpareLog (config : PostgresCommandConfig) (index : Nat) (s : StoreState S)
    (action : StoreAction S) : Prop :=
  ∀ move t, action = .act index move → (storeMachine S config).step s action = some t →
    t.log = s.log

/-- **A command that is answered with a conflict has committed nothing.** -/
theorem conflict_spares_log {index : Nat} {execution last : Execution S}
    {actions : List (StoreAction S)} (found : s.executions[index]? = some execution)
    (ran : (storeMachine S config).run s actions = some t)
    (final : t.executions[index]? = some last)
    (conflict : last.phase = .returned (.error .conflict)) :
    (storeMachine S config).EveryStep (SpareLog config index) s actions := by
  induction actions generalizing s execution with
  | nil => trivial
  | cons action rest ih =>
    obtain ⟨middle, stepped, ran⟩ := Machine.run_cons ran
    have next : ∃ after, middle.executions[index]? = some after := by
      rcases storeMachine_at found stepped with still | ⟨_, result, _, rfl⟩
      · exact ⟨execution, still⟩
      · obtain ⟨inside, _⟩ := List.getElem?_eq_some_iff.mp found
        exact ⟨result.execution, List.getElem?_set_self inside⟩
    obtain ⟨after, present⟩ := next
    refine ⟨?_, fun t same => ?_⟩
    · rintro move t rfl same
      obtain ⟨mover, known, same⟩ := Option.bind_eq_some_iff.mp same
      obtain rfl := Option.some.inj (found.symm.trans known)
      obtain ⟨result, moved, same⟩ := Option.bind_eq_some_iff.mp same
      obtain rfl := Option.some.inj same
      obtain rfl := Option.some.inj ((storeMachine_act found moved).symm.trans stepped)
      cases committed : result.committed with
      | none => rw [Option.toList_none, List.append_nil]
      | some commit =>
        -- The answer to a commit stays, so the last one would not be a conflict.
        obtain ⟨answer, returned, other⟩ := Execution.committed_returned moved committed
        obtain ⟨inside, _⟩ := List.getElem?_eq_some_iff.mp found
        have kept := returned_run (List.getElem?_set_self inside) returned ran
        obtain rfl := Option.some.inj (kept.symm.trans final)
        exact absurd (Phase.returned.inj (returned.symm.trans conflict)) other
    · obtain rfl : middle = t := Option.some.inj (stepped.symm.trans same)
      exact ih present ran

/-- **A conflict needs overtakers.** A command is started in any reachable store and is answered with
a conflict, while the stream of its aggregate stays below the first snapshot. Then at least as many
events were committed to that stream meanwhile as the command has attempts, and none of them by the
command itself. -/
theorem conflict_needs_overtakers (safe : S.RepeatSafe) (config : PostgresCommandConfig)
    {s t : StoreState S} (reached : (storeMachine S config).Reachable s) (aggregateId : String)
    (command : S.Command) (tasks : List (NewTask Value)) (actions : List (StoreAction S))
    (ran : (storeMachine S config).run s (.start aggregateId command tasks :: actions) = some t)
    {execution : Execution S} (found : t.executions[s.executions.length]? = some execution)
    (conflict : execution.phase = .returned (.error .conflict))
    (short : (stream t.log aggregateId).length + 1 < config.snapshotInterval) :
    (stream s.log aggregateId).length + config.conflictRetry.maxAttempts
        ≤ (stream t.log aggregateId).length ∧
      (storeMachine S config).EveryStep (SpareLog config s.executions.length) s
        (.start aggregateId command tasks :: actions) := by
  obtain ⟨begun, stepped, ran⟩ := Machine.run_cons ran
  have after := reached.step _ stepped
  obtain rfl := Option.some.inj stepped
  have first : (s.executions ++ [Execution.begin aggregateId command tasks])[s.executions.length]?
      = some (.begin aggregateId command tasks) := List.getElem?_concat_length
  constructor
  · have start : BehindAt config aggregateId (stream s.log aggregateId).length s.executions.length
        { s with executions := s.executions ++ [.begin aggregateId command tasks] } :=
      fun _ => ⟨_, first, rfl, le_rfl⟩
    have behind : BehindAt config aggregateId (stream s.log aggregateId).length
        s.executions.length t :=
      after.run_invariant (fun _ _ _ known kept moved =>
        behind_step (storeSound_reachable safe known) kept moved) start ran
    obtain ⟨other, present, _, count⟩ := behind short
    obtain rfl := Option.some.inj (found.symm.trans present)
    rw [Execution.Behind, conflict] at count
    exact count
  · refine ⟨fun move u wrong _ => (by cases wrong), fun u same => ?_⟩
    obtain rfl := Option.some.inj same
    exact conflict_spares_log first ran found conflict

end Overtaking

/-! ### A command that is overtaken twice -/

/-- Two attempts, and the default interval. -/
def twoAttempts : PostgresCommandConfig :=
  { PostgresCommandConfig.default with conflictRetry := everyEvent.conflictRetry }

/-- The statements of a command that commits. -/
def assigns (index : Nat) : List (StoreAction (plainStored register "register")) :=
  [.act index (.readSnapshot 0), .act index .readTail, .act index (.write 0 false)]

/-- A command reads, another commits, and both again. -/
def overtakenTwice : List (StoreAction (plainStored register "register")) :=
  [.start "r" (2 : Nat) [], .start "r" (3 : Nat) [], .act 0 (.readSnapshot 0), .act 0 .readTail]
    ++ assigns 1 ++ [.act 0 (.write 0 false), .act 0 (.readSnapshot 0), .act 0 .readTail]
    ++ assigns 2 ++ [.act 0 (.write 0 false)]

/-- The answer is a conflict. -/
def Phase.isConflict {Value : Type} {S : StoredAggregate Value} : Phase S → Bool
  | .returned (.error .conflict) => true
  | _ => false

theorem Phase.eq_conflict {Value : Type} {S : StoredAggregate Value} {phase : Phase S}
    (conflict : phase.isConflict = true) : phase = .returned (.error .conflict) := by
  unfold isConflict at conflict
  split at conflict
  · rfl
  · cases conflict

/-- The store of the example. -/
abbrev registerStore :
    Machine (StoreState (plainStored register "register"))
      (StoreAction (plainStored register "register")) :=
  storeMachine (plainStored register "register") twoAttempts

theorem overtakenTwice_enabled : (registerStore.run registerStore.start
    (.start "r" (1 : Nat) [] :: overtakenTwice)).isSome = true := by
  decide +kernel

theorem conflict_needs_overtakers_twice :
    ∃ t execution, registerStore.run registerStore.start (.start "r" (1 : Nat) [] :: overtakenTwice)
        = some t ∧
      t.executions[0]? = some execution ∧ execution.phase = .returned (.error .conflict) ∧
      0 + 2 ≤ (stream t.log "r").length := by
  have answered : ((registerStore.after _ overtakenTwice_enabled).executions[0]?).any
      (fun execution => execution.phase.isConflict) = true := by decide +kernel
  have short : (stream (registerStore.after _ overtakenTwice_enabled).log "r").length + 1 < 25 := by
    decide +kernel
  obtain ⟨execution, found, conflict⟩ := (Option.any_eq_true _ _).mp answered
  have ran := registerStore.run_after _ overtakenTwice_enabled
  have phase := Phase.eq_conflict conflict
  exact ⟨_, execution, ran, found, phase,
    (conflict_needs_overtakers (S := plainStored register "register") (s := registerStore.start)
      register_repeatTolerant.repeatSafe twoAttempts .start "r" (1 : Nat) [] overtakenTwice ran found
      phase short).1⟩

end AccountManagement.Store
