/-
**Commands take effect at one instant.**

The specification of a command gateway: every aggregate has a history, and a pending call is
answered in one step that handles its command on the whole history of that instant, appends the
event and posts the tasks. There are no snapshots, no attempts and no reads in it.

* `StoreSound.acts`: a statement of an execution, seen from the histories and the answers, is one
  such step or nothing at all. Reads and attempts that are repeated are not seen; what is seen
  is the write that commits, the rejection of the loaded state, and the failures.
-/

import AccountManagement.Store.Answers

namespace AccountManagement.Store

open AccountManagement.Library AccountManagement.Task AccountManagement.Outbox

/-! ### The specification -/

/-- What the caller of a command knows. -/
inductive CallStatus (Error : Type) where
  | pending
  | answered (answer : Except (CommandGatewayError Error) Unit)
  | crashed

section Atomic

variable {Value : Type} [JsonValue Value] (S : StoredAggregate Value)

/-- A call of a gateway. -/
structure AtomicCall where
  aggregateId : String
  command : S.Command
  tasks : List (NewTask Value)
  status : CallStatus S.Error

/-- The history of every aggregate, and the calls in the order they were made. -/
structure AtomicGateway where
  histories : String → List S.Event
  calls : List (AtomicCall S)

variable {S}

/-- A new call. -/
def AtomicGateway.begin (gateway : AtomicGateway S) (aggregateId : String) (command : S.Command)
    (tasks : List (NewTask Value)) : AtomicGateway S :=
  { gateway with calls := gateway.calls ++ [⟨aggregateId, command, tasks, .pending⟩] }

/-- The end of a call. -/
def AtomicGateway.finish (gateway : AtomicGateway S) (index : Nat) (call : AtomicCall S)
    (status : CallStatus S.Error) : AtomicGateway S :=
  { gateway with calls := gateway.calls.set index { call with status } }

/-- One more event in the history of an aggregate. -/
def AtomicGateway.append (gateway : AtomicGateway S) (aggregateId : String) (event : S.Event) :
    AtomicGateway S :=
  { gateway with histories :=
      Function.update gateway.histories aggregateId (gateway.histories aggregateId ++ [event]) }

/-- How a pending call ends. It is performed on the whole history of its aggregate: the event is
appended and the tasks are posted, even if the answer is lost; or the command is rejected. A call
can also fail without effect. -/
inductive AtomicGateway.Ends (gateway : AtomicGateway S) (now : DateTime)
    (rows : List (OutboxRow Value)) (index : Nat) (call : AtomicCall S) :
    AtomicGateway S → List (OutboxRow Value) → Prop
  | performed (state : S.State) (event : S.Event) (written : List (OutboxRow Value))
      (answer : Except (CommandGatewayError S.Error) Unit) :
      S.replay (gateway.histories call.aggregateId) = some state →
      S.handle state call.command = .ok [event] →
      insertTasks S.typeName ((gateway.histories call.aggregateId).length + 1)
        (serializeEvent S call.aggregateId ((gateway.histories call.aggregateId).length + 1) event)
        now call.tasks rows = .ok written →
      answer = .ok () ∨ answer = .error .unavailable →
      Ends gateway now rows index call
        ((gateway.append call.aggregateId event).finish index call (.answered answer)) written
  | rejected (state : S.State) (reason : S.Error) :
      S.replay (gateway.histories call.aggregateId) = some state →
      S.handle state call.command = .error reason →
      Ends gateway now rows index call
        (gateway.finish index call (.answered (.error (.domain reason)))) rows
  | conflict : Ends gateway now rows index call
      (gateway.finish index call (.answered (.error .conflict))) rows
  | unavailable : Ends gateway now rows index call
      (gateway.finish index call (.answered (.error .unavailable))) rows
  | crashed : Ends gateway now rows index call (gateway.finish index call .crashed) rows

/-- **One call takes effect.** -/
def AtomicGateway.Acts (gateway : AtomicGateway S) (now : DateTime) (rows : List (OutboxRow Value))
    (after : AtomicGateway S) (written : List (OutboxRow Value)) : Prop :=
  ∃ index call, gateway.calls[index]? = some call ∧ call.status = .pending ∧
    gateway.Ends now rows index call after written

/-! ### The view -/

/-- What the caller knows of an execution in a phase. -/
def Phase.status : Phase S → CallStatus S.Error
  | .loading | .snapshotRead _ | .decided _ => .pending
  | .returned answer => .answered answer
  | .panicked => .crashed

/-- An execution, without its attempts and reads. -/
def Execution.call (execution : Execution S) : AtomicCall S :=
  ⟨execution.aggregateId, execution.command, execution.tasks, execution.phase.status⟩

/-- A store, seen from its stored histories and its answers. -/
def StoreState.atomic (s : StoreState S) : AtomicGateway S :=
  ⟨fun aggregateId => storedEvents S aggregateId s.tables, s.executions.map Execution.call⟩

/-! ### One statement -/

/-- Only a pending execution moves. -/
theorem Execution.step_pending {config : PostgresCommandConfig} {execution : Execution S}
    {move : Move} {tables : Tables Value} {stepped : Stepped S}
    (moved : execution.step config move tables = some stepped) :
    execution.phase.status = .pending := by
  unfold step at moved
  split at moved
  · rename_i phase
    rw [phase]
    rfl
  · rename_i phase
    rw [phase]
    rfl
  · rename_i phase
    rw [phase]
    rfl
  · rename_i phase
    rw [phase]
    rfl
  · rename_i phase
    rw [phase]
    rfl
  · rename_i phase
    rw [phase]
    rfl
  · cases moved

theorem Execution.SameCommand.call {first second : Execution S} (same : first.SameCommand second) :
    second.call = { first.call with status := second.phase.status } := by
  unfold Execution.call
  rw [same.aggregateId, same.command, same.tasks]

/-- The answer to a write that has committed. -/
theorem Execution.write_returned {config : PostgresCommandConfig} {execution : Execution S}
    {decision : Decision S} {now : DateTime} {lost : Bool} {tables : Tables Value}
    {commit : Commit S}
    (committed : (execution.write config decision now lost tables).committed = some commit) :
    ∃ answer, (execution.write config decision now lost tables).execution.phase = .returned answer ∧
      (answer = .ok () ∨ answer = .error .unavailable) := by
  cases lost with
  | true => exact ⟨_, rfl, .inr rfl⟩
  | false =>
    rcases persistCommand_cases S.typeName execution.tasks
        (wrapEvents decision.context decision.events) decision.update now tables with
      ⟨_, _, _, persisted⟩ | ⟨_, _, _, _, _, persisted, _⟩ | ⟨error, persisted⟩
    · refine ⟨.ok (), ?_, .inl rfl⟩
      simp only [Execution.write, persisted]
      rfl
    · refine ⟨.ok (), ?_, .inl rfl⟩
      simp only [Execution.write, persisted]
      rfl
    · simp only [Execution.write, persisted, Execution.commit] at committed
      cases committed

/-- **A commit is made on the whole stream**: its event is what `handle` emits on the state of the
stream, and it is written after the last one. -/
theorem StoreSound.performed {config : PostgresCommandConfig} {s : StoreState S}
    (sound : StoreSound config s) {execution : Execution S} (member : execution ∈ s.executions)
    {move : Move} {stepped : Stepped S} {commit : Commit S}
    (moved : execution.step config move s.tables = some stepped)
    (committed : stepped.committed = some commit) :
    ∃ final event write now lost answer, move = .write now lost ∧
      S.Serial (stream s.log execution.aggregateId) final ∧
      S.handle final execution.command = .ok [event] ∧
      Committed S.typeName ((stream s.log execution.aggregateId).length + 1) execution.tasks
        (serializeEvent S execution.aggregateId ((stream s.log execution.aggregateId).length + 1)
          event) write now s.tables stepped.tables ∧
      stepped.committed
        = some ⟨execution.aggregateId, execution.command, event, execution.tasks⟩ ∧
      stepped.execution.phase = .returned answer ∧
      (answer = .ok () ∨ answer = .error .unavailable) := by
  cases Execution.step_moved moved with
  | readSnapshot | readTail | panicked | ended => cases committed
  | write decision now lost phase =>
    have held := sound.executions execution member
    rw [Execution.Sound, phase] at held
    obtain ⟨sameId, context, decided⟩ := held
    obtain ⟨final, serial⟩ := sound.serial execution.aggregateId
    obtain ⟨answer, returned, known⟩ := Execution.write_returned committed
    rcases execution.write_cases config decision now lost s.tables with
      ⟨event, write, written, one, _, done, same, made⟩ | ⟨_, none⟩
    · rw [← sameId] at context serial
      have position := sound.position context done.eventFresh
      have current := context.complete position serial.replay
      have handled := (decideCommand_ok decided).2.1
      rw [one, current] at handled
      rw [← same, position, sameId, streamEvents, List.length_map] at done
      rw [sameId] at serial
      exact ⟨final, event, write, now, lost, answer, rfl, serial, handled, done, made, returned,
        known⟩
    · rw [none] at committed
      cases committed

omit [JsonValue Value] in
theorem storedEvents_append {before after : Tables Value} {aggregateId : String}
    {rows : List (EventRow Value)}
    (grown : ownEvents S aggregateId after = ownEvents S aggregateId before ++ rows) :
    storedEvents S aggregateId after
      = storedEvents S aggregateId before ++ rows.filterMap fun row => S.decodeEvent row.payload := by
  unfold storedEvents
  rw [grown, List.filterMap_append]

/-- A commit appends its event to the stored history of its aggregate. -/
theorem storedEvents_committed {tasks : List (NewTask Value)} {event : S.Event}
    {write : SnapshotWrite Value} {now : DateTime} {before after : Tables Value}
    {target : String} {sequence : Nat}
    (done : Committed S.typeName sequence tasks (serializeEvent S target sequence event) write now
      before after) :
    (fun aggregateId => storedEvents S aggregateId after)
      = Function.update (fun aggregateId => storedEvents S aggregateId before) target
        (storedEvents S target before ++ [event]) := by
  funext aggregateId
  rw [storedEvents_append (ownEvents_committed done aggregateId)]
  by_cases same : target = aggregateId
  · subst same
    have read : S.decodeEvent (streamRow S target sequence event).payload = some event :=
      S.decode_encodeEvent event
    rw [if_pos rfl, Function.update_self, List.filterMap_cons, read, List.filterMap_nil]
  · rw [if_neg same, Function.update_of_ne (Ne.symm same), List.filterMap_nil, List.append_nil]

/-- What a move without a commit changes of the view. -/
theorem StoreState.atomic_finish {s : StoreState S} {index : Nat} {execution next : Execution S}
    (same : execution.SameCommand next) :
    StoreState.atomic { s with executions := s.executions.set index next }
      = s.atomic.finish index execution.call next.phase.status := by
  unfold atomic AtomicGateway.finish
  rw [List.map_set, same.call]

/-- A call that is still pending is seen as it was. -/
theorem AtomicGateway.finish_self {gateway : AtomicGateway S} {index : Nat} {call : AtomicCall S}
    (found : gateway.calls[index]? = some call) :
    gateway.finish index call call.status = gateway := by
  obtain ⟨inside, rfl⟩ := List.getElem?_eq_some_iff.mp found
  show (⟨gateway.histories, gateway.calls.set index gateway.calls[index]⟩ : AtomicGateway S) = gateway
  rw [List.set_getElem_self]

/-- The stored histories are the committed ones. -/
theorem StoreSound.history {config : PostgresCommandConfig} {s : StoreState S}
    (sound : StoreSound config s) (aggregateId : String) :
    s.atomic.histories aggregateId = (stream s.log aggregateId).map Prod.snd :=
  sound.storedEvents aggregateId

/-- **Everything a statement of an execution can do**, seen from the histories and the answers: go
on, fail, be rejected on the whole history, or commit after it. -/
inductive Execution.Seen (s : StoreState S) (execution : Execution S) (move : Move)
    (stepped : Stepped S) : Prop
  | unseen : stepped.tables = s.tables → stepped.committed = none →
      stepped.execution.phase.status = .pending → Seen s execution move stepped
  | failed (status : CallStatus S.Error) : stepped.tables = s.tables → stepped.committed = none →
      stepped.execution.phase.status = status →
      status = .crashed ∨ status = .answered (.error .conflict) ∨
        status = .answered (.error .unavailable) → Seen s execution move stepped
  | rejected (state : S.State) (reason : S.Error) : stepped.tables = s.tables →
      stepped.committed = none →
      stepped.execution.phase.status = .answered (.error (.domain reason)) →
      S.replay (s.atomic.histories execution.aggregateId) = some state →
      S.handle state execution.command = .error reason → Seen s execution move stepped
  | performed (state : S.State) (event : S.Event) (write : SnapshotWrite Value) (now : DateTime)
      (lost : Bool) (answer : Except (CommandGatewayError S.Error) Unit) :
      move = .write now lost →
      stepped.committed
        = some ⟨execution.aggregateId, execution.command, event, execution.tasks⟩ →
      S.replay (s.atomic.histories execution.aggregateId) = some state →
      S.handle state execution.command = .ok [event] →
      Committed S.typeName ((s.atomic.histories execution.aggregateId).length + 1) execution.tasks
        (serializeEvent S execution.aggregateId
          ((s.atomic.histories execution.aggregateId).length + 1) event) write now s.tables
        stepped.tables →
      stepped.execution.phase.status = .answered answer →
      answer = .ok () ∨ answer = .error .unavailable → Seen s execution move stepped

theorem StoreSound.seen {config : PostgresCommandConfig} {s : StoreState S}
    (sound : StoreSound config s) (emits : S.NeverSilent) {execution : Execution S}
    (member : execution ∈ s.executions) {move : Move} {stepped : Stepped S}
    (moved : execution.step config move s.tables = some stepped) :
    execution.Seen s move stepped := by
  have history := sound.history execution.aggregateId
  rcases Execution.step_effect moved with ⟨same, none⟩ | ⟨_, _, _, _, _, _, _, _, committed⟩
  · cases phase : stepped.execution.phase with
    | loading | snapshotRead | decided => exact .unseen same none (by rw [phase]; rfl)
    | panicked => exact .failed .crashed same none (by rw [phase]; rfl) (.inl rfl)
    | returned answer =>
      have status : stepped.execution.phase.status = .answered answer := by rw [phase]; rfl
      cases Execution.step_answer moved phase with
      | rejected context loaded reason read loads handled =>
        obtain ⟨final, serial, rejected⟩ := sound.rejected member moved phase
        refine .rejected final reason same none status ?_ rejected
        rw [history]
        exact serial.replay
      | committed event made =>
        rw [none] at made
        cases made
      | silent decision decided empty =>
        have held := sound.executions execution member
        rw [Execution.Sound, decided] at held
        have handled := (decideCommand_ok held.2.2).2.1
        rw [empty] at handled
        exact absurd handled (emits _ _)
      | conflict => exact .failed _ same none status (.inr (.inl rfl))
      | unavailable => exact .failed _ same none status (.inr (.inr rfl))
  · obtain ⟨final, event, write, now, lost, answer, atWrite, serial, handled, done, made, phase,
      kind⟩ := sound.performed member moved committed
    have length : (s.atomic.histories execution.aggregateId).length
        = (stream s.log execution.aggregateId).length := by
      rw [history, List.length_map]
    rw [← length] at done
    refine .performed final event write now lost answer atWrite made ?_ handled done
      (by rw [phase]; rfl) kind
    rw [history]
    exact serial.replay

/-- **A statement is a step of the specification, or not seen.** -/
theorem StoreSound.acts {config : PostgresCommandConfig} {s : StoreState S}
    (sound : StoreSound config s) (emits : S.NeverSilent) {execution : Execution S} {index : Nat}
    (found : s.executions[index]? = some execution) {move : Move} {stepped : Stepped S}
    (moved : execution.step config move s.tables = some stepped) (now : DateTime)
    (timely : ∀ time lost, move = .write time lost → time = now) :
    let t : StoreState S := ⟨stepped.tables, s.log ++ stepped.committed.toList,
      s.executions.set index stepped.execution⟩
    (t.atomic = s.atomic ∧ stepped.tables = s.tables) ∨
      s.atomic.Acts now s.tables.outbox t.atomic stepped.tables.outbox := by
  intro t
  have same := Execution.step_same moved
  have known : s.atomic.calls[index]? = some execution.call := by
    show (s.executions.map Execution.call)[index]? = _
    rw [List.getElem?_map, found]
    rfl
  have pending : execution.call.status = .pending := Execution.step_pending moved
  -- Without a commit only the status of the call is seen.
  have seen : stepped.tables = s.tables →
      t.atomic = s.atomic.finish index execution.call stepped.execution.phase.status := by
    intro sameTables
    rw [← StoreState.atomic_finish same]
    show StoreState.atomic ⟨stepped.tables, _, _⟩ = _
    rw [sameTables]
    rfl
  have acts : ∀ after, stepped.tables = s.tables →
      s.atomic.Ends now s.tables.outbox index execution.call after s.tables.outbox →
      t.atomic = after → s.atomic.Acts now s.tables.outbox t.atomic stepped.tables.outbox := by
    intro after sameTables ends equal
    rw [equal, sameTables]
    exact ⟨index, _, known, pending, ends⟩
  cases sound.seen emits (List.mem_of_getElem? found) moved with
  | unseen sameTables none status =>
    refine .inl ⟨?_, sameTables⟩
    rw [seen sameTables, status, ← pending]
    exact AtomicGateway.finish_self known
  | failed status sameTables none reached kind =>
    have ended := seen sameTables
    rw [reached] at ended
    rcases kind with rfl | rfl | rfl
    · exact .inr (acts _ sameTables .crashed ended)
    · exact .inr (acts _ sameTables .conflict ended)
    · exact .inr (acts _ sameTables .unavailable ended)
  | rejected state reason sameTables none status replayed rejected =>
    have ended := seen sameTables
    rw [status] at ended
    exact .inr (acts _ sameTables (.rejected state reason replayed rejected) ended)
  | performed state event write time lost answer atWrite made replayed handled done status kind =>
    obtain rfl := timely time lost atWrite
    have ended : t.atomic = (s.atomic.append execution.aggregateId event).finish index
        execution.call (.answered answer) := by
      show StoreState.atomic ⟨stepped.tables, _, s.executions.set index stepped.execution⟩ = _
      unfold StoreState.atomic AtomicGateway.append AtomicGateway.finish
      rw [storedEvents_committed done, List.map_set, same.call, status]
    refine .inr ⟨index, _, known, pending, ?_⟩
    rw [ended]
    exact .performed state event _ answer replayed handled done.inserted kind

end Atomic

end AccountManagement.Store
