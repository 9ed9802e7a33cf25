/-
**Stored streams and loading.**

`streamRows` are the rows of a stream whose events are numbered from one. Over such rows the two
reads of an attempt do what they should: `getLastEvents_stream` (exactly the events after a
position, in order) and `loadTail_stream` (the fold continues over them). `decideCommand_ok` says
everything a decision has passed.
-/

import AccountManagement.Store.Framework

namespace AccountManagement.Store

open AccountManagement.Library AccountManagement.Task AccountManagement.Outbox

section Streams

variable {Value : Type} [JsonValue Value] (S : StoredAggregate Value)

/-- The row of an event at a position of its stream. -/
def streamRow (aggregateId : String) (sequence : Nat) (event : S.Event) : EventRow Value :=
  eventRow S.typeName sequence (serializeEvent S aggregateId sequence event)

/-- The rows of consecutive events after position `start`. -/
def streamRows (aggregateId : String) : Nat → List S.Event → List (EventRow Value)
  | _, [] => []
  | start, event :: rest =>
    streamRow S aggregateId (start + 1) event :: streamRows aggregateId (start + 1) rest

/-- Events with their positions. -/
def numbered (S : StoredAggregate Value) : Nat → List S.Event → List (Nat × S.Event)
  | _, [] => []
  | start, event :: rest => (start + 1, event) :: numbered S (start + 1) rest

variable {S}

theorem streamRows_append (aggregateId : String) (start : Nat) (first second : List S.Event) :
    streamRows S aggregateId start (first ++ second)
      = streamRows S aggregateId start first
        ++ streamRows S aggregateId (start + first.length) second := by
  induction first generalizing start with
  | nil => rfl
  | cons event rest ih =>
    rw [List.cons_append, streamRows, ih, streamRows, List.cons_append, List.length_cons,
      Nat.add_right_comm, Nat.add_assoc]

theorem mem_streamRows {aggregateId : String} {start : Nat} {events : List S.Event}
    {row : EventRow Value} (member : row ∈ streamRows S aggregateId start events) :
    start < row.sequence ∧ row.sequence ≤ start + events.length := by
  induction events generalizing start with
  | nil => cases member
  | cons event rest ih =>
    rcases List.mem_cons.mp member with rfl | later
    · refine ⟨Nat.lt_succ_self start, ?_⟩
      show start + 1 ≤ start + (rest.length + 1)
      omega
    · have := ih later
      rw [List.length_cons]
      omega

/-- Every row of a stream is that of the event at its position. -/
theorem streamRow_of_mem {aggregateId : String} {start : Nat} {events : List S.Event}
    {row : EventRow Value} (member : row ∈ streamRows S aggregateId start events) :
    ∃ (position : Nat) (event : S.Event), events[position]? = some event ∧
      row = streamRow S aggregateId (start + position + 1) event := by
  induction events generalizing start with
  | nil => cases member
  | cons event rest ih =>
    rcases List.mem_cons.mp member with rfl | later
    · exact ⟨0, event, rfl, rfl⟩
    · obtain ⟨position, found, present, rfl⟩ := ih later
      refine ⟨position + 1, found, present, ?_⟩
      rw [Nat.add_right_comm start 1 position, Nat.add_assoc start position 1]

/-- Every position of a stream has its row. -/
theorem exists_streamRow {aggregateId : String} {start position : Nat} {events : List S.Event}
    (after : start < position) (within : position ≤ start + events.length) :
    ∃ row ∈ streamRows S aggregateId start events,
      row.key = (S.typeName, aggregateId, position) := by
  induction events generalizing start with
  | nil =>
    rw [List.length_nil] at within
    omega
  | cons event rest ih =>
    by_cases first : position = start + 1
    · subst first
      exact ⟨_, List.mem_cons_self, rfl⟩
    · rw [List.length_cons] at within
      obtain ⟨row, member, key⟩ := ih (show start + 1 < position by omega) (by omega)
      exact ⟨row, List.mem_cons_of_mem _ member, key⟩

theorem map_sequence_streamRows (aggregateId : String) (start : Nat) (events : List S.Event) :
    (streamRows S aggregateId start events).map EventRow.sequence
      = List.range' (start + 1) events.length := by
  induction events generalizing start with
  | nil => rfl
  | cons event rest ih =>
    rw [streamRows, List.map_cons, ih, List.length_cons, List.range'_succ]
    rfl

theorem map_payload_streamRows (aggregateId : String) (start : Nat) (events : List S.Event) :
    (streamRows S aggregateId start events).map EventRow.payload = events.map S.encodeEvent := by
  induction events generalizing start with
  | nil => rfl
  | cons event rest ih =>
    rw [streamRows, List.map_cons, ih, List.map_cons]
    rfl

theorem streamRows_sorted (aggregateId : String) (start : Nat) (events : List S.Event) :
    (streamRows S aggregateId start events).Pairwise
      fun first second => first.sequence ≤ second.sequence := by
  induction events generalizing start with
  | nil => exact .nil
  | cons event rest ih =>
    refine .cons (fun row member => ?_) (ih (start + 1))
    exact Nat.le_of_lt (mem_streamRows member).1

theorem filter_streamRows {aggregateId : String} {position : Nat} {events : List S.Event}
    (within : position ≤ events.length) :
    (streamRows S aggregateId 0 events).filter (fun row => row.sequence > position)
      = streamRows S aggregateId position (events.drop position) := by
  have split := streamRows_append (S := S) aggregateId 0 (events.take position)
    (events.drop position)
  rw [List.take_append_drop, List.length_take_of_le within, Nat.zero_add] at split
  rw [split, List.filter_append]
  have earlier : (streamRows S aggregateId 0 (events.take position)).filter
      (fun row => row.sequence > position) = [] := by
    refine List.filter_eq_nil_iff.mpr fun row member => ?_
    have := (mem_streamRows member).2
    rw [List.length_take_of_le within] at this
    simp only [gt_iff_lt, decide_eq_true_eq]
    omega
  have later : (streamRows S aggregateId position (events.drop position)).filter
      (fun row => row.sequence > position) = streamRows S aggregateId position
        (events.drop position) := by
    refine List.filter_eq_self.mpr fun row member => ?_
    exact decide_eq_true (mem_streamRows member).1
  rw [earlier, later, List.nil_append]

/-- **The tail query** returns exactly the events after a position, in order. -/
theorem getLastEvents_stream {aggregateId : String} {position : Nat} {events : List S.Event}
    {tables : Tables Value} (stored : ownEvents S aggregateId tables
      = streamRows S aggregateId 0 events) (within : position ≤ events.length) :
    getLastEvents S aggregateId position tables
      = streamRows S aggregateId position (events.drop position) := by
  unfold getLastEvents
  rw [stored, filter_streamRows within]
  exact (streamRows_sorted aggregateId position (events.drop position)).insertionSort_eq

theorem decodeEvents_streamRows (aggregateId : String) (start : Nat) (events : List S.Event) :
    decodeEvents S (streamRows S aggregateId start events) = some (numbered S start events) := by
  induction events generalizing start with
  | nil => rfl
  | cons event rest ih =>
    have decoded : S.decodeEvent (streamRow S aggregateId (start + 1) event).payload
        = some event := S.decode_encodeEvent event
    simp only [streamRows, decodeEvents, decoded, ih, numbered]
    rfl

omit [JsonValue Value] in
theorem applyEvents_numbered (context : Context S) (events : List S.Event) :
    applyEvents context (numbered S context.currentSequence events)
      = (S.replayFrom context.state events).map fun state =>
        { context with
          state := state
          currentSequence := context.currentSequence + events.length } := by
  induction events generalizing context with
  | nil => rfl
  | cons event rest ih =>
    simp only [numbered, applyEvents, Aggregate.replayFrom]
    cases applied : S.apply context.state event with
    | none => rfl
    | some next =>
      have tail := ih ⟨context.aggregateId, next, context.currentSequence + 1,
        context.currentSnapshot⟩
      simp only [List.length_cons]
      rw [← Nat.add_assoc, Nat.add_right_comm]
      exact tail

/-- **The second read** continues the fold over the events after the snapshot. -/
theorem loadTail_stream {context : Context S} {events : List S.Event} {tables : Tables Value}
    {final : S.State} (stored : ownEvents S context.aggregateId tables
      = streamRows S context.aggregateId 0 events)
    (within : context.currentSequence ≤ events.length)
    (folded : S.replayFrom context.state (events.drop context.currentSequence) = some final) :
    loadTail context tables
      = .ok { context with state := final, currentSequence := events.length } := by
  unfold loadTail
  rw [getLastEvents_stream stored within, decodeEvents_streamRows]
  simp only [applyEvents_numbered, folded, Option.map_some, List.length_drop,
    Nat.add_sub_cancel' within]

omit [JsonValue Value] in
/-- **The first read** starts from a snapshot row, or from the initial state if it finds none that
decodes. -/
theorem loadSnapshot_cases (S : StoredAggregate Value) (aggregateId : String) (choice : Nat)
    (tables : Tables Value) :
    (loadSnapshot S aggregateId choice tables = contextFor S aggregateId ∧
      ∀ row, getSnapshot S aggregateId choice tables = some row →
        S.decodeState row.payload = none) ∨
      ∃ row state, getSnapshot S aggregateId choice tables = some row ∧
        S.decodeState row.payload = some state ∧
        loadSnapshot S aggregateId choice tables
          = ⟨aggregateId, state, row.lastSequence, some row.currentSnapshot⟩ := by
  unfold loadSnapshot
  cases found : getSnapshot S aggregateId choice tables with
  | none => exact .inl ⟨rfl, fun _ some_ => absurd some_ nofun⟩
  | some row =>
    cases decoded : S.decodeState row.payload with
    | none =>
      refine .inl ⟨by simp only [decoded], fun other same => ?_⟩
      rwa [← Option.some.inj same]
    | some state => exact .inr ⟨row, state, rfl, decoded, by simp only [decoded]⟩

omit [JsonValue Value] in
/-- The tail read fails only on data that does not decode. -/
theorem loadTail_error {context : Context S} {tables : Tables Value} {error : PersistenceError}
    (failed : loadTail context tables = .error error) : error = .deserializationError := by
  unfold loadTail at failed
  split at failed
  · exact (Outcome.error.inj failed).symm
  · split at failed <;> cases failed

/-! ### Decisions -/

/-- The only event of a decision has the sequence after the loaded one. -/
theorem wrapEvents_singleton {context : Context S} {events : List S.Event}
    {stored : SerializedEvent Value} (one : wrapEvents context events = [stored]) :
    ∃ event, events = [event] ∧
      stored = serializeEvent S context.aggregateId (context.currentSequence + 1) event := by
  have length := congrArg List.length one
  rw [wrapEvents, List.length_mapIdx] at length
  obtain ⟨event, rfl⟩ := List.length_eq_one_iff.mp length
  exact ⟨event, rfl, by simpa [wrapEvents] using one.symm⟩

theorem commitSnapshotToEvent_one {currentSequence interval : Nat} (positive : 0 < interval) :
    commitSnapshotToEvent currentSequence interval 1
      = if (currentSequence + 1) % interval = 0 then 1 else 0 := by
  have small := Nat.mod_lt currentSequence positive
  have next : (currentSequence + 1) % interval = (currentSequence % interval + 1) % interval :=
    (Nat.mod_add_mod currentSequence interval 1).symm
  unfold commitSnapshotToEvent
  by_cases boundary : currentSequence % interval + 1 = interval
  · rw [next, boundary, Nat.mod_self, if_pos rfl, if_neg (by omega)]
    have one : interval - currentSequence % interval = 1 := by omega
    simp only [one, Nat.sub_self, Nat.zero_mod]
  · have inside : currentSequence % interval + 1 < interval := by omega
    rw [next, Nat.mod_eq_of_lt inside, if_neg (Nat.succ_ne_zero _), if_pos (by omega)]

omit [JsonValue Value] in
/-- **A decision with one event**: off the boundary it carries no snapshot; at the boundary the
event is applied once more. -/
theorem decideCommand_one {interval : Nat} {context : Context S} {command : S.Command}
    {event : S.Event} {applied : S.State} (positive : 0 < interval)
    (handled : S.handle context.state command = .ok [event])
    (first : S.apply context.state event = some applied) :
    decideCommand interval context command =
      if (context.currentSequence + 1) % interval = 0 then
        match S.apply applied event with
        | none => .panicked
        | some again => .ok ⟨context, [event], some ⟨context.aggregateId, S.encodeState again,
            context.currentSnapshot.getD 0 + 1⟩⟩
      else .ok ⟨context, [event], none⟩ := by
  have folded : S.replayFrom context.state [event] = some applied := by
    rw [Aggregate.replayFrom_singleton]
    exact first
  unfold decideCommand
  simp only [handled, folded, List.length_singleton, commitSnapshotToEvent_one positive]
  by_cases boundary : (context.currentSequence + 1) % interval = 0
  · cases again : S.apply applied event with
    | none =>
      simp only [if_pos boundary, List.take_succ_cons, List.take_zero,
        Aggregate.replayFrom_singleton, again]
    | some state =>
      simp only [if_pos boundary, List.take_succ_cons, List.take_zero,
        Aggregate.replayFrom_singleton, again]
  · simp only [if_neg boundary]

omit [JsonValue Value] in
/-- **Everything a decision has passed**: its events are what `handle` emits on the loaded state,
they apply, and a due snapshot holds the state after the second application. -/
theorem decideCommand_ok {interval : Nat} {context : Context S} {command : S.Command}
    {decision : Decision S} (decided : decideCommand interval context command = .ok decision) :
    decision.context = context ∧ S.handle context.state command = .ok decision.events ∧
      ∃ applied, S.replayFrom context.state decision.events = some applied ∧
        ((commitSnapshotToEvent context.currentSequence interval decision.events.length = 0 ∧
            decision.update = none) ∨
          (commitSnapshotToEvent context.currentSequence interval decision.events.length ≠ 0 ∧
            ∃ again, S.replayFrom applied (decision.events.take
              (commitSnapshotToEvent context.currentSequence interval decision.events.length))
                = some again ∧
              decision.update = some ⟨context.aggregateId, S.encodeState again,
                context.currentSnapshot.getD 0 + 1⟩)) := by
  unfold decideCommand at decided
  split at decided
  · cases decided
  · cases decided
  · rename_i events handled
    split at decided
    · cases decided
    · rename_i applied folded
      split at decided
      · rename_i notDue
        obtain rfl := Outcome.ok.inj decided
        exact ⟨rfl, handled, applied, folded, .inl ⟨notDue, rfl⟩⟩
      · rename_i count due
        split at decided
        · cases decided
        · rename_i again repeated
          obtain rfl := Outcome.ok.inj decided
          exact ⟨rfl, handled, applied, folded, .inr ⟨due, again, repeated, rfl⟩⟩

omit [JsonValue Value] in
/-- Deciding fails only with the aggregate's own errors. -/
theorem decideCommand_error {interval : Nat} {context : Context S} {command : S.Command}
    {error : AggregateError S.Error}
    (failed : decideCommand interval context command = .error error) :
    ∃ reason, S.handle context.state command = .error reason ∧ error = .userError reason := by
  unfold decideCommand at failed
  split at failed
  · rename_i reason handled
    exact ⟨reason, handled, (Outcome.error.inj failed).symm⟩
  · cases failed
  · (repeat' split at failed) <;> cases failed

omit [JsonValue Value] in
/-- **A due snapshot of one event** holds the state after that event, when repeated application
yields no other state. -/
theorem decideCommand_update {interval : Nat} {context : Context S} {command : S.Command}
    {decision : Decision S} {event : S.Event} {due : SnapshotUpdate Value}
    (safe : S.RepeatSafe) (decided : decideCommand interval context command = .ok decision)
    (one : decision.events = [event]) (update : decision.update = some due) :
    ∃ applied, S.apply context.state event = some applied ∧
      due = ⟨context.aggregateId, S.encodeState applied, context.currentSnapshot.getD 0 + 1⟩ := by
  obtain ⟨_, _, applied, folded, due' | ⟨notZero, again, repeated, due'⟩⟩ :=
    decideCommand_ok decided
  · rw [due'.2] at update
    cases update
  · rw [one, Aggregate.replayFrom_singleton] at folded
    rw [one] at repeated notZero
    rw [List.take_of_length_le (Nat.one_le_iff_ne_zero.mpr notZero),
      Aggregate.replayFrom_singleton] at repeated
    obtain rfl : again = applied := safe _ event _ _ folded repeated
    rw [due'] at update
    exact ⟨again, folded, (Option.some.inj update).symm⟩

end Streams

end AccountManagement.Store
