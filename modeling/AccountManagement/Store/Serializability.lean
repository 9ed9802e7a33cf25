/-
**The event store is serializable.**

`StoreSound` is the invariant of the store machine: every stream is stored as the rows `1..n` of
its committed events, the commits of every stream form a serial history, every snapshot row is a
fold of a prefix, and everything an execution has read is a fold of a prefix too. A prefix stays
one while streams only grow, and the primary key of the events lets a decision commit only if its
prefix is still the whole stream.

* `storeSound_step`, `storeSound_reachable`: kept by every step, for every aggregate whose repeated
  application yields no other state.
* `event_store_serializable`: what this says about every reachable store.
-/

import AccountManagement.Domain.UserAccount
import AccountManagement.Store.Interleaving

namespace AccountManagement.Store

open AccountManagement.Library AccountManagement.Task AccountManagement.Outbox
open AccountManagement.Domain

section Soundness

variable {Value : Type} {S : StoredAggregate Value}

/-! ### What has been read -/

/-- A loaded context is the fold of a prefix of its stream. -/
structure ContextSound (events : List S.Event) (context : Context S) : Prop where
  within : context.currentSequence ≤ events.length
  folded : S.replay (events.take context.currentSequence) = some context.state

/-- A snapshot row holds the fold of the first `lastSequence` events. -/
structure SnapshotSound (events : List S.Event) (row : SnapshotRow Value) : Prop where
  within : row.lastSequence ≤ events.length
  folded : ∃ state, S.replay (events.take row.lastSequence) = some state ∧
    row.payload = S.encodeState state

theorem ContextSound.append {events : List S.Event} {context : Context S}
    (sound : ContextSound events context) (more : List S.Event) :
    ContextSound (events ++ more) context where
  within := by
    rw [List.length_append]
    exact Nat.le_add_right_of_le sound.within
  folded := by
    rw [List.take_append_of_le_length sound.within]
    exact sound.folded

theorem SnapshotSound.append {events : List S.Event} {row : SnapshotRow Value}
    (sound : SnapshotSound events row) (more : List S.Event) :
    SnapshotSound (events ++ more) row where
  within := by
    rw [List.length_append]
    exact Nat.le_add_right_of_le sound.within
  folded := by
    rw [List.take_append_of_le_length sound.within]
    exact sound.folded

/-- A context that has read the whole stream holds its final state. -/
theorem ContextSound.complete {events : List S.Event} {context : Context S} {final : S.State}
    (sound : ContextSound events context) (whole : context.currentSequence = events.length)
    (replayed : S.replay events = some final) : context.state = final := by
  have folded := sound.folded
  rw [whole, List.take_length, replayed] at folded
  exact (Option.some.inj folded).symm

/-- The first read yields a sound context when the snapshot rows are sound. -/
theorem loadSnapshot_sound {aggregateId : String} {tables : Tables Value} {events : List S.Event}
    (snapshots : ∀ row ∈ ownSnapshots S aggregateId tables, SnapshotSound events row)
    (choice : Nat) :
    (loadSnapshot S aggregateId choice tables).aggregateId = aggregateId ∧
      ContextSound events (loadSnapshot S aggregateId choice tables) := by
  rcases loadSnapshot_cases S aggregateId choice tables with
    ⟨start, _⟩ | ⟨row, state, found, decoded, read⟩
  · rw [start]
    exact ⟨rfl, Nat.zero_le _, rfl⟩
  · have sound := snapshots row (List.mem_of_getElem? found)
    obtain ⟨folded, replayed, payload⟩ := sound.folded
    rw [payload, S.decode_encodeState] at decoded
    obtain rfl := Option.some.inj decoded
    rw [read]
    exact ⟨rfl, sound.within, replayed⟩

variable [JsonValue Value]

/-- **The two reads of an attempt**, however far apart, load the state of the whole stream. -/
theorem loadTail_sound {context : Context S} {events : List S.Event} {tables : Tables Value}
    {final : S.State} (stored : ownEvents S context.aggregateId tables
      = streamRows S context.aggregateId 0 events)
    (sound : ContextSound events context) (replayed : S.replay events = some final) :
    loadTail context tables
      = .ok { context with state := final, currentSequence := events.length } := by
  refine loadTail_stream stored sound.within ?_
  obtain ⟨state, before, after⟩ := Aggregate.replay_split replayed context.currentSequence
  obtain rfl : context.state = state := Option.some.inj (sound.folded.symm.trans before)
  exact after

/-! ### Streams of the commit log -/

/-- The committed commands and events of one stream, in commit order. -/
def stream (log : List (Commit S)) (aggregateId : String) : List (S.Command × S.Event) :=
  (log.filter fun commit => commit.aggregateId = aggregateId).map
    fun commit => (commit.command, commit.event)

/-- The committed events of one stream. -/
def streamEvents (log : List (Commit S)) (aggregateId : String) : List S.Event :=
  (stream log aggregateId).map Prod.snd

theorem stream_append (log : List (Commit S)) (commit : Commit S) (aggregateId : String) :
    stream (log ++ [commit]) aggregateId = stream log aggregateId
      ++ if commit.aggregateId = aggregateId then [(commit.command, commit.event)] else [] := by
  unfold stream
  rw [List.filter_append, List.map_append]
  by_cases same : commit.aggregateId = aggregateId
  · simp [same]
  · simp [same]

theorem streamEvents_append (log : List (Commit S)) (commit : Commit S) (aggregateId : String) :
    streamEvents (log ++ [commit]) aggregateId = streamEvents log aggregateId
      ++ if commit.aggregateId = aggregateId then [commit.event] else [] := by
  unfold streamEvents
  rw [stream_append, List.map_append]
  by_cases same : commit.aggregateId = aggregateId
  · simp [same]
  · simp [same]

/-! ### The invariant -/

/-- What an execution holds was read from a prefix of its stream. -/
def Execution.Sound (interval : Nat) (events : List S.Event) (execution : Execution S) : Prop :=
  match execution.phase with
  | .snapshotRead context =>
    context.aggregateId = execution.aggregateId ∧ ContextSound events context
  | .decided decision =>
    decision.context.aggregateId = execution.aggregateId ∧ ContextSound events decision.context ∧
      decideCommand interval decision.context execution.command = .ok decision
  | _ => True

theorem Execution.Sound.append {interval : Nat} {events : List S.Event} {execution : Execution S}
    (sound : execution.Sound interval events) (more : List S.Event) :
    execution.Sound interval (events ++ more) := by
  unfold Execution.Sound at sound ⊢
  split
  · rename_i context phase
    rw [phase] at sound
    exact ⟨sound.1, sound.2.append more⟩
  · rename_i decision phase
    rw [phase] at sound
    exact ⟨sound.1, sound.2.1.append more, sound.2.2⟩
  · trivial

theorem Execution.sound_of_idle {interval : Nat} {events : List S.Event} {execution : Execution S}
    (idle : execution.phase.Idle) : execution.Sound interval events := by
  unfold Execution.Sound
  split
  · rename_i context phase
    rw [phase] at idle
    exact idle.elim
  · rename_i decision phase
    rw [phase] at idle
    exact idle.elim
  · trivial

/-- **The invariant of the store.** -/
structure StoreSound (config : PostgresCommandConfig) (s : StoreState S) : Prop where
  stored : ∀ aggregateId, ownEvents S aggregateId s.tables
    = streamRows S aggregateId 0 (streamEvents s.log aggregateId)
  serial : ∀ aggregateId, ∃ state, S.Serial (stream s.log aggregateId) state
  snapshots : ∀ aggregateId, ∀ row ∈ ownSnapshots S aggregateId s.tables,
    SnapshotSound (streamEvents s.log aggregateId) row
  executions : ∀ execution ∈ s.executions,
    execution.Sound config.snapshotInterval (streamEvents s.log execution.aggregateId)

theorem StoreSound.replayed {config : PostgresCommandConfig} {s : StoreState S}
    (sound : StoreSound config s) (aggregateId : String) :
    ∃ state, S.replay (streamEvents s.log aggregateId) = some state := by
  obtain ⟨state, serial⟩ := sound.serial aggregateId
  exact ⟨state, serial.replay⟩

/-- From any prefix of a stream, the second read loads the whole of it. -/
theorem StoreSound.readsTail {config : PostgresCommandConfig} {s : StoreState S}
    (sound : StoreSound config s) {aggregateId : String} {context : Context S}
    (sameId : context.aggregateId = aggregateId)
    (contextSound : ContextSound (streamEvents s.log aggregateId) context) :
    ∃ final, S.replay (streamEvents s.log aggregateId) = some final ∧
      loadTail context s.tables = .ok { context with
        state := final
        currentSequence := (streamEvents s.log aggregateId).length } := by
  obtain ⟨final, replayed⟩ := sound.replayed aggregateId
  refine ⟨final, replayed, loadTail_sound ?_ contextSound replayed⟩
  rw [sameId]
  exact sound.stored aggregateId

/-- The whole stream is what an execution in this phase reads. -/
theorem StoreSound.reads {config : PostgresCommandConfig} {s : StoreState S}
    (sound : StoreSound config s) {execution : Execution S} {context : Context S}
    (member : execution ∈ s.executions) (phase : execution.phase = .snapshotRead context) :
    context.aggregateId = execution.aggregateId ∧
      ∃ final, S.replay (streamEvents s.log execution.aggregateId) = some final ∧
        loadTail context s.tables = .ok { context with
          state := final
          currentSequence := (streamEvents s.log execution.aggregateId).length } := by
  have held := sound.executions execution member
  rw [Execution.Sound, phase] at held
  exact ⟨held.1, sound.readsTail held.1 held.2⟩

/-! ### A commit -/

/-- The position of an event that could be committed is the next one of its stream. -/
theorem StoreSound.position {config : PostgresCommandConfig} {s : StoreState S}
    (sound : StoreSound config s) {context : Context S}
    (read : ContextSound (streamEvents s.log context.aggregateId) context)
    (fresh : (S.typeName, context.aggregateId, context.currentSequence + 1)
      ∉ s.tables.events.map EventRow.key) :
    context.currentSequence = (streamEvents s.log context.aggregateId).length := by
  by_contra different
  have before : context.currentSequence + 1 ≤ 0 + (streamEvents s.log context.aggregateId).length := by
    have := read.within
    omega
  obtain ⟨row, member, key⟩ : ∃ row ∈ streamRows S context.aggregateId 0
      (streamEvents s.log context.aggregateId),
      row.key = (S.typeName, context.aggregateId, context.currentSequence + 1) :=
    exists_streamRow (Nat.succ_pos context.currentSequence) before
  rw [← sound.stored] at member
  exact fresh (List.mem_map.mpr ⟨row, List.mem_of_mem_filter member, key⟩)

/-- The key of the next event of a stream is free. -/
theorem StoreSound.nextFree {config : PostgresCommandConfig} {s : StoreState S}
    (sound : StoreSound config s) (aggregateId : String) :
    (S.typeName, aggregateId, (streamEvents s.log aggregateId).length + 1)
      ∉ s.tables.events.map EventRow.key := by
  intro taken
  obtain ⟨row, member, key⟩ := List.mem_map.mp taken
  obtain ⟨sameType, sameRest⟩ := Prod.mk.inj key
  obtain ⟨sameId, sameSequence⟩ := Prod.mk.inj sameRest
  have own : row ∈ ownEvents S aggregateId s.tables :=
    List.mem_filter.mpr ⟨member, decide_eq_true ⟨sameType, sameId⟩⟩
  rw [sound.stored] at own
  have within := (mem_streamRows own).2
  omega

theorem ownEvents_committed {tasks : List (NewTask Value)} {event : S.Event}
    {write : SnapshotWrite Value} {now : DateTime} {before after : Tables Value}
    {target : String} {sequence : Nat}
    (done : Committed S.typeName sequence tasks (serializeEvent S target sequence event) write now
      before after) (aggregateId : String) :
    ownEvents S aggregateId after = ownEvents S aggregateId before
      ++ if target = aggregateId then [streamRow S target sequence event] else [] := by
  unfold ownEvents
  rw [done.events, List.filter_append]
  by_cases same : target = aggregateId
  · rw [if_pos same, List.filter_cons_of_pos, List.filter_nil]
    · rfl
    · exact decide_eq_true ⟨rfl, same⟩
  · rw [if_neg same, List.filter_cons_of_neg, List.filter_nil]
    exact fun own => same (of_decide_eq_true own).2

/-- **A commit keeps the invariant**: its decision was made on the whole stream. -/
theorem StoreSound.commit {config : PostgresCommandConfig} {s : StoreState S}
    (sound : StoreSound config s) (safe : S.RepeatSafe) {execution next : Execution S}
    {decision : Decision S} {index : Nat} {event : S.Event} {write : SnapshotWrite Value}
    {now : DateTime} {written : Tables Value}
    (read : decision.context.aggregateId = execution.aggregateId)
    (context : ContextSound (streamEvents s.log execution.aggregateId) decision.context)
    (decided : decideCommand config.snapshotInterval decision.context execution.command
      = .ok decision)
    (one : decision.events = [event]) (made : SnapshotWrite.new decision.update = .ok write)
    (done : Committed S.typeName (decision.context.currentSequence + 1) execution.tasks
      (serializeEvent S decision.context.aggregateId (decision.context.currentSequence + 1) event)
      write now s.tables written)
    (idle : next.phase.Idle) :
    StoreSound config ⟨written, s.log
      ++ [⟨execution.aggregateId, execution.command, event, execution.tasks⟩],
      s.executions.set index next⟩ := by
  rw [← read] at context
  have position := sound.position context done.eventFresh
  obtain ⟨_, handled, applied, folded, _⟩ := decideCommand_ok decided
  rw [one] at handled folded
  rw [Aggregate.replayFrom_singleton] at folded
  refine ⟨fun aggregateId => ?_, fun aggregateId => ?_, fun aggregateId row member => ?_,
    fun other member => ?_⟩
  · rw [ownEvents_committed done, streamEvents_append, sound.stored, read]
    by_cases same : execution.aggregateId = aggregateId
    · subst same
      rw [if_pos rfl, if_pos rfl, streamRows_append, Nat.zero_add, position, read]
      rfl
    · rw [if_neg same, if_neg same, List.append_nil, List.append_nil]
  · obtain ⟨state, serial⟩ := sound.serial aggregateId
    rw [stream_append]
    by_cases same : execution.aggregateId = aggregateId
    · subst same
      have current : decision.context.state = state := by
        rw [read] at position context
        exact context.complete position serial.replay
      rw [if_pos rfl]
      rw [current] at handled folded
      exact ⟨applied, serial.snoc handled folded⟩
    · rw [if_neg same, List.append_nil]
      exact ⟨state, serial⟩
  · obtain ⟨inside, own⟩ := List.mem_filter.mp member
    have ownRow := of_decide_eq_true own
    rw [streamEvents_append]
    rcases done.snapshots.mem made inside with old | ⟨due, update, rfl⟩
    · exact (sound.snapshots aggregateId row (List.mem_filter.mpr ⟨old, own⟩)).append _
    · obtain ⟨again, reapplied, rfl⟩ := decideCommand_update safe decided one update
      obtain rfl : again = applied := Option.some.inj (reapplied.symm.trans folded)
      obtain rfl : decision.context.aggregateId = aggregateId := ownRow.2
      have length : decision.context.currentSequence + 1
          = (streamEvents s.log decision.context.aggregateId ++ [event]).length := by
        rw [List.length_append, position]
        rfl
      rw [if_pos read.symm]
      refine ⟨Nat.le_of_eq length, again, ?_, rfl⟩
      show S.replay (List.take (decision.context.currentSequence + 1) _) = some again
      rw [length, List.take_length]
      refine Aggregate.replay_snoc ?_ folded
      have whole := context.folded
      rw [position, List.take_length] at whole
      exact whole
  · rcases List.mem_or_eq_of_mem_set member with old | rfl
    · rw [streamEvents_append]
      exact (sound.executions other old).append _
    · exact Execution.sound_of_idle idle

/-- A move that leaves the tables alone keeps the invariant if what it holds is sound. -/
theorem StoreSound.move {config : PostgresCommandConfig} {s : StoreState S}
    (sound : StoreSound config s) {next : Execution S} (index : Nat)
    (held : next.Sound config.snapshotInterval (streamEvents s.log next.aggregateId)) :
    StoreSound config { s with executions := s.executions.set index next } := by
  refine ⟨sound.stored, sound.serial, sound.snapshots, fun other member => ?_⟩
  rcases List.mem_or_eq_of_mem_set member with old | rfl
  · exact sound.executions other old
  · exact held

/-! ### Every step, every reachable store -/

variable [DecidableEq Value]

theorem storeSound_step (safe : S.RepeatSafe) {config : PostgresCommandConfig}
    {s t : StoreState S} {action : StoreAction S} (sound : StoreSound config s)
    (stepped : (storeMachine S config).step s action = some t) : StoreSound config t := by
  rcases storeMachine_cases stepped with ⟨aggregateId, command, tasks, _, rfl⟩ |
    ⟨index, move, execution, result, _, found, moved, rfl⟩ | ⟨tables, _, untouched, _, rfl⟩
  · refine ⟨sound.stored, sound.serial, sound.snapshots, fun execution member => ?_⟩
    rcases List.mem_append.mp member with old | new
    · exact sound.executions execution old
    · rw [List.mem_singleton.mp new]
      exact Execution.sound_of_idle trivial
  · have held := sound.executions execution (List.mem_of_getElem? found)
    cases moved with
    | readSnapshot choice =>
      rw [Option.toList_none, List.append_nil]
      exact sound.move index (loadSnapshot_sound (sound.snapshots _) choice)
    | readTail context loaded decision phase read decided =>
      obtain ⟨sameId, final, replayed, whole⟩ := sound.reads (List.mem_of_getElem? found) phase
      obtain rfl := Outcome.ok.inj (read.symm.trans whole)
      obtain ⟨fromLoaded, _⟩ := decideCommand_ok decided
      rw [Option.toList_none, List.append_nil]
      refine sound.move index ?_
      show decision.context.aggregateId = execution.aggregateId ∧
        ContextSound (streamEvents s.log execution.aggregateId) decision.context ∧ _
      rw [fromLoaded]
      refine ⟨sameId, ⟨le_refl _, ?_⟩, decided⟩
      rw [List.take_length]
      exact replayed
    | write decision now lost phase =>
      rw [Execution.Sound, phase] at held
      obtain ⟨sameId, contextSound, decided⟩ := held
      have idle := (execution.write_execution config decision now lost s.tables).2
      rcases execution.write_cases config decision now lost s.tables with
        ⟨event, write, written, one, made, done, sameTables, committed⟩ | ⟨sameTables, committed⟩
      · rw [sameTables, committed]
        exact sound.commit safe sameId contextSound decided one made done idle
      · rw [sameTables, committed, Option.toList_none, List.append_nil]
        exact sound.move index (Execution.sound_of_idle idle)
    | panicked context phase failed =>
      rw [Option.toList_none, List.append_nil]
      exact sound.move index trivial
    | ended move next same idle =>
      rw [Option.toList_none, List.append_nil]
      exact sound.move index (Execution.sound_of_idle idle)
  · refine ⟨fun aggregateId => ?_, sound.serial, fun aggregateId => ?_, sound.executions⟩
    · rw [(untouched.own aggregateId).1]
      exact sound.stored aggregateId
    · rw [(untouched.own aggregateId).2]
      exact sound.snapshots aggregateId

theorem storeSound_start (config : PostgresCommandConfig) :
    StoreSound config (storeMachine S config).start where
  stored _ := rfl
  serial _ := ⟨S.initial, .nil⟩
  snapshots _ _ member := nomatch member
  executions _ member := nomatch member

/-- **The invariant holds of every reachable store.** -/
theorem storeSound_reachable (safe : S.RepeatSafe) {config : PostgresCommandConfig}
    {s : StoreState S} (reached : (storeMachine S config).Reachable s) : StoreSound config s :=
  reached.invariant (storeSound_start config) fun _ _ _ _ sound stepped =>
    storeSound_step safe sound stepped

/-- **Serializability.** In every reachable store, for every aggregate: the sequences of its stream
are `1..n`, its rows are its committed events in order, every snapshot row is the fold of the first
`lastSequence` of them, and every committed event is exactly what `handle` emits for its command on
the fold of the events before it. -/
theorem event_store_serializable (tolerant : S.RepeatTolerant) (config : PostgresCommandConfig)
    {s : StoreState S} (reached : (storeMachine S config).Reachable s) (aggregateId : String) :
    (ownEvents S aggregateId s.tables).map EventRow.sequence
        = List.range' 1 (stream s.log aggregateId).length ∧
      (ownEvents S aggregateId s.tables).map EventRow.payload
        = (stream s.log aggregateId).map (fun commit => S.encodeEvent commit.2) ∧
      (∀ row ∈ ownSnapshots S aggregateId s.tables,
        row.lastSequence ≤ (stream s.log aggregateId).length ∧
        ∃ state, S.replay (((stream s.log aggregateId).take row.lastSequence).map Prod.snd)
            = some state ∧ row.payload = S.encodeState state) ∧
      ∀ (position : Nat) (inside : position < (stream s.log aggregateId).length),
        ∃ state, S.replay (((stream s.log aggregateId).take position).map Prod.snd) = some state ∧
          S.handle state (stream s.log aggregateId)[position].1
            = .ok [(stream s.log aggregateId)[position].2] := by
  have sound := storeSound_reachable tolerant.repeatSafe reached
  have length : (streamEvents s.log aggregateId).length = (stream s.log aggregateId).length :=
    List.length_map _
  refine ⟨?_, ?_, fun row member => ?_, fun position inside => ?_⟩
  · rw [sound.stored, map_sequence_streamRows, length]
  · rw [sound.stored, map_payload_streamRows, streamEvents, List.map_map]
    rfl
  · have snapshot := sound.snapshots aggregateId row member
    refine ⟨length ▸ snapshot.within, ?_⟩
    rw [List.map_take]
    exact snapshot.folded
  · obtain ⟨final, serial⟩ := sound.serial aggregateId
    obtain ⟨state, before, emitted⟩ := serial.emitted position inside
    exact ⟨state, before.replay, emitted⟩

end Soundness

/-- Two creations of one account race for its first event, with a snapshot at every event. -/
def creationRace : List (StoreAction (plainStored userAccount "user_account")) :=
  let create := fun createdAt => UserAccountCommand.createAccount ⟨7⟩ ⟨"ann@example.com"⟩ "Ann" "Lee"
    0 1 createdAt
  [.start "7" (create 10) [], .start "7" (create 20) [], .act 0 (.readSnapshot 0),
    .act 1 (.readSnapshot 0), .act 0 .readTail, .act 1 .readTail, .act 1 (.write 0 false),
    .act 0 (.write 0 false)]

/-- A snapshot at every event and two attempts. -/
def everyEvent : PostgresCommandConfig := ⟨1, by decide, ⟨2, by decide⟩⟩

theorem event_store_serializable_creationRace :
    let s := (storeMachine (plainStored userAccount "user_account") everyEvent).after creationRace
      (by decide)
    ((stream s.log "7").length = 1 ∧ (ownSnapshots (plainStored userAccount "user_account") "7"
      s.tables).length = 1) ∧
    (ownEvents (plainStored userAccount "user_account") "7" s.tables).map EventRow.sequence
      = List.range' 1 (stream s.log "7").length :=
  ⟨by decide, (event_store_serializable userAccount_repeatTolerant everyEvent
    (Machine.reachable_after creationRace (by decide)) "7").1⟩

end AccountManagement.Store
