/-
**The snapshot path of the two aggregates.**

When a snapshot is due, the framework applies the accepted event a second time to the state it has
already changed. Stored snapshots are folds all the same, and a load is a full replay
(`snapshotPath_reachable`). But the repetition is not harmless: the reservation panics on a second
completion, so a completion is lost exactly when it falls on a snapshot boundary.

* `email_decide_panics_iff`: deciding a command of a reservation panics exactly for the completion
  of the accepted profile at a boundary.
* `snapshot_path_exact`: over every run of the reservation store, exactly the steps that decide
  such a completion panic; the account store never panics.
* `completion_panics_at_25`: with the default interval, the twenty-fifth event of a reservation.
-/

import AccountManagement.Domain.EmailReservation
import AccountManagement.Store.Snapshots

namespace AccountManagement.Store

open AccountManagement.Library AccountManagement.Task AccountManagement.Domain

set_option maxRecDepth 20000

section Loading

variable {Value : Type} [JsonValue Value] {S : StoredAggregate Value}

/-! ### Snapshots and loads -/

/-- Every snapshot row is the fold of its prefix, and every load is a full replay. -/
structure SnapshotPathSound (s : StoreState S) : Prop where
  stored : ∀ aggregateId, ownEvents S aggregateId s.tables
    = streamRows S aggregateId 0 (streamEvents s.log aggregateId)
  folded : ∀ aggregateId, ∀ row ∈ ownSnapshots S aggregateId s.tables,
    ∃ state, S.replay ((streamEvents s.log aggregateId).take row.lastSequence) = some state ∧
      row.payload = S.encodeState state
  loaded : ∀ aggregateId choice, ∃ context final,
    loadSnapshot S aggregateId choice s.tables = context ∧
    context.aggregateId = aggregateId ∧
    (∀ row, getSnapshot S aggregateId choice s.tables = some row →
      context.currentSequence = row.lastSequence) ∧
    S.replay (streamEvents s.log aggregateId) = some final ∧
    loadTail context s.tables = .ok { context with
      state := final
      currentSequence := (streamEvents s.log aggregateId).length }

/-- A snapshot that is there is used. -/
theorem StoreSound.starts {config : PostgresCommandConfig} {s : StoreState S}
    (sound : StoreSound config s) {aggregateId : String} {choice : Nat} {row : SnapshotRow Value}
    (found : getSnapshot S aggregateId choice s.tables = some row) :
    (loadSnapshot S aggregateId choice s.tables).currentSequence = row.lastSequence := by
  rcases loadSnapshot_cases S aggregateId choice s.tables with
    ⟨_, undecoded⟩ | ⟨other, state, same, _, read⟩
  · have present := List.mem_of_getElem? found
    rw [sound.absent undecoded] at present
    cases present
  · obtain rfl := Option.some.inj (found.symm.trans same)
    rw [read]

theorem StoreSound.snapshotPath {config : PostgresCommandConfig} {s : StoreState S}
    (sound : StoreSound config s) : SnapshotPathSound s where
  stored := sound.stored
  folded aggregateId row member := (sound.snapshots aggregateId row member).folded
  loaded aggregateId choice := by
    obtain ⟨sameId, contextSound⟩ := loadSnapshot_sound (sound.snapshots aggregateId) choice
    obtain ⟨final, replayed, whole⟩ := sound.readsTail sameId contextSound
    exact ⟨_, final, rfl, sameId, fun row found => sound.starts found, replayed, whole⟩

end Loading

/-! ### Deciding -/

section Decisions

variable {Value : Type} {typeName : String}

/-- The completion of the accepted profile, as the event that makes a snapshot due. -/
def CompletesAtBoundary (interval : Nat) (events : List EmailReservationEvent)
    (command : EmailReservationCommand) : Prop :=
  ∃ email accountId digest profile createdAt,
    emailReservation.replay events = some ⟨.creatingAccount accountId digest profile⟩ ∧
    command = .recordAccountCreated email accountId profile createdAt ∧
    (events.length + 1) % interval = 0

/-- **When deciding a reservation command panics**: exactly for the completion of the accepted
profile on a snapshot boundary. -/
theorem email_decide_panics_iff {codec : Codec EmailReservationEvent EmailReservation Value}
    {interval : Nat} (positive : 0 < interval)
    (context : Context (stored emailReservation typeName codec))
    (command : EmailReservationCommand) :
    decideCommand interval context command = .panicked ↔
      ∃ email accountId digest profile createdAt,
        context.state = ⟨.creatingAccount accountId digest profile⟩ ∧
        command = .recordAccountCreated email accountId profile createdAt ∧
        (context.currentSequence + 1) % interval = 0 := by
  cases handled : EmailReservation.handle context.state command with
  | panicked => exact absurd handled (EmailReservation.handle_ne_panicked _ _)
  | error reason =>
    have rejected : decideCommand interval context command = .error (.userError reason) := by
      unfold decideCommand
      rw [show (stored emailReservation typeName codec).handle context.state command = _
        from handled]
    rw [rejected]
    refine ⟨by simp, ?_⟩
    rintro ⟨email, accountId, digest, profile, createdAt, state, rfl, _⟩
    rw [state] at handled
    simp [EmailReservation.handle, EmailReservation.handleRecordAccountCreated] at handled
  | ok events =>
    obtain ⟨event, rfl, accepted⟩ := EmailReservation.handle_cases handled
    obtain ⟨next, applied⟩ := EmailReservation.apply_emitted accepted
    have again := EmailReservation.apply_again applied
    rw [decideCommand_one positive handled applied]
    by_cases boundary : (context.currentSequence + 1) % interval = 0
    · rw [if_pos boundary, show (stored emailReservation typeName codec).apply next event = _
        from again]
      by_cases completion : EmailReservation.IsCompletion event
      · rw [if_pos completion]
        obtain ⟨email, accountId, digest, profile, createdAt, state, same⟩ :=
          accepted.isCompletion_iff.mp completion
        exact ⟨fun _ => ⟨email, accountId, digest, profile, createdAt, state, same, boundary⟩,
          fun _ => rfl⟩
      · rw [if_neg completion]
        refine ⟨by simp, ?_⟩
        rintro ⟨email, accountId, digest, profile, createdAt, state, same, _⟩
        exact absurd (accepted.isCompletion_iff.mpr ⟨email, accountId, digest, profile, createdAt,
          state, same⟩) completion
    · rw [if_neg boundary]
      refine ⟨by simp, ?_⟩
      rintro ⟨_, _, _, _, _, _, _, other⟩
      exact absurd other boundary

/-- Deciding an account command never panics. -/
theorem account_decide_ne_panicked {codec : Codec UserAccountEvent UserAccount Value}
    {interval : Nat} (positive : 0 < interval)
    (context : Context (stored userAccount typeName codec)) (command : UserAccountCommand) :
    decideCommand interval context command ≠ .panicked := by
  cases handled : UserAccount.handle context.state command with
  | panicked => exact absurd handled (UserAccount.handle_ne_panicked _ _)
  | error reason =>
    unfold decideCommand
    rw [show (stored userAccount typeName codec).handle context.state command = _ from handled]
    exact nofun
  | ok events =>
    cases command
    obtain ⟨_, _, _, _, rfl⟩ := UserAccount.handle_cases handled
    rw [decideCommand_one positive handled rfl]
    split <;> exact nofun

end Decisions

/-! ### Runs -/

section Runs

variable {Value : Type} [JsonValue Value] {S : StoredAggregate Value}

def NoPanic (s : StoreState S) : Prop := ∀ execution ∈ s.executions, execution.phase ≠ .panicked

/-- A step that reads a whole stream and panics while deciding on it. -/
def PanicsWhileDeciding (config : PostgresCommandConfig) (s : StoreState S) : StoreAction S → Prop
  | .act index .readTail => ∃ execution context final,
      s.executions[index]? = some execution ∧ execution.phase = .snapshotRead context ∧
      S.replay (streamEvents s.log execution.aggregateId) = some final ∧
      decideCommand config.snapshotInterval
        { context with
          state := final
          currentSequence := (streamEvents s.log execution.aggregateId).length }
        execution.command = .panicked
  | _ => False

/-- A move panics only while it decides, on the state of the whole stream. -/
theorem StoreSound.panics {config : PostgresCommandConfig} {s : StoreState S}
    (sound : StoreSound config s) {index : Nat} {execution : Execution S} {move : Move}
    {result : Stepped S} (found : s.executions[index]? = some execution)
    (moved : execution.Moved config s.tables move result)
    (panicked : result.execution.phase = .panicked) :
    move = .readTail ∧ ∃ context final, execution.phase = .snapshotRead context ∧
      S.replay (streamEvents s.log execution.aggregateId) = some final ∧
      decideCommand config.snapshotInterval
        { context with
          state := final
          currentSequence := (streamEvents s.log execution.aggregateId).length }
        execution.command = .panicked := by
  have calm : ¬ result.execution.phase.Idle := by
    rw [panicked]
    exact id
  cases moved with
  | readSnapshot choice => cases panicked
  | readTail context loaded decision phase read decided => cases panicked
  | write decision now lost phase =>
    exact absurd (execution.write_execution config decision now lost s.tables).2 calm
  | ended move next same idle => exact absurd idle calm
  | panicked context phase failed =>
    obtain ⟨_, final, replayed, whole⟩ := sound.reads (List.mem_of_getElem? found) phase
    rcases failed with failed | ⟨loaded, read, failed⟩
    · rw [whole] at failed
      cases failed
    · obtain rfl := Outcome.ok.inj (read.symm.trans whole)
      exact ⟨rfl, context, final, phase, replayed, failed⟩

variable [DecidableEq Value]

/-- **Exactly the panicking decisions panic.** -/
theorem noPanic_step_iff {config : PostgresCommandConfig} {s t : StoreState S}
    {action : StoreAction S} (sound : StoreSound config s) (calm : NoPanic s)
    (stepped : (storeMachine S config).step s action = some t) :
    NoPanic t ↔ ¬ PanicsWhileDeciding config s action := by
  constructor
  · intro after panics
    cases action with
    | start aggregateId command tasks => exact panics
    | foreign tables => exact panics
    | act index move =>
      cases move with
      | readSnapshot choice => exact panics
      | write now lost => exact panics
      | fault => exact panics
      | readTail =>
        obtain ⟨execution, context, final, found, phase, replayed, failed⟩ := panics
        obtain ⟨_, again, sameReplay, whole⟩ := sound.reads (List.mem_of_getElem? found) phase
        obtain rfl : again = final := Option.some.inj (sameReplay.symm.trans replayed)
        have moved : execution.step config .readTail s.tables
            = some ⟨s.tables, { execution with phase := .panicked }, none⟩ := by
          unfold Execution.step
          rw [phase]
          simp only [Execution.decideTail, whole, failed]
        rw [storeMachine_act found moved] at stepped
        obtain rfl := Option.some.inj stepped
        have inside := (List.getElem?_eq_some_iff.mp found).1
        exact after _ (List.mem_set inside _) rfl
  · intro fine
    rcases storeMachine_cases stepped with ⟨aggregateId, command, tasks, _, rfl⟩ |
      ⟨index, move, execution, result, rfl, found, moved, rfl⟩ | ⟨tables, _, _, _, rfl⟩
    · intro execution member
      rcases List.mem_append.mp member with old | new
      · exact calm execution old
      · rw [List.mem_singleton.mp new]
        exact nofun
    · intro other member panicked
      rcases List.mem_or_eq_of_mem_set member with old | rfl
      · exact calm other old panicked
      · obtain ⟨rfl, context, final, phase, replayed, failed⟩ := sound.panics found moved panicked
        exact fine ⟨execution, context, final, found, phase, replayed, failed⟩
    · exact calm

end Runs

/-! ### The two aggregates -/

section Aggregates

variable {Value : Type}

/-- Reservations as they are stored. -/
abbrev emailStored (codec : Codec EmailReservationEvent EmailReservation Value) :
    StoredAggregate Value :=
  stored emailReservation "email_reservation" codec

/-- Accounts as they are stored. -/
abbrev accountStored (codec : Codec UserAccountEvent UserAccount Value) :
    StoredAggregate Value :=
  stored userAccount "user_account" codec

variable [JsonValue Value]

/-- A step that reads a whole reservation and decides its completion on a snapshot boundary. -/
def DecidesBoundaryCompletion {codec : Codec EmailReservationEvent EmailReservation Value}
    (config : PostgresCommandConfig) (s : StoreState (emailStored codec)) :
    StoreAction (emailStored codec) → Prop
  | .act index .readTail => ∃ execution context, s.executions[index]? = some execution ∧
      execution.phase = .snapshotRead context ∧
      CompletesAtBoundary config.snapshotInterval (streamEvents s.log execution.aggregateId)
        execution.command
  | _ => False

omit [JsonValue Value] in
theorem email_loaded_panics_iff {codec : Codec EmailReservationEvent EmailReservation Value}
    {interval : Nat} (positive : 0 < interval) {events : List EmailReservationEvent}
    {final : EmailReservation} (replayed : emailReservation.replay events = some final)
    (context : Context (emailStored codec)) (command : EmailReservationCommand) :
    decideCommand (S := emailStored codec) interval
        { context with state := final, currentSequence := events.length } command = .panicked ↔
      CompletesAtBoundary interval events command := by
  rw [email_decide_panics_iff positive, CompletesAtBoundary, replayed]
  simp only [Option.some.injEq]

/-- The panicking decisions of the reservation store. -/
theorem panicsWhileDeciding_email_iff
    {codec : Codec EmailReservationEvent EmailReservation Value} {config : PostgresCommandConfig}
    {s : StoreState (emailStored codec)} (sound : StoreSound config s)
    (action : StoreAction (emailStored codec)) :
    PanicsWhileDeciding config s action ↔ DecidesBoundaryCompletion config s action := by
  cases action with
  | start aggregateId command tasks => exact Iff.rfl
  | foreign tables => exact Iff.rfl
  | act index move =>
    cases move with
    | readSnapshot choice => exact Iff.rfl
    | write now lost => exact Iff.rfl
    | fault => exact Iff.rfl
    | readTail =>
      constructor
      · rintro ⟨execution, context, final, found, phase, replayed, failed⟩
        exact ⟨execution, context, found, phase,
          (email_loaded_panics_iff config.intervalPositive replayed context _).mp failed⟩
      · rintro ⟨execution, context, found, phase, completes⟩
        obtain ⟨_, final, replayed, _⟩ := sound.reads (List.mem_of_getElem? found) phase
        exact ⟨execution, context, final, found, phase, replayed,
          (email_loaded_panics_iff config.intervalPositive replayed context _).mpr completes⟩

theorem account_noPanic [DecidableEq Value] {codec : Codec UserAccountEvent UserAccount Value}
    {config : PostgresCommandConfig} {s : StoreState (accountStored codec)}
    (reached : (storeMachine (accountStored codec) config).Reachable s) : NoPanic s := by
  refine reached.invariant (fun _ member => nomatch member) fun s action t before calm stepped => ?_
  have sound := storeSound_reachable userAccount_repeatTolerant.repeatSafe before
  refine (noPanic_step_iff sound calm stepped).mpr fun panics => ?_
  unfold PanicsWhileDeciding at panics
  split at panics
  · obtain ⟨execution, context, final, _, _, _, failed⟩ := panics
    exact account_decide_ne_panicked config.intervalPositive _ _ failed
  · exact panics

variable [DecidableEq Value]

/-- **The snapshot path, exactly.** For every accepted snapshot interval, in every reachable store
of either aggregate every snapshot row is the fold of its prefix and every load is a full replay.
A command on a loaded reservation panics if and only if it is the completion of the accepted
profile and its event falls on a snapshot boundary, and a run of the reservation store is free of
panics if and only if no step of it decides such a completion. The account store never panics. -/
theorem snapshot_path_exact (emailCodec : Codec EmailReservationEvent EmailReservation Value)
    (accountCodec : Codec UserAccountEvent UserAccount Value) (config : PostgresCommandConfig) :
    (∀ s, (storeMachine (emailStored emailCodec) config).Reachable s → SnapshotPathSound s ∧
      ∀ aggregateId choice command, ∃ context loaded,
        loadSnapshot (emailStored emailCodec) aggregateId choice s.tables = context ∧
        loadTail context s.tables = .ok loaded ∧
        (decideCommand config.snapshotInterval loaded command = .panicked ↔
          CompletesAtBoundary config.snapshotInterval (streamEvents s.log aggregateId) command)) ∧
    (∀ actions final, (storeMachine (emailStored emailCodec) config).run
        (storeMachine (emailStored emailCodec) config).start actions = some final →
      ((storeMachine (emailStored emailCodec) config).EveryState NoPanic
          (storeMachine (emailStored emailCodec) config).start actions ↔
        (storeMachine (emailStored emailCodec) config).EveryStep
          (fun s action => ¬ DecidesBoundaryCompletion config s action)
          (storeMachine (emailStored emailCodec) config).start actions)) ∧
    (∀ s, (storeMachine (accountStored accountCodec) config).Reachable s → SnapshotPathSound s ∧
      NoPanic s ∧ ∀ aggregateId choice command, ∃ context loaded,
        loadSnapshot (accountStored accountCodec) aggregateId choice s.tables = context ∧
        loadTail context s.tables = .ok loaded ∧
        decideCommand config.snapshotInterval loaded command ≠ .panicked) := by
  refine ⟨fun s reached => ?_, fun actions final ran => ?_, fun s reached => ?_⟩
  · have sound := storeSound_reachable emailReservation_repeatSafe reached
    refine ⟨sound.snapshotPath, fun aggregateId choice command => ?_⟩
    obtain ⟨context, final, first, _, _, replayed, whole⟩ :=
      sound.snapshotPath.loaded aggregateId choice
    exact ⟨context, _, first, whole,
      email_loaded_panics_iff config.intervalPositive replayed context command⟩
  · refine Machine.everyState_iff_everyStep (StoreSound config)
      (fun s action t sound stepped => storeSound_step emailReservation_repeatSafe sound stepped)
      (fun s action t sound calm stepped => ?_) (storeSound_start config)
      (fun _ member => nomatch member) ran
    rw [noPanic_step_iff sound calm stepped, panicsWhileDeciding_email_iff sound]
  · have sound := storeSound_reachable userAccount_repeatTolerant.repeatSafe reached
    refine ⟨sound.snapshotPath, account_noPanic reached, fun aggregateId choice command => ?_⟩
    obtain ⟨context, final, first, _, _, _, whole⟩ := sound.snapshotPath.loaded aggregateId choice
    exact ⟨context, _, first, whole, account_decide_ne_panicked config.intervalPositive _ command⟩

end Aggregates

/-! ### The default interval -/

section Default

/-- Reservations in the simplest stored form. -/
abbrev plainReservations : StoredAggregate (PlainValue EmailReservationEvent EmailReservation) :=
  emailStored (plainCodec _ _)

/-- The commands of one reservation, one after the other. -/
def sequentially (commands : List EmailReservationCommand) :
    List (StoreAction plainReservations) :=
  commands.zipIdx.flatMap fun (command, index) =>
    [.start "ann@example.com" command [], .act index (.readSnapshot 0), .act index .readTail,
      .act index (.write 0 false)]

/-- A reservation with twenty-one reissued codes, verified, and with an accepted profile. -/
def reissuedRegistration : List EmailReservationCommand :=
  let email : Email := ⟨"ann@example.com"⟩
  .reserveEmail email ⟨0⟩ 1000000
    :: (List.range 21).map (fun n => .requestVerificationCode email ⟨.ofNat 128 (n + 1)⟩ 1000000)
    ++ [.verifyEmail email ⟨21⟩ 1000000 "digest",
      .submitRegistrationProfile email ⟨21⟩ "digest" ⟨"Ann", "Lee", 0, 1⟩]

/-- That registration, and then the completion up to its decision. -/
def boundaryCompletion : List (StoreAction plainReservations) :=
  sequentially reissuedRegistration
    ++ [.start "ann@example.com"
      (.recordAccountCreated ⟨"ann@example.com"⟩ ⟨21⟩ ⟨"Ann", "Lee", 0, 1⟩ 7 :
        EmailReservationCommand) [], .act 24 (.readSnapshot 0), .act 24 .readTail]

/-- The executions that have panicked. -/
def panickedCount {Value : Type} [JsonValue Value] {S : StoredAggregate Value}
    (s : StoreState S) : Nat :=
  s.executions.countP fun execution => match execution.phase with
    | .panicked => true
    | _ => false

theorem noPanic_panickedCount {Value : Type} [JsonValue Value] {S : StoredAggregate Value}
    {s : StoreState S} (calm : NoPanic s) : panickedCount s = 0 := by
  refine List.countP_eq_zero.mpr fun execution member => ?_
  split
  · rename_i phase
    exact absurd phase (calm execution member)
  · exact Bool.false_ne_true

/-- **With the default interval, the completion of a registration panics** when it is the
twenty-fifth event of its reservation. -/
theorem completion_panics_at_25 :
    ∃ s, (storeMachine plainReservations .default).Reachable s ∧
      (streamEvents s.log "ann@example.com").length = 24 ∧ ¬ NoPanic s := by
  refine ⟨_, Machine.reachable_after boundaryCompletion (by decide +kernel), by decide +kernel,
    fun calm => ?_⟩
  exact absurd (noPanic_panickedCount calm) (by decide +kernel)

end Default

end AccountManagement.Store
