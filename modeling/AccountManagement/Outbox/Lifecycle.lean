/-
**The life of an outbox row, and of the whole table.**

`Transition.Applies` is what a statement may do to one row, and `Life` a sequence of such
transitions since the publication of the row, at non-decreasing times. What holds of every life is
proved once: the constraints of the table (`Life.checks`), the delivery counter
(`Life.attempts_eq`), the times of the claims (`Life.timely`). `Tracked` connects the statements to
it: every row of every reachable table lives, with the transitions its statements reported.

* `outbox_lifecycle`: no statement is rejected by a constraint or meets an invalid delivery; the
  counter of a row is its number of claims since publication or requeue and stays within its limit;
  a completed row is final and a failed one left only by a requeue; the identity of a row never
  changes; and no row is claimed before the time that the database has computed for its schedule
  or its retry, which is the requested one if the doubles keep the delay.
* `claimed_early`: a delay of 2 ^ 53 + 1 milliseconds ends a millisecond early.
-/

import AccountManagement.Library.Machine
import AccountManagement.Outbox.Statements
import AccountManagement.Store.Framework

namespace AccountManagement.Outbox

open AccountManagement.Library AccountManagement.Task
open AccountManagement.Store (SqlxError SerializedEvent insertTasks taskRows mailTask)

/-- What can happen to a row, with the timestamp of the statement. -/
inductive Transition where
  | published (now : DateTime) (schedule : TaskSchedule)
  | claimed (now : DateTime) (token : Uuid)
  | settled (now : DateTime) (token : Uuid) (request : SettlementRequest)
  | recovered (now : DateTime) (token : Uuid) (delay : Duration)
  | requeued (now : DateTime)
deriving DecidableEq

def Transition.time : Transition → DateTime
  | .published now _ => now
  | .claimed now _ => now
  | .settled now _ _ => now
  | .recovered now _ _ => now
  | .requeued now => now

/-- The claims since the last publication or requeue. -/
def claimsSince (history : List Transition) : Nat :=
  history.foldl (fun count transition =>
    match transition with
    | .published _ _ => 0
    | .requeued _ => 0
    | .claimed _ _ => count + 1
    | _ => count) 0

/-! ### What a schedule asks for -/

/-- The whole milliseconds of a delay after a time. -/
def delayedTime (now : DateTime) (delay : Duration) : DateTime :=
  now + 1000000 * (delay.asMillis : Int)

/-- The time that a published task asks for. -/
def requestedTime (schedule : TaskSchedule) (now : DateTime) : DateTime :=
  match schedule with
  | .now => now
  | .at time => time
  | .after delay => delayedTime now delay

/-- The doubles do not shorten the delay. -/
def DelayKept (delay : Duration) : Prop :=
  1000 * delay.asMillis ≤ intervalMicros (millisAsDouble delay)

instance (delay : Duration) : Decidable (DelayKept delay) := inferInstanceAs (Decidable (_ ≤ _))

def ScheduleKept : TaskSchedule → Prop
  | .after delay => DelayKept delay
  | _ => True

/-- **Delays up to 2 ^ 53 microseconds are kept.** -/
theorem delayKept_of_le {delay : Duration} (small : 1000 * delay.asMillis ≤ 2 ^ 53) :
    DelayKept delay :=
  (intervalMicros_exact small).ge

theorem delayedTime_le {delay : Duration} (kept : DelayKept delay) (now : DateTime) :
    delayedTime now delay ≤ afterMillis now (millisAsDouble delay) := by
  unfold DelayKept at kept
  unfold delayedTime afterMillis
  show (_ : Int) ≤ _
  omega

theorem requestedTime_le {schedule : TaskSchedule} (kept : ScheduleKept schedule)
    (now : DateTime) : requestedTime schedule now ≤ databaseTime schedule now := by
  cases schedule with
  | now => exact le_afterMillis now 0
  | «at» time => exact le_refl time
  | after delay => exact delayedTime_le kept now

/-- Every claim is made at or after the time that the task asks for, and at or after the end of the
delay of a retry that it follows, if the doubles keep the delays. -/
def ClaimsTimely (history : List Transition) : Prop :=
  ∀ earlier now token later, history = earlier ++ .claimed now token :: later →
    (∀ at_ schedule, earlier.head? = some (.published at_ schedule) →
      databaseTime schedule at_ ≤ now ∧
        (ScheduleKept schedule → requestedTime schedule at_ ≤ now)) ∧
    ∀ at_ settledToken delay reason,
      earlier.getLast? = some (.settled at_ settledToken (.retry delay reason)) →
      afterMillis at_ (millisAsDouble delay) ≤ now ∧
        (DelayKept delay → delayedTime at_ delay ≤ now)

section Life

variable {Value : Type}

/-- What a transition requires of a row, and the row it leaves. -/
inductive Transition.Applies (row : OutboxRow Value) : Transition → OutboxRow Value → Prop
  | claimed (owner : String) (token : Uuid) (now until_ : DateTime) :
      row.status = .pending → row.availableAt ≤ now →
      Applies row (.claimed now token) (row.claimed owner token until_)
  | settled (token : Uuid) (request : SettlementRequest) (now reading : DateTime) :
      row.status = .processing → row.lockToken = some token → isRunning reading row = true →
      Applies row (.settled now token request) (row.settled request now)
  | recovered (token : Uuid) (delay : Duration) (now selectedAt : DateTime) :
      isExpired selectedAt row = true → row.lockToken = some token →
      Applies row (.recovered now token delay) (row.recovered delay now)
  | requeued (now : DateTime) : row.status = .failed →
      Applies row (.requeued now) (row.requeued now)

/-- No transition touches the identity of a row. -/
theorem Transition.Applies.identity {row next : OutboxRow Value} {transition : Transition}
    (applies : transition.Applies row next) : next.identity = row.identity := by
  cases applies with
  | claimed owner token now until_ _ _ => exact row.identity_claimed owner token until_
  | settled token request now reading _ _ _ => exact row.identity_settled request now
  | recovered token delay now selectedAt _ _ => exact row.identity_recovered delay now
  | requeued now _ => exact row.identity_requeued now

theorem Transition.Applies.id {row next : OutboxRow Value} {transition : Transition}
    (applies : transition.Applies row next) : next.id = row.id :=
  congrArg Identity.id applies.identity

/-- A finished row has no transition but the requeue of a failed one. -/
theorem Transition.Applies.finished {row next : OutboxRow Value} {transition : Transition}
    (applies : transition.Applies row next) :
    row.status ≠ .completed ∧
      (row.status = .failed → ∃ now, transition = .requeued now ∧ next = row.requeued now) := by
  cases applies with
  | claimed owner token now until_ pending _ => simp [pending]
  | settled token request now reading processing _ _ => simp [processing]
  | recovered token delay now selectedAt expired _ =>
    simp [(of_decide_eq_true expired).1]
  | requeued now failed => simp [failed]

variable [JsonValue Value]

/-- Every transition keeps the constraints of the table. -/
theorem Transition.Applies.checks {row next : OutboxRow Value} {transition : Transition}
    (applies : transition.Applies row next) (checks : row.Checks) : next.Checks := by
  cases applies with
  | claimed owner token now until_ pending _ =>
    exact OutboxRow.claimed_checks checks pending owner token until_
  | settled token request now reading _ _ _ => exact OutboxRow.settled_checks checks request now
  | recovered token delay now selectedAt _ _ => exact OutboxRow.recovered_checks checks delay now
  | requeued now _ => exact OutboxRow.requeued_checks checks now

/-- **The life of a row**: its publication, and transitions at non-decreasing times. -/
inductive Life : List Transition → OutboxRow Value → Prop
  | published (task : NewTask Value) (aggregateType aggregateId : String) (sequence : Nat)
      (now : DateTime) : 0 < sequence →
      Life [.published now task.schedule]
        (.published task aggregateType aggregateId sequence now)
  | step {history : List Transition} {row next : OutboxRow Value} (transition : Transition) :
      Life history row → transition.Applies row next →
      (∀ earlier ∈ history, earlier.time ≤ transition.time) →
      Life (history ++ [transition]) next

theorem Life.checks {history : List Transition} {row : OutboxRow Value}
    (life : Life history row) : row.Checks := by
  induction life with
  | published task aggregateType aggregateId sequence now positive =>
    exact OutboxRow.published_checks task aggregateType aggregateId now positive
  | step transition _ applies _ ih => exact applies.checks ih

theorem claimsSince_append (history : List Transition) (transition : Transition) :
    claimsSince (history ++ [transition])
      = match transition with
        | .published _ _ => 0
        | .requeued _ => 0
        | .claimed _ _ => claimsSince history + 1
        | _ => claimsSince history := by
  unfold claimsSince
  rw [List.foldl_append]
  rfl

/-- **The delivery counter** is the number of claims since publication or requeue. -/
theorem Life.attempts_eq {history : List Transition} {row : OutboxRow Value}
    (life : Life history row) : row.attempts = claimsSince history := by
  induction life with
  | published task aggregateType aggregateId sequence now positive => rfl
  | step transition _ applies _ ih =>
    rw [claimsSince_append]
    cases applies with
    | claimed owner token now until_ _ _ =>
      show _ + 1 = ((_ + 1 : Nat) : Int)
      rw [ih]
      rfl
    | settled token request now reading _ _ _ => exact ih
    | recovered token delay now selectedAt _ _ => exact ih
    | requeued now _ => rfl

omit [JsonValue Value] in
/-- A settlement that leaves the row pending is a retry, available after its delay. -/
theorem settled_pending {row : OutboxRow Value} {request : SettlementRequest} {now : DateTime}
    (pending : (row.settled request now).status = .pending) :
    ∃ delay reason, request = .retry delay reason ∧
      (row.settled request now).availableAt = afterMillis now (millisAsDouble delay) := by
  cases request with
  | completed => cases pending
  | failed reason => cases pending
  | retry delay reason =>
    refine ⟨delay, reason, rfl, ?_⟩
    by_cases exhausted : row.attempts ≥ row.maxAttempts
    · simp [OutboxRow.settled, settlementParameters, exhausted] at pending
    · simp [OutboxRow.settled, settlementParameters, not_le.mp exhausted]

/-- A life starts with a publication. -/
theorem Life.first {history : List Transition} {row : OutboxRow Value} (life : Life history row) :
    ∃ now schedule, history.head? = some (.published now schedule) := by
  induction life with
  | published task aggregateType aggregateId sequence now positive => exact ⟨_, _, rfl⟩
  | step transition _ _ _ ih =>
    obtain ⟨now, schedule, known⟩ := ih
    exact ⟨now, schedule, by rw [List.head?_append, known, Option.some_or]⟩

/-- A pending row is not available before the time of its schedule; any other row has been claimed
at or after it. -/
theorem Life.scheduled {history : List Transition} {row : OutboxRow Value}
    (life : Life history row) {at_ : DateTime} {schedule : TaskSchedule}
    (first : history.head? = some (.published at_ schedule)) :
    (row.status = .pending → databaseTime schedule at_ ≤ row.availableAt) ∧
      (row.status ≠ .pending → ∃ earlier ∈ history, databaseTime schedule at_ ≤ earlier.time) := by
  induction life with
  | published task aggregateType aggregateId sequence now positive =>
    obtain ⟨rfl, rfl⟩ := Transition.published.inj (Option.some.inj first)
    exact ⟨fun _ => le_refl _, fun other => absurd rfl other⟩
  | @step history row next transition life applies ordered ih =>
    have started : history.head? = some (.published at_ schedule) := by
      obtain ⟨_, _, known⟩ := life.first
      rw [List.head?_append, known, Option.some_or] at first
      exact known.trans first
    obtain ⟨pendingLater, claimedLater⟩ := ih started
    -- a transition of a row that is not pending comes after a claim
    have later (other : row.status ≠ .pending) : databaseTime schedule at_ ≤ transition.time := by
      obtain ⟨earlier, member, after⟩ := claimedLater other
      exact after.trans (ordered earlier member)
    have own (after : databaseTime schedule at_ ≤ transition.time) :
        ∃ earlier ∈ history ++ [transition], databaseTime schedule at_ ≤ earlier.time :=
      ⟨transition, List.mem_append_right _ (List.mem_singleton.mpr rfl), after⟩
    cases applies with
    | claimed owner token now until_ pending available =>
      exact ⟨nofun, fun _ => own ((pendingLater pending).trans available)⟩
    | settled token request now reading processing _ _ =>
      have after := later (by simp [processing])
      refine ⟨fun pending => ?_, fun _ => own after⟩
      obtain ⟨delay, reason, _, available⟩ := settled_pending pending
      rw [available]
      exact after.trans (le_afterMillis now _)
    | recovered token delay now selectedAt expired _ =>
      have after := later (by simp [(of_decide_eq_true expired).1])
      exact ⟨fun _ => after.trans (le_afterMillis now _), fun _ => own after⟩
    | requeued now failed =>
      have after := later (by simp [failed])
      exact ⟨fun _ => after, fun _ => own after⟩

/-- A pending row whose last transition was a retry waits for the delay of that retry. -/
theorem Life.retried {history : List Transition} {row : OutboxRow Value}
    (life : Life history row) {at_ : DateTime} {token : Uuid} {delay : Duration} {reason : String}
    (last : history.getLast? = some (.settled at_ token (.retry delay reason)))
    (pending : row.status = .pending) :
    row.availableAt = afterMillis at_ (millisAsDouble delay) := by
  cases life with
  | published => cases last
  | step transition _ applies _ =>
    rw [List.getLast?_append, List.getLast?_singleton, Option.some_or] at last
    obtain rfl := Option.some.inj last
    cases applies with
    | settled _ _ _ reading _ _ _ =>
      obtain ⟨_, _, same, available⟩ := settled_pending pending
      obtain ⟨rfl, rfl⟩ := SettlementRequest.retry.inj same
      exact available

/-- **Every claim of a life is timely.** -/
theorem Life.timely {history : List Transition} {row : OutboxRow Value}
    (life : Life history row) : ClaimsTimely history := by
  induction life with
  | published =>
    intro earlier now token later split
    rcases List.singleton_eq_append_iff.mp split with ⟨rfl, only⟩ | ⟨_, none⟩
    · cases only
    · cases none
  | @step history row next transition life applies _ ih =>
    intro earlier now token later split
    rcases List.eq_nil_or_concat later with rfl | ⟨rest, last, rfl⟩
    · obtain ⟨rfl, same⟩ := List.append_inj' split rfl
      obtain rfl := List.head_eq_of_cons_eq same
      cases applies with
      | claimed owner _ _ until_ pending available =>
        refine ⟨fun at_ schedule first => ?_, fun at_ settledToken delay reason retry => ?_⟩
        · have after := ((life.scheduled first).1 pending).trans available
          exact ⟨after, fun kept => (requestedTime_le kept at_).trans after⟩
        · have after := (life.retried retry pending).ge.trans available
          exact ⟨after, fun kept => (delayedTime_le kept at_).trans after⟩
    · have shorter : history = earlier ++ .claimed now token :: rest := by
        rw [List.concat_eq_append, ← List.cons_append, ← List.append_assoc] at split
        exact (List.append_inj' split rfl).1
      exact ih earlier now token rest shorter

end Life

/-! ### The table -/

section Table

variable (Value : Type) [JsonValue Value]

/-- A statement with its arguments and what the database and the environment supply to it. -/
inductive OutboxStatement where
  | publish (typeName : String) (event : SerializedEvent Value) (tasks : List (NewTask Value))
  | claim (format : TaskFormat) (owner : String) (limit : Nat) (lease : Duration)
      (anchor : Instant) (locked : Uuid → Bool) (grants : Uuid → Grant)
  | settle (task : LeasedTask Value) (request : SettlementRequest) (reading : DateTime)
  | recoverExpired (limit : Nat) (locked : Uuid → Bool) (redeliveries : Uuid → Redelivery)
  | requeue (id : Uuid)

/-- What a statement answers. -/
inductive OutboxAnswer where
  | published (result : Except SqlxError Unit)
  | claimed (result : Except TaskProcessingError (List (LeasedTask Value)))
  | settled (result : Except TaskProcessingError SettlementResult)
  | recovered (result : Except TaskProcessingError LeaseRecoveryReport)
  | requeued (result : Except SqlxError Unit)

variable {Value}

/-- The rows a statement leaves, and its answer. -/
def OutboxStatement.run (now : DateTime) (rows : List (OutboxRow Value)) :
    OutboxStatement Value → List (OutboxRow Value) × OutboxAnswer Value
  | .publish typeName event tasks =>
    match insertTasks typeName event.sequence event now tasks rows with
    | .error error => (rows, .published (.error error))
    | .ok inserted => (inserted, .published (.ok ()))
  | .claim format owner limit lease anchor locked grants =>
    let (after, result) := Outbox.claim format owner limit lease anchor now locked grants rows
    (after, .claimed result)
  | .settle task request reading =>
    let (after, result) := Outbox.settle task request now reading rows
    (after, .settled result)
  | .recoverExpired limit locked redeliveries =>
    let (after, result) := Outbox.recoverExpired limit now locked redeliveries rows
    (after, .recovered result)
  | .requeue id =>
    match Outbox.requeue id now rows with
    | .error error => (rows, .requeued (.error error))
    | .ok after => (after, .requeued (.ok ()))

/-- The statement was not rejected by a constraint, and no row was an invalid delivery. Here the
database never fails by itself, so that only a rejection makes the queue unavailable. -/
def OutboxAnswer.Accepted : OutboxAnswer Value → Prop
  | .published result => result ≠ .error .outboxCheck
  | .claimed result => result ≠ .error .unavailable ∧ result ≠ .error .invalidDelivery
  | .settled result => result ≠ .error .unavailable ∧ result ≠ .error .invalidDelivery
  | .recovered result => result ≠ .error .unavailable ∧ result ≠ .error .invalidDelivery
  | .requeued result => result = .ok ()

/-- The transitions a statement has made, read off its answer and the rows it selected. -/
def OutboxStatement.transitions (now : DateTime) (rows : List (OutboxRow Value))
    (statement : OutboxStatement Value) : List (Uuid × Transition) :=
  match statement, (statement.run now rows).2 with
  | .publish _ _ tasks, .published (.ok ()) =>
    tasks.map fun task => (task.id, .published now task.schedule)
  | .claim .., .claimed (.ok tasks) =>
    tasks.map fun task => (task.attempt.id, .claimed now task.lease.lockToken)
  | .settle task request _, .settled (.ok result) =>
    if result = .ownershipLost then []
    else [(task.attempt.id, .settled now task.lease.lockToken request)]
  | .recoverExpired limit locked redeliveries, .recovered (.ok _) =>
    (expiredRows now limit locked rows).map fun row => (row.id, .recovered
      (redeliveries row.id).timestamp (row.lockToken.getD 0)
      ((redeliveries row.id).delay row.attempts))
  | .requeue id, .requeued (.ok ()) => (failedRows id rows).map fun row => (row.id, .requeued now)
  | _, _ => []

/-- What the environment of a statement obeys: events are numbered from one, and the UPDATEs of a
recovery run between its start and its end. -/
def OutboxStatement.Sane (now finish : DateTime) (rows : List (OutboxRow Value)) :
    OutboxStatement Value → Prop
  | .publish _ event _ => 0 < event.sequence
  | .recoverExpired limit locked redeliveries => ∀ row ∈ expiredRows now limit locked rows,
      now ≤ (redeliveries row.id).timestamp ∧ (redeliveries row.id).timestamp ≤ finish
  | _ => True

instance (now finish : DateTime) (rows : List (OutboxRow Value))
    (statement : OutboxStatement Value) : Decidable (statement.Sane now finish rows) := by
  cases statement <;> unfold OutboxStatement.Sane <;> infer_instance

variable (Value) in
/-- The rows, the last reading of the clock, and every transition so far. -/
structure OutboxState where
  rows : List (OutboxRow Value)
  clock : DateTime
  history : List (Uuid × Transition)

variable (Value) in
/-- A statement from `now` to `finish`. -/
structure OutboxAction where
  now : DateTime
  finish : DateTime
  statement : OutboxStatement Value

variable (Value) in
/-- Any sequence of statements at non-decreasing times, from the empty table. -/
def outboxMachine (clock : DateTime) : Machine (OutboxState Value) (OutboxAction Value) where
  start := ⟨[], clock, []⟩
  step s action :=
    if s.clock ≤ action.now ∧ action.now ≤ action.finish ∧
        action.statement.Sane action.now action.finish s.rows then
      some {
        rows := (action.statement.run action.now s.rows).1
        clock := action.finish
        history := s.history ++ action.statement.transitions action.now s.rows }
    else none

/-- The transitions of one row. -/
def entries (id : Uuid) (history : List (Uuid × Transition)) : List Transition :=
  (history.filter fun entry => entry.1 = id).map Prod.snd

omit [JsonValue Value] in
theorem entries_append (id : Uuid) (first second : List (Uuid × Transition)) :
    entries id (first ++ second) = entries id first ++ entries id second := by
  unfold entries
  rw [List.filter_append, List.map_append]

theorem entries_eq_nil {id : Uuid} {history : List (Uuid × Transition)}
    (absent : ∀ entry ∈ history, entry.1 ≠ id) : entries id history = [] := by
  unfold entries
  rw [List.filter_eq_nil_iff.mpr fun entry member => by simpa using absent entry member,
    List.map_nil]

/-- With distinct keys, the transition of an item is the only one under its key. -/
theorem entries_map {Item : Type} {key : Item → Uuid} (label : Item → Transition)
    {items : List Item} (distinct : (items.map key).Nodup) {item : Item} (member : item ∈ items) :
    entries (key item) (items.map fun item => (key item, label item)) = [label item] := by
  induction items with
  | nil => cases member
  | cons head rest ih =>
    obtain ⟨fresh, distinct⟩ := List.nodup_cons.mp distinct
    rw [List.map_cons, ← List.singleton_append, entries_append]
    rcases List.mem_cons.mp member with rfl | inside
    · have others : entries (key item) (rest.map fun item => (key item, label item)) = [] := by
        refine entries_eq_nil fun entry found same => fresh ?_
        obtain ⟨other, inside, rfl⟩ := List.mem_map.mp found
        exact List.mem_map.mpr ⟨other, inside, same⟩
      rw [others, List.append_nil]
      simp [entries]
    · have different : key head ≠ key item := fun same =>
        fresh (List.mem_map.mpr ⟨item, inside, same.symm⟩)
      have first : entries (key item) [(key head, label head)] = [] :=
        entries_eq_nil fun entry found => by rwa [List.mem_singleton.mp found]
      rw [first, List.nil_append]
      exact ih distinct inside

/-- What a statement has done to the rows: some of them made the one transition that was reported
for them, and the others are as they were. -/
structure Moved (low high : DateTime) (before after : List (OutboxRow Value))
    (added : List (Uuid × Transition)) : Prop where
  assigned : ∃ assign : OutboxRow Value → OutboxRow Value, after = before.map assign ∧
    ∀ row ∈ before, (assign row = row ∧ entries row.id added = []) ∨
      ∃ transition, entries row.id added = [transition] ∧ transition.Applies row (assign row)
  times : ∀ entry ∈ added, low ≤ entry.2.time ∧ entry.2.time ≤ high
  inside : ∀ entry ∈ added, entry.1 ∈ before.map OutboxRow.id

omit [JsonValue Value] in
theorem Moved.unchanged (low high : DateTime) (rows : List (OutboxRow Value)) :
    Moved low high rows rows [] where
  assigned := ⟨id, (List.map_id rows).symm, fun _ _ => .inl ⟨rfl, rfl⟩⟩
  times := nofun
  inside := nofun

omit [JsonValue Value] in
/-- **An assignment to selected rows**, each under its own transition. -/
theorem Moved.selected {low high : DateTime} {rows selected : List (OutboxRow Value)}
    {assign : OutboxRow Value → OutboxRow Value} {label : OutboxRow Value → Transition}
    (distinct : (rows.map OutboxRow.id).Nodup)
    (chosen : (selected.map OutboxRow.id).Nodup) (inside : ∀ row ∈ selected, row ∈ rows)
    (applies : ∀ row ∈ selected, (label row).Applies row (assign row))
    (times : ∀ row ∈ selected, low ≤ (label row).time ∧ (label row).time ≤ high) :
    Moved low high rows (assignRows (selected.map OutboxRow.id) assign rows)
      (selected.map fun row => (row.id, label row)) where
  assigned := by
    refine ⟨_, rfl, fun row member => ?_⟩
    by_cases found : row.id ∈ selected.map OutboxRow.id
    · have own := mem_of_id_mem distinct inside member found
      rw [if_pos found]
      exact .inr ⟨label row, entries_map label chosen own, applies row own⟩
    · rw [if_neg found]
      refine .inl ⟨rfl, entries_eq_nil fun entry known same => found ?_⟩
      obtain ⟨other, inside, rfl⟩ := List.mem_map.mp known
      exact List.mem_map.mpr ⟨other, inside, same⟩
  times := by
    intro entry known
    obtain ⟨row, member, rfl⟩ := List.mem_map.mp known
    exact times row member
  inside := by
    intro entry known
    obtain ⟨row, member, rfl⟩ := List.mem_map.mp known
    exact List.mem_map_of_mem (inside row member)

/-! ### The statements as transitions -/

theorem delivered_transitions {format : TaskFormat} {deadline : Instant} {grants : Uuid → Grant}
    {ready : List (OutboxRow Value)} {tasks : List (LeasedTask Value)} (now : DateTime)
    (delivered : List.Forall₂ (Delivered format deadline grants) ready tasks) :
    tasks.map (fun task => (task.attempt.id, Transition.claimed now task.lease.lockToken))
      = ready.map fun row => (row.id, Transition.claimed now (grants row.id).token) := by
  induction delivered with
  | nil => rfl
  | cons first _ ih => rw [List.map_cons, List.map_cons, ih, first.id, first.lease]

variable {rows : List (OutboxRow Value)} {now finish : DateTime}

theorem claim_moved (checks : ∀ row ∈ rows, row.Checks) (distinct : (rows.map OutboxRow.id).Nodup)
    (ordered : now ≤ finish) (format : TaskFormat) (owner : String) (limit : Nat)
    (lease : Duration) (anchor : Instant) (locked : Uuid → Bool) (grants : Uuid → Grant) :
    let statement : OutboxStatement Value := .claim format owner limit lease anchor locked grants
    (statement.run now rows).2.Accepted ∧
      Moved now finish rows (statement.run now rows).1 (statement.transitions now rows) := by
  intro statement
  rcases claim_cases checks distinct format owner limit lease anchor now locked grants with
    ⟨reason, rejected⟩ | ⟨deadline, tasks, _, _, claimed, delivered⟩
  · have ran : statement.run now rows = (rows, .claimed (.error (.invalidRequest reason))) := by
      simp only [statement, OutboxStatement.run, rejected]
    simp only [OutboxStatement.transitions, ran]
    exact ⟨⟨nofun, nofun⟩, .unchanged now finish rows⟩
  · have ran : statement.run now rows
        = (assignRows ((readyRows format now limit locked rows).map OutboxRow.id)
          (grantedRow owner (millisAsDouble lease) grants) rows, .claimed (.ok tasks)) := by
      simp only [statement, OutboxStatement.run, claimed]
    simp only [OutboxStatement.transitions, ran, statement]
    refine ⟨⟨nofun, nofun⟩, ?_⟩
    rw [delivered_transitions now delivered]
    refine .selected distinct (nodup_selectRows distinct) (fun row found => (mem_selectRows found).1)
      (fun row found => ?_) (fun row _ => ⟨le_refl now, ordered⟩)
    obtain ⟨pending, _, _, available⟩ := of_decide_eq_true (mem_selectRows found).2
    exact .claimed owner _ now _ pending available

theorem settle_moved (checks : ∀ row ∈ rows, row.Checks) (distinct : (rows.map OutboxRow.id).Nodup)
    (ordered : now ≤ finish) (task : LeasedTask Value) (request : SettlementRequest)
    (reading : DateTime) :
    let statement : OutboxStatement Value := .settle task request reading
    (statement.run now rows).2.Accepted ∧
      Moved now finish rows (statement.run now rows).1 (statement.transitions now rows) := by
  intro statement
  rcases settle_cases checks distinct task request now reading with
    rejected | ⟨lost, _⟩ | ⟨row, member, owned, running, result, settled, applied, _⟩
  · have ran : statement.run now rows
        = (rows, .settled (.error (.invalidRequest .invalidRetryDelay))) := by
      simp only [statement, OutboxStatement.run, rejected]
    simp only [OutboxStatement.transitions, ran]
    exact ⟨⟨nofun, nofun⟩, .unchanged now finish rows⟩
  · have ran : statement.run now rows = (rows, .settled (.ok .ownershipLost)) := by
      simp only [statement, OutboxStatement.run, lost]
    simp only [OutboxStatement.transitions, ran, statement]
    exact ⟨⟨nofun, nofun⟩, .unchanged now finish rows⟩
  · have ran : statement.run now rows
        = (assignRows [row.id] (fun row => row.settled request now) rows,
          .settled (.ok result)) := by
      simp only [statement, OutboxStatement.run, settled]
    simp only [OutboxStatement.transitions, ran, statement, if_neg applied]
    obtain ⟨sameId, sameToken, processing⟩ := of_decide_eq_true owned
    refine ⟨⟨nofun, nofun⟩, ?_⟩
    have moved : Moved now finish rows (assignRows ([row].map OutboxRow.id)
        (fun row => row.settled request now) rows)
        ([row].map fun row => (row.id, .settled now task.lease.lockToken request)) := by
      refine .selected distinct (List.nodup_singleton _) (List.forall_mem_singleton.mpr member)
        (List.forall_mem_singleton.mpr ?_)
        (List.forall_mem_singleton.mpr ⟨le_refl now, ordered⟩)
      exact .settled task.lease.lockToken request now reading processing sameToken running
    rw [← sameId]
    exact moved

theorem recoverExpired_moved (checks : ∀ row ∈ rows, row.Checks)
    (distinct : (rows.map OutboxRow.id).Nodup) (limit : Nat) (locked : Uuid → Bool)
    (redeliveries : Uuid → Redelivery)
    (sane : ∀ row ∈ expiredRows now limit locked rows,
      now ≤ (redeliveries row.id).timestamp ∧ (redeliveries row.id).timestamp ≤ finish) :
    let statement : OutboxStatement Value := .recoverExpired limit locked redeliveries
    (statement.run now rows).2.Accepted ∧
      Moved now finish rows (statement.run now rows).1 (statement.transitions now rows) := by
  intro statement
  rcases recoverExpired_cases checks distinct limit now locked redeliveries with
    rejected | ⟨report, recovered, _⟩
  · have ran : statement.run now rows
        = (rows, .recovered (.error (.invalidRequest .invalidLimit))) := by
      simp only [statement, OutboxStatement.run, rejected]
    simp only [OutboxStatement.transitions, ran]
    exact ⟨⟨nofun, nofun⟩, .unchanged now finish rows⟩
  · have ran : statement.run now rows
        = (assignRows ((expiredRows now limit locked rows).map OutboxRow.id)
          (recoveredRow redeliveries) rows, .recovered (.ok report)) := by
      simp only [statement, OutboxStatement.run, recovered]
    simp only [OutboxStatement.transitions, ran, statement]
    refine ⟨⟨nofun, nofun⟩, ?_⟩
    refine .selected distinct (nodup_selectRows distinct)
      (fun row found => (mem_selectRows found).1) (fun row found => ?_) sane
    obtain ⟨member, expired⟩ := mem_selectRows found
    have locks := (checks row member).locks.resolve_right fun unlocked =>
      unlocked.1 (of_decide_eq_true expired).1
    obtain ⟨token, held⟩ := Option.isSome_iff_exists.mp locks.2.2.1
    refine .recovered _ _ _ now expired ?_
    rw [held, Option.getD_some]

theorem requeue_moved (checks : ∀ row ∈ rows, row.Checks)
    (distinct : (rows.map OutboxRow.id).Nodup) (ordered : now ≤ finish) (id : Uuid) :
    let statement : OutboxStatement Value := .requeue id
    (statement.run now rows).2.Accepted ∧
      Moved now finish rows (statement.run now rows).1 (statement.transitions now rows) := by
  intro statement
  have ran : statement.run now rows
      = (assignRows ((failedRows id rows).map OutboxRow.id) (fun row => row.requeued now) rows,
        .requeued (.ok ())) := by
    simp only [statement, OutboxStatement.run, requeue_ok checks id now]
  simp only [OutboxStatement.transitions, ran, statement]
  refine ⟨rfl, .selected distinct (distinct.sublist (List.filter_sublist.map _))
    (fun row found => (List.mem_filter.mp found).1) (fun row found => ?_)
    (fun row _ => ⟨le_refl now, ordered⟩)⟩
  exact .requeued now (of_decide_eq_true (List.mem_filter.mp found).2).2

/-- A publication inserts every task, or nothing because an id is taken. -/
theorem publish_cases (typeName : String) {event : SerializedEvent Value}
    (positive : 0 < event.sequence) (tasks : List (NewTask Value)) :
    let statement : OutboxStatement Value := .publish typeName event tasks
    (statement.run now rows).2.Accepted ∧
      (((statement.run now rows).1 = rows ∧ statement.transitions now rows = []) ∨
        ((statement.run now rows).1 = rows ++ taskRows typeName event.sequence event now tasks ∧
          statement.transitions now rows
            = tasks.map (fun task => (task.id, .published now task.schedule)) ∧
          ((statement.run now rows).1.map OutboxRow.id).Nodup)) := by
  intro statement
  have checked : ∀ row ∈ taskRows typeName event.sequence event now tasks, row.Checks := by
    intro row member
    obtain ⟨task, _, rfl⟩ := List.mem_map.mp member
    exact OutboxRow.published_checks task typeName event.aggregateId now positive
  by_cases distinct :
      ((rows ++ taskRows typeName event.sequence event now tasks).map OutboxRow.id).Nodup
  · have inserted : insertTasks typeName event.sequence event now tasks rows
        = .ok (rows ++ taskRows typeName event.sequence event now tasks) := by
      simp only [insertTasks, if_neg (not_not.mpr checked), if_pos distinct]
    have ran : statement.run now rows
        = (rows ++ taskRows typeName event.sequence event now tasks, .published (.ok ())) := by
      simp only [statement, OutboxStatement.run, inserted]
    simp only [OutboxStatement.transitions, ran, statement]
    exact ⟨by simp [OutboxAnswer.Accepted], .inr ⟨trivial, trivial, distinct⟩⟩
  · have rejected : insertTasks typeName event.sequence event now tasks rows
        = .error .outboxPkey := by
      simp only [insertTasks, if_neg (not_not.mpr checked), if_neg distinct]
    have ran : statement.run now rows = (rows, .published (.error .outboxPkey)) := by
      simp only [statement, OutboxStatement.run, rejected]
    simp only [OutboxStatement.transitions, ran]
    exact ⟨by simp [OutboxAnswer.Accepted], .inl ⟨trivial, rfl⟩⟩

/-! ### The invariant -/

/-- Every row lives, with the transitions reported for it. -/
structure Tracked (s : OutboxState Value) : Prop where
  distinct : (s.rows.map OutboxRow.id).Nodup
  lives : ∀ row ∈ s.rows, Life (entries row.id s.history) row
  past : ∀ entry ∈ s.history, entry.2.time ≤ s.clock
  known : ∀ entry ∈ s.history, entry.1 ∈ s.rows.map OutboxRow.id

omit [JsonValue Value] in
theorem mem_entries {id : Uuid} {history : List (Uuid × Transition)} {transition : Transition}
    (member : transition ∈ entries id history) : (id, transition) ∈ history := by
  obtain ⟨entry, found, rfl⟩ := List.mem_map.mp member
  obtain ⟨inside, same⟩ := List.mem_filter.mp found
  rwa [← of_decide_eq_true same]

theorem Tracked.checks {s : OutboxState Value} (tracked : Tracked s) :
    ∀ row ∈ s.rows, row.Checks :=
  fun row member => (tracked.lives row member).checks

/-- Transitions of existing rows keep the invariant. -/
theorem Tracked.moved {s : OutboxState Value} (tracked : Tracked s) {now finish : DateTime}
    {after : List (OutboxRow Value)} {added : List (Uuid × Transition)}
    (started : s.clock ≤ now) (ordered : now ≤ finish)
    (moved : Moved now finish s.rows after added) :
    Tracked ⟨after, finish, s.history ++ added⟩ := by
  obtain ⟨⟨assign, rfl, moves⟩, times, inside⟩ := moved
  have sameId : ∀ row ∈ s.rows, (assign row).id = row.id := by
    intro row member
    rcases moves row member with ⟨same, _⟩ | ⟨transition, _, applies⟩
    · rw [same]
    · exact applies.id
  have ids : (s.rows.map assign).map OutboxRow.id = s.rows.map OutboxRow.id := by
    rw [List.map_map]
    exact List.map_congr_left sameId
  refine ⟨?_, ?_, ?_, ?_⟩
  · rw [ids]
    exact tracked.distinct
  · intro next member
    obtain ⟨row, found, rfl⟩ := List.mem_map.mp member
    have life := tracked.lives row found
    rw [sameId row found, entries_append]
    rcases moves row found with ⟨same, none⟩ | ⟨transition, one, applies⟩
    · rw [same, none, List.append_nil]
      exact life
    · rw [one]
      refine .step transition life applies fun earlier old => ?_
      have reported : transition ∈ entries row.id added := by
        rw [one]
        exact List.mem_singleton.mpr rfl
      exact (tracked.past _ (mem_entries old)).trans
        (started.trans (times _ (mem_entries reported)).1)
  · refine List.forall_mem_append.mpr ⟨fun entry old => ?_, fun entry new => (times entry new).2⟩
    exact (tracked.past entry old).trans (started.trans ordered)
  · rw [ids]
    exact List.forall_mem_append.mpr ⟨tracked.known, inside⟩

/-- New rows keep the invariant. -/
theorem Tracked.published {s : OutboxState Value} (tracked : Tracked s) {now finish : DateTime}
    {typeName : String} {event : SerializedEvent Value} {tasks : List (NewTask Value)}
    (started : s.clock ≤ now) (ordered : now ≤ finish) (positive : 0 < event.sequence)
    (distinct : ((s.rows ++ taskRows typeName event.sequence event now tasks).map
      OutboxRow.id).Nodup) :
    Tracked ⟨s.rows ++ taskRows typeName event.sequence event now tasks, finish,
      s.history ++ tasks.map
        (fun task => (task.id, .published now task.schedule))⟩ := by
  have newIds : (taskRows typeName event.sequence event now tasks).map OutboxRow.id
      = tasks.map NewTask.id := by
    unfold taskRows
    rw [List.map_map]
    rfl
  have parts := distinct
  rw [List.map_append, newIds, List.nodup_append] at parts
  obtain ⟨_, newDistinct, disjoint⟩ := parts
  refine ⟨distinct, ?_, ?_, ?_⟩
  · refine List.forall_mem_append.mpr ⟨fun row old => ?_, fun row new => ?_⟩
    · have none : entries row.id (tasks.map fun task =>
          (task.id, .published now task.schedule)) = [] := by
        refine entries_eq_nil fun entry found same => ?_
        obtain ⟨task, member, rfl⟩ := List.mem_map.mp found
        exact disjoint row.id (List.mem_map_of_mem old) task.id (List.mem_map_of_mem member)
          same.symm
      rw [entries_append, none, List.append_nil]
      exact tracked.lives row old
    · obtain ⟨task, member, rfl⟩ := List.mem_map.mp new
      have fresh : entries task.id s.history = [] := by
        refine entries_eq_nil fun entry found same => ?_
        exact disjoint entry.1 (tracked.known entry found) task.id (List.mem_map_of_mem member) same
      show Life (entries task.id _) _
      rw [entries_append, fresh, List.nil_append,
        entries_map (fun task => .published now task.schedule) newDistinct member]
      exact .published task typeName event.aggregateId event.sequence now positive
  · refine List.forall_mem_append.mpr ⟨fun entry old => ?_, fun entry new => ?_⟩
    · exact (tracked.past entry old).trans (started.trans ordered)
    · obtain ⟨task, _, rfl⟩ := List.mem_map.mp new
      exact ordered
  · rw [List.map_append, newIds]
    refine List.forall_mem_append.mpr ⟨fun entry old => ?_, fun entry new => ?_⟩
    · exact List.mem_append_left _ (tracked.known entry old)
    · obtain ⟨task, member, rfl⟩ := List.mem_map.mp new
      exact List.mem_append_right _ (List.mem_map_of_mem member)

/-- **Everything a statement does**: it is accepted, and either existing rows make the transitions
that it reports, or new rows are published. -/
theorem OutboxStatement.run_cases (checks : ∀ row ∈ rows, row.Checks)
    (distinct : (rows.map OutboxRow.id).Nodup) (ordered : now ≤ finish)
    {statement : OutboxStatement Value} (sane : statement.Sane now finish rows) :
    (statement.run now rows).2.Accepted ∧
      (Moved now finish rows (statement.run now rows).1 (statement.transitions now rows) ∨
        ∃ typeName event tasks, statement = .publish typeName event tasks ∧ 0 < event.sequence ∧
          (statement.run now rows).1 = rows ++ taskRows typeName event.sequence event now tasks ∧
          statement.transitions now rows
            = tasks.map (fun task => (task.id, .published now task.schedule)) ∧
          ((statement.run now rows).1.map OutboxRow.id).Nodup) := by
  cases statement with
  | publish typeName event tasks =>
    obtain ⟨accepted, ⟨unchanged, none⟩ | ⟨inserted, reported, keyed⟩⟩ :=
      publish_cases typeName sane tasks
    · refine ⟨accepted, .inl ?_⟩
      rw [unchanged, none]
      exact .unchanged now finish rows
    · exact ⟨accepted, .inr ⟨typeName, event, tasks, rfl, sane, inserted, reported, keyed⟩⟩
  | claim format owner limit lease anchor locked grants =>
    have moved := claim_moved checks distinct ordered format owner limit lease anchor locked grants
    exact ⟨moved.1, .inl moved.2⟩
  | settle task request reading =>
    have moved := settle_moved checks distinct ordered task request reading
    exact ⟨moved.1, .inl moved.2⟩
  | recoverExpired limit locked redeliveries =>
    have moved := recoverExpired_moved checks distinct limit locked redeliveries sane
    exact ⟨moved.1, .inl moved.2⟩
  | requeue id =>
    have moved := requeue_moved checks distinct ordered id
    exact ⟨moved.1, .inl moved.2⟩

/-- Only a requeue reports one. -/
theorem OutboxStatement.requeued_of_mem {statement : OutboxStatement Value} {id : Uuid}
    {at_ : DateTime} (reported : (id, .requeued at_) ∈ statement.transitions now rows) :
    statement = .requeue id := by
  unfold transitions at reported
  split at reported
  · obtain ⟨task, _, same⟩ := List.mem_map.mp reported
    cases (Prod.mk.inj same).2
  · obtain ⟨task, _, same⟩ := List.mem_map.mp reported
    cases (Prod.mk.inj same).2
  · split at reported
    · cases reported
    · cases (Prod.mk.inj (List.mem_singleton.mp reported)).2
  · obtain ⟨row, _, same⟩ := List.mem_map.mp reported
    cases (Prod.mk.inj same).2
  · obtain ⟨row, found, same⟩ := List.mem_map.mp reported
    rw [← (Prod.mk.inj same).1, (of_decide_eq_true (List.mem_filter.mp found).2).1]
  · cases reported

theorem tracked_step {clock : DateTime} {s t : OutboxState Value} {action : OutboxAction Value}
    (tracked : Tracked s) (stepped : (outboxMachine Value clock).step s action = some t) :
    Tracked t := by
  simp only [outboxMachine] at stepped
  split at stepped
  · rename_i allowed
    obtain ⟨started, ordered, sane⟩ := allowed
    obtain rfl := Option.some.inj stepped
    obtain ⟨_, moved | ⟨typeName, event, tasks, _, positive, inserted, reported, keyed⟩⟩ :=
      OutboxStatement.run_cases tracked.checks tracked.distinct ordered sane
    · exact tracked.moved started ordered moved
    · rw [inserted] at keyed ⊢
      rw [reported]
      exact tracked.published started ordered positive keyed
  · cases stepped

theorem tracked_reachable {clock : DateTime} {s : OutboxState Value}
    (reached : (outboxMachine Value clock).Reachable s) : Tracked s := by
  refine reached.invariant (P := Tracked) ?_ fun _ _ _ _ tracked stepped =>
    tracked_step tracked stepped
  show Tracked ⟨[], clock, []⟩
  exact ⟨List.nodup_nil, fun _ => nofun, fun _ => nofun, fun _ => nofun⟩

/-- What one step does to a row that was there before it. -/
theorem Tracked.row_step {clock : DateTime} {s t : OutboxState Value}
    {action : OutboxAction Value} (tracked : Tracked s)
    (stepped : (outboxMachine Value clock).step s action = some t) {row : OutboxRow Value}
    (member : row ∈ s.rows) :
    row ∈ t.rows ∨ ∃ transition next, next ∈ t.rows ∧ transition.Applies row next ∧
      (row.id, transition) ∈ action.statement.transitions action.now s.rows := by
  simp only [outboxMachine] at stepped
  split at stepped
  · rename_i allowed
    obtain ⟨started, ordered, sane⟩ := allowed
    obtain rfl := Option.some.inj stepped
    obtain ⟨_, moved | ⟨typeName, event, tasks, _, _, inserted, _, _⟩⟩ :=
      OutboxStatement.run_cases tracked.checks tracked.distinct ordered sane
    · obtain ⟨assign, assigned, moves⟩ := moved.assigned
      have present : assign row ∈ (action.statement.run action.now s.rows).1 := by
        rw [assigned]
        exact List.mem_map_of_mem member
      rcases moves row member with ⟨same, _⟩ | ⟨transition, one, applies⟩
      · rw [same] at present
        exact .inl present
      · refine .inr ⟨transition, assign row, present, applies, mem_entries ?_⟩
        rw [one]
        exact List.mem_singleton.mpr rfl
    · refine .inl ?_
      show row ∈ (action.statement.run action.now s.rows).1
      rw [inserted]
      exact List.mem_append_left _ member
  · cases stepped

/-- **Over a whole run** a row keeps its identity, and a completed row everything. -/
theorem Tracked.row_run {clock : DateTime} {s t : OutboxState Value}
    {actions : List (OutboxAction Value)} (tracked : Tracked s)
    (ran : (outboxMachine Value clock).run s actions = some t) {row : OutboxRow Value}
    (member : row ∈ s.rows) :
    ∃ next ∈ t.rows, next.identity = row.identity ∧ (row.status = .completed → next = row) := by
  induction actions generalizing s row with
  | nil =>
    obtain rfl := Option.some.inj ran
    exact ⟨row, member, rfl, fun _ => rfl⟩
  | cons action rest ih =>
    obtain ⟨middle, stepped, ran⟩ := Machine.run_cons ran
    have kept := tracked_step tracked stepped
    rcases tracked.row_step stepped member with same | ⟨transition, next, present, applies, _⟩
    · exact ih kept ran same
    · obtain ⟨final, found, identity, _⟩ := ih kept ran present
      exact ⟨final, found, identity.trans applies.identity,
        fun completed => absurd completed applies.finished.1⟩

/-- **The lifecycle of the outbox.** In every reachable table: all constraints hold, and every
statement is accepted and keeps them; the attempts of a row are its claims since publication or
requeue, within its limit; over any run a row keeps its identity, and a completed row stays as it
is; a failed row is left only by a requeue; and every claim is timely. -/
theorem outbox_lifecycle (clock : DateTime) {s : OutboxState Value}
    (reached : (outboxMachine Value clock).Reachable s) :
    (∀ row ∈ s.rows, row.Checks) ∧
    (∀ (statement : OutboxStatement Value) (now finish : DateTime), s.clock ≤ now → now ≤ finish →
      statement.Sane now finish s.rows →
      (statement.run now s.rows).2.Accepted ∧ ∀ row ∈ (statement.run now s.rows).1, row.Checks) ∧
    (∀ row ∈ s.rows, row.attempts = claimsSince (entries row.id s.history) ∧
      row.attempts ≤ row.maxAttempts) ∧
    (∀ actions t, (outboxMachine Value clock).run s actions = some t → ∀ row ∈ s.rows,
      ∃ next ∈ t.rows, next.identity = row.identity ∧ (row.status = .completed → next = row)) ∧
    (∀ action t, (outboxMachine Value clock).step s action = some t → ∀ row ∈ s.rows,
      row.status = .failed → row ∈ t.rows ∨ action.statement = .requeue row.id) ∧
    ∀ id, ClaimsTimely (entries id s.history) := by
  have tracked := tracked_reachable reached
  refine ⟨tracked.checks, fun statement now finish started ordered sane => ?_,
    fun row member => ?_, fun actions t ran row member => tracked.row_run ran member,
    fun action t stepped row member failed => ?_, fun id => ?_⟩
  · have stepped : (outboxMachine Value clock).step s ⟨now, finish, statement⟩ = some _ :=
      if_pos ⟨started, ordered, sane⟩
    exact ⟨(OutboxStatement.run_cases tracked.checks tracked.distinct ordered sane).1,
      (tracked_step tracked stepped).checks⟩
  · exact ⟨(tracked.lives row member).attempts_eq, (tracked.checks row member).withinLimit⟩
  · rcases tracked.row_step stepped member with same | ⟨transition, next, _, applies, reported⟩
    · exact .inl same
    · obtain ⟨at_, rfl, _⟩ := applies.finished.2 failed
      exact .inr (OutboxStatement.requeued_of_mem reported)
  · by_cases present : id ∈ s.rows.map OutboxRow.id
    · obtain ⟨row, member, rfl⟩ := List.mem_map.mp present
      exact (tracked.lives row member).timely
    · have none : entries id s.history = [] :=
        entries_eq_nil fun entry found same => present (same ▸ tracked.known entry found)
      rw [none]
      intro earlier now token later split
      exact absurd split (by simp)

end Table

/-! ### Runs of the table -/

/-- The event of the examples. -/
def mailEvent : SerializedEvent (Store.PlainValue Nat Nat) :=
  ⟨"7", 1, "user_account", "event", "1", .object, .object⟩

def claimOne (token : Uuid) : OutboxStatement (Store.PlainValue Nat Nat) :=
  .claim mailFormat "worker" 1 (.fromSecs 60) 0 (fun _ => false) fun _ => ⟨token, 0⟩

/-- A task of five milliseconds that is delivered, retried after a millisecond and delivered again,
and a task with a time of its own. -/
def redelivered : List (OutboxAction (Store.PlainValue Nat Nat)) :=
  let delivery : LeasedTask (Store.PlainValue Nat Nat) :=
    ⟨⟨1, mailFormat, .object, .object, 1, Store.PlainValue.isObject_object,
      Store.PlainValue.isObject_object, Int.zero_lt_one⟩, ⟨7, 0⟩⟩
  [⟨0, 0, .publish "user_account" mailEvent
      [mailTask 1 (.after (.fromMillis 5)) (by decide), mailTask 2 (.at 7000000) trivial]⟩,
    ⟨5000000, 5000000, claimOne 7⟩,
    ⟨5000002, 5000002, .settle delivery (.retry (.fromMillis 1) "busy") 5000002⟩,
    ⟨7000000, 7000000, claimOne 8⟩,
    ⟨7000001, 7000001, claimOne 9⟩]

theorem outbox_lifecycle_redelivered :
    let s := (outboxMachine (Store.PlainValue Nat Nat) 0).after redelivered (by decide +kernel)
    entries 1 s.history = [.published 0 (.after (.fromMillis 5)), .claimed 5000000 7,
        .settled 5000002 7 (.retry (.fromMillis 1) "busy"), .claimed 7000000 8] ∧
      entries 2 s.history = [.published 0 (.at 7000000), .claimed 7000001 9] ∧
      (∀ row ∈ s.rows, row.attempts = claimsSince (entries row.id s.history) ∧
        row.attempts ≤ row.maxAttempts) ∧
      DelayKept (.fromMillis 5) ∧ DelayKept (.fromMillis 1) ∧
      ∀ id, ClaimsTimely (entries id s.history) := by
  intro s
  obtain ⟨_, _, counted, _, _, timely⟩ :=
    outbox_lifecycle 0 (Machine.reachable_after redelivered (by decide +kernel))
  exact ⟨by decide +kernel, by decide +kernel, counted, delayKept_of_le (by decide),
    delayKept_of_le (by decide), timely⟩

/-- A delay that is no double in milliseconds. -/
def longDelay : Duration := .fromMillis 9007199254740993

/-- **A task that is claimed a millisecond before its time.** -/
theorem claimed_early :
    let run : List (OutboxAction (Store.PlainValue Nat Nat)) :=
      [⟨0, 0, .publish "user_account" mailEvent [mailTask 1 (.after longDelay) (by decide)]⟩,
        ⟨9007199254740992000000, 9007199254740992000000, claimOne 7⟩]
    let s := (outboxMachine (Store.PlainValue Nat Nat) 0).after run (by decide +kernel)
    entries 1 s.history
        = [.published 0 (.after longDelay), .claimed 9007199254740992000000 7] ∧
      requestedTime (.after longDelay) 0 = 9007199254740993000000 := by
  decide +kernel

end AccountManagement.Outbox
