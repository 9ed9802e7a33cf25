/-
**The statements of the task queue.**

`claim`, `settle` and `recover_expired` of the queue adapter and the manual requeue, each as one
step on the rows of the outbox: the checks before the statement, the rows it selects, what it
assigns, and what the adapter makes of the returned rows. An UPDATE whose new rows violate a CHECK
constraint fails, and a transaction that is dropped leaves no trace. Timestamps, tokens, jitter and
the rows other transactions hold locked are parameters.

`claim_cases`, `settle_cases`, `recoverExpired_cases`, `requeue_ok`: everything each statement does
to rows that meet the constraints. None of them is rejected there, and none meets an invalid
delivery.
-/

import AccountManagement.Outbox.Row
import AccountManagement.Store.WritePlan
import Mathlib.Data.List.Sort
import Mathlib.Data.List.Nodup

namespace AccountManagement.Outbox

open AccountManagement.Library AccountManagement.Task
open AccountManagement.Store (SqlxError)

section Statements

variable {Value : Type}

/-! ### Selecting and updating rows -/

/-- ORDER BY a time and the id. -/
def earlier (time : OutboxRow Value → DateTime) (first second : OutboxRow Value) : Prop :=
  time first < time second ∨ (time first = time second ∧ first.id.toNat ≤ second.id.toNat)

instance (time : OutboxRow Value → DateTime) (first second : OutboxRow Value) :
    Decidable (earlier time first second) :=
  inferInstanceAs (Decidable (_ ∨ _))

/-- SELECT ... WHERE ... ORDER BY ... LIMIT ... FOR UPDATE SKIP LOCKED. -/
def selectRows (condition : OutboxRow Value → Bool) (time : OutboxRow Value → DateTime)
    (limit : Nat) (locked : Uuid → Bool) (rows : List (OutboxRow Value)) :
    List (OutboxRow Value) :=
  ((rows.filter fun row => condition row && !locked row.id).insertionSort (earlier time)).take limit

/-- The rows with those under the given ids assigned anew. -/
def assignRows (ids : List Uuid) (assign : OutboxRow Value → OutboxRow Value)
    (rows : List (OutboxRow Value)) : List (OutboxRow Value) :=
  rows.map fun row => if row.id ∈ ids then assign row else row

/-- UPDATE: the assigned rows must meet the constraints of the table. -/
def updateRows [JsonValue Value] (ids : List Uuid) (assign : OutboxRow Value → OutboxRow Value)
    (rows : List (OutboxRow Value)) : Except SqlxError (List (OutboxRow Value)) :=
  if ∀ row ∈ rows, row.id ∈ ids → (assign row).Checks then .ok (assignRows ids assign rows)
  else .error .outboxCheck

/-! ### Claim -/

/-- What the database generates for a claimed row: its token, and its reading of the clock. -/
structure Grant where
  token : Uuid
  reading : DateTime

/-- The ready rows of a format. -/
def isReady (format : TaskFormat) (now : DateTime) (row : OutboxRow Value) : Bool :=
  row.status = .pending ∧ row.taskType = format.taskType ∧ row.taskVersion = format.taskVersion ∧
    row.availableAt ≤ now

def readyRows (format : TaskFormat) (now : DateTime) (limit : Nat) (locked : Uuid → Bool)
    (rows : List (OutboxRow Value)) : List (OutboxRow Value) :=
  selectRows (isReady format now) OutboxRow.availableAt limit locked rows

def grantedRow (owner : String) (millis : Nat) (grants : Uuid → Grant) (row : OutboxRow Value) :
    OutboxRow Value :=
  row.claimed owner (grants row.id).token (afterMillis (grants row.id).reading millis)

variable [JsonValue Value]

def intoClaimedTask (format : TaskFormat) (deadline : Instant) (token : Uuid)
    (row : OutboxRow Value) : Except TaskProcessingError (LeasedTask Value) :=
  match TaskAttempt.new row.id format row.payload row.metadata row.attempts with
  | .error _ => .error .invalidDelivery
  | .ok delivery => .ok ⟨delivery, ⟨token, deadline⟩⟩

/-- The deliveries of the returned rows, in their order. -/
def intoClaimedTasks (format : TaskFormat) (deadline : Instant) (grants : Uuid → Grant) :
    List (OutboxRow Value) → Except TaskProcessingError (List (LeasedTask Value))
  | [] => .ok []
  | row :: rest => do
    let task ← intoClaimedTask format deadline (grants row.id).token row
    let tasks ← intoClaimedTasks format deadline grants rest
    return task :: tasks

/-- The transaction of a claim, after the checks of its arguments. -/
def claimTransaction (format : TaskFormat) (owner : String) (limit millis : Nat)
    (deadline : Instant) (now : DateTime) (locked : Uuid → Bool) (grants : Uuid → Grant)
    (rows : List (OutboxRow Value)) :
    List (OutboxRow Value) × Except TaskProcessingError (List (LeasedTask Value)) :=
  let ready := readyRows format now limit locked rows
  match updateRows (ready.map OutboxRow.id) (grantedRow owner millis grants) rows with
  | .error _ => (rows, .error .unavailable)
  | .ok updated =>
    match intoClaimedTasks format deadline grants (ready.map (grantedRow owner millis grants)) with
    | .error error => (rows, .error error)
    | .ok tasks => (updated, .ok tasks)

/-- A claim at the local instant `anchor`, read before the transaction begins. -/
def claim (format : TaskFormat) (owner : String) (limit : Nat) (lease : Duration)
    (anchor : Instant) (now : DateTime) (locked : Uuid → Bool) (grants : Uuid → Grant)
    (rows : List (OutboxRow Value)) :
    List (OutboxRow Value) × Except TaskProcessingError (List (LeasedTask Value)) :=
  if lease.asMillis = 0 then (rows, .error (.invalidRequest .invalidLeaseDuration))
  else
    match anchor.checkedAdd lease with
    | none => (rows, .error (.invalidRequest .invalidLeaseDuration))
    | some deadline =>
      if limit > 2 ^ 63 - 1 then (rows, .error (.invalidRequest .invalidLimit))
      else
        match milliseconds lease .invalidLeaseDuration with
        | .error error => (rows, .error error)
        | .ok millis =>
          claimTransaction format owner limit millis deadline now locked grants rows

/-! ### Settlement -/

/-- The row a settlement addresses. -/
def isOwned (id token : Uuid) (row : OutboxRow Value) : Bool :=
  row.id = id ∧ row.lockToken = some token ∧ row.status = .processing

/-- Whether the lease of a locked row is still running at a reading of the clock. -/
def isRunning (reading : DateTime) (row : OutboxRow Value) : Bool :=
  row.lockedUntil.any (reading < ·)

/-- The locked row, if its lease is still running. -/
def ownedRows (id token : Uuid) (reading : DateTime) (rows : List (OutboxRow Value)) :
    List (OutboxRow Value) :=
  rows.filter fun row => isOwned id token row && isRunning reading row

def settlementResult (delivery : TaskAttempt Value) (status : Option TaskStatus)
    (failureCause : Option TaskFailureCause) : Except TaskProcessingError SettlementResult :=
  match status with
  | none => .ok .ownershipLost
  | some .completed => .ok .completed
  | some .pending => .ok .retryScheduled
  | some .failed =>
    match failureCause with
    | none => .error .invalidDelivery
    | some cause => .ok (.failed ⟨delivery.id, delivery.format, delivery.number, cause⟩)
  | some .processing => .error .invalidDelivery

/-- A settlement: `now` is the statement's timestamp, `reading` the clock when the locked row is
checked. -/
def settle (task : LeasedTask Value) (request : SettlementRequest) (now reading : DateTime)
    (rows : List (OutboxRow Value)) :
    List (OutboxRow Value) × Except TaskProcessingError SettlementResult :=
  let parameters := settlementParameters request
  match milliseconds parameters.delay .invalidRetryDelay with
  | .error error => (rows, .error error)
  | .ok _ =>
    let owned := ownedRows task.attempt.id task.lease.lockToken reading rows
    match updateRows (owned.map OutboxRow.id) (fun row => row.settled request now) rows with
    | .error _ => (rows, .error .unavailable)
    | .ok updated =>
      (updated, settlementResult task.attempt
        (owned.head?.map fun row => (row.settled request now).status) parameters.failureCause)

/-! ### Recovery -/

/-- A row whose lease has expired. -/
def isExpired (now : DateTime) (row : OutboxRow Value) : Bool :=
  row.status = .processing ∧ row.lockedUntil.any (· ≤ now)

def expiredRows (now : DateTime) (limit : Nat) (locked : Uuid → Bool)
    (rows : List (OutboxRow Value)) : List (OutboxRow Value) :=
  selectRows (isExpired now) (fun row => row.lockedUntil.getD 0) limit locked rows

def intoFailure (row : OutboxRow Value) : Except TaskProcessingError TaskFailure :=
  match TaskFormat.new row.taskType row.taskVersion with
  | .error _ => .error .invalidDelivery
  | .ok format => .ok ⟨row.id, format, row.attempts, .leaseExpired⟩

/-- The jitter and the timestamp of one UPDATE of a recovery. -/
structure Redelivery where
  jitter : Jitter
  timestamp : DateTime

def Redelivery.delay (redelivery : Redelivery) (attempts : Int) : Duration :=
  redeliveryBackoff attempts redelivery.jitter

/-- The loop over the expired rows: one UPDATE for each, and the failures collected. -/
def recoverRows (redeliveries : Uuid → Redelivery) : List (OutboxRow Value) →
    List (OutboxRow Value) → List TaskFailure →
    Except TaskProcessingError (List (OutboxRow Value) × List TaskFailure)
  | [], rows, failed => .ok (rows, failed)
  | row :: rest, rows, failed => do
    let delay := (redeliveries row.id).delay row.attempts
    let _ ← milliseconds delay .invalidRetryDelay
    let updated ← (updateRows [row.id]
      (fun current => current.recovered delay (redeliveries row.id).timestamp) rows).mapError
        fun _ => .unavailable
    if row.attempts ≥ row.maxAttempts then
      let failure ← intoFailure row
      recoverRows redeliveries rest updated (failed ++ [failure])
    else
      recoverRows redeliveries rest updated failed

def recoverExpired (limit : Nat) (now : DateTime) (locked : Uuid → Bool)
    (redeliveries : Uuid → Redelivery) (rows : List (OutboxRow Value)) :
    List (OutboxRow Value) × Except TaskProcessingError LeaseRecoveryReport :=
  if limit > 2 ^ 63 - 1 then (rows, .error (.invalidRequest .invalidLimit))
  else
    let expired := expiredRows now limit locked rows
    match recoverRows redeliveries expired rows [] with
    | .error error => (rows, .error error)
    | .ok (updated, failed) => (updated, .ok ⟨expired.length - failed.length, failed⟩)

/-! ### Manual requeue -/

def isFailed (id : Uuid) (row : OutboxRow Value) : Bool := row.id = id ∧ row.status = .failed

def failedRows (id : Uuid) (rows : List (OutboxRow Value)) : List (OutboxRow Value) :=
  rows.filter (isFailed id)

def requeue (id : Uuid) (now : DateTime) (rows : List (OutboxRow Value)) :
    Except SqlxError (List (OutboxRow Value)) :=
  updateRows ((failedRows id rows).map OutboxRow.id) (fun row => row.requeued now) rows

/-! ### What is selected and assigned -/

omit [JsonValue Value] in
theorem mem_selectRows {condition : OutboxRow Value → Bool} {time : OutboxRow Value → DateTime}
    {limit : Nat} {locked : Uuid → Bool} {rows : List (OutboxRow Value)} {row : OutboxRow Value}
    (selected : row ∈ selectRows condition time limit locked rows) :
    row ∈ rows ∧ condition row = true := by
  have sorted := (List.mem_insertionSort _).mp (List.mem_of_mem_take selected)
  obtain ⟨member, met⟩ := List.mem_filter.mp sorted
  exact ⟨member, (Bool.and_eq_true_iff.mp met).1⟩

omit [JsonValue Value] in
theorem nodup_selectRows {condition : OutboxRow Value → Bool} {time : OutboxRow Value → DateTime}
    {limit : Nat} {locked : Uuid → Bool} {rows : List (OutboxRow Value)}
    (distinct : (rows.map OutboxRow.id).Nodup) :
    ((selectRows condition time limit locked rows).map OutboxRow.id).Nodup := by
  refine List.Nodup.sublist ((List.take_sublist limit _).map _) ?_
  refine (((List.perm_insertionSort _ _).map OutboxRow.id).nodup_iff).mpr ?_
  exact distinct.sublist (List.filter_sublist.map _)

theorem updateRows_ok {ids : List Uuid} {assign : OutboxRow Value → OutboxRow Value}
    {rows : List (OutboxRow Value)}
    (checked : ∀ row ∈ rows, row.id ∈ ids → (assign row).Checks) :
    updateRows ids assign rows = .ok (assignRows ids assign rows) :=
  if_pos checked

omit [JsonValue Value] in
/-- The selected row of an id is the row of that id. -/
theorem mem_of_id_mem {selected rows : List (OutboxRow Value)}
    (distinct : (rows.map OutboxRow.id).Nodup) (inside : ∀ row ∈ selected, row ∈ rows)
    {row : OutboxRow Value} (member : row ∈ rows) (found : row.id ∈ selected.map OutboxRow.id) :
    row ∈ selected := by
  obtain ⟨other, chosen, same⟩ := List.mem_map.mp found
  rw [← List.inj_on_of_nodup_map distinct (inside other chosen) member same]
  exact chosen

/-! ### What a claim does -/

/-- A delivery carries the identity, the data and the new attempt number of its row. -/
structure Delivered (format : TaskFormat) (deadline : Instant) (grants : Uuid → Grant)
    (row : OutboxRow Value) (task : LeasedTask Value) : Prop where
  id : task.attempt.id = row.id
  format : task.attempt.format = format
  payload : task.attempt.payload = row.payload
  metadata : task.attempt.metadata = row.metadata
  number : task.attempt.number = row.attempts + 1
  lease : task.lease = ⟨(grants row.id).token, deadline⟩

theorem intoClaimedTask_ok {row : OutboxRow Value} (checks : row.Checks) (format : TaskFormat)
    (deadline : Instant) (owner : String) (millis : Nat) (grants : Uuid → Grant) :
    ∃ task, intoClaimedTask format deadline (grants row.id).token
      (grantedRow owner millis grants row) = .ok task ∧
        Delivered format deadline grants row task := by
  have positive : 0 < row.attempts + 1 := by
    have := checks.attemptsNonnegative
    omega
  have accepted : TaskAttempt.new row.id format row.payload row.metadata (row.attempts + 1)
      = .ok ⟨row.id, format, row.payload, row.metadata, row.attempts + 1, checks.payloadObject,
        checks.metadataObject, positive⟩ :=
    TaskAttempt.new_ok checks.payloadObject checks.metadataObject positive
  refine ⟨⟨⟨row.id, format, row.payload, row.metadata, row.attempts + 1, checks.payloadObject,
    checks.metadataObject, positive⟩, ⟨(grants row.id).token, deadline⟩⟩, ?_,
    ⟨rfl, rfl, rfl, rfl, rfl, rfl⟩⟩
  show (match TaskAttempt.new row.id format row.payload row.metadata (row.attempts + 1) with
    | .error _ => _
    | .ok delivery => _) = _
  rw [accepted]

/-- A delivery carries the data of its row, under the token and the deadline it was made with. -/
theorem intoClaimedTask_fields {format : TaskFormat} {deadline : Instant} {token : Uuid}
    {row : OutboxRow Value} {task : LeasedTask Value}
    (made : intoClaimedTask format deadline token row = .ok task) :
    task.attempt.MadeFrom row.id format row.payload row.metadata row.attempts ∧
      task.lease = ⟨token, deadline⟩ := by
  unfold intoClaimedTask at made
  split at made
  · cases made
  · rename_i delivery accepted
    obtain rfl := Except.ok.inj made
    exact ⟨TaskAttempt.new_fields accepted, rfl⟩

theorem intoClaimedTasks_ok {ready : List (OutboxRow Value)} (checks : ∀ row ∈ ready, row.Checks)
    (format : TaskFormat) (deadline : Instant) (owner : String) (millis : Nat)
    (grants : Uuid → Grant) :
    ∃ tasks, intoClaimedTasks format deadline grants (ready.map (grantedRow owner millis grants))
      = .ok tasks ∧ List.Forall₂ (Delivered format deadline grants) ready tasks := by
  induction ready with
  | nil => exact ⟨[], rfl, .nil⟩
  | cons row rest ih =>
    obtain ⟨tasks, converted, delivered⟩ :=
      ih fun row member => checks row (List.mem_cons_of_mem _ member)
    obtain ⟨task, made, first⟩ :=
      intoClaimedTask_ok (checks row List.mem_cons_self) format deadline owner millis grants
    refine ⟨task :: tasks, ?_, .cons first delivered⟩
    show (intoClaimedTask format deadline (grants row.id).token
      (grantedRow owner millis grants row)).bind _ = _
    rw [made]
    show (intoClaimedTasks format deadline grants
      (rest.map (grantedRow owner millis grants))).bind _ = _
    rw [converted]
    rfl

/-- **Everything a claim does** to rows that meet the constraints: it rejects its arguments, or it
grants and delivers every ready row. -/
theorem claim_cases {rows : List (OutboxRow Value)} (checks : ∀ row ∈ rows, row.Checks)
    (distinct : (rows.map OutboxRow.id).Nodup) (format : TaskFormat) (owner : String) (limit : Nat)
    (lease : Duration) (anchor : Instant) (now : DateTime) (locked : Uuid → Bool)
    (grants : Uuid → Grant) :
    (∃ reason, claim format owner limit lease anchor now locked grants rows
      = (rows, .error (.invalidRequest reason))) ∨
    ∃ deadline tasks, anchor.checkedAdd lease = some deadline ∧ lease.asMillis ≠ 0 ∧
      claim format owner limit lease anchor now locked grants rows
        = (assignRows ((readyRows format now limit locked rows).map OutboxRow.id)
            (grantedRow owner (millisAsDouble lease) grants) rows, .ok tasks) ∧
      List.Forall₂ (Delivered format deadline grants) (readyRows format now limit locked rows)
        tasks := by
  unfold claim
  split
  · exact .inl ⟨_, rfl⟩
  · rename_i positive
    split
    · exact .inl ⟨_, rfl⟩
    · rename_i deadline added
      split
      · exact .inl ⟨_, rfl⟩
      · by_cases fits : lease.asMillis ≤ 2 ^ 63 - 1
        · have whole : milliseconds lease .invalidLeaseDuration = .ok (millisAsDouble lease) :=
            if_pos fits
          have ready : ∀ row ∈ readyRows format now limit locked rows,
              row ∈ rows ∧ isReady format now row = true := fun row => mem_selectRows
          have updated : updateRows ((readyRows format now limit locked rows).map OutboxRow.id)
              (grantedRow owner (millisAsDouble lease) grants) rows
              = .ok (assignRows ((readyRows format now limit locked rows).map OutboxRow.id)
                (grantedRow owner (millisAsDouble lease) grants) rows) := by
            refine updateRows_ok fun row member selected => ?_
            have chosen := mem_of_id_mem distinct (fun row found => (ready row found).1) member
              selected
            exact OutboxRow.claimed_checks (checks row member)
              (of_decide_eq_true (ready row chosen).2).1 _ _ _
          obtain ⟨tasks, converted, delivered⟩ := intoClaimedTasks_ok
            (fun row found => checks row (ready row found).1) format deadline owner
            (millisAsDouble lease) grants
          refine .inr ⟨deadline, tasks, added, positive, ?_, delivered⟩
          simp only [whole, claimTransaction, updated, converted]
        · have tooLong : milliseconds lease .invalidLeaseDuration
              = .error (.invalidRequest .invalidLeaseDuration) := if_neg fits
          simp only [tooLong]
          exact .inl ⟨_, rfl⟩

/-! ### What a settlement does -/

/-- The status a settlement leaves is one of the three that its answer can report. -/
theorem settlementResult_settled (delivery : TaskAttempt Value) (row : OutboxRow Value)
    (request : SettlementRequest) (now : DateTime) :
    ∃ result, settlementResult delivery (some (row.settled request now).status)
        (settlementParameters request).failureCause = .ok result ∧
      result ≠ .ownershipLost ∧
      (result = .completed ↔ request = .completed) := by
  cases request with
  | completed => exact ⟨.completed, rfl, by simp, by simp⟩
  | failed reason => exact ⟨_, rfl, by simp, by simp⟩
  | retry delay reason =>
    by_cases exhausted : row.attempts ≥ row.maxAttempts
    · have status : (row.settled (.retry delay reason) now).status = .failed := by
        simp [OutboxRow.settled, settlementParameters, exhausted]
      rw [status]
      exact ⟨_, rfl, by simp, by simp⟩
    · have status : (row.settled (.retry delay reason) now).status = .pending := by
        simp [OutboxRow.settled, settlementParameters, exhausted]
      rw [status]
      exact ⟨_, rfl, by simp, by simp⟩

omit [JsonValue Value] in
/-- At most one row is owned: its id is the key. -/
theorem ownedRows_cases {rows : List (OutboxRow Value)} (distinct : (rows.map OutboxRow.id).Nodup)
    (id token : Uuid) (reading : DateTime) :
    ownedRows id token reading rows = [] ∨
      ∃ row ∈ rows, isOwned id token row = true ∧ isRunning reading row = true ∧
        ownedRows id token reading rows = [row] := by
  have keyed : (ownedRows id token reading rows).map OutboxRow.id
      = List.replicate (ownedRows id token reading rows).length id := by
    refine List.eq_replicate_iff.mpr ⟨List.length_map _, fun key member => ?_⟩
    obtain ⟨row, found, rfl⟩ := List.mem_map.mp member
    obtain ⟨owned, _⟩ := Bool.and_eq_true_iff.mp (List.mem_filter.mp found).2
    exact (of_decide_eq_true owned).1
  have atMost : (ownedRows id token reading rows).length ≤ 1 := by
    rw [← List.nodup_replicate (a := id), ← keyed]
    exact distinct.sublist (List.filter_sublist.map _)
  rcases Nat.le_one_iff_eq_zero_or_eq_one.mp atMost with none | one
  · exact .inl (List.length_eq_zero_iff.mp none)
  · obtain ⟨row, only⟩ := List.length_eq_one_iff.mp one
    have member : row ∈ ownedRows id token reading rows := by
      rw [only]
      exact List.mem_singleton.mpr rfl
    obtain ⟨inside, met⟩ := List.mem_filter.mp member
    obtain ⟨owned, running⟩ := Bool.and_eq_true_iff.mp met
    exact .inr ⟨row, inside, owned, running, only⟩

omit [JsonValue Value] in
theorem assignRows_nil (assign : OutboxRow Value → OutboxRow Value)
    (rows : List (OutboxRow Value)) : assignRows [] assign rows = rows := by
  unfold assignRows
  conv_rhs => rw [← List.map_id rows]
  exact List.map_congr_left fun row _ => if_neg List.not_mem_nil

/-- **Everything a settlement does** to rows that meet the constraints: it rejects a delay that
does not fit; it finds no running lease of its token and changes nothing; or it settles the row of
its token and says so. -/
theorem settle_cases {rows : List (OutboxRow Value)} (checks : ∀ row ∈ rows, row.Checks)
    (distinct : (rows.map OutboxRow.id).Nodup) (task : LeasedTask Value)
    (request : SettlementRequest) (now reading : DateTime) :
    (settle task request now reading rows
      = (rows, .error (.invalidRequest .invalidRetryDelay))) ∨
    (settle task request now reading rows = (rows, .ok .ownershipLost) ∧
      ownedRows task.attempt.id task.lease.lockToken reading rows = []) ∨
    ∃ row ∈ rows, isOwned task.attempt.id task.lease.lockToken row = true ∧
      isRunning reading row = true ∧
      ∃ result, settle task request now reading rows
          = (assignRows [row.id] (fun row => row.settled request now) rows, .ok result) ∧
        result ≠ .ownershipLost ∧ (result = .completed ↔ request = .completed) := by
  by_cases fits : (settlementParameters request).delay.asMillis ≤ 2 ^ 63 - 1
  · have whole : milliseconds (settlementParameters request).delay .invalidRetryDelay
        = .ok (millisAsDouble (settlementParameters request).delay) := if_pos fits
    have updated : ∀ ids, updateRows ids (fun row => row.settled request now) rows
        = .ok (assignRows ids (fun row => row.settled request now) rows) := fun ids =>
      updateRows_ok fun row member _ => OutboxRow.settled_checks (checks row member) request now
    have unfolded : settle task request now reading rows
        = (assignRows ((ownedRows task.attempt.id task.lease.lockToken reading rows).map
            OutboxRow.id) (fun row => row.settled request now) rows,
          settlementResult task.attempt
            ((ownedRows task.attempt.id task.lease.lockToken reading rows).head?.map
              fun row => (row.settled request now).status)
            (settlementParameters request).failureCause) := by
      unfold settle
      simp only [whole, updated]
    rw [unfolded]
    rcases ownedRows_cases distinct task.attempt.id task.lease.lockToken reading with
      none | ⟨row, member, owned, running, only⟩
    · rw [none, List.map_nil, assignRows_nil]
      exact .inr (.inl ⟨rfl, rfl⟩)
    · rw [only]
      obtain ⟨result, answered, applied, completed⟩ :=
        settlementResult_settled task.attempt row request now
      exact .inr (.inr ⟨row, member, owned, running, result, Prod.ext rfl answered, applied,
        completed⟩)
  · have tooLong : milliseconds (settlementParameters request).delay .invalidRetryDelay
        = .error (.invalidRequest .invalidRetryDelay) := if_neg fits
    refine .inl ?_
    unfold settle
    simp only [tooLong]

/-! ### What a recovery does -/

/-- The row as a recovery leaves it. -/
def recoveredRow (redeliveries : Uuid → Redelivery) (row : OutboxRow Value) : OutboxRow Value :=
  row.recovered ((redeliveries row.id).delay row.attempts) (redeliveries row.id).timestamp

/-- A reported failure names its row, its format and its last attempt. -/
structure Exhausted (row : OutboxRow Value) (failure : TaskFailure) : Prop where
  id : failure.id = row.id
  taskType : failure.format.taskType = row.taskType
  taskVersion : failure.format.taskVersion = row.taskVersion
  attempt : failure.attempt = row.attempts
  cause : failure.cause = .leaseExpired

omit [JsonValue Value] in
theorem intoFailure_exhausted {row : OutboxRow Value} {failure : TaskFailure}
    (made : intoFailure row = .ok failure) : Exhausted row failure := by
  unfold intoFailure at made
  split at made
  · cases made
  · rename_i format accepted
    obtain ⟨sameType, sameVersion⟩ := TaskFormat.new_fields accepted
    obtain rfl := Except.ok.inj made
    exact ⟨rfl, sameType, sameVersion, rfl, rfl⟩

theorem intoFailure_ok {row : OutboxRow Value} (checks : row.Checks) :
    ∃ failure, intoFailure row = .ok failure ∧ Exhausted row failure := by
  let format : TaskFormat :=
    ⟨row.taskType, row.taskVersion, checks.typeNonempty, checks.versionPositive⟩
  have accepted : TaskFormat.new row.taskType row.taskVersion = .ok format := format.new_self
  have made : intoFailure row = .ok ⟨row.id, format, row.attempts, .leaseExpired⟩ := by
    unfold intoFailure
    rw [accepted]
  exact ⟨_, made, intoFailure_exhausted made⟩

omit [JsonValue Value] in
/-- Recovering one row and then the rest is recovering all of them, when the first row is recovered
with the delay of its own attempts. -/
theorem assignRows_recovered {redeliveries : Uuid → Redelivery} {row : OutboxRow Value}
    {ids : List Uuid} {rows : List (OutboxRow Value)} (fresh : row.id ∉ ids)
    (same : ∀ current ∈ rows, current.id = row.id → current.attempts = row.attempts) :
    assignRows ids (recoveredRow redeliveries) (assignRows [row.id] (fun current =>
        current.recovered ((redeliveries row.id).delay row.attempts)
          (redeliveries row.id).timestamp) rows)
      = assignRows (row.id :: ids) (recoveredRow redeliveries) rows := by
  unfold assignRows
  rw [List.map_map]
  refine List.map_congr_left fun current member => ?_
  rw [Function.comp_apply]
  by_cases own : current.id = row.id
  · rw [if_pos (List.mem_singleton.mpr own), if_pos (List.mem_cons.mpr (.inl own))]
    have kept : (current.recovered ((redeliveries row.id).delay row.attempts)
        (redeliveries row.id).timestamp).id ∉ ids := fun inside => fresh (own ▸ inside)
    rw [if_neg kept, recoveredRow, own, same current member own]
  · rw [if_neg fun only => own (List.mem_singleton.mp only)]
    have rest : (current.id ∈ row.id :: ids) = (current.id ∈ ids) := by
      rw [List.mem_cons, eq_false own, false_or]
    simp only [rest]

/-- The first row is updated, and reported if it has no attempts left, before the others. -/
theorem recoverRows_cons (redeliveries : Uuid → Redelivery) (row : OutboxRow Value)
    (rest : List (OutboxRow Value)) {rows : List (OutboxRow Value)} (failed : List TaskFailure)
    (checks : ∀ row ∈ rows, row.Checks) :
    let updated := assignRows [row.id] (fun current => current.recovered
      ((redeliveries row.id).delay row.attempts) (redeliveries row.id).timestamp) rows
    recoverRows redeliveries (row :: rest) rows failed
      = if row.attempts ≥ row.maxAttempts then
          (intoFailure row).bind fun failure =>
            recoverRows redeliveries rest updated (failed ++ [failure])
        else recoverRows redeliveries rest updated failed := by
  intro updated
  have whole : milliseconds ((redeliveries row.id).delay row.attempts) .invalidRetryDelay
      = .ok (millisAsDouble ((redeliveries row.id).delay row.attempts)) :=
    milliseconds_redeliveryBackoff _ _ _
  have written : updateRows [row.id] (fun current => current.recovered
      ((redeliveries row.id).delay row.attempts) (redeliveries row.id).timestamp) rows
      = .ok updated :=
    updateRows_ok fun current member _ => OutboxRow.recovered_checks (checks current member) _ _
  show (milliseconds ((redeliveries row.id).delay row.attempts) .invalidRetryDelay).bind _ = _
  rw [whole]
  show ((updateRows [row.id] _ rows).mapError _).bind _ = _
  rw [written]
  rfl

/-- A recovery keeps the identity and the attempts of every row, and the constraints. -/
theorem mem_assignRows_recovered {ids : List Uuid} {delay : Duration} {now : DateTime}
    {rows : List (OutboxRow Value)} {current : OutboxRow Value}
    (member : current ∈ assignRows ids (fun row => row.recovered delay now) rows) :
    ∃ old ∈ rows, current.id = old.id ∧ current.attempts = old.attempts ∧
      (old.Checks → current.Checks) := by
  obtain ⟨old, found, rfl⟩ := List.mem_map.mp member
  refine ⟨old, found, ?_⟩
  split
  · exact ⟨rfl, rfl, fun checks => OutboxRow.recovered_checks checks _ _⟩
  · exact ⟨rfl, rfl, id⟩

/-- **The recovery loop** recovers every selected row and reports those without attempts left. -/
theorem recoverRows_ok (redeliveries : Uuid → Redelivery) {selected rows : List (OutboxRow Value)}
    (failed : List TaskFailure) (distinct : (selected.map OutboxRow.id).Nodup)
    (selectedChecks : ∀ row ∈ selected, row.Checks) (checks : ∀ row ∈ rows, row.Checks)
    (same : ∀ row ∈ selected, ∀ current ∈ rows, current.id = row.id →
      current.attempts = row.attempts) :
    ∃ failures, recoverRows redeliveries selected rows failed
        = .ok (assignRows (selected.map OutboxRow.id) (recoveredRow redeliveries) rows,
          failed ++ failures) ∧
      List.Forall₂ Exhausted (selected.filter fun row => row.attempts ≥ row.maxAttempts)
        failures := by
  induction selected generalizing rows failed with
  | nil =>
    refine ⟨[], ?_, .nil⟩
    rw [List.map_nil, assignRows_nil, List.append_nil]
    rfl
  | cons row rest ih =>
    obtain ⟨fresh, distinct⟩ := List.nodup_cons.mp distinct
    let updated := assignRows [row.id] (fun current => current.recovered
      ((redeliveries row.id).delay row.attempts) (redeliveries row.id).timestamp) rows
    have tail : ∀ failed, ∃ failures, recoverRows redeliveries rest updated failed
          = .ok (assignRows (rest.map OutboxRow.id) (recoveredRow redeliveries) updated,
            failed ++ failures) ∧
        List.Forall₂ Exhausted (rest.filter fun row => row.attempts ≥ row.maxAttempts)
          failures := by
      intro failed
      refine ih failed distinct
        (fun row member => selectedChecks row (List.mem_cons_of_mem _ member))
        (fun current member => ?_) (fun other member current present named => ?_)
      · obtain ⟨old, found, _, _, checked⟩ := mem_assignRows_recovered member
        exact checked (checks old found)
      · obtain ⟨old, found, sameId, sameAttempts, _⟩ := mem_assignRows_recovered present
        rw [sameAttempts]
        exact same other (List.mem_cons_of_mem _ member) old found (sameId.symm.trans named)
    have joined : assignRows (rest.map OutboxRow.id) (recoveredRow redeliveries) updated
        = assignRows ((row :: rest).map OutboxRow.id) (recoveredRow redeliveries) rows :=
      assignRows_recovered fresh (same row List.mem_cons_self)
    rw [recoverRows_cons redeliveries row rest failed checks]
    by_cases exhausted : row.attempts ≥ row.maxAttempts
    · obtain ⟨failure, made, named⟩ := intoFailure_ok (selectedChecks row List.mem_cons_self)
      obtain ⟨failures, recovered, reported⟩ := tail (failed ++ [failure])
      refine ⟨failure :: failures, ?_, ?_⟩
      · rw [if_pos exhausted, made]
        show recoverRows redeliveries rest updated (failed ++ [failure]) = _
        rw [recovered, joined, List.append_assoc, List.singleton_append]
      · rw [List.filter_cons, if_pos (decide_eq_true exhausted)]
        exact .cons named reported
    · obtain ⟨failures, recovered, reported⟩ := tail failed
      refine ⟨failures, ?_, ?_⟩
      · rw [if_neg exhausted, recovered, joined]
      · rw [List.filter_cons, if_neg fun yes => exhausted (of_decide_eq_true yes)]
        exact reported

/-- **Everything a recovery does** to rows that meet the constraints: it rejects its limit, or it
recovers every expired row it could lock. -/
theorem recoverExpired_cases {rows : List (OutboxRow Value)} (checks : ∀ row ∈ rows, row.Checks)
    (distinct : (rows.map OutboxRow.id).Nodup) (limit : Nat) (now : DateTime)
    (locked : Uuid → Bool) (redeliveries : Uuid → Redelivery) :
    recoverExpired limit now locked redeliveries rows
        = (rows, .error (.invalidRequest .invalidLimit)) ∨
      ∃ report, recoverExpired limit now locked redeliveries rows
          = (assignRows ((expiredRows now limit locked rows).map OutboxRow.id)
            (recoveredRow redeliveries) rows, .ok report) ∧
        List.Forall₂ Exhausted ((expiredRows now limit locked rows).filter
          fun row => row.attempts ≥ row.maxAttempts) report.failures := by
  unfold recoverExpired
  split
  · exact .inl rfl
  · have inside : ∀ row ∈ expiredRows now limit locked rows, row ∈ rows :=
      fun row found => (mem_selectRows found).1
    obtain ⟨failures, recovered, reported⟩ := recoverRows_ok redeliveries []
      (nodup_selectRows distinct) (fun row found => checks row (inside row found)) checks
      (fun row found current member sameId => by
        rw [List.inj_on_of_nodup_map distinct member (inside row found) sameId])
    rw [List.nil_append] at recovered
    refine .inr ⟨⟨(expiredRows now limit locked rows).length - failures.length, failures⟩, ?_,
      reported⟩
    simp only [recovered, expiredRows]

/-! ### What the statements leave -/

/-- A claim leaves the rows of other formats as they are. -/
theorem claim_spares {rows : List (OutboxRow Value)} (checks : ∀ row ∈ rows, row.Checks)
    (distinct : (rows.map OutboxRow.id).Nodup) {format : TaskFormat} (owner : String) (limit : Nat)
    (lease : Duration) (anchor : Instant) (now : DateTime) (locked : Uuid → Bool)
    (grants : Uuid → Grant) {row : OutboxRow Value} (member : row ∈ rows)
    (other : ¬ (row.taskType = format.taskType ∧ row.taskVersion = format.taskVersion)) :
    row ∈ (claim format owner limit lease anchor now locked grants rows).1 := by
  rcases claim_cases checks distinct format owner limit lease anchor now locked grants with
    ⟨reason, rejected⟩ | ⟨deadline, tasks, _, _, answered, _⟩
  · rw [rejected]
    exact member
  · rw [answered]
    refine List.mem_map.mpr ⟨row, member, if_neg fun selected => other ?_⟩
    have chosen := mem_of_id_mem distinct (fun row found => (mem_selectRows found).1) member selected
    obtain ⟨_, sameType, sameVersion, _⟩ := of_decide_eq_true (mem_selectRows chosen).2
    exact ⟨sameType, sameVersion⟩

omit [JsonValue Value] in
theorem assignRows_attempts (assign : OutboxRow Value → OutboxRow Value)
    (kept : ∀ row, (assign row).id = row.id ∧ (assign row).attempts = row.attempts)
    (ids : List Uuid) {rows : List (OutboxRow Value)} {row : OutboxRow Value}
    (member : row ∈ rows) :
    ∃ next ∈ assignRows ids assign rows, next.id = row.id ∧ next.attempts = row.attempts := by
  refine ⟨_, List.mem_map_of_mem member, ?_⟩
  split
  · exact kept row
  · exact ⟨rfl, rfl⟩

/-- A settlement keeps the attempts of every row. -/
theorem settle_attempts {rows : List (OutboxRow Value)} (checks : ∀ row ∈ rows, row.Checks)
    (distinct : (rows.map OutboxRow.id).Nodup) (task : LeasedTask Value)
    (request : SettlementRequest) (now reading : DateTime) {row : OutboxRow Value}
    (member : row ∈ rows) :
    ∃ next ∈ (settle task request now reading rows).1,
      next.id = row.id ∧ next.attempts = row.attempts := by
  rcases settle_cases checks distinct task request now reading with
    rejected | ⟨lost, _⟩ | ⟨_, _, _, _, _, settled, _⟩
  · rw [rejected]
    exact ⟨row, member, rfl, rfl⟩
  · rw [lost]
    exact ⟨row, member, rfl, rfl⟩
  · rw [settled]
    exact assignRows_attempts (fun row => row.settled request now) (fun _ => ⟨rfl, rfl⟩) _ member

/-- A recovery keeps the attempts of every row. -/
theorem recoverExpired_attempts {rows : List (OutboxRow Value)} (checks : ∀ row ∈ rows, row.Checks)
    (distinct : (rows.map OutboxRow.id).Nodup) (limit : Nat) (now : DateTime)
    (locked : Uuid → Bool) (redeliveries : Uuid → Redelivery) {row : OutboxRow Value}
    (member : row ∈ rows) :
    ∃ next ∈ (recoverExpired limit now locked redeliveries rows).1,
      next.id = row.id ∧ next.attempts = row.attempts := by
  rcases recoverExpired_cases checks distinct limit now locked redeliveries with
    rejected | ⟨_, recovered, _⟩
  · rw [rejected]
    exact ⟨row, member, rfl, rfl⟩
  · rw [recovered]
    exact assignRows_attempts (recoveredRow redeliveries) (fun _ => ⟨rfl, rfl⟩) _ member

/-- A requeue of failed rows is never rejected. -/
theorem requeue_ok {rows : List (OutboxRow Value)} (checks : ∀ row ∈ rows, row.Checks) (id : Uuid)
    (now : DateTime) :
    requeue id now rows
      = .ok (assignRows ((failedRows id rows).map OutboxRow.id) (fun row => row.requeued now)
        rows) :=
  updateRows_ok fun row member _ => OutboxRow.requeued_checks (checks row member) now

end Statements

end AccountManagement.Outbox
