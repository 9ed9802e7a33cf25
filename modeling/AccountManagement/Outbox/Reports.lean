/-
**What the calls of the queue report.**

A call that was committed has answered, and its answer says what the commit did to the rows. A
delivery in somebody's hands is of the row that holds its token, with the attempts of that row
(`HandedSound`), so a settlement can report the attempts without reading them. A recovery reports
the rows it has failed and counts the others.

* `reports_match_rows`: for any number of concurrent transactions, every answer of a settlement and
  of a recovery is what its commit did; whatever is not a commit changes no row; and over any run
  the rows that became failed are the failures that were reported, each once, by the call that
  failed it.
-/

import AccountManagement.Library.Results
import AccountManagement.Outbox.Fencing
import AccountManagement.Outbox.Rows

namespace AccountManagement.Outbox

open AccountManagement.Library AccountManagement.Task
open AccountManagement.Store (insertTasks_ok)

section Reports

variable {Value : Type} [JsonValue Value] {offset : String → Int} {clock : DateTime}
  {s t : QueueState Value}

/-! ### Deliveries -/

/-- A delivery of a claim that was committed, whether or not its reply arrived. -/
def Handed (s : QueueState Value) (task : LeasedTask Value) : Prop :=
  ∃ transaction ∈ s.transactions, ∃ tasks lost,
    transaction.phase = .committed (.claimed tasks) lost ∧ task ∈ tasks

/-- The deliveries of a transaction. -/
def Transaction.handedOut (transaction : Transaction Value) : List (LeasedTask Value) :=
  match transaction.phase with
  | .committed (.claimed tasks) _ => tasks
  | _ => []

theorem handed_iff {task : LeasedTask Value} :
    (∃ transaction ∈ s.transactions, task ∈ transaction.handedOut) ↔ Handed s task := by
  refine exists_congr fun transaction => and_congr_right fun _ => ?_
  unfold Transaction.handedOut
  split
  · rename_i tasks lost phase
    constructor
    · exact fun inside => ⟨tasks, lost, phase, inside⟩
    · rintro ⟨others, flag, same, inside⟩
      rw [phase] at same
      cases same
      exact inside
  · rename_i other
    refine iff_of_false List.not_mem_nil ?_
    rintro ⟨tasks, lost, same, _⟩
    exact other tasks lost same

instance [DecidableEq Value] (s : QueueState Value) (task : LeasedTask Value) :
    Decidable (Handed s task) :=
  decidable_of_iff _ handed_iff

/-- A delivery has the identity and the attempts of its row. -/
structure Matches (row : OutboxRow Value) (task : LeasedTask Value) : Prop where
  id : row.id = task.attempt.id
  taskType : row.taskType = task.attempt.format.taskType
  taskVersion : row.taskVersion = task.attempt.format.taskVersion
  attempts : row.attempts = task.attempt.number

/-- The token of a delivery was generated, is not being granted again, and is only in a row that
the delivery matches. -/
structure HandedSound (s : QueueState Value) (task : LeasedTask Value) : Prop where
  issued : task.lease.lockToken ∈ s.issued
  granted : ∀ lock ∈ s.locks, lock.granted ≠ some task.lease.lockToken
  row : ∀ row ∈ s.rows, row.lockToken = some task.lease.lockToken → Matches row task

/-- A row has the token that no other row and no grant in progress has. -/
theorem QueueSound.token_unique (sound : QueueSound offset s) {row other : OutboxRow Value}
    (member : row ∈ s.rows) (found : other ∈ s.rows) {token : Uuid}
    (held : row.lockToken = some token) (same : other.lockToken = some token) : row = other := by
  have distinct := (List.nodup_append.mp sound.tokens).1
  exact Keyed.eq_of_nodup_filterMap distinct member found held same

theorem QueueSound.token_granted (sound : QueueSound offset s) {row : OutboxRow Value}
    (member : row ∈ s.rows) {token : Uuid} (held : row.lockToken = some token) :
    token ∈ s.issued ∧ ∀ lock ∈ s.locks, lock.granted ≠ some token := by
  have inside : token ∈ s.rows.filterMap OutboxRow.lockToken :=
    List.mem_filterMap.mpr ⟨row, member, held⟩
  refine ⟨sound.issued token (List.mem_append_left _ inside), fun lock found granted => ?_⟩
  have elsewhere : token ∈ s.locks.filterMap Lock.granted :=
    List.mem_filterMap.mpr ⟨lock, found, granted⟩
  exact (List.nodup_append.mp sound.tokens).2.2 token inside token
    (List.mem_append_left _ elsewhere) rfl

/-- What a committed claim hands out matches the rows it has written. -/
theorem claim_handed (sound : QueueSound offset s) (after : QueueSound offset t) {index : Nat}
    {transaction : Transaction Value} (active : s.activeAt index = some transaction)
    {tasks : List (LeasedTask Value)}
    (replied : transaction.operation.reply ((s.locksOf index).filterMap Lock.written)
      = some (.claimed tasks))
    (rows : t.rows = ((s.locksOf index).foldl QueueState.release s).rows)
    {task : LeasedTask Value} (member : task ∈ tasks) : HandedSound t task := by
  cases operation : transaction.operation with
  | settle | requeue =>
    rw [operation] at replied
    cases replied
  | recoverExpired =>
    rw [operation] at replied
    simp only [Operation.reply] at replied
    split at replied <;> cases replied
  | claim format owner limit lease anchor deadline =>
    rw [operation] at replied
    simp only [Operation.reply] at replied
    split at replied
    · rename_i made converted
      cases replied
      obtain ⟨old, token, reading, _, present, sameType, sameVersion, fields, leased⟩ :=
        claim_row sound active operation converted member
      rw [← rows] at present
      have held : (old.claimed owner token
          (afterMillis reading (millisAsDouble lease))).lockToken = some task.lease.lockToken := by
        rw [leased]
        rfl
      obtain ⟨issued, granted⟩ := after.token_granted present held
      refine ⟨issued, granted, fun other found same => ?_⟩
      obtain rfl := after.token_unique present found held same
      exact ⟨fields.id.symm, sameType, sameVersion, fields.number.symm⟩
    · cases replied

/-- A delivery stays sound: its token is in no row it was not in before. -/
theorem HandedSound.step (sound : QueueSound offset s) {action : QueueAction Value}
    (stepped : QueueStep offset s action t) {task : LeasedTask Value} (handed : HandedSound s task) :
    HandedSound t task := by
  refine ⟨stepped.issued handed.issued, fun lock found granted => ?_, fun row found held => ?_⟩
  · obtain ⟨other, before, _, same⟩ := stepped.granted_before handed.issued found granted
    exact handed.granted other before same
  · cases stepped with
    | tick | begin | lock | miss | write | abort => exact handed.row row found held
    | publish typeName event tasks rows inserted =>
      obtain ⟨rfl, _, _⟩ := insertTasks_ok inserted
      rcases List.mem_append.mp found with old | new
      · exact handed.row row old held
      · obtain ⟨published, _, rfl⟩ := List.mem_map.mp new
        cases held
    | commit index =>
      rcases mem_of_foldl_release (s := s) found with old | ⟨lock, own, wrote⟩
      · exact handed.row row old held
      · obtain ⟨transition, work⟩ := Lock.written_some wrote
        have member := (List.mem_filter.mp own).1
        obtain ⟨now, rfl⟩ := (sound.applies member work).2.token held
        refine absurd ?_ (handed.granted lock member)
        unfold Lock.granted
        rw [work]
        rfl

/-- A delivery after a step was there before it, or the step has committed its claim. -/
theorem handed_before (sound : QueueSound offset s) {action : QueueAction Value}
    (stepped : QueueStep offset s action t) {task : LeasedTask Value} (handed : Handed t task) :
    Handed s task ∨ HandedSound t task := by
  have after := queueSound_step sound stepped
  obtain ⟨transaction, member, tasks, lost, phase, inside⟩ := handed
  -- a transaction that was set without being committed
  have uncommitted : ∀ {index : Nat} {other : Transaction Value},
      (∀ reply lost, other.phase ≠ .committed reply lost) →
      transaction ∈ s.transactions.set index other → Handed s task := by
    intro index other open_ found
    rcases List.mem_or_eq_of_mem_set found with old | rfl
    · exact ⟨transaction, old, tasks, lost, phase, inside⟩
    · exact absurd phase (open_ _ _)
  cases stepped with
  | tick | publish | lock | write => exact .inl ⟨transaction, member, tasks, lost, phase, inside⟩
  | begin =>
    rcases List.mem_append.mp member with old | new
    · exact .inl ⟨transaction, old, tasks, lost, phase, inside⟩
    · obtain rfl := List.mem_singleton.mp new
      cases phase
  | miss index running active _ =>
    refine .inl (uncommitted (fun reply lost committed => ?_) member)
    have still := (QueueState.activeAt_some.mp active).2
    rw [show running.phase = .committed reply lost from committed] at still
    cases still
  | abort =>
    refine .inl (uncommitted (fun reply lost committed => ?_) member)
    cases committed
  | commit index running flag reply active replied _ =>
    rcases List.mem_or_eq_of_mem_set member with old | rfl
    · exact .inl ⟨transaction, old, tasks, lost, phase, inside⟩
    · cases phase
      exact .inr (claim_handed sound after active replied rfl inside)

/-- **Every delivery matches its row**, as long as the row holds its token. -/
theorem handed_reachable (reached : (queueMachine Value offset clock).Reachable s)
    {task : LeasedTask Value} (handed : Handed s task) : HandedSound s task := by
  revert task
  refine reached.invariant (P := fun s => ∀ {task}, Handed s task → HandedSound s task) ?_ ?_
  · rintro task ⟨transaction, none, _⟩
    cases none
  · intro s action t before ih stepped task handed
    have sound := queueSound_reachable before
    rcases handed_before sound (queueMachine_step stepped) handed with old | new
    · exact (ih old).step sound (queueMachine_step stepped)
    · exact new

/-! ### Settlements -/

/-- A row has come to a status that it did not have. -/
def Becomes (s t : QueueState Value) (id : Uuid) (status : TaskStatus) : Prop :=
  ∃ row ∈ s.rows, ∃ next ∈ t.rows,
    row.id = id ∧ next.id = id ∧ row.status ≠ status ∧ next.status = status

/-- A failure names its row, its format and its attempts. -/
structure Names (failure : TaskFailure) (row : OutboxRow Value) : Prop where
  id : failure.id = row.id
  taskType : failure.format.taskType = row.taskType
  taskVersion : failure.format.taskVersion = row.taskVersion
  attempt : failure.attempt = row.attempts

/-- Why a settlement fails a row. -/
def FailedBy (row : OutboxRow Value) : SettlementRequest → TaskFailureCause → Prop
  | .completed, _ => False
  | .failed _, cause => cause = .permanentRejection
  | .retry _ _, cause => cause = .attemptLimitReached ∧ row.attempts = row.maxAttempts

/-- What a settlement answers is what has become of its row. -/
structure SettlementReported (s t : QueueState Value) (task : LeasedTask Value)
    (request : SettlementRequest) (result : SettlementResult) : Prop where
  completed : result = .completed ↔ Becomes s t task.attempt.id .completed
  retried : result = .retryScheduled ↔ Becomes s t task.attempt.id .pending
  failed : (∃ failure, result = .failed failure) ↔ Becomes s t task.attempt.id .failed
  lost : result = .ownershipLost ↔ t.rows = s.rows
  others : ∀ row ∈ s.rows, row.id ≠ task.attempt.id → row ∈ t.rows
  failure : ∀ failure, result = .failed failure →
    ∃ row ∈ t.rows, row.status = .failed ∧ Names failure row ∧ FailedBy row request failure.cause

/-- What is answered for a row that was settled. -/
structure ResultFor (delivery : TaskAttempt Value) (request : SettlementRequest)
    (row : OutboxRow Value) (result : SettlementResult) : Prop where
  completed : result = .completed ↔ row.status = .completed
  retried : result = .retryScheduled ↔ row.status = .pending
  failed : (∃ failure, result = .failed failure) ↔ row.status = .failed
  applied : result ≠ .ownershipLost
  unlocked : row.status ≠ .processing
  failure : ∀ failure, result = .failed failure → failure.id = delivery.id ∧
    failure.format = delivery.format ∧ failure.attempt = delivery.number ∧
    FailedBy row request failure.cause

theorem settlementResult_for (delivery : TaskAttempt Value) {row : OutboxRow Value}
    (checks : row.Checks) (request : SettlementRequest) (now : DateTime) :
    ∃ result, settlementResult delivery (some (row.settled request now).status)
        (settlementParameters request).failureCause = .ok result ∧
      ResultFor delivery request (row.settled request now) result := by
  cases request with
  | completed => exact ⟨.completed, rfl, by constructor <;> simp [OutboxRow.settled,
      settlementParameters]⟩
  | failed reason =>
    have status : (row.settled (.failed reason) now).status = .failed := by
      simp [OutboxRow.settled, settlementParameters]
    rw [status]
    refine ⟨_, rfl, by simp [status], by simp [status], by simp [status], by simp, by simp [status],
      ?_⟩
    rintro failure same
    obtain rfl := SettlementResult.failed.inj same
    exact ⟨rfl, rfl, rfl, rfl⟩
  | retry delay reason =>
    by_cases exhausted : row.attempts ≥ row.maxAttempts
    · have status : (row.settled (.retry delay reason) now).status = .failed := by
        simp [OutboxRow.settled, settlementParameters, exhausted]
      rw [status]
      refine ⟨_, rfl, by simp [status], by simp [status], by simp [status], by simp,
        by simp [status], ?_⟩
      rintro failure same
      obtain rfl := SettlementResult.failed.inj same
      exact ⟨rfl, rfl, rfl, rfl, le_antisymm checks.withinLimit exhausted⟩
    · have status : (row.settled (.retry delay reason) now).status = .pending := by
        simp [OutboxRow.settled, settlementParameters, exhausted]
      rw [status]
      exact ⟨.retryScheduled, rfl, by simp [status], by simp [status], by simp [status], by simp,
        by simp [status], by simp⟩

/-- With unchanged rows nothing has come to a status. -/
theorem not_becomes (keyed : (s.rows.map OutboxRow.id).Nodup) (same : t.rows = s.rows) (id : Uuid)
    (status : TaskStatus) : ¬ Becomes s t id status := by
  rintro ⟨row, member, next, found, rowId, nextId, before, after⟩
  rw [same] at found
  obtain rfl := List.inj_on_of_nodup_map keyed member found (rowId.trans nextId.symm)
  exact before after

/-- A row that was processing has come to the status that its new version has. -/
theorem becomes_iff (keyedAfter : (t.rows.map OutboxRow.id).Nodup)
    {row next : OutboxRow Value} (member : row ∈ s.rows) (found : next ∈ t.rows)
    (same : next.id = row.id) (processing : row.status = .processing) {status : TaskStatus}
    (other : status ≠ .processing) :
    Becomes s t row.id status ↔ next.status = status := by
  constructor
  · rintro ⟨before, memberToo, after, foundToo, rowId, nextId, _, reached⟩
    obtain rfl := List.inj_on_of_nodup_map keyedAfter found foundToo (same.trans nextId.symm)
    exact reached
  · intro reached
    refine ⟨row, member, next, found, rfl, same, ?_, reached⟩
    rw [processing]
    exact other.symm

/-- A settlement without effect says so. -/
theorem settlementReported_lost (keyed : (s.rows.map OutboxRow.id).Nodup) (same : t.rows = s.rows)
    (task : LeasedTask Value) (request : SettlementRequest) :
    SettlementReported s t task request .ownershipLost where
  completed := iff_of_false nofun (not_becomes keyed same _ _)
  retried := iff_of_false nofun (not_becomes keyed same _ _)
  failed := iff_of_false (by rintro ⟨_, bad⟩; cases bad) (not_becomes keyed same _ _)
  lost := iff_of_true rfl same
  others := fun row member _ => by rwa [same]
  failure := nofun

/-- A settlement that was applied says how. -/
theorem settlementReported_applied (keyed : (s.rows.map OutboxRow.id).Nodup)
    (keyedAfter : (t.rows.map OutboxRow.id).Nodup) {task : LeasedTask Value}
    {request : SettlementRequest} {row next : OutboxRow Value} {result : SettlementResult}
    (member : row ∈ s.rows) (rows : t.rows = replaceRow next s.rows) (same : next.id = row.id)
    (processing : row.status = .processing) (named : Matches next task)
    (answered : ResultFor task.attempt request next result) :
    SettlementReported s t task request result := by
  have found : next ∈ t.rows := by
    rw [rows]
    exact List.mem_map.mpr ⟨row, member, if_pos same.symm⟩
  have own : task.attempt.id = row.id := named.id.symm.trans same
  have becomes : ∀ status, status ≠ .processing →
      (Becomes s t task.attempt.id status ↔ next.status = status) := by
    intro status other
    rw [own]
    exact becomes_iff keyedAfter member found same processing other
  constructor
  · exact answered.completed.trans (becomes .completed nofun).symm
  · exact answered.retried.trans (becomes .pending nofun).symm
  · exact answered.failed.trans (becomes .failed nofun).symm
  · refine iff_of_false answered.applied fun unchanged => ?_
    rw [unchanged] at found
    obtain rfl := List.inj_on_of_nodup_map keyed found member same
    exact answered.unlocked processing
  · intro other inside different
    rw [rows]
    refine List.mem_map.mpr ⟨other, inside, if_neg ?_⟩
    rw [same, ← own]
    exact different
  · intro failure failed
    obtain ⟨id, format, number, cause⟩ := answered.failure failure failed
    refine ⟨next, found, answered.failed.mp ⟨failure, failed⟩, ⟨?_, ?_, ?_, ?_⟩, cause⟩
    · exact id.trans named.id.symm
    · rw [format, named.taskType]
    · rw [format, named.taskVersion]
    · rw [number, named.attempts]

/-- The id and the attempts of a row. -/
def OutboxRow.attemptKey (row : OutboxRow Value) : Uuid × Int := (row.id, row.attempts)

/-- The id and the attempts a failure names. -/
def failureKey (failure : TaskFailure) : Uuid × Int := (failure.id, failure.attempt)

/-- The rows a transaction has failed. -/
def failedAmong (written : List (OutboxRow Value)) : List (OutboxRow Value) :=
  written.filter fun row => row.status = .failed

/-- The failures that a reply reports. -/
def Reply.failures : Reply Value → List TaskFailure
  | .settled (.ok (.failed failure)) => [failure]
  | .recovered report => report.failures
  | _ => []

section Commits

variable {index : Nat} {transaction : Transaction Value} {reply : Reply Value}

/-- **The answer of a settlement** is what its commit does. -/
theorem QueueSound.settle_reported (sound : QueueSound offset s) (after : QueueSound offset t)
    (active : s.activeAt index = some transaction) {task : LeasedTask Value}
    {request : SettlementRequest} (settles : transaction.operation = .settle task request)
    (handed : HandedSound s task)
    (replied : transaction.operation.reply ((s.locksOf index).filterMap Lock.written) = some reply)
    (rows : t.rows = ((s.locksOf index).foldl QueueState.release s).rows) :
    ∃ result, reply = .settled (.ok result) ∧ SettlementReported s t task request result ∧
      reply.failures.map failureKey
        = (failedAmong ((s.locksOf index).filterMap Lock.written)).map OutboxRow.attemptKey := by
  rw [settles] at replied
  rcases sound.settle_locks active settles with none | ⟨lock, only, member, locked⟩
  · rw [none] at replied rows
    obtain rfl := Option.some.inj replied
    refine ⟨.ownershipLost, rfl, settlementReported_lost sound.keyed rows task request, ?_⟩
    rw [none]
    rfl
  · rw [only] at replied rows
    rcases s.release_cases lock with ⟨transition, next, work, released, _⟩ | ⟨kept, released, _⟩
    · obtain ⟨reading, token, jitter, _, _, wrote⟩ := locked.treated transition next work
      have selected := locked.selected
      rw [settles] at wrote selected
      obtain ⟨sameId, sameToken, processing⟩ := of_decide_eq_true selected
      simp only [Operation.treat] at wrote
      split at wrote
      · obtain ⟨rfl, rfl⟩ := Work.written.inj wrote
        have written : lock.written = some (lock.old.settled request transaction.timestamp) := by
          unfold Lock.written
          rw [work]
        obtain ⟨result, answered, reported⟩ := settlementResult_for task.attempt
          (sound.checks lock.old locked.current) request transaction.timestamp
        have told : reply = .settled (.ok result) := by
          rw [← answered]
          simpa [Operation.reply, written] using replied.symm
        have named := handed.row lock.old locked.current sameToken
        refine ⟨result, told, settlementReported_applied sound.keyed after.keyed locked.current
          (rows.trans released) rfl processing ⟨named.id, named.taskType, named.taskVersion,
            named.attempts⟩ reported, ?_⟩
        have one : [lock].filterMap Lock.written
            = [lock.old.settled request transaction.timestamp] :=
          List.filterMap_cons_some written
        rw [told, only, one]
        cases result with
        | failed failure =>
          obtain ⟨id, _, number, _⟩ := reported.failure failure rfl
          have failed := reported.failed.mp ⟨failure, rfl⟩
          unfold failedAmong
          rw [List.filter_cons, if_pos (decide_eq_true failed)]
          show [(failure.id, failure.attempt)] = [(lock.old.id, lock.old.attempts)]
          rw [id, number, named.id, named.attempts]
        | ownershipLost | completed | retryScheduled =>
          unfold failedAmong
          rw [List.filter_cons, if_neg]
          · rfl
          · intro failed
            obtain ⟨_, bad⟩ := reported.failed.mpr (of_decide_eq_true failed)
            cases bad
      · cases wrote
    · have none : [lock].filterMap Lock.written = [] := List.filterMap_cons_none kept
      rw [none] at replied
      obtain rfl := Option.some.inj replied
      refine ⟨.ownershipLost, rfl, settlementReported_lost sound.keyed (rows.trans released) task
        request, ?_⟩
      rw [only, none]
      rfl

/-! ### Recoveries -/

/-- What a recovery reports is what it did: to at most `limit` rows, all expired at its timestamp,
of which those that became failed are listed and the others counted. -/
structure RecoveryReported (s t : QueueState Value) (timestamp : DateTime) (limit : Nat)
    (changed : List (OutboxRow Value)) (report : LeaseRecoveryReport) : Prop where
  bounded : changed.length ≤ limit
  distinct : (changed.map OutboxRow.id).Nodup
  expired : ∀ row ∈ changed, row ∈ t.rows ∧ (row.status = .failed ∨ row.status = .pending) ∧
    ∃ old ∈ s.rows, old.id = row.id ∧ isExpired timestamp old = true ∧ old.attempts = row.attempts
  others : ∀ row ∈ s.rows, row.id ∉ changed.map OutboxRow.id → row ∈ t.rows
  failures : List.Forall₂ Exhausted (failedAmong changed) report.failures
  retried : report.retriedCount = (changed.filter fun row => row.status = .pending).length

/-- The locks of an active transaction are within its limit. -/
def WithinLimit (s : QueueState Value) : Prop :=
  ∀ index transaction, s.activeAt index = some transaction →
    (s.locksOf index).length ≤ transaction.operation.limit

theorem QueueState.lockRow_limit {id : Uuid} (locked : s.lockRow index transaction id = some t) :
    (s.locksOf index).length < transaction.operation.limit := by
  obtain ⟨row, _, locked⟩ := Option.bind_eq_some_iff.mp locked
  obtain ⟨seen, _, locked⟩ := Option.bind_eq_some_iff.mp locked
  split at locked
  · rename_i allowed
    exact allowed.2.2.2
  · cases locked

/-- An active transaction after one was set was active before, with the same operation. -/
theorem QueueState.activeAt_before {other : Transaction Value}
    (active : s.activeAt index = some transaction)
    (transactions : t.transactions = s.transactions.set index other)
    (same : other.operation = transaction.operation) {place : Nat}
    {after : Transaction Value} (found : t.activeAt place = some after) :
    ∃ before, s.activeAt place = some before ∧ before.operation = after.operation := by
  obtain ⟨present, running⟩ := QueueState.activeAt_some.mp found
  rw [transactions] at present
  by_cases own : index = place
  · subst own
    rw [QueueState.getElem_set (QueueState.activeAt_some.mp active).1] at present
    obtain rfl := Option.some.inj present
    exact ⟨transaction, active, same.symm⟩
  · rw [List.getElem?_set_ne own] at present
    exact ⟨after, QueueState.activeAt_some.mpr ⟨present, running⟩, rfl⟩

theorem WithinLimit.shrink (within : WithinLimit s)
    (fewer : ∀ place, (t.locksOf place).length ≤ (s.locksOf place).length)
    (before : ∀ place after, t.activeAt place = some after →
      ∃ transaction, s.activeAt place = some transaction ∧
        transaction.operation = after.operation) : WithinLimit t := by
  intro place after found
  obtain ⟨transaction, active, same⟩ := before place after found
  rw [← same]
  exact (fewer place).trans (within place transaction active)

theorem withinLimit_step (sound : QueueSound offset s) {action : QueueAction Value}
    (within : WithinLimit s) (stepped : (queueMachine Value offset clock).step s action = some t) :
    WithinLimit t := by
  cases queueMachine_step stepped with
  | tick | publish => exact within
  | begin operation valid =>
    intro place after found
    obtain ⟨present, running⟩ := QueueState.activeAt_some.mp found
    rcases Nat.lt_or_ge place s.transactions.length with old | new
    · rw [List.getElem?_append_left old] at present
      exact within place after (QueueState.activeAt_some.mpr ⟨present, running⟩)
    · have none : s.locksOf place = [] := by
        refine List.filter_eq_nil_iff.mpr fun lock member owned => ?_
        obtain ⟨holder, active, _⟩ := sound.locks lock member
        have inside := (QueueState.activeAt_some.mp active).1
        rw [of_decide_eq_true owned, List.getElem?_eq_none new] at inside
        cases inside
      show (s.locksOf place).length ≤ _
      rw [none]
      exact Nat.zero_le _
  | lock index transaction row active member selected free =>
    obtain ⟨running, found, locked⟩ := Option.bind_eq_some_iff.mp stepped
    obtain rfl := Option.some.inj (active.symm.trans found)
    have room := QueueState.lockRow_limit locked
    intro place after present
    have kept : s.activeAt place = some after := present
    show ((s.locks ++ [_]).filter _).length ≤ _
    rw [List.filter_append, List.length_append]
    by_cases own : index = place
    · subst own
      obtain rfl := Option.some.inj (active.symm.trans kept)
      rw [List.filter_cons, if_pos (decide_eq_true rfl)]
      exact room
    · rw [List.filter_cons, if_neg fun same => own (of_decide_eq_true same)]
      exact within place after kept
  | miss index transaction active _ =>
    refine within.shrink (fun _ => Nat.le_refl _) fun place after found => ?_
    refine QueueState.activeAt_before active rfl ?_ found
    rfl
  | write index transaction lock token jitter active member own waiting fresh =>
    refine within.shrink (fun place => Nat.le_of_eq ?_) fun place after found => ⟨after, found, rfl⟩
    show ((s.locks.map _).filter _).length = (s.locks.filter _).length
    rw [List.filter_map, List.length_map]
    congr 2
    funext other
    simp only [Function.comp_apply]
    split <;> rfl
  | commit index transaction lost reply active _ _ =>
    refine within.shrink (fun place => ?_) fun place after found => ?_
    · show ((((s.locksOf index).foldl QueueState.release s).locks).filter _).length ≤ _
      rw [foldl_release_locks]
      exact (List.filter_sublist.filter _).length_le
    · refine QueueState.activeAt_before active rfl ?_ found
      rfl
  | abort index transaction active =>
    refine within.shrink (fun place => ?_) fun place after found => ?_
    · exact (List.filter_sublist.filter _).length_le
    · refine QueueState.activeAt_before active rfl ?_ found
      rfl

theorem withinLimit_reachable (reached : (queueMachine Value offset clock).Reachable s) :
    WithinLimit s := by
  refine reached.invariant (P := WithinLimit) ?_ fun s action t before within stepped =>
    withinLimit_step (queueSound_reachable before) within stepped
  intro place after found
  exact absurd (QueueState.activeAt_some.mp found).1 nofun

/-- What has been written was selected; a recovery selects expired rows. -/
theorem QueueSound.recovered_lock (sound : QueueSound offset s)
    (active : s.activeAt index = some transaction) {limit : Nat}
    (recovers : transaction.operation = .recoverExpired limit) {lock : Lock Value}
    (own : lock ∈ s.locksOf index) {row : OutboxRow Value} (wrote : lock.written = some row) :
    isExpired transaction.timestamp lock.old = true ∧
      ∃ delay now, row = lock.old.recovered delay now := by
  obtain ⟨_, _, locked⟩ := sound.own active own
  obtain ⟨transition, work⟩ := Lock.written_some wrote
  obtain ⟨reading, token, jitter, _, _, treated⟩ := locked.treated transition row work
  have selected := locked.selected
  rw [recovers] at treated selected
  obtain ⟨_, rfl⟩ := Work.written.inj treated
  exact ⟨selected, _, _, rfl⟩

/-- The written rows are those of some of the locks. -/
theorem QueueSound.written_ids (sound : QueueSound offset s) (index : Nat) :
    (((s.locksOf index).filterMap Lock.written).map OutboxRow.id).Nodup := by
  obtain ⟨inside, distinct⟩ := sound.locksOf index
  refine distinct.sublist ?_
  generalize s.locksOf index = locks at inside
  clear distinct
  induction locks with
  | nil => exact .slnil
  | cons lock rest ih =>
    have later := ih fun other found => inside other (List.mem_cons_of_mem _ found)
    cases wrote : lock.written with
    | none =>
      rw [List.filterMap_cons_none wrote]
      exact later.cons _
    | some row =>
      obtain ⟨transition, work⟩ := Lock.written_some wrote
      rw [List.filterMap_cons_some wrote, List.map_cons, List.map_cons,
        (sound.applies (inside lock List.mem_cons_self) work).2.id]
      exact later.cons_cons _

/-- A row whose lock has written nothing is as it was. -/
theorem QueueState.unwritten (index : Nat) {row : OutboxRow Value} (member : row ∈ s.rows)
    (other : row.id ∉ ((s.locksOf index).filterMap Lock.written).map OutboxRow.id) :
    row ∈ ((s.locksOf index).foldl QueueState.release s).rows := by
  refine mem_foldl_release member fun lock own next wrote same => other ?_
  exact List.mem_map.mpr ⟨next, List.mem_filterMap.mpr ⟨lock, own, wrote⟩, same⟩

omit [JsonValue Value] in
theorem exhausted_keys {rows : List (OutboxRow Value)} {failures : List TaskFailure}
    (exhausted : List.Forall₂ Exhausted rows failures) :
    failures.map failureKey = rows.map OutboxRow.attemptKey := by
  induction exhausted with
  | nil => rfl
  | cons first _ ih =>
    rw [List.map_cons, List.map_cons, ih]
    unfold failureKey OutboxRow.attemptKey
    rw [first.id, first.attempt]

omit [JsonValue Value] in
theorem length_failed_pending {rows : List (OutboxRow Value)}
    (ended : ∀ row ∈ rows, row.status = .failed ∨ row.status = .pending) :
    rows.length - (failedAmong rows).length
      = (rows.filter fun row => row.status = .pending).length := by
  have others : (rows.filter fun row => row.status = .pending)
      = rows.filter fun row => !decide (row.status = .failed) := by
    refine List.filter_congr fun row member => ?_
    rcases ended row member with status | status
    · rw [status]
      rfl
    · rw [status]
      rfl
  have parts := List.length_eq_length_filter_add (l := rows) fun row => row.status = .failed
  rw [others]
  unfold failedAmong
  omega

omit [JsonValue Value] in
theorem recovered_status (row : OutboxRow Value) (delay : Duration) (now : DateTime) :
    (row.recovered delay now).status
      = if row.attempts ≥ row.maxAttempts then .failed else .pending := rfl

/-- **The report of a recovery** is what its commit does. -/
theorem QueueSound.recovery_reported (sound : QueueSound offset s)
    (within : WithinLimit s) (active : s.activeAt index = some transaction) {limit : Nat}
    (recovers : transaction.operation = .recoverExpired limit)
    (replied : transaction.operation.reply ((s.locksOf index).filterMap Lock.written) = some reply)
    (rows : t.rows = ((s.locksOf index).foldl QueueState.release s).rows) :
    ∃ report, reply = .recovered report ∧
      RecoveryReported s t transaction.timestamp limit
        ((s.locksOf index).filterMap Lock.written) report ∧
      reply.failures.map failureKey
        = (failedAmong ((s.locksOf index).filterMap Lock.written)).map OutboxRow.attemptKey := by
  have wrote : ∀ row ∈ (s.locksOf index).filterMap Lock.written, row ∈ t.rows ∧
      ∃ old ∈ s.rows, isExpired transaction.timestamp old = true ∧
        ∃ delay now, row = old.recovered delay now := by
    intro row member
    obtain ⟨lock, own, written⟩ := List.mem_filterMap.mp member
    obtain ⟨inside, distinct⟩ := sound.locksOf index
    obtain ⟨expired, recovered⟩ := sound.recovered_lock active recovers own written
    refine ⟨?_, lock.old, (sound.own active own).2.2.current, expired, recovered⟩
    rw [rows]
    exact sound.mem_releases inside distinct own written
  have ended : ∀ row ∈ (s.locksOf index).filterMap Lock.written,
      row.status = .failed ∨ row.status = .pending := by
    intro row member
    obtain ⟨_, old, _, _, delay, now, rfl⟩ := wrote row member
    rw [recovered_status]
    split
    · exact .inl rfl
    · exact .inr rfl
  have exhausted : ((s.locksOf index).filterMap Lock.written).filter
      (fun row => row.attempts ≥ row.maxAttempts)
      = failedAmong ((s.locksOf index).filterMap Lock.written) := by
    refine List.filter_congr fun row member => ?_
    obtain ⟨_, old, _, _, delay, now, rfl⟩ := wrote row member
    rw [recovered_status]
    show decide (old.attempts ≥ old.maxAttempts) = _
    split <;> simp_all
  rw [recovers] at replied
  simp only [Operation.reply] at replied
  split at replied
  · rename_i report reported
    obtain rfl := Option.some.inj replied
    obtain ⟨failures, mapped, made⟩ := bind_ok reported
    obtain rfl := Except.ok.inj made
    rw [exhausted] at mapped
    have listed : List.Forall₂ Exhausted
        (failedAmong ((s.locksOf index).filterMap Lock.written)) failures :=
      (mapM_ok mapped).imp fun _ _ => intoFailure_exhausted
    refine ⟨_, rfl, ⟨?_, sound.written_ids index, ?_, ?_, listed, ?_⟩, exhausted_keys listed⟩
    · have few := within index transaction active
      rw [recovers] at few
      exact (List.length_filterMap_le _ _).trans few
    · intro row member
      obtain ⟨present, old, before, expired, delay, now, rfl⟩ := wrote row member
      exact ⟨present, ended _ member, old, before, rfl, expired, rfl⟩
    · intro row member other
      rw [rows]
      exact QueueState.unwritten index member other
    · rw [← length_failed_pending ended, listed.length_eq]
  · cases replied

/-! ### Failures over a run -/

/-- The rows that a step has failed. -/
def newlyFailed (s t : QueueState Value) : List (OutboxRow Value) :=
  t.rows.filter fun row => row.status = .failed &&
    s.rows.all fun old => !(old.id = row.id && old.status = .failed)

theorem mem_newlyFailed {row : OutboxRow Value} :
    row ∈ newlyFailed s t ↔ row ∈ t.rows ∧ row.status = .failed ∧
      ∀ old ∈ s.rows, old.id = row.id → old.status ≠ .failed := by
  unfold newlyFailed
  rw [List.mem_filter]
  simp [imp_iff_not_or]

omit [JsonValue Value] in
/-- Only a row that was processing becomes failed. -/
theorem Transition.Applies.failed {row next : OutboxRow Value} {transition : Transition}
    (applies : transition.Applies row next) (failed : next.status = .failed) :
    row.status = .processing := by
  cases applies with
  | claimed => cases failed
  | settled token request now reading processing _ _ => exact processing
  | recovered token delay now selectedAt expired _ => exact (of_decide_eq_true expired).1
  | requeued => cases failed

omit [JsonValue Value] in
theorem nodup_of_ids {rows : List (OutboxRow Value)} (distinct : (rows.map OutboxRow.id).Nodup) :
    rows.Nodup :=
  List.Nodup.of_map _ distinct

/-- A commit fails the rows it has written as failed. -/
theorem QueueSound.newlyFailed_commit (sound : QueueSound offset s) (after : QueueSound offset t)
    (rows : t.rows = ((s.locksOf index).foldl QueueState.release s).rows) :
    (newlyFailed s t).Perm (failedAmong ((s.locksOf index).filterMap Lock.written)) := by
  obtain ⟨inside, distinct⟩ := sound.locksOf index
  have failedOnce : (newlyFailed s t).Nodup := (nodup_of_ids after.keyed).filter _
  have writtenOnce : (failedAmong ((s.locksOf index).filterMap Lock.written)).Nodup :=
    (nodup_of_ids (sound.written_ids index)).filter _
  refine (List.perm_ext_iff_of_nodup failedOnce writtenOnce).mpr fun row => ?_
  rw [mem_newlyFailed, failedAmong, List.mem_filter]
  constructor
  · rintro ⟨member, failed, before⟩
    rw [rows] at member
    rcases mem_of_foldl_release member with old | ⟨lock, own, wrote⟩
    · exact absurd failed (before row old rfl)
    · exact ⟨List.mem_filterMap.mpr ⟨lock, own, wrote⟩, decide_eq_true failed⟩
  · rintro ⟨written, failed⟩
    obtain ⟨lock, own, wrote⟩ := List.mem_filterMap.mp written
    obtain ⟨transition, work⟩ := Lock.written_some wrote
    obtain ⟨current, applies⟩ := sound.applies (inside lock own) work
    refine ⟨?_, of_decide_eq_true failed, fun old member same failedBefore => ?_⟩
    · rw [rows]
      exact sound.mem_releases inside distinct own wrote
    · obtain rfl := List.inj_on_of_nodup_map sound.keyed member current (same.trans applies.id)
      rw [applies.failed (of_decide_eq_true failed)] at failedBefore
      cases failedBefore

end Commits

/-- The failures that a transaction has reported, in replies that were lost or in the others. -/
def Transaction.failures (lost : Bool) (transaction : Transaction Value) : List TaskFailure :=
  match transaction.phase with
  | .committed reply flag => if flag = lost then reply.failures else []
  | _ => []

def QueueState.failures (s : QueueState Value) (lost : Bool) : List TaskFailure :=
  s.transactions.flatMap (Transaction.failures lost)

/-- Everything reported so far, confirmed or lost, by the id and the attempts it names. -/
def QueueState.reported (s : QueueState Value) : List (Uuid × Int) :=
  (s.failures false ++ s.failures true).map failureKey

variable (Value) in
/-- The rows that became failed in a run, step by step. -/
def failedRun (offset : String → Int) (clock : DateTime) :
    QueueState Value → List (QueueAction Value) → List (Uuid × Int)
  | _, [] => []
  | s, action :: rest =>
    match (queueMachine Value offset clock).step s action with
    | none => []
    | some t => (newlyFailed s t).map OutboxRow.attemptKey ++ failedRun offset clock t rest

/-- Settlements are asked for only with deliveries of a claim. -/
def Honest (s : QueueState Value) : QueueAction Value → Prop
  | .begin (.settle task _) => Handed s task
  | _ => True

instance [DecidableEq Value] (s : QueueState Value) :
    (action : QueueAction Value) → Decidable (Honest s action)
  | .begin (.settle task _) => inferInstanceAs (Decidable (Handed s task))
  | .begin (.claim ..) => isTrue trivial
  | .begin (.recoverExpired _) => isTrue trivial
  | .begin (.requeue _) => isTrue trivial
  | .tick _ => isTrue trivial
  | .publish .. => isTrue trivial
  | .lock .. => isTrue trivial
  | .miss _ => isTrue trivial
  | .write .. => isTrue trivial
  | .commit .. => isTrue trivial
  | .abort _ => isTrue trivial

/-- Every settlement so far is of a delivery. -/
def AllHanded (s : QueueState Value) : Prop :=
  ∀ transaction ∈ s.transactions, ∀ task request,
    transaction.operation = .settle task request → Handed s task

/-- A delivery stays one. -/
theorem Handed.step (sound : QueueSound offset s) {action : QueueAction Value}
    (stepped : QueueStep offset s action t) {task : LeasedTask Value} (handed : Handed s task) :
    Handed t task := by
  obtain ⟨transaction, member, tasks, lost, phase, inside⟩ := handed
  refine ⟨transaction, ?_, tasks, lost, phase, inside⟩
  rcases (sound.evolves stepped).transactions with same | ⟨new, grown⟩ |
    ⟨index, running, after, active, changed, _⟩
  · rw [same]
    exact member
  · rw [grown]
    exact List.mem_append_left _ member
  · obtain ⟨place, present⟩ := List.getElem?_of_mem member
    have different : index ≠ place := by
      rintro rfl
      obtain ⟨found, still⟩ := QueueState.activeAt_some.mp active
      obtain rfl := Option.some.inj (present.symm.trans found)
      rw [phase] at still
      cases still
    rw [changed]
    refine List.mem_of_getElem? (i := place) ?_
    rw [List.getElem?_set_ne different]
    exact present

theorem AllHanded.step (sound : QueueSound offset s) {action : QueueAction Value}
    (stepped : QueueStep offset s action t) (handed : AllHanded s) (honest : Honest s action) :
    AllHanded t := by
  intro transaction member task request settles
  rcases stepped.settles member settles with ⟨before, found, same⟩ | rfl
  · exact (handed before found task request same).step sound stepped
  · exact Handed.step sound stepped honest

theorem Transaction.failures_active {transaction : Transaction Value}
    (running : transaction.phase.isActive = true) (lost : Bool) : transaction.failures lost = [] := by
  unfold Transaction.failures
  cases phase : transaction.phase with
  | active | aborted => rfl
  | committed =>
    rw [phase] at running
    cases running

/-- What is reported after an active transaction was set. -/
theorem reported_set {index : Nat} {transaction other : Transaction Value}
    (active : s.activeAt index = some transaction)
    (transactions : t.transactions = s.transactions.set index other) :
    t.reported.Perm
      (s.reported ++ (other.failures false ++ other.failures true).map failureKey) := by
  obtain ⟨present, running⟩ := QueueState.activeAt_some.mp active
  have added : ∀ lost, (t.failures lost).Perm (s.failures lost ++ other.failures lost) := by
    intro lost
    unfold QueueState.failures
    rw [transactions]
    exact Keyed.flatMap_set present (transaction.failures_active running lost)
  unfold QueueState.reported
  rw [← List.map_append]
  refine List.Perm.map _ (((added false).append (added true)).trans ?_)
  rw [List.append_assoc, List.append_assoc]
  refine List.Perm.append_left _ ?_
  rw [← List.append_assoc, ← List.append_assoc]
  exact List.perm_append_comm.append_right _

theorem failures_committed (transaction : Transaction Value) (reply : Reply Value)
    (lost : Bool) :
    ({ transaction with phase := .committed reply lost } : Transaction Value).failures false ++
      ({ transaction with phase := .committed reply lost } : Transaction Value).failures true
      = reply.failures := by
  cases lost with
  | true => rfl
  | false => exact List.append_nil _

/-- A step that is not a commit fails no row. -/
theorem newlyFailed_nil (same : ∀ row ∈ t.rows, row ∈ s.rows ∨ row.status = .pending) :
    newlyFailed s t = [] := by
  refine List.eq_nil_iff_forall_not_mem.mpr fun row found => ?_
  obtain ⟨member, failed, before⟩ := mem_newlyFailed.mp found
  rcases same row member with old | pending
  · exact before row old rfl failed
  · rw [pending] at failed
    cases failed

/-- **The answer of a commit** names the rows that it fails. -/
theorem failures_commit (sound : QueueSound offset s) (after : QueueSound offset t)
    (within : WithinLimit s) {index : Nat} {transaction : Transaction Value} {reply : Reply Value}
    (handed : ∀ task request, transaction.operation = .settle task request → HandedSound s task)
    (active : s.activeAt index = some transaction)
    (replied : transaction.operation.reply ((s.locksOf index).filterMap Lock.written) = some reply)
    (rows : t.rows = ((s.locksOf index).foldl QueueState.release s).rows) :
    reply.failures.map failureKey
      = (failedAmong ((s.locksOf index).filterMap Lock.written)).map OutboxRow.attemptKey := by
  -- claims and requeues leave no failed row, and say nothing of failures
  have quiet : (∀ lock ∈ s.locksOf index, ∀ row, lock.written = some row → row.status ≠ .failed) →
      reply.failures = [] → reply.failures.map failureKey
        = (failedAmong ((s.locksOf index).filterMap Lock.written)).map OutboxRow.attemptKey := by
    intro none silent
    rw [silent, failedAmong, List.filter_eq_nil_iff.mpr fun row member failed => ?_]
    · rfl
    · obtain ⟨lock, own, wrote⟩ := List.mem_filterMap.mp member
      exact none lock own row wrote (of_decide_eq_true failed)
  cases operation : transaction.operation with
  | settle task request =>
    obtain ⟨_, _, _, fails⟩ :=
      sound.settle_reported after active operation (handed task request operation) replied rows
    exact fails
  | recoverExpired limit =>
    obtain ⟨_, _, _, fails⟩ := sound.recovery_reported within active operation replied rows
    exact fails
  | claim format owner limit lease anchor deadline =>
    refine quiet (fun lock own row wrote => ?_) ?_
    · obtain ⟨_, _, _, _, _, rfl⟩ := claim_written sound active operation own wrote
      simp [OutboxRow.claimed]
    · rw [operation] at replied
      simp only [Operation.reply] at replied
      split at replied
      · cases replied
        rfl
      · cases replied
  | requeue id =>
    refine quiet (fun lock own row wrote => ?_) ?_
    · obtain ⟨_, _, locked⟩ := sound.own active own
      obtain ⟨transition, work⟩ := Lock.written_some wrote
      obtain ⟨_, _, _, _, _, treated⟩ := locked.treated transition row work
      rw [operation] at treated
      obtain ⟨_, rfl⟩ := Work.written.inj treated
      simp [OutboxRow.requeued]
    · rw [operation] at replied
      cases replied
      rfl

/-- **One step**: the rows it fails are the failures it reports. -/
theorem reported_step (sound : QueueSound offset s) (within : WithinLimit s)
    (handed : ∀ transaction ∈ s.transactions, ∀ task request,
      transaction.operation = .settle task request → HandedSound s task)
    {action : QueueAction Value} (stepped : QueueStep offset s action t) :
    t.reported.Perm (s.reported ++ (newlyFailed s t).map OutboxRow.attemptKey) := by
  have after := queueSound_step sound stepped
  have quiet : t.reported.Perm s.reported → newlyFailed s t = [] →
      t.reported.Perm (s.reported ++ (newlyFailed s t).map OutboxRow.attemptKey) := by
    intro same none
    rw [none, List.map_nil, List.append_nil]
    exact same
  cases stepped with
  | tick | lock | write =>
    exact quiet (.refl _) (newlyFailed_nil fun row member => .inl member)
  | publish typeName event tasks rows inserted =>
    obtain ⟨rfl, _, _⟩ := insertTasks_ok inserted
    refine quiet (.refl _) (newlyFailed_nil fun row member => ?_)
    rcases List.mem_append.mp member with old | new
    · exact .inl old
    · obtain ⟨task, _, rfl⟩ := List.mem_map.mp new
      exact .inr rfl
  | begin operation valid =>
    refine quiet ?_ (newlyFailed_nil fun row member => .inl member)
    unfold QueueState.reported QueueState.failures
    rw [List.flatMap_append, List.flatMap_append]
    simp [Transaction.failures]
  | miss index transaction active _ =>
    refine quiet ((reported_set active rfl).trans ?_) (newlyFailed_nil fun row member => .inl member)
    have none : ∀ lost, Transaction.failures lost { transaction with missed := true } = [] :=
      Transaction.failures_active (QueueState.activeAt_some.mp active).2
    rw [none, none, List.append_nil, List.map_nil, List.append_nil]
  | abort index transaction active =>
    refine quiet ((reported_set active rfl).trans ?_) (newlyFailed_nil fun row member => .inl member)
    simp [Transaction.failures]
  | commit index transaction lost reply active replied _ =>
    refine (reported_set active rfl).trans (List.Perm.append_left _ ?_)
    rw [failures_committed]
    have inside := List.mem_of_getElem? (QueueState.activeAt_some.mp active).1
    rw [failures_commit sound after within (handed transaction inside) active replied rfl]
    exact ((sound.newlyFailed_commit after rfl).map _).symm

/-- **Over a run**: the rows that became failed are the failures that were reported. -/
theorem reported_run {actions : List (QueueAction Value)}
    (reached : (queueMachine Value offset clock).Reachable s) (handed : AllHanded s)
    (honest : (queueMachine Value offset clock).EveryStep Honest s actions)
    (ran : (queueMachine Value offset clock).run s actions = some t) :
    t.reported.Perm (s.reported ++ failedRun Value offset clock s actions) ∧ AllHanded t := by
  induction actions generalizing s with
  | nil =>
    obtain rfl := Option.some.inj ran
    refine ⟨?_, handed⟩
    rw [failedRun, List.append_nil]
  | cons action rest ih =>
    obtain ⟨middle, stepped, ran⟩ := Machine.run_cons ran
    have sound := queueSound_reachable reached
    have step := queueMachine_step stepped
    obtain ⟨later, all⟩ := ih (reached.step action stepped) (handed.step sound step honest.1)
      (honest.2 middle stepped) ran
    refine ⟨later.trans ?_, all⟩
    rw [failedRun, stepped, ← List.append_assoc]
    refine List.Perm.append_right _ (reported_step sound (withinLimit_reachable reached) ?_ step)
    exact fun transaction member task request settles =>
      handed_reachable reached (handed transaction member task request settles)

/-- **Reported outcomes match the durable rows.** In any run in which settlements are of deliveries:
what the commit of a settlement or of a recovery answers is what it does to the rows; a call that
does not commit changes no row; and the rows that became failed are the failures that were reported,
each once, in a confirmed reply or in one that was lost. -/
theorem reports_match_rows {actions : List (QueueAction Value)}
    (honest : (queueMachine Value offset clock).EveryStep Honest
      (queueMachine Value offset clock).start actions)
    (ran : (queueMachine Value offset clock).run (queueMachine Value offset clock).start actions
      = some s) :
    (∀ index transaction task request lost t, s.activeAt index = some transaction →
      transaction.operation = .settle task request →
      (queueMachine Value offset clock).step s (.commit index lost) = some t →
      ∃ result, t.transactions[index]? = some { transaction with
          phase := .committed (.settled (.ok result)) lost } ∧
        SettlementReported s t task request result) ∧
    (∀ index transaction limit lost t, s.activeAt index = some transaction →
      transaction.operation = .recoverExpired limit →
      (queueMachine Value offset clock).step s (.commit index lost) = some t →
      ∃ changed report, t.transactions[index]? = some { transaction with
          phase := .committed (.recovered report) lost } ∧
        RecoveryReported s t transaction.timestamp limit changed report) ∧
    (∀ action t, (queueMachine Value offset clock).step s action = some t →
      (∀ index lost, action ≠ .commit index lost) →
      (∀ typeName event tasks, action ≠ .publish typeName event tasks) → t.rows = s.rows) ∧
    (∀ limit now locked redeliveries error,
      (recoverExpired limit now locked redeliveries s.rows).2 = .error error →
      (recoverExpired limit now locked redeliveries s.rows).1 = s.rows) ∧
    (failedRun Value offset clock (queueMachine Value offset clock).start actions).Perm
      ((s.failures false ++ s.failures true).map failureKey) := by
  have reached : (queueMachine Value offset clock).Reachable s := Machine.Reachable.start.run ran
  have sound := queueSound_reachable reached
  obtain ⟨reported, handed⟩ := reported_run .start (fun _ none => absurd none List.not_mem_nil)
    honest ran
  refine ⟨?_, ?_, ?_, ?_, reported.symm⟩
  · intro index transaction task request lost t active settles stepped
    have step := queueMachine_step stepped
    obtain ⟨running, reply, present, replied, rows, answered⟩ := step.committed
    obtain rfl := Option.some.inj (active.symm.trans present)
    have inside := List.mem_of_getElem? (QueueState.activeAt_some.mp active).1
    obtain ⟨result, rfl, matched, _⟩ := sound.settle_reported (queueSound_step sound step) active
      settles (handed_reachable reached (handed transaction inside task request settles)) replied rows
    exact ⟨result, answered, matched⟩
  · intro index transaction limit lost t active recovers stepped
    obtain ⟨running, reply, present, replied, rows, answered⟩ :=
      (queueMachine_step stepped).committed
    obtain rfl := Option.some.inj (active.symm.trans present)
    obtain ⟨report, rfl, matched, _⟩ := sound.recovery_reported (withinLimit_reachable reached)
      active recovers replied rows
    exact ⟨_, report, answered, matched⟩
  · intro action t stepped uncommitted unpublished
    cases queueMachine_step stepped with
    | tick | begin | lock | miss | write | abort => rfl
    | publish typeName event tasks => exact absurd rfl (unpublished typeName event tasks)
    | commit index transaction lost => exact absurd rfl (uncommitted index lost)
  · intro limit now locked redeliveries error failed
    rcases recoverExpired_cases sound.checks sound.keyed limit now locked redeliveries with
      rejected | ⟨report, recovered, _⟩
    · rw [rejected]
    · rw [recovered] at failed
      cases failed

end Reports

/-- Two tasks with one attempt each: the first is rejected for good, the lease of the second runs out
and is recovered, and the reply of the recovery is lost. -/
def bothFailed : List (QueueAction (Store.PlainValue Nat Nat)) :=
  let format : TaskFormat := mailFormat
  let task := fun id : Uuid => (⟨id, format, .object, .object, .now, 1,
    Store.PlainValue.isObject_object, Store.PlainValue.isObject_object, trivial, Int.zero_lt_one,
    by decide⟩ : NewTask (Store.PlainValue Nat Nat))
  let delivery : LeasedTask (Store.PlainValue Nat Nat) :=
    ⟨⟨1, format, .object, .object, 1, Store.PlainValue.isObject_object,
      Store.PlainValue.isObject_object, Int.zero_lt_one⟩, ⟨7, 5000000⟩⟩
  let jitter : Jitter := .neutral
  [.publish "user_account" ⟨"7", 1, "user_account", "event", "1", .object, .object⟩
      [task 1, task 2],
    .begin (.claim format "worker" 2 (.fromMillis 5) 0
      5000000),
    .lock 0 1, .lock 0 2, .write 0 1 7 jitter, .write 0 2 8 jitter, .commit 0 false,
    .begin (.settle delivery (.failed "rejected")), .lock 1 1, .write 1 1 0 jitter,
    .commit 1 false, .tick 5000000,
    .begin (.recoverExpired 10), .lock 2 2, .write 2 2 0 jitter, .commit 2 true]

theorem reports_match_rows_bothFailed :
    ∃ s, (queueMachine (Store.PlainValue Nat Nat) (fun _ => 0) 0).run
        (queueMachine (Store.PlainValue Nat Nat) (fun _ => 0) 0).start bothFailed = some s ∧
      (s.failures false).map failureKey = [(1, 1)] ∧ (s.failures true).map failureKey = [(2, 1)] ∧
      (failedRun (Store.PlainValue Nat Nat) (fun _ => 0) 0
        (queueMachine (Store.PlainValue Nat Nat) (fun _ => 0) 0).start bothFailed).Perm
          ((s.failures false ++ s.failures true).map failureKey) := by
  refine ⟨(queueMachine (Store.PlainValue Nat Nat) (fun _ => 0) 0).after bothFailed
    (by decide +kernel), (Option.some_get _).symm, by decide +kernel, by decide +kernel, ?_⟩
  refine (reports_match_rows ?_ (Option.some_get (by decide +kernel)).symm).2.2.2.2
  decide +kernel

end AccountManagement.Outbox
