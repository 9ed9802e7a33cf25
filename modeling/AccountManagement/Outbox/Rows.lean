/-
**What a step of the queue does to the rows.**

Under concurrent transactions no row is lost and none changes its identity
(`QueueSound.identities`), a row becomes completed only by the commit of a settlement that asked
for it (`QueueSound.completed`), and what a claim hands out is the data of rows that are committed
under its leases (`claim_row`).
-/

import AccountManagement.Outbox.Tokens

namespace AccountManagement.Outbox

open AccountManagement.Library AccountManagement.Task
open AccountManagement.Store (insertTasks_ok)

section Rows

variable {Value : Type} [JsonValue Value] {offset : String → Int} {s t : QueueState Value}

/-- The identities of all rows, in the order of their publication. -/
def QueueState.identities (s : QueueState Value) : List (Identity Value) :=
  s.rows.map OutboxRow.identity

/-- The release of a lock keeps every identity. -/
theorem QueueSound.identities_release (sound : QueueSound offset s) {lock : Lock Value}
    (member : lock ∈ s.locks) : (s.release lock).identities = s.identities := by
  unfold QueueState.identities
  rcases s.release_cases lock with ⟨transition, row, work, rows, _⟩ | ⟨_, rows, _⟩
  · obtain ⟨current, applies⟩ := sound.applies member work
    obtain ⟨front, back, split⟩ := Keyed.split_of_mem sound.keyed current
    rw [rows, replaceRow_of_split split applies.id, split.whole, List.map_append, List.map_cons,
      List.map_append, List.map_cons, applies.identity]
  · rw [rows]

theorem QueueSound.identities_releases {released : List (Lock Value)} (sound : QueueSound offset s)
    (inside : ∀ lock ∈ released, lock ∈ s.locks)
    (distinct : (released.map fun lock => lock.old.id).Nodup) :
    (released.foldl QueueState.release s).identities = s.identities := by
  induction released generalizing s with
  | nil => rfl
  | cons lock rest ih =>
    obtain ⟨fresh, distinct⟩ := List.nodup_cons.mp distinct
    have here := inside lock List.mem_cons_self
    rw [List.foldl_cons, ih (sound.release here) (fun other found => ?_) distinct]
    · exact sound.identities_release here
    · rw [s.release_locks lock]
      exact List.mem_filter.mpr ⟨inside other (List.mem_cons_of_mem _ found),
        decide_eq_true fun same => fresh (List.mem_map.mpr ⟨other, found, same⟩)⟩

/-- The locks of a transaction can be released together. -/
theorem QueueSound.locksOf (sound : QueueSound offset s) (index : Nat) :
    (∀ lock ∈ s.locksOf index, lock ∈ s.locks) ∧
      ((s.locksOf index).map fun lock => lock.old.id).Nodup :=
  ⟨fun _ found => (List.mem_filter.mp found).1,
    sound.exclusive.sublist (List.filter_sublist.map _)⟩

/-- **No row is lost and none changes its identity**, whatever the queue does but publish. -/
theorem QueueSound.identities (sound : QueueSound offset s) {action : QueueAction Value}
    (stepped : QueueStep offset s action t)
    (quiet : ∀ typeName event tasks, action ≠ .publish typeName event tasks) :
    t.identities = s.identities := by
  cases stepped with
  | tick | begin | lock | miss | write | abort => rfl
  | publish typeName event tasks => exact absurd rfl (quiet typeName event tasks)
  | commit index =>
    obtain ⟨inside, distinct⟩ := sound.locksOf index
    exact sound.identities_releases inside distinct

/-- A row after the release of some locks was there before, or was written by one of them. -/
theorem mem_of_foldl_release {released : List (Lock Value)} {row : OutboxRow Value}
    (member : row ∈ (released.foldl QueueState.release s).rows) :
    row ∈ s.rows ∨ ∃ lock ∈ released, lock.written = some row := by
  induction released generalizing s with
  | nil => exact .inl member
  | cons lock rest ih =>
    rcases ih member with before | ⟨other, found, wrote⟩
    · rcases s.release_cases lock with ⟨transition, new, work, rows, _⟩ | ⟨_, rows, _⟩
      · rw [rows] at before
        rcases mem_replaceRow before with rfl | ⟨old, _⟩
        · refine .inr ⟨lock, List.mem_cons_self, ?_⟩
          unfold Lock.written
          rw [work]
        · exact .inl old
      · rw [rows] at before
        exact .inl before
    · exact .inr ⟨other, List.mem_cons_of_mem _ found, wrote⟩

/-- Only a settlement that asks for it completes a row. -/
theorem Operation.treat_completed {operation : Operation Value} {timestamp reading : DateTime}
    {token : Uuid} {jitter : Jitter} {old row : OutboxRow Value} {transition : Transition}
    (treated : operation.treat timestamp reading token jitter old = .written transition row)
    (completed : row.status = .completed) : ∃ task, operation = .settle task .completed := by
  cases operation with
  | settle task request =>
    simp only [Operation.treat] at treated
    split at treated
    · obtain ⟨_, rfl⟩ := Work.written.inj treated
      cases request with
      | completed => exact ⟨task, rfl⟩
      | retry delay reason =>
        simp only [OutboxRow.settled, settlementParameters] at completed
        split at completed <;> cases completed
      | failed reason => cases completed
    · cases treated
  | claim =>
    obtain ⟨_, rfl⟩ := Work.written.inj treated
    cases completed
  | recoverExpired =>
    obtain ⟨_, rfl⟩ := Work.written.inj treated
    simp only [OutboxRow.recovered] at completed
    split at completed <;> cases completed
  | requeue =>
    obtain ⟨_, rfl⟩ := Work.written.inj treated
    cases completed

/-- **A row becomes completed** only by a settlement that asked for it. -/
theorem QueueSound.completed (sound : QueueSound offset s) {action : QueueAction Value}
    (stepped : QueueStep offset s action t) {row : OutboxRow Value} (member : row ∈ t.rows)
    (completed : row.status = .completed) :
    row ∈ s.rows ∨ ∃ transaction ∈ s.transactions, ∃ task,
      transaction.operation = .settle task .completed ∧ task.attempt.id = row.id := by
  cases stepped with
  | tick | begin | lock | miss | write | abort => exact .inl member
  | publish typeName event tasks rows inserted =>
    obtain ⟨rfl, _, _⟩ := insertTasks_ok inserted
    rcases List.mem_append.mp member with old | new
    · exact .inl old
    · obtain ⟨task, _, rfl⟩ := List.mem_map.mp new
      cases completed
  | commit index transaction lost reply active _ _ =>
    rcases mem_of_foldl_release (s := s) member with old | ⟨lock, own, wrote⟩
    · exact .inl old
    · obtain ⟨inside, _, locked⟩ := sound.own active own
      obtain ⟨transition, work⟩ := Lock.written_some wrote
      obtain ⟨reading, token, jitter, _, _, treated⟩ := locked.treated transition row work
      obtain ⟨task, settles⟩ := Operation.treat_completed treated completed
      have selected := locked.selected
      rw [settles] at selected
      refine .inr ⟨transaction, List.mem_of_getElem? (QueueState.activeAt_some.mp active).1, task,
        settles, ?_⟩
      rw [(sound.applies inside work).2.id]
      exact (of_decide_eq_true selected).1.symm

/-- What a claim writes: a lease on a row of its format, granted at a reading of the clock after
the statement began. -/
theorem claim_written (sound : QueueSound offset s) {index : Nat} {transaction : Transaction Value}
    (active : s.activeAt index = some transaction) {format : TaskFormat} {owner : String}
    {limit : Nat} {lease : Duration} {anchor deadline : Instant}
    (claims : transaction.operation = .claim format owner limit lease anchor deadline)
    {lock : Lock Value} (own : lock ∈ s.locksOf index) {row : OutboxRow Value}
    (wrote : lock.written = some row) :
    ∃ token reading, lock.granted = some token ∧ transaction.timestamp ≤ reading ∧
      isReady format transaction.timestamp lock.old = true ∧
      row = lock.old.claimed owner token (afterMillis reading (millisAsDouble lease)) := by
  obtain ⟨_, _, locked⟩ := sound.own active own
  obtain ⟨transition, work⟩ := Lock.written_some wrote
  obtain ⟨reading, token, jitter, after, _, treated⟩ := locked.treated transition row work
  have selected := locked.selected
  rw [claims] at treated selected
  obtain ⟨rfl, rfl⟩ := Work.written.inj treated
  refine ⟨token, reading, ?_, after, selected, rfl⟩
  unfold Lock.granted
  rw [work]
  rfl

/-- **The row behind a task that a claim hands out** is committed under the lease of the task, which
carries the data of the row. -/
theorem claim_row (sound : QueueSound offset s) {index : Nat} {transaction : Transaction Value}
    (active : s.activeAt index = some transaction) {format : TaskFormat} {owner : String}
    {limit : Nat} {lease : Duration} {anchor deadline : Instant}
    (claims : transaction.operation = .claim format owner limit lease anchor deadline)
    {tasks : List (LeasedTask Value)}
    (converted : ((s.locksOf index).filterMap Lock.written).mapM
      (fun row => intoClaimedTask format deadline (row.lockToken.getD 0) row) = .ok tasks)
    {task : LeasedTask Value} (member : task ∈ tasks) :
    ∃ (old : OutboxRow Value) (token : Uuid) (reading : DateTime),
      transaction.timestamp ≤ reading ∧
      old.claimed owner token (afterMillis reading (millisAsDouble lease))
        ∈ ((s.locksOf index).foldl QueueState.release s).rows ∧
      old.taskType = task.attempt.format.taskType ∧
      old.taskVersion = task.attempt.format.taskVersion ∧
      task.attempt.MadeFrom old.id format old.payload old.metadata (old.attempts + 1) ∧
      task.lease = ⟨token, deadline⟩ := by
  obtain ⟨row, written, made⟩ := exists_left_of_forall₂ (mapM_ok converted) member
  obtain ⟨lock, own, wrote⟩ := List.mem_filterMap.mp written
  obtain ⟨inside, distinct⟩ := sound.locksOf index
  have committed := sound.mem_releases inside distinct own wrote
  obtain ⟨token, reading, _, later, ready, rfl⟩ := claim_written sound active claims own wrote
  obtain ⟨_, sameType, sameVersion, _⟩ := of_decide_eq_true ready
  obtain ⟨fields, leased⟩ := intoClaimedTask_fields made
  refine ⟨lock.old, token, reading, later, committed, ?_, ?_, fields, leased⟩
  · rw [fields.format]
    exact sameType
  · rw [fields.format]
    exact sameVersion

/-- The settlements after a step are those before it, but for a settlement that begins. -/
theorem QueueStep.settles {action : QueueAction Value} (stepped : QueueStep offset s action t)
    {transaction : Transaction Value} (member : transaction ∈ t.transactions)
    {task : LeasedTask Value} {request : SettlementRequest}
    (settles : transaction.operation = .settle task request) :
    (∃ before ∈ s.transactions, before.operation = .settle task request) ∨
      action = .begin (.settle task request) := by
  have set : ∀ {index : Nat} {active after : Transaction Value},
      s.activeAt index = some active → transaction ∈ s.transactions.set index after →
      after.operation = active.operation →
      ∃ before ∈ s.transactions, before.operation = .settle task request := by
    intro index active after present found same
    rcases List.mem_or_eq_of_mem_set found with old | rfl
    · exact ⟨transaction, old, settles⟩
    · exact ⟨active, List.mem_of_getElem? (QueueState.activeAt_some.mp present).1,
        same.symm.trans settles⟩
  cases stepped with
  | tick | publish | lock | write => exact .inl ⟨transaction, member, settles⟩
  | begin operation _ =>
    rcases List.mem_append.mp member with old | new
    · exact .inl ⟨transaction, old, settles⟩
    · obtain rfl := List.mem_singleton.mp new
      exact .inr (congrArg QueueAction.begin settles)
  | miss index active present _ => exact .inl (set present member rfl)
  | commit index active lost reply present _ _ => exact .inl (set present member rfl)
  | abort index active present => exact .inl (set present member rfl)

end Rows

end AccountManagement.Outbox
