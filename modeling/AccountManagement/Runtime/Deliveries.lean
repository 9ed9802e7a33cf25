/-
**The deliveries of a claim.**

A process that receives the reply of its claim has the claimed tasks in hand; what it does with
each of them is the business of its phase. `arrivals_granted`: every delivery that arrives is of a
committed row that is locked for it, and their tokens are the ones the claim granted. The lease in
the database is cut to whole milliseconds and rounded to doubles, and the local deadline is not, so
the local deadline may lie after the end of the lease, by no more than `leaseSlack`.
-/

import AccountManagement.Outbox.Rows

namespace AccountManagement.Runtime

open AccountManagement.Library AccountManagement.Task AccountManagement.Outbox

section Deliveries

variable {Value : Type} [JsonValue Value] {Phase : Type}

variable (Value Phase) in
/-- A claimed task in the hands of the process that claimed it. -/
structure Delivery where
  owner : String
  task : LeasedTask Value
  phase : Phase

def Delivery.token (delivery : Delivery Value Phase) : Uuid := delivery.task.lease.lockToken

/-- The deliveries a process receives with the reply of its claim. -/
def received (first : Phase) (transaction : Transaction Value) : List (Delivery Value Phase) :=
  match transaction.operation, transaction.phase with
  | .claim _ owner _ _ _ _, .committed (.claimed tasks) false =>
    tasks.map fun task => ⟨owner, task, first⟩
  | _, _ => []

/-- The deliveries that a step of the queue brings. -/
def arrivals (first : Phase) (after : QueueState Value) :
    QueueAction Value → List (Delivery Value Phase)
  | .commit index _ =>
    match after.transactions[index]? with
    | some transaction => received first transaction
    | none => []
  | _ => []

/-- How far a local deadline may lie after the end of the lease, in nanoseconds: the part of the
lease below a millisecond, and what the doubles lose. -/
def leaseSlack : Int := 1037288000

/-- A row that is locked for a delivery, until shortly before the local deadline or later. -/
structure Granted (offset : String → Int) (row : OutboxRow Value)
    (delivery : Delivery Value Phase) : Prop where
  id : row.id = delivery.task.attempt.id
  taskType : row.taskType = delivery.task.attempt.format.taskType
  taskVersion : row.taskVersion = delivery.task.attempt.format.taskVersion
  payload : row.payload = delivery.task.attempt.payload
  token : row.lockToken = some delivery.token
  lease : ∃ until_, row.lockedUntil = some until_ ∧
    delivery.task.lease.deadline < until_ + offset delivery.owner + leaseSlack

/-- A lease that is counted from an earlier instant, and neither cut nor rounded, ends little
later. -/
theorem lt_afterMillis {anchor timestamp reading offset : Int} {lease : Duration}
    (fits : lease.asMillis ≤ 2 ^ 63 - 1) (before : anchor ≤ timestamp + offset)
    (later : timestamp ≤ reading) :
    anchor + lease.asNanos < afterMillis reading (millisAsDouble lease) + offset + leaseSlack := by
  have rounded := intervalMicros_near fits
  have cut : lease.asNanos < lease.asMillis * 1000000 + 1000000 := by
    rw [lease.asMillis_eq]
    omega
  unfold afterMillis leaseSlack
  omega

section Claims

variable {offset : String → Int} {s : QueueState Value} (sound : QueueSound offset s) {index : Nat}
  {transaction : Transaction Value} (active : s.activeAt index = some transaction)
  {format : TaskFormat} {owner : String} {limit : Nat} {lease : Duration}
  {anchor deadline : Instant}
  (claims : transaction.operation = .claim format owner limit lease anchor deadline)

include sound active claims

/-- The granted tokens are those of the written rows. -/
theorem claim_granted : (s.locksOf index).filterMap Lock.granted
    = ((s.locksOf index).filterMap Lock.written).map fun row => row.lockToken.getD 0 := by
  rw [List.map_filterMap]
  refine List.filterMap_congr fun lock own => ?_
  cases wrote : lock.written with
  | none =>
    show lock.granted = none
    unfold Lock.written at wrote
    unfold Lock.granted
    cases work : lock.work with
    | written transition row =>
      rw [work] at wrote
      cases wrote
    | _ => rfl
  | some row =>
    obtain ⟨token, reading, granted, _, _, rfl⟩ := claim_written sound active claims own wrote
    exact granted

/-- The local deadline is little after the end of the lease in the database. -/
theorem deadline_near {reading : DateTime} (later : transaction.timestamp ≤ reading) :
    deadline < afterMillis reading (millisAsDouble lease) + offset owner + leaseSlack := by
  have began := List.mem_of_getElem? (QueueState.activeAt_some.mp active).1
  have valid := (sound.begun transaction began).2
  rw [claims] at valid
  obtain ⟨_, added, _, fits, before⟩ := valid
  rw [Instant.checkedAdd_eq added]
  exact lt_afterMillis fits before later

/-- **What a process receives with a claim.** -/
theorem claim_received (first : Phase) (lost : Bool) {reply : Reply Value}
    {after : QueueState Value}
    (replied : transaction.operation.reply ((s.locksOf index).filterMap Lock.written) = some reply)
    (rows : after.rows = ((s.locksOf index).foldl QueueState.release s).rows) :
    ((received first { transaction with phase := .committed reply lost }).map
        Delivery.token).Sublist ((s.locksOf index).filterMap Lock.granted) ∧
      ∀ delivery ∈ received first { transaction with phase := .committed reply lost },
        delivery.phase = first ∧ ∃ row ∈ after.rows, Granted offset row delivery := by
  rw [claims] at replied
  simp only [Operation.reply] at replied
  split at replied
  · rename_i tasks converted
    obtain rfl := Option.some.inj replied
    have pairs := mapM_ok converted
    cases lost with
    | true =>
      unfold received
      simp only [claims]
      exact ⟨List.nil_sublist _, fun _ => nofun⟩
    | false =>
      have arrived : received first { transaction with phase := .committed (.claimed tasks) false }
          = tasks.map fun task => ⟨owner, task, first⟩ := by
        unfold received
        simp only [claims]
      rw [arrived]
      constructor
      · have same : ((s.locksOf index).filterMap Lock.written).map (fun row => row.lockToken.getD 0)
            = tasks.map fun task => task.lease.lockToken := by
          rw [← List.forall₂_eq_eq_eq, List.forall₂_map_left_iff, List.forall₂_map_right_iff]
          exact pairs.imp fun row task made => by rw [(intoClaimedTask_fields made).2]
        rw [claim_granted sound active claims, same, List.map_map]
        exact List.Sublist.refl _
      · intro delivery found
        obtain ⟨task, member, rfl⟩ := List.mem_map.mp found
        obtain ⟨old, token, reading, later, committed, sameType, sameVersion, fields, leased⟩ :=
          claim_row sound active claims converted member
        rw [← rows] at committed
        refine ⟨rfl, _, committed, fields.id.symm, sameType, sameVersion, fields.payload.symm, ?_,
          afterMillis reading (millisAsDouble lease), rfl, ?_⟩
        · exact congrArg (fun lease => some lease.lockToken) leased.symm
        · show task.lease.deadline < _
          rw [leased]
          exact deadline_near sound active claims later
  · cases replied

end Claims

/-- **The deliveries of a step** are of rows that are locked for them, under tokens that were being
granted. -/
theorem arrivals_granted {offset : String → Int} {s after : QueueState Value}
    (sound : QueueSound offset s) {action : QueueAction Value}
    (stepped : QueueStep offset s action after) (first : Phase) :
    ((arrivals first after action).map Delivery.token).Sublist (s.locks.filterMap Lock.granted) ∧
      ∀ delivery ∈ arrivals first after action, delivery.phase = first ∧
        ∃ row ∈ after.rows, Granted offset row delivery := by
  have quiet : arrivals first after action = [] →
      ((arrivals first after action).map Delivery.token).Sublist
          (s.locks.filterMap Lock.granted) ∧
        ∀ delivery ∈ arrivals first after action, delivery.phase = first ∧
          ∃ row ∈ after.rows, Granted offset row delivery := by
    intro none
    rw [none]
    exact ⟨List.nil_sublist _, fun _ => nofun⟩
  cases action with
  | tick | publish | begin | lock | miss | write | abort => exact quiet rfl
  | commit index lost =>
    obtain ⟨transaction, reply, active, replied, rows, present⟩ := stepped.committed
    have arrived : arrivals first after (.commit index lost)
        = received first { transaction with phase := .committed reply lost } := by
      unfold arrivals
      simp only [present]
    cases operation : transaction.operation with
    | claim format owner limit lease anchor deadline =>
      obtain ⟨tokens, new⟩ := claim_received sound active operation first lost replied rows
      rw [arrived]
      exact ⟨tokens.trans (List.filter_sublist.filterMap _), new⟩
    | settle | recoverExpired | requeue =>
      refine quiet (arrived.trans ?_)
      unfold received
      simp only [operation]

end Deliveries

end AccountManagement.Runtime
