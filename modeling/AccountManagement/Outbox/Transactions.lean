/-
**The queue under concurrent transactions.**

The statements of the queue, cut where other transactions can come between: a transaction begins
with the timestamp and the snapshot of its statement, locks rows one at a time, treats each locked
row, and commits or is rolled back. A settlement and a requeue address one row by its id and wait
for its lock; a claim and a recovery skip locked rows. A row that was locked late is looked at
again in its committed version. What a transaction assigns is what the statements assign.

The database clock only advances, a generated token was never generated before, and a row has at
most one lock. A reply can be lost after the commit, and a transaction can be rolled back at any
time before it. `queueMachine_step` is the inversion of a step.
-/

import AccountManagement.Outbox.Lifecycle

namespace AccountManagement.Outbox

open AccountManagement.Library AccountManagement.Task
open AccountManagement.Store (SqlxError SerializedEvent insertTasks taskRows)

section Transactions

variable (Value : Type) [JsonValue Value]

/-! ### Operations -/

/-- What a transaction is for, with its checked arguments. The deadline of a claim is its anchor, a
reading of the claimer's own clock, plus the lease. -/
inductive Operation where
  | settle (task : LeasedTask Value) (request : SettlementRequest)
  | claim (format : TaskFormat) (owner : String) (limit : Nat) (lease : Duration)
      (anchor deadline : Instant)
  | recoverExpired (limit : Nat)
  | requeue (id : Uuid)

/-- What has been done with a locked row. -/
inductive Work where
  | held
  | kept
  | written (transition : Transition) (row : OutboxRow Value)

inductive Reply where
  | settled (result : Except TaskProcessingError SettlementResult)
  | claimed (tasks : List (LeasedTask Value))
  | recovered (report : LeaseRecoveryReport)
  | done

inductive TransactionPhase where
  | active
  | committed (reply : Reply Value) (lost : Bool)
  | aborted

/-- A transaction: the timestamp and the snapshot of its statement, and whether the statement found
no row to address. -/
structure Transaction where
  operation : Operation Value
  timestamp : DateTime
  snapshot : List (OutboxRow Value)
  missed : Bool
  phase : TransactionPhase Value

/-- A row lock: its transaction, the locked version, and what has been done with it. -/
structure Lock where
  owner : Nat
  old : OutboxRow Value
  work : Work Value

/-- The committed rows, the clock, the transactions, the row locks, the tokens generated so far, and
the committed transitions. -/
structure QueueState where
  rows : List (OutboxRow Value)
  clock : DateTime
  transactions : List (Transaction Value)
  locks : List (Lock Value)
  issued : List Uuid
  log : List (Uuid × Transition)

inductive QueueAction where
  | tick (clock : DateTime)
  | publish (typeName : String) (event : SerializedEvent Value) (tasks : List (NewTask Value))
  | begin (operation : Operation Value)
  | lock (index : Nat) (id : Uuid)
  | miss (index : Nat)
  | write (index : Nat) (id : Uuid) (token : Uuid) (jitter : Jitter)
  | commit (index : Nat) (lost : Bool)
  | abort (index : Nat)

variable {Value}

namespace Operation

/-- The arguments pass the checks before the statement, and an anchor was read before it. -/
def Valid (offset : String → Int) (clock : DateTime) : Operation Value → Prop
  | .settle _ request => (settlementParameters request).delay.asMillis ≤ 2 ^ 63 - 1
  | .claim _ owner limit lease anchor deadline =>
    lease.asMillis ≠ 0 ∧ anchor.checkedAdd lease = some deadline ∧ limit ≤ 2 ^ 63 - 1 ∧
      lease.asMillis ≤ 2 ^ 63 - 1 ∧ anchor ≤ clock + offset owner
  | .recoverExpired limit => limit ≤ 2 ^ 63 - 1
  | .requeue _ => True

instance (offset : String → Int) (clock : DateTime) (operation : Operation Value) :
    Decidable (operation.Valid offset clock) := by
  cases operation <;> unfold Valid <;> infer_instance

/-- The WHERE clause of the locking SELECT. -/
def selects (timestamp : DateTime) (row : OutboxRow Value) : Operation Value → Bool
  | .settle task _ => isOwned task.attempt.id task.lease.lockToken row
  | .claim format _ _ _ _ _ => isReady format timestamp row
  | .recoverExpired _ => isExpired timestamp row
  | .requeue id => isFailed id row

/-- How many rows it locks. -/
def limit : Operation Value → Nat
  | .settle _ _ => 1
  | .claim _ _ limit _ _ _ => limit
  | .recoverExpired limit => limit
  | .requeue _ => 1

/-- The row an operation addresses by its id, and for whose lock it waits. -/
def target : Operation Value → Option Uuid
  | .settle task _ => some task.attempt.id
  | .claim _ _ _ _ _ _ => none
  | .recoverExpired _ => none
  | .requeue id => some id

/-- What is done with a locked row when the clock reads `clock`. Only a settlement looks at the
clock again and may keep the row. -/
def treat (timestamp clock : DateTime) (token : Uuid) (jitter : Jitter) (row : OutboxRow Value) :
    Operation Value → Work Value
  | .settle task request =>
    if isRunning clock row then
      .written (.settled timestamp task.lease.lockToken request) (row.settled request timestamp)
    else .kept
  | .claim _ owner _ lease _ _ =>
    .written (.claimed timestamp token)
      (row.claimed owner token (afterMillis clock (millisAsDouble lease)))
  | .recoverExpired _ =>
    let delay := redeliveryBackoff row.attempts jitter
    .written (.recovered clock (row.lockToken.getD 0) delay) (row.recovered delay clock)
  | .requeue _ => .written (.requeued timestamp) (row.requeued timestamp)

/-- The tokens generated while a row is treated. -/
def generated (token : Uuid) : Operation Value → List Uuid
  | .claim _ _ _ _ _ _ => [token]
  | _ => []

/-- The report of a recovery: the rows without attempts left, and the number of the others. -/
def recoveryReport (written : List (OutboxRow Value)) :
    Except TaskProcessingError LeaseRecoveryReport := do
  let failures ← (written.filter fun row => row.attempts ≥ row.maxAttempts).mapM intoFailure
  return ⟨written.length - failures.length, failures⟩

/-- What the caller is told about the rows that were written. -/
def reply (written : List (OutboxRow Value)) : Operation Value → Option (Reply Value)
  | .settle task request =>
    some (.settled (settlementResult task.attempt (written.head?.map OutboxRow.status)
      (settlementParameters request).failureCause))
  | .claim format _ _ _ _ deadline =>
    match written.mapM fun row => intoClaimedTask format deadline (row.lockToken.getD 0) row with
    | .ok tasks => some (.claimed tasks)
    | .error _ => none
  | .recoverExpired _ =>
    match recoveryReport written with
    | .ok report => some (.recovered report)
    | .error _ => none
  | .requeue _ => some .done

end Operation

/-! ### Locks -/

def Work.isHeld : Work Value → Bool
  | .held => true
  | _ => false

def Lock.written (lock : Lock Value) : Option (OutboxRow Value) :=
  match lock.work with
  | .written _ row => some row
  | _ => none

def TransactionPhase.isActive : TransactionPhase Value → Bool
  | .active => true
  | _ => false

/-- The version of a row in a table. -/
def rowOf (id : Uuid) (rows : List (OutboxRow Value)) : Option (OutboxRow Value) :=
  rows.find? fun row => row.id = id

def replaceRow (new : OutboxRow Value) (rows : List (OutboxRow Value)) : List (OutboxRow Value) :=
  rows.map fun row => if row.id = new.id then new else row

namespace QueueState

/-- The locks of a transaction. -/
def locksOf (s : QueueState Value) (index : Nat) : List (Lock Value) :=
  s.locks.filter fun lock => lock.owner = index

def isFree (s : QueueState Value) (id : Uuid) : Bool := s.locks.all fun lock => lock.old.id ≠ id

/-- The release of one lock: the new version of its row, if there is one, becomes the committed
version. -/
def release (s : QueueState Value) (lock : Lock Value) : QueueState Value :=
  let locks := s.locks.filter fun other => other.old.id ≠ lock.old.id
  match lock.work with
  | .written transition row =>
    { s with
      rows := replaceRow row s.rows
      locks := locks
      log := s.log ++ [(lock.old.id, transition)] }
  | _ => { s with locks := locks }

/-- The transaction has treated the rows it addresses. -/
def isTreated (s : QueueState Value) (index : Nat) (transaction : Transaction Value) : Bool :=
  (s.locksOf index).all (fun lock => !lock.work.isHeld) &&
    (transaction.operation.target.isNone || transaction.missed || !(s.locksOf index).isEmpty)

/-! ### Steps of a transaction -/

variable (s : QueueState Value) (index : Nat) (transaction : Transaction Value)

/-- A row is locked if the statement saw it, nobody else holds it, and its committed version still
matches. -/
def lockRow (id : Uuid) : Option (QueueState Value) := do
  let row ← rowOf id s.rows
  let seen ← rowOf id transaction.snapshot
  if transaction.operation.selects transaction.timestamp row ∧
      transaction.operation.selects transaction.timestamp seen ∧ s.isFree id ∧
      (s.locksOf index).length < transaction.operation.limit then
    return { s with locks := s.locks ++ [⟨index, row, .held⟩] }
  else none

/-- No row is addressed: the statement saw none that matches, or the row is free and its committed
version does not match any more. -/
def missRow : Option (QueueState Value) := do
  let id ← transaction.operation.target
  if (s.locksOf index).isEmpty ∧
      ((∀ row ∈ transaction.snapshot,
          ¬ transaction.operation.selects transaction.timestamp row) ∨
        (s.isFree id ∧
          ∀ row ∈ s.rows, ¬ transaction.operation.selects transaction.timestamp row)) then
    return { s with transactions := s.transactions.set index { transaction with missed := true } }
  else none

/-- A locked row is treated at the present clock, with a token that is new. -/
def writeRow (id token : Uuid) (jitter : Jitter) : Option (QueueState Value) := do
  let lock ← s.locks.find? fun lock => lock.owner = index ∧ lock.old.id = id ∧ lock.work.isHeld
  if (transaction.operation.generated token).all fun fresh => !s.issued.contains fresh then
    let work := transaction.operation.treat transaction.timestamp s.clock token jitter lock.old
    return { s with
      locks := s.locks.map fun other => if other.old.id = id then { other with work } else other
      issued := s.issued ++ transaction.operation.generated token }
  else none

def commit (lost : Bool) : Option (QueueState Value) := do
  let reply ← transaction.operation.reply ((s.locksOf index).filterMap Lock.written)
  if s.isTreated index transaction then
    return { (s.locksOf index).foldl release s with
      transactions := s.transactions.set index { transaction with
        phase := .committed reply lost } }
  else none

def abort : QueueState Value :=
  { s with
    locks := s.locks.filter fun lock => lock.owner ≠ index
    transactions := s.transactions.set index { transaction with phase := .aborted } }

end QueueState

/-! ### The machine -/

/-- A transaction that has not ended. -/
def QueueState.activeAt (s : QueueState Value) (index : Nat) : Option (Transaction Value) :=
  (s.transactions[index]?).filter fun transaction => transaction.phase.isActive

variable (Value) in
/-- Any number of concurrent transactions. `offset` is what a claimer's own clock is ahead of the
database clock. -/
def queueMachine (offset : String → Int) (clock : DateTime) :
    Machine (QueueState Value) (QueueAction Value) where
  start := ⟨[], clock, [], [], [], []⟩
  step s
    | .tick clock => if s.clock ≤ clock then some { s with clock } else none
    | .publish typeName event tasks =>
      if 0 < event.sequence then
        match insertTasks typeName event.sequence event s.clock tasks s.rows with
        | .error _ => none
        | .ok rows => some { s with rows }
      else none
    | .begin operation =>
      if operation.Valid offset s.clock then
        some { s with
          transactions := s.transactions ++ [⟨operation, s.clock, s.rows, false, .active⟩] }
      else none
    | .lock index id => do
      let transaction ← s.activeAt index
      s.lockRow index transaction id
    | .miss index => do
      let transaction ← s.activeAt index
      s.missRow index transaction
    | .write index id token jitter => do
      let transaction ← s.activeAt index
      s.writeRow index transaction id token jitter
    | .commit index lost => do
      let transaction ← s.activeAt index
      s.commit index transaction lost
    | .abort index => do
      let transaction ← s.activeAt index
      return s.abort index transaction

/-! ### What a step can do -/

theorem QueueState.activeAt_some {s : QueueState Value} {index : Nat}
    {transaction : Transaction Value} :
    s.activeAt index = some transaction ↔
      s.transactions[index]? = some transaction ∧ transaction.phase.isActive = true := by
  unfold activeAt
  rw [Option.filter_eq_some_iff]

omit [JsonValue Value] in
theorem rowOf_some {id : Uuid} {rows : List (OutboxRow Value)} {row : OutboxRow Value}
    (found : rowOf id rows = some row) : row ∈ rows ∧ row.id = id := by
  have met := List.find?_some found
  exact ⟨List.mem_of_find?_eq_some found, of_decide_eq_true met⟩

/-- What locking a row requires and does. -/
theorem QueueState.lockRow_some {s t : QueueState Value} {index : Nat}
    {transaction : Transaction Value} {id : Uuid}
    (locked : s.lockRow index transaction id = some t) :
    ∃ row ∈ s.rows, row.id = id ∧
      transaction.operation.selects transaction.timestamp row = true ∧
      (∀ lock ∈ s.locks, lock.old.id ≠ id) ∧
      t = { s with locks := s.locks ++ [⟨index, row, .held⟩] } := by
  obtain ⟨row, found, locked⟩ := Option.bind_eq_some_iff.mp locked
  obtain ⟨seen, _, locked⟩ := Option.bind_eq_some_iff.mp locked
  split at locked
  · rename_i allowed
    obtain ⟨selected, _, free, _⟩ := allowed
    obtain ⟨member, named⟩ := rowOf_some found
    exact ⟨row, member, named, selected, fun lock member =>
      of_decide_eq_true (List.all_eq_true.mp free lock member), (Option.some.inj locked).symm⟩
  · cases locked

theorem QueueState.missRow_some {s t : QueueState Value} {index : Nat}
    {transaction : Transaction Value} (missed : s.missRow index transaction = some t) :
    s.locksOf index = [] ∧
      t = { s with
        transactions := s.transactions.set index { transaction with missed := true } } := by
  obtain ⟨id, _, missed⟩ := Option.bind_eq_some_iff.mp missed
  split at missed
  · rename_i allowed
    exact ⟨List.isEmpty_iff.mp allowed.1, (Option.some.inj missed).symm⟩
  · cases missed

/-- What treating a locked row requires and does. -/
theorem QueueState.writeRow_some {s t : QueueState Value} {index : Nat}
    {transaction : Transaction Value} {id token : Uuid} {jitter : Jitter}
    (wrote : s.writeRow index transaction id token jitter = some t) :
    ∃ lock ∈ s.locks, lock.owner = index ∧ lock.old.id = id ∧ lock.work = .held ∧
      (∀ fresh ∈ transaction.operation.generated token, fresh ∉ s.issued) ∧
      t = { s with
        locks := s.locks.map fun other => if other.old.id = lock.old.id then { other with
          work := transaction.operation.treat transaction.timestamp s.clock token jitter lock.old }
          else other
        issued := s.issued ++ transaction.operation.generated token } := by
  obtain ⟨lock, found, wrote⟩ := Option.bind_eq_some_iff.mp wrote
  split at wrote
  · rename_i fresh
    have met := List.find?_some found
    obtain ⟨own, named, waiting⟩ := of_decide_eq_true met
    refine ⟨lock, List.mem_of_find?_eq_some found, own, named, ?_,
      fun new member => by simpa using List.all_eq_true.mp fresh new member, ?_⟩
    · cases work : lock.work with
      | held => rfl
      | kept | written =>
        rw [work] at waiting
        cases waiting
    · rw [named]
      exact (Option.some.inj wrote).symm
  · cases wrote

theorem QueueState.commit_some {s t : QueueState Value} {index : Nat}
    {transaction : Transaction Value} {lost : Bool}
    (committed : s.commit index transaction lost = some t) :
    ∃ reply, transaction.operation.reply ((s.locksOf index).filterMap Lock.written) = some reply ∧
      s.isTreated index transaction = true ∧
      t = { (s.locksOf index).foldl release s with
        transactions := s.transactions.set index { transaction with
          phase := .committed reply lost } } := by
  obtain ⟨reply, replied, committed⟩ := Option.bind_eq_some_iff.mp committed
  split at committed
  · rename_i treated
    exact ⟨reply, replied, treated, (Option.some.inj committed).symm⟩
  · cases committed

/-- **Everything a step can do.** -/
inductive QueueStep (offset : String → Int) (s : QueueState Value) :
    QueueAction Value → QueueState Value → Prop
  | tick (clock : DateTime) : s.clock ≤ clock → QueueStep offset s (.tick clock) { s with clock }
  | publish (typeName : String) (event : SerializedEvent Value) (tasks : List (NewTask Value))
      (rows : List (OutboxRow Value)) :
      insertTasks typeName event.sequence event s.clock tasks s.rows = .ok rows →
      QueueStep offset s (.publish typeName event tasks) { s with rows }
  | begin (operation : Operation Value) : operation.Valid offset s.clock →
      QueueStep offset s (.begin operation) { s with
        transactions := s.transactions ++ [⟨operation, s.clock, s.rows, false, .active⟩] }
  | lock (index : Nat) (transaction : Transaction Value) (row : OutboxRow Value) :
      s.activeAt index = some transaction → row ∈ s.rows →
      transaction.operation.selects transaction.timestamp row = true →
      (∀ lock ∈ s.locks, lock.old.id ≠ row.id) →
      QueueStep offset s (.lock index row.id) { s with
        locks := s.locks ++ [⟨index, row, .held⟩] }
  | miss (index : Nat) (transaction : Transaction Value) :
      s.activeAt index = some transaction → (∀ lock ∈ s.locks, lock.owner ≠ index) →
      QueueStep offset s (.miss index) { s with
        transactions := s.transactions.set index { transaction with missed := true } }
  | write (index : Nat) (transaction : Transaction Value) (lock : Lock Value) (token : Uuid)
      (jitter : Jitter) : s.activeAt index = some transaction → lock ∈ s.locks →
      lock.owner = index → lock.work = .held →
      (∀ fresh ∈ transaction.operation.generated token, fresh ∉ s.issued) →
      QueueStep offset s (.write index lock.old.id token jitter) { s with
        locks := s.locks.map fun other => if other.old.id = lock.old.id then { other with
          work := transaction.operation.treat transaction.timestamp s.clock token jitter lock.old }
          else other
        issued := s.issued ++ transaction.operation.generated token }
  | commit (index : Nat) (transaction : Transaction Value) (lost : Bool) (reply : Reply Value) :
      s.activeAt index = some transaction →
      transaction.operation.reply ((s.locksOf index).filterMap Lock.written) = some reply →
      s.isTreated index transaction = true →
      QueueStep offset s (.commit index lost) { (s.locksOf index).foldl QueueState.release s with
        transactions := s.transactions.set index { transaction with
          phase := .committed reply lost } }
  | abort (index : Nat) (transaction : Transaction Value) :
      s.activeAt index = some transaction →
      QueueStep offset s (.abort index) (s.abort index transaction)

theorem queueMachine_step {offset : String → Int} {clock : DateTime} {s t : QueueState Value}
    {action : QueueAction Value}
    (stepped : (queueMachine Value offset clock).step s action = some t) :
    QueueStep offset s action t := by
  cases action with
  | tick later =>
    simp only [queueMachine] at stepped
    split at stepped
    · rename_i ordered
      obtain rfl := Option.some.inj stepped
      exact .tick later ordered
    · cases stepped
  | publish typeName event tasks =>
    simp only [queueMachine] at stepped
    split at stepped
    · split at stepped
      · cases stepped
      · rename_i rows inserted
        obtain rfl := Option.some.inj stepped
        exact .publish typeName event tasks rows inserted
    · cases stepped
  | begin operation =>
    simp only [queueMachine] at stepped
    split at stepped
    · rename_i valid
      obtain rfl := Option.some.inj stepped
      exact .begin operation valid
    · cases stepped
  | lock index id =>
    obtain ⟨transaction, active, stepped⟩ := Option.bind_eq_some_iff.mp stepped
    obtain ⟨row, member, rfl, selected, free, rfl⟩ := QueueState.lockRow_some stepped
    exact .lock index transaction row active member selected free
  | miss index =>
    obtain ⟨transaction, active, stepped⟩ := Option.bind_eq_some_iff.mp stepped
    obtain ⟨none, rfl⟩ := QueueState.missRow_some stepped
    refine .miss index transaction active fun lock found owned => ?_
    have own : lock ∈ s.locksOf index := List.mem_filter.mpr ⟨found, decide_eq_true owned⟩
    rw [none] at own
    cases own
  | write index id token jitter =>
    obtain ⟨transaction, active, stepped⟩ := Option.bind_eq_some_iff.mp stepped
    obtain ⟨lock, member, own, rfl, waiting, fresh, rfl⟩ := QueueState.writeRow_some stepped
    exact .write index transaction lock token jitter active member own waiting fresh
  | commit index lost =>
    obtain ⟨transaction, active, stepped⟩ := Option.bind_eq_some_iff.mp stepped
    obtain ⟨reply, replied, treated, rfl⟩ := QueueState.commit_some stepped
    exact .commit index transaction lost reply active replied treated
  | abort index =>
    obtain ⟨transaction, active, stepped⟩ := Option.bind_eq_some_iff.mp stepped
    obtain rfl := Option.some.inj stepped
    exact .abort index transaction active

/-- A transaction other than the one that is set is as it was. -/
theorem QueueState.activeAt_set {s : QueueState Value} {index other : Nat}
    {transaction : Transaction Value} {locks : List (Lock Value)} (different : other ≠ index) :
    ({ s with locks, transactions := s.transactions.set index transaction }).activeAt other
      = s.activeAt other := by
  unfold activeAt
  rw [List.getElem?_set_ne different.symm]

end Transactions

end AccountManagement.Outbox
