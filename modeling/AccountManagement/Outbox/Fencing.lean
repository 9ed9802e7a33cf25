/-
**Lock tokens as fences.**

* `lease_fencing`: in every reachable state of any number of concurrent transactions, each token
  has ended at most once, by a settlement or by a recovery; a settlement whose token is no longer
  in its row, or whose lease has run out when the locked row is checked, is answered as lost
  ownership and changes nothing; and at most one token can still settle a task.
-/

import AccountManagement.Outbox.Tokens

namespace AccountManagement.Outbox

open AccountManagement.Library AccountManagement.Task
open AccountManagement.Store (insertTasks_ok)

section Fencing

variable {Value : Type} [JsonValue Value]

/-! ### Settlements -/

/-- The settlement ends without effect, and its caller is told that ownership is lost. -/
structure SettlementLost (s t : QueueState Value) (index : Nat) (transaction : Transaction Value)
    (lost : Bool) : Prop where
  rows : t.rows = s.rows
  log : t.log = s.log
  replied : t.transactions[index]? = some { transaction with
    phase := .committed (.settled (.ok .ownershipLost)) lost }

/-- The settlement is applied to the row that holds its token and whose lease was running when the
locked row was checked. -/
structure SettlementApplied (s t : QueueState Value) (index : Nat)
    (transaction : Transaction Value) (task : LeasedTask Value) (request : SettlementRequest)
    (lost : Bool) (row : OutboxRow Value) : Prop where
  current : row ∈ s.rows
  id : row.id = task.attempt.id
  token : row.lockToken = some task.lease.lockToken
  checked : ∃ reading, transaction.timestamp ≤ reading ∧ reading ≤ s.clock ∧
    isRunning reading row = true
  rows : t.rows = replaceRow (row.settled request transaction.timestamp) s.rows
  log : t.log = s.log ++
    [(task.attempt.id, .settled transaction.timestamp task.lease.lockToken request)]
  replied : ∃ result, result ≠ .ownershipLost ∧ t.transactions[index]? = some { transaction with
    phase := .committed (.settled (.ok result)) lost }

section Settlements

variable {offset : String → Int} {clock : DateTime} {s t : QueueState Value} {index : Nat}
  {transaction : Transaction Value} {task : LeasedTask Value} {request : SettlementRequest}

/-- A settlement holds at most the lock of its own row. -/
theorem QueueSound.settle_locks (sound : QueueSound offset s)
    (active : s.activeAt index = some transaction)
    (settles : transaction.operation = .settle task request) :
    s.locksOf index = [] ∨
      ∃ lock, s.locksOf index = [lock] ∧ lock ∈ s.locks ∧ LockSound s transaction lock := by
  have own : ∀ lock ∈ s.locksOf index, lock ∈ s.locks ∧ LockSound s transaction lock := by
    intro lock found
    obtain ⟨member, _, locked⟩ := sound.own active found
    exact ⟨member, locked⟩
  have ids : (s.locksOf index).map (fun lock => lock.old.id)
      = List.replicate (s.locksOf index).length task.attempt.id := by
    refine List.eq_replicate_iff.mpr ⟨List.length_map _, fun id found => ?_⟩
    obtain ⟨lock, member, rfl⟩ := List.mem_map.mp found
    have selected := (own lock member).2.selected
    rw [settles] at selected
    exact (of_decide_eq_true selected).1
  have atMost : (s.locksOf index).length ≤ 1 := by
    rw [← List.nodup_replicate, ← ids]
    exact sound.exclusive.sublist (List.filter_sublist.map _)
  rcases Nat.le_one_iff_eq_zero_or_eq_one.mp atMost with none | one
  · exact .inl (List.length_eq_zero_iff.mp none)
  · obtain ⟨lock, only⟩ := List.length_eq_one_iff.mp one
    refine .inr ⟨lock, only, own lock ?_⟩
    rw [only]
    exact List.mem_singleton.mpr rfl

/-- The transaction of a commit, afterwards. -/
theorem QueueState.getElem_set {transactions : List (Transaction Value)}
    {after : Transaction Value} (present : transactions[index]? = some transaction) :
    (transactions.set index after)[index]? = some after := by
  obtain ⟨inside, _⟩ := List.getElem?_eq_some_iff.mp present
  rw [List.getElem?_set_self inside]

/-- **The end of a settlement**: applied to the row that holds its token, or lost. -/
theorem QueueSound.settle_commit (sound : QueueSound offset s) {lost : Bool}
    (active : s.activeAt index = some transaction)
    (settles : transaction.operation = .settle task request)
    (committed : s.commit index transaction lost = some t) :
    SettlementLost s t index transaction lost ∨
      ∃ lock ∈ s.locks, lock.owner = index ∧ lock.written.isSome ∧
        SettlementApplied s t index transaction task request lost lock.old := by
  obtain ⟨reply, replied, treated, rfl⟩ := QueueState.commit_some committed
  have present := (QueueState.activeAt_some.mp active).1
  rcases sound.settle_locks active settles with none | ⟨lock, only, member, locked⟩
  · rw [settles, none] at replied
    obtain rfl := Option.some.inj replied
    refine .inl ⟨?_, ?_, QueueState.getElem_set present⟩
    · rw [none]
      rfl
    · rw [none]
      rfl
  · have owned : lock.owner = index := by
      have inside : lock ∈ s.locksOf index := by
        rw [only]
        exact List.mem_singleton.mpr rfl
      exact of_decide_eq_true (List.mem_filter.mp inside).2
    rw [settles, only] at replied
    rcases s.release_cases lock with ⟨transition, row, work, rows, log⟩ | ⟨kept, rows, log⟩
    · obtain ⟨reading, token, jitter, after, before, wrote⟩ := locked.treated transition row work
      have selected := locked.selected
      rw [settles] at wrote selected
      obtain ⟨sameId, sameToken, _⟩ := of_decide_eq_true selected
      simp only [Operation.treat] at wrote
      split at wrote
      · rename_i running
        obtain ⟨rfl, rfl⟩ := Work.written.inj wrote
        have written : lock.written
            = some (lock.old.settled request transaction.timestamp) := by
          unfold Lock.written
          rw [work]
        obtain ⟨result, answered, applied, _⟩ :=
          settlementResult_settled task.attempt lock.old request transaction.timestamp
        have told : reply = .settled (.ok result) := by
          rw [← answered]
          simpa [Operation.reply, written] using replied.symm
        refine .inr ⟨lock, member, owned, by rw [written]; rfl, locked.current, sameId, sameToken,
          ⟨reading, after, before, running⟩, ?_, ?_, result, applied, ?_⟩
        · rw [only]
          exact rows
        · rw [only, ← sameId]
          exact log
        · rw [told]
          exact QueueState.getElem_set present
      · cases wrote
    · have told : reply = .settled (.ok .ownershipLost) := by
        simpa [Operation.reply, kept, settlementResult] using replied.symm
      refine .inl ⟨?_, ?_, ?_⟩
      · rw [only]
        exact rows
      · rw [only]
        exact log
      · rw [told]
        exact QueueState.getElem_set present

end Settlements

/-! ### Runs -/

/-- What was committed, in order of the commits. -/
def Lock.entry (lock : Lock Value) : Option (Uuid × Transition) :=
  match lock.work with
  | .written transition _ => some (lock.old.id, transition)
  | _ => none

theorem foldl_release_log (released : List (Lock Value)) (s : QueueState Value) :
    (released.foldl QueueState.release s).log = s.log ++ released.filterMap Lock.entry := by
  induction released generalizing s with
  | nil => exact (List.append_nil _).symm
  | cons lock rest ih =>
    rw [List.foldl_cons, ih, Keyed.filterMap_cons_toList, ← List.append_assoc]
    congr 1
    unfold QueueState.release Lock.entry
    cases lock.work with
    | written transition row => rfl
    | held | kept => exact (List.append_nil _).symm

/-- A token that a task can still be settled with: it is in the row of the task, or in a grant for
it that is not committed yet. -/
def Holds (s : QueueState Value) (id token : Uuid) : Prop :=
  (∃ row ∈ s.rows, row.id = id ∧ row.lockToken = some token) ∨
    ∃ lock ∈ s.locks, lock.old.id = id ∧ lock.granted = some token

/-- What the steps of a machine do besides rows and locks: the log grows by ended leases of tokens
that were held, and only active transactions change. -/
structure Evolves (s t : QueueState Value) : Prop where
  log : ∃ new, t.log = s.log ++ new ∧ ∀ entry ∈ new, ∀ token,
    entry.2.endedToken = some token → Holds s entry.1 token
  transactions : t.transactions = s.transactions ∨ (∃ new, t.transactions = s.transactions ++ [new]) ∨
    ∃ index transaction after, s.activeAt index = some transaction ∧
      t.transactions = s.transactions.set index after ∧ after.operation = transaction.operation

section Runs

variable {offset : String → Int} {clock : DateTime} {s t : QueueState Value}

theorem Evolves.quiet (log : t.log = s.log)
    (transactions : t.transactions = s.transactions ∨
      (∃ new, t.transactions = s.transactions ++ [new]) ∨
      ∃ index transaction after, s.activeAt index = some transaction ∧
        t.transactions = s.transactions.set index after ∧
        after.operation = transaction.operation) : Evolves s t where
  log := ⟨[], log.trans (List.append_nil _).symm, fun _ => nofun⟩
  transactions := transactions

theorem QueueSound.evolves (sound : QueueSound offset s) {action : QueueAction Value}
    (stepped : QueueStep offset s action t) : Evolves s t := by
  cases stepped with
  | tick | publish | lock | write => exact .quiet rfl (.inl rfl)
  | begin => exact .quiet rfl (.inr (.inl ⟨_, rfl⟩))
  | miss index transaction active _ =>
    exact .quiet rfl (.inr (.inr ⟨index, transaction, _, active, rfl, rfl⟩))
  | abort index transaction active =>
    exact .quiet rfl (.inr (.inr ⟨index, transaction, _, active, rfl, rfl⟩))
  | commit index transaction lost reply active _ _ =>
    refine ⟨⟨_, foldl_release_log _ s, fun entry found token ended => ?_⟩,
      .inr (.inr ⟨index, transaction, _, active, rfl, rfl⟩)⟩
    obtain ⟨lock, own, made⟩ := List.mem_filterMap.mp found
    have member := (List.mem_filter.mp own).1
    unfold Lock.entry at made
    split at made
    · rename_i transition row work
      obtain rfl := Option.some.inj made
      obtain ⟨current, applies⟩ := sound.applies member work
      exact .inl ⟨lock.old, current, rfl, applies.ended ended⟩
    · cases made

theorem QueueSound.log_grows {actions : List (QueueAction Value)} (sound : QueueSound offset s)
    (ran : (queueMachine Value offset clock).run s actions = some t) :
    ∃ new, t.log = s.log ++ new := by
  induction actions generalizing s with
  | nil =>
    obtain rfl := Option.some.inj ran
    exact ⟨[], (List.append_nil _).symm⟩
  | cons action rest ih =>
    obtain ⟨middle, stepped, ran⟩ := Machine.run_cons ran
    have step := queueMachine_step stepped
    obtain ⟨first, begun, _⟩ := (sound.evolves step).log
    obtain ⟨later, continued⟩ := ih (queueSound_step sound step) ran
    exact ⟨first ++ later, by rw [continued, begun, List.append_assoc]⟩

/-- A row that has a token after a release had it before, or was granted it by the lock. -/
theorem QueueSound.held_release (sound : QueueSound offset s) {lock : Lock Value}
    (member : lock ∈ s.locks) {row : OutboxRow Value} (found : row ∈ (s.release lock).rows)
    {token : Uuid} (held : row.lockToken = some token) : Holds s row.id token := by
  rcases s.release_cases lock with ⟨transition, new, work, rows, _⟩ | ⟨_, rows, _⟩
  · rw [rows] at found
    rcases mem_replaceRow found with rfl | ⟨old, _⟩
    · obtain ⟨_, applies⟩ := sound.applies member work
      obtain ⟨now, rfl⟩ := applies.token held
      refine .inr ⟨lock, member, applies.id.symm, ?_⟩
      unfold Lock.granted
      rw [work]
      rfl
    · exact .inl ⟨row, old, rfl, held⟩
  · rw [rows] at found
    exact .inl ⟨row, found, rfl, held⟩

theorem QueueSound.held_releases {released : List (Lock Value)} (sound : QueueSound offset s)
    (inside : ∀ lock ∈ released, lock ∈ s.locks)
    (distinct : (released.map fun lock => lock.old.id).Nodup) {row : OutboxRow Value}
    (found : row ∈ (released.foldl QueueState.release s).rows) {token : Uuid}
    (held : row.lockToken = some token) : Holds s row.id token := by
  induction released generalizing s with
  | nil => exact .inl ⟨row, found, rfl, held⟩
  | cons lock rest ih =>
    obtain ⟨fresh, distinct⟩ := List.nodup_cons.mp distinct
    have member := inside lock List.mem_cons_self
    have before : Holds (s.release lock) row.id token := by
      refine ih (sound.release member) (fun other found => ?_) distinct found
      rw [s.release_locks lock]
      refine List.mem_filter.mpr ⟨inside other (List.mem_cons_of_mem _ found), ?_⟩
      exact decide_eq_true fun same => fresh (List.mem_map.mpr ⟨other, found, same⟩)
    rcases before with ⟨old, present, named, held⟩ | ⟨other, present, named, granted⟩
    · rw [← named]
      exact sound.held_release member present held
    · rw [s.release_locks lock] at present
      exact .inr ⟨other, (List.mem_filter.mp present).1, named, granted⟩

/-- **Tokens do not come back**: a token that has been generated is held after a step only if it was
held before. -/
theorem QueueSound.holds_step (sound : QueueSound offset s) {action : QueueAction Value}
    (stepped : QueueStep offset s action t) {id token : Uuid} (generated : token ∈ s.issued)
    (holds : Holds t id token) : Holds s id token := by
  rcases holds with ⟨row, found, named, held⟩ | ⟨lock, found, named, granted⟩
  · cases stepped with
    | tick | begin | miss | lock | write | abort => exact .inl ⟨row, found, named, held⟩
    | publish typeName event tasks rows inserted =>
      obtain ⟨rfl, _, _⟩ := insertTasks_ok inserted
      rcases List.mem_append.mp found with old | new
      · exact .inl ⟨row, old, named, held⟩
      · obtain ⟨task, _, rfl⟩ := List.mem_map.mp new
        cases held
    | commit index transaction lost reply _ _ _ =>
      rw [← named]
      exact sound.held_releases (fun lock found => (List.mem_filter.mp found).1)
        (sound.exclusive.sublist (List.filter_sublist.map _)) found held
  · obtain ⟨other, old, same, before⟩ := stepped.granted_before generated found granted
    exact .inr ⟨other, old, same.trans named, before⟩

/-- A transaction that has committed or was rolled back. -/
def Ended (s : QueueState Value) (index : Nat) : Prop :=
  ∃ transaction, s.transactions[index]? = some transaction ∧ transaction.phase.isActive = false

theorem Evolves.ended (evolves : Evolves s t) {index : Nat} (ended : Ended s index) :
    Ended t index := by
  obtain ⟨transaction, present, past⟩ := ended
  refine ⟨transaction, ?_, past⟩
  rcases evolves.transactions with same | ⟨new, grown⟩ | ⟨other, running, after, active, changed, _⟩
  · rw [same]
    exact present
  · obtain ⟨inside, _⟩ := List.getElem?_eq_some_iff.mp present
    rw [grown, List.getElem?_append_left inside]
    exact present
  · have different : other ≠ index := by
      rintro rfl
      obtain ⟨found, stillActive⟩ := QueueState.activeAt_some.mp active
      obtain rfl := Option.some.inj (present.symm.trans found)
      rw [past] at stillActive
      cases stillActive
    rw [changed, List.getElem?_set_ne different]
    exact present

/-- The operation of a transaction never changes. -/
theorem Evolves.operation (evolves : Evolves s t) {index : Nat} {transaction : Transaction Value}
    (present : s.transactions[index]? = some transaction) :
    ∃ after, t.transactions[index]? = some after ∧
      after.operation = transaction.operation := by
  rcases evolves.transactions with same | ⟨new, grown⟩ | ⟨other, running, after, active, changed, kept⟩
  · exact ⟨transaction, same ▸ present, rfl⟩
  · obtain ⟨inside, _⟩ := List.getElem?_eq_some_iff.mp present
    refine ⟨transaction, ?_, rfl⟩
    rw [grown, List.getElem?_append_left inside]
    exact present
  · by_cases same : other = index
    · subst same
      obtain rfl := Option.some.inj (present.symm.trans (QueueState.activeAt_some.mp active).1)
      exact ⟨after, changed ▸ QueueState.getElem_set present, kept⟩
    · refine ⟨transaction, ?_, rfl⟩
      rw [changed, List.getElem?_set_ne same]
      exact present

/-- A row that was kept stays kept until its transaction ends. -/
theorem QueueSound.kept_step (sound : QueueSound offset s) {action : QueueAction Value}
    (stepped : QueueStep offset s action t) {lock : Lock Value} (member : lock ∈ s.locks)
    (kept : lock.work = .kept) : lock ∈ t.locks ∨ Ended t lock.owner := by
  cases stepped with
  | tick | publish | begin | miss => exact .inl member
  | lock => exact .inl (List.mem_append_left _ member)
  | write index transaction other token jitter _ found _ waiting _ =>
    have different : lock.old.id ≠ other.old.id := by
      intro same
      obtain rfl := List.inj_on_of_nodup_map sound.exclusive member found same
      rw [waiting] at kept
      cases kept
    exact .inl (List.mem_map.mpr ⟨lock, member, if_neg different⟩)
  | commit index transaction lost reply active _ _ =>
    by_cases own : lock.owner = index
    · rw [own]
      exact .inr ⟨_, QueueState.getElem_set (QueueState.activeAt_some.mp active).1, rfl⟩
    · refine .inl ?_
      show lock ∈ ((s.locksOf index).foldl QueueState.release s).locks
      rw [foldl_release_locks]
      refine List.mem_filter.mpr ⟨member, decide_eq_true fun found => own ?_⟩
      obtain ⟨other, released, same⟩ := List.mem_map.mp found
      obtain ⟨inside, owned⟩ := List.mem_filter.mp released
      rw [← List.inj_on_of_nodup_map sound.exclusive inside member same]
      exact of_decide_eq_true owned
  | abort index transaction active =>
    by_cases own : lock.owner = index
    · rw [own]
      exact .inr ⟨_, QueueState.getElem_set (QueueState.activeAt_some.mp active).1, rfl⟩
    · exact .inl (List.mem_filter.mpr ⟨member, decide_eq_true own⟩)

theorem QueueSound.kept_run {actions : List (QueueAction Value)} (sound : QueueSound offset s)
    {lock : Lock Value} (member : lock ∈ s.locks ∨ Ended s lock.owner)
    (kept : lock.work = .kept) {transaction : Transaction Value}
    (present : s.transactions[lock.owner]? = some transaction)
    (ran : (queueMachine Value offset clock).run s actions = some t) :
    QueueSound offset t ∧ (lock ∈ t.locks ∨ Ended t lock.owner) ∧
      ∃ after, t.transactions[lock.owner]? = some after ∧
        after.operation = transaction.operation := by
  induction actions generalizing s transaction with
  | nil =>
    obtain rfl := Option.some.inj ran
    exact ⟨sound, member, transaction, present, rfl⟩
  | cons action rest ih =>
    obtain ⟨middle, stepped, ran⟩ := Machine.run_cons ran
    have step := queueMachine_step stepped
    have evolves := sound.evolves step
    obtain ⟨after, stillPresent, same⟩ := evolves.operation present
    rw [← same]
    refine ih (queueSound_step sound step) ?_ stillPresent ran
    rcases member with locked | ended
    · exact sound.kept_step step locked kept
    · exact .inr (evolves.ended ended)

/-- **Only a held token can settle**, whatever the future brings. -/
theorem QueueSound.holds_of_settled {actions : List (QueueAction Value)}
    (sound : QueueSound offset s) {id token : Uuid} (generated : token ∈ s.issued)
    (ran : (queueMachine Value offset clock).run s actions = some t)
    {new : List (Uuid × Transition)} (grown : t.log = s.log ++ new) {transition : Transition}
    (settled : (id, transition) ∈ new) (ended : transition.endedToken = some token) :
    Holds s id token := by
  induction actions generalizing s new with
  | nil =>
    obtain rfl := Option.some.inj ran
    rw [List.self_eq_append_right.mp grown] at settled
    cases settled
  | cons action rest ih =>
    obtain ⟨middle, stepped, ran⟩ := Machine.run_cons ran
    have step := queueMachine_step stepped
    have evolves := sound.evolves step
    obtain ⟨first, begun, held⟩ := evolves.log
    obtain ⟨later, continued⟩ := (queueSound_step sound step).log_grows ran
    have whole : new = first ++ later := by
      rw [begun, List.append_assoc, grown] at continued
      exact List.append_cancel_left continued
    rw [whole] at settled
    rcases List.mem_append.mp settled with now | afterwards
    · exact held (id, transition) now token ended
    · exact sound.holds_step step generated
        (ih (queueSound_step sound step) (step.issued generated) ran continued afterwards)

/-- A task has at most one token that it can still be settled with. -/
theorem QueueSound.holds_unique (sound : QueueSound offset s) {id first second : Uuid}
    (holdsFirst : Holds s id first) (holdsSecond : Holds s id second) : first = second := by
  -- the row of a grant in progress is pending, and has no token
  have apart : ∀ {row : OutboxRow Value} {lock : Lock Value} {token granted : Uuid}, row ∈ s.rows →
      lock ∈ s.locks → row.id = lock.old.id → row.lockToken = some token →
      lock.granted = some granted → False := by
    intro row lock token granted rowFound lockFound same held grants
    unfold Lock.granted at grants
    split at grants
    · rename_i transition new work
      obtain ⟨current, applies⟩ := sound.applies lockFound work
      obtain rfl := List.inj_on_of_nodup_map sound.keyed rowFound current same
      cases applies with
      | claimed owner _ now until_ pending _ =>
        rw [(sound.checks _ current).unlocked (by simp [pending])] at held
        cases held
      | settled | recovered | requeued => cases grants
    · cases grants
  rcases holdsFirst with ⟨row, found, named, held⟩ | ⟨lock, found, named, grants⟩
  · rcases holdsSecond with ⟨other, found', named', held'⟩ | ⟨lock, found', named', grants⟩
    · obtain rfl := List.inj_on_of_nodup_map sound.keyed found found' (named.trans named'.symm)
      exact Option.some.inj (held.symm.trans held')
    · exact (apart found found' (named.trans named'.symm) held grants).elim
  · rcases holdsSecond with ⟨other, found', named', held'⟩ | ⟨other, found', named', grants'⟩
    · exact (apart found' found (named'.trans named.symm) held' grants).elim
    · obtain rfl := List.inj_on_of_nodup_map sound.exclusive found found' (named.trans named'.symm)
      exact Option.some.inj (grants.symm.trans grants')

end Runs

/-! ### The fence -/

/-- A token that was generated can still settle a task: in some continuation a settlement with it
is applied to the row of the task. -/
def CanSettle (offset : String → Int) (clock : DateTime) (s : QueueState Value) (id token : Uuid) :
    Prop :=
  token ∈ s.issued ∧ ∃ actions t new now request,
    (queueMachine Value offset clock).run s actions = some t ∧ t.log = s.log ++ new ∧
      (id, .settled now token request) ∈ new

/-- A settlement that kept its row is lost. -/
theorem QueueSound.settle_kept {offset : String → Int} {s t : QueueState Value}
    (sound : QueueSound offset s) {index : Nat} {transaction : Transaction Value}
    {task : LeasedTask Value} {request : SettlementRequest} {lost : Bool}
    (active : s.activeAt index = some transaction)
    (settles : transaction.operation = .settle task request)
    (committed : s.commit index transaction lost = some t) {lock : Lock Value}
    (member : lock ∈ s.locks) (owned : lock.owner = index) (kept : lock.work = .kept) :
    SettlementLost s t index transaction lost := by
  rcases sound.settle_commit active settles committed with lost | ⟨other, found, own, written, _⟩
  · exact lost
  · have mine : lock ∈ s.locksOf index := List.mem_filter.mpr ⟨member, decide_eq_true owned⟩
    have theirs : other ∈ s.locksOf index := List.mem_filter.mpr ⟨found, decide_eq_true own⟩
    rcases sound.settle_locks active settles with none | ⟨single, only, _, _⟩
    · rw [none] at mine
      cases mine
    · rw [only] at mine theirs
      obtain rfl := List.mem_singleton.mp mine
      obtain rfl := List.mem_singleton.mp theirs
      unfold Lock.written at written
      rw [kept] at written
      cases written

/-- **A lease that has run out when its locked row is checked**: whatever follows, the settlement is
lost. -/
theorem QueueSound.settle_expired {offset : String → Int} {clock : DateTime}
    {s t u v : QueueState Value} (sound : QueueSound offset s) {index : Nat}
    {transaction : Transaction Value} {task : LeasedTask Value} {request : SettlementRequest}
    {lock : Lock Value} {token : Uuid} {jitter : Jitter} {lost : Bool}
    {actions : List (QueueAction Value)} (active : s.activeAt index = some transaction)
    (settles : transaction.operation = .settle task request) (member : lock ∈ s.locks)
    (expired : isRunning s.clock lock.old = false)
    (checked : (queueMachine Value offset clock).step s (.write index lock.old.id token jitter)
      = some t)
    (ran : (queueMachine Value offset clock).run t actions = some u)
    (committed : (queueMachine Value offset clock).step u (.commit index lost) = some v) :
    ∃ after, u.activeAt index = some after ∧ SettlementLost u v index after lost := by
  have soundAfter := queueSound_step sound (queueMachine_step checked)
  obtain ⟨running, present, checked⟩ := Option.bind_eq_some_iff.mp checked
  obtain rfl := Option.some.inj (active.symm.trans present)
  obtain ⟨held, found, owned, named, _, _, rfl⟩ := QueueState.writeRow_some checked
  obtain rfl := List.inj_on_of_nodup_map sound.exclusive found member named
  have kept : transaction.operation.treat transaction.timestamp s.clock token jitter held.old
      = .kept := by
    rw [settles]
    simp only [Operation.treat, expired]
    rfl
  have locked : { held with work := Work.kept } ∈ s.locks.map fun other =>
      if other.old.id = held.old.id then { other with
        work := transaction.operation.treat transaction.timestamp s.clock token jitter held.old }
      else other := by
    rw [kept]
    exact List.mem_map.mpr ⟨held, found, if_pos rfl⟩
  have holder : s.transactions[({ held with work := Work.kept } : Lock Value).owner]?
      = some transaction := by
    rw [← (QueueState.activeAt_some.mp active).1, ← owned]
  obtain ⟨soundLater, still, after, presentLater, same⟩ :=
    soundAfter.kept_run (.inl locked) rfl holder ran
  obtain ⟨final, activeLater, committed⟩ := Option.bind_eq_some_iff.mp committed
  refine ⟨final, activeLater, ?_⟩
  obtain ⟨presentFinal, runningFinal⟩ := QueueState.activeAt_some.mp activeLater
  have sameOwner : ({ held with work := Work.kept } : Lock Value).owner = index := owned
  rw [sameOwner] at still presentLater
  obtain rfl := Option.some.inj (presentLater.symm.trans presentFinal)
  rcases still with lockedLater | ⟨ended, presentEnded, past⟩
  · exact soundLater.settle_kept activeLater (same.trans settles) committed lockedLater rfl rfl
  · obtain rfl := Option.some.inj (presentEnded.symm.trans presentFinal)
    rw [past] at runningFinal
    cases runningFinal

/-- **Lease fencing.** In every reachable state of any number of concurrent transactions:

* each token ends at most one lease, the one it was granted for, by a settlement or a recovery;
* a settlement ends applied to the row that holds its token and whose lease was running when the
  locked row was checked, or it is lost and changes nothing;
* it is lost if its token has been settled, recovered or superseded before;
* it is lost if its lease has run out when the locked row is checked;
* at most one token can still settle a task. -/
theorem lease_fencing (offset : String → Int) (clock : DateTime) {s : QueueState Value}
    (reached : (queueMachine Value offset clock).Reachable s) :
    (∀ token, (s.log.filter fun entry => entry.2.endedToken = some token).length ≤ 1) ∧
    (∀ id transition token, (id, transition) ∈ s.log → transition.endedToken = some token →
      ∃ now, (id, .claimed now token) ∈ s.log) ∧
    (∀ index transaction task request lost t, s.activeAt index = some transaction →
      transaction.operation = .settle task request →
      (queueMachine Value offset clock).step s (.commit index lost) = some t →
      (SettlementLost s t index transaction lost ∨
        ∃ row, SettlementApplied s t index transaction task request lost row) ∧
      (((∃ entry ∈ s.log, entry.2.endedToken = some task.lease.lockToken) ∨
          ∃ row ∈ s.rows, row.id = task.attempt.id ∧
            row.lockToken ≠ some task.lease.lockToken) →
        SettlementLost s t index transaction lost)) ∧
    (∀ index transaction task request lock token jitter t, s.activeAt index = some transaction →
      transaction.operation = .settle task request → lock ∈ s.locks →
      isRunning s.clock lock.old = false →
      (queueMachine Value offset clock).step s (.write index lock.old.id token jitter) = some t →
      ∀ actions u lost v, (queueMachine Value offset clock).run t actions = some u →
        (queueMachine Value offset clock).step u (.commit index lost) = some v →
        ∃ after, u.activeAt index = some after ∧ SettlementLost u v index after lost) ∧
    ∀ id first second, CanSettle offset clock s id first → CanSettle offset clock s id second →
      first = second := by
  have sound := queueSound_reachable reached
  refine ⟨fun token => ?_, sound.endLinked, ?_, ?_, ?_⟩
  · have once : (s.log.filterMap fun entry => entry.2.endedToken).count token ≤ 1 := by
      refine List.nodup_iff_count_le_one.mp (sound.tokens.sublist ?_) token
      exact (List.sublist_append_right _ _).trans (List.sublist_append_right _ _)
    rw [List.count_filterMap] at once
    rw [← List.countP_eq_length_filter]
    refine le_trans (le_of_eq (List.countP_congr fun entry _ => ?_)) once
    simp
  · intro index transaction task request lost t active settles committed
    obtain ⟨running, present, committed⟩ := Option.bind_eq_some_iff.mp committed
    obtain rfl := Option.some.inj (active.symm.trans present)
    rcases sound.settle_commit active settles committed with without | ⟨lock, _, _, _, applied⟩
    · exact ⟨.inl without, fun _ => without⟩
    · refine ⟨.inr ⟨lock.old, applied⟩, fun gone => absurd gone ?_⟩
      rintro (⟨entry, logged, ended⟩ | ⟨row, member, named, other⟩)
      · have inRow : task.lease.lockToken ∈ s.rows.filterMap OutboxRow.lockToken :=
          List.mem_filterMap.mpr ⟨lock.old, applied.current, applied.token⟩
        have inLog : task.lease.lockToken ∈ s.locks.filterMap Lock.granted ++
            s.log.filterMap fun entry => entry.2.endedToken :=
          List.mem_append_right _ (List.mem_filterMap.mpr ⟨entry, logged, ended⟩)
        exact (List.nodup_append.mp sound.tokens).2.2 _ inRow _ inLog rfl
      · rw [List.inj_on_of_nodup_map sound.keyed member applied.current
          (named.trans applied.id.symm)] at other
        exact other applied.token
  · intro index transaction task request lock token jitter t active settles member expired checked
      actions u lost v ran committed
    exact sound.settle_expired active settles member expired checked ran committed
  · rintro id first second ⟨generated, actions, t, new, now, request, ran, grown, settled⟩
      ⟨generated', actions', t', new', now', request', ran', grown', settled'⟩
    exact sound.holds_unique (sound.holds_of_settled generated ran grown settled rfl)
      (sound.holds_of_settled generated' ran' grown' settled' rfl)

end Fencing

/-- A settlement that waits until its lease has run out, and then the recovery of the row. -/
def lateSettlement : List (QueueAction (Store.PlainValue Nat Nat)) :=
  let lease : Duration := .fromMillis 5
  let delivery : LeasedTask (Store.PlainValue Nat Nat) :=
    ⟨⟨1, mailFormat, .object, .object, 1, Store.PlainValue.isObject_object,
      Store.PlainValue.isObject_object, Int.zero_lt_one⟩, ⟨7, 5000000⟩⟩
  let jitter : Jitter := .neutral
  [.publish "user_account" mailEvent [Store.mailTask 1 .now trivial],
    .begin (.claim mailFormat "worker" 1 lease 0 5000000), .lock 0 1, .write 0 1 7 jitter,
    .commit 0 false, .begin (.settle delivery .completed), .tick 5000000,
    .lock 1 1, .write 1 1 0 jitter, .commit 1 false,
    .begin (.recoverExpired 10), .lock 2 1, .write 2 1 0 jitter, .commit 2 false]

theorem lease_fencing_lateSettlement :
    let s := (queueMachine (Store.PlainValue Nat Nat) (fun _ => 0) 0).after lateSettlement
      (by decide +kernel)
    s.log.map (fun entry => entry.2.endedToken) = [none, some 7] ∧
      ∀ token, (s.log.filter fun entry => entry.2.endedToken = some token).length ≤ 1 := by
  intro s
  exact ⟨by decide +kernel, (lease_fencing (fun _ => 0) 0
    (Machine.reachable_after lateSettlement (by decide +kernel))).1⟩

end AccountManagement.Outbox
