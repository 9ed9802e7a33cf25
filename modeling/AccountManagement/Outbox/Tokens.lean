/-
**Where the lock tokens are.**

The invariant of the queue under concurrent transactions. A lock holds the committed version of its
row, and every token is in at most one place: a committed row, a grant that is not committed yet, or
an ended lease (`QueueSound.tokens`). A commit only moves tokens: a claim from its lock into the row,
a settlement or a recovery from the row to the ended leases (`Transition.Applies.tokens`).
-/

import AccountManagement.Library.Keyed
import AccountManagement.Outbox.Transactions

namespace AccountManagement.Outbox

open AccountManagement.Library AccountManagement.Task
open AccountManagement.Store (SerializedEvent insertTasks taskRows insertTasks_ok)

/-- The token a transition grants. -/
def Transition.grantedToken : Transition → Option Uuid
  | .claimed _ token => some token
  | _ => none

/-- The token whose lease a transition ends. -/
def Transition.endedToken : Transition → Option Uuid
  | .settled _ token _ => some token
  | .recovered _ token _ => some token
  | _ => none

section Tokens

variable {Value : Type} [JsonValue Value]

/-! ### One row -/

/-- A row that is not being processed has no token. -/
theorem OutboxRow.Checks.unlocked {row : OutboxRow Value} (checks : row.Checks)
    (other : row.status ≠ .processing) : row.lockToken = none :=
  (checks.locks.resolve_left fun locked => other locked.1).2.2.1

/-- A transition moves one token: from its grant into the row, or from the row to the ended
leases. -/
theorem Transition.Applies.tokens {row next : OutboxRow Value} {transition : Transition}
    (applies : transition.Applies row next) (checks : row.Checks) :
    row.lockToken.toList ++ transition.grantedToken.toList
      = next.lockToken.toList ++ transition.endedToken.toList := by
  cases applies with
  | claimed owner token now until_ pending _ =>
    rw [checks.unlocked (by simp [pending])]
    rfl
  | settled token request now reading _ held _ =>
    rw [held]
    rfl
  | recovered token delay now selectedAt _ held =>
    rw [held]
    rfl
  | requeued now failed =>
    rw [checks.unlocked (by simp [failed])]
    rfl

/-- What is written to a selected row is a transition of that row. -/
theorem Operation.treat_applies {operation : Operation Value} {timestamp reading : DateTime}
    {token : Uuid} {jitter : Jitter} {old row : OutboxRow Value} {transition : Transition}
    (selected : operation.selects timestamp old = true) (checks : old.Checks)
    (treated : operation.treat timestamp reading token jitter old = .written transition row) :
    transition.Applies old row := by
  cases operation with
  | settle task request =>
    obtain ⟨_, sameToken, processing⟩ := of_decide_eq_true selected
    simp only [Operation.treat] at treated
    split at treated
    · rename_i running
      obtain ⟨rfl, rfl⟩ := Work.written.inj treated
      exact .settled _ request timestamp reading processing sameToken running
    · cases treated
  | claim format owner limit lease anchor deadline =>
    obtain ⟨pending, _, _, available⟩ := of_decide_eq_true selected
    obtain ⟨rfl, rfl⟩ := Work.written.inj treated
    exact .claimed owner token timestamp _ pending available
  | recoverExpired limit =>
    obtain ⟨rfl, rfl⟩ := Work.written.inj treated
    have locked := checks.locks.resolve_right fun unlocked =>
      unlocked.1 (of_decide_eq_true selected).1
    obtain ⟨held, same⟩ := Option.isSome_iff_exists.mp locked.2.2.1
    refine .recovered _ _ reading timestamp selected ?_
    rw [same, Option.getD_some]
  | requeue id =>
    obtain ⟨rfl, rfl⟩ := Work.written.inj treated
    exact .requeued timestamp (of_decide_eq_true selected).2

/-- A token is granted only where it is generated. -/
theorem Operation.treat_granted {operation : Operation Value} {timestamp reading : DateTime}
    {token : Uuid} {jitter : Jitter} {old row : OutboxRow Value} {transition : Transition}
    (treated : operation.treat timestamp reading token jitter old = .written transition row) :
    transition.grantedToken.toList = operation.generated token := by
  cases operation with
  | settle task request =>
    simp only [Operation.treat] at treated
    split at treated
    · obtain ⟨rfl, rfl⟩ := Work.written.inj treated
      rfl
    · cases treated
  | claim format owner limit lease anchor deadline =>
    obtain ⟨rfl, rfl⟩ := Work.written.inj treated
    rfl
  | recoverExpired limit =>
    obtain ⟨rfl, rfl⟩ := Work.written.inj treated
    rfl
  | requeue id =>
    obtain ⟨rfl, rfl⟩ := Work.written.inj treated
    rfl

/-! ### The invariant -/

/-- The token of a grant that is not committed yet. -/
def Lock.granted (lock : Lock Value) : Option Uuid :=
  match lock.work with
  | .written transition _ => transition.grantedToken
  | _ => none

/-- All places of tokens: the rows, the grants in progress, and the ended leases. -/
def QueueState.tokens (s : QueueState Value) : List Uuid :=
  s.rows.filterMap OutboxRow.lockToken ++
    (s.locks.filterMap Lock.granted ++ s.log.filterMap fun entry => entry.2.endedToken)

/-- A lock holds the committed version of a row that its statement selects, and has written what
its operation assigns. -/
structure LockSound (s : QueueState Value) (transaction : Transaction Value) (lock : Lock Value) :
    Prop where
  current : lock.old ∈ s.rows
  selected : transaction.operation.selects transaction.timestamp lock.old = true
  treated : ∀ transition row, lock.work = .written transition row → ∃ reading token jitter,
    transaction.timestamp ≤ reading ∧ reading ≤ s.clock ∧
      transaction.operation.treat transaction.timestamp reading token jitter lock.old
        = .written transition row

structure QueueSound (offset : String → Int) (s : QueueState Value) : Prop where
  keyed : (s.rows.map OutboxRow.id).Nodup
  checks : ∀ row ∈ s.rows, row.Checks
  exclusive : (s.locks.map fun lock => lock.old.id).Nodup
  locks : ∀ lock ∈ s.locks, ∃ transaction,
    s.activeAt lock.owner = some transaction ∧ LockSound s transaction lock
  tokens : s.tokens.Nodup
  issued : ∀ token ∈ s.tokens, token ∈ s.issued
  rowLinked : ∀ row ∈ s.rows, ∀ token, row.lockToken = some token →
    ∃ now, (row.id, .claimed now token) ∈ s.log
  endLinked : ∀ id transition token, (id, transition) ∈ s.log →
    transition.endedToken = some token → ∃ now, (id, .claimed now token) ∈ s.log
  begun : ∀ transaction ∈ s.transactions, transaction.timestamp ≤ s.clock ∧
    transaction.operation.Valid offset transaction.timestamp

/-- A lock of an active transaction is sound for it. -/
theorem QueueSound.own {offset : String → Int} {s : QueueState Value} (sound : QueueSound offset s)
    {index : Nat} {transaction : Transaction Value} (active : s.activeAt index = some transaction)
    {lock : Lock Value} (own : lock ∈ s.locksOf index) :
    lock ∈ s.locks ∧ lock.owner = index ∧ LockSound s transaction lock := by
  obtain ⟨member, owned⟩ := List.mem_filter.mp own
  obtain ⟨holder, running, locked⟩ := sound.locks lock member
  rw [of_decide_eq_true owned, active] at running
  obtain rfl := Option.some.inj running
  exact ⟨member, of_decide_eq_true owned, locked⟩

/-! ### Releasing a lock -/

omit [JsonValue Value] in
theorem replaceRow_of_split {rows front back : List (OutboxRow Value)} {old row : OutboxRow Value}
    (split : Keyed.Split OutboxRow.id rows old front back) (same : row.id = old.id) :
    replaceRow row rows = front ++ row :: back := by
  unfold replaceRow
  rw [same]
  exact Keyed.map_of_split split fun _ => row

omit [JsonValue Value] in
theorem mem_replaceRow {rows : List (OutboxRow Value)} {row other : OutboxRow Value}
    (member : other ∈ replaceRow row rows) : other = row ∨ (other ∈ rows ∧ other.id ≠ row.id) := by
  obtain ⟨old, found, rfl⟩ := List.mem_map.mp member
  split
  · exact .inl rfl
  · rename_i different
    exact .inr ⟨found, different⟩

omit [JsonValue Value] in
theorem mem_replaceRow_of_ne {rows : List (OutboxRow Value)} {row other : OutboxRow Value}
    (member : other ∈ rows) (different : other.id ≠ row.id) : other ∈ replaceRow row rows :=
  List.mem_map.mpr ⟨other, member, if_neg different⟩

/-- What a released lock leaves of the other locks. -/
theorem QueueState.release_locks (s : QueueState Value) (lock : Lock Value) :
    (s.release lock).locks = s.locks.filter fun other => other.old.id ≠ lock.old.id := by
  unfold release
  split
  · rfl
  · rfl

theorem QueueState.release_frame (s : QueueState Value) (lock : Lock Value) :
    (s.release lock).clock = s.clock ∧ (s.release lock).transactions = s.transactions ∧
      (s.release lock).issued = s.issued := by
  unfold release
  split
  · exact ⟨rfl, rfl, rfl⟩
  · exact ⟨rfl, rfl, rfl⟩

/-- The tokens after the release of a lock are those before it, or fewer. -/
theorem QueueSound.release_tokens {offset : String → Int} {s : QueueState Value}
    (sound : QueueSound offset s) {lock : Lock Value} (member : lock ∈ s.locks) :
    (s.release lock).tokens.Subperm s.tokens := by
  obtain ⟨front, back, split⟩ := Keyed.split_of_mem sound.exclusive member
  have locks : (s.release lock).locks = front ++ back := by
    rw [s.release_locks lock]
    exact Keyed.filter_of_split split
  unfold QueueState.tokens
  rw [locks]
  cases work : lock.work with
  | written transition row =>
    obtain ⟨transaction, _, locked⟩ := sound.locks lock member
    obtain ⟨reading, token, jitter, _, _, treated⟩ := locked.treated transition row work
    have checks := sound.checks lock.old locked.current
    have applies := Operation.treat_applies locked.selected checks treated
    obtain ⟨before, after, around⟩ := Keyed.split_of_mem sound.keyed locked.current
    have rows : (s.release lock).rows = before ++ row :: after := by
      unfold QueueState.release
      rw [work]
      exact replaceRow_of_split around applies.id
    have log : (s.release lock).log = s.log ++ [(lock.old.id, transition)] := by
      unfold QueueState.release
      rw [work]
    have granted : lock.granted = transition.grantedToken := by
      unfold Lock.granted
      rw [work]
    have moved : ∀ place, lock.old.lockToken.toList.count place
        + transition.grantedToken.toList.count place
        = row.lockToken.toList.count place + transition.endedToken.toList.count place := by
      intro place
      rw [← List.count_append, ← List.count_append, applies.tokens checks]
    rw [rows, log, around.whole, split.whole]
    refine (List.perm_iff_count.mpr fun place => ?_).subperm
    have one := moved place
    simp only [List.filterMap_append, Keyed.filterMap_cons_toList, List.filterMap_nil,
      List.append_nil, List.count_append, granted]
    omega
  | held | kept =>
    have same : (s.release lock).rows = s.rows ∧ (s.release lock).log = s.log := by
      unfold QueueState.release
      rw [work]
      exact ⟨rfl, rfl⟩
    rw [same.1, same.2, split.whole]
    refine List.Sublist.subperm (List.Sublist.append (.refl _) (List.Sublist.append ?_ (.refl _)))
    exact (List.Sublist.append (.refl _) (List.sublist_cons_self _ _)).filterMap _

/-- What the release of a lock does to the rows and the log. -/
theorem QueueState.release_cases (s : QueueState Value) (lock : Lock Value) :
    (∃ transition row, lock.work = .written transition row ∧
      (s.release lock).rows = replaceRow row s.rows ∧
      (s.release lock).log = s.log ++ [(lock.old.id, transition)]) ∨
    (lock.written = none ∧ (s.release lock).rows = s.rows ∧ (s.release lock).log = s.log) := by
  unfold release Lock.written
  cases lock.work with
  | written transition row => exact .inl ⟨transition, row, rfl, rfl, rfl⟩
  | held | kept => exact .inr ⟨rfl, rfl, rfl⟩

/-- A released lock was written by a transition of its row. -/
theorem QueueSound.applies {offset : String → Int} {s : QueueState Value}
    (sound : QueueSound offset s) {lock : Lock Value} (member : lock ∈ s.locks)
    {transition : Transition} {row : OutboxRow Value} (work : lock.work = .written transition row) :
    lock.old ∈ s.rows ∧ transition.Applies lock.old row := by
  obtain ⟨transaction, _, locked⟩ := sound.locks lock member
  obtain ⟨reading, token, jitter, _, _, treated⟩ := locked.treated transition row work
  exact ⟨locked.current,
    Operation.treat_applies locked.selected (sound.checks lock.old locked.current) treated⟩

omit [JsonValue Value] in
/-- A row after a release that has a token had it before, or was just claimed. -/
theorem Transition.Applies.token {row next : OutboxRow Value} {transition : Transition}
    (applies : transition.Applies row next) {token : Uuid} (held : next.lockToken = some token) :
    ∃ now, transition = .claimed now token := by
  cases applies with
  | claimed owner granted now until_ _ _ =>
    obtain rfl := Option.some.inj held
    exact ⟨now, rfl⟩
  | settled => cases held
  | recovered => cases held
  | requeued => cases held

omit [JsonValue Value] in
theorem Transition.Applies.ended {row next : OutboxRow Value} {transition : Transition}
    (applies : transition.Applies row next) {token : Uuid}
    (ended : transition.endedToken = some token) : row.lockToken = some token := by
  cases applies with
  | claimed => cases ended
  | settled token request now reading _ held _ => exact held.trans ended
  | recovered token delay now selectedAt _ held => exact held.trans ended
  | requeued => cases ended

/-- **The release of a lock keeps the invariant.** -/
theorem QueueSound.release {offset : String → Int} {s : QueueState Value}
    (sound : QueueSound offset s) {lock : Lock Value} (member : lock ∈ s.locks) :
    QueueSound offset (s.release lock) := by
  have tokens := sound.release_tokens member
  obtain ⟨clock, transactions, issued⟩ := s.release_frame lock
  have fewer := s.release_locks lock
  have active : ∀ index, (s.release lock).activeAt index = s.activeAt index := by
    intro index
    unfold QueueState.activeAt
    rw [transactions]
  -- the other locks hold rows that the release does not touch
  have others : (∀ other ∈ s.rows, other.id ≠ lock.old.id → other ∈ (s.release lock).rows) →
      ∀ other ∈ (s.release lock).locks, ∃ transaction,
        (s.release lock).activeAt other.owner = some transaction ∧
          LockSound (s.release lock) transaction other := by
    intro untouched other found
    rw [fewer] at found
    obtain ⟨inside, different⟩ := List.mem_filter.mp found
    obtain ⟨transaction, running, locked⟩ := sound.locks other inside
    refine ⟨transaction, (active other.owner).trans running, ?_, locked.selected, ?_⟩
    · exact untouched other.old locked.current (of_decide_eq_true different)
    · rw [clock]
      exact locked.treated
  have exclusive : ((s.release lock).locks.map fun lock => lock.old.id).Nodup := by
    rw [fewer]
    exact sound.exclusive.sublist (List.filter_sublist.map _)
  have distinct : (s.release lock).tokens.Nodup := by
    obtain ⟨kept, same, part⟩ := tokens
    exact same.nodup_iff.mp (sound.tokens.sublist part)
  have known : ∀ token ∈ (s.release lock).tokens, token ∈ (s.release lock).issued := by
    intro token found
    rw [issued]
    exact sound.issued token (tokens.subset found)
  have begun : ∀ transaction ∈ (s.release lock).transactions,
      transaction.timestamp ≤ (s.release lock).clock ∧
        transaction.operation.Valid offset transaction.timestamp := by
    rw [transactions, clock]
    exact sound.begun
  rcases s.release_cases lock with ⟨transition, row, work, rows, log⟩ | ⟨_, rows, log⟩
  · obtain ⟨current, applies⟩ := sound.applies member work
    have grown : ∀ entry ∈ s.log, entry ∈ (s.release lock).log := by
      intro entry old
      rw [log]
      exact List.mem_append_left _ old
    have own : (lock.old.id, transition) ∈ (s.release lock).log := by
      rw [log]
      exact List.mem_append_right _ (List.mem_singleton.mpr rfl)
    refine ⟨?_, ?_, exclusive, others fun other found different => ?_, distinct, known, ?_, ?_,
      begun⟩
    · obtain ⟨before, after, around⟩ := Keyed.split_of_mem sound.keyed current
      have keyed := sound.keyed
      rw [rows, replaceRow_of_split around applies.id, List.map_append, List.map_cons, applies.id,
        ← List.map_cons, ← List.map_append, ← around.whole]
      exact keyed
    · intro other found
      rw [rows] at found
      rcases mem_replaceRow found with rfl | ⟨old, _⟩
      · exact applies.checks (sound.checks lock.old current)
      · exact sound.checks other old
    · rw [rows]
      exact mem_replaceRow_of_ne found (by rwa [applies.id])
    · intro other found token held
      rw [rows] at found
      rcases mem_replaceRow found with rfl | ⟨old, _⟩
      · obtain ⟨now, rfl⟩ := applies.token held
        rw [applies.id]
        exact ⟨now, own⟩
      · obtain ⟨now, claimed⟩ := sound.rowLinked other old token held
        exact ⟨now, grown _ claimed⟩
    · intro id ending token found ended
      rw [log] at found
      rcases List.mem_append.mp found with old | new
      · obtain ⟨now, claimed⟩ := sound.endLinked id ending token old ended
        exact ⟨now, grown _ claimed⟩
      · obtain ⟨rfl, rfl⟩ := Prod.mk.inj (List.mem_singleton.mp new)
        obtain ⟨now, claimed⟩ := sound.rowLinked lock.old current token (applies.ended ended)
        exact ⟨now, grown _ claimed⟩
  · refine ⟨?_, ?_, exclusive, others fun other found _ => ?_, distinct, known, ?_, ?_, begun⟩
    · rw [rows]
      exact sound.keyed
    · rw [rows]
      exact sound.checks
    · rw [rows]
      exact found
    · rw [rows, log]
      exact sound.rowLinked
    · rw [log]
      exact sound.endLinked

/-- What is left of the locks after the release of some of them. -/
theorem foldl_release_locks (released : List (Lock Value)) (s : QueueState Value) :
    (released.foldl QueueState.release s).locks
      = s.locks.filter fun other => other.old.id ∉ released.map fun lock => lock.old.id := by
  induction released generalizing s with
  | nil => simp
  | cons lock rest ih =>
    rw [List.foldl_cons, ih, s.release_locks lock, List.filter_filter]
    refine List.filter_congr fun other _ => ?_
    simp only [List.map_cons, List.mem_cons, not_or, Bool.decide_and, Bool.and_comm]

theorem foldl_release_frame (released : List (Lock Value)) (s : QueueState Value) :
    (released.foldl QueueState.release s).clock = s.clock ∧
      (released.foldl QueueState.release s).transactions = s.transactions ∧
      (released.foldl QueueState.release s).issued = s.issued := by
  induction released generalizing s with
  | nil => exact ⟨rfl, rfl, rfl⟩
  | cons lock rest ih =>
    obtain ⟨clock, transactions, issued⟩ := ih (s.release lock)
    obtain ⟨clock', transactions', issued'⟩ := s.release_frame lock
    exact ⟨clock.trans clock', transactions.trans transactions', issued.trans issued'⟩

/-- **Releasing several locks keeps the invariant.** -/
theorem QueueSound.releases {offset : String → Int} {released : List (Lock Value)}
    {s : QueueState Value} (sound : QueueSound offset s) (inside : ∀ lock ∈ released, lock ∈ s.locks)
    (distinct : (released.map fun lock => lock.old.id).Nodup) :
    QueueSound offset (released.foldl QueueState.release s) := by
  induction released generalizing s with
  | nil => exact sound
  | cons lock rest ih =>
    obtain ⟨fresh, distinct⟩ := List.nodup_cons.mp distinct
    refine ih (sound.release (inside lock List.mem_cons_self)) (fun other found => ?_) distinct
    rw [s.release_locks lock]
    refine List.mem_filter.mpr ⟨inside other (List.mem_cons_of_mem _ found), ?_⟩
    exact decide_eq_true fun same => fresh (List.mem_map.mpr ⟨other, found, same⟩)

omit [JsonValue Value] in
theorem Lock.written_some {lock : Lock Value} {row : OutboxRow Value}
    (wrote : lock.written = some row) : ∃ transition, lock.work = .written transition row := by
  unfold written at wrote
  split at wrote
  · rename_i transition new work
    obtain rfl := Option.some.inj wrote
    exact ⟨transition, work⟩
  · cases wrote

/-- A row that no released lock has written stays. -/
theorem mem_foldl_release {released : List (Lock Value)} {s : QueueState Value}
    {row : OutboxRow Value} (member : row ∈ s.rows)
    (untouched : ∀ lock ∈ released, ∀ new, lock.written = some new → new.id ≠ row.id) :
    row ∈ (released.foldl QueueState.release s).rows := by
  induction released generalizing s with
  | nil => exact member
  | cons lock rest ih =>
    refine ih ?_ fun other found => untouched other (List.mem_cons_of_mem _ found)
    rcases s.release_cases lock with ⟨transition, new, work, rows, _⟩ | ⟨_, rows, _⟩
    · rw [rows]
      refine mem_replaceRow_of_ne member (untouched lock List.mem_cons_self new ?_).symm
      unfold Lock.written
      rw [work]
    · rw [rows]
      exact member

/-- What the released locks have written is committed. -/
theorem QueueSound.mem_releases {offset : String → Int} {released : List (Lock Value)}
    {s : QueueState Value} (sound : QueueSound offset s) (inside : ∀ lock ∈ released, lock ∈ s.locks)
    (distinct : (released.map fun lock => lock.old.id).Nodup) {lock : Lock Value}
    (found : lock ∈ released) {row : OutboxRow Value} (wrote : lock.written = some row) :
    row ∈ (released.foldl QueueState.release s).rows := by
  induction released generalizing s with
  | nil => cases found
  | cons head rest ih =>
    obtain ⟨fresh, distinct⟩ := List.nodup_cons.mp distinct
    have apart : ∀ other ∈ rest, other.old.id ≠ head.old.id :=
      fun other found same => fresh (List.mem_map.mpr ⟨other, found, same⟩)
    rcases List.mem_cons.mp found with rfl | found
    · obtain ⟨transition, work⟩ := Lock.written_some wrote
      obtain ⟨current, applies⟩ := sound.applies (inside lock List.mem_cons_self) work
      refine mem_foldl_release (s := s.release lock) ?_ fun other released new written => ?_
      · unfold QueueState.release
        rw [work]
        exact List.mem_map.mpr ⟨lock.old, current, if_pos applies.id.symm⟩
      · obtain ⟨transition', work'⟩ := Lock.written_some written
        obtain ⟨_, applies'⟩ := sound.applies (inside other (List.mem_cons_of_mem _ released)) work'
        rw [applies.id, applies'.id]
        exact apart other released
    · refine ih (sound.release (inside head List.mem_cons_self)) (fun other released => ?_) distinct
        found
      rw [s.release_locks head]
      exact List.mem_filter.mpr ⟨inside other (List.mem_cons_of_mem _ released),
        decide_eq_true (apart other released)⟩

/-! ### The steps -/

theorem QueueStep.clock_le {offset : String → Int} {s t : QueueState Value}
    {action : QueueAction Value} (stepped : QueueStep offset s action t) : s.clock ≤ t.clock := by
  cases stepped with
  | tick clock later => exact later
  | publish | begin | lock | miss | write | abort => exact le_refl _
  | commit index => exact le_of_eq (foldl_release_frame (s.locksOf index) s).1.symm

theorem QueueStep.issued {offset : String → Int} {s t : QueueState Value}
    {action : QueueAction Value} (stepped : QueueStep offset s action t) : s.issued ⊆ t.issued := by
  cases stepped with
  | tick | publish | begin | lock | miss | abort => exact List.Subset.refl _
  | write => exact List.subset_append_left _ _
  | commit index =>
    show s.issued ⊆ ((s.locksOf index).foldl QueueState.release s).issued
    rw [(foldl_release_frame (s.locksOf index) s).2.2]
    exact List.Subset.refl _

/-- What a commit found and left. -/
theorem QueueStep.committed {offset : String → Int} {s t : QueueState Value} {index : Nat}
    {lost : Bool} (stepped : QueueStep offset s (.commit index lost) t) :
    ∃ transaction reply, s.activeAt index = some transaction ∧
      transaction.operation.reply ((s.locksOf index).filterMap Lock.written) = some reply ∧
      t.rows = ((s.locksOf index).foldl QueueState.release s).rows ∧
      t.transactions[index]? = some { transaction with phase := .committed reply lost } := by
  cases stepped with
  | commit _ transaction _ reply active replied _ =>
    obtain ⟨inside, _⟩ := List.getElem?_eq_some_iff.mp (QueueState.activeAt_some.mp active).1
    exact ⟨transaction, reply, active, replied, rfl, List.getElem?_set_self inside⟩

/-- A token that was generated before a step is being granted after it only if it was before. -/
theorem QueueStep.granted_before {offset : String → Int} {s t : QueueState Value}
    {action : QueueAction Value} (stepped : QueueStep offset s action t) {token : Uuid}
    (generated : token ∈ s.issued) {lock : Lock Value} (found : lock ∈ t.locks)
    (granted : lock.granted = some token) :
    ∃ other ∈ s.locks, other.old.id = lock.old.id ∧ other.granted = some token := by
  cases stepped with
  | tick | publish | begin | miss => exact ⟨lock, found, rfl, granted⟩
  | lock index transaction row _ _ _ _ =>
    rcases List.mem_append.mp found with old | new
    · exact ⟨lock, old, rfl, granted⟩
    · obtain rfl := List.mem_singleton.mp new
      cases granted
  | write index transaction target new jitter _ _ _ _ fresh =>
    obtain ⟨before, old, rfl⟩ := List.mem_map.mp found
    split at granted
    · unfold Lock.granted at granted
      cases treated : transaction.operation.treat transaction.timestamp s.clock new jitter
          target.old with
      | written transition row =>
        rw [treated] at granted
        have isNew : token ∈ transaction.operation.generated new := by
          rw [← Operation.treat_granted treated, show transition.grantedToken = some token from
            granted]
          exact List.mem_singleton.mpr rfl
        exact absurd generated (fresh token isNew)
      | held | kept =>
        rw [treated] at granted
        cases granted
    · rename_i different
      rw [if_neg different]
      exact ⟨before, old, rfl, granted⟩
  | commit index transaction lost reply _ _ _ =>
    have remaining : lock ∈ ((s.locksOf index).foldl QueueState.release s).locks := found
    rw [foldl_release_locks] at remaining
    exact ⟨lock, (List.mem_filter.mp remaining).1, rfl, granted⟩
  | abort index transaction _ => exact ⟨lock, (List.mem_filter.mp found).1, rfl, granted⟩

section Steps

variable {offset : String → Int} {s : QueueState Value} (sound : QueueSound offset s)
include sound

theorem QueueSound.tick {clock : DateTime} (later : s.clock ≤ clock) :
    QueueSound offset { s with clock } := by
  refine ⟨sound.keyed, sound.checks, sound.exclusive, fun lock member => ?_, sound.tokens,
    sound.issued, sound.rowLinked, sound.endLinked, fun transaction member => ?_⟩
  · obtain ⟨transaction, active, locked⟩ := sound.locks lock member
    refine ⟨transaction, active, locked.current, locked.selected, fun transition row work => ?_⟩
    obtain ⟨reading, token, jitter, after, before, treated⟩ := locked.treated transition row work
    exact ⟨reading, token, jitter, after, before.trans later, treated⟩
  · exact ⟨(sound.begun transaction member).1.trans later, (sound.begun transaction member).2⟩

theorem QueueSound.publish {typeName : String} {event : SerializedEvent Value}
    {tasks : List (NewTask Value)} {rows : List (OutboxRow Value)}
    (inserted : insertTasks typeName event.sequence event s.clock tasks s.rows = .ok rows) :
    QueueSound offset { s with rows } := by
  obtain ⟨rfl, checked, keyed⟩ := insertTasks_ok inserted
  have unlocked : ∀ row ∈ taskRows typeName event.sequence event s.clock tasks,
      row.lockToken = none := by
    intro row member
    obtain ⟨task, _, rfl⟩ := List.mem_map.mp member
    rfl
  have tokens : ({ s with rows := s.rows ++ taskRows typeName event.sequence event s.clock tasks } :
      QueueState Value).tokens = s.tokens := by
    unfold QueueState.tokens
    rw [List.filterMap_append, List.filterMap_eq_nil_iff.mpr unlocked, List.append_nil]
  refine ⟨keyed, List.forall_mem_append.mpr ⟨sound.checks, checked⟩, sound.exclusive,
    fun lock member => ?_, ?_, ?_, ?_, sound.endLinked, sound.begun⟩
  · obtain ⟨transaction, active, locked⟩ := sound.locks lock member
    exact ⟨transaction, active, List.mem_append_left _ locked.current, locked.selected,
      locked.treated⟩
  · rw [tokens]
    exact sound.tokens
  · rw [tokens]
    exact sound.issued
  · refine List.forall_mem_append.mpr ⟨sound.rowLinked, fun row member token held => ?_⟩
    rw [unlocked row member] at held
    cases held

theorem QueueSound.begin {operation : Operation Value} (valid : operation.Valid offset s.clock) :
    QueueSound offset { s with
      transactions := s.transactions ++ [⟨operation, s.clock, s.rows, false, .active⟩] } := by
  refine ⟨sound.keyed, sound.checks, sound.exclusive, fun lock member => ?_, sound.tokens,
    sound.issued, sound.rowLinked, sound.endLinked,
    List.forall_mem_append.mpr ⟨sound.begun, List.forall_mem_singleton.mpr ⟨le_refl _, valid⟩⟩⟩
  obtain ⟨transaction, active, locked⟩ := sound.locks lock member
  obtain ⟨present, running⟩ := QueueState.activeAt_some.mp active
  refine ⟨transaction, QueueState.activeAt_some.mpr ⟨?_, running⟩, locked.current, locked.selected,
    locked.treated⟩
  obtain ⟨inside, _⟩ := List.getElem?_eq_some_iff.mp present
  show (s.transactions ++ _)[lock.owner]? = some transaction
  rw [List.getElem?_append_left inside]
  exact present

theorem QueueSound.lock {index : Nat} {transaction : Transaction Value}
    (active : s.activeAt index = some transaction) {row : OutboxRow Value} (member : row ∈ s.rows)
    (selected : transaction.operation.selects transaction.timestamp row = true)
    (free : ∀ lock ∈ s.locks, lock.old.id ≠ row.id) :
    QueueSound offset { s with locks := s.locks ++ [⟨index, row, .held⟩] } := by
  have tokens : ({ s with locks := s.locks ++ [⟨index, row, .held⟩] } : QueueState Value).tokens
      = s.tokens := by
    unfold QueueState.tokens
    rw [List.filterMap_append]
    simp [Lock.granted]
  refine ⟨sound.keyed, sound.checks, ?_, ?_, ?_, ?_, sound.rowLinked, sound.endLinked,
    sound.begun⟩
  · rw [List.map_append, List.map_singleton, ← List.concat_eq_append]
    refine List.Nodup.concat (fun taken => ?_) sound.exclusive
    obtain ⟨lock, found, same⟩ := List.mem_map.mp taken
    exact free lock found same
  · refine List.forall_mem_append.mpr ⟨fun lock found => ?_, List.forall_mem_singleton.mpr ?_⟩
    · obtain ⟨transaction, active, locked⟩ := sound.locks lock found
      exact ⟨transaction, active, locked.current, locked.selected, locked.treated⟩
    · exact ⟨transaction, active, member, selected, fun transition row work => nomatch work⟩
  · rw [tokens]
    exact sound.tokens
  · rw [tokens]
    exact sound.issued

/-- A change of a transaction without locks keeps the invariant. -/
theorem QueueSound.setTransaction {index : Nat} {transaction : Transaction Value}
    {phase : TransactionPhase Value} {missed : Bool}
    (present : s.transactions[index]? = some transaction)
    (none : ∀ lock ∈ s.locks, lock.owner ≠ index) :
    QueueSound offset { s with
      transactions := s.transactions.set index { transaction with phase, missed } } := by
  refine ⟨sound.keyed, sound.checks, sound.exclusive, fun lock member => ?_, sound.tokens,
    sound.issued, sound.rowLinked, sound.endLinked, fun other member => ?_⟩
  · obtain ⟨holder, active, locked⟩ := sound.locks lock member
    refine ⟨holder, ?_, locked.current, locked.selected, locked.treated⟩
    exact (QueueState.activeAt_set (none lock member)).trans active
  · rcases List.mem_or_eq_of_mem_set member with old | rfl
    · exact sound.begun other old
    · exact sound.begun transaction (List.mem_of_getElem? present)

theorem QueueSound.write {index : Nat} {transaction : Transaction Value}
    (active : s.activeAt index = some transaction) {lock : Lock Value} (member : lock ∈ s.locks)
    (own : lock.owner = index) (waiting : lock.work = .held) {token : Uuid} {jitter : Jitter}
    (fresh : ∀ new ∈ transaction.operation.generated token, new ∉ s.issued) :
    QueueSound offset { s with
      locks := s.locks.map fun other => if other.old.id = lock.old.id then { other with
        work := transaction.operation.treat transaction.timestamp s.clock token jitter lock.old }
        else other
      issued := s.issued ++ transaction.operation.generated token } := by
  obtain ⟨front, back, split⟩ := Keyed.split_of_mem sound.exclusive member
  let work := transaction.operation.treat transaction.timestamp s.clock token jitter lock.old
  have changed : (s.locks.map fun other => if other.old.id = lock.old.id then
      { other with work := work } else other) = front ++ { lock with work := work } :: back :=
    Keyed.map_of_split split fun other => { other with work := work }
  have ids : (front ++ { lock with work := work } :: back).map (fun lock => lock.old.id)
      = s.locks.map fun lock => lock.old.id := by
    rw [split.whole, List.map_append, List.map_append, List.map_cons, List.map_cons]
  obtain ⟨holder, running, locked⟩ := sound.locks lock member
  obtain rfl : transaction = holder := by
    rw [own, active] at running
    exact Option.some.inj running
  have began : transaction.timestamp ≤ s.clock :=
    (sound.begun transaction (List.mem_of_getElem? (QueueState.activeAt_some.mp active).1)).1
  have none : lock.granted = none := by
    unfold Lock.granted
    rw [waiting]
  have granted : ({ lock with work := work } : Lock Value).granted.toList
      ⊆ transaction.operation.generated token := by
    unfold Lock.granted
    cases treated : work with
    | written transition row =>
      rw [Operation.treat_granted treated]
      exact List.Subset.refl _
    | held | kept => exact List.nil_subset _
  have tokens : ({ s with
      locks := front ++ { lock with work := work } :: back
      issued := s.issued ++ transaction.operation.generated token } : QueueState Value).tokens.Perm
      (({ lock with work := work } : Lock Value).granted.toList ++ s.tokens) := by
    unfold QueueState.tokens
    rw [split.whole]
    refine List.perm_iff_count.mpr fun place => ?_
    simp only [List.filterMap_append, Keyed.filterMap_cons_toList, List.count_append, none,
      Option.toList_none, List.count_nil]
    omega
  rw [changed]
  refine ⟨sound.keyed, sound.checks, ?_, ?_, ?_, ?_, sound.rowLinked, sound.endLinked,
    sound.begun⟩
  · rw [ids]
    exact sound.exclusive
  · intro other found
    have old : other = { lock with work := work } ∨ other ∈ s.locks := by
      rw [split.whole]
      rcases List.mem_append.mp found with inFront | inBack
      · exact .inr (List.mem_append_left _ inFront)
      · rcases List.mem_cons.mp inBack with same | inBack
        · exact .inl same
        · exact .inr (List.mem_append_right _ (List.mem_cons_of_mem _ inBack))
    rcases old with rfl | old
    · refine ⟨transaction, running, locked.current, locked.selected, fun transition row written => ?_⟩
      exact ⟨s.clock, token, jitter, began, le_refl _, written⟩
    · obtain ⟨holder, running, locked⟩ := sound.locks other old
      exact ⟨holder, running, locked.current, locked.selected, locked.treated⟩
  · refine tokens.nodup_iff.mpr (List.nodup_append.mpr ⟨?_, sound.tokens, ?_⟩)
    · cases ({ lock with work := work } : Lock Value).granted with
      | none => exact List.nodup_nil
      | some new => exact List.nodup_singleton new
    · rintro new generated old known rfl
      exact fresh new (granted generated) (sound.issued new known)
  · intro place found
    rcases List.mem_append.mp (tokens.mem_iff.mp found) with generated | known
    · exact List.mem_append_right _ (granted generated)
    · exact List.mem_append_left _ (sound.issued place known)

/-- Locks that are given up leave no trace. -/
theorem QueueSound.dropLocks (kept : Lock Value → Bool) :
    QueueSound offset { s with locks := s.locks.filter kept } := by
  have tokens : ({ s with locks := s.locks.filter kept } : QueueState Value).tokens.Sublist
      s.tokens :=
    List.Sublist.append (.refl _) (List.Sublist.append (List.filter_sublist.filterMap _) (.refl _))
  refine ⟨sound.keyed, sound.checks, sound.exclusive.sublist (List.filter_sublist.map _),
    fun lock found => ?_, sound.tokens.sublist tokens,
    fun token found => sound.issued token (tokens.subset found), sound.rowLinked, sound.endLinked,
    sound.begun⟩
  obtain ⟨holder, running, locked⟩ := sound.locks lock (List.mem_filter.mp found).1
  exact ⟨holder, running, locked.current, locked.selected, locked.treated⟩

theorem QueueSound.commit {index : Nat} {transaction : Transaction Value}
    (active : s.activeAt index = some transaction) (phase : TransactionPhase Value) :
    QueueSound offset { (s.locksOf index).foldl QueueState.release s with
      transactions := s.transactions.set index { transaction with phase } } := by
  have inside : ∀ lock ∈ s.locksOf index, lock ∈ s.locks :=
    fun lock found => (List.mem_filter.mp found).1
  have released : QueueSound offset ((s.locksOf index).foldl QueueState.release s) :=
    sound.releases inside (sound.exclusive.sublist (List.filter_sublist.map _))
  have same := (foldl_release_frame (s.locksOf index) s).2.1
  have present := (QueueState.activeAt_some.mp active).1
  rw [← same] at present ⊢
  refine released.setTransaction present fun lock found owned => ?_
  rw [foldl_release_locks] at found
  obtain ⟨member, away⟩ := List.mem_filter.mp found
  refine of_decide_eq_true away (List.mem_map.mpr ⟨lock, ?_, rfl⟩)
  exact List.mem_filter.mpr ⟨member, decide_eq_true owned⟩

theorem QueueSound.abort {index : Nat} {transaction : Transaction Value}
    (active : s.activeAt index = some transaction) :
    QueueSound offset (s.abort index transaction) := by
  refine (sound.dropLocks fun lock => lock.owner ≠ index).setTransaction
    (QueueState.activeAt_some.mp active).1 fun lock found => ?_
  exact of_decide_eq_true (List.mem_filter.mp found).2

/-- **Every step keeps the invariant.** -/
theorem queueSound_step {action : QueueAction Value} {t : QueueState Value}
    (stepped : QueueStep offset s action t) : QueueSound offset t := by
  cases stepped with
  | tick clock later => exact sound.tick later
  | publish typeName event tasks rows inserted => exact sound.publish inserted
  | begin operation valid => exact sound.begin valid
  | lock index transaction row active member selected free =>
    exact sound.lock active member selected free
  | miss index transaction active none =>
    exact sound.setTransaction (QueueState.activeAt_some.mp active).1 none
  | write index transaction lock token jitter active member own waiting fresh =>
    exact sound.write active member own waiting fresh
  | commit index transaction lost reply active _ _ => exact sound.commit active _
  | abort index transaction active => exact sound.abort active

end Steps

theorem queueSound_reachable {offset : String → Int} {clock : DateTime} {s : QueueState Value}
    (reached : (queueMachine Value offset clock).Reachable s) : QueueSound offset s := by
  refine reached.invariant (P := QueueSound offset) ?_ fun _ _ _ _ sound stepped =>
    queueSound_step sound (queueMachine_step stepped)
  show QueueSound offset ⟨[], clock, [], [], [], []⟩
  exact ⟨List.nodup_nil, fun _ => nofun, List.nodup_nil, fun _ => nofun, List.nodup_nil,
    fun _ => nofun, fun _ => nofun, fun _ _ _ => nofun, fun _ => nofun⟩

end Tokens

end AccountManagement.Outbox
