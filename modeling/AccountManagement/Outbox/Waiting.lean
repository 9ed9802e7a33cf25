/-
**Nobody waits in a circle.**

A claim and a recovery skip the rows that others have locked. A settlement and a requeue wait for
the one row they address, and hold nothing while they wait. So a transaction waits for at most one
other, which does not wait.

* `QueueSound.replies`: what a transaction has written can always be told to its caller.
* `canCommit_of_addressed`: a transaction that has its rows ends by its own steps.
* `CommitsBy.frees`: a commit frees the row, and leaves whoever waits for it as they are.
* `queue_never_deadlocks`: in every reachable state, a transaction that has not ended can commit by
  its own steps, or after the commit of the one it waits for.
-/

import Mathlib.Data.Fintype.Card
import AccountManagement.Library.Lookups
import AccountManagement.Outbox.Fencing
import AccountManagement.Outbox.Rows

namespace AccountManagement.Outbox

open AccountManagement.Library AccountManagement.Task

section Waiting

variable {Value : Type} [JsonValue Value] {offset : String → Int} {clock : DateTime}
  {s t : QueueState Value} {index : Nat} {transaction : Transaction Value}

/-- A step of one transaction that is no rollback. -/
def QueueAction.advances (index : Nat) : QueueAction Value → Bool
  | .lock other _ => other = index
  | .miss other => other = index
  | .write other _ _ _ => other = index
  | .commit other _ => other = index
  | .tick _ | .publish _ _ _ | .begin _ | .abort _ => false

/-- A run of one transaction's own steps up to its commit, with a reply that arrives. -/
def CommitsBy (offset : String → Int) (clock : DateTime) (s : QueueState Value) (index : Nat)
    (actions : List (QueueAction Value)) (t : QueueState Value) : Prop :=
  (queueMachine Value offset clock).run s actions = some t ∧
    (∀ action ∈ actions, action.advances index = true) ∧
    ∃ transaction reply, t.transactions[index]? = some transaction ∧
      transaction.phase = .committed reply false

/-- The transaction can commit by its own steps. -/
def CanCommit (offset : String → Int) (clock : DateTime) (s : QueueState Value) (index : Nat) :
    Prop :=
  ∃ actions t, CommitsBy offset clock s index actions t

theorem CanCommit.of_step {action : QueueAction Value}
    (stepped : (queueMachine Value offset clock).step s action = some t)
    (own : action.advances index = true) (rest : CanCommit offset clock t index) :
    CanCommit offset clock s index := by
  obtain ⟨actions, last, ran, ownToo, committed⟩ := rest
  refine ⟨action :: actions, last, ?_, List.forall_mem_cons.mpr ⟨own, ownToo⟩, committed⟩
  rw [Machine.run, stepped]
  exact ran

/-! ### Replies -/

/-- **What a transaction has written can be told**: no claimed row is an invalid delivery, and every
failure has a format. -/
theorem QueueSound.replies (sound : QueueSound offset s)
    (active : s.activeAt index = some transaction) :
    ∃ reply, transaction.operation.reply ((s.locksOf index).filterMap Lock.written)
      = some reply := by
  cases operation : transaction.operation with
  | settle task request => exact ⟨_, rfl⟩
  | requeue id => exact ⟨_, rfl⟩
  | claim format owner limit lease anchor deadline =>
    have every : ∀ row ∈ (s.locksOf index).filterMap Lock.written,
        ∃ task, intoClaimedTask format deadline (row.lockToken.getD 0) row = .ok task := by
      intro row member
      obtain ⟨lock, own, wrote⟩ := List.mem_filterMap.mp member
      obtain ⟨token, reading, _, _, _, rfl⟩ := claim_written sound active operation own wrote
      have checks := sound.checks lock.old (sound.own active own).2.2.current
      obtain ⟨task, made, _⟩ := intoClaimedTask_ok checks format deadline owner (millisAsDouble lease)
        fun _ => ⟨token, reading⟩
      exact ⟨task, made⟩
    obtain ⟨tasks, claimed⟩ := mapM_returns every
    refine ⟨.claimed tasks, ?_⟩
    unfold Operation.reply
    simp only [claimed]
  | recoverExpired limit =>
    have every : ∀ row ∈ ((s.locksOf index).filterMap Lock.written).filter
        fun row => row.attempts ≥ row.maxAttempts, ∃ failure, intoFailure row = .ok failure := by
      intro row member
      obtain ⟨lock, own, wrote⟩ := List.mem_filterMap.mp (List.mem_filter.mp member).1
      obtain ⟨transition, work⟩ := Lock.written_some wrote
      obtain ⟨current, applies⟩ := sound.applies (sound.own active own).1 work
      obtain ⟨failure, made, _⟩ := intoFailure_ok (applies.checks (sound.checks lock.old current))
      exact ⟨failure, made⟩
    obtain ⟨failures, collected⟩ := mapM_returns every
    unfold Operation.reply Operation.recoveryReport
    simp only [collected]
    exact ⟨_, rfl⟩

/-! ### A transaction alone -/

/-- There is a token that was not generated yet. -/
theorem exists_fresh {issued : List Uuid} (room : issued.length < 2 ^ 128) :
    ∃ token : Uuid, token ∉ issued := by
  by_contra! taken
  have inside : (Finset.univ : Finset (Fin (2 ^ 128))).image BitVec.ofFin ⊆ issued.toFinset :=
    fun token _ => List.mem_toFinset.mpr (taken token)
  have many := (Finset.card_le_card inside).trans issued.toFinset_card_le
  rw [Finset.card_image_of_injective _ fun first second same => BitVec.ofFin.inj same,
    Finset.card_univ, Fintype.card_fin] at many
  exact absurd room (not_lt.mpr many)

theorem Operation.treat_ne_held (operation : Operation Value) (timestamp reading : DateTime)
    (token : Uuid) (jitter : Jitter) (row : OutboxRow Value) :
    (operation.treat timestamp reading token jitter row).isHeld = false := by
  cases operation with
  | settle task request =>
    simp only [Operation.treat]
    split <;> rfl
  | claim | recoverExpired | requeue => rfl

/-- The rows a transaction has locked and not treated yet. -/
def QueueState.held (s : QueueState Value) (index : Nat) : Nat :=
  (s.locksOf index).countP fun lock => lock.work.isHeld

/-- The locks of a transaction after one of them was treated. -/
theorem QueueSound.locksOf_treated (sound : QueueSound offset s) {lock : Lock Value}
    (own : lock ∈ s.locksOf index) (held : lock.work.isHeld = true) {work : Work Value}
    (treated : work.isHeld = false) (issued : List Uuid) :
    let t : QueueState Value := { s with
      locks := s.locks.map fun other =>
        if other.old.id = lock.old.id then { other with work } else other
      issued }
    (t.locksOf index).length = (s.locksOf index).length ∧ t.held index + 1 = s.held index := by
  intro t
  obtain ⟨_, distinct⟩ := sound.locksOf index
  obtain ⟨front, back, split⟩ := Keyed.split_of_mem distinct own
  have changed : t.locksOf index = front ++ { lock with work } :: back := by
    rw [← Keyed.map_of_split split fun other => { other with work }]
    show (s.locks.map _).filter _ = (s.locks.filter _).map _
    rw [List.filter_map]
    congr 2
    funext other
    simp only [Function.comp]
    split <;> rfl
  unfold QueueState.held
  rw [changed, split.whole]
  simp only [List.length_append, List.length_cons, List.countP_append, List.countP_cons, held,
    treated]
  refine ⟨trivial, ?_⟩
  simp only [Bool.false_eq_true, if_false, if_true]
  omega

/-- A new token is there when one is needed. -/
theorem Operation.exists_generated (operation : Operation Value) {issued : List Uuid}
    (room : operation.target = none → issued.length < 2 ^ 128) :
    ∃ token, (operation.generated token).all (fun new => !issued.contains new) = true ∧
      (operation.generated token).length ≤ 1 := by
  cases operation with
  | claim =>
    obtain ⟨token, fresh⟩ := exists_fresh (room rfl)
    refine ⟨token, ?_, le_refl _⟩
    simpa [Operation.generated] using fresh
  | settle | recoverExpired | requeue => exact ⟨0, rfl, Nat.zero_le _⟩

variable (clock) in
/-- One more row is treated. -/
theorem QueueSound.treat (sound : QueueSound offset s)
    (active : s.activeAt index = some transaction) (waiting : 0 < s.held index)
    (room : transaction.operation.target = none → s.issued.length < 2 ^ 128) :
    ∃ action t, (queueMachine Value offset clock).step s action = some t ∧
      action.advances index = true ∧ t.activeAt index = some transaction ∧
      (t.locksOf index).length = (s.locksOf index).length ∧ t.held index + 1 = s.held index ∧
      t.issued.length ≤ s.issued.length + 1 := by
  obtain ⟨first, own, held⟩ := List.countP_pos_iff.mp waiting
  obtain ⟨member, owned, _⟩ := sound.own active own
  obtain ⟨token, fresh, few⟩ := transaction.operation.exists_generated room
  have some_ : (s.locks.find? fun lock =>
      lock.owner = index ∧ lock.old.id = first.old.id ∧ lock.work.isHeld).isSome = true := by
    rw [List.find?_isSome]
    exact ⟨first, member, decide_eq_true ⟨owned, rfl, held⟩⟩
  obtain ⟨lock, found⟩ := Option.isSome_iff_exists.mp some_
  have matching : lock.owner = index ∧ lock.old.id = first.old.id ∧ lock.work.isHeld = true := by
    simpa using List.find?_some found
  obtain ⟨mine, named, waiting⟩ := matching
  have inside : lock ∈ s.locksOf index :=
    List.mem_filter.mpr ⟨List.mem_of_find?_eq_some found, decide_eq_true mine⟩
  have untreated := transaction.operation.treat_ne_held transaction.timestamp s.clock token .neutral
    lock.old
  obtain ⟨sameLength, fewer⟩ :=
    sound.locksOf_treated inside waiting untreated
      (s.issued ++ transaction.operation.generated token)
  have wrote : (queueMachine Value offset clock).step s
      (.write index first.old.id token .neutral) = some { s with
      locks := s.locks.map fun other => if other.old.id = lock.old.id then { other with
        work := transaction.operation.treat transaction.timestamp s.clock token .neutral lock.old }
        else other
      issued := s.issued ++ transaction.operation.generated token } := by
    show (s.activeAt index).bind _ = _
    rw [active]
    show s.writeRow index transaction first.old.id token .neutral = _
    unfold QueueState.writeRow
    rw [found, named]
    exact if_pos fresh
  refine ⟨_, _, wrote, decide_eq_true rfl, active, sameLength, fewer, ?_⟩
  rw [List.length_append]
  exact Nat.add_le_add_left few _

/-! ### Commits -/

/-- What a statement waits for has come about: a row is locked, or there is none to lock. -/
def QueueState.isAddressed (s : QueueState Value) (index : Nat) (transaction : Transaction Value) :
    Bool :=
  transaction.operation.target.isNone || transaction.missed || !(s.locksOf index).isEmpty

theorem QueueState.isAddressed_iff : s.isAddressed index transaction = true ↔
    transaction.operation.target = none ∨ transaction.missed = true ∨ s.locksOf index ≠ [] := by
  unfold QueueState.isAddressed
  simp [or_assoc]

theorem QueueSound.commits (sound : QueueSound offset s)
    (active : s.activeAt index = some transaction) (done : s.held index = 0)
    (addressed : s.isAddressed index transaction = true) : CanCommit offset clock s index := by
  obtain ⟨reply, replied⟩ := sound.replies active
  have treated : s.isTreated index transaction = true := by
    refine Bool.and_eq_true_iff.mpr ⟨List.all_eq_true.mpr fun lock own => ?_, addressed⟩
    have free := List.countP_eq_zero.mp done lock own
    simpa using free
  have committed : s.commit index transaction false = some
      { (s.locksOf index).foldl QueueState.release s with
        transactions := s.transactions.set index { transaction with
          phase := .committed reply false } } := by
    unfold QueueState.commit
    rw [replied]
    exact if_pos treated
  have ran : (queueMachine Value offset clock).run s [.commit index false] = some
      { (s.locksOf index).foldl QueueState.release s with
        transactions := s.transactions.set index { transaction with
          phase := .committed reply false } } := by
    show ((s.activeAt index).bind _).bind _ = _
    rw [active]
    show (s.commit index transaction false).bind _ = _
    rw [committed]
    rfl
  exact ⟨[.commit index false], _, ran, List.forall_mem_singleton.mpr (decide_eq_true rfl), _,
    reply, QueueState.getElem_set (QueueState.activeAt_some.mp active).1, rfl⟩

/-- **A transaction that has its row, or needs none, ends by its own steps.** -/
theorem canCommit_of_addressed (reached : (queueMachine Value offset clock).Reachable s)
    (active : s.activeAt index = some transaction)
    (addressed : s.isAddressed index transaction = true)
    (room : transaction.operation.target = none → s.issued.length + s.held index ≤ 2 ^ 128) :
    CanCommit offset clock s index := by
  -- On the number of rows that are still to be treated.
  induction waiting : s.held index generalizing s with
  | zero => exact (queueSound_reachable reached).commits active waiting addressed
  | succ count ih =>
    have sound := queueSound_reachable reached
    obtain ⟨action, t, stepped, own, still, length, fewer, issued⟩ :=
      sound.treat clock active (by omega) fun claims => by
        have := room claims
        omega
    have addressed : t.isAddressed index transaction = true := by
      rw [QueueState.isAddressed_iff, ← List.length_pos_iff] at addressed ⊢
      rwa [length]
    refine .of_step stepped own (ih (.step action reached stepped) still addressed ?_ (by omega))
    intro claims
    have := room claims
    omega

/-! ### Waiting for a row -/

theorem Operation.selects_target {operation : Operation Value} {id : Uuid}
    (target : operation.target = some id) {timestamp : DateTime} {row : OutboxRow Value}
    (selected : operation.selects timestamp row = true) : row.id = id ∧ operation.limit = 1 := by
  cases operation with
  | settle task request =>
    obtain rfl := Option.some.inj target
    exact ⟨(of_decide_eq_true selected).1, rfl⟩
  | requeue other =>
    obtain rfl := Option.some.inj target
    exact ⟨(of_decide_eq_true selected).1, rfl⟩
  | claim | recoverExpired => cases target

omit [JsonValue Value] in
theorem rowOf_member {rows : List (OutboxRow Value)} {row : OutboxRow Value}
    (keyed : (rows.map OutboxRow.id).Nodup) (member : row ∈ rows) :
    rowOf row.id rows = some row :=
  find?_of_keyed keyed member

/-- The snapshots are tables that once were committed. -/
theorem snapshots_keyed (reached : (queueMachine Value offset clock).Reachable s) :
    ∀ transaction ∈ s.transactions, (transaction.snapshot.map OutboxRow.id).Nodup := by
  refine reached.invariant (P := fun s : QueueState Value => ∀ transaction ∈ s.transactions,
    (transaction.snapshot.map OutboxRow.id).Nodup) (List.forall_mem_nil _)
    fun s action t before keyed stepped => ?_
  have replaced : ∀ {index : Nat} {transaction changed : Transaction Value},
      s.activeAt index = some transaction → changed.snapshot = transaction.snapshot →
      ∀ other ∈ s.transactions.set index changed, (other.snapshot.map OutboxRow.id).Nodup := by
    intro index transaction changed active same other member
    rcases List.mem_or_eq_of_mem_set member with old | rfl
    · exact keyed other old
    · rw [same]
      exact keyed transaction (List.mem_of_getElem? (QueueState.activeAt_some.mp active).1)
  cases queueMachine_step stepped with
  | tick | publish | lock | write => exact keyed
  | begin =>
    exact List.forall_mem_append.mpr ⟨keyed, List.forall_mem_singleton.mpr
      (queueSound_reachable before).keyed⟩
  | miss index transaction active => exact replaced active rfl
  | commit index transaction lost reply active => exact replaced active rfl
  | abort index transaction active => exact replaced active rfl

section Targeted

variable {id : Uuid} (reached : (queueMachine Value offset clock).Reachable s)
  (active : s.activeAt index = some transaction) (target : transaction.operation.target = some id)
include reached active target

theorem canCommit_of_targeted (addressed : s.isAddressed index transaction = true) :
    CanCommit offset clock s index := by
  refine canCommit_of_addressed reached active addressed fun none => ?_
  rw [target] at none
  cases none

/-- There is no row to wait for. -/
theorem canCommit_of_miss (empty : s.locksOf index = [])
    (gone : (∀ row ∈ transaction.snapshot,
        ¬ transaction.operation.selects transaction.timestamp row) ∨
      (s.isFree id ∧ ∀ row ∈ s.rows,
        ¬ transaction.operation.selects transaction.timestamp row)) :
    CanCommit offset clock s index := by
  obtain ⟨present, running⟩ := QueueState.activeAt_some.mp active
  have stepped : (queueMachine Value offset clock).step s (.miss index) = some { s with
      transactions := s.transactions.set index { transaction with missed := true } } := by
    show (s.activeAt index).bind _ = _
    rw [active]
    show s.missRow index transaction = _
    unfold QueueState.missRow
    rw [target]
    exact if_pos ⟨List.isEmpty_iff.mpr empty, gone⟩
  exact .of_step stepped (decide_eq_true rfl) (canCommit_of_targeted (.step _ reached stepped)
    (QueueState.activeAt_some.mpr ⟨QueueState.getElem_set present, running⟩) target
    (QueueState.isAddressed_iff.mpr (.inr (.inl rfl))))

/-- The row is there, and nobody holds it. -/
theorem canCommit_of_lock (empty : s.locksOf index = []) (free : s.isFree id = true)
    {row seen : OutboxRow Value} (member : row ∈ s.rows)
    (selected : transaction.operation.selects transaction.timestamp row = true)
    (snapped : seen ∈ transaction.snapshot)
    (sees : transaction.operation.selects transaction.timestamp seen = true) :
    CanCommit offset clock s index := by
  obtain ⟨named, one⟩ := Operation.selects_target target selected
  have current : rowOf id s.rows = some row := by
    rw [← named]
    exact rowOf_member (queueSound_reachable reached).keyed member
  have visible : rowOf id transaction.snapshot = some seen := by
    rw [← (Operation.selects_target target sees).1]
    exact rowOf_member (snapshots_keyed reached transaction
      (List.mem_of_getElem? (QueueState.activeAt_some.mp active).1)) snapped
  have stepped : (queueMachine Value offset clock).step s (.lock index id) = some { s with
      locks := s.locks ++ [⟨index, row, .held⟩] } := by
    show (s.activeAt index).bind _ = _
    rw [active]
    show s.lockRow index transaction id = _
    unfold QueueState.lockRow
    rw [current, visible]
    refine if_pos ⟨selected, sees, free, ?_⟩
    rw [empty, one]
    exact Nat.zero_lt_one
  refine .of_step stepped (decide_eq_true rfl) (canCommit_of_targeted (.step _ reached stepped)
    active target (QueueState.isAddressed_iff.mpr (.inr (.inr ?_))))
  exact List.ne_nil_of_mem (List.mem_filter.mpr
    ⟨List.mem_append_right _ List.mem_cons_self, decide_eq_true rfl⟩)

/-- **A statement whose row nobody holds ends by its own steps.** -/
theorem canCommit_of_free (free : s.isFree id = true) : CanCommit offset clock s index := by
  by_cases empty : s.locksOf index = []
  · by_cases unseen : ∀ row ∈ transaction.snapshot,
        ¬ transaction.operation.selects transaction.timestamp row
    · exact canCommit_of_miss reached active target empty (.inl unseen)
    by_cases outdated : ∀ row ∈ s.rows,
        ¬ transaction.operation.selects transaction.timestamp row
    · exact canCommit_of_miss reached active target empty (.inr ⟨free, outdated⟩)
    push Not at unseen outdated
    obtain ⟨seen, snapped, sees⟩ := unseen
    obtain ⟨row, member, selected⟩ := outdated
    exact canCommit_of_lock reached active target empty free member selected snapped sees
  · exact canCommit_of_targeted reached active target
      (QueueState.isAddressed_iff.mpr (.inr (.inr empty)))

end Targeted

/-! ### The holder of the row -/

/-- A transaction's own steps leave the others as they are, and give them no locks. -/
theorem QueueStep.others {action : QueueAction Value} (stepped : QueueStep offset s action t)
    {holder : Nat} (own : action.advances holder = true) (different : index ≠ holder) :
    t.activeAt index = s.activeAt index ∧ ∀ lock ∈ t.locks, lock.owner ≠ holder →
      ∃ before ∈ s.locks, before.old.id = lock.old.id ∧ before.owner = lock.owner := by
  cases stepped with
  | tick | publish | begin | abort => cases own
  | lock place transaction row _ _ _ _ =>
    obtain rfl : place = holder := of_decide_eq_true own
    refine ⟨rfl, fun lock member foreign => ?_⟩
    rcases List.mem_append.mp member with old | new
    · exact ⟨lock, old, rfl, rfl⟩
    · obtain rfl := List.mem_singleton.mp new
      exact absurd rfl foreign
  | miss place transaction =>
    obtain rfl : place = holder := of_decide_eq_true own
    exact ⟨QueueState.activeAt_set different, fun lock member _ => ⟨lock, member, rfl, rfl⟩⟩
  | write place transaction lock token jitter =>
    refine ⟨rfl, fun other member _ => ?_⟩
    obtain ⟨before, old, rfl⟩ := List.mem_map.mp member
    refine ⟨before, old, ?_⟩
    split <;> exact ⟨rfl, rfl⟩
  | commit place transaction lost reply =>
    obtain rfl : place = holder := of_decide_eq_true own
    refine ⟨@QueueState.activeAt_set _ _ s place index _ s.locks different, fun lock member _ => ?_⟩
    have left : lock ∈ ((s.locksOf place).foldl QueueState.release s).locks := member
    rw [foldl_release_locks] at left
    exact ⟨lock, (List.mem_filter.mp left).1, rfl, rfl⟩

/-- **When the holder of a row has committed, the row is free**, and whoever waited still waits. -/
theorem CommitsBy.frees {holder : Nat} {actions : List (QueueAction Value)}
    (reached : (queueMachine Value offset clock).Reachable s)
    (commits : CommitsBy offset clock s holder actions t) (different : index ≠ holder)
    {lock : Lock Value} (member : lock ∈ s.locks) (owned : lock.owner = holder) :
    t.activeAt index = s.activeAt index ∧ t.isFree lock.old.id = true := by
  obtain ⟨ran, own, ended, reply, found, committed⟩ := commits
  have kept : t.activeAt index = s.activeAt index ∧ ∀ lock ∈ t.locks, lock.owner ≠ holder →
      ∃ before ∈ s.locks, before.old.id = lock.old.id ∧ before.owner = lock.owner := by
    refine Machine.EveryStep.invariant (P := fun u : QueueState Value =>
      u.activeAt index = s.activeAt index ∧ ∀ lock ∈ u.locks, lock.owner ≠ holder →
        ∃ before ∈ s.locks, before.old.id = lock.old.id ∧ before.owner = lock.owner)
      (fun u action v advances so stepped => ?_) (Machine.everyStep_of_forall own)
      ⟨rfl, fun lock member _ => ⟨lock, member, rfl, rfl⟩⟩ ran
    obtain ⟨still, foreign⟩ := (queueMachine_step stepped).others advances different
    refine ⟨still.trans so.1, fun lock member apart => ?_⟩
    obtain ⟨middle, inside, named, holds⟩ := foreign lock member apart
    obtain ⟨before, first, namedToo, holdsToo⟩ := so.2 middle inside (by rwa [holds])
    exact ⟨before, first, namedToo.trans named, holdsToo.trans holds⟩
  refine ⟨kept.1, List.all_eq_true.mpr fun other present => decide_eq_true fun same => ?_⟩
  by_cases mine : other.owner = holder
  · -- Only an active transaction has locks, and the holder has ended.
    obtain ⟨still, active, _⟩ := (queueSound_reachable (reached.run ran)).locks other present
    obtain ⟨now, running⟩ := QueueState.activeAt_some.mp active
    rw [mine, found] at now
    obtain rfl := Option.some.inj now
    rw [committed] at running
    cases running
  · -- A lock of somebody else was there before, beside the holder's lock of the same row.
    obtain ⟨before, first, named, holds⟩ := kept.2 other present mine
    obtain rfl := List.inj_on_of_nodup_map (queueSound_reachable reached).exclusive first member
      (named.trans same)
    exact mine (holds.symm.trans owned)

theorem QueueState.held_le (s : QueueState Value) (index : Nat) : s.held index ≤ s.locks.length :=
  List.countP_le_length.trans List.filter_sublist.length_le

/-- **Nobody waits in a circle.** In every reachable state of any number of concurrent statements on
the outbox, one that has not ended can commit by its own steps; or it holds no row and waits for the
row of another one that can, and whose commit lets it commit by its own steps. A claim needs a new
token for each row, so there must be that many. -/
theorem queue_never_deadlocks (reached : (queueMachine Value offset clock).Reachable s)
    (active : s.activeAt index = some transaction)
    (room : s.issued.length + s.locks.length ≤ 2 ^ 128) :
    CanCommit offset clock s index ∨
      (s.locksOf index = [] ∧ ∃ id, transaction.operation.target = some id ∧
        ∃ lock ∈ s.locks, lock.old.id = id ∧ lock.owner ≠ index ∧
          ∃ actions t, CommitsBy offset clock s lock.owner actions t ∧
            CanCommit offset clock t index) := by
  have enough : ∀ place, s.issued.length + s.held place ≤ 2 ^ 128 := fun place =>
    (Nat.add_le_add_left (s.held_le place) _).trans room
  by_cases addressed : s.isAddressed index transaction = true
  · exact .inl (canCommit_of_addressed reached active addressed fun _ => enough index)
  rw [QueueState.isAddressed_iff, not_or, not_or, not_not] at addressed
  obtain ⟨targeted, _, empty⟩ := addressed
  obtain ⟨id, target⟩ := Option.ne_none_iff_exists'.mp targeted
  by_cases free : s.isFree id = true
  · exact .inl (canCommit_of_free reached active target free)
  -- The row is locked. Its holder is not this transaction, which has no locks, and is addressed.
  obtain ⟨lock, member, named⟩ : ∃ lock ∈ s.locks, lock.old.id = id := by
    simpa [QueueState.isFree] using free
  have held : lock ∈ s.locksOf lock.owner := List.mem_filter.mpr ⟨member, decide_eq_true rfl⟩
  have different : index ≠ lock.owner := by
    rintro rfl
    rw [empty] at held
    cases held
  obtain ⟨holder, running, _⟩ := (queueSound_reachable reached).locks lock member
  obtain ⟨actions, t, commits⟩ := canCommit_of_addressed reached running
    (QueueState.isAddressed_iff.mpr (.inr (.inr (List.ne_nil_of_mem held))))
    fun _ => enough lock.owner
  obtain ⟨still, freed⟩ := commits.frees reached different member rfl
  rw [named] at freed
  exact .inr ⟨empty, id, target, lock, member, named, different.symm, actions, t, commits,
    canCommit_of_free (reached.run commits.1) (still.trans active) target freed⟩

end Waiting

/-- The settlement of a delivery whose lease has run out waits for a recovery that has locked the
row. -/
def waitingSettlement : List (QueueAction (Store.PlainValue Nat Nat)) :=
  lateSettlement.take 7 ++ [.begin (.recoverExpired 10), .lock 2 1]

theorem queue_never_deadlocks_waitingSettlement :
    let s := (queueMachine (Store.PlainValue Nat Nat) (fun _ => 0) 0).after waitingSettlement
      (by decide +kernel)
    s.locksOf 1 = [] ∧ s.locks.map Lock.owner = [2] ∧
      (CanCommit (fun _ => 0) 0 s 1 ∨ ∃ lock ∈ s.locks, ∃ actions t,
        CommitsBy (fun _ => 0) 0 s lock.owner actions t ∧ CanCommit (fun _ => 0) 0 t 1) := by
  intro s
  have reached : (queueMachine (Store.PlainValue Nat Nat) (fun _ => 0) 0).Reachable s :=
    Machine.reachable_after waitingSettlement (by decide +kernel)
  refine ⟨by decide +kernel, by decide +kernel, ?_⟩
  have active : (s.activeAt 1).isSome = true := by decide +kernel
  rcases queue_never_deadlocks reached (Option.some_get active).symm (by decide +kernel) with
    own | ⟨_, id, _, lock, member, _, _, actions, t, commits, rest⟩
  · exact .inl own
  · exact .inr ⟨lock, member, actions, t, commits, rest⟩

end AccountManagement.Outbox
