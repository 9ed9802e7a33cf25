/-
**Bounded admission.**

The supervisor reads the length of the local queue before it claims, and the workers take from the
queue while the claim is under way. It is the only sender, so the places it has counted stay free:
`Roomy` says that the queue and what the supervisor may still send fit the capacity together.
`Staffed` is the bookkeeping of the join set and of the indices, and `Ledger` accounts for every
claimed delivery and every started execution.

* `roomy_step`, `staffed_step`, `ledger_step`: every step of every party keeps them;
* `admission_bounded`: in every reachable state neither the subtraction nor an assertion of
  `run_prepared` can fail, the queue and the executions are bounded, and until the shutdown is
  requested every claimed delivery is in exactly one place.
-/

import Mathlib.Data.List.Range
import Mathlib.Tactic.Common
import AccountManagement.Runtime.Pool

namespace AccountManagement.Runtime

open AccountManagement.Library AccountManagement.Task

/-! ### The phases of the supervisor -/

namespace SupervisorPhase

/-- The places of the queue that the supervisor counts on. -/
def reserved : SupervisorPhase → Nat
  | .claiming limit _ _ => limit
  | .checking _ batch => batch.length
  | .sending batch => batch.length
  | _ => 0

/-- A batch does not exceed the limit it was claimed under. -/
def WithinLimit : SupervisorPhase → Prop
  | .claiming limit (some progress) _ => progress.batch.length ≤ limit
  | .checking limit batch => batch.length ≤ limit
  | _ => True

/-- What a claim under way has. -/
def pending : SupervisorPhase → List PoolDelivery
  | .claiming _ (some progress) _ => progress.batch
  | _ => []

/-- What was claimed and is not in the queue yet. -/
def batch : SupervisorPhase → List PoolDelivery
  | .checking _ batch => batch
  | .sending batch => batch
  | _ => []

/-- The places of the pool that wait for a new worker. -/
def vacancies : SupervisorPhase → Nat
  | .restarting _ => 1
  | .replacing _ _ => 1
  | .spawning _ _ => 1
  | _ => 0

/-- The queue may be closed. -/
def hasClosed : SupervisorPhase → Bool
  | .draining _ _ => true
  | .aborting _ => true
  | .returned _ => true
  | _ => false

/-- The token has been cancelled, by the supervisor itself if by nobody else. -/
def hasCancelled : SupervisorPhase → Bool
  | .closing _ => true
  | phase => phase.hasClosed

attribute [simp] reserved WithinLimit pending batch vacancies hasClosed hasCancelled

end SupervisorPhase

/-- A step of the supervisor that counts on nothing new. -/
structure Eases (phase next : SupervisorPhase) : Prop where
  reserved : next.reserved ≤ phase.reserved
  within : phase.WithinLimit → next.WithinLimit
  pending : next.pending.Sublist phase.pending
  batch : next.batch = phase.batch
  vacancies : next.vacancies ≤ phase.vacancies
  closed : phase.hasClosed = true → next.hasClosed = true
  opened : next.hasClosed = false → phase.hasClosed = false
  started : next ≠ .starting
  unpanicked : next ≠ .panicked

theorem eases_of_checkpoint {phase next : SupervisorPhase} {action : SupervisorAction}
    (point : phase.checkpoint = some (action, next)) :
    Eases phase next ∧ Eases phase (.stopping (.ok ())) := by
  unfold SupervisorPhase.checkpoint at point
  split at point
  case h_4 limit progress =>
    cases point
    cases progress <;> exact ⟨by constructor <;> simp, by constructor <;> simp⟩
  all_goals
    cases point
    try exact ⟨by constructor <;> simp, by constructor <;> simp⟩

theorem SupervisorMove.eases {settings : PoolSettings} {s : PoolState}
    {phase next : SupervisorPhase} {action : SupervisorAction}
    (move : SupervisorMove settings s phase action next) : Eases phase next := by
  cases move with
  | leave point => exact (eases_of_checkpoint point).2
  | goOn point => exact (eases_of_checkpoint point).1
  | refuse | skipExit | tick | skipTick | skipNotified | rebuilt | recovered | recovering | full
  | failed | pend | accept | sent | expire | drained | aborted => constructor <;> simp

/-! ### The workers -/

/-- The join set: different Tokio ids, each registered with its index, and no more workers than
asked for. -/
structure Staffed (settings : PoolSettings) (s : PoolState) : Prop where
  distinct : s.Distinct
  spawned : ∀ worker ∈ s.workers, worker.id < s.spawned
  indexed : s.supervisor.hasClosed = false →
    s.indices = s.workers.map fun worker => (worker.id, worker.index)
  filled : s.workers.length + s.supervisor.vacancies ≤ settings.concurrency
  unstarted : s.supervisor = .starting → s.workers = []

/-- Registration of the workers, whatever the supervisor does. -/
def Registered (s : PoolState) : Prop :=
  s.Distinct ∧ (∀ worker ∈ s.workers, worker.id < s.spawned) ∧
    s.indices = s.workers.map fun worker => (worker.id, worker.index)

theorem Registered.addWorker {s : PoolState} (registered : Registered s) (index : Nat)
    (formats : List TaskFormat) : Registered (s.addWorker index formats) := by
  obtain ⟨distinct, spawned, indexed⟩ := registered
  refine ⟨?_, fun worker member => ?_, ?_⟩
  · rw [PoolState.Distinct, PoolState.addWorker, List.map_append, List.nodup_append]
    refine ⟨distinct, List.nodup_singleton _, fun id old other new same => ?_⟩
    obtain ⟨worker, member, rfl⟩ := List.mem_map.mp old
    obtain rfl := List.mem_singleton.mp new
    exact absurd same (spawned worker member).ne
  · rcases List.mem_append.mp member with old | new
    · exact (spawned worker old).trans (Nat.lt_succ_self _)
    · obtain rfl := List.mem_singleton.mp new
      exact Nat.lt_succ_self _
  · rw [PoolState.addWorker, List.map_append, ← indexed]
    rfl

/-- What holds before the first workers are added, and is kept by adding one, holds after. -/
theorem addWorkers_induction {P : PoolState → Prop}
    (keep : ∀ s index formats, P s → P (s.addWorker index formats)) {s : PoolState}
    (dispatchers : List (List TaskFormat)) (base : P s) : P (s.addWorkers dispatchers) := by
  rw [PoolState.addWorkers]
  generalize dispatchers.zipIdx = added
  induction added generalizing s with
  | nil => exact base
  | cons first rest ih => exact ih (keep s first.2 first.1 base)

theorem addWorkers_length (s : PoolState) (dispatchers : List (List TaskFormat)) :
    (s.addWorkers dispatchers).workers.length = s.workers.length + dispatchers.length := by
  rw [PoolState.addWorkers, ← List.length_zipIdx (l := dispatchers) (i := 0)]
  generalize dispatchers.zipIdx = added
  induction added generalizing s with
  | nil => rfl
  | cons first rest ih =>
    rw [List.foldl_cons, ih, PoolState.addWorker, List.length_append, List.length_cons]
    simp only [List.length_cons, List.length_nil]
    omega

/-- Adding the first workers changes the join set only, and the new workers are idle. -/
structure AddFrame (s t : PoolState) : Prop where
  idle : ∀ {β : Type} (value : PoolWorkerPhase → Option β), value .idle = none →
    (t.workers.filterMap fun worker => value worker.phase)
      = s.workers.filterMap fun worker => value worker.phase
  rest : ∃ workers indices spawned, t = { s with workers, indices, spawned }

theorem addWorker_frame (s : PoolState) (index : Nat) (formats : List TaskFormat) :
    AddFrame s (s.addWorker index formats) := by
  refine ⟨fun value none => ?_, _, _, _, rfl⟩
  rw [PoolState.addWorker, List.filterMap_append, List.append_right_eq_self]
  exact List.filterMap_cons_none none

theorem addWorkers_frame (s : PoolState) (dispatchers : List (List TaskFormat)) :
    AddFrame s (s.addWorkers dispatchers) := by
  refine addWorkers_induction (P := AddFrame s) (fun middle index formats before => ?_) dispatchers
    ⟨fun _ _ => rfl, _, _, _, rfl⟩
  have added := addWorker_frame middle index formats
  refine ⟨fun value none => (added.idle value none).trans (before.idle value none), ?_⟩
  obtain ⟨_, _, _, rfl⟩ := before.rest
  exact ⟨_, _, _, rfl⟩

/-- A worker is added to a pool with a vacancy. -/
theorem Staffed.spawn {settings : PoolSettings} {s : PoolState} {index : Nat}
    {formats : List TaskFormat} (staffed : Staffed settings s)
    (at_ : s.supervisor = .spawning index formats) :
    Staffed settings ((s.addWorker index formats).goTo .measuring) := by
  have indexed := staffed.indexed (by rw [at_]; rfl)
  have filled := staffed.filled
  rw [at_] at filled
  obtain ⟨distinct, spawned, indexed⟩ :=
    Registered.addWorker ⟨staffed.distinct, staffed.spawned, indexed⟩ index formats
  refine ⟨distinct, spawned, fun _ => indexed, ?_, nofun⟩
  simpa [PoolState.goTo, PoolState.addWorker] using filled

/-- The first workers are added to an empty pool. -/
theorem Staffed.start {settings : PoolSettings} {s : PoolState} (staffed : Staffed settings s)
    (at_ : s.supervisor = .starting) :
    Staffed settings ((s.addWorkers settings.dispatchers).goTo (.selecting .cancelled)) := by
  have indexed := staffed.indexed (by rw [at_]; rfl)
  obtain ⟨distinct, spawned, indexed⟩ :=
    addWorkers_induction (fun _ index formats registered => registered.addWorker index formats)
      settings.dispatchers (show Registered s from ⟨staffed.distinct, staffed.spawned, indexed⟩)
  refine ⟨distinct, spawned, fun _ => indexed, ?_, nofun⟩
  have total := addWorkers_length s settings.dispatchers
  rw [staffed.unstarted at_, settings.prepared] at total
  simp [PoolState.goTo, total]

/-- A worker leaves the join set. -/
theorem Staffed.remove {settings : PoolSettings} {s : PoolState} {id : Nat} {worker : PoolWorker}
    (staffed : Staffed settings s) (found : s.worker id = some worker) :
    ((s.workers.filter fun other => other.id ≠ id).map PoolWorker.id).Nodup ∧
      (∀ other ∈ s.workers.filter fun other => other.id ≠ id, other.id < s.spawned) ∧
      (s.workers.filter fun other => other.id ≠ id).length + 1 = s.workers.length := by
  refine ⟨staffed.distinct.sublist (List.filter_sublist.map _),
    fun other member => staffed.spawned other (List.mem_filter.mp member).1, ?_⟩
  obtain ⟨front, back, split, removed⟩ := PoolState.filter_split staffed.distinct found
  rw [removed, split.whole]
  simp only [List.length_append, List.length_cons]
  omega

/-- Until the drain, every worker of the join set has its index. -/
theorem Staffed.registered {settings : PoolSettings} {s : PoolState} {id : Nat} {worker : PoolWorker}
    (staffed : Staffed settings s) (opened : s.supervisor.hasClosed = false)
    (found : s.worker id = some worker) : (s.indices.find? fun entry => entry.1 = id) ≠ none := by
  intro none
  obtain ⟨member, rfl⟩ := PoolState.worker_mem found
  rw [staffed.indexed opened] at none
  have entry := List.find?_eq_none.mp none _ (List.mem_map_of_mem member)
  simp at entry

/-- The exit of a worker leaves its place vacant. -/
theorem Staffed.observeExit {settings : PoolSettings} {s : PoolState} {id index : Nat}
    {worker : PoolWorker} (staffed : Staffed settings s) (at_ : s.supervisor = .selecting .exit)
    (found : s.worker id = some worker) :
    Staffed settings { s with
      supervisor := .restarting index
      workers := s.workers.filter fun other => other.id ≠ id
      indices := s.indices.filter fun entry => entry.1 ≠ id } := by
  obtain ⟨distinct, spawned, shorter⟩ := staffed.remove found
  have filled := staffed.filled
  rw [at_] at filled
  refine ⟨distinct, spawned, fun _ => ?_, ?_, nofun⟩
  · rw [staffed.indexed (by rw [at_]; rfl), List.filter_map]
    rfl
  · simp only [SupervisorPhase.vacancies] at filled ⊢
    omega

/-- A phase change of a worker. -/
theorem Staffed.work {settings : PoolSettings} {s t : PoolState} {id : Nat}
    (staffed : Staffed settings s) (frame : WorkerFrame s id t) : Staffed settings t := by
  obtain ⟨next, workers⟩ := frame.workers
  have ids : t.workers.map PoolWorker.id = s.workers.map PoolWorker.id := by
    rw [workers]
    exact PoolState.setWorker_map PoolWorker.id (fun _ _ => rfl) next
  have entries : (t.workers.map fun worker => (worker.id, worker.index))
      = s.workers.map fun worker => (worker.id, worker.index) := by
    rw [workers]
    exact PoolState.setWorker_map (fun worker => (worker.id, worker.index)) (fun _ _ => rfl) next
  have lengths : t.workers.length = s.workers.length := by
    rw [← List.length_map (f := PoolWorker.id), ids, List.length_map]
  refine ⟨?_, fun worker member => ?_, fun opened => ?_, ?_, fun at_ => ?_⟩
  · rw [PoolState.Distinct, ids]
    exact staffed.distinct
  · have known := List.mem_map_of_mem (f := PoolWorker.id) member
    rw [ids] at known
    obtain ⟨old, oldMember, same⟩ := List.mem_map.mp known
    rw [frame.spawned, ← same]
    exact staffed.spawned old oldMember
  · rw [frame.indices, entries]
    exact staffed.indexed (by rw [← frame.supervisor, opened])
  · rw [lengths, frame.supervisor]
    exact staffed.filled
  · rw [frame.supervisor] at at_
    rw [← List.length_eq_zero_iff, lengths, staffed.unstarted at_]
    rfl

/-- A step that leaves the join set alone. -/
theorem Staffed.keep {settings : PoolSettings} {s t : PoolState} (staffed : Staffed settings s)
    (workers : t.workers = s.workers) (indices : t.indices = s.indices)
    (spawned : t.spawned = s.spawned)
    (vacancies : t.supervisor.vacancies ≤ s.supervisor.vacancies)
    (opened : t.supervisor.hasClosed = false → s.supervisor.hasClosed = false)
    (started : t.supervisor ≠ .starting) : Staffed settings t := by
  refine ⟨?_, ?_, fun open_ => ?_, ?_, fun at_ => absurd at_ started⟩
  · rw [PoolState.Distinct, workers]
    exact staffed.distinct
  · rw [workers, spawned]
    exact staffed.spawned
  · rw [indices, workers]
    exact staffed.indexed (opened open_)
  · rw [workers]
    exact (Nat.add_le_add_left vacancies _).trans staffed.filled

theorem staffed_supervised {settings : PoolSettings} {s t : PoolState} {action : SupervisorAction}
    (staffed : Staffed settings s) (supervised : Supervised settings s s.supervisor action t) :
    Staffed settings t := by
  generalize at_ : s.supervisor = phase at supervised
  have opened : phase.hasClosed = false → s.supervisor.hasClosed = false := by
    rw [at_]
    exact id
  cases supervised with
  | move move =>
    subst at_
    exact staffed.keep rfl rfl rfl move.eases.vacancies move.eases.opened move.eases.started
  | start => exact staffed.start at_
  | observeExit found => exact staffed.observeExit at_ found
  | unregistered found none =>
    exact absurd none (staffed.registered (opened rfl) found)
  | spawn => exact staffed.spawn at_
  | takePermit | buildFailed | measured | claim | complete | discard | send | stop =>
    exact staffed.keep rfl rfl rfl (Nat.zero_le _) (fun _ => opened rfl) nofun
  | panic panic =>
    refine staffed.keep rfl rfl rfl (Nat.zero_le _) (fun _ => opened ?_) nofun
    cases panic <;> rfl
  | close => exact staffed.keep rfl rfl rfl (Nat.zero_le _) nofun nofun
  | join closed found =>
    obtain ⟨distinct, spawned, shorter⟩ := staffed.remove found
    have filled := staffed.filled
    refine ⟨distinct, spawned, fun open_ => ?_, ?_, fun start => ?_⟩
    · rcases closed with ⟨result, deadline, rfl⟩ | ⟨result, rfl⟩
      · exact absurd (at_ ▸ open_) nofun
      · exact absurd (at_ ▸ open_) nofun
    · simp only
      omega
    · simp [staffed.unstarted start]

theorem staffed_step {settings : PoolSettings} {s t : PoolState} {action : PoolAction}
    (staffed : Staffed settings s) (step : PoolStep settings s action t) : Staffed settings t := by
  cases step with
  | cancel | wait =>
    exact ⟨staffed.distinct, staffed.spawned, staffed.indexed, staffed.filled, staffed.unstarted⟩
  | supervise supervised => exact staffed_supervised staffed supervised
  | work _ _ worked => exact staffed.work worked.frame

/-! ### The queue -/

/-- The queue and what the supervisor may still send fit the capacity, a batch is within its limit,
and the queue is open until the drain. -/
structure Roomy (settings : PoolSettings) (s : PoolState) : Prop where
  fits : s.queue.length + s.supervisor.reserved ≤ settings.queueCapacity
  within : s.supervisor.WithinLimit
  opened : s.closed = true → s.supervisor.hasClosed = true

theorem number_length (first : Nat) (deadlines : List Instant) :
    (PoolState.number first deadlines).length = deadlines.length := by
  rw [PoolState.number, List.length_map, List.length_zipIdx]

/-- A poll of the poller keeps the batch within the limit. -/
theorem Claims.within {settings : PoolSettings} {s : PoolState} {limit numbered : Nat}
    {before : Option ClaimProgress} {progress : ClaimProgress} {action : SupervisorAction}
    (claims : Claims settings s limit before action progress numbered)
    (within : (SupervisorPhase.claiming limit before true).WithinLimit) :
    progress.batch.length ≤ limit := by
  cases claims with
  | start => exact Nat.zero_le _
  | answer few =>
    simp only [SupervisorPhase.WithinLimit] at within
    rw [List.length_append, number_length]
    omega
  | giveUp => exact within

/-- The queue and what the supervisor counts on grow together only when it reads the length. -/
theorem promised_supervised {settings : PoolSettings} {s t : PoolState} {action : SupervisorAction}
    (within : s.supervisor.WithinLimit) (unmeasured : s.supervisor ≠ .measuring)
    (supervised : Supervised settings s s.supervisor action t) :
    t.queue.length + t.supervisor.reserved ≤ s.queue.length + s.supervisor.reserved := by
  generalize at_ : s.supervisor = phase at supervised within unmeasured ⊢
  cases supervised with
  | move move => exact Nat.add_le_add_left move.eases.reserved _
  | start =>
    obtain ⟨_, _, _, form⟩ := (addWorkers_frame s settings.dispatchers).rest
    rw [form]
    exact Nat.le_refl _
  | measured => exact absurd rfl unmeasured
  | claim claims => exact Nat.le_refl _
  | complete claims => exact Nat.add_le_add_left (claims.within within) _
  | send =>
    simp only [SupervisorPhase.reserved, List.length_append, List.length_cons, List.length_nil]
    omega
  | observeExit | unregistered | takePermit | buildFailed | discard | stop | spawn | panic | close =>
    exact Nat.le_add_right _ _
  | join => rw [← at_]

theorem roomy_supervised {settings : PoolSettings} {s t : PoolState} {action : SupervisorAction}
    (roomy : Roomy settings s) (supervised : Supervised settings s s.supervisor action t) :
    Roomy settings t := by
  have ⟨fits, within, opened⟩ := roomy
  have promised : s.supervisor ≠ .measuring →
      t.queue.length + t.supervisor.reserved ≤ settings.queueCapacity := fun unmeasured =>
    (promised_supervised within unmeasured supervised).trans fits
  generalize at_ : s.supervisor = phase at supervised
  rw [at_] at fits within opened promised
  cases supervised with
  | move move =>
    have eases := move.eases
    exact ⟨(Nat.add_le_add_left eases.reserved _).trans fits, eases.within within,
      fun closed => eases.closed (opened closed)⟩
  | start =>
    refine ⟨promised nofun, trivial, fun closed => absurd (opened ?_) nofun⟩
    obtain ⟨_, _, _, form⟩ := (addWorkers_frame s settings.dispatchers).rest
    rw [form] at closed
    exact closed
  | measured room =>
    refine ⟨?_, trivial, fun closed => absurd (opened closed) nofun⟩
    simp only [PoolState.goTo, SupervisorPhase.reserved]
    omega
  | observeExit | unregistered | takePermit | buildFailed | discard | stop | spawn | send =>
    exact ⟨promised nofun, trivial, fun closed => absurd (opened closed) nofun⟩
  | claim claims | complete claims =>
    exact ⟨promised nofun, claims.within within, fun closed => absurd (opened closed) nofun⟩
  | panic panic =>
    refine ⟨(Nat.le_add_right _ _).trans fits, trivial, fun closed => ?_⟩
    cases panic <;> exact absurd (opened closed) nofun
  | close => exact ⟨promised nofun, trivial, fun _ => rfl⟩
  | join => exact ⟨roomy.fits, roomy.within, roomy.opened⟩

theorem roomy_step {settings : PoolSettings} {s t : PoolState} {action : PoolAction}
    (roomy : Roomy settings s) (step : PoolStep settings s action t) : Roomy settings t := by
  cases step with
  | cancel | wait => exact ⟨roomy.fits, roomy.within, roomy.opened⟩
  | supervise supervised => exact roomy_supervised roomy supervised
  | work _ _ worked =>
    have frame := worked.frame
    refine ⟨?_, ?_, ?_⟩
    · rw [frame.supervisor]
      exact (Nat.add_le_add_right frame.queue.length_le _).trans roomy.fits
    · rw [frame.supervisor]
      exact roomy.within
    · rw [frame.supervisor, frame.closed]
      exact roomy.opened

/-- With room and a registered staff nothing in the loop panics. -/
theorem unpanicked_step {settings : PoolSettings} {s t : PoolState} {action : PoolAction}
    (staffed : Staffed settings s) (roomy : Roomy settings s)
    (unpanicked : s.supervisor ≠ .panicked) (step : PoolStep settings s action t) :
    t.supervisor ≠ .panicked := by
  cases step with
  | cancel | wait => exact unpanicked
  | work _ _ worked =>
    rw [worked.frame.supervisor]
    exact unpanicked
  | supervise supervised =>
    obtain ⟨fits, within, opened⟩ := roomy
    have registered : s.supervisor.hasClosed = false → ∀ id worker, s.worker id = some worker →
        (s.indices.find? fun entry => entry.1 = id) ≠ none :=
      fun opened _ _ => staffed.registered opened
    generalize at_ : s.supervisor = phase at supervised
    rw [at_] at fits within opened registered
    cases supervised with
    | move move => exact move.eases.unpanicked
    | unregistered found none => exact absurd none (registered rfl _ _ found)
    | panic panic =>
      cases panic with
      | underflow past => exact absurd ((Nat.le_add_right _ _).trans fits) (Nat.not_le.mpr past)
      | overLimit _ past => exact absurd within past
      | unsent failed =>
        rcases failed with closed | full
        · exact absurd (opened closed) nofun
        · simp only [SupervisorPhase.reserved, List.length_cons] at fits
          omega
    | start | observeExit | takePermit | buildFailed | discard | stop | spawn | measured | claim
    | complete | send | close => nofun
    | join => exact unpanicked

/-! ### The deliveries -/

namespace PoolState

/-- The deliveries in the hands of the workers. -/
def hands (s : PoolState) : List PoolDelivery :=
  s.workers.filterMap fun worker => worker.phase.delivery

/-- The executions under way. -/
def running (s : PoolState) : List PoolExecution :=
  s.workers.filterMap fun worker => worker.phase.execution

/-- What a phase change does to the values of the workers. -/
theorem count_setWorker {β : Type} [DecidableEq β] (value : PoolWorkerPhase → Option β)
    {s : PoolState} {id : Nat} {worker : PoolWorker} (distinct : s.Distinct)
    (found : s.worker id = some worker) (phase : PoolWorkerPhase) (item : β) :
    ((s.setWorker id phase).workers.filterMap fun worker => value worker.phase).count item
        + (value worker.phase).toList.count item
      = (s.workers.filterMap fun worker => value worker.phase).count item
        + (value phase).toList.count item := by
  obtain ⟨front, back, split, changed⟩ := setWorker_split distinct found
  rw [changed phase, split.whole, List.filterMap_append, List.filterMap_append,
    Keyed.filterMap_cons_toList, Keyed.filterMap_cons_toList]
  simp only [List.count_append]
  omega

/-- A worker without a value may leave. -/
theorem filterMap_remove {β : Type} (value : PoolWorkerPhase → Option β) {s : PoolState} {id : Nat}
    {worker : PoolWorker} (distinct : s.Distinct) (found : s.worker id = some worker)
    (none : value worker.phase = none) :
    ((s.workers.filter fun other => other.id ≠ id).filterMap fun worker => value worker.phase)
      = s.workers.filterMap fun worker => value worker.phase := by
  obtain ⟨front, back, split, removed⟩ := filter_split distinct found
  rw [removed, split.whole, List.filterMap_append, List.filterMap_append,
    Keyed.filterMap_cons_toList, none, Option.toList_none, List.nil_append]

end PoolState

theorem PoolWorkerPhase.none_of_ended {phase : PoolWorkerPhase} (ended : phase.isEnded = true) :
    phase.delivery = none ∧ phase.execution = none := by
  cases phase <;> first | exact ⟨rfl, rfl⟩ | cases ended

/-- Every claimed delivery and every started execution is accounted for. -/
structure Ledger (s : PoolState) : Prop where
  numbers : ((s.claimed ++ s.supervisor.pending).map PoolDelivery.number).Sublist
    (List.range s.numbered)
  claimed : ∀ delivery, s.claimed.count delivery
    = s.supervisor.batch.count delivery + s.queue.count delivery + s.hands.count delivery
      + (s.finished.map PoolExecution.delivery).count delivery
      + (s.lost.map PoolExecution.delivery).count delivery
      + (s.aborted.map PoolExecution.delivery).count delivery + s.dropped.count delivery
  started : ∀ execution, s.started.count execution
    = s.running.count execution + s.finished.count execution + s.lost.count execution
      + s.aborted.count execution
  cancelled : s.supervisor.hasCancelled = true → s.isCancelled = true
  spared : s.isCancelled = false → s.dropped = [] ∧ s.aborted = []

theorem number_numbers (first : Nat) (deadlines : List Instant) :
    (PoolState.number first deadlines).map PoolDelivery.number
      = List.range' first deadlines.length := by
  rw [PoolState.number, List.map_map, List.range'_eq_map_range]
  apply List.ext_getElem
  · simp
  · intro place _ _
    simp

/-- New deliveries have new numbers. -/
theorem Claims.numbers {settings : PoolSettings} {s : PoolState} {limit numbered : Nat}
    {before : Option ClaimProgress} {progress : ClaimProgress} {action : SupervisorAction}
    (claims : Claims settings s limit before action progress numbered)
    (numbers : ((s.claimed ++ (SupervisorPhase.claiming limit before true).pending).map
      PoolDelivery.number).Sublist (List.range s.numbered)) :
    ((s.claimed ++ progress.batch).map PoolDelivery.number).Sublist (List.range numbered) := by
  cases claims with
  | start => exact numbers
  | answer =>
    rw [← List.append_assoc, List.map_append, number_numbers, List.range_eq_range',
      ← List.range'_append_1, ← List.range_eq_range', Nat.zero_add]
    exact numbers.append (List.Sublist.refl _)
  | giveUp => exact numbers

theorem SupervisorMove.cancelled {settings : PoolSettings} {s : PoolState}
    {phase next : SupervisorPhase} {action : SupervisorAction}
    (move : SupervisorMove settings s phase action next) (reached : next.hasCancelled = true) :
    phase.hasCancelled = true ∨ s.isCancelled = true := by
  cases move with
  | leave _ cancelled => exact Or.inr cancelled
  | refuse cancelled => exact Or.inr cancelled
  | goOn point =>
    unfold SupervisorPhase.checkpoint at point
    split at point <;> cases point <;> cases reached
  | skipExit | tick | skipTick | skipNotified | rebuilt | recovered | recovering | full
  | failed | pend | accept | sent => cases reached
  | expire | drained | aborted => exact Or.inl rfl

/-- A step at one worker that puts as much into the other places as it takes from them. -/
theorem Ledger.change {s t : PoolState} {id : Nat} {worker : PoolWorker} {next : PoolWorkerPhase}
    (ledger : Ledger s) (distinct : s.Distinct) (found : s.worker id = some worker)
    (workers : t.workers = (s.setWorker id next).workers) (supervisor : t.supervisor = s.supervisor)
    (numbered : t.numbered = s.numbered) (claimed : t.claimed = s.claimed)
    (cancelledAt : t.cancelledAt = s.cancelledAt)
    (moved : ∀ delivery, t.queue.count delivery + next.delivery.toList.count delivery
        + (t.finished.map PoolExecution.delivery).count delivery
        + (t.lost.map PoolExecution.delivery).count delivery
        + (t.aborted.map PoolExecution.delivery).count delivery + t.dropped.count delivery
      = s.queue.count delivery + worker.phase.delivery.toList.count delivery
        + (s.finished.map PoolExecution.delivery).count delivery
        + (s.lost.map PoolExecution.delivery).count delivery
        + (s.aborted.map PoolExecution.delivery).count delivery + s.dropped.count delivery)
    (executed : ∀ execution, t.started.count execution + worker.phase.execution.toList.count execution
        + s.finished.count execution + s.lost.count execution + s.aborted.count execution
      = s.started.count execution + next.execution.toList.count execution
        + t.finished.count execution + t.lost.count execution + t.aborted.count execution)
    (spared : t.isCancelled = false → t.dropped = [] ∧ t.aborted = []) : Ledger t := by
  refine ⟨?_, fun delivery => ?_, fun execution => ?_, ?_, spared⟩
  · rw [claimed, supervisor, numbered]
    exact ledger.numbers
  · have held := PoolState.count_setWorker PoolWorkerPhase.delivery distinct found next delivery
    rw [← workers] at held
    have before := ledger.claimed delivery
    have balance := moved delivery
    rw [claimed, supervisor]
    unfold PoolState.hands at before ⊢
    omega
  · have held := PoolState.count_setWorker PoolWorkerPhase.execution distinct found next execution
    rw [← workers] at held
    have before := ledger.started execution
    have balance := executed execution
    unfold PoolState.running at before ⊢
    omega
  · rw [supervisor, PoolState.isCancelled, cancelledAt]
    exact ledger.cancelled

theorem ledger_worked {s t : PoolState} {id : Nat} {worker : PoolWorker} {phase : PoolWorkerPhase}
    {action : WorkerAction} (ledger : Ledger s) (distinct : s.Distinct)
    (found : s.worker id = some worker) (at_ : worker.phase = phase)
    (worked : Worked s id phase action t) : Ledger t := by
  cases worked with
  | take nonempty =>
    refine ledger.change distinct found rfl rfl rfl rfl rfl (fun delivery => ?_) (fun _ => ?_)
      ledger.spared
    · simp [nonempty, at_, PoolWorkerPhase.delivery, List.count_cons, PoolState.setWorker]
    · simp [at_, PoolWorkerPhase.execution, PoolState.setWorker]
  | discard cancelled =>
    refine ledger.change distinct found rfl rfl rfl rfl rfl (fun delivery => ?_) (fun _ => ?_)
      (fun live => absurd (live.symm.trans cancelled) Bool.false_ne_true)
    · simp [at_, PoolWorkerPhase.delivery, PoolState.setWorker]
      omega
    · simp [at_, PoolWorkerPhase.execution, PoolState.setWorker]
  | abort aborting =>
    obtain ⟨_, past⟩ := SupervisorPhase.aborting_of_isAborting aborting
    have cancelled := ledger.cancelled (congrArg SupervisorPhase.hasCancelled past)
    refine ledger.change distinct found rfl rfl rfl rfl rfl (fun delivery => ?_) (fun _ => ?_)
      (fun live => absurd (live.symm.trans cancelled) Bool.false_ne_true)
    · simp [at_, PoolWorkerPhase.delivery, PoolState.setWorker]
      omega
    · simp [at_, PoolWorkerPhase.execution, PoolState.setWorker]
      omega
  | leave | poll | disconnect | park | notify | clear | execute | finish | panic | retire =>
    refine ledger.change distinct found rfl rfl rfl rfl rfl (fun delivery => ?_) (fun _ => ?_)
      ledger.spared
    · simp [at_, PoolWorkerPhase.delivery, PoolState.setWorker]
      try omega
    · simp [at_, PoolWorkerPhase.execution, PoolState.setWorker]
      try omega

/-- A step that leaves the workers and the executions alone. -/
theorem Ledger.keep {s t : PoolState} (ledger : Ledger s) (hands : t.hands = s.hands)
    (running : t.running = s.running) (started : t.started = s.started)
    (finished : t.finished = s.finished) (lost : t.lost = s.lost) (aborted : t.aborted = s.aborted)
    (numbers : ((t.claimed ++ t.supervisor.pending).map PoolDelivery.number).Sublist
      (List.range t.numbered))
    (moved : ∀ delivery, t.claimed.count delivery + s.supervisor.batch.count delivery
        + s.queue.count delivery + s.dropped.count delivery
      = s.claimed.count delivery + t.supervisor.batch.count delivery + t.queue.count delivery
        + t.dropped.count delivery)
    (cancelled : t.supervisor.hasCancelled = true → t.isCancelled = true)
    (spared : t.isCancelled = false → t.dropped = [] ∧ t.aborted = []) : Ledger t := by
  refine ⟨numbers, fun delivery => ?_, ?_, cancelled, spared⟩
  · have before := ledger.claimed delivery
    have balance := moved delivery
    rw [hands, finished, lost, aborted]
    omega
  · rw [started, running, finished, lost, aborted]
    exact ledger.started

/-- An ended worker leaves with nothing. -/
theorem hands_remove {s : PoolState} {id : Nat} {worker : PoolWorker} (distinct : s.Distinct)
    (found : s.worker id = some worker) (ended : worker.phase.isEnded = true) :
    { s with workers := s.workers.filter fun other => other.id ≠ id }.hands = s.hands ∧
      { s with workers := s.workers.filter fun other => other.id ≠ id }.running = s.running := by
  obtain ⟨noDelivery, noExecution⟩ := PoolWorkerPhase.none_of_ended ended
  exact ⟨PoolState.filterMap_remove PoolWorkerPhase.delivery distinct found noDelivery,
    PoolState.filterMap_remove PoolWorkerPhase.execution distinct found noExecution⟩

theorem AddFrame.hands {s t : PoolState} (frame : AddFrame s t) (next : SupervisorPhase) :
    (t.goTo next).hands = s.hands :=
  frame.idle PoolWorkerPhase.delivery rfl

theorem AddFrame.running {s t : PoolState} (frame : AddFrame s t) (next : SupervisorPhase) :
    (t.goTo next).running = s.running :=
  frame.idle PoolWorkerPhase.execution rfl

/-- Idle workers bring nothing. -/
theorem Ledger.add {s t : PoolState} (ledger : Ledger s) (frame : AddFrame s t)
    {next : SupervisorPhase} (pending : next.pending = []) (batch : s.supervisor.batch = next.batch)
    (cancelled : next.hasCancelled = false) : Ledger (t.goTo next) := by
  have hands := frame.hands next
  have running := frame.running next
  obtain ⟨_, _, _, rfl⟩ := frame.rest
  refine ledger.keep hands running rfl rfl rfl rfl ?_ (fun delivery => ?_) ?_ ledger.spared
  · have numbers := ledger.numbers
    rw [List.map_append] at numbers
    simp only [PoolState.goTo, pending, List.append_nil]
    exact (List.sublist_append_left _ _).trans numbers
  · simp only [PoolState.goTo, batch]
  · simp only [PoolState.goTo, cancelled]
    nofun

theorem ledger_supervised {settings : PoolSettings} {s t : PoolState} {action : SupervisorAction}
    (ledger : Ledger s) (distinct : s.Distinct) (unpanicked : t.supervisor ≠ .panicked)
    (supervised : Supervised settings s s.supervisor action t) : Ledger t := by
  have ⟨numbers, _, _, cancelled, spared⟩ := ledger
  have keep := fun t => ledger.keep (t := t)
  generalize at_ : s.supervisor = phase at supervised
  simp only [at_] at numbers cancelled keep
  cases supervised with
  | move move =>
    refine keep _ rfl rfl rfl rfl rfl rfl ?_ (fun delivery => ?_) (fun reached => ?_) spared
    · exact (((List.Sublist.refl _).append move.eases.pending).map _).trans numbers
    · rw [PoolState.goTo, move.eases.batch]
    · exact (move.cancelled reached).elim cancelled id
  | start => exact ledger.add (addWorkers_frame s settings.dispatchers) rfl (by rw [at_]; rfl) rfl
  | spawn => exact ledger.add (addWorker_frame s _ _) rfl (by rw [at_]; rfl) rfl
  | observeExit found ended =>
    obtain ⟨hands, running⟩ := hands_remove distinct found ended
    exact keep _ hands running rfl rfl rfl rfl numbers (fun _ => rfl) nofun spared
  | unregistered | panic => exact absurd rfl unpanicked
  | takePermit | buildFailed | measured =>
    exact keep _ rfl rfl rfl rfl rfl rfl numbers (fun _ => rfl) nofun spared
  | claim claims =>
    exact keep _ rfl rfl rfl rfl rfl rfl (claims.numbers numbers) (fun _ => rfl) nofun spared
  | complete claims =>
    refine keep _ rfl rfl rfl rfl rfl rfl ?_ (fun delivery => ?_) nofun spared
    · simpa using claims.numbers numbers
    · simp only [SupervisorPhase.batch, List.count_append, List.count_nil]
      omega
  | discard stopped =>
    refine keep _ rfl rfl rfl rfl rfl rfl numbers (fun delivery => ?_) nofun
      (fun live => absurd (stopped.symm.trans live) nofun)
    simp only [SupervisorPhase.batch, List.count_append, List.count_nil]
    omega
  | send =>
    refine keep _ rfl rfl rfl rfl rfl rfl numbers (fun delivery => ?_) nofun spared
    simp only [SupervisorPhase.batch, List.count_append, List.count_cons, List.count_nil]
    omega
  | stop =>
    exact keep _ rfl rfl rfl rfl rfl rfl numbers (fun _ => rfl) (fun _ => rfl) nofun
  | close => exact keep _ rfl rfl rfl rfl rfl rfl numbers (fun _ => rfl) cancelled spared
  | join closed found ended =>
    obtain ⟨hands, running⟩ := hands_remove distinct found ended
    exact ledger.keep hands running rfl rfl rfl rfl ledger.numbers (fun _ => rfl) ledger.cancelled
      spared

theorem ledger_step {settings : PoolSettings} {s t : PoolState} {action : PoolAction}
    (ledger : Ledger s) (distinct : s.Distinct) (unpanicked : t.supervisor ≠ .panicked)
    (step : PoolStep settings s action t) : Ledger t := by
  cases step with
  | cancel =>
    exact ledger.keep rfl rfl rfl rfl rfl rfl ledger.numbers (fun _ => rfl) (fun _ => rfl) nofun
  | wait =>
    exact ledger.keep rfl rfl rfl rfl rfl rfl ledger.numbers (fun _ => rfl) ledger.cancelled
      ledger.spared
  | supervise supervised => exact ledger_supervised ledger distinct unpanicked supervised
  | work found at_ worked => exact ledger_worked ledger distinct found at_ worked

theorem mem_running {s : PoolState} {execution : PoolExecution} :
    execution ∈ s.running ↔ ∃ worker ∈ s.workers, worker.phase = .executing execution := by
  rw [PoolState.running, List.mem_filterMap]
  refine exists_congr fun worker => and_congr_right fun _ => ?_
  cases worker.phase <;> simp [PoolWorkerPhase.execution]

/-- An execution under way was under way before, or starts now. -/
theorem running_step {settings : PoolSettings} {s t : PoolState} {action : PoolAction}
    (step : PoolStep settings s action t) {execution : PoolExecution}
    (running : execution ∈ t.running) :
    execution ∈ s.running ∨ execution.started = s.clock := by
  obtain ⟨worker, member, at_⟩ := mem_running.mp running
  have old : worker ∈ s.workers → execution ∈ s.running := fun known =>
    mem_running.mpr ⟨worker, known, at_⟩
  have spared : ∀ {id : Nat} {phase : PoolWorkerPhase},
      worker ∈ (s.setWorker id phase).workers → phase.execution = none → worker ∈ s.workers := by
    intro id phase changed other
    rcases PoolState.mem_setWorker changed with ⟨known, _⟩ | ⟨_, same⟩
    · exact known
    · rw [← same, at_] at other
      cases other
  cases step with
  | cancel | wait => exact Or.inl running
  | supervise supervised =>
    generalize s.supervisor = phase at supervised
    cases supervised with
    | start =>
      rw [(addWorkers_frame s settings.dispatchers).running] at running
      exact Or.inl running
    | spawn =>
      rw [(addWorker_frame s _ _).running] at running
      exact Or.inl running
    | observeExit | unregistered | join => exact Or.inl (old (List.mem_filter.mp member).1)
    | move | takePermit | buildFailed | discard | stop | close | panic | measured | claim | complete
    | send => exact Or.inl running
  | work _ _ worked =>
    cases worked with
    | execute =>
      rcases PoolState.mem_setWorker member with ⟨known, _⟩ | ⟨_, same⟩
      · exact Or.inl (old known)
      · rw [at_] at same
        obtain rfl := PoolWorkerPhase.executing.inj same
        exact Or.inr rfl
    | leave | poll | take | disconnect | park | notify | clear | discard | finish | panic | retire
    | abort => exact Or.inl (old (spared member rfl))

/-! ### Whole runs -/

/-- The pool is staffed, has room, accounts for everything and has not panicked. -/
structure PoolSound (settings : PoolSettings) (s : PoolState) : Prop where
  staffed : Staffed settings s
  roomy : Roomy settings s
  unpanicked : s.supervisor ≠ .panicked
  ledger : Ledger s

theorem poolSound_step {settings : PoolSettings} {s t : PoolState} {action : PoolAction}
    (sound : PoolSound settings s) (step : PoolStep settings s action t) :
    PoolSound settings t := by
  have unpanicked := unpanicked_step sound.staffed sound.roomy sound.unpanicked step
  exact ⟨staffed_step sound.staffed step, roomy_step sound.roomy step, unpanicked,
    ledger_step sound.ledger sound.staffed.distinct unpanicked step⟩

theorem poolSound_start (settings : PoolSettings) (clock : Instant) :
    PoolSound settings (poolMachine settings clock).start where
  staffed := ⟨List.nodup_nil, nofun, fun _ => rfl, Nat.zero_le _, fun _ => rfl⟩
  roomy := ⟨Nat.zero_le _, trivial, nofun⟩
  unpanicked := nofun
  ledger := ⟨List.nil_sublist _, fun _ => rfl, fun _ => rfl, nofun, fun _ => ⟨rfl, rfl⟩⟩

/-- Every reachable state is sound. -/
theorem poolSound_reachable {settings : PoolSettings} {clock : Instant} {s : PoolState}
    (reached : (poolMachine settings clock).Reachable s) : PoolSound settings s :=
  reached.invariant (P := PoolSound settings) (poolSound_start settings clock)
    fun _ _ _ _ sound stepped => poolSound_step sound (poolMachine_step stepped)

namespace Ledger

variable {s : PoolState}

/-- No delivery is claimed twice. -/
theorem claimed_nodup (ledger : Ledger s) : s.claimed.Nodup := by
  have numbers := (ledger.numbers.nodup List.nodup_range)
  rw [List.map_append] at numbers
  exact List.Nodup.of_map _ (List.nodup_append.mp numbers).1

/-- The executions under way are in the hands of the workers. -/
theorem running_sublist (s : PoolState) :
    (s.running.map PoolExecution.delivery).Sublist s.hands := by
  unfold PoolState.running PoolState.hands
  induction s.workers with
  | nil => exact List.Sublist.refl _
  | cons worker rest ih =>
    rw [Keyed.filterMap_cons_toList, Keyed.filterMap_cons_toList, List.map_append]
    refine List.Sublist.append ?_ ih
    cases worker.phase <;> simp [PoolWorkerPhase.execution, PoolWorkerPhase.delivery]

/-- The started executions are those under way, finished, lost and aborted. -/
theorem started_perm (ledger : Ledger s) :
    s.started.Perm (s.running ++ s.finished ++ s.lost ++ s.aborted) := by
  rw [List.perm_iff_count]
  intro execution
  rw [ledger.started execution]
  simp only [List.count_append]

/-- No delivery is executed twice. -/
theorem started_once (ledger : Ledger s) : (s.started.map PoolExecution.delivery).Nodup := by
  rw [List.nodup_iff_count_le_one]
  intro delivery
  have once := List.nodup_iff_count_le_one.mp ledger.claimed_nodup delivery
  have places := ledger.claimed delivery
  have held := (running_sublist s).count_le delivery
  rw [(ledger.started_perm.map PoolExecution.delivery).count_eq]
  simp only [List.map_append, List.count_append]
  omega

end Ledger

/-- What bounded admission promises of a state: the subtraction and the assertions of
`run_prepared` cannot fail, the queue and the executions are bounded, a claimed delivery is in one
place and no delivery is executed twice. A completed batch is with the supervisor until it is
sent. -/
structure BoundedAdmission (settings : PoolSettings) (s : PoolState) : Prop where
  waiting : s.queue.length ≤ settings.queueCapacity
  accepted : ∀ limit batch, s.supervisor = .checking limit batch →
    batch.length ≤ limit ∧ s.queue.length + batch.length ≤ settings.queueCapacity
  sendable : ∀ delivery rest, s.supervisor = .sending (delivery :: rest) →
    s.closed = false ∧ s.queue.length < settings.queueCapacity
  unpanicked : s.supervisor ≠ .panicked
  executing : s.running.length ≤ settings.concurrency
  placed : s.isCancelled = false → ∀ delivery ∈ s.claimed,
    s.supervisor.batch.count delivery + s.queue.count delivery + s.hands.count delivery
      + (s.finished.map PoolExecution.delivery).count delivery
      + (s.lost.map PoolExecution.delivery).count delivery = 1
  undropped : s.isCancelled = false → s.dropped = [] ∧ s.aborted = []
  once : (s.started.map PoolExecution.delivery).Nodup

/-- **Bounded admission.** In every reachable state of a pool, over all interleavings of its parties
and all answers of the queue, nothing overflows, nothing is lost and nothing runs twice. -/
theorem admission_bounded {settings : PoolSettings} {clock : Instant} {s : PoolState}
    (reached : (poolMachine settings clock).Reachable s) : BoundedAdmission settings s := by
  obtain ⟨staffed, ⟨fits, within, opened⟩, unpanicked, ledger⟩ := poolSound_reachable reached
  refine ⟨(Nat.le_add_right _ _).trans fits, fun limit batch at_ => ?_, fun delivery rest at_ => ?_,
    unpanicked, ?_, fun live delivery member => ?_, ledger.spared, ledger.started_once⟩
  · rw [at_] at fits within
    exact ⟨within, fits⟩
  · rw [at_] at fits opened
    refine ⟨Bool.eq_false_iff.mpr fun closed => absurd (opened closed) nofun, ?_⟩
    simp only [SupervisorPhase.reserved, List.length_cons] at fits
    omega
  · have crew := (Nat.le_add_right _ _).trans staffed.filled
    exact (List.length_filterMap_le _ _).trans crew
  · obtain ⟨undropped, unaborted⟩ := ledger.spared live
    have places := ledger.claimed delivery
    rw [List.count_eq_one_of_mem ledger.claimed_nodup member, undropped, unaborted] at places
    simpa using places.symm

/-- Two workers and two places in the queue. -/
def pairPool : PoolSettings :=
  let mail : TaskFormat := mailFormat
  { concurrency := 2
    queueCapacity := 2
    handlerTimeout := .fromSecs 30
    storageTimeout := .fromSecs 10
    leaseDuration := .fromSecs 120
    dispatchers := [[mail], [mail]]
    concurrencyPositive := by decide
    capacityPositive := by decide
    prepared := rfl }

/-- Two deliveries are claimed and taken; the first worker panics and is replaced. -/
def panicRun : List PoolAction :=
  [.supervise .start, .supervise .evaluate, .supervise .skip, .supervise .tick,
    .supervise .evaluate, .supervise (.pollRecovery true), .supervise .measure,
    .supervise .evaluate, .supervise .startClaim, .supervise (.answer [100, 200]),
    .supervise .check, .supervise .send, .supervise .send, .supervise .send,
    .work 0 .evaluate, .work 0 .receive, .work 0 .notify, .work 0 .check, .work 0 .execute,
    .work 1 .evaluate, .work 1 .receive, .work 0 .panic,
    .supervise .evaluate, .supervise (.join 0), .supervise (.build (.ok pairPool.formats)),
    .supervise .check, .supervise .spawn]

def replacedPool : PoolState := (poolMachine pairPool 0).after panicRun (by decide +kernel)

theorem admission_bounded_replaced :
    (replacedPool.claimed.length = 2 ∧ replacedPool.hands.length = 1 ∧
      replacedPool.lost.length = 1 ∧ replacedPool.workers.length = 2) ∧
      BoundedAdmission pairPool replacedPool :=
  ⟨by decide +kernel, admission_bounded (Machine.reachable_after panicRun (by decide +kernel))⟩

end AccountManagement.Runtime
