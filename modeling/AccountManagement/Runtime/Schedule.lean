/-
**The lease budget of a healthy pool.**

`validate_for_storage_timeout` accepts a lease longer than two storage operations, a handler, the
safety margin and as many executions as the workers need rounds for a full queue. In a healthy pool
no delivery waits longer than those rounds: from the moment it was queued every worker that finishes
takes the next delivery at once, so as long as a delivery waits, some worker has taken fewer than
its share of the queue (`Rounds.exists_lt_share`), and each of its executions was short.

* `steady_step`: a healthy pool keeps its crew and is not shut down;
* `punctual_step`: executions and claims keep their budgets;
* `waits_step`, `covered_step`: what waits, and what was taken, has lease enough;
* `accepted_lease_covers`: every execution of a healthy run is planned as a run of its handler.
-/

import Mathlib.Tactic.Linarith
import Mathlib.Tactic.Zify
import AccountManagement.Library.Rounds
import AccountManagement.Runtime.Admission
import AccountManagement.Runtime.LeaseBudget

namespace AccountManagement.Runtime

open AccountManagement.Library AccountManagement.Task

/-- The pool that `run` makes of a configuration. -/
def TaskWorkerPoolConfig.poolSettings (config : TaskWorkerPoolConfig) (storageTimeout : Duration)
    (dispatchers : List (List TaskFormat)) (prepared : dispatchers.length = config.concurrency) :
    PoolSettings where
  concurrency := config.concurrency
  queueCapacity := config.queueCapacity
  handlerTimeout := config.handlerTimeout
  storageTimeout := storageTimeout
  leaseDuration := config.leaseDuration
  dispatchers := dispatchers
  concurrencyPositive := config.concurrencyPositive
  capacityPositive := config.capacityValid.1
  prepared := prepared

/-! ### Healthy runs -/

/-- A worker lets time pass when it executes, or when there is nothing to take. -/
def PoolWorkerPhase.MayWait (queue : List PoolDelivery) : PoolWorkerPhase → Prop
  | .idle => queue = []
  | .receiving => queue = []
  | .executing _ => True
  | .ended _ => True
  | _ => False

/-- The supervisor lets time pass until the end of a claim, and not before a claimed batch is
sent. -/
def SupervisorPhase.MayWait (settings : PoolSettings) (later : Instant) : SupervisorPhase → Prop
  | .claiming _ (some progress) _ => later ≤ progress.since + settings.storageTimeout.asNanos
  | .checking _ _ => False
  | .sending _ => False
  | _ => True

/-- A lease that is anchored no earlier than the start of its claim. -/
def Anchored (settings : PoolSettings) (since deadline : Instant) : Prop :=
  Instant.Representable deadline ∧ since + settings.leaseDuration.asNanos ≤ deadline

/-- The leases of an answer are anchored in the claim under way. -/
def SupervisorPhase.Anchors (settings : PoolSettings) (deadlines : List Instant) :
    SupervisorPhase → Prop
  | .claiming _ (some progress) _ =>
    ∀ deadline ∈ deadlines, Anchored settings progress.since deadline
  | _ => True

/-- A step of a healthy pool: nobody cancels or panics, executions and claims last no longer than
they may, workers take what waits, and leases are anchored in their claims. -/
def Healthy (settings : PoolSettings) (s : PoolState) : PoolAction → Prop
  | .cancel => False
  | .work _ .panic => False
  | .wait nanos => (∀ worker ∈ s.workers, worker.phase.MayWait s.queue) ∧
      (∀ execution ∈ s.running, s.clock + nanos ≤ execution.started + settings.budget) ∧
      s.supervisor.MayWait settings (s.clock + nanos)
  | .supervise (.answer deadlines) => s.supervisor.Anchors settings deadlines
  | _ => True

instance (queue : List PoolDelivery) (phase : PoolWorkerPhase) : Decidable (phase.MayWait queue) := by
  unfold PoolWorkerPhase.MayWait
  split <;> infer_instance

instance (settings : PoolSettings) (later : Instant) (phase : SupervisorPhase) :
    Decidable (phase.MayWait settings later) := by
  unfold SupervisorPhase.MayWait
  split <;> infer_instance

instance (settings : PoolSettings) (since deadline : Instant) :
    Decidable (Anchored settings since deadline) :=
  inferInstanceAs (Decidable (_ ∧ _))

instance (settings : PoolSettings) (deadlines : List Instant) (phase : SupervisorPhase) :
    Decidable (phase.Anchors settings deadlines) := by
  unfold SupervisorPhase.Anchors
  split <;> infer_instance

instance (settings : PoolSettings) (s : PoolState) (action : PoolAction) :
    Decidable (Healthy settings s action) := by
  unfold Healthy
  split <;> infer_instance

section Healthy

variable {settings : PoolSettings} {s t : PoolState} {action : PoolAction}

/-! ### The crew -/

/-- The phases of a loop that replaces no worker and is not left. -/
def SupervisorPhase.isLooping : SupervisorPhase → Bool
  | .starting => true
  | .selecting _ => true
  | .recovering _ _ => true
  | .measuring => true
  | .claiming _ _ _ => true
  | .checking _ _ => true
  | .sending _ => true
  | _ => false

/-- The loop runs, with all its workers. -/
structure Steady (settings : PoolSettings) (s : PoolState) : Prop where
  live : s.isCancelled = false
  opened : s.closed = false
  looping : s.supervisor.isLooping = true
  crew : s.supervisor ≠ .starting → s.workers.length = settings.concurrency
  awake : ∀ worker ∈ s.workers, worker.phase.isEnded = false
  fresh : s.supervisor = .starting → s.queue = [] ∧ s.workers = []

theorem SupervisorMove.looping {phase next : SupervisorPhase} {action : SupervisorAction}
    (move : SupervisorMove settings s phase action next) (live : s.isCancelled = false)
    (looping : phase.isLooping = true) :
    next.isLooping = true ∧ phase ≠ .starting ∧ next ≠ .starting := by
  cases move with
  | refuse cancelled | leave _ cancelled => exact absurd (live.symm.trans cancelled) nofun
  | goOn point =>
    unfold SupervisorPhase.checkpoint at point
    split at point <;> cases point <;> first | exact ⟨rfl, nofun, nofun⟩ | cases looping
  | skipExit | tick | skipTick | skipNotified | recovered | recovering | full | failed | pend
  | accept | sent => exact ⟨rfl, nofun, nofun⟩
  | rebuilt | expire | drained | aborted => cases looping

theorem idle_of_mem_addWorkers {dispatchers : List (List TaskFormat)} {worker : PoolWorker}
    (member : worker ∈ (s.addWorkers dispatchers).workers) :
    worker ∈ s.workers ∨ worker.phase = .idle := by
  refine addWorkers_induction
    (P := fun t => ∀ worker ∈ t.workers, worker ∈ s.workers ∨ worker.phase = .idle)
    ?_ dispatchers (fun _ => Or.inl) worker member
  intro t index formats known worker member
  rcases List.mem_append.mp member with old | new
  · exact known worker old
  · obtain rfl := List.mem_singleton.mp new
    exact Or.inr rfl

theorem steady_supervised {action : SupervisorAction} (steady : Steady settings s)
    (unpanicked : t.supervisor ≠ .panicked)
    (supervised : Supervised settings s s.supervisor action t) : Steady settings t := by
  have ⟨live, opened, looping, crew, awake, fresh⟩ := steady
  generalize at_ : s.supervisor = phase at supervised
  rw [at_] at looping crew fresh
  cases supervised with
  | move move =>
    obtain ⟨more, before, after⟩ := move.looping live looping
    exact ⟨live, opened, more, fun _ => crew before, awake, fun start => absurd start after⟩
  | start =>
    have total := addWorkers_length s settings.dispatchers
    rw [(fresh rfl).2, settings.prepared, List.length_nil, Nat.zero_add] at total
    obtain ⟨_, _, _, form⟩ := (addWorkers_frame s settings.dispatchers).rest
    refine ⟨?_, ?_, rfl, fun _ => total, fun worker member => ?_, nofun⟩
    · rw [form]
      exact live
    · rw [form]
      exact opened
    · rcases idle_of_mem_addWorkers member with old | idle
      · exact awake worker old
      · rw [idle]
        rfl
  | observeExit found ended =>
    exact absurd (ended.symm.trans (awake _ (PoolState.worker_mem found).1)) nofun
  | unregistered | panic => exact absurd rfl unpanicked
  | discard cancelled => exact absurd (live.symm.trans cancelled) nofun
  | takePermit | measured | claim | complete | send =>
    exact ⟨live, opened, rfl, fun _ => crew nofun, awake, nofun⟩
  | join closed =>
    rcases closed with ⟨_, _, rfl⟩ | ⟨_, rfl⟩
    · cases looping
    · cases looping
  | buildFailed | spawn | stop | close => cases looping

/-- A worker that does not end. -/
theorem Steady.change {id : Nat} {worker : PoolWorker} {next : PoolWorkerPhase}
    (steady : Steady settings s) (found : s.worker id = some worker) (frame : WorkerFrame s id t)
    (workers : t.workers = (s.setWorker id next).workers) (awake : next.isEnded = false) :
    Steady settings t := by
  refine ⟨?_, ?_, ?_, fun started => ?_, fun other member => ?_, fun start => ?_⟩
  · rw [PoolState.isCancelled, frame.cancelledAt]
    exact steady.live
  · rw [frame.closed]
    exact steady.opened
  · rw [frame.supervisor]
    exact steady.looping
  · rw [frame.supervisor] at started
    rw [workers, PoolState.setWorker, List.length_map]
    exact steady.crew started
  · rw [workers] at member
    rcases PoolState.mem_setWorker member with ⟨old, _⟩ | ⟨_, same⟩
    · exact steady.awake other old
    · rw [same]
      exact awake
  · rw [frame.supervisor] at start
    have none := (steady.fresh start).2
    exact absurd (none ▸ (PoolState.worker_mem found).1) List.not_mem_nil

theorem steady_step (steady : Steady settings s) (healthy : Healthy settings s action)
    (unpanicked : t.supervisor ≠ .panicked) (step : PoolStep settings s action t) :
    Steady settings t := by
  cases step with
  | cancel => exact healthy.elim
  | wait =>
    exact ⟨steady.live, steady.opened, steady.looping, steady.crew, steady.awake, steady.fresh⟩
  | supervise supervised => exact steady_supervised steady unpanicked supervised
  | work found at_ worked =>
    have frame := worked.frame
    cases worked with
    | leave cancelled | discard cancelled => exact absurd (steady.live.symm.trans cancelled) nofun
    | disconnect _ closed => exact absurd (steady.opened.symm.trans closed) nofun
    | panic => exact healthy.elim
    | retire aborting | abort aborting =>
      obtain ⟨_, past⟩ := SupervisorPhase.aborting_of_isAborting aborting
      exact absurd (past ▸ steady.looping) nofun
    | poll | take | park | notify | clear | execute | finish =>
      exact steady.change found frame rfl rfl

/-! ### Budgets -/

/-- A delivery has its lease but for one storage operation. -/
def Fresh (settings : PoolSettings) (now : Instant) (delivery : PoolDelivery) : Prop :=
  Instant.Representable delivery.deadline ∧
    now + settings.leaseDuration.asNanos ≤ delivery.deadline + settings.storageTimeout.asNanos

/-- A claim is within its budget, and a claimed batch is fresh. -/
def SupervisorPhase.Punctual (settings : PoolSettings) (clock : Instant) : SupervisorPhase → Prop
  | .claiming _ (some progress) _ => clock ≤ progress.since + settings.storageTimeout.asNanos ∧
      ∀ delivery ∈ progress.batch, Anchored settings progress.since delivery.deadline
  | .checking _ batch => ∀ delivery ∈ batch, Fresh settings clock delivery
  | .sending batch => ∀ delivery ∈ batch, Fresh settings clock delivery
  | _ => True

/-- Executions and claims keep their budgets. -/
structure Punctual (settings : PoolSettings) (s : PoolState) : Prop where
  begun : ∃ origin, Instant.Representable origin ∧ origin ≤ s.clock
  executions : ∀ execution ∈ s.running,
    execution.started ≤ s.clock ∧ s.clock ≤ execution.started + settings.budget
  supervisor : s.supervisor.Punctual settings s.clock

theorem SupervisorMove.punctual {phase next : SupervisorPhase} {action : SupervisorAction}
    {clock : Instant} (move : SupervisorMove settings s phase action next)
    (punctual : phase.Punctual settings clock) : next.Punctual settings clock := by
  cases move with
  | goOn point =>
    unfold SupervisorPhase.checkpoint at point
    split at point
    case h_4 limit progress =>
      cases point
      cases progress <;> exact punctual
    all_goals cases point; try trivial
  | pend => exact punctual
  | accept => exact punctual
  | refuse | leave | skipExit | tick | skipTick | skipNotified | rebuilt | recovered | recovering
  | full | failed | sent | expire | drained | aborted => trivial

theorem mem_number {first : Nat} {deadlines : List Instant} {delivery : PoolDelivery}
    (member : delivery ∈ PoolState.number first deadlines) : delivery.deadline ∈ deadlines := by
  obtain ⟨⟨deadline, offset⟩, found, rfl⟩ := List.mem_map.mp member
  exact (List.mem_zipIdx found).2.2 ▸ List.getElem_mem _

theorem Claims.punctual {limit numbered : Nat} {before : Option ClaimProgress}
    {progress : ClaimProgress} {action : SupervisorAction}
    (claims : Claims settings s limit before action progress numbered)
    (at_ : s.supervisor = .claiming limit before true)
    (punctual : s.supervisor.Punctual settings s.clock)
    (healthy : Healthy settings s (.supervise action)) :
    s.clock ≤ progress.since + settings.storageTimeout.asNanos ∧
      ∀ delivery ∈ progress.batch, Anchored settings progress.since delivery.deadline := by
  rw [at_] at punctual
  cases claims with
  | start =>
    exact ⟨Int.le_add_of_nonneg_right (Int.natCast_nonneg _),
      fun _ none => absurd none List.not_mem_nil⟩
  | answer few =>
    refine ⟨punctual.1, fun delivery member => ?_⟩
    rcases List.mem_append.mp member with old | new
    · exact punctual.2 delivery old
    · rw [Healthy, at_] at healthy
      exact healthy delivery.deadline (mem_number new)
  | giveUp => exact punctual

/-- What was claimed within the budget is fresh. -/
theorem fresh_of_anchored {since now : Instant} {delivery : PoolDelivery}
    (anchored : Anchored settings since delivery.deadline)
    (soon : now ≤ since + settings.storageTimeout.asNanos) : Fresh settings now delivery := by
  refine ⟨anchored.1, ?_⟩
  calc now + settings.leaseDuration.asNanos
      ≤ since + settings.storageTimeout.asNanos + settings.leaseDuration.asNanos :=
        Int.add_le_add_right soon _
    _ = since + settings.leaseDuration.asNanos + settings.storageTimeout.asNanos := by
        rw [Int.add_right_comm]
    _ ≤ delivery.deadline + settings.storageTimeout.asNanos := Int.add_le_add_right anchored.2 _

/-- The supervisor takes no time. -/
theorem Supervised.clock {phase : SupervisorPhase} {action : SupervisorAction}
    (supervised : Supervised settings s phase action t) : t.clock = s.clock := by
  cases supervised with
  | start =>
    obtain ⟨_, _, _, form⟩ := (addWorkers_frame s settings.dispatchers).rest
    rw [form]
    rfl
  | move | observeExit | unregistered | takePermit | buildFailed | discard | stop | close | panic
  | join | spawn | measured | claim | complete | send => rfl

theorem punctual_supervised {action : SupervisorAction} (punctual : Punctual settings s)
    (healthy : Healthy settings s (.supervise action))
    (supervised : Supervised settings s s.supervisor action t) :
    t.supervisor.Punctual settings s.clock := by
  have now := punctual.supervisor
  generalize at_ : s.supervisor = phase at supervised
  have claimed := fun limit before progress numbered
      (claims : Claims settings s limit before action progress numbered) same =>
    claims.punctual same now healthy
  rw [at_] at now
  cases supervised with
  | move move => exact move.punctual now
  | claim claims => exact claimed _ _ _ _ claims at_
  | complete claims =>
    obtain ⟨soon, anchored⟩ := claimed _ _ _ _ claims at_
    exact fun delivery member => fresh_of_anchored (anchored delivery member) soon
  | send => exact fun delivery member => now delivery (List.mem_cons_of_mem _ member)
  | start | observeExit | unregistered | takePermit | buildFailed | discard | stop | close | panic
  | spawn | measured => trivial
  | join => exact punctual.supervisor

theorem punctual_step (punctual : Punctual settings s) (healthy : Healthy settings s action)
    (step : PoolStep settings s action t) : Punctual settings t := by
  have running : t.clock = s.clock → ∀ execution ∈ t.running,
      execution.started ≤ t.clock ∧ t.clock ≤ execution.started + settings.budget := by
    intro same execution member
    rw [same]
    rcases running_step step member with before | now
    · exact punctual.executions execution before
    · rw [now]
      exact ⟨Int.le_refl _, Int.le_add_of_nonneg_right settings.budget_nonneg⟩
  have ⟨origin, fits, early⟩ := punctual.begun
  cases step with
  | cancel => exact ⟨punctual.begun, punctual.executions, punctual.supervisor⟩
  | wait nanos =>
    obtain ⟨_, executions, waits⟩ := healthy
    have later : s.clock ≤ s.clock + nanos := Int.le_add_of_nonneg_right (Int.natCast_nonneg _)
    refine ⟨⟨origin, fits, early.trans later⟩,
      fun execution member => ⟨?_, executions execution member⟩, ?_⟩
    · exact (punctual.executions execution member).1.trans later
    have now := punctual.supervisor
    revert now waits
    simp only
    cases s.supervisor with
    | claiming limit progress evaluated =>
      cases progress with
      | none => exact fun _ _ => trivial
      | some progress => exact fun soon now => ⟨soon, now.2⟩
    | checking => exact False.elim
    | sending => exact False.elim
    | _ => exact fun _ _ => trivial
  | supervise supervised =>
    refine ⟨⟨origin, fits, ?_⟩, running supervised.clock, ?_⟩
    all_goals rw [supervised.clock]
    · exact early
    · exact punctual_supervised punctual healthy supervised
  | work _ _ worked =>
    refine ⟨⟨origin, fits, ?_⟩, running worked.frame.clock, ?_⟩
    · rw [worked.frame.clock]
      exact early
    · rw [worked.frame.clock, worked.frame.supervisor]
      exact punctual.supervisor

/-! ### Waiting -/

/-- How far a worker is, when it has taken so many deliveries since some instant and each of them
took one round at most. -/
def PoolWorkerPhase.Within (clock since : Instant) (round : Int) (rounds : Nat) :
    PoolWorkerPhase → Prop
  | .idle => clock ≤ since + (rounds + 1 : Nat) * round
  | .receiving => clock ≤ since + (rounds + 1 : Nat) * round
  | .executing execution => execution.started ≤ since + rounds * round
  | .ended _ => True
  | _ => clock ≤ since + rounds * round

/-- A delivery has waited, at some place of the queue, while the workers took others. -/
def Waits (settings : PoolSettings) (s : PoolState) (place : Nat) (delivery : PoolDelivery) : Prop :=
  ∃ since rounds, Fresh settings since delivery ∧
    Rounds.total PoolWorker.id rounds s.workers + place < settings.queueCapacity ∧
    ∀ worker ∈ s.workers,
      worker.phase.Within s.clock since settings.budget (rounds worker.id)

theorem Waits.congr {place : Nat} {delivery : PoolDelivery} (waits : Waits settings s place delivery)
    (workers : t.workers = s.workers) (clock : t.clock = s.clock) :
    Waits settings t place delivery := by
  unfold Waits
  rw [workers, clock]
  exact waits

/-- A worker goes on, and may take deliveries from before this one. -/
theorem Waits.change {id place later : Nat} {worker : PoolWorker} {next : PoolWorkerPhase}
    {delivery : PoolDelivery} (waits : Waits settings s place delivery) (distinct : s.Distinct)
    (found : s.worker id = some worker) (workers : t.workers = (s.setWorker id next).workers)
    (clock : t.clock = s.clock) (more : Nat) (ahead : later + more = place)
    (advance : ∀ since rounds, worker.phase.Within s.clock since settings.budget rounds →
      next.Within s.clock since settings.budget (rounds + more)) :
    Waits settings t later delivery := by
  obtain ⟨since, rounds, fresh, few, within⟩ := waits
  obtain ⟨front, back, split, _⟩ := PoolState.setWorker_split distinct found
  obtain ⟨member, rfl⟩ := PoolState.worker_mem found
  refine ⟨since, Function.update rounds worker.id (rounds worker.id + more), fresh, ?_, ?_⟩
  · have ids : t.workers.map PoolWorker.id = s.workers.map PoolWorker.id := by
      rw [workers]
      exact PoolState.setWorker_map PoolWorker.id (fun _ _ => rfl) next
    rw [Rounds.total_congr ids, Rounds.total_advance split]
    omega
  · intro other present
    rw [workers] at present
    rw [clock]
    rcases PoolState.mem_setWorker present with ⟨old, away⟩ | ⟨own, same⟩
    · rw [Function.update_of_ne away]
      exact within other old
    · rw [own, Function.update_self, same]
      exact advance since _ (within worker member)

/-- Every delivery of the queue waits at its place. -/
def Line (settings : PoolSettings) (s : PoolState) : Prop :=
  ∀ place delivery, s.queue[place]? = some delivery → Waits settings s place delivery

/-- A delivery that is queued now. -/
theorem waits_queued {place : Nat} {delivery : PoolDelivery} (punctual : Punctual settings s)
    (fresh : Fresh settings s.clock delivery) (room : place < settings.queueCapacity) :
    Waits settings s place delivery := by
  refine ⟨s.clock, fun _ => 0, fresh, ?_, fun worker member => ?_⟩
  · rw [Rounds.total_zero, Nat.zero_add]
    exact room
  · have nonneg := settings.budget_nonneg
    cases at_ : worker.phase with
    | executing execution =>
      have past := (punctual.executions execution (mem_running.mpr ⟨worker, member, at_⟩)).1
      simpa [PoolWorkerPhase.Within] using past
    | idle | receiving | dequeued | announced | cleared | ended =>
      simp [PoolWorkerPhase.Within, nonneg]

theorem line_worked {id : Nat} {worker : PoolWorker} {phase : PoolWorkerPhase}
    {action : WorkerAction} (line : Line settings s) (distinct : s.Distinct)
    (punctual : Punctual settings s) (found : s.worker id = some worker)
    (at_ : worker.phase = phase) (worked : Worked s id phase action t) : Line settings t := by
  intro place delivery queued
  cases worked with
  | take nonempty =>
    have before : s.queue[place + 1]? = some delivery := by
      rw [nonempty]
      exact queued
    exact (line _ delivery before).change distinct found rfl rfl 1 rfl fun since rounds within => by
      rw [at_] at within
      exact within
  | leave | poll | disconnect | park | notify | discard | clear | execute | panic | retire | abort =>
    exact (line place delivery queued).change distinct found rfl rfl 0 rfl
      fun since rounds within => by
        rw [at_] at within
        first | exact within | trivial
  | @finish execution =>
    have soon := (punctual.executions execution
      (mem_running.mpr ⟨worker, (PoolState.worker_mem found).1, at_⟩)).2
    refine (line place delivery queued).change distinct found rfl rfl 0 rfl
      fun since rounds within => ?_
    rw [at_] at within
    calc s.clock ≤ execution.started + settings.budget := soon
      _ ≤ since + rounds * settings.budget + settings.budget := Int.add_le_add_right within _
      _ = since + (rounds + 1 : Nat) * settings.budget := by
        rw [Int.natCast_add, Int.add_mul, Int.natCast_one, Int.one_mul, Int.add_assoc]

/-- The steps of the supervisor in a steady pool: it starts the crew, sends a delivery, or leaves the
workers and the queue alone. -/
inductive Loops (settings : PoolSettings) (s t : PoolState) : Prop
  | start : s.supervisor = .starting → t.queue = s.queue → t.started = s.started →
      (∀ worker ∈ t.workers, worker ∈ s.workers ∨ worker.phase = .idle) → Loops settings s t
  | send (delivery : PoolDelivery) (rest : List PoolDelivery) :
      s.supervisor = .sending (delivery :: rest) → s.queue.length < settings.queueCapacity →
      t.workers = s.workers → t.queue = s.queue ++ [delivery] → t.started = s.started →
      Loops settings s t
  | other : t.workers = s.workers → t.queue = s.queue → t.started = s.started → Loops settings s t

theorem loops_supervised {action : SupervisorAction} (steady : Steady settings s)
    (unpanicked : t.supervisor ≠ .panicked)
    (supervised : Supervised settings s s.supervisor action t) : Loops settings s t := by
  have looping := steady.looping
  generalize at_ : s.supervisor = phase at supervised
  rw [at_] at looping
  cases supervised with
  | start =>
    have idle : ∀ worker ∈ (s.addWorkers settings.dispatchers).workers,
        worker ∈ s.workers ∨ worker.phase = .idle := fun _ => idle_of_mem_addWorkers
    obtain ⟨_, _, _, form⟩ := (addWorkers_frame s settings.dispatchers).rest
    rw [form] at idle ⊢
    exact .start at_ rfl rfl idle
  | send _ room => exact .send _ _ at_ room rfl rfl rfl
  | observeExit found ended =>
    exact absurd (ended.symm.trans (steady.awake _ (PoolState.worker_mem found).1)) nofun
  | unregistered | panic => exact absurd rfl unpanicked
  | join closed =>
    rcases closed with ⟨_, _, rfl⟩ | ⟨_, rfl⟩
    · cases looping
    · cases looping
  | spawn => cases looping
  | move | takePermit | buildFailed | discard | stop | close | measured | claim | complete =>
    exact .other rfl rfl rfl

theorem line_supervised {action : SupervisorAction} (line : Line settings s)
    (steady : Steady settings s) (punctual : Punctual settings s)
    (unpanicked : t.supervisor ≠ .panicked)
    (supervised : Supervised settings s s.supervisor action t) : Line settings t := by
  intro place delivery queued
  have clock := supervised.clock
  cases loops_supervised steady unpanicked supervised with
  | start at_ queue =>
    rw [queue, (steady.fresh at_).1] at queued
    cases queued
  | send sent rest at_ room workers queue =>
    rw [queue] at queued
    by_cases before : place < s.queue.length
    · rw [List.getElem?_append_left before] at queued
      exact (line place delivery queued).congr workers clock
    · rw [List.getElem?_append_right (Nat.not_lt.mp before), List.getElem?_singleton] at queued
      split at queued
      · rename_i last
        obtain rfl := Option.some.inj queued
        have fresh := punctual.supervisor
        rw [at_] at fresh
        have waits := waits_queued punctual (fresh sent List.mem_cons_self)
          (show place < settings.queueCapacity by omega)
        exact waits.congr workers clock
      · cases queued
  | other workers queue =>
    rw [queue] at queued
    exact (line place delivery queued).congr workers clock

theorem line_step (line : Line settings s) (distinct : s.Distinct) (steady : Steady settings s)
    (punctual : Punctual settings s) (healthy : Healthy settings s action)
    (unpanicked : t.supervisor ≠ .panicked) (step : PoolStep settings s action t) :
    Line settings t := by
  cases step with
  | cancel => exact healthy.elim
  | wait =>
    intro place delivery queued
    have waiting : s.queue ≠ [] := fun none => by
      rw [show PoolState.queue _ = [] from none] at queued
      cases queued
    obtain ⟨since, rounds, fresh, few, within⟩ := line place delivery queued
    refine ⟨since, rounds, fresh, few, fun worker member => ?_⟩
    have mayWait := healthy.1 worker member
    have now := within worker member
    revert mayWait now
    simp only
    cases worker.phase with
    | idle | receiving => exact fun none => absurd none waiting
    | dequeued | announced | cleared => exact False.elim
    | executing | ended => exact fun _ => id
  | supervise supervised => exact line_supervised line steady punctual unpanicked supervised
  | work found at_ worked => exact line_worked line distinct punctual found at_ worked

/-! ### Coverage -/

/-- What a lease has to cover: the rounds, an execution, the storage operation of the claim and the
safety margin. -/
def PoolSettings.LeaseCovers (settings : PoolSettings) : Prop :=
  ((settings.queueCapacity + settings.concurrency - 1) / settings.concurrency : Nat) * settings.budget
    + settings.budget + settings.storageTimeout.asNanos + leaseSafetyMargin.asNanos
    ≤ settings.leaseDuration.asNanos

/-- The lease has an execution and the safety margin left. -/
def Covered (settings : PoolSettings) (now : Instant) (delivery : PoolDelivery) : Prop :=
  Instant.Representable now ∧ Instant.Representable delivery.deadline ∧
    now + settings.budget + leaseSafetyMargin.asNanos ≤ delivery.deadline

/-- A worker that has not had its share is not far. -/
theorem PoolWorkerPhase.Within.clock_le {phase : PoolWorkerPhase} {clock since : Instant}
    {rounds share : Nat} (within : phase.Within clock since settings.budget rounds)
    (few : rounds < share) (awake : phase.isEnded = false)
    (soon : ∀ execution, phase = .executing execution →
      clock ≤ execution.started + settings.budget) :
    clock ≤ since + share * settings.budget := by
  have nonneg := settings.budget_nonneg
  have more : ((rounds + 1 : Nat) : Int) * settings.budget ≤ share * settings.budget :=
    Int.mul_le_mul_of_nonneg_right (by exact_mod_cast few) nonneg
  have fewer : (rounds : Int) * settings.budget ≤ share * settings.budget :=
    Int.mul_le_mul_of_nonneg_right (by exact_mod_cast few.le) nonneg
  cases phase with
  | idle | receiving => exact within.trans (Int.add_le_add_left more _)
  | dequeued | announced | cleared => exact within.trans (Int.add_le_add_left fewer _)
  | executing execution =>
    calc clock ≤ execution.started + settings.budget := soon execution rfl
      _ ≤ since + rounds * settings.budget + settings.budget := Int.add_le_add_right within _
      _ = since + (rounds + 1 : Nat) * settings.budget := by
        rw [Int.natCast_add, Int.add_mul, Int.natCast_one, Int.one_mul, Int.add_assoc]
      _ ≤ since + share * settings.budget := Int.add_le_add_left more _
  | ended => cases awake

/-- **What waits is covered.** As long as a delivery waits, some worker has not had its share. -/
theorem Waits.covered {place : Nat} {delivery : PoolDelivery}
    (waits : Waits settings s place delivery) (steady : Steady settings s)
    (started : s.supervisor ≠ .starting) (punctual : Punctual settings s)
    (covers : settings.LeaseCovers) : Covered settings s.clock delivery := by
  obtain ⟨since, rounds, fresh, few, within⟩ := waits
  obtain ⟨worker, member, less⟩ := Rounds.exists_lt_share (steady.crew started)
    settings.concurrencyPositive ((Nat.le_add_right _ place).trans_lt few)
  have soon := (within worker member).clock_le less (steady.awake worker member)
    fun execution at_ => (punctual.executions execution (mem_running.mpr ⟨worker, member, at_⟩)).2
  have lease := fresh.2
  unfold PoolSettings.LeaseCovers at covers
  have enough : s.clock + settings.budget + leaseSafetyMargin.asNanos ≤ delivery.deadline := by
    linarith
  have nonneg := settings.budget_nonneg
  have margin : (0 : Int) ≤ leaseSafetyMargin.asNanos := Int.natCast_nonneg _
  obtain ⟨origin, fits, early⟩ := punctual.begun
  exact ⟨fits.between fresh.1 early (by linarith), fresh.1, enough⟩

/-- What a worker has taken and not begun. -/
def PoolWorkerPhase.held : PoolWorkerPhase → Option PoolDelivery
  | .dequeued delivery => some delivery
  | .announced delivery => some delivery
  | .cleared delivery => some delivery
  | _ => none

/-- What was taken is covered, until its execution starts and when it starts. -/
structure Covering (settings : PoolSettings) (s : PoolState) : Prop where
  held : ∀ worker ∈ s.workers, ∀ delivery, worker.phase.held = some delivery →
    Covered settings s.clock delivery
  started : ∀ execution ∈ s.started, Covered settings execution.started execution.delivery

/-- A worker goes on. -/
theorem Covering.change {id : Nat} {next : PoolWorkerPhase} (covering : Covering settings s)
    (workers : t.workers = (s.setWorker id next).workers) (clock : t.clock = s.clock)
    (held : ∀ delivery, next.held = some delivery → Covered settings s.clock delivery)
    (started : ∀ execution ∈ t.started, execution ∈ s.started ∨
      Covered settings execution.started execution.delivery) : Covering settings t := by
  refine ⟨fun worker member delivery holds => ?_, fun execution member => ?_⟩
  · rw [clock]
    rw [workers] at member
    rcases PoolState.mem_setWorker member with ⟨old, _⟩ | ⟨_, same⟩
    · exact covering.held worker old delivery holds
    · exact held delivery (same ▸ holds)
  · exact (started execution member).elim (covering.started execution) fun covered => covered

theorem covering_worked {id : Nat} {worker : PoolWorker} {phase : PoolWorkerPhase}
    {action : WorkerAction} (covering : Covering settings s) (line : Line settings s)
    (steady : Steady settings s) (punctual : Punctual settings s) (covers : settings.LeaseCovers)
    (found : s.worker id = some worker) (at_ : worker.phase = phase)
    (worked : Worked s id phase action t) : Covering settings t := by
  have member := (PoolState.worker_mem found).1
  have before := covering.held worker member
  rw [at_] at before
  cases worked with
  | take nonempty =>
    refine covering.change rfl rfl (fun delivery holds => ?_) fun _ => Or.inl
    obtain rfl := Option.some.inj holds
    have started : s.supervisor ≠ .starting := fun start =>
      absurd ((steady.fresh start).2 ▸ member) List.not_mem_nil
    exact (line 0 _ (by rw [nonempty]; rfl)).covered steady started punctual covers
  | notify | clear => exact covering.change rfl rfl before fun _ => Or.inl
  | execute =>
    refine covering.change rfl rfl nofun fun execution begun => ?_
    rcases List.mem_append.mp begun with old | new
    · exact Or.inl old
    · obtain rfl := List.mem_singleton.mp new
      exact Or.inr (before _ rfl)
  | leave | poll | disconnect | park | discard | finish | panic | retire | abort =>
    exact covering.change rfl rfl nofun fun _ => Or.inl

theorem covering_step (covering : Covering settings s) (line : Line settings s)
    (steady : Steady settings s) (punctual : Punctual settings s) (covers : settings.LeaseCovers)
    (healthy : Healthy settings s action) (unpanicked : t.supervisor ≠ .panicked)
    (step : PoolStep settings s action t) : Covering settings t := by
  cases step with
  | cancel => exact healthy.elim
  | wait =>
    refine ⟨fun worker member delivery holds => ?_, covering.started⟩
    have mayWait := healthy.1 worker member
    revert mayWait holds
    cases worker.phase with
    | dequeued | announced | cleared => exact fun _ => False.elim
    | idle | receiving | executing | ended => nofun
  | supervise supervised =>
    have clock := supervised.clock
    cases loops_supervised steady unpanicked supervised with
    | start at_ _ started idle =>
      refine ⟨fun worker member delivery holds => ?_, by rw [started]; exact covering.started⟩
      rcases idle worker member with old | new
      · rw [clock]
        exact covering.held worker old delivery holds
      · rw [new] at holds
        cases holds
    | send _ _ _ _ workers _ started | other workers _ started =>
      refine ⟨?_, by rw [started]; exact covering.started⟩
      rw [workers, clock]
      exact covering.held
  | work found at_ worked =>
    exact covering_worked covering line steady punctual covers found at_ worked

/-- Everything a healthy run keeps. -/
structure Scheduled (settings : PoolSettings) (s : PoolState) : Prop where
  sound : PoolSound settings s
  steady : Steady settings s
  punctual : Punctual settings s
  line : Line settings s
  covering : Covering settings s

theorem scheduled_step (scheduled : Scheduled settings s) (covers : settings.LeaseCovers)
    (healthy : Healthy settings s action) (step : PoolStep settings s action t) :
    Scheduled settings t := by
  obtain ⟨sound, steady, punctual, line, covering⟩ := scheduled
  have after := poolSound_step sound step
  exact ⟨after, steady_step steady healthy after.unpanicked step,
    punctual_step punctual healthy step,
    line_step line sound.staffed.distinct steady punctual healthy after.unpanicked step,
    covering_step covering line steady punctual covers healthy after.unpanicked step⟩

theorem scheduled_run {clock : Instant} {actions : List PoolAction} (covers : settings.LeaseCovers)
    (fits : Instant.Representable clock)
    (healthy : (poolMachine settings clock).EveryStep (Healthy settings)
      (poolMachine settings clock).start actions)
    (ran : (poolMachine settings clock).run (poolMachine settings clock).start actions = some s) :
    Scheduled settings s := by
  refine healthy.invariant (P := Scheduled settings) ?_ ?_ ran
  · intro s action t healthy scheduled stepped
    exact scheduled_step scheduled covers healthy (poolMachine_step stepped)
  · refine ⟨poolSound_start settings clock, ⟨rfl, rfl, rfl, nofun, ?_, fun _ => ⟨rfl, rfl⟩⟩,
      ⟨⟨clock, fits, Int.le_refl _⟩, ?_, trivial⟩, nofun, ?_, ?_⟩
    all_goals exact fun _ none => absurd none List.not_mem_nil

end Healthy

/-! ### The plan -/

/-- The executor plans to run the handler. -/
def PlansRun (config : TaskWorkerPoolConfig) (storageTimeout : Duration) (now : Instant)
    (delivery : PoolDelivery) : Prop :=
  ∃ handlerDeadline settlementDeadline,
    executionPlan now delivery.deadline config.handlerTimeout storageTimeout
      = .ok (.run handlerDeadline settlementDeadline)

section Accepted

variable {config : TaskWorkerPoolConfig} {storageTimeout : Duration}
  {dispatchers : List (List TaskFormat)} {prepared : dispatchers.length = config.concurrency}

theorem leaseCovers_of_accepted
    (accepted : config.validateForStorageTimeout storageTimeout = .ok ()) :
    (config.poolSettings storageTimeout dispatchers prepared).LeaseCovers := by
  obtain ⟨required, enough, longer⟩ := TaskWorkerPoolConfig.validateForStorageTimeout_ok accepted
  obtain ⟨invocation, added, total⟩ := TaskWorkerPoolConfig.requiredLease_asNanos enough
  have budget := Duration.checkedAdd_asNanos added
  rw [total, budget, TaskWorkerPoolConfig.waves] at longer
  unfold PoolSettings.LeaseCovers PoolSettings.budget TaskWorkerPoolConfig.poolSettings
  simp only
  generalize (config.queueCapacity + config.concurrency - 1) / config.concurrency = waves at longer ⊢
  zify at longer
  linarith

theorem plansRun_of_covered {now : Instant} {delivery : PoolDelivery}
    (accepted : config.validateForStorageTimeout storageTimeout = .ok ())
    (covered : Covered (config.poolSettings storageTimeout dispatchers prepared) now delivery) :
    PlansRun config storageTimeout now delivery := by
  obtain ⟨required, enough, _⟩ := TaskWorkerPoolConfig.validateForStorageTimeout_ok accepted
  obtain ⟨invocation, added, _⟩ := TaskWorkerPoolConfig.requiredLease_asNanos enough
  have budget := Duration.checkedAdd_asNanos added
  obtain ⟨nowFits, deadlineFits, left⟩ := covered
  have handler : (0 : Int) < config.handlerTimeout.asNanos :=
    Int.natCast_pos.mpr (Duration.asNanos_pos config.handlerValid.1)
  have storage : (0 : Int) ≤ storageTimeout.asNanos := Int.natCast_nonneg _
  have margin : (0 : Int) ≤ leaseSafetyMargin.asNanos := Int.natCast_nonneg _
  change now + (config.handlerTimeout.asNanos + storageTimeout.asNanos)
    + leaseSafetyMargin.asNanos ≤ delivery.deadline at left
  have safe : Instant.checkedSub delivery.deadline leaseSafetyMargin
      = some (delivery.deadline - leaseSafetyMargin.asNanos) :=
    if_pos (nowFits.between deadlineFits (by linarith) (by linarith))
  have first : Instant.checkedAdd now config.handlerTimeout
      = some (now + config.handlerTimeout.asNanos) :=
    Instant.checkedAdd_of_between nowFits deadlineFits (by linarith)
  have early : ¬ delivery.deadline - leaseSafetyMargin.asNanos ≤ now := by linarith
  have long : ¬ delivery.deadline - leaseSafetyMargin.asNanos - now < invocation.asNanos := by
    rw [budget]
    push_cast
    linarith
  refine ⟨now + config.handlerTimeout.asNanos, delivery.deadline - leaseSafetyMargin.asNanos, ?_⟩
  simp only [executionPlan, config.handlerValid.1, added, safe, first, if_neg early, if_neg long,
    Bool.false_eq_true, if_false]

/-- **An accepted lease covers a healthy pool.** In every healthy run, whatever the batches and
however long the single executions, the executor plans to run the handler of every delivery that a
worker has taken. -/
theorem accepted_lease_covers {clock : Instant} {actions : List PoolAction} {s : PoolState}
    (accepted : config.validateForStorageTimeout storageTimeout = .ok ())
    (fits : Instant.Representable clock)
    (healthy : (poolMachine (config.poolSettings storageTimeout dispatchers prepared) clock).EveryStep
      (Healthy (config.poolSettings storageTimeout dispatchers prepared))
      (poolMachine (config.poolSettings storageTimeout dispatchers prepared) clock).start actions)
    (ran : (poolMachine (config.poolSettings storageTimeout dispatchers prepared) clock).run
      (poolMachine (config.poolSettings storageTimeout dispatchers prepared) clock).start actions
        = some s) :
    (∀ execution ∈ s.started,
      PlansRun config storageTimeout execution.started execution.delivery) ∧
      ∀ worker ∈ s.workers, ∀ delivery, worker.phase.held = some delivery →
        PlansRun config storageTimeout s.clock delivery := by
  have covering := (scheduled_run (leaseCovers_of_accepted accepted) fits healthy ran).covering
  exact ⟨fun execution member => plansRun_of_covered accepted (covering.started execution member),
    fun worker member delivery held =>
      plansRun_of_covered accepted (covering.held worker member delivery held)⟩

end Accepted

/-- One worker, two places in the queue, and a lease five seconds longer than required. -/
def tightConfig : TaskWorkerPoolConfig where
  concurrency := 1
  queueCapacity := 2
  pollInterval := .fromSecs 1
  handlerTimeout := .fromSecs 10
  leaseDuration := .fromSecs 60
  concurrencyPositive := Nat.one_ne_zero
  capacityValid := by decide
  pollValid := TaskWorkerPoolConfig.default.pollValid
  leaseValid := TaskWorkerPoolConfig.default.leaseValid
  handlerValid := by decide

def tightPool : PoolSettings :=
  tightConfig.poolSettings (.fromSecs 5) [[mailFormat]] rfl

/-- The claim takes its five seconds, and the first execution its fifteen. -/
def tightRun : List PoolAction :=
  [.supervise .start, .supervise .evaluate, .supervise .skip, .supervise .tick,
    .supervise .evaluate, .supervise (.pollRecovery true), .supervise .measure,
    .supervise .evaluate, .supervise .startClaim, .wait 5000000000,
    .supervise (.answer [60000000000, 60000000000]), .supervise .check, .supervise .send,
    .supervise .send, .supervise .send, .work 0 .evaluate, .work 0 .receive, .work 0 .notify,
    .work 0 .check, .work 0 .execute, .wait 15000000000, .work 0 .finish, .work 0 .evaluate,
    .work 0 .receive, .work 0 .notify, .work 0 .check, .work 0 .execute]

def tightState : PoolState := (poolMachine tightPool 0).after tightRun (by decide +kernel)

theorem accepted_lease_covers_tight :
    tightState.started = [⟨⟨0, 60000000000⟩, 5000000000⟩, ⟨⟨1, 60000000000⟩, 20000000000⟩] ∧
      ∀ execution ∈ tightState.started,
        PlansRun tightConfig (.fromSecs 5) execution.started execution.delivery := by
  have healthy : (poolMachine tightPool 0).EveryStep (Healthy tightPool)
      (poolMachine tightPool 0).start tightRun := by decide +kernel
  have ran : (poolMachine tightPool 0).run (poolMachine tightPool 0).start tightRun
      = some tightState := Machine.run_after tightRun _
  exact ⟨by decide +kernel,
    (accepted_lease_covers (by decide) Instant.representable_zero healthy ran).1⟩

end AccountManagement.Runtime
