/-
**No wake-up is lost.**

A worker that takes a delivery frees a place of the queue, and tells the supervisor by the permit of
`Notify`. Between the two the supervisor may restart workers, recover leases or be in a claim whose
limit was read before the place was free. `Noticed` says where the news of a dequeue is until the
supervisor reads the length of the queue again: with the worker that has not told it yet, in the
permit, or with a supervisor that is about to read. The place stays free until then, since a claim
under way counts on other places (`Spare`).

* `noticed_step`, `spare_step`: every step but that reading keeps them;
* `wakeup_kept`: whenever the supervisor is in its outer select after a dequeue that it has not read,
  the permit is set or the worker has still to set it, and the next claim has a positive limit.
-/

import AccountManagement.Runtime.Admission

namespace AccountManagement.Runtime

open AccountManagement.Library AccountManagement.Task

/-- The loop of the supervisor has ended. -/
def SupervisorPhase.isOver : SupervisorPhase → Bool
  | .stopping _ | .closing _ | .draining _ _ | .aborting _ | .returned _ | .panicked => true
  | _ => false

/-- A worker is between its dequeue and its notify. -/
def Announces (id : Nat) (s : PoolState) : Prop :=
  ∃ worker delivery, s.worker id = some worker ∧ worker.phase = .dequeued delivery

/-- Where the news of a dequeue is until the length of the queue is read. -/
def Noticed (id : Nat) (s : PoolState) : Prop :=
  s.permit = true ∨ Announces id s ∨ s.supervisor = .measuring ∨ s.supervisor.isOver = true

/-- A place of the queue that no claim counts on is free. -/
def Spare (settings : PoolSettings) (s : PoolState) : Prop :=
  s.queue.length + s.supervisor.reserved < settings.queueCapacity

section Steps

variable {settings : PoolSettings} (clock : Instant) {s t : PoolState} {id : Nat}
  {action : PoolAction}

/-! ### Looking up a worker -/

theorem find_setWorker (other : Nat) (next : PoolWorkerPhase) :
    (s.setWorker other next).worker id = (s.worker id).map fun worker =>
      if worker.id = other then { worker with phase := next } else worker := by
  rw [PoolState.worker, PoolState.setWorker, List.find?_map, PoolState.worker]
  congr 2
  funext worker
  rw [Function.comp_apply]
  split <;> rfl

theorem worker_setWorker {other : Nat} (differ : id ≠ other) (next : PoolWorkerPhase) :
    (s.setWorker other next).worker id = s.worker id := by
  rw [find_setWorker]
  cases found : s.worker id with
  | none => rfl
  | some worker =>
    have own : worker.id = id := (PoolState.worker_mem found).2
    rw [Option.map_some, if_neg (own ▸ differ)]

theorem worker_setWorker_self {worker : PoolWorker} (found : s.worker id = some worker)
    (next : PoolWorkerPhase) :
    (s.setWorker id next).worker id = some { worker with phase := next } := by
  rw [find_setWorker, found, Option.map_some, if_pos (PoolState.worker_mem found).2]

theorem worker_filter {other : Nat} (differ : id ≠ other) :
    { s with workers := s.workers.filter fun worker => worker.id ≠ other }.worker id =
      s.worker id := by
  rw [PoolState.worker, PoolState.worker, List.find?_filter]
  congr 1
  funext worker
  by_cases own : worker.id = id
  · simp [own, differ]
  · simp [own]

theorem Announces.addWorker (announces : Announces id s) (index : Nat)
    (formats : List TaskFormat) : Announces id (s.addWorker index formats) := by
  obtain ⟨worker, delivery, found, at_⟩ := announces
  refine ⟨worker, delivery, ?_, at_⟩
  rw [PoolState.worker, PoolState.addWorker, List.find?_append]
  rw [PoolState.worker] at found
  rw [found, Option.some_or]

/-- The worker that leaves the join set is another one. -/
theorem Announces.remove (announces : Announces id s) {other : Nat} {worker : PoolWorker}
    (found : s.worker other = some worker) (ended : worker.phase.isEnded = true) :
    Announces id { s with workers := s.workers.filter fun worker => worker.id ≠ other } := by
  obtain ⟨own, delivery, known, at_⟩ := announces
  refine ⟨own, delivery, ?_, at_⟩
  rw [worker_filter, known]
  rintro rfl
  obtain rfl := Option.some.inj (known.symm.trans found)
  rw [at_] at ended
  cases ended

/-! ### Steps -/

theorem over_supervised {action : SupervisorAction} (past : s.supervisor.isOver = true)
    (supervised : Supervised settings s s.supervisor action t) : t.supervisor.isOver = true := by
  generalize at_ : s.supervisor = phase at supervised past
  cases supervised with
  | move move =>
    cases move with
    | leave | refuse | expire | drained | aborted => rfl
    | goOn point =>
      unfold SupervisorPhase.checkpoint at point
      split at point <;> first | cases past | cases point
    | skipExit | tick | skipTick | skipNotified | rebuilt | recovered | recovering | full | failed
    | pend | accept | sent => cases past
  | unregistered | buildFailed | discard | panic | stop | close => rfl
  | join =>
    rw [← at_] at past
    exact past
  | start | observeExit | takePermit | spawn | measured | claim | complete | send => cases past

theorem measure_of_measuring {action : SupervisorAction}
    (supervised : Supervised settings s .measuring action t) : action = .measure := by
  cases supervised with
  | move move =>
    cases move with
    | leave point | goOn point => cases point
    | full => rfl
  | measured => rfl
  | panic panic =>
    cases panic
    rfl
  | join closed => rcases closed with ⟨_, _, same⟩ | ⟨_, same⟩ <;> cases same

/-- A step of the supervisor, other than its reading, keeps the news. -/
theorem noticed_supervised {action : SupervisorAction} (unread : action ≠ .measure)
    (noticed : Noticed id s) (supervised : Supervised settings s s.supervisor action t) :
    Noticed id t := by
  rcases noticed with permit | announces | measuring | past
  · generalize s.supervisor = phase at supervised
    cases supervised with
    | start =>
      obtain ⟨_, _, _, form⟩ := (addWorkers_frame s settings.dispatchers).rest
      rw [form]
      exact .inl permit
    | takePermit => exact .inr (.inr (.inl rfl))
    | move | observeExit | unregistered | buildFailed | spawn | measured | claim | complete | discard
    | send | panic | stop | close | join => exact .inl permit
  · generalize at_ : s.supervisor = phase at supervised
    cases supervised with
    | start =>
      exact .inr (.inl (addWorkers_induction (P := Announces id)
        (fun _ index formats known => known.addWorker index formats) settings.dispatchers announces))
    | spawn => exact .inr (.inl (announces.addWorker _ _))
    | observeExit found ended => exact .inr (.inl (announces.remove found ended))
    | unregistered | panic | stop | close => exact .inr (.inr (.inr rfl))
    | join closed =>
      refine .inr (.inr (.inr ?_))
      rcases closed with ⟨_, _, rfl⟩ | ⟨_, rfl⟩
      · exact congrArg _ at_
      · exact congrArg _ at_
    | move | takePermit | buildFailed | measured | claim | complete | discard | send =>
      exact .inr (.inl announces)
  · rw [measuring] at supervised
    exact absurd (measure_of_measuring supervised) unread
  · exact .inr (.inr (.inr (over_supervised past supervised)))

/-- A step of a worker keeps the news: it sets the permit, or is another's. -/
theorem noticed_worked {other : Nat} {worker : PoolWorker} {phase : PoolWorkerPhase}
    {action : WorkerAction} (noticed : Noticed id s) (found : s.worker other = some worker)
    (at_ : worker.phase = phase) (worked : Worked s other phase action t) : Noticed id t := by
  have frame := worked.frame
  rcases noticed with permit | announces | measuring | past
  · cases worked <;> first | exact .inl permit | exact .inl rfl
  · obtain ⟨own, delivery, known, holds⟩ := announces
    by_cases same : id = other
    · subst same
      obtain rfl := Option.some.inj (known.symm.trans found)
      rw [holds] at at_
      subst at_
      cases worked with
      | notify => exact .inl rfl
    · refine .inr (.inl ⟨own, delivery, ?_, holds⟩)
      obtain ⟨next, workers⟩ := frame.workers
      rw [PoolState.worker, workers]
      exact (worker_setWorker same next).trans known
  · exact .inr (.inr (.inl (frame.supervisor.trans measuring)))
  · refine .inr (.inr (.inr ?_))
    rw [frame.supervisor]
    exact past

theorem noticed_step (unread : action ≠ .supervise .measure) (noticed : Noticed id s)
    (step : PoolStep settings s action t) : Noticed id t := by
  cases step with
  | cancel | wait => exact noticed
  | supervise supervised =>
    exact noticed_supervised (fun same => unread (congrArg _ same)) noticed supervised
  | work found at_ worked => exact noticed_worked noticed found at_ worked

theorem spare_step (unread : action ≠ .supervise .measure) (roomy : Roomy settings s)
    (spare : Spare settings s) (step : PoolStep settings s action t) : Spare settings t := by
  cases step with
  | cancel | wait => exact spare
  | supervise supervised =>
    refine (promised_supervised roomy.within (fun measuring => ?_) supervised).trans_lt spare
    rw [measuring] at supervised
    exact unread (congrArg _ (measure_of_measuring supervised))
  | work _ _ worked =>
    have frame := worked.frame
    rw [Spare, frame.supervisor]
    exact (Nat.add_le_add_right frame.queue.length_le _).trans_lt spare

/-! ### The next claim -/

/-- With a place to spare, the reading of the length leads to a claim. -/
theorem measure_spare (spare : Spare settings s) (at_ : s.supervisor = .measuring) :
    (poolMachine settings clock).step s (.supervise .measure) =
      some (s.goTo (.claiming (settings.queueCapacity - s.queue.length) none false)) ∧
    settings.queueCapacity - s.queue.length ≠ 0 := by
  rw [Spare, at_] at spare
  have free : s.queue.length < settings.queueCapacity := spare
  have positive : settings.queueCapacity - s.queue.length ≠ 0 := by omega
  refine ⟨?_, positive⟩
  show s.supervise settings .measure = _
  unfold PoolState.supervise
  rw [at_]
  simp only [PoolState.measure, if_neg free.not_gt, if_neg positive]

/-- The supervisor offers a claim when it takes the permit. -/
theorem takePermit_offers (spare : Spare settings s) (at_ : s.supervisor = .selecting .notified)
    (permit : s.permit = true) :
    ∃ t limit, (poolMachine settings clock).run s [.supervise .takePermit, .supervise .measure]
        = some t ∧
      t.supervisor = .claiming limit none false ∧ limit ≠ 0 := by
  have taken : (poolMachine settings clock).step s (.supervise .takePermit) =
      some { s with supervisor := .measuring, permit := false } := by
    show s.supervise settings .takePermit = _
    unfold PoolState.supervise
    rw [at_]
    exact if_pos permit
  have spare : Spare settings { s with supervisor := .measuring, permit := false } := by
    rw [Spare, at_] at spare
    exact spare
  obtain ⟨measured, positive⟩ := measure_spare clock spare rfl
  refine ⟨{ s with supervisor := .measuring, permit := false }.goTo
    (.claiming (settings.queueCapacity - s.queue.length) none false), _, ?_, rfl, positive⟩
  rw [Machine.run, taken, Option.bind_some, Machine.run, measured]
  rfl

/-- The worker tells of its dequeue. -/
theorem notify_announces (announces : Announces id s) :
    ∃ phase, (poolMachine settings clock).step s (.work id .notify) =
      some { s.setWorker id phase with permit := true } := by
  obtain ⟨worker, delivery, found, at_⟩ := announces
  refine ⟨.announced delivery, ?_⟩
  simp only [poolMachine, PoolState.work, found, at_, Option.bind_eq_bind, Option.bind_some]

/-- What a worker's dequeue has done by the time of a state in which it was not read yet. -/
structure Woken (settings : PoolSettings) (clock : Instant) (id : Nat) (s : PoolState) : Prop where
  kept : ∀ branch, s.supervisor = .selecting branch → s.permit = true ∨ Announces id s
  read : s.supervisor = .measuring → ∃ limit, limit ≠ 0 ∧
    (poolMachine settings clock).step s (.supervise .measure) =
      some (s.goTo (.claiming limit none false))
  offered : s.supervisor = .selecting .notified → ∃ announce t limit,
    (announce = [] ∨ announce = [.work id .notify]) ∧
    (poolMachine settings clock).run s
      (announce ++ [.supervise .takePermit, .supervise .measure]) = some t ∧
    t.supervisor = .claiming limit none false ∧ limit ≠ 0

theorem woken_of_noticed (noticed : Noticed id s) (spare : Spare settings s) :
    Woken settings clock id s where
  kept branch at_ := by
    rcases noticed with permit | announces | measuring | past
    · exact .inl permit
    · exact .inr announces
    · exact absurd (measuring.symm.trans at_) nofun
    · rw [at_] at past
      cases past
  read at_ := by
    obtain ⟨measured, positive⟩ := measure_spare clock spare at_
    exact ⟨_, positive, measured⟩
  offered at_ := by
    rcases noticed with permit | announces | measuring | past
    · obtain ⟨t, limit, ran, claims, positive⟩ := takePermit_offers clock spare at_ permit
      exact ⟨[], t, limit, .inl rfl, ran, claims, positive⟩
    · obtain ⟨phase, notified⟩ := notify_announces clock announces
      have spare : Spare settings { s.setWorker id phase with permit := true } := spare
      obtain ⟨t, limit, ran, claims, positive⟩ := takePermit_offers clock spare at_ rfl
      refine ⟨[.work id .notify], t, limit, .inr rfl, ?_, claims, positive⟩
      rw [List.singleton_append, Machine.run, notified]
      exact ran
    · exact absurd (measuring.symm.trans at_) nofun
    · rw [at_] at past
      cases past

/-- The dequeue itself: the worker has the news, and a place is free. -/
theorem noticed_receive {delivery : PoolDelivery} {rest : List PoolDelivery}
    (reached : (poolMachine settings clock).Reachable s) (queued : s.queue = delivery :: rest)
    (dequeued : (poolMachine settings clock).step s (.work id .receive) = some t) :
    Noticed id t ∧ Spare settings t := by
  have fits := (poolSound_reachable reached).roomy.fits
  cases poolMachine_step dequeued with
  | work found at_ worked =>
    cases worked with
    | take head =>
      refine ⟨.inr (.inl ⟨_, _, worker_setWorker_self found _, rfl⟩), ?_⟩
      rw [head] at fits
      simp only [Spare, PoolState.setWorker, List.length_cons] at fits ⊢
      omega
    | disconnect empty | park empty =>
      exact absurd (queued.symm.trans empty) (List.cons_ne_nil delivery rest)

/-- **No wake-up is lost.** After a worker has taken a delivery, and until the supervisor reads the
length of the queue: in the outer select the permit is set or the worker is about to set it; the
reading finds a place; and the permit's branch leads to a claim, without the tick's. -/
theorem wakeup_kept {u : PoolState} {delivery : PoolDelivery} {rest : List PoolDelivery}
    {later : List PoolAction} (reached : (poolMachine settings clock).Reachable s)
    (queued : s.queue = delivery :: rest)
    (dequeued : (poolMachine settings clock).step s (.work id .receive) = some t)
    (ran : (poolMachine settings clock).run t later = some u)
    (unread : ∀ action ∈ later, action ≠ .supervise .measure) : Woken settings clock id u := by
  have known := reached.step _ dequeued
  obtain ⟨noticed, spare⟩ := noticed_receive clock reached queued dequeued
  have kept : PoolSound settings u ∧ Noticed id u ∧ Spare settings u := by
    refine (Machine.everyStep_of_forall unread).invariant
      (P := fun s => PoolSound settings s ∧ Noticed id s ∧ Spare settings s) ?_
      ⟨poolSound_reachable known, noticed, spare⟩ ran
    rintro s action t unread ⟨sound, noticed, spare⟩ stepped
    have step := poolMachine_step stepped
    exact ⟨poolSound_step sound step, noticed_step unread noticed step,
      spare_step unread sound.roomy spare step⟩
  exact woken_of_noticed clock kept.2.1 kept.2.2

end Steps

/-- Two deliveries fill the queue, and a worker is about to take the first. -/
def queuedRun : List PoolAction :=
  [.supervise .start, .supervise .evaluate, .supervise .skip, .supervise .tick,
    .supervise .evaluate, .supervise (.pollRecovery true), .supervise .measure,
    .supervise .evaluate, .supervise .startClaim, .supervise (.answer [100, 200]),
    .supervise .check, .supervise .send, .supervise .send, .supervise .send, .work 0 .evaluate]

def queuedPool : PoolState := (poolMachine pairPool 0).after queuedRun (by decide +kernel)

def dequeuedPool : PoolState :=
  ((poolMachine pairPool 0).step queuedPool (.work 0 .receive)).get (by decide +kernel)

/-- The supervisor passes the first three branches of its select. -/
def passes : List PoolAction := [.supervise .evaluate, .supervise .skip, .supervise .skip]

def waitingPool : PoolState :=
  ((poolMachine pairPool 0).run dequeuedPool passes).get (by decide +kernel)

theorem wakeup_kept_waitingPool :
    waitingPool.supervisor = .selecting .notified ∧ waitingPool.permit = false ∧
      Woken pairPool 0 0 waitingPool :=
  ⟨by decide +kernel, by decide +kernel,
    wakeup_kept 0 (Machine.reachable_after queuedRun (by decide +kernel))
      (show queuedPool.queue = [⟨0, 100⟩, ⟨1, 200⟩] by decide +kernel)
      (Option.some_get (by decide +kernel)).symm (Option.some_get (by decide +kernel)).symm
      (by simp [passes])⟩

end AccountManagement.Runtime
