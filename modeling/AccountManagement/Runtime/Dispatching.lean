/-
**Routing over the life of a pool.**

The pool with the real dispatchers of its workers and the formats of its deliveries. Each step is a
step of the pool; beside it, the factory is called for every restart, a worker owns the dispatcher
it was spawned with, the poller asks for one format after another in the order of its scan, and a
delivery has the format of its task. Nothing here restrains the factory or the queue.

* `routing_consistent`: every dispatcher ever owned has the formats of the poller; if the queue
  answers a request with tasks of its format only, every delivery in the hands of a worker is routed
  to the one adapter that declared its format; no other format is asked for, and no statement of the
  pool changes the attempts of its tasks.
-/

import AccountManagement.Outbox.Statements
import AccountManagement.Runtime.Admission
import AccountManagement.Runtime.Dispatcher
import AccountManagement.Runtime.Poller

namespace AccountManagement.Runtime

open AccountManagement.Library AccountManagement.Task AccountManagement.Outbox

/-! ### Preparation -/

/-- A pool whose dispatchers the factory has built; a vector has a length that is a machine
integer. -/
structure PreparedPool (factory : TaskDispatcherFactory) where
  config : TaskWorkerPoolConfig
  storageTimeout : Duration
  dispatchers : List TaskDispatcher
  prepared : prepareDispatchers factory config.concurrency = .ok dispatchers
  sized : ∀ dispatcher ∈ dispatchers, dispatcher.formats.length < 2 ^ 64

variable {factory : TaskDispatcherFactory}

namespace PreparedPool

variable (prepared : PreparedPool factory)

def settings : PoolSettings where
  concurrency := prepared.config.concurrency
  queueCapacity := prepared.config.queueCapacity
  handlerTimeout := prepared.config.handlerTimeout
  storageTimeout := prepared.storageTimeout
  leaseDuration := prepared.config.leaseDuration
  dispatchers := prepared.dispatchers.map TaskDispatcher.formats
  concurrencyPositive := prepared.config.concurrencyPositive
  capacityPositive := prepared.config.capacityValid.1
  prepared := by
    rw [List.length_map]
    exact (prepareDispatchers_formats prepared.config.concurrencyPositive prepared.prepared).1

/-- The formats of the poller. -/
def formats : List TaskFormat := prepared.settings.formats

theorem dispatcher_formats : ∀ dispatcher ∈ prepared.dispatchers,
    dispatcher.formats = prepared.formats := by
  obtain ⟨_, first, others, listed, same⟩ :=
    prepareDispatchers_formats prepared.config.concurrencyPositive prepared.prepared
  have head : prepared.formats = first.formats := by
    show (prepared.dispatchers.map TaskDispatcher.formats).headD [] = first.formats
    rw [listed]
    rfl
  rw [head]
  exact same

theorem formats_sized : prepared.formats.length < 2 ^ 64 := by
  obtain ⟨_, first, others, listed, _⟩ :=
    prepareDispatchers_formats prepared.config.concurrencyPositive prepared.prepared
  have member : first ∈ prepared.dispatchers := listed ▸ List.mem_cons_self
  rw [← prepared.dispatcher_formats first member]
  exact prepared.sized first member

def poller : Poller := .new prepared.formats prepared.storageTimeout prepared.formats_sized

end PreparedPool

/-! ### States and steps -/

/-- The pool with what routing depends on: the poller and the formats it has not asked for in its
scan, the calls of the factory, the dispatcher that waits for its worker, those ever owned by a
worker under its Tokio id, the formats of the deliveries by their numbers, and all formats the queue
was asked for. -/
structure RoutedPool where
  pool : PoolState
  poller : Poller
  scan : List TaskFormat
  calls : Nat
  held : Option TaskDispatcher
  owned : List (Nat × TaskDispatcher)
  formats : List TaskFormat
  requested : List TaskFormat

/-- A step of the pool, a call of the factory, or an answer of the queue with tasks. -/
inductive RoutedAction where
  | pool (action : PoolAction)
  | build
  | answer (tasks : List (TaskFormat × Instant))

namespace RoutedPool

/-- Dispatchers under the next Tokio ids. -/
def assign (first : Nat) (dispatchers : List TaskDispatcher) : List (Nat × TaskDispatcher) :=
  (dispatchers.zipIdx first).map Prod.swap

/-- The request for the next format of the scan is answered or has failed. -/
def ask (r : RoutedPool) (t : PoolState) : RoutedPool :=
  { r with pool := t, scan := r.scan.tail, requested := r.requested ++ r.scan.head?.toList }

/-- What a step of the pool means for routing. -/
def follow (prepared : PreparedPool factory) (r : RoutedPool) (t : PoolState) :
    PoolAction → RoutedPool
  | .supervise .start =>
    if r.pool.isCancelled then { r with pool := t }
    else { r with pool := t, owned := r.owned ++ assign r.pool.spawned prepared.dispatchers }
  | .supervise .spawn =>
    { r with pool := t, held := none, owned := r.owned ++ assign r.pool.spawned r.held.toList }
  | .supervise .startClaim =>
    { r with
      pool := t
      scan := r.poller.scanOrder
      poller := { r.poller with nextFormatStart := r.poller.nextFormatStart + 1 } }
  | .supervise .fail => r.ask t
  | _ => { r with pool := t }

end RoutedPool

/-- A pool of prepared dispatchers and its factory, which was called once for each of them. -/
def routedMachine (prepared : PreparedPool factory) (clock : Instant) :
    Machine RoutedPool RoutedAction where
  start := ⟨(poolMachine prepared.settings clock).start, prepared.poller, [],
    prepared.config.concurrency, none, [], [], []⟩
  step r
    | .pool (.supervise (.build _)) => none
    | .pool (.supervise (.answer _)) => none
    | .pool action => ((poolMachine prepared.settings clock).step r.pool action).map fun t =>
        r.follow prepared t action
    | .build =>
      let built := factory r.calls
      ((poolMachine prepared.settings clock).step r.pool
        (.supervise (.build (built.map TaskDispatcher.formats)))).map fun t =>
          { r with pool := t, calls := r.calls + 1, held := built.toOption }
    | .answer tasks =>
      ((poolMachine prepared.settings clock).step r.pool
        (.supervise (.answer (tasks.map Prod.snd)))).map fun t =>
          { r.ask t with formats := r.formats ++ tasks.map Prod.fst }

/-- Everything a step can do. -/
inductive RoutedStep (prepared : PreparedPool factory) (r : RoutedPool) :
    RoutedAction → RoutedPool → Prop
  | pool {action : PoolAction} {t : PoolState} : PoolStep prepared.settings r.pool action t →
      (∀ built, action ≠ .supervise (.build built)) →
      (∀ deadlines, action ≠ .supervise (.answer deadlines)) →
      RoutedStep prepared r (.pool action) (r.follow prepared t action)
  | build {t : PoolState} : PoolStep prepared.settings r.pool
      (.supervise (.build ((factory r.calls).map TaskDispatcher.formats))) t →
      RoutedStep prepared r .build
        { r with pool := t, calls := r.calls + 1, held := (factory r.calls).toOption }
  | answer {tasks : List (TaskFormat × Instant)} {t : PoolState} :
      PoolStep prepared.settings r.pool (.supervise (.answer (tasks.map Prod.snd))) t →
      RoutedStep prepared r (.answer tasks)
        { r.ask t with formats := r.formats ++ tasks.map Prod.fst }

section Steps

variable {prepared : PreparedPool factory} {clock : Instant} {r next : RoutedPool}
  {action : RoutedAction}

theorem routedMachine_step (stepped : (routedMachine prepared clock).step r action = some next) :
    RoutedStep prepared r action next := by
  simp only [routedMachine] at stepped
  split at stepped
  · cases stepped
  · cases stepped
  · rename_i noBuild noAnswer
    obtain ⟨t, taken, rfl⟩ := Option.map_eq_some_iff.mp stepped
    exact .pool (poolMachine_step taken) noBuild noAnswer
  · obtain ⟨t, taken, rfl⟩ := Option.map_eq_some_iff.mp stepped
    exact .build (poolMachine_step taken)
  · obtain ⟨t, taken, rfl⟩ := Option.map_eq_some_iff.mp stepped
    exact .answer (poolMachine_step taken)

end Steps

/-! ### What the pool changes of what routing depends on -/

namespace SupervisorPhase

/-- A dispatcher was built for a worker that is not spawned. -/
def replaces : SupervisorPhase → Bool
  | .replacing _ _ | .spawning _ _ => true
  | _ => false

/-- How many formats the scan has not asked for. -/
def scanning : SupervisorPhase → Option Nat
  | .claiming _ (some progress) _ => some progress.left
  | _ => none

end SupervisorPhase

/-- A step that spawns no worker and numbers no delivery, and after which the supervisor waits for
a dispatcher, or scans, only if it did before. -/
structure RoutingFrame (s t : PoolState) : Prop where
  spawned : t.spawned = s.spawned
  numbered : t.numbered = s.numbered
  replaces : t.supervisor.replaces = true → s.supervisor.replaces = true
  scanning : ∀ left, t.supervisor.scanning = some left → s.supervisor.scanning = some left

/-- The steps that routing follows. -/
def PoolAction.isRouted : PoolAction → Bool
  | .supervise .start | .supervise .spawn | .supervise .startClaim | .supervise .fail
  | .supervise (.build _) | .supervise (.answer _) => true
  | _ => false

section Frames

variable {settings : PoolSettings} {s t : PoolState}

theorem checkpoint_routing {phase next : SupervisorPhase} {action : SupervisorAction}
    (point : phase.checkpoint = some (action, next)) :
    next.replaces = phase.replaces ∧ next.scanning = phase.scanning := by
  unfold SupervisorPhase.checkpoint at point
  split at point
  · obtain ⟨rfl, rfl⟩ := Prod.mk.inj (Option.some.inj point)
    exact ⟨rfl, rfl⟩
  · obtain ⟨rfl, rfl⟩ := Prod.mk.inj (Option.some.inj point)
    exact ⟨rfl, rfl⟩
  · obtain ⟨rfl, rfl⟩ := Prod.mk.inj (Option.some.inj point)
    exact ⟨rfl, rfl⟩
  · rename_i progress
    obtain ⟨rfl, rfl⟩ := Prod.mk.inj (Option.some.inj point)
    cases progress <;> exact ⟨rfl, rfl⟩
  · cases point

/-- A move waits for a dispatcher only if one was built, and does not begin a scan. -/
theorem SupervisorMove.routing {phase next : SupervisorPhase} {action : SupervisorAction}
    (move : SupervisorMove settings s phase action next) :
    ((∀ built, action ≠ .build built) → next.replaces = true → phase.replaces = true) ∧
      ∀ left, next.scanning = some left → phase.scanning = some left := by
  cases move with
  | goOn point =>
    obtain ⟨replaces, scanning⟩ := checkpoint_routing point
    rw [replaces, scanning]
    exact ⟨fun _ => id, fun _ => id⟩
  | rebuilt => exact ⟨fun unbuilt => absurd rfl (unbuilt _), nofun⟩
  | pend => exact ⟨fun _ => nofun, fun _ => id⟩
  | refuse | leave | skipExit | tick | skipTick | skipNotified | recovered | recovering | full
  | failed | accept | sent | expire | drained | aborted => exact ⟨fun _ => nofun, nofun⟩

theorem routingFrame_supervised {action : SupervisorAction}
    (plain : (PoolAction.supervise action).isRouted = false)
    (supervised : Supervised settings s s.supervisor action t) : RoutingFrame s t := by
  have unbuilt : ∀ built, action ≠ .build built := by
    rintro built rfl
    cases plain
  generalize at_ : s.supervisor = phase at supervised
  cases supervised with
  | move move =>
    obtain ⟨replaces, scanning⟩ := move.routing
    exact ⟨rfl, rfl, at_ ▸ replaces unbuilt, at_ ▸ scanning⟩
  | start | spawn | buildFailed => cases plain
  | claim claims | complete claims => cases claims <;> cases plain
  | join => exact ⟨rfl, rfl, id, fun _ => id⟩
  | observeExit | unregistered | takePermit | measured | discard | send | panic | stop | close =>
    exact ⟨rfl, rfl, nofun, nofun⟩

theorem routingFrame_step {action : PoolAction} (plain : action.isRouted = false)
    (step : PoolStep settings s action t) : RoutingFrame s t := by
  cases step with
  | cancel | wait => exact ⟨rfl, rfl, id, fun _ => id⟩
  | supervise supervised => exact routingFrame_supervised plain supervised
  | work _ _ worked =>
    have frame := worked.frame
    refine ⟨frame.spawned, frame.numbered, ?_, ?_⟩
    · rw [frame.supervisor]
      exact id
    · rw [frame.supervisor]
      exact fun _ => id

theorem checkpoint_action {phase next : SupervisorPhase} {action : SupervisorAction}
    (point : phase.checkpoint = some (action, next)) : action = .evaluate ∨ action = .check := by
  unfold SupervisorPhase.checkpoint at point
  split at point
  · exact .inl (Prod.mk.inj (Option.some.inj point)).1.symm
  · exact .inr (Prod.mk.inj (Option.some.inj point)).1.symm
  · exact .inl (Prod.mk.inj (Option.some.inj point)).1.symm
  · exact .inl (Prod.mk.inj (Option.some.inj point)).1.symm
  · cases point

/-- The start of the supervisor. -/
theorem start_cases (supervised : Supervised settings s s.supervisor .start t) :
    (s.isCancelled = true ∧ t = s.goTo (.returned (.ok ()))) ∨
      (s.isCancelled = false ∧
        t = (s.addWorkers settings.dispatchers).goTo (.selecting .cancelled)) := by
  generalize s.supervisor = phase at supervised
  cases supervised with
  | move move =>
    cases move with
    | refuse cancelled => exact .inl ⟨cancelled, rfl⟩
    | leave point | goOn point => rcases checkpoint_action point with same | same <;> cases same
  | start live => exact .inr ⟨live, rfl⟩
  | claim claims | complete claims => cases claims
  | panic panic => cases panic

theorem spawn_cases (supervised : Supervised settings s s.supervisor .spawn t) :
    ∃ index formats, s.supervisor = .spawning index formats ∧
      t = (s.addWorker index formats).goTo .measuring := by
  generalize at_ : s.supervisor = phase at supervised
  cases supervised with
  | move move =>
    cases move with
    | leave point | goOn point => rcases checkpoint_action point with same | same <;> cases same
  | spawn => exact ⟨_, _, rfl, rfl⟩
  | claim claims | complete claims => cases claims
  | panic panic => cases panic

/-- A dispatcher is checked for a replacement: it is kept, or the loop ends. -/
theorem build_cases {built : Except TaskDispatcherError (List TaskFormat)}
    (supervised : Supervised settings s s.supervisor (.build built) t) :
    (∃ index formats, buildCheckedDispatcher settings.formats index built = .ok formats ∧
      t = s.goTo (.replacing index formats)) ∨
    RoutingFrame s t ∧ t.supervisor.replaces = false := by
  generalize s.supervisor = phase at supervised
  cases supervised with
  | move move =>
    cases move with
    | leave point | goOn point => rcases checkpoint_action point with same | same <;> cases same
    | rebuilt checked => exact .inl ⟨_, _, checked, rfl⟩
  | buildFailed => exact .inr ⟨⟨rfl, rfl, nofun, nofun⟩, rfl⟩
  | claim claims | complete claims => cases claims
  | panic panic => cases panic

/-- A scan begins with all formats left. -/
theorem startClaim_cases (supervised : Supervised settings s s.supervisor .startClaim t) :
    t.spawned = s.spawned ∧ t.numbered = s.numbered ∧ t.supervisor.replaces = false ∧
      ∀ left, t.supervisor.scanning = some left → settings.formats.length = left ∧ 0 < left := by
  generalize s.supervisor = phase at supervised
  cases supervised with
  | move move =>
    cases move with
    | leave point | goOn point => rcases checkpoint_action point with same | same <;> cases same
  | claim claims more =>
    cases claims with
    | start =>
      refine ⟨rfl, rfl, rfl, fun left same => ?_⟩
      obtain rfl := Option.some.inj same
      exact ⟨rfl, Nat.pos_of_ne_zero fun zero => more (.inl zero)⟩
  | complete claims =>
    cases claims with
    | start => exact ⟨rfl, rfl, rfl, nofun⟩
  | panic panic => cases panic

/-- A failed request ends the scan. -/
theorem fail_cases (supervised : Supervised settings s s.supervisor .fail t) :
    t.spawned = s.spawned ∧ t.numbered = s.numbered ∧ t.supervisor.replaces = false ∧
      t.supervisor.scanning = none := by
  generalize s.supervisor = phase at supervised
  cases supervised with
  | move move =>
    cases move with
    | leave point | goOn point => rcases checkpoint_action point with same | same <;> cases same
    | failed => exact ⟨rfl, rfl, rfl, rfl⟩
  | claim claims more =>
    cases claims with
    | giveUp => exact absurd (.inl rfl) more
  | complete claims =>
    cases claims with
    | giveUp => exact ⟨rfl, rfl, rfl, rfl⟩
  | panic panic => cases panic

/-- An answered request numbers its tasks, and the scan goes on with one format less. -/
theorem answer_cases {deadlines : List Instant}
    (supervised : Supervised settings s s.supervisor (.answer deadlines) t) :
    t.spawned = s.spawned ∧ t.numbered = s.numbered + deadlines.length ∧
      t.supervisor.replaces = false ∧
      ∀ left, t.supervisor.scanning = some left →
        s.supervisor.scanning = some (left + 1) ∧ 0 < left := by
  generalize at_ : s.supervisor = phase at supervised
  cases supervised with
  | move move =>
    cases move with
    | leave point | goOn point => rcases checkpoint_action point with same | same <;> cases same
  | claim claims more =>
    cases claims with
    | @answer progress _ within =>
      refine ⟨rfl, rfl, rfl, fun left same => ?_⟩
      have left_ : progress.left - 1 = left := Option.some.inj same
      have positive : progress.left - 1 ≠ 0 := fun zero => more (.inl zero)
      refine ⟨?_, left_ ▸ Nat.pos_of_ne_zero positive⟩
      show some progress.left = some (left + 1)
      rw [← left_]
      congr 1
      omega
  | complete claims =>
    cases claims with
    | answer => exact ⟨rfl, rfl, rfl, nofun⟩
  | panic panic => cases panic

theorem addWorkers_spawned (s : PoolState) (dispatchers : List (List TaskFormat)) :
    (s.addWorkers dispatchers).spawned = s.spawned + dispatchers.length := by
  rw [PoolState.addWorkers, ← List.length_zipIdx (l := dispatchers) (i := 0)]
  generalize dispatchers.zipIdx = added
  induction added generalizing s with
  | nil => rfl
  | cons first rest ih =>
    rw [List.foldl_cons, ih, PoolState.addWorker, List.length_cons]
    show s.spawned + 1 + rest.length = _
    omega

end Frames

/-! ### Soundness -/

/-- Every dispatcher ever owned, and one that waits for its worker, has the formats of the poller;
every worker owns one; the poller asks for its formats only, and in a scan for one that is left. -/
structure RoutedSound (prepared : PreparedPool factory) (r : RoutedPool) : Prop where
  pool : PoolSound prepared.settings r.pool
  poller : r.poller.formats = prepared.formats
  owners : r.owned.map Prod.fst = List.range r.pool.spawned
  agreed : ∀ entry ∈ r.owned, entry.2.formats = prepared.formats
  held : r.pool.supervisor.replaces = true →
    ∃ dispatcher, r.held = some dispatcher ∧ dispatcher.formats = prepared.formats
  scan : ∀ format ∈ r.scan, format ∈ prepared.formats
  scanning : ∀ left, r.pool.supervisor.scanning = some left → r.scan.length = left ∧ 0 < left
  requested : ∀ format ∈ r.requested, format ∈ prepared.formats
  numbered : r.formats.length = r.pool.numbered

theorem scanOrder_length (poller : Poller) : poller.scanOrder.length = poller.formats.length := by
  rw [Poller.scanOrder, List.length_map, List.length_finRange]

theorem mem_of_mem_scanOrder {poller : Poller} {format : TaskFormat}
    (member : format ∈ poller.scanOrder) : format ∈ poller.formats := by
  obtain ⟨offset, _, rfl⟩ := List.mem_map.mp member
  exact List.get_mem _ _

theorem assign_ids (first : Nat) (dispatchers : List TaskDispatcher) :
    (RoutedPool.assign first dispatchers).map Prod.fst =
      List.range' first dispatchers.length := by
  rw [RoutedPool.assign, List.map_map]
  exact List.zipIdx_map_snd first dispatchers

theorem mem_assign {first : Nat} {dispatchers : List TaskDispatcher} {entry : Nat × TaskDispatcher}
    (member : entry ∈ RoutedPool.assign first dispatchers) : entry.2 ∈ dispatchers := by
  obtain ⟨⟨dispatcher, id⟩, listed, rfl⟩ := List.mem_map.mp member
  exact List.fst_mem_of_mem_zipIdx listed

namespace RoutedSound

variable {prepared : PreparedPool factory} {r : RoutedPool} {t : PoolState}

theorem start (prepared : PreparedPool factory) (clock : Instant) :
    RoutedSound prepared (routedMachine prepared clock).start where
  pool := poolSound_start prepared.settings clock
  poller := rfl
  owners := rfl
  agreed := nofun
  held := nofun
  scan := nofun
  scanning := nofun
  requested := nofun
  numbered := rfl

/-- Workers are spawned with dispatchers that have the formats of the poller. -/
theorem own (sound : RoutedSound prepared r) (pool : PoolSound prepared.settings t)
    {dispatchers : List TaskDispatcher} (held : Option TaskDispatcher)
    (agreed : ∀ dispatcher ∈ dispatchers, dispatcher.formats = prepared.formats)
    (spawned : t.spawned = r.pool.spawned + dispatchers.length)
    (numbered : t.numbered = r.pool.numbered) (replaces : t.supervisor.replaces = false)
    (scanning : t.supervisor.scanning = none) :
    RoutedSound prepared { r with
      pool := t, held, owned := r.owned ++ RoutedPool.assign r.pool.spawned dispatchers } where
  pool := pool
  poller := sound.poller
  owners := by
    rw [List.map_append, sound.owners, assign_ids, spawned, List.range_eq_range',
      List.range_eq_range', ← List.range'_append_1, Nat.zero_add]
  agreed entry member := by
    rcases List.mem_append.mp member with old | new
    · exact sound.agreed entry old
    · exact agreed entry.2 (mem_assign new)
  held waits := absurd (replaces.symm.trans waits) nofun
  scan := sound.scan
  scanning left some_ := absurd (scanning.symm.trans some_) nofun
  requested := sound.requested
  numbered := sound.numbered.trans numbered.symm

/-- A scan begins, over all formats of the poller. -/
theorem beginScan (sound : RoutedSound prepared r) (pool : PoolSound prepared.settings t)
    (spawned : t.spawned = r.pool.spawned) (numbered : t.numbered = r.pool.numbered)
    (replaces : t.supervisor.replaces = false)
    (scanning : ∀ left, t.supervisor.scanning = some left →
      prepared.settings.formats.length = left ∧ 0 < left) :
    RoutedSound prepared (r.follow prepared t (.supervise .startClaim)) where
  pool := pool
  poller := sound.poller
  owners := sound.owners.trans (congrArg List.range spawned.symm)
  agreed := sound.agreed
  held waits := absurd (replaces.symm.trans waits) nofun
  scan format member := sound.poller ▸ mem_of_mem_scanOrder member
  scanning left some_ := by
    obtain ⟨whole, positive⟩ := scanning left some_
    show r.poller.scanOrder.length = left ∧ 0 < left
    rw [scanOrder_length, sound.poller]
    exact ⟨whole, positive⟩
  requested := sound.requested
  numbered := sound.numbered.trans numbered.symm

/-- The next format of the scan is asked for. -/
theorem ask (sound : RoutedSound prepared r) (pool : PoolSound prepared.settings t)
    (tasks : List TaskFormat) (spawned : t.spawned = r.pool.spawned)
    (numbered : t.numbered = r.pool.numbered + tasks.length)
    (replaces : t.supervisor.replaces = false)
    (scanning : ∀ left, t.supervisor.scanning = some left →
      r.scan.tail.length = left ∧ 0 < left) :
    RoutedSound prepared { r.ask t with formats := r.formats ++ tasks } where
  pool := pool
  poller := sound.poller
  owners := sound.owners.trans (congrArg List.range spawned.symm)
  agreed := sound.agreed
  held waits := absurd (replaces.symm.trans waits) nofun
  scan format member := sound.scan format (List.mem_of_mem_tail member)
  scanning := scanning
  requested format member := by
    rcases List.mem_append.mp member with old | new
    · exact sound.requested format old
    · exact sound.scan format (List.mem_of_head? (Option.mem_toList.mp new))
  numbered := by
    show (r.formats ++ tasks).length = t.numbered
    rw [List.length_append, sound.numbered, numbered]

/-- A step that routing does not follow. -/
theorem keep (sound : RoutedSound prepared r) (pool : PoolSound prepared.settings t)
    (frame : RoutingFrame r.pool t) : RoutedSound prepared { r with pool := t } where
  pool := pool
  poller := sound.poller
  owners := sound.owners.trans (congrArg List.range frame.spawned.symm)
  agreed := sound.agreed
  held waits := sound.held (frame.replaces waits)
  scan := sound.scan
  scanning left some_ := sound.scanning left (frame.scanning left some_)
  requested := sound.requested
  numbered := sound.numbered.trans frame.numbered.symm

theorem follow_plain {action : PoolAction} (plain : action.isRouted = false) :
    r.follow prepared t action = { r with pool := t } := by
  unfold RoutedPool.follow
  split <;> first | rfl | cases plain

theorem follow (sound : RoutedSound prepared r) {action : PoolAction}
    (step : PoolStep prepared.settings r.pool action t)
    (noBuild : ∀ built, action ≠ .supervise (.build built))
    (noAnswer : ∀ deadlines, action ≠ .supervise (.answer deadlines)) :
    RoutedSound prepared (r.follow prepared t action) := by
  have pool := poolSound_step sound.pool step
  cases plain : action.isRouted with
  | false =>
    rw [follow_plain plain]
    exact sound.keep pool (routingFrame_step plain step)
  | true =>
    unfold PoolAction.isRouted at plain
    split at plain
    · obtain ⟨cancelled, rfl⟩ | ⟨live, rfl⟩ := start_cases (by cases step; assumption)
      · rw [RoutedPool.follow, if_pos cancelled]
        exact sound.keep pool ⟨rfl, rfl, nofun, nofun⟩
      · rw [RoutedPool.follow, if_neg (by rw [live]; decide)]
        refine sound.own pool r.held prepared.dispatcher_formats ?_ ?_ rfl rfl
        · have spawned := addWorkers_spawned r.pool prepared.settings.dispatchers
          rw [PreparedPool.settings, List.length_map] at spawned
          exact spawned
        · obtain ⟨_, _, _, same⟩ := (addWorkers_frame r.pool prepared.settings.dispatchers).rest
          rw [same]
          rfl
    · obtain ⟨index, formats, at_, rfl⟩ := spawn_cases (by cases step; assumption)
      obtain ⟨dispatcher, waits, agrees⟩ := sound.held (by rw [at_]; rfl)
      rw [RoutedPool.follow, waits]
      exact sound.own pool none (List.forall_mem_singleton.mpr agrees) rfl rfl rfl rfl
    · obtain ⟨spawned, numbered, replaces, scanning⟩ := startClaim_cases (by cases step; assumption)
      exact sound.beginScan pool spawned numbered replaces scanning
    · obtain ⟨spawned, numbered, replaces, scanning⟩ := fail_cases (by cases step; assumption)
      have asked := sound.ask pool [] spawned numbered replaces
        fun left some_ => absurd (scanning.symm.trans some_) nofun
      rw [List.append_nil] at asked
      exact asked
    · exact absurd rfl (noBuild _)
    · exact absurd rfl (noAnswer _)
    · cases plain

/-- **Soundness is kept** by every step. -/
theorem step (sound : RoutedSound prepared r) {action : RoutedAction} {next : RoutedPool}
    (stepped : RoutedStep prepared r action next) : RoutedSound prepared next := by
  cases stepped with
  | pool step noBuild noAnswer => exact sound.follow step noBuild noAnswer
  | build step =>
    have pool := poolSound_step sound.pool step
    rcases build_cases (by cases step; assumption) with
      ⟨index, formats, checked, rfl⟩ | ⟨frame, replaces⟩
    · rw [buildCheckedDispatcher_map] at checked
      obtain ⟨dispatcher, built, agrees⟩ : ∃ dispatcher, factory r.calls = .ok dispatcher ∧
          dispatcher.formats = prepared.formats := by
        cases made : TaskDispatcher.buildChecked prepared.settings.formats index
          (factory r.calls) with
        | error error =>
          rw [made] at checked
          cases checked
        | ok dispatcher => exact ⟨dispatcher, TaskDispatcher.buildChecked_ok made⟩
      refine ⟨pool, sound.poller, sound.owners, sound.agreed, fun _ => ?_, sound.scan, nofun,
        sound.requested, sound.numbered⟩
      rw [built]
      exact ⟨dispatcher, rfl, agrees⟩
    · have kept := sound.keep pool frame
      exact { kept with held := fun waits => absurd (replaces.symm.trans waits) nofun }
  | @answer tasks t step =>
    have pool := poolSound_step sound.pool step
    obtain ⟨spawned, numbered, replaces, scanning⟩ := answer_cases (by cases step; assumption)
    refine sound.ask pool _ spawned ?_ replaces fun left some_ => ?_
    · rw [numbered, List.length_map, List.length_map]
    · obtain ⟨before, positive⟩ := scanning left some_
      rw [List.length_tail, (sound.scanning _ before).1]
      exact ⟨rfl, positive⟩

end RoutedSound

/-! ### Honest queues -/

/-- The queue answers a request with tasks of its format only. -/
def Honours (r : RoutedPool) : RoutedAction → Prop
  | .answer tasks => ∀ task ∈ tasks, r.scan.head? = some task.1
  | _ => True

instance (r : RoutedPool) (action : RoutedAction) : Decidable (Honours r action) :=
  match action with
  | .answer tasks => inferInstanceAs (Decidable (∀ task ∈ tasks, r.scan.head? = some task.1))
  | .pool _ => isTrue trivial
  | .build => isTrue trivial

section Runs

variable {prepared : PreparedPool factory} {clock : Instant} {r next : RoutedPool}
  {actions : List RoutedAction}

theorem follow_formats (t : PoolState) (action : PoolAction) :
    (r.follow prepared t action).formats = r.formats := by
  unfold RoutedPool.follow
  split
  · split <;> rfl
  · rfl
  · rfl
  · rfl
  · rfl

/-- An honest answer brings tasks of the formats of the poller. -/
theorem honoured_step {action : RoutedAction} (honours : Honours r action)
    (sound : RoutedSound prepared r) (listed : ∀ format ∈ r.formats, format ∈ prepared.formats)
    (stepped : RoutedStep prepared r action next) :
    ∀ format ∈ next.formats, format ∈ prepared.formats := by
  cases stepped with
  | pool =>
    rw [follow_formats]
    exact listed
  | build => exact listed
  | answer =>
    intro format member
    rcases List.mem_append.mp member with old | new
    · exact listed format old
    · obtain ⟨task, answered, rfl⟩ := List.mem_map.mp new
      exact sound.scan task.1 (List.mem_of_head? (honours task answered))

theorem routedSound_run (ran : (routedMachine prepared clock).run
    (routedMachine prepared clock).start actions = some r) : RoutedSound prepared r :=
  Machine.Reachable.start.run_invariant (P := RoutedSound prepared)
    (fun _ _ _ _ sound stepped => sound.step (routedMachine_step stepped))
    (RoutedSound.start prepared clock) ran

theorem honoured_run (ran : (routedMachine prepared clock).run
      (routedMachine prepared clock).start actions = some r)
    (honours : (routedMachine prepared clock).EveryStep Honours
      (routedMachine prepared clock).start actions) :
    ∀ format ∈ r.formats, format ∈ prepared.formats := by
  let P : RoutedPool → Prop := fun r =>
    RoutedSound prepared r ∧ ∀ format ∈ r.formats, format ∈ prepared.formats
  have start : P (routedMachine prepared clock).start := ⟨RoutedSound.start prepared clock, nofun⟩
  have kept : P r := honours.invariant (P := P)
    (fun _ _ _ honest before stepped => ⟨before.1.step (routedMachine_step stepped),
      honoured_step honest before.1 before.2 (routedMachine_step stepped)⟩) start ran
  exact kept.2

/-- A delivery in the hands of a worker has a number. -/
theorem hands_numbered {s : PoolState} (ledger : Ledger s) {worker : PoolWorker}
    (member : worker ∈ s.workers) {delivery : PoolDelivery}
    (holds : worker.phase.delivery = some delivery) : delivery.number < s.numbered := by
  have inHands : delivery ∈ s.hands := List.mem_filterMap.mpr ⟨worker, member, holds⟩
  have places := ledger.claimed delivery
  have counted := List.count_pos_iff.mpr inHands
  have claimed : delivery ∈ s.claimed := List.count_pos_iff.mp (by omega)
  refine List.mem_range.mp (ledger.numbers.subset (List.mem_map_of_mem ?_))
  exact List.mem_append_left _ claimed

end Runs

/-! ### Rows of other formats -/

section Rows

variable {Value : Type} [JsonValue Value]

/-- What the pool does to the outbox: it claims a format it asks for, settles or recovers. -/
inductive PoolStatement (asked : List TaskFormat) (rows : List (OutboxRow Value)) :
    List (OutboxRow Value) → Prop
  | claim {format : TaskFormat} (owner : String) (limit : Nat) (lease : Duration)
      (anchor : Instant) (now : DateTime) (locked : Uuid → Bool) (grants : Uuid → Grant) :
      format ∈ asked →
      PoolStatement asked rows (claim format owner limit lease anchor now locked grants rows).1
  | settle (task : LeasedTask Value) (request : SettlementRequest) (now reading : DateTime) :
      PoolStatement asked rows (settle task request now reading rows).1
  | recover (limit : Nat) (now : DateTime) (locked : Uuid → Bool)
      (redeliveries : Uuid → Redelivery) :
      PoolStatement asked rows (recoverExpired limit now locked redeliveries rows).1

/-- The row is of none of the formats. -/
def IsOutside (formats : List TaskFormat) (row : OutboxRow Value) : Prop :=
  ∀ format ∈ formats,
    ¬ (row.taskType = format.taskType ∧ row.taskVersion = format.taskVersion)

theorem poolStatement_spares {asked : List TaskFormat} {rows updated : List (OutboxRow Value)}
    (checks : ∀ row ∈ rows, row.Checks) (distinct : (rows.map OutboxRow.id).Nodup)
    (statement : PoolStatement asked rows updated) {row : OutboxRow Value} (member : row ∈ rows)
    (outside : IsOutside asked row) :
    ∃ next ∈ updated, next.id = row.id ∧ next.attempts = row.attempts := by
  cases statement with
  | claim owner limit lease anchor now locked grants asks =>
    exact ⟨row, claim_spares checks distinct owner limit lease anchor now locked grants member
      (outside _ asks), rfl, rfl⟩
  | settle task request now reading =>
    exact settle_attempts checks distinct task request now reading member
  | recover limit now locked redeliveries =>
    exact recoverExpired_attempts checks distinct limit now locked redeliveries member

end Rows

/-! ### Whole runs -/

/-- The formats the queue was asked for, and the one it may be asked for now. -/
def RoutedPool.asked (r : RoutedPool) : List TaskFormat := r.requested ++ r.scan.head?.toList

/-- What consistent routing promises after a run. -/
structure ConsistentRouting (prepared : PreparedPool factory) (clock : Instant)
    (actions : List RoutedAction) (r : RoutedPool) : Prop where
  accepted : ∀ id dispatcher, (id, dispatcher) ∈ r.owned →
    TaskDispatcher.tryNew dispatcher.adapters = .ok dispatcher ∧ dispatcher.formats ≠ [] ∧
      dispatcher.formats.Nodup ∧ dispatcher.formats = r.poller.formats
  owns : ∀ worker ∈ r.pool.workers, ∃ dispatcher, (worker.id, dispatcher) ∈ r.owned ∧
    ∀ other, (worker.id, other) ∈ r.owned → other = dispatcher
  asks : ∀ left, r.pool.supervisor.scanning = some left →
    ∃ format ∈ r.poller.formats, r.scan.head? = some format
  routed : (routedMachine prepared clock).EveryStep Honours
      (routedMachine prepared clock).start actions →
    ∀ worker ∈ r.pool.workers, ∀ delivery, worker.phase.delivery = some delivery →
      ∃ format dispatcher index, r.formats[delivery.number]? = some format ∧
        (worker.id, dispatcher) ∈ r.owned ∧ dispatcher.Routes format index
  asked : ∀ format ∈ r.asked, format ∈ r.poller.formats
  spared : ∀ {Value : Type} [JsonValue Value] {rows updated : List (OutboxRow Value)},
    (∀ row ∈ rows, row.Checks) → (rows.map OutboxRow.id).Nodup →
    PoolStatement r.asked rows updated → ∀ row ∈ rows, IsOutside r.poller.formats row →
      ∃ next ∈ updated, next.id = row.id ∧ next.attempts = row.attempts

/-- **Routing is consistent for the life of a pool**, whatever the factory returns at each call, and
over all exits and restarts of the workers. -/
theorem routing_consistent (prepared : PreparedPool factory) (clock : Instant)
    {actions : List RoutedAction} {r : RoutedPool}
    (ran : (routedMachine prepared clock).run (routedMachine prepared clock).start actions
      = some r) : ConsistentRouting prepared clock actions r := by
  have sound := routedSound_run ran
  have owns : ∀ worker ∈ r.pool.workers, ∃ dispatcher, (worker.id, dispatcher) ∈ r.owned := by
    intro worker member
    have spawned : worker.id ∈ r.owned.map Prod.fst := by
      rw [sound.owners]
      exact List.mem_range.mpr (sound.pool.staffed.spawned worker member)
    obtain ⟨⟨id, dispatcher⟩, owned, rfl⟩ := List.mem_map.mp spawned
    exact ⟨dispatcher, owned⟩
  have distinct : (r.owned.map Prod.fst).Nodup := sound.owners ▸ List.nodup_range
  have asked : ∀ format ∈ r.asked, format ∈ r.poller.formats := by
    intro format member
    rw [sound.poller]
    rcases List.mem_append.mp member with before | now
    · exact sound.requested format before
    · exact sound.scan format (List.mem_of_head? (Option.mem_toList.mp now))
  refine ⟨fun id dispatcher owned => ?_, fun worker member => ?_, fun left scanning => ?_,
    fun honours worker member delivery holds => ?_, asked, fun checks keys statement row member
      outside => ?_⟩
  · exact ⟨dispatcher.tryNew_self, dispatcher.formats_ne_nil, dispatcher.formats_nodup,
      (sound.agreed _ owned).trans sound.poller.symm⟩
  · obtain ⟨dispatcher, owned⟩ := owns worker member
    refine ⟨dispatcher, owned, fun other same => ?_⟩
    exact congrArg Prod.snd (List.inj_on_of_nodup_map distinct same owned rfl)
  · obtain ⟨whole, positive⟩ := sound.scanning left scanning
    cases remaining : r.scan with
    | nil =>
      rw [remaining, List.length_nil] at whole
      omega
    | cons format rest =>
      refine ⟨format, ?_, rfl⟩
      rw [sound.poller]
      exact sound.scan format (remaining ▸ List.mem_cons_self)
  · obtain ⟨dispatcher, owned⟩ := owns worker member
    have numbered := hands_numbered sound.pool.ledger member holds
    rw [← sound.numbered] at numbered
    have listed := honoured_run ran honours _ (List.getElem_mem numbered)
    rw [← sound.agreed _ owned] at listed
    obtain ⟨index, routes⟩ := TaskDispatcher.routes_of_mem listed
    exact ⟨_, dispatcher, index, List.getElem?_eq_getElem numbered, owned, routes⟩
  · exact poolStatement_spares checks keys statement member fun format asks =>
      outside format (asked format asks)

def letter : TaskFormat := ⟨"letter", 1, by decide, Int.zero_lt_one⟩

def parcel : TaskFormat := ⟨"parcel", 1, by decide, Int.zero_lt_one⟩

/-- An adapter for letters and one for parcels. -/
def postDispatcher : TaskDispatcher :=
  ⟨[[letter], [parcel]], ⟨[(letter, 0), (parcel, 1)], [letter, parcel]⟩, by decide +kernel⟩

/-- A factory that fails from its fourth call on. -/
def postFactory : TaskDispatcherFactory := fun call =>
  if call < 3 then .ok postDispatcher else .error .empty

def postPool : PreparedPool postFactory where
  config := { TaskWorkerPoolConfig.default with
    concurrency := 2
    concurrencyPositive := Nat.succ_ne_zero 1 }
  storageTimeout := .fromSecs 5
  dispatchers := [postDispatcher, postDispatcher]
  prepared := by decide +kernel
  sized := by decide +kernel

/-- A letter and a parcel are claimed and taken; the first worker panics and is replaced. -/
def postRun : List RoutedAction :=
  [.pool (.supervise .start), .pool (.supervise .evaluate), .pool (.supervise .skip),
    .pool (.supervise .tick), .pool (.supervise .evaluate),
    .pool (.supervise (.pollRecovery true)), .pool (.supervise .measure),
    .pool (.supervise .evaluate), .pool (.supervise .startClaim), .answer [(letter, 100)],
    .answer [(parcel, 200)], .pool (.supervise .check), .pool (.supervise .send),
    .pool (.supervise .send), .pool (.supervise .send), .pool (.work 0 .evaluate),
    .pool (.work 0 .receive), .pool (.work 0 .notify), .pool (.work 0 .check),
    .pool (.work 0 .execute), .pool (.work 1 .evaluate), .pool (.work 1 .receive),
    .pool (.work 0 .panic), .pool (.supervise .evaluate), .pool (.supervise (.join 0)), .build,
    .pool (.supervise .check), .pool (.supervise .spawn)]

theorem postRun_enabled : ((routedMachine postPool 0).run (routedMachine postPool 0).start
    postRun).isSome = true := by decide +kernel

def postedPool : RoutedPool := (routedMachine postPool 0).after postRun postRun_enabled

/-- After the restart the second worker holds the parcel, which its dispatcher routes. -/
theorem routing_consistent_postedPool :
    (postedPool.calls = 3 ∧ postedPool.owned.length = 3 ∧ postedPool.pool.hands.length = 1) ∧
      ∀ worker ∈ postedPool.pool.workers, ∀ delivery, worker.phase.delivery = some delivery →
        ∃ format dispatcher index, postedPool.formats[delivery.number]? = some format ∧
          (worker.id, dispatcher) ∈ postedPool.owned ∧ dispatcher.Routes format index := by
  have ran : (routedMachine postPool 0).run (routedMachine postPool 0).start postRun
      = some postedPool := Machine.run_after postRun postRun_enabled
  exact ⟨by decide +kernel, (routing_consistent postPool 0 ran).routed (by decide +kernel)⟩

end AccountManagement.Runtime
