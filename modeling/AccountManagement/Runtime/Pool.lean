/-
**The supervisor and its pool of workers.**

`run_prepared`, its poller and the loop of every worker as one machine. A step is what one party
does without another coming between: one branch of a select, one read of the cancellation token, one
send or receive on the local queue. In a biased select the branches are looked at one after another,
so a token that is cancelled after its branch was looked at is seen at the next evaluation only.

The environment decides when the token is cancelled, when timers and exits are noticed, what the
queue port answers, whether a dispatcher can be built, how long an execution takes, whether it
panics and whether it yields. An abort takes effect where its worker yields next: in the select, and
inside an execution. The port returns at most as many deliveries as were asked for. Deliveries are
numbered as they are claimed; the lists of what was claimed, started, finished, lost, dropped and
aborted record the history and are not read by any step.

`poolMachine_step` is the inversion of a step.
-/

import AccountManagement.Library.Keyed
import AccountManagement.Library.Machine
import AccountManagement.Runtime.Config

namespace AccountManagement.Runtime

open AccountManagement.Library AccountManagement.Task

/-! ### Dispatchers -/

inductive TaskDispatcherError where
  | empty
  | duplicateFormat (format : TaskFormat)
  | invalidFormat (reason : TaskFormatError)
deriving DecidableEq

inductive WorkerSetupError where
  | build (workerIndex : Nat) (source : TaskDispatcherError)
  | formatsMismatch (workerIndex : Nat)
deriving DecidableEq

inductive TaskRuntimeError where
  | configuration (error : TaskWorkerPoolConfigError)
  | workerSetup (error : WorkerSetupError)
deriving DecidableEq

/-- A dispatcher is known by its formats; a rebuilt one must have those of the first. -/
def buildCheckedDispatcher (formats : List TaskFormat) (workerIndex : Nat)
    (built : Except TaskDispatcherError (List TaskFormat)) :
    Except WorkerSetupError (List TaskFormat) :=
  match built with
  | .error source => .error (.build workerIndex source)
  | .ok own => if own = formats then .ok own else .error (.formatsMismatch workerIndex)

/-! ### States -/

/-- The limits of a pool and its first dispatchers. -/
structure PoolSettings where
  concurrency : Nat
  queueCapacity : Nat
  handlerTimeout : Duration
  storageTimeout : Duration
  leaseDuration : Duration
  dispatchers : List (List TaskFormat)
  concurrencyPositive : concurrency ≠ 0
  capacityPositive : queueCapacity ≠ 0
  prepared : dispatchers.length = concurrency

/-- The formats of the first dispatcher, which the poller asks for. -/
def PoolSettings.formats (settings : PoolSettings) : List TaskFormat :=
  settings.dispatchers.headD []

/-- How long an execution may take. -/
def PoolSettings.budget (settings : PoolSettings) : Int :=
  settings.handlerTimeout.asNanos + settings.storageTimeout.asNanos

theorem PoolSettings.budget_nonneg (settings : PoolSettings) : 0 ≤ settings.budget :=
  Int.add_nonneg (Int.natCast_nonneg _) (Int.natCast_nonneg _)

/-- A claimed delivery: its number among all of them, and the local deadline of its lease. -/
structure PoolDelivery where
  number : Nat
  deadline : Instant
deriving DecidableEq

/-- A call of `execute_and_settle`. -/
structure PoolExecution where
  delivery : PoolDelivery
  started : Instant
deriving DecidableEq

/-- Where a worker is in its loop; one that has ended waits to be joined. -/
inductive PoolWorkerPhase where
  | idle
  | receiving
  | dequeued (delivery : PoolDelivery)
  | announced (delivery : PoolDelivery)
  | cleared (delivery : PoolDelivery)
  | executing (execution : PoolExecution)
  | ended (panicked : Bool)
deriving DecidableEq

namespace PoolWorkerPhase

/-- The delivery in the hands of a worker. -/
def delivery : PoolWorkerPhase → Option PoolDelivery
  | .dequeued delivery => some delivery
  | .announced delivery => some delivery
  | .cleared delivery => some delivery
  | .executing execution => some execution.delivery
  | _ => none

def execution : PoolWorkerPhase → Option PoolExecution
  | .executing execution => some execution
  | _ => none

def isEnded : PoolWorkerPhase → Bool
  | .ended _ => true
  | _ => false

end PoolWorkerPhase

/-- A worker in the join set: its Tokio id, its index and the formats of its dispatcher. -/
structure PoolWorker where
  id : Nat
  index : Nat
  formats : List TaskFormat
  phase : PoolWorkerPhase
deriving DecidableEq

/-- The branches of the outer select, in their order. -/
inductive SelectBranch where
  | cancelled
  | exit
  | tick
  | notified
deriving DecidableEq

/-- A claim of the poller: when it began, the formats it has not asked for, and what it has. -/
structure ClaimProgress where
  since : Instant
  left : Nat
  batch : List PoolDelivery
deriving DecidableEq

/-- Where the supervisor is. An inner select is evaluated once its token branch was looked at. -/
inductive SupervisorPhase where
  | starting
  | selecting (branch : SelectBranch)
  | restarting (index : Nat)
  | replacing (index : Nat) (formats : List TaskFormat)
  | spawning (index : Nat) (formats : List TaskFormat)
  | recovering (begun evaluated : Bool)
  | measuring
  | claiming (limit : Nat) (progress : Option ClaimProgress) (evaluated : Bool)
  | checking (limit : Nat) (batch : List PoolDelivery)
  | sending (batch : List PoolDelivery)
  | stopping (result : Except TaskRuntimeError Unit)
  | closing (result : Except TaskRuntimeError Unit)
  | draining (result : Except TaskRuntimeError Unit) (deadline : Instant)
  | aborting (result : Except TaskRuntimeError Unit)
  | returned (result : Except TaskRuntimeError Unit)
  | panicked
deriving DecidableEq

/-- The supervisor has aborted all the workers and joins them. -/
def SupervisorPhase.isAborting : SupervisorPhase → Bool
  | .aborting _ => true
  | _ => false

theorem SupervisorPhase.aborting_of_isAborting {phase : SupervisorPhase}
    (aborting : phase.isAborting = true) : ∃ result, phase = .aborting result := by
  cases phase with
  | aborting result => exact ⟨result, rfl⟩
  | starting | selecting | restarting | replacing | spawning | recovering | measuring | claiming
  | checking | sending | stopping | closing | draining | returned | panicked => cases aborting

structure PoolState where
  clock : Instant
  cancelledAt : Option Instant
  supervisor : SupervisorPhase
  workers : List PoolWorker
  indices : List (Nat × Nat)
  queue : List PoolDelivery
  closed : Bool
  permit : Bool
  spawned : Nat
  numbered : Nat
  claimed : List PoolDelivery
  started : List PoolExecution
  finished : List PoolExecution
  lost : List PoolExecution
  aborted : List PoolExecution
  dropped : List PoolDelivery
  failures : List WorkerSetupError
deriving DecidableEq

/-! ### Actions -/

inductive SupervisorAction where
  | start
  | evaluate
  | join (id : Nat)
  | skip
  | tick
  | takePermit
  | build (built : Except TaskDispatcherError (List TaskFormat))
  | check
  | spawn
  | pollRecovery (ready : Bool)
  | measure
  | startClaim
  | answer (deadlines : List Instant)
  | fail
  | pend
  | send
  | stop
  | close
  | expire
  | finish

/-- A worker that is aborted ends where it yields. -/
inductive WorkerAction where
  | evaluate
  | receive
  | notify
  | check
  | execute
  | finish
  | panic
  | yield

inductive PoolAction where
  | cancel
  | wait (nanos : Nat)
  | supervise (action : SupervisorAction)
  | work (id : Nat) (action : WorkerAction)

/-- What the pool does itself, as against the cancel of the token it was given. -/
def PoolAction.isOwn : PoolAction → Bool
  | .cancel => false
  | _ => true

/-! ### Steps -/

namespace PoolState

variable (settings : PoolSettings) (s : PoolState)

def isCancelled : Bool := s.cancelledAt.isSome

/-- The token remembers the first cancellation. -/
def cancel : PoolState := { s with cancelledAt := some (s.cancelledAt.getD s.clock) }

def goTo (supervisor : SupervisorPhase) : PoolState := { s with supervisor }

/-- Leave the loop if the token is cancelled. -/
def unlessCancelled (next : SupervisorPhase) : PoolState :=
  s.goTo (if s.isCancelled then .stopping (.ok ()) else next)

def worker (id : Nat) : Option PoolWorker := s.workers.find? fun worker => worker.id = id

def setWorker (id : Nat) (phase : PoolWorkerPhase) : PoolState :=
  { s with workers := s.workers.map fun worker =>
      if worker.id = id then { worker with phase } else worker }

/-- An ended worker leaves the join set. -/
def joinWorker (id : Nat) : Option PoolState := do
  let worker ← s.worker id
  if worker.phase.isEnded then
    return { s with workers := s.workers.filter fun other => other.id ≠ id }
  else none

/-- The next worker of the join set. -/
def addWorker (index : Nat) (formats : List TaskFormat) : PoolState :=
  { s with
    workers := s.workers ++ [⟨s.spawned, index, formats, .idle⟩]
    indices := s.indices ++ [(s.spawned, index)]
    spawned := s.spawned + 1 }

/-- The first workers, one for each dispatcher. -/
def addWorkers (dispatchers : List (List TaskFormat)) : PoolState :=
  dispatchers.zipIdx.foldl (fun s dispatcher => s.addWorker dispatcher.2 dispatcher.1) s

/-- The exit of a worker, under the index that is registered for its id. -/
def observeExit (id : Nat) : Option PoolState := do
  let joined ← s.joinWorker id
  match s.indices.find? fun entry => entry.1 = id with
  | none => return joined.goTo .panicked
  | some (_, index) =>
    return { joined with
      supervisor := .restarting index
      indices := s.indices.filter fun entry => entry.1 ≠ id }

/-- Deliveries with the next numbers. -/
def number (first : Nat) (deadlines : List Instant) : List PoolDelivery :=
  deadlines.zipIdx.map fun (deadline, offset) => ⟨first + offset, deadline⟩

/-- The poller asks for the next format, unless it has enough or has asked for all. -/
def claimOn (limit : Nat) (progress : ClaimProgress) : PoolState :=
  if progress.left = 0 ∨ progress.batch.length = limit then
    { s with supervisor := .checking limit progress.batch, claimed := s.claimed ++ progress.batch }
  else s.goTo (.claiming limit (some progress) true)

/-- The queue length is subtracted from the capacity as machine integers are. -/
def measure : PoolState :=
  if settings.queueCapacity < s.queue.length then s.goTo .panicked
  else if settings.queueCapacity - s.queue.length = 0 then s.goTo (.selecting .cancelled)
  else s.goTo (.claiming (settings.queueCapacity - s.queue.length) none false)

def checkBatch (limit : Nat) (batch : List PoolDelivery) : PoolState :=
  if s.isCancelled then { s with supervisor := .stopping (.ok ()), dropped := s.dropped ++ batch }
  else if batch.length ≤ limit then s.goTo (.sending batch)
  else s.goTo .panicked

def trySend (delivery : PoolDelivery) (rest : List PoolDelivery) : PoolState :=
  if s.closed ∨ settings.queueCapacity ≤ s.queue.length then s.goTo .panicked
  else { s with supervisor := .sending rest, queue := s.queue ++ [delivery] }

/-- One step of the supervisor. -/
def supervise (action : SupervisorAction) : Option PoolState :=
  match s.supervisor, action with
  | .starting, .start =>
    if s.isCancelled then some (s.goTo (.returned (.ok ())))
    else some ((s.addWorkers settings.dispatchers).goTo (.selecting .cancelled))
  | .selecting .cancelled, .evaluate => some (s.unlessCancelled (.selecting .exit))
  | .selecting .exit, .join id => s.observeExit id
  | .selecting .exit, .skip => some (s.goTo (.selecting .tick))
  | .selecting .tick, .tick => some (s.goTo (.recovering false false))
  | .selecting .tick, .skip => some (s.goTo (.selecting .notified))
  | .selecting .notified, .takePermit =>
    if s.permit then some { s with supervisor := .measuring, permit := false } else none
  | .selecting .notified, .skip => some (s.goTo (.selecting .cancelled))
  | .restarting index, .build built =>
    match buildCheckedDispatcher settings.formats index built with
    | .error error => some { s with
        supervisor := .stopping (.error (.workerSetup error))
        failures := s.failures ++ [error] }
    | .ok formats => some (s.goTo (.replacing index formats))
  | .replacing index formats, .check => some (s.unlessCancelled (.spawning index formats))
  | .spawning index formats, .spawn => some ((s.addWorker index formats).goTo .measuring)
  | .recovering begun false, .evaluate => some (s.unlessCancelled (.recovering begun true))
  | .recovering _ true, .pollRecovery ready =>
    some (s.goTo (if ready then .measuring else .recovering true false))
  | .measuring, .measure => some (s.measure settings)
  | .claiming limit progress false, .evaluate =>
    some (s.unlessCancelled (.claiming limit progress true))
  | .claiming limit none true, .startClaim =>
    some (s.claimOn limit ⟨s.clock, settings.formats.length, []⟩)
  | .claiming limit (some progress) true, .answer deadlines =>
    if deadlines.length ≤ limit - progress.batch.length then
      some ({ s with numbered := s.numbered + deadlines.length }.claimOn limit
        ⟨progress.since, progress.left - 1, progress.batch ++ number s.numbered deadlines⟩)
    else none
  | .claiming limit (some progress) true, .fail =>
    if progress.batch = [] then some (s.goTo (.selecting .cancelled))
    else some (s.claimOn limit { progress with left := 0 })
  | .claiming limit (some progress) true, .pend =>
    some (s.goTo (.claiming limit (some progress) false))
  | .checking limit batch, .check => some (s.checkBatch limit batch)
  | .sending [], .send => some (s.goTo (.selecting .cancelled))
  | .sending (delivery :: rest), .send => some (s.trySend settings delivery rest)
  | .stopping result, .stop => some (s.cancel.goTo (.closing result))
  | .closing result, .close => some { s with
      supervisor := .draining result
        (s.clock + settings.handlerTimeout.asNanos + settings.storageTimeout.asNanos)
      closed := true }
  | .draining _ _, .join id => s.joinWorker id
  | .draining result deadline, .expire =>
    if deadline ≤ s.clock then some (s.goTo (.aborting result)) else none
  | .draining result _, .finish =>
    if s.workers = [] then some (s.goTo (.returned result)) else none
  | .aborting _, .join id => s.joinWorker id
  | .aborting result, .finish =>
    if s.workers = [] then some (s.goTo (.returned result)) else none
  | _, _ => none

/-- A worker takes the head of the queue; it ends when the queue is empty and closed. -/
def receive (id : Nat) : PoolState :=
  match s.queue with
  | delivery :: rest => { s.setWorker id (.dequeued delivery) with queue := rest }
  | [] => s.setWorker id (if s.closed then .ended false else .idle)

/-- One step of a worker. -/
def work (id : Nat) (action : WorkerAction) : Option PoolState := do
  let worker ← s.worker id
  match worker.phase, action with
  | .idle, .evaluate => some (s.setWorker id (if s.isCancelled then .ended false else .receiving))
  | .receiving, .receive => some (s.receive id)
  | .dequeued delivery, .notify => some { s.setWorker id (.announced delivery) with permit := true }
  | .announced delivery, .check =>
    if s.isCancelled then
      some { s.setWorker id (.ended false) with dropped := s.dropped ++ [delivery] }
    else some (s.setWorker id (.cleared delivery))
  | .cleared delivery, .execute => some { s.setWorker id (.executing ⟨delivery, s.clock⟩) with
      started := s.started ++ [⟨delivery, s.clock⟩] }
  | .executing execution, .finish => some { s.setWorker id .idle with
      finished := s.finished ++ [execution] }
  | .executing execution, .panic => some { s.setWorker id (.ended true) with
      lost := s.lost ++ [execution] }
  | .idle, .yield => if s.supervisor.isAborting then some (s.setWorker id (.ended false)) else none
  | .executing execution, .yield =>
    if s.supervisor.isAborting then
      some { s.setWorker id (.ended false) with aborted := s.aborted ++ [execution] }
    else none
  | _, _ => none

end PoolState

/-- The machine of a supervisor and its workers, from the call of `run_prepared`. -/
def poolMachine (settings : PoolSettings) (clock : Instant) : Machine PoolState PoolAction where
  start := ⟨clock, none, .starting, [], [], [], false, false, 0, 0, [], [], [], [], [], [], []⟩
  step s
    | .cancel => some s.cancel
    | .wait nanos => some { s with clock := s.clock + nanos }
    | .supervise action => s.supervise settings action
    | .work id action => s.work id action

/-! ### What a step can do -/

/-- The reads of the token that decide whether the loop goes on, and where it goes on. -/
def SupervisorPhase.checkpoint : SupervisorPhase → Option (SupervisorAction × SupervisorPhase)
  | .selecting .cancelled => some (.evaluate, .selecting .exit)
  | .replacing index formats => some (.check, .spawning index formats)
  | .recovering begun false => some (.evaluate, .recovering begun true)
  | .claiming limit progress false => some (.evaluate, .claiming limit progress true)
  | _ => none

/-- The steps of the supervisor that only change where it is. -/
inductive SupervisorMove (settings : PoolSettings) (s : PoolState) :
    SupervisorPhase → SupervisorAction → SupervisorPhase → Prop
  | refuse : s.isCancelled = true → SupervisorMove settings s .starting .start (.returned (.ok ()))
  | leave {phase next : SupervisorPhase} {action : SupervisorAction} :
      phase.checkpoint = some (action, next) → s.isCancelled = true →
      SupervisorMove settings s phase action (.stopping (.ok ()))
  | goOn {phase next : SupervisorPhase} {action : SupervisorAction} :
      phase.checkpoint = some (action, next) → s.isCancelled = false →
      SupervisorMove settings s phase action next
  | skipExit : SupervisorMove settings s (.selecting .exit) .skip (.selecting .tick)
  | tick : SupervisorMove settings s (.selecting .tick) .tick (.recovering false false)
  | skipTick : SupervisorMove settings s (.selecting .tick) .skip (.selecting .notified)
  | skipNotified : SupervisorMove settings s (.selecting .notified) .skip (.selecting .cancelled)
  | rebuilt {index : Nat} {built : Except TaskDispatcherError (List TaskFormat)}
      {formats : List TaskFormat} :
      buildCheckedDispatcher settings.formats index built = .ok formats →
      SupervisorMove settings s (.restarting index) (.build built) (.replacing index formats)
  | recovered (begun : Bool) :
      SupervisorMove settings s (.recovering begun true) (.pollRecovery true) .measuring
  | recovering (begun : Bool) :
      SupervisorMove settings s (.recovering begun true) (.pollRecovery false)
        (.recovering true false)
  | full : settings.queueCapacity - s.queue.length = 0 →
      SupervisorMove settings s .measuring .measure (.selecting .cancelled)
  | failed {limit : Nat} {progress : ClaimProgress} : progress.batch = [] →
      SupervisorMove settings s (.claiming limit (some progress) true) .fail (.selecting .cancelled)
  | pend {limit : Nat} {progress : ClaimProgress} :
      SupervisorMove settings s (.claiming limit (some progress) true) .pend
        (.claiming limit (some progress) false)
  | accept {limit : Nat} {batch : List PoolDelivery} : s.isCancelled = false →
      batch.length ≤ limit → SupervisorMove settings s (.checking limit batch) .check (.sending batch)
  | sent : SupervisorMove settings s (.sending []) .send (.selecting .cancelled)
  | expire {result : Except TaskRuntimeError Unit} {deadline : Instant} : deadline ≤ s.clock →
      SupervisorMove settings s (.draining result deadline) .expire (.aborting result)
  | drained {result : Except TaskRuntimeError Unit} {deadline : Instant} : s.workers = [] →
      SupervisorMove settings s (.draining result deadline) .finish (.returned result)
  | aborted {result : Except TaskRuntimeError Unit} : s.workers = [] →
      SupervisorMove settings s (.aborting result) .finish (.returned result)

/-- The subtraction and the assertions of the loop, and when they fail. -/
inductive SupervisorPanic (settings : PoolSettings) (s : PoolState) :
    SupervisorPhase → SupervisorAction → Prop
  | underflow : settings.queueCapacity < s.queue.length →
      SupervisorPanic settings s .measuring .measure
  | overLimit {limit : Nat} {batch : List PoolDelivery} : s.isCancelled = false →
      ¬ batch.length ≤ limit → SupervisorPanic settings s (.checking limit batch) .check
  | unsent {delivery : PoolDelivery} {rest : List PoolDelivery} :
      s.closed = true ∨ settings.queueCapacity ≤ s.queue.length →
      SupervisorPanic settings s (.sending (delivery :: rest)) .send

/-- What the poller does when it is polled: its progress after it, and the deliveries numbered. -/
inductive Claims (settings : PoolSettings) (s : PoolState) (limit : Nat) :
    Option ClaimProgress → SupervisorAction → ClaimProgress → Nat → Prop
  | start : Claims settings s limit none .startClaim ⟨s.clock, settings.formats.length, []⟩
      s.numbered
  | answer {progress : ClaimProgress} {deadlines : List Instant} :
      deadlines.length ≤ limit - progress.batch.length →
      Claims settings s limit (some progress) (.answer deadlines)
        ⟨progress.since, progress.left - 1,
          progress.batch ++ PoolState.number s.numbered deadlines⟩
        (s.numbered + deadlines.length)
  | giveUp {progress : ClaimProgress} : progress.batch ≠ [] →
      Claims settings s limit (some progress) .fail { progress with left := 0 } s.numbered

/-- One step of the supervisor, by the phase it is taken in. -/
inductive Supervised (settings : PoolSettings) (s : PoolState) :
    SupervisorPhase → SupervisorAction → PoolState → Prop
  | move {phase next : SupervisorPhase} {action : SupervisorAction} :
      SupervisorMove settings s phase action next →
      Supervised settings s phase action (s.goTo next)
  | start : s.isCancelled = false → Supervised settings s .starting .start
      ((s.addWorkers settings.dispatchers).goTo (.selecting .cancelled))
  | observeExit {id : Nat} {worker : PoolWorker} {index : Nat} : s.worker id = some worker →
      worker.phase.isEnded = true →
      (s.indices.find? fun entry => entry.1 = id) = some (id, index) →
      Supervised settings s (.selecting .exit) (.join id) { s with
        supervisor := .restarting index
        workers := s.workers.filter fun other => other.id ≠ id
        indices := s.indices.filter fun entry => entry.1 ≠ id }
  | unregistered {id : Nat} {worker : PoolWorker} : s.worker id = some worker →
      (s.indices.find? fun entry => entry.1 = id) = none →
      Supervised settings s (.selecting .exit) (.join id)
        { s with supervisor := .panicked, workers := s.workers.filter fun other => other.id ≠ id }
  | takePermit : s.permit = true → Supervised settings s (.selecting .notified) .takePermit
      { s with supervisor := .measuring, permit := false }
  | buildFailed {index : Nat} {built : Except TaskDispatcherError (List TaskFormat)}
      {error : WorkerSetupError} :
      buildCheckedDispatcher settings.formats index built = .error error →
      Supervised settings s (.restarting index) (.build built) { s with
        supervisor := .stopping (.error (.workerSetup error))
        failures := s.failures ++ [error] }
  | spawn {index : Nat} {formats : List TaskFormat} :
      Supervised settings s (.spawning index formats) .spawn
        ((s.addWorker index formats).goTo .measuring)
  | measured : ¬ settings.queueCapacity < s.queue.length →
      settings.queueCapacity - s.queue.length ≠ 0 → Supervised settings s .measuring .measure
        (s.goTo (.claiming (settings.queueCapacity - s.queue.length) none false))
  | claim {limit numbered : Nat} {before : Option ClaimProgress} {progress : ClaimProgress}
      {action : SupervisorAction} : Claims settings s limit before action progress numbered →
      ¬ (progress.left = 0 ∨ progress.batch.length = limit) →
      Supervised settings s (.claiming limit before true) action
        { s with supervisor := .claiming limit (some progress) true, numbered }
  | complete {limit numbered : Nat} {before : Option ClaimProgress} {progress : ClaimProgress}
      {action : SupervisorAction} : Claims settings s limit before action progress numbered →
      Supervised settings s (.claiming limit before true) action { s with
        supervisor := .checking limit progress.batch
        numbered
        claimed := s.claimed ++ progress.batch }
  | discard {limit : Nat} {batch : List PoolDelivery} : s.isCancelled = true →
      Supervised settings s (.checking limit batch) .check
        { s with supervisor := .stopping (.ok ()), dropped := s.dropped ++ batch }
  | send {delivery : PoolDelivery} {rest : List PoolDelivery} : s.closed = false →
      s.queue.length < settings.queueCapacity →
      Supervised settings s (.sending (delivery :: rest)) .send
        { s with supervisor := .sending rest, queue := s.queue ++ [delivery] }
  | panic {phase : SupervisorPhase} {action : SupervisorAction} :
      SupervisorPanic settings s phase action →
      Supervised settings s phase action (s.goTo .panicked)
  | stop {result : Except TaskRuntimeError Unit} :
      Supervised settings s (.stopping result) .stop (s.cancel.goTo (.closing result))
  | close {result : Except TaskRuntimeError Unit} :
      Supervised settings s (.closing result) .close { s with
        supervisor := .draining result
          (s.clock + settings.handlerTimeout.asNanos + settings.storageTimeout.asNanos)
        closed := true }
  | join {phase : SupervisorPhase} {id : Nat} {worker : PoolWorker} :
      (∃ result deadline, phase = .draining result deadline) ∨ (∃ result, phase = .aborting result) →
      s.worker id = some worker → worker.phase.isEnded = true →
      Supervised settings s phase (.join id)
        { s with workers := s.workers.filter fun other => other.id ≠ id }

/-- One step of a worker, by the phase it is taken in. -/
inductive Worked (s : PoolState) (id : Nat) : PoolWorkerPhase → WorkerAction → PoolState → Prop
  | leave : s.isCancelled = true → Worked s id .idle .evaluate (s.setWorker id (.ended false))
  | poll : s.isCancelled = false → Worked s id .idle .evaluate (s.setWorker id .receiving)
  | take {delivery : PoolDelivery} {rest : List PoolDelivery} : s.queue = delivery :: rest →
      Worked s id .receiving .receive { s.setWorker id (.dequeued delivery) with queue := rest }
  | disconnect : s.queue = [] → s.closed = true →
      Worked s id .receiving .receive (s.setWorker id (.ended false))
  | park : s.queue = [] → s.closed = false →
      Worked s id .receiving .receive (s.setWorker id .idle)
  | notify {delivery : PoolDelivery} : Worked s id (.dequeued delivery) .notify
      { s.setWorker id (.announced delivery) with permit := true }
  | discard {delivery : PoolDelivery} : s.isCancelled = true →
      Worked s id (.announced delivery) .check
        { s.setWorker id (.ended false) with dropped := s.dropped ++ [delivery] }
  | clear {delivery : PoolDelivery} : s.isCancelled = false →
      Worked s id (.announced delivery) .check (s.setWorker id (.cleared delivery))
  | execute {delivery : PoolDelivery} : Worked s id (.cleared delivery) .execute
      { s.setWorker id (.executing ⟨delivery, s.clock⟩) with
        started := s.started ++ [⟨delivery, s.clock⟩] }
  | finish {execution : PoolExecution} : Worked s id (.executing execution) .finish
      { s.setWorker id .idle with finished := s.finished ++ [execution] }
  | panic {execution : PoolExecution} : Worked s id (.executing execution) .panic
      { s.setWorker id (.ended true) with lost := s.lost ++ [execution] }
  | retire : s.supervisor.isAborting = true →
      Worked s id .idle .yield (s.setWorker id (.ended false))
  | abort {execution : PoolExecution} : s.supervisor.isAborting = true →
      Worked s id (.executing execution) .yield
        { s.setWorker id (.ended false) with aborted := s.aborted ++ [execution] }

namespace PoolState

variable {settings : PoolSettings} {s t : PoolState} {id : Nat}

theorem joinWorker_some (joined : s.joinWorker id = some t) :
    ∃ worker, s.worker id = some worker ∧ worker.phase.isEnded = true ∧
      t = { s with workers := s.workers.filter fun other => other.id ≠ id } := by
  obtain ⟨worker, found, joined⟩ := Option.bind_eq_some_iff.mp joined
  by_cases ended : worker.phase.isEnded = true
  · rw [if_pos ended] at joined
    exact ⟨worker, found, ended, (Option.some.inj joined).symm⟩
  · rw [if_neg ended] at joined
    cases joined

theorem supervised_of_observeExit (observed : s.observeExit id = some t) :
    Supervised settings s (.selecting .exit) (.join id) t := by
  obtain ⟨joined, left, observed⟩ := Option.bind_eq_some_iff.mp observed
  obtain ⟨worker, found, ended, rfl⟩ := joinWorker_some left
  cases registered : s.indices.find? fun entry => entry.1 = id with
  | none =>
    rw [registered] at observed
    obtain rfl := Option.some.inj observed
    exact .unregistered found registered
  | some entry =>
    obtain ⟨key, index⟩ := entry
    rw [registered] at observed
    obtain rfl := Option.some.inj observed
    obtain rfl : key = id := by simpa using List.find?_some registered
    exact .observeExit found ended registered

/-- A read of the token at a checkpoint. -/
theorem supervised_of_unlessCancelled {phase next : SupervisorPhase} {action : SupervisorAction}
    (point : phase.checkpoint = some (action, next)) (left : some (s.unlessCancelled next) = some t) :
    Supervised settings s phase action t := by
  obtain rfl := Option.some.inj left
  rw [unlessCancelled]
  cases cancelled : s.isCancelled with
  | true => exact .move (.leave point cancelled)
  | false => exact .move (.goOn point cancelled)

/-- The outcome of a rebuilt dispatcher. -/
theorem supervised_of_build {index : Nat} {built : Except TaskDispatcherError (List TaskFormat)}
    (stepped : (match buildCheckedDispatcher settings.formats index built with
      | .error error => some { s with
          supervisor := .stopping (.error (.workerSetup error))
          failures := s.failures ++ [error] }
      | .ok formats => some (s.goTo (.replacing index formats))) = some t) :
    Supervised settings s (.restarting index) (.build built) t := by
  cases checked : buildCheckedDispatcher settings.formats index built with
  | error error =>
    rw [checked] at stepped
    obtain rfl := Option.some.inj stepped
    exact .buildFailed checked
  | ok formats =>
    rw [checked] at stepped
    obtain rfl := Option.some.inj stepped
    exact .move (.rebuilt checked)

theorem supervised_of_measure : Supervised settings s .measuring .measure (s.measure settings) := by
  unfold measure
  split
  · exact .panic (.underflow ‹_›)
  · split
    · exact .move (.full ‹_›)
    · exact .measured ‹_› ‹_›

theorem supervised_of_claimOn {limit numbered : Nat} {before : Option ClaimProgress}
    {progress : ClaimProgress} {action : SupervisorAction}
    (claims : Claims settings s limit before action progress numbered) :
    Supervised settings s (.claiming limit before true) action
      ({ s with numbered }.claimOn limit progress) := by
  unfold claimOn
  split
  · exact .complete claims
  · exact .claim claims ‹_›

theorem supervised_of_checkBatch {limit : Nat} {batch : List PoolDelivery} :
    Supervised settings s (.checking limit batch) .check (s.checkBatch limit batch) := by
  unfold checkBatch
  split
  · exact .discard ‹_›
  · split
    · exact .move (.accept (Bool.eq_false_iff.mpr ‹_›) ‹_›)
    · exact .panic (.overLimit (Bool.eq_false_iff.mpr ‹_›) ‹_›)

theorem supervised_of_trySend {delivery : PoolDelivery} {rest : List PoolDelivery} :
    Supervised settings s (.sending (delivery :: rest)) .send
      (s.trySend settings delivery rest) := by
  unfold trySend
  split
  · exact .panic (.unsent ‹_›)
  · rename_i free
    rw [not_or, Bool.not_eq_true, Nat.not_le] at free
    exact .send free.1 free.2

/-- A step that is guarded by a condition. -/
theorem of_guard {condition : Prop} [Decidable condition] {next : PoolState}
    (stepped : (if condition then some next else none) = some t) : condition ∧ t = next := by
  split at stepped
  · exact ⟨‹_›, (Option.some.inj stepped).symm⟩
  · cases stepped

/-- **Inversion** of a step of the supervisor. -/
theorem supervised_of_supervise {action : SupervisorAction}
    (stepped : s.supervise settings action = some t) :
    Supervised settings s s.supervisor action t := by
  unfold supervise at stepped
  generalize s.supervisor = phase at stepped ⊢
  split at stepped
  · split at stepped
    · obtain rfl := Option.some.inj stepped
      exact .move (.refuse ‹_›)
    · obtain rfl := Option.some.inj stepped
      exact .start (Bool.eq_false_iff.mpr ‹_›)
  · exact supervised_of_unlessCancelled rfl stepped
  · exact supervised_of_observeExit stepped
  · obtain rfl := Option.some.inj stepped
    exact .move .skipExit
  · obtain rfl := Option.some.inj stepped
    exact .move .tick
  · obtain rfl := Option.some.inj stepped
    exact .move .skipTick
  · obtain ⟨permit, rfl⟩ := of_guard stepped
    exact .takePermit permit
  · obtain rfl := Option.some.inj stepped
    exact .move .skipNotified
  · exact supervised_of_build stepped
  · exact supervised_of_unlessCancelled rfl stepped
  · obtain rfl := Option.some.inj stepped
    exact .spawn
  · exact supervised_of_unlessCancelled rfl stepped
  · rename_i ready
    obtain rfl := Option.some.inj stepped
    cases ready with
    | true => exact .move (.recovered _)
    | false => exact .move (.recovering _)
  · obtain rfl := Option.some.inj stepped
    exact supervised_of_measure
  · exact supervised_of_unlessCancelled rfl stepped
  · obtain rfl := Option.some.inj stepped
    exact supervised_of_claimOn .start
  · obtain ⟨within, rfl⟩ := of_guard stepped
    exact supervised_of_claimOn (.answer within)
  · split at stepped
    · obtain rfl := Option.some.inj stepped
      exact .move (.failed ‹_›)
    · obtain rfl := Option.some.inj stepped
      exact supervised_of_claimOn (.giveUp ‹_›)
  · obtain rfl := Option.some.inj stepped
    exact .move .pend
  · obtain rfl := Option.some.inj stepped
    exact supervised_of_checkBatch
  · obtain rfl := Option.some.inj stepped
    exact .move .sent
  · obtain rfl := Option.some.inj stepped
    exact supervised_of_trySend
  · obtain rfl := Option.some.inj stepped
    exact .stop
  · obtain rfl := Option.some.inj stepped
    exact .close
  · obtain ⟨worker, found, ended, rfl⟩ := joinWorker_some stepped
    exact .join (Or.inl ⟨_, _, rfl⟩) found ended
  · obtain ⟨due, rfl⟩ := of_guard stepped
    exact .move (.expire due)
  · obtain ⟨none, rfl⟩ := of_guard stepped
    exact .move (.drained none)
  · obtain ⟨worker, found, ended, rfl⟩ := joinWorker_some stepped
    exact .join (Or.inr ⟨_, rfl⟩) found ended
  · obtain ⟨none, rfl⟩ := of_guard stepped
    exact .move (.aborted none)
  · cases stepped

/-- **Inversion** of a step of a worker. -/
theorem worked_of_work {action : WorkerAction} (stepped : s.work id action = some t) :
    ∃ worker phase, s.worker id = some worker ∧ worker.phase = phase ∧
      Worked s id phase action t := by
  obtain ⟨worker, found, stepped⟩ := Option.bind_eq_some_iff.mp stepped
  refine ⟨worker, worker.phase, found, rfl, ?_⟩
  generalize worker.phase = phase at stepped ⊢
  split at stepped
  · obtain rfl := Option.some.inj stepped
    cases cancelled : s.isCancelled with
    | true => exact .leave cancelled
    | false => exact .poll cancelled
  · obtain rfl := Option.some.inj stepped
    unfold receive
    split
    · exact .take ‹_›
    · cases closed : s.closed with
      | true => exact .disconnect ‹_› closed
      | false => exact .park ‹_› closed
  · obtain rfl := Option.some.inj stepped
    exact .notify
  · split at stepped
    · obtain rfl := Option.some.inj stepped
      exact .discard ‹_›
    · obtain rfl := Option.some.inj stepped
      exact .clear (Bool.eq_false_iff.mpr ‹_›)
  · obtain rfl := Option.some.inj stepped
    exact .execute
  · obtain rfl := Option.some.inj stepped
    exact .finish
  · obtain rfl := Option.some.inj stepped
    exact .panic
  · obtain ⟨aborting, rfl⟩ := of_guard stepped
    exact .retire aborting
  · obtain ⟨aborting, rfl⟩ := of_guard stepped
    exact .abort aborting
  · cases stepped

end PoolState

/-- One step of the pool. -/
inductive PoolStep (settings : PoolSettings) (s : PoolState) : PoolAction → PoolState → Prop
  | cancel : PoolStep settings s .cancel s.cancel
  | wait (nanos : Nat) : PoolStep settings s (.wait nanos) { s with clock := s.clock + nanos }
  | supervise {action : SupervisorAction} {t : PoolState} :
      Supervised settings s s.supervisor action t → PoolStep settings s (.supervise action) t
  | work {id : Nat} {action : WorkerAction} {t : PoolState} {worker : PoolWorker}
      {phase : PoolWorkerPhase} : s.worker id = some worker → worker.phase = phase →
      Worked s id phase action t → PoolStep settings s (.work id action) t

/-- **Inversion** of a step of the pool. -/
theorem poolMachine_step {settings : PoolSettings} {clock : Instant} {s t : PoolState}
    {action : PoolAction} (stepped : (poolMachine settings clock).step s action = some t) :
    PoolStep settings s action t := by
  cases action with
  | cancel =>
    obtain rfl := Option.some.inj stepped
    exact .cancel
  | wait nanos =>
    obtain rfl := Option.some.inj stepped
    exact .wait nanos
  | supervise action => exact .supervise (PoolState.supervised_of_supervise stepped)
  | work id action =>
    obtain ⟨worker, phase, found, at_, worked⟩ := PoolState.worked_of_work stepped
    exact .work found at_ worked

/-! ### What a step leaves alone -/

/-- What a step of, or at, one worker does to the rest of the pool: at most it takes from the front
of the queue. -/
structure WorkerFrame (s : PoolState) (id : Nat) (t : PoolState) : Prop where
  workers : ∃ next, t.workers = (s.setWorker id next).workers
  queue : t.queue <:+ s.queue
  supervisor : t.supervisor = s.supervisor
  indices : t.indices = s.indices
  spawned : t.spawned = s.spawned
  closed : t.closed = s.closed
  cancelledAt : t.cancelledAt = s.cancelledAt
  clock : t.clock = s.clock
  numbered : t.numbered = s.numbered
  claimed : t.claimed = s.claimed
  failures : t.failures = s.failures

theorem Worked.frame {s t : PoolState} {id : Nat} {phase : PoolWorkerPhase} {action : WorkerAction}
    (worked : Worked s id phase action t) : WorkerFrame s id t := by
  cases worked with
  | take nonempty =>
    refine ⟨⟨_, rfl⟩, ?_, rfl, rfl, rfl, rfl, rfl, rfl, rfl, rfl, rfl⟩
    rw [nonempty]
    exact List.suffix_cons _ _
  | leave | poll | disconnect | park | notify | discard | clear | execute | finish | panic | retire
  | abort =>
    exact ⟨⟨_, rfl⟩, List.suffix_rfl, rfl, rfl, rfl, rfl, rfl, rfl, rfl, rfl, rfl⟩

namespace PoolState

variable {s : PoolState} {id : Nat} {worker : PoolWorker}

/-- The workers have different Tokio ids. -/
def Distinct (s : PoolState) : Prop := (s.workers.map PoolWorker.id).Nodup

theorem worker_mem (found : s.worker id = some worker) : worker ∈ s.workers ∧ worker.id = id :=
  ⟨List.mem_of_find?_eq_some found, by simpa using List.find?_some found⟩

/-- The join set around one of its workers. -/
theorem setWorker_split (distinct : s.Distinct) (found : s.worker id = some worker) :
    ∃ front back, Keyed.Split PoolWorker.id s.workers worker front back ∧
      ∀ phase, (s.setWorker id phase).workers = front ++ { worker with phase } :: back := by
  obtain ⟨member, rfl⟩ := worker_mem found
  obtain ⟨front, back, split⟩ := Keyed.split_of_mem distinct member
  exact ⟨front, back, split, fun phase =>
    Keyed.map_of_split split fun other => { other with phase }⟩

/-- The join set without one of its workers. -/
theorem filter_split (distinct : s.Distinct) (found : s.worker id = some worker) :
    ∃ front back, Keyed.Split PoolWorker.id s.workers worker front back ∧
      (s.workers.filter fun other => other.id ≠ id) = front ++ back := by
  obtain ⟨member, rfl⟩ := worker_mem found
  obtain ⟨front, back, split⟩ := Keyed.split_of_mem distinct member
  exact ⟨front, back, split, Keyed.filter_of_split split⟩

theorem mem_setWorker {phase : PoolWorkerPhase} (member : worker ∈ (s.setWorker id phase).workers) :
    (worker ∈ s.workers ∧ worker.id ≠ id) ∨ (worker.id = id ∧ worker.phase = phase) := by
  obtain ⟨old, found, rfl⟩ := List.mem_map.mp member
  by_cases own : old.id = id
  · rw [if_pos own]
    exact Or.inr ⟨own, rfl⟩
  · rw [if_neg own]
    exact Or.inl ⟨found, own⟩

/-- A phase change is no change for what does not depend on the phase. -/
theorem setWorker_map {β : Type} (value : PoolWorker → β)
    (same : ∀ worker phase, value { worker with phase } = value worker) (phase : PoolWorkerPhase) :
    (s.setWorker id phase).workers.map value = s.workers.map value := by
  rw [setWorker, List.map_map]
  refine List.map_congr_left fun worker _ => ?_
  by_cases own : worker.id = id
  · simp only [Function.comp_apply, if_pos own, same]
  · simp only [Function.comp_apply, if_neg own]

end PoolState

end AccountManagement.Runtime
