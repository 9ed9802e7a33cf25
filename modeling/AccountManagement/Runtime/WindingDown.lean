/-
**A cancelled pool ends.**

Once the token is cancelled, every step of the supervisor and of its workers lowers the number of
steps that are left, so no interleaving goes on for ever, and only waiting remains. The pool is never
stuck: what the supervisor awaits is the token, a timer or the end of a worker, and an aborted worker
ends where it yields next. So it returns even if no handler comes to an end, as long as the handlers
yield; one that blocks its thread is waited for.

* `remaining_step`: every step but waiting and cancelling lowers `PoolState.remaining`.
* `PoolSound.progress`: a pool that has not returned makes a step, after some time at most, that no
  handler has to end for.
* `shutdown_terminates`: the steps after the cancel are bounded by the configuration alone, and from
  every state of a cancelled pool the supervisor returns by such steps.
-/

import AccountManagement.Library.Refinement
import AccountManagement.Runtime.Shutdown

namespace AccountManagement.Runtime

open AccountManagement.Library AccountManagement.Task

/-! ### The steps that are left -/

/-- The steps a worker has left after the cancel, up to its join. -/
def PoolWorkerPhase.remaining : PoolWorkerPhase → Nat
  | .ended _ => 1
  | .idle => 2
  | .announced _ => 2
  | .executing _ => 3
  | .dequeued _ => 3
  | .cleared _ => 4
  | .receiving => 4

/-- The steps the supervisor has left after the cancel, with a poller for that many formats. -/
def SupervisorPhase.remaining (formats : Nat) : SupervisorPhase → Nat
  | .returned _ => 0
  | .panicked => 0
  | .starting => 1
  | .aborting _ => 1
  | .draining _ _ => 2
  | .closing _ => 3
  | .stopping _ => 4
  | .selecting .cancelled => 5
  | .replacing _ _ => 5
  | .recovering _ false => 5
  | .claiming _ _ false => 5
  | .checking _ _ => 5
  | .measuring => 6
  | .restarting _ => 6
  | .sending batch => 6 + batch.length
  | .claiming _ (some progress) true => 6 + progress.left
  | .selecting .notified => 7
  | .recovering _ true => 7
  | .claiming _ none true => 7 + formats
  | .selecting .tick => 8
  | .selecting .exit => 9
  | .spawning _ _ => 9

attribute [simp] PoolWorkerPhase.remaining SupervisorPhase.remaining

/-- The steps the workers have left. -/
def staffRemaining (workers : List PoolWorker) : Nat :=
  (workers.map fun worker => worker.phase.remaining).sum

/-- The steps that are left after the cancel. -/
def PoolState.remaining (settings : PoolSettings) (s : PoolState) : Nat :=
  s.supervisor.remaining settings.formats.length + staffRemaining s.workers

/-- A step of the supervisor or of a worker, as against time and the cancel. -/
def PoolAction.isStep : PoolAction → Bool
  | .supervise _ => true
  | .work _ _ => true
  | _ => false

variable {settings : PoolSettings} {s t : PoolState} {id : Nat} {worker : PoolWorker}

/-! ### Workers -/

theorem staffRemaining_split {workers front back : List PoolWorker}
    (split : workers = front ++ worker :: back) :
    staffRemaining workers = staffRemaining (front ++ back) + worker.phase.remaining := by
  unfold staffRemaining
  rw [split]
  simp only [List.map_append, List.map_cons, List.sum_append, List.sum_cons]
  omega

theorem PoolWorkerPhase.remaining_pos (phase : PoolWorkerPhase) : 0 < phase.remaining := by
  cases phase <;> simp

/-- A worker that comes nearer to its end. -/
theorem staffRemaining_set (distinct : s.Distinct) (found : s.worker id = some worker)
    {next : PoolWorkerPhase} (fewer : next.remaining < worker.phase.remaining) :
    staffRemaining (s.setWorker id next).workers < staffRemaining s.workers := by
  obtain ⟨front, back, split, changed⟩ := PoolState.setWorker_split distinct found
  rw [staffRemaining_split (changed next), staffRemaining_split split.1]
  exact Nat.add_lt_add_left fewer _

/-- A worker that leaves the join set. -/
theorem staffRemaining_filter (distinct : s.Distinct) (found : s.worker id = some worker) :
    staffRemaining (s.workers.filter fun other => other.id ≠ id) < staffRemaining s.workers := by
  obtain ⟨front, back, split, changed⟩ := PoolState.filter_split distinct found
  rw [changed, staffRemaining_split split.1]
  exact Nat.lt_add_of_pos_right worker.phase.remaining_pos

/-- After the cancel, every step brings a worker nearer to its end. -/
theorem Worked.remaining {phase : PoolWorkerPhase} {action : WorkerAction}
    (worked : Worked s id phase action t) (cancelled : s.isCancelled = true) :
    ∃ next, t.workers = (s.setWorker id next).workers ∧ next.remaining < phase.remaining := by
  cases worked with
  | poll live => exact absurd (cancelled.symm.trans live) (by decide)
  | clear live => exact absurd (cancelled.symm.trans live) (by decide)
  | leave => exact ⟨.ended false, rfl, by simp⟩
  | take => exact ⟨.dequeued _, rfl, by simp⟩
  | disconnect => exact ⟨.ended false, rfl, by simp⟩
  | park => exact ⟨.idle, rfl, by simp⟩
  | notify => exact ⟨.announced _, rfl, by simp⟩
  | discard => exact ⟨.ended false, rfl, by simp⟩
  | execute => exact ⟨.executing _, rfl, by simp⟩
  | finish => exact ⟨.idle, rfl, by simp⟩
  | panic => exact ⟨.ended true, rfl, by simp⟩
  | retire => exact ⟨.ended false, rfl, by simp⟩
  | abort => exact ⟨.ended false, rfl, by simp⟩

/-! ### The supervisor -/

theorem SupervisorPhase.remaining_checkpoint {phase next : SupervisorPhase}
    {action : SupervisorAction} (point : phase.checkpoint = some (action, next)) (formats : Nat) :
    phase.remaining formats = 5 := by
  unfold checkpoint at point
  split at point
  · rfl
  · rfl
  · rfl
  · simp
  · cases point

/-- After the cancel, a step of the supervisor that only changes where it is brings it nearer to its
end. -/
theorem SupervisorMove.remaining {phase next : SupervisorPhase} {action : SupervisorAction}
    (move : SupervisorMove settings s phase action next) (cancelled : s.isCancelled = true)
    (formats : Nat) : next.remaining formats < phase.remaining formats := by
  cases move with
  | goOn _ live => exact absurd (cancelled.symm.trans live) (by decide)
  | accept live => exact absurd (cancelled.symm.trans live) (by decide)
  | leave point =>
    rw [SupervisorPhase.remaining_checkpoint point]
    simp
  | failed | pend =>
    simp only [SupervisorPhase.remaining]
    omega
  | refuse | skipExit | tick | skipTick | skipNotified | rebuilt | recovered | recovering | full
  | sent | expire | drained | aborted => simp

/-- A poll of the poller uses up a format, or ends the claim. -/
theorem Claims.remaining {limit numbered : Nat} {before : Option ClaimProgress}
    {progress : ClaimProgress} {action : SupervisorAction}
    (claims : Claims settings s limit before action progress numbered)
    (on : ¬ (progress.left = 0 ∨ progress.batch.length = limit)) :
    SupervisorPhase.remaining settings.formats.length (.claiming limit (some progress) true)
      < SupervisorPhase.remaining settings.formats.length (.claiming limit before true) := by
  rw [not_or] at on
  cases claims with
  | start => simp
  | answer within =>
    have more := on.1
    simp only [SupervisorPhase.remaining] at more ⊢
    omega
  | giveUp => exact absurd rfl on.1

theorem SupervisorPhase.remaining_claiming (formats limit : Nat) (before : Option ClaimProgress) :
    5 < SupervisorPhase.remaining formats (.claiming limit before true) := by
  cases before with
  | none =>
    simp only [SupervisorPhase.remaining]
    omega
  | some progress =>
    simp only [SupervisorPhase.remaining]
    omega

theorem SupervisorPanic.remaining {phase : SupervisorPhase} {action : SupervisorAction}
    (panic : SupervisorPanic settings s phase action) (formats : Nat) :
    0 < phase.remaining formats := by
  cases panic with
  | underflow | overLimit => simp
  | unsent =>
    simp only [SupervisorPhase.remaining]
    omega

/-- After the cancel, every step of the supervisor leaves fewer steps. -/
theorem Supervised.remaining {phase : SupervisorPhase} {action : SupervisorAction}
    (supervised : Supervised settings s phase action t) (distinct : s.Distinct)
    (cancelled : s.isCancelled = true) (same : s.supervisor = phase) :
    t.remaining settings < s.remaining settings := by
  unfold PoolState.remaining
  -- The supervisor moves on and no worker falls back, or the other way round.
  have onward : ∀ (next : SupervisorPhase) {staff : Nat},
      next.remaining settings.formats.length < phase.remaining settings.formats.length →
      staff ≤ staffRemaining s.workers →
      next.remaining settings.formats.length + staff
        < s.supervisor.remaining settings.formats.length + staffRemaining s.workers := by
    intro next staff fewer noMore
    rw [same]
    exact Nat.add_lt_add_of_lt_of_le fewer noMore
  have stays : ∀ {staff : Nat}, staff < staffRemaining s.workers →
      s.supervisor.remaining settings.formats.length + staff
        < s.supervisor.remaining settings.formats.length + staffRemaining s.workers :=
    fun fewer => Nat.add_lt_add_left fewer _
  cases supervised with
  | join place found ended => exact stays (staffRemaining_filter distinct found)
  | observeExit found => exact onward _ (by simp) (staffRemaining_filter distinct found).le
  | unregistered found => exact onward _ (by simp) (staffRemaining_filter distinct found).le
  | move move => exact onward _ (move.remaining cancelled _) le_rfl
  | claim claims on => exact onward _ (claims.remaining on) le_rfl
  | complete claims => exact onward _ (SupervisorPhase.remaining_claiming _ _ _) le_rfl
  | panic panic => exact onward _ (panic.remaining _) le_rfl
  | takePermit | buildFailed | discard | send | close => exact onward _ (by simp) le_rfl
  | measured => exact onward (.claiming _ none false) (by simp) le_rfl
  | stop => exact onward (.closing _) (by simp) le_rfl
  | start live => exact absurd (cancelled.symm.trans live) (by decide)
  | spawn =>
    rw [same]
    show 6 + staffRemaining (s.workers ++ [⟨s.spawned, _, _, .idle⟩]) < 9 + staffRemaining s.workers
    rw [@staffRemaining_split _ _ s.workers [] rfl, List.append_nil]
    simp only [PoolWorkerPhase.remaining]
    omega

/-- **After the cancel, every step but waiting leaves fewer steps.** -/
theorem remaining_step {action : PoolAction} (distinct : s.Distinct)
    (cancelled : s.isCancelled = true) (step : PoolStep settings s action t) :
    (if action.isStep then 1 else 0) + t.remaining settings ≤ s.remaining settings := by
  cases step with
  | cancel => exact Nat.le_of_eq (Nat.zero_add _)
  | wait => exact Nat.le_of_eq (Nat.zero_add _)
  | supervise supervised =>
    rw [Nat.add_comm]
    exact supervised.remaining distinct cancelled rfl
  | work found at_ worked =>
    rw [Nat.add_comm]
    obtain ⟨next, same, fewer⟩ := worked.remaining cancelled
    show t.remaining settings < s.remaining settings
    unfold PoolState.remaining
    rw [worked.frame.supervisor, same]
    rw [← at_] at fewer
    exact Nat.add_lt_add_left (staffRemaining_set distinct found fewer) _

/-- The steps of a run after the cancel are paid for by what was left. -/
theorem remaining_run {clock : Instant} (reached : (poolMachine settings clock).Reachable s)
    (cancelled : s.isCancelled = true) {actions : List PoolAction}
    (ran : (poolMachine settings clock).run s actions = some t) :
    actions.countP PoolAction.isStep + t.remaining settings ≤ s.remaining settings := by
  induction actions generalizing s with
  | nil =>
    obtain rfl : s = t := Option.some.inj ran
    exact Nat.le_of_eq (Nat.zero_add _)
  | cons action rest ih =>
    obtain ⟨middle, stepped, ran⟩ := Machine.run_cons ran
    have step := poolMachine_step stepped
    have first := remaining_step (poolSound_reachable reached).staffed.distinct cancelled step
    have more := ih (reached.step action stepped) (PoolState.isCancelled_step cancelled step) ran
    rw [List.countP_cons]
    omega

/-! ### Progress -/

/-- What the supervisor and the runtime do by themselves: time, and every step but those that a
handler decides on, the end and the panic of its execution. -/
def PoolAction.isUnassisted : PoolAction → Bool
  | .cancel => false
  | .wait _ => true
  | .supervise _ => true
  | .work _ .finish => false
  | .work _ .panic => false
  | .work _ _ => true

/-- The supervisor makes a step, or a worker makes one that its handler does not decide on. -/
def PoolState.Moves (settings : PoolSettings) (s : PoolState) : Prop :=
  (∃ action t, s.supervise settings action = some t) ∨
    ∃ id action t, s.work id action = some t ∧ (PoolAction.work id action).isUnassisted = true

/-- An aborted worker makes a step. -/
theorem PoolState.works (aborting : s.supervisor.isAborting = true)
    (found : s.worker id = some worker) (running : worker.phase.isEnded = false) :
    ∃ action t, s.work id action = some t ∧ (PoolAction.work id action).isUnassisted = true := by
  have enabled : ∀ action, (s.work id action).isSome = true →
      (PoolAction.work id action).isUnassisted = true →
      ∃ action t, s.work id action = some t ∧ (PoolAction.work id action).isUnassisted = true := by
    intro action works unassisted
    obtain ⟨t, works⟩ := Option.isSome_iff_exists.mp works
    exact ⟨action, t, works, unassisted⟩
  cases at_ : worker.phase with
  | ended panicked =>
    rw [at_] at running
    cases running
  | idle => exact enabled .yield (by simp [work, found, at_, aborting]) rfl
  | receiving => exact enabled .receive (by simp [work, found, at_]) rfl
  | dequeued delivery => exact enabled .notify (by simp [work, found, at_]) rfl
  | announced delivery =>
    refine enabled .check ?_ rfl
    by_cases cancelled : s.isCancelled = true
    · simp [work, found, at_, cancelled]
    · simp [work, found, at_, cancelled]
  | cleared delivery => exact enabled .execute (by simp [work, found, at_]) rfl
  | executing execution => exact enabled .yield (by simp [work, found, at_, aborting]) rfl

/-- The workers that are left end or are joined. -/
theorem PoolState.aborts {result : Except TaskRuntimeError Unit}
    (at_ : s.supervisor = .aborting result) : s.Moves settings := by
  cases crew : s.workers with
  | nil =>
    refine .inl ⟨.finish, s.goTo (.returned result), ?_⟩
    unfold supervise
    rw [at_]
    exact if_pos crew
  | cons first rest =>
    have found : s.worker first.id = some first := by
      unfold PoolState.worker
      simp [crew]
    cases ended : first.phase.isEnded with
    | true =>
      have joined : ∃ t, s.joinWorker first.id = some t := by
        unfold joinWorker
        rw [found]
        simp [ended]
      obtain ⟨t, joined⟩ := joined
      refine .inl ⟨.join first.id, t, ?_⟩
      unfold supervise
      rw [at_]
      exact joined
    | false => exact .inr ⟨first.id, works (by rw [at_]; rfl) found ended⟩

/-- How long the supervisor may have to wait for its next step. -/
def SupervisorPhase.patience (clock : Instant) : SupervisorPhase → Nat
  | .draining _ deadline => (deadline - clock).toNat
  | _ => 0

/-- A supervisor that is in its loop, or has waited long enough, makes a step, unless it waits for a
worker that it aborted. -/
theorem PoolState.supervises (unpanicked : s.supervisor ≠ .panicked)
    (running : ∀ result, s.supervisor ≠ .returned result)
    (due : ∀ result deadline, s.supervisor = .draining result deadline → deadline ≤ s.clock) :
    s.Moves settings := by
  -- The action of each phase that asks nothing of the other parties.
  have enabled : ∀ action t, s.supervise settings action = some t → s.Moves settings :=
    fun action t done => .inl ⟨action, t, done⟩
  cases at_ : s.supervisor with
  | panicked => exact absurd at_ unpanicked
  | returned result => exact absurd at_ (running result)
  | aborting result => exact aborts at_
  | draining result deadline =>
    refine enabled .expire (s.goTo (.aborting result)) ?_
    unfold supervise
    rw [at_]
    exact if_pos (due result deadline at_)
  | starting =>
    refine .inl ⟨.start, ?_⟩
    unfold supervise
    rw [at_]
    by_cases cancelled : s.isCancelled = true
    · exact ⟨_, if_pos cancelled⟩
    · exact ⟨_, if_neg cancelled⟩
  | selecting branch =>
    cases branch with
    | cancelled => exact enabled .evaluate _ (by unfold supervise; rw [at_])
    | exit => exact enabled .skip _ (by unfold supervise; rw [at_])
    | tick => exact enabled .skip _ (by unfold supervise; rw [at_])
    | notified => exact enabled .skip _ (by unfold supervise; rw [at_])
  | restarting index =>
    exact enabled (.build (.error .empty)) _ (by unfold supervise; rw [at_]; rfl)
  | replacing index formats => exact enabled .check _ (by unfold supervise; rw [at_])
  | spawning index formats => exact enabled .spawn _ (by unfold supervise; rw [at_])
  | recovering begun evaluated =>
    cases evaluated with
    | false => exact enabled .evaluate _ (by unfold supervise; rw [at_])
    | true => exact enabled (.pollRecovery false) _ (by unfold supervise; rw [at_])
  | measuring => exact enabled .measure _ (by unfold supervise; rw [at_])
  | claiming limit progress evaluated =>
    cases evaluated with
    | false => exact enabled .evaluate _ (by unfold supervise; rw [at_])
    | true =>
      cases progress with
      | none => exact enabled .startClaim _ (by unfold supervise; rw [at_])
      | some progress => exact enabled .pend _ (by unfold supervise; rw [at_])
  | checking limit batch => exact enabled .check _ (by unfold supervise; rw [at_])
  | sending batch =>
    cases batch with
    | nil => exact enabled .send _ (by unfold supervise; rw [at_])
    | cons delivery rest => exact enabled .send _ (by unfold supervise; rw [at_])
  | stopping result => exact enabled .stop _ (by unfold supervise; rw [at_])
  | closing result => exact enabled .close _ (by unfold supervise; rw [at_])

/-- **The pool is never stuck.** One whose supervisor has not returned makes a step, if not at once
then after some time, and no handler has to end for it. -/
theorem PoolSound.progress (sound : PoolSound settings s)
    (running : ∀ result, s.supervisor ≠ .returned result) (clock : Instant) :
    ∃ nanos action t, (poolMachine settings clock).run s [.wait nanos, action] = some t ∧
      action.isStep = true ∧ action.isUnassisted = true := by
  have steps := @PoolState.supervises settings
    { s with clock := s.clock + s.supervisor.patience s.clock } sound.unpanicked running
    (fun result deadline at_ => by
      show deadline ≤ s.clock + ((s.supervisor.patience s.clock : Nat) : Int)
      rw [show s.supervisor = .draining result deadline from at_]
      exact Int.le_add_of_sub_left_le (Int.self_le_toNat (deadline - s.clock)))
  rcases steps with ⟨action, t, stepped⟩ | ⟨id, action, t, stepped, unassisted⟩
  · refine ⟨s.supervisor.patience s.clock, .supervise action, t, ?_, rfl, rfl⟩
    show (PoolState.supervise settings _ action).bind some = some t
    rw [stepped]
    rfl
  · refine ⟨s.supervisor.patience s.clock, .work id action, t, ?_, rfl, unassisted⟩
    show (PoolState.work _ id action).bind some = some t
    rw [stepped]
    rfl

/-- **The supervisor of a cancelled pool returns without the end of a handler.** -/
theorem returns_unassisted {clock : Instant} (reached : (poolMachine settings clock).Reachable s)
    (cancelled : s.isCancelled = true) :
    ∃ actions t result, (poolMachine settings clock).run s actions = some t ∧
      t.supervisor = .returned result ∧ ∀ action ∈ actions, action.isUnassisted = true := by
  -- Induction on the steps that are left; the pool makes one of them.
  induction left : s.remaining settings using Nat.strong_induction_on generalizing s with
  | _ count ih =>
    by_cases running : ∀ result, s.supervisor ≠ .returned result
    · obtain ⟨nanos, action, middle, ran, isStep, unassisted⟩ :=
        (poolSound_reachable reached).progress running clock
      have after := reached.run ran
      have fewer := remaining_run reached cancelled ran
      have still : middle.isCancelled = true :=
        reached.run_invariant (P := fun s => s.isCancelled = true)
          (fun _ _ _ _ kept stepped =>
            PoolState.isCancelled_step kept (poolMachine_step stepped)) cancelled ran
      have lower : middle.remaining settings < count := by
        simp only [List.countP_cons, List.countP_nil, isStep, if_true] at fewer
        omega
      obtain ⟨rest, t, result, ranOn, returned, own⟩ := ih _ lower after still rfl
      refine ⟨[.wait nanos, action] ++ rest, t, result, ?_, returned, ?_⟩
      · rw [Machine.run_append, ran]
        exact ranOn
      · intro each member
        rcases List.mem_append.mp member with early | late
        · simp only [List.mem_cons, List.not_mem_nil, or_false] at early
          rcases early with rfl | rfl
          · rfl
          · exact unassisted
        · exact own each late
    · rw [not_forall] at running
      obtain ⟨result, returned⟩ := running
      exact ⟨[], s, result, rfl, not_not.mp returned, fun _ none => absurd none List.not_mem_nil⟩

/-! ### The bound -/

/-- A claim under way has no more formats left than there are. -/
def SupervisorPhase.ScansWithin (formats : Nat) : SupervisorPhase → Prop
  | .claiming _ (some progress) _ => progress.left ≤ formats
  | _ => True

theorem SupervisorMove.scansWithin {phase next : SupervisorPhase} {action : SupervisorAction}
    {formats : Nat} (move : SupervisorMove settings s phase action next)
    (within : phase.ScansWithin formats) : next.ScansWithin formats := by
  cases move with
  | pend => exact within
  | goOn point =>
    unfold SupervisorPhase.checkpoint at point
    split at point
    · cases point
      trivial
    · cases point
      trivial
    · cases point
      trivial
    · rename_i progress
      cases point
      cases progress with
      | none => trivial
      | some progress => exact within
    · cases point
  | _ => trivial

theorem scansWithin_step {action : PoolAction}
    (within : s.supervisor.ScansWithin settings.formats.length)
    (step : PoolStep settings s action t) : t.supervisor.ScansWithin settings.formats.length := by
  cases step with
  | cancel | wait => exact within
  | work _ _ worked =>
    rw [worked.frame.supervisor]
    exact within
  | supervise supervised =>
    generalize at_ : s.supervisor = phase at supervised within
    cases supervised with
    | move move => exact move.scansWithin within
    | claim claims on =>
      cases claims with
      | start => exact le_rfl
      | answer => exact (Nat.sub_le _ _).trans within
      | giveUp => exact Nat.zero_le _
    | join =>
      show s.supervisor.ScansWithin _
      rw [at_]
      exact within
    | _ => trivial

theorem SupervisorPhase.remaining_le {formats : Nat} {phase : SupervisorPhase}
    (within : phase.ScansWithin formats) :
    phase.remaining formats ≤ 9 + phase.reserved + formats := by
  cases phase with
  | selecting branch => cases branch <;> simp <;> omega
  | recovering begun evaluated => cases evaluated <;> simp <;> omega
  | claiming limit progress evaluated =>
    cases evaluated with
    | false =>
      simp only [remaining, reserved]
      omega
    | true =>
      cases progress with
      | none =>
        simp only [remaining, reserved]
        omega
      | some progress =>
        have left : progress.left ≤ formats := within
        simp only [remaining, reserved]
        omega
  | _ =>
    simp only [remaining, reserved]
    omega

theorem staffRemaining_le (workers : List PoolWorker) :
    staffRemaining workers ≤ 4 * workers.length := by
  induction workers with
  | nil => exact le_rfl
  | cons worker rest ih =>
    have phase : worker.phase.remaining ≤ 4 := by cases worker.phase <;> simp
    unfold staffRemaining at ih ⊢
    rw [List.map_cons, List.sum_cons, List.length_cons]
    omega

/-- The steps that are left are bounded by the configuration. -/
theorem remaining_le {clock : Instant} (reached : (poolMachine settings clock).Reachable s) :
    s.remaining settings
      ≤ 4 * settings.concurrency + settings.queueCapacity + settings.formats.length + 9 := by
  have sound := poolSound_reachable reached
  have within : s.supervisor.ScansWithin settings.formats.length :=
    reached.invariant (P := fun s => s.supervisor.ScansWithin settings.formats.length) trivial
      fun _ _ _ _ kept stepped => scansWithin_step kept (poolMachine_step stepped)
  have supervisor := SupervisorPhase.remaining_le within
  have staff := staffRemaining_le s.workers
  have filled := sound.staffed.filled
  have fits := sound.roomy.fits
  unfold PoolState.remaining
  omega

/-- **A cancelled pool ends.** From every reachable state of a pool whose token is cancelled: the
supervisor and the workers together make at most as many further steps as the configuration allows,
however they interleave and whatever the queue, the factory and the executions do; and the
supervisor can always reach its return without a handler that ends: by its own steps, by waiting, by
the steps of the workers' loops and where an aborted worker yields. -/
theorem shutdown_terminates {clock : Instant} (reached : (poolMachine settings clock).Reachable s)
    (cancelled : s.isCancelled = true) :
    (∀ actions t, (poolMachine settings clock).run s actions = some t →
      actions.countP PoolAction.isStep
        ≤ 4 * settings.concurrency + settings.queueCapacity + settings.formats.length + 9) ∧
    ∃ actions t result, (poolMachine settings clock).run s actions = some t ∧
      t.supervisor = .returned result ∧ ∀ action ∈ actions, action.isUnassisted = true := by
  refine ⟨fun actions t ran => ?_, returns_unassisted reached cancelled⟩
  have paid := remaining_run reached cancelled ran
  have bound := remaining_le reached
  omega

theorem shutdown_terminates_windingPool :
    windingPool.isCancelled = true ∧
      ∃ actions t result, (poolMachine pairPool 0).run windingPool actions = some t ∧
        t.supervisor = .returned result ∧ ∀ action ∈ actions, action.isUnassisted = true := by
  have cancelled : windingPool.isCancelled = true := by decide +kernel
  exact ⟨cancelled, (shutdown_terminates (Machine.reachable_after drainBegun (by decide +kernel))
    cancelled).2⟩

end AccountManagement.Runtime
