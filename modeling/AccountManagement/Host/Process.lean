/-
**The life of the process.**

`main`: load the configuration, install the logger, connect the database, prepare the task runtime,
bind the listener, run the host with HTTP and the task runtime, and close the database. The host and
the pool of workers are the machines of their own modules; they share the cancellation token, and
the host learns the exit of the spawned task runtime when it is joined.

* `parts_reachable`: inside the process the host and the pool are what they are alone.
* `orderly_reachable`: in every reachable state, what stage the process is in says what is open and
  what runs.
* `process_orderly`: the database is open as long as anything runs that uses it, it is closed at the
  end on every path, and from every state the process can end.
-/

import AccountManagement.Host.Lifecycle
import AccountManagement.Runtime.WindingDown

namespace AccountManagement.Host

open AccountManagement.Library AccountManagement.Runtime

variable {ε κ : Type}

/-! ### The machine -/

/-- Why the process fails, by the stage it fails in. -/
inductive ServiceError (ε κ : Type) where
  | dotenv
  | configuration
  | logging
  | database
  | taskPreparation (error : WorkerSetupError)
  | bind (error : ε)
  | host (error : HostError ε κ)
deriving DecidableEq

inductive Database where
  | absent
  | connected
  | closed
deriving DecidableEq

/-- Where `main` is. -/
inductive Stage (ε κ : Type) where
  | loading
  | configuring
  | logging
  | connecting
  | preparing
  | binding
  | serving
  | closing (result : Except (ServiceError ε κ) Unit)
  | ended (result : Except (ServiceError ε κ) Unit)
deriving DecidableEq

structure ProcessState (ε κ : Type) where
  stage : Stage ε κ
  database : Database
  host : HostState ε κ
  tasks : PoolState

inductive ProcessAction (ε κ : Type) where
  | loadDotenv (ready : Bool)
  | configure (ready : Bool)
  | initLogging (ready : Bool)
  | connect (ready : Bool)
  | prepare (failure : Option WorkerSetupError)
  | bind (failure : Option ε)
  | host (action : HostAction ε κ)
  | tasks (action : PoolAction)
  | join (exit : TaskRuntimeExit κ)
  | stop
  | close

namespace ProcessState

variable (s : ProcessState ε κ)

/-- Go on if the stage is done. Before the database is connected there is nothing to close. -/
def advance (ready : Bool) (next : Stage ε κ) (error : ServiceError ε κ) : ProcessState ε κ :=
  { s with stage := if ready then next else .ended (.error error) }

/-- Go on, or close the database with an error. -/
def advanceOrClose (next : Stage ε κ) : Option (ServiceError ε κ) → ProcessState ε κ
  | none => { s with stage := next }
  | some error => { s with stage := .closing (.error error) }

/-- The host and the task runtime see one token. -/
def shareToken : ProcessState ε κ :=
  { s with
    host := if s.tasks.isCancelled ∧ s.host.cancelled = false then
        { s.host with
          cancelled := true
          requested := s.host.requested || (s.host.inbound.isNone && s.host.runtime.isNone) }
      else s.host
    tasks := if s.host.cancelled then s.tasks.cancel else s.tasks }

/-- The spawned task runtime is joined with its result, or with an error if it has panicked. -/
def mayJoin (exit : TaskRuntimeExit κ) : Bool :=
  match s.tasks.supervisor, exit with
  | .returned result, .ok joined => decide (joined = result)
  | .panicked, .error _ => true
  | _, _ => false

end ProcessState

/-- What the host does itself: it neither cancels for another party nor ends the task runtime. -/
def HostAction.isOwn : HostAction ε κ → Bool
  | .cancel => false
  | .complete _ => false
  | _ => true

/-- The process, from the start of `main`. -/
def processMachine (ε κ : Type) (settings : PoolSettings) (clock : Instant) :
    Machine (ProcessState ε κ) (ProcessAction ε κ) where
  start := ⟨.loading, .absent, (hostMachine ε κ).start, (poolMachine settings clock).start⟩
  step s action :=
    match s.stage, action with
    | .loading, .loadDotenv ready => some (s.advance ready .configuring .dotenv)
    | .configuring, .configure ready => some (s.advance ready .logging .configuration)
    | .logging, .initLogging ready => some (s.advance ready .connecting .logging)
    | .connecting, .connect ready =>
      some { s.advance ready .preparing .database with
        database := if ready then .connected else .absent }
    | .preparing, .prepare failure =>
      some (s.advanceOrClose .binding (failure.map .taskPreparation))
    | .binding, .bind failure => some (s.advanceOrClose .serving (failure.map .bind))
    | .serving, .host action =>
      if action.isOwn then do
        let host ← (hostMachine ε κ).step s.host action
        return { s with host }.shareToken
      else none
    | .serving, .tasks action =>
      if action.isOwn then do
        let tasks ← (poolMachine settings clock).step s.tasks action
        return { s with tasks }.shareToken
      else none
    | .serving, .join exit =>
      if s.mayJoin exit then do
        let host ← (hostMachine ε κ).step s.host (.complete exit)
        return { s with host }
      else none
    | .serving, .stop =>
      match s.host.phase with
      | .returned result => some { s with stage := .closing (result.mapError .host) }
      | _ => none
    | .closing result, .close => some { s with stage := .ended result, database := .closed }
    | _, _ => none

/-! ### What a step can do -/

/-- **Everything a step of the process can do**, by its stage. -/
inductive ProcessStep (settings : PoolSettings) (clock : Instant) (s : ProcessState ε κ) :
    Stage ε κ → ProcessState ε κ → Prop
  | loadDotenv (ready : Bool) :
      ProcessStep settings clock s .loading (s.advance ready .configuring .dotenv)
  | configure (ready : Bool) :
      ProcessStep settings clock s .configuring (s.advance ready .logging .configuration)
  | initLogging (ready : Bool) :
      ProcessStep settings clock s .logging (s.advance ready .connecting .logging)
  | connect (ready : Bool) :
      ProcessStep settings clock s .connecting { s.advance ready .preparing .database with
        database := if ready then .connected else .absent }
  | prepare (failure : Option WorkerSetupError) :
      ProcessStep settings clock s .preparing
        (s.advanceOrClose .binding (failure.map .taskPreparation))
  | bind (failure : Option ε) :
      ProcessStep settings clock s .binding (s.advanceOrClose .serving (failure.map .bind))
  | host (action : HostAction ε κ) (host : HostState ε κ) : action.isOwn = true →
      (hostMachine ε κ).step s.host action = some host →
      ProcessStep settings clock s .serving { s with stage := .serving, host }.shareToken
  | tasks (action : PoolAction) (tasks : PoolState) :
      (poolMachine settings clock).step s.tasks action = some tasks →
      ProcessStep settings clock s .serving { s with stage := .serving, tasks }.shareToken
  | join (exit : TaskRuntimeExit κ) (host : HostState ε κ) : s.mayJoin exit = true →
      (hostMachine ε κ).step s.host (.complete exit) = some host →
      ProcessStep settings clock s .serving { s with stage := .serving, host }
  | stop (result : Except (HostError ε κ) Unit) : s.host.phase = .returned result →
      ProcessStep settings clock s .serving { s with stage := .closing (result.mapError .host) }
  | close (result : Except (ServiceError ε κ) Unit) :
      ProcessStep settings clock s (.closing result)
        { s with stage := .ended result, database := .closed }

section Process

variable {settings : PoolSettings} {clock : Instant} {s t : ProcessState ε κ}

theorem processMachine_step {action : ProcessAction ε κ}
    (stepped : (processMachine ε κ settings clock).step s action = some t) :
    ProcessStep settings clock s s.stage t := by
  simp only [processMachine] at stepped
  generalize s.stage = stage at stepped
  split at stepped
  · obtain rfl := Option.some.inj stepped
    exact .loadDotenv _
  · obtain rfl := Option.some.inj stepped
    exact .configure _
  · obtain rfl := Option.some.inj stepped
    exact .initLogging _
  · obtain rfl := Option.some.inj stepped
    exact .connect _
  · obtain rfl := Option.some.inj stepped
    exact .prepare _
  · obtain rfl := Option.some.inj stepped
    exact .bind _
  · split at stepped
    · obtain ⟨host, moved, stepped⟩ := Option.bind_eq_some_iff.mp stepped
      obtain rfl := Option.some.inj stepped
      exact .host _ host ‹_› moved
    · cases stepped
  · split at stepped
    · obtain ⟨tasks, moved, stepped⟩ := Option.bind_eq_some_iff.mp stepped
      obtain rfl := Option.some.inj stepped
      exact .tasks _ tasks moved
    · cases stepped
  · split at stepped
    · obtain ⟨host, moved, stepped⟩ := Option.bind_eq_some_iff.mp stepped
      obtain rfl := Option.some.inj stepped
      exact .join _ host ‹_› moved
    · cases stepped
  · split at stepped
    · obtain rfl := Option.some.inj stepped
      exact .stop _ ‹_›
    · cases stepped
  · obtain rfl := Option.some.inj stepped
    exact .close _
  · cases stepped

/-! ### The parts -/

/-- Sharing the token is a cancel of the host, or nothing. -/
theorem shareToken_host (reached : (hostMachine ε κ).Reachable s.host) :
    (hostMachine ε κ).Reachable s.shareToken.host := by
  simp only [ProcessState.shareToken]
  split
  · rename_i cancel
    refine reached.step .cancel ?_
    simp [hostMachine, cancel.2]
  · exact reached

theorem shareToken_tasks (reached : (poolMachine settings clock).Reachable s.tasks) :
    (poolMachine settings clock).Reachable s.shareToken.tasks := by
  simp only [ProcessState.shareToken]
  split
  · exact reached.step .cancel rfl
  · exact reached

theorem shareToken_phase (s : ProcessState ε κ) : s.shareToken.host.phase = s.host.phase := by
  unfold ProcessState.shareToken
  split <;> rfl

theorem shareToken_inbound (s : ProcessState ε κ) :
    s.shareToken.host.inbound = s.host.inbound := by
  unfold ProcessState.shareToken
  split <;> rfl

theorem shareToken_runtime (s : ProcessState ε κ) :
    s.shareToken.host.runtime = s.host.runtime := by
  unfold ProcessState.shareToken
  split <;> rfl

theorem shareToken_supervisor (s : ProcessState ε κ) :
    s.shareToken.tasks.supervisor = s.tasks.supervisor := by
  simp only [ProcessState.shareToken]
  split <;> rfl

/-- Both parts are what they are alone. -/
theorem parts_reachable (reached : (processMachine ε κ settings clock).Reachable s) :
    (hostMachine ε κ).Reachable s.host ∧ (poolMachine settings clock).Reachable s.tasks := by
  refine reached.invariant (P := fun s => (hostMachine ε κ).Reachable s.host ∧
    (poolMachine settings clock).Reachable s.tasks) ⟨.start, .start⟩
    fun s action t _ parts stepped => ?_
  have moved := processMachine_step stepped
  generalize s.stage = stage at moved
  cases moved with
  | loadDotenv | configure | initLogging | connect | stop | close => exact parts
  | prepare failure => cases failure <;> exact parts
  | bind failure => cases failure <;> exact parts
  | host action host own moved =>
    exact ⟨shareToken_host (parts.1.step action moved), shareToken_tasks parts.2⟩
  | tasks action tasks moved =>
    exact ⟨shareToken_host parts.1, shareToken_tasks (parts.2.step action moved)⟩
  | join exit host may moved => exact ⟨parts.1.step _ moved, parts.2⟩

/-! ### Safety -/

/-- Nothing was started. -/
def ProcessState.Idle (settings : PoolSettings) (clock : Instant) (s : ProcessState ε κ) : Prop :=
  s.host = (hostMachine ε κ).start ∧ s.tasks = (poolMachine settings clock).start

/-- HTTP has completed, the supervisor has returned, and no worker is left. -/
structure ProcessState.Finished (s : ProcessState ε κ) : Prop where
  inbound : s.host.inbound.isSome = true
  supervisor : ∃ result, s.tasks.supervisor = .returned result
  workers : s.tasks.workers = []

/-- **What is open and what runs in each stage.** -/
def Orderly (settings : PoolSettings) (clock : Instant) (s : ProcessState ε κ) : Stage ε κ → Prop
  | .loading | .configuring | .logging | .connecting => s.database = .absent ∧ s.Idle settings clock
  | .preparing | .binding => s.database = .connected ∧ s.Idle settings clock
  | .serving => s.database = .connected
  | .closing _ => s.database = .connected ∧ (s.Idle settings clock ∨ s.Finished)
  | .ended _ => (s.database = .absent ∧ s.Idle settings clock) ∨
    (s.database = .closed ∧ (s.Idle settings clock ∨ s.Finished))

/-- The supervisor that has returned makes no further step. -/
theorem returned_step {tasks next : PoolState} {action : PoolAction}
    {result : Except TaskRuntimeError Unit} (returned : tasks.supervisor = .returned result)
    (stepped : (poolMachine settings clock).step tasks action = some next) :
    next.supervisor = .returned result := by
  cases action with
  | cancel | wait =>
    obtain rfl := Option.some.inj stepped
    exact returned
  | work id action =>
    cases poolMachine_step stepped with
    | work _ _ worked => exact worked.frame.supervisor.trans returned
  | supervise action =>
    change PoolState.supervise settings tasks action = some next at stepped
    unfold PoolState.supervise at stepped
    rw [returned] at stepped
    cases action <;> cases stepped

/-- What the host knows of the task runtime is that it has returned. -/
def Joined (s : ProcessState ε κ) : Prop :=
  s.host.runtime.isSome = true → ∃ result, s.tasks.supervisor = .returned result

theorem shareToken_joined (joined : Joined s) : Joined s.shareToken := by
  intro known
  rw [shareToken_runtime] at known
  rw [shareToken_supervisor]
  exact joined known

/-- Only the join tells the host. -/
theorem hostMachine_runtime {host next : HostState ε κ} {action : HostAction ε κ}
    (own : action.isOwn = true) (stepped : (hostMachine ε κ).step host action = some next) :
    next.runtime = host.runtime := by
  have moved := hostMachine_step stepped
  generalize host.phase = phase at moved
  cases moved with
  | cancel | complete => cases own
  | _ => rfl

theorem joined_reachable (reached : (processMachine ε κ settings clock).Reachable s) : Joined s := by
  have start : Joined (processMachine ε κ settings clock).start := fun known => by cases known
  refine reached.invariant (P := Joined) start fun s action t before joined stepped => ?_
  have moved := processMachine_step stepped
  generalize s.stage = stage at moved
  cases moved with
  | loadDotenv | configure | initLogging | connect | stop | close => exact joined
  | prepare failure => cases failure <;> exact joined
  | bind failure => cases failure <;> exact joined
  | host action host own moved =>
    refine shareToken_joined fun known => joined ?_
    rw [← hostMachine_runtime own moved]
    exact known
  | tasks action tasks moved =>
    refine shareToken_joined fun known => ?_
    obtain ⟨result, returned⟩ := joined known
    exact ⟨result, returned_step returned moved⟩
  | join exit host may moved =>
    intro _
    unfold ProcessState.mayJoin at may
    split at may
    · exact ⟨_, ‹_›⟩
    · rename_i panicked
      exact absurd panicked (poolSound_reachable (parts_reachable before).2).unpanicked
    · cases may

/-- A host that has returned has seen HTTP and the task runtime complete. -/
theorem finished_of_returned (reached : (processMachine ε κ settings clock).Reachable s)
    {result : Except (HostError ε κ) Unit} (returned : s.host.phase = .returned result) :
    s.Finished := by
  obtain ⟨hostReached, tasksReached⟩ := parts_reachable reached
  have known := completed_reachable hostReached
  rw [returned] at known
  obtain ⟨_, inbound, runtime⟩ := known
  obtain ⟨outcome, supervisor⟩ := joined_reachable reached runtime
  exact ⟨inbound, ⟨outcome, supervisor⟩, (returns_reachable tasksReached).left outcome supervisor⟩

/-- **Every step keeps the order.** -/
theorem orderly_reachable (reached : (processMachine ε κ settings clock).Reachable s) :
    Orderly settings clock s s.stage := by
  have start : Orderly settings clock (processMachine ε κ settings clock).start .loading :=
    ⟨rfl, rfl, rfl⟩
  refine reached.invariant (P := fun s => Orderly settings clock s s.stage) start
    fun s action t before orderly stepped => ?_
  have moved := processMachine_step stepped
  have finished : ∀ result, s.host.phase = .returned result → s.Finished :=
    fun _ => finished_of_returned before
  generalize s.stage = stage at moved orderly
  cases moved with
  | loadDotenv ready | configure ready | initLogging ready =>
    cases ready with
    | true => exact orderly
    | false => exact .inl orderly
  | connect ready =>
    cases ready with
    | true => exact ⟨rfl, orderly.2⟩
    | false => exact .inl ⟨rfl, orderly.2⟩
  | prepare failure =>
    cases failure with
    | none => exact orderly
    | some error => exact ⟨orderly.1, .inl orderly.2⟩
  | bind failure =>
    cases failure with
    | none => exact orderly.1
    | some error => exact ⟨orderly.1, .inl orderly.2⟩
  | host action host own moved => exact orderly
  | tasks action tasks moved => exact orderly
  | join exit host may moved => exact orderly
  | stop result returned =>
    have done := finished result returned
    exact ⟨orderly, .inr ⟨done.inbound, done.supervisor, done.workers⟩⟩
  | close result =>
    refine .inr ⟨rfl, ?_⟩
    rcases orderly.2 with idle | done
    · exact .inl idle
    · exact .inr ⟨done.inbound, done.supervisor, done.workers⟩

/-! ### The end -/

/-- A cancel that the host knows of is known to the task runtime. -/
def Synced (s : ProcessState ε κ) : Prop := s.host.cancelled = true → s.tasks.isCancelled = true

theorem shareToken_synced (s : ProcessState ε κ) : Synced s.shareToken := by
  intro known
  simp only [ProcessState.shareToken] at known ⊢
  by_cases host : s.host.cancelled = true
  · rw [if_pos host]
    rfl
  · rw [if_neg host]
    split at known
    · rename_i both
      exact both.1
    · exact absurd known host

theorem hostMachine_complete {host next : HostState ε κ} {exit : TaskRuntimeExit κ}
    (stepped : (hostMachine ε κ).step host (.complete exit) = some next) :
    next = { host with runtime := some exit } := by
  have moved := hostMachine_step stepped
  generalize phase : host.phase = place at moved
  cases moved with
  | complete _ _ _ => rw [← phase]

theorem synced_reachable (reached : (processMachine ε κ settings clock).Reachable s) : Synced s := by
  have start : Synced (processMachine ε κ settings clock).start := fun known => by cases known
  refine reached.invariant (P := Synced) start fun s action t before synced stepped => ?_
  have moved := processMachine_step stepped
  generalize s.stage = stage at moved
  cases moved with
  | loadDotenv | configure | initLogging | connect | stop | close => exact synced
  | prepare failure => cases failure <;> exact synced
  | bind failure => cases failure <;> exact synced
  | host | tasks => exact shareToken_synced _
  | join exit host may moved =>
    obtain rfl := hostMachine_complete moved
    exact synced

theorem cancel_self {tasks : PoolState} (cancelled : tasks.isCancelled = true) :
    tasks.cancel = tasks := by
  obtain ⟨instant, known⟩ := Option.isSome_iff_exists.mp cancelled
  cases tasks
  cases known
  rfl

/-- The process can end from here, with its database closed. -/
def CanEnd (settings : PoolSettings) (clock : Instant) (s : ProcessState ε κ) : Prop :=
  ∃ actions t result, (processMachine ε κ settings clock).run s actions = some t ∧
    t.stage = .ended result ∧ t.database = .closed

theorem CanEnd.of_run {actions : List (ProcessAction ε κ)}
    (ran : (processMachine ε κ settings clock).run s actions = some t)
    (rest : CanEnd settings clock t) : CanEnd settings clock s := by
  obtain ⟨more, last, result, ranOn, ended⟩ := rest
  refine ⟨actions ++ more, last, result, ?_, ended⟩
  rw [Machine.run_append, ran]
  exact ranOn

theorem CanEnd.of_step {action : ProcessAction ε κ}
    (stepped : (processMachine ε κ settings clock).step s action = some t)
    (rest : CanEnd settings clock t) : CanEnd settings clock s := by
  have ran : (processMachine ε κ settings clock).run s [action] = some t := by
    rw [Machine.run, stepped]
    rfl
  exact rest.of_run ran

theorem canEnd_closing {result : Except (ServiceError ε κ) Unit}
    (closing : s.stage = .closing result) : CanEnd settings clock s := by
  have stepped : (processMachine ε κ settings clock).step s .close
      = some { s with stage := .ended result, database := .closed } := by
    simp [processMachine, closing]
  exact .of_step stepped ⟨[], _, result, rfl, rfl, rfl⟩

section Serving

variable (serving : s.stage = .serving)
include serving

theorem serving_host {action : HostAction ε κ} {host : HostState ε κ} (own : action.isOwn = true)
    (moved : (hostMachine ε κ).step s.host action = some host) :
    (processMachine ε κ settings clock).step s (.host action) = some { s with host }.shareToken := by
  simp [processMachine, serving, own, moved]

theorem canEnd_returned {result : Except (HostError ε κ) Unit}
    (returned : s.host.phase = .returned result) : CanEnd settings clock s := by
  have stepped : (processMachine ε κ settings clock).step s .stop
      = some { s with stage := .closing (result.mapError .host) } := by
    simp [processMachine, serving, returned]
  exact .of_step stepped (canEnd_closing rfl)

/-- While both know of the cancel, the task runtime makes its steps alone. -/
theorem serving_tasks {actions : List PoolAction} {next : PoolState}
    (host : s.host.cancelled = true) (cancelled : s.tasks.isCancelled = true)
    (unassisted : ∀ action ∈ actions, action.isUnassisted = true)
    (ran : (poolMachine settings clock).run s.tasks actions = some next) :
    (processMachine ε κ settings clock).run s (actions.map .tasks)
      = some { s with tasks := next } := by
  induction actions generalizing s with
  | nil =>
    obtain rfl : s.tasks = next := Option.some.inj ran
    rfl
  | cons action rest ih =>
    obtain ⟨middle, stepped, ran⟩ := Machine.run_cons ran
    have mine : action.isOwn = true := by
      have := unassisted action List.mem_cons_self
      cases action <;> first | rfl | cases this
    have still := PoolState.isCancelled_step cancelled (poolMachine_step stepped)
    have same : middle.cancel = middle := cancel_self still
    have moved : (processMachine ε κ settings clock).step s (.tasks action)
        = some { s with tasks := middle } := by
      simp [processMachine, serving, mine, stepped, ProcessState.shareToken, host, same]
    rw [List.map_cons, Machine.run, moved]
    exact ih (s := { s with tasks := middle }) serving host still
      (fun other member => unassisted other (List.mem_cons_of_mem _ member)) ran

/-- The host returns once both components have completed. -/
theorem canEnd_completed {reason : StopReason ε κ} {inbound : Except ε Unit}
    {runtime : TaskRuntimeExit κ} (joining : s.host.phase = .joining reason)
    (inboundEnded : s.host.inbound = some inbound) (runtimeEnded : s.host.runtime = some runtime) :
    CanEnd settings clock s := by
  have moved : (hostMachine ε κ).step s.host .finish
      = some (s.host.goTo (.returned (reason.result inbound runtime))) := by
    simp [hostMachine, joining, inboundEnded, runtimeEnded]
  exact .of_step (serving_host serving rfl moved) (canEnd_returned serving (shareToken_phase _))

/-- A host that waits can join a task runtime that has returned. -/
theorem canEnd_joined {reason : StopReason ε κ} {inbound : Except ε Unit}
    {result : Except TaskRuntimeError Unit} (joining : s.host.phase = .joining reason)
    (inboundEnded : s.host.inbound = some inbound)
    (returned : s.tasks.supervisor = .returned result) : CanEnd settings clock s := by
  cases runtime : s.host.runtime with
  | some exit => exact canEnd_completed serving joining inboundEnded runtime
  | none =>
    have moved : (processMachine ε κ settings clock).step s (.join (.ok result))
        = some { s with host := { s.host with runtime := some (.ok result) } } := by
      simp [processMachine, serving, ProcessState.mayJoin, returned, hostMachine, runtime]
    exact .of_step moved (canEnd_completed serving joining inboundEnded rfl)

/-- HTTP drains once the token is cancelled. -/
theorem canEnd_drained {reason : StopReason ε κ} {result : Except TaskRuntimeError Unit}
    (joining : s.host.phase = .joining reason) (cancelled : s.host.cancelled = true)
    (returned : s.tasks.supervisor = .returned result) : CanEnd settings clock s := by
  cases inbound : s.host.inbound with
  | some ended => exact canEnd_joined serving joining inbound returned
  | none =>
    have moved : (hostMachine ε κ).step s.host (.pollInbound (some (.ok ())))
        = some { s.host with inbound := some (.ok ()) } := by
      simp [hostMachine, joining, HostState.mayComplete, HostState.pollInbound, inbound, cancelled]
    exact .of_step (serving_host serving rfl moved) (canEnd_joined serving
      ((shareToken_phase _).trans joining) (shareToken_inbound _)
      ((shareToken_supervisor _).trans returned))

/-- **A host that waits for its components gets them.** -/
theorem canEnd_joining (reached : (processMachine ε κ settings clock).Reachable s)
    {reason : StopReason ε κ} (joining : s.host.phase = .joining reason) :
    CanEnd settings clock s := by
  obtain ⟨hostReached, tasksReached⟩ := parts_reachable reached
  have known := completed_reachable hostReached
  rw [joining] at known
  have cancelled := synced_reachable reached known
  obtain ⟨actions, next, result, ran, returned, unassisted⟩ :=
    returns_unassisted tasksReached cancelled
  refine .of_run (serving_tasks serving known cancelled unassisted ran) ?_
  exact canEnd_drained (s := { s with tasks := next }) serving joining known returned

omit serving in
/-- The rule for a step of the host on the way to the end. -/
theorem canEnd_poll (reached : (processMachine ε κ settings clock).Reachable s)
    (serving : s.stage = .serving) {action : HostAction ε κ} {host : HostState ε κ}
    (own : action.isOwn = true) (moved : (hostMachine ε κ).step s.host action = some host)
    (rest : ∀ {t : ProcessState ε κ}, (processMachine ε κ settings clock).Reachable t →
      t.stage = .serving → t.host.phase = host.phase → CanEnd settings clock t) :
    CanEnd settings clock s := by
  have stepped : (processMachine ε κ settings clock).step s (.host action)
      = some { s with host }.shareToken := serving_host serving own moved
  exact .of_step stepped (rest (reached.step _ stepped) serving (shareToken_phase _))

end Serving

section Select

variable (reached : (processMachine ε κ settings clock).Reachable s) (serving : s.stage = .serving)
include reached serving

theorem canEnd_stopped {reason : StopReason ε κ} (stopped : s.host.phase = .stopped reason) :
    CanEnd settings clock s := by
  have moved : (hostMachine ε κ).step s.host .stop
      = some { s.host with phase := .joining reason, cancelled := true } := by
    simp [hostMachine, stopped]
  exact canEnd_poll reached serving rfl moved fun reached serving => canEnd_joining serving reached

theorem canEnd_signal (selecting : s.host.phase = .selecting .signal) :
    CanEnd settings clock s := by
  have moved : (hostMachine ε κ).step s.host (.pollSignal (some (.ok ())))
      = some (s.host.goTo (.stopped (.signal (.ok ())))) := by
    simp [hostMachine, selecting]
  exact canEnd_poll reached serving rfl moved fun reached serving => canEnd_stopped reached serving

theorem canEnd_runtime (selecting : s.host.phase = .selecting .runtime) :
    CanEnd settings clock s := by
  cases runtime : s.host.runtime with
  | none =>
    have moved : (hostMachine ε κ).step s.host .pollRuntime
        = some (s.host.goTo (.selecting .signal)) := by
      simp [hostMachine, selecting, runtime]
    exact canEnd_poll reached serving rfl moved canEnd_signal
  | some exit =>
    have moved : (hostMachine ε κ).step s.host .pollRuntime
        = some (s.host.goTo (.stopped (.taskRuntime exit))) := by
      simp [hostMachine, selecting, runtime]
    exact canEnd_poll reached serving rfl moved fun reached serving => canEnd_stopped reached serving

theorem canEnd_inbound (selecting : s.host.phase = .selecting .inbound) :
    CanEnd settings clock s := by
  have known := completed_reachable (parts_reachable reached).1
  rw [selecting] at known
  have inbound : s.host.inbound = none := known
  have moved : (hostMachine ε κ).step s.host (.pollInbound none)
      = some (s.host.goTo (.selecting .runtime)) := by
    simp [hostMachine, selecting, HostState.mayComplete, HostState.pollInbound, inbound]
  exact canEnd_poll reached serving rfl moved canEnd_runtime

theorem canEnd_cancelled (selecting : s.host.phase = .selecting .cancelled) :
    CanEnd settings clock s := by
  cases cancelled : s.host.cancelled with
  | false =>
    have moved : (hostMachine ε κ).step s.host .pollCancelled
        = some (s.host.goTo (.selecting .inbound)) := by
      simp [hostMachine, selecting, cancelled]
    exact canEnd_poll reached serving rfl moved canEnd_inbound
  | true =>
    have moved : (hostMachine ε κ).step s.host .pollCancelled
        = some (s.host.goTo (.stopped .requested)) := by
      simp [hostMachine, selecting, cancelled]
    exact canEnd_poll reached serving rfl moved fun reached serving => canEnd_stopped reached serving

/-- **A process that serves can end**: the host comes to the signal, or is stopped before. -/
theorem canEnd_serving : CanEnd settings clock s := by
  cases phase : s.host.phase with
  | selecting branch =>
    cases branch with
    | signal => exact canEnd_signal reached serving phase
    | cancelled => exact canEnd_cancelled reached serving phase
    | inbound => exact canEnd_inbound reached serving phase
    | runtime => exact canEnd_runtime reached serving phase
  | stopped reason => exact canEnd_stopped reached serving phase
  | joining reason => exact canEnd_joining serving reached phase
  | returned result => exact canEnd_returned serving phase

end Select

/-- **The promise of `main`.** -/
structure OrderlyProcess (settings : PoolSettings) (clock : Instant) (s : ProcessState ε κ) :
    Prop where
  /-- Without a database nothing was started. -/
  absent : s.database = .absent → s.Idle settings clock
  /-- The database is closed after everything that could use it. -/
  closed : s.database = .closed → s.Idle settings clock ∨ s.Finished
  /-- No path ends with an open database. -/
  ended : ∀ result, s.stage = .ended result → s.database ≠ .connected
  /-- A process that serves can end. -/
  ends : s.stage = .serving → CanEnd settings clock s

theorem Orderly.absent {stage : Stage ε κ} (orderly : Orderly settings clock s stage)
    (absent : s.database = .absent) : s.Idle settings clock := by
  cases stage with
  | loading | configuring | logging | connecting | preparing | binding => exact orderly.2
  | serving => cases absent.symm.trans orderly
  | closing result => cases absent.symm.trans orderly.1
  | ended result =>
    rcases orderly with ⟨_, idle⟩ | ⟨closed, _⟩
    · exact idle
    · cases absent.symm.trans closed

theorem Orderly.closed {stage : Stage ε κ} (orderly : Orderly settings clock s stage)
    (closed : s.database = .closed) : s.Idle settings clock ∨ s.Finished := by
  cases stage with
  | loading | configuring | logging | connecting | preparing | binding => exact .inl orderly.2
  | serving => cases closed.symm.trans orderly
  | closing result => cases closed.symm.trans orderly.1
  | ended result =>
    rcases orderly with ⟨absent, _⟩ | ⟨_, stopped⟩
    · cases closed.symm.trans absent
    · exact stopped

/-- **From the start of `main` to its end**, with every failure of the start and every interleaving
of the host with the task runtime, the database outlives what uses it. -/
theorem process_orderly (reached : (processMachine ε κ settings clock).Reachable s) :
    OrderlyProcess settings clock s where
  absent := (orderly_reachable reached).absent
  closed := (orderly_reachable reached).closed
  ended result ended connected := by
    have orderly := orderly_reachable reached
    rw [ended] at orderly
    rcases orderly with ⟨absent, _⟩ | ⟨closed, _⟩
    · cases connected.symm.trans absent
    · cases connected.symm.trans closed
  ends := canEnd_serving reached

end Process

/-- The process starts and is stopped by the signal while a worker runs a task and another task is in
the queue. -/
def signalledRun : List (ProcessAction String String) :=
  [.loadDotenv true, .configure true, .initLogging true, .connect true, .prepare none, .bind none]
    ++ (drainBegun.take 20).map .tasks ++ [.host (.pollSignal (some (.ok ()))), .host .stop]

def signalledProcess : ProcessState String String :=
  (processMachine String String pairPool 0).after signalledRun (by decide +kernel)

theorem process_orderly_signalled :
    (signalledProcess.stage = .serving ∧ signalledProcess.database = .connected ∧
      signalledProcess.tasks.isCancelled = true ∧ signalledProcess.tasks.running.length = 1 ∧
      signalledProcess.tasks.queue.length = 1) ∧
    OrderlyProcess pairPool 0 signalledProcess :=
  ⟨by decide +kernel, process_orderly (Machine.reachable_after signalledRun (by decide +kernel))⟩

end AccountManagement.Host
