/-
**The result of the host.**

`host::lifecycle::run` selects over the signal, the token, the inbound adapter and the spawned task
runtime, cancels the token, waits for both components and names the cause of the stop in its result.
A step of the machine is one poll of one branch; between two polls the task runtime and other
threads cancel the token or complete. The inbound adapter lives in the host: it completes when it is
polled, with a failure at any time, without one only after the token was cancelled. The errors of the
input and of a join are any types.

* `completed_reachable`: the host returns after both components, with the token cancelled;
* `requested_stop_misread`: a cancel that comes after the token's branch was polled, and before the
  poll of the inbound adapter, makes a requested shutdown an `InboundStopped`;
* `result_reflects_cause`: when no component is seen to complete in such an evaluation, the result of
  a requested shutdown is that of the components.
-/

import AccountManagement.Runtime.Pool

namespace AccountManagement.Host

open AccountManagement.Library AccountManagement.Runtime

variable {ε κ : Type}

/-! ### Results -/

inductive HostError (ε κ : Type) where
  | shutdownSignal (error : ε)
  | inbound (error : ε)
  | inboundStopped
  | taskRuntimeJoin (error : κ)
  | taskRuntime (error : TaskRuntimeError)
  | taskRuntimeStopped
deriving DecidableEq

/-- The exit of the spawned task: joined with its result, or with an error of the join. -/
abbrev TaskRuntimeExit (κ : Type) := Except κ (Except TaskRuntimeError Unit)

inductive StopReason (ε κ : Type) where
  | signal (result : Except ε Unit)
  | requested
  | inbound (result : Except ε Unit)
  | taskRuntime (exit : TaskRuntimeExit κ)
deriving DecidableEq

def preservePrimaryFailure (primary secondary : Except (HostError ε κ) Unit) :
    Except (HostError ε κ) Unit :=
  match primary with
  | .ok () => secondary
  | .error error => .error error

def expectedInboundExit (result : Except ε Unit) : Except (HostError ε κ) Unit :=
  result.mapError .inbound

def expectedRuntimeExit : TaskRuntimeExit κ → Except (HostError ε κ) Unit
  | .ok (.ok ()) => .ok ()
  | .ok (.error error) => .error (.taskRuntime error)
  | .error error => .error (.taskRuntimeJoin error)

def unexpectedRuntimeExit : TaskRuntimeExit κ → Except (HostError ε κ) Unit
  | .ok (.ok ()) => .error .taskRuntimeStopped
  | exit => expectedRuntimeExit exit

/-- The result for a reason, once both components have completed. -/
def StopReason.result (reason : StopReason ε κ) (inbound : Except ε Unit)
    (runtime : TaskRuntimeExit κ) : Except (HostError ε κ) Unit :=
  match reason with
  | .signal result =>
    preservePrimaryFailure (result.mapError .shutdownSignal)
      (preservePrimaryFailure (expectedRuntimeExit runtime) (expectedInboundExit inbound))
  | .requested =>
    preservePrimaryFailure (expectedRuntimeExit runtime) (expectedInboundExit inbound)
  | .inbound (.ok ()) =>
    preservePrimaryFailure (.error .inboundStopped) (expectedRuntimeExit runtime)
  | .inbound (.error error) =>
    preservePrimaryFailure (.error (.inbound error)) (expectedRuntimeExit runtime)
  | .taskRuntime exit =>
    preservePrimaryFailure (unexpectedRuntimeExit exit) (expectedInboundExit inbound)

/-! ### The machine -/

inductive HostBranch where
  | signal
  | cancelled
  | inbound
  | runtime
deriving DecidableEq

/-- Where the host is: before a branch of its select, before its own cancel, waiting for the
components, or at its end. -/
inductive HostPhase (ε κ : Type) where
  | selecting (branch : HostBranch)
  | stopped (reason : StopReason ε κ)
  | joining (reason : StopReason ε κ)
  | returned (result : Except (HostError ε κ) Unit)
deriving DecidableEq

/-- The token, what the components have completed with, and whether the token was cancelled by
another party before either of them completed. -/
structure HostState (ε κ : Type) where
  phase : HostPhase ε κ
  cancelled : Bool
  inbound : Option (Except ε Unit)
  runtime : Option (TaskRuntimeExit κ)
  requested : Bool

inductive HostAction (ε κ : Type) where
  | cancel
  | complete (exit : TaskRuntimeExit κ)
  | pollSignal (ready : Option (Except ε Unit))
  | pollCancelled
  | pollInbound (ready : Option (Except ε Unit))
  | pollRuntime
  | stop
  | finish

namespace HostState

variable (s : HostState ε κ)

def goTo (phase : HostPhase ε κ) : HostState ε κ := { s with phase }

/-- The inbound adapter is polled until it has completed. -/
def pollInbound (ready : Option (Except ε Unit)) : Option (HostState ε κ) :=
  match s.inbound, s.phase, ready with
  | none, .selecting .inbound, none => some (s.goTo (.selecting .runtime))
  | none, .selecting .inbound, some result =>
    some { s with phase := .stopped (.inbound result), inbound := some result }
  | none, .joining reason, none => some (s.goTo (.joining reason))
  | none, .joining _, some result => some { s with inbound := some result }
  | _, _, _ => none

/-- An inbound adapter that was not cancelled does not complete without a failure. -/
def mayComplete : Option (Except ε Unit) → Bool
  | some (.ok ()) => s.cancelled
  | _ => true

end HostState

/-- The machine of a polled host. -/
def hostMachine (ε κ : Type) : Machine (HostState ε κ) (HostAction ε κ) where
  start := ⟨.selecting .signal, false, none, none, false⟩
  step s action :=
    match s.phase, action with
    | _, .cancel => some { s with
        cancelled := true
        requested := s.requested || (!s.cancelled && s.inbound.isNone && s.runtime.isNone) }
    | _, .complete exit =>
      match s.runtime with
      | none => some { s with runtime := some exit }
      | some _ => none
    | .selecting .signal, .pollSignal none => some (s.goTo (.selecting .cancelled))
    | .selecting .signal, .pollSignal (some result) => some (s.goTo (.stopped (.signal result)))
    | .selecting .cancelled, .pollCancelled =>
      some (s.goTo (if s.cancelled then .stopped .requested else .selecting .inbound))
    | _, .pollInbound ready => if s.mayComplete ready then s.pollInbound ready else none
    | .selecting .runtime, .pollRuntime =>
      match s.runtime with
      | none => some (s.goTo (.selecting .signal))
      | some exit => some (s.goTo (.stopped (.taskRuntime exit)))
    | .stopped reason, .stop => some { s with phase := .joining reason, cancelled := true }
    | .joining reason, .finish =>
      match s.inbound, s.runtime with
      | some inbound, some runtime => some (s.goTo (.returned (reason.result inbound runtime)))
      | _, _ => none
    | _, _ => none

/-- One step of the host, by the phase it is taken in. -/
inductive HostStep (s : HostState ε κ) :
    HostPhase ε κ → HostAction ε κ → HostState ε κ → Prop
  | cancel (phase : HostPhase ε κ) : HostStep s phase .cancel { s with
      phase
      cancelled := true
      requested := s.requested || (!s.cancelled && s.inbound.isNone && s.runtime.isNone) }
  | complete (phase : HostPhase ε κ) (exit : TaskRuntimeExit κ) : s.runtime = none →
      HostStep s phase (.complete exit) { s with phase, runtime := some exit }
  | noSignal : HostStep s (.selecting .signal) (.pollSignal none) (s.goTo (.selecting .cancelled))
  | signal (result : Except ε Unit) :
      HostStep s (.selecting .signal) (.pollSignal (some result)) (s.goTo (.stopped (.signal result)))
  | observe : s.cancelled = true →
      HostStep s (.selecting .cancelled) .pollCancelled (s.goTo (.stopped .requested))
  | pass : s.cancelled = false →
      HostStep s (.selecting .cancelled) .pollCancelled (s.goTo (.selecting .inbound))
  | inboundRuns : HostStep s (.selecting .inbound) (.pollInbound none) (s.goTo (.selecting .runtime))
  | inboundStops (result : Except ε Unit) : s.inbound = none → s.mayComplete (some result) = true →
      HostStep s (.selecting .inbound) (.pollInbound (some result))
        { s with phase := .stopped (.inbound result), inbound := some result }
  | inboundDrains (reason : StopReason ε κ) :
      HostStep s (.joining reason) (.pollInbound none) (s.goTo (.joining reason))
  | inboundEnds (reason : StopReason ε κ) (result : Except ε Unit) : s.inbound = none →
      HostStep s (.joining reason) (.pollInbound (some result))
        { s with phase := .joining reason, inbound := some result }
  | runtimeRuns : s.runtime = none →
      HostStep s (.selecting .runtime) .pollRuntime (s.goTo (.selecting .signal))
  | runtimeStops (exit : TaskRuntimeExit κ) : s.runtime = some exit →
      HostStep s (.selecting .runtime) .pollRuntime (s.goTo (.stopped (.taskRuntime exit)))
  | stop (reason : StopReason ε κ) :
      HostStep s (.stopped reason) .stop { s with phase := .joining reason, cancelled := true }
  | finish (reason : StopReason ε κ) (inbound : Except ε Unit) (runtime : TaskRuntimeExit κ) :
      s.inbound = some inbound → s.runtime = some runtime →
      HostStep s (.joining reason) .finish (s.goTo (.returned (reason.result inbound runtime)))

section Host

variable {s t : HostState ε κ} {action : HostAction ε κ}

theorem hostStep_of_pollInbound {ready : Option (Except ε Unit)}
    (may : s.mayComplete ready = true) (stepped : s.pollInbound ready = some t) :
    HostStep s s.phase (.pollInbound ready) t := by
  unfold HostState.pollInbound at stepped
  generalize s.phase = phase at stepped ⊢
  generalize running : s.inbound = inbound at stepped
  split at stepped
  · obtain rfl := Option.some.inj stepped
    exact .inboundRuns
  · obtain rfl := Option.some.inj stepped
    exact .inboundStops _ running may
  · obtain rfl := Option.some.inj stepped
    exact .inboundDrains _
  · obtain rfl := Option.some.inj stepped
    exact .inboundEnds _ _ running
  · cases stepped

/-- **Inversion** of a step of the host. -/
theorem hostMachine_step (stepped : (hostMachine ε κ).step s action = some t) :
    HostStep s s.phase action t := by
  have inbound : ∀ ready, s.mayComplete ready = true → s.pollInbound ready = some t →
      HostStep s s.phase (.pollInbound ready) t := fun _ => hostStep_of_pollInbound
  simp only [hostMachine] at stepped
  generalize s.phase = phase at stepped inbound ⊢
  split at stepped
  · obtain rfl := Option.some.inj stepped
    exact .cancel _
  · split at stepped
    · obtain rfl := Option.some.inj stepped
      exact .complete _ _ ‹_›
    · cases stepped
  · obtain rfl := Option.some.inj stepped
    exact .noSignal
  · obtain rfl := Option.some.inj stepped
    exact .signal _
  · obtain rfl := Option.some.inj stepped
    cases cancelled : s.cancelled with
    | true => exact .observe cancelled
    | false => exact .pass cancelled
  · split at stepped
    · exact inbound _ ‹_› stepped
    · cases stepped
  · split at stepped
    · obtain rfl := Option.some.inj stepped
      exact .runtimeRuns ‹_›
    · obtain rfl := Option.some.inj stepped
      exact .runtimeStops _ ‹_›
  · obtain rfl := Option.some.inj stepped
    exact .stop _
  · split at stepped
    · obtain rfl := Option.some.inj stepped
      exact .finish _ _ _ ‹_› ‹_›
    · cases stepped
  · cases stepped

/-! ### Both components complete -/

/-- What the host knows in a phase: it polls an inbound adapter that has not completed, the token is
cancelled before it waits, and both components have completed when it returns. -/
def Knows (s : HostState ε κ) : HostPhase ε κ → Prop
  | .selecting _ => s.inbound = none
  | .stopped _ => True
  | .joining _ => s.cancelled = true
  | .returned _ => s.cancelled = true ∧ s.inbound.isSome = true ∧ s.runtime.isSome = true

theorem knows_step (known : Knows s s.phase)
    (stepped : (hostMachine ε κ).step s action = some t) : Knows t t.phase := by
  have moved := hostMachine_step stepped
  generalize s.phase = phase at moved known
  cases moved with
  | cancel phase =>
    cases phase with
    | selecting branch => exact known
    | stopped reason => trivial
    | joining reason => rfl
    | returned result => exact ⟨rfl, known.2⟩
  | complete phase exit running =>
    cases phase with
    | selecting branch => exact known
    | stopped reason => trivial
    | joining reason => exact known
    | returned result => exact ⟨known.1, known.2.1, rfl⟩
  | noSignal => exact known
  | signal result => trivial
  | observe cancelled => trivial
  | pass open_ => exact known
  | inboundRuns => exact known
  | inboundStops result running may => trivial
  | inboundDrains reason => exact known
  | inboundEnds reason result running => exact known
  | runtimeRuns running => exact known
  | runtimeStops exit completed => trivial
  | stop reason => rfl
  | finish reason inbound runtime inboundEnded runtimeEnded =>
    exact ⟨known, Option.isSome_of_eq_some inboundEnded, Option.isSome_of_eq_some runtimeEnded⟩

theorem completed_reachable (reached : (hostMachine ε κ).Reachable s) : Knows s s.phase := by
  have start : Knows (hostMachine ε κ).start (hostMachine ε κ).start.phase := rfl
  refine Machine.Reachable.invariant (P := fun s => Knows s s.phase) start ?_ reached
  exact fun _ _ _ _ known stepped => knows_step known stepped

/-! ### The cause of the stop -/

/-- The signal does not complete in this step. -/
def Unsignalled : HostAction ε κ → Prop
  | .pollSignal (some _) => False
  | _ => True

/-- Once a shutdown was requested, the select does not find the inbound adapter completed, nor the
task runtime completed without a failure: its token's branch comes first. -/
def Observant (s : HostState ε κ) : HostAction ε κ → Prop
  | .pollInbound (some _) => s.requested = true → s.phase ≠ .selecting .inbound
  | .pollRuntime => s.requested = true → s.runtime ≠ some (.ok (.ok ()))
  | _ => True

instance [DecidableEq ε] [DecidableEq κ] (s : HostState ε κ) :
    ∀ action, Decidable (Observant s action)
  | .pollInbound (some _) =>
    inferInstanceAs (Decidable (s.requested = true → s.phase ≠ .selecting .inbound))
  | .pollRuntime =>
    inferInstanceAs (Decidable (s.requested = true → s.runtime ≠ some (.ok (.ok ()))))
  | .pollInbound none | .pollSignal _ | .pollCancelled | .stop | .finish | .cancel | .complete _ =>
    isTrue trivial

/-- The result of a requested shutdown: the failure of the task runtime, or else that of the inbound
adapter, or else none. -/
def Reflects (inbound : Except ε Unit) (runtime : TaskRuntimeExit κ)
    (result : Except (HostError ε κ) Unit) : Prop :=
  match runtime, inbound with
  | .error error, _ => result = .error (.taskRuntimeJoin error)
  | .ok (.error error), _ => result = .error (.taskRuntime error)
  | .ok (.ok ()), .error error => result = .error (.inbound error)
  | .ok (.ok ()), .ok () => result = .ok ()

theorem reflects_requested (inbound : Except ε Unit) (runtime : TaskRuntimeExit κ) :
    Reflects inbound runtime (StopReason.result .requested inbound runtime) := by
  rcases runtime with error | error | _ <;> rcases inbound with failure | _ <;> rfl

/-- A task runtime that failed gives the same result when it was the reason of the stop. -/
theorem reflects_taskRuntime (inbound : Except ε Unit) {runtime : TaskRuntimeExit κ}
    (failed : runtime ≠ .ok (.ok ())) :
    Reflects inbound runtime (StopReason.result (.taskRuntime runtime) inbound runtime) := by
  rcases runtime with error | error | _
  · rfl
  · rfl
  · exact absurd rfl failed

theorem Reflects.not_stopped {inbound : Except ε Unit} {runtime : TaskRuntimeExit κ}
    {result : Except (HostError ε κ) Unit} (reflects : Reflects inbound runtime result) :
    result ≠ .error .inboundStopped ∧ result ≠ .error .taskRuntimeStopped := by
  rcases runtime with error | error | _ <;> rcases inbound with failure | _ <;>
    obtain rfl := reflects <;> exact ⟨nofun, nofun⟩

/-- The reason of a stop is the request, if there was one, or a failure of the task runtime. -/
def Blames (s : HostState ε κ) : StopReason ε κ → Prop
  | .signal _ => False
  | .requested => True
  | .inbound _ => s.inbound.isSome = true ∧ s.requested = false
  | .taskRuntime exit => s.runtime = some exit ∧ (s.requested = true → exit ≠ .ok (.ok ()))

/-- What the reason, and then the result, says of a requested shutdown. -/
def Attributed (s : HostState ε κ) : HostPhase ε κ → Prop
  | .selecting _ => True
  | .stopped reason => Blames s reason
  | .joining reason => Blames s reason
  | .returned result => ∃ inbound runtime, s.inbound = some inbound ∧ s.runtime = some runtime ∧
      (s.requested = true → Reflects inbound runtime result)

/-- A request that comes after a component has completed is none, and what has completed stays. -/
structure Later (s t : HostState ε κ) : Prop where
  inbound : s.inbound.isSome = true → t.inbound = s.inbound
  runtime : s.runtime.isSome = true → t.runtime = s.runtime
  requested : s.inbound.isSome = true ∨ s.runtime.isSome = true → t.requested = s.requested

theorem Blames.later {reason : StopReason ε κ} (blames : Blames s reason) (later : Later s t) :
    Blames t reason := by
  cases reason with
  | signal result => exact blames
  | requested => trivial
  | inbound result =>
    obtain ⟨completed, without⟩ := blames
    refine ⟨?_, (later.requested (.inl completed)).trans without⟩
    rw [later.inbound completed]
    exact completed
  | taskRuntime exit =>
    obtain ⟨completed, failed⟩ := blames
    have some_ : s.runtime.isSome = true := Option.isSome_of_eq_some completed
    refine ⟨(later.runtime some_).trans completed, fun asked => failed ?_⟩
    rw [← later.requested (.inr some_)]
    exact asked

theorem Attributed.later {phase : HostPhase ε κ} (attributed : Attributed s phase)
    (later : Later s t) : Attributed t phase := by
  cases phase with
  | selecting branch => trivial
  | stopped reason => exact Blames.later attributed later
  | joining reason => exact Blames.later attributed later
  | returned result =>
    obtain ⟨inbound, runtime, inboundEnded, runtimeEnded, reflects⟩ := attributed
    have ended : s.inbound.isSome = true := Option.isSome_of_eq_some inboundEnded
    refine ⟨inbound, runtime, (later.inbound ended).trans inboundEnded,
      (later.runtime (Option.isSome_of_eq_some runtimeEnded)).trans runtimeEnded, fun asked => ?_⟩
    rw [later.requested (.inl ended)] at asked
    exact reflects asked

theorem later_cancel (phase : HostPhase ε κ) : Later s { s with
    phase
    cancelled := true
    requested := s.requested || (!s.cancelled && s.inbound.isNone && s.runtime.isNone) } where
  inbound _ := rfl
  runtime _ := rfl
  requested := by
    rintro (completed | completed)
    · simp [Option.isSome_iff_ne_none.mp completed]
    · simp [Option.isSome_iff_ne_none.mp completed]

theorem attributed_step (unsignalled : Unsignalled action) (observant : Observant s action)
    (attributed : Attributed s s.phase)
    (stepped : (hostMachine ε κ).step s action = some t) : Attributed t t.phase := by
  have moved := hostMachine_step stepped
  generalize at_ : s.phase = phase at moved attributed
  cases moved with
  | cancel phase => exact attributed.later (later_cancel phase)
  | complete phase exit running =>
    refine attributed.later ⟨fun _ => rfl, fun completed => ?_, fun _ => rfl⟩
    rw [running] at completed
    cases completed
  | noSignal => trivial
  | signal result => exact unsignalled.elim
  | observe cancelled => trivial
  | pass open_ => trivial
  | inboundRuns => trivial
  | inboundStops result running may =>
    refine ⟨rfl, ?_⟩
    cases asked : s.requested with
    | false => rfl
    | true => exact absurd at_ (observant asked)
  | inboundDrains reason => exact attributed.later ⟨fun _ => rfl, fun _ => rfl, fun _ => rfl⟩
  | inboundEnds reason result running =>
    refine attributed.later ⟨fun completed => ?_, fun _ => rfl, fun _ => rfl⟩
    rw [running] at completed
    cases completed
  | runtimeRuns running => trivial
  | runtimeStops exit completed =>
    refine ⟨completed, fun asked clean => observant asked ?_⟩
    rw [completed, clean]
  | stop reason => exact attributed.later ⟨fun _ => rfl, fun _ => rfl, fun _ => rfl⟩
  | finish reason inbound runtime inboundEnded runtimeEnded =>
    refine ⟨inbound, runtime, inboundEnded, runtimeEnded, fun asked => ?_⟩
    cases reason with
    | signal result => exact attributed.elim
    | requested => exact reflects_requested inbound runtime
    | inbound result => exact absurd (attributed.2.symm.trans asked) nofun
    | taskRuntime exit =>
      obtain ⟨completed, failed⟩ := attributed
      obtain rfl := Option.some.inj (completed.symm.trans runtimeEnded)
      exact reflects_taskRuntime inbound (failed asked)

/-- **The result reflects the cause.** The host returns after both components have completed and with
the token cancelled. When its signal did not complete, another party cancelled the token before
either component completed, and no step of the run misread that request, the result is that of the
components. -/
theorem result_reflects_cause {actions : List (HostAction ε κ)}
    {result : Except (HostError ε κ) Unit}
    (ran : (hostMachine ε κ).run (hostMachine ε κ).start actions = some s)
    (returned : s.phase = .returned result) :
    s.cancelled = true ∧ ∃ inbound runtime, s.inbound = some inbound ∧ s.runtime = some runtime ∧
      ((∀ action ∈ actions, Unsignalled action) →
        (hostMachine ε κ).EveryStep Observant (hostMachine ε κ).start actions →
        s.requested = true → Reflects inbound runtime result ∧
          result ≠ .error .inboundStopped ∧ result ≠ .error .taskRuntimeStopped) := by
  have known := completed_reachable (Machine.Reachable.start.run ran)
  rw [returned] at known
  obtain ⟨cancelled, inboundEnded, runtimeEnded⟩ := known
  obtain ⟨inbound, inboundEnded⟩ := Option.isSome_iff_exists.mp inboundEnded
  obtain ⟨runtime, runtimeEnded⟩ := Option.isSome_iff_exists.mp runtimeEnded
  refine ⟨cancelled, inbound, runtime, inboundEnded, runtimeEnded, ?_⟩
  intro unsignalled observant asked
  have attributed : Attributed s s.phase := by
    have start : Attributed (hostMachine ε κ).start (hostMachine ε κ).start.phase := trivial
    refine (observant.and_forall unsignalled).invariant (P := fun s => Attributed s s.phase)
      ?_ start ran
    rintro s action t ⟨observant, unsignalled⟩ attributed stepped
    exact attributed_step unsignalled observant attributed stepped
  rw [returned] at attributed
  obtain ⟨inbound', runtime', inboundEnded', runtimeEnded', reflects⟩ := attributed
  obtain rfl := Option.some.inj (inboundEnded.symm.trans inboundEnded')
  obtain rfl := Option.some.inj (runtimeEnded.symm.trans runtimeEnded')
  exact ⟨reflects asked, (reflects asked).not_stopped⟩

end Host

/-- A shutdown that another thread requests between the polls of the token and of the inbound
adapter: the adapter observes it in its own poll, and completes. -/
def misreadRun : List (HostAction Unit Unit) :=
  [.pollSignal none, .pollCancelled, .cancel, .pollInbound (some (.ok ())), .stop,
    .complete (.ok (.ok ())), .finish]

/-- **A requested stop misread.** No signal completes, the token is cancelled before either component
completes and both complete without a failure; the result is `InboundStopped`. -/
theorem requested_stop_misread :
    (hostMachine Unit Unit).run (hostMachine Unit Unit).start misreadRun =
        some ⟨.returned (.error .inboundStopped), true, some (.ok ()), some (.ok (.ok ())), true⟩ ∧
      (∀ action ∈ misreadRun, Unsignalled action) ∧
      ¬ Reflects (.ok ()) (.ok (.ok ())) (.error .inboundStopped : Except (HostError Unit Unit) Unit) :=
  ⟨rfl, by simp [misreadRun, Unsignalled], nofun⟩

/-- A shutdown requested between two evaluations of the select, with a task runtime that fails. -/
def requestedRun : List (HostAction Unit Unit) :=
  [.pollSignal none, .pollCancelled, .pollInbound none, .pollRuntime, .cancel, .pollSignal none,
    .pollCancelled, .stop, .pollInbound (some (.ok ())), .complete (.error ()), .finish]

theorem result_reflects_cause_requestedRun :
    let s := (hostMachine Unit Unit).after requestedRun rfl
    s.requested = true ∧ s.cancelled = true ∧ ∃ inbound runtime, s.inbound = some inbound ∧
      s.runtime = some runtime ∧
      Reflects inbound runtime (.error (.taskRuntimeJoin ()) : Except (HostError Unit Unit) Unit) := by
  intro s
  have ran : (hostMachine Unit Unit).run (hostMachine Unit Unit).start requestedRun = some s := rfl
  obtain ⟨cancelled, inbound, runtime, inboundEnded, runtimeEnded, reflects⟩ :=
    result_reflects_cause ran rfl
  refine ⟨rfl, cancelled, inbound, runtime, inboundEnded, runtimeEnded, (reflects ?_ ?_ rfl).1⟩
  · simp [requestedRun, Unsignalled]
  · decide +kernel

end AccountManagement.Host
