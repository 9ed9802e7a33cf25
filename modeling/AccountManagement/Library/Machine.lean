/-
**Machines: a start state and a partial step for every action.**

A concurrent system is read as one machine whose actions name the party that moves and what it
does; an interleaving is a list of actions.

* `Machine.Reachable` and `Reachable.invariant`: what holds at the start and is kept by every
  enabled step holds of every reachable state; `Reachable.run_invariant` for the end of one run.
* `Reachable.simulate`: a view of the states under which every step of one machine is a step of
  another, or no step at all, maps reachable states to reachable states.
* `EveryStep` and `EveryState`: conditions on all the steps, and on all the states, of one run;
  `run_every` shows a condition on all the actions of a run.
-/

import Mathlib.Tactic.TypeStar

namespace AccountManagement.Library

/-- A machine: where it starts, and what each action does. An action that is not enabled in a
state has no successor there. -/
structure Machine (σ α : Type*) where
  start : σ
  step : σ → α → Option σ

namespace Machine

variable {σ α τ β : Type*} {m : Machine σ α}

/-- The states some list of enabled actions leads to. -/
inductive Reachable (m : Machine σ α) : σ → Prop
  | start : Reachable m m.start
  | step {s t : σ} (action : α) : Reachable m s → m.step s action = some t → Reachable m t

/-- The state after a list of actions, when each of them is enabled in its turn. -/
def run (m : Machine σ α) : σ → List α → Option σ
  | s, [] => some s
  | s, action :: rest => (m.step s action).bind fun t => m.run t rest

theorem run_cons {s t : σ} {action : α} {rest : List α}
    (ran : m.run s (action :: rest) = some t) :
    ∃ middle, m.step s action = some middle ∧ m.run middle rest = some t :=
  Option.bind_eq_some_iff.mp ran

theorem Reachable.run {s t : σ} {actions : List α} (reached : m.Reachable s)
    (ran : m.run s actions = some t) : m.Reachable t := by
  induction actions generalizing s with
  | nil =>
    obtain rfl : s = t := Option.some.inj ran
    exact reached
  | cons action rest ih =>
    obtain ⟨middle, stepped, ran⟩ := run_cons ran
    exact ih (reached.step action stepped) ran

/-- The state after a list of actions that are all enabled. -/
def after (m : Machine σ α) (actions : List α) (enabled : (m.run m.start actions).isSome = true) :
    σ :=
  (m.run m.start actions).get enabled

theorem run_after (actions : List α) (enabled : (m.run m.start actions).isSome = true) :
    m.run m.start actions = some (m.after actions enabled) :=
  (Option.some_get enabled).symm

theorem reachable_after (actions : List α) (enabled : (m.run m.start actions).isSome = true) :
    m.Reachable (m.after actions enabled) :=
  Reachable.start.run (run_after actions enabled)

/-- **Invariants.** A property of the start state that every step out of a reachable state keeps
holds of every reachable state. -/
theorem Reachable.invariant {P : σ → Prop} (base : P m.start)
    (keep : ∀ s action t, m.Reachable s → P s → m.step s action = some t → P t)
    {s : σ} (reached : m.Reachable s) : P s := by
  induction reached with
  | start => exact base
  | step action before stepped ih => exact keep _ action _ before ih stepped

/-- **Invariants of a run.** What every step out of a reachable state keeps holds at the end of a run
from a reachable state if it holds at its start. -/
theorem Reachable.run_invariant {P : σ → Prop}
    (keep : ∀ s action t, m.Reachable s → P s → m.step s action = some t → P t) {s t : σ}
    {actions : List α} (reached : m.Reachable s) (start : P s)
    (ran : m.run s actions = some t) : P t := by
  induction actions generalizing s with
  | nil =>
    obtain rfl : s = t := Option.some.inj ran
    exact start
  | cons action rest ih =>
    obtain ⟨middle, stepped, ran⟩ := run_cons ran
    exact ih (reached.step action stepped) (keep s action middle reached start stepped) ran

/-- **Simulation.** If a view turns every step into a step of another machine, or leaves the view
unchanged, then reachable states are viewed as reachable states. -/
theorem Reachable.simulate {n : Machine τ β} (view : σ → τ) (base : view m.start = n.start)
    (mirror : ∀ s action t, m.Reachable s → m.step s action = some t →
      view t = view s ∨ ∃ other, n.step (view s) other = some (view t))
    {s : σ} (reached : m.Reachable s) : n.Reachable (view s) := by
  induction reached with
  | start =>
    rw [base]
    exact .start
  | step action before stepped ih =>
    rcases mirror _ action _ before stepped with same | ⟨other, moved⟩
    · rw [same]
      exact ih
    · exact ih.step other moved

/-- Every step of a run meets `ok`, a condition on the state before the step and the action. -/
def EveryStep (m : Machine σ α) (ok : σ → α → Prop) : σ → List α → Prop
  | _, [] => True
  | s, action :: rest => ok s action ∧ ∀ t, m.step s action = some t → m.EveryStep ok t rest

/-- A condition that can be checked can be checked at every step of a run. -/
instance EveryStep.decidable (ok : σ → α → Prop) [∀ s action, Decidable (ok s action)] :
    ∀ s actions, Decidable (m.EveryStep ok s actions)
  | _, [] => isTrue trivial
  | s, action :: rest =>
    match stepped : m.step s action with
    | none => decidable_of_iff (ok s action)
        ⟨fun met => ⟨met, fun _ moved => absurd (stepped.symm.trans moved) nofun⟩, And.left⟩
    | some middle =>
      have : Decidable (m.EveryStep ok middle rest) := EveryStep.decidable ok middle rest
      decidable_of_iff (ok s action ∧ m.EveryStep ok middle rest)
        ⟨fun met => ⟨met.1, fun t moved => by
            obtain rfl := Option.some.inj (stepped.symm.trans moved)
            exact met.2⟩,
          fun every => ⟨every.1, every.2 middle stepped⟩⟩

theorem EveryStep.mono {ok fine : σ → α → Prop} (weaken : ∀ s action, ok s action → fine s action)
    {s : σ} {actions : List α} (every : m.EveryStep ok s actions) : m.EveryStep fine s actions := by
  induction actions generalizing s with
  | nil => trivial
  | cons action rest ih =>
    exact ⟨weaken s action every.1, fun t stepped => ih (every.2 t stepped)⟩

theorem everyStep_of_forall {Q : α → Prop} {s : σ} {actions : List α}
    (all : ∀ action ∈ actions, Q action) : m.EveryStep (fun _ action => Q action) s actions := by
  induction actions generalizing s with
  | nil => trivial
  | cons action rest ih =>
    obtain ⟨first, all⟩ := List.forall_mem_cons.mp all
    exact ⟨first, fun t _ => ih all⟩

theorem EveryStep.and_forall {ok : σ → α → Prop} {Q : α → Prop} {s : σ} {actions : List α}
    (every : m.EveryStep ok s actions) (all : ∀ action ∈ actions, Q action) :
    m.EveryStep (fun s action => ok s action ∧ Q action) s actions := by
  induction actions generalizing s with
  | nil => trivial
  | cons action rest ih =>
    obtain ⟨first, all⟩ := List.forall_mem_cons.mp all
    exact ⟨⟨every.1, first⟩, fun t stepped => ih (every.2 t stepped) all⟩

/-- **Invariants of careful runs.** What every step that meets `ok` keeps holds at the end of a run
whose steps all meet it. -/
theorem EveryStep.invariant {P : σ → Prop} {ok : σ → α → Prop}
    (keep : ∀ s action t, ok s action → P s → m.step s action = some t → P t) {s t : σ}
    {actions : List α} (every : m.EveryStep ok s actions) (start : P s)
    (ran : m.run s actions = some t) : P t := by
  induction actions generalizing s with
  | nil =>
    obtain rfl : s = t := Option.some.inj ran
    exact start
  | cons action rest ih =>
    obtain ⟨middle, stepped, ran⟩ := run_cons ran
    exact ih (every.2 middle stepped) (keep s action middle every.1 start stepped) ran

/-- Every state of a run, its first and its last included, has `P`. -/
def EveryState (m : Machine σ α) (P : σ → Prop) : σ → List α → Prop
  | s, [] => P s
  | s, action :: rest => P s ∧ ∀ t, m.step s action = some t → m.EveryState P t rest

theorem EveryState.head {P : σ → Prop} {s : σ} {actions : List α}
    (every : m.EveryState P s actions) : P s := by
  cases actions with
  | nil => exact every
  | cons action rest => exact every.1

/-- **Exact runs.** When, between states that have `known`, a step keeps `P` exactly if it meets
`ok`, a run from a state with `P` has `P` throughout exactly if all its steps meet `ok`. -/
theorem everyState_iff_everyStep (known : σ → Prop) {P : σ → Prop} {ok : σ → α → Prop}
    (keepKnown : ∀ s action t, known s → m.step s action = some t → known t)
    (exact_step : ∀ s action t, known s → P s → m.step s action = some t → (P t ↔ ok s action))
    {s final : σ} {actions : List α} (knownStart : known s) (start : P s)
    (ran : m.run s actions = some final) :
    m.EveryState P s actions ↔ m.EveryStep ok s actions := by
  induction actions generalizing s with
  | nil => exact ⟨fun _ => trivial, fun _ => start⟩
  | cons action rest ih =>
    obtain ⟨middle, stepped, ran⟩ := run_cons ran
    have one := exact_step s action middle knownStart start stepped
    have more := fun kept : P middle => ih (keepKnown s action middle knownStart stepped) kept ran
    constructor
    · rintro ⟨_, after⟩
      have kept : P middle := (after middle stepped).head
      refine ⟨one.mp kept, fun t same => ?_⟩
      obtain rfl : middle = t := Option.some.inj (stepped.symm.trans same)
      exact (more kept).mp (after middle stepped)
    · rintro ⟨met, after⟩
      have kept : P middle := one.mpr met
      refine ⟨start, fun t same => ?_⟩
      obtain rfl : middle = t := Option.some.inj (stepped.symm.trans same)
      exact (more kept).mpr (after middle stepped)

end Machine

end AccountManagement.Library
