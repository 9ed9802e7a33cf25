/-
**Refinement of whole runs.**

A specification is a relation between states. A machine refines it under a view of its states when
every step, seen through the view, is a step of the specification or leaves the view as it was.

* `Reachable.refines`: then all the states that a list of actions passes through are, seen through
  the view, a run of the specification that may stand still.
* `run_follows`: a machine that can follow each step of another one, under a view, can follow its
  runs.
* `run_append`: a run can be cut at any place.
-/

import AccountManagement.Library.Machine
import Mathlib.Data.List.Chain
import Mathlib.Logic.Relation

namespace AccountManagement.Library.Machine

open Relation (ReflGen)

variable {σ α τ β : Type*} {m : Machine σ α}

theorem run_append (m : Machine σ α) (s : σ) (first second : List α) :
    m.run s (first ++ second) = (m.run s first).bind fun t => m.run t second := by
  induction first generalizing s with
  | nil => rfl
  | cons action rest ih =>
    show (m.step s action).bind (fun t => m.run t (rest ++ second)) = _
    cases stepped : m.step s action with
    | none => simp [run, stepped]
    | some t => simp [run, stepped, ih]

/-- The states a list of actions passes through, up to the first action that is not enabled. -/
def visited (m : Machine σ α) : σ → List α → List σ
  | s, [] => [s]
  | s, action :: rest =>
    match m.step s action with
    | none => [s]
    | some t => s :: m.visited t rest

theorem visited_cons {s t : σ} {action : α} (rest : List α) (stepped : m.step s action = some t) :
    m.visited s (action :: rest) = s :: m.visited t rest := by
  rw [visited, stepped]

theorem visited_stuck {s : σ} {action : α} (rest : List α) (stuck : m.step s action = none) :
    m.visited s (action :: rest) = [s] := by
  rw [visited, stuck]

theorem head_visited (s : σ) (actions : List α) : (m.visited s actions).head? = some s := by
  cases actions with
  | nil => rfl
  | cons action rest =>
    cases stepped : m.step s action with
    | none => rw [visited_stuck rest stepped, List.head?_cons]
    | some t => rw [visited_cons rest stepped, List.head?_cons]

/-- **Whole runs are refined.** If every step out of a reachable state is, seen through the view, a
step of the specification or none, then what a run passes through is a run of the specification. -/
theorem Reachable.refines {next : τ → τ → Prop} (view : σ → τ)
    (mirror : ∀ s action t, m.Reachable s → m.step s action = some t →
      ReflGen next (view s) (view t))
    {s : σ} (reached : m.Reachable s) (actions : List α) :
    ((m.visited s actions).map view).IsChain (ReflGen next) := by
  induction actions generalizing s with
  | nil => exact List.isChain_singleton _
  | cons action rest ih =>
    cases stepped : m.step s action with
    | none =>
      rw [visited_stuck rest stepped]
      exact List.isChain_singleton _
    | some t =>
      rw [visited_cons rest stepped, List.map_cons, List.isChain_cons]
      refine ⟨fun later found => ?_, ih (reached.step action stepped)⟩
      rw [List.head?_map, head_visited] at found
      obtain rfl := Option.some.inj found
      exact mirror s action t reached stepped

/-- **Whole runs are followed.** If each action carries one of the other machine and follows its
step, then a list of actions follows the run of the actions they carry. -/
theorem run_follows {n : Machine τ β} (view : σ → τ) {carries : α → β → Prop}
    (follow : ∀ s action other u, carries action other → n.step (view s) other = some u →
      ∃ t, m.step s action = some t ∧ view t = u)
    {actions : List α} {others : List β} (paired : List.Forall₂ carries actions others) {s : σ}
    {u : τ} (ran : n.run (view s) others = some u) :
    ∃ t, m.run s actions = some t ∧ view t = u := by
  induction paired generalizing s with
  | nil => exact ⟨s, rfl, Option.some.inj ran⟩
  | cons carried _ ih =>
    obtain ⟨middle, stepped, ran⟩ := run_cons ran
    obtain ⟨t, moved, rfl⟩ := follow _ _ _ _ carried stepped
    obtain ⟨last, reached, seen⟩ := ih ran
    refine ⟨last, ?_, seen⟩
    rw [run, moved]
    exact reached

end AccountManagement.Library.Machine
