/-
**Event-sourced aggregates.**

An aggregate decides on commands (`handle`) and folds its events into a state (`apply`); either may
panic. Over an arbitrary aggregate:

* `replay` is the fold of `apply` over a list of events from the initial state, and
  `replayFrom_append` splits it.
* `RepeatTolerant`: a second application of an event to the state after it changes nothing.
  `RepeatSafe` is weaker: the second application may panic, but never yields another state.
* `Serial`: a history in which every event is the one `handle` emits for its command on the state
  left by the events before it. `Serial.invariant` is its induction rule, and `Serial.emitted` reads
  this back at every position.
* `produce`: the events of a list of commands, each handled on the fold of the events before it.
  `produce_append` and `Serial.produced`: these are the events of the serial histories.
-/

import AccountManagement.Library.Results
import Mathlib.Data.List.Induction

namespace AccountManagement.Library

/-- An aggregate: its state, what it decides on a command, and what an event does to the state.
`apply` has no value where the code panics. -/
structure Aggregate where
  State : Type
  Command : Type
  Event : Type
  Error : Type
  initial : State
  handle : State → Command → Outcome Error (List Event)
  apply : State → Event → Option State

namespace Aggregate

variable (A : Aggregate)

/-- The fold of `apply` over a list of events. -/
def replayFrom : A.State → List A.Event → Option A.State
  | state, [] => some state
  | state, event :: rest => (A.apply state event).bind fun next => replayFrom next rest

/-- The fold of `apply` from the initial state. -/
def replay (events : List A.Event) : Option A.State := A.replayFrom A.initial events

variable {A}

@[simp] theorem replayFrom_nil (state : A.State) : A.replayFrom state [] = some state := rfl

@[simp] theorem replayFrom_singleton (state : A.State) (event : A.Event) :
    A.replayFrom state [event] = A.apply state event := by
  simp [replayFrom]

theorem replayFrom_append (state : A.State) (first second : List A.Event) :
    A.replayFrom state (first ++ second)
      = (A.replayFrom state first).bind fun middle => A.replayFrom middle second := by
  induction first generalizing state with
  | nil => rfl
  | cons event rest ih =>
    show (A.apply state event).bind (fun next => A.replayFrom next (rest ++ second)) = _
    cases applied : A.apply state event with
    | none => simp [replayFrom, applied]
    | some next => simp [replayFrom, applied, ih]

/-- A fold that succeeds on a longer list succeeds on a prefix, and the rest continues it. -/
theorem replayFrom_append_some {state final : A.State} {first second : List A.Event}
    (replayed : A.replayFrom state (first ++ second) = some final) :
    ∃ middle, A.replayFrom state first = some middle ∧
      A.replayFrom middle second = some final := by
  rw [replayFrom_append] at replayed
  exact Option.bind_eq_some_iff.mp replayed

theorem replay_snoc {state next : A.State} {events : List A.Event} {event : A.Event}
    (replayed : A.replay events = some state) (applied : A.apply state event = some next) :
    A.replay (events ++ [event]) = some next := by
  unfold replay at replayed ⊢
  rw [replayFrom_append, replayed]
  simpa using applied

/-- The state after `count` events, and the fold of the remaining ones from there. -/
theorem replay_split {events : List A.Event} {final : A.State}
    (replayed : A.replay events = some final) (count : Nat) :
    ∃ state, A.replay (events.take count) = some state ∧
      A.replayFrom state (events.drop count) = some final := by
  apply replayFrom_append_some
  rw [List.take_append_drop]
  exact replayed

variable (A) in
/-- A second application of an event to the state after it changes nothing. -/
def RepeatTolerant : Prop :=
  ∀ (state : A.State) (event : A.Event) (next : A.State),
    A.apply state event = some next → A.apply next event = some next

variable (A) in
/-- A second application of an event to the state after it panics or changes nothing. -/
def RepeatSafe : Prop :=
  ∀ (state : A.State) (event : A.Event) (next again : A.State),
    A.apply state event = some next → A.apply next event = some again → again = next

theorem RepeatTolerant.repeatSafe (tolerant : A.RepeatTolerant) : A.RepeatSafe := by
  intro state event next again applied repeated
  rw [tolerant state event next applied] at repeated
  exact (Option.some.inj repeated).symm

variable (A) in
/-- An accepted command emits at least one event. -/
def NeverSilent : Prop := ∀ state command, A.handle state command ≠ .ok []

/-! ### Serial histories -/

variable (A) in
/-- **A serial history** and the state it leaves: every event is what `handle` emits for its
command on the state before it. -/
inductive Serial : List (A.Command × A.Event) → A.State → Prop
  | nil : Serial [] A.initial
  | snoc {history : List (A.Command × A.Event)} {state next : A.State} {command : A.Command}
      {event : A.Event} : Serial history state → A.handle state command = .ok [event] →
      A.apply state event = some next → Serial (history ++ [(command, event)]) next

namespace Serial

/-- **Invariants of serial histories**: what holds of the empty history and is kept by every emitted
event. -/
theorem invariant {P : List (A.Command × A.Event) → A.State → Prop} (base : P [] A.initial)
    (keep : ∀ history state next command event, P history state →
      A.handle state command = .ok [event] → A.apply state event = some next →
      P (history ++ [(command, event)]) next)
    {history : List (A.Command × A.Event)} {state : A.State} (serial : A.Serial history state) :
    P history state := by
  induction serial with
  | nil => exact base
  | snoc _ handled applied ih => exact keep _ _ _ _ _ ih handled applied

/-- The state of a serial history is the fold of its events. -/
theorem replay {history : List (A.Command × A.Event)} {state : A.State}
    (serial : A.Serial history state) : A.replay (history.map Prod.snd) = some state := by
  induction serial with
  | nil => rfl
  | snoc _ _ applied ih =>
    rw [List.map_append]
    exact replay_snoc ih applied

/-- Every prefix of a serial history is serial. -/
theorem take {history : List (A.Command × A.Event)} {state : A.State}
    (serial : A.Serial history state) (count : Nat) :
    ∃ before, A.Serial (history.take count) before := by
  induction serial with
  | nil =>
    rw [List.take_nil]
    exact ⟨_, .nil⟩
  | @snoc history state next command event earlier emitted applied ih =>
    by_cases short : count ≤ history.length
    · rw [List.take_append_of_le_length short]
      exact ih
    · rw [List.take_of_length_le (by simp; omega)]
      exact ⟨_, .snoc earlier emitted applied⟩

/-- **Every event of a serial history** is what `handle` emits for its command on the state that
the events before it leave. -/
theorem emitted {history : List (A.Command × A.Event)} {final : A.State}
    (serial : A.Serial history final) (position : Nat) (inside : position < history.length) :
    ∃ state, A.Serial (history.take position) state ∧
      A.handle state history[position].1 = .ok [history[position].2] := by
  induction serial with
  | nil => simp at inside
  | @snoc history state next command event earlier emitted applied ih =>
    by_cases last : position = history.length
    · subst last
      refine ⟨state, ?_, ?_⟩
      · rw [List.take_left]
        exact earlier
      · simpa using emitted
    · have before : position < history.length := by
        simp only [List.length_append, List.length_singleton] at inside
        omega
      rw [List.take_append_of_le_length (Nat.le_of_lt before), List.getElem_append_left before]
      exact ih before

/-- A prefix of a serial history leads to the fold of its events. -/
theorem append_left {first second : List (A.Command × A.Event)} {final : A.State}
    (serial : A.Serial (first ++ second) final) :
    ∃ state, A.Serial first state ∧ A.replay (first.map Prod.snd) = some state := by
  obtain ⟨state, before⟩ := serial.take first.length
  rw [List.take_left] at before
  exact ⟨state, before, before.replay⟩

/-- The decision behind an event, on the fold of the events before it. -/
theorem decided {history : List (A.Command × A.Event)} {final : A.State}
    (serial : A.Serial history final) {before after : List A.Event} {event : A.Event}
    (split : history.map Prod.snd = before ++ event :: after) :
    ∃ command state, A.replay before = some state ∧ A.handle state command = .ok [event] := by
  obtain ⟨first, second, rfl, rfl, rest⟩ := List.map_eq_append_iff.mp split
  obtain ⟨⟨command, emitted⟩, third, rfl, rfl, rfl⟩ := List.map_eq_cons_iff.mp rest
  obtain ⟨state, earlier, handled⟩ := serial.emitted first.length (by simp)
  rw [List.take_left] at earlier
  rw [List.getElem_append_right (Nat.le_refl _)] at handled
  simp only [Nat.sub_self, List.getElem_cons_zero] at handled
  exact ⟨command, state, earlier.replay, handled⟩

end Serial

/-! ### Command histories -/

variable (A) in
/-- One command, handled on the fold of the events so far: an accepted command adds its events, a
rejected one adds nothing, and there is no value where the code panics. -/
def execute (events : List A.Event) (command : A.Command) : Option (List A.Event) :=
  (A.replay events).bind fun state =>
    match A.handle state command with
    | .error _ => some events
    | .panicked => none
    | .ok more => some (events ++ more)

variable (A) in
/-- The events that a list of commands produces from the initial state. -/
def produce (commands : List A.Command) : Option (List A.Event) := commands.foldlM A.execute []

theorem produce_snoc (commands : List A.Command) (command : A.Command) :
    A.produce (commands ++ [command])
      = (A.produce commands).bind fun events => A.execute events command := by
  unfold produce
  rw [List.foldlM_append]
  simp [Option.bind_eq_bind]

variable (A) in
/-- Deciding never panics, and an accepted command emits one event, which applies. -/
structure Single : Prop where
  calm : ∀ state command, A.handle state command ≠ .panicked
  one : ∀ state command events, A.handle state command = .ok events →
    ∃ event next, events = [event] ∧ A.apply state event = some next

/-- **Every list of commands produces a serial history** of the accepted ones, and the events of a
longer list continue it. -/
theorem produce_append (single : A.Single) {commands : List A.Command}
    {history : List (A.Command × A.Event)} {state : A.State} (serial : A.Serial history state)
    (produced : A.produce commands = some (history.map Prod.snd)) (more : List A.Command) :
    ∃ rest final, A.Serial (history ++ rest) final ∧
      A.produce (commands ++ more) = some ((history ++ rest).map Prod.snd) ∧
      (rest.map Prod.fst).Sublist more := by
  induction more using List.reverseRecOn with
  | nil => exact ⟨[], state, by rwa [List.append_nil], by rwa [List.append_nil, List.append_nil],
      List.Sublist.refl _⟩
  | append_singleton more command ih =>
    obtain ⟨rest, middle, longer, known, accepted⟩ := ih
    have executed : A.produce (commands ++ (more ++ [command]))
        = A.execute ((history ++ rest).map Prod.snd) command := by
      rw [← List.append_assoc, produce_snoc, known, Option.bind_some]
    rw [executed, execute, longer.replay, Option.bind_some]
    cases handled : A.handle middle command with
    | error _ => exact ⟨rest, middle, longer, rfl, accepted.trans (List.sublist_append_left _ _)⟩
    | panicked => exact absurd handled (single.calm middle command)
    | ok events =>
      obtain ⟨event, next, rfl, applied⟩ := single.one middle command events handled
      refine ⟨rest ++ [(command, event)], next, ?_, ?_, ?_⟩
      · rw [← List.append_assoc]
        exact longer.snoc handled applied
      · have all : (history ++ rest ++ [(command, event)]).map Prod.snd
            = (history ++ rest).map Prod.snd ++ [event] := List.map_append
        rw [← List.append_assoc, all]
      · rw [List.map_append]
        exact accepted.append (List.Sublist.refl _)

theorem produce_serial (single : A.Single) (commands : List A.Command) :
    ∃ history state, A.Serial history state ∧
      A.produce commands = some (history.map Prod.snd) ∧
      (history.map Prod.fst).Sublist commands := by
  have none : A.produce [] = some (([] : List (A.Command × A.Event)).map Prod.snd) := rfl
  obtain ⟨history, state, serial, produced, accepted⟩ := produce_append single .nil none commands
  exact ⟨history, state, serial, produced, accepted⟩

/-- A serial history is produced by its own commands. -/
theorem Serial.produced {history : List (A.Command × A.Event)} {state : A.State}
    (serial : A.Serial history state) :
    A.produce (history.map Prod.fst) = some (history.map Prod.snd) := by
  induction serial with
  | nil => rfl
  | @snoc history state next command event earlier handled applied ih =>
    rw [List.map_append, List.map_singleton, produce_snoc, ih, Option.bind_some, execute,
      earlier.replay, Option.bind_some, handled, List.map_append]
    rfl

end Aggregate

end AccountManagement.Library
