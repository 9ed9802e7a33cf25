/-
**The registry of the workers.**

`WorkerPool` keeps its workers in a join set and remembers in `worker_indices` which index the task
with a Tokio id has. The machine here is that bookkeeping with the loop of `run_prepared` around it.
A task ends at any time and in any way, and Tokio gives a new task any id that no task of the join
set has. A call of `next_exit` that the select drops has not joined a task.

* `enrolled_reachable`: what the join set and the map have in common in every phase;
* `identities_kept`: until the drain the keys of the map are the ids of the join set and the indices
  are distinct; in the loop they are those below the concurrency, the `expect` of `next_exit` is not
  reached, and a restart has the index of the worker that was seen to exit;
* `followed_reachable`: the pool keeps its books as this machine does.
-/

import AccountManagement.Runtime.Admission

namespace AccountManagement.Runtime

open AccountManagement.Library AccountManagement.Task

/-! ### The machine -/

inductive TaskExit where
  | returned
  | panicked
  | cancelled
deriving DecidableEq

/-- A task of the join set: its Tokio id, the index its worker was given, and how it has ended. -/
structure RosterTask where
  id : Nat
  index : Nat
  exit : Option TaskExit
deriving DecidableEq

structure WorkerExit where
  index : Nat
  tokioTaskId : Nat
  panicked : Bool
  cancelled : Bool
deriving DecidableEq

/-- Where `run_prepared` is: at the first workers, in its loop, after an exit with the task that has
left the join set, in its drain, or at the failed `expect`. -/
inductive RosterPhase where
  | spawning (next : Nat)
  | looping
  | restarting (exited : RosterTask) (exit : WorkerExit)
  | draining
  | panicked
deriving DecidableEq

/-- The pool's books; `restarts` records the task that had left and the index of its successor. -/
structure Roster where
  workers : List RosterTask
  workerIndices : List (Nat × Nat)
  phase : RosterPhase
  restarts : List (RosterTask × Nat)
deriving DecidableEq

inductive RosterAction where
  | exit (id : Nat) (how : TaskExit)
  | spawn (id : Nat)
  | nextExit (id : Nat)
  | dropExit
  | leave
  | join (id : Nat)

namespace Roster

variable (s : Roster)

def task (id : Nat) : Option RosterTask := s.workers.find? fun task => task.id = id

def endTask (id : Nat) (how : TaskExit) : Roster :=
  { s with workers := s.workers.map fun task =>
      if task.id = id then { task with exit := some how } else task }

def removeTask (id : Nat) : Roster :=
  { s with workers := s.workers.filter fun task => task.id ≠ id }

/-- A new task, and the insertion of its index under its id. -/
def insertTask (id index : Nat) : Roster :=
  { s with
    workers := s.workers ++ [⟨id, index, none⟩]
    workerIndices := (s.workerIndices.filter fun entry => entry.1 ≠ id) ++ [(id, index)] }

/-- Tokio gives a task an id that no other task of the join set has. -/
def isFresh (id : Nat) : Bool := id ∉ s.workers.map RosterTask.id

/-- The join of an ended task, and the removal of its index from the map. -/
def nextExit (id : Nat) : Option Roster := do
  let exited ← s.task id
  let how ← exited.exit
  match s.workerIndices.find? fun entry => entry.1 = id with
  | none => return { s.removeTask id with phase := .panicked }
  | some (_, index) => return { s.removeTask id with
      workerIndices := s.workerIndices.filter fun entry => entry.1 ≠ id
      phase := .restarting exited ⟨index, id, how = .panicked, how = .cancelled⟩ }

end Roster

/-- The next of the first workers, or the loop after the last of them. -/
def spawnedFrom (concurrency next : Nat) : RosterPhase :=
  if next < concurrency then .spawning next else .looping

def rosterMachine (concurrency : Nat) : Machine Roster RosterAction where
  start := ⟨[], [], spawnedFrom concurrency 0, []⟩
  step s action :=
    match s.phase, action with
    | _, .exit id how =>
      match s.task id with
      | some ⟨_, _, none⟩ => some (s.endTask id how)
      | _ => none
    | .spawning next, .spawn id =>
      if s.isFresh id then
        some { s.insertTask id next with phase := spawnedFrom concurrency (next + 1) }
      else none
    | .restarting exited exit, .spawn id =>
      if s.isFresh id then
        some { s.insertTask id exit.index with
          phase := .looping
          restarts := s.restarts ++ [(exited, exit.index)] }
      else none
    | .looping, .nextExit id => s.nextExit id
    | .looping, .dropExit => some { s with phase := .looping }
    | .spawning 0, .leave => some { s with phase := .draining }
    | .looping, .leave => some { s with phase := .draining }
    | .restarting _ _, .leave => some { s with phase := .draining }
    | .draining, .join id =>
      match s.task id with
      | some ⟨_, _, some _⟩ => some { s.removeTask id with phase := .draining }
      | _ => none
    | _, _ => none

/-! ### What a step can do -/

/-- One step of the machine, by the phase it is taken in. -/
inductive RosterStep (concurrency : Nat) (s : Roster) :
    RosterPhase → RosterAction → Roster → Prop
  | exit (phase : RosterPhase) {id : Nat} {task : RosterTask} (how : TaskExit) :
      s.task id = some task → task.exit = none →
      RosterStep concurrency s phase (.exit id how) { s.endTask id how with phase }
  | spawnFirst {next id : Nat} : s.isFresh id = true →
      RosterStep concurrency s (.spawning next) (.spawn id)
        { s.insertTask id next with phase := spawnedFrom concurrency (next + 1) }
  | respawn {exited : RosterTask} {exit : WorkerExit} {id : Nat} : s.isFresh id = true →
      RosterStep concurrency s (.restarting exited exit) (.spawn id)
        { s.insertTask id exit.index with
          phase := .looping
          restarts := s.restarts ++ [(exited, exit.index)] }
  | nextExit {id index : Nat} {exited : RosterTask} {how : TaskExit} : s.task id = some exited →
      exited.exit = some how →
      (s.workerIndices.find? fun entry => entry.1 = id) = some (id, index) →
      RosterStep concurrency s .looping (.nextExit id) { s.removeTask id with
        workerIndices := s.workerIndices.filter fun entry => entry.1 ≠ id
        phase := .restarting exited ⟨index, id, how = .panicked, how = .cancelled⟩ }
  | unregistered {id : Nat} {exited : RosterTask} : s.task id = some exited →
      (s.workerIndices.find? fun entry => entry.1 = id) = none →
      RosterStep concurrency s .looping (.nextExit id) { s.removeTask id with phase := .panicked }
  | dropExit : RosterStep concurrency s .looping .dropExit { s with phase := .looping }
  | leave (phase : RosterPhase) :
      RosterStep concurrency s phase .leave { s with phase := .draining }
  | join {id : Nat} {task : RosterTask} : s.task id = some task → task.exit.isSome = true →
      RosterStep concurrency s .draining (.join id) { s.removeTask id with phase := .draining }

section Steps

variable {concurrency : Nat} {s t : Roster} {action : RosterAction}

theorem rosterStep_of_nextExit {id : Nat} (stepped : s.nextExit id = some t) :
    RosterStep concurrency s .looping (.nextExit id) t := by
  obtain ⟨exited, found, stepped⟩ := Option.bind_eq_some_iff.mp stepped
  obtain ⟨how, ended, stepped⟩ := Option.bind_eq_some_iff.mp stepped
  cases registered : s.workerIndices.find? fun entry => entry.1 = id with
  | none =>
    rw [registered] at stepped
    obtain rfl := Option.some.inj stepped
    exact .unregistered found registered
  | some entry =>
    obtain ⟨key, index⟩ := entry
    rw [registered] at stepped
    obtain rfl := Option.some.inj stepped
    obtain rfl : key = id := by simpa using List.find?_some registered
    exact .nextExit found ended registered

/-- **Inversion** of a step of the registry. -/
theorem rosterMachine_step (stepped : (rosterMachine concurrency).step s action = some t) :
    RosterStep concurrency s s.phase action t := by
  simp only [rosterMachine] at stepped
  generalize at_ : s.phase = phase at stepped ⊢
  split at stepped
  · split at stepped
    · obtain rfl := Option.some.inj stepped
      subst at_
      exact .exit _ _ ‹_› rfl
    · cases stepped
  · split at stepped
    · obtain rfl := Option.some.inj stepped
      exact .spawnFirst ‹_›
    · cases stepped
  · split at stepped
    · obtain rfl := Option.some.inj stepped
      exact .respawn ‹_›
    · cases stepped
  · exact rosterStep_of_nextExit stepped
  · obtain rfl := Option.some.inj stepped
    exact .dropExit
  · obtain rfl := Option.some.inj stepped
    exact .leave _
  · obtain rfl := Option.some.inj stepped
    exact .leave _
  · obtain rfl := Option.some.inj stepped
    exact .leave _
  · split at stepped
    · obtain rfl := Option.some.inj stepped
      exact .join ‹_› rfl
    · cases stepped
  · cases stepped

/-! ### The books -/

/-- The indices that are in use, by the phase: those of the workers, and one that waits for a new
worker. -/
def Placed (concurrency : Nat) (inUse : List Nat) : RosterPhase → Prop
  | .spawning next => next < concurrency ∧ inUse.Perm (List.range next)
  | .looping => inUse.Perm (List.range concurrency)
  | .restarting exited exit =>
    exit.index = exited.index ∧ (exit.index :: inUse).Perm (List.range concurrency)
  | .draining => True
  | .panicked => False

/-- The join set and the map agree until the drain, and restarts have kept the indices. -/
structure Enrolled (concurrency : Nat) (s : Roster) (phase : RosterPhase) : Prop where
  distinct : (s.workers.map RosterTask.id).Nodup
  registered : phase ≠ .draining →
    s.workerIndices = s.workers.map fun task => (task.id, task.index)
  placed : Placed concurrency (s.workers.map RosterTask.index) phase
  restarts : ∀ restart ∈ s.restarts, restart.2 = restart.1.index

theorem placed_spawnedFrom {next : Nat} {inUse : List Nat} (within : next ≤ concurrency)
    (placed : inUse.Perm (List.range next)) :
    Placed concurrency inUse (spawnedFrom concurrency next) := by
  unfold spawnedFrom
  split
  · exact ⟨‹_›, placed⟩
  · obtain rfl : next = concurrency := by omega
    exact placed

theorem Placed.nodup {inUse : List Nat} {phase : RosterPhase}
    (placed : Placed concurrency inUse phase) (live : phase ≠ .draining) : inUse.Nodup := by
  cases phase with
  | spawning next => exact placed.2.nodup_iff.mpr List.nodup_range
  | looping => exact placed.nodup_iff.mpr List.nodup_range
  | restarting exited exit => exact (placed.2.nodup_iff.mpr List.nodup_range).of_cons
  | draining => exact absurd rfl live
  | panicked => exact placed.elim

namespace Enrolled

variable {phase next : RosterPhase} {id : Nat} {task : RosterTask}

theorem start (concurrency : Nat) : Enrolled concurrency (rosterMachine concurrency).start
    (rosterMachine concurrency).start.phase where
  distinct := List.nodup_nil
  registered _ := rfl
  placed := placed_spawnedFrom (Nat.zero_le _) (.refl _)
  restarts := nofun

/-- The books do not say whether a task has ended. -/
theorem endTask (enrolled : Enrolled concurrency s phase) (how : TaskExit) :
    Enrolled concurrency { s.endTask id how with phase } phase := by
  have same : ∀ {β : Type} (value : RosterTask → β),
      (∀ task exit, value { task with exit } = value task) →
      (s.endTask id how).workers.map value = s.workers.map value := by
    intro β value away
    rw [Roster.endTask, List.map_map]
    refine List.map_congr_left fun task _ => ?_
    rw [Function.comp_apply]
    split
    · exact away task _
    · rfl
  refine ⟨?_, fun live => ?_, ?_, enrolled.restarts⟩
  · rw [same RosterTask.id fun _ _ => rfl]
    exact enrolled.distinct
  · rw [same (fun task => (task.id, task.index)) fun _ _ => rfl]
    exact enrolled.registered live
  · rw [same RosterTask.index fun _ _ => rfl]
    exact enrolled.placed

/-- A new worker under a fresh id. -/
theorem insertTask (enrolled : Enrolled concurrency s phase) (live : phase ≠ .draining)
    (fresh : s.isFresh id = true) (index : Nat) {restarts : List (RosterTask × Nat)}
    (placed : Placed concurrency (s.workers.map RosterTask.index ++ [index]) next)
    (kept : ∀ restart ∈ restarts, restart.2 = restart.1.index) :
    Enrolled concurrency { s.insertTask id index with phase := next, restarts } next := by
  have fresh : id ∉ s.workers.map RosterTask.id := of_decide_eq_true fresh
  have registered := enrolled.registered live
  refine ⟨?_, fun _ => ?_, ?_, kept⟩
  · rw [Roster.insertTask, List.map_append, List.nodup_append]
    refine ⟨enrolled.distinct, List.nodup_singleton _, ?_⟩
    intro old member other new same
    obtain rfl := List.mem_singleton.mp new
    exact fresh (same ▸ member)
  · have unused : (s.workerIndices.filter fun entry => entry.1 ≠ id) = s.workerIndices := by
      rw [List.filter_eq_self, registered]
      intro entry member
      obtain ⟨task, known, rfl⟩ := List.mem_map.mp member
      exact decide_eq_true fun same => fresh (same ▸ List.mem_map_of_mem known)
    show (s.workerIndices.filter fun entry => entry.1 ≠ id) ++ [(id, index)] = _
    rw [unused, registered]
    simp only [Roster.insertTask, List.map_append, List.map_cons, List.map_nil]
  · rw [Roster.insertTask, List.map_append]
    exact placed

theorem task_mem (found : s.task id = some task) : task ∈ s.workers ∧ task.id = id :=
  ⟨List.mem_of_find?_eq_some found, by simpa using List.find?_some found⟩

/-- The join set without one of its tasks. -/
theorem removeTask (enrolled : Enrolled concurrency s phase) (found : s.task id = some task) :
    ((s.removeTask id).workers.map RosterTask.id).Nodup ∧
      (s.workers.map RosterTask.index).Perm
        (task.index :: (s.removeTask id).workers.map RosterTask.index) := by
  refine ⟨enrolled.distinct.sublist (List.filter_sublist.map _), ?_⟩
  obtain ⟨member, rfl⟩ := task_mem found
  obtain ⟨front, back, split⟩ := Keyed.split_of_mem enrolled.distinct member
  have rest : (s.removeTask task.id).workers = front ++ back := Keyed.filter_of_split split
  rw [rest, split.whole, List.map_append, List.map_cons, List.map_append]
  exact List.perm_middle

/-- Until the drain a task of the join set is in the map, with its own index. -/
theorem lookup (enrolled : Enrolled concurrency s phase) (live : phase ≠ .draining)
    (found : s.task id = some task) :
    (s.workerIndices.find? fun entry => entry.1 = id) = some (task.id, task.index) := by
  rw [enrolled.registered live, List.find?_map]
  exact congrArg _ found

/-- The exit of a worker is seen, and its index waits for a new one. -/
theorem nextExit (enrolled : Enrolled concurrency s .looping) {index : Nat} {how : TaskExit}
    (found : s.task id = some task)
    (registered : (s.workerIndices.find? fun entry => entry.1 = id) = some (id, index)) :
    Enrolled concurrency { s.removeTask id with
        workerIndices := s.workerIndices.filter fun entry => entry.1 ≠ id
        phase := .restarting task ⟨index, id, how = .panicked, how = .cancelled⟩ }
      (.restarting task ⟨index, id, how = .panicked, how = .cancelled⟩) := by
  obtain ⟨distinct, split⟩ := enrolled.removeTask found
  have own : index = task.index :=
    (Prod.mk.inj (Option.some.inj (registered.symm.trans (enrolled.lookup nofun found)))).2
  refine ⟨distinct, fun _ => ?_, ⟨own, ?_⟩, enrolled.restarts⟩
  · simp only [Roster.removeTask, enrolled.registered nofun, List.filter_map]
    rfl
  · subst own
    exact split.symm.trans enrolled.placed

end Enrolled

theorem enrolled_step (enrolled : Enrolled concurrency s s.phase)
    (stepped : (rosterMachine concurrency).step s action = some t) :
    Enrolled concurrency t t.phase := by
  have moved := rosterMachine_step stepped
  generalize s.phase = phase at moved enrolled
  cases moved with
  | exit phase how found running => exact enrolled.endTask how
  | @spawnFirst next id fresh =>
    obtain ⟨below, placed⟩ := enrolled.placed
    refine enrolled.insertTask nofun fresh next (placed_spawnedFrom below ?_) enrolled.restarts
    rw [List.range_succ]
    exact placed.append_right _
  | @respawn exited exit id fresh =>
    obtain ⟨own, placed⟩ := enrolled.placed
    refine enrolled.insertTask nofun fresh exit.index ?_ ?_
    · exact (List.perm_append_singleton _ _).trans placed
    · intro restart member
      rcases List.mem_append.mp member with old | new
      · exact enrolled.restarts restart old
      · obtain rfl := List.mem_singleton.mp new
        exact own
  | nextExit found ended registered => exact enrolled.nextExit found registered
  | unregistered found none =>
    exact absurd (none.symm.trans (enrolled.lookup nofun found)) nofun
  | dropExit => exact ⟨enrolled.distinct, enrolled.registered, enrolled.placed, enrolled.restarts⟩
  | leave phase => exact ⟨enrolled.distinct, fun live => absurd rfl live, trivial, enrolled.restarts⟩
  | join found ended =>
    exact ⟨(enrolled.removeTask found).1, fun live => absurd rfl live, trivial, enrolled.restarts⟩

theorem enrolled_reachable (reached : (rosterMachine concurrency).Reachable s) :
    Enrolled concurrency s s.phase :=
  Machine.Reachable.invariant (P := fun s => Enrolled concurrency s s.phase) (.start concurrency)
    (fun _ _ _ _ enrolled stepped => enrolled_step enrolled stepped) reached

/-- **Identities are kept.** Until the drain the keys of `worker_indices` are the ids of the join set
and the indices are distinct; in the loop, and so at every outer select, the indices are those below
the concurrency. The `expect` of `next_exit` does not fail, and every restart has had the index of
the worker whose exit was seen. -/
theorem identities_kept (reached : (rosterMachine concurrency).Reachable s) :
    (s.phase ≠ .draining →
      (s.workerIndices.map Prod.fst).Nodup ∧
      (∀ id, id ∈ s.workerIndices.map Prod.fst ↔ ∃ task ∈ s.workers, task.id = id) ∧
      (s.workerIndices.map Prod.snd).Nodup) ∧
    (s.phase = .looping → ∀ index, index ∈ s.workerIndices.map Prod.snd ↔ index < concurrency) ∧
    s.phase ≠ .panicked ∧
    ∀ restart ∈ s.restarts, restart.2 = restart.1.index := by
  have enrolled := enrolled_reachable reached
  have keys : s.phase ≠ .draining →
      s.workerIndices.map Prod.fst = s.workers.map RosterTask.id := by
    intro live
    rw [enrolled.registered live, List.map_map]
    rfl
  have values : s.phase ≠ .draining →
      s.workerIndices.map Prod.snd = s.workers.map RosterTask.index := by
    intro live
    rw [enrolled.registered live, List.map_map]
    rfl
  refine ⟨fun live => ⟨?_, fun id => ?_, ?_⟩, fun looping index => ?_, fun panicked => ?_,
    enrolled.restarts⟩
  · rw [keys live]
    exact enrolled.distinct
  · rw [keys live]
    exact List.mem_map
  · rw [values live]
    exact enrolled.placed.nodup live
  · have placed := enrolled.placed
    rw [looping] at placed
    rw [values (by rw [looping]; nofun), placed.mem_iff, List.mem_range]
  · have placed := enrolled.placed
    rw [panicked] at placed
    exact placed

end Steps

/-- Two workers, one of which panics while the other returns; the first exit is seen, a call of
`next_exit` is dropped, and the new worker has the id the old one had. -/
def reusedId : List RosterAction :=
  [.spawn 7, .spawn 9, .exit 7 .panicked, .dropExit, .exit 9 .returned, .nextExit 7, .spawn 7]

theorem identities_kept_reusedId :
    let s := (rosterMachine 2).after reusedId (by decide)
    s.workerIndices = [(9, 1), (7, 0)] ∧ s.restarts = [(⟨7, 0, some .panicked⟩, 0)] ∧
      (∀ index, index ∈ s.workerIndices.map Prod.snd ↔ index < 2) := by
  intro s
  exact ⟨by decide, by decide,
    (identities_kept (Machine.reachable_after reusedId (by decide))).2.1 (by decide)⟩

/-! ### The pool keeps these books -/

/-- How a worker of the pool has ended, if it has. -/
def PoolWorkerPhase.exit : PoolWorkerPhase → Option TaskExit
  | .ended true => some .panicked
  | .ended false => some .returned
  | _ => none

theorem PoolWorkerPhase.exit_of_ended {phase : PoolWorkerPhase} (ended : phase.isEnded = true) :
    ∃ how, phase.exit = some how := by
  cases phase with
  | ended panicked => cases panicked <;> exact ⟨_, rfl⟩
  | idle | receiving | dequeued | announced | cleared | executing => cases ended

def PoolWorker.task (worker : PoolWorker) : RosterTask :=
  ⟨worker.id, worker.index, worker.phase.exit⟩

/-- The supervisor in a phase is where the registry's loop is. -/
def SupervisorPhase.Follows (concurrency : Nat) (place : RosterPhase) : SupervisorPhase → Prop
  | .starting => place = spawnedFrom concurrency 0
  | .restarting index | .replacing index _ | .spawning index _ =>
    ∃ exited exit, place = .restarting exited exit ∧ exit.index = index
  | .stopping _ | .closing _ | .draining _ _ | .aborting _ | .returned _ => place = .draining
  | .panicked => False
  | _ => place = .looping

/-- A pool has the join set and the map of a roster. -/
structure Follows (settings : PoolSettings) (r : Roster) (s : PoolState) : Prop where
  workers : r.workers = s.workers.map PoolWorker.task
  indices : r.workerIndices = s.indices
  phase : s.supervisor.Follows settings.concurrency r.phase

section Refinement

variable {settings : PoolSettings} {clock : Instant} {r : Roster} {s t : PoolState} {id : Nat}
  {worker : PoolWorker} {phase next : SupervisorPhase} {action : SupervisorAction}

theorem SupervisorMove.follows (move : SupervisorMove settings s phase action next) :
    next.Follows settings.concurrency .draining ∨
      ∀ place, phase.Follows settings.concurrency place → next.Follows settings.concurrency place := by
  cases move with
  | refuse | leave | expire | drained | aborted => exact .inl rfl
  | goOn point =>
    refine .inr fun place follows => ?_
    unfold SupervisorPhase.checkpoint at point
    split at point
    all_goals
      cases point
      try exact follows
  | skipExit | tick | skipTick | skipNotified | rebuilt | recovered | recovering | full | failed
  | pend | accept | sent => exact .inr fun place follows => follows

theorem SupervisorPhase.Follows.leaves {place : RosterPhase}
    (follows : phase.Follows settings.concurrency place) :
    place = .draining ∨ place = .spawning 0 ∨ place = .looping ∨
      ∃ exited exit, place = .restarting exited exit := by
  cases phase with
  | starting =>
    obtain rfl : place = spawnedFrom settings.concurrency 0 := follows
    unfold spawnedFrom
    split
    · exact .inr (.inl rfl)
    · exact .inr (.inr (.inl rfl))
  | restarting | replacing | spawning =>
    obtain ⟨exited, exit, at_, _⟩ := follows
    exact .inr (.inr (.inr ⟨exited, exit, at_⟩))
  | stopping | closing | draining | aborting | returned => exact .inl follows
  | panicked => exact follows.elim
  | selecting | recovering | measuring | claiming | checking | sending =>
    exact .inr (.inr (.inl follows))

/-- Wherever the loop is, it can go to its drain. -/
theorem reachable_draining (reached : (rosterMachine settings.concurrency).Reachable r)
    (follows : phase.Follows settings.concurrency r.phase) :
    (rosterMachine settings.concurrency).Reachable { r with phase := .draining } := by
  rcases follows.leaves with at_ | at_ | at_ | ⟨exited, exit, at_⟩
  · rw [← at_]
    exact reached
  all_goals
    refine reached.step .leave ?_
    simp only [rosterMachine, at_]

/-- The pool after a step is followed by a reachable roster. -/
def Followed (settings : PoolSettings) (s : PoolState) : Prop :=
  ∃ r, (rosterMachine settings.concurrency).Reachable r ∧ Follows settings r s

/-- A step that leaves the join set and the map alone, and stays in its part of the loop. -/
theorem Followed.stay (followed : Followed settings s)
    (workers : t.workers.map PoolWorker.task = s.workers.map PoolWorker.task)
    (indices : t.indices = s.indices)
    (stays : ∀ place, s.supervisor.Follows settings.concurrency place →
      t.supervisor.Follows settings.concurrency place) : Followed settings t := by
  obtain ⟨r, reached, follows⟩ := followed
  exact ⟨r, reached, follows.workers.trans workers.symm, follows.indices.trans indices.symm,
    stays _ follows.phase⟩

/-- A step that leaves the join set and the map alone, and ends the loop. -/
theorem Followed.leave (followed : Followed settings s)
    (workers : t.workers.map PoolWorker.task = s.workers.map PoolWorker.task)
    (indices : t.indices = s.indices)
    (leaves : t.supervisor.Follows settings.concurrency .draining) : Followed settings t := by
  obtain ⟨r, reached, follows⟩ := followed
  exact ⟨_, reachable_draining reached follows.phase, follows.workers.trans workers.symm,
    follows.indices.trans indices.symm, leaves⟩

theorem Follows.task (follows : Follows settings r s) (found : s.worker id = some worker) :
    r.task id = some worker.task := by
  rw [Roster.task, follows.workers, List.find?_map]
  exact congrArg _ found

theorem Follows.filter (follows : Follows settings r s) (id : Nat) :
    (r.removeTask id).workers = (s.workers.filter fun other => other.id ≠ id).map PoolWorker.task := by
  rw [Roster.removeTask, follows.workers, List.filter_map]
  rfl

theorem exit_step {concurrency : Nat} {task : RosterTask} (found : r.task id = some task)
    (running : task.exit = none) (how : TaskExit) :
    (rosterMachine concurrency).step r (.exit id how) = some (r.endTask id how) := by
  obtain ⟨key, index, exit⟩ := task
  obtain rfl : exit = none := running
  simp only [rosterMachine, found]

/-- A worker ends. -/
theorem Followed.exit (followed : Followed settings s) (found : s.worker id = some worker)
    (running : worker.phase.exit = none) {next : PoolWorkerPhase} {how : TaskExit}
    (ends : next.exit = some how) (workers : t.workers = (s.setWorker id next).workers)
    (indices : t.indices = s.indices) (supervisor : t.supervisor = s.supervisor) :
    Followed settings t := by
  obtain ⟨r, reached, follows⟩ := followed
  refine ⟨_, reached.step _ (exit_step (follows.task found) running how), ?_, ?_, ?_⟩
  · rw [workers, PoolState.setWorker, Roster.endTask, follows.workers, List.map_map, List.map_map]
    refine List.map_congr_left fun other _ => ?_
    by_cases own : other.id = id
    · simp [PoolWorker.task, own, ends]
    · simp [PoolWorker.task, own]
  · exact follows.indices.trans indices.symm
  · rw [supervisor]
    exact follows.phase

/-- A worker goes on. -/
theorem setWorker_tasks (distinct : s.Distinct) (found : s.worker id = some worker)
    (running : worker.phase.exit = none) {next : PoolWorkerPhase} (goes : next.exit = none) :
    (s.setWorker id next).workers.map PoolWorker.task = s.workers.map PoolWorker.task := by
  obtain ⟨front, back, split, changed⟩ := PoolState.setWorker_split distinct found
  rw [changed, split.whole, List.map_append, List.map_append, List.map_cons, List.map_cons,
    PoolWorker.task, PoolWorker.task, running, goes]

theorem followed_worked {phase : PoolWorkerPhase} {action : WorkerAction}
    (followed : Followed settings s) (distinct : s.Distinct) (found : s.worker id = some worker)
    (at_ : worker.phase = phase) (worked : Worked s id phase action t) : Followed settings t := by
  have running : phase.exit = none → worker.phase.exit = none := fun none => by rw [at_, none]
  cases worked with
  | leave | disconnect | discard | panic | retire | abort =>
    exact followed.exit found (running rfl) rfl rfl rfl rfl
  | poll | take | park | notify | clear | execute | finish =>
    exact followed.stay (setWorker_tasks distinct found (running rfl) rfl) rfl fun _ follows => follows

/-- A worker is spawned under the next id. -/
theorem follows_addWorker (index : Nat) (formats : List TaskFormat) (registered : Registered s)
    (workers : r.workers = s.workers.map PoolWorker.task) (indices : r.workerIndices = s.indices) :
    r.isFresh s.spawned = true ∧
      (r.insertTask s.spawned index).workers = (s.addWorker index formats).workers.map PoolWorker.task ∧
      (r.insertTask s.spawned index).workerIndices = (s.addWorker index formats).indices := by
  obtain ⟨_, spawned, indexed⟩ := registered
  refine ⟨?_, ?_, ?_⟩
  · refine decide_eq_true fun known => ?_
    rw [workers, List.map_map] at known
    obtain ⟨worker, member, same⟩ := List.mem_map.mp known
    exact (spawned worker member).ne same
  · rw [Roster.insertTask, workers, PoolState.addWorker, List.map_append]
    rfl
  · have unused : (r.workerIndices.filter fun entry => entry.1 ≠ s.spawned) = r.workerIndices := by
      rw [List.filter_eq_self, indices, indexed]
      intro entry member
      obtain ⟨worker, known, rfl⟩ := List.mem_map.mp member
      exact decide_eq_true (spawned worker known).ne
    rw [Roster.insertTask, unused, indices]
    rfl

/-- The first workers are spawned one after another. -/
theorem follows_addWorkers {concurrency first : Nat} (dispatchers : List (List TaskFormat))
    (rest : first + dispatchers.length = concurrency)
    (reached : (rosterMachine concurrency).Reachable r) (registered : Registered s)
    (workers : r.workers = s.workers.map PoolWorker.task) (indices : r.workerIndices = s.indices)
    (at_ : r.phase = spawnedFrom concurrency first) :
    ∃ r', (rosterMachine concurrency).Reachable r' ∧
      r'.workers = ((dispatchers.zipIdx first).foldl
        (fun s dispatcher => s.addWorker dispatcher.2 dispatcher.1) s).workers.map PoolWorker.task ∧
      r'.workerIndices = ((dispatchers.zipIdx first).foldl
        (fun s dispatcher => s.addWorker dispatcher.2 dispatcher.1) s).indices ∧
      r'.phase = .looping := by
  induction dispatchers generalizing r s first with
  | nil =>
    refine ⟨r, reached, workers, indices, ?_⟩
    rw [at_, spawnedFrom, if_neg]
    simp only [List.length_nil] at rest
    omega
  | cons formats others ih =>
    rw [List.length_cons] at rest
    obtain ⟨fresh, workers, indices⟩ := follows_addWorker first formats registered workers indices
    have spawning : r.phase = .spawning first := by
      rw [at_, spawnedFrom, if_pos (by omega)]
    have stepped : (rosterMachine concurrency).step r (.spawn s.spawned) =
        some { r.insertTask s.spawned first with phase := spawnedFrom concurrency (first + 1) } := by
      simp only [rosterMachine, spawning, fresh, if_true]
    exact ih (by omega) (reached.step _ stepped) (registered.addWorker first formats) workers indices
      rfl

theorem Followed.start (followed : Followed settings s) (staffed : Staffed settings s)
    (at_ : s.supervisor = .starting) :
    Followed settings ((s.addWorkers settings.dispatchers).goTo (.selecting .cancelled)) := by
  obtain ⟨r, reached, workers, indices, place⟩ := followed
  rw [at_] at place
  have registered : Registered s :=
    ⟨staffed.distinct, staffed.spawned, staffed.indexed (by rw [at_]; rfl)⟩
  obtain ⟨r', reached, workers, indices, looping⟩ := follows_addWorkers settings.dispatchers
    (by rw [Nat.zero_add]; exact settings.prepared) reached registered workers indices place
  exact ⟨r', reached, workers, indices, looping⟩

/-- An exit is seen under the index that was registered for the worker. -/
theorem Followed.observeExit (followed : Followed settings s) (at_ : s.supervisor = .selecting .exit)
    (found : s.worker id = some worker) (ended : worker.phase.isEnded = true) {index : Nat}
    (registered : (s.indices.find? fun entry => entry.1 = id) = some (id, index)) :
    Followed settings { s with
      supervisor := .restarting index
      workers := s.workers.filter fun other => other.id ≠ id
      indices := s.indices.filter fun entry => entry.1 ≠ id } := by
  obtain ⟨r, reached, follows⟩ := followed
  obtain ⟨how, exits⟩ := PoolWorkerPhase.exit_of_ended ended
  have looping : r.phase = .looping := by
    have place := follows.phase
    rw [at_] at place
    exact place
  have stepped : (rosterMachine settings.concurrency).step r (.nextExit id) =
      some { r.removeTask id with
        workerIndices := r.workerIndices.filter fun entry => entry.1 ≠ id
        phase := .restarting worker.task ⟨index, id, how = .panicked, how = .cancelled⟩ } := by
    have exits : worker.task.exit = some how := exits
    rw [← follows.indices] at registered
    simp only [rosterMachine, looping, Roster.nextExit, follows.task found, exits, registered,
      Option.bind_eq_bind, Option.bind_some, Option.pure_def]
  refine ⟨_, reached.step _ stepped, follows.filter id, ?_, _, _, rfl, rfl⟩
  rw [← follows.indices]

/-- The new worker has the index that waits. -/
theorem Followed.spawn (followed : Followed settings s) (staffed : Staffed settings s) {index : Nat}
    {formats : List TaskFormat} (at_ : s.supervisor = .spawning index formats) :
    Followed settings ((s.addWorker index formats).goTo .measuring) := by
  obtain ⟨r, reached, workers, indices, place⟩ := followed
  rw [at_] at place
  obtain ⟨exited, exit, restarting, rfl⟩ := place
  have registered : Registered s :=
    ⟨staffed.distinct, staffed.spawned, staffed.indexed (by rw [at_]; rfl)⟩
  obtain ⟨fresh, workers, indices⟩ :=
    follows_addWorker exit.index formats registered workers indices
  have stepped : (rosterMachine settings.concurrency).step r (.spawn s.spawned) =
      some { r.insertTask s.spawned exit.index with
        phase := .looping
        restarts := r.restarts ++ [(exited, exit.index)] } := by
    simp only [rosterMachine, restarting, fresh, if_true]
  exact ⟨_, reached.step _ stepped, workers, indices, rfl⟩

/-- The drain joins an ended worker. -/
theorem Followed.join (followed : Followed settings s)
    (closed : (∃ result deadline, s.supervisor = .draining result deadline) ∨
      ∃ result, s.supervisor = .aborting result)
    (found : s.worker id = some worker) (ended : worker.phase.isEnded = true) :
    Followed settings { s with workers := s.workers.filter fun other => other.id ≠ id } := by
  obtain ⟨r, reached, follows⟩ := followed
  obtain ⟨how, exits⟩ := PoolWorkerPhase.exit_of_ended ended
  have place := follows.phase
  have draining : r.phase = .draining := by
    rcases closed with ⟨result, deadline, at_⟩ | ⟨result, at_⟩
    · rw [at_] at place
      exact place
    · rw [at_] at place
      exact place
  have stepped : (rosterMachine settings.concurrency).step r (.join id) =
      some { r.removeTask id with phase := .draining } := by
    simp only [rosterMachine, draining, follows.task found, PoolWorker.task, exits]
  refine ⟨_, reached.step _ stepped, follows.filter id, follows.indices, ?_⟩
  rw [draining] at place
  exact place

theorem followed_supervised (followed : Followed settings s) (staffed : Staffed settings s)
    (unpanicked : t.supervisor ≠ .panicked)
    (supervised : Supervised settings s s.supervisor action t) : Followed settings t := by
  have stay := fun t => followed.stay (t := t)
  generalize at_ : s.supervisor = phase at supervised
  simp only [at_] at stay
  cases supervised with
  | move move =>
    rcases move.follows with left | stays
    · exact followed.leave rfl rfl left
    · exact stay _ rfl rfl stays
  | start => exact followed.start staffed at_
  | observeExit found ended registered => exact followed.observeExit at_ found ended registered
  | unregistered | panic => exact absurd rfl unpanicked
  | spawn => exact followed.spawn staffed at_
  | takePermit | measured | claim | complete | send | stop | close =>
    exact stay _ rfl rfl fun _ follows => follows
  | buildFailed | discard => exact followed.leave rfl rfl rfl
  | join closed found ended =>
    rw [← at_] at closed
    exact followed.join closed found ended

/-- **The pool keeps the registry's books.** For every reachable state of the pool there is a
reachable state of the registry with its join set, its map and its place in the loop. -/
theorem followed_reachable (reached : (poolMachine settings clock).Reachable s) :
    Followed settings s := by
  have start : Followed settings (poolMachine settings clock).start := ⟨_, .start, rfl, rfl, rfl⟩
  refine Machine.Reachable.invariant start ?_ reached
  intro s action t reached followed stepped
  have staffed := (poolSound_reachable reached).staffed
  have unpanicked := (poolSound_reachable (reached.step action stepped)).unpanicked
  cases poolMachine_step stepped with
  | cancel | wait => exact followed.stay rfl rfl fun _ follows => follows
  | supervise supervised => exact followed_supervised followed staffed unpanicked supervised
  | work found at_ worked => exact followed_worked followed staffed.distinct found at_ worked

end Refinement

end AccountManagement.Runtime
