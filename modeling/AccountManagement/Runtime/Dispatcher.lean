/-
**The dispatcher of a worker.**

`TaskDispatcher::try_new` registers the formats that the adapters declare, each for one adapter; an
attempt is routed by its complete format. A dispatcher carries the fact that its adapters were
accepted. The factory is a function of the number of the call, so it may answer differently each
time; both entry points build the first dispatcher, and all others against its formats.

* `formats_nodup`, `formats_ne_nil`: a dispatcher has at least one format, and none twice;
* `routes_of_mem`: a format of the list is routed to the one adapter that declared it;
* `prepareDispatchers_formats`: all prepared dispatchers have the formats of the first.
-/

import AccountManagement.Library.Results
import AccountManagement.Runtime.Handling
import AccountManagement.Runtime.Pool

namespace AccountManagement.Runtime

open AccountManagement.Library AccountManagement.Task

/-! ### Registration -/

/-- The routes and the formats, in the order of their registration. -/
structure DispatchTable where
  routes : List (TaskFormat × Nat)
  formats : List TaskFormat
deriving DecidableEq

namespace DispatchTable

/-- The adapter that is registered for a format. -/
def route (table : DispatchTable) (format : TaskFormat) : Option Nat :=
  (table.routes.find? fun entry => entry.1 = format).map Prod.snd

/-- A format that is inserted a second time is a duplicate. -/
def register (table : DispatchTable) (entry : Nat × TaskFormat) :
    Except TaskDispatcherError DispatchTable :=
  if (table.route entry.2).isSome then .error (.duplicateFormat entry.2)
  else .ok ⟨table.routes ++ [(entry.2, entry.1)], table.formats ++ [entry.2]⟩

/-- The formats that the adapters declare, each with the place of its adapter. -/
def declared (adapters : List (List TaskFormat)) : List (Nat × TaskFormat) :=
  adapters.zipIdx.flatMap fun adapter => adapter.1.map fun format => (adapter.2, format)

/-- The checks and the fold of `try_new`. -/
def build (adapters : List (List TaskFormat)) : Except TaskDispatcherError DispatchTable :=
  if adapters.isEmpty then .error .empty
  else do
    let table ← (declared adapters).foldlM register ⟨[], []⟩
    if table.formats.isEmpty then .error .empty else .ok table

/-- A table of different formats, each with its route. -/
structure Keyed (table : DispatchTable) : Prop where
  formats : table.formats = table.routes.map Prod.fst
  distinct : table.formats.Nodup

theorem route_isSome {table : DispatchTable} (keyed : table.Keyed) (format : TaskFormat) :
    (table.route format).isSome = true ↔ format ∈ table.formats := by
  rw [keyed.formats, route, Option.isSome_map, List.find?_isSome]
  simp

theorem register_ok {table next : DispatchTable} {entry : Nat × TaskFormat} (keyed : table.Keyed)
    (registered : table.register entry = .ok next) :
    next.Keyed ∧ next.routes = table.routes ++ [(entry.2, entry.1)] := by
  unfold register at registered
  split at registered
  · cases registered
  · rename_i fresh
    obtain rfl := Except.ok.inj registered
    rw [route_isSome keyed] at fresh
    refine ⟨⟨?_, ?_⟩, rfl⟩
    · rw [List.map_append, ← keyed.formats]
      rfl
    · refine List.nodup_append.mpr ⟨keyed.distinct, List.nodup_singleton _, ?_⟩
      intro old known new member same
      obtain rfl := List.mem_singleton.mp member
      exact fresh (same ▸ known)

/-- The fold adds one route for every declared format. -/
theorem foldlM_register {entries : List (Nat × TaskFormat)} {table last : DispatchTable}
    (keyed : table.Keyed) (folded : entries.foldlM register table = .ok last) :
    last.Keyed ∧ last.routes = table.routes ++ entries.map Prod.swap := by
  induction entries generalizing table with
  | nil =>
    obtain rfl := Except.ok.inj folded
    exact ⟨keyed, (List.append_nil _).symm⟩
  | cons entry rest ih =>
    rw [List.foldlM_cons] at folded
    obtain ⟨next, registered, folded⟩ := bind_ok folded
    obtain ⟨nextKeyed, routes⟩ := register_ok keyed registered
    obtain ⟨lastKeyed, all⟩ := ih nextKeyed folded
    refine ⟨lastKeyed, ?_⟩
    rw [all, routes, List.append_assoc]
    rfl

theorem build_ok {adapters : List (List TaskFormat)} {table : DispatchTable}
    (built : build adapters = .ok table) :
    table.Keyed ∧ table.routes = (declared adapters).map Prod.swap ∧ table.formats ≠ [] := by
  unfold build at built
  split at built
  · cases built
  · obtain ⟨last, folded, built⟩ := bind_ok built
    split at built
    · cases built
    · rename_i filled
      obtain rfl := Except.ok.inj built
      obtain ⟨keyed, routes⟩ := foldlM_register ⟨rfl, List.nodup_nil⟩ folded
      exact ⟨keyed, routes, fun none => filled (List.isEmpty_iff.mpr none)⟩

theorem mem_declared {adapters : List (List TaskFormat)} {index : Nat} {format : TaskFormat} :
    (index, format) ∈ declared adapters ↔
      ∃ formats, adapters[index]? = some formats ∧ format ∈ formats := by
  rw [declared, List.mem_flatMap]
  constructor
  · rintro ⟨⟨formats, place⟩, listed, member⟩
    obtain ⟨own, inside, same⟩ := List.mem_map.mp member
    obtain ⟨rfl, rfl⟩ := Prod.mk.inj same
    exact ⟨formats, List.mem_zipIdx_iff_getElem?.mp listed, inside⟩
  · rintro ⟨formats, placed, inside⟩
    exact ⟨(formats, index), List.mem_zipIdx_iff_getElem?.mpr placed,
      List.mem_map_of_mem inside⟩

end DispatchTable

/-! ### Dispatchers -/

/-- A dispatcher: the formats each adapter declared when it was registered, and the routes. -/
structure TaskDispatcher where
  adapters : List (List TaskFormat)
  table : DispatchTable
  accepted : DispatchTable.build adapters = .ok table
deriving DecidableEq

namespace TaskDispatcher

def tryNew (adapters : List (List TaskFormat)) : Except TaskDispatcherError TaskDispatcher :=
  match accepted : DispatchTable.build adapters with
  | .error error => .error error
  | .ok table => .ok ⟨adapters, table, accepted⟩

variable (dispatcher : TaskDispatcher)

def formats : List TaskFormat := dispatcher.table.formats

/-- The adapter that is invoked with an attempt; no value is a panic of the index. -/
def dispatch (format : TaskFormat) : Option (Except TaskHandlerError Nat) :=
  match dispatcher.table.route format with
  | some index => if index < dispatcher.adapters.length then some (.ok index) else none
  | none => some (.error (.permanent "unsupported task format"))

/-- An adapter has declared a format. -/
def Declares (index : Nat) (format : TaskFormat) : Prop :=
  ∃ formats, dispatcher.adapters[index]? = some formats ∧ format ∈ formats

/-- A format is routed to the one adapter that declared it. -/
structure Routes (format : TaskFormat) (index : Nat) : Prop where
  invoked : dispatcher.dispatch format = some (.ok index)
  declares : dispatcher.Declares index format
  unique : ∀ other, dispatcher.Declares other format → other = index

/-- Every dispatcher is the one that `try_new` makes of its adapters. -/
theorem tryNew_self : tryNew dispatcher.adapters = .ok dispatcher := by
  obtain ⟨adapters, table, accepted⟩ := dispatcher
  unfold tryNew
  split
  · rename_i error rejected
    exact absurd (accepted.symm.trans rejected) nofun
  · rename_i other built
    obtain rfl := Except.ok.inj (accepted.symm.trans built)
    rfl

theorem formats_ne_nil : dispatcher.formats ≠ [] :=
  (DispatchTable.build_ok dispatcher.accepted).2.2

theorem formats_nodup : dispatcher.formats.Nodup :=
  (DispatchTable.build_ok dispatcher.accepted).1.distinct

variable {dispatcher}

/-- The route of a format leads to the adapters that declared it. -/
theorem declares_iff {index : Nat} {format : TaskFormat} :
    dispatcher.Declares index format ↔ dispatcher.table.route format = some index := by
  obtain ⟨keyed, routes, _⟩ := DispatchTable.build_ok dispatcher.accepted
  have distinct : (dispatcher.table.routes.map Prod.fst).Nodup := keyed.formats ▸ keyed.distinct
  have listed : dispatcher.Declares index format ↔ (format, index) ∈ dispatcher.table.routes := by
    rw [Declares, ← DispatchTable.mem_declared, routes, List.mem_map]
    constructor
    · intro member
      exact ⟨(index, format), member, rfl⟩
    · rintro ⟨⟨place, own⟩, member, same⟩
      obtain ⟨rfl, rfl⟩ := Prod.mk.inj same
      exact member
  rw [listed, DispatchTable.route, Option.map_eq_some_iff]
  constructor
  · intro member
    have some_ : (dispatcher.table.routes.find? fun entry => entry.1 = format).isSome = true :=
      List.find?_isSome.mpr ⟨(format, index), member, decide_eq_true rfl⟩
    obtain ⟨found, is⟩ := Option.isSome_iff_exists.mp some_
    have key : found.1 = format := by simpa using List.find?_some is
    have same := List.inj_on_of_nodup_map distinct (List.mem_of_find?_eq_some is) member key
    exact ⟨found, is, congrArg Prod.snd same⟩
  · rintro ⟨found, is, rfl⟩
    have key : found.1 = format := by simpa using List.find?_some is
    rw [← key]
    exact List.mem_of_find?_eq_some is

/-- **A format of the list is routed to the one adapter that declared it.** -/
theorem routes_of_mem {format : TaskFormat} (member : format ∈ dispatcher.formats) :
    ∃ index, dispatcher.Routes format index := by
  obtain ⟨keyed, _, _⟩ := DispatchTable.build_ok dispatcher.accepted
  obtain ⟨index, routed⟩ := Option.isSome_iff_exists.mp
    ((DispatchTable.route_isSome keyed format).mpr member)
  have declares : dispatcher.Declares index format := declares_iff.mpr routed
  obtain ⟨formats, placed, _⟩ := declares
  have inside : index < dispatcher.adapters.length := (List.getElem?_eq_some_iff.mp placed).1
  refine ⟨index, ?_, declares_iff.mpr routed, fun other same => ?_⟩
  · simp only [dispatch, routed, if_pos inside]
  · exact Option.some.inj ((declares_iff.mp same).symm.trans routed)

end TaskDispatcher

/-! ### The factory -/

/-- The answers of a factory, by the number of the call. -/
abbrev TaskDispatcherFactory := Nat → Except TaskDispatcherError TaskDispatcher

/-- A dispatcher that is built for a worker must have the given formats. -/
def TaskDispatcher.buildChecked (formats : List TaskFormat) (workerIndex : Nat)
    (built : Except TaskDispatcherError TaskDispatcher) : Except WorkerSetupError TaskDispatcher :=
  match built with
  | .error source => .error (.build workerIndex source)
  | .ok dispatcher =>
    if dispatcher.formats = formats then .ok dispatcher else .error (.formatsMismatch workerIndex)

theorem TaskDispatcher.buildChecked_ok {formats : List TaskFormat} {workerIndex : Nat}
    {built : Except TaskDispatcherError TaskDispatcher} {dispatcher : TaskDispatcher}
    (checked : buildChecked formats workerIndex built = .ok dispatcher) :
    built = .ok dispatcher ∧ dispatcher.formats = formats := by
  cases built with
  | error source => cases checked
  | ok own =>
    rw [buildChecked] at checked
    split at checked
    · obtain rfl := Except.ok.inj checked
      exact ⟨rfl, ‹_›⟩
    · cases checked

/-- The pool sees the formats of a built dispatcher only, and checks the same. -/
theorem buildCheckedDispatcher_map (formats : List TaskFormat) (workerIndex : Nat)
    (built : Except TaskDispatcherError TaskDispatcher) :
    buildCheckedDispatcher formats workerIndex (built.map TaskDispatcher.formats) =
      (TaskDispatcher.buildChecked formats workerIndex built).map TaskDispatcher.formats := by
  cases built with
  | error source => rfl
  | ok dispatcher =>
    show (if dispatcher.formats = formats then _ else _) = _
    rw [TaskDispatcher.buildChecked]
    split
    · rfl
    · rfl

/-- The dispatchers of the workers at the start, by `prepare` and by `run`. -/
def prepareDispatchers (factory : TaskDispatcherFactory) (concurrency : Nat) :
    Except WorkerSetupError (List TaskDispatcher) := do
  let first ← (factory 0).mapError (.build 0)
  let others ← (List.range' 1 (concurrency - 1)).mapM fun index =>
    TaskDispatcher.buildChecked first.formats index (factory index)
  return first :: others

/-- All prepared dispatchers have the formats of the first, and there is one for each worker. -/
theorem prepareDispatchers_formats {factory : TaskDispatcherFactory} {concurrency : Nat}
    {dispatchers : List TaskDispatcher} (positive : concurrency ≠ 0)
    (prepared : prepareDispatchers factory concurrency = .ok dispatchers) :
    dispatchers.length = concurrency ∧ ∃ first others, dispatchers = first :: others ∧
      ∀ dispatcher ∈ dispatchers, dispatcher.formats = first.formats := by
  unfold prepareDispatchers at prepared
  obtain ⟨first, _, prepared⟩ := bind_ok prepared
  obtain ⟨others, built, prepared⟩ := bind_ok prepared
  obtain rfl := Except.ok.inj prepared
  have pairs := mapM_ok built
  refine ⟨?_, first, others, rfl, List.forall_mem_cons.mpr ⟨rfl, fun dispatcher member => ?_⟩⟩
  · rw [List.length_cons, ← pairs.length_eq, List.length_range']
    omega
  · obtain ⟨index, _, checked⟩ := exists_left_of_forall₂ pairs member
    exact (TaskDispatcher.buildChecked_ok checked).2

end AccountManagement.Runtime
