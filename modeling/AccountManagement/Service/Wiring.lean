/-
**The dispatcher the service is wired with.**

The service builds its dispatcher from three adapters. The dispatcher looks an attempt up by its
format and invokes the adapter it finds there; the adapter checks the format once more, decodes the
payload and calls its handler. `Service.dispatch` is the same in one definition.

* `WiredDispatcher.dispatch_declared`, `WiredDispatcher.dispatch_unknown`: what a dispatcher does is
  settled by the formats its adapters declare. No index is out of range.
* `wired_dispatch`: the factory of the service succeeds, for each worker and each replacement of
  one, and its dispatchers do what `Service.dispatch` says.
-/

import AccountManagement.Library.Lookups
import AccountManagement.Runtime.Dispatcher
import AccountManagement.Service.UseCases

namespace AccountManagement.Service

open AccountManagement.Library AccountManagement.Task AccountManagement.Domain
open AccountManagement.Runtime (TaskDispatcher TaskDispatcherError DispatchTable prepareDispatchers
  TaskHandlerError)

/-! ### Adapters -/

section Adapters

variable {Value : Type} [JsonValue Value]

variable (Value) in
/-- An adapter: the formats it declares, and its invocation with an attempt. The clock and the
generated identifier are those of the invocation. -/
structure TaskAdapter where
  formats : List TaskFormat
  invoke : DateTime → Uuid → TaskAttempt Value → Dispatch Value

def safeFormat (format : TaskFormat) : String :=
  safeType format.taskType ++ " v" ++ toString format.taskVersion

variable {Payload : Type}

/-- The invocation of a JSON adapter: check the format, decode, handle. -/
def invokeJson (codec : PayloadCodec Payload Value) (handle : Payload → Dispatch Value)
    (format : TaskFormat) (attempt : TaskAttempt Value) : Dispatch Value :=
  if attempt.format ≠ format then
    .answers (.error (.permanent ("unsupported task format for " ++ safeFormat format)))
  else
    match codec.decode attempt.payload with
    | none => .answers (.error (.permanent ("invalid " ++ safeFormat format ++ " task payload")))
    | some payload => handle payload

/-- The adapter of a payload type, if the type has a valid format. -/
def taskAdapter [TaskPayload Payload] (codec : PayloadCodec Payload Value)
    (handle : DateTime → Uuid → Payload → Dispatch Value) :
    Except TaskFormatError (TaskAdapter Value) := do
  let format ← formatOf Payload
  return ⟨[format], fun now taskId => invokeJson codec (handle now taskId) format⟩

/-! ### The dispatcher with its adapters -/

/-- The adapters that a dispatcher was made of are those it registers. -/
theorem adapters_of_tryNew {adapters : List (List TaskFormat)} {dispatcher : TaskDispatcher}
    (built : TaskDispatcher.tryNew adapters = .ok dispatcher) : dispatcher.adapters = adapters := by
  unfold TaskDispatcher.tryNew at built
  split at built
  · cases built
  · obtain rfl := Except.ok.inj built
    rfl

variable (Value) in
structure WiredDispatcher where
  adapters : List (TaskAdapter Value)
  router : TaskDispatcher
  registered : router.adapters = adapters.map TaskAdapter.formats

namespace WiredDispatcher

def tryNew (adapters : List (TaskAdapter Value)) :
    Except TaskDispatcherError (WiredDispatcher Value) :=
  match built : TaskDispatcher.tryNew (adapters.map TaskAdapter.formats) with
  | .error error => .error error
  | .ok router => .ok ⟨adapters, router, adapters_of_tryNew built⟩

variable (self : WiredDispatcher Value) {now : DateTime} {taskId : Uuid}
  {attempt : TaskAttempt Value}

/-- The invocation of the adapter that is found; no value is a panic of the index. -/
def dispatch (now : DateTime) (taskId : Uuid) (attempt : TaskAttempt Value) :
    Option (Dispatch Value) :=
  match self.router.dispatch attempt.format with
  | none => none
  | some (.error error) => some (.answers (.error error))
  | some (.ok index) => (self.adapters[index]?).map fun adapter =>
      adapter.invoke now taskId attempt

variable {self}

/-- The router knows the formats of an adapter under its place. -/
theorem declares_iff {index : Nat} {format : TaskFormat} :
    self.router.Declares index format ↔
      ∃ adapter, self.adapters[index]? = some adapter ∧ format ∈ adapter.formats := by
  unfold TaskDispatcher.Declares
  rw [self.registered, List.getElem?_map]
  constructor
  · rintro ⟨formats, placed, member⟩
    obtain ⟨adapter, found, rfl⟩ := Option.map_eq_some_iff.mp placed
    exact ⟨adapter, found, member⟩
  · rintro ⟨adapter, found, member⟩
    exact ⟨adapter.formats, by rw [found]; rfl, member⟩

/-- **An attempt goes to the adapter that has declared its format.** -/
theorem dispatch_declared {adapter : TaskAdapter Value} (member : adapter ∈ self.adapters)
    (declares : attempt.format ∈ adapter.formats) :
    self.dispatch now taskId attempt = some (adapter.invoke now taskId attempt) := by
  obtain ⟨index, placed⟩ := List.getElem?_of_mem member
  have routed := TaskDispatcher.declares_iff.mp (declares_iff.mpr ⟨adapter, placed, declares⟩)
  have inside : index < self.router.adapters.length := by
    rw [self.registered, List.length_map]
    exact (List.getElem?_eq_some_iff.mp placed).1
  have found : self.router.dispatch attempt.format = some (.ok index) := by
    simp only [TaskDispatcher.dispatch, routed, if_pos inside]
  unfold dispatch
  simp only [found, placed, Option.map_some]

/-- **An attempt that no adapter has declared fails for good.** -/
theorem dispatch_unknown (unknown : ∀ adapter ∈ self.adapters, attempt.format ∉ adapter.formats) :
    self.dispatch now taskId attempt
      = some (.answers (.error (.permanent "unsupported task format"))) := by
  have unrouted : self.router.table.route attempt.format = none := by
    rw [Option.eq_none_iff_forall_ne_some]
    intro index routed
    obtain ⟨adapter, placed, declares⟩ :=
      declares_iff.mp (TaskDispatcher.declares_iff.mpr routed)
    exact unknown adapter (List.mem_of_getElem? placed) declares
  unfold dispatch
  simp only [TaskDispatcher.dispatch, unrouted]

/-- The adapters are accepted when their formats are. -/
theorem tryNew_ok {adapters : List (TaskAdapter Value)} {router : TaskDispatcher}
    (built : TaskDispatcher.tryNew (adapters.map TaskAdapter.formats) = .ok router) :
    ∃ wired, tryNew adapters = .ok wired ∧ wired.adapters = adapters := by
  unfold tryNew
  split
  · rename_i error rejected
    rw [rejected] at built
    cases built
  · exact ⟨_, rfl, rfl⟩

end WiredDispatcher

/-! ### JSON adapters -/

/-- The adapter that `taskAdapter` returns. -/
def jsonAdapter [TaskPayload Payload] (codec : PayloadCodec Payload Value)
    (handle : DateTime → Uuid → Payload → Dispatch Value) : TaskAdapter Value where
  formats := [TaskPayload.format Payload]
  invoke now taskId := invokeJson codec (handle now taskId) (TaskPayload.format Payload)

theorem taskAdapter_eq [TaskPayload Payload] (codec : PayloadCodec Payload Value)
    (handle : DateTime → Uuid → Payload → Dispatch Value) :
    taskAdapter codec handle = .ok (jsonAdapter codec handle) := by
  unfold taskAdapter formatOf
  rw [TaskFormat.new_self]
  rfl

/-- The second check of the format never fails behind a dispatcher. -/
theorem jsonAdapter_invoke [TaskPayload Payload] {codec : PayloadCodec Payload Value}
    {handle : DateTime → Uuid → Payload → Dispatch Value} {now : DateTime} {taskId : Uuid}
    {attempt : TaskAttempt Value} (same : attempt.format = TaskPayload.format Payload) :
    (jsonAdapter codec handle).invoke now taskId attempt
      = invokeAdapter codec (handle now taskId) attempt := by
  show invokeJson codec (handle now taskId) (TaskPayload.format Payload) attempt = _
  unfold invokeJson invokeAdapter
  rw [if_neg (not_not_intro same)]
  cases codec.decode attempt.payload with
  | none =>
    unfold invalidPayload safeFormat
    simp only [String.append_assoc]
  | some payload => rfl

/-- An attempt of a payload type goes to the handler of that type. -/
theorem dispatch_json [TaskPayload Payload] {wired : WiredDispatcher Value}
    {codec : PayloadCodec Payload Value} {handle : DateTime → Uuid → Payload → Dispatch Value}
    {now : DateTime} {taskId : Uuid} {attempt : TaskAttempt Value}
    (member : jsonAdapter codec handle ∈ wired.adapters)
    (same : attempt.format = TaskPayload.format Payload) :
    wired.dispatch now taskId attempt
      = some (invokeAdapter codec (handle now taskId) attempt) := by
  rw [WiredDispatcher.dispatch_declared member (List.mem_singleton.mpr same),
    jsonAdapter_invoke same]

end Adapters

/-! ### The factory -/

section Factory

variable {Value : Type} [JsonValue Value] (wire : Wire Value)

/-- The dispatcher of a worker, with fresh adapters. -/
def dispatcherFactory : Except TaskDispatcherError (WiredDispatcher Value) := do
  let send ← (taskAdapter wire.sendVerificationCode fun _ _ payload =>
    sendVerificationCode payload).mapError .invalidFormat
  let create ← (taskAdapter wire.createAccount fun now taskId task =>
    .account (createAccount wire now taskId task)).mapError .invalidFormat
  let record ← (taskAdapter wire.recordAccountCreated fun _ _ task =>
    .reservation (recordAccountCreated task)).mapError .invalidFormat
  WiredDispatcher.tryNew [send, create, record]

/-- The three formats are different. -/
theorem serviceFormats_accepted :
    ∃ router, TaskDispatcher.tryNew [[TaskPayload.format SendVerificationCodeTaskV1],
      [TaskPayload.format CreateAccountTaskV1], [TaskPayload.format RecordAccountCreatedTaskV1]]
        = .ok router := by
  have accepted : (TaskDispatcher.tryNew [[TaskPayload.format SendVerificationCodeTaskV1],
      [TaskPayload.format CreateAccountTaskV1],
      [TaskPayload.format RecordAccountCreatedTaskV1]]).isOk = true := by
    decide +kernel
  revert accepted
  cases TaskDispatcher.tryNew [[TaskPayload.format SendVerificationCodeTaskV1],
      [TaskPayload.format CreateAccountTaskV1],
      [TaskPayload.format RecordAccountCreatedTaskV1]] with
  | error error => exact fun rejected => absurd rejected Bool.false_ne_true
  | ok router => exact fun _ => ⟨router, rfl⟩

/-- The adapters of the three operations. -/
def serviceAdapters : List (TaskAdapter Value) :=
  [jsonAdapter wire.sendVerificationCode fun _ _ payload => sendVerificationCode payload,
    jsonAdapter wire.createAccount fun now taskId task =>
      .account (createAccount wire now taskId task),
    jsonAdapter wire.recordAccountCreated fun _ _ task => .reservation (recordAccountCreated task)]

theorem dispatcherFactory_ok :
    ∃ wired, dispatcherFactory wire = .ok wired ∧ wired.adapters = serviceAdapters wire := by
  obtain ⟨router, built⟩ := serviceFormats_accepted
  have factory : dispatcherFactory wire = WiredDispatcher.tryNew (serviceAdapters wire) := by
    unfold dispatcherFactory
    rw [taskAdapter_eq, taskAdapter_eq, taskAdapter_eq]
    rfl
  rw [factory]
  apply WiredDispatcher.tryNew_ok
  exact built

/-- A factory that always gives the same dispatcher prepares every worker. -/
theorem prepareDispatchers_constant (dispatcher : TaskDispatcher) (others : Nat) :
    prepareDispatchers (fun _ => .ok dispatcher) (others + 1)
      = .ok (List.replicate (others + 1) dispatcher) := by
  have same : ∀ index, TaskDispatcher.buildChecked dispatcher.formats index (.ok dispatcher)
      = .ok dispatcher := fun _ => if_pos rfl
  show (do
    let rest ← (List.range' 1 others).mapM fun index =>
      TaskDispatcher.buildChecked dispatcher.formats index (.ok dispatcher)
    return dispatcher :: rest) = _
  simp only [same]
  rw [mapM_constant, List.length_range']
  rfl

/-- The routes of the dispatcher and the checks of its adapters come to one chain of cases. -/
theorem wired_dispatch_eq {wired : WiredDispatcher Value}
    (adapters : wired.adapters = serviceAdapters wire) (now : DateTime) (taskId : Uuid)
    (attempt : TaskAttempt Value) :
    wired.dispatch now taskId attempt = some (dispatch wire now taskId attempt) := by
  unfold serviceAdapters at adapters
  unfold dispatch
  split
  · rename_i send
    exact dispatch_json (adapters ▸ List.mem_cons_self) send
  rename_i notSend
  split
  · rename_i create
    exact dispatch_json (adapters ▸ List.mem_cons_of_mem _ List.mem_cons_self) create
  rename_i notCreate
  split
  · rename_i record
    exact dispatch_json
      (adapters ▸ List.mem_cons_of_mem _ (List.mem_cons_of_mem _ List.mem_cons_self)) record
  rename_i notRecord
  apply WiredDispatcher.dispatch_unknown
  rw [adapters]
  refine List.forall_mem_cons.mpr ⟨fun same => notSend (List.mem_singleton.mp same),
    List.forall_mem_cons.mpr ⟨fun same => notCreate (List.mem_singleton.mp same),
      List.forall_mem_singleton.mpr fun same => notRecord (List.mem_singleton.mp same)⟩⟩

/-- **The service is wired as it is modelled.** For every wire the factory of the service builds a
dispatcher; with any number of workers each of them gets one, at the start and when it is replaced;
and on every attempt the dispatcher, with its routes, and the adapters, with their own checks, do
what `dispatch` says. -/
theorem wired_dispatch : ∃ wired, dispatcherFactory wire = .ok wired ∧
    (∀ others, prepareDispatchers (fun _ => (dispatcherFactory wire).map WiredDispatcher.router)
      (others + 1) = .ok (List.replicate (others + 1) wired.router)) ∧
    (∀ worker, TaskDispatcher.buildChecked wired.router.formats worker
      ((dispatcherFactory wire).map WiredDispatcher.router) = .ok wired.router) ∧
    ∀ now taskId attempt,
      wired.dispatch now taskId attempt = some (dispatch wire now taskId attempt) := by
  obtain ⟨wired, built, adapters⟩ := dispatcherFactory_ok wire
  refine ⟨wired, built, fun others => ?_, fun worker => ?_, fun now taskId attempt => ?_⟩
  · rw [built]
    exact prepareDispatchers_constant wired.router others
  · rw [built]
    exact if_pos rfl
  · exact wired_dispatch_eq wire adapters now taskId attempt

end Factory

end AccountManagement.Service
