/-
**The outbox as the record of the commits.**

The rows of the outbox that carry the name of an aggregate are, in order, the tasks of the commits
of that aggregate, each with the sequence of its event (`Published`). So a row leads back to its
commit (`Published.origin`) and a committed task forward to its row (`Published.posted`).
`published_append` is the step: a commit appends its tasks.
-/

import AccountManagement.Outbox.Rows
import AccountManagement.Service.Tasks
import AccountManagement.Store.Answers

namespace AccountManagement.Service

open AccountManagement.Library AccountManagement.Task AccountManagement.Store
open AccountManagement.Outbox

section Postings

variable {Value : Type} [JsonValue Value] {Payload : Type} [TaskPayload Payload]

/-! ### Reading stored tasks -/

/-- The payload of a stored task, if the task is of this type. -/
def readTask (codec : PayloadCodec Payload Value) (taskType : String) (taskVersion : Int)
    (data : Value) : Option Payload :=
  if taskType = (TaskPayload.format Payload).taskType ∧
      taskVersion = (TaskPayload.format Payload).taskVersion then codec.decode data
  else none

theorem payloadOf_eq (codec : PayloadCodec Payload Value) (format : TaskFormat) (data : Value) :
    payloadOf codec format data = readTask codec format.taskType format.taskVersion data := by
  have same : format = TaskPayload.format Payload ↔
      format.taskType = (TaskPayload.format Payload).taskType ∧
        format.taskVersion = (TaskPayload.format Payload).taskVersion := by
    cases format
    rw [TaskFormat.mk.injEq]
  unfold payloadOf readTask
  simp only [same]

def readIdentity (codec : PayloadCodec Payload Value) (identity : Identity Value) : Option Payload :=
  readTask codec identity.taskType identity.taskVersion identity.payload

/-- The identity of the row that a commit inserts for a task. -/
def postedIdentity (typeName aggregateId : String) (sequence : Nat) (task : NewTask Value) :
    Identity Value where
  id := task.id
  aggregateType := typeName
  aggregateId := aggregateId
  aggregateSequence := sequence
  taskType := task.format.taskType
  taskVersion := task.format.taskVersion
  payload := task.payload
  metadata := task.metadata
  maxAttempts := task.maxAttempts

theorem readIdentity_posted (codec : PayloadCodec Payload Value) (typeName aggregateId : String)
    (sequence : Nat) (task : NewTask Value) :
    readIdentity codec (postedIdentity typeName aggregateId sequence task)
      = payloadOf codec task.format task.payload :=
  (payloadOf_eq codec task.format task.payload).symm

/-- A task of this payload is stored. -/
def Posted (codec : PayloadCodec Payload Value) (payload : Payload)
    (identities : List (Identity Value)) : Prop :=
  ∃ identity ∈ identities, readIdentity codec identity = some payload

theorem Posted.mono {codec : PayloadCodec Payload Value} {payload : Payload}
    {before after : List (Identity Value)} (posted : Posted codec payload before)
    (grown : before ⊆ after) : Posted codec payload after := by
  obtain ⟨identity, member, read⟩ := posted
  exact ⟨identity, grown member, read⟩

/-- A delivery is of a stored task. -/
structure Delivers (identity : Identity Value) (attempt : TaskAttempt Value) : Prop where
  id : identity.id = attempt.id
  taskType : identity.taskType = attempt.format.taskType
  taskVersion : identity.taskVersion = attempt.format.taskVersion
  payload : identity.payload = attempt.payload

theorem Delivers.read {identity : Identity Value} {attempt : TaskAttempt Value}
    (delivers : Delivers identity attempt) (codec : PayloadCodec Payload Value) :
    readIdentity codec identity = payloadOf codec attempt.format attempt.payload := by
  rw [payloadOf_eq, readIdentity, delivers.taskType, delivers.taskVersion, delivers.payload]

/-! ### The postings of a stream -/

variable {S : StoredAggregate Value}

/-- The commits of one stream. -/
def commitsOf (log : List (Commit S)) (aggregateId : String) : List (Commit S) :=
  log.filter fun commit => commit.aggregateId = aggregateId

theorem length_commitsOf (log : List (Commit S)) (aggregateId : String) :
    (commitsOf log aggregateId).length = (stream log aggregateId).length :=
  (List.length_map _).symm

theorem commitsOf_append (log : List (Commit S)) (commit : Commit S) (aggregateId : String) :
    commitsOf (log ++ [commit]) aggregateId
      = commitsOf log aggregateId ++ if commit.aggregateId = aggregateId then [commit] else [] := by
  unfold commitsOf
  rw [List.filter_append]
  by_cases same : commit.aggregateId = aggregateId
  · simp [same]
  · simp [same]

/-- The stored tasks of numbered commits. -/
def postings (aggregateId : String) (commits : List (Commit S × Nat)) : List (Identity Value) :=
  commits.flatMap fun (commit, position) =>
    commit.tasks.map (postedIdentity S.typeName aggregateId (position + 1))

/-- The rows of a stream in the outbox. -/
def ownTasks (S : StoredAggregate Value) (aggregateId : String) (identities : List (Identity Value)) :
    List (Identity Value) :=
  identities.filter fun identity =>
    identity.aggregateType = S.typeName ∧ identity.aggregateId = aggregateId

/-- **The outbox holds the tasks of the commits**, stream by stream, with the sequences of their
events. -/
def Published (log : List (Commit S)) (identities : List (Identity Value)) : Prop :=
  ∀ aggregateId, ownTasks S aggregateId identities
    = postings aggregateId (commitsOf log aggregateId).zipIdx

theorem mem_postings {aggregateId : String} {commits : List (Commit S)}
    {identity : Identity Value} (member : identity ∈ postings aggregateId commits.zipIdx) :
    ∃ commit position, commits[position]? = some commit ∧ ∃ task ∈ commit.tasks,
      identity = postedIdentity S.typeName aggregateId (position + 1) task := by
  obtain ⟨⟨commit, position⟩, found, inside⟩ := List.mem_flatMap.mp member
  obtain ⟨task, carried, rfl⟩ := List.mem_map.mp inside
  exact ⟨commit, position, List.mk_mem_zipIdx_iff_getElem?.mp found, task, carried, rfl⟩

/-- **Back from a row** to its commit. -/
theorem Published.origin {log : List (Commit S)} {identities : List (Identity Value)}
    (published : Published log identities) {identity : Identity Value}
    (member : identity ∈ identities) (own : identity.aggregateType = S.typeName) :
    ∃ commit position, (commitsOf log identity.aggregateId)[position]? = some commit ∧
      ∃ task ∈ commit.tasks, identity
        = postedIdentity S.typeName identity.aggregateId (position + 1) task := by
  refine mem_postings ?_
  rw [← published identity.aggregateId]
  exact List.mem_filter.mpr ⟨member, decide_eq_true ⟨own, rfl⟩⟩

/-- **Forward from a commit** to the rows of its tasks. -/
theorem Published.posted {log : List (Commit S)} {identities : List (Identity Value)}
    (published : Published log identities) {commit : Commit S} (member : commit ∈ log)
    {task : NewTask Value} (carried : task ∈ commit.tasks) :
    ∃ sequence, postedIdentity S.typeName commit.aggregateId sequence task ∈ identities := by
  have own : commit ∈ commitsOf log commit.aggregateId :=
    List.mem_filter.mpr ⟨member, decide_eq_true rfl⟩
  obtain ⟨position, there⟩ := List.mem_iff_getElem?.mp own
  have posting : postedIdentity S.typeName commit.aggregateId (position + 1) task
      ∈ ownTasks S commit.aggregateId identities := by
    rw [published commit.aggregateId]
    exact List.mem_flatMap.mpr ⟨(commit, position), List.mk_mem_zipIdx_iff_getElem?.mpr there,
      List.mem_map_of_mem carried⟩
  exact ⟨position + 1, (List.mem_filter.mp posting).1⟩

/-- The stored tasks of one commit, among those of its stream. -/
theorem postings_at {aggregateId : String} {commits : List (Commit S)} (start position : Nat) :
    (postings aggregateId (commits.zipIdx start)).filter
        (fun identity => identity.aggregateSequence = start + position + 1)
      = (commits[position]?).elim []
        fun commit => commit.tasks.map (postedIdentity S.typeName aggregateId
          (start + position + 1)) := by
  have others : ∀ (commit : Commit S) (first second : Nat), first ≠ second →
      (commit.tasks.map (postedIdentity S.typeName aggregateId first)).filter
        (fun identity => identity.aggregateSequence = second) = [] := by
    intro commit first second different
    refine List.filter_eq_nil_iff.mpr (List.forall_mem_map.mpr fun _ _ same => ?_)
    exact different (of_decide_eq_true same)
  induction commits generalizing start position with
  | nil => rfl
  | cons commit rest ih =>
    rw [List.zipIdx_cons, postings, List.flatMap_cons, List.filter_append, ← postings]
    cases position with
    | zero =>
      have later : (postings aggregateId (rest.zipIdx (start + 1))).filter
          (fun identity => identity.aggregateSequence = start + 0 + 1) = [] := by
        refine List.filter_eq_nil_iff.mpr fun identity member same => ?_
        obtain ⟨⟨other, place⟩, found, inside⟩ := List.mem_flatMap.mp member
        obtain ⟨task, _, rfl⟩ := List.mem_map.mp inside
        have after := (List.mk_mem_zipIdx_iff_le_and_getElem?_sub.mp found).1
        have equal : place + 1 = start + 0 + 1 := of_decide_eq_true same
        omega
      rw [later, List.append_nil]
      exact List.filter_eq_self.mpr (List.forall_mem_map.mpr fun _ _ => decide_eq_true rfl)
    | succ position =>
      rw [others commit (start + 1) _ (by omega), List.nil_append,
        show start + (position + 1) + 1 = start + 1 + position + 1 by omega, ih]
      rfl

/-- If every commit posts at most one task of a kind, and only some commits post one, there are at
most as many such tasks. -/
theorem countP_postings_le {aggregateId : String} {kind : Identity Value → Bool}
    {commits : List (Commit S)} (posts : Commit S → Bool) (start : Nat)
    (each : ∀ commit ∈ commits, ∀ position,
      (commit.tasks.map (postedIdentity S.typeName aggregateId position)).countP kind
        ≤ if posts commit then 1 else 0) :
    (postings aggregateId (commits.zipIdx start)).countP kind ≤ commits.countP posts := by
  induction commits generalizing start with
  | nil => exact Nat.le_refl 0
  | cons commit rest ih =>
    have first := each commit List.mem_cons_self (start + 1)
    have others := ih (start + 1) fun other member => each other (List.mem_cons_of_mem _ member)
    rw [List.zipIdx_cons, postings, List.flatMap_cons, List.countP_append, List.countP_cons,
      Nat.add_comm]
    exact Nat.add_le_add others first

/-! ### Steps -/

/-- The rows of a commit in the outbox. -/
theorem identities_taskRows (typeName : String) (sequence : Nat) (event : SerializedEvent Value)
    (now : DateTime) (tasks : List (NewTask Value)) :
    (taskRows typeName sequence event now tasks).map OutboxRow.identity
      = tasks.map (postedIdentity typeName event.aggregateId sequence) := by
  unfold taskRows
  rw [List.map_map]
  rfl

theorem ownTasks_posted (aggregateId target typeName : String) (sequence : Nat)
    (tasks : List (NewTask Value)) :
    ownTasks S aggregateId (tasks.map (postedIdentity typeName target sequence))
      = if typeName = S.typeName ∧ target = aggregateId then
          tasks.map (postedIdentity typeName target sequence)
        else [] := by
  unfold ownTasks
  split
  · rename_i own
    exact List.filter_eq_self.mpr (List.forall_mem_map.mpr fun _ _ => decide_eq_true own)
  · rename_i other
    refine List.filter_eq_nil_iff.mpr (List.forall_mem_map.mpr fun _ _ => ?_)
    exact fun same => other (of_decide_eq_true same)

/-- A commit appends its tasks, under the next sequence of its stream. -/
theorem published_append {log : List (Commit S)} {identities : List (Identity Value)}
    (published : Published log identities) (commit : Commit S) :
    Published (log ++ [commit]) (identities ++ commit.tasks.map (postedIdentity S.typeName
      commit.aggregateId ((stream log commit.aggregateId).length + 1))) := by
  intro aggregateId
  have old := published aggregateId
  unfold ownTasks at old
  rw [ownTasks, List.filter_append, old, ← ownTasks, ownTasks_posted, commitsOf_append,
    List.zipIdx_append, postings, postings, List.flatMap_append]
  congr 1
  by_cases same : commit.aggregateId = aggregateId
  · subst same
    rw [if_pos ⟨rfl, rfl⟩, if_pos rfl, length_commitsOf, List.zipIdx_singleton,
      List.flatMap_singleton, Nat.zero_add]
  · rw [if_neg fun both => same both.2, if_neg same]
    rfl

/-- The tasks of another aggregate type are not among them. -/
theorem published_foreign {log : List (Commit S)} {identities : List (Identity Value)}
    (published : Published log identities) {typeName : String} (other : typeName ≠ S.typeName)
    (target : String) (sequence : Nat) (tasks : List (NewTask Value)) :
    Published log (identities ++ tasks.map (postedIdentity typeName target sequence)) := by
  intro aggregateId
  have old := published aggregateId
  unfold ownTasks at old
  rw [ownTasks, List.filter_append, old, ← ownTasks, ownTasks_posted, if_neg fun both => other both.1,
    List.append_nil]

end Postings

end AccountManagement.Service
