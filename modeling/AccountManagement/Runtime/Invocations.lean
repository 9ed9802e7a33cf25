/-
**Handler invocations under leases.**

The queue with any number of processes around it. A process claims tasks with the lease of its
configuration; the tasks of a claim whose reply arrives wait for a worker, are run if the execution
plan allows it, and are settled only after that. Every process reads its own clock, which is ahead
of the database clock by a fixed offset. A running handler stops no later than its deadline: time
does not pass it.

* `handlers_never_overlap`: two invocations of one task are never running together, and their
  intervals of time do not overlap.

A local deadline may lie up to `leaseSlack` after the end of the lease (`Leased`). The safety margin
of the plan covers it: a handler that is running holds its row (`RuntimeSound.holds`).
-/

import AccountManagement.Outbox.Rows
import AccountManagement.Runtime.Deliveries
import AccountManagement.Runtime.LeaseBudget

namespace AccountManagement.Runtime

open AccountManagement.Library AccountManagement.Task AccountManagement.Outbox
open AccountManagement.Store (insertTasks_ok)

section Runtime

variable (Value : Type) [JsonValue Value]

/-! ### Deliveries -/

/-- The time a handler ran, in readings of the database clock. -/
structure Invocation where
  started : DateTime
  stopped : DateTime
deriving DecidableEq

/-- A delivery waits for a worker, is being handled until its deadline at the latest, or is over,
with or without an invocation. -/
inductive Phase where
  | waiting
  | running (started : DateTime) (handlerDeadline : Instant)
  | past (ran : Option Invocation)
deriving DecidableEq

structure RuntimeState where
  queue : QueueState Value
  deliveries : List (Delivery Value Phase)

/-- Transactions of the queue, the settlement of a delivery, the start and the end of a handler, and
the end of a delivery whose handler is not run. -/
inductive RuntimeAction where
  | queue (action : QueueAction Value)
  | settle (index : Nat) (request : SettlementRequest)
  | start (index : Nat) (now : Instant)
  | stop (index : Nat)
  | retire (index : Nat)

variable {Value}

def Phase.isOver : Phase → Bool
  | .past _ => true
  | _ => false

def Phase.isRunning : Phase → Bool
  | .running _ _ => true
  | _ => false

/-- The interval of an invocation, up to the present if it has not ended. -/
def Phase.invocation (clock : DateTime) : Phase → Option Invocation
  | .waiting => none
  | .running started _ => some ⟨started, clock⟩
  | .past ran => ran

namespace RuntimeState

variable (s : RuntimeState Value)

/-- Time does not pass the deadline of a running handler, the lease of a claim is that of its
process, and only deliveries are settled. -/
def permits (config : String → TaskRuntimeConfig) (offset : String → Int) :
    QueueAction Value → Bool
  | .tick clock => s.deliveries.all fun delivery =>
      match delivery.phase with
      | .running _ handlerDeadline => clock + offset delivery.owner ≤ handlerDeadline
      | _ => true
  | .begin (.claim _ owner _ lease _ _) => lease = (config owner).worker.leaseDuration
  | .begin (.settle _ _) => false
  | _ => true

/-- A worker takes a waiting delivery at `now`, and starts its handler if the plan is to run it and
the deadline of the handler has not passed at the present instant of its clock. -/
def invoke (config : TaskRuntimeConfig) (now present : Instant) (delivery : Delivery Value Phase) :
    Option Phase :=
  match delivery.phase with
  | .waiting =>
    match executionPlan now delivery.task.lease.deadline config.worker.handlerTimeout
        config.storage.storageTimeout with
    | .ok (.run handlerDeadline _) =>
      if now ≤ present ∧ present ≤ handlerDeadline then
        some (.running s.queue.clock handlerDeadline)
      else none
    | _ => none
  | _ => none

def setPhase (index : Nat) (delivery : Delivery Value Phase) (phase : Phase) : RuntimeState Value :=
  { s with deliveries := s.deliveries.set index { delivery with phase } }

end RuntimeState

/-! ### The machine -/

variable (Value) in
/-- Any number of processes. `config` is the configuration of a process and `offset` what its clock
is ahead of the database clock. -/
def runtimeMachine (config : String → TaskRuntimeConfig) (offset : String → Int)
    (clock : DateTime) : Machine (RuntimeState Value) (RuntimeAction Value) where
  start := ⟨(queueMachine Value offset clock).start, []⟩
  step s
    | .queue action =>
      if s.permits config offset action then do
        let queue ← (queueMachine Value offset clock).step s.queue action
        return ⟨queue, s.deliveries ++ arrivals .waiting queue action⟩
      else none
    | .settle index request => do
      let delivery ← s.deliveries[index]?
      if delivery.phase.isOver then
        let queue ← (queueMachine Value offset clock).step s.queue
          (.begin (.settle delivery.task request))
        return { s with queue }
      else none
    | .start index now => do
      let delivery ← s.deliveries[index]?
      let phase ← s.invoke (config delivery.owner) now (s.queue.clock + offset delivery.owner)
        delivery
      return s.setPhase index delivery phase
    | .stop index => do
      let delivery ← s.deliveries[index]?
      match delivery.phase with
      | .running started _ =>
        return s.setPhase index delivery (.past (some ⟨started, s.queue.clock⟩))
      | _ => none
    | .retire index => do
      let delivery ← s.deliveries[index]?
      match delivery.phase with
      | .waiting => return s.setPhase index delivery (.past none)
      | _ => none

/-- **Everything a step can do.** -/
inductive RuntimeStep (config : String → TaskRuntimeConfig) (offset : String → Int)
    (s : RuntimeState Value) : RuntimeAction Value → RuntimeState Value → Prop
  | queue (action : QueueAction Value) (after : QueueState Value) :
      s.permits config offset action = true → QueueStep offset s.queue action after →
      RuntimeStep config offset s (.queue action)
        ⟨after, s.deliveries ++ arrivals .waiting after action⟩
  | settle (index : Nat) (request : SettlementRequest) (delivery : Delivery Value Phase)
      (after : QueueState Value) : s.deliveries[index]? = some delivery →
      delivery.phase.isOver = true →
      QueueStep offset s.queue (.begin (.settle delivery.task request)) after →
      RuntimeStep config offset s (.settle index request) { s with queue := after }
  | start (index : Nat) (now : Instant) (delivery : Delivery Value Phase)
      (handlerDeadline settlementDeadline : Instant) : s.deliveries[index]? = some delivery →
      delivery.phase = .waiting →
      executionPlan now delivery.task.lease.deadline (config delivery.owner).worker.handlerTimeout
        (config delivery.owner).storage.storageTimeout
        = .ok (.run handlerDeadline settlementDeadline) →
      s.queue.clock + offset delivery.owner ≤ handlerDeadline →
      RuntimeStep config offset s (.start index now)
        (s.setPhase index delivery (.running s.queue.clock handlerDeadline))
  | stop (index : Nat) (delivery : Delivery Value Phase) (started : DateTime)
      (handlerDeadline : Instant) : s.deliveries[index]? = some delivery →
      delivery.phase = .running started handlerDeadline →
      RuntimeStep config offset s (.stop index)
        (s.setPhase index delivery (.past (some ⟨started, s.queue.clock⟩)))
  | retire (index : Nat) (delivery : Delivery Value Phase) : s.deliveries[index]? = some delivery →
      delivery.phase = .waiting →
      RuntimeStep config offset s (.retire index) (s.setPhase index delivery (.past none))

theorem RuntimeState.invoke_some {s : RuntimeState Value} {config : TaskRuntimeConfig}
    {now present : Instant} {delivery : Delivery Value Phase} {phase : Phase}
    (invoked : s.invoke config now present delivery = some phase) :
    delivery.phase = .waiting ∧ ∃ handlerDeadline settlementDeadline,
      executionPlan now delivery.task.lease.deadline config.worker.handlerTimeout
        config.storage.storageTimeout = .ok (.run handlerDeadline settlementDeadline) ∧
      present ≤ handlerDeadline ∧ phase = .running s.queue.clock handlerDeadline := by
  unfold invoke at invoked
  split at invoked
  · rename_i waiting
    split at invoked
    · rename_i handlerDeadline settlementDeadline planned
      split at invoked
      · rename_i timely
        exact ⟨waiting, handlerDeadline, settlementDeadline, planned, timely.2,
          (Option.some.inj invoked).symm⟩
      · cases invoked
    · cases invoked
  · cases invoked

theorem runtimeMachine_step {config : String → TaskRuntimeConfig} {offset : String → Int}
    {clock : DateTime} {s t : RuntimeState Value} {action : RuntimeAction Value}
    (stepped : (runtimeMachine Value config offset clock).step s action = some t) :
    RuntimeStep config offset s action t := by
  cases action with
  | queue action =>
    simp only [runtimeMachine] at stepped
    split at stepped
    · rename_i permitted
      obtain ⟨after, moved, stepped⟩ := Option.bind_eq_some_iff.mp stepped
      obtain rfl := Option.some.inj stepped
      exact .queue action after permitted (queueMachine_step moved)
    · cases stepped
  | settle index request =>
    obtain ⟨delivery, present, stepped⟩ := Option.bind_eq_some_iff.mp stepped
    split at stepped
    · rename_i past
      obtain ⟨after, moved, stepped⟩ := Option.bind_eq_some_iff.mp stepped
      obtain rfl := Option.some.inj stepped
      exact .settle index request delivery after present past (queueMachine_step moved)
    · cases stepped
  | start index now =>
    obtain ⟨delivery, present, stepped⟩ := Option.bind_eq_some_iff.mp stepped
    obtain ⟨phase, invoked, stepped⟩ := Option.bind_eq_some_iff.mp stepped
    obtain rfl := Option.some.inj stepped
    obtain ⟨waiting, handlerDeadline, settlementDeadline, planned, timely, rfl⟩ :=
      RuntimeState.invoke_some invoked
    exact .start index now delivery handlerDeadline settlementDeadline present waiting planned timely
  | stop index =>
    obtain ⟨delivery, present, stepped⟩ := Option.bind_eq_some_iff.mp stepped
    split at stepped
    · rename_i started handlerDeadline running
      obtain rfl := Option.some.inj stepped
      exact .stop index delivery started handlerDeadline present running
    · cases stepped
  | retire index =>
    obtain ⟨delivery, present, stepped⟩ := Option.bind_eq_some_iff.mp stepped
    split at stepped
    · rename_i waiting
      obtain rfl := Option.some.inj stepped
      exact .retire index delivery present waiting
    · cases stepped

/-! ### The invariant -/

/-- The lease of a delivery: it ends little before the local deadline, and it has ended or the row
of the task is still locked for it. -/
def Leased (offset : String → Int) (s : QueueState Value) (delivery : Delivery Value Phase) : Prop :=
  ∃ until_, delivery.task.lease.deadline < until_ + offset delivery.owner + leaseSlack ∧
    (until_ ≤ s.clock ∨ ∃ row ∈ s.rows, row.id = delivery.task.attempt.id ∧
      row.lockToken = some delivery.token ∧ row.lockedUntil = some until_)

/-- An ended invocation against the phase of another delivery of the same task. -/
def Invocation.Apart (ran : Invocation) : Phase → Prop
  | .running started _ => ran.stopped ≤ started
  | .past (some other) => ran.stopped ≤ other.started ∨ other.stopped ≤ ran.started
  | _ => True

structure RuntimeSound (offset : String → Int) (s : RuntimeState Value) : Prop where
  queue : QueueSound offset s.queue
  distinct : (s.deliveries.map Delivery.token).Nodup
  issued : ∀ delivery ∈ s.deliveries, delivery.token ∈ s.queue.issued
  granted : ∀ delivery ∈ s.deliveries, ∀ lock ∈ s.queue.locks,
    lock.granted ≠ some delivery.token
  settles : ∀ transaction ∈ s.queue.transactions, ∀ task request,
    transaction.operation = .settle task request → ∃ delivery ∈ s.deliveries,
      delivery.token = task.lease.lockToken ∧ delivery.phase.isOver = true
  leased : ∀ delivery ∈ s.deliveries, delivery.phase.isOver = false →
    Leased offset s.queue delivery
  planned : ∀ delivery ∈ s.deliveries, ∀ started handlerDeadline,
    delivery.phase = .running started handlerDeadline →
      s.queue.clock + offset delivery.owner ≤ handlerDeadline ∧
        handlerDeadline + leaseSafetyMargin.asNanos ≤ delivery.task.lease.deadline
  ended : ∀ delivery ∈ s.deliveries, ∀ ran, delivery.phase = .past (some ran) →
    ran.stopped ≤ s.queue.clock
  apart : ∀ delivery ∈ s.deliveries, ∀ other ∈ s.deliveries, delivery.token ≠ other.token →
    delivery.task.attempt.id = other.task.attempt.id → ∀ ran, delivery.phase = .past (some ran) →
      ran.Apart other.phase

/-! ### A running handler holds its row -/

/-- A handler that is running while its lease has ended would have used up the safety margin. -/
theorem not_expired {clock offset handlerDeadline deadline until_ : Int}
    (timely : clock + offset ≤ handlerDeadline)
    (margin : handlerDeadline + leaseSafetyMargin.asNanos ≤ deadline)
    (near : deadline < until_ + offset + leaseSlack) : ¬ until_ ≤ clock := by
  have fiveSeconds : leaseSafetyMargin.asNanos = 5000000000 := rfl
  have slack : leaseSlack = 1037288000 := rfl
  omega

section Sound

variable {config : String → TaskRuntimeConfig} {offset : String → Int} {s : RuntimeState Value}
  (sound : RuntimeSound offset s)
include sound

theorem RuntimeSound.holds {delivery : Delivery Value Phase} (member : delivery ∈ s.deliveries)
    {started : DateTime} {handlerDeadline : Instant}
    (running : delivery.phase = .running started handlerDeadline) :
    ∃ row ∈ s.queue.rows, row.id = delivery.task.attempt.id ∧
      row.lockToken = some delivery.token := by
  obtain ⟨timely, margin⟩ := sound.planned delivery member started handlerDeadline running
  obtain ⟨until_, near, ended | ⟨row, found, named, held, _⟩⟩ :=
    sound.leased delivery member (by rw [running]; rfl)
  · exact absurd ended (not_expired timely margin near)
  · exact ⟨row, found, named, held⟩

/-- **Two running handlers of one task** run for the same delivery. -/
theorem RuntimeSound.exclusive {delivery other : Delivery Value Phase}
    (member : delivery ∈ s.deliveries) (present : other ∈ s.deliveries)
    (running : delivery.phase.isRunning = true) (runs : other.phase.isRunning = true)
    (same : delivery.task.attempt.id = other.task.attempt.id) :
    delivery.token = other.token := by
  cases phase : delivery.phase with
  | waiting | past => rw [phase] at running; cases running
  | running started handlerDeadline =>
    cases phase' : other.phase with
    | waiting | past => rw [phase'] at runs; cases runs
    | running started' handlerDeadline' =>
      obtain ⟨row, found, named, held⟩ := sound.holds member phase
      obtain ⟨row', found', named', held'⟩ := sound.holds present phase'
      obtain rfl := List.inj_on_of_nodup_map sound.queue.keyed found found'
        (named.trans (same.trans named'.symm))
      exact Option.some.inj (held.symm.trans held')

/-! ### Steps of a delivery -/

/-- A delivery that is not over may move on, if its new phase fits its plan and the invocations of
the others. -/
theorem RuntimeSound.setPhase {index : Nat} {delivery : Delivery Value Phase} {phase : Phase}
    (present : s.deliveries[index]? = some delivery) (open_ : delivery.phase.isOver = false)
    (planned : ∀ started handlerDeadline, phase = .running started handlerDeadline →
      s.queue.clock + offset delivery.owner ≤ handlerDeadline ∧
        handlerDeadline + leaseSafetyMargin.asNanos ≤ delivery.task.lease.deadline)
    (ended : ∀ ran, phase = .past (some ran) → ran.stopped ≤ s.queue.clock)
    (before : ∀ other ∈ s.deliveries, other.token ≠ delivery.token →
      other.task.attempt.id = delivery.task.attempt.id → ∀ ran, other.phase = .past (some ran) →
        ran.Apart phase)
    (after : ∀ ran, phase = .past (some ran) → ∀ other ∈ s.deliveries,
      other.token ≠ delivery.token → other.task.attempt.id = delivery.task.attempt.id →
        ran.Apart other.phase) :
    RuntimeSound offset (s.setPhase index delivery phase) := by
  have member : delivery ∈ s.deliveries := List.mem_of_getElem? present
  have tokens : (s.setPhase index delivery phase).deliveries.map Delivery.token
      = s.deliveries.map Delivery.token := by
    have here : (s.deliveries.map Delivery.token)[index]? = some delivery.token := by
      rw [List.getElem?_map, present]
      rfl
    obtain ⟨inside, same⟩ := List.getElem?_eq_some_iff.mp here
    show (s.deliveries.set index _).map Delivery.token = _
    rw [List.map_set]
    show (s.deliveries.map Delivery.token).set index delivery.token = _
    rw [← same]
    exact List.set_getElem_self inside
  have kept : ∀ other ∈ (s.setPhase index delivery phase).deliveries,
      other = { delivery with phase } ∨ other ∈ s.deliveries :=
    fun other found => (List.mem_or_eq_of_mem_set found).symm
  refine ⟨sound.queue, ?_, ?_, ?_, ?_, ?_, ?_, ?_, ?_⟩
  · rw [tokens]
    exact sound.distinct
  · intro other found
    rcases kept other found with rfl | old
    · exact sound.issued delivery member
    · exact sound.issued other old
  · intro other found
    rcases kept other found with rfl | old
    · exact sound.granted delivery member
    · exact sound.granted other old
  · intro transaction began task request settles
    obtain ⟨other, old, named, past⟩ := sound.settles transaction began task request settles
    refine ⟨other, ?_, named, past⟩
    obtain ⟨place, found⟩ := List.mem_iff_getElem?.mp old
    have different : index ≠ place := by
      rintro rfl
      obtain rfl := Option.some.inj (present.symm.trans found)
      rw [open_] at past
      cases past
    refine List.mem_of_getElem? (i := place) ?_
    show (s.deliveries.set index _)[place]? = some other
    rw [List.getElem?_set_ne different]
    exact found
  · intro other found
    rcases kept other found with rfl | old
    · exact fun _ => sound.leased delivery member open_
    · exact sound.leased other old
  · intro other found
    rcases kept other found with rfl | old
    · exact planned
    · exact sound.planned other old
  · intro other found
    rcases kept other found with rfl | old
    · exact ended
    · exact sound.ended other old
  · intro one found other found' different same ran past
    rcases kept one found with rfl | old
    · rcases kept other found' with rfl | old'
      · exact absurd rfl different
      · exact after ran past other old' different.symm same.symm
    · rcases kept other found' with rfl | old'
      · exact before one old different same ran past
      · exact sound.apart one old other old' different same ran past

theorem RuntimeSound.start {index : Nat} {now : Instant} {delivery : Delivery Value Phase}
    {handlerDeadline settlementDeadline : Instant}
    (present : s.deliveries[index]? = some delivery) (waiting : delivery.phase = .waiting)
    (planned : executionPlan now delivery.task.lease.deadline
      (config delivery.owner).worker.handlerTimeout (config delivery.owner).storage.storageTimeout
      = .ok (.run handlerDeadline settlementDeadline))
    (timely : s.queue.clock + offset delivery.owner ≤ handlerDeadline) :
    RuntimeSound offset
      (s.setPhase index delivery (.running s.queue.clock handlerDeadline)) := by
  obtain ⟨_, settlement, enough⟩ := executionPlan_run planned
  refine sound.setPhase present (by rw [waiting]; rfl) ?_ nofun ?_ nofun
  · rintro _ _ ⟨⟩
    refine ⟨timely, le_sub_iff_add_le.mp ?_⟩
    rw [← settlement]
    exact (le_add_of_nonneg_right (Int.natCast_nonneg _)).trans enough
  · exact fun other found _ _ ran past => sound.ended other found ran past

theorem RuntimeSound.stop {index : Nat} {delivery : Delivery Value Phase} {started : DateTime}
    {handlerDeadline : Instant} (present : s.deliveries[index]? = some delivery)
    (running : delivery.phase = .running started handlerDeadline) :
    RuntimeSound offset
      (s.setPhase index delivery (.past (some ⟨started, s.queue.clock⟩))) := by
  have member : delivery ∈ s.deliveries := List.mem_of_getElem? present
  have earlier : ∀ other ∈ s.deliveries, other.token ≠ delivery.token →
      other.task.attempt.id = delivery.task.attempt.id → ∀ ran, other.phase = .past (some ran) →
        ran.stopped ≤ started := by
    intro other found different same ran past
    have apart := sound.apart other found delivery member different same ran past
    rw [running] at apart
    exact apart
  refine sound.setPhase present (by rw [running]; rfl) nofun ?_ ?_ ?_
  · rintro _ ⟨⟩
    exact le_refl _
  · exact fun other found different same ran past =>
      .inl (earlier other found different same ran past)
  · rintro _ ⟨⟩ other found different same
    cases phase : other.phase with
    | waiting => trivial
    | running =>
      refine absurd (sound.exclusive found member ?_ ?_ same) different
      · rw [phase]
        rfl
      · rw [running]
        rfl
    | past ran =>
      cases ran with
      | none => trivial
      | some ran => exact .inr (earlier other found different same ran phase)

theorem RuntimeSound.retire {index : Nat} {delivery : Delivery Value Phase}
    (present : s.deliveries[index]? = some delivery) (waiting : delivery.phase = .waiting) :
    RuntimeSound offset (s.setPhase index delivery (.past none)) :=
  sound.setPhase present (by rw [waiting]; rfl) nofun nofun (fun _ _ _ _ _ _ => trivial) nofun

/-! ### Steps of the queue -/

/-- **The lease of an open delivery** is ended by its time alone: a settlement needs a delivery that
is over, and a recovery a lease that has run out. -/
theorem RuntimeSound.leased_step {action : QueueAction Value} {after : QueueState Value}
    (stepped : QueueStep offset s.queue action after) {delivery : Delivery Value Phase}
    (member : delivery ∈ s.deliveries) (open_ : delivery.phase.isOver = false) :
    Leased offset after delivery := by
  obtain ⟨until_, near, ended | ⟨row, found, named, held, ends⟩⟩ :=
    sound.leased delivery member open_
  · exact ⟨until_, near, .inl (ended.trans stepped.clock_le)⟩
  · refine ⟨until_, near, ?_⟩
    have kept : row ∈ after.rows → until_ ≤ after.clock ∨ ∃ row ∈ after.rows,
        row.id = delivery.task.attempt.id ∧ row.lockToken = some delivery.token ∧
          row.lockedUntil = some until_ :=
      fun found => .inr ⟨row, found, named, held, ends⟩
    have unlocked : ∀ {status}, row.status = status → status ≠ .processing → False := by
      intro status same other
      rw [(sound.queue.checks row found).unlocked (same ▸ other)] at held
      cases held
    cases stepped with
    | tick | begin | lock | miss | write | abort => exact kept found
    | publish typeName event tasks rows inserted =>
      obtain ⟨rfl, _, _⟩ := insertTasks_ok inserted
      exact kept (List.mem_append_left _ found)
    | commit index transaction lost reply active _ _ =>
      by_cases touched : ∃ lock ∈ s.queue.locksOf index, ∃ new, lock.written = some new ∧
          new.id = row.id
      · obtain ⟨lock, own, new, wrote, same⟩ := touched
        obtain ⟨inside, owned⟩ := List.mem_filter.mp own
        obtain ⟨transition, work⟩ := Lock.written_some wrote
        obtain ⟨current, applies⟩ := sound.queue.applies inside work
        obtain ⟨holder, running, locked⟩ := sound.queue.locks lock inside
        rw [of_decide_eq_true owned, active] at running
        obtain rfl := Option.some.inj running
        obtain rfl := List.inj_on_of_nodup_map sound.queue.keyed current found
          (applies.id.symm.trans same)
        have began := List.mem_of_getElem? (QueueState.activeAt_some.mp active).1
        have selected := locked.selected
        cases operation : transaction.operation with
        | settle task request =>
          rw [operation] at selected
          obtain ⟨_, token, _⟩ := of_decide_eq_true selected
          obtain ⟨other, present, same, past⟩ :=
            sound.settles transaction began task request operation
          obtain rfl : other = delivery := by
            refine List.inj_on_of_nodup_map sound.distinct present member (same.trans ?_)
            exact Option.some.inj (token.symm.trans held)
          rw [open_] at past
          cases past
        | claim format owner limit lease anchor deadline =>
          rw [operation] at selected
          exact (unlocked (of_decide_eq_true selected).1 nofun).elim
        | recoverExpired limit =>
          rw [operation] at selected
          have expired := (of_decide_eq_true selected).2
          rw [ends] at expired
          refine .inl ((of_decide_eq_true expired).trans ?_)
          show transaction.timestamp ≤ ((s.queue.locksOf index).foldl QueueState.release s.queue).clock
          rw [(foldl_release_frame (s.queue.locksOf index) s.queue).1]
          exact (sound.queue.begun transaction began).1
        | requeue id =>
          rw [operation] at selected
          exact (unlocked (of_decide_eq_true selected).2 nofun).elim
      · exact kept (mem_foldl_release found fun lock own new wrote same =>
          touched ⟨lock, own, new, wrote, same⟩)

theorem RuntimeSound.moves {action : QueueAction Value} {after : QueueState Value}
    (stepped : QueueStep offset s.queue action after)
    (timely : ∀ delivery ∈ s.deliveries, ∀ started handlerDeadline,
      delivery.phase = .running started handlerDeadline →
        after.clock + offset delivery.owner ≤ handlerDeadline)
    (settles : ∀ task request, action = .begin (.settle task request) →
      ∃ delivery ∈ s.deliveries, delivery.token = task.lease.lockToken ∧
        delivery.phase.isOver = true) :
    RuntimeSound offset { s with queue := after } := by
  refine ⟨queueSound_step sound.queue stepped, sound.distinct, ?_, ?_, ?_, ?_, ?_, ?_, sound.apart⟩
  · exact fun delivery member => stepped.issued (sound.issued delivery member)
  · intro delivery member lock found granted
    obtain ⟨other, old, _, before⟩ :=
      stepped.granted_before (sound.issued delivery member) found granted
    exact sound.granted delivery member other old before
  · intro transaction member task request operation
    rcases stepped.settles member operation with ⟨before, old, same⟩ | began
    · exact sound.settles before old task request same
    · exact settles task request began
  · exact fun delivery member open_ => sound.leased_step stepped member open_
  · intro delivery member started handlerDeadline running
    exact ⟨timely delivery member started handlerDeadline running,
      (sound.planned delivery member started handlerDeadline running).2⟩
  · exact fun delivery member ran past =>
      (sound.ended delivery member ran past).trans stepped.clock_le

/-- Deliveries arrive: they wait, and their tokens are those of rows and of no other delivery. -/
theorem RuntimeSound.receive {new : List (Delivery Value Phase)}
    (waiting : ∀ delivery ∈ new, delivery.phase = .waiting)
    (distinct : ((s.deliveries ++ new).map Delivery.token).Nodup)
    (held : ∀ delivery ∈ new, delivery.token ∈ s.queue.rows.filterMap OutboxRow.lockToken)
    (leased : ∀ delivery ∈ new, Leased offset s.queue delivery) :
    RuntimeSound offset { s with deliveries := s.deliveries ++ new } := by
  refine ⟨sound.queue, distinct, ?_, ?_, ?_, ?_, ?_, ?_, ?_⟩
  · refine List.forall_mem_append.mpr ⟨sound.issued, fun delivery member => ?_⟩
    exact sound.queue.issued _ (List.mem_append_left _ (held delivery member))
  · refine List.forall_mem_append.mpr ⟨sound.granted, fun delivery member lock found granted => ?_⟩
    refine (List.nodup_append.mp sound.queue.tokens).2.2 _ (held delivery member) _ ?_ rfl
    exact List.mem_append_left _ (List.mem_filterMap.mpr ⟨lock, found, granted⟩)
  · intro transaction member task request operation
    obtain ⟨delivery, old, same, past⟩ := sound.settles transaction member task request operation
    exact ⟨delivery, List.mem_append_left _ old, same, past⟩
  · exact List.forall_mem_append.mpr ⟨sound.leased, fun delivery member _ => leased delivery member⟩
  · refine List.forall_mem_append.mpr ⟨sound.planned, fun delivery member _ _ running => ?_⟩
    rw [waiting delivery member] at running
    cases running
  · refine List.forall_mem_append.mpr ⟨sound.ended, fun delivery member _ past => ?_⟩
    rw [waiting delivery member] at past
    cases past
  · intro delivery member other member' different same ran past
    rcases List.mem_append.mp member with old | arrived
    · rcases List.mem_append.mp member' with old' | arrived'
      · exact sound.apart delivery old other old' different same ran past
      · rw [waiting other arrived']
        trivial
    · rw [waiting delivery arrived] at past
      cases past

end Sound

/-! ### Runs -/

/-- A permitted step of the queue, without its deliveries. -/
theorem RuntimeSound.permitted {config : String → TaskRuntimeConfig} {offset : String → Int}
    {s : RuntimeState Value} (sound : RuntimeSound offset s) {action : QueueAction Value}
    {after : QueueState Value} (permits : s.permits config offset action = true)
    (stepped : QueueStep offset s.queue action after) :
    RuntimeSound offset { s with queue := after } := by
  refine sound.moves stepped (fun delivery member started handlerDeadline running => ?_) ?_
  · have unchanged : after.clock = s.queue.clock →
        after.clock + offset delivery.owner ≤ handlerDeadline := by
      intro same
      rw [same]
      exact (sound.planned delivery member started handlerDeadline running).1
    cases stepped with
    | tick clock later =>
      have timely := List.all_eq_true.mp permits delivery member
      rw [running] at timely
      exact of_decide_eq_true timely
    | publish | begin | lock | miss | write | abort => exact unchanged rfl
    | commit index => exact unchanged (foldl_release_frame (s.queue.locksOf index) s.queue).1
  · rintro task request rfl
    cases permits

/-- **A permitted step of the queue** and the deliveries it brings. -/
theorem RuntimeSound.queueStep {config : String → TaskRuntimeConfig} {offset : String → Int}
    {s : RuntimeState Value} (sound : RuntimeSound offset s) {action : QueueAction Value}
    {after : QueueState Value} (permits : s.permits config offset action = true)
    (stepped : QueueStep offset s.queue action after) :
    RuntimeSound offset ⟨after, s.deliveries ++ arrivals .waiting after action⟩ := by
  have moved := sound.permitted permits stepped
  obtain ⟨tokens, new⟩ := arrivals_granted sound.queue stepped Phase.waiting
  refine moved.receive (fun delivery found => (new delivery found).1) ?_ ?_ ?_
  · have once : (s.queue.locks.filterMap Lock.granted).Nodup := by
      refine sound.queue.tokens.sublist ?_
      exact (List.sublist_append_left _ _).trans (List.sublist_append_right _ _)
    rw [List.map_append]
    refine List.nodup_append.mpr ⟨sound.distinct, once.sublist tokens, ?_⟩
    rintro token old _ arriving rfl
    obtain ⟨delivery, member, rfl⟩ := List.mem_map.mp old
    obtain ⟨lock, found, grants⟩ := List.mem_filterMap.mp (tokens.subset arriving)
    exact sound.granted delivery member lock found grants
  · intro delivery found
    obtain ⟨_, row, present, granted⟩ := new delivery found
    exact List.mem_filterMap.mpr ⟨row, present, granted.token⟩
  · intro delivery found
    obtain ⟨_, row, present, granted⟩ := new delivery found
    obtain ⟨until_, ends, near⟩ := granted.lease
    exact ⟨until_, near, .inr ⟨row, present, granted.id, granted.token, ends⟩⟩

theorem runtimeSound_step {config : String → TaskRuntimeConfig} {offset : String → Int}
    {s t : RuntimeState Value} {action : RuntimeAction Value} (sound : RuntimeSound offset s)
    (stepped : RuntimeStep config offset s action t) : RuntimeSound offset t := by
  cases stepped with
  | queue action after permits stepped => exact sound.queueStep permits stepped
  | settle index request delivery after present past stepped =>
    refine sound.moves stepped (fun other member started handlerDeadline running => ?_) ?_
    · have same : after.clock = s.queue.clock := by
        cases stepped
        rfl
      rw [same]
      exact (sound.planned other member started handlerDeadline running).1
    · rintro task request ⟨⟩
      exact ⟨delivery, List.mem_of_getElem? present, rfl, past⟩
  | start index now delivery handlerDeadline settlementDeadline present waiting planned timely =>
    exact sound.start present waiting planned timely
  | stop index delivery started handlerDeadline present running => exact sound.stop present running
  | retire index delivery present waiting => exact sound.retire present waiting

theorem runtimeSound_reachable {config : String → TaskRuntimeConfig} {offset : String → Int}
    {clock : DateTime} {s : RuntimeState Value}
    (reached : (runtimeMachine Value config offset clock).Reachable s) : RuntimeSound offset s := by
  refine reached.invariant (P := RuntimeSound offset) ?_ fun _ _ _ _ sound stepped =>
    runtimeSound_step sound (runtimeMachine_step stepped)
  show RuntimeSound offset ⟨(queueMachine Value offset clock).start, []⟩
  exact ⟨queueSound_reachable .start, List.nodup_nil, fun _ => nofun, fun _ => nofun, fun _ => nofun,
    fun _ => nofun, fun _ => nofun, fun _ => nofun, fun _ => nofun⟩

/-- **Handlers of one task never overlap.** For any processes with accepted configurations, any
offsets of their clocks and any run: of two deliveries of the same task at most one is being
handled, and the intervals in which they were handled, up to the present, do not overlap. -/
theorem handlers_never_overlap (config : String → TaskRuntimeConfig) (offset : String → Int)
    (clock : DateTime) {s : RuntimeState Value}
    (reached : (runtimeMachine Value config offset clock).Reachable s) {first second : Nat}
    (different : first ≠ second) {delivery other : Delivery Value Phase}
    (present : s.deliveries[first]? = some delivery) (present' : s.deliveries[second]? = some other)
    (same : delivery.task.attempt.id = other.task.attempt.id) :
    ¬ (delivery.phase.isRunning = true ∧ other.phase.isRunning = true) ∧
      ∀ ran ran', delivery.phase.invocation s.queue.clock = some ran →
        other.phase.invocation s.queue.clock = some ran' →
        ran.stopped ≤ ran'.started ∨ ran'.stopped ≤ ran.started := by
  have sound := runtimeSound_reachable reached
  have member := List.mem_of_getElem? present
  have member' := List.mem_of_getElem? present'
  have tokens : delivery.token ≠ other.token := by
    intro equal
    obtain ⟨inside, _⟩ := List.getElem?_eq_some_iff.mp present
    refine different ((List.getElem?_inj (by rwa [List.length_map]) sound.distinct).mp ?_)
    rw [List.getElem?_map, List.getElem?_map, present, present', Option.map_some, Option.map_some,
      equal]
  have exclusive : ¬ (delivery.phase.isRunning = true ∧ other.phase.isRunning = true) :=
    fun running => tokens (sound.exclusive member member' running.1 running.2 same)
  refine ⟨exclusive, fun ran ran' invoked invoked' => ?_⟩
  cases phase : delivery.phase with
  | waiting =>
    rw [phase] at invoked
    cases invoked
  | running started handlerDeadline =>
    rw [phase] at invoked exclusive
    obtain rfl := Option.some.inj invoked
    cases phase' : other.phase with
    | waiting =>
      rw [phase'] at invoked'
      cases invoked'
    | running => exact absurd ⟨rfl, by rw [phase']; rfl⟩ exclusive
    | past past =>
      rw [phase'] at invoked'
      obtain rfl : past = some ran' := invoked'
      have apart := sound.apart other member' delivery member tokens.symm same.symm ran' phase'
      rw [phase] at apart
      exact .inr apart
  | past past =>
    rw [phase] at invoked
    obtain rfl : past = some ran := invoked
    have apart := sound.apart delivery member other member' tokens same ran phase
    cases phase' : other.phase with
    | waiting =>
      rw [phase'] at invoked'
      cases invoked'
    | running started handlerDeadline =>
      rw [phase'] at invoked' apart
      obtain rfl := Option.some.inj invoked'
      exact .inl apart
    | past past' =>
      rw [phase'] at invoked' apart
      obtain rfl : past' = some ran' := invoked'
      exact apart

end Runtime

/-- A handler that times out, the recovery of its lease, and the second delivery in another
process. -/
def redelivered : List (RuntimeAction (Store.PlainValue Nat Nat)) :=
  let lease : Duration := .fromSecs 60
  let jitter : Jitter := .neutral
  [.queue (.publish "user_account" mailEvent [Store.mailTask 1 .now trivial]),
    .queue (.begin (.claim mailFormat "first" 1 lease 0 60000000000)), .queue (.lock 0 1),
    .queue (.write 0 1 7 jitter), .queue (.commit 0 false), .start 0 0,
    .queue (.tick 15000000000), .stop 0, .queue (.tick 60000000000),
    .queue (.begin (.recoverExpired 10)), .queue (.lock 1 1), .queue (.write 1 1 0 jitter),
    .queue (.commit 1 false), .queue (.tick 65000000000),
    .queue (.begin (.claim mailFormat "second" 1 lease 65000000500 125000000500)),
    .queue (.lock 2 1), .queue (.write 2 1 8 jitter), .queue (.commit 2 false),
    .start 1 65000000500]

theorem handlers_never_overlap_redelivered :
    let offset : String → Int := fun owner => if owner = "second" then 500 else 0
    let s := (runtimeMachine (Store.PlainValue Nat Nat) (fun _ => .default) offset 0).after
      redelivered (by decide +kernel)
    ∃ delivery other, s.deliveries[0]? = some delivery ∧ s.deliveries[1]? = some other ∧
      delivery.phase = .past (some ⟨0, 15000000000⟩) ∧
      other.phase = .running 65000000000 80000000500 ∧
      ¬ (delivery.phase.isRunning = true ∧ other.phase.isRunning = true) := by
  intro offset s
  have first : (s.deliveries[0]?).map (fun delivery => (delivery.task.attempt.id, delivery.phase))
      = some (1, .past (some ⟨0, 15000000000⟩)) := by decide +kernel
  have second : (s.deliveries[1]?).map (fun delivery => (delivery.task.attempt.id, delivery.phase))
      = some (1, .running 65000000000 80000000500) := by decide +kernel
  obtain ⟨delivery, present, ran⟩ := Option.map_eq_some_iff.mp first
  obtain ⟨other, present', runs⟩ := Option.map_eq_some_iff.mp second
  obtain ⟨id, phase⟩ := Prod.mk.inj ran
  obtain ⟨id', phase'⟩ := Prod.mk.inj runs
  refine ⟨delivery, other, present, present', phase, phase', ?_⟩
  exact (handlers_never_overlap (fun _ => .default) offset 0
    (Machine.reachable_after redelivered (by decide +kernel)) (by decide) present present'
    (id.trans id'.symm)).1

end AccountManagement.Runtime
