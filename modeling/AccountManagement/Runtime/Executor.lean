/-
**One execution, poll by poll.**

`execute_and_settle` as a machine in integer time: it plans, polls the handler under a timer, reads the
clock, and polls the settlement under a timer. The environment decides how much time passes and what a
poll of the handler or of the queue returns, if it returns. In a biased select the timer is looked at
first. A timer that was polled wakes the task at its deadline, so no time passes beyond it; anywhere
else the task can be delayed.

* `execution_respects_lease`: what every execution has done, whatever the delays: when it started the
  handler, when and how often it began a settlement, what it asked for and when it stopped waiting;
  and that without extra delays a handler that may run leaves its settlement the whole storage timeout.

`Recorded` is the invariant: the phase determines the events so far, up to their times.
-/

import AccountManagement.Library.Machine
import AccountManagement.Runtime.Handling
import AccountManagement.Runtime.LeaseBudget

namespace AccountManagement.Runtime

open AccountManagement.Library AccountManagement.Task

/-! ### The machine -/

/-- One call of `execute_and_settle`: when it plans, the lease, the budgets and the attempt. -/
structure ExecutorCall where
  start : Instant
  leaseDeadline : Instant
  handlerTimeout : Duration
  storageTimeout : Duration
  attempt : Int
  startFits : Instant.Representable start
  handlerPositive : handlerTimeout.isZero = false
  storagePositive : storageTimeout.isZero = false

/-- The last instant at which a settlement may be waited for. -/
def ExecutorCall.lastSafe (call : ExecutorCall) : Instant :=
  call.leaseDeadline - leaseSafetyMargin.asNanos

/-- The plan at a reading of the clock. -/
def ExecutorCall.planAt (call : ExecutorCall) (now : Instant) :
    Except TaskProcessingError ExecutionPlan :=
  executionPlan now call.leaseDeadline call.handlerTimeout call.storageTimeout

/-- The request for a task whose handler has no time left. -/
def ExecutorCall.unstartedRequest (call : ExecutorCall) (jitter : Jitter) : SettlementRequest :=
  .retry (redeliveryBackoff call.attempt jitter) "insufficient lease budget before handler execution"

/-- Where an execution is. A select that was polled has armed its timer. -/
inductive ExecutorPhase where
  | planning
  | running (handlerDeadline settlementDeadline : Instant) (polled : Bool)
  | settling (request : SettlementRequest) (settlementDeadline : Instant)
  | awaiting (request : SettlementRequest) (deadline : Instant) (polled : Bool)
  | returned (result : Except TaskProcessingError SettlementResult)
  | panicked
deriving DecidableEq

/-- What an execution does that others can see. -/
inductive ExecutorEvent where
  | planned (time : Instant)
  | handlerStarted (time : Instant)
  | handlerReturned (time : Instant) (result : HandlerResult)
  | handlerStopped (time : Instant)
  | settleStarted (time : Instant) (request : SettlementRequest) (deadline : Instant)
  | settleEnded (time : Instant)
deriving DecidableEq

structure ExecutorState where
  clock : Instant
  phase : ExecutorPhase
  events : List ExecutorEvent
deriving DecidableEq

/-- Time passes, or the execution is polled; a poll of the handler or of the queue may be ready. -/
inductive ExecutorAction where
  | wait (nanos : Nat)
  | plan (jitter : Jitter)
  | pollHandler (ready : Option HandlerResult) (jitter : Jitter)
  | readClock
  | pollSettle (ready : Option (Except TaskProcessingError SettlementResult))

/-- The deadline of the armed timer. -/
def ExecutorPhase.armed : ExecutorPhase → Option Instant
  | .running handlerDeadline _ true => some handlerDeadline
  | .awaiting _ deadline true => some deadline
  | _ => none

namespace ExecutorState

variable (call : ExecutorCall) (s : ExecutorState)

/-- Go on in a phase, after more events. -/
def goOn (phase : ExecutorPhase) (more : List ExecutorEvent) : ExecutorState :=
  { s with phase, events := s.events ++ more }

/-- Until a timer that was polled, and no further. -/
def wait (nanos : Nat) : Option ExecutorState :=
  match s.phase.armed with
  | some deadline => if s.clock + nanos ≤ deadline then some { s with clock := s.clock + nanos }
      else none
  | none => some { s with clock := s.clock + nanos }

def plan (jitter : Jitter) : ExecutorState :=
  match call.planAt s.clock with
  | .error error => s.goOn (.returned (.error error)) [.planned s.clock]
  | .ok .recoverOnly => s.goOn (.returned (.error .leaseBudgetExhausted)) [.planned s.clock]
  | .ok (.retryOnly settlementDeadline) =>
    s.goOn (.settling (call.unstartedRequest jitter) settlementDeadline) [.planned s.clock]
  | .ok (.run handlerDeadline settlementDeadline) =>
    s.goOn (.running handlerDeadline settlementDeadline false) [.planned s.clock]

/-- The request for what the handler, or its timer, has ended with. -/
def requestFor (result : HandlerResult) (jitter : Jitter) : SettlementRequest :=
  settlementRequest result (fallbackDelay result call.attempt jitter)

def pollHandler (handlerDeadline settlementDeadline : Instant) (polled : Bool)
    (ready : Option HandlerResult) (jitter : Jitter) : ExecutorState :=
  if handlerDeadline ≤ s.clock then
    s.goOn (.settling (requestFor call handlerTimedOut jitter) settlementDeadline)
      [.handlerStopped s.clock]
  else
    let started := if polled then [] else [ExecutorEvent.handlerStarted s.clock]
    match ready with
    | none => s.goOn (.running handlerDeadline settlementDeadline true) started
    | some result => s.goOn (.settling (requestFor call result jitter) settlementDeadline)
        (started ++ [.handlerReturned s.clock result])

/-- The clock is read again before the settlement; the sum of clock and timeout can overflow. -/
def readClock (request : SettlementRequest) (settlementDeadline : Instant) : ExecutorState :=
  if settlementDeadline ≤ s.clock then s.goOn (.returned (.error .leaseBudgetExhausted)) []
  else
    match s.clock.checkedAdd call.storageTimeout with
    | none => s.goOn .panicked []
    | some deadline => s.goOn (.awaiting request (min deadline settlementDeadline) false) []

def pollSettle (request : SettlementRequest) (deadline : Instant) (polled : Bool)
    (ready : Option (Except TaskProcessingError SettlementResult)) : ExecutorState :=
  if deadline ≤ s.clock then
    s.goOn (.returned (.error .timedOut)) (if polled then [.settleEnded s.clock] else [])
  else
    let started := if polled then [] else [ExecutorEvent.settleStarted s.clock request deadline]
    match ready with
    | none => s.goOn (.awaiting request deadline true) started
    | some result => s.goOn (.returned result) (started ++ [.settleEnded s.clock])

end ExecutorState

/-- The machine of one execution. -/
def executorMachine (call : ExecutorCall) : Machine ExecutorState ExecutorAction where
  start := ⟨call.start, .planning, []⟩
  step s action :=
    match s.phase, action with
    | _, .wait nanos => s.wait nanos
    | .planning, .plan jitter => some (s.plan call jitter)
    | .running handlerDeadline settlementDeadline polled, .pollHandler ready jitter =>
      some (s.pollHandler call handlerDeadline settlementDeadline polled ready jitter)
    | .settling request settlementDeadline, .readClock =>
      some (s.readClock call request settlementDeadline)
    | .awaiting request deadline polled, .pollSettle ready =>
      some (s.pollSettle request deadline polled ready)
    | _, _ => none

section Executor

variable {call : ExecutorCall} {s t : ExecutorState}

/-- **One step of an execution.** -/
inductive Moved (call : ExecutorCall) (s : ExecutorState) : ExecutorAction → ExecutorState → Prop
  | wait (nanos : Nat) (t : ExecutorState) : s.wait nanos = some t → Moved call s (.wait nanos) t
  | plan (jitter : Jitter) : s.phase = .planning → Moved call s (.plan jitter) (s.plan call jitter)
  | pollHandler (handlerDeadline settlementDeadline : Instant) (polled : Bool)
      (ready : Option HandlerResult) (jitter : Jitter) :
      s.phase = .running handlerDeadline settlementDeadline polled →
      Moved call s (.pollHandler ready jitter)
        (s.pollHandler call handlerDeadline settlementDeadline polled ready jitter)
  | readClock (request : SettlementRequest) (settlementDeadline : Instant) :
      s.phase = .settling request settlementDeadline →
      Moved call s .readClock (s.readClock call request settlementDeadline)
  | pollSettle (request : SettlementRequest) (deadline : Instant) (polled : Bool)
      (ready : Option (Except TaskProcessingError SettlementResult)) :
      s.phase = .awaiting request deadline polled →
      Moved call s (.pollSettle ready) (s.pollSettle request deadline polled ready)

theorem executor_moved {action : ExecutorAction}
    (stepped : (executorMachine call).step s action = some t) : Moved call s action t := by
  simp only [executorMachine] at stepped
  split at stepped
  · exact .wait _ t stepped
  · rename_i jitter phase
    obtain rfl := Option.some.inj stepped
    exact .plan jitter phase
  · rename_i phase
    obtain rfl := Option.some.inj stepped
    exact .pollHandler _ _ _ _ _ phase
  · rename_i phase
    obtain rfl := Option.some.inj stepped
    exact .readClock _ _ phase
  · rename_i phase
    obtain rfl := Option.some.inj stepped
    exact .pollSettle _ _ _ _ phase
  · cases stepped

/-! ### The invariant -/

/-- The events until a settlement is asked for, with the request and the last safe instant. -/
inductive Prelude (call : ExecutorCall) :
    List ExecutorEvent → SettlementRequest → Instant → Prop
  | retryOnly (time settlementDeadline : Instant) (jitter : Jitter) :
      call.planAt time = .ok (.retryOnly settlementDeadline) →
      Prelude call [.planned time] (call.unstartedRequest jitter) settlementDeadline
  | returned (time begun ended handlerDeadline settlementDeadline : Instant)
      (result : HandlerResult) (jitter : Jitter) :
      call.planAt time = .ok (.run handlerDeadline settlementDeadline) →
      time ≤ begun → begun ≤ ended → ended < handlerDeadline →
      Prelude call [.planned time, .handlerStarted begun, .handlerReturned ended result]
        (ExecutorState.requestFor call result jitter) settlementDeadline
  | stopped (time ended handlerDeadline settlementDeadline : Instant)
      (begun : List ExecutorEvent) (jitter : Jitter) :
      call.planAt time = .ok (.run handlerDeadline settlementDeadline) →
      (begun = [] ∨ ∃ instant, begun = [.handlerStarted instant]) → handlerDeadline ≤ ended →
      Prelude call ([.planned time] ++ begun ++ [.handlerStopped ended])
        (ExecutorState.requestFor call handlerTimedOut jitter) settlementDeadline

/-- What an execution has done when it is in a phase. -/
inductive Recorded (call : ExecutorCall) (clock : Instant) :
    ExecutorPhase → List ExecutorEvent → Prop
  | planning : Recorded call clock .planning []
  | planned (time handlerDeadline settlementDeadline : Instant) :
      call.planAt time = .ok (.run handlerDeadline settlementDeadline) → time ≤ clock →
      Recorded call clock (.running handlerDeadline settlementDeadline false) [.planned time]
  | running (time begun handlerDeadline settlementDeadline : Instant) :
      call.planAt time = .ok (.run handlerDeadline settlementDeadline) →
      time ≤ begun → begun ≤ clock → clock ≤ handlerDeadline →
      Recorded call clock (.running handlerDeadline settlementDeadline true)
        [.planned time, .handlerStarted begun]
  | settling (before : List ExecutorEvent) (request : SettlementRequest)
      (settlementDeadline : Instant) : Prelude call before request settlementDeadline →
      Recorded call clock (.settling request settlementDeadline) before
  | ready (before : List ExecutorEvent) (request : SettlementRequest)
      (deadline settlementDeadline : Instant) :
      Prelude call before request settlementDeadline → deadline ≤ settlementDeadline →
      Recorded call clock (.awaiting request deadline false) before
  | awaiting (before : List ExecutorEvent) (request : SettlementRequest)
      (deadline settlementDeadline begun : Instant) :
      Prelude call before request settlementDeadline → deadline ≤ settlementDeadline →
      begun < deadline → clock ≤ deadline →
      Recorded call clock (.awaiting request deadline true)
        (before ++ [.settleStarted begun request deadline])
  | refused (time : Instant) (error : TaskProcessingError) :
      (∃ invalid, call.planAt time = .error invalid) ∨
        call.planAt time = .ok .recoverOnly →
      Recorded call clock (.returned (.error error)) [.planned time]
  | unsettled (before : List ExecutorEvent) (request : SettlementRequest)
      (settlementDeadline : Instant) (error : TaskProcessingError) :
      Prelude call before request settlementDeadline →
      Recorded call clock (.returned (.error error)) before
  | panicked (before : List ExecutorEvent) (request : SettlementRequest)
      (settlementDeadline : Instant) : Prelude call before request settlementDeadline →
      Recorded call clock .panicked before
  | settled (before : List ExecutorEvent) (request : SettlementRequest)
      (deadline settlementDeadline begun ended : Instant)
      (result : Except TaskProcessingError SettlementResult) :
      Prelude call before request settlementDeadline → deadline ≤ settlementDeadline →
      begun < deadline → ended ≤ deadline →
      Recorded call clock (.returned result)
        (before ++ [.settleStarted begun request deadline, .settleEnded ended])

/-- The events of an execution are those of its phase. -/
def ExecutorState.Kept (call : ExecutorCall) (s : ExecutorState) : Prop :=
  Recorded call s.clock s.phase s.events

theorem wait_armed {nanos : Nat} {deadline : Instant} (armed : s.phase.armed = some deadline)
    (waited : s.wait nanos = some t) :
    s.clock + nanos ≤ deadline ∧ t = { s with clock := s.clock + nanos } := by
  simp only [ExecutorState.wait, armed] at waited
  split at waited
  · rename_i inside
    exact ⟨inside, (Option.some.inj waited).symm⟩
  · cases waited

theorem kept_wait {nanos : Nat} (kept : s.Kept call) (waited : s.wait nanos = some t) :
    t.Kept call := by
  obtain ⟨clock, phase, events⟩ := s
  have later : clock ≤ clock + nanos := Int.le_add_of_nonneg_right (Int.natCast_nonneg nanos)
  unfold ExecutorState.Kept at kept
  cases kept with
  | planning =>
    obtain rfl := Option.some.inj waited
    exact .planning
  | planned time hd sd plan before =>
    obtain rfl := Option.some.inj waited
    exact .planned time hd sd plan (before.trans later)
  | running time begun hd sd plan ordered before within =>
    obtain ⟨inside, rfl⟩ := wait_armed rfl waited
    exact .running time begun hd sd plan ordered (before.trans later) inside
  | settling _ request sd earlier =>
    obtain rfl := Option.some.inj waited
    exact .settling _ request sd earlier
  | ready _ request deadline sd earlier safe =>
    obtain rfl := Option.some.inj waited
    exact .ready _ request deadline sd earlier safe
  | awaiting before request deadline sd begun earlier safe early within =>
    obtain ⟨inside, rfl⟩ := wait_armed rfl waited
    exact .awaiting before request deadline sd begun earlier safe early inside
  | refused time error plan =>
    obtain rfl := Option.some.inj waited
    exact .refused time error plan
  | unsettled _ request sd error earlier =>
    obtain rfl := Option.some.inj waited
    exact .unsettled _ request sd error earlier
  | panicked _ request sd earlier =>
    obtain rfl := Option.some.inj waited
    exact .panicked _ request sd earlier
  | settled before request deadline sd begun ended result earlier safe early late =>
    obtain rfl := Option.some.inj waited
    exact .settled before request deadline sd begun ended result earlier safe early late

theorem kept_plan (jitter : Jitter) (none : s.events = []) : (s.plan call jitter).Kept call := by
  unfold ExecutorState.plan ExecutorState.goOn
  rw [none]
  split
  · rename_i error failed
    exact .refused s.clock error (.inl ⟨error, failed⟩)
  · rename_i recover
    exact .refused s.clock _ (.inr recover)
  · rename_i sd retry
    exact .settling _ _ sd (.retryOnly s.clock sd jitter retry)
  · rename_i hd sd run
    exact .planned s.clock hd sd run (Int.le_refl _)

theorem kept_pollHandler {hd sd : Instant} {polled : Bool} (ready : Option HandlerResult)
    (jitter : Jitter) (recorded : Recorded call s.clock (.running hd sd polled) s.events) :
    (s.pollHandler call hd sd polled ready jitter).Kept call := by
  obtain ⟨clock, phase, events⟩ := s
  unfold ExecutorState.pollHandler ExecutorState.goOn
  cases recorded with
  | planned time _ _ plan before =>
    split
    · rename_i late
      exact .settling _ _ sd (.stopped time clock hd sd [] jitter plan (.inl rfl) late)
    · rename_i early
      have strictly : clock < hd := not_le.mp early
      cases ready with
      | none =>
        exact .running time clock hd sd plan before (Int.le_refl _) (Int.le_of_lt strictly)
      | some result =>
        exact .settling _ _ sd (.returned time clock clock hd sd result jitter plan before
          (Int.le_refl _) strictly)
  | running time begun _ _ plan ordered before within =>
    split
    · rename_i late
      exact .settling _ _ sd (.stopped time clock hd sd [.handlerStarted begun] jitter plan
        (.inr ⟨begun, rfl⟩) late)
    · rename_i early
      cases ready with
      | none => exact .running time begun hd sd plan ordered before within
      | some result =>
        exact .settling _ _ sd (.returned time begun clock hd sd result jitter plan ordered before
          (not_le.mp early))

theorem kept_readClock {request : SettlementRequest} {sd : Instant}
    (earlier : Prelude call s.events request sd) : (s.readClock call request sd).Kept call := by
  unfold ExecutorState.readClock ExecutorState.goOn
  rw [List.append_nil]
  split
  · exact .unsettled _ request sd _ earlier
  · split
    · exact .panicked _ request sd earlier
    · rename_i deadline _
      exact .ready _ request _ sd earlier (min_le_right deadline sd)

theorem kept_pollSettle {request : SettlementRequest} {deadline : Instant} {polled : Bool}
    (ready : Option (Except TaskProcessingError SettlementResult))
    (recorded : Recorded call s.clock (.awaiting request deadline polled) s.events) :
    (s.pollSettle request deadline polled ready).Kept call := by
  obtain ⟨clock, phase, events⟩ := s
  unfold ExecutorState.pollSettle ExecutorState.goOn
  cases recorded with
  | ready _ _ _ sd earlier safe =>
    split
    · rw [if_neg Bool.false_ne_true, List.append_nil]
      exact .unsettled _ request sd _ earlier
    · rename_i early
      have strictly : clock < deadline := not_le.mp early
      cases ready with
      | none =>
        exact .awaiting _ request deadline sd clock earlier safe strictly (Int.le_of_lt strictly)
      | some result =>
        exact .settled _ request deadline sd clock clock result earlier safe strictly
          (Int.le_of_lt strictly)
  | awaiting before _ _ sd begun earlier safe early within =>
    split
    · rw [if_pos rfl]
      show Recorded call clock _ ((before ++ [_]) ++ [_])
      rw [List.append_assoc]
      exact .settled before request deadline sd begun clock _ earlier safe early within
    · cases ready with
      | none =>
        simp only [if_true, List.append_nil]
        exact .awaiting before request deadline sd begun earlier safe early within
      | some result =>
        show Recorded call clock _ ((before ++ [_]) ++ [_])
        rw [List.append_assoc]
        exact .settled before request deadline sd begun clock result earlier safe early within

/-- **The events of an execution**, in every reachable state. -/
theorem kept_reachable (reached : (executorMachine call).Reachable s) : s.Kept call := by
  refine reached.invariant ?_ ?_
  · exact .planning
  · intro s action t _ kept stepped
    cases executor_moved stepped with
    | wait nanos t waited => exact kept_wait kept waited
    | plan jitter phase =>
      rw [ExecutorState.Kept, phase] at kept
      refine kept_plan jitter ?_
      generalize s.events = events at kept
      cases kept
      rfl
    | pollHandler hd sd polled ready jitter phase =>
      rw [ExecutorState.Kept, phase] at kept
      exact kept_pollHandler ready jitter kept
    | readClock request sd phase =>
      rw [ExecutorState.Kept, phase] at kept
      refine kept_readClock ?_
      generalize s.events = events at kept
      cases kept
      assumption
    | pollSettle request deadline polled ready phase =>
      rw [ExecutorState.Kept, phase] at kept
      exact kept_pollSettle ready kept

/-! ### What an execution has done -/

/-- The request that a handler's result asks for. -/
def Asked : HandlerResult → SettlementRequest → Prop
  | .ok (), request => request = .completed
  | .error (.permanent reason), request => request = .failed reason
  | .error (.retry reason retryAfter), request =>
    ∃ delay, request = .retry delay reason ∧ ∀ named, retryAfter = some named → delay = named

theorem requestFor_asked (result : HandlerResult) (jitter : Jitter) :
    Asked result (ExecutorState.requestFor call result jitter) := by
  rcases result with error | done
  · rcases error with ⟨reason, retryAfter⟩ | reason
    · refine ⟨_, rfl, ?_⟩
      rintro named rfl
      rfl
    · rfl
  · rfl

/-- The events around a settlement. -/
def ExecutorEvent.settles : ExecutorEvent → Bool
  | .settleStarted .. => true
  | .settleEnded _ => true
  | _ => false

/-- The beginnings of a settlement. -/
def ExecutorEvent.settleBegins : ExecutorEvent → Bool
  | .settleStarted .. => true
  | _ => false

/-- Why an execution asks for what it asks: the handler has returned before its deadline, or has not,
or there was no time for it. -/
inductive Requested (call : ExecutorCall) (events : List ExecutorEvent) : SettlementRequest → Prop
  | returned (time ended : Instant) (result : HandlerResult) (request : SettlementRequest) :
      .planned time ∈ events → .handlerReturned ended result ∈ events →
      ended < time + call.handlerTimeout.asNanos → Asked result request →
      Requested call events request
  | stopped (time ended : Instant) (delay : Duration) :
      .planned time ∈ events → .handlerStopped ended ∈ events →
      time + call.handlerTimeout.asNanos ≤ ended →
      (∀ instant result, .handlerReturned instant result ∉ events) →
      Requested call events (.retry delay "handler timed out")
  | unstarted (time : Instant) (delay : Duration) :
      .planned time ∈ events →
      call.lastSafe < time + call.handlerTimeout.asNanos + call.storageTimeout.asNanos →
      (∀ instant, .handlerStarted instant ∉ events) →
      Requested call events (.retry delay "insufficient lease budget before handler execution")

/-- What an execution may have done, under its lease. -/
structure RespectsLease (call : ExecutorCall) (s : ExecutorState) : Prop where
  /-- A handler is started only after a plan that leaves it and its settlement their time. -/
  handler : ∀ begun, .handlerStarted begun ∈ s.events → ∃ time, .planned time ∈ s.events ∧
    time + call.handlerTimeout.asNanos + call.storageTimeout.asNanos ≤ call.lastSafe
  once : (s.events.filter ExecutorEvent.settleBegins).length ≤ 1
  begins : ∀ time request deadline, .settleStarted time request deadline ∈ s.events →
    time < call.lastSafe
  stops : ∀ time, .settleEnded time ∈ s.events → time ≤ call.lastSafe
  waits : ∀ request deadline, s.phase = .awaiting request deadline true →
    s.clock ≤ call.lastSafe
  asks : ∀ time request deadline, .settleStarted time request deadline ∈ s.events →
    Requested call s.events request
  /-- Without a safe window neither the handler nor the queue is called. -/
  refuses : ∀ time, .planned time ∈ s.events → call.lastSafe ≤ time →
    (∀ begun, .handlerStarted begun ∉ s.events) ∧
      ∀ begun request deadline, .settleStarted begun request deadline ∉ s.events

theorem planAt_run {time hd sd : Instant} (plan : call.planAt time = .ok (.run hd sd)) :
    sd = call.lastSafe ∧ time < sd ∧ hd = time + call.handlerTimeout.asNanos ∧
      hd + call.storageTimeout.asNanos ≤ sd ∧ Instant.Representable sd := by
  have cases := executionPlan_cases time call.leaseDeadline call.handlerTimeout call.storageTimeout
  rw [ExecutorCall.planAt] at plan
  rw [plan] at cases
  cases cases with
  | run _ _ safe early fits first enough => exact ⟨safe, early, first, enough, fits⟩

theorem planAt_retryOnly {time sd : Instant} (plan : call.planAt time = .ok (.retryOnly sd)) :
    sd = call.lastSafe ∧ time < sd ∧
      sd < time + call.handlerTimeout.asNanos + call.storageTimeout.asNanos := by
  have cases := executionPlan_cases time call.leaseDeadline call.handlerTimeout call.storageTimeout
  rw [ExecutorCall.planAt] at plan
  rw [plan] at cases
  cases cases with
  | retryOnly _ safe early _ short => exact ⟨safe, early, short⟩

/-- The events before a settlement: one plan, and a handler only if the plan leaves it its time. -/
structure Opening (call : ExecutorCall) (time : Instant) (before : List ExecutorEvent) : Prop where
  planned : ∀ other, .planned other ∈ before ↔ other = time
  handler : ∀ begun, .handlerStarted begun ∈ before →
    time < call.lastSafe ∧
      time + call.handlerTimeout.asNanos + call.storageTimeout.asNanos ≤ call.lastSafe
  unsettled : ∀ event ∈ before, event.settles = false

theorem opening_planned (time : Instant) : Opening call time [.planned time] := by
  constructor <;> simp [ExecutorEvent.settles]

theorem opening_run {time hd sd : Instant} (plan : call.planAt time = .ok (.run hd sd))
    (more : List ExecutorEvent)
    (later : ∀ event ∈ more, (∀ other, event ≠ .planned other) ∧ event.settles = false) :
    Opening call time (.planned time :: more) := by
  obtain ⟨rfl, early, rfl, enough, _⟩ := planAt_run plan
  constructor
  · intro other
    constructor
    · rintro (_ | ⟨_, within⟩)
      · rfl
      · exact absurd rfl ((later _ within).1 other)
    · rintro rfl
      exact .head _
  · exact fun _ _ => ⟨early, enough⟩
  · rintro event (_ | ⟨_, within⟩)
    · rfl
    · exact (later event within).2

theorem Opening.noneBegins {time : Instant} {before : List ExecutorEvent}
    (opening : Opening call time before) : before.filter ExecutorEvent.settleBegins = [] := by
  refine List.filter_eq_nil_iff.mpr fun event within begins => ?_
  have outside := opening.unsettled event within
  cases event with
  | settleStarted => cases outside
  | _ => cases begins

theorem Prelude.opening {before : List ExecutorEvent} {request : SettlementRequest} {sd : Instant}
    (earlier : Prelude call before request sd) :
    ∃ time, Opening call time before ∧ time < call.lastSafe ∧ sd = call.lastSafe := by
  cases earlier with
  | retryOnly time sd jitter plan =>
    obtain ⟨rfl, early, _⟩ := planAt_retryOnly plan
    exact ⟨time, opening_planned time, early, rfl⟩
  | returned time begun ended hd sd result jitter plan =>
    obtain ⟨rfl, early, _⟩ := planAt_run plan
    exact ⟨time, opening_run plan _ (by simp [ExecutorEvent.settles]), early, rfl⟩
  | stopped time ended hd sd begun jitter plan started =>
    obtain ⟨rfl, early, _⟩ := planAt_run plan
    refine ⟨time, ?_, early, rfl⟩
    rcases started with rfl | ⟨instant, rfl⟩
    · exact opening_run plan _ (by simp [ExecutorEvent.settles])
    · exact opening_run plan _ (by simp [ExecutorEvent.settles])

theorem Prelude.requested {before more : List ExecutorEvent} {request : SettlementRequest}
    {sd : Instant} (earlier : Prelude call before request sd)
    (after : ∀ event ∈ more, event.settles = true) : Requested call (before ++ more) request := by
  have foreign : ∀ event : ExecutorEvent, event.settles = false → event ∉ more := by
    intro event other within
    rw [after event within] at other
    cases other
  cases earlier with
  | retryOnly time sd jitter plan =>
    obtain ⟨rfl, _, short⟩ := planAt_retryOnly plan
    refine .unstarted time _ (by simp) short ?_
    intro instant
    simp [foreign (.handlerStarted instant) rfl]
  | returned time begun ended hd sd result jitter plan _ _ early =>
    obtain ⟨_, _, rfl, _⟩ := planAt_run plan
    exact .returned time ended result _ (by simp) (by simp) early (requestFor_asked result jitter)
  | stopped time ended hd sd begun jitter plan started late =>
    obtain ⟨_, _, rfl, _⟩ := planAt_run plan
    refine .stopped time ended _ (by simp) (by simp) late ?_
    intro instant result
    rcases started with rfl | ⟨_, rfl⟩
    · simp [foreign (.handlerReturned instant result) rfl]
    · simp [foreign (.handlerReturned instant result) rfl]

theorem respects_unsettled {time : Instant} (opening : Opening call time s.events)
    (unpolled : ∀ request deadline, s.phase ≠ .awaiting request deadline true) :
    RespectsLease call s := by
  have none : ∀ time request deadline, .settleStarted time request deadline ∉ s.events :=
    fun _ _ _ within => absurd (opening.unsettled _ within) Bool.noConfusion
  constructor
  · exact fun begun within => ⟨time, (opening.planned time).mpr rfl, (opening.handler _ within).2⟩
  · rw [opening.noneBegins]
    exact Nat.zero_le 1
  · exact fun time request deadline within => absurd within (none time request deadline)
  · exact fun time within => absurd (opening.unsettled _ within) Bool.noConfusion
  · exact fun request deadline phase => absurd phase (unpolled request deadline)
  · exact fun time request deadline within => absurd within (none time request deadline)
  · rintro other planned late
    obtain rfl := (opening.planned other).mp planned
    refine ⟨fun begun within => ?_, none⟩
    exact absurd (opening.handler begun within).1 (not_lt.mpr late)

theorem respects_settling {before ended : List ExecutorEvent} {request : SettlementRequest}
    {begun deadline sd : Instant} (earlier : Prelude call before request sd)
    (safe : deadline ≤ sd) (early : begun < deadline)
    (after : ∀ event ∈ ended, ∃ time, event = .settleEnded time ∧ time ≤ deadline)
    (events : s.events = before ++ .settleStarted begun request deadline :: ended)
    (waits : ∀ request deadline, s.phase = .awaiting request deadline true →
      s.clock ≤ call.lastSafe) : RespectsLease call s := by
  obtain ⟨time, opening, inside, rfl⟩ := earlier.opening
  have settles : ∀ event ∈ ExecutorEvent.settleStarted begun request deadline :: ended,
      event.settles = true := by
    rintro event (_ | ⟨_, within⟩)
    · rfl
    · obtain ⟨_, rfl, _⟩ := after event within
      rfl
  have only : ∀ event ∈ s.events, event.settles = false → event ∈ before := by
    intro event within outside
    rw [events, List.mem_append] at within
    rcases within with within | within
    · exact within
    · rw [settles event within] at outside
      cases outside
  have started : ∀ time asked until_, .settleStarted time asked until_ ∈ s.events →
      time = begun ∧ asked = request := by
    intro time asked until_ within
    rw [events, List.mem_append] at within
    rcases within with within | within
    · exact absurd (opening.unsettled _ within) Bool.noConfusion
    · rcases List.mem_cons.mp within with same | within
      · cases same
        exact ⟨rfl, rfl⟩
      · obtain ⟨_, same, _⟩ := after _ within
        cases same
  constructor
  · intro begun within
    refine ⟨time, ?_, (opening.handler begun (only _ within rfl)).2⟩
    rw [events]
    exact List.mem_append_left _ ((opening.planned time).mpr rfl)
  · have last : ended.filter ExecutorEvent.settleBegins = [] := by
      refine List.filter_eq_nil_iff.mpr fun event within begins => ?_
      obtain ⟨_, rfl, _⟩ := after event within
      cases begins
    rw [events, List.filter_append, opening.noneBegins, List.filter_cons_of_pos rfl, last]
    exact Nat.le_refl 1
  · intro time asked until_ within
    rw [(started time asked until_ within).1]
    exact early.trans_le safe
  · intro time within
    rw [events, List.mem_append, List.mem_cons] at within
    rcases within with within | within | within
    · exact absurd (opening.unsettled _ within) Bool.noConfusion
    · cases within
    · obtain ⟨_, same, ahead⟩ := after _ within
      cases same
      exact ahead.trans safe
  · exact waits
  · intro time asked until_ within
    rw [(started time asked until_ within).2, events]
    exact earlier.requested settles
  · intro other planned late
    obtain rfl := (opening.planned other).mp (only _ planned rfl)
    exact absurd inside (not_lt.mpr late)

theorem Kept.respects (kept : s.Kept call) : RespectsLease call s := by
  obtain ⟨clock, phase, events⟩ := s
  unfold ExecutorState.Kept at kept
  cases kept with
  | planning => constructor <;> simp
  | planned time hd sd plan before => exact respects_unsettled (opening_planned time) (by simp)
  | running time begun hd sd plan =>
    exact respects_unsettled (opening_run plan _ (by simp [ExecutorEvent.settles])) (by simp)
  | refused time error plan => exact respects_unsettled (opening_planned time) (by simp)
  | settling _ request sd earlier =>
    obtain ⟨time, opening, _⟩ := earlier.opening
    exact respects_unsettled opening (by simp)
  | ready _ request deadline sd earlier safe =>
    obtain ⟨time, opening, _⟩ := earlier.opening
    exact respects_unsettled opening (by simp)
  | unsettled _ request sd error earlier =>
    obtain ⟨time, opening, _⟩ := earlier.opening
    exact respects_unsettled opening (by simp)
  | panicked _ request sd earlier =>
    obtain ⟨time, opening, _⟩ := earlier.opening
    exact respects_unsettled opening (by simp)
  | awaiting before request deadline sd begun earlier safe early within =>
    obtain ⟨_, _, _, rfl⟩ := earlier.opening
    refine respects_settling earlier safe early ?_ rfl fun _ _ _ => within.trans safe
    exact fun _ none => absurd none List.not_mem_nil
  | settled before request deadline sd begun ended result earlier safe early late =>
    exact respects_settling earlier safe early (by simp [late]) rfl (by simp)

/-! ### Without extra delays -/

/-- Time passes only while an execution waits for a handler or for the queue. -/
def Prompt (s : ExecutorState) : ExecutorAction → Prop
  | .wait _ => s.phase.armed ≠ none
  | _ => True

instance (s : ExecutorState) : (action : ExecutorAction) → Decidable (Prompt s action)
  | .wait _ => inferInstanceAs (Decidable (_ ≠ _))
  | .plan _ => isTrue trivial
  | .pollHandler _ _ => isTrue trivial
  | .readClock => isTrue trivial
  | .pollSettle _ => isTrue trivial

/-- A settlement may be asked for at `time`: the handler ended by its deadline, or was not called. -/
inductive Leaves (call : ExecutorCall) (time : Instant) : SettlementRequest → Instant → Prop
  | run (request : SettlementRequest) (handlerDeadline settlementDeadline : Instant) :
      call.planAt call.start = .ok (.run handlerDeadline settlementDeadline) →
      call.start ≤ time → time ≤ handlerDeadline → Leaves call time request settlementDeadline
  | retryOnly (jitter : Jitter) (settlementDeadline : Instant) :
      call.planAt call.start = .ok (.retryOnly settlementDeadline) → time = call.start →
      Leaves call time (call.unstartedRequest jitter) settlementDeadline

theorem ExecutorCall.lt_afterStorage (call : ExecutorCall) (time : Instant) :
    time < time + call.storageTimeout.asNanos :=
  Int.lt_add_of_pos_right _ (Int.natCast_pos.mpr (Duration.asNanos_pos call.storagePositive))

theorem Leaves.early {time sd : Instant} {request : SettlementRequest}
    (leaves : Leaves call time request sd) : time < sd := by
  cases leaves with
  | run request hd sd plan after before =>
    obtain ⟨_, _, _, enough, _⟩ := planAt_run plan
    calc time < time + call.storageTimeout.asNanos := call.lt_afterStorage time
      _ ≤ hd + call.storageTimeout.asNanos := Int.add_le_add_right before _
      _ ≤ sd := enough
  | retryOnly jitter sd plan same =>
    obtain ⟨_, early, _⟩ := planAt_retryOnly plan
    rw [same]
    exact early

theorem Leaves.within {time sd : Instant} {request : SettlementRequest}
    (leaves : Leaves call time request sd) :
    min (time + call.storageTimeout.asNanos) sd
      ≤ call.start + call.handlerTimeout.asNanos + call.storageTimeout.asNanos := by
  refine (min_le_left _ _).trans ?_
  cases leaves with
  | run request hd sd plan after before =>
    obtain ⟨_, _, rfl, _⟩ := planAt_run plan
    exact Int.add_le_add_right before _
  | retryOnly jitter sd plan same =>
    rw [same]
    exact Int.add_le_add_right (Int.le_add_of_nonneg_right (Int.natCast_nonneg _)) _

/-- With the handler's plan, the whole storage timeout is left. -/
theorem Leaves.whole {time sd hd last : Instant} {request : SettlementRequest}
    (leaves : Leaves call time request sd)
    (plan : call.planAt call.start = .ok (.run hd last)) :
    time ≤ hd ∧ min (time + call.storageTimeout.asNanos) sd = time + call.storageTimeout.asNanos ∧
      Instant.checkedAdd time call.storageTimeout = some (time + call.storageTimeout.asNanos) := by
  cases leaves with
  | run request hd' sd plan' after before =>
    obtain ⟨rfl, rfl⟩ : hd' = hd ∧ sd = last := by
      rw [plan] at plan'
      cases plan'
      exact ⟨rfl, rfl⟩
    obtain ⟨_, _, _, enough, fits⟩ := planAt_run plan
    have below : time + call.storageTimeout.asNanos ≤ sd :=
      (Int.add_le_add_right before _).trans enough
    refine ⟨before, min_eq_left below, ?_⟩
    refine Instant.checkedAdd_of_between ?_ fits below
    exact ⟨call.startFits.1.trans after, lt_of_lt_of_le
      (Leaves.run request hd' sd plan after before).early
      (Int.le_of_lt_add_one (by have := fits.2; omega))⟩
  | retryOnly jitter sd plan' same =>
    rw [plan] at plan'
    cases plan'

/-- A settlement that was asked for at `time` with the deadline of that time. -/
def Due (call : ExecutorCall) (time : Instant) (request : SettlementRequest) (deadline : Instant) :
    Prop :=
  ∃ settlementDeadline, Leaves call time request settlementDeadline ∧
    deadline = min (time + call.storageTimeout.asNanos) settlementDeadline

/-- The handler may not run. -/
def Unrun (call : ExecutorCall) : Prop :=
  ∀ handlerDeadline settlementDeadline,
    call.planAt call.start ≠ .ok (.run handlerDeadline settlementDeadline)

/-- There is no time for a settlement. -/
def Unsettled (call : ExecutorCall) : Prop :=
  ∀ plan, call.planAt call.start = .ok plan → plan = .recoverOnly

/-- What time it is in each phase of a prompt execution. -/
def PhaseOnTime (call : ExecutorCall) (s : ExecutorState) : Prop :=
  match s.phase with
  | .planning => s.clock = call.start
  | .running handlerDeadline settlementDeadline polled =>
    call.planAt call.start = .ok (.run handlerDeadline settlementDeadline) ∧
      call.start ≤ s.clock ∧ s.clock ≤ handlerDeadline ∧ (polled = false → s.clock = call.start)
  | .settling request settlementDeadline => Leaves call s.clock request settlementDeadline
  | .awaiting request deadline false => Due call s.clock request deadline
  | .awaiting request deadline true => ∃ time, Due call time request deadline ∧ s.clock ≤ deadline ∧
      .settleStarted time request deadline ∈ s.events
  | .returned _ => (s.clock = call.start ∧ Unsettled call) ∨ ∃ time request deadline,
      Due call time request deadline ∧ s.clock ≤ deadline ∧
      .settleStarted time request deadline ∈ s.events
  | .panicked => s.clock = call.start ∧ Unrun call

theorem Due.within {time deadline : Instant} {request : SettlementRequest}
    (due : Due call time request deadline) :
    deadline ≤ call.start + call.handlerTimeout.asNanos + call.storageTimeout.asNanos := by
  obtain ⟨sd, leaves, rfl⟩ := due
  exact leaves.within

/-- The settlements that were begun were due. -/
def AllDue (call : ExecutorCall) (events : List ExecutorEvent) : Prop :=
  ∀ time request deadline, .settleStarted time request deadline ∈ events →
    Due call time request deadline

theorem AllDue.append {events more : List ExecutorEvent} (all : AllDue call events)
    (none : ∀ event ∈ more, event.settleBegins = false) : AllDue call (events ++ more) := by
  intro time request deadline within
  rcases List.mem_append.mp within with within | within
  · exact all time request deadline within
  · cases none _ within

theorem AllDue.started {events : List ExecutorEvent} {time deadline : Instant}
    {request : SettlementRequest} (all : AllDue call events) (due : Due call time request deadline) :
    AllDue call (events ++ [.settleStarted time request deadline]) := by
  intro begun asked last within
  rcases List.mem_append.mp within with within | within
  · exact all begun asked last within
  · cases List.mem_singleton.mp within
    exact due

/-- A prompt execution is on time, and so was its settlement. -/
structure OnTime (call : ExecutorCall) (s : ExecutorState) : Prop where
  phase : PhaseOnTime call s
  settlement : AllDue call s.events

theorem Due.early {time deadline : Instant} {request : SettlementRequest}
    (due : Due call time request deadline) : time < deadline := by
  obtain ⟨sd, leaves, rfl⟩ := due
  exact lt_min (call.lt_afterStorage time) leaves.early

theorem onTime_wait {nanos : Nat} (onTime : OnTime call s) (prompt : s.phase.armed ≠ none)
    (waited : s.wait nanos = some t) : OnTime call t := by
  obtain ⟨now, settlement⟩ := onTime
  obtain ⟨clock, phase, events⟩ := s
  have later : clock ≤ clock + nanos := Int.le_add_of_nonneg_right (Int.natCast_nonneg nanos)
  obtain ⟨deadline, armed⟩ := Option.ne_none_iff_exists'.mp prompt
  obtain ⟨inside, rfl⟩ := wait_armed armed waited
  refine ⟨?_, settlement⟩
  unfold ExecutorPhase.armed at armed
  split at armed
  · rename_i phase
    obtain rfl := Option.some.inj armed
    subst phase
    exact ⟨now.1, now.2.1.trans later, inside, nofun⟩
  · rename_i phase
    obtain rfl := Option.some.inj armed
    subst phase
    obtain ⟨time, due, _, started⟩ := now
    exact ⟨time, due, inside, started⟩
  · cases armed

theorem onTime_plan (jitter : Jitter) (onTime : OnTime call s) (planning : s.phase = .planning) :
    OnTime call (s.plan call jitter) := by
  have now := onTime.phase
  rw [PhaseOnTime, planning] at now
  have unsettled : AllDue call (s.events ++ [.planned s.clock]) :=
    onTime.settlement.append (by simp [ExecutorEvent.settleBegins])
  unfold ExecutorState.plan ExecutorState.goOn
  split
  · rename_i error plan
    rw [now] at plan
    exact ⟨.inl ⟨now, fun _ other => by rw [plan] at other; cases other⟩, unsettled⟩
  · rename_i plan
    rw [now] at plan
    exact ⟨.inl ⟨now, fun _ other => by rw [plan] at other; exact (Except.ok.inj other).symm⟩,
      unsettled⟩
  · rename_i sd plan
    rw [now] at plan
    exact ⟨.retryOnly jitter sd plan now, unsettled⟩
  · rename_i hd sd plan
    rw [now] at plan
    refine ⟨⟨plan, Int.le_of_eq now.symm, ?_, fun _ => now⟩, unsettled⟩
    obtain ⟨_, _, rfl, _⟩ := planAt_run plan
    rw [now]
    exact Int.le_add_of_nonneg_right (Int.natCast_nonneg _)

theorem onTime_pollHandler {hd sd : Instant} {polled : Bool} (ready : Option HandlerResult)
    (jitter : Jitter) (onTime : OnTime call s) (running : s.phase = .running hd sd polled) :
    OnTime call (s.pollHandler call hd sd polled ready jitter) := by
  obtain ⟨now, settlement⟩ := onTime
  rw [PhaseOnTime, running] at now
  obtain ⟨plan, after, before, _⟩ := now
  unfold ExecutorState.pollHandler ExecutorState.goOn
  split
  · exact ⟨.run _ hd sd plan after before,
      settlement.append (by simp [ExecutorEvent.settleBegins])⟩
  · cases ready with
    | none =>
      refine ⟨⟨plan, after, before, nofun⟩, settlement.append ?_⟩
      cases polled <;> simp [ExecutorEvent.settleBegins]
    | some result =>
      refine ⟨.run _ hd sd plan after before, settlement.append ?_⟩
      cases polled <;> simp [ExecutorEvent.settleBegins]

theorem onTime_readClock {request : SettlementRequest} {sd : Instant} (onTime : OnTime call s)
    (settling : s.phase = .settling request sd) : OnTime call (s.readClock call request sd) := by
  obtain ⟨now, settlement⟩ := onTime
  rw [PhaseOnTime, settling] at now
  unfold ExecutorState.readClock ExecutorState.goOn
  rw [List.append_nil]
  split
  · rename_i late
    exact absurd now.early (not_lt.mpr late)
  · split
    · rename_i overflow
      refine ⟨⟨?_, fun hd last plan => ?_⟩, settlement⟩
      · cases now with
        | run request hd sd plan after before =>
          have fits := ((Leaves.run request hd sd plan after before).whole plan).2.2
          rw [fits] at overflow
          cases overflow
        | retryOnly jitter sd plan same => exact same
      · rw [(now.whole plan).2.2] at overflow
        cases overflow
    · rename_i deadline added
      obtain rfl := Instant.checkedAdd_eq added
      exact ⟨⟨sd, now, rfl⟩, settlement⟩

theorem onTime_pollSettle {request : SettlementRequest} {deadline : Instant} {polled : Bool}
    (ready : Option (Except TaskProcessingError SettlementResult)) (onTime : OnTime call s)
    (awaiting : s.phase = .awaiting request deadline polled) :
    OnTime call (s.pollSettle request deadline polled ready) := by
  obtain ⟨now, settlement⟩ := onTime
  rw [PhaseOnTime, awaiting] at now
  unfold ExecutorState.pollSettle ExecutorState.goOn
  cases polled with
  | false =>
    have due : Due call s.clock request deadline := now
    rw [if_neg (not_le.mpr due.early)]
    cases ready with
    | none =>
      exact ⟨⟨s.clock, due, Int.le_of_lt due.early, by simp⟩, settlement.started due⟩
    | some result =>
      refine ⟨.inr ⟨s.clock, request, deadline, due, Int.le_of_lt due.early, by simp⟩, ?_⟩
      show AllDue call (s.events ++ ([_] ++ [_]))
      rw [← List.append_assoc]
      exact (settlement.started due).append (by simp [ExecutorEvent.settleBegins])
  | true =>
    obtain ⟨time, due, within, started⟩ := now
    split
    · exact ⟨.inr ⟨time, request, deadline, due, within, List.mem_append_left _ started⟩,
        settlement.append (by simp [ExecutorEvent.settleBegins])⟩
    · cases ready with
      | none =>
        exact ⟨⟨time, due, within, List.mem_append_left _ started⟩,
          settlement.append (by simp)⟩
      | some result =>
        exact ⟨.inr ⟨time, request, deadline, due, within, List.mem_append_left _ started⟩,
          settlement.append (by simp [ExecutorEvent.settleBegins])⟩

/-- **A prompt execution is on time.** -/
theorem onTime_run {actions : List ExecutorAction}
    (prompt : (executorMachine call).EveryStep Prompt (executorMachine call).start actions)
    (ran : (executorMachine call).run (executorMachine call).start actions = some s) :
    OnTime call s := by
  refine prompt.invariant ?_ ?_ ran
  · intro s action t prompt onTime stepped
    cases executor_moved stepped with
    | wait nanos t waited => exact onTime_wait onTime prompt waited
    | plan jitter phase => exact onTime_plan jitter onTime phase
    | pollHandler hd sd polled ready jitter phase =>
      exact onTime_pollHandler ready jitter onTime phase
    | readClock request sd phase => exact onTime_readClock onTime phase
    | pollSettle request deadline polled ready phase =>
      exact onTime_pollSettle ready onTime phase
  · exact ⟨rfl, fun _ _ _ none => absurd none List.not_mem_nil⟩

/-- What an execution without extra delays has done. -/
structure OnSchedule (call : ExecutorCall) (s : ExecutorState) : Prop where
  /-- It takes no longer than the handler and the settlement may. -/
  bounded : s.clock ≤ call.start + call.handlerTimeout.asNanos + call.storageTimeout.asNanos
  /-- A handler that may run leaves its settlement the whole storage timeout. -/
  window : ∀ handlerDeadline settlementDeadline,
    call.planAt call.start = .ok (.run handlerDeadline settlementDeadline) →
    ∀ time request deadline, .settleStarted time request deadline ∈ s.events →
      time ≤ call.start + call.handlerTimeout.asNanos ∧
      deadline = time + call.storageTimeout.asNanos
  /-- It does not return without having begun the settlement. -/
  settles : ∀ handlerDeadline settlementDeadline,
    call.planAt call.start = .ok (.run handlerDeadline settlementDeadline) →
    (∀ result, s.phase = .returned result →
      ∃ time request deadline, .settleStarted time request deadline ∈ s.events) ∧
    s.phase ≠ .panicked
  /-- Without time for the handler, it does not return without having begun to give the task back. -/
  retries : ∀ settlementDeadline,
    call.planAt call.start = .ok (.retryOnly settlementDeadline) →
    ∀ result, s.phase = .returned result → ∃ jitter,
      .settleStarted call.start (call.unstartedRequest jitter)
        (min (call.start + call.storageTimeout.asNanos) settlementDeadline) ∈ s.events

theorem OnTime.bounded (onTime : OnTime call s) :
    s.clock ≤ call.start + call.handlerTimeout.asNanos + call.storageTimeout.asNanos := by
  have handler : call.start ≤ call.start + call.handlerTimeout.asNanos :=
    Int.le_add_of_nonneg_right (Int.natCast_nonneg _)
  have begun := fun time : Instant => Int.le_of_lt (call.lt_afterStorage time)
  have whole := handler.trans (begun _)
  have now := onTime.phase
  unfold PhaseOnTime at now
  split at now
  · exact now.trans_le whole
  · obtain ⟨plan, _, before, _⟩ := now
    obtain ⟨_, _, rfl, _⟩ := planAt_run plan
    exact before.trans (begun _)
  · exact (le_min (begun _) (Int.le_of_lt now.early)).trans now.within
  · exact (Int.le_of_lt now.early).trans now.within
  · obtain ⟨_, ready, within, _⟩ := now
    exact within.trans ready.within
  · rcases now with ⟨now, _⟩ | ⟨_, _, _, ready, within, _⟩
    · exact now.trans_le whole
    · exact within.trans ready.within
  · exact now.1.trans_le whole

theorem OnTime.onSchedule (onTime : OnTime call s) : OnSchedule call s := by
  refine ⟨onTime.bounded, ?_, ?_, ?_⟩
  · intro hd sd plan time request deadline started
    obtain ⟨last, leaves, rfl⟩ := onTime.settlement time request deadline started
    obtain ⟨before, whole, _⟩ := leaves.whole plan
    obtain ⟨_, _, rfl, _⟩ := planAt_run plan
    exact ⟨before, whole⟩
  · intro hd sd plan
    have now := onTime.phase
    refine ⟨fun result returned => ?_, fun panicked => ?_⟩
    · rw [PhaseOnTime, returned] at now
      rcases now with ⟨_, unsettled⟩ | ⟨time, request, deadline, _, _, started⟩
      · cases unsettled _ plan
      · exact ⟨time, request, deadline, started⟩
    · rw [PhaseOnTime, panicked] at now
      exact absurd plan (now.2 hd sd)
  · intro sd plan result returned
    have now := onTime.phase
    rw [PhaseOnTime, returned] at now
    rcases now with ⟨_, unsettled⟩ | ⟨time, request, deadline, ⟨last, leaves, rfl⟩, _, started⟩
    · cases unsettled _ plan
    · cases leaves with
      | run request hd last plan' =>
        rw [plan] at plan'
        cases plan'
      | retryOnly jitter last plan' same =>
        rw [plan] at plan'
        cases plan'
        exact ⟨jitter, same ▸ started⟩

/-- **One execution respects its lease.** Whatever the handler and the queue do and however late the
execution is polled, it has done only what its lease allows; and without extra delays a handler that
may run is followed by a settlement that has the whole storage timeout, and a task without time for
its handler is given back. -/
theorem execution_respects_lease {actions : List ExecutorAction}
    (ran : (executorMachine call).run (executorMachine call).start actions = some s) :
    RespectsLease call s ∧
      ((executorMachine call).EveryStep Prompt (executorMachine call).start actions →
        OnSchedule call s) :=
  ⟨Kept.respects (kept_reachable (Machine.Reachable.start.run ran)),
    fun prompt => (onTime_run prompt ran).onSchedule⟩

end Executor

/-- A call with a minute of lease, ten seconds for the handler and five for the queue. -/
def leasedMinute : ExecutorCall where
  start := 0
  leaseDeadline := 60 * 1000000000
  handlerTimeout := .fromSecs 10
  storageTimeout := .fromSecs 5
  attempt := 1
  startFits := by decide
  handlerPositive := by decide
  storagePositive := by decide

/-- The handler fails for good after three seconds; the queue does not answer for five. -/
def failedExecution : List ExecutorAction :=
  let jitter : Jitter := .neutral
  [.plan jitter, .pollHandler none jitter, .wait 3000000000,
    .pollHandler (some (.error (.permanent "refused"))) jitter, .readClock,
    .pollSettle none, .wait 5000000000, .pollSettle none]

/-- A handler that failed, and a settlement that timed out. -/
theorem execution_respects_lease_failed :
    ∃ s, (executorMachine leasedMinute).run (executorMachine leasedMinute).start failedExecution
        = some s ∧ s.phase = .returned (.error .timedOut) ∧
      .settleStarted 3000000000 (.failed "refused") 8000000000 ∈ s.events ∧
      RespectsLease leasedMinute s ∧ OnSchedule leasedMinute s := by
  have ran : (executorMachine leasedMinute).run (executorMachine leasedMinute).start failedExecution
      = some ⟨8000000000, .returned (.error .timedOut), [.planned 0, .handlerStarted 0,
        .handlerReturned 3000000000 (.error (.permanent "refused")),
        .settleStarted 3000000000 (.failed "refused") 8000000000, .settleEnded 8000000000]⟩ := by
    decide +kernel
  obtain ⟨respects, schedule⟩ := execution_respects_lease ran
  exact ⟨_, ran, rfl, by decide +kernel, respects, schedule (by decide +kernel)⟩

end AccountManagement.Runtime
