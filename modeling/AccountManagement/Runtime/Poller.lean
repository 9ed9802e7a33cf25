/-
**The poller.**

`Poller::claim` scans the formats from a rotating start and asks the queue for each until it has the
limit, a format fails or all were asked. The queue is any port with a state of its own that honours
its limit; an answer is a batch, an error, or none before the shared deadline, which is a timeout. A
claim records its calls of the port.

* `claim_accounted`: a claim keeps every confirmed batch, and asks for exactly what is missing;
* `claim_supervised`: a claim is what the supervisor of the pool does in its claiming phase;
* `rotation_fair_iff`: the rotation is fair in all runs of a number of calls exactly if the counter
  does not wrap within a scan of the last call, or the number of formats divides `2 ^ 64`;
* `rotation_repeats`: with three formats, the call at the wrap asks for the first one twice.
-/

import AccountManagement.Library.Rotation
import AccountManagement.Runtime.Pool

namespace AccountManagement.Runtime

open AccountManagement.Library AccountManagement.Task

variable {σ τ : Type}

/-! ### The queue port -/

/-- What the future of a claim is found to be before its deadline. -/
inductive ClaimAnswer (τ : Type) where
  | tasks (batch : List τ)
  | failed (error : TaskProcessingError)
  | silent

/-- `timeout_at`, with an elapsed deadline as an error of the queue. -/
def ClaimAnswer.timeoutAt : ClaimAnswer τ → Except TaskProcessingError (List τ)
  | .tasks batch => .ok batch
  | .failed error => .error error
  | .silent => .error .timedOut

theorem ClaimAnswer.eq_tasks_of_timeoutAt {answer : ClaimAnswer τ} {tasks : List τ}
    (answers : answer.timeoutAt = .ok tasks) : answer = .tasks tasks := by
  cases answer with
  | tasks batch => exact congrArg _ (Except.ok.inj answers)
  | failed error => cases answers
  | silent => cases answers

/-- A queue with a state of its own: its answer to a claim may depend on all that was asked before.
It returns at most as many tasks as were asked for. -/
structure ClaimPort (σ τ : Type) where
  claim : σ → TaskFormat → String → Nat → Duration → ClaimAnswer τ × σ
  honours : ∀ queue format owner limit lease batch,
    (claim queue format owner limit lease).1 = .tasks batch → batch.length ≤ limit

/-! ### A claim -/

/-- The poller; a vector has a length that is a machine integer. -/
structure Poller where
  formats : List TaskFormat
  nextFormatStart : BitVec 64
  storageTimeout : Duration
  sized : formats.length < 2 ^ 64

structure ClaimRequest where
  owner : String
  limit : Nat
  lease : Duration

/-- A call of the port: the place of its format, what was asked for and what came of it. -/
structure ClaimCall (τ : Type) where
  position : Nat
  format : TaskFormat
  limit : Nat
  result : Except TaskProcessingError (List τ)

/-- The tasks the queue has confirmed in a call. -/
def ClaimCall.confirmed (call : ClaimCall τ) : List τ :=
  match call.result with
  | .ok tasks => tasks
  | .error _ => []

structure ClaimOutcome (σ τ : Type) where
  result : Except TaskProcessingError (List τ)
  calls : List (ClaimCall τ)
  queue : σ

/-- All that was confirmed in a claim, in the order of its calls. -/
def ClaimOutcome.confirmed (outcome : ClaimOutcome σ τ) : List τ :=
  outcome.calls.flatMap ClaimCall.confirmed

namespace Poller

def new (formats : List TaskFormat) (storageTimeout : Duration)
    (sized : formats.length < 2 ^ 64) : Poller :=
  ⟨formats, 0, storageTimeout, sized⟩

variable (poller : Poller) (port : ClaimPort σ τ) (request : ClaimRequest)

/-- The place of the format that is asked for at an offset of the scan. -/
def position (offset : Fin poller.formats.length) : Fin poller.formats.length :=
  ⟨(poller.nextFormatStart + BitVec.ofNat 64 offset).toNat % poller.formats.length,
    Nat.mod_lt _ offset.pos⟩

def formatAt (offset : Fin poller.formats.length) : TaskFormat :=
  poller.formats.get (poller.position offset)

/-- The formats in the order of the scan. -/
def scanOrder : List TaskFormat := (List.finRange poller.formats.length).map poller.formatAt

/-- The call of the port at an offset, for what is missing, and the queue after it. -/
def ask (offset : Fin poller.formats.length) (claimed : List τ) (queue : σ) : ClaimCall τ × σ :=
  let missing := request.limit - claimed.length
  let answered := port.claim queue (poller.formatAt offset) request.owner missing request.lease
  (⟨poller.position offset, poller.formatAt offset, missing, answered.1.timeoutAt⟩, answered.2)

/-- The rest of a scan, with what was claimed before it. -/
def claimFrom : List (Fin poller.formats.length) → List τ → σ → ClaimOutcome σ τ
  | [], claimed, queue => ⟨.ok claimed, [], queue⟩
  | offset :: rest, claimed, queue =>
    if claimed.length = request.limit then ⟨.ok claimed, [], queue⟩
    else
      let asked := poller.ask port request offset claimed queue
      match asked.1.result with
      | .ok tasks =>
        let outcome := claimFrom rest (claimed ++ tasks) asked.2
        { outcome with calls := asked.1 :: outcome.calls }
      | .error error =>
        ⟨if claimed.isEmpty then .error error else .ok claimed, [asked.1], asked.2⟩

def claim (queue : σ) : ClaimOutcome σ τ × Poller :=
  (poller.claimFrom port request (List.finRange poller.formats.length) [] queue,
    { poller with nextFormatStart := poller.nextFormatStart + 1 })

end Poller

/-! ### Accounting -/

/-- The calls of a claim as the port answers them, one after another, and the queue after the last. -/
inductive ClaimPort.Answers (port : ClaimPort σ τ) (request : ClaimRequest) :
    σ → List (ClaimCall τ) → σ → Prop
  | nil (queue : σ) : Answers port request queue [] queue
  | cons {call : ClaimCall τ} {calls : List (ClaimCall τ)} {queue last : σ} :
      call.result
        = (port.claim queue call.format request.owner call.limit request.lease).1.timeoutAt →
      Answers port request
        (port.claim queue call.format request.owner call.limit request.lease).2 calls last →
      Answers port request queue (call :: calls) last

/-- The account of the rest of a scan: `order` are the formats it has not asked for, and `claimed` is
what it begins with. -/
structure Accounted (limit : Nat) (order : List TaskFormat) (claimed : List τ)
    (outcome : ClaimOutcome σ τ) : Prop where
  within : ∀ tasks, outcome.result = .ok tasks → tasks.length ≤ limit
  kept : ∀ tasks, outcome.result = .ok tasks → tasks = claimed ++ outcome.confirmed
  scanned : outcome.calls.map ClaimCall.format <+: order
  asked : ∀ before call after, outcome.calls = before ++ call :: after →
    call.limit + (claimed ++ before.flatMap ClaimCall.confirmed).length = limit ∧ 0 < call.limit
  failed : ∀ error, outcome.result = .error error → claimed ++ outcome.confirmed = [] ∧
    ∃ before call, outcome.calls = before ++ [call] ∧ call.result = .error error ∧
      ∀ earlier ∈ before, earlier.result = .ok []
  stopped : (claimed ++ outcome.confirmed).length = limit ∨
    (∃ before call error, outcome.calls = before ++ [call] ∧ call.result = .error error) ∨
    outcome.calls.length = order.length

namespace Accounted

variable {limit : Nat} {order : List TaskFormat} {claimed : List τ} {queue : σ}

/-- A scan that asks for nothing more. -/
theorem done (room : claimed.length ≤ limit) (past : claimed.length = limit ∨ order = []) :
    Accounted limit order claimed ⟨.ok claimed, [], queue⟩ where
  within tasks same := by
    obtain rfl := Except.ok.inj same
    exact room
  kept tasks same := by
    obtain rfl := Except.ok.inj same
    exact (List.append_nil _).symm
  scanned := List.nil_prefix
  asked before call after split := absurd split (by simp)
  failed error same := nomatch same
  stopped := by
    rcases past with full | rfl
    · left
      rw [ClaimOutcome.confirmed, List.flatMap_nil, List.append_nil]
      exact full
    · exact .inr (.inr rfl)

variable {call : ClaimCall τ}

/-- The first format that is asked for fails. -/
theorem fail {error : TaskProcessingError} (room : claimed.length < limit)
    (asks : call.limit = limit - claimed.length) (fails : call.result = .error error) :
    Accounted limit (call.format :: order) claimed
      ⟨if claimed.isEmpty then .error error else .ok claimed, [call], queue⟩ := by
  have none_ : [call].flatMap ClaimCall.confirmed = [] := by
    rw [List.flatMap_singleton, ClaimCall.confirmed, fails]
  have alone : ∀ before later after, [call] = before ++ later :: after →
      before = [] ∧ later = call := by
    intro before later after split
    cases before with
    | nil => exact ⟨rfl, (List.cons.inj split).1.symm⟩
    | cons first rest => simp at split
  refine ⟨?_, ?_, List.prefix_append [call.format] order, ?_, ?_,
    .inr (.inl ⟨[], call, error, rfl, fails⟩)⟩
  · intro tasks same
    split at same
    · cases same
    · obtain rfl := Except.ok.inj same
      exact room.le
  · intro tasks same
    split at same
    · cases same
    · obtain rfl := Except.ok.inj same
      rw [ClaimOutcome.confirmed, none_, List.append_nil]
  · intro before later after split
    obtain ⟨rfl, rfl⟩ := alone before later after split
    rw [List.flatMap_nil, List.append_nil, asks]
    omega
  · intro failure same
    split at same
    · obtain rfl := Except.error.inj same
      refine ⟨?_, [], call, rfl, fails, fun _ => nofun⟩
      rw [ClaimOutcome.confirmed, none_, List.append_nil]
      exact List.isEmpty_iff.mp ‹_›
    · cases same

/-- The first format that is asked for answers, and the scan goes on. -/
theorem cons {tasks : List τ} {outcome : ClaimOutcome σ τ} (room : claimed.length < limit)
    (asks : call.limit = limit - claimed.length) (answers : call.result = .ok tasks)
    (rest : Accounted limit order (claimed ++ tasks) outcome) :
    Accounted limit (call.format :: order) claimed
      { outcome with calls := call :: outcome.calls } := by
  have confirms : call.confirmed = tasks := by rw [ClaimCall.confirmed, answers]
  have more : ∀ calls : List (ClaimCall τ), claimed ++ (call :: calls).flatMap ClaimCall.confirmed =
      claimed ++ tasks ++ calls.flatMap ClaimCall.confirmed := by
    intro calls
    rw [List.flatMap_cons, confirms, List.append_assoc]
  refine ⟨rest.within, ?_, List.cons_prefix_cons.mpr ⟨rfl, rest.scanned⟩, ?_, ?_, ?_⟩
  · intro all same
    exact (rest.kept all same).trans (more outcome.calls).symm
  · intro before later after split
    cases before with
    | nil =>
      obtain ⟨rfl, _⟩ := List.cons.inj split
      rw [List.flatMap_nil, List.append_nil, asks]
      omega
    | cons first before =>
      obtain ⟨rfl, tail⟩ := List.cons.inj split
      rw [more]
      exact rest.asked before later after tail
  · intro error same
    obtain ⟨nothing, before, last, split, fails, empty⟩ := rest.failed error same
    refine ⟨(more outcome.calls).trans nothing, call :: before, last, ?_, fails, ?_⟩
    · exact congrArg (call :: ·) split
    · rw [List.append_assoc, List.append_eq_nil_iff, List.append_eq_nil_iff] at nothing
      exact List.forall_mem_cons.mpr ⟨answers.trans (congrArg _ nothing.2.1), empty⟩
  · rcases rest.stopped with full | ⟨before, last, error, split, fails⟩ | all
    · left
      rw [ClaimOutcome.confirmed, more]
      exact full
    · exact .inr (.inl ⟨call :: before, last, error, congrArg (call :: ·) split, fails⟩)
    · exact .inr (.inr (congrArg Nat.succ all))

end Accounted

namespace Poller

variable (poller : Poller) (port : ClaimPort σ τ) (request : ClaimRequest)

theorem ask_honours {offset : Fin poller.formats.length} {claimed tasks : List τ} {queue : σ}
    (answers : (poller.ask port request offset claimed queue).1.result = .ok tasks) :
    tasks.length ≤ request.limit - claimed.length :=
  port.honours _ _ _ _ _ _ (ClaimAnswer.eq_tasks_of_timeoutAt answers)

section Scan

variable {poller port request} {offset : Fin poller.formats.length}
  {rest : List (Fin poller.formats.length)} {claimed tasks : List τ} {queue : σ}

theorem claimFrom_full (full : claimed.length = request.limit) :
    poller.claimFrom port request (offset :: rest) claimed queue = ⟨.ok claimed, [], queue⟩ := by
  rw [claimFrom, if_pos full]

theorem claimFrom_answered (missing : claimed.length ≠ request.limit)
    (answers : (poller.ask port request offset claimed queue).1.result = .ok tasks) :
    poller.claimFrom port request (offset :: rest) claimed queue =
      let asked := poller.ask port request offset claimed queue
      let outcome := poller.claimFrom port request rest (claimed ++ tasks) asked.2
      { outcome with calls := asked.1 :: outcome.calls } := by
  rw [claimFrom, if_neg missing]
  simp only [answers]

theorem claimFrom_failed {error : TaskProcessingError} (missing : claimed.length ≠ request.limit)
    (fails : (poller.ask port request offset claimed queue).1.result = .error error) :
    poller.claimFrom port request (offset :: rest) claimed queue =
      let asked := poller.ask port request offset claimed queue
      ⟨if claimed.isEmpty then .error error else .ok claimed, [asked.1], asked.2⟩ := by
  rw [claimFrom, if_neg missing]
  simp only [fails]

end Scan

theorem claimFrom_accounted (offsets : List (Fin poller.formats.length)) (claimed : List τ)
    (queue : σ) (room : claimed.length ≤ request.limit) :
    Accounted request.limit (offsets.map poller.formatAt) claimed
      (poller.claimFrom port request offsets claimed queue) := by
  induction offsets generalizing claimed queue with
  | nil => exact .done room (.inr rfl)
  | cons offset rest ih =>
    by_cases full : claimed.length = request.limit
    · rw [claimFrom_full full]
      exact .done room (.inl full)
    · have room : claimed.length < request.limit := Nat.lt_of_le_of_ne room full
      cases answers : (poller.ask port request offset claimed queue).1.result with
      | ok tasks =>
        rw [claimFrom_answered full answers]
        refine .cons room rfl answers (ih (claimed ++ tasks) _ ?_)
        have honoured := poller.ask_honours port request answers
        rw [List.length_append]
        omega
      | error error =>
        rw [claimFrom_failed full answers]
        exact .fail room rfl answers

/-- The recorded calls are those of the port. -/
theorem claimFrom_answers (offsets : List (Fin poller.formats.length)) (claimed : List τ)
    (queue : σ) :
    port.Answers request queue (poller.claimFrom port request offsets claimed queue).calls
      (poller.claimFrom port request offsets claimed queue).queue := by
  induction offsets generalizing claimed queue with
  | nil => exact .nil queue
  | cons offset rest ih =>
    by_cases full : claimed.length = request.limit
    · rw [claimFrom_full full]
      exact .nil queue
    · cases answers : (poller.ask port request offset claimed queue).1.result with
      | ok tasks =>
        rw [claimFrom_answered full answers]
        exact .cons rfl (ih (claimed ++ tasks) _)
      | error error =>
        rw [claimFrom_failed full answers]
        exact .cons rfl (.nil _)

/-- **A claim is accounted for.** It returns at most its limit; an `Ok` result is what the queue has
confirmed, in the order of the scan; every call asks for what is missing, which is positive; an
error is that of the first format that fails, when nothing was confirmed; and the scan ends with the
limit, with a failure or with the last format. The calls are those that the port has answered, and
the queue is left as the last of them leaves it. -/
theorem claim_accounted (queue : σ) :
    Accounted request.limit poller.scanOrder [] (poller.claim port request queue).1 ∧
      port.Answers request queue (poller.claim port request queue).1.calls
        (poller.claim port request queue).1.queue :=
  ⟨poller.claimFrom_accounted port request _ [] queue (Nat.zero_le _),
    poller.claimFrom_answers port request _ [] queue⟩

/-- Three formats. -/
def threeFormats : List TaskFormat :=
  [⟨"create_account", 1, by decide, Int.zero_lt_one⟩, ⟨"send_code", 1, by decide, Int.zero_lt_one⟩,
    ⟨"send_code", 2, by decide, by decide⟩]

/-- A queue that has what is left of a list for every format, until it fails. -/
def failingPort : ClaimPort (List Nat) Nat where
  claim queue _ _ limit _ := match queue with
    | [] => (.failed .unavailable, [])
    | _ :: _ => (.tasks (queue.take limit), queue.drop limit)
  honours queue _ _ limit _ batch same := by
    cases queue with
    | nil => cases same
    | cons first rest =>
      obtain rfl := ClaimAnswer.tasks.inj same
      exact List.length_take_le limit (first :: rest)

/-- Two tasks are there and three are asked for: the queue answers the first call and fails at the
second, and the claim keeps what was confirmed. -/
theorem claim_accounted_failing :
    ∃ outcome, ((Poller.new threeFormats (.fromSecs 6) (by decide)).claim failingPort
        ⟨"worker", 3, .fromSecs 60⟩ [7, 8]).1 = outcome ∧
      (outcome.result = .ok [7, 8] ∧ outcome.calls.map ClaimCall.limit = [3, 1] ∧
        outcome.calls.map ClaimCall.result = [.ok [7, 8], .error .unavailable]) ∧
      Accounted 3 threeFormats [] outcome ∧
      failingPort.Answers ⟨"worker", 3, .fromSecs 60⟩ [7, 8] outcome.calls [] := by
  refine ⟨_, rfl, by decide +kernel, ?_⟩
  exact claim_accounted (Poller.new threeFormats (.fromSecs 6) (by decide)) failingPort
    ⟨"worker", 3, .fromSecs 60⟩ [7, 8]

end Poller

/-! ### The claiming phase of the supervisor -/

/-- The step of the pool for a call of the port. -/
def ClaimCall.action (deadline : τ → Instant) (call : ClaimCall τ) : PoolAction :=
  match call.result with
  | .ok tasks => .supervise (.answer (tasks.map deadline))
  | .error _ => .supervise .fail

/-- The supervisor has the outcome of a claim: it checks a batch with the deadlines of the tasks, or
waits again after an error. -/
def Supervises (deadline : τ → Instant) (limit : Nat) (result : Except TaskProcessingError (List τ))
    (t : PoolState) : Prop :=
  match result with
  | .ok tasks => ∃ batch, t.supervisor = .checking limit batch ∧
      batch.map PoolDelivery.deadline = tasks.map deadline
  | .error _ => t.supervisor = .selecting .cancelled

theorem number_deadlines (first : Nat) (deadlines : List Instant) :
    (PoolState.number first deadlines).map PoolDelivery.deadline = deadlines := by
  rw [PoolState.number, List.map_map]
  exact List.zipIdx_map_fst 0 deadlines

namespace Poller

variable {poller : Poller} {port : ClaimPort σ τ} {request : ClaimRequest} {deadline : τ → Instant}
  {settings : PoolSettings} {clock : Instant}

theorem claiming_answer {s : PoolState} {limit : Nat} {progress : ClaimProgress}
    {deadlines : List Instant} (within : deadlines.length ≤ limit - progress.batch.length) :
    (poolMachine settings clock).step (s.goTo (.claiming limit (some progress) true))
        (.supervise (.answer deadlines)) =
      some ({ s.goTo (.claiming limit (some progress) true) with
        numbered := s.numbered + deadlines.length }.claimOn limit ⟨progress.since, progress.left - 1,
          progress.batch ++ PoolState.number s.numbered deadlines⟩) :=
  if_pos within

theorem claiming_fail_empty {s : PoolState} {limit : Nat} {progress : ClaimProgress}
    (empty : progress.batch = []) :
    (poolMachine settings clock).step (s.goTo (.claiming limit (some progress) true))
        (.supervise .fail) =
      some ((s.goTo (.claiming limit (some progress) true)).goTo (.selecting .cancelled)) :=
  if_pos empty

theorem claiming_fail_kept {s : PoolState} {limit : Nat} {progress : ClaimProgress}
    (kept : progress.batch ≠ []) :
    (poolMachine settings clock).step (s.goTo (.claiming limit (some progress) true))
        (.supervise .fail) =
      some ((s.goTo (.claiming limit (some progress) true)).claimOn limit
        { progress with left := 0 }) :=
  if_neg kept

theorem claimFrom_supervised (offsets : List (Fin poller.formats.length)) (claimed : List τ)
    (queue : σ) (s : PoolState) (progress : ClaimProgress) (left : progress.left = offsets.length)
    (batch : progress.batch.map PoolDelivery.deadline = claimed.map deadline) :
    ∃ t, (poolMachine settings clock).run (s.claimOn request.limit progress)
        ((poller.claimFrom port request offsets claimed queue).calls.map (ClaimCall.action deadline))
          = some t ∧
      Supervises deadline request.limit (poller.claimFrom port request offsets claimed queue).result
        t := by
  induction offsets generalizing claimed queue s progress with
  | nil =>
    refine ⟨_, rfl, progress.batch, ?_, batch⟩
    rw [PoolState.claimOn, if_pos (.inl left)]
  | cons offset rest ih =>
    have size : progress.batch.length = claimed.length := by
      rw [← List.length_map, batch, List.length_map]
    by_cases full : claimed.length = request.limit
    · rw [claimFrom_full full]
      refine ⟨_, rfl, progress.batch, ?_, batch⟩
      rw [PoolState.claimOn, if_pos (.inr (size.trans full))]
    · have open_ : ¬ (progress.left = 0 ∨ progress.batch.length = request.limit) := by
        rw [left, size, not_or]
        exact ⟨nofun, full⟩
      rw [PoolState.claimOn, if_neg open_]
      cases answers : (poller.ask port request offset claimed queue).1.result with
      | ok tasks =>
        have honoured := poller.ask_honours port request answers
        have action : (poller.ask port request offset claimed queue).1.action deadline =
            .supervise (.answer (tasks.map deadline)) := by
          rw [ClaimCall.action, answers]
        have within : (tasks.map deadline).length ≤ request.limit - progress.batch.length := by
          rw [List.length_map, size]
          exact honoured
        rw [claimFrom_answered full answers]
        simp only [List.map_cons, action, Machine.run, claiming_answer within, Option.bind_some]
        refine ih (claimed ++ tasks) _ _ _ ?_ ?_
        · exact congrArg Nat.pred left
        · rw [List.map_append, List.map_append, batch, number_deadlines]
      | error error =>
        have action : (poller.ask port request offset claimed queue).1.action deadline =
            .supervise .fail := by
          rw [ClaimCall.action, answers]
        rw [claimFrom_failed full answers]
        simp only [List.map_cons, List.map_nil, action, Machine.run]
        cases claimed with
        | nil =>
          rw [claiming_fail_empty (List.length_eq_zero_iff.mp size)]
          exact ⟨_, rfl, rfl⟩
        | cons first others =>
          have kept : progress.batch ≠ [] := List.length_pos_iff.mp (size ▸ Nat.succ_pos _)
          rw [claiming_fail_kept kept, PoolState.claimOn, if_pos (.inl rfl)]
          exact ⟨_, rfl, progress.batch, rfl, batch⟩

/-- **The supervisor's claim is the poller's.** From the start of its claiming phase the supervisor
takes the steps of a claim of the poller, and has its outcome at the end. -/
theorem claim_supervised {s : PoolState} (formats : poller.formats = settings.formats)
    (at_ : s.supervisor = .claiming request.limit none true) (queue : σ) :
    ∃ t, (poolMachine settings clock).run s (.supervise .startClaim ::
        (poller.claim port request queue).1.calls.map (ClaimCall.action deadline)) = some t ∧
      Supervises deadline request.limit (poller.claim port request queue).1.result t := by
  have started : (poolMachine settings clock).step s (.supervise .startClaim) =
      some (s.claimOn request.limit ⟨s.clock, settings.formats.length, []⟩) := by
    show s.supervise settings .startClaim = _
    unfold PoolState.supervise
    rw [at_]
  rw [Machine.run, started]
  refine claimFrom_supervised (List.finRange poller.formats.length) [] queue s _ ?_ rfl
  rw [List.length_finRange, formats]

/-! ### Rotation -/

variable (poller) in
/-- The places of the formats in the order of the scan. -/
def scanPositions : List Nat :=
  (List.finRange poller.formats.length).map fun offset => (poller.position offset).val

theorem scanPositions_length : poller.scanPositions.length = poller.formats.length := by
  rw [scanPositions, List.length_map, List.length_finRange]

/-- The calls of a claim visit the first places of its scan. -/
theorem claimFrom_positions (offsets : List (Fin poller.formats.length)) (claimed : List τ)
    (queue : σ) :
    (poller.claimFrom port request offsets claimed queue).calls.map ClaimCall.position <+:
      offsets.map fun offset => (poller.position offset).val := by
  induction offsets generalizing claimed queue with
  | nil => exact List.nil_prefix
  | cons offset rest ih =>
    by_cases full : claimed.length = request.limit
    · rw [claimFrom_full full]
      exact List.nil_prefix
    · cases answers : (poller.ask port request offset claimed queue).1.result with
      | ok tasks =>
        rw [claimFrom_answered full answers]
        exact List.cons_prefix_cons.mpr ⟨rfl, ih _ _⟩
      | error error =>
        rw [claimFrom_failed full answers]
        exact List.cons_prefix_cons.mpr ⟨rfl, List.nil_prefix⟩

theorem claim_positions (queue : σ) :
    (poller.claim port request queue).1.calls.map ClaimCall.position <+: poller.scanPositions :=
  claimFrom_positions _ [] queue

theorem position_val (offset : Fin poller.formats.length) : (poller.position offset).val =
    (poller.nextFormatStart + BitVec.ofNat 64 offset).toNat % poller.formats.length := rfl

theorem position_eq_wrapped (offset : Fin poller.formats.length) :
    poller.position offset = Rotation.wrapped (2 ^ 64) poller.nextFormatStart.toNat offset := by
  have small : (offset : Nat) < 2 ^ 64 := offset.isLt.trans poller.sized
  refine Fin.ext ?_
  rw [position_val, Rotation.wrapped_val, BitVec.toNat_add, BitVec.toNat_ofNat, Nat.mod_eq_of_lt small]

/-- The counter does not wrap within the next scan, or the wrap is not seen. -/
def Steady (poller : Poller) : Prop :=
  poller.nextFormatStart.toNat + poller.formats.length ≤ 2 ^ 64 ∨ poller.formats.length ∣ 2 ^ 64

theorem position_bijective_iff : Function.Bijective poller.position ↔ poller.Steady := by
  rw [funext fun offset => poller.position_eq_wrapped offset]
  exact Rotation.wrapped_bijective_iff poller.nextFormatStart.isLt

theorem scanPositions_nodup_iff : poller.scanPositions.Nodup ↔ poller.Steady := by
  rw [← position_bijective_iff, ← Finite.injective_iff_bijective, scanPositions]
  constructor
  · intro distinct i j same
    exact List.inj_on_of_nodup_map distinct (List.mem_finRange i) (List.mem_finRange j)
      (congrArg Fin.val same)
  · intro injective
    exact (List.nodup_finRange _).map (Fin.val_injective.comp injective)

theorem mem_scanPositions (steady : poller.Steady) {place : Nat}
    (inside : place < poller.formats.length) : place ∈ poller.scanPositions := by
  obtain ⟨offset, same⟩ := (position_bijective_iff.mpr steady).surjective ⟨place, inside⟩
  exact List.mem_map.mpr ⟨offset, List.mem_finRange offset, congrArg Fin.val same⟩

/-- The poller after a number of claims. -/
def advanced (poller : Poller) (calls : Nat) : Poller :=
  { poller with nextFormatStart := poller.nextFormatStart + BitVec.ofNat 64 calls }

/-- A run of claims: each with the poller that makes it. -/
def claims (port : ClaimPort σ τ) : List ClaimRequest → Poller → σ → List (Poller × ClaimOutcome σ τ)
  | [], _, _ => []
  | request :: rest, poller, queue =>
    let claimed := poller.claim port request queue
    (poller, claimed.1) :: claims port rest claimed.2 claimed.1.queue

theorem claims_length (requests : List ClaimRequest) (poller : Poller) (queue : σ) :
    (claims port requests poller queue).length = requests.length := by
  induction requests generalizing poller queue with
  | nil => rfl
  | cons request rest ih => exact congrArg Nat.succ (ih _ _)

theorem advanced_zero (poller : Poller) : poller.advanced 0 = poller := by
  rw [advanced, BitVec.add_zero]

theorem advanced_succ (poller : Poller) (calls : Nat) :
    { poller with nextFormatStart := poller.nextFormatStart + 1 }.advanced calls =
      poller.advanced (calls + 1) := by
  simp only [advanced, BitVec.ofNat_add]
  congr 1
  rw [BitVec.add_assoc, BitVec.add_comm (1 : BitVec 64)]
  rfl

/-- The call with a number in a run is made by the poller that was advanced as often. -/
theorem claims_get (requests : List ClaimRequest) (poller : Poller) (queue : σ) {number : Nat}
    {request : ClaimRequest} (made : requests[number]? = some request) :
    ∃ queue', (claims port requests poller queue)[number]? =
      some (poller.advanced number, ((poller.advanced number).claim port request queue').1) := by
  induction requests generalizing poller queue number with
  | nil => cases made
  | cons first rest ih =>
    cases number with
    | zero =>
      obtain rfl := Option.some.inj made
      refine ⟨queue, ?_⟩
      rw [advanced_zero]
      rfl
    | succ number =>
      obtain ⟨queue', found⟩ := ih (poller.claim port first queue).2
        (poller.claim port first queue).1.queue made
      rw [show (poller.claim port first queue).2 =
        { poller with nextFormatStart := poller.nextFormatStart + 1 } from rfl,
        advanced_succ] at found
      exact ⟨queue', found⟩

theorem mem_claims {requests : List ClaimRequest} {poller : Poller} {queue : σ}
    {record : Poller × ClaimOutcome σ τ} (member : record ∈ claims port requests poller queue) :
    ∃ number < requests.length, ∃ request queue', record =
      (poller.advanced number, ((poller.advanced number).claim port request queue').1) := by
  obtain ⟨number, found⟩ := List.mem_iff_getElem?.mp member
  have inside : number < requests.length := by
    rw [← claims_length requests poller queue]
    exact (List.getElem?_eq_some_iff.mp found).1
  obtain ⟨queue', same⟩ := claims_get requests poller queue (List.getElem?_eq_getElem inside)
  exact ⟨number, inside, _, queue', Option.some.inj (found.symm.trans same)⟩

/-- The first place in the scan of the call with a number. -/
def firstPosition (run : List (Poller × ClaimOutcome σ τ)) (number : Nat) : Option Nat :=
  run[number]?.bind fun record => record.1.scanPositions.head?

/-- **Fairness** of a run of claims over `count` formats. -/
structure Fair (count : Nat) (run : List (Poller × ClaimOutcome σ τ)) : Prop where
  visited : ∀ record ∈ run, record.2.calls.map ClaimCall.position <+: record.1.scanPositions
  distinct : ∀ record ∈ run, (record.2.calls.map ClaimCall.position).Nodup
  complete : ∀ record ∈ run, record.2.calls.length = count →
    ∀ place < count, place ∈ record.2.calls.map ClaimCall.position
  first : ∀ number, number + count ≤ run.length → ∀ place < count,
    ∃! later, later < count ∧ firstPosition run (number + later) = some place

theorem scanPositions_head (nonempty : 0 < poller.formats.length) :
    poller.scanPositions.head? = some (poller.nextFormatStart.toNat % poller.formats.length) := by
  have inside : 0 < (List.finRange poller.formats.length).length := by
    rw [List.length_finRange]
    exact nonempty
  rw [scanPositions, List.head?_eq_getElem?, List.getElem?_map, List.getElem?_eq_getElem inside,
    List.getElem_finRange, Option.map_some, position_val]
  exact congrArg (fun start : BitVec 64 => some (start.toNat % poller.formats.length))
    (BitVec.add_zero _)

theorem advanced_start (poller : Poller) (calls : Nat) :
    (poller.advanced calls).nextFormatStart.toNat =
      (poller.nextFormatStart.toNat + calls) % 2 ^ 64 := by
  rw [advanced, BitVec.toNat_add, BitVec.toNat_ofNat, Nat.add_mod_mod]

section Run

variable {requests : List ClaimRequest} {queue : σ}

theorem firstPosition_claims (nonempty : 0 < poller.formats.length) {number : Nat}
    (made : number < requests.length) :
    firstPosition (claims port requests poller queue) number =
      some ((poller.nextFormatStart.toNat + number) % 2 ^ 64 % poller.formats.length) := by
  obtain ⟨queue', found⟩ := claims_get requests poller queue (List.getElem?_eq_getElem made)
  have head : (poller.advanced number).scanPositions.head? = _ := scanPositions_head nonempty
  rw [advanced_start] at head
  rw [firstPosition, found]
  exact head

/-- The first places of consecutive calls are those of one scan. -/
theorem firstPosition_eq_wrapped {number : Nat}
    (made : number + poller.formats.length ≤ requests.length) (later : Fin poller.formats.length) :
    firstPosition (claims port requests poller queue) (number + later) =
      some (Rotation.wrapped (2 ^ 64) (poller.advanced number).nextFormatStart.toNat later).val := by
  rw [firstPosition_claims later.pos (by omega), Rotation.wrapped_val, advanced_start,
    Nat.mod_add_mod, Nat.add_assoc]

/-- A run in which no call wraps visibly is fair. -/
theorem fair_of_steady (steady : ∀ number < requests.length, (poller.advanced number).Steady) :
    Fair poller.formats.length (claims port requests poller queue) where
  visited record member := by
    obtain ⟨number, _, request, queue', rfl⟩ := mem_claims member
    exact claim_positions queue'
  distinct record member := by
    obtain ⟨number, made, request, queue', rfl⟩ := mem_claims member
    exact (scanPositions_nodup_iff.mpr (steady number made)).sublist (claim_positions queue').sublist
  complete record member whole place inside := by
    obtain ⟨number, made, request, queue', rfl⟩ := mem_claims member
    have all : ((poller.advanced number).claim port request queue').1.calls.map ClaimCall.position =
        (poller.advanced number).scanPositions := by
      refine (claim_positions queue').eq_of_length ?_
      rw [List.length_map, whole, scanPositions_length]
      rfl
    rw [all]
    exact mem_scanPositions (steady number made) inside
  first number made place inside := by
    rw [claims_length] at made
    have rotates := (Rotation.wrapped_bijective_iff (n := poller.formats.length)
      (poller.advanced number).nextFormatStart.isLt).mpr (steady number (by omega))
    obtain ⟨later, at_, only⟩ := rotates.existsUnique ⟨place, inside⟩
    refine ⟨later, ⟨later.isLt, ?_⟩, ?_⟩
    · rw [firstPosition_eq_wrapped made, at_]
    · rintro other ⟨below, same⟩
      rw [firstPosition_eq_wrapped made ⟨other, below⟩] at same
      exact congrArg Fin.val (only ⟨other, below⟩ (Fin.ext (Option.some.inj same)))

end Run

/-- A queue with no tasks. -/
def emptyPort : ClaimPort Unit Unit where
  claim _ _ _ _ _ := (.tasks [], ())
  honours _ _ _ _ _ _ same := by
    obtain rfl := ClaimAnswer.tasks.inj same
    exact Nat.zero_le _

/-- An empty queue is asked for all formats. -/
theorem claimFrom_emptyPort (positive : request.limit ≠ 0)
    (offsets : List (Fin poller.formats.length)) :
    (poller.claimFrom emptyPort request offsets [] ()).calls.map ClaimCall.position =
      offsets.map fun offset => (poller.position offset).val := by
  induction offsets with
  | nil => rfl
  | cons offset rest ih =>
    have missing : ([] : List Unit).length ≠ request.limit := positive.symm
    have answers : (poller.ask emptyPort request offset [] ()).1.result = .ok [] := rfl
    rw [claimFrom_answered missing answers]
    exact congrArg _ ih

theorem steady_new_iff {formats : List TaskFormat} {storageTimeout : Duration}
    {sized : formats.length < 2 ^ 64} {number : Nat} :
    ((Poller.new formats storageTimeout sized).advanced number).Steady ↔
      number % 2 ^ 64 + formats.length ≤ 2 ^ 64 ∨ formats.length ∣ 2 ^ 64 := by
  rw [Steady, advanced_start]
  exact Iff.of_eq (congrArg (fun start => start % 2 ^ 64 + formats.length ≤ 2 ^ 64 ∨ _)
    (Nat.zero_add number))

/-- A request for one task. -/
def oneTask : ClaimRequest := ⟨"", 1, .fromSecs 1⟩

theorem claim_emptyPort : (poller.claim emptyPort oneTask ()).1.calls.map ClaimCall.position =
    poller.scanPositions :=
  claimFrom_emptyPort Nat.one_ne_zero _

/-- The calls of a fair run over an empty queue do not wrap visibly. -/
theorem steady_of_fair {count number : Nat} (made : number < count)
    (fair : Fair poller.formats.length
      (claims emptyPort (List.replicate count oneTask) poller ())) :
    (poller.advanced number).Steady := by
  obtain ⟨_, found⟩ := claims_get (List.replicate count oneTask) poller ()
    (List.getElem?_replicate_of_lt made)
  have distinct := fair.distinct _ (List.mem_of_getElem? found)
  rw [claim_emptyPort] at distinct
  exact scanPositions_nodup_iff.mp distinct

/-- **Exact fairness.** All runs of a number of claims over a list of formats are fair exactly if the
number of formats divides the size of the counter, or the last of them begins so early that its scan
does not wrap. -/
theorem rotation_fair_iff (formats : List TaskFormat) (nonempty : formats ≠ [])
    (storageTimeout : Duration) (sized : formats.length < 2 ^ 64) (count : Nat) :
    (∀ (σ τ : Type) (port : ClaimPort σ τ) (requests : List ClaimRequest) (queue : σ),
        requests.length = count → Fair formats.length
          (claims port requests (.new formats storageTimeout sized) queue)) ↔
      formats.length ∣ 2 ^ 64 ∨ count + formats.length ≤ 2 ^ 64 + 1 := by
  constructor
  · intro fair
    by_contra neither
    rw [not_or, Nat.not_le] at neither
    obtain ⟨visible, late⟩ := neither
    have several : 2 ≤ formats.length := by
      have := List.length_pos_iff.mpr nonempty
      have : formats.length ≠ 1 := fun one => visible (one ▸ Nat.one_dvd _)
      omega
    -- the first call whose scan wraps
    have steady : ((Poller.new formats storageTimeout sized).advanced
        (2 ^ 64 + 1 - formats.length)).Steady :=
      steady_of_fair (by omega) (fair Unit Unit emptyPort _ () List.length_replicate)
    rcases steady_new_iff.mp steady with early | divides
    · omega
    · exact visible divides
  · rintro bounded σ τ port requests queue rfl
    refine fair_of_steady fun number made => steady_new_iff.mpr ?_
    rcases bounded with divides | early
    · exact .inr divides
    · exact .inl (by have := Nat.mod_le number (2 ^ 64); omega)

theorem rotation_fair_iff_threeFormats :
    threeFormats ≠ [] ∧ ∀ (requests : List ClaimRequest), requests.length = 1000 →
      Fair 3 (claims emptyPort requests
        (.new threeFormats (.fromSecs 6) (by decide)) ()) :=
  ⟨by decide, fun requests made => (rotation_fair_iff threeFormats (by decide) _ (by decide) 1000).mpr
    (.inr (by decide)) Unit Unit emptyPort requests () made⟩

/-- **The wrap repeats a format.** Over an empty queue, the last of `2 ^ 64` claims for three formats
asks for the first format twice and never for the third. -/
theorem rotation_repeats :
    ∃ poller outcome, (claims emptyPort (List.replicate (2 ^ 64) oneTask)
        (.new threeFormats (.fromSecs 6) (by decide)) ())[2 ^ 64 - 1]? =
          some (poller, outcome) ∧
      outcome.calls.map ClaimCall.position = [0, 0, 1] := by
  have made : (List.replicate (2 ^ 64) oneTask)[2 ^ 64 - 1]? = some oneTask :=
    List.getElem?_replicate_of_lt (by decide)
  obtain ⟨_, found⟩ := claims_get _ (.new threeFormats (.fromSecs 6) (by decide)) () made
  exact ⟨_, _, found, claim_emptyPort.trans (by decide)⟩

end Poller

end AccountManagement.Runtime
