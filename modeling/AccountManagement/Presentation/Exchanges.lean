/-
**Every HTTP response is true.**

The service behind its routes, with every exchange it was asked to make. An exchange remembers the
state it arrived in, and the state remembers which call made each commit of the reservations.

* `Quiet`: what every step but a statement of a reservation call leaves alone.
* `HttpSound`: what is known of the exchanges, the calls and the authors of the commits; kept by
  quiet steps (`HttpSound.kept`) and by statements (`HttpSound.after`).
* `http_exchange_exact`: in every reachable state, a success was performed exactly once and reports
  its event, a rejection was decided on a history between arrival and answer and explains it, a
  conflict performed nothing, and no response is an internal error.
-/

import AccountManagement.Presentation.Http
import AccountManagement.Service.Atomic

namespace AccountManagement.Presentation

open AccountManagement.Library AccountManagement.Task AccountManagement.Domain
open AccountManagement.Store AccountManagement.Service AccountManagement.Runtime

/-! ### The machine -/

section Machine

variable {Value : Type} [JsonValue Value] (wire : Wire Value) (Body : Type)

/-- A request with its generated values, and the state of the service it arrived in. -/
structure Exchange where
  request : HttpRequest Body
  generated : Generated
  arrived : ServiceState wire

/-- The service and its exchanges. `authors` holds, for each commit of the reservations, the call
that made it. -/
structure HttpState where
  service : ServiceState wire
  exchanges : List (Exchange wire Body)
  authors : List Nat

variable (Value) in
inductive HttpAction where
  | receive (request : HttpRequest Body) (generated : Generated)
  | service (action : ServiceAction Value)

variable {wire Body}

/-- The place of the call of an exchange that makes one. -/
def Exchange.call (exchange : Exchange wire Body) : Nat :=
  exchange.arrived.reservations.calls.length

/-- The response, once there is one. -/
def Exchange.response (parsing : Parsing Body) (exchange : Exchange wire Body)
    (s : ServiceState wire) : Option Response :=
  match answer wire parsing exchange.generated exchange.request with
  | .ends response => some response
  | .calls _ _ reply => do
    let execution ← s.reservations.calls[exchange.call]?
    match execution.phase with
    | .returned answer => return reply answer
    | _ => none

/-- A request makes its one call, if it is not refused. -/
def receive (s : ServiceState wire) : ReservationUseCase Value Response → ServiceState wire
  | .ends _ => s
  | .calls command tasks _ => s.reserve command tasks

/-- The arrival of a request. -/
def HttpState.arrive (parsing : Parsing Body) (s : HttpState wire Body) (request : HttpRequest Body)
    (generated : Generated) : HttpState wire Body where
  service := receive s.service (answer wire parsing generated request)
  exchanges := s.exchanges ++ [⟨request, generated, s.service⟩]
  authors := s.authors

/-- Requests come over HTTP only. -/
def isRequest : ServiceAction Value → Bool
  | .request _ _ => true
  | _ => false

/-- Who made the commit of a step, if it made one. -/
def author (action : ServiceAction Value) (before after : ServiceState wire) : List Nat :=
  match action with
  | .reservation call _ =>
    if before.reservations.log.length < after.reservations.log.length then [call] else []
  | _ => []

variable (wire) in
def httpMachine (parsing : Parsing Body) (config : PostgresCommandConfig) (offset : String → Int)
    (clock : DateTime) (sender : HandlerResult → Bool) :
    Machine (HttpState wire Body) (HttpAction Value Body) where
  start := ⟨(serviceMachine wire config offset clock sender).start, [], []⟩
  step s
    | .receive request generated => some (s.arrive parsing request generated)
    | .service action =>
      if isRequest action then none
      else do
        let service ← (serviceMachine wire config offset clock sender).step s.service action
        return ⟨service, s.exchanges, s.authors ++ author action s.service service⟩

end Machine

section Exchanges

variable {Value Body : Type} [JsonValue Value] {wire : Wire Value} {parsing : Parsing Body}
  {config : PostgresCommandConfig} {offset : String → Int} {clock : DateTime}
  {sender : HandlerResult → Bool}

/-- The service behind its routes is the service. -/
theorem service_reachable {s : HttpState wire Body}
    (reached : (httpMachine wire parsing config offset clock sender).Reachable s) :
    (serviceMachine wire config offset clock sender).Reachable s.service := by
  refine reached.simulate (n := serviceMachine wire config offset clock sender) HttpState.service rfl
    fun s action t _ stepped => ?_
  cases action with
  | receive request generated =>
    obtain rfl := Option.some.inj stepped
    simp only [HttpState.arrive]
    have cases := answer_cases wire parsing generated request
    generalize answer wire parsing generated request = useCase at cases
    cases cases with
    | refused response status => exact .inl rfl
    | called client command tasks reply called honest =>
      refine .inr ⟨.request client generated.taskId, ?_⟩
      simp only [serviceMachine, called]
      rfl
  | service action =>
    simp only [httpMachine] at stepped
    split at stepped
    · cases stepped
    · obtain ⟨service, moved, stepped⟩ := Option.bind_eq_some_iff.mp stepped
      obtain rfl := Option.some.inj stepped
      exact .inr ⟨action, moved⟩

/-! ### Steps of others -/

/-- The stored history of a reservation. -/
def history (s : ServiceState wire) (aggregateId : String) : List EmailReservationEvent :=
  storedEvents wire.reservations aggregateId s.tables

/-- What a step leaves alone that is no statement of a reservation call, and the calls it adds. -/
structure Quiet (s t : ServiceState wire) (added : List (Execution wire.reservations)) : Prop where
  log : t.reservations.log = s.reservations.log
  calls : t.reservations.calls = s.reservations.calls ++ added
  history : history t = history s

variable {s t : ServiceState wire}

theorem Quiet.of_eq (reservations : t.reservations = s.reservations) (events : t.events = s.events) :
    Quiet s t [] := by
  refine ⟨by rw [reservations], by rw [reservations, List.append_nil], ?_⟩
  funext aggregateId
  show storedEvents wire.reservations aggregateId ⟨t.events, t.snapshots, t.queue.rows⟩
    = storedEvents wire.reservations aggregateId ⟨s.events, s.snapshots, s.queue.rows⟩
  rw [events]
  rfl

theorem Quiet.reserve (s : ServiceState wire) (command : EmailReservationCommand)
    (tasks : List (NewTask Value)) :
    Quiet s (s.reserve command tasks) [.begin command.email.toString command tasks] :=
  ⟨rfl, rfl, rfl⟩

/-- The calls that deliveries make: they record that an account was created. -/
def Continues (added : List (Execution wire.reservations)) : Prop :=
  ∀ execution ∈ added, ∃ task : RecordAccountCreatedTaskV1,
    execution.command = task.command ∧ execution.tasks = []

theorem Continues.nil : Continues ([] : List (Execution wire.reservations)) :=
  fun _ none => absurd none List.not_mem_nil

/-- Every other step is quiet, and a new call continues a delivery. -/
theorem quiet_step {action : ServiceAction Value} (silent : isRequest action = false)
    (other : ∀ call move, action ≠ .reservation call move)
    (stepped : (serviceMachine wire config offset clock sender).step s action = some t) :
    ∃ added, Quiet s t added ∧ Continues added := by
  cases action with
  | request request taskId => cases silent
  | reservation call move => exact absurd rfl (other call move)
  | account call move =>
    simp only [serviceMachine] at stepped
    split at stepped
    · obtain ⟨moved, ran, stepped⟩ := Option.bind_eq_some_iff.mp stepped
      obtain ⟨execution, result, found, effect, rfl⟩ := Gateway.move_some ran
      obtain rfl := Option.some.inj stepped
      have untouched : Untouched wire.reservations s.tables result.tables :=
        ServiceState.move_untouched wire.types_differ.symm effect
      refine ⟨[], ⟨rfl, (List.append_nil _).symm, ?_⟩, .nil⟩
      funext aggregateId
      show storedEvents wire.reservations aggregateId result.tables
        = storedEvents wire.reservations aggregateId s.tables
      unfold storedEvents
      rw [(untouched.own aggregateId).1]
    · cases stepped
  | queue action =>
    simp only [serviceMachine] at stepped
    split at stepped
    · obtain ⟨after, moved, stepped⟩ := Option.bind_eq_some_iff.mp stepped
      obtain rfl := Option.some.inj stepped
      exact ⟨[], .of_eq rfl rfl, .nil⟩
    · cases stepped
  | handle index now taskId =>
    obtain ⟨delivery, present, stepped⟩ := Option.bind_eq_some_iff.mp stepped
    split at stepped
    · obtain rfl := Option.some.inj stepped
      have dispatched := dispatch_cases wire now taskId delivery.task.attempt
      generalize dispatch wire now taskId delivery.task.attempt = result at dispatched
      cases dispatched with
      | rejected | account | sends => exact ⟨[], .of_eq rfl rfl, .nil⟩
      | reservation task payload =>
        refine ⟨_, ⟨rfl, rfl, rfl⟩, fun execution member => ?_⟩
        obtain rfl := List.mem_singleton.mp member
        exact ⟨task, rfl, rfl⟩
    · cases stepped
  | finish index ending =>
    obtain ⟨delivery, present, stepped⟩ := Option.bind_eq_some_iff.mp stepped
    obtain ⟨result, ended, stepped⟩ := Option.bind_eq_some_iff.mp stepped
    obtain rfl := Option.some.inj stepped
    exact ⟨[], .of_eq rfl rfl, .nil⟩
  | settle index jitter =>
    obtain ⟨delivery, present, stepped⟩ := Option.bind_eq_some_iff.mp stepped
    split at stepped
    · obtain ⟨after, moved, stepped⟩ := Option.bind_eq_some_iff.mp stepped
      obtain rfl := Option.some.inj stepped
      exact ⟨[], .of_eq rfl rfl, .nil⟩
    · cases stepped

/-! ### The fate of a call -/

/-- The commits of a call. -/
def HttpState.commitsOf (s : HttpState wire Body) (call : Nat) : List (Commit wire.reservations) :=
  ((s.authors.zip s.service.reservations.log).filter (·.1 = call)).map Prod.snd

variable (wire) in
/-- **What happened to a command** between the history it arrived at and the present one: its status
and its commits. -/
inductive Fate (command : EmailReservationCommand) (tasks : List (NewTask Value))
    (before now : List EmailReservationEvent) :
    CallStatus EmailReservationError → List (Commit wire.reservations) → Prop
  | pending : Fate command tasks before now .pending []
  | crashed : Fate command tasks before now .crashed []
  | performed (history : List EmailReservationEvent) (self : EmailReservation)
      (event : EmailReservationEvent)
      (answer : Except (CommandGatewayError EmailReservationError) Unit) :
      before <+: history → history ++ [event] <+: now →
      emailReservation.replay history = some self → self.Accepts command event →
      answer = .ok () ∨ answer = .error .unavailable →
      Fate command tasks before now (.answered answer)
        [⟨command.email.toString, command, event, tasks⟩]
  | rejected (history : List EmailReservationEvent) (self : EmailReservation)
      (reason : EmailReservationError) : before <+: history → history <+: now →
      emailReservation.replay history = some self → self.handle command = .error reason →
      Fate command tasks before now (.answered (.error (.domain reason))) []
  | conflict : Fate command tasks before now (.answered (.error .conflict)) []
  | unavailable : Fate command tasks before now (.answered (.error .unavailable)) []

theorem Fate.mono {command : EmailReservationCommand} {tasks : List (NewTask Value)}
    {before now later : List EmailReservationEvent} {status : CallStatus EmailReservationError}
    {commits : List (Commit wire.reservations)} (grown : now <+: later)
    (fate : Fate wire command tasks before now status commits) :
    Fate wire command tasks before later status commits := by
  cases fate with
  | pending => exact .pending
  | crashed => exact .crashed
  | performed history self event answer after stored replayed accepted kind =>
    exact .performed history self event answer after (stored.trans grown) replayed accepted kind
  | rejected history self reason after stored replayed handled =>
    exact .rejected history self reason after (stored.trans grown) replayed handled
  | conflict => exact .conflict
  | unavailable => exact .unavailable

/-- A pending call has no commit. -/
theorem Fate.commits_nil {command : EmailReservationCommand} {tasks : List (NewTask Value)}
    {before now : List EmailReservationEvent} {commits : List (Commit wire.reservations)}
    (fate : Fate wire command tasks before now .pending commits) : commits = [] := by
  cases fate
  rfl

/-- What is known of an exchange. -/
structure Tracked (parsing : Parsing Body) (s : HttpState wire Body)
    (exchange : Exchange wire Body) : Prop where
  grown : ∀ aggregateId, history exchange.arrived aggregateId <+: history s.service aggregateId
  called : ∀ command tasks reply,
    answer wire parsing exchange.generated exchange.request = .calls command tasks reply →
    ∃ execution, s.service.reservations.calls[exchange.call]? = some execution ∧
      execution.aggregateId = command.email.toString ∧ execution.command = command ∧
      execution.tasks = tasks ∧
      Fate wire command tasks (history exchange.arrived command.email.toString)
        (history s.service command.email.toString) execution.phase.status
        (s.commitsOf exchange.call)

/-- The exchange asks for a command. -/
def Exchange.Asks (parsing : Parsing Body) (exchange : Exchange wire Body)
    (command : EmailReservationCommand) (tasks : List (NewTask Value)) : Prop :=
  (answer wire parsing exchange.generated exchange.request).call = some (command, tasks)

/-- **Who makes a call**: one of the exchanges asks for it, or a delivery continues. -/
inductive Origin (parsing : Parsing Body) (exchanges : List (Exchange wire Body)) (call : Nat) :
    EmailReservationCommand → List (NewTask Value) → Prop
  | asked (exchange : Exchange wire Body) (command : EmailReservationCommand)
      (tasks : List (NewTask Value)) : exchange ∈ exchanges → exchange.call = call →
      exchange.Asks parsing command tasks → Origin parsing exchanges call command tasks
  | continued (task : RecordAccountCreatedTaskV1) : Origin parsing exchanges call task.command []

theorem Origin.mono {exchanges more : List (Exchange wire Body)} {call : Nat}
    {command : EmailReservationCommand} {tasks : List (NewTask Value)}
    (origin : Origin parsing exchanges call command tasks) :
    Origin parsing (exchanges ++ more) call command tasks := by
  cases origin with
  | asked exchange _ _ member same asks =>
    exact .asked exchange command tasks (List.mem_append_left more member) same asks
  | continued task => exact .continued task

/-- A commit is one that this call can make. -/
structure MadeBy (execution : Execution wire.reservations) (commit : Commit wire.reservations) :
    Prop where
  aggregateId : execution.aggregateId = commit.aggregateId
  command : execution.command = commit.command
  tasks : execution.tasks = commit.tasks

/-- **What is known of the exchanges and the calls**: the authors of the commits, the origin of the
calls, the order of the exchanges and the fate of each. -/
structure HttpSound (parsing : Parsing Body) (s : HttpState wire Body) : Prop where
  authors : s.authors.length = s.service.reservations.log.length
  authored : ∀ pair ∈ s.authors.zip s.service.reservations.log,
    ∃ execution, s.service.reservations.calls[pair.1]? = some execution ∧ MadeBy execution pair.2
  origin : ∀ call execution, s.service.reservations.calls[call]? = some execution →
    Origin parsing s.exchanges call execution.command execution.tasks
  ordered : s.exchanges.Pairwise fun first second =>
    ∀ command tasks, first.Asks parsing command tasks → first.call < second.call
  tracked : ∀ exchange ∈ s.exchanges, Tracked parsing s exchange

/-! ### Every step -/

section Steps

variable {s t : HttpState wire Body}

theorem Exchange.Asks.calls {exchange : Exchange wire Body} {command : EmailReservationCommand}
    {tasks : List (NewTask Value)} (asks : exchange.Asks parsing command tasks) :
    ∃ reply, answer wire parsing exchange.generated exchange.request
      = .calls command tasks reply := by
  unfold Exchange.Asks at asks
  cases made : answer wire parsing exchange.generated exchange.request with
  | ends response =>
    rw [made] at asks
    cases asks
  | calls own ownTasks reply =>
    rw [made] at asks
    obtain ⟨rfl, rfl⟩ := Prod.mk.inj (Option.some.inj asks)
    exact ⟨reply, rfl⟩

section Quiet

variable {added : List (Execution wire.reservations)}
  (quiet : Quiet s.service t.service added) (authors : t.authors = s.authors)
include quiet authors

theorem commitsOf_quiet (call : Nat) : t.commitsOf call = s.commitsOf call := by
  unfold HttpState.commitsOf
  rw [quiet.log, authors]

/-- A quiet step keeps what is known of an exchange. -/
theorem Tracked.kept {exchange : Exchange wire Body} (tracked : Tracked parsing s exchange) :
    Tracked parsing t exchange := by
  refine ⟨fun aggregateId => ?_, fun command tasks reply answered => ?_⟩
  · rw [quiet.history]
    exact tracked.grown aggregateId
  · obtain ⟨execution, found, sameId, sameCommand, sameTasks, fate⟩ :=
      tracked.called command tasks reply answered
    refine ⟨execution, ?_, sameId, sameCommand, sameTasks, ?_⟩
    · obtain ⟨inside, _⟩ := List.getElem?_eq_some_iff.mp found
      rw [quiet.calls, List.getElem?_append_left inside]
      exact found
    · rw [quiet.history, commitsOf_quiet quiet authors]
      exact fate

/-- **A quiet step keeps what is known**, if the origin of the new calls is known and so is what
arrives. -/
theorem HttpSound.kept (sound : HttpSound parsing s) (arriving : List (Exchange wire Body))
    (exchanges : t.exchanges = s.exchanges ++ arriving) (single : arriving.length ≤ 1)
    (made : ∀ place execution, added[place]? = some execution → Origin parsing t.exchanges
      (s.service.reservations.calls.length + place) execution.command execution.tasks)
    (next : ∀ exchange ∈ arriving, exchange.call = s.service.reservations.calls.length)
    (fresh : ∀ exchange ∈ arriving, Tracked parsing t exchange) : HttpSound parsing t := by
  refine ⟨?_, fun pair member => ?_, fun call execution found => ?_, ?_, fun exchange member => ?_⟩
  · rw [quiet.log, authors]
    exact sound.authors
  · rw [quiet.log, authors] at member
    obtain ⟨execution, found, same⟩ := sound.authored pair member
    obtain ⟨inside, _⟩ := List.getElem?_eq_some_iff.mp found
    rw [quiet.calls, List.getElem?_append_left inside]
    exact ⟨execution, found, same⟩
  · rw [quiet.calls] at found
    rcases Nat.lt_or_ge call s.service.reservations.calls.length with old | new
    · rw [List.getElem?_append_left old] at found
      rw [exchanges]
      exact (sound.origin call execution found).mono
    · rw [List.getElem?_append_right new] at found
      have origin := made _ execution found
      rw [Nat.add_sub_cancel' new] at origin
      exact origin
  · rw [exchanges, List.pairwise_append]
    refine ⟨sound.ordered, ?_, fun first member second arrived command tasks asks => ?_⟩
    · cases arriving with
      | nil => exact .nil
      | cons only rest =>
        rw [List.eq_nil_of_length_eq_zero (Nat.le_zero.mp (Nat.le_of_succ_le_succ single))]
        exact List.pairwise_singleton _ _
    · obtain ⟨reply, answered⟩ := asks.calls
      obtain ⟨execution, found, _⟩ :=
        (sound.tracked first member).called command tasks reply answered
      rw [next second arrived]
      exact (List.getElem?_eq_some_iff.mp found).1
  · rw [exchanges] at member
    rcases List.mem_append.mp member with earlier | new
    · exact (sound.tracked exchange earlier).kept quiet authors
    · exact fresh exchange new

end Quiet

/-- A call that nobody has made has no commit. -/
theorem HttpSound.commitsOf_new (sound : HttpSound parsing s) :
    s.commitsOf s.service.reservations.calls.length = [] := by
  have none : (s.authors.zip s.service.reservations.log).filter
      (·.1 = s.service.reservations.calls.length) = [] := by
    rw [List.filter_eq_nil_iff]
    intro pair member same
    obtain ⟨execution, found, _⟩ := sound.authored pair member
    obtain ⟨inside, _⟩ := List.getElem?_eq_some_iff.mp found
    exact inside.ne (of_decide_eq_true same)
  rw [HttpState.commitsOf, none, List.map_nil]

/-- The arrival of a request is quiet, and nothing has happened to it yet. -/
theorem HttpSound.arrive (sound : HttpSound parsing s) (request : HttpRequest Body)
    (generated : Generated) : HttpSound parsing (s.arrive parsing request generated) := by
  have next : ∀ exchange ∈ [(⟨request, generated, s.service⟩ : Exchange wire Body)],
      exchange.call = s.service.reservations.calls.length := by
    intro exchange member
    obtain rfl := List.mem_singleton.mp member
    rfl
  cases answered : answer wire parsing generated request with
  | ends response =>
    have same : (s.arrive parsing request generated).service = s.service := by
      simp only [HttpState.arrive, answered, receive]
    have quiet : Quiet s.service (s.arrive parsing request generated).service [] :=
      .of_eq (by rw [same]) (by rw [same])
    refine sound.kept quiet rfl _ rfl le_rfl (fun place execution none => ?_) next
      fun exchange member => ?_
    · cases none
    · obtain rfl := List.mem_singleton.mp member
      refine ⟨fun aggregateId => ?_, fun command tasks reply called => ?_⟩
      · simp only [quiet.history, List.prefix_rfl]
      · cases answered.symm.trans called
  | calls command tasks reply =>
    have same : (s.arrive parsing request generated).service = s.service.reserve command tasks := by
      simp only [HttpState.arrive, answered, receive]
    have quiet : Quiet s.service (s.arrive parsing request generated).service
        [.begin command.email.toString command tasks] := by
      rw [same]
      exact .reserve s.service command tasks
    refine sound.kept quiet rfl _ rfl le_rfl (fun place execution found => ?_) next
      fun exchange member => ?_
    · cases place with
      | zero =>
        obtain rfl := Option.some.inj found
        refine .asked ⟨request, generated, s.service⟩ command tasks ?_ rfl ?_
        · exact List.mem_append_right _ (List.mem_singleton_self _)
        · show (answer wire parsing generated request).call = some (command, tasks)
          rw [answered]
          rfl
      | succ place => cases found
    · obtain rfl := List.mem_singleton.mp member
      refine ⟨fun aggregateId => ?_, fun own ownTasks reply called => ?_⟩
      · simp only [quiet.history, List.prefix_rfl]
      · obtain ⟨rfl, rfl, _⟩ := UseCase.calls.inj (answered.symm.trans called)
        refine ⟨.begin command.email.toString command tasks, ?_, rfl, rfl, rfl, ?_⟩
        · rw [quiet.calls]
          exact List.getElem?_concat_length
        · rw [commitsOf_quiet quiet rfl]
          show Fate wire command tasks _ _ .pending
            (s.commitsOf s.service.reservations.calls.length)
          rw [sound.commitsOf_new]
          exact .pending

/-! ### A statement of a call -/

/-- The state after a statement of a reservation call. -/
def HttpState.after (s : HttpState wire Body) (call : Nat) (result : Stepped wire.reservations) :
    HttpState wire Body where
  service := { s.service.setTables result.tables with
    reservations := s.service.reservations.after call result }
  exchanges := s.exchanges
  authors := s.authors ++ result.committed.toList.map fun _ => call

/-- A step of the machine that is a statement of a reservation call. -/
theorem httpMachine_move {call : Nat} {move : Move}
    (stepped : (httpMachine wire parsing config offset clock sender).step s
      (.service (.reservation call move)) = some t) :
    ∃ execution result, s.service.reservations.calls[call]? = some execution ∧
      execution.step config move s.service.tables = some result ∧ t = s.after call result := by
  obtain ⟨service, moved, stepped⟩ := Option.bind_eq_some_iff.mp stepped
  obtain rfl := Option.some.inj stepped
  simp only [serviceMachine] at moved
  split at moved
  · obtain ⟨pair, ran, moved⟩ := Option.bind_eq_some_iff.mp moved
    obtain ⟨execution, result, found, effect, rfl⟩ := Gateway.move_some ran
    obtain rfl := Option.some.inj moved
    refine ⟨execution, result, found, effect, ?_⟩
    have same : author (.reservation call move) s.service { s.service.setTables result.tables with
        reservations := s.service.reservations.after call result }
        = result.committed.toList.map fun _ => call := by
      unfold author Gateway.after
      cases result.committed <;> simp
    show (⟨_, _, s.authors ++ author _ _ _⟩ : HttpState wire Body) = s.after call result
    unfold HttpState.after
    rw [← same]
    rfl
  · cases moved

/-- A statement adds what it commits to the commits of its call, and to no other. -/
theorem commitsOf_after (sound : HttpSound parsing s) (call : Nat)
    (result : Stepped wire.reservations) (other : Nat) :
    (s.after call result).commitsOf other
      = s.commitsOf other ++ if other = call then result.committed.toList else [] := by
  unfold HttpState.commitsOf HttpState.after Gateway.after
  simp only
  rw [List.zip_append sound.authors, List.filter_append, List.map_append]
  congr 1
  cases result.committed with
  | none => simp
  | some commit =>
    by_cases same : call = other
    · simp [same]
    · simp [same, Ne.symm same]

/-- The histories after a statement. -/
theorem history_after (call : Nat) {move : Move} {execution : Execution wire.reservations}
    {result : Stepped wire.reservations}
    (seen : execution.Seen (s.service.reservations.view s.service.tables) move result)
    (aggregateId : String) :
    history s.service aggregateId <+: history (s.after call result).service aggregateId := by
  show storedEvents wire.reservations aggregateId s.service.tables
    <+: storedEvents wire.reservations aggregateId result.tables
  cases seen with
  | unseen same | failed _ same | rejected _ _ same =>
    have still : result.tables = s.service.tables := same
    simp only [still, List.prefix_rfl]
  | performed self event write now lost answer atWrite made replayed handled done =>
    have grown := congrFun (storedEvents_committed done) aggregateId
    simp only at grown
    rw [grown, Function.update_apply]
    split
    · rename_i same
      rw [same]
      exact List.prefix_append _ _
    · exact List.prefix_rfl

/-- **A statement decides the fate of its call.** -/
theorem Fate.after {call : Nat} {move : Move} {execution : Execution wire.reservations}
    {result : Stepped wire.reservations} {before : List EmailReservationEvent}
    (seen : execution.Seen (s.service.reservations.view s.service.tables) move result)
    (sameId : execution.aggregateId = execution.command.email.toString)
    (grown : before <+: history s.service execution.aggregateId) :
    Fate wire execution.command execution.tasks before
      (history (s.after call result).service execution.aggregateId)
      result.execution.phase.status result.committed.toList := by
  have later := history_after call seen execution.aggregateId
  cases seen with
  | unseen same none status =>
    rw [status, none]
    exact .pending
  | failed status same none reached kind =>
    rw [reached, none]
    rcases kind with rfl | rfl | rfl
    · exact .crashed
    · exact .conflict
    · exact .unavailable
  | rejected self reason same none status replayed handled =>
    rw [status, none]
    exact .rejected _ self reason grown later replayed handled
  | performed self event write now lost answer atWrite made replayed handled done status kind =>
    obtain ⟨emitted, one, accepted⟩ := EmailReservation.handle_cases handled
    obtain rfl := (List.cons.inj one).1
    have stored : history (s.after call result).service execution.aggregateId
        = history s.service execution.aggregateId ++ [event] := by
      have appended := congrFun (storedEvents_committed done) execution.aggregateId
      simp only [Function.update_self] at appended
      exact appended
    rw [status, made, stored, sameId]
    rw [sameId] at grown replayed
    exact .performed _ self event answer grown List.prefix_rfl replayed accepted kind

section Calls

variable {calls : List (Execution wire.reservations)} {call place : Nat}
  {execution next current later : Execution wire.reservations}
  (found : calls[call]? = some execution) (same : execution.SameCommand next)
include found same

/-- A statement leaves the command of every call as it is. -/
theorem call_later (at_ : calls[place]? = some current) :
    ∃ later, (calls.set call next)[place]? = some later ∧ current.SameCommand later := by
  by_cases own : place = call
  · obtain ⟨inside, _⟩ := List.getElem?_eq_some_iff.mp found
    rw [own] at at_ ⊢
    obtain rfl := Option.some.inj (found.symm.trans at_)
    exact ⟨next, List.getElem?_set_self inside, same⟩
  · rw [List.getElem?_set_ne (Ne.symm own)]
    exact ⟨current, at_, rfl, rfl, rfl⟩

theorem call_before (at_ : (calls.set call next)[place]? = some later) :
    ∃ current, calls[place]? = some current ∧ current.SameCommand later := by
  obtain ⟨inside, _⟩ := List.getElem?_eq_some_iff.mp at_
  rw [List.length_set] at inside
  obtain ⟨known, set, still⟩ := call_later found same (List.getElem?_eq_getElem inside)
  obtain rfl := Option.some.inj (set.symm.trans at_)
  exact ⟨_, List.getElem?_eq_getElem inside, still⟩

end Calls

/-- A statement of a call keeps what is known of every exchange. -/
theorem HttpSound.after (sound : HttpSound parsing s) {call : Nat} {move : Move}
    {execution : Execution wire.reservations} {result : Stepped wire.reservations}
    (store : StoreSound config (s.service.reservations.view s.service.tables))
    (found : s.service.reservations.calls[call]? = some execution)
    (moved : execution.step config move s.service.tables = some result) :
    HttpSound parsing (s.after call result) := by
  obtain ⟨inside, _⟩ := List.getElem?_eq_some_iff.mp found
  have member : execution ∈ s.service.reservations.calls := List.mem_of_getElem? found
  have seen : execution.Seen (s.service.reservations.view s.service.tables) move result :=
    store.seen emailReservation_neverSilent member moved
  have grown := history_after call seen
  have same := Execution.step_same moved
  refine ⟨?_, fun pair written => ?_, fun place current at_ => ?_, sound.ordered,
    fun exchange present => ?_⟩
  · show (s.authors ++ _).length = (s.service.reservations.log ++ _).length
    rw [List.length_append, List.length_append, sound.authors, List.length_map]
  · have zipped : (s.after call result).authors.zip (s.after call result).service.reservations.log
        = s.authors.zip s.service.reservations.log
          ++ (result.committed.toList.map fun _ => call).zip result.committed.toList :=
      List.zip_append sound.authors
    rw [zipped] at written
    have before : ∃ current, s.service.reservations.calls[pair.1]? = some current ∧
        MadeBy current pair.2 := by
      rcases List.mem_append.mp written with earlier | new
      · exact sound.authored pair earlier
      · cases seen with
        | unseen _ none | failed _ _ none | rejected _ _ _ none =>
          rw [none] at new
          cases new
        | performed self event write now lost answer atWrite made =>
          rw [made] at new
          obtain rfl := List.mem_singleton.mp new
          exact ⟨execution, found, rfl, rfl, rfl⟩
    obtain ⟨current, at_, made⟩ := before
    obtain ⟨later, set, still⟩ := call_later found same at_
    exact ⟨later, set, still.aggregateId.trans made.aggregateId,
      still.command.trans made.command, still.tasks.trans made.tasks⟩
  · obtain ⟨before, at_, still⟩ := call_before found same at_
    rw [still.command, still.tasks]
    exact sound.origin place before at_
  · have tracked := sound.tracked exchange present
    refine ⟨fun aggregateId => (tracked.grown aggregateId).trans (grown aggregateId),
      fun command tasks reply answered => ?_⟩
    obtain ⟨current, at_, sameId, sameCommand, sameTasks, fate⟩ :=
      tracked.called command tasks reply answered
    rw [commitsOf_after sound]
    show ∃ execution, (s.service.reservations.calls.set call result.execution)[_]? = _ ∧ _
    by_cases own : exchange.call = call
    · -- The call of the exchange was pending, so its only commit is the one of this statement.
      rw [own] at at_ fate ⊢
      obtain rfl := Option.some.inj (found.symm.trans at_)
      rw [Execution.step_pending moved] at fate
      rw [fate.commits_nil, List.nil_append, if_pos rfl]
      subst sameCommand sameTasks
      refine ⟨result.execution, List.getElem?_set_self inside, same.aggregateId.trans sameId,
        same.command, same.tasks, ?_⟩
      rw [← sameId]
      exact Fate.after seen sameId (tracked.grown _)
    · refine ⟨current, ?_, sameId, sameCommand, sameTasks, ?_⟩
      · rw [List.getElem?_set_ne (Ne.symm own)]
        exact at_
      · rw [if_neg own, List.append_nil]
        exact fate.mono (grown _)

/-- **Every step keeps what is known of every exchange.** -/
theorem httpSound_reachable
    (reached : (httpMachine wire parsing config offset clock sender).Reachable s) :
    HttpSound parsing s := by
  have start : HttpSound parsing (httpMachine wire parsing config offset clock sender).start :=
    ⟨rfl, fun _ none => absurd none List.not_mem_nil, fun _ _ none => (by cases none),
      .nil, fun _ none => absurd none List.not_mem_nil⟩
  refine reached.invariant (P := HttpSound parsing) start fun s action t before sound stepped => ?_
  cases action with
  | receive request generated =>
    obtain rfl := Option.some.inj stepped
    exact sound.arrive request generated
  | service action =>
    by_cases statement : ∃ call move, action = .reservation call move
    · obtain ⟨call, move, rfl⟩ := statement
      obtain ⟨execution, result, found, moved, rfl⟩ := httpMachine_move stepped
      have store := (serviceSound_reachable (service_reachable before)).reservations.store
      exact sound.after store found moved
    · have other : ∀ call move, action ≠ .reservation call move :=
        fun call move same => statement ⟨call, move, same⟩
      simp only [httpMachine] at stepped
      split at stepped
      · cases stepped
      · obtain ⟨service, moved, stepped⟩ := Option.bind_eq_some_iff.mp stepped
        obtain rfl := Option.some.inj stepped
        obtain ⟨added, quiet, continues⟩ := quiet_step (by simpa using ‹¬ isRequest action = true›)
          other moved
        have nobody : author action s.service service = [] := by
          cases action with
          | reservation call move => exact absurd rfl (other call move)
          | _ => rfl
        rw [nobody, List.append_nil]
        refine sound.kept quiet rfl [] (List.append_nil _).symm (Nat.zero_le 1)
          (fun place execution found => ?_) (fun _ none => absurd none List.not_mem_nil)
          fun _ none => absurd none List.not_mem_nil
        obtain ⟨task, command, tasks⟩ := continues execution (List.mem_of_getElem? found)
        rw [command, tasks]
        exact .continued task

end Steps

/-! ### The contract -/

variable {s : HttpState wire Body}

/-- **What a response means.** `history` is the stored history of the email at the moment the command
took effect or was rejected. -/
inductive Contract (parsing : Parsing Body) (s : HttpState wire Body)
    (exchange : Exchange wire Body) : Response → Prop
  | refused (response : Response) :
      (answer wire parsing exchange.generated exchange.request).call = none →
      response.status ∈ [400, 404, 405, 422, 501] → Contract parsing s exchange response
  | performed (command : EmailReservationCommand) (tasks : List (NewTask Value))
      (history : List EmailReservationEvent) (self : EmailReservation)
      (event : EmailReservationEvent) (response : Response) :
      (answer wire parsing exchange.generated exchange.request).call = some (command, tasks) →
      Presentation.history exchange.arrived command.email.toString <+: history →
      history ++ [event] <+: Presentation.history s.service command.email.toString →
      emailReservation.replay history = some self → self.Accepts command event →
      s.commitsOf exchange.call = [⟨command.email.toString, command, event, tasks⟩] →
      Reports wire.digest parsing.encoding response event → Contract parsing s exchange response
  | rejected (command : EmailReservationCommand) (tasks : List (NewTask Value))
      (history : List EmailReservationEvent) (self : EmailReservation) (response : Response) :
      (answer wire parsing exchange.generated exchange.request).call = some (command, tasks) →
      Presentation.history exchange.arrived command.email.toString <+: history →
      history <+: Presentation.history s.service command.email.toString →
      emailReservation.replay history = some self → s.commitsOf exchange.call = [] →
      Explains self command response → Contract parsing s exchange response
  | conflict (response : Response) : s.commitsOf exchange.call = [] →
      response = EmailReservationsError.conflict.intoResponse ∨
        response = UserAccountsError.conflict.intoResponse → Contract parsing s exchange response
  | unavailable (response : Response) : (s.commitsOf exchange.call).length ≤ 1 →
      response = EmailReservationsError.unavailable.intoResponse ∨
        response = UserAccountsError.unavailable.intoResponse → Contract parsing s exchange response

theorem Contract.status_ne {exchange : Exchange wire Body} {response : Response}
    (contract : Contract parsing s exchange response) : response.status ≠ 500 := by
  cases contract with
  | refused _ _ status =>
    intro internal
    rw [internal] at status
    revert status
    decide
  | performed _ _ _ _ _ _ _ _ _ _ _ _ reports =>
    cases reports <;> simp [reserveEmailResponse, requestCodeResponse, verifyEmailResponse,
      submitProfileResponse]
  | rejected _ _ _ _ _ _ _ _ _ _ explains => cases explains <;> decide
  | conflict _ _ same => rcases same with rfl | rfl <;> decide
  | unavailable _ _ same => rcases same with rfl | rfl <;> decide

/-- A response keeps its contract. -/
theorem contract_of_response
    (reached : (httpMachine wire parsing config offset clock sender).Reachable s)
    {exchange : Exchange wire Body} (member : exchange ∈ s.exchanges) {response : Response}
    (answered : exchange.response parsing s.service = some response) :
    Contract parsing s exchange response := by
  have tracked := (httpSound_reachable reached).tracked exchange member
  have cases := answer_cases wire parsing exchange.generated exchange.request
  unfold Exchange.response at answered
  generalize made : answer wire parsing exchange.generated exchange.request = useCase
    at cases answered
  have called : (answer wire parsing exchange.generated exchange.request).call = useCase.call := by
    rw [made]
  cases cases with
  | refused refusal status =>
    obtain rfl := Option.some.inj answered
    exact .refused refusal called status
  | called client command tasks reply asked honest =>
    obtain ⟨execution, found, answered⟩ := Option.bind_eq_some_iff.mp answered
    obtain ⟨current, at_, sameId, sameCommand, sameTasks, fate⟩ :=
      tracked.called command tasks reply made
    obtain rfl := Option.some.inj (found.symm.trans at_)
    split at answered
    · rename_i result returned
      obtain rfl := Option.some.inj answered
      rw [returned] at fate
      generalize commits : s.commitsOf exchange.call = own at fate
      cases fate with
      | performed history self event _ after stored replayed accepted kind =>
        rcases kind with rfl | rfl
        · exact .performed command tasks history self event _ called after stored replayed accepted
            commits (honest.success self event accepted)
        · exact .unavailable _ (by rw [commits]; rfl) honest.unavailable
      | rejected history self reason after stored replayed handled =>
        exact .rejected command tasks history self _ called after stored replayed commits
          (honest.rejection self reason handled)
      | conflict => exact .conflict _ commits honest.conflict
      | unavailable => exact .unavailable _ (by simp [commits]) honest.unavailable
    · cases answered

/-- **Every HTTP response is true.** In every reachable state of the service, for every exchange that
has a response: it was refused without a call; or its command was performed exactly once, after its
arrival, and the response reports the event; or it was rejected on a history between arrival and
answer, and the response explains it; or it met a conflict and performed nothing; or the service was
unavailable, and it was performed at most once. No response is an internal error. -/
theorem http_exchange_exact (wire : Wire Value) (parsing : Parsing Body)
    (config : PostgresCommandConfig) (offset : String → Int) (clock : DateTime)
    (sender : HandlerResult → Bool) {s : HttpState wire Body}
    (reached : (httpMachine wire parsing config offset clock sender).Reachable s)
    {exchange : Exchange wire Body} (member : exchange ∈ s.exchanges) {response : Response}
    (answered : exchange.response parsing s.service = some response) :
    Contract parsing s exchange response ∧ response.status ≠ 500 := by
  have contract := contract_of_response reached member answered
  exact ⟨contract, contract.status_ne⟩

end Exchanges

/-! ### Two requests for one email -/

/-- A JSON body that fits one of the requests, or none. -/
inductive PlainBody where
  | reserve (request : ReserveEmailRequest)
  | verify (request : VerifyEmailRequest)
  | submit (request : SubmitProfileRequest)
  | malformed
deriving DecidableEq

def plainNumber (text : String) : Option Nat :=
  if text ≠ "" ∧ text.toList.all Char.isDigit then
    some (text.toList.foldl (fun number digit => 10 * number + (digit.toNat - 48)) 0)
  else none

/-- The paths of a registration. -/
def plainRoute (_ : List Route) (_ : Method) : String → Routed
  | "/email-reservations" => .endpoint .reserve (some [])
  | "/email-reservations/ann@example.com/verify" => .endpoint .verify (some ["ann@example.com"])
  | "/user-accounts" => .endpoint .submitProfile (some [])
  | _ => .notFound

/-- Simple readers: addresses have an `@`, identifiers and dates are decimal numbers, and nothing is
escaped. -/
def plainParsing : Parsing PlainBody where
  route := plainRoute
  reserveEmailRequest
    | .reserve request => some request
    | _ => none
  verifyEmailRequest
    | .verify request => some request
    | _ => none
  submitProfileRequest
    | .submit request => some request
    | _ => none
  toLowercase := String.toLower
  isEmailAddress address := '@' ∈ address.toList
  uuid text := (plainNumber text).map (BitVec.ofNat 128)
  date text := (plainNumber text).map Int.ofNat
  encoding := ⟨fun text _ => text, fun _ _ _ _ same => same⟩

def sampleGenerated (accountId : UserAccountId) (taskId : Uuid) : Generated where
  accountId := accountId
  verificationCode := 1234567
  accountCreationToken := "token"
  taskId := taskId
  now := 0
  codeLow := by decide
  codeHigh := by decide

abbrev plainHttp : Machine (HttpState plainWire PlainBody) (HttpAction PlainJson PlainBody) :=
  httpMachine plainWire plainParsing .default (fun _ => 0) 0 fun _ => true

def reserveAnn : HttpRequest PlainBody :=
  ⟨.post, "/email-reservations", .reserve ⟨" Ann@Example.com "⟩⟩

/-- Two requests arrive, both calls read the empty history, and the second writes first. -/
def twoReservations : List (HttpAction PlainJson PlainBody) :=
  [.receive reserveAnn (sampleGenerated ⟨7⟩ 1), .receive reserveAnn (sampleGenerated ⟨8⟩ 2),
    .service (.reservation 0 (.readSnapshot 0)), .service (.reservation 0 .readTail)]
    ++ (committing .reservation 1 false).map .service
    ++ [.service (.reservation 0 (.write 0 false)), .service (.reservation 0 (.readSnapshot 0)),
      .service (.reservation 0 .readTail)]

theorem twoReservations_enabled :
    (plainHttp.run plainHttp.start twoReservations).isSome = true := by
  decide +kernel

def reservedTwice : HttpState plainWire PlainBody :=
  plainHttp.after twoReservations twoReservations_enabled

/-- The first is told that the email is taken, the second that it is reserved. -/
theorem reservedTwice_responses :
    reservedTwice.exchanges.map (·.response plainParsing reservedTwice.service)
      = [some EmailReservationsError.alreadyReserved.intoResponse,
        some (reserveEmailResponse ⟨⟨"ann@example.com"⟩, ⟨8⟩⟩)] := by
  decide +kernel

theorem http_exchange_exact_reservedTwice :
    ∃ first second, reservedTwice.exchanges = [first, second] ∧
      Contract plainParsing reservedTwice first
        EmailReservationsError.alreadyReserved.intoResponse ∧
      Contract plainParsing reservedTwice second
        (reserveEmailResponse ⟨⟨"ann@example.com"⟩, ⟨8⟩⟩) := by
  have responses := reservedTwice_responses
  have two : reservedTwice.exchanges.length = 2 := by
    simpa using congrArg List.length responses
  obtain ⟨first, second, both⟩ := List.length_eq_two.mp two
  rw [both] at responses
  obtain ⟨ofFirst, rest⟩ := List.cons.inj responses
  obtain ⟨ofSecond, _⟩ := List.cons.inj rest
  have reached : plainHttp.Reachable reservedTwice :=
    Machine.reachable_after twoReservations twoReservations_enabled
  refine ⟨first, second, both, ?_, ?_⟩
  · exact (http_exchange_exact plainWire plainParsing .default (fun _ => 0) 0 (fun _ => true) reached
      (by rw [both]; simp) ofFirst).1
  · exact (http_exchange_exact plainWire plainParsing .default (fun _ => 0) 0 (fun _ => true) reached
      (by rw [both]; simp) ofSecond).1

end AccountManagement.Presentation
