/-
**Where an account comes from.**

Every created account leads back to three HTTP exchanges: one was answered with a generated account
ID and its code went to the mailbox, one sent that code back, and one submitted the profile with the
token that the second was given.

* `Asked`: what a request that makes a call has sent, and what was generated for it.
* `HttpSound.performed`: a commit of a client's command belongs to one exchange, and is all that its
  call has committed.
* `accepted_preceded`: the two events before an acceptance are the verification and the issue of its
  code.
* `account_provenance`: so there is no account without a confirmed code, under any interleaving of
  requests, retries, lost replies and deliveries.
* `success_once`: of all requests for an email, at most one reserves it and at most one submits its
  profile.
* `Carries.follow`: the other way round, what the service does for its clients can be asked for over
  HTTP.
-/

import AccountManagement.Domain.Supersession
import AccountManagement.Library.Refinement
import AccountManagement.Presentation.Exchanges
import AccountManagement.Service.Agreement

namespace AccountManagement.Presentation

open AccountManagement.Library AccountManagement.Task AccountManagement.Domain
open AccountManagement.Store AccountManagement.Service AccountManagement.Runtime

/-! ### What a request asks for -/

section Asked

variable {Value Body : Type} [JsonValue Value] (wire : Wire Value) (parsing : Parsing Body)
  (generated : Generated) (request : HttpRequest Body)

/-- **What a request has sent that makes a call**, and what was generated for it. -/
inductive Asked : EmailReservationCommand → Prop
  | reserve (parameters : Option (List String)) (body : ReserveEmailRequest) (email : Email) :
      parsing.route router request.method request.path = .endpoint .reserve parameters →
      parsing.reserveEmailRequest request.body = some body → parsing.email body.email = some email →
      Asked (.reserveEmail email generated.accountId generated.verificationCode)
  | requestCode (parameters : Option (List String)) (path : String) (email : Email) :
      parsing.route router request.method request.path = .endpoint .requestCode parameters →
      parameters.bind List.head? = some path → parsing.email path = some email →
      Asked (.requestVerificationCode email generated.accountId generated.verificationCode)
  | verify (parameters : Option (List String)) (path : String) (body : VerifyEmailRequest)
      (email : Email) (accountId : UserAccountId) :
      parsing.route router request.method request.path = .endpoint .verify parameters →
      parameters.bind List.head? = some path → parsing.email path = some email →
      parsing.verifyEmailRequest request.body = some body →
      parsing.accountId body.accountId = some accountId →
      Asked (.verifyEmail email accountId body.code (wire.digest generated.accountCreationToken))
  | submitProfile (parameters : Option (List String)) (body : SubmitProfileRequest)
      (email : Email) (accountId : UserAccountId) (dateOfBirth : NaiveDate) :
      parsing.route router request.method request.path = .endpoint .submitProfile parameters →
      parsing.submitProfileRequest request.body = some body →
      parsing.email body.email = some email → parsing.accountId body.accountId = some accountId →
      parsing.date body.dateOfBirth = some dateOfBirth →
      Asked (.submitRegistrationProfile email accountId (wire.digest body.accountCreationToken)
        (.new body.firstName body.lastName dateOfBirth (dateNaive generated.now)))

/-- A handler that makes a call has read what it requires. -/
theorem respond_required {Error ServiceError Result Read : Type} {intoResponse : Error → Response}
    {ofService : ServiceError → Error} {success : Result → Response} {error : Error}
    {read : Option Read}
    {next : Read → Except Error (ReservationUseCase Value (Except ServiceError Result))}
    {call : EmailReservationCommand × List (NewTask Value)}
    (called : (respond intoResponse ofService success (required error read >>= next)).call
      = some call) :
    ∃ value, read = some value ∧
      (respond intoResponse ofService success (next value)).call = some call := by
  cases read with
  | none => cases called
  | some value => exact ⟨value, rfl, called⟩

variable {wire parsing generated request}

theorem asked_of_call {command : EmailReservationCommand} {tasks : List (NewTask Value)}
    (called : (answer wire parsing generated request).call = some (command, tasks)) :
    Asked wire parsing generated request command := by
  unfold answer at called
  split at called
  · cases called
  · cases called
  · cases called
  · rename_i parameters routed
    obtain ⟨body, read, called⟩ := respond_required called
    obtain ⟨email, parsed, called⟩ := respond_required called
    simp only [reserveEmail, newTask_eq] at called
    obtain ⟨rfl, _⟩ := Prod.mk.inj (Option.some.inj called)
    exact .reserve parameters body email routed read parsed
  · rename_i parameters routed
    obtain ⟨path, read, called⟩ := respond_required called
    obtain ⟨email, parsed, called⟩ := respond_required called
    simp only [requestNewVerificationCode, newTask_eq] at called
    obtain ⟨rfl, _⟩ := Prod.mk.inj (Option.some.inj called)
    exact .requestCode parameters path email routed read parsed
  · rename_i parameters routed
    obtain ⟨path, addressed, called⟩ := respond_required called
    obtain ⟨body, read, called⟩ := respond_required called
    obtain ⟨accountId, identified, called⟩ := respond_required called
    obtain ⟨email, parsed, called⟩ := respond_required called
    simp only [confirmEmail] at called
    split at called
    · cases called
    · obtain ⟨rfl, _⟩ := Prod.mk.inj (Option.some.inj called)
      exact .verify parameters path body email accountId routed addressed parsed read identified
  · rename_i parameters routed
    obtain ⟨body, read, called⟩ := respond_required called
    obtain ⟨email, parsed, called⟩ := respond_required called
    obtain ⟨accountId, identified, called⟩ := respond_required called
    obtain ⟨dateOfBirth, dated, called⟩ := respond_required called
    simp only [Service.submitProfile, newTask_eq] at called
    obtain ⟨rfl, _⟩ := Prod.mk.inj (Option.some.inj called)
    exact .submitProfile parameters body email accountId dateOfBirth routed read parsed identified
      dated

end Asked

/-! ### The exchange behind a commit -/

section Provenance

variable {Value Body : Type} [JsonValue Value] {wire : Wire Value} {parsing : Parsing Body}
  {config : PostgresCommandConfig} {offset : String → Int} {clock : DateTime}
  {sender : HandlerResult → Bool} {s : HttpState wire Body}

theorem mem_commitsOf {call : Nat} {commit : Commit wire.reservations} :
    commit ∈ s.commitsOf call ↔ (call, commit) ∈ s.authors.zip s.service.reservations.log := by
  unfold HttpState.commitsOf
  simp

/-- Every commit has an author. -/
theorem HttpSound.author_of_mem (sound : HttpSound parsing s) {commit : Commit wire.reservations}
    (member : commit ∈ s.service.reservations.log) : ∃ call, commit ∈ s.commitsOf call := by
  obtain ⟨place, inside, rfl⟩ := List.getElem_of_mem member
  have written : place < s.authors.length := sound.authors.symm ▸ inside
  have paired : place < (s.authors.zip s.service.reservations.log).length := by
    simp [written, inside]
  refine ⟨s.authors[place], mem_commitsOf.mpr ?_⟩
  have here := List.getElem_mem paired
  rw [List.getElem_zip] at here
  exact here

/-- A call has one commit at most. -/
theorem Fate.commits_of_mem {command : EmailReservationCommand} {tasks : List (NewTask Value)}
    {before now : List EmailReservationEvent} {status : CallStatus EmailReservationError}
    {commits : List (Commit wire.reservations)} {commit : Commit wire.reservations}
    (fate : Fate wire command tasks before now status commits) (member : commit ∈ commits) :
    commits = [commit] := by
  cases fate with
  | performed => rw [List.mem_singleton.mp member]
  | pending | crashed | rejected | conflict | unavailable => cases member

/-- The exchange was asked for the command and has performed it, once. -/
structure Performed (parsing : Parsing Body) (s : HttpState wire Body)
    (exchange : Exchange wire Body) (commit : Commit wire.reservations) : Prop where
  member : exchange ∈ s.exchanges
  asks : exchange.Asks parsing commit.command commit.tasks
  commits : s.commitsOf exchange.call = [commit]

/-- **A commit of a client's command** is the one commit of an exchange. -/
theorem HttpSound.performed (sound : HttpSound parsing s) {commit : Commit wire.reservations}
    (member : commit ∈ s.service.reservations.log)
    (client : ∀ task : RecordAccountCreatedTaskV1, commit.command ≠ task.command) :
    ∃ exchange, Performed parsing s exchange commit := by
  obtain ⟨call, mine⟩ := sound.author_of_mem member
  obtain ⟨execution, found, made⟩ := sound.authored _ (mem_commitsOf.mp mine)
  have origin := sound.origin call execution found
  rw [made.command, made.tasks] at origin
  generalize asked : commit.command = command at origin
  generalize carried : commit.tasks = tasks at origin
  cases origin with
  | continued task => exact absurd asked (client task)
  | asked exchange _ _ present same asks =>
    obtain ⟨reply, answered⟩ := asks.calls
    obtain ⟨_, _, _, _, _, fate⟩ :=
      (sound.tracked exchange present).called command tasks reply answered
    rw [← same] at mine
    subst asked carried
    exact ⟨exchange, present, asks, fate.commits_of_mem mine⟩

/-! ### The events before an acceptance -/

/-- The decision behind a place of a history. -/
theorem accepts_at {front rest : ReservationHistory} {command : EmailReservationCommand}
    {event : EmailReservationEvent} {final : EmailReservation}
    (serial : emailReservation.Serial (front ++ (command, event) :: rest) final) :
    ∃ state : EmailReservation, emailReservation.Serial front state ∧
      state.Accepts command event := by
  obtain ⟨state, before, handled⟩ := serial.emitted front.length (by simp)
  rw [List.take_left] at before
  simp only [List.getElem_append_right (Nat.le_refl _), Nat.sub_self, List.getElem_cons_zero]
    at handled
  obtain ⟨emitted, one, accepts⟩ := EmailReservation.handle_cases handled
  obtain rfl : event = emitted := List.head_eq_of_cons_eq one
  exact ⟨state, before, accepts⟩

theorem concat_of_map_snd {history : ReservationHistory} {events : List EmailReservationEvent}
    {event : EmailReservationEvent} (split : history.map Prod.snd = events ++ [event]) :
    ∃ front command, history = front ++ [(command, event)] := by
  obtain ⟨front, last, rfl, _, rest⟩ := List.map_eq_append_iff.mp split
  obtain ⟨⟨command, own⟩, none, rfl, rfl, empty⟩ := List.map_eq_cons_iff.mp rest
  obtain rfl := List.map_eq_nil_iff.mp empty
  exact ⟨front, command, rfl⟩

/-- **An acceptance follows its verification, and that the issue of its code.** -/
theorem accepted_preceded {history : ReservationHistory} {final : EmailReservation}
    (serial : emailReservation.Serial history final) {command : EmailReservationCommand}
    {email : Email} {accountId : UserAccountId} {digest : String} {profile : RegistrationProfile}
    (member : (command, .registrationProfileAccepted email accountId digest profile) ∈ history) :
    ∃ before rest request issue verified code, issue.issuedPair = some (accountId, code) ∧
      history = before ++ [(request, issue),
        (.verifyEmail verified accountId code digest, .emailVerified verified accountId digest),
        (command, .registrationProfileAccepted email accountId digest profile)] ++ rest := by
  obtain ⟨front, rest, rfl⟩ := List.append_of_mem member
  obtain ⟨state, before, accepts⟩ := accepts_at serial
  cases accepts with
  | accepted _ _ _ submitted _ phase =>
    have last := reservation_last before
    rw [phase] at last
    obtain ⟨_, verified, split⟩ := last
    obtain ⟨earlier, verifying, rfl⟩ := concat_of_map_snd split
    obtain ⟨asked, opened, accepts⟩ := accepts_at before
    cases accepts with
    | verified _ _ code _ awaiting =>
      have last := reservation_last opened
      rw [awaiting] at last
      obtain ⟨_, issue, split, issued⟩ := last
      obtain ⟨earliest, request, rfl⟩ := concat_of_map_snd split
      exact ⟨earliest, rest, request, issue, verified, code, issued, by simp⟩

/-- A stored history is the stream of its commits. -/
theorem history_eq (traced : Traced config offset s.service) (aggregateId : String) :
    history s.service aggregateId
      = (stream s.service.reservations.log aggregateId).map Prod.snd :=
  traced.reservations.store.storedEvents aggregateId

/-! ### Provenance -/

/-- **How an account came to be.** Three exchanges, each of which was performed: one for which the
account ID and the code were generated and whose commit posted the code to the mailbox, one that
sent the ID and the code back, and one that submitted the profile with a token of the digest that
the second was given. Their events are next to each other in the history of the email. -/
inductive Provenance (parsing : Parsing Body) (s : HttpState wire Body) (email : Email)
    (accountId : UserAccountId) (profile : RegistrationProfile) : Prop
  | intro (issuing verification submission : Exchange wire Body) (request : EmailReservationCommand)
      (issue : EmailReservationEvent) (code : Nat) (digest : String) (codeTask createTask : Uuid)
      (before rest : List EmailReservationEvent)
      (issued : issue.issuedPair = some (accountId, code))
      (generated : issuing.generated.accountId = accountId ∧
        issuing.generated.verificationCode = code)
      (sent : Performed parsing s issuing ⟨email.toString, request, issue,
        [taskOf wire.sendVerificationCode codeTask ⟨email, accountId, code⟩]⟩)
      (confirmed : Asked wire parsing verification.generated verification.request
        (.verifyEmail email accountId code digest))
      (verified : Performed parsing s verification ⟨email.toString,
        .verifyEmail email accountId code digest, .emailVerified email accountId digest, []⟩)
      (submitted : Asked wire parsing submission.generated submission.request
        (.submitRegistrationProfile email accountId digest profile))
      (accepted : Performed parsing s submission ⟨email.toString,
        .submitRegistrationProfile email accountId digest profile,
        .registrationProfileAccepted email accountId digest profile,
        [taskOf wire.createAccount createTask ⟨email, accountId, profile⟩]⟩)
      (ordered : history s.service email.toString = before ++ [issue,
        .emailVerified email accountId digest,
        .registrationProfileAccepted email accountId digest profile] ++ rest) :
      Provenance parsing s email accountId profile

/-- The issue of a code was asked for by the request it was generated for, and posted to the
mailbox. -/
theorem HttpSound.issued (sound : HttpSound parsing s) (traced : Traced config offset s.service)
    {email : Email} {accountId : UserAccountId} {code : Nat} {request : EmailReservationCommand}
    {issue : EmailReservationEvent} (issued : issue.issuedPair = some (accountId, code))
    (member : (request, issue) ∈ stream s.service.reservations.log email.toString) :
    ∃ issuing codeTask, (issuing.generated.accountId = accountId ∧
        issuing.generated.verificationCode = code) ∧
      Performed parsing s issuing ⟨email.toString, request, issue,
        [taskOf wire.sendVerificationCode codeTask ⟨email, accountId, code⟩]⟩ := by
  obtain ⟨about, _, tasks, committed, logged⟩ := traced.commit_email member
  cases committed with
  | reserved taskId _ _ _ _ _ | reissued taskId _ _ _ _ _ | restarted taskId _ _ _ _ _ =>
    obtain ⟨rfl, rfl⟩ := Prod.mk.inj (Option.some.inj issued)
    obtain rfl := about
    obtain ⟨issuing, performed⟩ :=
      sound.performed logged (by simp [RecordAccountCreatedTaskV1.command])
    cases asked_of_call performed.asks
    exact ⟨issuing, taskId, ⟨rfl, rfl⟩, performed⟩
  | verified | accepted | completed => cases issued

/-- **An accepted profile has its provenance.** -/
theorem HttpSound.provenance (sound : HttpSound parsing s) (traced : Traced config offset s.service)
    {email : Email} {accountId : UserAccountId} {digest : String} {profile : RegistrationProfile}
    (accepted : (.submitRegistrationProfile email accountId digest profile,
        .registrationProfileAccepted email accountId digest profile)
      ∈ stream s.service.reservations.log email.toString) :
    Provenance parsing s email accountId profile := by
  obtain ⟨state, _, serial⟩ := traced.reservation email
  obtain ⟨before, rest, request, issue, verified, code, issued, split⟩ :=
    accepted_preceded serial accepted
  have issuing : (request, issue) ∈ stream s.service.reservations.log email.toString := by
    rw [split]
    simp
  have verifying : (.verifyEmail verified accountId code digest,
      .emailVerified verified accountId digest)
      ∈ stream s.service.reservations.log email.toString := by
    rw [split]
    simp
  obtain ⟨issuer, codeTask, generated, sent⟩ := sound.issued traced issued issuing
  obtain ⟨about, _, _, verifiedWith, verifiedLogged⟩ := traced.commit_email verifying
  obtain rfl : verified = email := about
  cases verifiedWith
  obtain ⟨verification, confirmed⟩ :=
    sound.performed verifiedLogged (by simp [RecordAccountCreatedTaskV1.command])
  obtain ⟨_, _, _, acceptedWith, acceptedLogged⟩ := traced.commit_email accepted
  cases acceptedWith with
  | accepted createTask =>
    obtain ⟨submission, submitted⟩ :=
      sound.performed acceptedLogged (by simp [RecordAccountCreatedTaskV1.command])
    refine .intro issuer verification submission request issue code digest codeTask createTask
      (before.map Prod.snd) (rest.map Prod.snd) issued generated sent
      (asked_of_call confirmed.asks) confirmed (asked_of_call submitted.asks) submitted ?_
    rw [history_eq traced, split]
    simp

/-- **No account without a confirmed code.** In every reachable state of the service, every account
that was created has its provenance. -/
theorem account_provenance (wire : Wire Value) (parsing : Parsing Body)
    (config : PostgresCommandConfig) (offset : String → Int) (clock : DateTime)
    (sender : HandlerResult → Bool) {s : HttpState wire Body}
    (reached : (httpMachine wire parsing config offset clock sender).Reachable s)
    {aggregateId : String} {accountId : UserAccountId} {email : Email}
    {profile : RegistrationProfile} {createdAt : DateTime}
    (created : .accountCreated accountId email profile.firstName profile.lastName
        profile.dateOfBirth profile.validationDate createdAt
      ∈ storedEvents wire.accounts aggregateId s.service.tables) :
    Provenance parsing s email accountId profile := by
  have traced := traced_reachable (service_reachable reached)
  obtain ⟨firstName, lastName, dateOfBirth, validationDate⟩ := profile
  obtain ⟨⟨_, _, ⟨_, _, _, _⟩⟩, _, posted, _, same⟩ := traced.account_event created
  obtain ⟨digest, accepted⟩ := traced.accepted posted
  cases same
  exact (httpSound_reachable reached).provenance traced accepted

/-! ### Successes -/

/-- Different exchanges make different calls. -/
theorem HttpSound.place_eq (sound : HttpSound parsing s) {first second : Nat}
    {one other : Exchange wire Body} (firstAt : s.exchanges[first]? = some one)
    (secondAt : s.exchanges[second]? = some other) {commit commit' : Commit wire.reservations}
    (performed : Performed parsing s one commit) (performed' : Performed parsing s other commit')
    (same : one.call = other.call) : first = second := by
  obtain ⟨firstInside, rfl⟩ := List.getElem?_eq_some_iff.mp firstAt
  obtain ⟨secondInside, rfl⟩ := List.getElem?_eq_some_iff.mp secondAt
  have ordered := List.pairwise_iff_getElem.mp sound.ordered
  rcases Nat.lt_trichotomy first second with before | equal | after
  · exact absurd same (ordered first second firstInside secondInside before _ _ performed.asks).ne
  · exact equal
  · exact absurd same (ordered second first secondInside firstInside after _ _ performed'.asks).ne'

/-- **What happens once in a history is done by one exchange.** -/
theorem HttpSound.once (sound : HttpSound parsing s) (traced : Traced config offset s.service)
    {kind : EmailReservationEvent → Bool} {aggregateId : String}
    (one : (history s.service aggregateId).countP kind ≤ 1) {first second : Nat}
    {exchange other : Exchange wire Body} (firstAt : s.exchanges[first]? = some exchange)
    (secondAt : s.exchanges[second]? = some other) {commit commit' : Commit wire.reservations}
    (performed : Performed parsing s exchange commit)
    (performed' : Performed parsing s other commit')
    (own : commit.aggregateId = aggregateId ∧ kind commit.event = true)
    (own' : commit'.aggregateId = aggregateId ∧ kind commit'.event = true) : first = second := by
  -- The events of the kind are counted in the log, each with its author.
  have counted : (s.authors.zip s.service.reservations.log).countP (fun pair =>
      kind pair.2.event && decide (pair.2.aggregateId = aggregateId))
      = (history s.service aggregateId).countP kind := by
    have logged : (s.authors.zip s.service.reservations.log).map Prod.snd
        = s.service.reservations.log := List.map_snd_zip sound.authors.ge
    rw [history_eq traced, stream, List.map_map, List.countP_map, List.countP_filter]
    conv_rhs => rw [← logged, List.countP_map]
    rfl
  rw [← counted] at one
  have member : (exchange.call, commit) ∈ s.authors.zip s.service.reservations.log :=
    mem_commitsOf.mp (by rw [performed.commits]; exact List.mem_singleton_self _)
  have member' : (other.call, commit') ∈ s.authors.zip s.service.reservations.log :=
    mem_commitsOf.mp (by rw [performed'.commits]; exact List.mem_singleton_self _)
  have same := Keyed.eq_of_countP_le_one one member member' (by simp [own]) (by simp [own'])
  exact sound.place_eq firstAt secondAt performed performed' (Prod.mk.inj same).1

def isReservation : EmailReservationEvent → Bool
  | .emailReserved _ _ _ => true
  | _ => false

/-- An email is reserved at the start of its history and never again. -/
theorem reserved_once {history : ReservationHistory} {final : EmailReservation}
    (serial : emailReservation.Serial history final) :
    (history.map Prod.snd).countP isReservation ≤ 1 := by
  cases history with
  | nil => simp
  | cons head rest =>
    have none : (rest.map Prod.snd).countP isReservation = 0 := by
      rw [List.countP_eq_zero]
      intro event member reserves
      obtain ⟨⟨command, _⟩, inside, rfl⟩ := List.mem_map.mp member
      obtain ⟨front, back, rfl⟩ := List.append_of_mem inside
      have whole : emailReservation.Serial ((head :: front) ++ (command, _) :: back) final := serial
      obtain ⟨state, before, accepts⟩ := accepts_at whole
      have last := reservation_last before
      cases accepts with
      | reserved _ _ _ absent =>
        rw [absent] at last
        cases last
      | _ => cases reserves
    rw [List.map_cons, List.countP_cons, none]
    split <;> omega

/-- A success was performed, and reports its event. -/
theorem Contract.performed_of_success {exchange : Exchange wire Body} {response : Response}
    (member : exchange ∈ s.exchanges) (contract : Contract parsing s exchange response)
    (success : response.status = 202) :
    ∃ commit, Performed parsing s exchange commit ∧
      Reports wire.digest parsing.encoding response commit.event ∧
      commit.aggregateId = commit.event.email.toString := by
  cases contract with
  | performed command tasks _ self event _ asks _ _ _ accepts commits reports =>
    refine ⟨⟨command.email.toString, command, event, tasks⟩, ⟨member, asks, commits⟩, reports, ?_⟩
    cases accepts <;> rfl
  | refused _ _ status =>
    rw [success] at status
    simp at status
  | rejected _ _ _ _ _ _ _ _ _ _ explains =>
    cases explains <;> exact absurd success (by decide)
  | conflict _ _ same => rcases same with rfl | rfl <;> cases success
  | unavailable _ _ same => rcases same with rfl | rfl <;> cases success

/-- Only a reservation is reported as one. -/
theorem Reports.of_reserve {digest : String → String} {encoding : PercentEncoding} {email : Email}
    {accountId : UserAccountId} {event : EmailReservationEvent}
    (reports : Reports digest encoding (reserveEmailResponse ⟨email, accountId⟩) event) :
    event.email = email ∧ isReservation event = true := by
  generalize told : reserveEmailResponse ⟨email, accountId⟩ = response at reports
  cases reports with
  | reserved own ownId code =>
    simp only [reserveEmailResponse, Response.mk.injEq, List.cons.injEq, Prod.mk.injEq, true_and]
      at told
    exact ⟨(Email.toString_injective told.1).symm, rfl⟩
  | _ => simp [reserveEmailResponse, requestCodeResponse, verifyEmailResponse,
      submitProfileResponse] at told

/-- Only an acceptance is reported with a status URL. -/
theorem Reports.of_submit {digest : String → String} {encoding : PercentEncoding} {email : Email}
    {accountId : UserAccountId} {event : EmailReservationEvent}
    (reports : Reports digest encoding (submitProfileResponse encoding ⟨email, accountId⟩) event) :
    event.email = email ∧ event.isAcceptance = true := by
  generalize told : submitProfileResponse encoding ⟨email, accountId⟩ = response at reports
  cases reports with
  | accepted own ownId consumed profile =>
    simp only [submitProfileResponse, Response.mk.injEq, List.cons.injEq, Prod.mk.injEq, true_and,
      and_true] at told
    obtain ⟨sameId, sameUrl⟩ := told
    obtain rfl := UserAccountId.toString_injective sameId
    exact ⟨(statusUrl_injective sameUrl).symm, rfl⟩
  | _ => simp [reserveEmailResponse, requestCodeResponse, verifyEmailResponse,
      submitProfileResponse] at told

/-- Two exchanges that were told of what happens once are one exchange. -/
theorem told_once (reached : (httpMachine wire parsing config offset clock sender).Reachable s)
    {kind : EmailReservationEvent → Bool} {email : Email}
    (one : (history s.service email.toString).countP kind ≤ 1) {first second : Nat}
    {exchange other : Exchange wire Body} (firstAt : s.exchanges[first]? = some exchange)
    (secondAt : s.exchanges[second]? = some other) {response response' : Response}
    (told : exchange.response parsing s.service = some response ∧ response.status = 202)
    (told' : other.response parsing s.service = some response' ∧ response'.status = 202)
    (about : ∀ event, Reports wire.digest parsing.encoding response event →
      event.email = email ∧ kind event = true)
    (about' : ∀ event, Reports wire.digest parsing.encoding response' event →
      event.email = email ∧ kind event = true) : first = second := by
  have firstIn := List.mem_of_getElem? firstAt
  have secondIn := List.mem_of_getElem? secondAt
  obtain ⟨commit, performed, reports, keyed⟩ :=
    (contract_of_response reached firstIn told.1).performed_of_success firstIn told.2
  obtain ⟨commit', performed', reports', keyed'⟩ :=
    (contract_of_response reached secondIn told'.1).performed_of_success secondIn told'.2
  obtain ⟨same, kept⟩ := about _ reports
  obtain ⟨same', kept'⟩ := about' _ reports'
  rw [same] at keyed
  rw [same'] at keyed'
  have traced := traced_reachable (service_reachable reached)
  exact (httpSound_reachable reached).once traced one firstAt secondAt performed performed'
    ⟨keyed, kept⟩ ⟨keyed', kept'⟩

/-- **An email is reserved once and its profile accepted once**, of all the requests that any
clients make: two exchanges that were told so for the same email are one exchange. -/
theorem success_once (wire : Wire Value) (parsing : Parsing Body) (config : PostgresCommandConfig)
    (offset : String → Int) (clock : DateTime) (sender : HandlerResult → Bool)
    {s : HttpState wire Body}
    (reached : (httpMachine wire parsing config offset clock sender).Reachable s)
    {first second : Nat} {exchange other : Exchange wire Body}
    (firstAt : s.exchanges[first]? = some exchange) (secondAt : s.exchanges[second]? = some other)
    (email : Email) (accountId otherId : UserAccountId) :
    (exchange.response parsing s.service = some (reserveEmailResponse ⟨email, accountId⟩) →
      other.response parsing s.service = some (reserveEmailResponse ⟨email, otherId⟩) →
      first = second) ∧
    (exchange.response parsing s.service
        = some (submitProfileResponse parsing.encoding ⟨email, accountId⟩) →
      other.response parsing s.service
        = some (submitProfileResponse parsing.encoding ⟨email, otherId⟩) →
      first = second) := by
  have traced := traced_reachable (service_reachable reached)
  obtain ⟨state, _, serial⟩ := traced.reservation email
  constructor
  · intro told told'
    have one : (history s.service email.toString).countP isReservation ≤ 1 := by
      rw [history_eq traced]
      exact reserved_once serial
    exact told_once reached one firstAt secondAt ⟨told, rfl⟩ ⟨told', rfl⟩
      (fun _ => Reports.of_reserve) fun _ => Reports.of_reserve
  · intro told told'
    have one :
        (history s.service email.toString).countP EmailReservationEvent.isAcceptance ≤ 1 := by
      rw [history_eq traced, List.countP_map]
      exact (reservation_once serial).1
    exact told_once reached one firstAt secondAt ⟨told, rfl⟩ ⟨told', rfl⟩
      (fun _ => Reports.of_submit) fun _ => Reports.of_submit

end Provenance

/-- Since the second of the two requests was told that it has reserved the email, the first was
not. -/
theorem success_once_reservedTwice :
    ∃ first, reservedTwice.exchanges[0]? = some first ∧
      ∀ accountId, first.response plainParsing reservedTwice.service
        ≠ some (reserveEmailResponse ⟨⟨"ann@example.com"⟩, accountId⟩) := by
  have responses := reservedTwice_responses
  have two : reservedTwice.exchanges.length = 2 := by
    simpa using congrArg List.length responses
  obtain ⟨first, second, both⟩ := List.length_eq_two.mp two
  rw [both] at responses
  obtain ⟨_, rest⟩ := List.cons.inj responses
  obtain ⟨told', _⟩ := List.cons.inj rest
  have firstAt : reservedTwice.exchanges[0]? = some first := by rw [both]; rfl
  have secondAt : reservedTwice.exchanges[1]? = some second := by rw [both]; rfl
  refine ⟨first, firstAt, fun accountId told => ?_⟩
  have same := (success_once plainWire plainParsing .default (fun _ => 0) 0 (fun _ => true)
    (Machine.reachable_after twoReservations twoReservations_enabled) firstAt secondAt
    ⟨"ann@example.com"⟩ accountId ⟨8⟩).1 told told'
  cases same

/-! ### A registration over HTTP -/

section Carries

variable {Value Body : Type} [JsonValue Value] {wire : Wire Value} {parsing : Parsing Body}

variable (wire parsing) in
/-- What arrives over HTTP and the action of the service it stands for. -/
inductive Carries : HttpAction Value Body → ServiceAction Value → Prop
  | receive {request : HttpRequest Body} {generated : Generated} {client : ClientRequest}
      {taskId : Uuid} :
      (answer wire parsing generated request).call = client.call wire taskId →
      Carries (.receive request generated) (.request client taskId)
  | service {action : ServiceAction Value} : isRequest action = false →
      Carries (.service action) action

/-- What the service does for its clients, it does for those who ask over HTTP. -/
theorem Carries.follow {config : PostgresCommandConfig} {offset : String → Int} {clock : DateTime}
    {sender : HandlerResult → Bool} (s : HttpState wire Body) (action : HttpAction Value Body)
    (other : ServiceAction Value) (service : ServiceState wire)
    (carries : Carries wire parsing action other)
    (stepped : (serviceMachine wire config offset clock sender).step s.service other
      = some service) :
    ∃ t, (httpMachine wire parsing config offset clock sender).step s action = some t ∧
      t.service = service := by
  cases carries with
  | @receive request generated client taskId same =>
    refine ⟨_, rfl, ?_⟩
    simp only [serviceMachine, ← same] at stepped
    show Presentation.receive s.service (answer wire parsing generated request) = service
    cases useCase : answer wire parsing generated request with
    | ends response =>
      rw [useCase] at stepped
      exact Option.some.inj stepped
    | calls command tasks reply =>
      rw [useCase] at stepped
      exact Option.some.inj stepped
  | service silent =>
    refine ⟨⟨service, s.exchanges, s.authors ++ author other s.service service⟩, ?_, rfl⟩
    simp only [httpMachine, silent, stepped]
    rfl

theorem call_respond {Error ServiceError Result : Type} {intoResponse : Error → Response}
    {ofService : ServiceError → Error} {success : Result → Response}
    (useCase : ReservationUseCase Value (Except ServiceError Result)) :
    (respond intoResponse ofService success (.ok useCase)).call = useCase.call := by
  cases useCase <;> rfl

/-- The steps of the service itself. -/
theorem carries_services {actions : List (ServiceAction Value)}
    (silent : ∀ action ∈ actions, isRequest action = false) :
    List.Forall₂ (Carries wire parsing) (actions.map .service) actions := by
  rw [List.forall₂_map_left_iff]
  exact List.forall₂_same.mpr fun action member => .service (silent action member)

/-! ### What a request must hold to be understood -/

section Understood

variable {request : HttpRequest Body} {generated : Generated} {parameters : Option (List String)}
  {email : Email} {accountId : UserAccountId}

theorem carries_reserve {payload : ReserveEmailRequest}
    (routed : parsing.route router request.method request.path = .endpoint .reserve parameters)
    (body : parsing.reserveEmailRequest request.body = some payload)
    (parsed : parsing.email payload.email = some email) :
    Carries wire parsing (.receive request generated)
      (.request (.reserve email generated.accountId generated.verificationCode)
        generated.taskId) := by
  refine .receive ?_
  unfold answer
  rw [routed]
  show (reserve wire parsing generated (parsing.reserveEmailRequest request.body)).call = _
  unfold reserve
  rw [body]
  show (respond _ _ _ ((required _ (parsing.email payload.email)).bind _)).call = _
  rw [parsed]
  exact call_respond _

theorem carries_verify {path : String} (payload : VerifyEmailRequest)
    (routed : parsing.route router request.method request.path = .endpoint .verify (some [path]))
    (body : parsing.verifyEmailRequest request.body = some payload)
    (identified : parsing.accountId payload.accountId = some accountId)
    (parsed : parsing.email path = some email) (taskId : Uuid) :
    Carries wire parsing (.receive request generated)
      (.request (.confirm email accountId payload.code generated.accountCreationToken) taskId) := by
  refine .receive ?_
  unfold answer
  rw [routed]
  show (verify wire parsing generated (some path)
    (parsing.verifyEmailRequest request.body)).call = _
  unfold verify
  rw [body]
  show (respond _ _ _ ((required _ (parsing.accountId payload.accountId)).bind _)).call = _
  rw [identified]
  show (respond _ _ _ ((required _ (parsing.email path)).bind _)).call = _
  rw [parsed]
  exact call_respond _

theorem carries_submit (payload : SubmitProfileRequest) {dateOfBirth : NaiveDate}
    (routed : parsing.route router request.method request.path = .endpoint .submitProfile parameters)
    (body : parsing.submitProfileRequest request.body = some payload)
    (parsed : parsing.email payload.email = some email)
    (identified : parsing.accountId payload.accountId = some accountId)
    (dated : parsing.date payload.dateOfBirth = some dateOfBirth) :
    Carries wire parsing (.receive request generated)
      (.request (.submit ⟨email, accountId, payload.accountCreationToken, payload.firstName,
        payload.lastName, dateOfBirth⟩ generated.now) generated.taskId) := by
  refine .receive ?_
  unfold answer
  rw [routed]
  show (submitProfile wire parsing generated
    (parsing.submitProfileRequest request.body)).call = _
  unfold submitProfile
  rw [body]
  show (respond _ _ _ ((required _ (parsing.email payload.email)).bind _)).call = _
  rw [parsed]
  show (respond _ _ _ ((required _ (parsing.accountId payload.accountId)).bind _)).call = _
  rw [identified]
  show (respond _ _ _ ((required _ (parsing.date payload.dateOfBirth)).bind _)).call = _
  rw [dated]
  exact call_respond _

end Understood

end Carries

/-- The requests of a registration, and the steps of the service up to the creation of its account.
The reply of the verification is lost. -/
def registrationRun : List (HttpAction PlainJson PlainBody) :=
  [.receive reserveAnn (sampleGenerated ⟨7⟩ 1)]
    ++ (committing .reservation 0 false).map .service
    ++ [.receive ⟨.post, "/email-reservations/ann@example.com/verify", .verify ⟨"7", 1234567⟩⟩
        (sampleGenerated ⟨8⟩ 2)]
    ++ (committing .reservation 1 true).map .service
    ++ [.receive ⟨.post, "/user-accounts",
          .submit ⟨"ann@example.com", "7", "token", " Ann", "Lee ", "0"⟩⟩ (sampleGenerated ⟨9⟩ 3)]
    ++ (committing .reservation 2 false).map .service
    ++ (claiming (TaskPayload.format CreateAccountTaskV1) 0 3 11).map .service
    ++ [.service (.handle 0 200000000000000 4)] ++ (committing .account 0 false).map .service

/-- What they stand for. -/
def registrationActions : List (ServiceAction PlainJson) :=
  let email : Email := ⟨"ann@example.com"⟩
  [.request (.reserve email ⟨7⟩ 1234567) 1] ++ committing .reservation 0 false ++
    [.request (.confirm email ⟨7⟩ 1234567 "token") 2] ++ committing .reservation 1 true ++
    [.request (.submit ⟨email, ⟨7⟩, "token", " Ann", "Lee ", 0⟩ 0) 3] ++
    committing .reservation 2 false ++ claiming (TaskPayload.format CreateAccountTaskV1) 0 3 11 ++
    [.handle 0 200000000000000 4] ++ committing .account 0 false

theorem registrationActions_enabled :
    (plainService.run plainService.start registrationActions).isSome = true := by
  decide +kernel

theorem registrationRun_carries :
    List.Forall₂ (Carries plainWire plainParsing) registrationRun registrationActions := by
  have toReserve : plainParsing.route router .post "/email-reservations"
      = .endpoint .reserve (some []) := by decide +kernel
  have toVerify : plainParsing.route router .post "/email-reservations/ann@example.com/verify"
      = .endpoint .verify (some ["ann@example.com"]) := by
    decide +kernel
  have toSubmit : plainParsing.route router .post "/user-accounts"
      = .endpoint .submitProfile (some []) := by decide +kernel
  have untidy : plainParsing.email " Ann@Example.com " = some ⟨"ann@example.com"⟩ := by
    decide +kernel
  have parsed : plainParsing.email "ann@example.com" = some ⟨"ann@example.com"⟩ := by
    decide +kernel
  have identified : plainParsing.accountId "7" = some ⟨7⟩ := by decide +kernel
  have dated : plainParsing.date "0" = some 0 := by decide +kernel
  unfold registrationRun registrationActions
  refine List.rel_append (List.rel_append (List.rel_append (List.rel_append (List.rel_append
    (List.rel_append (List.rel_append (List.rel_append ?_ ?_) ?_) ?_) ?_) ?_) ?_) ?_) ?_
  · exact .cons (carries_reserve toReserve rfl untidy) .nil
  · exact carries_services (by decide)
  · exact .cons (carries_verify ⟨"7", 1234567⟩ toVerify rfl identified parsed 2) .nil
  · exact carries_services (by decide)
  · exact .cons (carries_submit ⟨"ann@example.com", "7", "token", " Ann", "Lee ", "0"⟩ toSubmit rfl
      parsed identified dated) .nil
  · exact carries_services (by decide)
  · exact carries_services (by decide)
  · exact .cons (.service rfl) .nil
  · exact carries_services (by decide)

theorem account_provenance_registered : ∃ t,
    plainHttp.run plainHttp.start registrationRun = some t ∧
      Provenance plainParsing t ⟨"ann@example.com"⟩ ⟨7⟩ ⟨"Ann", "Lee", 0, 0⟩ := by
  obtain ⟨t, ran, same⟩ := Machine.run_follows (m := plainHttp) HttpState.service Carries.follow
    registrationRun_carries (s := plainHttp.start)
    (Machine.run_after registrationActions registrationActions_enabled)
  have created : UserAccountEvent.accountCreated ⟨7⟩ ⟨"ann@example.com"⟩ "Ann" "Lee" 0 0
      200000000000000 ∈ storedEvents plainWire.accounts (UserAccountId.toString ⟨7⟩)
        (plainService.after registrationActions registrationActions_enabled).tables := by
    decide +kernel
  rw [← same] at created
  exact ⟨t, ran, account_provenance plainWire plainParsing .default (fun _ => 0) 0 (fun _ => true)
    (Machine.Reachable.start.run ran) created⟩

end AccountManagement.Presentation
