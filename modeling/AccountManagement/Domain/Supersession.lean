/-
**Codes and tokens are superseded for good.**

* `proofs_superseded`: a verification is accepted exactly for the pair of the latest issuing event that
  no verification has followed, and valid data exactly with the ID and the digest of a verification
  that nothing has followed. So, if account IDs do not repeat, what was superseded or consumed is
  rejected in every continuation.

The last event of a history determines its phase (`LastEvent`). An account ID that is issued once is
issued at one place of the history, and that place is not the last one any more.
-/

import AccountManagement.Domain.Language

namespace AccountManagement.Domain

open AccountManagement.Library

/-! ### The last event -/

/-- The last event of a history that has led to a phase. -/
def LastEvent (events : List EmailReservationEvent) : ReservationPhase → Prop
  | .absent => events = []
  | .awaitingCode accountId code => ∃ before event, events = before ++ [event] ∧
      event.issuedPair = some (accountId, code)
  | .awaitingProfile accountId digest => ∃ before email,
      events = before ++ [.emailVerified email accountId digest]
  | .creatingAccount accountId digest profile => ∃ before email,
      events = before ++ [.registrationProfileAccepted email accountId digest profile]
  | .accountCreated accountId _ _ createdAt => ∃ before email,
      events = before ++ [.accountCreationCompleted email accountId createdAt]

/-- **The last event determines the phase.** -/
theorem reservation_last {history : ReservationHistory} {state : EmailReservation}
    (serial : emailReservation.Serial history state) :
    LastEvent (history.map Prod.snd) state.phase := by
  refine serial.invariant (A := emailReservation)
    (P := fun history state => LastEvent (history.map Prod.snd) (EmailReservation.phase state))
    rfl ?_
  intro history state next command event _ handled applied
  obtain ⟨emitted, one, accepts⟩ := EmailReservation.handle_cases handled
  obtain rfl : event = emitted := List.head_eq_of_cons_eq one
  have last : (history ++ [(command, event)]).map Prod.snd = history.map Prod.snd ++ [event] :=
    List.map_append
  rw [last]
  cases accepts with
  | reserved | reissued | restarted =>
    obtain rfl := Option.some.inj applied
    exact ⟨_, _, rfl, rfl⟩
  | verified | accepted =>
    obtain rfl := Option.some.inj applied
    exact ⟨_, _, rfl⟩
  | completed email accountId digest profile createdAt phase =>
    obtain rfl := EmailReservation.apply_completed email phase applied
    exact ⟨_, _, rfl⟩

/-! ### What is current -/

/-- The pair of the latest issuing event, which no verification has followed. -/
def CurrentPair (events : List EmailReservationEvent) (accountId : UserAccountId) (code : Nat) :
    Prop :=
  ∃ before event after, events = before ++ event :: after ∧
    event.issuedPair = some (accountId, code) ∧
    ∀ later ∈ after, later.issuedPair = none ∧ later.kind ≠ .emailVerified

/-- The ID and the digest of the latest verification, which no event has followed. -/
def CurrentToken (events : List EmailReservationEvent) (accountId : UserAccountId)
    (digest : String) : Prop :=
  ∃ before email, events = before ++ [.emailVerified email accountId digest]

/-- The pair was issued, and then superseded by another or consumed by a verification. -/
def PairSpent (events : List EmailReservationEvent) (accountId : UserAccountId) (code : Nat) :
    Prop :=
  ∃ before event after, events = before ++ event :: after ∧
    event.issuedPair = some (accountId, code) ∧
    ∃ later ∈ after, later.issuedPair ≠ none ∨ later.kind = .emailVerified

/-- The token was given, and then superseded by a restart or consumed by an acceptance. -/
def TokenSpent (events : List EmailReservationEvent) (accountId : UserAccountId) (digest : String) :
    Prop :=
  ∃ before email after, events = before ++ .emailVerified email accountId digest :: after ∧
    after ≠ []

/-- An issuing event leads to the wait for its code. -/
theorem EmailReservation.apply_issuing {self next : EmailReservation}
    {event : EmailReservationEvent} {accountId : UserAccountId} {code : Nat}
    (issues : event.issuedPair = some (accountId, code)) (applied : self.apply event = some next) :
    next.phase = .awaitingCode accountId code := by
  cases event with
  | emailReserved | verificationCodeRequested | verificationRestarted =>
    obtain ⟨rfl, rfl⟩ := Prod.mk.inj (Option.some.inj issues)
    obtain rfl := Option.some.inj applied
    rfl
  | emailVerified | registrationProfileAccepted | accountCreationCompleted => cases issues

/-- While a code is awaited the next event issues another one or is the verification. -/
theorem EmailReservation.Accepts.after_issuing {self : EmailReservation}
    {command : EmailReservationCommand} {event : EmailReservationEvent} {accountId : UserAccountId}
    {code : Nat} (accepts : self.Accepts command event)
    (awaiting : self.phase = .awaitingCode accountId code) :
    event.issuedPair ≠ none ∨ event.kind = .emailVerified := by
  cases accepts with
  | reserved | reissued => exact .inl nofun
  | verified => exact .inr rfl
  | restarted _ _ _ _ _ phase | accepted _ _ _ _ _ phase | completed _ _ _ _ _ phase =>
    rw [awaiting] at phase
    cases phase

/-- **The phase that awaits a code** is that of the current pair. -/
theorem awaitingCode_iff {history : ReservationHistory} {state : EmailReservation}
    (serial : emailReservation.Serial history state) (accountId : UserAccountId) (code : Nat) :
    state.phase = .awaitingCode accountId code ↔
      CurrentPair (history.map Prod.snd) accountId code := by
  have last := reservation_last serial
  constructor
  · intro awaiting
    rw [awaiting] at last
    obtain ⟨before, event, split, issues⟩ := last
    exact ⟨before, event, [], split, issues, fun _ none => absurd none List.not_mem_nil⟩
  · rintro ⟨before, event, after, split, issues, quiet⟩
    cases after with
    | nil =>
      have replayed := serial.replay
      rw [split] at replayed
      obtain ⟨middle, _, applied⟩ := Aggregate.replayFrom_append_some replayed
      rw [Aggregate.replayFrom_singleton] at applied
      exact EmailReservation.apply_issuing issues applied
    | cons next rest =>
      exfalso
      have placed : history.map Prod.snd = (before ++ [event]) ++ next :: rest := by
        rw [split, List.append_assoc]
        rfl
      obtain ⟨command, earlier, replayed, handled⟩ := serial.decided placed
      obtain ⟨middle, _, applied⟩ := Aggregate.replayFrom_append_some replayed
      rw [Aggregate.replayFrom_singleton] at applied
      have awaiting := EmailReservation.apply_issuing issues applied
      obtain ⟨emitted, one, accepts⟩ := EmailReservation.handle_cases handled
      obtain rfl : next = emitted := List.head_eq_of_cons_eq one
      obtain ⟨none, other⟩ := quiet next List.mem_cons_self
      exact (accepts.after_issuing awaiting).elim (· none) other

/-- **The phase that awaits a profile** is that of the current token. -/
theorem awaitingProfile_iff {history : ReservationHistory} {state : EmailReservation}
    (serial : emailReservation.Serial history state) (accountId : UserAccountId) (digest : String) :
    state.phase = .awaitingProfile accountId digest ↔
      CurrentToken (history.map Prod.snd) accountId digest := by
  constructor
  · intro awaiting
    have last := reservation_last serial
    rw [awaiting] at last
    exact last
  · rintro ⟨before, email, split⟩
    have replayed := serial.replay
    rw [split] at replayed
    obtain ⟨middle, _, applied⟩ := Aggregate.replayFrom_append_some replayed
    rw [Aggregate.replayFrom_singleton] at applied
    obtain rfl := Option.some.inj applied
    rfl

/-! ### What is accepted -/

theorem verify_accepted_iff (state : EmailReservation) (email : Email) (accountId : UserAccountId)
    (code : Nat) (digest : String) :
    (∃ events, state.handle (.verifyEmail email accountId code digest) = .ok events) ↔
      state.phase = .awaitingCode accountId code := by
  constructor
  · rintro ⟨events, handled⟩
    obtain ⟨event, _, accepts⟩ := EmailReservation.handle_cases handled
    cases accepts with
    | verified _ _ _ _ phase => exact phase
  · intro awaiting
    refine ⟨[.emailVerified email accountId digest], ?_⟩
    simp [EmailReservation.handle, EmailReservation.handleVerify, awaiting]

/-- The data of a profile are valid: names that are not blank, and no birth after the validation. -/
structure RegistrationProfile.Acceptable (profile : RegistrationProfile) : Prop where
  firstName : trim profile.firstName ≠ ""
  lastName : trim profile.lastName ≠ ""
  born : profile.dateOfBirth ≤ profile.validationDate

theorem submit_accepted_iff (state : EmailReservation) (email : Email) (accountId : UserAccountId)
    (digest : String) (profile : RegistrationProfile) :
    (∃ events, state.handle (.submitRegistrationProfile email accountId digest profile)
        = .ok events) ↔
      state.phase = .awaitingProfile accountId digest ∧ profile.Acceptable := by
  constructor
  · rintro ⟨events, handled⟩
    obtain ⟨event, _, accepts⟩ := EmailReservation.handle_cases handled
    cases accepts with
    | accepted _ _ _ _ kept phase normal first last born =>
      subst normal
      exact ⟨phase, first, last, born⟩
  · rintro ⟨awaiting, first, last, born⟩
    refine ⟨[.registrationProfileAccepted email accountId digest (RegistrationProfile.new
      profile.firstName profile.lastName profile.dateOfBirth profile.validationDate)], ?_⟩
    simp [EmailReservation.handle, EmailReservation.handleSubmitProfile, awaiting,
      RegistrationProfile.new, first, last, born]

/-! ### Account IDs that do not repeat -/

/-- The account ID that an event issues. -/
def EmailReservationEvent.issuedId (event : EmailReservationEvent) : Option UserAccountId :=
  event.issuedPair.map Prod.fst

/-- The IDs in the events are those of the accepted commands. -/
theorem reservation_ids {history : ReservationHistory} {state : EmailReservation}
    (serial : emailReservation.Serial history state) :
    (history.map Prod.snd).filterMap EmailReservationEvent.issuedId
      = (history.map Prod.fst).filterMap EmailReservationCommand.issued := by
  refine serial.invariant (A := emailReservation)
    (P := fun history _ => (history.map Prod.snd).filterMap EmailReservationEvent.issuedId
      = (history.map Prod.fst).filterMap EmailReservationCommand.issued) rfl ?_
  intro history state next command event ih handled _
  obtain ⟨emitted, one, accepts⟩ := EmailReservation.handle_cases handled
  obtain rfl : event = emitted := List.head_eq_of_cons_eq one
  rw [List.map_append, List.map_append, List.filterMap_append, List.filterMap_append, ih]
  cases accepts <;> rfl

/-- **A spent pair is not current**, in any history in which no ID repeats. -/
theorem pair_spent {events rest : List EmailReservationEvent} {accountId : UserAccountId}
    {code : Nat}
    (distinct : ((events ++ rest).filterMap EmailReservationEvent.issuedId).Nodup)
    (spent : PairSpent events accountId code) (other : Nat) :
    ¬ CurrentPair (events ++ rest) accountId other := by
  obtain ⟨before, event, after, rfl, issues, later, member, passed⟩ := spent
  rintro ⟨before', event', after', split, issues', quiet⟩
  rw [List.append_assoc, List.cons_append] at split distinct
  obtain ⟨rfl, rfl⟩ := Keyed.split_unique split distinct
    (show event.issuedId = some accountId by rw [EmailReservationEvent.issuedId, issues]; rfl)
    (by rw [EmailReservationEvent.issuedId, issues']; rfl)
  obtain ⟨none, notVerified⟩ := quiet later (List.mem_append_left _ member)
  exact passed.elim (· none) notVerified

/-- **A spent token is not current**, in any history in which no ID repeats. -/
theorem token_spent {history : ReservationHistory} {state : EmailReservation}
    (serial : emailReservation.Serial history state)
    (distinct : ((history.map Prod.snd).filterMap EmailReservationEvent.issuedId).Nodup)
    {events rest : List EmailReservationEvent} (split : history.map Prod.snd = events ++ rest)
    {accountId : UserAccountId} {digest : String} (spent : TokenSpent events accountId digest)
    (other : String) : ¬ CurrentToken (history.map Prod.snd) accountId other := by
  obtain ⟨before, email, after, rfl, more⟩ := spent
  rintro ⟨before', email', last⟩
  -- each of the two verifications follows the event that issued the ID
  have issuing : ∀ {earlier : List EmailReservationEvent} (later : List EmailReservationEvent)
      {email : Email} {digest : String},
      history.map Prod.snd = earlier ++ .emailVerified email accountId digest :: later →
      ∃ start event, earlier = start ++ [event] ∧
        EmailReservationEvent.issuedId event = some accountId := by
    intro earlier later email digest placed
    obtain ⟨command, middle, replayed, handled⟩ := serial.decided placed
    obtain ⟨emitted, one, accepts⟩ := EmailReservation.handle_cases handled
    obtain rfl := List.head_eq_of_cons_eq one
    obtain ⟨first, second, rfl, rfl, _⟩ := List.map_eq_append_iff.mp placed
    obtain ⟨known, shorter, folded⟩ := serial.append_left
    obtain rfl := Option.some.inj (folded.symm.trans replayed)
    cases accepts with
    | verified _ _ code _ phase =>
      have lastEvent := reservation_last shorter
      rw [phase] at lastEvent
      obtain ⟨start, event, whole, issues⟩ := lastEvent
      exact ⟨start, event, whole, congrArg (Option.map Prod.fst) issues⟩
  obtain ⟨start, event, rfl, issues⟩ := issuing (after ++ rest)
    (split.trans (by rw [List.append_assoc]; rfl))
  obtain ⟨start', event', rfl, issues'⟩ := issuing [] last
  have same : start ++ event :: (.emailVerified email accountId digest :: after ++ rest)
      = start' ++ event' :: [.emailVerified email' accountId other] := by
    rw [split] at last
    simpa [List.append_assoc] using last
  have once : ((start ++ event :: (.emailVerified email accountId digest :: after
      ++ rest)).filterMap EmailReservationEvent.issuedId).Nodup := by
    rw [split] at distinct
    simpa [List.append_assoc] using distinct
  obtain ⟨_, tails⟩ := Keyed.split_unique same once issues issues'
  have none := (List.cons.inj tails).2
  exact more (List.append_eq_nil_iff.mp none).1

/-! ### The result -/

/-- **Supersession.** After any commands, a verification is accepted exactly for the pair of the latest
issuing event, if no verification followed it, and a profile with valid data exactly with the ID and
the digest of the latest verification, if no event followed it. If no account ID is passed twice to a
reservation or a reissue, then after every continuation no command is accepted that presents a pair or
a token which had been superseded or consumed before. -/
theorem proofs_superseded {commands : List EmailReservationCommand}
    {events : List EmailReservationEvent} {state : EmailReservation}
    (produced : emailReservation.produce commands = some events)
    (replayed : emailReservation.replay events = some state) :
    (∀ email accountId code digest,
      (∃ result, state.handle (.verifyEmail email accountId code digest) = .ok result) ↔
        CurrentPair events accountId code) ∧
    (∀ email accountId digest profile, RegistrationProfile.Acceptable profile →
      ((∃ result, state.handle (.submitRegistrationProfile email accountId digest profile)
          = .ok result) ↔ CurrentToken events accountId digest)) ∧
    ∀ more, ((commands ++ more).filterMap EmailReservationCommand.issued).Nodup →
      ∃ later final, emailReservation.produce (commands ++ more) = some later ∧
        emailReservation.replay later = some final ∧
        (∀ accountId code, PairSpent events accountId code → ∀ email digest result,
          EmailReservation.handle final (.verifyEmail email accountId code digest) ≠ .ok result) ∧
        ∀ accountId digest, TokenSpent events accountId digest → ∀ email profile result,
          EmailReservation.handle final
            (.submitRegistrationProfile email accountId digest profile) ≠ .ok result := by
  obtain ⟨history, known, serial, same, accepted⟩ :=
    Aggregate.produce_serial emailReservation_single commands
  obtain rfl := Option.some.inj (same.symm.trans produced)
  obtain rfl := Option.some.inj (serial.replay.symm.trans replayed)
  refine ⟨fun email accountId code digest => ?_, fun email accountId digest profile valid => ?_,
    fun more distinct => ?_⟩
  · rw [← awaitingCode_iff serial]
    exact verify_accepted_iff known email accountId code digest
  · rw [← awaitingProfile_iff serial]
    refine (submit_accepted_iff known email accountId digest profile).trans ?_
    exact ⟨And.left, fun awaiting => ⟨awaiting, valid⟩⟩
  · obtain ⟨rest, final, longer, producedLater, acceptedRest⟩ :=
      Aggregate.produce_append emailReservation_single serial produced more
    have split : (history ++ rest).map Prod.snd = history.map Prod.snd ++ rest.map Prod.snd :=
      List.map_append
    have once : (((history ++ rest).map Prod.snd).filterMap
        EmailReservationEvent.issuedId).Nodup := by
      rw [reservation_ids longer, List.map_append]
      exact distinct.sublist (List.Sublist.filterMap _ (accepted.append acceptedRest))
    refine ⟨_, final, producedLater, longer.replay,
      fun accountId code spent email digest result handled => ?_,
      fun accountId digest spent email profile result handled => ?_⟩
    · have awaiting := (verify_accepted_iff final email accountId code digest).mp ⟨result, handled⟩
      have current := (awaitingCode_iff longer accountId code).mp awaiting
      rw [split] at current once
      exact pair_spent once spent code current
    · have awaiting :=
        ((submit_accepted_iff final email accountId digest profile).mp ⟨result, handled⟩).1
      have current := (awaitingProfile_iff longer accountId digest).mp awaiting
      exact token_spent longer once split spent digest current

theorem proofs_superseded_restarted :
    let email : Email := ⟨"ann@example.com"⟩
    let commands : List EmailReservationCommand :=
      [.reserveEmail email ⟨1⟩ 1000001, .requestVerificationCode email ⟨2⟩ 1000002,
        .verifyEmail email ⟨2⟩ 1000002 "token", .requestVerificationCode email ⟨3⟩ 1000003]
    let events : List EmailReservationEvent :=
      [.emailReserved email ⟨1⟩ 1000001, .verificationCodeRequested email ⟨2⟩ 1000002,
        .emailVerified email ⟨2⟩ "token", .verificationRestarted email ⟨3⟩ 1000003]
    let more : List EmailReservationCommand :=
      [.verifyEmail email ⟨1⟩ 1000001 "other", .verifyEmail email ⟨3⟩ 1000003 "fresh",
        .requestVerificationCode email ⟨4⟩ 1000004]
    emailReservation.produce commands = some events ∧ CurrentPair events ⟨3⟩ 1000003 ∧
      ∃ final, emailReservation.produce (commands ++ more)
          = some (events ++ [.emailVerified email ⟨3⟩ "fresh",
            .verificationRestarted email ⟨4⟩ 1000004]) ∧
        emailReservation.replay (events ++ [.emailVerified email ⟨3⟩ "fresh",
          .verificationRestarted email ⟨4⟩ 1000004]) = some final ∧
        (∀ result, EmailReservation.handle final (.verifyEmail email ⟨1⟩ 1000001 "other")
          ≠ .ok result) ∧
        ∀ profile result, EmailReservation.handle final
          (.submitRegistrationProfile email ⟨2⟩ "token" profile) ≠ .ok result := by
  intro email commands events more
  have produced : emailReservation.produce commands = some events := by decide
  have state : emailReservation.replay events = some ⟨.awaitingCode ⟨3⟩ 1000003⟩ := by decide
  have superseded := proofs_superseded produced state
  refine ⟨produced, (superseded.1 email ⟨3⟩ 1000003 "token").mp ⟨_, rfl⟩, ?_⟩
  obtain ⟨later, final, producedLater, replayed, pairs, tokens⟩ := superseded.2.2 more (by decide)
  have continued : emailReservation.produce (commands ++ more)
      = some (events ++ [.emailVerified email ⟨3⟩ "fresh",
        .verificationRestarted email ⟨4⟩ 1000004]) := by decide
  obtain rfl := Option.some.inj (continued.symm.trans producedLater)
  refine ⟨final, producedLater, replayed,
    pairs ⟨1⟩ 1000001 ⟨[], _, _, rfl, rfl, ?_⟩ email "other",
    tokens ⟨2⟩ "token" ⟨events.take 2, email, [_], rfl, nofun⟩ email⟩
  exact ⟨.verificationCodeRequested email ⟨2⟩ 1000002, List.mem_cons_self, .inl nofun⟩

end AccountManagement.Domain
