/-
**The histories of a reservation, as a language.**

* `reservation_language`: the kinds of the events that commands can produce are exactly the prefixes
  of an email reserved, blocks of reissues and of verifications that were restarted, and then the
  verification, the acceptance and the completion. No list of commands panics, every issued code has
  seven digits, every reissue changes the account ID, an accepted profile is valid, and an acceptance
  is never changed.
* `acceptance_needs_verification`: the verification before an acceptance cannot be left out.

The phase of a reservation says how far its history has come in such a word (`Spells`). Conversely a
whole word is produced block by block (`serial_blocks`), and a prefix of a serial history is one.
-/

import AccountManagement.Domain.Histories

namespace AccountManagement.Domain

open AccountManagement.Library

/-! ### Kinds -/

/-- The kinds of the events of a reservation. -/
inductive EventKind where
  | emailReserved
  | verificationCodeRequested
  | verificationRestarted
  | emailVerified
  | registrationProfileAccepted
  | accountCreationCompleted
deriving DecidableEq

def EmailReservationEvent.kind : EmailReservationEvent → EventKind
  | .emailReserved _ _ _ => .emailReserved
  | .verificationCodeRequested _ _ _ => .verificationCodeRequested
  | .verificationRestarted _ _ _ => .verificationRestarted
  | .emailVerified _ _ _ => .emailVerified
  | .registrationProfileAccepted _ _ _ _ => .registrationProfileAccepted
  | .accountCreationCompleted _ _ _ => .accountCreationCompleted

/-- The account ID and the code that an event issues. -/
def EmailReservationEvent.issuedPair : EmailReservationEvent → Option (UserAccountId × Nat)
  | .emailReserved _ accountId code => some (accountId, code)
  | .verificationCodeRequested _ accountId code => some (accountId, code)
  | .verificationRestarted _ accountId code => some (accountId, code)
  | _ => none

/-- What repeats after a reservation: a reissue, or a verification that is restarted. -/
def IsBlock (block : List EventKind) : Prop :=
  block = [.verificationCodeRequested] ∨ block = [.emailVerified, .verificationRestarted]

/-- The reservation and the blocks after it. -/
def opening (blocks : List (List EventKind)) : List EventKind := .emailReserved :: blocks.flatten

/-- A complete history. -/
def reservationWord (blocks : List (List EventKind)) : List EventKind :=
  opening blocks ++ [.emailVerified, .registrationProfileAccepted, .accountCreationCompleted]

theorem opening_append (blocks : List (List EventKind)) (block : List EventKind) :
    opening (blocks ++ [block]) = opening blocks ++ block := by
  simp [opening]

/-! ### Words -/

/-- How far a history has come, by the phase it has led to. -/
def Spells (kinds : List EventKind) : ReservationPhase → Prop
  | .absent => kinds = []
  | .awaitingCode _ _ => ∃ blocks, (∀ block ∈ blocks, IsBlock block) ∧ kinds = opening blocks
  | .awaitingProfile _ _ => ∃ blocks, (∀ block ∈ blocks, IsBlock block) ∧
      kinds = opening blocks ++ [.emailVerified]
  | .creatingAccount _ _ _ => ∃ blocks, (∀ block ∈ blocks, IsBlock block) ∧
      kinds = opening blocks ++ [.emailVerified, .registrationProfileAccepted]
  | .accountCreated _ _ _ _ => ∃ blocks, (∀ block ∈ blocks, IsBlock block) ∧
      kinds = reservationWord blocks

/-- The kinds of the events of a history. -/
def kindsOf (history : ReservationHistory) : List EventKind :=
  (history.map Prod.snd).map EmailReservationEvent.kind

theorem kindsOf_append (first second : ReservationHistory) :
    kindsOf (first ++ second) = kindsOf first ++ kindsOf second := by
  unfold kindsOf
  rw [List.map_append, List.map_append]

theorem forall_block {blocks : List (List EventKind)} (known : ∀ block ∈ blocks, IsBlock block)
    {block : List EventKind} (new : IsBlock block) : ∀ other ∈ blocks ++ [block], IsBlock other :=
  List.forall_mem_append.mpr ⟨known, List.forall_mem_singleton.mpr new⟩

/-- **Every history spells a prefix of a word.** -/
theorem reservation_spells {history : ReservationHistory} {state : EmailReservation}
    (serial : emailReservation.Serial history state) : Spells (kindsOf history) state.phase := by
  refine serial.invariant (A := emailReservation)
    (P := fun history state => Spells (kindsOf history) (EmailReservation.phase state)) rfl ?_
  intro history state next command event ih handled applied
  obtain ⟨emitted, one, accepts⟩ := EmailReservation.handle_cases handled
  obtain rfl : event = emitted := List.head_eq_of_cons_eq one
  rw [kindsOf_append]
  cases accepts with
  | reserved email accountId code phase _ _ =>
    rw [phase] at ih
    obtain rfl := Option.some.inj applied
    exact ⟨[], fun _ none => absurd none List.not_mem_nil, congrArg (· ++ _) ih⟩
  | reissued email accountId code current previous phase _ _ _ =>
    rw [phase] at ih
    obtain rfl := Option.some.inj applied
    obtain ⟨blocks, known, spelt⟩ := ih
    refine ⟨blocks ++ [[.verificationCodeRequested]], forall_block known (.inl rfl), ?_⟩
    rw [opening_append, spelt]
    rfl
  | restarted email accountId code current digest phase _ _ _ =>
    rw [phase] at ih
    obtain rfl := Option.some.inj applied
    obtain ⟨blocks, known, spelt⟩ := ih
    refine ⟨blocks ++ [[.emailVerified, .verificationRestarted]], forall_block known (.inr rfl), ?_⟩
    rw [opening_append, spelt, List.append_assoc]
    rfl
  | verified email accountId code digest phase =>
    rw [phase] at ih
    obtain rfl := Option.some.inj applied
    obtain ⟨blocks, known, spelt⟩ := ih
    exact ⟨blocks, known, congrArg (· ++ _) spelt⟩
  | accepted email accountId digest submitted profile phase _ _ _ _ =>
    rw [phase] at ih
    obtain rfl := Option.some.inj applied
    obtain ⟨blocks, known, spelt⟩ := ih
    refine ⟨blocks, known, ?_⟩
    rw [spelt, List.append_assoc]
    rfl
  | completed email accountId digest profile createdAt phase =>
    rw [phase] at ih
    obtain ⟨blocks, known, spelt⟩ := ih
    obtain rfl := EmailReservation.apply_completed email phase applied
    refine ⟨blocks, known, ?_⟩
    rw [spelt, reservationWord, List.append_assoc]
    rfl

/-- What a phase spells is a prefix of a word. -/
theorem Spells.word {kinds : List EventKind} {phase : ReservationPhase} (spells : Spells kinds phase) :
    ∃ blocks, (∀ block ∈ blocks, IsBlock block) ∧ kinds <+: reservationWord blocks := by
  cases phase with
  | absent =>
    obtain rfl : kinds = [] := spells
    exact ⟨[], fun _ none => absurd none List.not_mem_nil, List.nil_prefix⟩
  | awaitingCode =>
    obtain ⟨blocks, known, rfl⟩ := spells
    exact ⟨blocks, known, List.prefix_append _ _⟩
  | awaitingProfile =>
    obtain ⟨blocks, known, rfl⟩ := spells
    exact ⟨blocks, known, List.prefix_append_right_inj _ |>.mpr (List.prefix_append [_] _)⟩
  | creatingAccount =>
    obtain ⟨blocks, known, rfl⟩ := spells
    exact ⟨blocks, known, List.prefix_append_right_inj _ |>.mpr (List.prefix_append [_, _] _)⟩
  | accountCreated =>
    obtain ⟨blocks, known, rfl⟩ := spells
    exact ⟨blocks, known, List.prefix_refl _⟩

/-! ### Every word is produced -/

/-- An account ID that differs from a given one. -/
def anotherId (accountId : UserAccountId) : UserAccountId := if accountId = ⟨0⟩ then ⟨1⟩ else ⟨0⟩

theorem anotherId_ne (accountId : UserAccountId) : accountId ≠ anotherId accountId := by
  unfold anotherId
  split
  · rename_i zero
    rw [zero]
    decide
  · assumption

/-- A reissue continues a history that awaits a code. -/
theorem serial_reissued (email : Email) {history : ReservationHistory} {accountId : UserAccountId}
    {code : Nat} (serial : emailReservation.Serial history ⟨.awaitingCode accountId code⟩)
    {next : UserAccountId} (fresh : accountId ≠ next) :
    emailReservation.Serial (history ++ [(.requestVerificationCode email next 1000000,
      .verificationCodeRequested email next 1000000)]) ⟨.awaitingCode next 1000000⟩ := by
  refine Aggregate.Serial.snoc (A := emailReservation) serial ?_ rfl
  simp [EmailReservation.handle, EmailReservation.handleRequestVerificationCode,
    EmailReservation.accountId, EmailReservation.ensureCodeFormat, fresh]

/-- So does a verification. -/
theorem serial_verified (email : Email) {history : ReservationHistory} {accountId : UserAccountId}
    {code : Nat} (serial : emailReservation.Serial history ⟨.awaitingCode accountId code⟩)
    (digest : String) :
    emailReservation.Serial (history ++ [(.verifyEmail email accountId code digest,
      .emailVerified email accountId digest)]) ⟨.awaitingProfile accountId digest⟩ := by
  refine Aggregate.Serial.snoc (A := emailReservation) serial ?_ rfl
  simp [EmailReservation.handle, EmailReservation.handleVerify]

theorem serial_restarted (email : Email) {history : ReservationHistory} {accountId : UserAccountId}
    {digest : String} (serial : emailReservation.Serial history ⟨.awaitingProfile accountId digest⟩)
    {next : UserAccountId} (fresh : accountId ≠ next) :
    emailReservation.Serial (history ++ [(.requestVerificationCode email next 1000000,
      .verificationRestarted email next 1000000)]) ⟨.awaitingCode next 1000000⟩ := by
  refine Aggregate.Serial.snoc (A := emailReservation) serial ?_ rfl
  simp [EmailReservation.handle, EmailReservation.handleRequestVerificationCode,
    EmailReservation.accountId, EmailReservation.ensureCodeFormat, fresh]

theorem serial_accepted (email : Email) {history : ReservationHistory} {accountId : UserAccountId}
    {digest : String}
    (serial : emailReservation.Serial history ⟨.awaitingProfile accountId digest⟩)
    {profile : RegistrationProfile} (valid : profile.Valid) :
    emailReservation.Serial (history ++ [(.submitRegistrationProfile email accountId digest profile,
      .registrationProfileAccepted email accountId digest profile)])
      ⟨.creatingAccount accountId digest profile⟩ := by
  refine Aggregate.Serial.snoc (A := emailReservation) serial ?_ rfl
  simp [EmailReservation.handle, EmailReservation.handleSubmitProfile, valid.normal, valid.firstName,
    valid.lastName, valid.born]

theorem serial_completed (email : Email) {history : ReservationHistory} {accountId : UserAccountId}
    {digest : String} {profile : RegistrationProfile}
    (serial : emailReservation.Serial history ⟨.creatingAccount accountId digest profile⟩)
    (createdAt : DateTime) :
    emailReservation.Serial (history ++ [(.recordAccountCreated email accountId profile createdAt,
      .accountCreationCompleted email accountId createdAt)])
      ⟨.accountCreated accountId digest profile createdAt⟩ := by
  refine Aggregate.Serial.snoc (A := emailReservation) serial ?_ rfl
  simp [EmailReservation.handle, EmailReservation.handleRecordAccountCreated]

/-- **The reservation and any blocks** after it have a history. -/
theorem serial_opening (email : Email) {blocks : List (List EventKind)}
    (known : ∀ block ∈ blocks, IsBlock block) :
    ∃ history accountId, emailReservation.Serial history ⟨.awaitingCode accountId 1000000⟩ ∧
      kindsOf history = opening blocks := by
  induction blocks using List.reverseRecOn with
  | nil =>
    refine ⟨[(.reserveEmail email ⟨0⟩ 1000000, .emailReserved email ⟨0⟩ 1000000)], ⟨0⟩, ?_, rfl⟩
    exact Aggregate.Serial.snoc (A := emailReservation) .nil rfl rfl
  | append_singleton blocks block ih =>
    obtain ⟨earlier, last⟩ := List.forall_mem_append.mp known
    obtain ⟨history, accountId, serial, spelt⟩ := ih earlier
    have fresh := anotherId_ne accountId
    rw [opening_append, ← spelt]
    rcases List.forall_mem_singleton.mp last with rfl | rfl
    · exact ⟨_, _, serial_reissued email serial fresh, kindsOf_append _ _⟩
    · refine ⟨_, _, serial_restarted email (serial_verified email serial "") fresh, ?_⟩
      rw [kindsOf_append, kindsOf_append, List.append_assoc]
      rfl

/-- **Every word has a history.** -/
theorem serial_word (email : Email) {blocks : List (List EventKind)}
    (known : ∀ block ∈ blocks, IsBlock block) :
    ∃ history state, emailReservation.Serial history state ∧
      kindsOf history = reservationWord blocks := by
  obtain ⟨history, accountId, serial, spelt⟩ := serial_opening email known
  have valid : RegistrationProfile.Valid ⟨"Ann", "Lee", 0, 0⟩ :=
    ⟨by decide, by decide, by decide, by decide⟩
  refine ⟨_, _, serial_completed email (serial_accepted email
    (serial_verified email serial "") valid) 0, ?_⟩
  rw [kindsOf_append, kindsOf_append, kindsOf_append, spelt, reservationWord, List.append_assoc,
    List.append_assoc]
  rfl

/-! ### What histories keep -/

/-- What was accepted: the account ID, the digest of the token and the profile. -/
def EmailReservation.acceptance (self : EmailReservation) :
    Option (UserAccountId × String × RegistrationProfile) :=
  match self.phase with
  | .creatingAccount accountId digest profile => some (accountId, digest, profile)
  | .accountCreated accountId digest profile _ => some (accountId, digest, profile)
  | _ => none

/-- An event keeps what was accepted. -/
theorem EmailReservation.acceptance_apply {self next : EmailReservation}
    {command : EmailReservationCommand} {event : EmailReservationEvent}
    (accepts : self.Accepts command event) (applied : self.apply event = some next)
    {accepted : UserAccountId × String × RegistrationProfile}
    (known : self.acceptance = some accepted) : next.acceptance = some accepted := by
  unfold acceptance at known
  cases accepts with
  | reserved _ _ _ phase | reissued _ _ _ _ _ phase | restarted _ _ _ _ _ phase
  | verified _ _ _ _ phase | accepted _ _ _ _ _ phase =>
    rw [phase] at known
    cases known
  | completed email accountId digest profile createdAt phase =>
    rw [phase] at known
    obtain rfl := apply_completed email phase applied
    exact known

/-- **An acceptance is never changed**, from any prefix of a history on. -/
theorem reservation_acceptance {history : ReservationHistory} {state : EmailReservation}
    (serial : emailReservation.Serial history state) {count : Nat} {earlier : EmailReservation}
    (replayed : emailReservation.replay ((history.map Prod.snd).take count) = some earlier)
    {accepted : UserAccountId × String × RegistrationProfile}
    (known : earlier.acceptance = some accepted) : state.acceptance = some accepted := by
  refine serial.invariant (A := emailReservation)
    (P := fun history state => emailReservation.replay (history.map Prod.snd) = some state ∧
      ∀ count earlier, emailReservation.replay ((history.map Prod.snd).take count) = some earlier →
        EmailReservation.acceptance earlier = some accepted →
        EmailReservation.acceptance state = some accepted)
    ⟨rfl, ?_⟩ ?_ |>.2 count earlier replayed known
  · intro count earlier replayed known
    rw [List.map_nil, List.take_nil] at replayed
    obtain rfl := Option.some.inj replayed
    exact known
  · rintro history state next command event ⟨folded, ih⟩ handled applied
    obtain ⟨emitted, one, accepts⟩ := EmailReservation.handle_cases handled
    obtain rfl : event = emitted := List.head_eq_of_cons_eq one
    have whole := Aggregate.replay_snoc folded applied
    have events : (history ++ [(command, event)]).map Prod.snd = history.map Prod.snd ++ [event] :=
      List.map_append
    rw [events]
    refine ⟨whole, fun count earlier replayed known => ?_⟩
    by_cases short : count ≤ (history.map Prod.snd).length
    · rw [List.take_append_of_le_length short] at replayed
      exact EmailReservation.acceptance_apply accepts applied (ih count earlier replayed known)
    · rw [List.take_of_length_le (by rw [List.length_append]; exact Nat.lt_of_not_le short),
        whole] at replayed
      obtain rfl := Option.some.inj replayed
      exact known

theorem emailReservation_single : emailReservation.Single where
  calm := EmailReservation.handle_ne_panicked
  one state command events handled := by
    obtain ⟨event, one, accepts⟩ := EmailReservation.handle_cases handled
    obtain ⟨next, applied⟩ := EmailReservation.apply_emitted accepts
    exact ⟨event, next, one, applied⟩

/-- What a single event of a history obeys, with the state before it. -/
structure EmailReservationEvent.Lawful (event : EmailReservationEvent)
    (earlier : EmailReservation) : Prop where
  code : ∀ accountId code, event.issuedPair = some (accountId, code) →
    1000000 ≤ code ∧ code ≤ 9999999
  changed : ∀ accountId code, event.issuedPair = some (accountId, code) →
    earlier.accountId ≠ some accountId
  profile : ∀ email accountId digest profile,
    event = .registrationProfileAccepted email accountId digest profile → profile.Valid

theorem EmailReservation.Accepts.lawful {self : EmailReservation}
    {command : EmailReservationCommand} {event : EmailReservationEvent}
    (accepts : self.Accepts command event) : event.Lawful self := by
  cases accepts with
  | reserved email accountId code phase low high =>
    refine ⟨fun _ _ pair => ?_, fun _ _ _ same => ?_, by simp⟩
    · obtain ⟨rfl, rfl⟩ := Prod.mk.inj (Option.some.inj pair)
      exact ⟨low, high⟩
    · rw [EmailReservation.accountId, phase] at same
      cases same
  | reissued email accountId code current previous phase different low high =>
    refine ⟨fun _ _ pair => ?_, fun _ _ pair same => ?_, by simp⟩
    · obtain ⟨rfl, rfl⟩ := Prod.mk.inj (Option.some.inj pair)
      exact ⟨low, high⟩
    · obtain ⟨rfl, rfl⟩ := Prod.mk.inj (Option.some.inj pair)
      rw [EmailReservation.accountId, phase] at same
      exact different (Option.some.inj same)
  | restarted email accountId code current digest phase different low high =>
    refine ⟨fun _ _ pair => ?_, fun _ _ pair same => ?_, by simp⟩
    · obtain ⟨rfl, rfl⟩ := Prod.mk.inj (Option.some.inj pair)
      exact ⟨low, high⟩
    · obtain ⟨rfl, rfl⟩ := Prod.mk.inj (Option.some.inj pair)
      rw [EmailReservation.accountId, phase] at same
      exact different (Option.some.inj same)
  | verified => constructor <;> simp [EmailReservationEvent.issuedPair]
  | accepted email accountId digest submitted profile _ normal first last born =>
    refine ⟨by simp [EmailReservationEvent.issuedPair], by simp [EmailReservationEvent.issuedPair],
      fun _ _ _ _ same => ?_⟩
    obtain ⟨_, _, _, rfl⟩ := EmailReservationEvent.registrationProfileAccepted.inj same
    refine ⟨?_, first, last, born⟩
    rw [normal]
    exact RegistrationProfile.new_new _ _ _ _
  | completed => constructor <;> simp [EmailReservationEvent.issuedPair]

/-! ### The result -/

/-- **The language of the reservation histories.** The kinds of the events that some list of commands
produces from the initial state are exactly the prefixes of the words of reservation, blocks,
verification, acceptance and completion. Every list of commands produces events, without a panic in
`handle` or in the fold; all of them are lawful on the state before them; and what was accepted in one
prefix is accepted, unchanged, in every longer one. -/
theorem reservation_language :
    (∀ kinds : List EventKind,
      (∃ commands events, emailReservation.produce commands = some events ∧
        events.map EmailReservationEvent.kind = kinds) ↔
      ∃ blocks, (∀ block ∈ blocks, IsBlock block) ∧ kinds <+: reservationWord blocks) ∧
    ∀ commands, ∃ events state, emailReservation.produce commands = some events ∧
      emailReservation.replay events = some state ∧
      (∀ before event after, events = before ++ event :: after →
        ∃ earlier, emailReservation.replay before = some earlier ∧
          EmailReservationEvent.Lawful event earlier) ∧
      ∀ before between after, events = before ++ between ++ after →
        ∀ earlier later, emailReservation.replay before = some earlier →
          emailReservation.replay (before ++ between) = some later →
          ∀ accepted, EmailReservation.acceptance earlier = some accepted →
            EmailReservation.acceptance later = some accepted := by
  refine ⟨fun kinds => ⟨?_, ?_⟩, fun commands => ?_⟩
  · rintro ⟨commands, events, produced, rfl⟩
    obtain ⟨history, state, serial, known, _⟩ :=
      Aggregate.produce_serial emailReservation_single commands
    obtain rfl := Option.some.inj (known.symm.trans produced)
    exact (reservation_spells serial).word
  · rintro ⟨blocks, known, inside⟩
    obtain ⟨history, state, serial, spelt⟩ := serial_word ⟨"ann@example.com"⟩ known
    obtain ⟨before, shorter⟩ := serial.take kinds.length
    refine ⟨_, _, shorter.produced, ?_⟩
    have kept : (kindsOf history).take kinds.length = kinds := by
      rw [spelt]
      exact (List.prefix_iff_eq_take.mp inside).symm
    rw [List.map_take, List.map_take]
    exact kept
  · obtain ⟨history, state, serial, produced, _⟩ :=
      Aggregate.produce_serial emailReservation_single commands
    refine ⟨_, state, produced, serial.replay, fun before event after split => ?_,
      fun before between after split earlier later first second accepted known => ?_⟩
    · obtain ⟨command, earlier, replayed, handled⟩ := serial.decided split
      obtain ⟨emitted, one, accepts⟩ := EmailReservation.handle_cases handled
      obtain rfl : event = emitted := List.head_eq_of_cons_eq one
      exact ⟨earlier, replayed, accepts.lawful⟩
    · obtain ⟨start, rest, rfl, events, _⟩ := List.map_eq_append_iff.mp split
      obtain ⟨middle, shorter, whole⟩ := serial.append_left
      rw [events] at whole
      obtain rfl := Option.some.inj (whole.symm.trans second)
      have folded : emailReservation.replay ((start.map Prod.snd).take before.length)
          = some earlier := by
        rw [events, List.take_left]
        exact first
      exact reservation_acceptance shorter folded known

/-- The verification before an acceptance is not optional: the kinds of a reservation and an
acceptance, which is how a word without it would begin, are not produced. -/
theorem acceptance_needs_verification :
    [.emailReserved, .registrationProfileAccepted]
        <+: opening [] ++ [.registrationProfileAccepted, .accountCreationCompleted] ∧
      ¬ ∃ commands events, emailReservation.produce commands = some events ∧
        events.map EmailReservationEvent.kind
          = [.emailReserved, .registrationProfileAccepted] := by
  refine ⟨by decide, ?_⟩
  rintro ⟨commands, events, produced, kinds⟩
  obtain ⟨history, state, serial, known, _⟩ :=
    Aggregate.produce_serial emailReservation_single commands
  obtain rfl := Option.some.inj (known.symm.trans produced)
  obtain ⟨first, rest, split, firstKind, restKinds⟩ := List.map_eq_cons_iff.mp kinds
  obtain ⟨second, none, rfl, secondKind, _⟩ := List.map_eq_cons_iff.mp restKinds
  have placed : history.map Prod.snd = [first] ++ second :: none := split
  obtain ⟨command, state, replayed, handled⟩ := serial.decided placed
  obtain ⟨emitted, one, accepts⟩ := EmailReservation.handle_cases handled
  obtain rfl : second = emitted := List.head_eq_of_cons_eq one
  cases first <;> cases firstKind
  obtain rfl := Option.some.inj replayed
  cases accepts <;> cases secondKind
  rename_i awaiting _ _ _ _
  cases awaiting

end AccountManagement.Domain
