/-
  TlsHandshake.Proofs.Server.Drive

  A negotiation at once is the four steps one after the other, and its failures are known.

  `Server.negotiate` takes a handshake through the same operations that its owner could drive
  it through, so that answers, state and events are the same (`drive_negotiationSteps`).  All
  that it adds is the notice of an alert if a step fails.  Which failures there are, the
  courses of a negotiation say (`Course`): no version is enabled for the client, every
  candidate is passed over, or the provider fails, each with an alert of its own.

    * `drive_negotiationSteps` — the two drivers agree;
    * `Course.protocolVersion_iff`, `Course.handshakeFailure_iff`, `Course.internalError_iff`
      — what each alert stands for;
    * `negotiate_drives_and_classifies` — both, with what is logged.
-/

import TlsHandshake.Proofs.Handshake.ProviderFaults
import TlsHandshake.Proofs.Server.Course

namespace TlsHandshake

/-! ## The two drivers -/

/-- What the steps of a negotiation answer if they all succeed. -/
def Agreement.answers (agreement : Agreement) : List Answer :=
  [.version agreement.version, .suite agreement.suite, .curve agreement.curve,
    .request agreement.request]

namespace Outcome

variable {σ τ α β γ : Type}

/-- An answer made at the end is made from the answer of the second part. -/
theorem mapOk_andThen (attempt : Attempt σ α) (next : α → σ → Attempt σ β) (f : β → γ) :
    (attempt.andThen next).mapOk f =
      attempt.andThen fun answer state => (next answer state).mapOk f := by
  rcases ha : attempt.answer with failure | answer
  · rw [andThen_of_error ha, andThen_of_error ha]
    rfl
  · rw [andThen_of_ok ha, andThen_of_ok ha]
    rfl

end Outcome

namespace Handshake

variable (context : Context) (manager : Manager)

/-- Driving through a step that uses no round, seen from the handshake, is the step and then
    the rest of the drive. -/
theorem drive_cons_outsideRounds {α : Type} (operation : Operation)
    (step : Handshake → Attempt Handshake α) (f : α → Answer) {operations : List Operation}
    {rest : Handshake → Attempt Handshake (List Answer)}
    (hstep : ∀ h shared, h.perform context manager operation shared =
      outsideRounds shared ((step h).mapOk f))
    (hrest : ∀ h shared, (h.drive context manager operations shared).mapState Prod.fst = rest h)
    (h : Handshake) (shared : Shared) :
    (h.drive context manager (operation :: operations) shared).mapState Prod.fst =
      (step h).andThen fun answer h => (rest h).mapOk (f answer :: ·) := by
  rw [drive, hstep]
  -- A failure ends both sides; a success is put in front of what the rest answers.
  rcases ha : (step h).answer with failure | answer
  · have hfailed : (outsideRounds shared ((step h).mapOk f)).answer = .error failure := by
      simp [outsideRounds, Outcome.withState, Outcome.mapOk, Outcome.map, ha, Except.map]
    rw [Outcome.andThen_of_error hfailed, Outcome.andThen_of_error ha]
    rfl
  · have hgone : (outsideRounds shared ((step h).mapOk f)).answer = .ok (f answer) := by
      simp [outsideRounds, Outcome.withState, Outcome.mapOk, Outcome.map, ha, Except.map]
    rw [Outcome.andThen_of_ok hgone, Outcome.andThen_of_ok ha, ← hrest (step h).state]
    rfl

/-- The steps of a negotiation, driven one after the other, are the negotiation. -/
theorem drive_negotiationSteps (h : Handshake) (shared : Shared) :
    (h.drive context manager negotiationSteps shared).mapState Prod.fst =
      (h.agree context manager).mapOk Agreement.answers := by
  have hend : ∀ h shared, (drive context manager [] h shared).mapState Prod.fst =
      ⟨.ok [], h, []⟩ := fun _ _ => rfl
  -- From the last step to the first, each with the drive through those after it.
  have hrequest := drive_cons_outsideRounds context manager .certificateRequest
    (certificateRequest context) .request (fun _ _ => rfl) hend
  have hcurve := drive_cons_outsideRounds context manager .ecdhCurve
    (ecdhCurve context) .curve (fun _ _ => rfl) hrequest
  have hsuite := drive_cons_outsideRounds context manager .selectedCipherSuite
    (selectedCipherSuite context manager) .suite (fun _ _ => rfl) hcurve
  have hversion := drive_cons_outsideRounds context manager .serverVersion
    (serverVersion context) .version (fun _ _ => rfl) hsuite
  rw [negotiationSteps, hversion, agree]
  simp only [Outcome.mapOk_andThen]
  rfl

end Handshake

/-! ## What each alert stands for -/

/-- The alert that an answer fails with, if it fails and has one. -/
def alertOf? {α : Type} (answer : Except Failure α) : Option AlertDescription :=
  match answer with
  | .ok _ => none
  | .error failure => failure.alert?

namespace Course

variable {context : Context} {manager : Manager} {offer : Offer}
  {answer : Except Failure Agreement}

theorem protocolVersion_iff (hc : Course context manager offer answer) :
    alertOf? answer = some .protocolVersion ↔
      selectVersion? context.config.protocols offer.version = none := by
  cases hc <;> simp [alertOf?, Failure.alert?, FatalCause.alert, *]

theorem handshakeFailure_iff (hc : Course context manager offer answer) :
    alertOf? answer = some .handshakeFailure ↔
      ∃ version, selectVersion? context.config.protocols offer.version = some version ∧
        ((Handshake.start offer).resolver context version).firstPassing manager
          ((Handshake.start offer).candidates context version) = .ok none := by
  cases hc <;> simp [alertOf?, Failure.alert?, FatalCause.alert, *]

theorem internalError_iff (hc : Course context manager offer answer) :
    alertOf? answer = some .internalError ↔ ∃ error, answer = .error (.provider error) := by
  cases hc <;> simp [alertOf?, Failure.alert?, FatalCause.alert]

/-- There are three ways to fail. -/
theorem failure_cases (hc : Course context manager offer answer) {failure : Failure}
    (hf : answer = .error failure) :
    failure = .fatal (.noEnabledProtocol offer.version) ∨ failure = .fatal .noAcceptableSuite ∨
      ∃ error, failure = .provider error := by
  subst hf
  cases hc with
  | noVersion => exact Or.inl rfl
  | noSuite => exact Or.inr (Or.inl rfl)
  | providerFailed => exact Or.inr (Or.inr ⟨_, rfl⟩)

end Course

/-! ## What a negotiation logs -/

namespace Server

section Events

variable (server : Server) (manager : Manager) (offer : Offer)

/-- A failure that has an alert is logged as that alert. -/
theorem failureNotices_of_alert {failure : Failure} {description : AlertDescription}
    (ha : failure.alert? = some description) :
    failureNotices failure =
      [.log (.alertRaised ⟨.fatal, description⟩ (some "negotiation failed")
        (some failure.message))] := by
  simp only [failureNotices, ha]

/-- Logging is no call. -/
theorem calls_failureNotices (failure : Failure) : Event.calls (failureNotices failure) = [] := by
  unfold failureNotices
  split <;> rfl

theorem negotiate_events_of_ok {agreement : Agreement}
    (ha : (server.negotiate manager offer).answer = .ok agreement) :
    (server.negotiate manager offer).events =
      (accept offer).events ++ ((Handshake.start offer).agree server.context manager).events := by
  rw [negotiate_answer] at ha
  simp only [negotiate, raiseAlert, Outcome.after_answer, ha]
  rfl

theorem negotiate_events_of_error {failure : Failure}
    (ha : (server.negotiate manager offer).answer = .error failure) :
    (server.negotiate manager offer).events =
      (accept offer).events ++ ((Handshake.start offer).agree server.context manager).events ++
        failureNotices failure := by
  rw [negotiate_answer] at ha
  simp only [negotiate, raiseAlert, Outcome.after_answer, ha]
  rfl

theorem negotiate_calls :
    Event.calls (server.negotiate manager offer).events =
      Event.calls ((Handshake.start offer).agree server.context manager).events := by
  cases ha : (server.negotiate manager offer).answer with
  | ok agreement =>
    rw [negotiate_events_of_ok server manager offer ha, Event.calls_append]
    rfl
  | error failure =>
    rw [negotiate_events_of_error server manager offer ha, Event.calls_append,
      calls_failureNotices, List.append_nil, Event.calls_append]
    rfl

/-- The provider fails a call of a negotiation exactly if this is what it fails with. -/
theorem negotiate_provider_iff (error : ProviderError) :
    (server.negotiate manager offer).answer = .error (.provider error) ↔
      ∃ call ∈ Event.calls (server.negotiate manager offer).events,
        server.context.provider.fault? call = some error := by
  have haccounts := Handshake.agree_accounts server.context manager (Handshake.start offer)
  rw [negotiate_calls, haccounts.failed_iff, negotiate_answer]

end Events

/-- A negotiation makes the calls that a drive through its steps makes, ends in the same state
    and answers the same: with what the steps have answered, or with the failure of the first
    that failed.

    It fails only if no enabled protocol is at or below the client's version, with
    `protocol_version`; if every candidate is passed over, with `handshake_failure`; or if the
    provider failed to make a credential, with `internal_error`.  The failure is then logged
    as one alert after everything else, and a negotiation that succeeds logs none. -/
theorem negotiate_drives_and_classifies (server : Server) (manager : Manager) (offer : Offer)
    (shared : Shared) :
    let context := server.context
    let opened := accept offer
    let driven := opened.state.drive context manager Handshake.negotiationSteps shared
    let negotiated := server.negotiate manager offer
    (driven.answer = negotiated.answer.map Agreement.answers ∧
      driven.state.1 = negotiated.state ∧
      Event.calls negotiated.events = Event.calls (opened.events ++ driven.events)) ∧
    (alertOf? negotiated.answer = some .protocolVersion ↔
      ∀ version, offer.version.atLeast version = true → version.name ∉ context.config.protocols) ∧
    (alertOf? negotiated.answer = some .internalError ↔
      ∃ call ∈ Event.calls negotiated.events, ∃ error, context.provider.fault? call = some error) ∧
    (alertOf? negotiated.answer = some .handshakeFailure ↔
      ∃ version, selectVersion? context.config.protocols offer.version = some version ∧
        ∀ suite ∈ opened.state.candidates context version,
          (opened.state.resolver context version).PassesOver manager suite) ∧
    (∀ failure, negotiated.answer = .error failure →
      (failure = .fatal (.noEnabledProtocol offer.version) ∨
        failure = .fatal .noAcceptableSuite ∨ ∃ error, failure = .provider error) ∧
      ∃ description, failure.alert? = some description ∧
        let notice : Notice :=
          .alertRaised ⟨.fatal, description⟩ (some "negotiation failed") (some failure.message)
        negotiated.events = opened.events ++ driven.events ++ [.log notice] ∧
          Event.alerts negotiated.events = [notice] ∧
          notice.severity = (if description = .internalError then .warn else .info) ∧
          notice.particulars? = some ("negotiation failed", failure.message)) ∧
    (∀ agreement, negotiated.answer = .ok agreement →
      negotiated.events = opened.events ++ driven.events ∧
        Event.alerts negotiated.events = []) := by
  intro context opened driven negotiated
  have hdrive := Handshake.drive_negotiationSteps context manager opened.state shared
  have hdriven : driven.events = (opened.state.agree context manager).events :=
    congrArg Outcome.events hdrive
  have hcourse : Course context manager offer negotiated.answer :=
    course_negotiate server manager offer
  -- No step logs an alert of its own, so the only one is that of the failure.
  have hquiet : Event.alerts (opened.events ++ driven.events) = [] := by
    rw [Event.alerts_append, hdriven, (Handshake.agree_accounts context manager _).quiet]
    rfl
  refine ⟨⟨?_, ?_, ?_⟩, ?_, ?_, ?_, ?_, ?_⟩
  · rw [show negotiated.answer = _ from negotiate_answer server manager offer]
    exact congrArg Outcome.answer hdrive
  · rw [show negotiated.state = _ from negotiate_state server manager offer]
    exact congrArg Outcome.state hdrive
  · rw [Event.calls_append, hdriven]
    exact negotiate_calls server manager offer
  · rw [hcourse.protocolVersion_iff, selectVersion?_eq_none_iff]
  · rw [hcourse.internalError_iff]
    constructor
    · rintro ⟨error, he⟩
      obtain ⟨call, hm, hf⟩ := (negotiate_provider_iff server manager offer error).1 he
      exact ⟨call, hm, error, hf⟩
    · rintro ⟨call, hm, error, hf⟩
      exact ⟨error, (negotiate_provider_iff server manager offer error).2 ⟨call, hm, hf⟩⟩
  · rw [hcourse.handshakeFailure_iff]
    simp only [Resolver.firstPassing_eq_none_iff]
    rfl
  · intro failure hf
    have hcases := hcourse.failure_cases hf
    obtain ⟨description, hd⟩ : ∃ description, failure.alert? = some description := by
      rcases hcases with rfl | rfl | ⟨error, rfl⟩ <;> exact ⟨_, rfl⟩
    have hevents : negotiated.events = opened.events ++ driven.events ++
        [.log (.alertRaised ⟨.fatal, description⟩ (some "negotiation failed")
          (some failure.message))] := by
      rw [hdriven, ← failureNotices_of_alert hd]
      exact negotiate_events_of_error server manager offer hf
    refine ⟨hcases, description, hd, hevents, ?_, ?_, rfl⟩
    · rw [hevents, Event.alerts_append, hquiet]
      rfl
    · cases description <;> rfl
  · intro agreement ha
    have hevents : negotiated.events = opened.events ++ driven.events := by
      rw [hdriven]
      exact negotiate_events_of_ok server manager offer ha
    exact ⟨hevents, by rw [hevents, hquiet]⟩

/-- A provider that cannot make a signer ends a negotiation, although a suite that needs none
    comes next. -/
theorem negotiate_of_failing_signer :
    let suites := [CipherSuite.ecdheRsaWithAes128GcmSha256, .rsaWithAes128CbcSha]
    let context : Context :=
      { Context.plain suites [.ecdheRsa, .rsa] with
        provider := { Provider.complete with signer := fun _ _ _ => .error .invalidKey } }
    let negotiated := Server.negotiate ⟨context⟩ (.refusing []) (.plain suites)
    negotiated.answer = .error (.provider .invalidKey) ∧
      (∃ call ∈ Event.calls negotiated.events,
        ∃ error, context.provider.fault? call = some error) ∧
      ∃ before, negotiated.events = before ++
        [.log (.alertRaised ⟨.fatal, .internalError⟩ (some "negotiation failed")
          (some "crypto provider failure: invalid private key handle"))] := by
  intro suites context negotiated
  have hf : negotiated.answer = .error (.provider .invalidKey) := by decide +kernel
  obtain ⟨-, -, hinternal, -, hfailed, -⟩ :=
    negotiate_drives_and_classifies ⟨context⟩ (.refusing []) (.plain suites) .fresh
  obtain ⟨-, description, hd, hevents, -⟩ := hfailed _ hf
  cases hd
  exact ⟨hf, hinternal.1 (congrArg alertOf? hf), _, hevents⟩

end Server

end TlsHandshake
