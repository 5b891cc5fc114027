/-
  TlsHandshake.Proofs.Handshake.OfferedSuites

  Of the suites that a client offers, a handshake sees the registered ones only, and of these
  only which there are.

  The server goes through its own suites in its own order, and asks of each whether the client
  offered it.  So another offer with the same version and extensions, and with the same
  registered suites in any order, makes no difference: every operation commutes with putting
  the one offer in the place of the other.

    * `Offer.Equivalent` — the offers differ in what does not count;
    * `Outcome.mapState_andThen` — what goes on commutes if both parts do;
    * `firstUsable_withOffer` — the search, by induction on the candidates;
    * `perform_withOffer`, `agree_withOffer` — every operation, and a negotiation at once.
-/

import TlsHandshake.Proofs.Handshake.Stability
import TlsHandshake.Server.Negotiation

namespace TlsHandshake

/-! ## Offers that count the same -/

/-- The offers differ in their lists of suites only, and of registered suites the lists hold the
    same codes: in any order, any number of times, and with any other codes in between. -/
structure Offer.Equivalent (offer other : Offer) : Prop where
  version : other.version = offer.version
  curves : other.curves = offer.curves
  schemes : other.schemes = offer.schemes
  registered : ∀ code, (CipherSuite.ofCode? code).isSome = true →
    (code ∈ other.suites ↔ code ∈ offer.suites)

theorem Offer.Equivalent.offers {offer other : Offer} (he : offer.Equivalent other)
    (suite : CipherSuite) : other.offers suite = offer.offers suite := by
  have hregistered : (CipherSuite.ofCode? suite.code).isSome = true := by
    rw [CipherSuite.ofCode?_code]
    rfl
  rw [Offer.offers, Offer.offers, Bool.eq_iff_iff, List.contains_iff_mem, List.contains_iff_mem]
  exact he.registered suite.code hregistered

/-- Going on from another state commutes with the change of state, if what comes next does. -/
theorem Outcome.mapState_andThen {σ τ α β : Type} {attempt : Attempt σ α} {f : σ → τ}
    {next : α → σ → Attempt σ β} {next' : α → τ → Attempt τ β}
    (hn : ∀ answer, next' answer (f attempt.state) = (next answer attempt.state).mapState f) :
    (attempt.mapState f).andThen next' = (attempt.andThen next).mapState f := by
  cases ha : attempt.answer with
  | error failure =>
    have ha' : (attempt.mapState f).answer = .error failure := ha
    rw [andThen_of_error ha, andThen_of_error ha']
    rfl
  | ok answer =>
    have ha' : (attempt.mapState f).answer = .ok answer := ha
    rw [andThen_of_ok ha, andThen_of_ok ha']
    show (next' answer (f attempt.state)).after attempt.events = _
    rw [hn]
    rfl

namespace Handshake

/-- The handshake with another offer in the place of its own. -/
def withOffer (offer : Offer) (h : Handshake) : Handshake := { h with offer := offer }

@[simp] theorem version_withOffer (offer : Offer) (h : Handshake) :
    (h.withOffer offer).version = h.version := rfl

@[simp] theorem suite_withOffer (offer : Offer) (h : Handshake) :
    (h.withOffer offer).suite = h.suite := rfl

@[simp] theorem certificateRequested_withOffer (offer : Offer) (h : Handshake) :
    (h.withOffer offer).certificateRequested = h.certificateRequested := rfl

@[simp] theorem isComplete_withOffer (offer : Offer) (h : Handshake) :
    (h.withOffer offer).isComplete = h.isComplete := rfl

variable {context : Context} {manager : Manager} {h : Handshake} {offer : Offer}

section Equivalent

variable (he : h.offer.Equivalent offer)

include he

theorem resolver_withOffer (version : Version) :
    (h.withOffer offer).resolver context version = h.resolver context version := by
  simp only [resolver, withOffer, he.schemes]

theorem curveChoice_withOffer :
    (h.withOffer offer).curveChoice context = h.curveChoice context := by
  simp only [curveChoice, withOffer, he.curves]

theorem isCandidate_withOffer (version : Version) (suite : CipherSuite) :
    (h.withOffer offer).isCandidate context version suite =
      h.isCandidate context version suite := by
  rw [isCandidate, isCandidate, curveChoice_withOffer he]
  show (offer.offers suite && _ && _) = _
  rw [he.offers]

/-- The candidates are taken from the server's suites, in the server's order. -/
theorem candidates_withOffer (version : Version) :
    (h.withOffer offer).candidates context version = h.candidates context version := by
  rw [candidates, candidates, funext (isCandidate_withOffer he version)]

end Equivalent

/-! ## Selecting a suite -/

theorem adopt_withOffer (found : Attempt Round (Option Credential)) :
    (h.withOffer offer).adopt found =
      (h.adopt found).mapState (Prod.map (withOffer offer) id) := by
  rw [adopt, adopt]
  split <;> rfl

theorem consult_withOffer (suite : CipherSuite) (version : Version)
    (found : Attempt (Handshake × Round) Bool) :
    consult manager suite version (found.mapState (Prod.map (withOffer offer) id)) =
      (consult manager suite version found).mapState (Prod.map (withOffer offer) id) := by
  obtain ⟨answer, state, events⟩ := found
  rcases answer with failure | (_ | _)
  · rfl
  · rfl
  · simp only [consult, Outcome.mapState, Outcome.withState]
    split <;> rfl

theorem conclude_withOffer (search : Attempt (Handshake × Round) (Option CipherSuite)) :
    conclude (search.mapState (Prod.map (withOffer offer) id)) =
      (conclude search).mapState (withOffer offer) := by
  obtain ⟨answer, state, events⟩ := search
  rcases answer with failure | (_ | suite) <;> rfl

section Equivalent

variable (he : h.offer.Equivalent offer)

include he

theorem selectCredentials_withOffer (suite : CipherSuite) (round : Round) :
    (h.withOffer offer).selectCredentials context suite round =
      (h.selectCredentials context suite round).mapState (Prod.map (withOffer offer) id) := by
  rw [selectCredentials, selectCredentials, version_withOffer]
  split
  · rfl
  · rw [resolver_withOffer he]
    exact adopt_withOffer _

theorem selectCipherSuite_withOffer (suite : CipherSuite) (round : Round) :
    (h.withOffer offer).selectCipherSuite context manager suite round =
      (h.selectCipherSuite context manager suite round).mapState
        (Prod.map (withOffer offer) id) := by
  rw [selectCipherSuite, selectCipherSuite, version_withOffer, selectCredentials_withOffer he]
  split
  · rfl
  · exact consult_withOffer suite _ _

theorem firstUsable_withOffer (suites : List CipherSuite) (round : Round) :
    firstUsable context manager suites round (h.withOffer offer) =
      (firstUsable context manager suites round h).mapState (Prod.map (withOffer offer) id) := by
  induction suites generalizing h round with
  | nil => rfl
  | cons suite suites ih =>
    -- A suite that was tried leaves the offer as it was, so that the offers still count the same.
    have hkept : (h.selectCipherSuite context manager suite round).state.1.offer = h.offer := by
      rw [selectCipherSuite_frame context manager suite round h]
    rw [firstUsable, firstUsable, selectCipherSuite_withOffer he]
    refine Outcome.mapState_andThen ?_
    intro usable
    cases usable with
    | true => rfl
    | false => exact ih (hkept ▸ he) _

theorem selectedCipherSuite_withOffer :
    (h.withOffer offer).selectedCipherSuite context manager =
      (h.selectedCipherSuite context manager).mapState (withOffer offer) := by
  rw [selectedCipherSuite, selectedCipherSuite, version_withOffer]
  split
  · rfl
  · rw [candidates_withOffer he, firstUsable_withOffer he]
    exact conclude_withOffer _

/-! ## The other steps -/

theorem serverVersion_withOffer :
    (h.withOffer offer).serverVersion context =
      (h.serverVersion context).mapState (withOffer offer) := by
  have hclient : (h.withOffer offer).offer.version = h.offer.version := he.version
  rw [serverVersion, serverVersion, version_withOffer, hclient]
  split
  · rfl
  · rw [adoptVersion, adoptVersion]
    split <;> rfl

theorem ecdhCurve_withOffer :
    (h.withOffer offer).ecdhCurve context = (h.ecdhCurve context).mapState (withOffer offer) := by
  rw [ecdhCurve, ecdhCurve, suite_withOffer, curveChoice_withOffer he]
  split
  · rfl
  · split
    · split <;> rfl
    · rfl

omit he in
theorem certificateRequest_withOffer :
    (h.withOffer offer).certificateRequest context =
      (h.certificateRequest context).mapState (withOffer offer) := by
  rw [certificateRequest, certificateRequest, version_withOffer]
  split <;> rfl

omit he in
theorem clientCertificate_withOffer (chain : List Certificate) :
    (h.withOffer offer).clientCertificate context chain =
      (h.clientCertificate context chain).mapState (withOffer offer) := by
  rw [clientCertificate, clientCertificate, certificateRequested_withOffer]
  split
  · rw [adoptVerdict, adoptVerdict]
    split <;> rfl
  · rfl

omit he in
theorem complete_withOffer (earlier : List Session) (parameters : SessionParameters) :
    (h.withOffer offer).complete context earlier parameters =
      (h.complete context earlier parameters).mapState (withOffer offer) := by
  rw [complete, complete, isComplete_withOffer, version_withOffer, suite_withOffer]
  split
  · rfl
  · split <;> rfl

/-! ## Every operation -/

/-- An operation commutes with putting an equivalent offer in the place of the handshake's. -/
theorem perform_withOffer (operation : Operation) (shared : Shared) :
    (h.withOffer offer).perform context manager operation shared =
      (h.perform context manager operation shared).mapState (Prod.map (withOffer offer) id) := by
  cases operation with
  | serverVersion =>
    rw [perform, serverVersion_withOffer he]
    rfl
  | selectedCipherSuite =>
    rw [perform, selectedCipherSuite_withOffer he]
    rfl
  | selectCredentials round suite =>
    rw [perform, selectCredentials_withOffer he]
    rfl
  | selectCipherSuite round suite =>
    rw [perform, selectCipherSuite_withOffer he]
    rfl
  | ecdhCurve =>
    rw [perform, ecdhCurve_withOffer he]
    rfl
  | certificateRequest =>
    rw [perform, certificateRequest_withOffer]
    rfl
  | clientCertificate chain =>
    rw [perform, clientCertificate_withOffer]
    rfl
  | alertRaised | alertReceived => rfl
  | complete parameters =>
    rw [perform, complete_withOffer]
    rfl

/-- So does a negotiation at once. -/
theorem agree_withOffer :
    (h.withOffer offer).agree context manager =
      (h.agree context manager).mapState (withOffer offer) := by
  -- Each step leaves the offer as it was, so that the next one commutes as well.
  have hversion : (h.serverVersion context).state.offer = h.offer :=
    (transition_serverVersion context manager Shared.fresh.rounds h).sameOffer
  rw [agree, agree, serverVersion_withOffer he]
  refine Outcome.mapState_andThen fun version => ?_
  rw [← hversion] at he
  generalize (h.serverVersion context).state = h at he
  have hsuite : (h.selectedCipherSuite context manager).state.offer = h.offer :=
    (transition_selectedCipherSuite context manager Shared.fresh.rounds h).sameOffer
  rw [selectedCipherSuite_withOffer he]
  refine Outcome.mapState_andThen fun suite => ?_
  rw [← hsuite] at he
  generalize (h.selectedCipherSuite context manager).state = h at he
  rw [ecdhCurve_withOffer he]
  refine Outcome.mapState_andThen fun curve => ?_
  rw [certificateRequest_withOffer]
  exact Outcome.mapState_andThen fun request => rfl

end Equivalent

end Handshake

end TlsHandshake
