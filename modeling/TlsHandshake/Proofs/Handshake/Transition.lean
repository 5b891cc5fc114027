/-
  TlsHandshake.Proofs.Handshake.Transition

  Everything that one operation can do to a handshake, said once.

  `Transition` has one case for each change that an operation can make, with what must be
  so for it, and `transition_perform` says that there are no others.  An invariant of
  handshakes is shown by cases on a transition, never by taking an operation apart again.
-/

import TlsHandshake.Handshake.History
import TlsHandshake.Proofs.Handshake.Search

namespace TlsHandshake

/-- The trust store of the context trusts the chain, whose leaf is of the type. -/
structure Vouches (context : Context) (chain : List Certificate)
    (type : ClientCertificateType) : Prop where
  leaf : ∃ leaf, chain.head? = some leaf ∧ ClientCertificateType.ofKeyType? leaf.keyType = some type
  trust : ∃ store, context.trustStore = some store ∧ store.trusts chain type = true

/-- The operation looks for a credential. -/
def Operation.selects : Operation → Bool
  | .selectedCipherSuite | .selectCredentials _ _ | .selectCipherSuite _ _ => true
  | _ => false

namespace Handshake

/-- What an operation does to a handshake, by its answer: one case for each change. -/
inductive Transition (context : Context) (manager : Manager) (rounds : Nat → Round)
    (h : Handshake) : Operation → Except Failure Answer → Handshake → Prop
  | versionKept {version : Version} (hv : h.version = some version) :
      Transition context manager rounds h .serverVersion (.ok (.version version)) h
  | versionFixed {version : Version} (hv : h.version = none)
      (hs : selectVersion? context.config.protocols h.offer.version = some version) :
      Transition context manager rounds h .serverVersion (.ok (.version version))
        { h with version := some version }
  /-- The suite is the one that the reference search finds. -/
  | suiteSelected {version : Version} {suite : CipherSuite} {credential : Credential}
      (hv : h.version = some version)
      (hf : (h.resolver context version).firstPassing manager (h.candidates context version) =
        .ok (some (suite, credential))) :
      Transition context manager rounds h .selectedCipherSuite (.ok (.suite suite))
        ((h.withCredential (some credential)).withSuite suite)
  | credentialTried {version : Version} {round : Nat} {suite : CipherSuite}
      {found : Option Credential} (hv : h.version = some version)
      (hr : ((h.resolver context version).resolve suite (rounds round)).answer = .ok found) :
      Transition context manager rounds h (.selectCredentials round suite)
        (.ok (.usable found.isSome)) (h.withCredential found)
  /-- A credential that was found is dropped if the manager refuses the suite. -/
  | suiteTried {version : Version} {round : Nat} {suite : CipherSuite}
      {found : Option Credential} (hv : h.version = some version)
      (hr : ((h.resolver context version).resolve suite (rounds round)).answer = .ok found) :
      Transition context manager rounds h (.selectCipherSuite round suite)
        (.ok (.usable (found.filter fun _ => manager.accepts suite version).isSome))
        (h.withCredential (found.filter fun _ => manager.accepts suite version))
  | curveChosen {curve : Option NamedCurve} :
      Transition context manager rounds h .ecdhCurve (.ok (.curve curve)) h
  | requestMade {request : Option CertificateRequest}
      (hr : request.isSome = context.config.requestsClientAuth) :
      Transition context manager rounds h .certificateRequest (.ok (.request request))
        { h with certificateRequested := h.certificateRequested || request.isSome }
  | clientAbsent (hr : h.certificateRequested = true)
      (hn : context.config.needClientAuth = false) :
      Transition context manager rounds h (.clientCertificate []) (.ok .done)
        { h with clientAuthentication := some .unauthenticated }
  | clientTrusted {chain : List Certificate} {type : ClientCertificateType}
      (hr : h.certificateRequested = true) (hv : Vouches context chain type) :
      Transition context manager rounds h (.clientCertificate chain) (.ok .done)
        { h with clientAuthentication := some (.trusted type), peerCertificates := chain }
  | alertRaised {alert : Alert} {detail cause : Option String} :
      Transition context manager rounds h (.alertRaised alert detail cause) (.ok .done) h
  | alertReceived {alert : Alert} :
      Transition context manager rounds h (.alertReceived alert) (.ok .done) h
  | alreadyComplete {parameters : SessionParameters} (hc : h.isComplete = true) :
      Transition context manager rounds h (.complete parameters) (.ok .done) h
  | completed {parameters : SessionParameters} {version : Version} {suite : CipherSuite}
      (hc : h.isComplete = false) (hv : h.version = some version) (hs : h.suite = some suite) :
      Transition context manager rounds h (.complete parameters) (.ok .done)
        { h with completion := h.completion.mark.2 }
  /-- A failure leaves the handshake as it is, except that a failed selection takes its
      credential away. -/
  | failed {operation : Operation} {failure : Failure} :
      Transition context manager rounds h operation (.error failure) h
  | bereft {operation : Operation} {failure : Failure} (ho : operation.selects = true) :
      Transition context manager rounds h operation (.error failure) (h.withCredential none)

variable (context : Context) (manager : Manager) (rounds : Nat → Round) (h : Handshake)

theorem transition_serverVersion :
    Transition context manager rounds h .serverVersion
      ((h.serverVersion context).mapOk .version).answer (h.serverVersion context).state := by
  cases hv : h.version with
  | some version =>
    simp only [serverVersion, hv]
    exact .versionKept hv
  | none =>
    cases hs : selectVersion? context.config.protocols h.offer.version with
    | some version =>
      simp only [serverVersion, hv, adoptVersion, negotiateVersion, hs]
      exact .versionFixed hv hs
    | none =>
      simp only [serverVersion, hv, adoptVersion, negotiateVersion, hs]
      exact .failed

theorem transition_selectedCipherSuite :
    Transition context manager rounds h .selectedCipherSuite
      ((h.selectedCipherSuite context manager).mapOk .suite).answer
      (h.selectedCipherSuite context manager).state := by
  simp only [Outcome.mapOk, Outcome.map]
  cases hv : h.version with
  | none =>
    have hfail : h.selectedCipherSuite context manager =
        ⟨.error (.fatal .versionNotNegotiated), h, []⟩ := by simp [selectedCipherSuite, hv]
    rw [hfail]
    exact .failed
  | some version =>
    rcases hf : (h.resolver context version).firstPassing manager
      (h.candidates context version) with failure | (_ | ⟨suite, credential⟩)
    · obtain ⟨ha, hs⟩ := selectedCipherSuite_of_failure manager hv hf
      rw [ha, hs]
      exact .bereft rfl
    · obtain ⟨ha, hs⟩ := selectedCipherSuite_of_nothing manager hv hf
      rw [ha, hs]
      exact .bereft rfl
    · obtain ⟨ha, hs⟩ := selectedCipherSuite_of_found manager hv hf
      rw [ha, hs]
      exact .suiteSelected hv hf

theorem transition_selectCredentials (round : Nat) (suite : CipherSuite) :
    Transition context manager rounds h (.selectCredentials round suite)
      ((h.selectCredentials context suite (rounds round)).mapOk .usable).answer
      (h.selectCredentials context suite (rounds round)).state.1 := by
  cases hv : h.version with
  | none =>
    simp only [selectCredentials, hv]
    exact .bereft rfl
  | some version =>
    simp only [selectCredentials, hv, adopt]
    cases hr : ((h.resolver context version).resolve suite (rounds round)).answer with
    | error failure => exact .bereft rfl
    | ok found => exact .credentialTried hv hr

theorem transition_selectCipherSuite (round : Nat) (suite : CipherSuite) :
    Transition context manager rounds h (.selectCipherSuite round suite)
      ((h.selectCipherSuite context manager suite (rounds round)).mapOk .usable).answer
      (h.selectCipherSuite context manager suite (rounds round)).state.1 := by
  cases hv : h.version with
  | none =>
    simp only [selectCipherSuite, selectCredentials, hv]
    exact .bereft rfl
  | some version =>
    simp only [selectCipherSuite, selectCredentials, hv, adopt]
    -- The manager is asked only about a suite that has a credential.
    rcases hr : ((h.resolver context version).resolve suite (rounds round)).answer with
      failure | (_ | credential)
    · exact .bereft rfl
    · exact .suiteTried hv hr
    · have ht : Transition context manager rounds h (.selectCipherSuite round suite) _ _ :=
        .suiteTried hv hr
      cases ha : manager.accepts suite version with
      | true =>
        simp only [Option.filter, ha] at ht
        simp only [consult, ha]
        exact ht
      | false =>
        simp only [Option.filter, ha] at ht
        simp only [consult, ha]
        exact ht

theorem transition_ecdhCurve :
    Transition context manager rounds h .ecdhCurve
      ((h.ecdhCurve context).mapOk .curve).answer (h.ecdhCurve context).state := by
  unfold ecdhCurve
  split
  · exact .failed
  · split
    · split
      · exact .curveChosen
      · exact .failed
    · exact .curveChosen

theorem transition_certificateRequest :
    Transition context manager rounds h .certificateRequest
      ((h.certificateRequest context).mapOk .request).answer
      (h.certificateRequest context).state := by
  cases hv : h.version with
  | none =>
    simp only [certificateRequest, hv]
    exact .failed
  | some version =>
    simp only [certificateRequest, hv]
    refine .requestMade ?_
    rw [Bool.eq_iff_iff]
    exact CertificateRequest.build_isSome_iff ..

theorem transition_clientCertificate (chain : List Certificate) :
    Transition context manager rounds h (.clientCertificate chain)
      ((h.clientCertificate context chain).mapOk fun _ => .done).answer
      (h.clientCertificate context chain).state := by
  by_cases hr : h.certificateRequested = true
  · simp only [clientCertificate, hr, if_true]
    cases chain with
    | nil =>
      -- No certificate: the policy decides.
      cases hn : context.config.needClientAuth with
      | true =>
        simp only [ClientAuthentication.verify, hn]
        exact .failed
      | false =>
        simp only [ClientAuthentication.verify, hn]
        exact .clientAbsent hr hn
    | cons leaf rest =>
      -- A chain: its leaf must be able to sign, then the trust store decides.
      cases ht : ClientCertificateType.ofKeyType? leaf.keyType with
      | none =>
        simp only [ClientAuthentication.verify, ht]
        exact .failed
      | some type =>
        simp only [ClientAuthentication.verify, ht]
        cases hs : context.trustStore with
        | none => exact .failed
        | some store =>
          cases ha : store.trusts (leaf :: rest) type with
          | true =>
            simp only [ClientAuthentication.askTrust, ClientAuthentication.ofTrust, ha]
            exact .clientTrusted hr ⟨⟨leaf, rfl, ht⟩, store, hs, ha⟩
          | false =>
            simp only [ClientAuthentication.askTrust, ClientAuthentication.ofTrust, ha]
            exact .failed
  · simp only [clientCertificate, hr]
    exact .failed

theorem transition_complete (earlier : List Session) (parameters : SessionParameters) :
    Transition context manager rounds h (.complete parameters)
      ((h.complete context earlier parameters).mapOk fun _ => .done).answer
      (h.complete context earlier parameters).state := by
  rcases h.completion_cases with hc | ⟨hc, hn⟩ | ⟨version, suite, hc, hv, hs⟩
  · rw [complete_of_isComplete context hc]
    exact .alreadyComplete hc
  · obtain ⟨cause, -, hfailed⟩ := complete_of_unready hc hn
    rw [hfailed]
    exact .failed
  · rw [complete_of_ready context h hc hv hs]
    exact .completed hc hv hs

/-- Every operation makes a transition. -/
theorem transition_perform (operation : Operation) (shared : Shared) :
    let performed := h.perform context manager operation shared
    Transition context manager shared.rounds h operation performed.answer performed.state.1 := by
  cases operation with
  | serverVersion => exact transition_serverVersion ..
  | selectedCipherSuite => exact transition_selectedCipherSuite ..
  | selectCredentials round suite => exact transition_selectCredentials ..
  | selectCipherSuite round suite => exact transition_selectCipherSuite ..
  | ecdhCurve => exact transition_ecdhCurve ..
  | certificateRequest => exact transition_certificateRequest ..
  | clientCertificate chain => exact transition_clientCertificate ..
  | alertRaised alert detail cause => exact .alertRaised
  | alertReceived alert => exact .alertReceived
  | complete parameters => exact transition_complete ..

theorem transition_meet (occasion : Occasion) :
    Transition occasion.context occasion.manager occasion.shared.rounds h occasion.operation
      (h.meet occasion).answer (h.meet occasion).state.1 := transition_perform ..

/-! ## Asking for the suite -/

theorem meet_of_selectedCipherSuite {occasion : Occasion}
    (ho : occasion.operation = .selectedCipherSuite) (h : Handshake) :
    h.meet occasion = outsideRounds occasion.shared
      ((h.selectedCipherSuite occasion.context occasion.manager).mapOk .suite) :=
  meet_eq_perform ho h

end Handshake

end TlsHandshake
