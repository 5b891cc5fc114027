/-
  TlsHandshake.Handshake.Steps

  The other steps of a handshake: fixing the version, choosing the curve of the selected
  suite, asking for and judging the client's certificate, reporting alerts, and
  publishing the finished session.

  Publishing hands the session to the session cache and what the cache hands back to the
  connection manager. It happens once; the flag is set only when version and suite are
  there, so a call that comes too early does not use it up.
-/

import TlsHandshake.ClientAuth.Request
import TlsHandshake.Handshake.Selection
import TlsHandshake.Negotiation.Protocol

namespace TlsHandshake

namespace Handshake

/-- The handshake with the version that was chosen, if one was. -/
def adoptVersion (h : Handshake) (chosen : Attempt Unit Version) : Attempt Handshake Version :=
  match chosen.answer with
  | .ok version => chosen.withState { h with version := some version }
  | .error _ => chosen.withState h

/-- Fixes the version of the handshake; one that is fixed stays. -/
def serverVersion (context : Context) (h : Handshake) : Attempt Handshake Version :=
  match h.version with
  | some version => ⟨.ok version, h, []⟩
  | none => h.adoptVersion (negotiateVersion context.config.protocols h.offer.version)

/-- Chooses the curve of the selected suite, if the suite has the server pick one. -/
def ecdhCurve (context : Context) (h : Handshake) : Attempt Handshake (Option NamedCurve) :=
  match h.suite with
  | none => ⟨.error (.fatal .suiteNotSelected), h, []⟩
  | some suite =>
    if suite.keyExchange.picksCurve then
      match (h.curveChoice context).select? suite.minimumCurveBits with
      | some curve => ⟨.ok (some curve), h, [.log (.curveSelected curve)]⟩
      | none => ⟨.error (.fatal .noAcceptableCurve), h, []⟩
    else ⟨.ok none, h, []⟩

/-- The handshake that remembers a request if one was made. -/
def adoptRequest (h : Handshake) (built : Outcome Unit (Option CertificateRequest)) :
    Attempt Handshake (Option CertificateRequest) :=
  ⟨.ok built.answer,
    { h with certificateRequested := h.certificateRequested || built.answer.isSome },
    built.events⟩

/-- Makes the certificate request, if the policy asks for one, and remembers that the
    client was asked. -/
def certificateRequest (context : Context) (h : Handshake) :
    Attempt Handshake (Option CertificateRequest) :=
  match h.version with
  | none => ⟨.error (.fatal .versionNotNegotiated), h, []⟩
  | some version =>
    h.adoptRequest
      (CertificateRequest.build context.config version context.provider context.trustStore)

/-- The handshake with the verdict on a client's chain, if there is one; the chain of a
    trusted client is kept. -/
def adoptVerdict (h : Handshake) (chain : List Certificate)
    (verdict : Attempt Unit ClientAuthentication) : Attempt Handshake Unit :=
  match verdict.answer with
  | .error failure => ⟨.error failure, h, verdict.events⟩
  | .ok authentication =>
    ⟨.ok (),
      { h with
        clientAuthentication := some authentication
        peerCertificates := if authentication.isTrusted then chain else h.peerCertificates },
      verdict.events⟩

/-- Takes the client's certificate message, which must have been asked for. -/
def clientCertificate (context : Context) (chain : List Certificate) (h : Handshake) :
    Attempt Handshake Unit :=
  if h.certificateRequested then
    h.adoptVerdict chain
      (ClientAuthentication.verify context.config context.trustStore chain)
  else ⟨.error (.fatal .certificateNotRequested), h, []⟩

/-- Reports an alert that the server sends. Of the error that caused it, which may be any,
    the log takes the text. -/
def alertRaised (alert : Alert) (detail cause : Option String) (h : Handshake) :
    Outcome Handshake Unit :=
  ⟨(), h, [.log (.alertRaised alert detail cause)]⟩

/-- Reports an alert that the client sent. -/
def alertReceived (alert : Alert) (h : Handshake) : Outcome Handshake Unit :=
  ⟨(), h, [.log (.alertReceived alert)]⟩

/-- The session that the handshake would publish at this version with this suite. -/
def session (parameters : SessionParameters) (version : Version) (suite : CipherSuite)
    (h : Handshake) : Session :=
  parameters.session version suite (presentedChain h.credential) h.peerCertificates

/-- What publishing a session does: the cache is told first, and the manager gets the
    session that the cache hands back. -/
def publication (context : Context) (earlier : List Session) (session : Session) :
    List Event :=
  [.call (.reportSession session), .log (.complete session.version session.suite),
    .call (.handshakeComplete (context.sessionCache.report earlier session))]

/-- Publishes the session of a handshake that has a version and a suite, after the
    sessions that were reported earlier. A handshake that is complete publishes nothing
    more: only the call that sets the flag publishes. -/
def complete (context : Context) (earlier : List Session) (parameters : SessionParameters)
    (h : Handshake) : Attempt Handshake Unit :=
  if h.isComplete then ⟨.ok (), h, [.log .alreadyComplete]⟩
  else match h.version, h.suite with
    | none, _ => ⟨.error (.fatal .versionNotNegotiated), h, []⟩
    | some _, none => ⟨.error (.fatal .suiteNotSelected), h, []⟩
    | some version, some suite =>
      ⟨.ok (), { h with completion := h.completion.mark.2 },
        if h.completion.mark.1 then
          publication context earlier (h.session parameters version suite)
        else []⟩

/-! ## The three ends of a completion -/

/-- A handshake is complete, or lacks its version or its suite, or can be completed. -/
theorem completion_cases (h : Handshake) :
    h.isComplete = true ∨ (h.isComplete = false ∧ (h.version = none ∨ h.suite = none)) ∨
      ∃ version suite, h.isComplete = false ∧ h.version = some version ∧
        h.suite = some suite := by
  cases hc : h.isComplete with
  | true => exact Or.inl rfl
  | false =>
    cases hv : h.version with
    | none => exact Or.inr (Or.inl ⟨rfl, Or.inl rfl⟩)
    | some version =>
      cases hs : h.suite with
      | none => exact Or.inr (Or.inl ⟨rfl, Or.inr rfl⟩)
      | some suite => exact Or.inr (Or.inr ⟨version, suite, rfl, rfl, rfl⟩)

/-- A completion of a complete handshake does nothing. -/
theorem complete_of_isComplete (context : Context) {h : Handshake} (hc : h.isComplete = true)
    (earlier : List Session) (parameters : SessionParameters) :
    h.complete context earlier parameters = ⟨.ok (), h, [.log .alreadyComplete]⟩ := by
  simp only [complete, hc, if_true]

/-- A completion without a version or a suite fails, for a cause that is the handshake's own,
    and leaves the handshake as it is. -/
theorem complete_of_unready {h : Handshake} (hc : h.isComplete = false)
    (hn : h.version = none ∨ h.suite = none) :
    ∃ cause : FatalCause, cause.alert = .internalError ∧ ∀ context earlier parameters,
      h.complete context earlier parameters = ⟨.error (.fatal cause), h, []⟩ := by
  cases hv : h.version with
  | none =>
    refine ⟨.versionNotNegotiated, rfl, ?_⟩
    intro context earlier parameters
    simp [complete, hc, hv]
  | some version =>
    have hs : h.suite = none := by
      rcases hn with hnone | hnone
      · rw [hv] at hnone
        cases hnone
      · exact hnone
    refine ⟨.suiteNotSelected, rfl, ?_⟩
    intro context earlier parameters
    simp [complete, hc, hv, hs]

/-- A handshake that has a version and a suite is completed and published. -/
theorem complete_of_ready (context : Context) (h : Handshake) {version : Version}
    {suite : CipherSuite} (hc : h.isComplete = false) (hv : h.version = some version)
    (hs : h.suite = some suite) (earlier : List Session) (parameters : SessionParameters) :
    h.complete context earlier parameters =
      ⟨.ok (), { h with completion := h.completion.mark.2 },
        publication context earlier (h.session parameters version suite)⟩ := by
  -- The flag is not set, so to set it is to be the first to do so.
  have hfirst : h.completion.mark.1 = true := h.completion.mark_fst_iff.2 hc
  simp only [complete, hc, hv, hs, hfirst, Bool.false_eq_true, if_false, if_true]

end Handshake

end TlsHandshake
