/-
  TlsHandshake.Proofs.Server.Course

  How a whole negotiation goes, said once.

  `Course` has one case for each way in which a negotiation can end, with what must be so for
  it, and `course_negotiate` says that there are no others.  In particular the last two steps
  never fail: there is a version by then, and a suite that is selected has a curve
  (`curve_of_selected_suite`, which also says which one).
-/

import TlsHandshake.Proofs.Handshake.Curve
import TlsHandshake.Proofs.Plain

namespace TlsHandshake

/-- How a negotiation ends, by its answer. -/
inductive Course (context : Context) (manager : Manager) (offer : Offer) :
    Except Failure Agreement → Prop
  | noVersion (hs : selectVersion? context.config.protocols offer.version = none) :
      Course context manager offer (.error (.fatal (.noEnabledProtocol offer.version)))
  | noSuite {version : Version}
      (hs : selectVersion? context.config.protocols offer.version = some version)
      (hf : ((Handshake.start offer).resolver context version).firstPassing manager
        ((Handshake.start offer).candidates context version) = .ok none) :
      Course context manager offer (.error (.fatal .noAcceptableSuite))
  | providerFailed {version : Version} {error : ProviderError}
      (hs : selectVersion? context.config.protocols offer.version = some version)
      (hf : ((Handshake.start offer).resolver context version).firstPassing manager
        ((Handshake.start offer).candidates context version) = .error (.provider error)) :
      Course context manager offer (.error (.provider error))
  | agreed {agreement : Agreement} {credential : Credential}
      (hs : selectVersion? context.config.protocols offer.version = some agreement.version)
      (hf : ((Handshake.start offer).resolver context agreement.version).firstPassing manager
        ((Handshake.start offer).candidates context agreement.version) =
          .ok (some (agreement.suite, credential))) :
      Course context manager offer (.ok agreement)

namespace Handshake

variable (context : Context) (manager : Manager) (offer : Offer)

theorem serverVersion_start_of_none
    (hs : selectVersion? context.config.protocols offer.version = none) :
    (start offer).serverVersion context =
      ⟨.error (.fatal (.noEnabledProtocol offer.version)), start offer, []⟩ := by
  show (start offer).adoptVersion (negotiateVersion _ offer.version) = _
  simp only [negotiateVersion, hs]
  rfl

theorem serverVersion_start_of_some {version : Version}
    (hs : selectVersion? context.config.protocols offer.version = some version) :
    (start offer).serverVersion context =
      ⟨.ok version, { start offer with version := some version },
        [.log (.versionSelected version offer.version)]⟩ := by
  show (start offer).adoptVersion (negotiateVersion _ offer.version) = _
  simp only [negotiateVersion, hs]
  rfl

/-- A handshake with a version makes its certificate request, or sees that it needs none. -/
theorem certificateRequest_of_version {h : Handshake} {version : Version}
    (hv : h.version = some version) :
    ∃ request, (h.certificateRequest context).answer = .ok request := by
  simp only [certificateRequest, hv]
  exact ⟨_, rfl⟩

/-- Once the version and the suite are there, a negotiation succeeds. -/
theorem course_agree :
    Course context manager offer ((start offer).agree context manager).answer := by
  cases hs : selectVersion? context.config.protocols offer.version with
  | none =>
    rw [agree, serverVersion_start_of_none context offer hs]
    exact .noVersion hs
  | some version =>
    rw [agree, serverVersion_start_of_some context offer hs, Outcome.andThen_of_ok rfl]
    show Course context manager offer (Outcome.andThen _ _).answer
    -- Selecting a suite reads the version and the offer, so it is that of a fresh handshake.
    have hv : ({ start offer with version := some version } : Handshake).version =
        some version := rfl
    rcases hf : ((start offer).resolver context version).firstPassing manager
      ((start offer).candidates context version) with failure | (_ | ⟨suite, credential⟩)
    · obtain ⟨ha, -⟩ := selectedCipherSuite_of_failure manager hv hf
      obtain ⟨_, -, hstandalone⟩ := (Resolver.firstPassing_eq_error_iff ..).1 hf
      obtain ⟨error, rfl⟩ := Resolver.provider_of_standalone_error hstandalone
      rw [Outcome.andThen_of_error ha]
      exact .providerFailed hs hf
    · obtain ⟨ha, -⟩ := selectedCipherSuite_of_nothing manager hv hf
      rw [Outcome.andThen_of_error ha]
      exact .noSuite hs hf
    · obtain ⟨ha, hstate⟩ := selectedCipherSuite_of_found manager hv hf
      rw [Outcome.andThen_of_ok ha, Outcome.after_answer, hstate]
      -- What is left cannot fail: the suite is covered, and the version is still there.
      have hselected : Transition context manager Shared.fresh.rounds _ .selectedCipherSuite
        _ _ := .suiteSelected hv hf
      have hcovered : Covered context.config offer _ :=
        hselected.covered ⟨rfl, fun _ hsuite => by cases hsuite⟩
      obtain ⟨curve, hcurve, hkept, -, -⟩ := hcovered.ecdhCurve rfl
      obtain ⟨request, hrequest⟩ := certificateRequest_of_version context
        (h := ((({ start offer with version := some version } : Handshake).withCredential
          (some credential)).withSuite suite)) rfl
      rw [Outcome.andThen_of_ok hcurve, Outcome.after_answer, hkept,
        Outcome.andThen_of_ok hrequest]
      exact .agreed hs hf

end Handshake

/-- A server's negotiation goes one of these ways. -/
theorem course_negotiate (server : Server) (manager : Manager) (offer : Offer) :
    Course server.context manager offer (server.negotiate manager offer).answer := by
  rw [Server.negotiate_answer]
  exact Handshake.course_agree server.context manager offer

namespace Handshake

/-! ## The curve of a suite -/

/-- A handshake that was handed out, whatever is done to it while the policy stays, has a curve
    for its suite whenever it has one: choosing the curve succeeds.  A curve is chosen exactly
    for the anonymous and the ephemeral elliptic families: the first of the client's list that
    the policy allows, or `secp256r1` for a client without a list, and one of the two approved
    curves if the policy is restricted.  So no negotiation ends at its curve. -/
theorem curve_of_selected_suite {server : Server} {manager : Manager} {offer : Offer}
    {h : Handshake} (ho : server.Opens manager offer h) (occasions : List Occasion)
    (hsame : ∀ occasion ∈ occasions, occasion.context.config = server.context.config) :
    let lived := (h.undergo occasions).state
    let config := server.context.config
    let choice : CurveChoice := ⟨offer.curves, config.fips || config.restrictedCurves⟩
    (∀ suite, lived.suite = some suite → ∃ curve,
      (lived.ecdhCurve server.context).answer = .ok curve ∧
      (curve.isSome = true ↔ suite.keyExchange = .anonymousEcdh ∨
        suite.keyExchange = .certified .ecdheEcdsa ∨ suite.keyExchange = .certified .ecdheRsa) ∧
      ∀ chosen, curve = some chosen →
        (∀ curves, offer.curves = some curves → choice.FirstAllowed curves chosen) ∧
        (offer.curves = none → chosen = .secp256r1) ∧
        (config.fips = true ∨ config.restrictedCurves = true →
          chosen = .secp256r1 ∨ chosen = .secp384r1)) ∧
    ∀ cause, (server.negotiate manager offer).answer = .error (.fatal cause) →
      cause ≠ .suiteNotSelected ∧ cause ≠ .noAcceptableCurve := by
  intro lived config choice
  refine ⟨?_, ?_⟩
  · intro suite hs
    have hcovered : lived.Covered config offer := covered_undergo hsame (covered_of_opens ho)
    obtain ⟨curve, hanswer, -, hpicks, hchosen⟩ := hcovered.ecdhCurve hs
    refine ⟨curve, hanswer, hpicks.trans (KeyExchange.picksCurve_iff _), ?_⟩
    intro chosen hc
    have hselect : choice.select? 1 = some chosen := hchosen chosen hc
    refine ⟨?_, ?_, ?_⟩
    · intro curves hlist
      exact CurveChoice.firstAllowed_of_select? hlist hselect
    · intro hnone
      rw [CurveChoice.select?_of_no_list hnone] at hselect
      exact (Option.some.inj hselect).symm
    · intro hpolicy
      have hr : choice.restricted = true := Bool.or_eq_true_iff.2 hpolicy
      exact CurveChoice.approved_of_select? hr hselect
  · intro cause hfailed
    have hcourse := course_negotiate server manager offer
    rw [hfailed] at hcourse
    cases hcourse with
    | noVersion | noSuite => exact ⟨by simp, by simp⟩

/-- Under a restricted policy the client's first two curves are passed over, and a suite that is
    tried after the selection changes nothing of it. -/
theorem curve_of_selected_suite_after_try :
    let suites := [CipherSuite.ecdheRsaWithAes128GcmSha256]
    let context : Context :=
      { Context.plain suites [.ecdheRsa] with
        config := { suites := suites, restrictedCurves := true } }
    let curves := [NamedCurve.x25519, .secp521r1, .secp384r1, .secp256r1]
    let offer : Offer := { Offer.plain suites with curves := some curves }
    let steps := negotiationSteps ++ [.selectCipherSuite 0 .rsaWithAes128CbcSha]
    let lived := ((Server.accept offer).state.undergo
      (steps.map fun step => ⟨context, .refusing [], .fresh, step⟩)).state
    lived.suite = some .ecdheRsaWithAes128GcmSha256 ∧ ∃ chosen,
      (lived.ecdhCurve context).answer = .ok (some chosen) ∧
        CurveChoice.FirstAllowed ⟨some curves, true⟩ curves chosen ∧
        (chosen = .secp256r1 ∨ chosen = .secp384r1) := by
  intro suites context curves offer steps lived
  have ho : Server.Opens ⟨context⟩ (.refusing []) offer (Server.accept offer).state := .accepted
  have hsuite : lived.suite = some .ecdheRsaWithAes128GcmSha256 := by decide +kernel
  refine ⟨hsuite, ?_⟩
  obtain ⟨hcurve, -⟩ := curve_of_selected_suite ho
    (steps.map fun step => ⟨context, .refusing [], .fresh, step⟩)
    (fun occasion hm => by rw [(surroundings_of_mem context _ .fresh steps occasion hm).1])
  obtain ⟨curve, hanswer, hpicks, hchosen⟩ := hcurve _ hsuite
  obtain ⟨chosen, rfl⟩ := Option.isSome_iff_exists.1 (hpicks.2 (Or.inr (Or.inr rfl)))
  obtain ⟨hfirst, -, happroved⟩ := hchosen chosen rfl
  exact ⟨chosen, hanswer, hfirst curves rfl, happroved (Or.inr rfl)⟩

end Handshake

end TlsHandshake
