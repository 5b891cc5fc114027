/-
  TlsHandshake.Proofs.Handshake.Policy

  Every suite that a handshake holds obeys the server's policy.

  Single suites can be tried outside a selection, whatever the policy says of them, but
  a try leaves no more than a credential.  The suite of a handshake is only ever set by a
  selection, from the candidates, at the version that was fixed before; and a version
  that is fixed stays.

    * `Negotiable` — what the policy, the provider, the client and the manager ask of a
      version and a suite;
    * `negotiable_of_firstPassing` — a suite that a search finds is negotiable;
    * `Transition.lawful` — no operation breaks the policy;
    * `suite_obeys_policy` — no handshake holds, and no session carries, anything else.
-/

import TlsHandshake.Proofs.Handshake.Lifetime

namespace TlsHandshake

/-- A suite of a family that the server cannot serve gets no credential. -/
theorem Resolver.served_of_standalone {resolver : Resolver} {suite : CipherSuite}
    {credential : Credential} (hs : resolver.standalone suite = .ok (some credential)) :
    suite.keyExchange ≠ .unsupported := by
  intro hk
  simp [standalone, resolve, hk] at hs

/-- The suite may be negotiated at the version with a client that made this offer. -/
structure Negotiable (context : Context) (manager : Manager) (offer : Offer)
    (version : Version) (suite : CipherSuite) : Prop where
  enabled : version.name ∈ context.config.protocols
  notLater : offer.version.atLeast version = true
  configured : suite ∈ context.config.suites
  cipher : context.provider.supportsCipher suite.bulkCipher = true
  hash : context.provider.supportsHash suite.hash = true
  offered : suite.code ∈ offer.suites
  valid : suite.isValidAt version = true
  /-- No suite reaches beyond 1.2, in TLS or in DTLS. -/
  notLatest : version ≠ .tls13 ∧ version ≠ .dtls13
  accepted : manager.accepts suite version = true
  served : suite.keyExchange ≠ .unsupported
  approved : context.config.fips = true →
    suite.isFipsApproved = true ∧ suite.keyExchange.isAnonymous = false
  /-- An elliptic suite has a curve, unless the client leaves the curve to the server; a
      restricted policy leaves only the two approved ones. -/
  curve : suite.isElliptic = true → offer.curves = none ∨
    ∃ curves, offer.curves = some curves ∧ ∃ curve ∈ curves,
      context.config.fips = true ∨ context.config.restrictedCurves = true →
        curve = .secp256r1 ∨ curve = .secp384r1

namespace Handshake

variable {context : Context} {manager : Manager} {h : Handshake}

/-! ## What a search finds -/

/-- A candidate of an elliptic family has a curve, unless the client sent no list. -/
theorem curve_of_candidate {suite : CipherSuite}
    (hb : suite.minimumCurveBits ≤ (h.curveChoice context).maxBits)
    (he : suite.isElliptic = true) :
    h.offer.curves = none ∨ ∃ curves, h.offer.curves = some curves ∧ ∃ curve ∈ curves,
      context.config.fips = true ∨ context.config.restrictedCurves = true →
        curve = .secp256r1 ∨ curve = .secp384r1 := by
  rcases hc : h.offer.curves with _ | curves
  · exact Or.inl rfl
  · have hpos : 0 < (h.curveChoice context).maxBits := by
      simp only [CipherSuite.minimumCurveBits, he, if_true] at hb
      omega
    obtain ⟨curve, hm, ha⟩ := (h.curveChoice context).exists_allowed_of_maxBits hc hpos
    refine Or.inr ⟨curves, rfl, curve, hm, ?_⟩
    intro hpolicy
    have hrestricted : context.config.restrictsCurves = true := Bool.or_eq_true_iff.2 hpolicy
    have happroved : curve.isApproved = true := by
      simpa [CurveChoice.allows, curveChoice, hrestricted] using ha
    simpa [NamedCurve.approved] using (NamedCurve.isApproved_iff curve).1 happroved

/-- A suite that a search finds at an enabled version is negotiable. -/
theorem negotiable_of_firstPassing {version : Version} {suite : CipherSuite}
    {credential : Credential} (he : version.name ∈ context.config.protocols)
    (hl : h.offer.version.atLeast version = true)
    (hf : (h.resolver context version).firstPassing manager (h.candidates context version) =
      .ok (some (suite, credential))) :
    Negotiable context manager h.offer version suite := by
  obtain ⟨-, hstandalone, haccepted⟩ := (Resolver.firstPassing_eq_some_iff ..).1 hf
  have hcandidate := Resolver.mem_of_firstPassing hf
  -- What each filter of the candidates has checked.
  obtain ⟨hsupported, hoffers, hvalid, hbits⟩ := (mem_candidates_iff ..).1 hcandidate
  obtain ⟨hconfigured, hfips, hruns⟩ := (context.mem_supportedSuites_iff suite).1 hsupported
  obtain ⟨hcipher, hhash⟩ := Bool.and_eq_true_iff.1 hruns
  refine
    { enabled := he
      notLater := hl
      configured := hconfigured
      cipher := hcipher
      hash := hhash
      offered := by simpa [Offer.offers] using hoffers
      valid := hvalid
      notLatest := CipherSuite.ne_tls13_of_isValidAt hvalid
      accepted := haccepted
      served := Resolver.served_of_standalone hstandalone
      approved := ?_
      curve := curve_of_candidate hbits }
  -- An approved suite is certified, hence not anonymous.
  intro hmode
  have happroved := hfips hmode
  obtain ⟨auth, hauth⟩ := (CipherSuite.isFipsApproved_iff suite).1 happroved
  exact ⟨happroved, by rw [hauth]; rfl⟩

/-! ## What every operation keeps -/

/-- The handshake is for the offer, and obeys the policy as far as it has got. -/
structure Lawful (context : Context) (manager : Manager) (offer : Offer) (h : Handshake) :
    Prop where
  sameOffer : h.offer = offer
  enabled : ∀ version, h.version = some version →
    version.name ∈ context.config.protocols ∧ offer.version.atLeast version = true
  negotiable : ∀ suite, h.suite = some suite →
    ∃ version, h.version = some version ∧ Negotiable context manager offer version suite

theorem lawful_start (offer : Offer) : Lawful context manager offer (start offer) where
  sameOffer := rfl
  enabled _ hv := by cases hv
  negotiable _ hs := by cases hs

/-- No operation breaks the policy. -/
theorem Transition.lawful {rounds : Nat → Round} {operation : Operation}
    {answer : Except Failure Answer} {k : Handshake} {offer : Offer}
    (ht : Transition context manager rounds h operation answer k)
    (hh : Lawful context manager offer h) : Lawful context manager offer k := by
  obtain ⟨hoffer, hversion, hsuite⟩ := hh
  cases ht with
  | versionFixed hv hs =>
    refine ⟨hoffer, ?_, ?_⟩
    · rintro fixed ⟨⟩
      rw [← hoffer]
      exact enabled_of_selectVersion? hs
    · -- A handshake without a version has no suite that the new version could break.
      intro suite hs
      obtain ⟨version, hsome, -⟩ := hsuite suite hs
      rw [hv] at hsome
      cases hsome
  | suiteSelected hv hf =>
    -- The only case that sets a suite.
    refine ⟨hoffer, hversion, ?_⟩
    rintro selected ⟨⟩
    obtain ⟨he, hl⟩ := hversion _ hv
    rw [← hoffer] at hl ⊢
    exact ⟨_, hv, negotiable_of_firstPassing he hl hf⟩
  | _ => exact ⟨hoffer, hversion, hsuite⟩

theorem lawful_of_meet {offer : Offer} {occasion : Occasion}
    (hc : occasion.context = context) (hm : occasion.manager = manager)
    (hh : Lawful context manager offer h) :
    Lawful context manager offer (h.meet occasion).state.1 := by
  have ht := transition_perform occasion.context occasion.manager h occasion.operation
    occasion.shared
  rw [hc, hm] at ht
  rw [meet, hc, hm]
  exact ht.lawful hh

/-- Collaborators that answer as before keep the handshake lawful to the end. -/
theorem lawful_undergo {offer : Offer} {occasions : List Occasion}
    (hsame : ∀ occasion ∈ occasions, occasion.context = context ∧ occasion.manager = manager)
    (hh : Lawful context manager offer h) :
    Lawful context manager offer (h.undergo occasions).state := by
  refine undergo_invariant ?_ hsame hh
  rintro k occasion ⟨hc, hm⟩ hk
  exact lawful_of_meet hc hm hk

theorem lawful_of_opens {server : Server} {offer : Offer} (ho : server.Opens manager offer h) :
    Lawful server.context manager offer h := by
  obtain ⟨steps, -, rfl⟩ := undergo_of_opens manager h ho
  exact lawful_undergo (surroundings_of_mem server.context manager .fresh steps)
    (lawful_start offer)

/-! ## Handshakes and sessions -/

/-- A handshake that a server handed out, whatever is done to it in whatever rounds, holds
    a suite only together with a version, and only one that may be negotiated at that
    version.  Every session that it reports carries such a pair. -/
theorem suite_obeys_policy {server : Server} {manager : Manager} {offer : Offer}
    {h : Handshake} (ho : server.Opens manager offer h) (occasions : List Occasion)
    (hsame : ∀ occasion ∈ occasions,
      occasion.context = server.context ∧ occasion.manager = manager) :
    let lived := h.undergo occasions
    (∀ suite, lived.state.suite = some suite → ∃ version,
      lived.state.version = some version ∧
        Negotiable server.context manager offer version suite) ∧
    ∀ session ∈ Event.sessions lived.events,
      Negotiable server.context manager offer session.version session.suite := by
  intro lived
  refine ⟨(lawful_undergo hsame (lawful_of_opens ho)).negotiable, ?_⟩
  refine sessions_undergo ?_ ?_ hsame (lawful_of_opens ho)
  · rintro k occasion ⟨hc, hm⟩ hk
    exact lawful_of_meet hc hm hk
  · intro k occasion session _ hk hpublished
    obtain ⟨parameters, version, suite, -, -, hv, hs, rfl⟩ :=
      (published?_eq_some_iff ..).1 hpublished
    obtain ⟨fixed, hfixed, hnegotiable⟩ := hk.negotiable suite hs
    rw [hv] at hfixed
    cases hfixed
    exact hnegotiable

/-- A suite that the server does not enable is tried first, and served; the suite that is
    selected afterwards is the enabled one. -/
theorem suite_after_foreign_try :
    let context := Context.plain [.rsaWithAes128CbcSha] [.rsa]
    let manager := Manager.refusing []
    let h := (Server.accept (.plain [.rsaWithAes128CbcSha, .rsaWithAes256CbcSha])).state
    let occasions : List Occasion :=
      [Operation.serverVersion, .selectCipherSuite 0 .rsaWithAes256CbcSha,
        .selectedCipherSuite].map fun step => ⟨context, manager, .fresh, step⟩
    ∃ version, (h.undergo occasions).state.version = some version ∧
      Negotiable context manager (.plain [.rsaWithAes128CbcSha, .rsaWithAes256CbcSha]) version
        .rsaWithAes128CbcSha := by
  intro context manager h occasions
  have ho : Server.Opens ⟨context⟩ manager
      (.plain [.rsaWithAes128CbcSha, .rsaWithAes256CbcSha]) h := .accepted
  have hsame : ∀ occasion ∈ occasions,
      occasion.context = context ∧ occasion.manager = manager := by
    intro occasion hm
    obtain ⟨step, -, rfl⟩ := List.mem_map.1 hm
    exact ⟨rfl, rfl⟩
  exact (suite_obeys_policy ho occasions hsame).1 .rsaWithAes128CbcSha (by decide +kernel)

end Handshake

end TlsHandshake
