/-
  TlsHandshake.Proofs.Handshake.Curve

  A handshake that has a suite has a curve for it.

  A suite is selected by the largest curve size that could be negotiated, and its curve is
  chosen later, by another rule: the first of the client's list that the policy allows or,
  without a list, one of two approved curves.  For large sizes the two rules disagree, since a
  client without a list could negotiate any size but is given 384 bits at most.  No suite asks
  for more than some curve, and there the rules agree, whatever the client listed.

    * `CurveChoice.FirstAllowed` — what the client's order picks;
    * `CurveChoice.exists_select?_of_one_le` — some curve that could be negotiated is chosen;
    * `Covered` — the suite of a handshake asks for no more than could be negotiated;
    * `Transition.covered`, `covered_undergo` — every operation, and all of them together,
      keep this;
    * `Covered.ecdhCurve` — so choosing the curve succeeds.
-/

import TlsHandshake.Proofs.Handshake.Lifetime
import TlsHandshake.Proofs.Negotiation.CurvePreference

namespace TlsHandshake

theorem NamedCurve.bits_pos (c : NamedCurve) : 0 < c.bits := by cases c <;> decide

namespace CurveChoice

variable {choice : CurveChoice} {curves : List NamedCurve} {curve : NamedCurve}

/-- The curve is the first of the list that the policy allows. -/
structure FirstAllowed (choice : CurveChoice) (curves : List NamedCurve) (curve : NamedCurve) :
    Prop where
  first : ∃ before after, curves = before ++ curve :: after ∧
    ∀ other ∈ before, choice.allows other = false
  allowed : choice.allows curve = true

/-- Every curve has some size, so the size that a suite asks for passes none over. -/
theorem firstAllowed_of_select? (hc : choice.client = some curves)
    (hs : choice.select? 1 = some curve) : choice.FirstAllowed curves curve := by
  obtain ⟨⟨before, after, hsplit, hbefore⟩, hfits⟩ := select?_eq_some_iff.1 hs
  rw [listed, hc, Option.getD_some] at hsplit
  refine ⟨⟨before, after, hsplit, ?_⟩, hfits.2⟩
  intro other hm
  have hsize : 1 ≤ other.bits := other.bits_pos
  exact Bool.eq_false_iff.2 fun ha => hbefore other hm ⟨hsize, ha⟩

/-- A client that leaves the curve to the server gets the smaller approved one. -/
theorem select?_of_no_list (hc : choice.client = none) : choice.select? 1 = some .secp256r1 := by
  simp only [select?, hc]
  rfl

/-- If some size could be negotiated, some curve is chosen. -/
theorem exists_select?_of_one_le (hb : 1 ≤ choice.maxBits) :
    ∃ curve, choice.select? 1 = some curve := by
  cases hc : choice.client with
  | none => exact ⟨.secp256r1, select?_of_no_list hc⟩
  | some curves =>
    have hsent : choice.client ≠ none := by simp [hc]
    exact (exists_select?_iff (Nat.le_refl 1) (Or.inl hsent)).2 hb

/-- Under a restricted policy a chosen curve is one of the two that are approved. -/
theorem approved_of_select? {minBits : Nat} (hr : choice.restricted = true)
    (hs : choice.select? minBits = some curve) : curve = .secp256r1 ∨ curve = .secp384r1 := by
  have hallowed := (allowed_of_select? hs).2
  simp only [allows, hr, Bool.not_true, Bool.false_or, NamedCurve.isApproved_iff] at hallowed
  simpa [NamedCurve.approved] using hallowed

end CurveChoice

/-- The families whose exchange picks a fresh curve. -/
theorem KeyExchange.picksCurve_iff (x : KeyExchange) :
    x.picksCurve = true ↔
      x = .anonymousEcdh ∨ x = .certified .ecdheEcdsa ∨ x = .certified .ecdheRsa := by
  cases x with
  | certified auth => cases auth <;> decide
  | anonymousDh | anonymousEcdh | unsupported => decide

/-- Such a suite asks for a curve of any size. -/
theorem CipherSuite.minimumCurveBits_of_picksCurve {suite : CipherSuite}
    (hp : suite.keyExchange.picksCurve = true) : suite.minimumCurveBits = 1 := by
  have he : suite.isElliptic = true := KeyExchange.isElliptic_of_picksCurve hp
  rw [minimumCurveBits, if_pos he]

namespace Handshake

variable {context : Context} {manager : Manager} {h : Handshake}

/-! ## What every operation keeps -/

/-- The handshake is for the offer, and a suite that it has asks for no larger a curve than
    could be negotiated. -/
structure Covered (config : Config) (offer : Offer) (h : Handshake) : Prop where
  sameOffer : h.offer = offer
  bits : ∀ suite, h.suite = some suite →
    suite.minimumCurveBits ≤ CurveChoice.maxBits ⟨offer.curves, config.restrictsCurves⟩

theorem covered_start (config : Config) (offer : Offer) : Covered config offer (start offer) where
  sameOffer := rfl
  bits _ hs := by cases hs

/-- No operation breaks it: the only one that sets a suite takes a candidate. -/
theorem Transition.covered {rounds : Nat → Round} {operation : Operation}
    {answer : Except Failure Answer} {k : Handshake} {offer : Offer}
    (ht : Transition context manager rounds h operation answer k)
    (hh : Covered context.config offer h) : Covered context.config offer k := by
  obtain ⟨hoffer, hbits⟩ := hh
  cases ht with
  | suiteSelected hv hf =>
    refine ⟨hoffer, ?_⟩
    rintro selected ⟨⟩
    have hcandidate := Resolver.mem_of_firstPassing hf
    obtain ⟨-, -, -, hlarge⟩ := (mem_candidates_iff ..).1 hcandidate
    rw [← hoffer]
    exact hlarge
  | _ => exact ⟨hoffer, hbits⟩

/-- Collaborators may answer as they like, as long as the policy stays. -/
theorem covered_undergo {config : Config} {offer : Offer} {occasions : List Occasion}
    (hsame : ∀ occasion ∈ occasions, occasion.context.config = config)
    (hh : Covered config offer h) : Covered config offer (h.undergo occasions).state := by
  refine undergo_invariant (P := Covered config offer) ?_ hsame hh
  rintro k occasion rfl hk
  exact (k.transition_meet occasion).covered hk

theorem covered_of_opens {server : Server} {offer : Offer} (ho : server.Opens manager offer h) :
    Covered server.context.config offer h := by
  obtain ⟨steps, -, rfl⟩ := undergo_of_opens manager h ho
  refine covered_undergo ?_ (covered_start server.context.config offer)
  intro occasion hm
  rw [(surroundings_of_mem server.context manager .fresh steps occasion hm).1]

/-! ## Choosing the curve -/

/-- A covered handshake has a curve for its suite: the one that is chosen at any size, if the
    suite picks one at all. -/
theorem Covered.ecdhCurve {offer : Offer} (hh : Covered context.config offer h)
    {suite : CipherSuite} (hs : h.suite = some suite) :
    ∃ curve, (h.ecdhCurve context).answer = .ok curve ∧
      (h.ecdhCurve context).state = h ∧
      (curve.isSome = true ↔ suite.keyExchange.picksCurve = true) ∧
      (∀ chosen, curve = some chosen →
        CurveChoice.select? ⟨offer.curves, context.config.restrictsCurves⟩ 1 = some chosen) := by
  by_cases hp : suite.keyExchange.picksCurve = true
  · have hone := CipherSuite.minimumCurveBits_of_picksCurve hp
    have hlarge := hh.bits suite hs
    rw [hone] at hlarge
    obtain ⟨chosen, hchosen⟩ := CurveChoice.exists_select?_of_one_le hlarge
    have hselect : (h.curveChoice context).select? suite.minimumCurveBits = some chosen := by
      rw [hone, curveChoice, hh.sameOffer]
      exact hchosen
    have hmade : h.ecdhCurve context = ⟨.ok (some chosen), h, [.log (.curveSelected chosen)]⟩ := by
      simp only [Handshake.ecdhCurve, hs, if_pos hp, hselect]
    rw [hmade]
    refine ⟨some chosen, rfl, rfl, by simp [hp], ?_⟩
    rintro _ ⟨⟩
    exact hchosen
  · have hmade : h.ecdhCurve context = ⟨.ok none, h, []⟩ := by
      simp only [Handshake.ecdhCurve, hs, if_neg hp]
    rw [hmade]
    refine ⟨none, rfl, rfl, by simp [hp], ?_⟩
    rintro _ ⟨⟩

end Handshake

end TlsHandshake
