/-
  TlsHandshake.Proofs.Negotiation.CurvePreference

  Which curve is chosen, and how far the largest size promises one.

  A choice takes the first curve that fits, which is one of the size asked for that the policy
  allows.  It looks for it in the client's list or, if the client sent none, among the two
  approved curves.  The largest size is a maximum and not a search, and for a client without a
  list an open policy counts every curve for it, also those that are never chosen.  Everywhere
  else the two go over the same curves, and agree at every size above 0.

    * `CurveChoice.FirstFitting` — what an order of preference picks;
    * `CurveChoice.listed` — the order that is gone by;
    * `NamedCurve.le_largestBits_iff` — what it means to be within a largest size;
    * `CurveChoice.exists_select?_iff` — a size is within the largest one exactly if there is
      a curve for it;
    * `CurveChoice.select?_restricted`, `CurveChoice.maxBits_restricted` — a restricted policy
      strikes curves off the list, and does nothing else;
    * `CurveChoice.select?_first_fitting_up_to_maxBits` — all of it together.
-/

import TlsHandshake.Negotiation.CurveChoice

namespace TlsHandshake

/-- A size above 0 is within the largest one exactly if some curve is of that size. -/
theorem NamedCurve.le_largestBits_iff {curves : List NamedCurve} {minBits : Nat}
    (hb : 1 ≤ minBits) : minBits ≤ largestBits curves ↔ ∃ curve ∈ curves, minBits ≤ curve.bits := by
  constructor
  · intro hle
    have hpos : 0 < largestBits curves := Nat.lt_of_lt_of_le hb hle
    obtain ⟨curve, hm, hlargest⟩ := exists_bits_eq_largestBits hpos
    exact ⟨curve, hm, hlargest ▸ hle⟩
  · rintro ⟨curve, hm, hle⟩
    exact Nat.le_trans hle (bits_le_largestBits hm)

namespace CurveChoice

variable {choice : CurveChoice} {curves : List NamedCurve} {curve : NamedCurve} {minBits : Nat}

/-! ## The order of preference -/

/-- The curve is of the size, and the policy allows it. -/
def Fits (choice : CurveChoice) (minBits : Nat) (curve : NamedCurve) : Prop :=
  minBits ≤ curve.bits ∧ choice.allows curve = true

instance (choice : CurveChoice) (minBits : Nat) (curve : NamedCurve) :
    Decidable (choice.Fits minBits curve) := inferInstanceAs (Decidable (_ ∧ _))

/-- The curve fits, and none that the list has before it does. -/
structure FirstFitting (choice : CurveChoice) (minBits : Nat) (curves : List NamedCurve)
    (curve : NamedCurve) : Prop where
  first : ∃ before after, curves = before ++ curve :: after ∧
    ∀ other ∈ before, ¬ choice.Fits minBits other
  fits : choice.Fits minBits curve

/-- The curves in the order in which they are preferred: the client's, or the approved ones. -/
def listed (choice : CurveChoice) : List NamedCurve := choice.client.getD NamedCurve.approved

theorem FirstFitting.mem (hf : choice.FirstFitting minBits curves curve) : curve ∈ curves := by
  obtain ⟨before, after, rfl, -⟩ := hf.first
  exact List.mem_append_right before List.mem_cons_self

/-- Every policy allows the approved curves. -/
theorem allows_of_approved (choice : CurveChoice) (ha : curve ∈ NamedCurve.approved) :
    choice.allows curve = true := by
  rw [allows, (NamedCurve.isApproved_iff curve).2 ha, Bool.or_true]

theorem decide_fits (choice : CurveChoice) (minBits : Nat) (curve : NamedCurve) :
    decide (choice.Fits minBits curve) = (minBits ≤ curve.bits && choice.allows curve) := by
  rw [Bool.eq_iff_iff, decide_eq_true_iff, Bool.and_eq_true, decide_eq_true_iff]
  rfl

/-- Without a list the choice goes through the approved curves, as if they were the list. -/
theorem select?_eq_find?_listed (choice : CurveChoice) (minBits : Nat) :
    choice.select? minBits = choice.listed.find? fun curve => choice.Fits minBits curve := by
  simp only [decide_fits]
  cases hc : choice.client with
  | some curves => simp only [select?, listed, hc, Option.getD_some]
  | none =>
    have hsmaller : choice.allows .secp256r1 = true := choice.allows_of_approved (by decide)
    have hlarger : choice.allows .secp384r1 = true := choice.allows_of_approved (by decide)
    simp only [select?, listed, hc, Option.getD_none, withoutList?, NamedCurve.approved,
      List.find?_cons, hsmaller, hlarger, Bool.and_true]
    by_cases h256 : minBits ≤ NamedCurve.secp256r1.bits
    · simp [h256]
    · by_cases h384 : minBits ≤ NamedCurve.secp384r1.bits
      · simp [h256, h384]
      · simp [h256, h384]

theorem select?_eq_some_iff :
    choice.select? minBits = some curve ↔ choice.FirstFitting minBits choice.listed curve := by
  rw [select?_eq_find?_listed, List.find?_eq_some_iff_append]
  simp only [decide_eq_true_eq, Bool.not_eq_true', decide_eq_false_iff_not]
  constructor
  · rintro ⟨hfits, hfirst⟩
    exact ⟨hfirst, hfits⟩
  · rintro ⟨hfirst, hfits⟩
    exact ⟨hfits, hfirst⟩

theorem select?_eq_none_iff :
    choice.select? minBits = none ↔ ∀ curve ∈ choice.listed, ¬ choice.Fits minBits curve := by
  rw [select?_eq_find?_listed, List.find?_eq_none]
  simp only [decide_eq_true_eq]

theorem exists_select?_iff_exists_fits :
    (∃ curve, choice.select? minBits = some curve) ↔
      ∃ curve ∈ choice.listed, choice.Fits minBits curve := by
  rw [← Option.isSome_iff_exists, select?_eq_find?_listed, List.find?_isSome]
  simp only [decide_eq_true_eq]

/-! ## The largest size -/

/-- No fitting curve is larger than the largest size. -/
theorem bits_le_maxBits (hm : curve ∈ choice.listed) (ha : choice.allows curve = true) :
    curve.bits ≤ choice.maxBits := by
  cases hc : choice.client with
  | some curves =>
    simp only [listed, hc, Option.getD_some] at hm
    simp only [maxBits, hc]
    exact NamedCurve.bits_le_largestBits (List.mem_filter.2 ⟨hm, ha⟩)
  | none =>
    simp only [listed, hc, Option.getD_none] at hm
    simp only [maxBits, hc]
    split
    · exact NamedCurve.bits_le_largestBits hm
    · exact NamedCurve.bits_le_largestBits (NamedCurve.mem_all curve)

/-- Unless an open policy meets a client without a list, the largest size is that of the curves
    that could be chosen. -/
theorem maxBits_eq_largestBits (hl : choice.client ≠ none ∨ choice.restricted = true) :
    choice.maxBits = NamedCurve.largestBits (choice.listed.filter choice.allows) := by
  cases hc : choice.client with
  | some curves => simp only [maxBits, listed, hc, Option.getD_some]
  | none =>
    have hr : choice.restricted = true := hl.resolve_left (fun hne => hne hc)
    have hall : NamedCurve.approved.filter choice.allows = NamedCurve.approved :=
      List.filter_eq_self.2 fun _ ha => choice.allows_of_approved ha
    simp only [maxBits, listed, hc, hr, if_true, Option.getD_none, hall]

/-- Under the same condition the largest size keeps what it promises, for every size but 0:
    there may be no curve at all. -/
theorem exists_select?_iff (hb : 1 ≤ minBits)
    (hl : choice.client ≠ none ∨ choice.restricted = true) :
    (∃ curve, choice.select? minBits = some curve) ↔ minBits ≤ choice.maxBits := by
  rw [exists_select?_iff_exists_fits, maxBits_eq_largestBits hl, NamedCurve.le_largestBits_iff hb]
  constructor
  · rintro ⟨curve, hm, hsize, hallowed⟩
    exact ⟨curve, List.mem_filter.2 ⟨hm, hallowed⟩, hsize⟩
  · rintro ⟨curve, hm, hsize⟩
    obtain ⟨hlisted, hallowed⟩ := List.mem_filter.1 hm
    exact ⟨curve, hlisted, hsize, hallowed⟩

/-! ## A restricted policy -/

theorem select?_restricted (curves : List NamedCurve) (minBits : Nat) :
    select? ⟨some curves, true⟩ minBits =
      select? ⟨some (curves.filter NamedCurve.isApproved), false⟩ minBits := by
  simp only [select?, allows, List.find?_filter]
  congr 1
  funext curve
  simp [Bool.and_comm]

theorem maxBits_restricted (curves : List NamedCurve) :
    maxBits ⟨some curves, true⟩ =
      maxBits ⟨some (curves.filter NamedCurve.isApproved), false⟩ := by
  -- An open policy strikes nothing off what is left.
  have hopen : (curves.filter NamedCurve.isApproved).filter
      (allows ⟨some (curves.filter NamedCurve.isApproved), false⟩) =
        curves.filter NamedCurve.isApproved := List.filter_eq_self.2 fun _ _ => rfl
  simp only [maxBits, hopen]
  rfl

/-! ## All of it -/

/-- The choice of a curve, for every list that a client may send or leave out, every policy and
    every size.

    From a list the first curve is chosen that is of the size and that the policy allows, and
    none only if the list has none such; without a list it is the first such of two.  A curve
    that is chosen is of the size and no larger than the largest size, and is approved if the
    policy is restricted.  In turn, if the client sent a list or the policy is restricted, then
    there is a curve for every size from 1 up to the largest.  A restricted policy chooses from
    a list, and finds the largest size in it, as an open one does in its approved part. -/
theorem select?_first_fitting_up_to_maxBits (choice : CurveChoice) (minBits : Nat) :
    (∀ curves, choice.client = some curves →
      (∀ curve, choice.select? minBits = some curve ↔ choice.FirstFitting minBits curves curve) ∧
      (choice.select? minBits = none ↔ ∀ curve ∈ curves, ¬ choice.Fits minBits curve)) ∧
    (choice.client = none → ∀ curve, choice.select? minBits = some curve ↔
      choice.FirstFitting minBits [.secp256r1, .secp384r1] curve) ∧
    (∀ curve, choice.select? minBits = some curve →
      minBits ≤ curve.bits ∧ curve.bits ≤ choice.maxBits ∧
        (choice.restricted = true → curve.isApproved = true)) ∧
    (1 ≤ minBits → choice.client ≠ none ∨ choice.restricted = true →
      minBits ≤ choice.maxBits → ∃ curve, choice.select? minBits = some curve) ∧
    (∀ curves : List NamedCurve,
      let restricted : CurveChoice := ⟨some curves, true⟩
      let approvedPart : CurveChoice := ⟨some (curves.filter NamedCurve.isApproved), false⟩
      restricted.select? minBits = approvedPart.select? minBits ∧
        restricted.maxBits = approvedPart.maxBits) := by
  refine ⟨?_, ?_, ?_, ?_, ?_⟩
  · intro curves hc
    have hlisted : choice.listed = curves := by rw [listed, hc, Option.getD_some]
    rw [← hlisted]
    exact ⟨fun _ => select?_eq_some_iff, select?_eq_none_iff⟩
  · intro hc curve
    have hlisted : choice.listed = [.secp256r1, .secp384r1] := by
      rw [listed, hc, Option.getD_none, NamedCurve.approved]
    rw [← hlisted]
    exact select?_eq_some_iff
  · intro curve hs
    have hfirst := select?_eq_some_iff.1 hs
    obtain ⟨hsize, hallowed⟩ := hfirst.fits
    refine ⟨hsize, bits_le_maxBits hfirst.mem hallowed, ?_⟩
    intro hr
    simpa [allows, hr] using hallowed
  · intro hb hl hle
    exact (exists_select?_iff hb hl).2 hle
  · intro curves
    exact ⟨select?_restricted curves minBits, maxBits_restricted curves⟩

/-- At the largest size the one curve is chosen that is approved, after another one of the same
    size and before its own repetition. -/
theorem select?_at_largest_size :
    let curves : List NamedCurve :=
      [.brainpoolP384r1, .x448, .secp256r1, .secp384r1, .x25519, .secp384r1]
    let choice : CurveChoice := ⟨some curves, true⟩
    choice.maxBits = 384 ∧ (∃ curve, choice.select? 384 = some curve) ∧
      choice.select? 384 = some .secp384r1 ∧ choice.select? 385 = none := by
  intro curves choice
  have hlargest : choice.maxBits = 384 := by decide
  obtain ⟨hlist, -, -, hpromise, -⟩ := select?_first_fitting_up_to_maxBits choice 384
  obtain ⟨hlist', -⟩ := select?_first_fitting_up_to_maxBits choice 385
  have hsome : ∃ curve, choice.select? 384 = some curve :=
    hpromise (by decide) (Or.inr rfl) (Nat.le_of_eq hlargest.symm)
  have hfirst : choice.FirstFitting 384 curves .secp384r1 := by
    refine ⟨⟨[.brainpoolP384r1, .x448, .secp256r1], [.x25519, .secp384r1], rfl, ?_⟩, ?_⟩
    · decide
    · decide
  exact ⟨hlargest, hsome, ((hlist curves rfl).1 _).2 hfirst, (hlist' curves rfl).2.2 (by decide)⟩

end CurveChoice

end TlsHandshake
