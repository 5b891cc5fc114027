/-
  TlsHandshake.Negotiation.CurveChoice

  Choosing the curve of an elliptic key exchange.

  With a list from the client, the client's order decides, under the server's policy.
  Without one, the choice is between the two approved curves, so it holds under either
  policy. The largest size on offer is what suites are judged by before a curve is
  chosen.
-/

import TlsHandshake.Registry.Curve

namespace TlsHandshake

/-- The client's list of curves, if it sent one, and whether the server's policy is
    restricted to approved curves. -/
structure CurveChoice where
  client : Option (List NamedCurve)
  restricted : Bool
  deriving DecidableEq

namespace CurveChoice

/-- The policy allows the curve. -/
def allows (choice : CurveChoice) (curve : NamedCurve) : Bool :=
  !choice.restricted || curve.isApproved

/-- The largest curve size that could be chosen, 0 if the client's list holds nothing
    that the policy allows. -/
def maxBits (choice : CurveChoice) : Nat :=
  match choice.client with
  | some curves => NamedCurve.largestBits (curves.filter choice.allows)
  | none =>
    NamedCurve.largestBits (if choice.restricted then NamedCurve.approved else NamedCurve.all)

/-- The curve for a client that sent no list: the smaller approved curve that is large
    enough. -/
def withoutList? (minBits : Nat) : Option NamedCurve :=
  if minBits ≤ NamedCurve.secp256r1.bits then some .secp256r1
  else if minBits ≤ NamedCurve.secp384r1.bits then some .secp384r1
  else none

/-- The curve of at least `minBits` bits, if there is one: the first of the client's list
    that the policy allows. -/
def select? (choice : CurveChoice) (minBits : Nat) : Option NamedCurve :=
  match choice.client with
  | some curves => curves.find? fun curve => minBits ≤ curve.bits && choice.allows curve
  | none => withoutList? minBits

/-- Without a list the choice is the same under either policy, and is an approved curve
    of the size asked for. -/
theorem withoutList?_approved {minBits : Nat} {curve : NamedCurve}
    (h : withoutList? minBits = some curve) :
    curve ∈ NamedCurve.approved ∧ minBits ≤ curve.bits := by
  unfold withoutList? at h
  split at h
  · cases h
    exact ⟨by decide, by assumption⟩
  · split at h
    · cases h
      exact ⟨by decide, by assumption⟩
    · cases h

/-- A chosen curve is large enough and allowed. -/
theorem allowed_of_select? {choice : CurveChoice} {minBits : Nat} {curve : NamedCurve}
    (h : choice.select? minBits = some curve) :
    minBits ≤ curve.bits ∧ choice.allows curve = true := by
  obtain ⟨client, restricted⟩ := choice
  cases client with
  | some curves => simpa [select?, allows] using List.find?_some h
  | none =>
    obtain ⟨hm, hb⟩ := withoutList?_approved h
    exact ⟨hb, by simp [allows, (NamedCurve.isApproved_iff curve).2 hm]⟩

/-- If the client sent a list, a size above 0 that could be chosen is that of a listed
    curve that the policy allows. -/
theorem exists_allowed_of_maxBits (choice : CurveChoice) {curves : List NamedCurve}
    (hc : choice.client = some curves) (hb : 0 < choice.maxBits) :
    ∃ curve ∈ curves, choice.allows curve = true := by
  simp only [maxBits, hc] at hb
  obtain ⟨curve, hm, -⟩ := NamedCurve.exists_bits_eq_largestBits hb
  exact ⟨curve, List.mem_filter.1 hm⟩

end CurveChoice

end TlsHandshake
