/-
  TlsHandshake.Proofs.Negotiation.VersionChoice

  The version of a handshake is the highest enabled one that is not above the client's.

  The choice goes back from the client's version, predecessor by predecessor, and takes the
  first enabled version that it meets.  "Highest" is a matter of the wire codes instead,
  which rise with the versions of one family and fall with those of the other.  The two
  agree because each predecessor is the earlier version by its code as well, so that every
  walk down is sorted (`Version.descent_pairwise`), and since the walk meets just the
  versions that are not above its start (`Version.mem_descent_iff`).

    * `Version.descent_getElem?` — the walk is what going back step by step gives;
    * `Version.descent_pairwise` — it meets later versions before earlier ones;
    * `selectVersion?_eq_some_iff` — the first enabled version is the highest one;
    * `selectVersion?_congr` — only the enabled versions count, not how they are listed;
    * `negotiateVersion_highest_enabled` — what is answered, and when nothing is.
-/

import TlsHandshake.Negotiation.Protocol

namespace TlsHandshake

namespace Version

/-! ## Going back in a family -/

/-- The version that is so many steps earlier in the family, if the family goes back so
    far. -/
def back? : Nat → Version → Option Version
  | 0, v => some v
  | steps + 1, v => v.previous?.bind (back? steps)

/-- The walk down meets, one after the other, the versions that lie one, two and more
    steps back, and ends where the family ends. -/
theorem descent_getElem? (v : Version) (steps : Nat) : v.descent[steps]? = v.back? steps := by
  induction steps generalizing v with
  | zero =>
    cases hv : v.previous? with
    | none =>
      rw [descent_of_previous?_none hv]
      rfl
    | some w =>
      rw [descent_of_previous?_some hv]
      rfl
  | succ steps ih =>
    cases hv : v.previous? with
    | none =>
      rw [descent_of_previous?_none hv, back?, hv]
      rfl
    | some w =>
      rw [descent_of_previous?_some hv, back?, hv, List.getElem?_cons_succ]
      exact ih w

/-- The predecessor of a version is the earlier one, by the codes too. -/
theorem atLeast_of_previous? {v w : Version} : v.previous? = some w → v.atLeast w = true := by
  cases v <;> cases w <;> decide

/-- Versions compare only inside a family. -/
theorem isDatagram_of_atLeast {v w : Version} (h : v.atLeast w = true) :
    v.isDatagram = w.isDatagram := by
  have hfamily : (v.isDatagram == w.isDatagram) = true := (Bool.and_eq_true_iff.1 h).1
  exact eq_of_beq hfamily

/-- The walk down meets every version before the earlier ones. -/
theorem descent_pairwise (v : Version) : v.descent.Pairwise fun u w => u.atLeast w = true := by
  -- The induction is along the walk itself: what follows a version is the walk from its
  -- predecessor.
  induction v using descent.induct with
  | case1 v hv =>
    rw [descent_of_previous?_none hv]
    exact List.pairwise_singleton ..
  | case2 v w hv ih =>
    rw [descent_of_previous?_some hv]
    apply List.pairwise_cons.2
    refine ⟨?_, ih⟩
    intro u hu
    have hstep : v.atLeast w = true := atLeast_of_previous? hv
    have hbelow : w.atLeast u = true := (mem_descent_iff w u).1 hu
    exact atLeast_trans hstep hbelow

end Version

/-! ## What is chosen -/

/-- The version is enabled and not above the client's, and no later one is. -/
structure HighestEnabled (enabled : List String) (client version : Version) : Prop where
  listed : version.name ∈ enabled
  notAbove : client.atLeast version = true
  highest : ∀ other : Version, other.name ∈ enabled → client.atLeast other = true →
    version.atLeast other = true

variable {enabled others : List String} {client version : Version}

/-- There is only one such version. -/
theorem HighestEnabled.unique {other : Version} (hv : HighestEnabled enabled client version)
    (ho : HighestEnabled enabled client other) : version = other := by
  have hle : version.atLeast other = true := hv.highest other ho.listed ho.notAbove
  have hge : other.atLeast version = true := ho.highest version hv.listed hv.notAbove
  exact Version.atLeast_antisymm hle hge

/-- Names that enable the same versions for the client have the same highest one. -/
theorem HighestEnabled.congr
    (hsame : ∀ v : Version, client.atLeast v = true → (v.name ∈ others ↔ v.name ∈ enabled))
    (hv : HighestEnabled enabled client version) : HighestEnabled others client version := by
  refine ⟨(hsame version hv.notAbove).2 hv.listed, hv.notAbove, ?_⟩
  intro other ho hbelow
  exact hv.highest other ((hsame other hbelow).1 ho) hbelow

theorem highestEnabled_of_selectVersion? (hs : selectVersion? enabled client = some version) :
    HighestEnabled enabled client version := by
  obtain ⟨henabled, hbelow⟩ := enabled_of_selectVersion? hs
  refine ⟨henabled, hbelow, ?_⟩
  intro other ho hother
  obtain ⟨-, before, after, hwalk, hpassed⟩ := List.find?_eq_some_iff_append.1 hs
  -- The walk meets the other version too, and not before the one that it takes.
  have hmet : other ∈ before ++ version :: after := by
    rw [← hwalk]
    exact (Version.mem_descent_iff client other).2 hother
  rcases List.mem_append.1 hmet with hearlier | hlater
  · have hnot := hpassed other hearlier
    rw [List.contains_iff_mem.2 ho] at hnot
    cases hnot
  · rcases List.mem_cons.1 hlater with rfl | hafter
    · exact Version.atLeast_refl other
    · have hsorted := client.descent_pairwise
      rw [hwalk] at hsorted
      have hrest := (List.pairwise_append.1 hsorted).2.1
      exact (List.pairwise_cons.1 hrest).1 other hafter

/-- The version that is met first is the highest. -/
theorem selectVersion?_eq_some_iff :
    selectVersion? enabled client = some version ↔ HighestEnabled enabled client version := by
  refine ⟨highestEnabled_of_selectVersion?, ?_⟩
  intro hv
  cases hs : selectVersion? enabled client with
  | none =>
    have hnone := (selectVersion?_eq_none_iff enabled client).1 hs version hv.notAbove
    exact absurd hv.listed hnone
  | some found =>
    have hfound := highestEnabled_of_selectVersion? hs
    rw [hfound.unique hv]

/-- The choice depends on nothing but which versions up to the client's are enabled. -/
theorem selectVersion?_congr
    (hsame : ∀ v : Version, client.atLeast v = true → (v.name ∈ others ↔ v.name ∈ enabled)) :
    selectVersion? others client = selectVersion? enabled client := by
  apply Option.ext
  intro version
  rw [selectVersion?_eq_some_iff, selectVersion?_eq_some_iff]
  constructor
  · apply HighestEnabled.congr
    intro v hv
    exact (hsame v hv).symm
  · apply HighestEnabled.congr
    exact hsame

/-! ## What is answered -/

theorem negotiateVersion_answer (enabled : List String) (client : Version) :
    (negotiateVersion enabled client).answer =
      (selectVersion? enabled client).elim (.error (.fatal (.noEnabledProtocol client))) .ok := by
  unfold negotiateVersion
  cases selectVersion? enabled client <;> rfl

/-- The version that is negotiated is the highest enabled one that is not above the client's.
    The negotiation fails, with `protocol_version`, exactly if there is none.

    So the walk to it comes to an end, it stays in the client's family, and of the list of
    names only those count that stand for a version up to the client's: neither their order
    nor how often they are listed, and no name that stands for no version. -/
theorem negotiateVersion_highest_enabled (enabled : List String) (client : Version) :
    let negotiated := (negotiateVersion enabled client).answer
    (∀ version, negotiated = .ok version ↔ HighestEnabled enabled client version) ∧
    ((∃ failure, negotiated = .error failure) ↔
      ∀ version : Version, version.name ∈ enabled → client.atLeast version = false) ∧
    (∀ failure, negotiated = .error failure → failure.alert? = some .protocolVersion) ∧
    (∀ steps, client.descent[steps]? = client.back? steps) ∧
    (∀ version, negotiated = .ok version → version.isDatagram = client.isDatagram) ∧
    (∀ others : List String,
      (∀ version : Version, client.atLeast version = true →
        (version.name ∈ others ↔ version.name ∈ enabled)) →
      negotiateVersion others client = negotiateVersion enabled client) := by
  intro negotiated
  have hnegotiated : negotiated =
      (selectVersion? enabled client).elim (.error (.fatal (.noEnabledProtocol client))) .ok :=
    negotiateVersion_answer enabled client
  have hok : ∀ version, negotiated = .ok version ↔ HighestEnabled enabled client version := by
    intro version
    rw [hnegotiated, ← selectVersion?_eq_some_iff]
    cases selectVersion? enabled client <;> simp
  refine ⟨hok, ?_, ?_, client.descent_getElem?, ?_, ?_⟩
  · have hnone : (∃ failure, negotiated = .error failure) ↔
        selectVersion? enabled client = none := by
      rw [hnegotiated]
      cases selectVersion? enabled client <;> simp
    rw [hnone, selectVersion?_eq_none_iff]
    -- Nothing at or below the client's is enabled: nothing enabled is at or below it.
    constructor
    · intro hdisabled version henabled
      rw [Bool.eq_false_iff]
      intro hbelow
      exact hdisabled version hbelow henabled
    · intro habove version hbelow henabled
      rw [habove version henabled] at hbelow
      cases hbelow
  · intro failure hf
    rw [hnegotiated] at hf
    cases hs : selectVersion? enabled client with
    | none =>
      rw [hs] at hf
      obtain rfl : Failure.fatal (.noEnabledProtocol client) = failure := Except.error.inj hf
      rfl
    | some version =>
      rw [hs] at hf
      cases hf
  · intro version hv
    exact (Version.isDatagram_of_atLeast ((hok version).1 hv).notAbove).symm
  · intro others hsame
    unfold negotiateVersion
    rw [selectVersion?_congr hsame]

/-- A list in no order, with a repeated name, one of the other family and one that stands for
    no version enables the same as the two names that count. -/
theorem negotiateVersion_of_untidy_list :
    let tidy := ["TLSv1.1", "SSLv3"]
    let untidy := ["SSLv3", "DTLSv1.2", "TLSv1.0", "TLSv1.1", "SSLv3"]
    (∀ version : Version, Version.atLeast .tls12 version = true →
        (version.name ∈ untidy ↔ version.name ∈ tidy)) ∧
      negotiateVersion untidy .tls12 = negotiateVersion tidy .tls12 ∧
      (negotiateVersion untidy .tls12).answer = .ok .tls11 := by
  intro tidy untidy
  have hsame : ∀ version : Version, Version.atLeast .tls12 version = true →
      (version.name ∈ untidy ↔ version.name ∈ tidy) := by
    intro version
    cases version <;> decide
  obtain ⟨-, -, -, -, -, hothers⟩ := negotiateVersion_highest_enabled tidy .tls12
  obtain ⟨hok, -⟩ := negotiateVersion_highest_enabled untidy .tls12
  refine ⟨hsame, hothers untidy hsame, (hok .tls11).2 ⟨by decide, by decide, ?_⟩⟩
  intro other
  cases other <;> decide

end TlsHandshake
