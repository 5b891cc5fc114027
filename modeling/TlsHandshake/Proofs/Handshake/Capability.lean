/-
  TlsHandshake.Proofs.Handshake.Capability

  More capability never makes the selection worse.

  Two setups with the same policy and the same client version are compared: one of them
  offers, supports, holds and accepts all that the other does, and its provider never fails.
  Each stage of the selection is then monotone: what is a candidate in the lesser setup is
  one in the greater, and what has a credential there and is accepted has one here and is.
  The suite that the lesser selects is thus never passed over in the greater, so the search
  ends at it or before it.

    * `Setup.AtLeast` — what it means to be at least as capable;
    * `candidates_subset` — the stages before the key store is asked;
    * `lacksScheme_mono` and `standalone_mono` — credentials;
    * `idxOf_le_of_filter` — what comes first in a list of candidates comes first among the
      server's suites;
    * `serverVersion_of_reached` — the version is the same in both setups;
    * `selection_never_worse` — the comparison, for handshakes at any time of their lives.
-/

import TlsHandshake.Proofs.Handshake.Stability
import TlsHandshake.Proofs.Handshake.Curve
import TlsHandshake.Proofs.Negotiation.Construction
import TlsHandshake.Proofs.Negotiation.RoundRecords

namespace TlsHandshake

/-! ## Setups -/

/-- A server's context, the manager of a connection, and what its client offers. -/
structure Setup where
  context : Context
  manager : Manager
  offer : Offer

/-- The key store, if there is one, holds an identity that is usable for the type. -/
def Context.HoldsIdentity (context : Context) (auth : AuthType) : Prop :=
  ∃ store identity, context.keyStore = some store ∧ store.identity? auth = some identity

/-- The provider makes every credential that it is asked for. -/
def Provider.NeverFails (provider : Provider) : Prop :=
  ∀ call result, provider.construct? call = some result →
    ∃ credential, result = .ok credential

namespace Setup

/-- The setup is at least as capable as another one with the same policy and the same client
    version. -/
structure AtLeast (greater lesser : Setup) : Prop where
  config : greater.context.config = lesser.context.config
  version : greater.offer.version = lesser.offer.version
  suites : lesser.offer.suites ⊆ greater.offer.suites
  /-- Both clients sent a list of curves or neither did; likewise of schemes. -/
  curves : Option.Rel (· ⊆ ·) lesser.offer.curves greater.offer.curves
  schemes : Option.Rel (· ⊆ ·) lesser.offer.schemes greater.offer.schemes
  ciphers : ∀ cipher, lesser.context.provider.supportsCipher cipher = true →
    greater.context.provider.supportsCipher cipher = true
  hashes : ∀ hash, lesser.context.provider.supportsHash hash = true →
    greater.context.provider.supportsHash hash = true
  signatures : ∀ scheme, lesser.context.provider.supportsScheme scheme = true →
    greater.context.provider.supportsScheme scheme = true
  neverFails : greater.context.provider.NeverFails
  identities : ∀ auth, lesser.context.HoldsIdentity auth → greater.context.HoldsIdentity auth
  accepts : ∀ suite version, lesser.manager.accepts suite version = true →
    greater.manager.accepts suite version = true

/-- The setup's server has handed the handshake out, and operations of any kind and in any
    rounds have passed over it. -/
inductive Reached (setup : Setup) : Handshake → Prop
  | of {h : Handshake} {occasions : List Handshake.Occasion}
      (ho : Server.Opens ⟨setup.context⟩ setup.manager setup.offer h)
      (hsame : ∀ occasion ∈ occasions,
        occasion.context = setup.context ∧ occasion.manager = setup.manager) :
      Reached setup (h.undergo occasions).state

end Setup

/-! ## Candidates -/

theorem NamedCurve.largestBits_mono {curves others : List NamedCurve} (hs : curves ⊆ others) :
    largestBits curves ≤ largestBits others := by
  rcases Nat.eq_zero_or_pos (largestBits curves) with hzero | hpos
  · rw [hzero]
    exact Nat.zero_le _
  · obtain ⟨curve, hm, hb⟩ := exists_bits_eq_largestBits hpos
    rw [← hb]
    exact bits_le_largestBits (hs hm)

/-- A longer list of curves allows no smaller size. -/
theorem CurveChoice.maxBits_mono {curves others : Option (List NamedCurve)}
    (hs : Option.Rel (· ⊆ ·) curves others) (restricted : Bool) :
    maxBits ⟨curves, restricted⟩ ≤ maxBits ⟨others, restricted⟩ := by
  cases hs with
  | none => exact Nat.le_refl _
  | some hsub => exact NamedCurve.largestBits_mono (List.filter_subset _ hsub)

namespace Setup

variable {lesser greater setup : Setup} {version : Version}

/-- The suites that are worth trying in the setup at a version. -/
def candidates (setup : Setup) (version : Version) : List CipherSuite :=
  (Handshake.start setup.offer).candidates setup.context version

/-- They are some of the server's suites, in its order. -/
theorem candidates_eq_filter (setup : Setup) (version : Version) :
    ∃ p, setup.candidates version = setup.context.config.suites.filter p :=
  ⟨_, List.filter_filter⟩

theorem AtLeast.supportedSuites_subset (hg : greater.AtLeast lesser) :
    lesser.context.supportedSuites ⊆ greater.context.supportedSuites := by
  intro suite hm
  rw [Context.mem_supportedSuites_iff] at hm ⊢
  obtain ⟨hsuite, hfips, hruns⟩ := hm
  rw [Provider.runs, Bool.and_eq_true] at hruns
  rw [hg.config, Provider.runs, Bool.and_eq_true]
  exact ⟨hsuite, hfips, hg.ciphers _ hruns.1, hg.hashes _ hruns.2⟩

/-- What is worth trying in the lesser setup is worth trying in the greater. -/
theorem AtLeast.candidates_subset (hg : greater.AtLeast lesser) :
    lesser.candidates version ⊆ greater.candidates version := by
  intro suite hm
  rw [candidates, Handshake.mem_candidates_iff] at hm ⊢
  obtain ⟨hsupported, hoffered, hvalid, hbits⟩ := hm
  refine ⟨hg.supportedSuites_subset hsupported, ?_, hvalid, ?_⟩
  · rw [Offer.offers, List.contains_iff_mem] at hoffered ⊢
    exact hg.suites hoffered
  · rw [Handshake.curveChoice, hg.config]
    exact Nat.le_trans hbits (CurveChoice.maxBits_mono hg.curves _)

end Setup

/-! ## Credentials -/

/-- With a provider that never fails no suite ends the search by a failure. -/
theorem Resolver.standalone_ne_error {resolver : Resolver} (hp : resolver.provider.NeverFails)
    (suite : CipherSuite) (failure : Failure) : resolver.standalone suite ≠ .error failure := by
  have hend := resolver.ending_resolve suite .fresh
  unfold standalone
  generalize resolver.resolve suite .fresh = resolved at hend ⊢
  cases hend with
  | anonymous | unsupported | unserved => simp
  | @constructed _ _ _ _ call result _ _ _ _ _ _ _ _ hm =>
    obtain ⟨credential, rfl⟩ := hp call result hm
    simp [made]

theorem getD_subset {α : Type} {first second : Option (List α)}
    (hs : Option.Rel (· ⊆ ·) first second) (default : List α) :
    first.getD default ⊆ second.getD default := by
  cases hs with
  | none => exact List.Subset.refl default
  | some hsub => exact hsub

namespace Setup

variable {lesser greater setup : Setup} {version : Version} {suite : CipherSuite}
  {auth : AuthType}

/-- The search for credentials in the setup at a version. -/
def resolver (setup : Setup) (version : Version) : Resolver :=
  (Handshake.start setup.offer).resolver setup.context version

/-- A type that has a scheme to sign with in the lesser setup has one in the greater. -/
theorem AtLeast.lacksScheme_mono (hg : greater.AtLeast lesser)
    (hl : (greater.resolver version).lacksScheme auth = true) :
    (lesser.resolver version).lacksScheme auth = true := by
  rw [Resolver.lacksScheme_iff] at hl ⊢
  obtain ⟨algorithm, hu, hv, hnone⟩ := hl
  refine ⟨algorithm, hu, hv, ?_⟩
  intro scheme hm husable
  have hlisted : scheme ∈ (greater.resolver version).schemesFor algorithm :=
    getD_subset hg.schemes _ hm
  -- The greater provider lacks the scheme, so the lesser one does.
  rw [← Bool.not_eq_true]
  intro hsupported
  have hmissing := hnone scheme hlisted husable
  have hhas : (greater.resolver version).provider.supportsScheme scheme = true :=
    hg.signatures scheme hsupported
  rw [hmissing] at hhas
  cases hhas

/-- A type that the lesser setup can serve with something, the greater can. -/
theorem AtLeast.lacks_mono (hg : greater.AtLeast lesser) {store : KeyStore}
    (hs : lesser.context.keyStore = some store)
    (hl : (lesser.resolver version).lacks store auth = false) :
    ∃ other, greater.context.keyStore = some other ∧
      (greater.resolver version).lacks other auth = false := by
  rw [Resolver.lacks, Bool.or_eq_false_iff, Option.isNone_eq_false_iff,
    Option.isSome_iff_exists] at hl
  obtain ⟨⟨identity, hi⟩, hscheme⟩ := hl
  obtain ⟨other, own, hother, hown⟩ := hg.identities auth ⟨store, identity, hs, hi⟩
  refine ⟨other, hother, ?_⟩
  rw [Resolver.lacks_of_identity?_some _ hown, ← Bool.not_eq_true]
  intro hlacking
  rw [hg.lacksScheme_mono hlacking] at hscheme
  cases hscheme

/-- A suite that has a credential of its own in the lesser setup has one in the greater. -/
theorem AtLeast.standalone_mono (hg : greater.AtLeast lesser) {credential : Credential}
    (hc : (lesser.resolver version).standalone suite = .ok (some credential)) :
    ∃ own, (greater.resolver version).standalone suite = .ok (some own) := by
  rcases hown : (greater.resolver version).standalone suite with failure | (_ | own)
  · exact absurd hown (Resolver.standalone_ne_error hg.neverFails suite failure)
  · -- Nothing for the suite in the greater setup means nothing in the lesser.
    exfalso
    cases hx : suite.keyExchange with
    | anonymousDh | anonymousEcdh =>
      simp [Resolver.standalone, Resolver.resolve, hx] at hown
    | unsupported => simp [Resolver.standalone, Resolver.resolve, hx] at hc
    | certified auth =>
      cases hs : lesser.context.keyStore with
      | none =>
        rw [Resolver.standalone, Resolver.resolve_of_keyStore_none hx hs] at hc
        cases hc
      | some store =>
        have hserved : (lesser.resolver version).lacks store auth = false := by
          rw [← Bool.not_eq_true, ← Resolver.standalone_eq_none_iff hx hs, hc]
          simp
        obtain ⟨other, hother, hlacks⟩ := hg.lacks_mono hs hserved
        rw [Resolver.standalone_eq_none_iff hx hother, hlacks] at hown
        cases hown
  · exact ⟨own, rfl⟩

end Setup

/-! ## The version -/

/-- Asking for the version leaves a handshake that has it, and is otherwise as it was. -/
theorem Handshake.serverVersion_state_of_ok {context : Context} {h : Handshake}
    {version : Version} (ha : (h.serverVersion context).answer = .ok version) :
    (h.serverVersion context).state = { h with version := some version } := by
  cases hv : h.version with
  | some fixed =>
    rw [serverVersion_of_some hv] at ha ⊢
    rw [← Except.ok.inj ha, ← hv]
  | none =>
    rw [serverVersion_answer_of_none hv] at ha
    simp only [serverVersion, hv, adoptVersion, ha]
    rfl

/-! ## The first of a list -/

/-- What comes first among the elements of a list that have a property, before another one,
    comes first in the list. -/
theorem idxOf_le_of_filter {α : Type} [DecidableEq α] {p : α → Bool} {first x : α}
    {l before after : List α} (hl : l.filter p = before ++ first :: after)
    (hx : x ∈ l.filter p) (hbefore : x ∉ before) : l.idxOf first ≤ l.idxOf x := by
  -- The induction walks down to where `first` stands; `before` is what it has passed.
  induction l generalizing before with
  | nil => cases hx
  | cons a l ih =>
    by_cases ha : a = first
    · rw [ha, List.idxOf_cons_self]
      exact Nat.zero_le _
    · by_cases hp : p a = true
      · rw [List.filter_cons_of_pos hp] at hl hx
        cases before with
        | nil => exact absurd (List.cons.inj hl).1 ha
        | cons b before =>
          obtain ⟨rfl, hrest⟩ := List.cons.inj hl
          obtain ⟨hne, hnot⟩ := not_or.1 (mt List.mem_cons.2 hbefore)
          have hmem : x ∈ l.filter p := (List.mem_cons.1 hx).resolve_left hne
          rw [List.idxOf_cons_ne _ ha, List.idxOf_cons_ne _ (Ne.symm hne)]
          exact Nat.succ_le_succ (ih hrest hmem hnot)
      · rw [List.filter_cons_of_neg hp] at hl hx
        have hne : a ≠ x := by
          rintro rfl
          exact hp (List.mem_filter.1 hx).2
        rw [List.idxOf_cons_ne _ ha, List.idxOf_cons_ne _ hne]
        exact Nat.succ_le_succ (ih hl hx hbefore)

namespace Setup

variable {lesser greater setup : Setup} {version : Version} {suite : CipherSuite}

/-! ## The comparison -/

/-- The search of the greater setup finds a suite, and no later than the lesser one does. -/
theorem AtLeast.firstPassing_mono (hg : greater.AtLeast lesser) {credential : Credential}
    (hf : (lesser.resolver version).firstPassing lesser.manager (lesser.candidates version) =
      .ok (some (suite, credential))) :
    ∃ better own, (greater.resolver version).firstPassing greater.manager
        (greater.candidates version) = .ok (some (better, own)) ∧
      better ∈ greater.context.config.suites ∧
      greater.context.config.suites.idxOf better ≤ greater.context.config.suites.idxOf suite := by
  have hmem := hg.candidates_subset (Resolver.mem_of_firstPassing hf)
  obtain ⟨-, hstandalone, haccepts⟩ := (Resolver.firstPassing_eq_some_iff ..).1 hf
  obtain ⟨own, hown⟩ := hg.standalone_mono hstandalone
  have hkept : ¬ (greater.resolver version).PassesOver greater.manager suite := by
    have haccepted : greater.manager.accepts suite version = true := hg.accepts suite _ haccepts
    rintro (hnone | ⟨-, hrefused⟩)
    · rw [hown] at hnone
      cases hnone
    · exact absurd hrefused (by rw [Bool.not_eq_false]; exact haccepted)
  -- The search cannot pass everything over, since it would have to pass over `suite`.
  rcases (greater.resolver version).passesOver_or_reaches greater.manager
    (greater.candidates version) with hall | ⟨better, hreaches, hdecides⟩
  · exact absurd (hall suite hmem) hkept
  · have hreached := hreaches
    obtain ⟨before, after, hsplit, hbefore⟩ := hreached
    obtain ⟨p, hp⟩ := greater.candidates_eq_filter version
    have hnot : suite ∉ before := fun hin => hkept (hbefore suite hin)
    have hbetter : better ∈ greater.candidates version := by
      rw [hsplit]
      exact List.mem_append_right _ List.mem_cons_self
    rw [hp] at hsplit hmem hbetter
    have hfirst := idxOf_le_of_filter hsplit hmem hnot
    refine ⟨better, ?_⟩
    -- It decides by passing: the provider does not fail, and the suite is not passed over.
    rcases hb : (greater.resolver version).standalone better with failure | (_ | found)
    · exact absurd hb (Resolver.standalone_ne_error hg.neverFails better failure)
    · exact absurd (Or.inl hb) hdecides
    · have hpasses : greater.manager.accepts better version = true := by
        rw [← Bool.not_eq_false]
        intro hrefused
        exact hdecides (Or.inr ⟨⟨found, hb⟩, hrefused⟩)
      refine ⟨found, ?_, (List.mem_filter.1 hbetter).1, hfirst⟩
      exact (Resolver.firstPassing_eq_some_iff ..).2 ⟨hreaches, hb, hpasses⟩

/-! ## Handshakes of a setup -/

variable {h : Handshake}

theorem Reached.sameOffer (hr : setup.Reached h) : h.offer = setup.offer := by
  obtain ⟨ho, -⟩ := hr
  rw [Handshake.offer_undergo]
  exact (Handshake.covered_of_opens ho).sameOffer

/-- What a handshake answers when it is asked for the version depends on the policy and the
    client's version alone. -/
theorem Reached.serverVersion_answer (hr : setup.Reached h) :
    (h.serverVersion setup.context).answer =
      (negotiateVersion setup.context.config.protocols setup.offer.version).answer := by
  obtain ⟨ho, hsame⟩ := hr
  obtain ⟨steps, -, hsteps⟩ := Handshake.undergo_of_opens setup.manager _ ho
  have hstarted := Handshake.surroundings_of_mem setup.context setup.manager .fresh steps
  rw [Handshake.serverVersion_answer_undergo hsame, ← hsteps,
    Handshake.serverVersion_answer_undergo hstarted,
    Handshake.serverVersion_answer_of_none rfl]
  rfl

/-- A handshake that has a version has the one that the policy and the client's version make. -/
theorem Reached.negotiated (hr : setup.Reached h) (hv : h.version = some version) :
    (negotiateVersion setup.context.config.protocols setup.offer.version).answer = .ok version := by
  rw [← hr.serverVersion_answer, Handshake.serverVersion_of_some hv]

/-- What a handshake of the setup selects is what the search at its version finds. -/
theorem selectedCipherSuite_eq_ok_iff (ho : h.offer = setup.offer)
    (hv : h.version = some version) :
    (h.selectedCipherSuite setup.context setup.manager).answer = .ok suite ↔
      ∃ credential, (setup.resolver version).firstPassing setup.manager
        (setup.candidates version) = .ok (some (suite, credential)) := by
  have hresolver : h.resolver setup.context version = setup.resolver version :=
    Handshake.resolver_of_sameOffer setup.context version ho
  have hcandidates : h.candidates setup.context version = setup.candidates version :=
    Handshake.candidates_of_sameOffer setup.context version ho
  rw [Handshake.selectedCipherSuite_eq_ok_iff setup.manager hv, hresolver, hcandidates]

/-- In a setup that is at least as capable, at whatever times of their lives two handshakes
    are compared: if selecting a suite succeeds for a handshake of the lesser setup, then a
    handshake of the greater one gets the same version, selecting succeeds for it, and the
    suite stands no later among the server's suites.

    The lists that the clients sent may be in any order.  Nothing is assumed of what the two
    handshakes went through, as long as their collaborators answer by their arguments; asking
    one that has its version for the version leaves it as it is. -/
theorem selection_never_worse {lesser greater : Setup} (hg : greater.AtLeast lesser)
    {h k : Handshake} (hr : lesser.Reached h) (kr : greater.Reached k) (suite : CipherSuite)
    (hs : (h.selectedCipherSuite lesser.context lesser.manager).answer = .ok suite) :
    let suites := lesser.context.config.suites
    let asked := k.serverVersion greater.context
    let selected := asked.state.selectedCipherSuite greater.context greater.manager
    ∃ version better, h.version = some version ∧ asked.answer = .ok version ∧
      selected.answer = .ok better ∧
      better ∈ suites ∧ suites.idxOf better ≤ suites.idxOf suite := by
  intro suites asked selected
  cases hv : h.version with
  | none => simp [Handshake.selectedCipherSuite, hv] at hs
  | some version =>
    obtain ⟨credential, hf⟩ := (selectedCipherSuite_eq_ok_iff hr.sameOffer hv).1 hs
    obtain ⟨better, own, hbetter, hmem, hfirst⟩ := hg.firstPassing_mono hf
    -- The version is negotiated from what the two setups have in common.
    have hasked : asked.answer = .ok version := by
      rw [kr.serverVersion_answer, hg.config, hg.version]
      exact hr.negotiated hv
    have hstate : asked.state = { k with version := some version } :=
      Handshake.serverVersion_state_of_ok hasked
    have hoffer : asked.state.offer = greater.offer := by
      rw [hstate]
      exact kr.sameOffer
    have hfixed : asked.state.version = some version := by rw [hstate]
    rw [hg.config] at hmem hfirst
    exact ⟨version, better, rfl, hasked,
      (selectedCipherSuite_eq_ok_iff hoffer hfixed).2 ⟨own, hbetter⟩, hmem, hfirst⟩

/-- A server that holds an RSA identity for a suite that signs and for one that does not. -/
def signingFirst (provider : Provider) (manager : Manager) (offer : Offer) : Setup where
  context := { Context.plain [.ecdheRsaWithAes128GcmSha256, .rsaWithAes128CbcSha]
    [.rsa, .ecdheRsa] with provider := provider }
  manager := manager
  offer := offer

/-- In the lesser setup the provider has no scheme and the manager refuses the suite that
    signs, so the other one is selected; in the greater one nothing later than that is, although
    its client lists the suites, the curves and the schemes in another order. -/
theorem selection_no_later_without_veto :
    let codes := [CipherSuite.rsaWithAes128CbcSha.code,
      CipherSuite.ecdheRsaWithAes128GcmSha256.code]
    let lesser := signingFirst { Provider.complete with supportsScheme := fun _ => false }
      (.refusing [.ecdheRsaWithAes128GcmSha256])
      ⟨.tls12, codes, some [.x25519], some [.dsaSha1]⟩
    let greater := signingFirst .complete (.refusing [])
      ⟨.tls12, codes.reverse, some [.secp256r1, .x25519], some [.rsaPssRsaeSha256, .dsaSha1]⟩
    let asked := (Handshake.start greater.offer).serverVersion greater.context
    ∃ better, (asked.state.selectedCipherSuite greater.context greater.manager).answer =
        .ok better ∧
      lesser.context.config.suites.idxOf better ≤ 1 := by
  intro codes lesser greater asked
  have hg : greater.AtLeast lesser := {
    config := rfl
    version := rfl
    suites := by decide
    curves := .some (by decide)
    schemes := .some (by decide)
    ciphers := fun _ _ => rfl
    hashes := fun _ _ => rfl
    signatures := fun _ _ => rfl
    neverFails := by
      intro call result hmade
      cases call <;> cases hmade <;> exact ⟨_, rfl⟩
    identities := fun _ hheld => hheld
    accepts := fun _ _ _ => rfl }
  -- The lesser handshake has been asked for its version, the greater one for nothing.
  have hr : lesser.Reached ((Handshake.start lesser.offer).undergo
      [⟨lesser.context, lesser.manager, .fresh, .serverVersion⟩]).state :=
    .of .accepted (Handshake.surroundings_of_mem _ _ .fresh [.serverVersion])
  have kr : greater.Reached ((Handshake.start greater.offer).undergo []).state :=
    .of .accepted (by simp)
  obtain ⟨version, better, -, -, hselected, -, hfirst⟩ :=
    selection_never_worse hg hr kr .rsaWithAes128CbcSha (by decide +kernel)
  exact ⟨better, hselected, hfirst⟩

end Setup

end TlsHandshake
