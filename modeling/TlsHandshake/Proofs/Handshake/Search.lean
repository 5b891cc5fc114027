/-
  TlsHandshake.Proofs.Handshake.Search

  The suite that a handshake selects is the one that a search without memory finds.

  The handshake tries its candidates in one round, whose records it fills on the way,
  and changes its credential with every try.  The reference search
  (`Resolver.firstPassing`) judges each candidate on its own.  The two agree because the
  round's records stay sound all along the search (`Resolver.Sound`), so no candidate is
  judged by what an earlier one left behind.

  A candidate *decides* the search if it is selected or ends it with a failure of the
  provider; the others are passed over.
-/

import TlsHandshake.Handshake.Selection
import TlsHandshake.Proofs.Negotiation.RoundMemory
import TlsHandshake.Proofs.Plain
import Mathlib.Data.List.Basic

namespace TlsHandshake

namespace Resolver

variable (resolver : Resolver) (manager : Manager)

/-! ## The reference search -/

/-- The candidate is passed over: it has no credential of its own, or it has one and the
    manager refuses the suite. -/
def PassesOver (suite : CipherSuite) : Prop :=
  resolver.standalone suite = .ok none ∨
    (∃ credential, resolver.standalone suite = .ok (some credential)) ∧
      manager.accepts suite resolver.version = false

/-- Every candidate before this one is passed over. -/
def Reaches (candidates : List CipherSuite) (suite : CipherSuite) : Prop :=
  ∃ before after, candidates = before ++ suite :: after ∧
    ∀ other ∈ before, resolver.PassesOver manager other

theorem judge_eq_none_iff (suite : CipherSuite) :
    resolver.judge manager suite = .ok none ↔ resolver.PassesOver manager suite := by
  unfold judge PassesOver
  cases resolver.standalone suite with
  | error failure => simp
  | ok found =>
    cases found with
    | none => simp
    | some credential => cases manager.accepts suite resolver.version <;> simp

theorem judge_eq_error_iff (suite : CipherSuite) (failure : Failure) :
    resolver.judge manager suite = .error failure ↔
      resolver.standalone suite = .error failure := by
  unfold judge
  cases resolver.standalone suite with
  | error failure => simp
  | ok found => cases found <;> simp

theorem firstPassing_append {before : List CipherSuite} (after : List CipherSuite)
    (h : ∀ other ∈ before, resolver.PassesOver manager other) :
    resolver.firstPassing manager (before ++ after) = resolver.firstPassing manager after := by
  induction before with
  | nil => rfl
  | cons suite before ih =>
    obtain ⟨hsuite, hbefore⟩ := List.forall_mem_cons.1 h
    have hj := (resolver.judge_eq_none_iff manager suite).2 hsuite
    rw [← ih hbefore]
    simp [firstPassing, hj]

theorem firstPassing_of_passesOver {candidates : List CipherSuite}
    (h : ∀ suite ∈ candidates, resolver.PassesOver manager suite) :
    resolver.firstPassing manager candidates = .ok none := by
  rw [← List.append_nil candidates, resolver.firstPassing_append manager [] h]
  rfl

/-- The candidate that decides a search decides it by its own judgement. -/
theorem firstPassing_of_reaches {candidates : List CipherSuite} {suite : CipherSuite}
    (hr : resolver.Reaches manager candidates suite) (hd : ¬ resolver.PassesOver manager suite) :
    resolver.firstPassing manager candidates =
      (resolver.judge manager suite).map (Option.map (suite, ·)) := by
  obtain ⟨before, after, rfl, hbefore⟩ := hr
  rw [resolver.firstPassing_append manager _ hbefore, firstPassing]
  cases hj : resolver.judge manager suite with
  | error failure => rfl
  | ok found =>
    cases found with
    | none => exact absurd ((resolver.judge_eq_none_iff manager suite).1 hj) hd
    | some credential => rfl

/-- A search either passes every candidate over or reaches one that it does not. -/
theorem passesOver_or_reaches (candidates : List CipherSuite) :
    (∀ suite ∈ candidates, resolver.PassesOver manager suite) ∨
      ∃ suite, resolver.Reaches manager candidates suite ∧
        ¬ resolver.PassesOver manager suite := by
  induction candidates with
  | nil => exact Or.inl (by simp)
  | cons suite suites ih =>
    by_cases hp : resolver.PassesOver manager suite
    · -- A candidate that is passed over only stands in front of what decides the rest.
      rcases ih with hall | ⟨decider, ⟨before, after, hsplit, hbefore⟩, hd⟩
      · exact Or.inl (List.forall_mem_cons.2 ⟨hp, hall⟩)
      · refine Or.inr ⟨decider, ⟨suite :: before, after, by rw [hsplit]; rfl, ?_⟩, hd⟩
        exact List.forall_mem_cons.2 ⟨hp, hbefore⟩
    · exact Or.inr ⟨suite, ⟨[], suites, rfl, by simp⟩, hp⟩

/-- A search finds nothing exactly if every candidate is passed over. -/
theorem firstPassing_eq_none_iff (candidates : List CipherSuite) :
    resolver.firstPassing manager candidates = .ok none ↔
      ∀ suite ∈ candidates, resolver.PassesOver manager suite := by
  refine ⟨fun h => ?_, resolver.firstPassing_of_passesOver manager⟩
  rcases resolver.passesOver_or_reaches manager candidates with hall | ⟨suite, hr, hd⟩
  · exact hall
  · rw [resolver.firstPassing_of_reaches manager hr hd] at h
    rw [← judge_eq_none_iff] at hd
    rcases hj : resolver.judge manager suite with failure | (_ | credential) <;>
      simp_all [Except.map]

/-- A search finds a candidate exactly if it reaches it, the candidate has a credential of
    its own, and the manager accepts the suite. -/
theorem firstPassing_eq_some_iff (candidates : List CipherSuite) (suite : CipherSuite)
    (credential : Credential) :
    resolver.firstPassing manager candidates = .ok (some (suite, credential)) ↔
      resolver.Reaches manager candidates suite ∧
        resolver.standalone suite = .ok (some credential) ∧
          manager.accepts suite resolver.version = true := by
  rw [← judge_eq_some_iff]
  constructor
  · intro h
    rcases resolver.passesOver_or_reaches manager candidates with hall | ⟨decider, hr, hd⟩
    · rw [resolver.firstPassing_of_passesOver manager hall] at h
      cases h
    · rw [resolver.firstPassing_of_reaches manager hr hd] at h
      rcases hj : resolver.judge manager decider with failure | (_ | found) <;>
        simp [hj, Except.map] at h
      obtain ⟨rfl, rfl⟩ := h
      exact ⟨hr, hj⟩
  · rintro ⟨hr, hj⟩
    have hd : ¬ resolver.PassesOver manager suite := by simp [← judge_eq_none_iff, hj]
    rw [resolver.firstPassing_of_reaches manager hr hd, hj]
    rfl

/-- What a search finds is a candidate. -/
theorem mem_of_firstPassing {resolver : Resolver} {manager : Manager}
    {candidates : List CipherSuite} {suite : CipherSuite} {credential : Credential}
    (h : resolver.firstPassing manager candidates = .ok (some (suite, credential))) :
    suite ∈ candidates := by
  obtain ⟨⟨before, after, rfl, -⟩, -, -⟩ := (firstPassing_eq_some_iff ..).1 h
  exact List.mem_append_right before List.mem_cons_self

/-- A search fails exactly if it reaches a candidate for which the provider fails. -/
theorem firstPassing_eq_error_iff (candidates : List CipherSuite) (failure : Failure) :
    resolver.firstPassing manager candidates = .error failure ↔
      ∃ suite, resolver.Reaches manager candidates suite ∧
        resolver.standalone suite = .error failure := by
  simp only [← resolver.judge_eq_error_iff manager]
  constructor
  · intro h
    rcases resolver.passesOver_or_reaches manager candidates with hall | ⟨decider, hr, hd⟩
    · rw [resolver.firstPassing_of_passesOver manager hall] at h
      cases h
    · rw [resolver.firstPassing_of_reaches manager hr hd] at h
      rcases hj : resolver.judge manager decider with failure | found <;>
        simp [hj, Except.map] at h
      exact ⟨decider, hr, by rw [hj, h]⟩
  · rintro ⟨suite, hr, hj⟩
    have hd : ¬ resolver.PassesOver manager suite := by simp [← judge_eq_none_iff, hj]
    rw [resolver.firstPassing_of_reaches manager hr hd, hj]
    rfl

end Resolver

namespace Handshake

variable {context : Context} (manager : Manager) {version : Version} {h : Handshake}
  {round : Round}

/-! ## The search of a handshake -/

/-- The search for credentials reads the offer and the version only. -/
theorem resolver_of_sameOffer (context : Context) (version : Version) {h k : Handshake}
    (ho : k.offer = h.offer) : k.resolver context version = h.resolver context version := by
  unfold resolver
  rw [ho]

/-- So does the choice of the suites to try. -/
theorem candidates_of_sameOffer (context : Context) (version : Version) {h k : Handshake}
    (ho : k.offer = h.offer) : k.candidates context version = h.candidates context version := by
  unfold candidates isCandidate curveChoice
  rw [ho]

/-- In a round with sound records a suite is judged as on its own, and the handshake is
    left with the credential it would have on its own, or with none. -/
theorem selectCipherSuite_of_sound (hv : h.version = some version)
    (hr : (h.resolver context version).Sound round) (suite : CipherSuite) :
    let tried := h.selectCipherSuite context manager suite round
    let judged := (h.resolver context version).judge manager suite
    tried.answer = judged.map Option.isSome ∧
      tried.state.1 = h.withCredential judged.toOption.join ∧
      (h.resolver context version).Sound tried.state.2 := by
  have hanswer := Resolver.resolve_answer_of_sound hr suite
  have hsound := Resolver.sound_resolve hr suite
  have htried : h.selectCipherSuite context manager suite round =
      consult manager suite version
        (h.adopt ((h.resolver context version).resolve suite round)) := by
    simp [selectCipherSuite, selectCredentials, hv]
  rw [htried]
  -- The cases of the judgement are those of the answer in this round.
  unfold Resolver.judge
  rcases hs : (h.resolver context version).standalone suite with failure | (_ | credential)
  · rw [hs] at hanswer
    simpa [consult, adopt, hanswer, Except.map, Except.toOption] using hsound
  · rw [hs] at hanswer
    simpa [consult, adopt, hanswer, Except.map, Except.toOption] using hsound
  · rw [hs] at hanswer
    have hversion : (h.resolver context version).version = version := rfl
    -- The manager's word decides whether the credential is kept.
    cases ha : manager.accepts suite version with
    | true =>
      simpa [consult, adopt, hanswer, ha, hversion, Except.map, Except.toOption,
        Outcome.thenDo] using hsound
    | false =>
      simpa [consult, adopt, hanswer, ha, hversion, Except.map, Except.toOption,
        withCredential] using hsound

/-- A candidate for which the provider fails ends the search. -/
theorem firstUsable_cons_of_error (hv : h.version = some version)
    (hr : (h.resolver context version).Sound round) {suite : CipherSuite} {failure : Failure}
    (hj : (h.resolver context version).judge manager suite = .error failure)
    (suites : List CipherSuite) :
    let tried := h.selectCipherSuite context manager suite round
    firstUsable context manager (suite :: suites) round h =
      ⟨.error failure, tried.state, tried.events⟩ := by
  intro tried
  obtain ⟨hanswer, -, -⟩ := selectCipherSuite_of_sound manager hv hr suite
  rw [hj] at hanswer
  rw [firstUsable, Outcome.andThen_of_error hanswer]

/-- After a candidate that is passed over the search goes on, without its credential. -/
theorem firstUsable_cons_of_none (hv : h.version = some version)
    (hr : (h.resolver context version).Sound round) {suite : CipherSuite}
    (hj : (h.resolver context version).judge manager suite = .ok none)
    (suites : List CipherSuite) :
    let tried := h.selectCipherSuite context manager suite round
    firstUsable context manager (suite :: suites) round h =
      (firstUsable context manager suites tried.state.2 (h.withCredential none)).after
        tried.events := by
  intro tried
  obtain ⟨hanswer, hstate, -⟩ := selectCipherSuite_of_sound manager hv hr suite
  rw [hj] at hanswer hstate
  rw [firstUsable, Outcome.andThen_of_ok hanswer]
  show (firstUsable context manager suites _ _).after _ = _
  rw [hstate]
  rfl

/-- A candidate that passes ends the search. -/
theorem firstUsable_cons_of_some (hv : h.version = some version)
    (hr : (h.resolver context version).Sound round) {suite : CipherSuite}
    {credential : Credential}
    (hj : (h.resolver context version).judge manager suite = .ok (some credential))
    (suites : List CipherSuite) :
    let tried := h.selectCipherSuite context manager suite round
    firstUsable context manager (suite :: suites) round h =
      ⟨.ok (some suite), tried.state, tried.events⟩ := by
  intro tried
  obtain ⟨hanswer, -, -⟩ := selectCipherSuite_of_sound manager hv hr suite
  rw [hj] at hanswer
  rw [firstUsable, Outcome.andThen_of_ok hanswer]
  simp [tried, Outcome.after]

/-- A search that starts with sound records finds what the reference search finds. -/
theorem firstUsable_of_sound (hv : h.version = some version)
    (hr : (h.resolver context version).Sound round) (suites : List CipherSuite) :
    let search := firstUsable context manager suites round h
    let found := (h.resolver context version).firstPassing manager suites
    search.answer = found.map (Option.map Prod.fst) ∧
      (∀ suite credential, found = .ok (some (suite, credential)) →
        search.state.1 = h.withCredential (some credential)) ∧
      (∀ failure, found = .error failure → search.state.1 = h.withCredential none) := by
  -- The induction carries the soundness of the round: the handshake in it changes its
  -- credential only, and the resolver does not read that.
  induction suites generalizing h round with
  | nil => simp [firstUsable, Resolver.firstPassing, Except.map]
  | cons suite suites ih =>
    obtain ⟨-, hstate, hsound⟩ := selectCipherSuite_of_sound manager hv hr suite
    rcases hj : (h.resolver context version).judge manager suite with
      failure | (_ | credential)
    · rw [firstUsable_cons_of_error manager hv hr hj]
      simp [Resolver.firstPassing, hj, hstate, Except.map, Except.toOption]
    · have hrest := @ih (h.withCredential none) _ hv hsound
      rw [firstUsable_cons_of_none manager hv hr hj]
      simpa [Resolver.firstPassing, hj] using hrest
    · rw [firstUsable_cons_of_some manager hv hr hj]
      simp [Resolver.firstPassing, hj, hstate, Except.map, Except.toOption]

theorem conclude_of_some {search : Attempt (Handshake × Round) (Option CipherSuite)}
    {suite : CipherSuite} (hs : search.answer = .ok (some suite)) :
    (conclude search).answer = .ok suite ∧
      (conclude search).state = search.state.1.withSuite suite := by
  rw [conclude, Outcome.andThen_of_ok hs]
  exact ⟨rfl, rfl⟩

theorem conclude_of_none {search : Attempt (Handshake × Round) (Option CipherSuite)}
    (hs : search.answer = .ok none) :
    (conclude search).answer = .error (.fatal .noAcceptableSuite) ∧
      (conclude search).state = search.state.1.withCredential none := by
  rw [conclude, Outcome.andThen_of_ok hs]
  exact ⟨rfl, rfl⟩

theorem conclude_of_error {search : Attempt (Handshake × Round) (Option CipherSuite)}
    {failure : Failure} (hs : search.answer = .error failure) :
    (conclude search).answer = .error failure ∧ (conclude search).state = search.state.1 := by
  rw [conclude, Outcome.andThen_of_error hs]
  exact ⟨rfl, rfl⟩

/-- If the reference search finds a candidate, it is selected with its own credential. -/
theorem selectedCipherSuite_of_found (hv : h.version = some version) {suite : CipherSuite}
    {credential : Credential}
    (hf : (h.resolver context version).firstPassing manager (h.candidates context version) =
      .ok (some (suite, credential))) :
    (h.selectedCipherSuite context manager).answer = .ok suite ∧
      (h.selectedCipherSuite context manager).state =
        (h.withCredential (some credential)).withSuite suite := by
  obtain ⟨hanswer, hsome, -⟩ :=
    firstUsable_of_sound manager hv Resolver.sound_fresh (h.candidates context version)
  rw [hf] at hanswer
  obtain ⟨ha, hs⟩ := conclude_of_some hanswer
  rw [hsome suite credential hf] at hs
  simp only [selectedCipherSuite, hv]
  exact ⟨ha, hs⟩

/-- If it passes every candidate over, the handshake must end. -/
theorem selectedCipherSuite_of_nothing (hv : h.version = some version)
    (hf : (h.resolver context version).firstPassing manager (h.candidates context version) =
      .ok none) :
    (h.selectedCipherSuite context manager).answer = .error (.fatal .noAcceptableSuite) ∧
      (h.selectedCipherSuite context manager).state = h.withCredential none := by
  obtain ⟨hanswer, -, -⟩ :=
    firstUsable_of_sound manager hv Resolver.sound_fresh (h.candidates context version)
  have hframe := firstUsable_frame context manager (h.candidates context version) .fresh h
  rw [hf] at hanswer
  -- The last candidate, if there is one, has left no credential; the end of the search takes
  -- away the one that an empty list of candidates leaves in place.
  obtain ⟨ha, hs⟩ := conclude_of_none hanswer
  rw [hframe] at hs
  simp only [selectedCipherSuite, hv]
  exact ⟨ha, hs⟩

/-- If it meets a failure of the provider, the handshake fails with it. -/
theorem selectedCipherSuite_of_failure (hv : h.version = some version) {failure : Failure}
    (hf : (h.resolver context version).firstPassing manager (h.candidates context version) =
      .error failure) :
    (h.selectedCipherSuite context manager).answer = .error failure ∧
      (h.selectedCipherSuite context manager).state = h.withCredential none := by
  obtain ⟨hanswer, -, herror⟩ :=
    firstUsable_of_sound manager hv Resolver.sound_fresh (h.candidates context version)
  rw [hf] at hanswer
  obtain ⟨ha, hs⟩ := conclude_of_error hanswer
  rw [herror failure hf] at hs
  simp only [selectedCipherSuite, hv]
  exact ⟨ha, hs⟩

theorem selectedCipherSuite_eq_ok_iff (hv : h.version = some version) (suite : CipherSuite) :
    (h.selectedCipherSuite context manager).answer = .ok suite ↔
      ∃ credential, (h.resolver context version).firstPassing manager
        (h.candidates context version) = .ok (some (suite, credential)) := by
  rcases hf : (h.resolver context version).firstPassing manager (h.candidates context version) with
    failure | (_ | ⟨chosen, credential⟩)
  · simp [selectedCipherSuite_of_failure manager hv hf]
  · simp [selectedCipherSuite_of_nothing manager hv hf]
  · simp [selectedCipherSuite_of_found manager hv hf]

theorem selectedCipherSuite_eq_error_iff (hv : h.version = some version) (failure : Failure) :
    (h.selectedCipherSuite context manager).answer = .error failure ↔
      (h.resolver context version).firstPassing manager (h.candidates context version) =
          .error failure ∨
        (h.resolver context version).firstPassing manager (h.candidates context version) =
          .ok none ∧ failure = .fatal .noAcceptableSuite := by
  rcases hf : (h.resolver context version).firstPassing manager (h.candidates context version) with
    error | (_ | ⟨chosen, credential⟩)
  · simp [selectedCipherSuite_of_failure manager hv hf]
  · simp [selectedCipherSuite_of_nothing manager hv hf, eq_comm]
  · simp [selectedCipherSuite_of_found manager hv hf]

/-! ## The selected suite -/

/-- Selecting a suite is searching without memory.  Candidates are the supported suites,
    in the server's order, that the client offered, that the version allows and whose
    curve can be negotiated.  The first candidate that is not passed over decides: it is
    selected with the credential it has on its own, or the provider's failure for it ends
    the handshake; if every candidate is passed over, the handshake ends with
    `handshake_failure`.  A failed selection leaves no credential, and nothing else of the
    handshake changes. -/
theorem selectedCipherSuite_searches_without_memory (context : Context) (manager : Manager)
    (h : Handshake) (version : Version) (hv : h.version = some version) :
    let resolver := h.resolver context version
    let candidates := context.supportedSuites.filter fun suite =>
      h.offer.offers suite && suite.isValidAt version &&
        decide (suite.minimumCurveBits ≤ (h.curveChoice context).maxBits)
    let selected := h.selectedCipherSuite context manager
    (∀ suite, selected.answer = .ok suite ↔
      resolver.Reaches manager candidates suite ∧
        (∃ credential, resolver.standalone suite = .ok (some credential)) ∧
        manager.accepts suite version = true) ∧
    (∀ error, selected.answer = .error (.provider error) ↔
      ∃ suite, resolver.Reaches manager candidates suite ∧
        resolver.standalone suite = .error (.provider error)) ∧
    ((∃ cause, selected.answer = .error (.fatal cause) ∧ cause.alert = .handshakeFailure) ↔
      ∀ suite ∈ candidates, resolver.PassesOver manager suite) ∧
    (∀ suite, selected.answer = .ok suite → ∃ credential,
      resolver.standalone suite = .ok (some credential) ∧
        selected.state = { h with credential := some credential, suite := some suite }) ∧
    (∀ failure, selected.answer = .error failure →
      (failure = .fatal .noAcceptableSuite ∨ ∃ error, failure = .provider error) ∧
        selected.state = { h with credential := none }) := by
  intro resolver candidates selected
  -- What the handshake does, by what the reference search finds.
  have hok : ∀ suite, selected.answer = .ok suite ↔ ∃ credential,
      resolver.firstPassing manager candidates = .ok (some (suite, credential)) :=
    selectedCipherSuite_eq_ok_iff manager hv
  have herr : ∀ failure, selected.answer = .error failure ↔
      resolver.firstPassing manager candidates = .error failure ∨
        resolver.firstPassing manager candidates = .ok none ∧
          failure = .fatal .noAcceptableSuite :=
    selectedCipherSuite_eq_error_iff manager hv
  -- What the reference search finds, by the candidates.
  have hsome := resolver.firstPassing_eq_some_iff manager candidates
  have hnone := resolver.firstPassing_eq_none_iff manager candidates
  have hfail := resolver.firstPassing_eq_error_iff manager candidates
  have hprovider : ∀ failure, resolver.firstPassing manager candidates = .error failure →
      ∃ error, failure = .provider error := by
    intro failure hf
    obtain ⟨suite, -, hs⟩ := (hfail failure).1 hf
    exact Resolver.provider_of_standalone_error hs
  refine ⟨?_, ?_, ?_, ?_, ?_⟩
  · intro suite
    rw [hok suite]
    constructor
    · rintro ⟨credential, hf⟩
      obtain ⟨hr, hs, ha⟩ := (hsome suite credential).1 hf
      exact ⟨hr, ⟨credential, hs⟩, ha⟩
    · rintro ⟨hr, ⟨credential, hs⟩, ha⟩
      exact ⟨credential, (hsome suite credential).2 ⟨hr, hs, ha⟩⟩
  · intro error
    rw [herr, ← hfail]
    simp
  · rw [← hnone]
    constructor
    · rintro ⟨cause, hs, -⟩
      -- A failure of the search is the provider's, so it has no cause of its own.
      rcases (herr _).1 hs with hf | ⟨hf, -⟩
      · obtain ⟨error, he⟩ := hprovider _ hf
        cases he
      · exact hf
    · intro hf
      exact ⟨.noAcceptableSuite, (herr _).2 (Or.inr ⟨hf, rfl⟩), rfl⟩
  · intro suite hs
    obtain ⟨credential, hf⟩ := (hok suite).1 hs
    exact ⟨credential, ((hsome suite credential).1 hf).2.1,
      (selectedCipherSuite_of_found manager hv hf).2⟩
  · intro failure hs
    rcases (herr failure).1 hs with hf | ⟨hf, rfl⟩
    · exact ⟨Or.inr (hprovider failure hf), (selectedCipherSuite_of_failure manager hv hf).2⟩
    · exact ⟨Or.inl rfl, (selectedCipherSuite_of_nothing manager hv hf).2⟩

/-- Two suites of a type without identity, the second one passed over from memory, then a
    refused one, then the selected one, with a credential in the place of the one held. -/
theorem selectedCipherSuite_after_misses_and_veto :
    let suites := [.ecdheRsaWithAes128GcmSha256, .ecdheRsaWithAes128CbcSha,
      .rsaWithAes128GcmSha256, .rsaWithAes128CbcSha]
    let h := { start (.plain suites) with
      version := some .tls12
      credential := some .anonymous }
    let selected := h.selectedCipherSuite (.plain suites [.rsa])
      (.refusing [.rsaWithAes128GcmSha256])
    h.version = some .tls12 ∧ selected.answer = .ok .rsaWithAes128CbcSha ∧
      selected.state = { h with
        credential := some (.decryptor ⟨Identity.plainRsa.chain⟩)
        suite := some .rsaWithAes128CbcSha } := by
  intro suites h selected
  obtain ⟨hanswer, -, -, hstate, -⟩ := selectedCipherSuite_searches_without_memory
    (.plain suites [.rsa]) (.refusing [.rsaWithAes128GcmSha256]) h .tls12 rfl
  have hok : selected.answer = .ok .rsaWithAes128CbcSha := by
    refine (hanswer .rsaWithAes128CbcSha).2
      ⟨⟨[.ecdheRsaWithAes128GcmSha256, .ecdheRsaWithAes128CbcSha, .rsaWithAes128GcmSha256], [],
        by decide, ?_⟩, ⟨_, rfl⟩, rfl⟩
    intro other hm
    simp only [List.mem_cons, List.not_mem_nil, or_false] at hm
    rcases hm with rfl | rfl | rfl
    · exact Or.inl rfl
    · exact Or.inl rfl
    · exact Or.inr ⟨⟨_, rfl⟩, rfl⟩
  obtain ⟨credential, hown, hs⟩ := hstate .rsaWithAes128CbcSha hok
  -- The credential that the suite has on its own can be read here.
  cases hown
  exact ⟨rfl, hok, hs⟩

end Handshake

end TlsHandshake
