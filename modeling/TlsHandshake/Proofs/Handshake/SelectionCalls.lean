/-
  TlsHandshake.Proofs.Handshake.SelectionCalls

  Whom the selection of a suite calls, and in which order.

  The calls of a selection are those for its candidates, one candidate after the other.  For
  a single candidate they are an inquiry for its credential and, if there is one, a question
  to the manager (`Resolver.Trial`).  The next candidate follows one that was not served or
  was refused, and none follows one that was accepted or for which the provider failed
  (`Resolver.Tour`).

    * `Handshake.trial_selectCipherSuite` and `Handshake.tour_firstUsable` — the steps of a
      handshake make just these calls;
    * `Resolver.Tour.concerns` — every call is for one of the candidates;
    * `Resolver.Tour.consultations` — the manager is asked about some of them, in order;
    * `Resolver.Tour.consulted` — each question follows the calls for the credential, and is
      the last one exactly if the manager accepts;
    * `Resolver.Tour.last_of_failed` — nothing follows a failure of the provider;
    * `Handshake.selection_calls_in_order` — all of it, for a handshake with a version.
-/

import TlsHandshake.Proofs.Handshake.SingleTry

namespace TlsHandshake

namespace Resolver

variable {resolver : Resolver} {manager : Manager} {suite : CipherSuite}
  {suites : List CipherSuite} {version : Version} {calls before after : List Call} {call : Call}
  {error : ProviderError} {usable : Except Failure Bool}

/-! ## The calls for one candidate -/

/-- The calls for one candidate, and whether it can be used. -/
inductive Trial (resolver : Resolver) (manager : Manager) (suite : CipherSuite) :
    List Call → Except Failure Bool → Prop
  | unserved {calls : List Call} (hi : resolver.Inquiry suite calls (.ok none)) :
      Trial resolver manager suite calls (.ok false)
  | failed {calls : List Call} {error : ProviderError}
      (hp : resolver.Procures suite calls (.error error)) :
      Trial resolver manager suite calls (.error (.provider error))
  | judged {calls : List Call} {credential : Credential}
      (hp : resolver.Procures suite calls (.ok credential)) :
      Trial resolver manager suite (calls ++ [.acceptsSuite suite resolver.version])
        (.ok (manager.accepts suite resolver.version))

theorem Trial.concerns (ht : resolver.Trial manager suite calls usable) :
    ∀ call ∈ calls, resolver.Seeks suite call ∨ call = .acceptsSuite suite resolver.version := by
  intro call hc
  cases ht with
  | unserved hi => exact Or.inl (hi.seeks call hc)
  | failed hp => exact Or.inl (hp.seeks call hc)
  | judged hp =>
    rcases List.mem_append.1 hc with hc | hc
    · exact Or.inl (hp.seeks call hc)
    · exact Or.inr (List.mem_singleton.1 hc)

/-- Nothing that serves to find a credential is a question to the manager. -/
theorem filter_of_seeks (hs : ∀ call ∈ calls, resolver.Seeks suite call) :
    calls.filter Call.isConsultation = [] := by
  apply List.filter_eq_nil_iff.2
  intro call hc
  rw [(hs call hc).isConsultation]
  exact Bool.false_ne_true

/-- The manager is asked at most once about one candidate. -/
theorem Trial.consultations (ht : resolver.Trial manager suite calls usable) :
    calls.filter Call.isConsultation = [] ∨
      calls.filter Call.isConsultation = [.acceptsSuite suite resolver.version] := by
  cases ht with
  | unserved hi => exact Or.inl (filter_of_seeks hi.seeks)
  | failed hp => exact Or.inl (filter_of_seeks hp.seeks)
  | judged hp =>
    rw [List.filter_append, filter_of_seeks hp.seeks]
    exact Or.inr rfl

/-- A question to the manager is the last call for the candidate.  The calls before it are
    those by which the credential was had, and what the manager says is what comes of the
    candidate. -/
theorem Trial.consulted (ht : resolver.Trial manager suite calls usable) {asked : CipherSuite}
    (hsplit : calls = before ++ .acceptsSuite asked version :: after) :
    asked = suite ∧ version = resolver.version ∧ after = [] ∧
      (∃ credential, resolver.Procures suite before (.ok credential)) ∧
      usable = .ok (manager.accepts suite resolver.version) := by
  have hmem : .acceptsSuite asked version ∈ calls := by
    rw [hsplit]
    exact List.mem_append_cons_self
  cases ht with
  -- Without a credential the manager is not asked at all.
  | unserved hi => cases (hi.seeks _ hmem).isConsultation
  | failed hp => cases (hp.seeks _ hmem).isConsultation
  | @judged calls credential hp =>
    rcases split_concat hsplit with ⟨rest, hcalls⟩ | ⟨rfl, hcall, rfl⟩
    · -- The question is not among the calls for the credential.
      have hearlier : .acceptsSuite asked version ∈ calls := by
        rw [hcalls]
        exact List.mem_append_cons_self
      cases (hp.seeks _ hearlier).isConsultation
    · obtain ⟨rfl, rfl⟩ := Call.acceptsSuite.inj hcall
      exact ⟨rfl, rfl, rfl, ⟨credential, hp⟩, rfl⟩

/-- An order that fails is the last call for the candidate, whose trial fails with it. -/
theorem Trial.last_of_failed (ht : resolver.Trial manager suite calls usable)
    (hsplit : calls = before ++ call :: after)
    (hc : resolver.provider.construct? call = some (.error error)) :
    after = [] ∧ usable = .error (.provider error) := by
  cases ht with
  | unserved hi =>
    obtain ⟨-, hanswer⟩ := hi.last_of_failed hsplit hc
    cases hanswer
  | failed hp =>
    obtain ⟨hafter, hanswer⟩ := hp.last_of_failed hsplit hc
    obtain rfl := Except.error.inj hanswer
    exact ⟨hafter, rfl⟩
  | judged hp =>
    rcases split_concat hsplit with ⟨rest, hcalls⟩ | ⟨-, rfl, -⟩
    · obtain ⟨-, hanswer⟩ := hp.last_of_failed hcalls hc
      cases hanswer
    · cases hc

/-! ## The calls for all of them -/

/-- The calls for some candidates, tried in turn, and the one that is found. -/
inductive Tour (resolver : Resolver) (manager : Manager) :
    List CipherSuite → List Call → Except Failure (Option CipherSuite) → Prop
  | ended : Tour resolver manager [] [] (.ok none)
  | passed {suite : CipherSuite} {suites : List CipherSuite} {calls rest : List Call}
      {answer : Except Failure (Option CipherSuite)}
      (ht : resolver.Trial manager suite calls (.ok false))
      (hr : Tour resolver manager suites rest answer) :
      Tour resolver manager (suite :: suites) (calls ++ rest) answer
  | found {suite : CipherSuite} {suites : List CipherSuite} {calls : List Call}
      (ht : resolver.Trial manager suite calls (.ok true)) :
      Tour resolver manager (suite :: suites) calls (.ok (some suite))
  | broken {suite : CipherSuite} {suites : List CipherSuite} {calls : List Call}
      {failure : Failure} (ht : resolver.Trial manager suite calls (.error failure)) :
      Tour resolver manager (suite :: suites) calls (.error failure)

variable {answer : Except Failure (Option CipherSuite)}

/-- Every call is for one of the candidates. -/
theorem Tour.concerns (ht : resolver.Tour manager suites calls answer) :
    ∀ call ∈ calls, ∃ suite ∈ suites,
      resolver.Seeks suite call ∨ call = .acceptsSuite suite resolver.version := by
  induction ht with
  | ended =>
    intro call hc
    cases hc
  | passed ht hr ih =>
    intro call hc
    rcases List.mem_append.1 hc with hc | hc
    · exact ⟨_, List.mem_cons_self, ht.concerns call hc⟩
    · obtain ⟨suite, hm, hcall⟩ := ih call hc
      exact ⟨suite, List.mem_cons_of_mem _ hm, hcall⟩
  | found ht | broken ht =>
    intro call hc
    exact ⟨_, List.mem_cons_self, ht.concerns call hc⟩

/-- The questions to the manager are about some of the candidates, in their order. -/
def AsksInOrder (resolver : Resolver) (suites : List CipherSuite) (calls : List Call) : Prop :=
  ∃ asked : List CipherSuite, asked.Sublist suites ∧
    calls.filter Call.isConsultation = asked.map fun suite => .acceptsSuite suite resolver.version

/-- Questions about one candidate, and then some about the others. -/
theorem AsksInOrder.cons (ht : resolver.Trial manager suite calls usable) {rest : List Call}
    (hr : resolver.AsksInOrder suites rest) :
    resolver.AsksInOrder (suite :: suites) (calls ++ rest) := by
  obtain ⟨asked, hsub, hrest⟩ := hr
  rcases ht.consultations with hnone | hone
  · refine ⟨asked, hsub.cons suite, ?_⟩
    rw [List.filter_append, hnone, hrest, List.nil_append]
  · refine ⟨suite :: asked, hsub.cons_cons suite, ?_⟩
    rw [List.filter_append, hone, hrest]
    rfl

theorem Tour.consultations (ht : resolver.Tour manager suites calls answer) :
    resolver.AsksInOrder suites calls := by
  have hnobody : ∀ suites, resolver.AsksInOrder suites [] :=
    fun suites => ⟨[], List.nil_sublist suites, rfl⟩
  induction ht with
  | ended => exact hnobody []
  | passed ht hr ih => exact AsksInOrder.cons ht ih
  | @found _ suites _ ht | @broken _ suites _ _ ht =>
    -- The candidates that are left over are not asked about.
    have hmore := AsksInOrder.cons ht (hnobody suites)
    rw [List.append_nil] at hmore
    exact hmore

/-- If a candidate is found, the last call is the question about it, and the manager
    accepts it. -/
theorem Tour.last_of_found (ht : resolver.Tour manager suites calls (.ok (some suite))) :
    manager.accepts suite resolver.version = true ∧
      ∃ earlier, calls = earlier ++ [.acceptsSuite suite resolver.version] := by
  -- Only the answer of the whole search is fixed, as it is that of every rest of it.
  generalize hanswer : (.ok (some suite) : Except Failure (Option CipherSuite)) = answer at ht
  induction ht with
  | ended => cases hanswer
  | @passed _ _ calls rest _ _ _ ih =>
    obtain ⟨haccepts, earlier, hrest⟩ := ih hanswer
    refine ⟨haccepts, calls ++ earlier, ?_⟩
    rw [hrest, List.append_assoc]
  | found ht =>
    obtain rfl : suite = _ := Option.some.inj (Except.ok.inj hanswer)
    generalize hyes : (.ok true : Except Failure Bool) = usable at ht
    cases ht with
    | unserved => cases hyes
    | failed => cases hyes
    | @judged earlier _ _ => exact ⟨(Except.ok.inj hyes).symm, earlier, rfl⟩
  | broken => cases hanswer

/-- A question to the manager follows the calls by which the candidate's credential was had,
    and the manager accepts exactly if the question is the last call and its candidate is
    found. -/
structure Consulted (resolver : Resolver) (manager : Manager) (before : List Call)
    (asked : CipherSuite) (after : List Call) (wins : Prop) : Prop where
  obtained : ∃ earlier procuring credential, before = earlier ++ procuring ∧
    resolver.Procures asked procuring (.ok credential)
  accepts_iff : manager.accepts asked resolver.version = true ↔ after = [] ∧ wins

/-- What was called for candidates before does not matter. -/
theorem Consulted.prepend {asked : CipherSuite} {wins : Prop}
    (hc : resolver.Consulted manager before asked after wins) (calls : List Call) :
    resolver.Consulted manager (calls ++ before) asked after wins := by
  obtain ⟨⟨earlier, procuring, credential, rfl, hp⟩, hiff⟩ := hc
  refine ⟨⟨calls ++ earlier, procuring, credential, ?_, hp⟩, hiff⟩
  rw [List.append_assoc]

theorem Tour.consulted (ht : resolver.Tour manager suites calls answer) {asked : CipherSuite}
    (hsplit : calls = before ++ .acceptsSuite asked version :: after) :
    version = resolver.version ∧
      resolver.Consulted manager before asked after (answer = .ok (some asked)) := by
  induction ht generalizing before with
  | ended => exact absurd hsplit.symm (by simp)
  | @passed suite suites calls rest answer ht hr ih =>
    rcases split_append hsplit with ⟨others, hcalls, hafter⟩ | ⟨more, rfl, hrest⟩
    · obtain ⟨rfl, rfl, rfl, ⟨credential, hp⟩, hno⟩ := ht.consulted hcalls
      refine ⟨rfl, ⟨[], before, credential, rfl, hp⟩, ?_⟩
      -- The manager refused this candidate; if another is found, its question comes later.
      have hrefused : manager.accepts asked resolver.version = false :=
        (Except.ok.inj hno).symm
      rw [hrefused, hafter]
      constructor
      · intro hyes
        cases hyes
      · rintro ⟨hnone, rfl⟩
        obtain ⟨haccepts, -⟩ := hr.last_of_found
        rw [hrefused] at haccepts
        cases haccepts
    · obtain ⟨hversion, hconsulted⟩ := ih hrest
      exact ⟨hversion, hconsulted.prepend calls⟩
  | found ht =>
    obtain ⟨rfl, rfl, rfl, ⟨credential, hp⟩, hyes⟩ := ht.consulted hsplit
    have haccepts : manager.accepts asked resolver.version = true := (Except.ok.inj hyes).symm
    exact ⟨rfl, ⟨[], before, credential, rfl, hp⟩, fun _ => ⟨rfl, rfl⟩, fun _ => haccepts⟩
  | broken ht =>
    obtain ⟨-, -, -, -, hanswer⟩ := ht.consulted hsplit
    cases hanswer

/-- An order that fails is the last call of all, and its error is the answer. -/
theorem Tour.last_of_failed (ht : resolver.Tour manager suites calls answer)
    (hsplit : calls = before ++ call :: after)
    (hc : resolver.provider.construct? call = some (.error error)) :
    after = [] ∧ answer = .error (.provider error) := by
  induction ht generalizing before with
  | ended => exact absurd hsplit.symm (by simp)
  | passed ht hr ih =>
    rcases split_append hsplit with ⟨others, hcalls, -⟩ | ⟨more, -, hrest⟩
    · -- A candidate for which the provider fails is not passed over.
      obtain ⟨-, hanswer⟩ := ht.last_of_failed hcalls hc
      cases hanswer
    · exact ih hrest
  | found ht =>
    obtain ⟨-, hanswer⟩ := ht.last_of_failed hsplit hc
    cases hanswer
  | broken ht =>
    obtain ⟨hafter, hanswer⟩ := ht.last_of_failed hsplit hc
    obtain rfl := Except.error.inj hanswer
    exact ⟨hafter, rfl⟩

end Resolver

namespace Handshake

variable {context : Context} {manager : Manager} {h : Handshake} {version : Version}

/-! ## The calls of a handshake -/

/-- Trying a suite makes the calls of a trial. -/
theorem trial_selectCipherSuite (context : Context) (manager : Manager)
    (hv : h.version = some version) (suite : CipherSuite) (round : Round) :
    let tried := h.selectCipherSuite context manager suite round
    (h.resolver context version).Trial manager suite (Event.calls tried.events) tried.answer := by
  intro tried
  have hlooked := h.leaves_selectCredentials context suite round
  rw [found_of_version hv] at hlooked
  have hinquiry := (h.resolver context version).inquiry_resolve suite round
  simp only [← calls_selectCredentials hv] at hinquiry
  -- The manager is asked in the last case only; in the others the search is the whole try.
  rcases hr : ((h.resolver context version).resolve suite round).answer with
    failure | (_ | credential)
  · rw [hr] at hlooked hinquiry
    have hanswer : (h.selectCredentials context suite round).answer = .error failure :=
      hlooked.answer
    have htried : tried = h.selectCredentials context suite round :=
      selectCipherSuite_of_not_found (by simp [hanswer])
    rw [htried, hanswer]
    obtain ⟨error, rfl, hp⟩ := hinquiry.procures_of_error
    exact .failed hp
  · rw [hr] at hlooked hinquiry
    have hanswer : (h.selectCredentials context suite round).answer = .ok false :=
      hlooked.answer
    have htried : tried = h.selectCredentials context suite round :=
      selectCipherSuite_of_not_found (by simp [hanswer])
    rw [htried, hanswer]
    exact .unserved hinquiry
  · rw [hr] at hlooked hinquiry
    have hanswer : (h.selectCredentials context suite round).answer = .ok true :=
      hlooked.answer
    obtain ⟨htried, hasked⟩ := consultation_of_found manager hv hanswer
    rw [htried, hasked]
    exact .judged hinquiry.procures

/-- A search makes the calls of a tour of the suites. -/
theorem tour_firstUsable (context : Context) (manager : Manager)
    (hv : h.version = some version) (suites : List CipherSuite) (round : Round) :
    let search := firstUsable context manager suites round h
    (h.resolver context version).Tour manager suites (Event.calls search.events)
      search.answer := by
  -- The handshake changes its credential on the way, which the resolver does not read.
  induction suites generalizing h round with
  | nil => exact .ended
  | cons suite suites ih =>
    have htrial := trial_selectCipherSuite context manager hv suite round
    have hframe := h.selectCipherSuite_frame context manager suite round
    rw [firstUsable]
    generalize h.selectCipherSuite context manager suite round = tried at htrial hframe ⊢
    obtain ⟨answer, ⟨reached, left⟩, events⟩ := tried
    obtain ⟨credential, rfl⟩ : ∃ credential, reached = h.withCredential credential :=
      ⟨reached.credential, hframe⟩
    rcases answer with failure | (_ | _)
    · exact .broken htrial
    · have hrest := ih (h := h.withCredential credential) hv left
      show Resolver.Tour _ manager _ (Event.calls (events ++ _)) _
      rw [Event.calls_append]
      exact .passed htrial hrest
    · show Resolver.Tour _ manager _ (Event.calls (events ++ [])) _
      rw [List.append_nil]
      exact .found htrial

section Conclude

variable {search : Attempt (Handshake × Round) (Option CipherSuite)}

/-- The end of a search calls nobody. -/
theorem calls_conclude : Event.calls (conclude search).events = Event.calls search.events := by
  unfold conclude
  cases ha : search.answer with
  | error failure =>
    rw [Outcome.andThen_of_error ha]
    rfl
  | ok found =>
    rw [Outcome.andThen_of_ok ha]
    show Event.calls (search.events ++ Outcome.events _) = _
    rw [Event.calls_append]
    -- Either way there is one more notice, which is no call.
    cases found <;> exact List.append_nil _

/-- It answers with the suite that was found. -/
theorem conclude_answer_eq_ok_iff {suite : CipherSuite} :
    (conclude search).answer = .ok suite ↔ search.answer = .ok (some suite) := by
  rcases ha : search.answer with failure | (_ | found)
  · simp [(conclude_of_error ha).1]
  · simp [(conclude_of_none ha).1]
  · simp [(conclude_of_some ha).1]

end Conclude

/-- The last version of each family allows none of the suites, so none is worth trying. -/
theorem candidates_of_tls13 (context : Context) (h : Handshake)
    (hv : version = .tls13 ∨ version = .dtls13) : h.candidates context version = [] := by
  apply List.eq_nil_iff_forall_not_mem.2
  intro suite hm
  obtain ⟨-, -, hvalid, -⟩ := (mem_candidates_iff context version h suite).1 hm
  obtain ⟨htls, hdtls⟩ := CipherSuite.ne_tls13_of_isValidAt hvalid
  rcases hv with rfl | rfl
  · exact htls rfl
  · exact hdtls rfl

/-- Whom a selection calls.  Candidates are the supported suites, in the server's order, that
    the client offered, that the version allows and whose curve can be negotiated.

    Every call is for a candidate: it serves to find its credential, or asks the manager
    about it.  The questions to the manager are all at the version of the handshake and about
    candidates in their order, so that there is at most one for each place in the server's
    list.  Right before each of them the candidate's credential was had.  The manager accepts
    if and only if the question is the last call and its suite is selected; and a suite is
    selected only after such a question.  An order to the provider that fails is the last
    call, and its error is the answer.  At TLS 1.3 and DTLS 1.3 nobody is called, and the
    handshake must end with `handshake_failure`. -/
theorem selection_calls_in_order (context : Context) (manager : Manager) (h : Handshake)
    (version : Version) (hv : h.version = some version) :
    let resolver := h.resolver context version
    let candidates := context.supportedSuites.filter fun suite =>
      h.offer.offers suite && suite.isValidAt version &&
        decide (suite.minimumCurveBits ≤ (h.curveChoice context).maxBits)
    let selected := h.selectedCipherSuite context manager
    let calls := Event.calls selected.events
    candidates.Sublist context.config.suites ∧
    (∀ call ∈ calls, ∃ suite ∈ candidates,
      resolver.Seeks suite call ∨ call = .acceptsSuite suite version) ∧
    (∀ auth, .chooseAlias auth ∈ calls → ∃ suite ∈ candidates,
      suite.keyExchange = .certified auth) ∧
    (∃ asked : List CipherSuite, asked.Sublist candidates ∧
      calls.filter Call.isConsultation = asked.map fun suite => .acceptsSuite suite version) ∧
    (∀ before asked time after, calls = before ++ .acceptsSuite asked time :: after →
      time = version ∧
      (∃ earlier procuring credential, before = earlier ++ procuring ∧
        resolver.Procures asked procuring (.ok credential)) ∧
      (manager.accepts asked version = true ↔ after = [] ∧ selected.answer = .ok asked)) ∧
    (∀ suite, selected.answer = .ok suite →
      ∃ earlier, calls = earlier ++ [.acceptsSuite suite version]) ∧
    (∀ before call after error, calls = before ++ call :: after →
      context.provider.construct? call = some (.error error) →
      after = [] ∧ selected.answer = .error (.provider error)) ∧
    (version = .tls13 ∨ version = .dtls13 → calls = [] ∧
      ∃ failure, selected.answer = .error failure ∧
        failure.alert? = some .handshakeFailure) := by
  intro resolver candidates selected calls
  let search := firstUsable context manager candidates .fresh h
  have hselected : selected = conclude search := by
    simp only [selected, selectedCipherSuite, hv]
    rfl
  have hcalls : calls = Event.calls search.events := by
    simp only [calls, hselected, calls_conclude]
  have hanswer : ∀ suite, selected.answer = .ok suite ↔ search.answer = .ok (some suite) := by
    intro suite
    rw [hselected]
    exact conclude_answer_eq_ok_iff
  have htour : resolver.Tour manager candidates calls search.answer := by
    rw [hcalls]
    exact tour_firstUsable context manager hv candidates .fresh
  have hconcerns : ∀ call ∈ calls, ∃ suite ∈ candidates,
      resolver.Seeks suite call ∨ call = .acceptsSuite suite version := htour.concerns
  refine ⟨?_, hconcerns, ?_, htour.consultations, ?_, ?_, ?_, ?_⟩
  · -- Candidates and supported suites are both what is left of a longer list.
    have hsupported : context.supportedSuites.Sublist context.config.suites :=
      List.filter_sublist
    exact List.filter_sublist.trans hsupported
  · intro auth hc
    obtain ⟨suite, hm, hseeks | hasked⟩ := hconcerns _ hc
    · exact ⟨suite, hm, hseeks.keyExchange⟩
    · cases hasked
  · intro before asked time after hsplit
    obtain ⟨htime, hobtained, haccepts⟩ := htour.consulted hsplit
    rw [hanswer asked]
    exact ⟨htime, hobtained, haccepts⟩
  · intro suite hs
    have hfound := (hanswer suite).1 hs
    rw [hfound] at htour
    exact htour.last_of_found.2
  · intro before call after error hsplit hc
    obtain ⟨hafter, hfailed⟩ := htour.last_of_failed hsplit hc
    rw [hselected]
    exact ⟨hafter, (conclude_of_error hfailed).1⟩
  · intro htls13
    have hnone : candidates = [] := candidates_of_tls13 context h htls13
    have hsearch : search = ⟨.ok none, (h, .fresh), []⟩ := by
      simp only [search, hnone, firstUsable]
    rw [hcalls, hselected, hsearch]
    exact ⟨rfl, _, rfl, rfl⟩

/-- A type without identity, asked for once and then passed over from memory, a suite that is
    refused, and the one that is selected: two questions, the second at the end. -/
theorem selection_calls_with_miss_and_veto :
    let suites := [.ecdheRsaWithAes128GcmSha256, .ecdheRsaWithAes128CbcSha,
      .rsaWithAes128GcmSha256, .rsaWithAes128CbcSha]
    let h := { start (.plain suites) with version := some .tls12 }
    let selected := h.selectedCipherSuite (.plain suites [.rsa])
      (.refusing [.rsaWithAes128GcmSha256])
    let calls := Event.calls selected.events
    h.version = some .tls12 ∧
      (calls.filter Call.isConsultation = [.acceptsSuite .rsaWithAes128GcmSha256 .tls12,
        .acceptsSuite .rsaWithAes128CbcSha .tls12]) ∧
      ∃ earlier, calls = earlier ++ [.acceptsSuite .rsaWithAes128CbcSha .tls12] := by
  intro suites h selected calls
  obtain ⟨-, -, -, -, -, hlast, -⟩ := selection_calls_in_order (.plain suites [.rsa])
    (.refusing [.rsaWithAes128GcmSha256]) h .tls12 rfl
  refine ⟨rfl, by decide +kernel, hlast .rsaWithAes128CbcSha ?_⟩
  decide +kernel

end Handshake

end TlsHandshake
