/-
  TlsHandshake.Proofs.Handshake.Stability

  What a handshake has settled does not move.

  A version and a suite can be asked for again at any time, and asking runs the negotiation
  again where nothing has been settled.  The answer is always the same, since it is made from
  things that no operation changes: the version from the offer and the policy alone, and the
  suite from these and a version that is fixed.  The credential that a handshake holds, and
  what the rounds of single tries have recorded, do not enter.

    * `Transition.serverVersion_answer` — no operation changes what asking for the version
      would answer;
    * `Transition.selectedCipherSuite_answer` — nor, once there is a version, what asking for
      the suite would;
    * `Transition.settled` — a suite that was selected stays, since selecting again finds it;
    * `negotiated_values_stay` — all of it, from any state on.
-/

import TlsHandshake.Proofs.Handshake.Completion

namespace TlsHandshake

namespace Handshake

variable {context : Context} {manager : Manager} {rounds : Nat → Round} {h k : Handshake}
  {operation : Operation} {answer : Except Failure Answer} {version : Version}

/-! ## The version -/

theorem Transition.sameOffer (ht : Transition context manager rounds h operation answer k) :
    k.offer = h.offer := by
  cases ht <;> rfl

/-- A version that is fixed stays. -/
theorem Transition.version_stays (ht : Transition context manager rounds h operation answer k)
    (hv : h.version = some version) : k.version = some version := by
  cases ht with
  | versionFixed hnone =>
    rw [hv] at hnone
    cases hnone
  | _ => exact hv

theorem serverVersion_of_some (hv : h.version = some version) :
    h.serverVersion context = ⟨.ok version, h, []⟩ := by
  simp only [serverVersion, hv]

theorem serverVersion_answer_of_none (hv : h.version = none) :
    (h.serverVersion context).answer =
      (negotiateVersion context.config.protocols h.offer.version).answer := by
  simp only [serverVersion, hv, adoptVersion]
  cases hn : (negotiateVersion context.config.protocols h.offer.version).answer with
  | error failure => exact hn
  | ok version => exact hn

/-- No operation changes what asking for the version answers. -/
theorem Transition.serverVersion_answer
    (ht : Transition context manager rounds h operation answer k) :
    (k.serverVersion context).answer = (h.serverVersion context).answer := by
  cases hv : h.version with
  | some version =>
    rw [serverVersion_of_some hv, serverVersion_of_some (ht.version_stays hv)]
  | none =>
    rw [serverVersion_answer_of_none hv]
    cases ht with
    | versionFixed _ hs =>
      -- The version that is now fixed is the one that negotiating finds.
      simp only [serverVersion, negotiateVersion, hs]
    | versionKept hsome | suiteSelected hsome | credentialTried hsome | suiteTried hsome
      | completed _ hsome =>
      rw [hv] at hsome
      cases hsome
    | _ => exact serverVersion_answer_of_none hv

/-! ## The suite -/

/-- What selecting a suite answers depends on the version and the offer alone. -/
theorem selectedCipherSuite_answer_congr (hv : h.version = some version)
    (kv : k.version = some version) (ho : k.offer = h.offer) :
    (k.selectedCipherSuite context manager).answer =
      (h.selectedCipherSuite context manager).answer := by
  have hresolver := resolver_of_sameOffer context version ho
  have hcandidates := candidates_of_sameOffer context version ho
  rcases hf : (h.resolver context version).firstPassing manager (h.candidates context version) with
    failure | (_ | ⟨suite, credential⟩)
  · rw [(selectedCipherSuite_of_failure manager hv hf).1]
    rw [← hresolver, ← hcandidates] at hf
    exact (selectedCipherSuite_of_failure manager kv hf).1
  · rw [(selectedCipherSuite_of_nothing manager hv hf).1]
    rw [← hresolver, ← hcandidates] at hf
    exact (selectedCipherSuite_of_nothing manager kv hf).1
  · rw [(selectedCipherSuite_of_found manager hv hf).1]
    rw [← hresolver, ← hcandidates] at hf
    exact (selectedCipherSuite_of_found manager kv hf).1

/-- Once there is a version, no operation changes what selecting a suite answers. -/
theorem Transition.selectedCipherSuite_answer
    (ht : Transition context manager rounds h operation answer k)
    (hv : h.version = some version) :
    (k.selectedCipherSuite context manager).answer =
      (h.selectedCipherSuite context manager).answer :=
  selectedCipherSuite_answer_congr hv (ht.version_stays hv) ht.sameOffer

/-- The handshake has this suite, and selecting again would find it. -/
structure Settled (context : Context) (manager : Manager) (suite : CipherSuite)
    (h : Handshake) : Prop where
  held : h.suite = some suite
  fixed : h.version ≠ none
  again : (h.selectedCipherSuite context manager).answer = .ok suite

/-- A suite that is settled stays: only a selection sets a suite, and it finds the same. -/
theorem Transition.settled {suite : CipherSuite}
    (ht : Transition context manager rounds h operation answer k)
    (hh : Settled context manager suite h) : Settled context manager suite k := by
  obtain ⟨hheld, hfixed, hagain⟩ := hh
  obtain ⟨version, hv⟩ := Option.ne_none_iff_exists'.1 hfixed
  have hkv := ht.version_stays hv
  refine ⟨?_, by simp [hkv], (ht.selectedCipherSuite_answer hv).trans hagain⟩
  cases ht with
  | suiteSelected hversion hf =>
    have hfound := (selectedCipherSuite_of_found manager hversion hf).1
    rw [hagain] at hfound
    exact congrArg some (Except.ok.inj hfound).symm
  | _ => exact hheld

/-! ## The flags -/

/-- A client that was asked for a certificate has been asked. -/
theorem Transition.certificateRequested_stays
    (ht : Transition context manager rounds h operation answer k)
    (hr : h.certificateRequested = true) : k.certificateRequested = true := by
  cases ht with
  | requestMade =>
    show (h.certificateRequested || _) = true
    rw [hr, Bool.true_or]
  | _ => exact hr

/-! ## From one operation to all of them -/

section Lifetime

variable {occasions : List Occasion}

theorem version_undergo (hv : h.version = some version) (occasions : List Occasion) :
    (h.undergo occasions).state.version = some version := by
  refine undergo_invariant (Q := fun _ => True) (P := fun k => k.version = some version) ?_
    (fun _ _ => trivial) hv
  intro k occasion _ hk
  exact (k.transition_meet occasion).version_stays hk

theorem offer_undergo (h : Handshake) (occasions : List Occasion) :
    (h.undergo occasions).state.offer = h.offer := by
  refine undergo_invariant (Q := fun _ => True) (P := fun k => k.offer = h.offer) ?_
    (fun _ _ => trivial) rfl
  intro k occasion _ hk
  exact (k.transition_meet occasion).sameOffer.trans hk

theorem certificateRequested_undergo (hr : h.certificateRequested = true)
    (occasions : List Occasion) : (h.undergo occasions).state.certificateRequested = true := by
  refine undergo_invariant (Q := fun _ => True) (P := fun k => k.certificateRequested = true) ?_
    (fun _ _ => trivial) hr
  intro k occasion _ hk
  exact (k.transition_meet occasion).certificateRequested_stays hk

variable (hsame : ∀ occasion ∈ occasions,
  occasion.context = context ∧ occasion.manager = manager)

include hsame

theorem serverVersion_answer_undergo (h : Handshake) :
    ((h.undergo occasions).state.serverVersion context).answer =
      (h.serverVersion context).answer := by
  refine undergo_invariant
    (P := fun k => (k.serverVersion context).answer = (h.serverVersion context).answer) ?_ hsame rfl
  rintro k occasion ⟨rfl, -⟩ hk
  exact (k.transition_meet occasion).serverVersion_answer.trans hk

theorem settled_undergo {suite : CipherSuite} (hh : Settled context manager suite h) :
    Settled context manager suite (h.undergo occasions).state := by
  refine undergo_invariant (P := Settled context manager suite) ?_ hsame hh
  rintro k occasion ⟨rfl, rfl⟩ hk
  exact (k.transition_meet occasion).settled hk

end Lifetime

/-- Selecting again at any later time answers the same. -/
theorem selectedCipherSuite_answer_undergo (hv : h.version = some version)
    (occasions : List Occasion) :
    ((h.undergo occasions).state.selectedCipherSuite context manager).answer =
      (h.selectedCipherSuite context manager).answer :=
  selectedCipherSuite_answer_congr hv (version_undergo hv occasions) (offer_undergo h occasions)

/-- A suite is selected only for a version, and is then settled. -/
theorem settled_of_selected {suite : CipherSuite}
    (hs : (h.selectedCipherSuite context manager).answer = .ok suite) :
    Settled context manager suite (h.selectedCipherSuite context manager).state := by
  cases hv : h.version with
  | none => simp [selectedCipherSuite, hv] at hs
  | some version =>
    obtain ⟨credential, hf⟩ := (selectedCipherSuite_eq_ok_iff manager hv suite).1 hs
    have hstate := (selectedCipherSuite_of_found manager hv hf).2
    have hagain :
        (((h.withCredential (some credential)).withSuite suite).selectedCipherSuite context
          manager).answer = (h.selectedCipherSuite context manager).answer :=
      selectedCipherSuite_answer_congr hv hv rfl
    rw [hstate]
    exact ⟨rfl, by simp [withSuite, withCredential, hv], hagain.trans hs⟩

/-! ## Asking again -/

section Asking

variable {occasion : Occasion}

theorem meet_of_serverVersion (ho : occasion.operation = .serverVersion) (h : Handshake) :
    h.meet occasion =
      outsideRounds occasion.shared ((h.serverVersion occasion.context).mapOk .version) :=
  meet_eq_perform ho h

theorem meet_serverVersion_answer (ho : occasion.operation = .serverVersion) (h : Handshake) :
    (h.meet occasion).answer = (h.serverVersion occasion.context).answer.map .version := by
  rw [meet_of_serverVersion ho]
  rfl

theorem meet_selectedCipherSuite_answer (ho : occasion.operation = .selectedCipherSuite)
    (h : Handshake) :
    (h.meet occasion).answer =
      (h.selectedCipherSuite occasion.context occasion.manager).answer.map .suite := by
  rw [meet_of_selectedCipherSuite ho]
  rfl

/-- A version that is answered is fixed. -/
theorem version_meet (ho : occasion.operation = .serverVersion)
    (ha : (h.meet occasion).answer = .ok (.version version)) :
    (h.meet occasion).state.1.version = some version := by
  have ht := h.transition_meet occasion
  rw [ho, ha] at ht
  generalize (h.meet occasion).state.1 = k at ht
  cases ht with
  | versionKept hv => exact hv
  | versionFixed => rfl

/-- A version that is not found leaves everything as it was. -/
theorem meet_serverVersion_of_error (ho : occasion.operation = .serverVersion)
    {failure : Failure} (ha : (h.meet occasion).answer = .error failure) :
    (h.meet occasion).state = (h, occasion.shared) := by
  have hkept : occasion.shared.record [] = occasion.shared := Shared.record_of_sessions_nil rfl
  rw [meet_serverVersion_answer ho] at ha
  rw [meet_of_serverVersion ho]
  cases hv : h.version with
  | some version =>
    rw [serverVersion_of_some hv] at ha
    cases ha
  | none =>
    cases hs : selectVersion? occasion.context.config.protocols h.offer.version with
    | some version =>
      rw [serverVersion_answer_of_none hv, negotiateVersion, hs] at ha
      cases ha
    | none =>
      simp only [serverVersion, hv, adoptVersion, negotiateVersion, hs]
      show (h, occasion.shared.record []) = _
      rw [hkept]

/-- A suite that is answered is settled. -/
theorem settled_meet {suite : CipherSuite} (ho : occasion.operation = .selectedCipherSuite)
    (ha : (h.meet occasion).answer = .ok (.suite suite)) :
    Settled occasion.context occasion.manager suite (h.meet occasion).state.1 := by
  rw [meet_selectedCipherSuite_answer ho] at ha
  rw [meet_of_selectedCipherSuite ho]
  cases hs : (h.selectedCipherSuite occasion.context occasion.manager).answer with
  | error failure => simp [hs, Except.map] at ha
  | ok selected =>
    obtain rfl : selected = suite := by simpa [hs, Except.map] using ha
    exact settled_of_selected hs

end Asking

/-- What a handshake has settled does not move.  `first` is asked of a handshake in any state,
    then come `later` occasions of any kind and on any rounds, and then `last`.

    A version that was answered stays, and asking again answers the same, a failure as well; a
    failure to find one leaves everything as it was.  A suite that was selected stays, and is
    selected again; if the selection failed for a handshake with a version, it fails in the same
    way.  Neither the certificate request nor the completion is forgotten. -/
theorem negotiated_values_stay {context : Context} {manager : Manager} (h : Handshake)
    (first : Occasion) (later : List Occasion) (last : Occasion)
    (hsame : ∀ occasion ∈ first :: later ++ [last],
      occasion.context = context ∧ occasion.manager = manager) :
    let now := h.meet first
    let lived := (now.state.1.undergo later).state
    let again := lived.meet last
    (first.operation = .serverVersion →
      (∀ version, now.answer = .ok (.version version) → lived.version = some version) ∧
      (∀ failure, now.answer = .error failure → now.state = (h, first.shared)) ∧
      (last.operation = .serverVersion → again.answer = now.answer)) ∧
    (first.operation = .selectedCipherSuite →
      (∀ suite, now.answer = .ok (.suite suite) → lived.suite = some suite ∧
        (last.operation = .selectedCipherSuite → again.answer = .ok (.suite suite))) ∧
      (∀ failure, now.answer = .error failure → h.version ≠ none →
        last.operation = .selectedCipherSuite → again.answer = .error failure)) ∧
    (h.certificateRequested = true → lived.certificateRequested = true) ∧
    (h.isComplete = true → lived.isComplete = true) := by
  intro now lived again
  obtain ⟨⟨hfc, hfm⟩, hrest⟩ := List.forall_mem_cons.1 hsame
  obtain ⟨hlater, hlast⟩ := List.forall_mem_append.1 hrest
  obtain ⟨hlc, hlm⟩ := hlast last List.mem_cons_self
  -- The first occasion is one transition; `later` is dealt with by the lemmas on runs.
  have hmoved : Transition context manager first.shared.rounds h first.operation now.answer
      now.state.1 := by
    rw [← hfc, ← hfm]
    exact h.transition_meet first
  refine ⟨?_, ?_, ?_, ?_⟩
  · intro ho
    refine ⟨?_, ?_, ?_⟩
    · intro version ha
      exact version_undergo (version_meet ho ha) later
    · intro failure ha
      exact meet_serverVersion_of_error ho ha
    · -- Back from the last occasion to the first: no stretch between them changes the answer.
      intro hl
      calc again.answer
          = (lived.serverVersion context).answer.map .version := by
            rw [← hlc]
            exact meet_serverVersion_answer hl lived
        _ = (now.state.1.serverVersion context).answer.map .version := by
            rw [serverVersion_answer_undergo hlater]
        _ = (h.serverVersion context).answer.map .version := by
            rw [hmoved.serverVersion_answer]
        _ = now.answer := by
            rw [← hfc]
            exact (meet_serverVersion_answer ho h).symm
  · intro ho
    have hagain : last.operation = .selectedCipherSuite →
        again.answer = (lived.selectedCipherSuite context manager).answer.map .suite := by
      intro hl
      rw [← hlc, ← hlm]
      exact meet_selectedCipherSuite_answer hl lived
    refine ⟨?_, ?_⟩
    · intro suite ha
      have hnow : Settled context manager suite now.state.1 := by
        rw [← hfc, ← hfm]
        exact settled_meet ho ha
      have hlived := settled_undergo hlater hnow
      refine ⟨hlived.held, ?_⟩
      intro hl
      rw [hagain hl, hlived.again]
      rfl
    · -- A failure leaves no suite to go by, so it is the selection itself that must not change.
      intro failure ha hversion hl
      obtain ⟨version, hv⟩ := Option.ne_none_iff_exists'.1 hversion
      calc again.answer
          = (lived.selectedCipherSuite context manager).answer.map .suite := hagain hl
        _ = (now.state.1.selectedCipherSuite context manager).answer.map .suite := by
            rw [selectedCipherSuite_answer_undergo (hmoved.version_stays hv) later]
        _ = (h.selectedCipherSuite context manager).answer.map .suite := by
            rw [hmoved.selectedCipherSuite_answer hv]
        _ = now.answer := by
            rw [← hfc, ← hfm]
            exact (meet_selectedCipherSuite_answer ho h).symm
        _ = .error failure := ha
  · intro hr
    exact certificateRequested_undergo (hmoved.certificateRequested_stays hr) later
  · intro hc
    exact isComplete_undergo (isComplete_meet_of_isComplete hc first) later

/-- A suite is selected again after single tries of another suite in two rounds, a completion
    and an alert have passed over the handshake. -/
theorem negotiated_values_stay_after_tries :
    let suites := [CipherSuite.rsaWithAes128CbcSha, .ecdheRsaWithAes128GcmSha256]
    let context := Context.plain suites [.rsa]
    let h : Handshake := { start (.plain suites) with version := some .tls12 }
    let on := fun operation => (⟨context, .refusing [], .fresh, operation⟩ : Occasion)
    let steps := [Operation.selectCredentials 0 .ecdheRsaWithAes128GcmSha256,
      .selectCipherSuite 1 .ecdheRsaWithAes128GcmSha256, .complete ⟨[1], [2]⟩,
      .alertReceived ⟨.fatal, .internalError⟩]
    let lived := ((h.meet (on .selectedCipherSuite)).state.1.undergo (steps.map on)).state
    lived.credential = none ∧ lived.suite = some .rsaWithAes128CbcSha ∧
      (lived.meet (on .selectedCipherSuite)).answer = .ok (.suite .rsaWithAes128CbcSha) := by
  intro suites context h on steps lived
  have hsame := surroundings_of_mem context (.refusing []) .fresh
    (.selectedCipherSuite :: steps ++ [.selectedCipherSuite])
  obtain ⟨-, hsuite, -⟩ := negotiated_values_stay h (on .selectedCipherSuite) (steps.map on)
    (on .selectedCipherSuite) hsame
  obtain ⟨hheld, hagain⟩ := (hsuite rfl).1 .rsaWithAes128CbcSha (by decide +kernel)
  exact ⟨by decide +kernel, hheld, hagain rfl⟩

end Handshake

end TlsHandshake
