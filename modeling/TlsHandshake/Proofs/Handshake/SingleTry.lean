/-
  TlsHandshake.Proofs.Handshake.SingleTry

  What trying a single suite leaves of a handshake, whatever the handshake held before.

  A try has many ends: the version may be missing, the key store may hold nothing that fits,
  a scheme may be missing, the provider may fail, and the manager may refuse the suite.  All
  of them but one take the credential away, and none of them changes anything else.

    * `Handshake.found` and `Handshake.permits` — what the search for a suite finds, and
      what the manager would say, also of a handshake without a version;
    * `Handshake.ReplacesCredential` — the handshake holds a credential of the suite's kind
      if the answer is yes, none otherwise, and is as before in everything else;
    * `Handshake.replacesCredential_of_leaves` — so it is after any try that leaves what was
      found;
    * `Handshake.consultation_of_found` — the manager is asked once, and only after a
      credential was found;
    * `Handshake.single_try_replaces_credential` — all of it, for both ways to try a suite.
-/

import TlsHandshake.Proofs.Handshake.LiveCredential
import TlsHandshake.Proofs.Negotiation.Inquiry

namespace TlsHandshake

/-- The search for a suite finds no credential of another kind. -/
theorem Resolver.serves_of_resolve {resolver : Resolver} {suite : CipherSuite} {round : Round}
    {credential : Credential}
    (hr : (resolver.resolve suite round).answer = .ok (some credential)) :
    credential.serves suite.keyExchange = true := by
  have hinquiry : resolver.Inquiry suite (Event.calls (resolver.resolve suite round).events)
      (.ok (some credential)) := hr ▸ resolver.inquiry_resolve suite round
  exact hinquiry.procures.serves

namespace Handshake

variable {context : Context} {manager : Manager} {suite : CipherSuite} {round : Round}
  {h : Handshake} {version : Version} {credential : Credential}

/-! ## What is found, and what the manager says -/

/-- What the search for a suite finds; without a version it fails. -/
def found (context : Context) (suite : CipherSuite) (round : Round) (h : Handshake) :
    Except Failure (Option Credential) :=
  match h.version with
  | none => .error (.fatal .versionNotNegotiated)
  | some version => ((h.resolver context version).resolve suite round).answer

/-- The handshake has a version, and the manager accepts the suite at it. -/
def permits (manager : Manager) (suite : CipherSuite) (h : Handshake) : Bool :=
  h.version.any (manager.accepts suite)

theorem found_of_version (hv : h.version = some version) :
    h.found context suite round =
      ((h.resolver context version).resolve suite round).answer := by
  unfold found
  rw [hv]

theorem found_eq_some_iff :
    h.found context suite round = .ok (some credential) ↔
      ∃ version, h.version = some version ∧
        ((h.resolver context version).resolve suite round).answer = .ok (some credential) := by
  unfold found
  cases h.version <;> simp

theorem serves_of_found (hf : h.found context suite round = .ok (some credential)) :
    credential.serves suite.keyExchange = true := by
  obtain ⟨version, -, hr⟩ := found_eq_some_iff.1 hf
  exact Resolver.serves_of_resolve hr

theorem permits_of_version (hv : h.version = some version) :
    h.permits manager suite = manager.accepts suite version := by
  unfold permits
  rw [hv]
  rfl

theorem permits_iff :
    h.permits manager suite = true ↔
      ∃ version, h.version = some version ∧ manager.accepts suite version = true :=
  Option.any_eq_true ..

/-! ## How a try leaves a handshake -/

/-- After a try for a suite the handshake holds a credential of the suite's kind exactly if
    the answer is that the suite can be used, and holds none otherwise, whatever it held
    before; nothing else of it has changed. -/
structure ReplacesCredential (h : Handshake) (suite : CipherSuite)
    (attempt : Attempt (Handshake × Round) Bool) : Prop where
  held_iff : (∃ credential, attempt.state.1.credential = some credential ∧
    credential.serves suite.keyExchange = true) ↔ attempt.answer = .ok true
  bereft : attempt.answer ≠ .ok true → attempt.state.1.credential = none
  frame : SameButCredential h attempt.state.1

/-- The try leaves what was found, and tells whether anything was. -/
structure Leaves (h : Handshake) (result : Except Failure (Option Credential))
    (attempt : Attempt (Handshake × Round) Bool) : Prop where
  answer : attempt.answer = result.map Option.isSome
  state : attempt.state.1 = h.withCredential result.toOption.join

variable {attempt : Attempt (Handshake × Round) Bool}
  {result : Except Failure (Option Credential)}

/-- What the handshake holds afterwards is what was found. -/
theorem Leaves.credential_iff (hl : h.Leaves result attempt) :
    attempt.state.1.credential = some credential ↔ result = .ok (some credential) := by
  have hheld : attempt.state.1.credential = result.toOption.join := by
    rw [hl.state]
    rfl
  rw [hheld]
  rcases result with failure | (_ | own) <;> simp [Except.toOption]

theorem Leaves.answer_iff (hl : h.Leaves result attempt) :
    attempt.answer = .ok true ↔ ∃ credential, result = .ok (some credential) := by
  rw [hl.answer]
  rcases result with failure | (_ | own) <;> simp [Except.map]

/-- If only credentials of the suite's kind are found, they replace what was held. -/
theorem replacesCredential_of_leaves (hl : h.Leaves result attempt)
    (hserves : ∀ credential, result = .ok (some credential) →
      credential.serves suite.keyExchange = true) :
    h.ReplacesCredential suite attempt := by
  refine ⟨?_, ?_, ?_⟩
  · rw [hl.answer_iff]
    constructor
    · rintro ⟨credential, hheld, -⟩
      exact ⟨credential, hl.credential_iff.1 hheld⟩
    · rintro ⟨credential, hr⟩
      exact ⟨credential, hl.credential_iff.2 hr, hserves credential hr⟩
  · intro hno
    cases hheld : attempt.state.1.credential with
    | none => rfl
    | some credential =>
      -- A credential that is held was found, and then the answer is yes.
      have hyes : attempt.answer = .ok true :=
        hl.answer_iff.2 ⟨credential, hl.credential_iff.1 hheld⟩
      exact absurd hyes hno
  · rw [hl.state]
    exact sameButCredential_withCredential h _

/-! ## The two ways to try a suite -/

theorem leaves_selectCredentials (context : Context) (suite : CipherSuite) (round : Round)
    (h : Handshake) :
    h.Leaves (h.found context suite round) (h.selectCredentials context suite round) := by
  cases hv : h.version with
  | none =>
    -- The credential is gone before the version is found to be missing.
    have hlooked : h.selectCredentials context suite round =
        ⟨.error (.fatal .versionNotNegotiated), (h.withCredential none, round), []⟩ := by
      simp only [selectCredentials, hv]
    have hfound : h.found context suite round = .error (.fatal .versionNotNegotiated) := by
      simp only [found, hv]
    rw [hlooked, hfound]
    exact ⟨rfl, rfl⟩
  | some version =>
    rw [found_of_version hv]
    refine ⟨?_, selectCredentials_state hv suite round⟩
    simp only [selectCredentials, hv, adopt]
    cases ((h.resolver context version).resolve suite round).answer <;> rfl

/-- The calls of the search for a credential are those of the resolver. -/
theorem calls_selectCredentials (hv : h.version = some version) :
    Event.calls (h.selectCredentials context suite round).events =
      Event.calls ((h.resolver context version).resolve suite round).events := by
  simp only [selectCredentials, hv, adopt_events]

/-- Nobody asks the manager before a credential is there. -/
theorem isConsultation_of_mem_selectCredentials {call : Call}
    (hc : call ∈ Event.calls (h.selectCredentials context suite round).events) :
    call.isConsultation = false := by
  cases hv : h.version with
  | none =>
    simp only [selectCredentials, hv] at hc
    cases hc
  | some version =>
    rw [calls_selectCredentials hv] at hc
    have hinquiry := (h.resolver context version).inquiry_resolve suite round
    exact (hinquiry.seeks call hc).isConsultation

/-- If no credential was found, the manager is left alone and the try ends there. -/
theorem selectCipherSuite_of_not_found
    (hno : (h.selectCredentials context suite round).answer ≠ .ok true) :
    h.selectCipherSuite context manager suite round =
      h.selectCredentials context suite round := by
  unfold selectCipherSuite consult
  cases h.version with
  | none => rfl
  | some version =>
    rcases ha : (h.selectCredentials context suite round).answer with failure | (_ | _)
    · rfl
    · rfl
    · exact absurd ha hno

/-- If one was found, the manager is asked about the suite, last, and its word is the
    answer. -/
theorem consultation_of_found (manager : Manager) (hv : h.version = some version)
    (hyes : (h.selectCredentials context suite round).answer = .ok true) :
    let looked := h.selectCredentials context suite round
    let tried := h.selectCipherSuite context manager suite round
    tried.answer = .ok (manager.accepts suite version) ∧
      Event.calls tried.events =
        Event.calls looked.events ++ [.acceptsSuite suite version] := by
  intro looked tried
  have htried : tried = consult manager suite version looked := by
    simp only [tried, selectCipherSuite, hv]
    rfl
  rw [htried, consult, show looked.answer = .ok true from hyes]
  cases ha : manager.accepts suite version with
  | true => exact ⟨hyes, Event.calls_append ..⟩
  | false => exact ⟨rfl, Event.calls_append ..⟩

/-- What is left after the manager's word is what was found, if the word is yes. -/
theorem vetted_eq_some_iff {permitted : Bool} :
    result.map (Option.filter fun _ => permitted) = .ok (some credential) ↔
      result = .ok (some credential) ∧ permitted = true := by
  rcases result with failure | (_ | own)
  · simp [Except.map]
  · simp [Except.map]
  · simp [Except.map]

theorem leaves_selectCipherSuite (context : Context) (manager : Manager) (suite : CipherSuite)
    (round : Round) (h : Handshake) :
    h.Leaves ((h.found context suite round).map (Option.filter fun _ => h.permits manager suite))
      (h.selectCipherSuite context manager suite round) := by
  have hlooked := h.leaves_selectCredentials context suite round
  by_cases hyes : (h.selectCredentials context suite round).answer = .ok true
  · obtain ⟨credential, hf⟩ := hlooked.answer_iff.1 hyes
    obtain ⟨version, hv, hr⟩ := found_eq_some_iff.1 hf
    obtain ⟨hanswer, -⟩ := consultation_of_found manager hv hyes
    rw [hf, permits_of_version hv]
    refine ⟨?_, ?_⟩
    · rw [hanswer]
      cases manager.accepts suite version <;> rfl
    · rw [selectCipherSuite_state hv, hr]
      rfl
  · -- Without a credential there is nothing for the manager to take away.
    have hsame : (h.found context suite round).map
        (Option.filter fun _ => h.permits manager suite) = h.found context suite round := by
      rcases hf : h.found context suite round with failure | (_ | credential)
      · rfl
      · rfl
      · exact absurd (hlooked.answer_iff.2 ⟨credential, hf⟩) hyes
    rw [selectCipherSuite_of_not_found hyes, hsame]
    exact hlooked

/-! ## All of it -/

/-- Trying a suite replaces the credential of the handshake and nothing else, in whatever
    state the handshake is and whatever the round has recorded.

    Looking for credentials ends with a credential of the suite's kind if the answer is yes,
    and with none if it is no or a failure.  So does trying the suite, which goes on to ask
    the manager if and only if a credential was found: about this suite, at the version of
    the handshake, after all other calls.  The manager's word is the answer then, and the
    credential stays if the suite is accepted. -/
theorem single_try_replaces_credential (context : Context) (manager : Manager)
    (suite : CipherSuite) (round : Round) (h : Handshake) :
    let looked := h.selectCredentials context suite round
    let tried := h.selectCipherSuite context manager suite round
    h.ReplacesCredential suite looked ∧
    h.ReplacesCredential suite tried ∧
    (∀ credential, looked.state.1.credential = some credential ↔
      ∃ version, h.version = some version ∧
        ((h.resolver context version).resolve suite round).answer = .ok (some credential)) ∧
    (∀ credential, tried.state.1.credential = some credential ↔
      looked.state.1.credential = some credential ∧
        ∃ version, h.version = some version ∧ manager.accepts suite version = true) ∧
    (∀ call ∈ Event.calls looked.events, call.isConsultation = false) ∧
    (looked.answer ≠ .ok true → tried = looked) ∧
    (looked.answer = .ok true → ∃ version, h.version = some version ∧
      Event.calls tried.events = Event.calls looked.events ++ [.acceptsSuite suite version] ∧
      tried.answer = .ok (manager.accepts suite version)) ∧
    (tried.answer = .ok true ↔ ∃ version, h.version = some version ∧
      .acceptsSuite suite version ∈ Event.calls tried.events ∧
      manager.accepts suite version = true) := by
  intro looked tried
  have hlooked : h.Leaves (h.found context suite round) looked :=
    h.leaves_selectCredentials context suite round
  have htried : h.Leaves
      ((h.found context suite round).map (Option.filter fun _ => h.permits manager suite))
      tried := h.leaves_selectCipherSuite context manager suite round
  have hquiet : ∀ call ∈ Event.calls looked.events, call.isConsultation = false :=
    fun _ hc => isConsultation_of_mem_selectCredentials hc
  have hends : looked.answer ≠ .ok true → tried = looked := selectCipherSuite_of_not_found
  -- What was found comes with a version, at which the manager is then asked.
  have hasks : looked.answer = .ok true → ∃ version, h.version = some version ∧
      Event.calls tried.events = Event.calls looked.events ++ [.acceptsSuite suite version] ∧
      tried.answer = .ok (manager.accepts suite version) := by
    intro hyes
    obtain ⟨credential, hf⟩ := hlooked.answer_iff.1 hyes
    obtain ⟨version, hv, -⟩ := found_eq_some_iff.1 hf
    obtain ⟨hanswer, hcalls⟩ := consultation_of_found manager hv hyes
    exact ⟨version, hv, hcalls, hanswer⟩
  refine ⟨?_, ?_, ?_, ?_, hquiet, hends, hasks, ?_⟩
  · apply replacesCredential_of_leaves hlooked
    intro credential hf
    exact serves_of_found hf
  · apply replacesCredential_of_leaves htried
    intro credential hf
    exact serves_of_found (vetted_eq_some_iff.1 hf).1
  · intro credential
    rw [hlooked.credential_iff, found_eq_some_iff]
  · intro credential
    rw [htried.credential_iff, hlooked.credential_iff, vetted_eq_some_iff, permits_iff]
  · constructor
    · intro hyes
      have hfound : looked.answer = .ok true := by
        by_contra hno
        rw [hends hno] at hyes
        exact hno hyes
      obtain ⟨version, hv, hcalls, hanswer⟩ := hasks hfound
      have haccepts : manager.accepts suite version = true :=
        Except.ok.inj (hanswer.symm.trans hyes)
      refine ⟨version, hv, ?_, haccepts⟩
      rw [hcalls]
      exact List.mem_append_cons_self
    · rintro ⟨version, hv, hmem, haccepts⟩
      have hfound : looked.answer = .ok true := by
        by_contra hno
        rw [hends hno] at hmem
        cases hquiet _ hmem
      obtain ⟨fixed, hfixed, -, hanswer⟩ := hasks hfound
      obtain rfl : fixed = version := Option.some.inj (hfixed.symm.trans hv)
      rw [hanswer, haccepts]

/-- A handshake that holds a credential tries a suite that can be served and that the manager
    refuses, and is left without any. -/
theorem single_try_of_refused_suite :
    let context := Context.plain [.rsaWithAes128CbcSha] [.rsa]
    let manager := Manager.refusing [.rsaWithAes128CbcSha]
    let h : Handshake :=
      { start (.plain [.rsaWithAes128CbcSha]) with
        version := some .tls12, credential := some .anonymous }
    let tried := h.selectCipherSuite context manager .rsaWithAes128CbcSha .fresh
    (h.selectCredentials context .rsaWithAes128CbcSha .fresh).answer = .ok true ∧
      tried.answer = .ok false ∧ tried.state.1.credential = none := by
  intro context manager h tried
  obtain ⟨-, hreplaces, -, -, -, -, hasks, -⟩ :=
    single_try_replaces_credential context manager .rsaWithAes128CbcSha .fresh h
  have hfound : (h.selectCredentials context .rsaWithAes128CbcSha .fresh).answer = .ok true := by
    decide +kernel
  obtain ⟨version, hv, -, hanswer⟩ := hasks hfound
  obtain rfl : Version.tls12 = version := Option.some.inj hv
  have hrefused : tried.answer = .ok false := hanswer
  have hno : tried.answer ≠ .ok true := by
    rw [hrefused]
    decide
  exact ⟨hfound, hrefused, hreplaces.bereft hno⟩

end Handshake

end TlsHandshake
