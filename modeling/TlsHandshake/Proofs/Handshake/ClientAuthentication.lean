/-
  TlsHandshake.Proofs.Handshake.ClientAuthentication

  Whether a published session is that of an authenticated client.

  A server that needs client authentication judges every certificate message that it
  gets and accepts trusted chains only.  It does not wait for such a message: a handshake
  whose client sends none, or none that is accepted, can be completed all the same.  A
  session is therefore that of an authenticated client exactly if some certificate
  message was accepted before.

    * `Transition.authentication` — what one operation does to the verdict that is kept;
    * `authenticated_or_untouched` — what all of them together do;
    * `session_authenticated_iff` — when the client of a published session is
      authenticated.
-/

import TlsHandshake.Proofs.Handshake.Lifetime

namespace TlsHandshake

namespace Handshake

/-! ## Accepted chains -/

/-- The client's chain, if the operation is a certificate message that was accepted. -/
def acceptedChain? (operation : Operation) (answer : Except Failure Answer) :
    Option (List Certificate) :=
  match operation, answer with
  | .clientCertificate chain, .ok _ => some chain
  | _, _ => none

/-- The chains that were accepted on some occasions, oldest first. -/
def acceptedChains (occasions : List Occasion) (h : Handshake) : List (List Certificate) :=
  ((occasions.map Occasion.operation).zip (h.undergo occasions).answer).filterMap fun taken =>
    acceptedChain? taken.1 taken.2

theorem acceptedChain?_error (operation : Operation) (failure : Failure) :
    acceptedChain? operation (.error failure) = none := by
  cases operation <;> rfl

theorem acceptedChains_cons (occasion : Occasion) (occasions : List Occasion) (h : Handshake) :
    h.acceptedChains (occasion :: occasions) =
      (acceptedChain? occasion.operation (h.meet occasion).answer).toList ++
        (h.meet occasion).state.1.acceptedChains occasions := by
  unfold acceptedChains
  rw [undergo_cons, List.map_cons, List.zip_cons_cons, List.filterMap_cons]
  cases acceptedChain? occasion.operation (h.meet occasion).answer <;> rfl

/-! ## The verdict that is kept -/

/-- The client of the handshake is trusted for the certificates that are kept: on one of
    the occasions the trust store was asked about that very chain, for the type of its
    leaf, and trusted it. -/
def Authenticated (occasions : List Occasion) (events : List Event) (h : Handshake) : Prop :=
  ∃ type, h.clientAuthentication = some (.trusted type) ∧ h.peerCertificates ≠ [] ∧
    .call (.trusts h.peerCertificates type) ∈ events ∧
    ∃ occasion ∈ occasions, Vouches occasion.context h.peerCertificates type

/-- If authentication is needed, a verdict changes only when a trusted chain is accepted,
    which is then kept. -/
theorem Transition.authentication {context : Context} {manager : Manager}
    {rounds : Nat → Round} {h k : Handshake} {operation : Operation}
    {answer : Except Failure Answer}
    (ht : Transition context manager rounds h operation answer k)
    (hneed : context.config.needClientAuth = true) :
    (acceptedChain? operation answer = none ∧
        k.clientAuthentication = h.clientAuthentication ∧
        k.peerCertificates = h.peerCertificates) ∨
      ∃ type, operation = .clientCertificate k.peerCertificates ∧ answer = .ok .done ∧
        h.certificateRequested = true ∧ Vouches context k.peerCertificates type ∧
        k.clientAuthentication = some (.trusted type) := by
  cases ht with
  | clientAbsent hr hn =>
    -- An empty chain is accepted only where authentication is not needed.
    rw [hneed] at hn
    cases hn
  | clientTrusted hr hv => exact Or.inr ⟨_, rfl, rfl, hr, hv, rfl⟩
  | failed => exact Or.inl ⟨acceptedChain?_error .., rfl, rfl⟩
  | bereft => exact Or.inl ⟨acceptedChain?_error .., rfl, rfl⟩
  | _ => exact Or.inl ⟨rfl, rfl, rfl⟩

/-- A chain that can be trusted is shown to the trust store. -/
theorem trusts_mem_events {context : Context} {h : Handshake} {chain : List Certificate}
    {type : ClientCertificateType} (hr : h.certificateRequested = true)
    (hv : Vouches context chain type) :
    .call (.trusts chain type) ∈ (h.clientCertificate context chain).events := by
  obtain ⟨⟨leaf, hleaf, htype⟩, store, hs, ht⟩ := hv
  cases chain with
  | nil => cases hleaf
  | cons first rest =>
    obtain rfl : first = leaf := Option.some.inj hleaf
    have hverify : ClientAuthentication.verify context.config context.trustStore (first :: rest) =
        ⟨.ok (.trusted type), (),
          [.call (.trusts (first :: rest) type), .log (.clientAuthenticated type)]⟩ := by
      simp [ClientAuthentication.verify, htype, hs, ClientAuthentication.askTrust,
        ClientAuthentication.ofTrust, ht]
    rw [clientCertificate, if_pos hr, hverify]
    exact List.mem_cons_self

/-- An occasion leaves the verdict as it was, or accepts a chain by which the client is
    authenticated. -/
theorem authenticated_of_meet (h : Handshake) {occasion : Occasion}
    (hneed : occasion.context.config.needClientAuth = true) :
    let met := h.meet occasion
    (acceptedChain? occasion.operation met.answer = none ∧
        met.state.1.clientAuthentication = h.clientAuthentication ∧
        met.state.1.peerCertificates = h.peerCertificates) ∨
      (acceptedChain? occasion.operation met.answer ≠ none ∧
        Authenticated [occasion] met.events met.state.1) := by
  intro met
  have ht : Transition occasion.context occasion.manager occasion.shared.rounds h
      occasion.operation met.answer met.state.1 := transition_perform ..
  rcases ht.authentication hneed with hkept | ⟨type, ho, ha, hr, hv, hauth⟩
  · exact Or.inl hkept
  · refine Or.inr ⟨?_, type, hauth, ?_, ?_, occasion, List.mem_singleton.2 rfl, hv⟩
    · rw [ho, ha]
      exact Option.some_ne_none _
    · intro hnil
      obtain ⟨leaf, hleaf, -⟩ := hv.leaf
      rw [hnil] at hleaf
      cases hleaf
    · have hasked := trusts_mem_events hr hv
      have hevents : met.events =
          (h.clientCertificate occasion.context met.state.1.peerCertificates).events := by
        show (h.perform occasion.context occasion.manager occasion.operation
          occasion.shared).events = _
        rw [ho]
        rfl
      rw [hevents]
      exact hasked

theorem Authenticated.mono {first second : List Occasion} {earlier later : List Event}
    {h : Handshake} (ha : Authenticated first earlier h) (ho : first ⊆ second)
    (he : earlier ⊆ later) : Authenticated second later h := by
  obtain ⟨type, hauth, hne, hasked, occasion, hmem, hv⟩ := ha
  exact ⟨type, hauth, hne, he hasked, occasion, ho hmem, hv⟩

/-- If authentication is needed, either no chain is accepted and the verdict stays as it
    was, or the client is authenticated in the end. -/
theorem authenticated_or_untouched (occasions : List Occasion) (h : Handshake)
    (hneed : ∀ occasion ∈ occasions, occasion.context.config.needClientAuth = true) :
    let past := h.undergo occasions
    (h.acceptedChains occasions = [] ∧
        past.state.clientAuthentication = h.clientAuthentication ∧
        past.state.peerCertificates = h.peerCertificates) ∨
      (h.acceptedChains occasions ≠ [] ∧ Authenticated occasions past.events past.state) := by
  induction occasions generalizing h with
  | nil => exact Or.inl ⟨rfl, rfl, rfl⟩
  | cons occasion occasions ih =>
    obtain ⟨hfirst, hrest⟩ := List.forall_mem_cons.1 hneed
    have hnow := authenticated_of_meet h hfirst
    have hlater := ih (h.meet occasion).state.1 hrest
    rw [undergo_cons, acceptedChains_cons]
    rcases hlater with ⟨hnone, hauth, hpeer⟩ | ⟨hsome, hauth⟩
    · rcases hnow with ⟨hno, hkeep, hkeepPeer⟩ | ⟨hyes, hdone⟩
      · refine Or.inl ⟨?_, hauth.trans hkeep, hpeer.trans hkeepPeer⟩
        rw [hno, hnone]
        rfl
      · -- Nothing was accepted afterwards, so the verdict of this occasion is the last.
        refine Or.inr ⟨?_, ?_⟩
        · simpa [hnone] using hyes
        · obtain ⟨type, htype, hne, hasked, other, hmem, hv⟩ := hdone
          rw [List.mem_singleton] at hmem
          subst hmem
          rw [← hauth] at htype
          rw [← hpeer] at hne hasked hv
          exact ⟨type, htype, hne, List.mem_append_left _ hasked, other, List.mem_cons_self, hv⟩
    · -- Something was accepted afterwards, and that is what is kept.
      refine Or.inr ⟨?_, ?_⟩
      · simp [hsome]
      · exact hauth.mono (List.subset_cons_self ..) (List.subset_append_right ..)

/-! ## The published session -/

/-- The steps of a negotiation take no certificate message. -/
theorem acceptedChains_negotiation {steps : List Operation}
    (hsteps : steps = [] ∨ steps = negotiationSteps) (context : Context) (manager : Manager)
    (shared : Shared) (h : Handshake) :
    h.acceptedChains (steps.map fun step => ⟨context, manager, shared, step⟩) = [] := by
  unfold acceptedChains
  rw [List.filterMap_eq_nil_iff]
  rintro ⟨operation, answer⟩ hm
  obtain ⟨hmem, -⟩ := List.of_mem_zip hm
  have hstep : operation ∈ negotiationSteps := by
    rcases hsteps with rfl | rfl
    · cases hmem
    · simpa using hmem
  simp only [negotiationSteps, List.mem_cons, List.not_mem_nil, or_false] at hstep
  rcases hstep with rfl | rfl | rfl | rfl <;> rfl

/-- A handshake that is handed out has no verdict yet. -/
theorem untouched_of_opens {server : Server} {manager : Manager} {offer : Offer} {h : Handshake}
    (ho : server.Opens manager offer h)
    (hneed : server.context.config.needClientAuth = true) :
    h.clientAuthentication = none ∧ h.peerCertificates = [] := by
  -- A negotiation accepts no chain, so it leaves the verdict of a new handshake.
  obtain ⟨steps, hsteps, rfl⟩ := undergo_of_opens manager h ho
  have hnone := acceptedChains_negotiation hsteps server.context manager .fresh (start offer)
  have hopening : ∀ occasion ∈ steps.map fun step =>
      (⟨server.context, manager, .fresh, step⟩ : Occasion),
      occasion.context.config.needClientAuth = true := by
    intro occasion hm
    obtain ⟨step, -, rfl⟩ := List.mem_map.1 hm
    exact hneed
  rcases authenticated_or_untouched _ (start offer) hopening with ⟨-, hkept⟩ | ⟨hsome, -⟩
  · exact hkept
  · exact absurd hnone hsome

/-- At a server that needs client authentication, the client of a published session is
    authenticated exactly if a certificate message was accepted before.  Without one the
    session is published all the same, for a client of which nothing is known. -/
theorem session_authenticated_iff {server : Server} {manager : Manager} {offer : Offer}
    {h : Handshake} (ho : server.Opens manager offer h)
    (hneed : server.context.config.needClientAuth = true) (occasions : List Occasion)
    (hconfig : ∀ occasion ∈ occasions, occasion.context.config = server.context.config)
    (last : Occasion) (session : Session)
    (hs : session ∈ Event.sessions ((h.undergo occasions).state.meet last).events) :
    let past := h.undergo occasions
    let now := (past.state.meet last).state.1
    session.peerCertificates = now.peerCertificates ∧
      (Authenticated occasions past.events now ↔ h.acceptedChains occasions ≠ []) ∧
      (h.acceptedChains occasions = [] →
        now.clientAuthentication = none ∧ session.peerCertificates = []) := by
  intro past now
  have hneeds : ∀ occasion ∈ occasions, occasion.context.config.needClientAuth = true := by
    intro occasion hm
    rw [hconfig occasion hm]
    exact hneed
  obtain ⟨hstart, hstartPeer⟩ := untouched_of_opens ho hneed
  -- The completion itself changes neither the verdict nor the certificates.
  have hpublished : ∃ parameters version suite, last.operation = .complete parameters ∧
      past.state.isComplete = false ∧ past.state.version = some version ∧
      past.state.suite = some suite ∧ session = past.state.session parameters version suite := by
    rw [meet, sessions_perform, Option.mem_toList] at hs
    exact (published?_eq_some_iff ..).1 hs
  obtain ⟨parameters, version, suite, hop, hc, hv, hsuite, rfl⟩ := hpublished
  have hnow : now = { past.state with completion := past.state.completion.mark.2 } := by
    show (past.state.perform last.context last.manager last.operation last.shared).state.1 = _
    rw [hop]
    show (past.state.complete last.context last.shared.reported parameters).state = _
    rw [complete_of_ready last.context past.state hc hv hsuite]
  rw [hnow]
  refine ⟨rfl, ?_, ?_⟩
  · rcases authenticated_or_untouched occasions h hneeds with ⟨hnone, hauth, -⟩ | ⟨hsome, hauth⟩
    · refine ⟨?_, fun hne => absurd hnone hne⟩
      rintro ⟨type, htype, -⟩
      rw [hstart] at hauth
      exact absurd (hauth.symm.trans htype) (by simp)
    · exact ⟨fun _ => hsome, fun _ => hauth⟩
  · intro hnone
    rcases authenticated_or_untouched occasions h hneeds with ⟨-, hauth, hpeer⟩ | ⟨hsome, -⟩
    · exact ⟨hauth.trans hstart, hpeer.trans hstartPeer⟩
    · exact absurd hnone hsome

/-- The client of a handshake whose certificate message is accepted is authenticated. -/
theorem session_of_trusted_client :
    let context := Context.demanding [.rsaWithAes128CbcSha]
    let h := (Server.accept (.plain [.rsaWithAes128CbcSha])).state
    let occasions : List Occasion :=
      (negotiationSteps ++ [Operation.clientCertificate Identity.plainRsa.chain]).map fun step =>
        ⟨context, .refusing [], .fresh, step⟩
    let last : Occasion := ⟨context, .refusing [], .fresh, .complete ⟨[1], [2]⟩⟩
    Authenticated occasions (h.undergo occasions).events
      ((h.undergo occasions).state.meet last).state.1 := by
  intro context h occasions last
  have hconfig : ∀ occasion ∈ occasions, occasion.context.config = context.config := by
    intro occasion hm
    obtain ⟨step, -, rfl⟩ := List.mem_map.1 hm
    rfl
  have ho : Server.Opens ⟨context⟩ (.refusing []) (.plain [.rsaWithAes128CbcSha]) h := .accepted
  have hiff := session_authenticated_iff ho rfl occasions hconfig last
    ⟨[1], .tls12, .rsaWithAes128CbcSha, Identity.plainRsa.chain, Identity.plainRsa.chain, [2]⟩
    (by decide +kernel)
  exact hiff.2.1.2 (by decide +kernel)

/-- A client that was asked for a certificate and sends no message gets its session. -/
theorem session_without_certificate :
    let context := Context.demanding [.rsaWithAes128CbcSha]
    let h := (Server.accept (.plain [.rsaWithAes128CbcSha])).state
    let asked := h.undergo (negotiationSteps.map fun step =>
      ⟨context, .refusing [], .fresh, step⟩)
    let now := asked.state.meet ⟨context, .refusing [], .fresh, .complete ⟨[1], [2]⟩⟩
    context.config.needClientAuth = true ∧ asked.state.certificateRequested = true ∧
      (Event.sessions now.events).map Session.peerCertificates = [[]] ∧
      now.state.1.clientAuthentication = none := by
  decide +kernel

end Handshake

end TlsHandshake
