/-
  TlsHandshake.Proofs.Handshake.PeerCertificates

  Which certificates a handshake keeps of its client, and for which verdict.

  A client may send more than one certificate message.  The verdict is always that on the
  message that was accepted last.  The certificates are those of the last accepted message
  that had any: an empty message, accepted by a server that can do without, changes the
  verdict to `unauthenticated` and leaves the certificates of an earlier one in place.  The
  two agree unless an empty message comes last after one that was not empty, and the
  session is published with what is left.

    * `lastShown` — the certificates that are kept of some accepted chains;
    * `ClientRecord` — what is kept of the client, by the accepted chains;
    * `ClientRecord.meet`, `ClientRecord.undergo` — every operation, and all of them
      together, keep this record;
    * `peerCertificates_agree_iff` — when the certificates and the verdict agree.
-/

import TlsHandshake.Proofs.Handshake.ClientAuthentication

namespace TlsHandshake

/-! ## The last chain that has a certificate -/

/-- The last of some chains that is not empty; the empty one if there is no other. -/
def lastShown (chains : List (List Certificate)) : List Certificate :=
  (chains.filter fun chain => !chain.isEmpty).getLast?.getD []

theorem lastShown_concat_nil (chains : List (List Certificate)) :
    lastShown (chains ++ [[]]) = lastShown chains := by
  simp [lastShown]

theorem lastShown_concat (chains : List (List Certificate)) {chain : List Certificate}
    (hne : chain ≠ []) : lastShown (chains ++ [chain]) = chain := by
  have hshown : (!chain.isEmpty) = true := by simpa using hne
  have hkept : [chain].filter (fun chain => !chain.isEmpty) = [chain] := by simp [hshown]
  rw [lastShown, List.filter_append, hkept, List.getLast?_concat]
  rfl

theorem lastShown_eq_nil_iff (chains : List (List Certificate)) :
    lastShown chains = [] ↔ ∀ chain ∈ chains, chain = [] := by
  constructor
  · intro hnil
    by_contra hsome
    simp only [not_forall] at hsome
    obtain ⟨shown, hmem, hne⟩ := hsome
    -- The filtered list is not empty, and its last member is not the empty chain.
    have hfiltered : shown ∈ chains.filter fun chain => !chain.isEmpty :=
      List.mem_filter.2 ⟨hmem, by simpa using hne⟩
    have hlast := List.getLast?_eq_some_getLast (List.ne_nil_of_mem hfiltered)
    have hkept := (List.mem_filter.1 (List.mem_of_getLast? hlast)).2
    rw [lastShown, hlast, Option.getD_some] at hnil
    rw [hnil] at hkept
    cases hkept
  · intro hall
    have hnone : (chains.filter fun chain => !chain.isEmpty) = [] := by
      rw [List.filter_eq_nil_iff]
      intro chain hm
      simp [hall chain hm]
    rw [lastShown, hnone]
    rfl

/-- Of a chain that is vouched for there is a leaf. -/
theorem Vouches.ne_nil {context : Context} {chain : List Certificate}
    {type : ClientCertificateType} (hv : Vouches context chain type) : chain ≠ [] := by
  obtain ⟨leaf, hleaf, -⟩ := hv.leaf
  rintro rfl
  cases hleaf

namespace Handshake

variable {h : Handshake}

/-! ## What is kept of the client -/

/-- The client is trusted for the chain that is kept, which was sent on one of the
    occasions and vouched for on it. -/
def TrustedOn (occasions : List Occasion) (h : Handshake) (type : ClientCertificateType) : Prop :=
  h.clientAuthentication = some (.trusted type) ∧
    ∃ occasion ∈ occasions, occasion.operation = .clientCertificate h.peerCertificates ∧
      Vouches occasion.context h.peerCertificates type

/-- What the handshake keeps of its client after these occasions, on which these chains were
    accepted. -/
structure ClientRecord (occasions : List Occasion) (accepted : List (List Certificate))
    (h : Handshake) : Prop where
  chain : h.peerCertificates = lastShown accepted
  /-- Nothing accepted, an empty chain last, or a trusted chain last. -/
  verdict : (accepted = [] ∧ h.clientAuthentication = none) ∨
    (accepted.getLast? = some [] ∧ h.clientAuthentication = some .unauthenticated) ∨
    (accepted.getLast? = some h.peerCertificates ∧ ∃ type, h.TrustedOn occasions type)

theorem clientRecord_start (offer : Offer) : ClientRecord [] [] (start offer) where
  chain := rfl
  verdict := Or.inl ⟨rfl, rfl⟩

theorem TrustedOn.mono {first second : List Occasion} {type : ClientCertificateType}
    (ht : h.TrustedOn first type) (hsub : first ⊆ second) : h.TrustedOn second type := by
  obtain ⟨hauth, occasion, hmem, hv⟩ := ht
  exact ⟨hauth, occasion, hsub hmem, hv⟩

/-- What an operation does to the record: nothing, unless it accepts a chain. -/
theorem Transition.client {context : Context} {manager : Manager} {rounds : Nat → Round}
    {k : Handshake} {operation : Operation} {answer : Except Failure Answer}
    (ht : Transition context manager rounds h operation answer k) :
    (acceptedChain? operation answer = none ∧
        k.clientAuthentication = h.clientAuthentication ∧
        k.peerCertificates = h.peerCertificates) ∨
      (acceptedChain? operation answer = some [] ∧ context.config.needClientAuth = false ∧
        k.clientAuthentication = some .unauthenticated ∧
        k.peerCertificates = h.peerCertificates) ∨
      (acceptedChain? operation answer = some k.peerCertificates ∧
        operation = .clientCertificate k.peerCertificates ∧
        ∃ type, k.clientAuthentication = some (.trusted type) ∧
          Vouches context k.peerCertificates type) := by
  cases ht with
  | clientAbsent _ hn => exact Or.inr (Or.inl ⟨rfl, hn, rfl, rfl⟩)
  | clientTrusted _ hv => exact Or.inr (Or.inr ⟨rfl, rfl, _, rfl, hv⟩)
  | failed => exact Or.inl ⟨acceptedChain?_error .., rfl, rfl⟩
  | bereft => exact Or.inl ⟨acceptedChain?_error .., rfl, rfl⟩
  | _ => exact Or.inl ⟨rfl, rfl, rfl⟩

/-- One more occasion keeps the record. -/
theorem ClientRecord.meet {occasions : List Occasion} {accepted : List (List Certificate)}
    (hr : ClientRecord occasions accepted h) (occasion : Occasion) :
    ClientRecord (occasions ++ [occasion])
      (accepted ++ (acceptedChain? occasion.operation (h.meet occasion).answer).toList)
      (h.meet occasion).state.1 := by
  rcases (h.transition_meet occasion).client with ⟨hno, hauth, hpeer⟩ | ⟨hempty, -, hauth, hpeer⟩ |
    ⟨hchain, hop, type, hauth, hv⟩
  · -- Nothing is accepted, and nothing changes.
    rw [hno, Option.toList_none, List.append_nil]
    refine ⟨hpeer.trans hr.chain, ?_⟩
    rcases hr.verdict with ⟨hnone, hkept⟩ | ⟨hlast, hkept⟩ | ⟨hlast, type, htrusted⟩
    · exact Or.inl ⟨hnone, hauth.trans hkept⟩
    · exact Or.inr (Or.inl ⟨hlast, hauth.trans hkept⟩)
    · refine Or.inr (Or.inr ⟨hlast.trans (congrArg some hpeer.symm), type, ?_⟩)
      obtain ⟨hkept, other, hmem, hsent⟩ := htrusted.mono (List.subset_append_left ..)
      rw [← hpeer] at hsent
      exact ⟨hauth.trans hkept, other, hmem, hsent⟩
  · -- An empty chain: the verdict changes, the certificates stay.
    rw [hempty, Option.toList_some]
    refine ⟨?_, Or.inr (Or.inl ⟨List.getLast?_concat .., hauth⟩)⟩
    rw [hpeer, lastShown_concat_nil]
    exact hr.chain
  · -- A trusted chain replaces both.
    rw [hchain, Option.toList_some]
    refine ⟨(lastShown_concat _ hv.ne_nil).symm, Or.inr (Or.inr ⟨List.getLast?_concat .., ?_⟩)⟩
    exact ⟨type, hauth, occasion, List.mem_append_right _ (List.mem_singleton.2 rfl), hop, hv⟩

/-- All the occasions together keep it. -/
theorem ClientRecord.undergo {past : List Occasion} {accepted : List (List Certificate)}
    (hr : ClientRecord past accepted h) (occasions : List Occasion) :
    ClientRecord (past ++ occasions) (accepted ++ h.acceptedChains occasions)
      (h.undergo occasions).state := by
  induction occasions generalizing h past accepted with
  | nil =>
    have hnone : h.acceptedChains [] = [] := rfl
    rw [List.append_nil, hnone, List.append_nil]
    exact hr
  | cons occasion occasions ih =>
    have hlater := ih (hr.meet occasion)
    rw [List.append_assoc, List.append_assoc, ← acceptedChains_cons] at hlater
    exact hlater

/-- A handshake that is handed out keeps nothing of its client. -/
theorem clientRecord_of_opens {server : Server} {manager : Manager} {offer : Offer}
    (ho : server.Opens manager offer h) : ClientRecord [] [] h := by
  obtain ⟨steps, hsteps, rfl⟩ := undergo_of_opens manager h ho
  have hrecord := (clientRecord_start offer).undergo
    (steps.map fun step => ⟨server.context, manager, .fresh, step⟩)
  rw [acceptedChains_negotiation hsteps] at hrecord
  refine ⟨hrecord.chain, ?_⟩
  rcases hrecord.verdict with ⟨-, hnone⟩ | ⟨hlast, -⟩ | ⟨hlast, -⟩
  · exact Or.inl ⟨rfl, hnone⟩
  · cases hlast
  · cases hlast

/-! ## When the two agree -/

section Record

variable {occasions : List Occasion} {accepted : List (List Certificate)}

/-- The verdict denies trust exactly if the chain that was accepted last is empty. -/
theorem ClientRecord.unauthenticated_iff (hr : ClientRecord occasions accepted h) :
    h.clientAuthentication = some .unauthenticated ↔ accepted.getLast? = some [] := by
  rcases hr.verdict with ⟨hnone, hauth⟩ | ⟨hlast, hauth⟩ | ⟨hlast, type, hauth, _, -, -, hv⟩
  · simp [hnone, hauth]
  · simp [hlast, hauth]
  · simp [hlast, hauth, hv.ne_nil]

/-- The client is trusted exactly if the chain that was accepted last is not empty. -/
theorem ClientRecord.trusted_iff (hr : ClientRecord occasions accepted h) :
    (∃ type, h.clientAuthentication = some (.trusted type)) ↔
      ∃ chain, accepted.getLast? = some chain ∧ chain ≠ [] := by
  rcases hr.verdict with ⟨hnone, hauth⟩ | ⟨hlast, hauth⟩ | ⟨hlast, type, hauth, _, -, -, hv⟩
  · simp [hnone, hauth]
  · simp [hlast, hauth]
  · simp [hlast, hauth, hv.ne_nil]

theorem ClientRecord.trustedOn (hr : ClientRecord occasions accepted h)
    {type : ClientCertificateType} (hauth : h.clientAuthentication = some (.trusted type)) :
    h.TrustedOn occasions type := by
  rcases hr.verdict with ⟨-, hnone⟩ | ⟨-, hdenied⟩ | ⟨-, other, htrusted⟩
  · rw [hnone] at hauth
    cases hauth
  · rw [hdenied] at hauth
    cases hauth
  · have hsame := htrusted.1
    rw [hauth] at hsame
    cases hsame
    exact htrusted

/-- There are certificates of the client exactly if the verdict is that it is trusted. -/
def RecordsAgree (h : Handshake) : Prop :=
  h.peerCertificates ≠ [] ↔ ∃ type, h.clientAuthentication = some (.trusted type)

/-- The record agrees exactly if no empty chain came last after one that was not empty. -/
theorem ClientRecord.agree_iff (hr : ClientRecord occasions accepted h) :
    h.RecordsAgree ↔ (accepted.getLast? = some [] → ∀ chain ∈ accepted, chain = []) := by
  unfold RecordsAgree
  rw [hr.trusted_iff, ne_eq, hr.chain, lastShown_eq_nil_iff]
  cases hlast : accepted.getLast? with
  | none =>
    have hnone : accepted = [] := List.getLast?_eq_none_iff.1 hlast
    simp [hnone]
  | some chain =>
    by_cases hempty : chain = []
    · simp [hempty]
    · -- The last chain itself is one that was kept.
      have hkept : ¬ ∀ chain ∈ accepted, chain = [] := by
        intro hall
        exact hempty (hall chain (List.mem_of_getLast? hlast))
      simp [hempty, hkept]

end Record

/-- Where authentication is needed, no empty chain is accepted. -/
theorem ne_nil_of_mem_acceptedChains {occasions : List Occasion}
    (hneed : ∀ occasion ∈ occasions, occasion.context.config.needClientAuth = true) :
    ∀ chain ∈ h.acceptedChains occasions, chain ≠ [] := by
  induction occasions generalizing h with
  | nil =>
    intro chain hm
    cases hm
  | cons occasion occasions ih =>
    obtain ⟨hfirst, hrest⟩ := List.forall_mem_cons.1 hneed
    intro chain hm
    rw [acceptedChains_cons, List.mem_append, Option.mem_toList] at hm
    rcases hm with hnow | hlater
    · rcases (h.transition_meet occasion).client with ⟨hno, -⟩ | ⟨-, hn, -⟩ |
        ⟨hchain, -, type, -, hv⟩
      · rw [hno] at hnow
        cases hnow
      · rw [hfirst] at hn
        cases hn
      · obtain rfl := Option.some.inj (hchain.symm.trans hnow)
        exact hv.ne_nil
    · exact ih hrest chain hlater

/-- What a handshake that was handed out keeps of its client, whatever is done to it.

    The certificates are those of the last accepted message that had any, and there is a
    trusted verdict exactly if the message that was accepted last is one that had some.  The
    two agree unless an empty message was accepted last after one that was not empty, which
    cannot happen where authentication is needed.  A trusted verdict names the type of the
    kept leaf, and the trust store vouched for the kept chain.  A session is published with
    the kept certificates, also for a client whose verdict denies trust. -/
theorem peerCertificates_agree_iff {server : Server} {manager : Manager} {offer : Offer}
    {h : Handshake} (ho : server.Opens manager offer h) (occasions : List Occasion) :
    let accepted := h.acceptedChains occasions
    let lived := h.undergo occasions
    lived.state.peerCertificates = lastShown accepted ∧
    ((∃ type, lived.state.clientAuthentication = some (.trusted type)) ↔
      ∃ chain, accepted.getLast? = some chain ∧ chain ≠ []) ∧
    (lived.state.RecordsAgree ↔
      (accepted.getLast? = some [] → ∀ chain ∈ accepted, chain = [])) ∧
    ((∀ occasion ∈ occasions, occasion.context.config.needClientAuth = true) →
      lived.state.RecordsAgree) ∧
    (∀ type, lived.state.clientAuthentication = some (.trusted type) →
      ∃ occasion ∈ occasions,
        occasion.operation = .clientCertificate lived.state.peerCertificates ∧
          Vouches occasion.context lived.state.peerCertificates type) ∧
    ∀ last, ∀ session ∈ Event.sessions (lived.state.meet last).events,
      let now := (lived.state.meet last).state.1
      session.peerCertificates = now.peerCertificates ∧
        (now.clientAuthentication = some .unauthenticated ∧ session.peerCertificates ≠ [] ↔
          accepted.getLast? = some [] ∧ ∃ chain ∈ accepted, chain ≠ []) := by
  intro accepted lived
  have hr : ClientRecord occasions accepted lived.state :=
    (clientRecord_of_opens ho).undergo occasions
  refine ⟨hr.chain, hr.trusted_iff, hr.agree_iff, ?_, ?_, ?_⟩
  · intro hneed
    refine hr.agree_iff.2 ?_
    intro hlast
    exact absurd rfl (ne_nil_of_mem_acceptedChains hneed [] (List.mem_of_getLast? hlast))
  · intro type htype
    exact (hr.trustedOn htype).2
  · intro last session hs now
    obtain ⟨parameters, _, _, hop, -, -, -, rfl⟩ := (mem_sessions_meet_iff _).1 hs
    -- Publishing leaves the record as it is.
    have hnow : now.peerCertificates = lived.state.peerCertificates ∧
        now.clientAuthentication = lived.state.clientAuthentication := by
      rcases (lived.state.transition_meet last).client with ⟨-, hauth, hpeer⟩ | ⟨hchain, -⟩ |
        ⟨hchain, -⟩
      · exact ⟨hpeer, hauth⟩
      · rw [hop] at hchain
        cases hchain
      · rw [hop] at hchain
        cases hchain
    obtain ⟨hpeer, hauth⟩ := hnow
    refine ⟨hpeer.symm, ?_⟩
    show _ ∧ lived.state.peerCertificates ≠ [] ↔ _
    rw [hauth, hr.unauthenticated_iff, hr.chain, ne_eq, lastShown_eq_nil_iff]
    simp

/-- An empty chain and then a trusted one, both accepted: the record agrees. -/
theorem peerCertificates_agree_after_trusted_chain :
    let context := Context.inviting [.rsaWithAes128CbcSha]
    let h := (Server.accept (.plain [.rsaWithAes128CbcSha])).state
    let steps := negotiationSteps ++
      [.clientCertificate [], .clientCertificate Identity.plainRsa.chain]
    let occasions : List Occasion := steps.map fun step => ⟨context, .refusing [], .fresh, step⟩
    (h.undergo occasions).state.RecordsAgree ∧
      (h.undergo occasions).state.peerCertificates = Identity.plainRsa.chain := by
  intro context h steps occasions
  have ho : Server.Opens ⟨context⟩ (.refusing []) (.plain [.rsaWithAes128CbcSha]) h := .accepted
  obtain ⟨hkept, -, hagree, -⟩ := peerCertificates_agree_iff ho occasions
  refine ⟨hagree.2 ?_, hkept.trans ?_⟩
  · decide +kernel
  · decide +kernel

/-- A trusted chain and then an empty one, both accepted: the client is unauthenticated and
    its certificates are published. -/
theorem peerCertificates_of_unauthenticated_client :
    let context := Context.inviting [.rsaWithAes128CbcSha]
    let h := (Server.accept (.plain [.rsaWithAes128CbcSha])).state
    let steps := negotiationSteps ++
      [.clientCertificate Identity.plainRsa.chain, .clientCertificate []]
    let lived := h.undergo (steps.map fun step => ⟨context, .refusing [], .fresh, step⟩)
    let now := lived.state.meet ⟨context, .refusing [], .fresh, .complete ⟨[1], [2]⟩⟩
    lived.state.clientAuthentication = some .unauthenticated ∧
      lived.state.peerCertificates = Identity.plainRsa.chain ∧
      (Event.sessions now.events).map Session.peerCertificates = [Identity.plainRsa.chain] := by
  decide +kernel

end Handshake

end TlsHandshake
