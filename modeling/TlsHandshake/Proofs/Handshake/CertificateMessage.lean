/-
  TlsHandshake.Proofs.Handshake.CertificateMessage

  What becomes of a client's certificate message.

  The message counts only if the client was asked for it, and it was asked exactly if some
  earlier request of this handshake was answered with one to send: nothing else raises the
  flag, and nothing lowers it.  A message without certificates is then a matter of policy,
  and any other one of trust: its leaf must be of a type that can authenticate, and the
  trust store must trust the whole chain for this type.

    * `Handshake.AskedOn` — on one of some occasions a request was made;
    * `Handshake.certificateRequested_undergo_iff` — the flag stands for just that;
    * `leafType?` — the type that the leaf of a chain authenticates with;
    * `Handshake.Reading` — the ways in which a message can be taken;
    * `Handshake.certificateMessage_decided` — which of them it is, after every run.
-/

import TlsHandshake.Proofs.Handshake.Transition

namespace TlsHandshake

/-- The attempt fails, and the client gets this alert. -/
def Outcome.FailsWith {σ α : Type} (attempt : Attempt σ α) (alert : AlertDescription) : Prop :=
  ∃ failure, attempt.answer = .error failure ∧ failure.alert? = some alert

/-- An attempt that fails for a cause raises the alert of the cause, and no other. -/
@[simp] theorem Outcome.failsWith_fatal_iff {σ α : Type} {cause : FatalCause} {state : σ}
    {events : List Event} {alert : AlertDescription} :
    (⟨.error (.fatal cause), state, events⟩ : Attempt σ α).FailsWith alert ↔
      cause.alert = alert := by
  simp [FailsWith, Failure.alert?]

/-- One that succeeds raises none. -/
@[simp] theorem Outcome.not_failsWith_ok {σ α : Type} {answer : α} {state : σ}
    {events : List Event} {alert : AlertDescription} :
    ¬ (⟨.ok answer, state, events⟩ : Attempt σ α).FailsWith alert := by
  simp [FailsWith]

/-- The type that the leaf of a chain authenticates with, if its key can. -/
def leafType? (chain : List Certificate) : Option ClientCertificateType :=
  chain.head?.bind fun leaf => ClientCertificateType.ofKeyType? leaf.keyType

/-- The type is that of the leaf's key, if it is one of three; what comes after the leaf does
    not count. -/
theorem leafType?_cons_eq_some_iff (leaf : Certificate) (rest : List Certificate)
    (type : ClientCertificateType) :
    leafType? (leaf :: rest) = some type ↔
      leaf.keyType ∈ [.rsa, .dsa, .ec] ∧ type.authName = leaf.keyType.name := by
  show ClientCertificateType.ofKeyType? leaf.keyType = some type ↔ _
  cases leaf.keyType <;> cases type <;> decide

theorem ne_nil_of_leafType? {chain : List Certificate} {type : ClientCertificateType}
    (ht : leafType? chain = some type) : chain ≠ [] := by
  rintro rfl
  cases ht

theorem vouches_iff {context : Context} {chain : List Certificate}
    {type : ClientCertificateType} :
    Vouches context chain type ↔ leafType? chain = some type ∧
      ∃ store, context.trustStore = some store ∧ store.trusts chain type = true := by
  constructor
  · rintro ⟨hleaf, htrust⟩
    exact ⟨Option.bind_eq_some_iff.2 hleaf, htrust⟩
  · rintro ⟨hleaf, htrust⟩
    exact ⟨Option.bind_eq_some_iff.1 hleaf, htrust⟩

namespace Handshake

variable {context : Context} {manager : Manager} {rounds : Nat → Round} {h k : Handshake}
  {chain : List Certificate} {taken : Attempt Handshake Unit}

/-! ## Whether the client was asked -/

/-- The operation is a request for a certificate, and is answered with one to send. -/
def Asks (operation : Operation) (answer : Except Failure Answer) : Prop :=
  operation = .certificateRequest ∧ ∃ request, answer = .ok (.request (some request))

/-- On one of the occasions, which the handshake goes through in turn, a request was made. -/
def AskedOn (occasions : List Occasion) (h : Handshake) : Prop :=
  ∃ earlier occasion later, occasions = earlier ++ occasion :: later ∧
    Asks occasion.operation ((h.undergo earlier).state.meet occasion).answer

theorem askedOn_nil (h : Handshake) : ¬ h.AskedOn [] := by
  rintro ⟨earlier, occasion, later, hsplit, -⟩
  exact absurd hsplit.symm (by simp)

theorem askedOn_cons_iff {occasion : Occasion} {occasions : List Occasion} :
    h.AskedOn (occasion :: occasions) ↔
      Asks occasion.operation (h.meet occasion).answer ∨
        (h.meet occasion).state.1.AskedOn occasions := by
  constructor
  · rintro ⟨earlier, asking, later, hsplit, hasks⟩
    cases earlier with
    | nil =>
      obtain ⟨rfl, -⟩ := List.cons_eq_cons.1 hsplit
      exact Or.inl hasks
    | cons first earlier =>
      obtain ⟨rfl, hrest⟩ := List.cons_eq_cons.1 hsplit
      exact Or.inr ⟨earlier, asking, later, hrest, hasks⟩
  · rintro (hasks | ⟨earlier, asking, later, rfl, hasks⟩)
    · exact ⟨[], occasion, occasions, rfl, hasks⟩
    · exact ⟨occasion :: earlier, asking, later, rfl, hasks⟩

/-- An operation raises the flag if it makes a request, and no operation lowers it. -/
theorem Transition.certificateRequested_iff {operation : Operation}
    {answer : Except Failure Answer}
    (ht : Transition context manager rounds h operation answer k) :
    k.certificateRequested = true ↔ h.certificateRequested = true ∨ Asks operation answer := by
  cases ht with
  -- Only this change writes the flag, and it keeps one that is up.
  | @requestMade request hr =>
    show (h.certificateRequested || request.isSome) = true ↔ _
    rw [Bool.or_eq_true, Option.isSome_iff_exists]
    simp [Asks]
  | failed => simp [Asks]
  | bereft => simp [Asks, withCredential]
  | _ => simp [Asks, withCredential, withSuite]

/-- The flag is up exactly if it was at first, or a request was made since. -/
theorem certificateRequested_undergo_iff (occasions : List Occasion) (h : Handshake) :
    (h.undergo occasions).state.certificateRequested = true ↔
      h.certificateRequested = true ∨ h.AskedOn occasions := by
  induction occasions generalizing h with
  | nil =>
    show h.certificateRequested = true ↔ _
    simp [askedOn_nil]
  | cons occasion occasions ih =>
    rw [askedOn_cons_iff, ← or_assoc, ← (h.transition_meet occasion).certificateRequested_iff]
    exact ih (h.meet occasion).state.1

/-! ## How a message is taken -/

/-- The ways in which a certificate message can be taken, each with what must be so for it,
    and with everything that it does. -/
inductive Reading (context : Context) (chain : List Certificate) (h : Handshake) :
    Attempt Handshake Unit → Prop
  | unasked (hr : h.certificateRequested = false) :
      Reading context chain h ⟨.error (.fatal .certificateNotRequested), h, []⟩
  | missing (hr : h.certificateRequested = true) (hc : chain = [])
      (hn : context.config.needClientAuth = true) :
      Reading context chain h ⟨.error (.fatal .certificateMissing), h, []⟩
  | absent (hr : h.certificateRequested = true) (hc : chain = [])
      (hn : context.config.needClientAuth = false) :
      Reading context chain h
        ⟨.ok (), { h with clientAuthentication := some .unauthenticated },
          [.log .clientUnauthenticated]⟩
  /-- The leaf's key cannot authenticate. -/
  | unusable {leaf : Certificate} {rest : List Certificate} (hr : h.certificateRequested = true)
      (hc : chain = leaf :: rest) (ht : leafType? chain = none) :
      Reading context chain h
        ⟨.error (.fatal (.certificateKeyUnusable leaf.keyType)), h, []⟩
  /-- There is nobody to ask for trust. -/
  | unvouched {type : ClientCertificateType} (hr : h.certificateRequested = true)
      (ht : leafType? chain = some type) (hs : context.trustStore = none) :
      Reading context chain h ⟨.error (.fatal (.chainNotTrusted type)), h, []⟩
  | distrusted {type : ClientCertificateType} {store : TrustStore}
      (hr : h.certificateRequested = true) (ht : leafType? chain = some type)
      (hs : context.trustStore = some store) (hd : store.trusts chain type = false) :
      Reading context chain h
        ⟨.error (.fatal (.chainNotTrusted type)), h, [.call (.trusts chain type)]⟩
  | trusted {type : ClientCertificateType} {store : TrustStore}
      (hr : h.certificateRequested = true) (ht : leafType? chain = some type)
      (hs : context.trustStore = some store) (hd : store.trusts chain type = true) :
      Reading context chain h
        ⟨.ok (),
          { h with clientAuthentication := some (.trusted type), peerCertificates := chain },
          [.call (.trusts chain type), .log (.clientAuthenticated type)]⟩

/-- Every message is taken in one of these ways. -/
theorem reading_clientCertificate (context : Context) (chain : List Certificate)
    (h : Handshake) : h.Reading context chain (h.clientCertificate context chain) := by
  cases hr : h.certificateRequested with
  | false =>
    simp only [clientCertificate, hr]
    exact .unasked hr
  | true =>
    simp only [clientCertificate, hr, if_true]
    cases chain with
    | nil =>
      cases hn : context.config.needClientAuth with
      | true =>
        simp only [ClientAuthentication.verify, hn]
        exact .missing hr rfl hn
      | false =>
        simp only [ClientAuthentication.verify, hn]
        exact .absent hr rfl hn
    | cons leaf rest =>
      cases ht : ClientCertificateType.ofKeyType? leaf.keyType with
      | none =>
        simp only [ClientAuthentication.verify, ht]
        exact .unusable hr rfl ht
      | some type =>
        simp only [ClientAuthentication.verify, ht]
        cases hs : context.trustStore with
        | none => exact .unvouched hr ht hs
        | some store =>
          cases hd : store.trusts (leaf :: rest) type with
          | true =>
            simp only [ClientAuthentication.askTrust, ClientAuthentication.ofTrust, hd]
            exact .trusted hr ht hs hd
          | false =>
            simp only [ClientAuthentication.askTrust, ClientAuthentication.ofTrust, hd]
            exact .distrusted hr ht hs hd

/-- The message is accepted with this verdict, which is kept, and so is the chain of a trusted
    client; nothing else changes. -/
structure AcceptedAs (h : Handshake) (chain : List Certificate) (taken : Attempt Handshake Unit)
    (verdict : ClientAuthentication) : Prop where
  answer : taken.answer = .ok ()
  state : taken.state =
    { h with
      clientAuthentication := some verdict
      peerCertificates :=
        match verdict with
        | .trusted _ => chain
        | .unauthenticated => h.peerCertificates }

theorem AcceptedAs.verdict {verdict : ClientAuthentication}
    (ha : h.AcceptedAs chain taken verdict) :
    taken.state.clientAuthentication = some verdict := by
  rw [ha.state]

namespace Reading

/-- A message that is accepted is accepted with some verdict. -/
theorem exists_acceptedAs (hread : h.Reading context chain taken) (ha : taken.answer = .ok ()) :
    ∃ verdict, h.AcceptedAs chain taken verdict := by
  cases hread with
  | absent => exact ⟨.unauthenticated, rfl, rfl⟩
  | trusted => exact ⟨.trusted _, rfl, rfl⟩
  | _ => cases ha

/-- A message that is refused changes nothing. -/
theorem state_of_error (hread : h.Reading context chain taken) {failure : Failure}
    (hf : taken.answer = .error failure) : taken.state = h := by
  cases hread with
  | absent | trusted => cases hf
  | _ => rfl

/-! ### What is refused -/

theorem unexpectedMessage_iff (hread : h.Reading context chain taken) :
    taken.FailsWith .unexpectedMessage ↔ h.certificateRequested = false := by
  cases hread with
  | unasked hr => simp [FatalCause.alert, hr]
  -- A message that was asked for is refused with another alert, if at all.
  | missing hr | unusable hr | unvouched hr | distrusted hr => simp [FatalCause.alert, hr]
  | absent hr | trusted hr => simp [hr]

theorem handshakeFailure_iff (hread : h.Reading context chain taken) :
    taken.FailsWith .handshakeFailure ↔ h.certificateRequested = true ∧ chain = [] ∧
      context.config.needClientAuth = true := by
  cases hread with
  | unasked hr => simp [FatalCause.alert, hr]
  | missing hr hc hn => simp [FatalCause.alert, hr, hc, hn]
  | absent _ _ hn => simp [hn]
  | unusable _ hc => simp [FatalCause.alert, hc]
  -- A chain whose leaf has a type is not empty.
  | unvouched _ ht | distrusted _ ht => simp [FatalCause.alert, ne_nil_of_leafType? ht]
  | trusted _ ht => simp [ne_nil_of_leafType? ht]

theorem badCertificate_iff (hread : h.Reading context chain taken) :
    taken.FailsWith .badCertificate ↔ h.certificateRequested = true ∧ chain ≠ [] ∧
      ∀ type, ¬ Vouches context chain type := by
  simp only [vouches_iff]
  cases hread with
  | unasked hr => simp [FatalCause.alert, hr]
  | missing _ hc => simp [FatalCause.alert, hc]
  | absent _ hc => simp [hc]
  | unusable hr hc ht =>
    -- Without a type nobody can vouch for the chain.
    simp only [ht]
    simp [FatalCause.alert, hr, hc]
  | unvouched hr ht hs => simp [FatalCause.alert, hr, ne_nil_of_leafType? ht, hs]
  | distrusted hr ht hs hd =>
    simp [FatalCause.alert, hr, ne_nil_of_leafType? ht, ht, hs, hd]
  | trusted hr ht hs hd => simp [ht, hs, hd]

/-! ### What is accepted -/

theorem unauthenticated_iff (hread : h.Reading context chain taken) :
    h.AcceptedAs chain taken .unauthenticated ↔ h.certificateRequested = true ∧ chain = [] ∧
      context.config.needClientAuth = false := by
  constructor
  · intro ha
    have hanswer := ha.answer
    have hverdict := ha.verdict
    cases hread with
    | absent hr hc hn => exact ⟨hr, hc, hn⟩
    | trusted => cases hverdict
    | _ => cases hanswer
  · rintro ⟨hasked, rfl, hoptional⟩
    cases hread with
    | unasked hr =>
      rw [hr] at hasked
      cases hasked
    | missing _ _ hn =>
      rw [hn] at hoptional
      cases hoptional
    | absent => exact ⟨rfl, rfl⟩
    | unusable _ hc => cases hc
    -- An empty chain has no leaf.
    | unvouched _ ht | distrusted _ ht | trusted _ ht => cases ht

theorem trusted_iff (hread : h.Reading context chain taken) (type : ClientCertificateType) :
    h.AcceptedAs chain taken (.trusted type) ↔
      h.certificateRequested = true ∧ Vouches context chain type := by
  rw [vouches_iff]
  constructor
  · intro ha
    have hanswer := ha.answer
    have hverdict := ha.verdict
    cases hread with
    | absent => cases hverdict
    | trusted hr ht hs hd =>
      cases hverdict
      exact ⟨hr, ht, _, hs, hd⟩
    | _ => cases hanswer
  · rintro ⟨hasked, hleaf, store, hstore, htrust⟩
    cases hread with
    | unasked hr =>
      rw [hr] at hasked
      cases hasked
    | missing _ hc | absent _ hc =>
      rw [hc] at hleaf
      cases hleaf
    | unusable _ _ ht =>
      rw [ht] at hleaf
      cases hleaf
    | unvouched _ _ hs =>
      rw [hs] at hstore
      cases hstore
    | distrusted _ ht hs hd =>
      cases ht.symm.trans hleaf
      cases hs.symm.trans hstore
      rw [hd] at htrust
      cases htrust
    | trusted _ ht hs hd =>
      cases ht.symm.trans hleaf
      exact ⟨rfl, rfl⟩

/-! ### Whom it calls -/

/-- The trust store is called once or not at all, and always with the whole chain. -/
theorem calls_eq (hread : h.Reading context chain taken) :
    Event.calls taken.events = [] ∨
      ∃ type, Event.calls taken.events = [.trusts chain type] := by
  cases hread with
  | distrusted | trusted => exact Or.inr ⟨_, rfl⟩
  | _ => exact Or.inl rfl

theorem calls_eq_trusts_iff (hread : h.Reading context chain taken)
    (type : ClientCertificateType) :
    Event.calls taken.events = [.trusts chain type] ↔
      h.certificateRequested = true ∧ leafType? chain = some type ∧
        context.trustStore ≠ none := by
  cases hread with
  | unasked hr => simp [hr]
  | missing _ hc | absent _ hc => simp [hc, leafType?]
  | unusable _ _ ht => simp [ht]
  | unvouched _ _ hs => simp [hs]
  -- The call that was made is for the type of the leaf.
  | distrusted hr ht hs | trusted hr ht hs => simp [hr, ht, hs]

end Reading

/-! ## All of it -/

/-- What becomes of a certificate message after any run of a handshake, whatever chain it
    brings.  Every handshake that a server hands out is such a run (`undergo_of_opens`).

    It is refused with `unexpected_message` exactly if no earlier request for a certificate
    was answered with one to send.  Otherwise an empty chain is refused with
    `handshake_failure` if the policy needs authentication, and leaves the client
    unauthenticated if not; and a chain that is not empty makes the client trusted, and is
    kept, exactly if the trust store vouches for the whole of it and for the type of its
    leaf's key, and is refused with `bad_certificate` in all other cases.

    The trust store is called at most once: with this chain and type, if the client was
    asked, the leaf has a type and there is a store.  A message that is refused changes
    nothing. -/
theorem certificateMessage_decided (offer : Offer) (occasions : List Occasion)
    (context : Context) (chain : List Certificate) :
    let h := ((start offer).undergo occasions).state
    let asked := (start offer).AskedOn occasions
    let taken := h.clientCertificate context chain
    let calls := Event.calls taken.events
    (taken.FailsWith .unexpectedMessage ↔ ¬ asked) ∧
    (taken.FailsWith .handshakeFailure ↔
      asked ∧ chain = [] ∧ context.config.needClientAuth = true) ∧
    (h.AcceptedAs chain taken .unauthenticated ↔
      asked ∧ chain = [] ∧ context.config.needClientAuth = false) ∧
    (∀ type, h.AcceptedAs chain taken (.trusted type) ↔ asked ∧ Vouches context chain type) ∧
    (taken.FailsWith .badCertificate ↔
      asked ∧ chain ≠ [] ∧ ∀ type, ¬ Vouches context chain type) ∧
    (taken.answer = .ok () → ∃ verdict, h.AcceptedAs chain taken verdict) ∧
    (∀ failure, taken.answer = .error failure → taken.state = h) ∧
    (calls = [] ∨ ∃ type, calls = [.trusts chain type]) ∧
    (∀ type, calls = [.trusts chain type] ↔
      asked ∧ leafType? chain = some type ∧ context.trustStore ≠ none) ∧
    (∀ leaf rest type, leafType? (leaf :: rest) = some type ↔
      leaf.keyType ∈ [.rsa, .dsa, .ec] ∧ type.authName = leaf.keyType.name) := by
  intro h asked taken calls
  have hread : h.Reading context chain taken := reading_clientCertificate context chain h
  -- A handshake starts with the flag down, so the flag is the history of its requests.
  have hasked : h.certificateRequested = true ↔ asked := by
    have hflag := certificateRequested_undergo_iff occasions (start offer)
    have hdown : (start offer).certificateRequested ≠ true := Bool.false_ne_true
    rw [or_iff_right hdown] at hflag
    exact hflag
  rw [← hasked, Bool.not_eq_true]
  exact ⟨hread.unexpectedMessage_iff, hread.handshakeFailure_iff, hread.unauthenticated_iff,
    hread.trusted_iff, hread.badCertificate_iff, hread.exists_acceptedAs,
    fun _ hf => hread.state_of_error hf, hread.calls_eq, hread.calls_eq_trusts_iff,
    leafType?_cons_eq_some_iff⟩

/-- A client that was asked shows a chain with an RSA leaf and is trusted; the key of the
    other certificate, which could not authenticate, does not count. -/
theorem certificateMessage_after_request :
    let context := Context.demanding [.rsaWithAes128CbcSha]
    let offer := Offer.plain [.rsaWithAes128CbcSha]
    let steps := [Operation.serverVersion, .certificateRequest]
    let occasions := steps.map fun step => (⟨context, .refusing [], .fresh, step⟩ : Occasion)
    let chain : List Certificate := [⟨[0x40], ⟨[0x40]⟩, .rsa⟩, ⟨[0x41], ⟨[0x41]⟩, .dh⟩]
    let h := ((start offer).undergo occasions).state
    (start offer).AskedOn occasions ∧
      h.AcceptedAs chain (h.clientCertificate context chain) (.trusted .rsaSign) := by
  intro context offer steps occasions chain h
  have hasked : (start offer).AskedOn occasions := by
    have hflag : ((start offer).undergo occasions).state.certificateRequested = true := by
      decide +kernel
    rcases (certificateRequested_undergo_iff occasions (start offer)).1 hflag with hup | hasked
    · cases hup
    · exact hasked
  have hvouches : Vouches context chain .rsaSign :=
    ⟨⟨⟨[0x40], ⟨[0x40]⟩, .rsa⟩, rfl, rfl⟩, ⟨[], fun _ _ => true⟩, rfl, rfl⟩
  obtain ⟨-, -, -, htrusted, -⟩ := certificateMessage_decided offer occasions context chain
  exact ⟨hasked, (htrusted .rsaSign).2 ⟨hasked, hvouches⟩⟩

end Handshake

end TlsHandshake
