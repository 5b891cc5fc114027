/-
  TlsHandshake.Proofs.Handshake.LiveCredential

  Whether the credential that a handshake holds is that of its selected suite.

  A selection leaves the suite together with the credential that the suite has of its own.
  A single suite that is tried afterwards leaves the selected suite as it is and replaces
  the credential by what it finds, or by none.  A session takes its certificates from the
  credential that is held when it is published, so it may carry those of another suite.

    * `Resolver.OwnCredential` — the credential that a suite has of its own, and where it
      comes from;
    * `lastLook?` and `Resolver.finds` — the last search for a credential, and what it finds
      if it is for a single suite;
    * `CredentialRecord` — what a handshake with a suite holds, by its last search;
    * `CredentialRecord.meet`, `CredentialRecord.undergo` — every operation, and all of them
      together, keep this record;
    * `credential_of_suite_iff` — when the credential is that of the suite.
-/

import TlsHandshake.Proofs.Handshake.Lifetime

namespace TlsHandshake

/-- Every credential that the provider makes presents the chain that it is made from. -/
structure Provider.KeepsChains (provider : Provider) : Prop where
  agreement : ∀ chain key credential,
    provider.agreement chain key = .ok credential → credential.chain = chain
  signer : ∀ chain key scheme credential,
    provider.signer chain key scheme = .ok credential → credential.chain = chain
  decryptor : ∀ chain key credential,
    provider.decryptor chain key = .ok credential → credential.chain = chain

namespace Resolver

variable {resolver : Resolver} {suite : CipherSuite} {auth : AuthType} {identity : Identity}
  {own : Credential}

/-! ## The credential of a suite -/

/-- How the provider makes a credential of a type: by what the key is used for. -/
inductive Makes (resolver : Resolver) (auth : AuthType) (identity : Identity) :
    Credential → Prop
  | agreement {credential : AgreementCredential} (hk : auth.keyUse = .agreement)
      (hm : resolver.provider.agreement identity.chain identity.key = .ok credential) :
      Makes resolver auth identity (.agreement credential)
  | decryptor {credential : DecryptorCredential} (hk : auth.keyUse = .decryption)
      (hm : resolver.provider.decryptor identity.chain identity.key = .ok credential) :
      Makes resolver auth identity (.decryptor credential)
  | signer {algorithm : SignatureAlgorithm} {credential : SignerCredential}
      (hk : auth.keyUse = .signing algorithm)
      (hm : resolver.provider.signer identity.chain identity.key
        (resolver.signerScheme algorithm) = .ok credential) :
      Makes resolver auth identity (.signer credential)

theorem makes_of_making (hm : resolver.making auth identity = .ok own) :
    resolver.Makes auth identity own := by
  unfold making at hm
  cases hk : auth.keyUse with
  | agreement =>
    cases hmade : resolver.provider.agreement identity.chain identity.key with
    | error error => simp [hk, hmade, Except.map] at hm
    | ok credential =>
      obtain rfl : Credential.agreement credential = own := by
        simpa [hk, hmade, Except.map] using hm
      exact .agreement hk hmade
  | decryption =>
    cases hmade : resolver.provider.decryptor identity.chain identity.key with
    | error error => simp [hk, hmade, Except.map] at hm
    | ok credential =>
      obtain rfl : Credential.decryptor credential = own := by
        simpa [hk, hmade, Except.map] using hm
      exact .decryptor hk hmade
  | signing algorithm =>
    cases hmade : resolver.provider.signer identity.chain identity.key
      (resolver.signerScheme algorithm) with
    | error error => simp [hk, hmade, Except.map] at hm
    | ok credential =>
      obtain rfl : Credential.signer credential = own := by
        simpa [hk, hmade, Except.map] using hm
      exact .signer hk hmade

/-- A credential that is made for a type is of the kind that the type calls for. -/
theorem Makes.serves (hm : resolver.Makes auth identity own) :
    own.serves (.certified auth) = true := by
  cases hm with
  | agreement hk => simp [Credential.serves, hk]
  | decryptor hk => simp [Credential.serves, hk]
  | signer hk => simp [Credential.serves, hk]

/-- It presents the chain of the identity, if the provider keeps chains. -/
theorem Makes.chain? (hm : resolver.Makes auth identity own)
    (hp : resolver.provider.KeepsChains) : own.chain? = some identity.chain := by
  cases hm with
  | agreement _ hm => exact congrArg some (hp.agreement _ _ _ hm)
  | decryptor _ hm => exact congrArg some (hp.decryptor _ _ _ hm)
  | signer _ hm => exact congrArg some (hp.signer _ _ _ _ hm)

/-- The credential that a suite has of its own: that of a round which nothing else has
    used, of the kind that the suite calls for, and, for a certified suite, made from what
    the key store holds for its type. -/
structure OwnCredential (resolver : Resolver) (suite : CipherSuite) (own : Credential) :
    Prop where
  standalone : resolver.standalone suite = .ok (some own)
  serves : own.serves suite.keyExchange = true
  origin : ∀ auth, suite.keyExchange = .certified auth → ∃ store identity,
    resolver.keyStore = some store ∧ store.identity? auth = some identity ∧
      resolver.Makes auth identity own

/-- What a certified suite gets on its own is made from an identity of the key store. -/
theorem makes_of_standalone (hx : suite.keyExchange = .certified auth)
    (hs : resolver.standalone suite = .ok (some own)) :
    ∃ store identity, resolver.keyStore = some store ∧ store.identity? auth = some identity ∧
      resolver.Makes auth identity own := by
  unfold standalone at hs
  cases hstore : resolver.keyStore with
  | none =>
    rw [resolve_of_keyStore_none hx hstore] at hs
    cases hs
  | some store =>
    rw [resolve_fresh_eq_equip_query hx hstore] at hs
    cases hi : store.identity? auth with
    | none =>
      rw [query_of_identity?_none hi] at hs
      cases hs
    | some identity =>
      rw [query_of_identity?_some hi] at hs
      simp only [equip, credentialFrom_eq, Outcome.after_answer] at hs
      by_cases hl : resolver.lacksScheme auth = true
      · simp [hl] at hs
      · -- The identity fits and a scheme is there, so the answer is that of the provider.
        rw [if_neg hl] at hs
        cases hmade : resolver.making auth identity with
        | error error => simp [hmade, made] at hs
        | ok credential =>
          obtain rfl : credential = own := by simpa [hmade, made] using hs
          exact ⟨store, identity, rfl, hi, makes_of_making hmade⟩

theorem ownCredential_of_standalone (hs : resolver.standalone suite = .ok (some own)) :
    resolver.OwnCredential suite own := by
  refine ⟨hs, ?_, fun auth hx => makes_of_standalone hx hs⟩
  cases hx : suite.keyExchange with
  | anonymousDh | anonymousEcdh =>
    obtain rfl : Credential.anonymous = own := by simpa [standalone, resolve, hx] using hs
    rfl
  | certified auth =>
    obtain ⟨_, _, -, -, hmakes⟩ := makes_of_standalone hx hs
    exact hmakes.serves
  | unsupported => simp [standalone, resolve, hx] at hs

end Resolver

namespace Handshake

variable {context : Context} {manager : Manager} {h : Handshake} {version : Version}
  {resolver : Resolver} {own : Credential} {looked : Option Occasion} {occasion : Occasion}

/-! ## The last search -/

/-- The last of some occasions on which a credential is searched for. -/
def lastLook? (occasions : List Occasion) : Option Occasion :=
  (occasions.filter fun occasion => occasion.operation.selects).getLast?

/-- An occasion that is met before some others counts if none of them is a search. -/
theorem lastLook?_cons_or (occasion : Occasion) (occasions : List Occasion)
    (looked : Option Occasion) :
    (lastLook? (occasion :: occasions)).or looked =
      (lastLook? occasions).or (if occasion.operation.selects then some occasion else looked) := by
  unfold lastLook?
  rw [List.filter_cons]
  cases occasion.operation.selects with
  | true =>
    simp only [if_true, List.getLast?_cons]
    cases (occasions.filter fun occasion => occasion.operation.selects).getLast? <;> rfl
  | false => rfl

/-- What a search for a single suite finds, with the word of the manager if it is asked. -/
def Occasion.finds (look : Occasion) (resolver : Resolver) : Option Credential :=
  match look.operation with
  | .selectCredentials round suite =>
    (resolver.resolve suite (look.shared.rounds round)).answer.toOption.join
  | .selectCipherSuite round suite =>
    (resolver.resolve suite (look.shared.rounds round)).answer.toOption.join.filter fun _ =>
      look.manager.accepts suite resolver.version
  | _ => none

/-- What the last search leaves to a handshake whose suite has this credential of its own. -/
def leftBy (resolver : Resolver) (own : Credential) (looked : Option Occasion) :
    Option Credential :=
  match looked with
  | none => some own
  | some look =>
    if look.operation = .selectedCipherSuite then some own else look.finds resolver

theorem leftBy_eq_own_iff :
    leftBy resolver own looked = some own ↔ ∀ look, looked = some look →
      look.operation = .selectedCipherSuite ∨ look.finds resolver = some own := by
  cases looked with
  | none => simp [leftBy]
  | some look =>
    by_cases ho : look.operation = .selectedCipherSuite
    · simp [leftBy, ho]
    · simp [leftBy, ho]

/-! ## A single suite -/

theorem selectCredentials_state (hv : h.version = some version) (suite : CipherSuite)
    (round : Round) :
    (h.selectCredentials context suite round).state.1 =
      h.withCredential
        ((h.resolver context version).resolve suite round).answer.toOption.join := by
  simp only [selectCredentials, hv, adopt]
  cases ((h.resolver context version).resolve suite round).answer <;> rfl

theorem selectCipherSuite_state (hv : h.version = some version) (suite : CipherSuite)
    (round : Round) :
    (h.selectCipherSuite context manager suite round).state.1 =
      h.withCredential
        (((h.resolver context version).resolve suite round).answer.toOption.join.filter fun _ =>
          manager.accepts suite version) := by
  simp only [selectCipherSuite, selectCredentials, hv, adopt]
  rcases ((h.resolver context version).resolve suite round).answer with failure |
    (_ | credential)
  · rfl
  · rfl
  · -- A credential that is found stays if the manager accepts the suite.
    cases ha : manager.accepts suite version with
    | true => simp [consult, ha, Except.toOption, Outcome.thenDo, Option.filter]
    | false => simp [consult, ha, Except.toOption, Option.filter]

/-- A single suite that is tried replaces the credential by what is found for it. -/
theorem meet_of_single (hv : h.version = some version)
    (hs : occasion.operation.selects = true)
    (hne : occasion.operation ≠ .selectedCipherSuite) :
    (h.meet occasion).state.1 =
      h.withCredential (occasion.finds (h.resolver occasion.context version)) := by
  obtain ⟨surroundings, voice, shared, operation⟩ := occasion
  cases operation with
  | selectCredentials round suite => exact selectCredentials_state hv suite (shared.rounds round)
  | selectCipherSuite round suite => exact selectCipherSuite_state hv suite (shared.rounds round)
  | selectedCipherSuite => exact absurd rfl hne
  | _ => cases hs

/-- Only a selection changes the suite. -/
theorem Transition.suite_of_ne_selected {rounds : Nat → Round} {operation : Operation}
    {answer : Except Failure Answer} {k : Handshake}
    (ht : Transition context manager rounds h operation answer k)
    (hne : operation ≠ .selectedCipherSuite) : k.suite = h.suite := by
  cases ht with
  | suiteSelected => exact absurd rfl hne
  | _ => rfl

/-- An operation that looks for no credential leaves the suite and the credential, and a
    version that is fixed. -/
theorem Transition.frame_of_not_selects {rounds : Nat → Round} {operation : Operation}
    {answer : Except Failure Answer} {k : Handshake}
    (ht : Transition context manager rounds h operation answer k)
    (hs : operation.selects = false) :
    k.offer = h.offer ∧ k.suite = h.suite ∧ k.credential = h.credential ∧
      (h.version ≠ none → k.version = h.version) := by
  cases ht with
  | versionFixed hv => exact ⟨rfl, rfl, rfl, fun hne => absurd hv hne⟩
  | suiteSelected | credentialTried | suiteTried => cases hs
  | bereft ho =>
    rw [ho] at hs
    cases hs
  | _ => exact ⟨rfl, rfl, rfl, fun _ => rfl⟩

/-! ## What is held with a suite -/

/-- The handshake has the suite at the version as the search finds it, and holds what the
    last look for a credential left. -/
structure Holds (context : Context) (manager : Manager) (looked : Option Occasion)
    (h : Handshake) (suite : CipherSuite) (version : Version) (own : Credential) : Prop where
  fixed : h.version = some version
  found : (h.resolver context version).firstPassing manager (h.candidates context version) =
    .ok (some (suite, own))
  credential : h.credential = leftBy (h.resolver context version) own looked

/-- Whatever suite the handshake has, it was found by a search, and the last look for a
    credential says what is held. -/
def CredentialRecord (context : Context) (manager : Manager) (looked : Option Occasion)
    (h : Handshake) : Prop :=
  ∀ suite, h.suite = some suite → ∃ version own, h.Holds context manager looked suite version own

theorem credentialRecord_start (offer : Offer) :
    (start offer).CredentialRecord context manager none := by
  intro suite hs
  cases hs

/-- A suite from before is the one that a search would find again. -/
theorem CredentialRecord.found_again (hr : h.CredentialRecord context manager looked)
    (hv : h.version = some version) {suite : CipherSuite} (hs : h.suite = some suite) :
    ∃ own, (h.resolver context version).firstPassing manager (h.candidates context version) =
      .ok (some (suite, own)) := by
  obtain ⟨fixed, own, hheld⟩ := hr suite hs
  obtain rfl : fixed = version := Option.some.inj (hheld.fixed.symm.trans hv)
  exact ⟨own, hheld.found⟩

/-- A selection ends with the suite's own credential, or without a suite. -/
theorem CredentialRecord.meet_selected
    (hr : h.CredentialRecord occasion.context occasion.manager looked)
    (ho : occasion.operation = .selectedCipherSuite) :
    (h.meet occasion).state.1.CredentialRecord occasion.context occasion.manager
      (some occasion) := by
  have hstate : (h.meet occasion).state.1 =
      (h.selectedCipherSuite occasion.context occasion.manager).state := by
    rw [meet_of_selectedCipherSuite ho]
    rfl
  rw [hstate]
  intro suite hs
  cases hv : h.version with
  | none =>
    -- Without a version nothing is selected, and there was no suite before.
    have hkept : (h.selectedCipherSuite occasion.context occasion.manager).state = h := by
      simp [selectedCipherSuite, hv]
    rw [hkept] at hs
    obtain ⟨version, _, hheld⟩ := hr suite hs
    rw [hheld.fixed] at hv
    cases hv
  | some version =>
    rcases hf : (h.resolver occasion.context version).firstPassing occasion.manager
      (h.candidates occasion.context version) with failure | (_ | ⟨found, own⟩)
    · -- A search that fails, or finds nothing, does so for a handshake without a suite.
      rw [(selectedCipherSuite_of_failure occasion.manager hv hf).2] at hs
      obtain ⟨own, hfound⟩ := hr.found_again hv hs
      rw [hf] at hfound
      cases hfound
    · rw [(selectedCipherSuite_of_nothing occasion.manager hv hf).2] at hs
      obtain ⟨own, hfound⟩ := hr.found_again hv hs
      rw [hf] at hfound
      cases hfound
    · rw [(selectedCipherSuite_of_found occasion.manager hv hf).2] at hs ⊢
      obtain rfl : found = suite := Option.some.inj hs
      refine ⟨version, own, hv, hf, ?_⟩
      show some own = _
      rw [leftBy, if_pos ho]

/-- A single suite that is tried keeps the suite and replaces the credential. -/
theorem CredentialRecord.meet_single
    (hr : h.CredentialRecord occasion.context occasion.manager looked)
    (hs : occasion.operation.selects = true)
    (hne : occasion.operation ≠ .selectedCipherSuite) :
    (h.meet occasion).state.1.CredentialRecord occasion.context occasion.manager
      (some occasion) := by
  intro suite hsuite
  rw [(h.transition_meet occasion).suite_of_ne_selected hne] at hsuite
  obtain ⟨version, own, hheld⟩ := hr suite hsuite
  rw [meet_of_single hheld.fixed hs hne]
  refine ⟨version, own, hheld.fixed, hheld.found, ?_⟩
  show occasion.finds (h.resolver occasion.context version) = _
  rw [leftBy, if_neg hne]
  rfl

/-- Whatever else is done keeps all of it. -/
theorem CredentialRecord.meet_other
    (hr : h.CredentialRecord occasion.context occasion.manager looked)
    (hs : occasion.operation.selects = false) :
    (h.meet occasion).state.1.CredentialRecord occasion.context occasion.manager looked := by
  obtain ⟨hoffer, hsuite, hcredential, hversion⟩ :=
    (h.transition_meet occasion).frame_of_not_selects hs
  intro suite hselected
  rw [hsuite] at hselected
  obtain ⟨version, own, hheld⟩ := hr suite hselected
  have hfixed : (h.meet occasion).state.1.version = some version := by
    rw [hversion (by simp [hheld.fixed]), hheld.fixed]
  -- The search reads the offer and the version only, and both are as before.
  have hresolver := resolver_of_sameOffer occasion.context version hoffer
  have hcandidates := candidates_of_sameOffer occasion.context version hoffer
  refine ⟨version, own, hfixed, ?_, ?_⟩
  · rw [hresolver, hcandidates]
    exact hheld.found
  · rw [hresolver, hcredential]
    exact hheld.credential

/-- Every operation keeps the record. -/
theorem CredentialRecord.meet (hr : h.CredentialRecord context manager looked)
    (hc : occasion.context = context) (hm : occasion.manager = manager) :
    (h.meet occasion).state.1.CredentialRecord context manager
      (if occasion.operation.selects then some occasion else looked) := by
  subst hc hm
  cases hs : occasion.operation.selects with
  | true =>
    by_cases ho : occasion.operation = .selectedCipherSuite
    · exact hr.meet_selected ho
    · exact hr.meet_single hs ho
  | false => exact hr.meet_other hs

/-- All the operations together keep it. -/
theorem CredentialRecord.undergo (hr : h.CredentialRecord context manager looked)
    {occasions : List Occasion}
    (hsame : ∀ occasion ∈ occasions,
      occasion.context = context ∧ occasion.manager = manager) :
    (h.undergo occasions).state.CredentialRecord context manager
      ((lastLook? occasions).or looked) := by
  induction occasions generalizing h looked with
  | nil => exact hr
  | cons occasion occasions ih =>
    obtain ⟨⟨hc, hm⟩, hrest⟩ := List.forall_mem_cons.1 hsame
    rw [lastLook?_cons_or]
    exact ih (hr.meet hc hm) hrest

/-- A handshake that is handed out holds its suite's own credential. -/
theorem credentialRecord_of_opens {server : Server} {offer : Offer}
    (ho : server.Opens manager offer h) : h.CredentialRecord server.context manager none := by
  obtain ⟨steps, hsteps, rfl⟩ := undergo_of_opens manager h ho
  have hrecord := (credentialRecord_start offer).undergo
    (surroundings_of_mem server.context manager .fresh steps)
  rcases hsteps with rfl | rfl
  · exact hrecord
  · -- The last search of a negotiation is a selection, and leaves the suite's own.
    intro suite hs
    obtain ⟨version, own, hheld⟩ := hrecord suite hs
    exact ⟨version, own, hheld.fixed, hheld.found, hheld.credential⟩

/-! ## The session's certificates -/

/-- What a handshake that was handed out holds together with its suite, whatever is done to
    it, and which certificates its session carries.

    The suite has a credential of its own: of the kind that its key exchange calls for and,
    for a certified suite, made from what the key store holds for its type.  The handshake
    holds this one exactly if its last search for a credential was a selection, or was for
    a single suite and found the same.  A session carries the chain of the credential that
    is held; if that is the suite's own, the suite is certified and the provider keeps
    chains, it is the chain of the key store and not empty. -/
theorem credential_of_suite_iff {server : Server} {manager : Manager} {offer : Offer}
    {h : Handshake} (ho : server.Opens manager offer h) (occasions : List Occasion)
    (hsame : ∀ occasion ∈ occasions,
      occasion.context = server.context ∧ occasion.manager = manager) :
    let lived := h.undergo occasions
    ∀ suite, lived.state.suite = some suite → ∃ version own,
      let resolver := lived.state.resolver server.context version
      lived.state.version = some version ∧ resolver.OwnCredential suite own ∧
      (lived.state.credential = some own ↔ ∀ look, lastLook? occasions = some look →
        look.operation = .selectedCipherSuite ∨ look.finds resolver = some own) ∧
      ∀ last, ∀ session ∈ Event.sessions (lived.state.meet last).events,
        session.suite = suite ∧
        session.localCertificates = presentedChain lived.state.credential ∧
        (lived.state.credential = some own → server.context.provider.KeepsChains →
          ∀ auth, suite.keyExchange = .certified auth → ∃ store identity,
            server.context.keyStore = some store ∧ store.identity? auth = some identity ∧
              session.localCertificates = identity.chain ∧ identity.chain ≠ []) := by
  intro lived suite hs
  have hrecord : lived.state.CredentialRecord server.context manager
      ((lastLook? occasions).or none) := (credentialRecord_of_opens ho).undergo hsame
  rw [Option.or_none] at hrecord
  obtain ⟨version, own, hheld⟩ := hrecord suite hs
  obtain ⟨-, hstandalone, -⟩ := (Resolver.firstPassing_eq_some_iff ..).1 hheld.found
  have hown := Resolver.ownCredential_of_standalone hstandalone
  refine ⟨version, own, hheld.fixed, hown, ?_, ?_⟩
  · rw [hheld.credential]
    exact leftBy_eq_own_iff
  · intro last session hsession
    obtain ⟨parameters, _, selected, -, -, -, hselected, rfl⟩ :=
      (mem_sessions_meet_iff _).1 hsession
    obtain rfl : selected = suite := Option.some.inj (hselected.symm.trans hs)
    refine ⟨rfl, rfl, ?_⟩
    intro hlive hkeeps auth hx
    obtain ⟨store, identity, hstore, hidentity, hmakes⟩ := hown.origin auth hx
    refine ⟨store, identity, hstore, hidentity, ?_, (KeyStore.fits_of_identity? hidentity).2⟩
    show presentedChain lived.state.credential = identity.chain
    rw [hlive, presentedChain, Option.bind_some, hmakes.chain? hkeeps]
    rfl

/-- The plain provider keeps chains. -/
theorem keepsChains_complete : Provider.complete.KeepsChains := by
  refine ⟨?_, ?_, ?_⟩
  · rintro chain key _ ⟨⟩
    rfl
  · rintro chain key scheme _ ⟨⟩
    rfl
  · rintro chain key _ ⟨⟩
    rfl

/-- Another suite that the same identity serves is tried after the selection; the session
    still carries the chain of the selected one. -/
theorem credential_after_try_of_same_type :
    let context := Context.plain [.rsaWithAes128CbcSha] [.rsa]
    let h := (Server.accept (.plain [.rsaWithAes128CbcSha])).state
    let steps := negotiationSteps ++ [.selectCipherSuite 0 .rsaWithAes256CbcSha]
    let lived := h.undergo (steps.map fun step => ⟨context, .refusing [], .fresh, step⟩)
    let last : Occasion := ⟨context, .refusing [], .fresh, .complete ⟨[1], [2]⟩⟩
    Event.sessions (lived.state.meet last).events ≠ [] ∧
      ∀ session ∈ Event.sessions (lived.state.meet last).events,
        session.suite = .rsaWithAes128CbcSha ∧
          session.localCertificates = Identity.plainRsa.chain := by
  intro context h steps lived last
  refine ⟨by decide +kernel, ?_⟩
  intro session hsession
  have ho : Server.Opens ⟨context⟩ (.refusing []) (.plain [.rsaWithAes128CbcSha]) h := .accepted
  obtain ⟨version, own, hversion, hown, hiff, hsessions⟩ :=
    credential_of_suite_iff ho _ (surroundings_of_mem context (.refusing []) .fresh steps)
      .rsaWithAes128CbcSha (by decide +kernel)
  have hfixed : lived.state.version = some .tls12 := by decide +kernel
  obtain rfl : Version.tls12 = version := Option.some.inj (hfixed.symm.trans hversion)
  obtain rfl : Credential.decryptor ⟨Identity.plainRsa.chain⟩ = own := by
    have halone : (lived.state.resolver context .tls12).standalone .rsaWithAes128CbcSha =
        .ok (some (.decryptor ⟨Identity.plainRsa.chain⟩)) := rfl
    exact Option.some.inj (Except.ok.inj (halone.symm.trans hown.standalone))
  have hlive : lived.state.credential = some (.decryptor ⟨Identity.plainRsa.chain⟩) := by
    refine hiff.2 ?_
    rintro look ⟨⟩
    exact Or.inr rfl
  obtain ⟨hsuite, -, hchain⟩ := hsessions last session hsession
  obtain ⟨store, identity, hstore, hidentity, hlocal, -⟩ :=
    hchain hlive keepsChains_complete .rsa rfl
  obtain rfl : KeyStore.single [.rsa] .plainRsa = store := Option.some.inj hstore
  obtain rfl : Identity.plainRsa = identity := Option.some.inj hidentity
  exact ⟨hsuite, hlocal⟩

/-- Another suite is tried after the selection, and served by another identity: the
    handshake holds a signer for its RSA key transport, and the session carries the other
    chain. -/
theorem session_with_credential_of_other_suite :
    let context : Context :=
      { Context.plain [.rsaWithAes128CbcSha] [] with keyStore := some .twofold }
    let h := (Server.accept (.plain [.rsaWithAes128CbcSha])).state
    let steps := negotiationSteps ++ [.selectCipherSuite 0 .ecdheRsaWithAes128GcmSha256]
    let lived := h.undergo (steps.map fun step => ⟨context, .refusing [], .fresh, step⟩)
    let now := lived.state.meet ⟨context, .refusing [], .fresh, .complete ⟨[1], [2]⟩⟩
    lived.state.suite = some .rsaWithAes128CbcSha ∧
      lived.state.credential.map Credential.kind = some "signer" ∧
      (Event.sessions now.events).map Session.suite = [.rsaWithAes128CbcSha] ∧
      (Event.sessions now.events).map Session.localCertificates = [Identity.otherRsa.chain] ∧
      (KeyStore.twofold.identity? .rsa).map Identity.chain = some Identity.plainRsa.chain := by
  decide +kernel

end Handshake

end TlsHandshake
