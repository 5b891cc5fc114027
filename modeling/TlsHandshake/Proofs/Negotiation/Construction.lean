/-
  TlsHandshake.Proofs.Negotiation.Construction

  A credential is only ever made from an identity that fits.

  The provider makes credentials, and a suite is worth at most one call to it.  Before that
  call the key store has been asked for an alias of the suite's authentication type and for
  what it keeps there, and the call passes on what it answered: a key of the type that the
  exchange needs, with a chain that is not empty.  What the key is used for decides which of
  the three calls is made.

    * `Call.Constructs` — the call that fits what a key is used for;
    * `calls_query` — what the key store is asked;
    * `Ending` — the four ways in which the search for a credential ends;
    * `ending_resolve` — there are no others;
    * `credential_made_from_fitting_identity` — which calls are made, and what is answered.
-/

import TlsHandshake.Proofs.Negotiation.RoundMemory
import TlsHandshake.Proofs.Plain

namespace TlsHandshake

/-! ## Calls that make a credential -/

/-- The call has the provider make a credential. -/
def Call.isConstruction : Call → Bool
  | .makeAgreement _ | .makeSigner _ _ | .makeDecryptor _ => true
  | _ => false

/-- The call has the provider make a credential from this identity, of the kind that fits
    what its key is used for. -/
inductive Call.Constructs (identity : Identity) : KeyUse → Call → Prop
  | agreement : Constructs identity .agreement (.makeAgreement identity)
  | signer {algorithm : SignatureAlgorithm} {scheme : Option SignatureScheme} :
      Constructs identity (.signing algorithm) (.makeSigner identity scheme)
  | decryptor : Constructs identity .decryption (.makeDecryptor identity)

theorem Call.Constructs.isConstruction {identity : Identity} {keyUse : KeyUse} {call : Call}
    (hc : call.Constructs identity keyUse) : call.isConstruction = true := by
  cases hc <;> rfl

/-- The calls among some events that make a credential, in order. -/
def Event.constructions (events : List Event) : List Call :=
  (calls events).filter Call.isConstruction

@[simp] theorem Event.constructions_append (earlier later : List Event) :
    constructions (earlier ++ later) = constructions earlier ++ constructions later := by
  rw [constructions, calls_append, List.filter_append]
  rfl

/-- The key store's answers make no credential; the call that follows them may. -/
theorem Event.constructions_of_calls {events : List Event} {auth : AuthType}
    {keyAlias : String} {call : Call} (hk : call.isConstruction = true)
    (hc : calls events =
      [.chooseAlias auth, .privateKey keyAlias, .certificateChain keyAlias, call]) :
    constructions events = [call] := by
  rw [constructions, hc]
  show [call].filter Call.isConstruction = _
  rw [List.filter_cons_of_pos hk, List.filter_nil]

/-- What the provider answers to a call, if it is one that makes a credential. -/
def Provider.construct? (provider : Provider) :
    Call → Option (Except ProviderError Credential)
  | .makeAgreement identity =>
    some ((provider.agreement identity.chain identity.key).map .agreement)
  | .makeSigner identity scheme =>
    some ((provider.signer identity.chain identity.key scheme).map .signer)
  | .makeDecryptor identity =>
    some ((provider.decryptor identity.chain identity.key).map .decryptor)
  | _ => none

namespace Resolver

variable (resolver : Resolver) {auth : AuthType} {store : KeyStore} {identity : Identity}

theorem constructs_makingCall (auth : AuthType) (identity : Identity) :
    (resolver.makingCall auth identity).Constructs identity auth.keyUse := by
  unfold makingCall
  cases auth.keyUse with
  | agreement => exact .agreement
  | signing algorithm => exact .signer
  | decryption => exact .decryptor

theorem construct?_makingCall (auth : AuthType) (identity : Identity) :
    resolver.provider.construct? (resolver.makingCall auth identity) =
      some (resolver.making auth identity) := by
  unfold makingCall making
  cases auth.keyUse <;> rfl

/-- Making a credential leaves the round as it is, whatever the provider answers. -/
theorem made_parts (round : Round) (call : Call) (result : Except ProviderError Credential) :
    made round call result = ⟨(made round call result).answer, round, [.call call]⟩ := by
  cases result <;> rfl

/-! ## Calls to the key store -/

/-- The key store is asked for an alias, and if it has one for what is kept there. -/
theorem calls_query (store : KeyStore) (auth : AuthType) (round : Round) :
    Event.calls (query store auth round).events =
      .chooseAlias auth :: (store.chooseAlias auth).elim []
        fun keyAlias => [.privateKey keyAlias, .certificateChain keyAlias] := by
  unfold query fetch
  cases store.chooseAlias auth with
  | none => rfl
  | some keyAlias =>
    -- What is kept under the alias is asked for in any case, and then judged.
    show Event.calls (Outcome.after _ _).events = _
    split <;> rfl

theorem constructions_query (store : KeyStore) (auth : AuthType) (round : Round) :
    Event.constructions (query store auth round).events = [] := by
  rw [Event.constructions, calls_query]
  cases store.chooseAlias auth <;> rfl

/-! ## How the search for a credential ends -/

/-- What the search for the credential of a suite comes to. -/
inductive Ending (resolver : Resolver) (suite : CipherSuite) (round : Round) :
    Attempt Round (Option Credential) → Prop
  /-- An anonymous suite has a credential that nobody makes. -/
  | anonymous (hx : suite.keyExchange.isAnonymous = true) :
      Ending resolver suite round ⟨.ok (some .anonymous), round, []⟩
  | unsupported (hx : suite.keyExchange = .unsupported) :
      Ending resolver suite round ⟨.ok none, round, [.log (.keyExchangeUnsupported suite)]⟩
  /-- The provider is not called for a type that has nothing to be served with. -/
  | unserved {auth : AuthType} {left : Round} {events : List Event}
      (hx : suite.keyExchange = .certified auth) (hc : Event.constructions events = []) :
      Ending resolver suite round ⟨.ok none, left, events⟩
  /-- The provider is called once, with the identity that the key store holds. -/
  | constructed {auth : AuthType} {store : KeyStore} {keyAlias : String} {identity : Identity}
      {call : Call} {result : Except ProviderError Credential} {left : Round}
      {events : List Event} (hx : suite.keyExchange = .certified auth)
      (hs : resolver.keyStore = some store) (ha : store.chooseAlias auth = some keyAlias)
      (hf : store.fitting? auth keyAlias = some identity)
      (hk : call.Constructs identity auth.keyUse)
      (hc : Event.calls events =
        [.chooseAlias auth, .privateKey keyAlias, .certificateChain keyAlias, call])
      (hm : resolver.provider.construct? call = some result) :
      Ending resolver suite round ⟨(made left call result).answer, left, events⟩

/-- A key store that was asked and holds nothing leaves the suite without credential. -/
theorem ending_of_identity?_none {suite : CipherSuite} (hx : suite.keyExchange = .certified auth)
    (hi : store.identity? auth = none) (round : Round) :
    Ending resolver suite round (resolver.equip auth (query store auth round)) := by
  rw [query_of_identity?_none hi round]
  exact .unserved hx (constructions_query store auth .fresh)

/-- What a key store holds is turned into a credential. -/
theorem equip_query_of_identity?_some (hi : store.identity? auth = some identity)
    (round : Round) :
    resolver.equip auth (query store auth round) =
      (resolver.credentialFrom auth identity round.query).after
        (query store auth .fresh).events := by
  rw [query_of_identity?_some hi round]
  rfl

/-- From what it holds the credential is made, unless a scheme is missing. -/
theorem ending_of_identity?_some {suite : CipherSuite} (hx : suite.keyExchange = .certified auth)
    (hs : resolver.keyStore = some store) (hi : store.identity? auth = some identity)
    (round : Round) :
    Ending resolver suite round (resolver.equip auth (query store auth round)) := by
  obtain ⟨keyAlias, ha, hf⟩ := Option.bind_eq_some_iff.1 hi
  have hasked : Event.calls (query store auth .fresh).events =
      [.chooseAlias auth, .privateKey keyAlias, .certificateChain keyAlias] := by
    rw [calls_query, ha]
    rfl
  have hquiet := constructions_query store auth .fresh
  rw [equip_query_of_identity?_some resolver hi round, credentialFrom_eq]
  by_cases hl : resolver.lacksScheme auth = true
  · rw [if_pos hl]
    refine .unserved hx ?_
    rw [Event.constructions_append, hquiet]
    rfl
  · rw [if_neg hl, made_parts]
    have hm := resolver.construct?_makingCall auth identity
    have hk := resolver.constructs_makingCall auth identity
    -- The call comes after those to the key store, and decides the answer.
    refine .constructed hx hs ha hf hk ?_ hm
    show Event.calls ((query store auth .fresh).events ++ [.call _]) = _
    rw [Event.calls_append, hasked]
    rfl

/-- The search for a credential ends in one of these ways. -/
theorem ending_resolve (suite : CipherSuite) (round : Round) :
    Ending resolver suite round (resolver.resolve suite round) := by
  cases hx : suite.keyExchange with
  | anonymousDh | anonymousEcdh =>
    simp only [resolve, hx]
    exact .anonymous (by rw [hx]; rfl)
  | unsupported =>
    simp only [resolve, hx]
    exact .unsupported hx
  | certified auth =>
    cases hs : resolver.keyStore with
    | none =>
      rw [resolve_of_keyStore_none hx hs]
      exact .unserved hx rfl
    | some store =>
      by_cases hm : auth ∈ round.misses
      · rw [resolve_of_mem hx hm]
        exact .unserved hx rfl
      · rw [resolve_eq_equip_query hx hs hm]
        cases hi : store.identity? auth with
        | none => exact resolver.ending_of_identity?_none hx hi round
        | some identity => exact resolver.ending_of_identity?_some hx hs hi round

/-! ## What is made, and what is answered -/

/-- The answer that a construction comes to: the credential, or the failure of the provider. -/
theorem made_answer_eq_ok_iff (round : Round) (call : Call)
    (result : Except ProviderError Credential) (credential : Credential) :
    (made round call result).answer = .ok (some credential) ↔ result = .ok credential := by
  cases result <;> simp [made]

theorem made_answer_eq_error_iff (round : Round) (call : Call)
    (result : Except ProviderError Credential) (failure : Failure) :
    (made round call result).answer = .error failure ↔
      ∃ error, failure = .provider error ∧ result = .error error := by
  cases result <;> simp [made, eq_comm]

/-- Whatever the key store holds, whatever the round has recorded and whichever the suite is,
    the provider is called at most once to make a credential.  The call is the one that fits
    what the suite's exchange uses the key for, and passes on what the key store answered just
    before for the alias that it chose: a key of the type that the exchange needs, and a chain
    that is not empty.

    A credential is answered exactly if this call succeeds or the suite is anonymous, a failure
    exactly if the call fails, and nothing exactly if the call is not made and the suite is not
    anonymous.  For a suite that has no authentication type nobody is called and nothing is
    remembered. -/
theorem credential_made_from_fitting_identity (resolver : Resolver) (suite : CipherSuite)
    (round : Round) :
    let resolved := resolver.resolve suite round
    let constructions := Event.constructions resolved.events
    let construct? := resolver.provider.construct?
    constructions.length ≤ 1 ∧
    (∀ call ∈ constructions, ∃ auth store keyAlias identity,
      suite.keyExchange = .certified auth ∧ resolver.keyStore = some store ∧
      Event.calls resolved.events =
        [.chooseAlias auth, .privateKey keyAlias, .certificateChain keyAlias, call] ∧
      store.chooseAlias auth = some keyAlias ∧
      store.privateKey keyAlias = some identity.key ∧
      store.certificateChain keyAlias = identity.chain ∧
      call.Constructs identity auth.keyUse ∧
      identity.key.keyType = auth.keyType ∧ identity.chain ≠ []) ∧
    (∀ credential, resolved.answer = .ok (some credential) ↔
      (suite.keyExchange.isAnonymous = true ∧ credential = .anonymous) ∨
        ∃ call ∈ constructions, construct? call = some (.ok credential)) ∧
    (∀ failure, resolved.answer = .error failure ↔
      ∃ error, failure = .provider error ∧
        ∃ call ∈ constructions, construct? call = some (.error error)) ∧
    (∀ failure, resolved.answer = .error failure → failure.alert? = some .internalError) ∧
    (resolved.answer = .ok none ↔
      suite.keyExchange.isAnonymous = false ∧ constructions = []) ∧
    (suite.keyExchange.isAnonymous = true ∨ suite.keyExchange = .unsupported →
      Event.calls resolved.events = [] ∧ resolved.state = round) := by
  intro resolved constructions construct?
  have hend : Ending resolver suite round resolved := resolver.ending_resolve suite round
  -- From here on only the way in which the search ended counts, not how it came to that.
  clear_value resolved
  cases hend with
  | anonymous hx =>
    have hnone : constructions = [] := rfl
    refine ⟨by simp [hnone], by simp [hnone], ?_, by simp [hnone], by simp, by simp [hx], ?_⟩
    · intro credential
      simp [hnone, hx, eq_comm (a := credential)]
    · intro _
      exact ⟨rfl, rfl⟩
  | unsupported hx =>
    have hnone : constructions = [] := rfl
    simp [hnone, hx, KeyExchange.isAnonymous]
  | unserved hx hc =>
    have hnone : constructions = [] := hc
    simp [hnone, hx, KeyExchange.isAnonymous]
  | @constructed auth store keyAlias identity call result left events hx hs ha hf hk hc hm =>
    have hone : constructions = [call] := Event.constructions_of_calls hk.isConstruction hc
    have hnamed : suite.keyExchange.isAnonymous = false := by
      rw [hx]
      rfl
    obtain ⟨hkey, hchain, htype, hne⟩ :=
      (store.fitting?_eq_some_iff auth keyAlias identity).1 hf
    refine ⟨by simp [hone], ?_, ?_, ?_, ?_, ?_, by simp [hx, KeyExchange.isAnonymous]⟩
    · intro other hmem
      obtain rfl : other = call := by simpa [hone] using hmem
      exact ⟨auth, store, keyAlias, identity, hx, hs, hc, ha, hkey, hchain, hk, htype, hne⟩
    · intro credential
      rw [made_answer_eq_ok_iff]
      simp [hone, hnamed, construct?, hm]
    · intro failure
      rw [made_answer_eq_error_iff]
      simp [hone, construct?, hm]
    · intro failure hfailed
      obtain ⟨error, rfl, -⟩ := (made_answer_eq_error_iff ..).1 hfailed
      rfl
    · -- A call that is made is answered by a credential or by a failure.
      refine ⟨fun hn => (made_answer_ne_none _ _ _ hn).elim, ?_⟩
      rintro ⟨-, hnone⟩
      rw [hone] at hnone
      cases hnone

/-- Of two RSA identities the signer is made from the one that is held for signing. -/
theorem signer_made_from_its_identity :
    let resolver : Resolver := ⟨some .twofold, .complete, .tls12, none⟩
    let resolved := resolver.resolve .ecdheRsaWithAes128GcmSha256 .fresh
    (Event.constructions resolved.events).length = 1 ∧
      ∀ call ∈ Event.constructions resolved.events, ∃ identity,
        call.Constructs identity (.signing .rsa) ∧ identity.chain = Identity.otherRsa.chain := by
  intro resolver resolved
  obtain ⟨-, hmade, -⟩ :=
    credential_made_from_fitting_identity resolver .ecdheRsaWithAes128GcmSha256 .fresh
  refine ⟨by decide, ?_⟩
  intro call hc
  obtain ⟨auth, store, keyAlias, identity, hx, hs, -, ha, -, hchain, hk, -, -⟩ := hmade call hc
  obtain rfl : AuthType.ecdheRsa = auth := KeyExchange.certified.inj hx
  obtain rfl : KeyStore.twofold = store := Option.some.inj hs
  obtain rfl : "other" = keyAlias := Option.some.inj ha
  exact ⟨identity, hk, hchain.symm⟩

end Resolver

end TlsHandshake
