/-
  TlsHandshake.Proofs.Negotiation.RoundMemory

  What a round remembers never changes what a suite is worth.

  A round records only types for which the key store is of no use: it holds no fitting
  identity (`KeyStore.identity?`), or the type signs and no signature scheme is left
  (`lacksScheme`).  Such a type would miss again, so a suite of it that is passed over
  without asking gets what it would get in a fresh round.

    * `credentialFrom_eq` — the one normal form for making a credential;
    * `resolve_of_not_mem` — a suite whose type is not recorded: the answer and the
      events of a fresh round, and at most one more miss;
    * `resolve_of_mem` — a suite whose type is recorded: nothing happens;
    * `mem_misses_resolve` — what is recorded afterwards;
    * `resolve_answer_of_sound` and `sound_resolve` — the two together, for a round whose
      records are all `Sound`.
-/

import TlsHandshake.Negotiation.Reference

namespace TlsHandshake

namespace Resolver

variable (resolver : Resolver)

/-! ## Types for which there is nothing -/

/-- The type signs, the version has signature schemes, and none is left to sign with. -/
def lacksScheme (auth : AuthType) : Bool :=
  match auth.keyUse with
  | .signing algorithm =>
    resolver.version.hasSignatureSchemes && (resolver.scheme? algorithm).isNone
  | .agreement | .decryption => false

/-- The store has nothing to serve the type with. -/
def lacks (store : KeyStore) (auth : AuthType) : Bool :=
  (store.identity? auth).isNone || resolver.lacksScheme auth

theorem lacks_of_identity?_none {store : KeyStore} {auth : AuthType}
    (h : store.identity? auth = none) : resolver.lacks store auth = true := by
  simp [lacks, h]

theorem lacks_of_identity?_some {store : KeyStore} {auth : AuthType} {identity : Identity}
    (h : store.identity? auth = some identity) :
    resolver.lacks store auth = resolver.lacksScheme auth := by
  simp [lacks, h]

/-! ## Making a credential -/

/-- The scheme that a signer for the algorithm is asked to name. -/
def signerScheme (algorithm : SignatureAlgorithm) : Option SignatureScheme :=
  if resolver.version.hasSignatureSchemes then resolver.scheme? algorithm else none

/-- The call that makes a credential of the type. -/
def makingCall (auth : AuthType) (identity : Identity) : Call :=
  match auth.keyUse with
  | .agreement => .makeAgreement identity
  | .decryption => .makeDecryptor identity
  | .signing algorithm => .makeSigner identity (resolver.signerScheme algorithm)

/-- What the provider answers to that call. -/
def making (auth : AuthType) (identity : Identity) : Except ProviderError Credential :=
  match auth.keyUse with
  | .agreement => (resolver.provider.agreement identity.chain identity.key).map .agreement
  | .decryption => (resolver.provider.decryptor identity.chain identity.key).map .decryptor
  | .signing algorithm =>
    (resolver.provider.signer identity.chain identity.key
      (resolver.signerScheme algorithm)).map .signer

theorem makingCall_ne_chooseAlias (auth other : AuthType) (identity : Identity) :
    resolver.makingCall auth identity ≠ .chooseAlias other := by
  cases auth <;> simp [makingCall, AuthType.keyUse]

/-- A credential is made by one call of the provider, unless a scheme is missing. -/
theorem credentialFrom_eq (auth : AuthType) (identity : Identity) (round : Round) :
    resolver.credentialFrom auth identity round =
      if resolver.lacksScheme auth then
        ⟨.ok none, round.miss auth, [.log (.schemeMissing auth)]⟩
      else made round (resolver.makingCall auth identity) (resolver.making auth identity) := by
  unfold credentialFrom lacksScheme makingCall making signerScheme makeSigner
  cases auth.keyUse with
  | agreement => rfl
  | decryption => rfl
  | signing algorithm =>
    by_cases hv : resolver.version.hasSignatureSchemes = true
    · cases hs : resolver.scheme? algorithm with
      | none => simp [hv, hs]
      | some scheme => simp [hv, hs]
    · simp [hv]

theorem made_answer_ne_none (round : Round) (call : Call)
    (result : Except ProviderError Credential) : (made round call result).answer ≠ .ok none := by
  cases result <;> simp [made]

theorem made_events (round : Round) (call : Call) (result : Except ProviderError Credential) :
    (made round call result).events = [.call call] := by
  cases result <;> rfl

/-- A credential is not made only if the provider fails. -/
theorem provider_of_made_error {round : Round} {call : Call}
    {result : Except ProviderError Credential} {failure : Failure}
    (h : (made round call result).answer = .error failure) :
    ∃ error, failure = .provider error := by
  cases result with
  | ok credential => simp [made] at h
  | error error => exact ⟨error, by simpa [made] using h.symm⟩

/-- The answer and the events do not depend on the round. -/
theorem made_eq (round : Round) (call : Call) (result : Except ProviderError Credential) :
    made round call result = (made .fresh call result).withState round := by
  cases result <;> rfl

/-! ## Asking the key store -/

/-- A round after its key store was asked for the type. -/
def settle (store : KeyStore) (auth : AuthType) (round : Round) : Round :=
  if resolver.lacks store auth then round.query.miss auth else round.query

theorem mem_misses_settle (store : KeyStore) (auth other : AuthType) (round : Round) :
    other ∈ (resolver.settle store auth round).misses ↔
      (other = auth ∧ resolver.lacks store auth = true) ∨ other ∈ round.misses := by
  unfold settle
  by_cases h : resolver.lacks store auth = true
  · rw [if_pos h, Round.mem_misses_miss, Round.misses_query]
    simp [h]
  · rw [if_neg h, Round.misses_query]
    simp [h]

theorem query_of_identity?_none {store : KeyStore} {auth : AuthType}
    (h : store.identity? auth = none) (round : Round) :
    query store auth round = ⟨none, round.query.miss auth, (query store auth .fresh).events⟩ := by
  unfold query
  cases ha : store.chooseAlias auth with
  | none => rfl
  | some keyAlias =>
    have hf : store.fitting? auth keyAlias = none := by simpa [KeyStore.identity?, ha] using h
    -- An alias without a fitting identity is a miss like no alias at all.
    simp only [fetch, hf]
    rfl

theorem query_of_identity?_some {store : KeyStore} {auth : AuthType} {identity : Identity}
    (h : store.identity? auth = some identity) (round : Round) :
    query store auth round =
      ⟨some identity, round.query, (query store auth .fresh).events⟩ := by
  unfold query
  cases ha : store.chooseAlias auth with
  | none => simp [KeyStore.identity?, ha] at h
  | some keyAlias =>
    have hf : store.fitting? auth keyAlias = some identity := by
      simpa [KeyStore.identity?, ha] using h
    simp only [fetch, hf]
    rfl

/-- Once the key store is asked, the round decides neither the answer nor the events. -/
theorem equip_query (store : KeyStore) (auth : AuthType) (round : Round) :
    resolver.equip auth (query store auth round) =
      (resolver.equip auth (query store auth .fresh)).withState
        (resolver.settle store auth round) := by
  cases h : store.identity? auth with
  | none =>
    have hl := resolver.lacks_of_identity?_none h
    rw [query_of_identity?_none h round, query_of_identity?_none h .fresh]
    simp [equip, settle, hl, Outcome.withState]
  | some identity =>
    have hl := resolver.lacks_of_identity?_some h
    rw [query_of_identity?_some h round, query_of_identity?_some h .fresh]
    by_cases hs : resolver.lacksScheme auth = true
    · -- Found, but there is no scheme to sign with: the miss comes after the query.
      simp [equip, settle, credentialFrom_eq, hl, hs, Outcome.withState, Outcome.after]
    · -- The provider is called, and the round is only passed through.
      simp only [equip, settle, credentialFrom_eq, hl, if_neg hs]
      rw [made_eq round.query, made_eq Round.fresh.query]
      rfl

/-- An asked key store leads to a failure only if the provider fails. -/
theorem provider_of_equip_query_error {store : KeyStore} {auth : AuthType} {round : Round}
    {failure : Failure}
    (h : (resolver.equip auth (query store auth round)).answer = .error failure) :
    ∃ error, failure = .provider error := by
  -- Nothing found and no scheme left are both answered without credential, so the failure
  -- is that of making one.
  cases hi : store.identity? auth with
  | none =>
    rw [query_of_identity?_none hi round] at h
    simp [equip] at h
  | some identity =>
    rw [query_of_identity?_some hi round] at h
    simp only [equip, credentialFrom_eq, Outcome.after_answer] at h
    by_cases hs : resolver.lacksScheme auth = true
    · simp [hs] at h
    · rw [if_neg hs] at h
      exact provider_of_made_error h

/-- An asked key store is of no use exactly if the type lacks something. -/
theorem equip_query_eq_none_iff (store : KeyStore) (auth : AuthType) (round : Round) :
    (resolver.equip auth (query store auth round)).answer = .ok none ↔
      resolver.lacks store auth = true := by
  cases h : store.identity? auth with
  | none =>
    rw [query_of_identity?_none h round, resolver.lacks_of_identity?_none h]
    simp [equip]
  | some identity =>
    rw [query_of_identity?_some h round, resolver.lacks_of_identity?_some h]
    simp only [equip, credentialFrom_eq, Outcome.after_answer]
    by_cases hs : resolver.lacksScheme auth = true
    · simp [hs]
    · rw [if_neg hs]
      exact ⟨fun hn => (made_answer_ne_none _ _ _ hn).elim, fun hl => (hs hl).elim⟩

/-! ## Resolving a suite -/

variable {resolver} {suite : CipherSuite} {auth : AuthType} {store : KeyStore} {round : Round}

/-- Without a key store a certified suite gets nothing, and nothing is remembered. -/
theorem resolve_of_keyStore_none (hx : suite.keyExchange = .certified auth)
    (hs : resolver.keyStore = none) : resolver.resolve suite round = ⟨.ok none, round, []⟩ := by
  simp [resolve, hx, lookup, hs, equip]

/-- A suite whose type is recorded gets nothing, and nothing is asked. -/
theorem resolve_of_mem (hx : suite.keyExchange = .certified auth)
    (hm : auth ∈ round.misses) : resolver.resolve suite round = ⟨.ok none, round, []⟩ := by
  have hc : round.misses.contains auth = true := (MissCache.contains_iff ..).2 hm
  cases hs : resolver.keyStore with
  | none => exact resolve_of_keyStore_none hx hs
  | some store => simp [resolve, hx, lookup, hs, hc, equip]

/-- A suite whose type is not recorded has the key store asked. -/
theorem resolve_eq_equip_query (hx : suite.keyExchange = .certified auth)
    (hs : resolver.keyStore = some store) (hm : auth ∉ round.misses) :
    resolver.resolve suite round = resolver.equip auth (query store auth round) := by
  have hc : round.misses.contains auth = false :=
    Bool.eq_false_iff.2 (mt (MissCache.contains_iff ..).1 hm)
  simp [resolve, hx, lookup, hs, hc]

theorem resolve_fresh_eq_equip_query (hx : suite.keyExchange = .certified auth)
    (hs : resolver.keyStore = some store) :
    resolver.resolve suite .fresh = resolver.equip auth (query store auth .fresh) :=
  resolve_eq_equip_query hx hs (MissCache.not_mem_empty auth)

/-- A suite whose type is not recorded gets what it gets in a fresh round. -/
theorem resolve_of_not_mem (hx : suite.keyExchange = .certified auth)
    (hs : resolver.keyStore = some store) (hm : auth ∉ round.misses) :
    resolver.resolve suite round =
      (resolver.resolve suite .fresh).withState (resolver.settle store auth round) := by
  rw [resolve_eq_equip_query hx hs hm, resolve_fresh_eq_equip_query hx hs]
  exact resolver.equip_query store auth round

/-- A suite of no type leaves the round as it is and asks nobody. -/
theorem resolve_of_authType?_none (hx : suite.keyExchange.authType? = none) :
    resolver.resolve suite round = (resolver.resolve suite .fresh).withState round := by
  unfold resolve
  cases hk : suite.keyExchange with
  | certified auth => simp [hk, KeyExchange.authType?] at hx
  | anonymousDh | anonymousEcdh | unsupported => rfl

/-- A suite adds its own type to the records, and only if there is nothing for it. -/
theorem mem_misses_resolve (hs : resolver.keyStore = some store) :
    auth ∈ (resolver.resolve suite round).state.misses ↔
      auth ∈ round.misses ∨
        (suite.keyExchange = .certified auth ∧ resolver.lacks store auth = true) := by
  cases hx : suite.keyExchange.authType? with
  | none =>
    have hne : suite.keyExchange ≠ .certified auth := by
      intro hk
      simp [hk, KeyExchange.authType?] at hx
    rw [resolve_of_authType?_none hx]
    simp [Outcome.withState, hne]
  | some type =>
    have hk := (KeyExchange.authType?_eq_some_iff _ _).1 hx
    have hsame : suite.keyExchange = .certified auth ↔ auth = type := by
      rw [hk, KeyExchange.certified.injEq, eq_comm]
    rw [hsame]
    by_cases hm : type ∈ round.misses
    · -- Recorded before: the round stays, and the suite's type is one of its records.
      rw [resolve_of_mem hk hm]
      refine ⟨Or.inl, ?_⟩
      rintro (hold | ⟨rfl, -⟩)
      · exact hold
      · exact hm
    · -- Asked now: the round is settled for the suite's type.
      rw [resolve_of_not_mem hk hs hm]
      show auth ∈ (resolver.settle store type round).misses ↔ _
      rw [mem_misses_settle]
      constructor
      · rintro (⟨rfl, hl⟩ | hold)
        · exact Or.inr ⟨rfl, hl⟩
        · exact Or.inl hold
      · rintro (hold | ⟨rfl, hl⟩)
        · exact Or.inr hold
        · exact Or.inl ⟨rfl, hl⟩

/-! ## On its own -/

/-- A suite gets nothing on its own exactly if there is nothing for its type. -/
theorem standalone_eq_none_iff (hx : suite.keyExchange = .certified auth)
    (hs : resolver.keyStore = some store) :
    resolver.standalone suite = .ok none ↔ resolver.lacks store auth = true := by
  rw [standalone, resolve_fresh_eq_equip_query hx hs]
  exact resolver.equip_query_eq_none_iff store auth .fresh

/-- No suite fails on its own except for the provider. -/
theorem provider_of_standalone_error {failure : Failure}
    (h : resolver.standalone suite = .error failure) :
    ∃ error, failure = .provider error := by
  unfold standalone at h
  cases hk : suite.keyExchange with
  | anonymousDh | anonymousEcdh | unsupported => simp [resolve, hk] at h
  | certified auth =>
    cases hs : resolver.keyStore with
    | none => simp [resolve_of_keyStore_none hk hs] at h
    | some store =>
      rw [resolve_fresh_eq_equip_query hk hs] at h
      exact resolver.provider_of_equip_query_error h

/-! ## Records that are sound -/

/-- Every recorded type is one for which there is nothing. -/
def Sound (resolver : Resolver) (round : Round) : Prop :=
  ∀ store, resolver.keyStore = some store → ∀ auth ∈ round.misses, resolver.lacks store auth = true

theorem sound_fresh : resolver.Sound .fresh := by
  intro store _ auth hm
  exact (MissCache.not_mem_empty auth hm).elim

/-- Sound records do not show in the answer. -/
theorem resolve_answer_of_sound (hr : resolver.Sound round) (suite : CipherSuite) :
    (resolver.resolve suite round).answer = resolver.standalone suite := by
  cases hx : suite.keyExchange.authType? with
  | none =>
    rw [resolve_of_authType?_none hx]
    rfl
  | some auth =>
    have hk := (KeyExchange.authType?_eq_some_iff _ _).1 hx
    cases hs : resolver.keyStore with
    | none =>
      rw [standalone, resolve_of_keyStore_none hk hs, resolve_of_keyStore_none hk hs]
    | some store =>
      by_cases hm : auth ∈ round.misses
      · -- This is where soundness counts: a recorded type would miss again.
        rw [resolve_of_mem hk hm]
        exact ((standalone_eq_none_iff hk hs).2 (hr store hs auth hm)).symm
      · rw [resolve_of_not_mem hk hs hm]
        rfl

/-- Sound records stay sound. -/
theorem sound_resolve (hr : resolver.Sound round) (suite : CipherSuite) :
    resolver.Sound (resolver.resolve suite round).state := by
  intro store hs auth hm
  rcases (mem_misses_resolve hs).1 hm with hm | ⟨-, hl⟩
  · exact hr store hs auth hm
  · exact hl

end Resolver

end TlsHandshake
