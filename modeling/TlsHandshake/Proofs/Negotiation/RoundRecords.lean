/-
  TlsHandshake.Proofs.Negotiation.RoundRecords

  What a round has recorded after any sequence of suites.

  The records are fixed by which suites there were, not by their order or number: a type
  is recorded exactly if one of the suites is of it and the key store has nothing to serve
  it with.  There are five causes of that (`MissCause`), four of them in the key store and
  one in the signature schemes, and all five are recorded alike.  A failure of the provider
  is no such cause.

    * `lacks_iff_missCause` — nothing to serve a type with, cause by cause;
    * `resolveAll_answer_of_sound` — every suite gets what it gets on its own;
    * `mem_misses_resolveAll` — which types are recorded;
    * `queries_resolveAll` — the queries that are counted are those that were made;
    * `resolveAll_transparent_and_exact` — all of it, for a fresh round.
-/

import TlsHandshake.Proofs.Negotiation.AliasQueries
import TlsHandshake.Proofs.Plain
import Mathlib.Data.List.Basic

namespace TlsHandshake

/-- Caches with the same records have the same size, since none is recorded twice. -/
theorem MissCache.size_eq_of_mem_iff {α : Type} [DecidableEq α] {first second : MissCache α}
    (h : ∀ x, x ∈ first ↔ x ∈ second) : first.size = second.size := by
  have hperm : first.entries.Perm second.entries :=
    (List.perm_ext_iff_of_nodup first.nodup second.nodup).2 h
  exact hperm.length_eq

/-! ## Why there is nothing -/

/-- No identity is held for a type exactly if there is no alias, or what is kept under the
    alias has no key, a key of another type, or an empty chain. -/
theorem KeyStore.identity?_eq_none_iff (store : KeyStore) (auth : AuthType) :
    store.identity? auth = none ↔ ∀ keyAlias, store.chooseAlias auth = some keyAlias →
      ∀ key, store.privateKey keyAlias = some key → key.keyType = auth.keyType →
        store.certificateChain keyAlias = [] := by
  unfold identity?
  cases ha : store.chooseAlias auth with
  | none => simp
  | some keyAlias =>
    simp only [Option.bind_some, Option.some.injEq, forall_eq']
    unfold fitting?
    cases hk : store.privateKey keyAlias with
    | none => simp
    | some key =>
      by_cases ht : key.keyType = auth.keyType
      · by_cases hc : store.certificateChain keyAlias = [] <;> simp [Identity.Fits, ht, hc]
      · simp [Identity.Fits, ht]

namespace Resolver

/-- Why the store has nothing to serve the type with. -/
inductive MissCause (resolver : Resolver) (store : KeyStore) (auth : AuthType) : Prop
  | noAlias (ha : store.chooseAlias auth = none)
  | noKey {keyAlias : String} (ha : store.chooseAlias auth = some keyAlias)
      (hk : store.privateKey keyAlias = none)
  | otherKey {keyAlias : String} {key : KeyHandle} (ha : store.chooseAlias auth = some keyAlias)
      (hk : store.privateKey keyAlias = some key) (ht : key.keyType ≠ auth.keyType)
  | noChain {keyAlias : String} (ha : store.chooseAlias auth = some keyAlias)
      (hc : store.certificateChain keyAlias = [])
  /-- The identity may be there, but no scheme that its key can produce is supported. -/
  | noScheme {algorithm : SignatureAlgorithm} (hu : auth.keyUse = .signing algorithm)
      (hv : resolver.version.hasSignatureSchemes = true)
      (hn : ∀ scheme ∈ resolver.schemesFor algorithm, scheme.usableFor algorithm = true →
        resolver.provider.supportsScheme scheme = false)

variable (resolver : Resolver) (store : KeyStore) (auth : AuthType)

theorem lacksScheme_iff :
    resolver.lacksScheme auth = true ↔ ∃ algorithm, auth.keyUse = .signing algorithm ∧
      resolver.version.hasSignatureSchemes = true ∧
      ∀ scheme ∈ resolver.schemesFor algorithm, scheme.usableFor algorithm = true →
        resolver.provider.supportsScheme scheme = false := by
  unfold lacksScheme scheme?
  cases auth.keyUse with
  | agreement => simp
  | decryption => simp
  | signing algorithm => simp [List.find?_eq_none]

/-- There is nothing to serve a type with exactly if one of the causes is there. -/
theorem lacks_iff_missCause :
    resolver.lacks store auth = true ↔ resolver.MissCause store auth := by
  unfold lacks
  rw [Bool.or_eq_true, Option.isNone_iff_eq_none, KeyStore.identity?_eq_none_iff,
    lacksScheme_iff]
  constructor
  · rintro (hidentity | ⟨algorithm, hu, hv, hn⟩)
    · -- No identity: the first thing on the way to it that is not there is the cause.
      cases ha : store.chooseAlias auth with
      | none => exact .noAlias ha
      | some keyAlias =>
        cases hk : store.privateKey keyAlias with
        | none => exact .noKey ha hk
        | some key =>
          by_cases ht : key.keyType = auth.keyType
          · exact .noChain ha (hidentity keyAlias ha key hk ht)
          · exact .otherKey ha hk ht
    · exact .noScheme hu hv hn
  · intro hcause
    cases hcause with
    | noAlias ha => exact Or.inl (by simp [ha])
    | noKey ha hk => exact Or.inl (by simp [ha, hk])
    | otherKey ha hk ht => exact Or.inl (by simp [ha, hk, ht])
    | noChain ha hc => exact Or.inl (by simp [ha, hc])
    | noScheme hu hv hn => exact Or.inr ⟨_, hu, hv, hn⟩

/-! ## A sequence of suites -/

variable {resolver store auth}

/-- From sound records on, every suite of a sequence gets what it gets on its own. -/
theorem resolveAll_answer_of_sound {round : Round} (hr : resolver.Sound round)
    (suites : List CipherSuite) :
    (resolver.resolveAll suites round).answer = suites.map resolver.standalone := by
  -- The induction carries the soundness of the round that each suite leaves.
  induction suites generalizing round with
  | nil => rfl
  | cons suite suites ih =>
    have hfirst := resolve_answer_of_sound hr suite
    have hothers := ih (sound_resolve hr suite)
    simp only [resolveAll, hfirst, hothers, List.map_cons]

/-- A sequence adds the types of its suites for which there is nothing. -/
theorem mem_misses_resolveAll (hs : resolver.keyStore = some store)
    (suites : List CipherSuite) (round : Round) :
    auth ∈ (resolver.resolveAll suites round).state.misses ↔
      auth ∈ round.misses ∨
        ((∃ suite ∈ suites, suite.keyExchange = .certified auth) ∧
          resolver.lacks store auth = true) := by
  induction suites generalizing round with
  | nil => simp [resolveAll]
  | cons suite suites ih =>
    rw [List.exists_mem_cons_iff, or_and_right, ← or_assoc, ← mem_misses_resolve hs]
    exact ih (resolver.resolve suite round).state

theorem resolveAll_of_keyStore_none (hs : resolver.keyStore = none)
    (suites : List CipherSuite) (round : Round) :
    (resolver.resolveAll suites round).state = round := by
  induction suites generalizing round with
  | nil => rfl
  | cons suite suites ih =>
    have hfirst : (resolver.resolve suite round).state = round := by
      cases hx : suite.keyExchange.authType? with
      | none =>
        rw [resolve_of_authType?_none hx]
        rfl
      | some auth =>
        rw [resolve_of_keyStore_none ((KeyExchange.authType?_eq_some_iff _ _).1 hx) hs]
    have hothers := ih (resolver.resolve suite round).state
    rw [hfirst] at hothers
    simp only [resolveAll, hfirst, hothers]

end Resolver

/-! ## The queries that are counted -/

/-- The call asks the key store for an alias. -/
def Call.asksAlias : Call → Bool
  | .chooseAlias _ => true
  | _ => false

/-- If the store is asked for one type only, the queries are those for this type. -/
theorem Event.countP_asksAlias {events : List Event} {auth : AuthType}
    (h : ∀ other, other ≠ auth → Event.aliasQueries other events = 0) :
    (Event.calls events).countP Call.asksAlias = Event.aliasQueries auth events := by
  apply List.countP_congr
  intro call hm
  cases call with
  | chooseAlias other =>
    by_cases ho : other = auth
    · simp [Call.asksAlias, ho]
    · exact absurd hm (List.count_eq_zero.1 (h other ho))
  | _ => simp [Call.asksAlias]

namespace Resolver

variable {resolver : Resolver}

/-- The round counts one query for a suite exactly if the key store is asked. -/
theorem queries_resolve (suite : CipherSuite) (round : Round) :
    (resolver.resolve suite round).state.queries =
      round.queries +
        (Event.calls (resolver.resolve suite round).events).countP Call.asksAlias := by
  cases hk : suite.keyExchange with
  | anonymousDh | anonymousEcdh | unsupported =>
    simp only [resolve, hk]
    rfl
  | certified auth =>
    cases hs : resolver.keyStore with
    | none =>
      rw [resolve_of_keyStore_none hk hs]
      rfl
    | some store =>
      by_cases hm : auth ∈ round.misses
      · rw [resolve_of_mem hk hm]
        rfl
      · -- The key store is asked once, and for this type, whatever comes of it.
        have hcounted : (resolver.settle store auth round).queries = round.queries + 1 := by
          unfold settle
          split <;> rfl
        have hothers : ∀ other, other ≠ auth → Event.aliasQueries other
            (resolver.equip auth (query store auth round)).events = 0 := by
          intro other hne
          rw [aliasQueries_equip_query, if_neg (Ne.symm hne)]
        rw [resolve_eq_equip_query hk hs hm, Event.countP_asksAlias hothers,
          aliasQueries_equip_query, if_pos rfl, resolver.equip_query store auth round]
        exact hcounted

theorem queries_resolveAll (suites : List CipherSuite) (round : Round) :
    (resolver.resolveAll suites round).state.queries =
      round.queries +
        (Event.calls (resolver.resolveAll suites round).events).countP Call.asksAlias := by
  induction suites generalizing round with
  | nil => rfl
  | cons suite suites ih =>
    have hfirst : (resolver.resolve suite round).state.queries = _ :=
      queries_resolve suite round
    have hothers := ih (resolver.resolve suite round).state
    simp only [resolveAll, Event.calls_append, List.countP_append]
    omega

/-! ## A fresh round -/

/-- What a fresh round remembers does not show and depends on the suites alone.  Every
    suite of a sequence gets what it gets on its own; with a key store the recorded types
    are those of the suites for which there is a cause to miss, in whatever order and
    however often the suites come; without one nothing is recorded or asked; and the
    queries that the round counts are the calls that were made. -/
theorem resolveAll_transparent_and_exact (resolver : Resolver) (suites : List CipherSuite) :
    let resolved := resolver.resolveAll suites .fresh
    resolved.answer = suites.map resolver.standalone ∧
    (∀ store, resolver.keyStore = some store → ∀ auth,
      auth ∈ resolved.state.misses ↔
        (∃ suite ∈ suites, suite.keyExchange = .certified auth) ∧
          resolver.MissCause store auth) ∧
    (∀ others : List CipherSuite, (∀ suite, suite ∈ others ↔ suite ∈ suites) →
      let again := resolver.resolveAll others .fresh
      (∀ auth, auth ∈ again.state.misses ↔ auth ∈ resolved.state.misses) ∧
        again.state.misses.size = resolved.state.misses.size) ∧
    (resolver.keyStore = none → resolved.state.misses = .empty ∧
      ∀ auth, .call (.chooseAlias auth) ∉ resolved.events) ∧
    resolved.state.queries = (Event.calls resolved.events).countP Call.asksAlias := by
  intro resolved
  have hcounted : resolved.state.queries =
      (Event.calls resolved.events).countP Call.asksAlias := by
    have hall : resolved.state.queries = _ := queries_resolveAll suites .fresh
    exact hall.trans (Nat.zero_add _)
  have hrecorded : ∀ (others : List CipherSuite) store, resolver.keyStore = some store →
      ∀ auth, auth ∈ (resolver.resolveAll others .fresh).state.misses ↔
        (∃ suite ∈ others, suite.keyExchange = .certified auth) ∧
          resolver.MissCause store auth := by
    intro others store hs auth
    have hfresh : auth ∉ Round.fresh.misses := MissCache.not_mem_empty auth
    rw [mem_misses_resolveAll hs, ← lacks_iff_missCause]
    exact or_iff_right hfresh
  refine ⟨resolveAll_answer_of_sound sound_fresh suites, hrecorded suites, ?_, ?_, hcounted⟩
  · intro others hsame again
    have hmem : ∀ auth, auth ∈ again.state.misses ↔ auth ∈ resolved.state.misses := by
      intro auth
      cases hs : resolver.keyStore with
      | none =>
        have hleft : again.state = .fresh := resolveAll_of_keyStore_none hs others .fresh
        have hright : resolved.state = .fresh := resolveAll_of_keyStore_none hs suites .fresh
        rw [hleft, hright]
      | some store =>
        rw [hrecorded others store hs auth, hrecorded suites store hs auth]
        simp only [hsame]
    exact ⟨hmem, MissCache.size_eq_of_mem_iff hmem⟩
  · intro hs
    have hstate : resolved.state = .fresh := resolveAll_of_keyStore_none hs suites .fresh
    refine ⟨by rw [hstate]; rfl, ?_⟩
    intro auth hasked
    -- A call would have been counted, but the round is as it was.
    have hcall : Call.chooseAlias auth ∈ Event.calls resolved.events :=
      List.mem_filterMap.2 ⟨_, hasked, rfl⟩
    have hpos : 0 < (Event.calls resolved.events).countP Call.asksAlias :=
      List.countP_pos_iff.2 ⟨_, hcall, rfl⟩
    rw [← hcounted, hstate] at hpos
    exact absurd hpos (Nat.lt_irrefl 0)

/-- An RSA key under the alias of another type is a miss of that type, which is recorded
    once although two suites are of it; the type that is served is not recorded. -/
theorem resolveAll_records_other_key :
    let store := KeyStore.single [.ecdheEcdsa, .rsa] .plainRsa
    let resolver : Resolver := ⟨some store, .complete, .tls12, none⟩
    let resolved := resolver.resolveAll [.ecdheEcdsaWithAes128GcmSha256, .rsaWithAes128CbcSha,
      .ecdheEcdsaWithAes128CbcSha] .fresh
    .ecdheEcdsa ∈ resolved.state.misses ∧ .rsa ∉ resolved.state.misses ∧
      resolved.state.queries = 2 := by
  intro store resolver resolved
  obtain ⟨-, hexact, -, -, hcounted⟩ := resolveAll_transparent_and_exact resolver
    [.ecdheEcdsaWithAes128GcmSha256, .rsaWithAes128CbcSha, .ecdheEcdsaWithAes128CbcSha]
  refine ⟨(hexact store rfl .ecdheEcdsa).2 ⟨⟨_, List.mem_cons_self, rfl⟩, ?_⟩, ?_, ?_⟩
  · exact .otherKey rfl rfl (by decide)
  · intro hm
    have hcause := ((hexact store rfl .rsa).1 hm).2
    rw [← lacks_iff_missCause] at hcause
    exact absurd hcause (by decide)
  · rw [hcounted]
    decide

end Resolver

end TlsHandshake
