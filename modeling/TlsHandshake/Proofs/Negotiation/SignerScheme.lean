/-
  TlsHandshake.Proofs.Negotiation.SignerScheme

  Which signature scheme a signer is made for.

  An ephemeral exchange is signed with a DSA, an RSA or an ECDSA key.  Before TLS 1.2 and
  DTLS 1.2 the signer names no scheme, whatever the client listed.  From then on it names
  the first scheme of the client's list that its key can produce and the provider has; a
  client without list is taken to have listed the SHA-1 scheme of the algorithm.

    * `hasSignatureSchemes_eq_false_iff` — the versions of either family without schemes;
    * `FirstUsable` — the scheme that the search is for, as a split of the client's list;
    * `scheme?_eq_some_iff` — the search finds that scheme and no other;
    * `constructions_resolve` — the one call for a suite that has an identity;
    * `firstUsable_of_signer` — a signer names no other scheme;
    * `signer_names_first_usable_scheme` — the scheme of the signer, version by version.
-/

import TlsHandshake.Proofs.Negotiation.Construction

namespace TlsHandshake

/-! ## Versions, exchanges and schemes -/

/-- The versions that came before signature schemes, of either family. -/
def Version.withoutSchemes : List Version := [.ssl30, .tls10, .tls11, .dtls10]

theorem Version.hasSignatureSchemes_eq_false_iff (version : Version) :
    version.hasSignatureSchemes = false ↔ version ∈ withoutSchemes := by
  cases version <;> decide

/-- The authentication types of the ephemeral exchanges, with the algorithm that signs. -/
def AuthType.ephemeral : List (AuthType × SignatureAlgorithm) :=
  [(.dheDss, .dsa), (.dheRsa, .rsa), (.ecdheEcdsa, .ecdsa), (.ecdheRsa, .rsa)]

/-- The ephemeral exchanges are those that sign with the private key. -/
theorem AuthType.mem_ephemeral_iff (auth : AuthType) (algorithm : SignatureAlgorithm) :
    (auth, algorithm) ∈ ephemeral ↔ auth.keyUse = .signing algorithm := by
  cases auth <;> cases algorithm <;> decide

/-- A key that signs with `required` produces the schemes of this algorithm, and an RSA key
    also those of PSS. -/
theorem SignatureScheme.usableFor_iff (scheme : SignatureScheme)
    (required : SignatureAlgorithm) :
    scheme.usableFor required = true ↔
      scheme.algorithm = required ∨ (scheme.algorithm = .rsaPssRsae ∧ required = .rsa) := by
  simp [usableFor]

/-- What a client without list implies is the one scheme of the algorithm with SHA-1. -/
theorem SignatureScheme.implied?_eq_some_iff (required : SignatureAlgorithm)
    (scheme : SignatureScheme) :
    implied? required = some scheme ↔
      scheme.algorithm = required ∧ scheme.hash? = some .sha1 := by
  cases required <;> cases scheme <;> decide

namespace Resolver

variable (resolver : Resolver) (algorithm : SignatureAlgorithm)

/-! ## The first usable scheme -/

/-- A key of the algorithm produces the scheme, and the provider has it. -/
structure CanSign (resolver : Resolver) (algorithm : SignatureAlgorithm)
    (scheme : SignatureScheme) : Prop where
  producible : scheme.algorithm = algorithm ∨
    (scheme.algorithm = .rsaPssRsae ∧ algorithm = .rsa)
  supported : resolver.provider.supportsScheme scheme = true

theorem canSign_iff (scheme : SignatureScheme) :
    resolver.CanSign algorithm scheme ↔
      (scheme.usableFor algorithm && resolver.provider.supportsScheme scheme) = true := by
  rw [Bool.and_eq_true, SignatureScheme.usableFor_iff]
  exact ⟨fun h => ⟨h.producible, h.supported⟩, fun h => ⟨h.1, h.2⟩⟩

/-- The scheme that a signer for the algorithm is to name. -/
inductive FirstUsable (resolver : Resolver) (algorithm : SignatureAlgorithm)
    (scheme : SignatureScheme) : Prop
  /-- The client listed it, and nothing that it listed before can be used. -/
  | listed {before after : List SignatureScheme}
      (hlist : resolver.clientSchemes = some (before ++ scheme :: after))
      (hbefore : ∀ earlier ∈ before, ¬ resolver.CanSign algorithm earlier)
      (husable : resolver.CanSign algorithm scheme)
  /-- The client listed nothing, and meant the algorithm with SHA-1. -/
  | implied (hlist : resolver.clientSchemes = none) (halgorithm : scheme.algorithm = algorithm)
      (hhash : scheme.hash? = some .sha1)
      (hsupported : resolver.provider.supportsScheme scheme = true)

variable {resolver algorithm}

theorem FirstUsable.canSign {scheme : SignatureScheme}
    (hfirst : resolver.FirstUsable algorithm scheme) : resolver.CanSign algorithm scheme := by
  cases hfirst with
  | listed _ _ husable => exact husable
  | implied _ halgorithm _ hsupported => exact ⟨Or.inl halgorithm, hsupported⟩

theorem FirstUsable.mem {scheme : SignatureScheme} {schemes : List SignatureScheme}
    (hfirst : resolver.FirstUsable algorithm scheme)
    (hc : resolver.clientSchemes = some schemes) : scheme ∈ schemes := by
  cases hfirst with
  | listed hlist _ _ =>
    obtain rfl := Option.some.inj (hc.symm.trans hlist)
    exact List.mem_append_right _ List.mem_cons_self
  | implied hlist _ _ _ => cases hc.symm.trans hlist

theorem FirstUsable.of_clientSchemes_none {scheme : SignatureScheme}
    (hfirst : resolver.FirstUsable algorithm scheme) (hc : resolver.clientSchemes = none) :
    scheme.algorithm = algorithm ∧ scheme.hash? = some .sha1 := by
  cases hfirst with
  | listed hlist _ _ => cases hc.symm.trans hlist
  | implied _ halgorithm hhash _ => exact ⟨halgorithm, hhash⟩

/-- The search for a scheme finds the first usable one. -/
theorem scheme?_eq_some_iff (scheme : SignatureScheme) :
    resolver.scheme? algorithm = some scheme ↔ resolver.FirstUsable algorithm scheme := by
  unfold scheme? schemesFor
  cases hc : resolver.clientSchemes with
  | some schemes =>
    rw [Option.getD_some, List.find?_eq_some_iff_append, ← canSign_iff]
    constructor
    · rintro ⟨husable, before, after, rfl, hbefore⟩
      refine .listed hc ?_ husable
      intro earlier hm
      rw [canSign_iff, Bool.not_eq_true, ← Bool.not_eq_true']
      exact hbefore earlier hm
    · intro hfirst
      refine ⟨hfirst.canSign, ?_⟩
      cases hfirst with
      | @listed before after hlist hbefore _ =>
        refine ⟨before, after, Option.some.inj (hc.symm.trans hlist), ?_⟩
        intro earlier hm
        rw [Bool.not_eq_true', ← Bool.not_eq_true, ← canSign_iff]
        exact hbefore earlier hm
      | implied hlist _ _ _ => cases hc.symm.trans hlist
  | none =>
    -- The list is then the one scheme that is implied, if the algorithm implies any.
    rw [Option.getD_none]
    constructor
    · intro hfound
      have husable := List.find?_some hfound
      rw [← canSign_iff] at husable
      have himplied := Option.mem_toList.1 (List.mem_of_find?_eq_some hfound)
      obtain ⟨halgorithm, hhash⟩ := (SignatureScheme.implied?_eq_some_iff _ _).1 himplied
      exact .implied hc halgorithm hhash husable.supported
    · intro hfirst
      have husable := (canSign_iff resolver algorithm scheme).1 hfirst.canSign
      have himplied : SignatureScheme.implied? algorithm = some scheme :=
        (SignatureScheme.implied?_eq_some_iff _ _).2 (hfirst.of_clientSchemes_none hc)
      rw [himplied, Option.toList_some]
      exact List.find?_cons_of_pos husable

/-- The search for a scheme finds nothing exactly if no scheme is usable. -/
theorem scheme?_eq_none_iff :
    resolver.scheme? algorithm = none ↔
      ∀ scheme, ¬ resolver.FirstUsable algorithm scheme := by
  rw [Option.eq_none_iff_forall_ne_some]
  exact forall_congr' fun scheme => not_congr (scheme?_eq_some_iff scheme)

/-! ## The signer -/

variable {auth : AuthType}

theorem lacksScheme_of_signing (hu : auth.keyUse = .signing algorithm) :
    resolver.lacksScheme auth =
      (resolver.version.hasSignatureSchemes && (resolver.scheme? algorithm).isNone) := by
  simp only [lacksScheme, hu]

theorem makingCall_of_signing (hu : auth.keyUse = .signing algorithm) (identity : Identity) :
    resolver.makingCall auth identity = .makeSigner identity (resolver.signerScheme algorithm) := by
  simp only [makingCall, hu]

section Served

/-! A suite whose type has not missed and has an identity. -/

variable {store : KeyStore} {identity : Identity} {suite : CipherSuite} {round : Round}
  (hx : suite.keyExchange = .certified auth) (hs : resolver.keyStore = some store)
  (hi : store.identity? auth = some identity) (hm : auth ∉ round.misses)

include hx hs hi hm

/-- It gets what is made from the identity. -/
theorem resolve_of_identity?_some :
    resolver.resolve suite round =
      (resolver.credentialFrom auth identity round.query).after
        (query store auth .fresh).events := by
  rw [resolve_eq_equip_query hx hs hm, equip_query_of_identity?_some resolver hi]

/-- The provider is called for the identity, unless a scheme is missing. -/
theorem constructions_resolve :
    Event.constructions (resolver.resolve suite round).events =
      if resolver.lacksScheme auth then [] else [resolver.makingCall auth identity] := by
  have hmade := (resolver.constructs_makingCall auth identity).isConstruction
  rw [resolve_of_identity?_some hx hs hi hm, Outcome.after_events, Event.constructions_append,
    constructions_query, credentialFrom_eq]
  by_cases hl : resolver.lacksScheme auth = true
  · rw [if_pos hl, if_pos hl]
    rfl
  · rw [if_neg hl, if_neg hl, made_events]
    show [resolver.makingCall auth identity].filter Call.isConstruction = _
    rw [List.filter_cons_of_pos hmade, List.filter_nil]

/-- Before there were schemes the signer names none. -/
theorem constructions_resolve_without_schemes (hu : auth.keyUse = .signing algorithm)
    (hv : resolver.version.hasSignatureSchemes = false) :
    Event.constructions (resolver.resolve suite round).events = [.makeSigner identity none] := by
  have hlacks : resolver.lacksScheme auth = false := by simp [lacksScheme_of_signing hu, hv]
  have hscheme : resolver.signerScheme algorithm = none := by simp [signerScheme, hv]
  rw [constructions_resolve hx hs hi hm, hlacks, makingCall_of_signing hu, hscheme]
  rfl

/-- With schemes the signer names what the search finds. -/
theorem constructions_resolve_with_schemes (hu : auth.keyUse = .signing algorithm)
    (hv : resolver.version.hasSignatureSchemes = true) :
    Event.constructions (resolver.resolve suite round).events =
      (resolver.scheme? algorithm).toList.map fun scheme => .makeSigner identity (some scheme) := by
  have hscheme : resolver.signerScheme algorithm = resolver.scheme? algorithm := by
    simp [signerScheme, hv]
  rw [constructions_resolve hx hs hi hm, lacksScheme_of_signing hu, makingCall_of_signing hu,
    hscheme, hv, Bool.true_and]
  -- One scheme makes one call, and no scheme none.
  cases resolver.scheme? algorithm <;> rfl

/-- A scheme that a signer names is the first usable one. -/
theorem firstUsable_of_signer (hu : auth.keyUse = .signing algorithm) {other : Identity}
    {scheme : SignatureScheme}
    (hmade : .makeSigner other (some scheme) ∈
      Event.constructions (resolver.resolve suite round).events) :
    resolver.FirstUsable algorithm scheme := by
  cases hv : resolver.version.hasSignatureSchemes with
  | false =>
    -- The signer that is made names none.
    rw [constructions_resolve_without_schemes hx hs hi hm hu hv] at hmade
    simp at hmade
  | true =>
    rw [constructions_resolve_with_schemes hx hs hi hm hu hv] at hmade
    obtain ⟨found, hfound, hcall⟩ := List.mem_map.1 hmade
    obtain ⟨-, hnamed⟩ := Call.makeSigner.inj hcall
    obtain rfl := Option.some.inj hnamed
    exact (scheme?_eq_some_iff found).1 (Option.mem_toList.1 hfound)

/-- A missing scheme is the one thing that an identity cannot make up for. -/
theorem resolve_of_lacksScheme (hl : resolver.lacksScheme auth = true) :
    (resolver.resolve suite round).answer = .ok none ∧
      (resolver.resolve suite round).state = round.query.miss auth := by
  rw [resolve_of_identity?_some hx hs hi hm, credentialFrom_eq, if_pos hl]
  exact ⟨rfl, rfl⟩

end Served

/-- Whichever the version, the client's list and the schemes of the provider, for a suite of
    an ephemeral exchange whose type has not missed and has an identity:

    Before TLS 1.2 and DTLS 1.2 the provider makes a signer that names no scheme.  From then on
    the scheme that it names is the first usable one, whatever else the client listed.  If there
    is none, the provider makes nothing, the suite goes without credential, and the type is
    recorded and no other.  A scheme that a signer names is thus one that the client offered or
    implied, that the key can produce, and that the provider has. -/
theorem signer_names_first_usable_scheme (resolver : Resolver) (suite : CipherSuite)
    (round : Round) {auth : AuthType} {algorithm : SignatureAlgorithm} {store : KeyStore}
    {identity : Identity} (hx : suite.keyExchange = .certified auth)
    (he : (auth, algorithm) ∈ AuthType.ephemeral) (hs : resolver.keyStore = some store)
    (hi : store.identity? auth = some identity) (hm : auth ∉ round.misses) :
    let resolved := resolver.resolve suite round
    let constructions := Event.constructions resolved.events
    (resolver.version ∈ Version.withoutSchemes →
      constructions = [.makeSigner identity none]) ∧
    (resolver.version ∉ Version.withoutSchemes →
      (∀ scheme, constructions = [.makeSigner identity (some scheme)] ↔
        resolver.FirstUsable algorithm scheme) ∧
      ((∀ scheme, ¬ resolver.FirstUsable algorithm scheme) →
        constructions = [] ∧ resolved.answer = .ok none ∧
          resolved.state.misses = round.misses.record auth ∧
          ∀ other, other ∈ resolved.state.misses ↔ other = auth ∨ other ∈ round.misses)) ∧
    (∀ other scheme, .makeSigner other (some scheme) ∈ constructions →
      (∀ schemes, resolver.clientSchemes = some schemes → scheme ∈ schemes) ∧
      (resolver.clientSchemes = none →
        scheme.algorithm = algorithm ∧ scheme.hash? = some .sha1) ∧
      resolver.CanSign algorithm scheme) := by
  intro resolved constructions
  have hu := (AuthType.mem_ephemeral_iff auth algorithm).1 he
  refine ⟨fun hv => ?_, fun hv => ?_, ?_⟩
  · rw [← Version.hasSignatureSchemes_eq_false_iff] at hv
    exact constructions_resolve_without_schemes hx hs hi hm hu hv
  · rw [← Version.hasSignatureSchemes_eq_false_iff, Bool.not_eq_false] at hv
    have hwith := constructions_resolve_with_schemes hx hs hi hm hu hv
    refine ⟨?_, ?_⟩
    · intro scheme
      rw [show constructions = _ from hwith, ← scheme?_eq_some_iff]
      cases resolver.scheme? algorithm <;> simp
    · intro hnone
      have hmissing : resolver.scheme? algorithm = none := scheme?_eq_none_iff.2 hnone
      have hlacks : resolver.lacksScheme auth = true := by
        rw [lacksScheme_of_signing hu, hv, hmissing]
        rfl
      obtain ⟨hanswer, hstate⟩ := resolve_of_lacksScheme hx hs hi hm hlacks
      have hmisses : resolved.state.misses = round.misses.record auth :=
        congrArg Round.misses hstate
      refine ⟨?_, hanswer, hmisses, ?_⟩
      · rw [show constructions = _ from hwith, hmissing]
        rfl
      · intro other
        rw [hmisses]
        exact MissCache.mem_record ..
  · intro other scheme hmade
    have hfirst := firstUsable_of_signer hx hs hi hm hu hmade
    exact ⟨fun _ hc => hfirst.mem hc, hfirst.of_clientSchemes_none, hfirst.canSign⟩

/-- Of a mixed list with an RSA key: a scheme of another algorithm is skipped, and so is one
    that the provider lacks; PSS comes before the older padding because the client has it so. -/
theorem signer_skips_unusable_schemes :
    let resolver : Resolver := {
      keyStore := some (.single [.ecdheRsa] .plainRsa)
      provider := { Provider.complete with supportsScheme := (· != .rsaPkcs1Sha512) }
      version := .dtls12
      clientSchemes := some [.ed25519, .ecdsaSecp256r1Sha256, .rsaPkcs1Sha512,
        .rsaPssRsaeSha256, .rsaPkcs1Sha256] }
    Event.constructions (resolver.resolve .ecdheRsaWithAes128GcmSha256 .fresh).events =
      [.makeSigner .plainRsa (some .rsaPssRsaeSha256)] := by
  intro resolver
  have he : (AuthType.ecdheRsa, SignatureAlgorithm.rsa) ∈ AuthType.ephemeral := by decide
  have hi : (KeyStore.single [.ecdheRsa] .plainRsa).identity? .ecdheRsa = some .plainRsa := by
    decide
  have hlist : resolver.clientSchemes = some ([.ed25519, .ecdsaSecp256r1Sha256,
    .rsaPkcs1Sha512] ++ .rsaPssRsaeSha256 :: [.rsaPkcs1Sha256]) := rfl
  obtain ⟨-, hwith, -⟩ := signer_names_first_usable_scheme resolver
    .ecdheRsaWithAes128GcmSha256 .fresh rfl he rfl hi (MissCache.not_mem_empty _)
  obtain ⟨hfirst, -⟩ := hwith (by decide)
  refine (hfirst .rsaPssRsaeSha256).2 (.listed hlist ?_ ⟨Or.inr ⟨rfl, rfl⟩, rfl⟩)
  intro earlier hearlier
  rw [canSign_iff]
  revert earlier
  decide

end Resolver

end TlsHandshake
