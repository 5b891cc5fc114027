/-
  TlsHandshake.Proofs.Negotiation.Secrecy

  Finding a credential does not depend on the names of the keys.

  The key store gives out key handles, and a handle has a name that only the provider should
  understand.  Two key stores are alike if they differ in these names only, and two outcomes
  are alike if they have the same answer, the same state and the same events but for secrets
  (`Event.redact`).  With a provider that is blind to names, searches in key stores that are
  alike have outcomes that are alike.

    * `Outcome.Alike` — what an observer who is shown no secret cannot tell apart;
    * `fitting?_alike` — key stores that are alike hold identities of the same types;
    * `credentialFrom_alike` — a blind provider makes the same credential of them;
    * `resolve_alike` — the search for the credential of a suite.
-/

import TlsHandshake.Proofs.Negotiation.RoundMemory
import Mathlib.Data.Option.Defs

namespace TlsHandshake

/-! ## Without secrets -/

/-- The handle without the name of its key. -/
def KeyHandle.redact (key : KeyHandle) : KeyHandle := { key with id := "" }

/-- The identity without the name of its key. -/
def Identity.redact (identity : Identity) : Identity :=
  { identity with key := identity.key.redact }

/-- The session without its master secret. -/
def Session.redact (session : Session) : Session := { session with masterSecret := [] }

/-- The call without the name of a key and without the master secret of a session. -/
def Call.redact : Call → Call
  | .makeAgreement identity => .makeAgreement identity.redact
  | .makeSigner identity scheme => .makeSigner identity.redact scheme
  | .makeDecryptor identity => .makeDecryptor identity.redact
  | .reportSession session => .reportSession session.redact
  | .handshakeComplete session => .handshakeComplete session.redact
  | call => call

/-- The event without secrets; a notice is shown as it is. -/
def Event.redact : Event → Event
  | .call c => .call c.redact
  | .log n => .log n

theorem Identity.redact_eq_iff (identity other : Identity) :
    identity.redact = other.redact ↔
      identity.chain = other.chain ∧ identity.key.keyType = other.key.keyType := by
  obtain ⟨chain, keyType, id⟩ := identity
  obtain ⟨chain', keyType', id'⟩ := other
  simp [redact, KeyHandle.redact]

/-- What an identity is good for does not depend on the name of its key. -/
theorem Identity.fits_congr {identity other : Identity} (hi : identity.redact = other.redact)
    (auth : AuthType) : identity.Fits auth ↔ other.Fits auth := by
  obtain ⟨hchain, hkey⟩ := (redact_eq_iff identity other).1 hi
  rw [Fits, Fits, hchain, hkey]

/-! ## Alike but for secrets -/

namespace Outcome

variable {σ τ α β : Type}

/-- The outcomes have the same answer, the same state, and the same events but for secrets. -/
structure Alike (outcome other : Outcome σ α) : Prop where
  answer : outcome.answer = other.answer
  state : outcome.state = other.state
  events : outcome.events.map Event.redact = other.events.map Event.redact

theorem Alike.refl (outcome : Outcome σ α) : outcome.Alike outcome := ⟨rfl, rfl, rfl⟩

theorem Alike.map {outcome other : Outcome σ α} (ho : outcome.Alike other) (f : α → β) :
    (outcome.map f).Alike (other.map f) := ⟨congrArg f ho.answer, ho.state, ho.events⟩

theorem Alike.mapState {outcome other : Outcome σ α} (ho : outcome.Alike other) (f : σ → τ) :
    (outcome.mapState f).Alike (other.mapState f) := ⟨ho.answer, congrArg f ho.state, ho.events⟩

theorem Alike.after {outcome other : Outcome σ α} {earlier earlier' : List Event}
    (ho : outcome.Alike other) (he : earlier.map Event.redact = earlier'.map Event.redact) :
    (outcome.after earlier).Alike (other.after earlier') where
  answer := ho.answer
  state := ho.state
  events := by rw [after_events, after_events, List.map_append, List.map_append, he, ho.events]

/-- Attempts that are alike go on alike. -/
theorem Alike.andThen {attempt other : Attempt σ α} {next next' : α → σ → Attempt σ β}
    (ha : attempt.Alike other) (hnext : ∀ answer state, (next answer state).Alike
      (next' answer state)) : (attempt.andThen next).Alike (other.andThen next') := by
  obtain ⟨answer, state, events⟩ := attempt
  obtain ⟨_, _, events'⟩ := other
  obtain ⟨rfl, rfl, he⟩ := ha
  cases answer with
  | error failure => exact ⟨rfl, rfl, he⟩
  | ok answer => exact (hnext answer state).after he

end Outcome

/-- The provider does not look at the name of a key. -/
structure Provider.Blind (provider : Provider) : Prop where
  agreement : ∀ chain {key other : KeyHandle}, key.keyType = other.keyType →
    provider.agreement chain key = provider.agreement chain other
  signer : ∀ chain {key other : KeyHandle} scheme, key.keyType = other.keyType →
    provider.signer chain key scheme = provider.signer chain other scheme
  decryptor : ∀ chain {key other : KeyHandle}, key.keyType = other.keyType →
    provider.decryptor chain key = provider.decryptor chain other

/-- The key stores have the same aliases and chains, and keys of the same types. -/
structure KeyStore.Alike (store other : KeyStore) : Prop where
  aliases : store.chooseAlias = other.chooseAlias
  chains : store.certificateChain = other.certificateChain
  keys : ∀ keyAlias, (store.privateKey keyAlias).map KeyHandle.keyType =
    (other.privateKey keyAlias).map KeyHandle.keyType

/-- Key stores that are alike hold the same identities but for the names of their keys. -/
theorem KeyStore.fitting?_alike {store other : KeyStore} (hs : store.Alike other)
    (auth : AuthType) (keyAlias : String) :
    (store.fitting? auth keyAlias).map Identity.redact =
      (other.fitting? auth keyAlias).map Identity.redact := by
  have hkeys := hs.keys keyAlias
  unfold fitting?
  rw [hs.chains]
  cases hk : store.privateKey keyAlias with
  | none =>
    cases hk' : other.privateKey keyAlias with
    | none => rfl
    | some key' => simp [hk, hk'] at hkeys
  | some key =>
    cases hk' : other.privateKey keyAlias with
    | none => simp [hk, hk'] at hkeys
    | some key' =>
      have htype : key.keyType = key'.keyType := by simpa [hk, hk'] using hkeys
      have hsame : (Identity.mk (other.certificateChain keyAlias) key).redact =
          (Identity.mk (other.certificateChain keyAlias) key').redact :=
        (Identity.redact_eq_iff ..).2 ⟨rfl, htype⟩
      -- Either both fit the type or neither does.
      by_cases hf : Identity.Fits ⟨other.certificateChain keyAlias, key⟩ auth
      · have hf' := (Identity.fits_congr hsame auth).1 hf
        simp [hf, hf', hsame]
      · have hf' := mt (Identity.fits_congr hsame auth).2 hf
        simp [hf, hf']

/-! ## Searching in key stores that are alike -/

namespace Resolver

/-- What was found is alike but for the names of the keys. -/
def FoundAlike (found other : Outcome Round (Option Identity)) : Prop :=
  (found.map (Option.map Identity.redact)).Alike (other.map (Option.map Identity.redact))

theorem fetch_alike {store other : KeyStore} (hs : store.Alike other) (auth : AuthType)
    (keyAlias : String) (round : Round) :
    FoundAlike (fetch store auth keyAlias round) (fetch other auth keyAlias round) := by
  have hf := KeyStore.fitting?_alike hs auth keyAlias
  unfold fetch
  cases hi : store.fitting? auth keyAlias with
  | none =>
    cases hi' : other.fitting? auth keyAlias with
    | none => exact .refl _
    | some identity' => simp [hi, hi'] at hf
  | some identity =>
    cases hi' : other.fitting? auth keyAlias with
    | none => simp [hi, hi'] at hf
    | some identity' =>
      rw [hi, hi'] at hf
      exact ⟨hf, rfl, rfl⟩

theorem query_alike {store other : KeyStore} (hs : store.Alike other) (auth : AuthType)
    (round : Round) : FoundAlike (query store auth round) (query other auth round) := by
  unfold query
  rw [hs.aliases]
  split
  · exact .refl _
  · exact (fetch_alike hs auth _ round.query).after rfl

theorem lookup_alike {resolver : Resolver} {keyStore : Option KeyStore}
    (hs : Option.Rel KeyStore.Alike resolver.keyStore keyStore) (auth : AuthType) (round : Round) :
    FoundAlike (resolver.lookup auth round)
      ({ resolver with keyStore := keyStore }.lookup auth round) := by
  obtain ⟨own, provider, version, schemes⟩ := resolver
  cases hs with
  | none => exact .refl _
  | some hs =>
    simp only [lookup]
    split
    · exact .refl _
    · exact query_alike hs auth round

/-- A blind provider makes the same credential of identities that differ in the names of their
    keys only. -/
theorem credentialFrom_alike {resolver : Resolver} (hb : resolver.provider.Blind)
    {identity other : Identity} (hi : identity.redact = other.redact) (auth : AuthType)
    (round : Round) :
    (resolver.credentialFrom auth identity round).Alike
      (resolver.credentialFrom auth other round) := by
  obtain ⟨hchain, hkey⟩ := (Identity.redact_eq_iff identity other).1 hi
  have hmaking : resolver.making auth identity = resolver.making auth other := by
    unfold making
    rw [hchain]
    cases auth.keyUse with
    | agreement => simp only [hb.agreement other.chain hkey]
    | decryption => simp only [hb.decryptor other.chain hkey]
    | signing algorithm => simp only [hb.signer other.chain _ hkey]
  have hcall : (resolver.makingCall auth identity).redact =
      (resolver.makingCall auth other).redact := by
    unfold makingCall
    cases auth.keyUse <;> simp only [Call.redact, hi]
  -- The same credential, or the same failure, from calls that show different names.
  rw [credentialFrom_eq, credentialFrom_eq, hmaking]
  split
  · exact .refl _
  · cases resolver.making auth other with
    | error error => exact ⟨rfl, rfl, by simp [made, Event.redact, hcall]⟩
    | ok credential => exact ⟨rfl, rfl, by simp [made, Event.redact, hcall]⟩

theorem equip_alike {resolver : Resolver} (hb : resolver.provider.Blind)
    {found other : Outcome Round (Option Identity)} (hf : FoundAlike found other)
    (auth : AuthType) : (resolver.equip auth found).Alike (resolver.equip auth other) := by
  obtain ⟨answer, state, events⟩ := found
  obtain ⟨answer', _, events'⟩ := other
  obtain ⟨hanswer, rfl, hevents⟩ := hf
  cases answer with
  | none =>
    cases answer' with
    | none => exact ⟨rfl, rfl, hevents⟩
    | some identity' => cases hanswer
  | some identity =>
    cases answer' with
    | none => cases hanswer
    | some identity' =>
      exact (credentialFrom_alike hb (Option.some.inj hanswer) auth state).after hevents

/-- The search for the credential of a suite has the same outcome but for secrets. -/
theorem resolve_alike (resolver : Resolver) {keyStore : Option KeyStore}
    (hs : Option.Rel KeyStore.Alike resolver.keyStore keyStore) (hb : resolver.provider.Blind)
    (suite : CipherSuite) (round : Round) :
    (resolver.resolve suite round).Alike
      ({ resolver with keyStore := keyStore }.resolve suite round) := by
  unfold resolve
  cases suite.keyExchange with
  | anonymousDh | anonymousEcdh | unsupported => exact .refl _
  | certified auth =>
    -- Making a credential does not read the key store.
    exact equip_alike hb (lookup_alike hs auth round) auth

end Resolver

end TlsHandshake
