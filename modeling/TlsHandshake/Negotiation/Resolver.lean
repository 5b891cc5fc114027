/-
  TlsHandshake.Negotiation.Resolver

  Finding the credential for a cipher suite.

  An anonymous suite needs none and an unsupported one gets none. For a certified suite
  the key store is asked for an alias of the suite's authentication type; what it keeps
  there must fit the type; a signer of a version with signature schemes must also have
  one in common with the client and the provider. If any of this fails, the type is
  recorded as a miss for the rest of the round and the suite goes without credential.
  Only a provider that cannot make the credential is an error.
-/

import TlsHandshake.Negotiation.Round
import TlsHandshake.Trace

namespace TlsHandshake

/-- What the search for credentials of one handshake depends on. The client's schemes are
    absent if it sent no list of them. -/
structure Resolver where
  keyStore : Option KeyStore
  provider : Provider
  version : Version
  clientSchemes : Option (List SignatureScheme)

namespace Resolver

/-- The schemes a signer may use, the client's choice first: its list, or without a list
    the one scheme that this implies. -/
def schemesFor (resolver : Resolver) (algorithm : SignatureAlgorithm) : List SignatureScheme :=
  resolver.clientSchemes.getD (SignatureScheme.implied? algorithm).toList

/-- The first scheme that a key of the algorithm can produce and the provider has. -/
def scheme? (resolver : Resolver) (algorithm : SignatureAlgorithm) : Option SignatureScheme :=
  (resolver.schemesFor algorithm).find? fun scheme =>
    scheme.usableFor algorithm && resolver.provider.supportsScheme scheme

/-- Fetches what a key store keeps under an alias; what does not fit is a miss. -/
def fetch (store : KeyStore) (auth : AuthType) (keyAlias : String) (round : Round) :
    Outcome Round (Option Identity) :=
  match store.fitting? auth keyAlias with
  | some identity =>
    ⟨some identity, round, [.call (.privateKey keyAlias), .call (.certificateChain keyAlias)]⟩
  | none =>
    ⟨none, round.miss auth,
      [.call (.privateKey keyAlias), .call (.certificateChain keyAlias),
        .log (.aliasUnusable keyAlias auth)]⟩

/-- Asks a key store for an alias, and fetches what is under it; no alias is a miss. -/
def query (store : KeyStore) (auth : AuthType) (round : Round) :
    Outcome Round (Option Identity) :=
  match store.chooseAlias auth with
  | none =>
    ⟨none, round.query.miss auth, [.call (.chooseAlias auth), .log (.aliasMissing auth)]⟩
  | some keyAlias => (fetch store auth keyAlias round.query).after [.call (.chooseAlias auth)]

/-- Asks the key store, if there is one, for an identity of a type that has not missed in
    this round. -/
def lookup (resolver : Resolver) (auth : AuthType) (round : Round) :
    Outcome Round (Option Identity) :=
  match resolver.keyStore with
  | none => ⟨none, round, []⟩
  | some store =>
    if round.misses.contains auth then ⟨none, round, []⟩ else query store auth round

/-- The outcome of a provider's attempt to make a credential: a failure of the provider
    is one of the handshake. -/
def made (round : Round) (call : Call) (result : Except ProviderError Credential) :
    Attempt Round (Option Credential) :=
  match result with
  | .ok credential => ⟨.ok (some credential), round, [.call call]⟩
  | .error error => ⟨.error (.provider error), round, [.call call]⟩

/-- Has the provider make a signer that names this scheme, or none. -/
def makeSigner (resolver : Resolver) (identity : Identity) (scheme : Option SignatureScheme)
    (round : Round) : Attempt Round (Option Credential) :=
  made round (.makeSigner identity scheme)
    ((resolver.provider.signer identity.chain identity.key scheme).map .signer)

/-- Makes the credential of an authentication type from a fitting identity. Signers name
    a scheme only in versions that have schemes. -/
def credentialFrom (resolver : Resolver) (auth : AuthType) (identity : Identity)
    (round : Round) : Attempt Round (Option Credential) :=
  match auth.keyUse with
  | .agreement =>
    made round (.makeAgreement identity)
      ((resolver.provider.agreement identity.chain identity.key).map .agreement)
  | .decryption =>
    made round (.makeDecryptor identity)
      ((resolver.provider.decryptor identity.chain identity.key).map .decryptor)
  | .signing algorithm =>
    if resolver.version.hasSignatureSchemes then
      match resolver.scheme? algorithm with
      | some scheme => resolver.makeSigner identity (some scheme) round
      | none => ⟨.ok none, round.miss auth, [.log (.schemeMissing auth)]⟩
    else resolver.makeSigner identity none round

/-- Makes the credential of an authentication type from what was found for it. -/
def equip (resolver : Resolver) (auth : AuthType) (found : Outcome Round (Option Identity)) :
    Attempt Round (Option Credential) :=
  match found.answer with
  | none => ⟨.ok none, found.state, found.events⟩
  | some identity => (resolver.credentialFrom auth identity found.state).after found.events

/-- Finds the credential for a suite. No credential means that the suite cannot be served
    and another one may be tried; an error ends the handshake. -/
def resolve (resolver : Resolver) (suite : CipherSuite) (round : Round) :
    Attempt Round (Option Credential) :=
  match suite.keyExchange with
  | .anonymousDh | .anonymousEcdh => ⟨.ok (some .anonymous), round, []⟩
  | .unsupported => ⟨.ok none, round, [.log (.keyExchangeUnsupported suite)]⟩
  | .certified auth => resolver.equip auth (resolver.lookup auth round)

/-- Resolves suites one after the other in the same round. -/
def resolveAll (resolver : Resolver) : List CipherSuite → Round →
    Outcome Round (List (Except Failure (Option Credential)))
  | [], round => ⟨[], round, []⟩
  | suite :: suites, round =>
    let first := resolver.resolve suite round
    let others := resolver.resolveAll suites first.state
    ⟨first.answer :: others.answer, others.state, first.events ++ others.events⟩

/-- What a suite gets on its own, in a round that nothing else has used. -/
def standalone (resolver : Resolver) (suite : CipherSuite) :
    Except Failure (Option Credential) :=
  (resolver.resolve suite .fresh).answer

end Resolver

end TlsHandshake
