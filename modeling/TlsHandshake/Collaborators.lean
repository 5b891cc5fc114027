/-
  TlsHandshake.Collaborators

  The parties that a server consults: a crypto provider, a key store, a trust store, a
  connection manager and a session cache. Each is the record of its answers.

  Answers depend on the arguments alone, except for the session cache, whose answer may
  also depend on the sessions reported before. A key store is asked by authentication
  type only: issuers and host names are not known when the server negotiates.
-/

import TlsHandshake.Credential
import TlsHandshake.Failure
import TlsHandshake.Session

namespace TlsHandshake

/-- The library that holds keys and algorithms. -/
structure Provider where
  supportsCipher : BulkCipher → Bool
  supportsHash : HashAlgorithm → Bool
  supportsScheme : SignatureScheme → Bool
  agreement : List Certificate → KeyHandle → Except ProviderError AgreementCredential
  signer : List Certificate → KeyHandle → Option SignatureScheme →
    Except ProviderError SignerCredential
  decryptor : List Certificate → KeyHandle → Except ProviderError DecryptorCredential

namespace Provider

/-- The signature schemes of a provider, in the order of the registry. A provider might
    give a list of its own instead; none of those modelled here does, so the list is always
    what `supportsScheme` says of the registry. -/
def schemes (provider : Provider) : List SignatureScheme :=
  SignatureScheme.all.filter provider.supportsScheme

/-- The provider has the record cipher and the hash of a suite. -/
def runs (provider : Provider) (suite : CipherSuite) : Bool :=
  provider.supportsCipher suite.bulkCipher && provider.supportsHash suite.hash

theorem mem_schemes_iff (provider : Provider) (scheme : SignatureScheme) :
    scheme ∈ provider.schemes ↔ provider.supportsScheme scheme = true := by
  simp [schemes, SignatureScheme.mem_all]

end Provider

/-- The server's certificates and keys, kept under aliases. -/
structure KeyStore where
  chooseAlias : AuthType → Option String
  privateKey : String → Option KeyHandle
  certificateChain : String → List Certificate

namespace KeyStore

/-- The identity under an alias, if it has a key at all and fits the type. -/
def fitting? (store : KeyStore) (auth : AuthType) (keyAlias : String) : Option Identity :=
  match store.privateKey keyAlias with
  | none => none
  | some key =>
    if Identity.Fits ⟨store.certificateChain keyAlias, key⟩ auth then
      some ⟨store.certificateChain keyAlias, key⟩
    else none

/-- The identity that the store holds for an authentication type. -/
def identity? (store : KeyStore) (auth : AuthType) : Option Identity :=
  (store.chooseAlias auth).bind (store.fitting? auth)

theorem fitting?_eq_some_iff (store : KeyStore) (auth : AuthType) (keyAlias : String)
    (identity : Identity) :
    store.fitting? auth keyAlias = some identity ↔
      store.privateKey keyAlias = some identity.key ∧
        store.certificateChain keyAlias = identity.chain ∧ identity.Fits auth := by
  obtain ⟨chain, key⟩ := identity
  unfold fitting?
  cases store.privateKey keyAlias with
  | none => simp
  | some k => grind

/-- What a store holds for a type fits the type. -/
theorem fits_of_identity? {store : KeyStore} {auth : AuthType} {identity : Identity}
    (h : store.identity? auth = some identity) : identity.Fits auth := by
  obtain ⟨keyAlias, -, h⟩ := Option.bind_eq_some_iff.1 h
  exact ((store.fitting?_eq_some_iff auth keyAlias identity).1 h).2.2

end KeyStore

/-- The client certificates that a server accepts. -/
structure TrustStore where
  acceptedIssuers : List Certificate
  trusts : List Certificate → ClientCertificateType → Bool

/-- The owner of a connection, who has the last word on its cipher suite and is told
    when the handshake is complete. -/
structure Manager where
  accepts : CipherSuite → Version → Bool

/-- Where finished sessions go. -/
structure SessionCache where
  /-- The session handed back for the one reported last, after these earlier ones. -/
  report : (earlier : List Session) → (reported : Session) → Session

namespace SessionCache

/-- Every session is stored and handed back as it is. -/
def keepAll : SessionCache := ⟨fun _ reported => reported⟩

/-- A session whose identifier is already stored is dropped for the stored one. -/
def keepFirst : SessionCache :=
  ⟨fun earlier reported => (earlier.find? (·.id == reported.id)).getD reported⟩

end SessionCache

end TlsHandshake
