/-
  TlsHandshake.Credential

  What the server holds for the key exchange of a suite. A crypto provider makes a
  credential from an identity; negotiation reads from it only the chain that the server
  will present and, for a signer, the signature scheme.

  A handshake without a credential has `none` of this type.
-/

import TlsHandshake.Identity
import TlsHandshake.Registry.CipherSuite

namespace TlsHandshake

/-- A credential for static key agreement. -/
structure AgreementCredential where
  chain : List Certificate
  deriving DecidableEq

/-- A credential that signs an ephemeral exchange. Before TLS 1.2 the key implies the
    scheme and none is named. -/
structure SignerCredential where
  chain : List Certificate
  scheme : Option SignatureScheme
  deriving DecidableEq

/-- A credential that decrypts in RSA key transport. -/
structure DecryptorCredential where
  chain : List Certificate
  deriving DecidableEq

/-- What the server uses in a key exchange. -/
inductive Credential
  | anonymous
  | agreement (credential : AgreementCredential)
  | signer (credential : SignerCredential)
  | decryptor (credential : DecryptorCredential)
  deriving DecidableEq

namespace Credential

/-- The chain that the server presents; an anonymous exchange presents none. -/
def chain? : Credential → Option (List Certificate)
  | .anonymous => none
  | .agreement c => some c.chain
  | .signer c => some c.chain
  | .decryptor c => some c.chain

/-- The scheme that a signer names. -/
def scheme? : Credential → Option SignatureScheme
  | .signer c => c.scheme
  | .anonymous | .agreement _ | .decryptor _ => none

/-- The kind of credential, as logs name it. -/
def kind : Credential → String
  | .anonymous => "anonymous"
  | .agreement _ => "agreement"
  | .signer _ => "signer"
  | .decryptor _ => "decryptor"

/-- Whether a credential is of the kind that a key exchange calls for. -/
def serves : Credential → KeyExchange → Bool
  | .anonymous, exchange => exchange.isAnonymous
  | .agreement _, .certified auth => auth.keyUse == .agreement
  | .signer _, .certified auth =>
    match auth.keyUse with
    | .signing _ => true
    | .agreement | .decryption => false
  | .decryptor _, .certified auth => auth.keyUse == .decryption
  | _, _ => false

end Credential

/-- How logs name the credential of a handshake that may hold none. -/
def credentialKind (credential : Option Credential) : String :=
  match credential with
  | none => "none"
  | some c => c.kind

/-- The certificates that a handshake's credential presents. -/
def presentedChain (credential : Option Credential) : List Certificate :=
  (credential.bind Credential.chain?).getD []

end TlsHandshake
