/-
  TlsHandshake.Identity

  Certificates as far as negotiation reads them, and references to private keys.

  A certificate is its encoding with the two attributes that matter: the subject name
  and the type of its key. A private key is never seen, only a handle that the key
  store gives out and the crypto provider understands. An identity is a chain with the
  key of its leaf, and it fits an authentication type when the key has the type that
  the exchange needs and there is a chain to send.
-/

import TlsHandshake.Registry.KeyExchange

namespace TlsHandshake

/-- A string of bytes. -/
abbrev Bytes := List UInt8

/-- An encoded distinguished name. -/
structure DistinguishedName where
  der : Bytes
  deriving DecidableEq

/-- A certificate, already parsed. -/
structure Certificate where
  der : Bytes
  subject : DistinguishedName
  keyType : KeyType
  deriving DecidableEq

/-- A reference to a private key: its type and the name it has in its store. -/
structure KeyHandle where
  keyType : KeyType
  id : String
  deriving DecidableEq

/-- A certificate chain, leaf first, with the private key of its leaf. -/
structure Identity where
  chain : List Certificate
  key : KeyHandle
  deriving DecidableEq

/-- An identity fits an authentication type if its key is of the type that the exchange
    needs and the chain is not empty. -/
def Identity.Fits (identity : Identity) (auth : AuthType) : Prop :=
  identity.key.keyType = auth.keyType ∧ identity.chain ≠ []

instance (identity : Identity) (auth : AuthType) : Decidable (identity.Fits auth) :=
  inferInstanceAs (Decidable (_ ∧ _))

end TlsHandshake
