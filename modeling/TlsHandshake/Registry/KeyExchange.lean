/-
  TlsHandshake.Registry.KeyExchange

  Key exchange families. Most are certified: the server proves itself with a
  certificate, the key store is asked for it by an authentication type, and that type
  fixes the kind of private key and what the key is used for. Anonymous families need
  no certificate; the remaining ones this server cannot serve at all.
-/

import TlsHandshake.Registry.Signature

namespace TlsHandshake

/-- The algorithm of a key pair. -/
inductive KeyType
  | rsa
  | dsa
  | dh
  | ec
  deriving DecidableEq

namespace KeyType

/-- Every key type. -/
def all : List KeyType := [.rsa, .dsa, .dh, .ec]

/-- The standard name. -/
def name : KeyType → String
  | .rsa => "RSA"
  | .dsa => "DSA"
  | .dh => "DH"
  | .ec => "EC"

/-- The key type with exactly this name. -/
def ofName? (name : String) : Option KeyType := all.find? (·.name == name)

theorem ofName?_name (k : KeyType) : ofName? k.name = some k := by cases k <;> decide

end KeyType

/-- What a private key does in a certified key exchange. -/
inductive KeyUse
  | agreement
  | signing (algorithm : SignatureAlgorithm)
  | decryption
  deriving DecidableEq

/-- The authentication type of a certified key exchange: how the exchange runs and what
    signed, or what is, the certificate's key. -/
inductive AuthType
  | dhDss
  | dhRsa
  | dheDss
  | dheRsa
  | ecdhEcdsa
  | ecdhRsa
  | ecdheEcdsa
  | ecdheRsa
  | rsa
  deriving DecidableEq

namespace AuthType

/-- Every authentication type, by name. -/
def all : List AuthType :=
  [.dheDss, .dheRsa, .dhDss, .dhRsa, .ecdheEcdsa, .ecdheRsa, .ecdhEcdsa, .ecdhRsa, .rsa]

theorem mem_all (a : AuthType) : a ∈ all := by cases a <;> decide

/-- The name under which a key store knows the type. -/
def name : AuthType → String
  | .dhDss => "DH_DSS"
  | .dhRsa => "DH_RSA"
  | .dheDss => "DHE_DSS"
  | .dheRsa => "DHE_RSA"
  | .ecdhEcdsa => "ECDH_ECDSA"
  | .ecdhRsa => "ECDH_RSA"
  | .ecdheEcdsa => "ECDHE_ECDSA"
  | .ecdheRsa => "ECDHE_RSA"
  | .rsa => "RSA"

/-- Different types have different names. -/
theorem name_injective {a b : AuthType} : a.name = b.name → a = b := by
  cases a <;> cases b <;> decide

/-- The type of private key that the exchange needs. -/
def keyType : AuthType → KeyType
  | .dhDss | .dhRsa => .dh
  | .ecdhEcdsa | .ecdhRsa => .ec
  | .dheDss => .dsa
  | .ecdheEcdsa => .ec
  | .dheRsa | .ecdheRsa | .rsa => .rsa

/-- What the exchange uses the private key for: a static exchange agrees with it, an
    ephemeral one signs, and RSA key transport decrypts. -/
def keyUse : AuthType → KeyUse
  | .dhDss | .dhRsa | .ecdhEcdsa | .ecdhRsa => .agreement
  | .dheDss => .signing .dsa
  | .dheRsa | .ecdheRsa => .signing .rsa
  | .ecdheEcdsa => .signing .ecdsa
  | .rsa => .decryption

end AuthType

/-- A key exchange family. -/
inductive KeyExchange
  | anonymousDh
  | anonymousEcdh
  | certified (auth : AuthType)
  | unsupported
  deriving DecidableEq

namespace KeyExchange

/-- The authentication type, for a certified family. -/
def authType? : KeyExchange → Option AuthType
  | .certified auth => some auth
  | .anonymousDh | .anonymousEcdh | .unsupported => none

theorem authType?_eq_some_iff (x : KeyExchange) (auth : AuthType) :
    x.authType? = some auth ↔ x = .certified auth := by
  cases x <;> simp [authType?]

/-- Whether the server stays unauthenticated. -/
def isAnonymous : KeyExchange → Bool
  | .anonymousDh | .anonymousEcdh => true
  | .certified _ | .unsupported => false

/-- Whether the exchange runs over an elliptic curve. -/
def isElliptic : KeyExchange → Bool
  | .anonymousEcdh => true
  | .certified .ecdhEcdsa | .certified .ecdhRsa => true
  | .certified .ecdheEcdsa | .certified .ecdheRsa => true
  | _ => false

/-- Whether the server picks a curve for the exchange: a static exchange has that of its
    certificate's key instead. -/
def picksCurve : KeyExchange → Bool
  | .anonymousEcdh => true
  | .certified .ecdheEcdsa | .certified .ecdheRsa => true
  | _ => false

theorem isElliptic_of_picksCurve {x : KeyExchange} :
    x.picksCurve = true → x.isElliptic = true := by
  cases x with
  | certified auth => cases auth <;> decide
  | anonymousDh | anonymousEcdh | unsupported => decide

end KeyExchange

end TlsHandshake
