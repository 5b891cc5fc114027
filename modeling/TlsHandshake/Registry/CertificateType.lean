/-
  TlsHandshake.Registry.CertificateType

  Client certificate types: the three signing types that a server asks for, and the
  key types that can authenticate a client. A finite field Diffie-Hellman key cannot
  sign and has no type.
-/

import TlsHandshake.Registry.KeyExchange

namespace TlsHandshake

/-- The type of a client certificate. -/
inductive ClientCertificateType
  | rsaSign
  | dssSign
  | ecdsaSign
  deriving DecidableEq

namespace ClientCertificateType

/-- Every type, in the order in which a certificate request lists them. -/
def all : List ClientCertificateType := [.rsaSign, .dssSign, .ecdsaSign]

theorem mem_all (t : ClientCertificateType) : t ∈ all := by cases t <;> decide

/-- The wire code of a type. -/
def code : ClientCertificateType → UInt8
  | .rsaSign => 1
  | .dssSign => 2
  | .ecdsaSign => 64

/-- The name of the type's authentication, as a trust store knows it. -/
def authName : ClientCertificateType → String
  | .rsaSign => "RSA"
  | .dssSign => "DSA"
  | .ecdsaSign => "EC"

/-- The type that a wire code stands for. -/
def ofCode? (code : UInt8) : Option ClientCertificateType := all.find? (·.code == code)

theorem ofCode?_code (t : ClientCertificateType) : ofCode? t.code = some t := by
  cases t <;> rfl

/-- The type of a certificate that holds a key of this type. -/
def ofKeyType? : KeyType → Option ClientCertificateType
  | .rsa => some .rsaSign
  | .dsa => some .dssSign
  | .ec => some .ecdsaSign
  | .dh => none

end ClientCertificateType

end TlsHandshake
