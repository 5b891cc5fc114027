/-
  TlsHandshake.Registry.Signature

  Signature algorithms, the signature schemes built from them, and which key can
  produce which scheme. A key that signs with RSA produces both the older padding
  and PSS; every other algorithm produces only its own schemes.
-/

import TlsHandshake.Registry.Hash

namespace TlsHandshake

/-- The algorithm that makes a signature. -/
inductive SignatureAlgorithm
  | rsa
  | dsa
  | ecdsa
  | rsaPssRsae
  | ed25519
  deriving DecidableEq

namespace SignatureAlgorithm

/-- Every signature algorithm. -/
def all : List SignatureAlgorithm := [.rsa, .dsa, .ecdsa, .rsaPssRsae, .ed25519]

/-- The registry code of an algorithm inside a signature-and-hash pair. -/
def code : SignatureAlgorithm → UInt8
  | .rsa => 1
  | .dsa => 2
  | .ecdsa => 3
  | .rsaPssRsae => 8
  | .ed25519 => 7

end SignatureAlgorithm

/-- A signature scheme: an algorithm with its hash. -/
inductive SignatureScheme
  | rsaPkcs1Sha1
  | dsaSha1
  | ecdsaSha1
  | rsaPkcs1Sha256
  | dsaSha256
  | ecdsaSecp256r1Sha256
  | rsaPkcs1Sha384
  | ecdsaSecp384r1Sha384
  | rsaPkcs1Sha512
  | ecdsaSecp521r1Sha512
  | rsaPssRsaeSha256
  | rsaPssRsaeSha384
  | rsaPssRsaeSha512
  | ed25519
  deriving DecidableEq

namespace SignatureScheme

/-- Every scheme, the stronger first inside each algorithm. -/
def all : List SignatureScheme :=
  [.ecdsaSecp521r1Sha512, .ecdsaSecp384r1Sha384, .ecdsaSecp256r1Sha256, .ed25519,
   .rsaPssRsaeSha512, .rsaPssRsaeSha384, .rsaPssRsaeSha256,
   .rsaPkcs1Sha512, .rsaPkcs1Sha384, .rsaPkcs1Sha256,
   .dsaSha256, .ecdsaSha1, .rsaPkcs1Sha1, .dsaSha1]

theorem mem_all (s : SignatureScheme) : s ∈ all := by cases s <;> decide

theorem nodup_all : all.Nodup := by decide

/-- The wire code of a scheme. -/
def code : SignatureScheme → UInt16
  | .rsaPkcs1Sha1 => 0x0201
  | .dsaSha1 => 0x0202
  | .ecdsaSha1 => 0x0203
  | .rsaPkcs1Sha256 => 0x0401
  | .dsaSha256 => 0x0402
  | .ecdsaSecp256r1Sha256 => 0x0403
  | .rsaPkcs1Sha384 => 0x0501
  | .ecdsaSecp384r1Sha384 => 0x0503
  | .rsaPkcs1Sha512 => 0x0601
  | .ecdsaSecp521r1Sha512 => 0x0603
  | .rsaPssRsaeSha256 => 0x0804
  | .rsaPssRsaeSha384 => 0x0805
  | .rsaPssRsaeSha512 => 0x0806
  | .ed25519 => 0x0807

/-- The registry name of a scheme. -/
def name : SignatureScheme → String
  | .rsaPkcs1Sha1 => "rsa_pkcs1_sha1"
  | .dsaSha1 => "dsa_sha1"
  | .ecdsaSha1 => "ecdsa_sha1"
  | .rsaPkcs1Sha256 => "rsa_pkcs1_sha256"
  | .dsaSha256 => "dsa_sha256"
  | .ecdsaSecp256r1Sha256 => "ecdsa_secp256r1_sha256"
  | .rsaPkcs1Sha384 => "rsa_pkcs1_sha384"
  | .ecdsaSecp384r1Sha384 => "ecdsa_secp384r1_sha384"
  | .rsaPkcs1Sha512 => "rsa_pkcs1_sha512"
  | .ecdsaSecp521r1Sha512 => "ecdsa_secp521r1_sha512"
  | .rsaPssRsaeSha256 => "rsa_pss_rsae_sha256"
  | .rsaPssRsaeSha384 => "rsa_pss_rsae_sha384"
  | .rsaPssRsaeSha512 => "rsa_pss_rsae_sha512"
  | .ed25519 => "ed25519"

/-- The scheme that a wire code stands for. -/
def ofCode? (code : UInt16) : Option SignatureScheme := all.find? (·.code == code)

theorem ofCode?_code (s : SignatureScheme) : ofCode? s.code = some s := by cases s <;> rfl

/-- The algorithm of a scheme. -/
def algorithm : SignatureScheme → SignatureAlgorithm
  | .rsaPkcs1Sha1 | .rsaPkcs1Sha256 | .rsaPkcs1Sha384 | .rsaPkcs1Sha512 => .rsa
  | .dsaSha1 | .dsaSha256 => .dsa
  | .ecdsaSha1 | .ecdsaSecp256r1Sha256 | .ecdsaSecp384r1Sha384 | .ecdsaSecp521r1Sha512 => .ecdsa
  | .rsaPssRsaeSha256 | .rsaPssRsaeSha384 | .rsaPssRsaeSha512 => .rsaPssRsae
  | .ed25519 => .ed25519

/-- The hash of a scheme; Ed25519 has its hash built in and names none. -/
def hash? : SignatureScheme → Option HashAlgorithm
  | .rsaPkcs1Sha1 | .dsaSha1 | .ecdsaSha1 => some .sha1
  | .rsaPkcs1Sha256 | .dsaSha256 | .ecdsaSecp256r1Sha256 | .rsaPssRsaeSha256 => some .sha256
  | .rsaPkcs1Sha384 | .ecdsaSecp384r1Sha384 | .rsaPssRsaeSha384 => some .sha384
  | .rsaPkcs1Sha512 | .ecdsaSecp521r1Sha512 | .rsaPssRsaeSha512 => some .sha512
  | .ed25519 => none

/-- Whether a key that signs with `required` can produce the scheme. -/
def usableFor (scheme : SignatureScheme) (required : SignatureAlgorithm) : Bool :=
  scheme.algorithm == required || (scheme.algorithm == .rsaPssRsae && required == .rsa)

/-- The scheme a client means by sending no list at all: SHA-1 with its algorithm. -/
def implied? : SignatureAlgorithm → Option SignatureScheme
  | .rsa => some .rsaPkcs1Sha1
  | .dsa => some .dsaSha1
  | .ecdsa => some .ecdsaSha1
  | .rsaPssRsae | .ed25519 => none

end SignatureScheme

end TlsHandshake
