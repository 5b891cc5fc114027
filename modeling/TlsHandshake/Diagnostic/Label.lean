/-
  TlsHandshake.Diagnostic.Label

  The short labels by which diagnostic text names versions, suites, curves, schemes, key
  types and compression methods. They are identifiers, not registry names.
-/

import TlsHandshake.Registry.CipherSuite
import TlsHandshake.Registry.Compression
import TlsHandshake.Registry.Curve

namespace TlsHandshake

/-- The label of a version. -/
def Version.label : Version → String
  | .ssl30 => "Ssl30"
  | .tls10 => "Tls10"
  | .tls11 => "Tls11"
  | .tls12 => "Tls12"
  | .tls13 => "Tls13"
  | .dtls10 => "Dtls10"
  | .dtls12 => "Dtls12"
  | .dtls13 => "Dtls13"

/-- The label of a suite. -/
def CipherSuite.label : CipherSuite → String
  | .rsaWithAes128CbcSha => "RsaWithAes128CbcSha"
  | .dheDssWithAes128CbcSha => "DheDssWithAes128CbcSha"
  | .dheRsaWithAes128CbcSha => "DheRsaWithAes128CbcSha"
  | .dhAnonWithAes128CbcSha => "DhAnonWithAes128CbcSha"
  | .rsaWithAes256CbcSha => "RsaWithAes256CbcSha"
  | .rsaWithAes128GcmSha256 => "RsaWithAes128GcmSha256"
  | .rsaWithAes256GcmSha384 => "RsaWithAes256GcmSha384"
  | .dheRsaWithAes128GcmSha256 => "DheRsaWithAes128GcmSha256"
  | .dheRsaWithAes256GcmSha384 => "DheRsaWithAes256GcmSha384"
  | .dhRsaWithAes128GcmSha256 => "DhRsaWithAes128GcmSha256"
  | .dheDssWithAes128GcmSha256 => "DheDssWithAes128GcmSha256"
  | .dhDssWithAes128GcmSha256 => "DhDssWithAes128GcmSha256"
  | .dhAnonWithAes128GcmSha256 => "DhAnonWithAes128GcmSha256"
  | .pskWithAes128GcmSha256 => "PskWithAes128GcmSha256"
  | .ecdheEcdsaWithAes128CbcSha => "EcdheEcdsaWithAes128CbcSha"
  | .ecdheRsaWithAes128CbcSha => "EcdheRsaWithAes128CbcSha"
  | .ecdhAnonWithAes128CbcSha => "EcdhAnonWithAes128CbcSha"
  | .ecdheEcdsaWithAes128GcmSha256 => "EcdheEcdsaWithAes128GcmSha256"
  | .ecdheEcdsaWithAes256GcmSha384 => "EcdheEcdsaWithAes256GcmSha384"
  | .ecdhEcdsaWithAes128GcmSha256 => "EcdhEcdsaWithAes128GcmSha256"
  | .ecdheRsaWithAes128GcmSha256 => "EcdheRsaWithAes128GcmSha256"
  | .ecdheRsaWithAes256GcmSha384 => "EcdheRsaWithAes256GcmSha384"
  | .ecdhRsaWithAes128GcmSha256 => "EcdhRsaWithAes128GcmSha256"

/-- The label of a curve. -/
def NamedCurve.label : NamedCurve → String
  | .sect571r1 => "Sect571r1"
  | .secp192r1 => "Secp192r1"
  | .secp224r1 => "Secp224r1"
  | .secp256k1 => "Secp256k1"
  | .secp256r1 => "Secp256r1"
  | .secp384r1 => "Secp384r1"
  | .secp521r1 => "Secp521r1"
  | .brainpoolP256r1 => "BrainpoolP256r1"
  | .brainpoolP384r1 => "BrainpoolP384r1"
  | .brainpoolP512r1 => "BrainpoolP512r1"
  | .x25519 => "X25519"
  | .x448 => "X448"

/-- The label of a signature scheme. -/
def SignatureScheme.label : SignatureScheme → String
  | .rsaPkcs1Sha1 => "RsaPkcs1Sha1"
  | .dsaSha1 => "DsaSha1"
  | .ecdsaSha1 => "EcdsaSha1"
  | .rsaPkcs1Sha256 => "RsaPkcs1Sha256"
  | .dsaSha256 => "DsaSha256"
  | .ecdsaSecp256r1Sha256 => "EcdsaSecp256r1Sha256"
  | .rsaPkcs1Sha384 => "RsaPkcs1Sha384"
  | .ecdsaSecp384r1Sha384 => "EcdsaSecp384r1Sha384"
  | .rsaPkcs1Sha512 => "RsaPkcs1Sha512"
  | .ecdsaSecp521r1Sha512 => "EcdsaSecp521r1Sha512"
  | .rsaPssRsaeSha256 => "RsaPssRsaeSha256"
  | .rsaPssRsaeSha384 => "RsaPssRsaeSha384"
  | .rsaPssRsaeSha512 => "RsaPssRsaeSha512"
  | .ed25519 => "Ed25519"

/-- The label of a key type. -/
def KeyType.label : KeyType → String
  | .rsa => "Rsa"
  | .dsa => "Dsa"
  | .dh => "Dh"
  | .ec => "Ec"

/-- The label of a compression method. -/
def CompressionMethod.label : CompressionMethod → String
  | .null => "Null"
  | .deflate => "Deflate"

end TlsHandshake
