/-
  TlsHandshake.Registry.CipherSuite

  The registry of cipher suites. Each suite has one profile: its wire code and
  registered name, the key exchange, the record cipher, the hash and the first version
  that defines it. All of them end with TLS 1.2, since TLS 1.3 took the key exchange out
  of the suite; DTLS versions are judged as the TLS versions they are built on.
-/

import TlsHandshake.Registry.BulkCipher
import TlsHandshake.Registry.KeyExchange
import TlsHandshake.Registry.Version

namespace TlsHandshake

/-- A registered cipher suite. -/
inductive CipherSuite
  | rsaWithAes128CbcSha
  | dheDssWithAes128CbcSha
  | dheRsaWithAes128CbcSha
  | dhAnonWithAes128CbcSha
  | rsaWithAes256CbcSha
  | rsaWithAes128GcmSha256
  | rsaWithAes256GcmSha384
  | dheRsaWithAes128GcmSha256
  | dheRsaWithAes256GcmSha384
  | dhRsaWithAes128GcmSha256
  | dheDssWithAes128GcmSha256
  | dhDssWithAes128GcmSha256
  | dhAnonWithAes128GcmSha256
  | pskWithAes128GcmSha256
  | ecdheEcdsaWithAes128CbcSha
  | ecdheRsaWithAes128CbcSha
  | ecdhAnonWithAes128CbcSha
  | ecdheEcdsaWithAes128GcmSha256
  | ecdheEcdsaWithAes256GcmSha384
  | ecdhEcdsaWithAes128GcmSha256
  | ecdheRsaWithAes128GcmSha256
  | ecdheRsaWithAes256GcmSha384
  | ecdhRsaWithAes128GcmSha256
  deriving DecidableEq

/-- What the registry says about a suite. -/
structure SuiteProfile where
  code : UInt16
  name : String
  keyExchange : KeyExchange
  bulkCipher : BulkCipher
  hash : HashAlgorithm
  firstVersion : Version

namespace CipherSuite

/-- Every suite, by rising wire code. -/
def all : List CipherSuite :=
  [.rsaWithAes128CbcSha, .dheDssWithAes128CbcSha, .dheRsaWithAes128CbcSha,
   .dhAnonWithAes128CbcSha, .rsaWithAes256CbcSha, .rsaWithAes128GcmSha256,
   .rsaWithAes256GcmSha384, .dheRsaWithAes128GcmSha256, .dheRsaWithAes256GcmSha384,
   .dhRsaWithAes128GcmSha256, .dheDssWithAes128GcmSha256, .dhDssWithAes128GcmSha256,
   .dhAnonWithAes128GcmSha256, .pskWithAes128GcmSha256, .ecdheEcdsaWithAes128CbcSha,
   .ecdheRsaWithAes128CbcSha, .ecdhAnonWithAes128CbcSha, .ecdheEcdsaWithAes128GcmSha256,
   .ecdheEcdsaWithAes256GcmSha384, .ecdhEcdsaWithAes128GcmSha256,
   .ecdheRsaWithAes128GcmSha256, .ecdheRsaWithAes256GcmSha384, .ecdhRsaWithAes128GcmSha256]

/-- The registry entry of a suite. -/
def profile : CipherSuite → SuiteProfile
  | .rsaWithAes128CbcSha =>
    ⟨0x002F, "TLS_RSA_WITH_AES_128_CBC_SHA", .certified .rsa, .aes128Cbc, .sha1, .ssl30⟩
  | .dheDssWithAes128CbcSha =>
    ⟨0x0032, "TLS_DHE_DSS_WITH_AES_128_CBC_SHA", .certified .dheDss, .aes128Cbc, .sha1, .ssl30⟩
  | .dheRsaWithAes128CbcSha =>
    ⟨0x0033, "TLS_DHE_RSA_WITH_AES_128_CBC_SHA", .certified .dheRsa, .aes128Cbc, .sha1, .ssl30⟩
  | .dhAnonWithAes128CbcSha =>
    ⟨0x0034, "TLS_DH_anon_WITH_AES_128_CBC_SHA", .anonymousDh, .aes128Cbc, .sha1, .ssl30⟩
  | .rsaWithAes256CbcSha =>
    ⟨0x0035, "TLS_RSA_WITH_AES_256_CBC_SHA", .certified .rsa, .aes256Cbc, .sha1, .ssl30⟩
  | .rsaWithAes128GcmSha256 =>
    ⟨0x009C, "TLS_RSA_WITH_AES_128_GCM_SHA256", .certified .rsa, .aes128Gcm, .sha256, .tls12⟩
  | .rsaWithAes256GcmSha384 =>
    ⟨0x009D, "TLS_RSA_WITH_AES_256_GCM_SHA384", .certified .rsa, .aes256Gcm, .sha384, .tls12⟩
  | .dheRsaWithAes128GcmSha256 =>
    ⟨0x009E, "TLS_DHE_RSA_WITH_AES_128_GCM_SHA256", .certified .dheRsa, .aes128Gcm, .sha256,
      .tls12⟩
  | .dheRsaWithAes256GcmSha384 =>
    ⟨0x009F, "TLS_DHE_RSA_WITH_AES_256_GCM_SHA384", .certified .dheRsa, .aes256Gcm, .sha384,
      .tls12⟩
  | .dhRsaWithAes128GcmSha256 =>
    ⟨0x00A0, "TLS_DH_RSA_WITH_AES_128_GCM_SHA256", .certified .dhRsa, .aes128Gcm, .sha256,
      .tls12⟩
  | .dheDssWithAes128GcmSha256 =>
    ⟨0x00A2, "TLS_DHE_DSS_WITH_AES_128_GCM_SHA256", .certified .dheDss, .aes128Gcm, .sha256,
      .tls12⟩
  | .dhDssWithAes128GcmSha256 =>
    ⟨0x00A4, "TLS_DH_DSS_WITH_AES_128_GCM_SHA256", .certified .dhDss, .aes128Gcm, .sha256,
      .tls12⟩
  | .dhAnonWithAes128GcmSha256 =>
    ⟨0x00A6, "TLS_DH_anon_WITH_AES_128_GCM_SHA256", .anonymousDh, .aes128Gcm, .sha256, .tls12⟩
  | .pskWithAes128GcmSha256 =>
    ⟨0x00A8, "TLS_PSK_WITH_AES_128_GCM_SHA256", .unsupported, .aes128Gcm, .sha256, .tls12⟩
  | .ecdheEcdsaWithAes128CbcSha =>
    ⟨0xC009, "TLS_ECDHE_ECDSA_WITH_AES_128_CBC_SHA", .certified .ecdheEcdsa, .aes128Cbc, .sha1,
      .tls10⟩
  | .ecdheRsaWithAes128CbcSha =>
    ⟨0xC013, "TLS_ECDHE_RSA_WITH_AES_128_CBC_SHA", .certified .ecdheRsa, .aes128Cbc, .sha1,
      .tls10⟩
  | .ecdhAnonWithAes128CbcSha =>
    ⟨0xC018, "TLS_ECDH_anon_WITH_AES_128_CBC_SHA", .anonymousEcdh, .aes128Cbc, .sha1, .tls10⟩
  | .ecdheEcdsaWithAes128GcmSha256 =>
    ⟨0xC02B, "TLS_ECDHE_ECDSA_WITH_AES_128_GCM_SHA256", .certified .ecdheEcdsa, .aes128Gcm,
      .sha256, .tls12⟩
  | .ecdheEcdsaWithAes256GcmSha384 =>
    ⟨0xC02C, "TLS_ECDHE_ECDSA_WITH_AES_256_GCM_SHA384", .certified .ecdheEcdsa, .aes256Gcm,
      .sha384, .tls12⟩
  | .ecdhEcdsaWithAes128GcmSha256 =>
    ⟨0xC02D, "TLS_ECDH_ECDSA_WITH_AES_128_GCM_SHA256", .certified .ecdhEcdsa, .aes128Gcm,
      .sha256, .tls12⟩
  | .ecdheRsaWithAes128GcmSha256 =>
    ⟨0xC02F, "TLS_ECDHE_RSA_WITH_AES_128_GCM_SHA256", .certified .ecdheRsa, .aes128Gcm, .sha256,
      .tls12⟩
  | .ecdheRsaWithAes256GcmSha384 =>
    ⟨0xC030, "TLS_ECDHE_RSA_WITH_AES_256_GCM_SHA384", .certified .ecdheRsa, .aes256Gcm, .sha384,
      .tls12⟩
  | .ecdhRsaWithAes128GcmSha256 =>
    ⟨0xC031, "TLS_ECDH_RSA_WITH_AES_128_GCM_SHA256", .certified .ecdhRsa, .aes128Gcm, .sha256,
      .tls12⟩

/-- The wire code of a suite. -/
def code (s : CipherSuite) : UInt16 := s.profile.code

/-- The registered name of a suite. -/
def name (s : CipherSuite) : String := s.profile.name

/-- The key exchange of a suite. -/
def keyExchange (s : CipherSuite) : KeyExchange := s.profile.keyExchange

/-- The record cipher of a suite. -/
def bulkCipher (s : CipherSuite) : BulkCipher := s.profile.bulkCipher

/-- The hash of a suite. -/
def hash (s : CipherSuite) : HashAlgorithm := s.profile.hash

/-- The first TLS version that defines the suite. -/
def firstVersion (s : CipherSuite) : Version := s.profile.firstVersion

/-- The last TLS version in which a suite still names a key exchange. -/
def lastVersion (_ : CipherSuite) : Version := .tls12

/-- The suite that a wire code stands for. -/
def ofCode? (code : UInt16) : Option CipherSuite := all.find? (·.code == code)

/-- The suite with exactly this registered name. -/
def ofName? (name : String) : Option CipherSuite := all.find? (·.name == name)

theorem ofCode?_code (s : CipherSuite) : ofCode? s.code = some s := by cases s <;> rfl

theorem ofName?_name (s : CipherSuite) : ofName? s.name = some s := by cases s <;> decide

theorem code_injective {s t : CipherSuite} (h : s.code = t.code) : s = t := by
  have hs := ofCode?_code s
  rw [h, ofCode?_code t] at hs
  exact (Option.some.inj hs).symm

/-- Whether a suite may be used at a version, a DTLS version being judged as the TLS
    version it is built on. -/
def isValidAt (s : CipherSuite) (v : Version) : Bool :=
  v.streamEquivalent.atLeast s.firstVersion && s.lastVersion.atLeast v.streamEquivalent

/-- Whether the key exchange runs over an elliptic curve. -/
def isElliptic (s : CipherSuite) : Bool := s.keyExchange.isElliptic

/-- The smallest curve that can carry the key exchange: any curve at all for an elliptic
    suite, none for the others. -/
def minimumCurveBits (s : CipherSuite) : Nat := if s.isElliptic then 1 else 0

/-- Whether the suite may be negotiated in FIPS mode: the server must be authenticated. -/
def isFipsApproved (s : CipherSuite) : Bool :=
  !s.keyExchange.isAnonymous && s.keyExchange != .unsupported

/-- No suite reaches beyond TLS 1.2 and DTLS 1.2. -/
theorem ne_tls13_of_isValidAt {s : CipherSuite} {v : Version} (h : s.isValidAt v = true) :
    v ≠ .tls13 ∧ v ≠ .dtls13 := by
  simp only [isValidAt, lastVersion, Bool.and_eq_true] at h
  obtain ⟨-, h⟩ := h
  constructor <;> rintro rfl <;> revert h <;> decide

/-- The approved suites are exactly the certified ones. -/
theorem isFipsApproved_iff (s : CipherSuite) :
    s.isFipsApproved = true ↔ ∃ auth, s.keyExchange = .certified auth := by
  simp only [isFipsApproved]
  cases s.keyExchange <;> simp [KeyExchange.isAnonymous]

/-- The preference order of a server that names none: forward secrecy with authenticated
    encryption first, key transport last. -/
def defaultPreference : List CipherSuite :=
  [.ecdheEcdsaWithAes256GcmSha384, .ecdheEcdsaWithAes128GcmSha256,
   .ecdheRsaWithAes256GcmSha384, .ecdheRsaWithAes128GcmSha256,
   .dheRsaWithAes256GcmSha384, .dheRsaWithAes128GcmSha256, .dheDssWithAes128GcmSha256,
   .ecdheEcdsaWithAes128CbcSha, .ecdheRsaWithAes128CbcSha, .dheRsaWithAes128CbcSha,
   .rsaWithAes256GcmSha384, .rsaWithAes128GcmSha256, .rsaWithAes256CbcSha,
   .rsaWithAes128CbcSha]

end CipherSuite

end TlsHandshake
