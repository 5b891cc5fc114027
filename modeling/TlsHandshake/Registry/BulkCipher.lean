/-
  TlsHandshake.Registry.BulkCipher

  Record protection ciphers. Negotiation encrypts nothing: it only asks whether a
  provider has the cipher of a suite.
-/

namespace TlsHandshake

/-- A cipher that protects records. -/
inductive BulkCipher
  | aes128Cbc
  | aes256Cbc
  | aes128Gcm
  | aes256Gcm
  deriving DecidableEq

namespace BulkCipher

/-- Every bulk cipher. -/
def all : List BulkCipher := [.aes128Cbc, .aes256Cbc, .aes128Gcm, .aes256Gcm]

/-- The standard name. -/
def name : BulkCipher → String
  | .aes128Cbc => "AES_128_CBC"
  | .aes256Cbc => "AES_256_CBC"
  | .aes128Gcm => "AES_128_GCM"
  | .aes256Gcm => "AES_256_GCM"

/-- The cipher with exactly this standard name. -/
def ofName? (name : String) : Option BulkCipher := all.find? (·.name == name)

theorem ofName?_name (c : BulkCipher) : ofName? c.name = some c := by cases c <;> decide

/-- The key length in bytes. -/
def keyLength : BulkCipher → Nat
  | .aes128Cbc | .aes128Gcm => 16
  | .aes256Cbc | .aes256Gcm => 32

/-- Whether the cipher authenticates by itself. -/
def isAead : BulkCipher → Bool
  | .aes128Gcm | .aes256Gcm => true
  | .aes128Cbc | .aes256Cbc => false

end BulkCipher

end TlsHandshake
