/-
  TlsHandshake.Registry.Hash

  Hash algorithms of cipher suites and signature schemes, ordered by strength.
-/

namespace TlsHandshake

/-- A hash algorithm. -/
inductive HashAlgorithm
  | sha1
  | sha256
  | sha384
  | sha512
  deriving DecidableEq

namespace HashAlgorithm

/-- Every hash, weakest first. -/
def all : List HashAlgorithm := [.sha1, .sha256, .sha384, .sha512]

/-- The registry code of a hash inside a signature-and-hash pair. -/
def code : HashAlgorithm → UInt8
  | .sha1 => 2
  | .sha256 => 4
  | .sha384 => 5
  | .sha512 => 6

/-- The standard name. -/
def name : HashAlgorithm → String
  | .sha1 => "SHA-1"
  | .sha256 => "SHA-256"
  | .sha384 => "SHA-384"
  | .sha512 => "SHA-512"

/-- The digest length in bytes. -/
def digestLength : HashAlgorithm → Nat
  | .sha1 => 20
  | .sha256 => 32
  | .sha384 => 48
  | .sha512 => 64

/-- The hash with exactly this standard name. -/
def ofName? (name : String) : Option HashAlgorithm := all.find? (·.name == name)

theorem ofName?_name (h : HashAlgorithm) : ofName? h.name = some h := by cases h <;> decide

/-- The hashes that `h` is stronger than, weakest first: those with a shorter digest. -/
def weaker (h : HashAlgorithm) : List HashAlgorithm :=
  all.filter fun other => other.digestLength < h.digestLength

end HashAlgorithm

end TlsHandshake
