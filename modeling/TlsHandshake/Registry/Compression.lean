/-
  TlsHandshake.Registry.Compression

  Record compression methods and their wire codes.
-/

namespace TlsHandshake

/-- A record compression method. -/
inductive CompressionMethod
  | null
  | deflate
  deriving DecidableEq

namespace CompressionMethod

/-- Every compression method. -/
def all : List CompressionMethod := [.null, .deflate]

/-- The code that stands for a method in a hello message. -/
def code : CompressionMethod → UInt8
  | .null => 0
  | .deflate => 1

/-- The method that a wire code stands for. -/
def ofCode? (code : UInt8) : Option CompressionMethod := all.find? (·.code == code)

theorem ofCode?_code (m : CompressionMethod) : ofCode? m.code = some m := by cases m <;> rfl

end CompressionMethod

end TlsHandshake
