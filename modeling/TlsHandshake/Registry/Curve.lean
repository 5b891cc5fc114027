/-
  TlsHandshake.Registry.Curve

  Named elliptic curves with their wire codes, names and field sizes, and the two
  curves that a restricted policy approves.
-/

namespace TlsHandshake

/-- A named elliptic curve. -/
inductive NamedCurve
  | sect571r1
  | secp192r1
  | secp224r1
  | secp256k1
  | secp256r1
  | secp384r1
  | secp521r1
  | brainpoolP256r1
  | brainpoolP384r1
  | brainpoolP512r1
  | x25519
  | x448
  deriving DecidableEq

namespace NamedCurve

/-- Every curve, by rising wire code. -/
def all : List NamedCurve :=
  [.sect571r1, .secp192r1, .secp224r1, .secp256k1, .secp256r1, .secp384r1, .secp521r1,
   .brainpoolP256r1, .brainpoolP384r1, .brainpoolP512r1, .x25519, .x448]

theorem mem_all (c : NamedCurve) : c ∈ all := by cases c <;> decide

/-- The curves that a restricted policy approves. -/
def approved : List NamedCurve := [.secp256r1, .secp384r1]

/-- The wire code of a curve. -/
def code : NamedCurve → UInt16
  | .sect571r1 => 0x000E
  | .secp192r1 => 0x0013
  | .secp224r1 => 0x0015
  | .secp256k1 => 0x0016
  | .secp256r1 => 0x0017
  | .secp384r1 => 0x0018
  | .secp521r1 => 0x0019
  | .brainpoolP256r1 => 0x001A
  | .brainpoolP384r1 => 0x001B
  | .brainpoolP512r1 => 0x001C
  | .x25519 => 0x001D
  | .x448 => 0x001E

/-- The registry name of a curve. -/
def name : NamedCurve → String
  | .sect571r1 => "sect571r1"
  | .secp192r1 => "secp192r1"
  | .secp224r1 => "secp224r1"
  | .secp256k1 => "secp256k1"
  | .secp256r1 => "secp256r1"
  | .secp384r1 => "secp384r1"
  | .secp521r1 => "secp521r1"
  | .brainpoolP256r1 => "brainpoolP256r1"
  | .brainpoolP384r1 => "brainpoolP384r1"
  | .brainpoolP512r1 => "brainpoolP512r1"
  | .x25519 => "x25519"
  | .x448 => "x448"

/-- The size of the curve's field in bits. -/
def bits : NamedCurve → Nat
  | .sect571r1 => 571
  | .secp192r1 => 192
  | .secp224r1 => 224
  | .secp256k1 | .secp256r1 | .brainpoolP256r1 | .x25519 => 256
  | .secp384r1 | .brainpoolP384r1 => 384
  | .secp521r1 => 521
  | .brainpoolP512r1 => 512
  | .x448 => 448

/-- The curve that a wire code stands for. -/
def ofCode? (code : UInt16) : Option NamedCurve := all.find? (·.code == code)

theorem ofCode?_code (c : NamedCurve) : ofCode? c.code = some c := by cases c <;> rfl

/-- Whether a restricted policy approves the curve. -/
def isApproved (c : NamedCurve) : Bool := approved.contains c

theorem isApproved_iff (c : NamedCurve) : c.isApproved = true ↔ c ∈ approved := by
  simp [isApproved]

/-- The largest size in a list of curves, 0 if it holds none. -/
def largestBits (curves : List NamedCurve) : Nat := curves.foldl (fun n c => max n c.bits) 0

theorem le_foldl_max_bits (curves : List NamedCurve) (n : Nat) :
    n ≤ curves.foldl (fun n c => max n c.bits) n := by
  induction curves generalizing n with
  | nil => exact Nat.le_refl n
  | cons c cs ih => exact Nat.le_trans (Nat.le_max_left n c.bits) (ih _)

theorem bits_le_largestBits {curves : List NamedCurve} {c : NamedCurve} (h : c ∈ curves) :
    c.bits ≤ largestBits curves := by
  suffices H : ∀ n, c.bits ≤ curves.foldl (fun n c => max n c.bits) n from H 0
  induction curves with
  | nil => cases h
  | cons d ds ih =>
    intro n
    rcases List.mem_cons.1 h with rfl | hd
    · exact Nat.le_trans (Nat.le_max_right n _) (le_foldl_max_bits ds _)
    · exact ih hd _

/-- A largest size above 0 is the size of a listed curve. -/
theorem exists_bits_eq_largestBits {curves : List NamedCurve} (h : 0 < largestBits curves) :
    ∃ c ∈ curves, c.bits = largestBits curves := by
  suffices H : ∀ n, curves.foldl (fun n c => max n c.bits) n = n ∨
      ∃ c ∈ curves, c.bits = curves.foldl (fun n c => max n c.bits) n by
    rcases H 0 with h0 | hc
    · exact absurd h (by simp [largestBits, h0])
    · exact hc
  clear h
  induction curves with
  | nil => intro n; exact Or.inl rfl
  | cons d ds ih =>
    intro n
    rcases ih (max n d.bits) with h0 | ⟨c, hc, he⟩
    · rcases Nat.le_total d.bits n with hle | hle
      · exact Or.inl (by simpa [Nat.max_eq_left hle] using h0)
      · exact Or.inr ⟨d, List.mem_cons_self .., by simpa [Nat.max_eq_right hle] using h0.symm⟩
    · exact Or.inr ⟨c, List.mem_cons_of_mem _ hc, he⟩

end NamedCurve

end TlsHandshake
