/-
  TlsHandshake.Registry.Version

  Protocol versions of TLS and DTLS, their wire codes and canonical names, and the
  order inside each of the two families.

  DTLS counts its versions downwards on the wire, so "at least" compares codes in
  opposite directions for the two families and never across them. The walk from a
  version down its family (`Version.descent`) visits exactly the versions it is at
  least as late as (`Version.mem_descent_iff`).
-/

namespace TlsHandshake

/-- A protocol version of TLS (with its ancestor SSL 3.0) or of DTLS. -/
inductive Version
  | ssl30 | tls10 | tls11 | tls12 | tls13
  | dtls10 | dtls12 | dtls13
  deriving DecidableEq

namespace Version

/-- Every version: the TLS family, then the DTLS family, each with the latest first. -/
def all : List Version :=
  [.tls13, .tls12, .tls11, .tls10, .ssl30, .dtls13, .dtls12, .dtls10]

theorem mem_all (v : Version) : v ∈ all := by cases v <;> decide

/-- The code that stands for a version in a hello message. -/
def code : Version → UInt16
  | .ssl30 => 0x0300
  | .tls10 => 0x0301
  | .tls11 => 0x0302
  | .tls12 => 0x0303
  | .tls13 => 0x0304
  | .dtls10 => 0xFEFF
  | .dtls12 => 0xFEFD
  | .dtls13 => 0xFEFC

/-- The canonical name, by which a configuration enables a version. -/
def name : Version → String
  | .ssl30 => "SSLv3"
  | .tls10 => "TLSv1"
  | .tls11 => "TLSv1.1"
  | .tls12 => "TLSv1.2"
  | .tls13 => "TLSv1.3"
  | .dtls10 => "DTLSv1.0"
  | .dtls12 => "DTLSv1.2"
  | .dtls13 => "DTLSv1.3"

/-- The version that a wire code stands for. -/
def ofCode? (code : UInt16) : Option Version := all.find? (·.code == code)

/-- The version with exactly this canonical name. -/
def ofName? (name : String) : Option Version := all.find? (·.name == name)

theorem ofCode?_code (v : Version) : ofCode? v.code = some v := by cases v <;> rfl

theorem ofName?_name (v : Version) : ofName? v.name = some v := by cases v <;> decide

theorem name_injective {v w : Version} (h : v.name = w.name) : v = w := by
  have hv := ofName?_name v
  rw [h, ofName?_name w] at hv
  exact (Option.some.inj hv).symm

/-- Some version has this canonical name. -/
theorem ofName?_isSome_iff (n : String) : (ofName? n).isSome ↔ ∃ v : Version, v.name = n := by
  simp [ofName?, List.find?_isSome, mem_all]

/-! ## The two families -/

/-- The datagram family, DTLS. -/
def isDatagram : Version → Bool
  | .dtls10 | .dtls12 | .dtls13 => true
  | .ssl30 | .tls10 | .tls11 | .tls12 | .tls13 => false

/-- The next earlier version of the same family. -/
def previous? : Version → Option Version
  | .tls13 => some .tls12
  | .tls12 => some .tls11
  | .tls11 => some .tls10
  | .tls10 => some .ssl30
  | .ssl30 => none
  | .dtls13 => some .dtls12
  | .dtls12 => some .dtls10
  | .dtls10 => none

/-- `v.atLeast w`: `v` is `w` or a later version of the same family. DTLS codes fall
    as versions advance. -/
def atLeast (v w : Version) : Bool :=
  v.isDatagram == w.isDatagram &&
    if v.isDatagram then decide (v.code ≤ w.code) else decide (w.code ≤ v.code)

/-- The signature schemes extension exists from TLS 1.2 and from DTLS 1.2 on. -/
def hasSignatureSchemes (v : Version) : Bool := v.atLeast .tls12 || v.atLeast .dtls12

/-- The TLS version that a DTLS version is built on; a TLS version stands for itself. -/
def streamEquivalent : Version → Version
  | .dtls10 => .tls11
  | .dtls12 => .tls12
  | .dtls13 => .tls13
  | v => v

theorem atLeast_refl (v : Version) : v.atLeast v = true := by cases v <;> decide

theorem atLeast_trans {u v w : Version} :
    u.atLeast v = true → v.atLeast w = true → u.atLeast w = true := by
  cases u <;> cases v <;> cases w <;> decide

theorem atLeast_antisymm {v w : Version} :
    v.atLeast w = true → w.atLeast v = true → v = w := by
  cases v <;> cases w <;> decide

/-! ## Walking down a family -/

/-- How many versions of the same family are earlier. -/
def earlierCount : Version → Nat
  | .ssl30 | .dtls10 => 0
  | .tls10 | .dtls12 => 1
  | .tls11 | .dtls13 => 2
  | .tls12 => 3
  | .tls13 => 4

theorem earlierCount_lt_of_previous? {v w : Version} :
    v.previous? = some w → w.earlierCount < v.earlierCount := by
  cases v <;> cases w <;> decide

/-- A version and every earlier one of its family, in the order of the walk down. -/
def descent (v : Version) : List Version :=
  match _h : v.previous? with
  | none => [v]
  | some w => v :: w.descent
termination_by v.earlierCount
decreasing_by exact earlierCount_lt_of_previous? ‹_›

theorem descent_of_previous?_none {v : Version} (h : v.previous? = none) :
    v.descent = [v] := by
  rw [descent]; split <;> simp_all

theorem descent_of_previous?_some {v w : Version} (h : v.previous? = some w) :
    v.descent = v :: w.descent := by
  rw [descent]; split <;> simp_all

theorem descent_ssl30 : descent .ssl30 = [.ssl30] := descent_of_previous?_none rfl

theorem descent_tls10 : descent .tls10 = [.tls10, .ssl30] := by
  rw [descent_of_previous?_some (w := .ssl30) rfl, descent_ssl30]

theorem descent_tls11 : descent .tls11 = [.tls11, .tls10, .ssl30] := by
  rw [descent_of_previous?_some (w := .tls10) rfl, descent_tls10]

theorem descent_tls12 : descent .tls12 = [.tls12, .tls11, .tls10, .ssl30] := by
  rw [descent_of_previous?_some (w := .tls11) rfl, descent_tls11]

theorem descent_tls13 : descent .tls13 = [.tls13, .tls12, .tls11, .tls10, .ssl30] := by
  rw [descent_of_previous?_some (w := .tls12) rfl, descent_tls12]

theorem descent_dtls10 : descent .dtls10 = [.dtls10] := descent_of_previous?_none rfl

theorem descent_dtls12 : descent .dtls12 = [.dtls12, .dtls10] := by
  rw [descent_of_previous?_some (w := .dtls10) rfl, descent_dtls10]

theorem descent_dtls13 : descent .dtls13 = [.dtls13, .dtls12, .dtls10] := by
  rw [descent_of_previous?_some (w := .dtls12) rfl, descent_dtls12]

/-- The walk down from `v` meets exactly the versions that `v` is at least. -/
theorem mem_descent_iff (v w : Version) : w ∈ v.descent ↔ v.atLeast w = true := by
  cases v <;>
    simp only [descent_ssl30, descent_tls10, descent_tls11, descent_tls12, descent_tls13,
      descent_dtls10, descent_dtls12, descent_dtls13] <;>
    cases w <;> decide

end Version

end TlsHandshake
