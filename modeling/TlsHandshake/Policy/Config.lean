/-
  TlsHandshake.Policy.Config

  The negotiation policy of a server: which protocols and suites it enables and in what
  order it prefers the suites, how it treats curves and FIPS mode, and whether it asks
  clients for certificates.

  Protocols are enabled by name. A configuration made by hand may name protocols that
  do not exist; they enable nothing. `Config.validate` refuses them, and the other
  settings under which no handshake could work.
-/

import TlsHandshake.Failure
import TlsHandshake.Registry.CipherSuite
import TlsHandshake.Registry.Compression

namespace TlsHandshake

/-- A server's negotiation policy. -/
structure Config where
  protocols : List String := [Version.tls12.name, Version.tls11.name, Version.tls10.name]
  suites : List CipherSuite := CipherSuite.defaultPreference
  fips : Bool := false
  restrictedCurves : Bool := false
  needClientAuth : Bool := false
  wantClientAuth : Bool := false
  compression : List CompressionMethod := [.null]
  deriving DecidableEq

namespace Config

/-- Only approved curves qualify, in FIPS mode or by the setting of its own. -/
def restrictsCurves (config : Config) : Bool := config.fips || config.restrictedCurves

/-- The server asks its clients for a certificate. -/
def requestsClientAuth (config : Config) : Bool :=
  config.needClientAuth || config.wantClientAuth

/-- The version is enabled by its name. -/
def allows (config : Config) (version : Version) : Bool :=
  config.protocols.contains version.name

/-- The fault of a configuration, the first of: no protocol, an unknown protocol, no
    suite, no null compression. -/
def fault? (config : Config) : Option ConfigFault :=
  if config.protocols.isEmpty then some .noProtocols
  else match config.protocols.find? fun name => (Version.ofName? name).isNone with
    | some unknown => some (.unknownProtocol unknown)
    | none =>
      if config.suites.isEmpty then some .noSuites
      else if config.compression.contains .null then none
      else some .nullCompressionMissing

/-- The configuration itself if it has no fault. -/
def validate (config : Config) : Except ConfigFault Config :=
  match config.fault? with
  | some fault => .error fault
  | none => .ok config

/-- A configuration has no fault if it enables some protocols, all known, and some
    suites, and keeps null compression. -/
theorem fault?_eq_none_iff (config : Config) :
    config.fault? = none ↔
      config.protocols ≠ [] ∧ (∀ name ∈ config.protocols, (Version.ofName? name).isSome) ∧
        config.suites ≠ [] ∧ .null ∈ config.compression := by
  unfold fault?
  split
  · simp_all
  · split
    · rename_i unknown h
      have := List.find?_some h
      have := List.mem_of_find?_eq_some h
      simp_all
      grind
    · rename_i hp hf
      rw [List.find?_eq_none] at hf
      split
      · simp_all
      · split <;> simp_all [Option.isSome_iff_ne_none]

end Config

end TlsHandshake
