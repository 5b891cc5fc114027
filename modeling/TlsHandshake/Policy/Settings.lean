/-
  TlsHandshake.Policy.Settings

  A configuration as a list of settings, each applied to the default in turn and the
  result validated at the end.

  Needing and wanting client authentication exclude each other: either setting also
  clears the other one, whether it turns its own on or off.
-/

import TlsHandshake.Policy.Config

namespace TlsHandshake

/-- One setting of a configuration. -/
inductive Setting
  | protocols (names : List String)
  | versions (versions : List Version)
  | suites (suites : List CipherSuite)
  | fips (on : Bool)
  | restrictedCurves (on : Bool)
  | needClientAuth (on : Bool)
  | wantClientAuth (on : Bool)
  | compression (methods : List CompressionMethod)
  deriving DecidableEq

namespace Config

/-- The configuration after one setting. -/
def set (config : Config) : Setting → Config
  | .protocols names => { config with protocols := names }
  | .versions versions => { config with protocols := versions.map Version.name }
  | .suites suites => { config with suites := suites }
  | .fips on => { config with fips := on }
  | .restrictedCurves on => { config with restrictedCurves := on }
  | .needClientAuth on => { config with needClientAuth := on, wantClientAuth := false }
  | .wantClientAuth on => { config with wantClientAuth := on, needClientAuth := false }
  | .compression methods => { config with compression := methods }

/-- The default configuration after these settings, not yet validated. -/
def ofSettings (settings : List Setting) : Config := settings.foldl set {}

/-- The validated configuration of these settings. -/
def build (settings : List Setting) : Except ConfigFault Config :=
  (ofSettings settings).validate

end Config

end TlsHandshake
