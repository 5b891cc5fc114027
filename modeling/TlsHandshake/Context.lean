/-
  TlsHandshake.Context

  What all handshakes of a server share and none changes: its policy and the
  collaborators that negotiation consults. A server may be without a key store, and then
  serves anonymous suites only, or without a trust store, and then trusts no client.
-/

import TlsHandshake.Collaborators
import TlsHandshake.Policy.Config

namespace TlsHandshake

/-- A server's policy and collaborators. -/
structure Context where
  config : Config
  provider : Provider
  sessionCache : SessionCache
  keyStore : Option KeyStore
  trustStore : Option TrustStore

namespace Context

/-- The enabled suites that the provider can run, in the server's order; in FIPS mode the
    approved ones of them. -/
def supportedSuites (context : Context) : List CipherSuite :=
  context.config.suites.filter fun suite =>
    (!context.config.fips || suite.isFipsApproved) && context.provider.runs suite

/-- The compression methods that the server offers: none but null in FIPS mode. -/
def compressionMethods (context : Context) : List CompressionMethod :=
  if context.config.fips then [.null] else context.config.compression

theorem mem_supportedSuites_iff (context : Context) (suite : CipherSuite) :
    suite ∈ context.supportedSuites ↔
      suite ∈ context.config.suites ∧
        (context.config.fips = true → suite.isFipsApproved = true) ∧
        context.provider.runs suite = true := by
  simp only [supportedSuites, List.mem_filter, Bool.and_eq_true, Bool.or_eq_true,
    Bool.not_eq_true']
  cases context.config.fips <;> simp

end Context

end TlsHandshake
