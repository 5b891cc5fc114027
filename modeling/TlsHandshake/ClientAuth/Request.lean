/-
  TlsHandshake.ClientAuth.Request

  The certificate request: what the server asks of a client's certificate. It is made
  only if the policy asks clients to authenticate. The types are always the same three;
  the schemes are the provider's and are listed only in versions that have schemes; the
  authorities are the subjects of the issuers that the trust store accepts.
-/

import TlsHandshake.Policy.Config
import TlsHandshake.Trace

namespace TlsHandshake

/-- What the server asks of a client certificate. -/
structure CertificateRequest where
  types : List ClientCertificateType
  schemes : Option (List SignatureScheme)
  authorities : List DistinguishedName
  deriving DecidableEq

namespace CertificateRequest

/-- The subjects of some issuers, in their order. -/
def authoritiesOf (issuers : List Certificate) : List DistinguishedName :=
  issuers.map Certificate.subject

/-- The schemes a request lists, in versions that have schemes. -/
def schemesAt (version : Version) (provider : Provider) : Option (List SignatureScheme) :=
  if version.hasSignatureSchemes then some provider.schemes else none

/-- Asks the trust store, if there is one, for the issuers it accepts. -/
def askIssuers (trustStore : Option TrustStore) : Outcome Unit (List Certificate) :=
  match trustStore with
  | some store => ⟨store.acceptedIssuers, (), [.call .acceptedIssuers]⟩
  | none => ⟨[], (), []⟩

/-- The request of a server with this policy, if the policy makes any. -/
def build (config : Config) (version : Version) (provider : Provider)
    (trustStore : Option TrustStore) : Outcome Unit (Option CertificateRequest) :=
  if config.requestsClientAuth then
    (askIssuers trustStore).map fun issuers =>
      some ⟨ClientCertificateType.all, schemesAt version provider, authoritiesOf issuers⟩
  else ⟨none, (), []⟩

/-- A request is made exactly if the policy asks for client authentication. -/
theorem build_isSome_iff (config : Config) (version : Version) (provider : Provider)
    (trustStore : Option TrustStore) :
    (build config version provider trustStore).answer.isSome = true ↔
      config.requestsClientAuth = true := by
  unfold build
  split <;> simp_all [Outcome.map]

end CertificateRequest

end TlsHandshake
