/-
  TlsHandshake.Session

  The session that a finished handshake publishes: the parameters that came out of the
  key exchange together with what was negotiated and who presented which certificates.
-/

import TlsHandshake.Identity
import TlsHandshake.Registry.CipherSuite

namespace TlsHandshake

/-- What the key exchange yields: a session identifier and the master secret. -/
structure SessionParameters where
  id : Bytes
  masterSecret : Bytes
  deriving DecidableEq

/-- An established session. -/
structure Session where
  id : Bytes
  version : Version
  suite : CipherSuite
  localCertificates : List Certificate
  peerCertificates : List Certificate
  masterSecret : Bytes
  deriving DecidableEq

/-- The session of these parameters and these negotiated values. -/
def SessionParameters.session (parameters : SessionParameters) (version : Version)
    (suite : CipherSuite) (localCertificates peerCertificates : List Certificate) : Session where
  id := parameters.id
  version := version
  suite := suite
  localCertificates := localCertificates
  peerCertificates := peerCertificates
  masterSecret := parameters.masterSecret

end TlsHandshake
