/-
  TlsHandshake.Failure

  Why a configuration is refused, a provider call fails or a handshake has to end. Each
  failure is its cause; `Failure.message` is the only place that words it, and
  `Failure.alert?` the only place that chooses the alert for the client.

  A failure of the crypto provider ends the handshake with `internal_error`. A
  configuration is refused before any handshake starts, so it has no alert.
-/

import TlsHandshake.Registry.Alert
import TlsHandshake.Registry.CertificateType
import TlsHandshake.Registry.Version

namespace TlsHandshake

/-- A failure that a crypto provider reports. -/
inductive ProviderError
  | unsupportedCredential (kind : String)
  | unsupportedAlgorithm (name : String)
  | invalidKey
  | signingFailed
  | decryptionFailed
  | agreementFailed
  | internal (detail : String)
  deriving DecidableEq

/-- The text of a provider's failure. -/
def ProviderError.message : ProviderError → String
  | .unsupportedCredential kind => "credential type not supported by provider: " ++ kind
  | .unsupportedAlgorithm name => "algorithm not supported: " ++ name
  | .invalidKey => "invalid private key handle"
  | .signingFailed => "signature generation failed"
  | .decryptionFailed => "decryption failed"
  | .agreementFailed => "key agreement failed"
  | .internal detail => "internal error: " ++ detail

/-- What is wrong with a configuration. -/
inductive ConfigFault
  | noProtocols
  | unknownProtocol (name : String)
  | noSuites
  | nullCompressionMissing
  | other (text : String)
  deriving DecidableEq

/-- The text of a configuration fault. -/
def ConfigFault.message : ConfigFault → String
  | .noProtocols => "No protocols enabled"
  | .unknownProtocol name => "Unknown protocol: " ++ name
  | .noSuites => "No cipher suites enabled"
  | .nullCompressionMissing => "Null compression must be enabled"
  | .other text => text

/-- Why a handshake must end with a fatal alert. -/
inductive FatalCause
  | noEnabledProtocol (client : Version)
  | versionNotNegotiated
  | suiteNotSelected
  | noAcceptableSuite
  | noAcceptableCurve
  | certificateNotRequested
  | certificateMissing
  | certificateKeyUnusable (key : KeyType)
  | chainNotTrusted (type : ClientCertificateType)
  | other (alert : AlertDescription) (text : String)
  deriving DecidableEq

namespace FatalCause

/-- The alert that ends the handshake. -/
def alert : FatalCause → AlertDescription
  | .noEnabledProtocol _ => .protocolVersion
  | .versionNotNegotiated | .suiteNotSelected => .internalError
  | .noAcceptableSuite | .noAcceptableCurve | .certificateMissing => .handshakeFailure
  | .certificateNotRequested => .unexpectedMessage
  | .certificateKeyUnusable _ | .chainNotTrusted _ => .badCertificate
  | .other alert _ => alert

/-- The diagnostic text, which stays with the server. -/
def message : FatalCause → String
  | .noEnabledProtocol client => "no enabled protocol at or below " ++ client.name
  | .versionNotNegotiated => "protocol version has not been negotiated"
  | .suiteNotSelected => "cipher suite has not been selected"
  | .noAcceptableSuite => "no mutually acceptable cipher suite"
  | .noAcceptableCurve => "no acceptable named curve"
  | .certificateNotRequested => "client certificate without a certificate request"
  | .certificateMissing => "client certificate required but none was sent"
  | .certificateKeyUnusable key =>
    "client certificate key type " ++ key.name ++ " cannot authenticate"
  | .chainNotTrusted type => "client certificate chain not trusted for " ++ type.authName
  | .other _ text => text

end FatalCause

/-- Any failure of the server side of a handshake or of its configuration. -/
inductive Failure
  | fatal (cause : FatalCause)
  | invalidConfig (fault : ConfigFault)
  | provider (error : ProviderError)
  deriving DecidableEq

namespace Failure

/-- The alert that the client should get. -/
def alert? : Failure → Option AlertDescription
  | .fatal cause => some cause.alert
  | .provider _ => some .internalError
  | .invalidConfig _ => none

/-- The whole text of a failure. -/
def message : Failure → String
  | .fatal cause => "fatal alert " ++ cause.alert.name ++ ": " ++ cause.message
  | .invalidConfig fault => "invalid configuration: " ++ fault.message
  | .provider error => "crypto provider failure: " ++ error.message

/-- Only a refused configuration carries no alert. -/
theorem alert?_eq_none_iff (failure : Failure) :
    failure.alert? = none ↔ ∃ fault, failure = .invalidConfig fault := by
  cases failure <;> simp [alert?]

end Failure

end TlsHandshake
