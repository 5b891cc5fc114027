/-
  TlsHandshake.Registry.Alert

  Alerts: a level and a description, each with its wire code and registry name, and
  how loudly an alert is logged.

  An alert this server raises is a warning in the log only when it points at a fault
  of the server itself (`internal_error`); any other fatal alert is an ordinary end
  of a negotiation. An alert from the client is never louder than information.
-/

namespace TlsHandshake

/-- How loud a log entry is. -/
inductive Severity
  | debug
  | info
  | warn
  deriving DecidableEq

/-- Whether an alert lets the connection go on. -/
inductive AlertLevel
  | warning
  | fatal
  deriving DecidableEq

namespace AlertLevel

/-- Both levels. -/
def all : List AlertLevel := [.warning, .fatal]

/-- The wire code of a level. -/
def code : AlertLevel → UInt8
  | .warning => 1
  | .fatal => 2

/-- The registry name of a level. -/
def name : AlertLevel → String
  | .warning => "warning"
  | .fatal => "fatal"

/-- The level that a wire code stands for. -/
def ofCode? (code : UInt8) : Option AlertLevel := all.find? (·.code == code)

theorem ofCode?_code (l : AlertLevel) : ofCode? l.code = some l := by cases l <;> rfl

end AlertLevel

/-- What an alert reports. -/
inductive AlertDescription
  | closeNotify
  | unexpectedMessage
  | badRecordMac
  | recordOverflow
  | handshakeFailure
  | badCertificate
  | unsupportedCertificate
  | certificateRevoked
  | certificateExpired
  | certificateUnknown
  | illegalParameter
  | unknownCa
  | accessDenied
  | decodeError
  | decryptError
  | protocolVersion
  | insufficientSecurity
  | internalError
  | inappropriateFallback
  | userCanceled
  | noRenegotiation
  | unsupportedExtension
  deriving DecidableEq

namespace AlertDescription

/-- Every description, by rising wire code. -/
def all : List AlertDescription :=
  [.closeNotify, .unexpectedMessage, .badRecordMac, .recordOverflow, .handshakeFailure,
   .badCertificate, .unsupportedCertificate, .certificateRevoked, .certificateExpired,
   .certificateUnknown, .illegalParameter, .unknownCa, .accessDenied, .decodeError,
   .decryptError, .protocolVersion, .insufficientSecurity, .internalError,
   .inappropriateFallback, .userCanceled, .noRenegotiation, .unsupportedExtension]

/-- The wire code of a description. -/
def code : AlertDescription → UInt8
  | .closeNotify => 0
  | .unexpectedMessage => 10
  | .badRecordMac => 20
  | .recordOverflow => 22
  | .handshakeFailure => 40
  | .badCertificate => 42
  | .unsupportedCertificate => 43
  | .certificateRevoked => 44
  | .certificateExpired => 45
  | .certificateUnknown => 46
  | .illegalParameter => 47
  | .unknownCa => 48
  | .accessDenied => 49
  | .decodeError => 50
  | .decryptError => 51
  | .protocolVersion => 70
  | .insufficientSecurity => 71
  | .internalError => 80
  | .inappropriateFallback => 86
  | .userCanceled => 90
  | .noRenegotiation => 100
  | .unsupportedExtension => 110

/-- The registry name of a description. -/
def name : AlertDescription → String
  | .closeNotify => "close_notify"
  | .unexpectedMessage => "unexpected_message"
  | .badRecordMac => "bad_record_mac"
  | .recordOverflow => "record_overflow"
  | .handshakeFailure => "handshake_failure"
  | .badCertificate => "bad_certificate"
  | .unsupportedCertificate => "unsupported_certificate"
  | .certificateRevoked => "certificate_revoked"
  | .certificateExpired => "certificate_expired"
  | .certificateUnknown => "certificate_unknown"
  | .illegalParameter => "illegal_parameter"
  | .unknownCa => "unknown_ca"
  | .accessDenied => "access_denied"
  | .decodeError => "decode_error"
  | .decryptError => "decrypt_error"
  | .protocolVersion => "protocol_version"
  | .insufficientSecurity => "insufficient_security"
  | .internalError => "internal_error"
  | .inappropriateFallback => "inappropriate_fallback"
  | .userCanceled => "user_canceled"
  | .noRenegotiation => "no_renegotiation"
  | .unsupportedExtension => "unsupported_extension"

/-- The description that a wire code stands for. -/
def ofCode? (code : UInt8) : Option AlertDescription := all.find? (·.code == code)

theorem ofCode?_code (d : AlertDescription) : ofCode? d.code = some d := by cases d <;> rfl

end AlertDescription

/-- An alert as it is sent or received. -/
structure Alert where
  level : AlertLevel
  description : AlertDescription
  deriving DecidableEq

namespace Alert

/-- How loudly the server logs an alert it raises. -/
def raisedSeverity (alert : Alert) : Severity :=
  match alert.level, alert.description with
  | .warning, _ => .debug
  | .fatal, .internalError => .warn
  | .fatal, _ => .info

/-- How loudly the server logs an alert it receives. -/
def receivedSeverity (alert : Alert) : Severity :=
  match alert.level with
  | .warning => .debug
  | .fatal => .info

/-- Only a fatal `internal_error` of the server's own is logged as a warning. -/
theorem raisedSeverity_eq_warn_iff (alert : Alert) :
    alert.raisedSeverity = .warn ↔ alert = ⟨.fatal, .internalError⟩ := by
  obtain ⟨level, description⟩ := alert
  cases level <;> cases description <;> decide

end Alert

end TlsHandshake
