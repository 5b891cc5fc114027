import TlsHandshake.Diagnostic.Report
import TlsHandshake.Negotiation.Reference
import TlsHandshake.Policy.Settings
import TlsHandshake.Server.Pool
import TlsHandshake.Proofs.Negotiation.RoundMemory
import TlsHandshake.Proofs.Handshake.Search
import TlsHandshake.Proofs.Handshake.AliasQueries
import TlsHandshake.Proofs.Handshake.Transition
import TlsHandshake.Proofs.Handshake.ClientAuthentication
import TlsHandshake.Proofs.Handshake.Policy
import TlsHandshake.Proofs.Negotiation.RoundRecords
import TlsHandshake.Proofs.Negotiation.SignerScheme
import TlsHandshake.Proofs.Negotiation.VersionChoice
import TlsHandshake.Proofs.Negotiation.CurvePreference
import TlsHandshake.Proofs.Negotiation.Inquiry
import TlsHandshake.Proofs.Policy.BuiltConfig
import TlsHandshake.Proofs.Handshake.Completion
import TlsHandshake.Proofs.Handshake.PeerCertificates
import TlsHandshake.Proofs.Handshake.LiveCredential
import TlsHandshake.Proofs.Handshake.SingleTry
import TlsHandshake.Proofs.Handshake.SelectionCalls
import TlsHandshake.Proofs.Handshake.CertificateMessage
import TlsHandshake.Proofs.ClientAuth.RequestContents
import TlsHandshake.Proofs.Handshake.Curve
import TlsHandshake.Proofs.Server.Course
import TlsHandshake.Proofs.Handshake.Stability
import TlsHandshake.Proofs.Handshake.Capability
import TlsHandshake.Proofs.Server.Drive
import TlsHandshake.Proofs.Server.Secrecy
import TlsHandshake.Proofs.Server.Isolation
import TlsHandshake.Proofs.Server.OfferedSuites
