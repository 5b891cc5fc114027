/-
  TlsHandshake.Diagnostic.Report

  Diagnostic reports on keys, sessions, configurations, contexts, resolvers and
  handshakes. No report shows a secret: key identifiers and master secrets are redacted,
  certificates are only counted, and a context shows whether it has a store and nothing
  of what is in it.
-/

import TlsHandshake.Diagnostic.Label
import TlsHandshake.Diagnostic.Text
import TlsHandshake.Handshake.State

namespace TlsHandshake

open Diagnostic

/-- The report on a key handle, without its identifier. -/
def KeyHandle.report (key : KeyHandle) : String :=
  record "PrivateKeyHandle" [⟨"key_type", key.keyType.label⟩, ⟨"id", redacted⟩]

/-- The bytes of a session identifier, as numbers. -/
def Diagnostic.bytes (bytes : Bytes) : String :=
  sequence (bytes.map fun b => toString b.toNat)

/-- The report on session parameters, without the master secret. -/
def SessionParameters.report (parameters : SessionParameters) : String :=
  record "SessionParameters"
    [⟨"session_id", Diagnostic.bytes parameters.id⟩, ⟨"master_secret", redacted⟩]

/-- The report on a session, without the master secret. -/
def Session.report (session : Session) : String :=
  record "Session"
    [⟨"id", Diagnostic.bytes session.id⟩,
     ⟨"protocol_version", session.version.label⟩,
     ⟨"cipher_suite", session.suite.label⟩,
     ⟨"local_certificates", toString session.localCertificates.length⟩,
     ⟨"peer_certificates", toString session.peerCertificates.length⟩,
     ⟨"master_secret", redacted⟩]

/-- The report on a configuration. -/
def Config.report (config : Config) : String :=
  record "Config"
    [⟨"protocols", sequence (config.protocols.map quoted)⟩,
     ⟨"cipher_suites", sequence (config.suites.map CipherSuite.label)⟩,
     ⟨"fips", bool config.fips⟩,
     ⟨"restricted_curves", bool config.restrictedCurves⟩,
     ⟨"need_client_auth", bool config.needClientAuth⟩,
     ⟨"want_client_auth", bool config.wantClientAuth⟩,
     ⟨"compression_methods", sequence (config.compression.map CompressionMethod.label)⟩]

/-- The report on a context that is still being put together and may have no policy. -/
def Context.draftReport (config : Option Config) : String :=
  partialRecord "ServerContextBuilder" [⟨"config", optional (config.map Config.report)⟩]

/-- The report on a context. -/
def Context.report (context : Context) : String :=
  partialRecord "ServerContext"
    [⟨"config", context.config.report⟩,
     ⟨"key_store", bool context.keyStore.isSome⟩,
     ⟨"trust_store", bool context.trustStore.isSome⟩]

/-- A list of signature schemes that the client may not have sent. -/
def Diagnostic.schemes (schemes : Option (List SignatureScheme)) : String :=
  optional (schemes.map fun list => sequence (list.map SignatureScheme.label))

/-- A list of curves that the client may not have sent. -/
def Diagnostic.curves (curves : Option (List NamedCurve)) : String :=
  optional (curves.map fun list => sequence (list.map NamedCurve.label))

/-- The report on a resolver. -/
def Resolver.report (resolver : Resolver) : String :=
  record "CredentialResolver"
    [⟨"has_key_store", bool resolver.keyStore.isSome⟩,
     ⟨"version", resolver.version.label⟩,
     ⟨"client_signature_schemes", Diagnostic.schemes resolver.clientSchemes⟩]

/-- The report on an offer. -/
def Offer.report (offer : Offer) : String :=
  record "ClientOffer"
    [⟨"client_version", offer.version.label⟩,
     ⟨"cipher_suites", sequence (offer.suites.map fun code => toString code.toNat)⟩,
     ⟨"named_curves", Diagnostic.curves offer.curves⟩,
     ⟨"signature_schemes", Diagnostic.schemes offer.schemes⟩]

/-- The report on how a client authenticated. -/
def ClientAuthentication.report : ClientAuthentication → String
  | .unauthenticated => "Unauthenticated"
  | .trusted type => record "Trusted" [⟨"auth_type", quoted type.authName⟩]

/-- The report on a completion flag, which sits behind a lock. -/
def CompletionFlag.report (flag : CompletionFlag) : String :=
  record "CompletionFlag"
    [⟨"complete", partialRecord "Mutex"
      [⟨"data", bool flag.isComplete⟩, ⟨"poisoned", bool false⟩]⟩]

/-- The report on a handshake: of its credential the kind, of its peer nothing. -/
def Handshake.report (h : Handshake) : String :=
  partialRecord "ServerHandshake"
    [⟨"offer", h.offer.report⟩,
     ⟨"version", optional (h.version.map Version.label)⟩,
     ⟨"cipher_suite", optional (h.suite.map CipherSuite.label)⟩,
     ⟨"credential", quoted (credentialKind h.credential)⟩,
     ⟨"certificate_requested", bool h.certificateRequested⟩,
     ⟨"client_authentication",
       optional (h.clientAuthentication.map ClientAuthentication.report)⟩,
     ⟨"completion", h.completion.report⟩]

end TlsHandshake
