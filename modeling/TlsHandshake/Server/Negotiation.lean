/-
  TlsHandshake.Server.Negotiation

  A server takes a client's offer: it either opens a handshake, to be taken on step by
  step, or drives the whole negotiation at once. The drive takes the version, the suite,
  the curve and the certificate request in this order and stops at the first failure,
  which is then logged as a fatal alert raised by the server.
-/

import TlsHandshake.Handshake.Steps

namespace TlsHandshake

/-- A TLS server. -/
structure Server where
  context : Context

/-- What a completed negotiation has settled. -/
structure Agreement where
  version : Version
  suite : CipherSuite
  curve : Option NamedCurve
  request : Option CertificateRequest
  deriving DecidableEq

/-- Takes the four steps of a negotiation, up to the first that fails. -/
def Handshake.agree (context : Context) (manager : Manager) (h : Handshake) :
    Attempt Handshake Agreement :=
  (h.serverVersion context).andThen fun version h =>
  (h.selectedCipherSuite context manager).andThen fun suite h =>
  (h.ecdhCurve context).andThen fun curve h =>
  (h.certificateRequest context).andThen fun request h =>
  ⟨.ok ⟨version, suite, curve, request⟩, h, []⟩

namespace Server

/-- The release of this library. -/
def release : String := "0.1.0"

/-- Opens a handshake for an offer. -/
def accept (offer : Offer) : Outcome Handshake Unit :=
  ⟨(), .start offer, [.log (.offerReceived offer.version offer.suites.length)]⟩

/-- The fatal alert that is logged for a failed negotiation, if the failure has one. -/
def failureNotices (failure : Failure) : List Event :=
  match failure.alert? with
  | some description =>
    [.log (.alertRaised ⟨.fatal, description⟩ (some "negotiation failed") (some failure.message))]
  | none => []

/-- Logs the alert of a negotiation that failed. -/
def raiseAlert (driven : Attempt Handshake Agreement) : Attempt Handshake Agreement :=
  match driven.answer with
  | .ok _ => driven
  | .error failure => { driven with events := driven.events ++ failureNotices failure }

theorem raiseAlert_answer (driven : Attempt Handshake Agreement) :
    (raiseAlert driven).answer = driven.answer := by
  unfold raiseAlert
  cases ha : driven.answer with
  | ok agreement => exact ha
  | error failure => rfl

theorem raiseAlert_state (driven : Attempt Handshake Agreement) :
    (raiseAlert driven).state = driven.state := by
  unfold raiseAlert
  cases driven.answer <;> rfl

/-- Opens a handshake for an offer and negotiates everything. -/
def negotiate (server : Server) (manager : Manager) (offer : Offer) :
    Attempt Handshake Agreement :=
  raiseAlert
    (((Handshake.start offer).agree server.context manager).after (accept offer).events)

theorem negotiate_answer (server : Server) (manager : Manager) (offer : Offer) :
    (server.negotiate manager offer).answer =
      ((Handshake.start offer).agree server.context manager).answer := by
  rw [negotiate, raiseAlert_answer]
  rfl

theorem negotiate_state (server : Server) (manager : Manager) (offer : Offer) :
    (server.negotiate manager offer).state =
      ((Handshake.start offer).agree server.context manager).state := by
  rw [negotiate, raiseAlert_state]
  rfl

/-- The server hands the handshake out for an offer: accepted, or negotiated at once. -/
inductive Opens (server : Server) (manager : Manager) (offer : Offer) : Handshake → Prop
  | accepted : Opens server manager offer (accept offer).state
  | negotiated {agreement : Agreement}
      (ha : (server.negotiate manager offer).answer = .ok agreement) :
      Opens server manager offer (server.negotiate manager offer).state

end Server

end TlsHandshake
