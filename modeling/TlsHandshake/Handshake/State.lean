/-
  TlsHandshake.Handshake.State

  The state of one handshake on the server's side: what the client offered, what has
  been negotiated so far, and whether the handshake is complete.
-/

import TlsHandshake.ClientAuth.Verdict
import TlsHandshake.Context
import TlsHandshake.Negotiation.CurveChoice
import TlsHandshake.Negotiation.Resolver

namespace TlsHandshake

/-- What a client offers. Suites stay as codes, since those that are not registered were
    offered too; the lists of the two extensions are absent if the client sent none. -/
structure Offer where
  version : Version
  suites : List UInt16
  curves : Option (List NamedCurve)
  schemes : Option (List SignatureScheme)
  deriving DecidableEq

/-- The client offered the suite. -/
def Offer.offers (offer : Offer) (suite : CipherSuite) : Bool :=
  offer.suites.contains suite.code

/-- Whether a handshake is complete. It is unset at first and can be set once. -/
structure CompletionFlag where
  isComplete : Bool
  deriving DecidableEq

namespace CompletionFlag

/-- A flag that is not set. -/
def unset : CompletionFlag := ⟨false⟩

/-- Sets the flag and tells whether this was the first time. -/
def mark (flag : CompletionFlag) : Bool × CompletionFlag := (!flag.isComplete, ⟨true⟩)

theorem mark_fst_iff (flag : CompletionFlag) :
    flag.mark.1 = true ↔ flag.isComplete = false := by
  simp [mark]

theorem isComplete_mark (flag : CompletionFlag) : flag.mark.2.isComplete = true := rfl

end CompletionFlag

/-- The state of one handshake. -/
structure Handshake where
  offer : Offer
  version : Option Version
  suite : Option CipherSuite
  credential : Option Credential
  certificateRequested : Bool
  clientAuthentication : Option ClientAuthentication
  peerCertificates : List Certificate
  completion : CompletionFlag
  deriving DecidableEq

namespace Handshake

/-- A handshake in which nothing has been negotiated. -/
def start (offer : Offer) : Handshake where
  offer := offer
  version := none
  suite := none
  credential := none
  certificateRequested := false
  clientAuthentication := none
  peerCertificates := []
  completion := .unset

/-- Whether the handshake is complete. -/
def isComplete (h : Handshake) : Bool := h.completion.isComplete

/-- The choice of curves between the client's list and the server's policy. -/
def curveChoice (context : Context) (h : Handshake) : CurveChoice :=
  ⟨h.offer.curves, context.config.restrictsCurves⟩

/-- The search for credentials at a version. -/
def resolver (context : Context) (h : Handshake) (version : Version) : Resolver :=
  ⟨context.keyStore, context.provider, version, h.offer.schemes⟩

/-- The handshake with another credential, or with none. -/
def withCredential (h : Handshake) (credential : Option Credential) : Handshake :=
  { h with credential := credential }

/-- The handshake with this suite selected. -/
def withSuite (h : Handshake) (suite : CipherSuite) : Handshake :=
  { h with suite := some suite }

@[simp] theorem resolver_withCredential (context : Context) (h : Handshake) (version : Version)
    (credential : Option Credential) :
    (h.withCredential credential).resolver context version = h.resolver context version := rfl

@[simp] theorem withCredential_withCredential (h : Handshake)
    (first second : Option Credential) :
    (h.withCredential first).withCredential second = h.withCredential second := rfl

end Handshake

end TlsHandshake
