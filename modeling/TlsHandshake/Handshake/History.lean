/-
  TlsHandshake.Handshake.History

  Everything that can be done to one handshake, as data: one operation, a sequence that
  stops at the first failure, and a lifetime in which the surroundings may change.

  Handshakes of one server share two things while they run: the rounds in which single
  suites are tried, which the server's owner numbers and may use for more than one
  handshake, and the session cache, whose answers may depend on the sessions reported
  before. Every operation therefore meets rounds and reported sessions that may be any.
-/

import TlsHandshake.Handshake.Steps

namespace TlsHandshake

/-- What the handshakes of a server share: numbered rounds, and the sessions reported so
    far, oldest first. -/
structure Shared where
  rounds : Nat → Round
  reported : List Session

namespace Shared

/-- Nothing has happened yet. -/
def fresh : Shared := ⟨fun _ => .fresh, []⟩

/-- The shared things with one round replaced. -/
def setRound (shared : Shared) (index : Nat) (round : Round) : Shared :=
  { shared with rounds := fun i => if i = index then round else shared.rounds i }

/-- The shared things after the sessions that some events report. -/
def record (shared : Shared) (events : List Event) : Shared :=
  { shared with reported := shared.reported ++ Event.sessions events }

@[simp] theorem rounds_setRound_self (shared : Shared) (index : Nat) (round : Round) :
    (shared.setRound index round).rounds index = round := by
  simp [setRound]

theorem rounds_setRound_of_ne (shared : Shared) {index other : Nat} (round : Round)
    (h : other ≠ index) : (shared.setRound index round).rounds other = shared.rounds other := by
  simp [setRound, h]

@[simp] theorem reported_setRound (shared : Shared) (index : Nat) (round : Round) :
    (shared.setRound index round).reported = shared.reported := rfl

@[simp] theorem rounds_record (shared : Shared) (events : List Event) :
    (shared.record events).rounds = shared.rounds := rfl

@[simp] theorem reported_record (shared : Shared) (events : List Event) :
    (shared.record events).reported = shared.reported ++ Event.sessions events := rfl

end Shared

/-- One operation on a handshake. -/
inductive Operation
  | serverVersion
  | selectedCipherSuite
  | selectCredentials (round : Nat) (suite : CipherSuite)
  | selectCipherSuite (round : Nat) (suite : CipherSuite)
  | ecdhCurve
  | certificateRequest
  | clientCertificate (chain : List Certificate)
  | alertRaised (alert : Alert) (detail cause : Option String)
  | alertReceived (alert : Alert)
  | complete (parameters : SessionParameters)
  deriving DecidableEq

/-- What a successful operation answers. -/
inductive Answer
  | done
  | version (version : Version)
  | suite (suite : CipherSuite)
  | usable (usable : Bool)
  | curve (curve : Option NamedCurve)
  | request (request : Option CertificateRequest)
  deriving DecidableEq

namespace Handshake

/-- The outcome of an operation that uses no round. -/
def outsideRounds (shared : Shared) (attempt : Attempt Handshake Answer) :
    Attempt (Handshake × Shared) Answer :=
  attempt.withState (attempt.state, shared.record attempt.events)

/-- The outcome of an operation in one of the numbered rounds. -/
def insideRound (shared : Shared) (index : Nat) (attempt : Attempt (Handshake × Round) Bool) :
    Attempt (Handshake × Shared) Answer :=
  (attempt.mapOk .usable).withState
    (attempt.state.1, (shared.setRound index attempt.state.2).record attempt.events)

/-- Performs one operation. -/
def perform (context : Context) (manager : Manager) (operation : Operation)
    (h : Handshake) (shared : Shared) : Attempt (Handshake × Shared) Answer :=
  match operation with
  | .serverVersion => outsideRounds shared ((h.serverVersion context).mapOk .version)
  | .selectedCipherSuite =>
    outsideRounds shared ((h.selectedCipherSuite context manager).mapOk .suite)
  | .selectCredentials round suite =>
    insideRound shared round (h.selectCredentials context suite (shared.rounds round))
  | .selectCipherSuite round suite =>
    insideRound shared round (h.selectCipherSuite context manager suite (shared.rounds round))
  | .ecdhCurve => outsideRounds shared ((h.ecdhCurve context).mapOk .curve)
  | .certificateRequest => outsideRounds shared ((h.certificateRequest context).mapOk .request)
  | .clientCertificate chain =>
    outsideRounds shared ((h.clientCertificate context chain).mapOk fun _ => .done)
  | .alertRaised alert detail cause =>
    outsideRounds shared ((h.alertRaised alert detail cause).map fun _ => .ok .done)
  | .alertReceived alert =>
    outsideRounds shared ((h.alertReceived alert).map fun _ => .ok .done)
  | .complete parameters =>
    outsideRounds shared
      ((h.complete context shared.reported parameters).mapOk fun _ => .done)

/-- Performs operations one after the other up to the first that fails. -/
def drive (context : Context) (manager : Manager) :
    List Operation → Handshake → Shared → Attempt (Handshake × Shared) (List Answer)
  | [], h, shared => ⟨.ok [], (h, shared), []⟩
  | operation :: operations, h, shared =>
    (h.perform context manager operation shared).andThen fun answer reached =>
      (drive context manager operations reached.1 reached.2).mapOk (answer :: ·)

/-! ## Changing surroundings -/

/-- An operation with what it meets: the collaborators, whose answers may have changed
    since the last operation, and the shared things, which other handshakes may have used
    in the meantime. -/
structure Occasion where
  context : Context
  manager : Manager
  shared : Shared
  operation : Operation

/-- What an occasion does to a handshake. -/
def meet (h : Handshake) (occasion : Occasion) : Attempt (Handshake × Shared) Answer :=
  h.perform occasion.context occasion.manager occasion.operation occasion.shared

theorem meet_eq_perform {occasion : Occasion} {operation : Operation}
    (ho : occasion.operation = operation) (h : Handshake) :
    h.meet occasion =
      h.perform occasion.context occasion.manager operation occasion.shared := by
  rw [meet, ho]

/-- Takes a handshake through occasions one after the other, whether they succeed or not. -/
def undergo : List Occasion → Handshake → Outcome Handshake (List (Except Failure Answer))
  | [], h => ⟨[], h, []⟩
  | occasion :: occasions, h =>
    let now := h.meet occasion
    let later := undergo occasions now.state.1
    ⟨now.answer :: later.answer, later.state, now.events ++ later.events⟩

theorem undergo_cons (occasion : Occasion) (occasions : List Occasion) (h : Handshake) :
    h.undergo (occasion :: occasions) =
      let now := h.meet occasion
      let later := now.state.1.undergo occasions
      ⟨now.answer :: later.answer, later.state, now.events ++ later.events⟩ := rfl

theorem undergo_append (first second : List Occasion) (h : Handshake) :
    h.undergo (first ++ second) =
      let begun := h.undergo first
      let ended := begun.state.undergo second
      ⟨begun.answer ++ ended.answer, ended.state, begun.events ++ ended.events⟩ := by
  induction first generalizing h with
  | nil => rfl
  | cons occasion first ih =>
    simp only [List.cons_append, undergo_cons, ih, List.append_assoc]

end Handshake

end TlsHandshake
