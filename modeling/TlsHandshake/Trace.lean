/-
  TlsHandshake.Trace

  What an operation of the server does to the outside: the calls it makes to its
  collaborators and the notices it logs, in the order in which they happen. Asking a
  provider whether it supports an algorithm has no effect and leaves no event.

  An `Outcome` is an answer together with the state that the operation leaves and its
  events. A failed attempt has both as well: a credential may be gone, a miss recorded
  and a call made although the operation failed.
-/

import TlsHandshake.Collaborators
import TlsHandshake.Registry.Curve

namespace TlsHandshake

/-- A call to a collaborator, with its arguments. -/
inductive Call
  | chooseAlias (auth : AuthType)
  | privateKey (keyAlias : String)
  | certificateChain (keyAlias : String)
  | makeAgreement (identity : Identity)
  | makeSigner (identity : Identity) (scheme : Option SignatureScheme)
  | makeDecryptor (identity : Identity)
  | acceptedIssuers
  | trusts (chain : List Certificate) (type : ClientCertificateType)
  | acceptsSuite (suite : CipherSuite) (version : Version)
  | reportSession (session : Session)
  | handshakeComplete (session : Session)
  deriving DecidableEq

/-- An entry of the log, as its cause. -/
inductive Notice
  | offerReceived (client : Version) (suites : Nat)
  | versionSelected (version client : Version)
  | keyExchangeUnsupported (suite : CipherSuite)
  | aliasMissing (auth : AuthType)
  | aliasUnusable (keyAlias : String) (auth : AuthType)
  | schemeMissing (auth : AuthType)
  | suiteSelected (suite : CipherSuite) (kind : String)
  | suiteMissing (queries : Nat)
  | curveSelected (curve : NamedCurve)
  | clientUnauthenticated
  | clientAuthenticated (type : ClientCertificateType)
  | alreadyComplete
  | complete (version : Version) (suite : CipherSuite)
  | alertRaised (alert : Alert) (detail cause : Option String)
  | alertReceived (alert : Alert)
  deriving DecidableEq

namespace Notice

/-- How loud a notice is. -/
def severity : Notice → Severity
  | .alertRaised alert _ _ => alert.raisedSeverity
  | .alertReceived alert => alert.receivedSeverity
  | .complete _ _ => .info
  | _ => .debug

/-- The text of a notice. -/
def message : Notice → String
  | .offerReceived client suites =>
    "accepting client offering " ++ client.name ++ " with " ++ toString suites ++
      " cipher suites"
  | .versionSelected version client =>
    "server selected " ++ version.name ++ " for client offering " ++ client.name
  | .keyExchangeUnsupported suite => "no credentials for key exchange of " ++ suite.name
  | .aliasMissing auth => "key store has no alias for " ++ auth.name
  | .aliasUnusable keyAlias auth => "alias " ++ keyAlias ++ " is not usable for " ++ auth.name
  | .schemeMissing auth => "client offers no usable signature scheme for " ++ auth.name
  | .suiteSelected suite kind =>
    "server selected cipher suite " ++ suite.name ++ " with " ++ kind ++ " credential"
  | .suiteMissing queries =>
    "no cipher suite negotiated after " ++ toString queries ++ " key store queries"
  | .curveSelected curve => "server selected curve " ++ curve.name
  | .clientUnauthenticated => "client sent no certificate; continuing unauthenticated"
  | .clientAuthenticated type => "client authenticated with " ++ type.authName ++ " certificate"
  | .alreadyComplete => "handshake completion already published"
  | .complete version suite => "handshake complete: " ++ version.name ++ " " ++ suite.name
  | .alertRaised alert _ _ =>
    "server raised " ++ alert.level.name ++ " " ++ alert.description.name ++ " alert"
  | .alertReceived alert =>
    "server received " ++ alert.level.name ++ " " ++ alert.description.name ++ " alert"

/-- An alert's notice also has a detail and the text of the error that caused it, empty if
    there is none; other notices have neither. -/
def particulars? : Notice → Option (String × String)
  | .alertRaised _ detail cause => some (detail.getD "", cause.getD "")
  | .alertReceived _ => some ("", "")
  | _ => none

end Notice

/-- Something an operation does to the outside. -/
inductive Event
  | call (call : Call)
  | log (notice : Notice)
  deriving DecidableEq

namespace Event

/-- The call of an event. -/
def call? : Event → Option Call
  | .call c => some c
  | .log _ => none

/-- The notice of an event. -/
def notice? : Event → Option Notice
  | .log n => some n
  | .call _ => none

/-- The calls among some events, in order. -/
def calls (events : List Event) : List Call := events.filterMap call?

/-- The notices among some events, in order. -/
def notices (events : List Event) : List Notice := events.filterMap notice?

/-- The session that a call reports to the session cache. -/
def session? : Event → Option Session
  | .call (.reportSession s) => some s
  | _ => none

/-- The sessions reported among some events, in order. -/
def sessions (events : List Event) : List Session := events.filterMap session?

@[simp] theorem sessions_nil : sessions [] = [] := rfl

@[simp] theorem sessions_append (earlier later : List Event) :
    sessions (earlier ++ later) = sessions earlier ++ sessions later := List.filterMap_append ..

@[simp] theorem calls_nil : calls [] = [] := rfl

@[simp] theorem calls_call (c : Call) (events : List Event) :
    calls (.call c :: events) = c :: calls events := rfl

@[simp] theorem calls_log (n : Notice) (events : List Event) :
    calls (.log n :: events) = calls events := rfl

@[simp] theorem calls_append (earlier later : List Event) :
    calls (earlier ++ later) = calls earlier ++ calls later := List.filterMap_append ..

@[simp] theorem notices_nil : notices [] = [] := rfl

@[simp] theorem notices_call (c : Call) (events : List Event) :
    notices (.call c :: events) = notices events := rfl

@[simp] theorem notices_log (n : Notice) (events : List Event) :
    notices (.log n :: events) = n :: notices events := rfl

@[simp] theorem notices_append (earlier later : List Event) :
    notices (earlier ++ later) = notices earlier ++ notices later := List.filterMap_append ..

end Event

/-- The answer of an operation, the state it leaves, and its events, oldest first. -/
structure Outcome (σ α : Type) where
  answer : α
  state : σ
  events : List Event

/-- The outcome of an operation that can fail; the state and the events are there either
    way. -/
abbrev Attempt (σ α : Type) := Outcome σ (Except Failure α)

namespace Outcome

variable {σ τ α β : Type}

/-- The same outcome after some earlier events. -/
def after (outcome : Outcome σ α) (earlier : List Event) : Outcome σ α :=
  { outcome with events := earlier ++ outcome.events }

/-- The same outcome with one more event at the end. -/
def thenDo (outcome : Outcome σ α) (event : Event) : Outcome σ α :=
  { outcome with events := outcome.events ++ [event] }

/-- The same outcome with an answer made from its answer. -/
def map (outcome : Outcome σ α) (f : α → β) : Outcome σ β :=
  ⟨f outcome.answer, outcome.state, outcome.events⟩

/-- The same attempt with an answer made from its answer, if it succeeded. -/
def mapOk (attempt : Attempt σ α) (f : α → β) : Attempt σ β := attempt.map (Except.map f)

/-- The same outcome with another state. -/
def withState (outcome : Outcome σ α) (state : τ) : Outcome τ α :=
  ⟨outcome.answer, state, outcome.events⟩

/-- The same outcome with a state made from its state. -/
def mapState (outcome : Outcome σ α) (f : σ → τ) : Outcome τ α :=
  outcome.withState (f outcome.state)

@[simp] theorem after_answer (o : Outcome σ α) (earlier : List Event) :
    (o.after earlier).answer = o.answer := rfl

@[simp] theorem after_state (o : Outcome σ α) (earlier : List Event) :
    (o.after earlier).state = o.state := rfl

@[simp] theorem after_events (o : Outcome σ α) (earlier : List Event) :
    (o.after earlier).events = earlier ++ o.events := rfl

/-- Goes on from an attempt that succeeded; one that failed stays as it is. -/
def andThen (attempt : Attempt σ α) (next : α → σ → Attempt σ β) : Attempt σ β :=
  match attempt.answer with
  | .error failure => ⟨.error failure, attempt.state, attempt.events⟩
  | .ok answer => (next answer attempt.state).after attempt.events

theorem andThen_of_error {attempt : Attempt σ α} {failure : Failure}
    (h : attempt.answer = .error failure) (next : α → σ → Attempt σ β) :
    attempt.andThen next = ⟨.error failure, attempt.state, attempt.events⟩ := by
  simp [andThen, h]

theorem andThen_of_ok {attempt : Attempt σ α} {answer : α}
    (h : attempt.answer = .ok answer) (next : α → σ → Attempt σ β) :
    attempt.andThen next = (next answer attempt.state).after attempt.events := by
  simp [andThen, h]

/-- What went on and succeeded did so in both parts, and is left where the second ended. -/
theorem andThen_eq_ok {attempt : Attempt σ α} {next : α → σ → Attempt σ β} {result : β}
    (h : (attempt.andThen next).answer = .ok result) :
    ∃ answer, attempt.answer = .ok answer ∧ (next answer attempt.state).answer = .ok result ∧
      (attempt.andThen next).state = (next answer attempt.state).state := by
  cases ha : attempt.answer with
  | error failure => simp [andThen, ha] at h
  | ok answer =>
    rw [andThen_of_ok ha] at h ⊢
    exact ⟨answer, rfl, h, rfl⟩

end Outcome

end TlsHandshake
