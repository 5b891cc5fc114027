/-
  TlsHandshake.Proofs.Handshake.Secrecy

  An operation on a handshake does not depend on secrets.

  A handshake keeps no secret: of a key it keeps the credential that the provider made, and
  the master secret only passes through it when it is published.  So the same operation in two
  contexts that differ in the names of their keys leaves the same handshake, and answers and
  logs the same.  What it leaves behind among the shared things is the reported session, with
  the master secret in it (`Shared.redact`).

    * `selectedCipherSuite_alike` — all candidates in one round;
    * `agree_alike` — a negotiation at once;
    * `complete_alike` — the two calls that carry a master secret;
    * `perform_alike` — every operation.
-/

import TlsHandshake.Handshake.History
import TlsHandshake.Proofs.Negotiation.Secrecy
import TlsHandshake.Server.Negotiation

namespace TlsHandshake

/-! ## What differs in secrets only -/

/-- Another key store, alike, in the same context. -/
inductive Context.Alike (context : Context) : Context → Prop
  | keys {keyStore : Option KeyStore}
      (hs : Option.Rel KeyStore.Alike context.keyStore keyStore) :
      Alike context { context with keyStore := keyStore }

/-- The operation itself, or a completion with another master secret. -/
inductive Operation.Alike : Operation → Operation → Prop
  | same (operation : Operation) : Alike operation operation
  | complete {parameters other : SessionParameters} (hid : parameters.id = other.id) :
      Alike (.complete parameters) (.complete other)

/-- The cache does not look at master secrets: what it hands back differs in them only. -/
def SessionCache.Blind (cache : SessionCache) : Prop :=
  ∀ {earlier earlier' : List Session} {reported reported' : Session},
    earlier.map Session.redact = earlier'.map Session.redact →
    reported.redact = reported'.redact →
    (cache.report earlier reported).redact = (cache.report earlier' reported').redact

/-- The collaborators of the context that are handed secrets do not look at them. -/
structure Context.Blind (context : Context) : Prop where
  provider : context.provider.Blind
  cache : context.sessionCache.Blind

theorem Event.sessions_redact (events : List Event) :
    sessions (events.map redact) = (sessions events).map Session.redact := by
  simp only [sessions, List.filterMap_map, List.map_filterMap]
  congr 1
  funext event
  cases event with
  | log notice => rfl
  | call call => cases call <;> rfl

namespace Shared

/-- The shared things without the master secrets of the reported sessions. -/
def redact (shared : Shared) : Shared :=
  { shared with reported := shared.reported.map Session.redact }

theorem redact_eq_iff (shared other : Shared) :
    shared.redact = other.redact ↔ shared.rounds = other.rounds ∧
      shared.reported.map Session.redact = other.reported.map Session.redact := by
  simp [redact]

theorem record_congr {shared other : Shared} {events events' : List Event}
    (hs : shared.redact = other.redact)
    (he : events.map Event.redact = events'.map Event.redact) :
    (shared.record events).redact = (other.record events').redact := by
  obtain ⟨hrounds, hreported⟩ := (redact_eq_iff shared other).1 hs
  have hsessions := congrArg Event.sessions he
  rw [Event.sessions_redact, Event.sessions_redact] at hsessions
  rw [redact_eq_iff, rounds_record, rounds_record, reported_record, reported_record,
    List.map_append, List.map_append, hreported, hsessions]
  exact ⟨hrounds, rfl⟩

theorem setRound_congr {shared other : Shared} (hs : shared.redact = other.redact) (index : Nat)
    (round : Round) :
    (shared.setRound index round).redact = (other.setRound index round).redact := by
  obtain ⟨hrounds, hreported⟩ := (redact_eq_iff shared other).1 hs
  rw [redact_eq_iff]
  exact ⟨by simp only [setRound, hrounds], hreported⟩

end Shared

namespace Handshake

/-! ## Selecting a suite -/

section Selection

variable {context other : Context} (h : Handshake)

theorem adopt_alike {found other : Attempt Round (Option Credential)} (hf : found.Alike other) :
    (h.adopt found).Alike (h.adopt other) := by
  obtain ⟨answer, state, events⟩ := found
  obtain ⟨_, _, events'⟩ := other
  obtain ⟨rfl, rfl, he⟩ := hf
  cases answer <;> exact ⟨rfl, rfl, he⟩

theorem consult_alike (manager : Manager) (suite : CipherSuite) (version : Version)
    {found other : Attempt (Handshake × Round) Bool} (hf : found.Alike other) :
    (consult manager suite version found).Alike (consult manager suite version other) := by
  obtain ⟨answer, state, events⟩ := found
  obtain ⟨_, _, events'⟩ := other
  obtain ⟨rfl, rfl, he⟩ := hf
  have hasked : (events ++ [Event.call (.acceptsSuite suite version)]).map Event.redact =
      (events' ++ [Event.call (.acceptsSuite suite version)]).map Event.redact := by
    rw [List.map_append, List.map_append, he]
  rcases answer with failure | (_ | _)
  · exact ⟨rfl, rfl, he⟩
  · exact ⟨rfl, rfl, he⟩
  · simp only [consult]
    split
    · exact ⟨rfl, rfl, hasked⟩
    · exact ⟨rfl, rfl, hasked⟩

theorem conclude_alike {search other : Attempt (Handshake × Round) (Option CipherSuite)}
    (hs : search.Alike other) : (conclude search).Alike (conclude other) :=
  (hs.andThen fun _ _ => .refl _).mapState Prod.fst

variable (hc : context.Alike other) (hb : context.provider.Blind)

include hc hb

theorem selectCredentials_alike (suite : CipherSuite) (round : Round) :
    (h.selectCredentials context suite round).Alike (h.selectCredentials other suite round) := by
  obtain ⟨hs⟩ := hc
  unfold selectCredentials
  split
  · exact .refl _
  · rename_i version _
    exact h.adopt_alike ((h.resolver context version).resolve_alike hs hb suite round)

theorem selectCipherSuite_alike (manager : Manager) (suite : CipherSuite) (round : Round) :
    (h.selectCipherSuite context manager suite round).Alike
      (h.selectCipherSuite other manager suite round) := by
  have htried := selectCredentials_alike h hc hb suite round
  unfold selectCipherSuite
  split
  · exact htried
  · exact consult_alike manager suite _ htried

theorem firstUsable_alike (manager : Manager) (suites : List CipherSuite) (round : Round) :
    (firstUsable context manager suites round h).Alike
      (firstUsable other manager suites round h) := by
  induction suites generalizing h round with
  | nil => exact .refl _
  | cons suite suites ih =>
    refine (selectCipherSuite_alike h hc hb manager suite round).andThen ?_
    intro usable reached
    cases usable with
    | true => exact .refl _
    | false => exact ih reached.1 reached.2

theorem selectedCipherSuite_alike (manager : Manager) :
    (h.selectedCipherSuite context manager).Alike (h.selectedCipherSuite other manager) := by
  -- What is worth trying does not depend on what the key store holds.
  have hcandidates : ∀ version, h.candidates other version = h.candidates context version := by
    obtain ⟨hs⟩ := hc
    exact fun version => rfl
  unfold selectedCipherSuite
  split
  · exact .refl _
  · rw [hcandidates]
    exact conclude_alike (firstUsable_alike h hc hb manager _ .fresh)

/-- Only the selection of the suite asks the key store. -/
theorem agree_alike (manager : Manager) :
    (h.agree context manager).Alike (h.agree other manager) := by
  have hselect := fun h => selectedCipherSuite_alike h hc hb manager
  obtain ⟨hs⟩ := hc
  refine (Outcome.Alike.refl (h.serverVersion context)).andThen fun version h => ?_
  refine (hselect h).andThen fun suite h => ?_
  exact .refl _

end Selection

/-! ## Publishing the session -/

/-- Publishing a session with another master secret, after sessions with other ones. -/
theorem complete_alike {context : Context} (hb : context.sessionCache.Blind)
    {earlier earlier' : List Session} {parameters other : SessionParameters}
    (he : earlier.map Session.redact = earlier'.map Session.redact)
    (hid : parameters.id = other.id) (h : Handshake) :
    (h.complete context earlier parameters).Alike (h.complete context earlier' other) := by
  rcases h.completion_cases with hc | ⟨hc, hn⟩ | ⟨version, suite, hc, hv, hs⟩
  · rw [complete_of_isComplete context hc, complete_of_isComplete context hc]
    exact .refl _
  · obtain ⟨cause, -, hfailed⟩ := complete_of_unready hc hn
    rw [hfailed, hfailed]
    exact .refl _
  · -- The sessions differ in their secret, and so does what the cache hands back.
    have hsession : (h.session parameters version suite).redact =
        (h.session other version suite).redact := by
      simp only [session, SessionParameters.session, Session.redact, hid]
    rw [complete_of_ready context h hc hv hs, complete_of_ready context h hc hv hs]
    refine ⟨rfl, rfl, ?_⟩
    simp only [publication, List.map_cons, List.map_nil, Event.redact, Call.redact, hsession,
      hb he hsession]
    rfl

/-! ## Every operation -/

/-- The handshake that an operation leaves, and the shared things without secrets. -/
def PerformedAlike (performed other : Attempt (Handshake × Shared) Answer) : Prop :=
  (performed.mapState (Prod.map id Shared.redact)).Alike
    (other.mapState (Prod.map id Shared.redact))

section Operations

variable {shared shared' : Shared} (hs : shared.redact = shared'.redact)

include hs

theorem outsideRounds_alike {attempt other : Attempt Handshake Answer} (ha : attempt.Alike other) :
    PerformedAlike (outsideRounds shared attempt) (outsideRounds shared' other) := by
  obtain ⟨answer, state, events⟩ := attempt
  obtain ⟨_, _, events'⟩ := other
  obtain ⟨rfl, rfl, he⟩ := ha
  exact ⟨rfl, congrArg (Prod.mk state) (Shared.record_congr hs he), he⟩

theorem insideRound_alike {attempt other : Attempt (Handshake × Round) Bool}
    (ha : attempt.Alike other) (index : Nat) :
    PerformedAlike (insideRound shared index attempt) (insideRound shared' index other) := by
  obtain ⟨answer, state, events⟩ := attempt
  obtain ⟨_, _, events'⟩ := other
  obtain ⟨rfl, rfl, he⟩ := ha
  have hround := Shared.setRound_congr hs index state.2
  exact ⟨rfl, congrArg (Prod.mk state.1) (Shared.record_congr hround he), he⟩

/-- Operations that differ in secrets only, on the same handshake, in contexts that differ in
    secrets only, are performed alike. -/
theorem perform_alike {context other : Context} (hc : context.Alike other) (hb : context.Blind)
    (manager : Manager) {operation operation' : Operation} (ho : operation.Alike operation')
    (h : Handshake) :
    PerformedAlike (h.perform context manager operation shared)
      (h.perform other manager operation' shared') := by
  obtain ⟨hrounds, hreported⟩ := (Shared.redact_eq_iff shared shared').1 hs
  -- Of all operations only a completion is handed a secret.
  have hcomplete : ∀ {parameters parameters' : SessionParameters},
      parameters.id = parameters'.id →
      PerformedAlike (h.perform context manager (.complete parameters) shared)
        (h.perform other manager (.complete parameters') shared') := by
    intro parameters parameters' hid
    obtain ⟨-⟩ := hc
    exact outsideRounds_alike hs ((complete_alike hb.cache hreported hid h).map _)
  cases ho with
  | complete hid => exact hcomplete hid
  | same operation =>
    cases operation with
    | complete parameters => exact hcomplete rfl
    | selectedCipherSuite =>
      exact outsideRounds_alike hs ((selectedCipherSuite_alike h hc hb.provider manager).map _)
    | selectCredentials round suite =>
      simp only [perform, hrounds]
      exact insideRound_alike hs (selectCredentials_alike h hc hb.provider suite _) round
    | selectCipherSuite round suite =>
      simp only [perform, hrounds]
      exact insideRound_alike hs (selectCipherSuite_alike h hc hb.provider manager suite _) round
    | serverVersion | ecdhCurve | certificateRequest | clientCertificate | alertRaised
      | alertReceived =>
      -- These do not read the key store.
      obtain ⟨-⟩ := hc
      exact outsideRounds_alike hs (.refl _)

end Operations

end Handshake

end TlsHandshake
