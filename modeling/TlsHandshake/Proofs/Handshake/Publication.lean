/-
  TlsHandshake.Proofs.Handshake.Publication

  Which operations publish a session, and which session.

  Publishing a session is two calls: the session is reported to the session cache, and the
  manager is told with what the cache hands back.  Selecting suites, asking for certificates
  and judging them involve many calls, but neither of these two (`Event.PublishesNothing`).
  Only a completion publishes: the session that the handshake then stands for, and only if
  it has a version and a suite and is not complete yet (`published?`).

    * `resolve_publishesNothing`, `selectedCipherSuite_publishesNothing`,
      `verify_publishesNothing` — what publishes no session;
    * `publications_perform` — the two calls of an operation that publishes;
    * `sessions_perform` — the sessions that an operation reports;
    * `published?_eq_some_iff`, `mem_sessions_meet_iff` — when there is one.
-/

import TlsHandshake.Handshake.History
import TlsHandshake.Proofs.Negotiation.RoundMemory

namespace TlsHandshake

/-! ## Events that publish no session -/

namespace Call

/-- The call reports a session to the session cache. -/
def isReport : Call → Bool
  | .reportSession _ => true
  | _ => false

/-- The call tells the manager that a handshake is complete. -/
def isCompletion : Call → Bool
  | .handshakeComplete _ => true
  | _ => false

end Call

namespace Event

/-- The calls that publish sessions, in order. -/
def publications (events : List Event) : List Call :=
  (calls events).filter fun call => call.isReport || call.isCompletion

theorem publications_append (earlier later : List Event) :
    publications (earlier ++ later) = publications earlier ++ publications later := by
  rw [publications, calls_append, List.filter_append]
  rfl

/-- The reported sessions are those of the publications. -/
theorem sessions_eq_publications (events : List Event) :
    sessions events = (publications events).filterMap fun call => session? (.call call) := by
  induction events with
  | nil => rfl
  | cons event events ih =>
    rw [← List.singleton_append, sessions_append, publications_append, List.filterMap_append, ih]
    congr 1
    cases event with
    | log notice => rfl
    | call call => cases call <;> rfl

/-- None of the events publishes a session. -/
def PublishesNothing (events : List Event) : Prop := publications events = []

theorem PublishesNothing.append {earlier later : List Event} (he : PublishesNothing earlier)
    (hl : PublishesNothing later) : PublishesNothing (earlier ++ later) := by
  unfold PublishesNothing at *
  rw [publications_append, he, hl]
  rfl

end Event

theorem Outcome.andThen_publishesNothing {σ α β : Type} {attempt : Attempt σ α}
    {next : α → σ → Attempt σ β} (hfirst : Event.PublishesNothing attempt.events)
    (hnext : ∀ answer state, Event.PublishesNothing (next answer state).events) :
    Event.PublishesNothing (attempt.andThen next).events := by
  rcases ha : attempt.answer with failure | answer
  · rw [andThen_of_error ha]
    exact hfirst
  · rw [andThen_of_ok ha]
    exact hfirst.append (hnext answer attempt.state)

namespace Resolver

variable (resolver : Resolver)

theorem query_publishesNothing (store : KeyStore) (auth : AuthType) (round : Round) :
    Event.PublishesNothing (query store auth round).events := by
  unfold query fetch
  split
  · rfl
  · split <;> rfl

theorem credentialFrom_publishesNothing (auth : AuthType) (identity : Identity) (round : Round) :
    Event.PublishesNothing (resolver.credentialFrom auth identity round).events := by
  rw [credentialFrom_eq]
  by_cases hl : resolver.lacksScheme auth = true
  · rw [if_pos hl]
    rfl
  · rw [if_neg hl, made_events]
    unfold makingCall
    cases auth.keyUse <;> rfl

theorem resolve_publishesNothing (suite : CipherSuite) (round : Round) :
    Event.PublishesNothing (resolver.resolve suite round).events := by
  cases hk : suite.keyExchange with
  | anonymousDh | anonymousEcdh | unsupported =>
    simp only [resolve, hk]
    rfl
  | certified auth =>
    cases hs : resolver.keyStore with
    | none =>
      rw [resolve_of_keyStore_none hk hs]
      rfl
    | some store =>
      by_cases hm : auth ∈ round.misses
      · rw [resolve_of_mem hk hm]
        rfl
      · rw [resolve_eq_equip_query hk hs hm]
        unfold equip
        -- First the key store's events, then the provider's call.
        cases (query store auth round).answer with
        | none => exact query_publishesNothing store auth round
        | some identity =>
          exact (query_publishesNothing store auth round).append
            (resolver.credentialFrom_publishesNothing auth identity _)

end Resolver

namespace Handshake

variable {context : Context} {manager : Manager} {h : Handshake}

theorem consult_publishesNothing {suite : CipherSuite} {version : Version}
    {found : Attempt (Handshake × Round) Bool} (hf : Event.PublishesNothing found.events) :
    Event.PublishesNothing (consult manager suite version found).events := by
  unfold consult
  split
  · split
    · exact hf.append rfl
    · exact hf.append rfl
  · exact hf
  · exact hf

theorem selectCredentials_publishesNothing (suite : CipherSuite) (round : Round) :
    Event.PublishesNothing (h.selectCredentials context suite round).events := by
  unfold selectCredentials
  split
  · rfl
  · rw [adopt_events]
    exact Resolver.resolve_publishesNothing _ suite round

theorem selectCipherSuite_publishesNothing (suite : CipherSuite) (round : Round) :
    Event.PublishesNothing (h.selectCipherSuite context manager suite round).events := by
  unfold selectCipherSuite
  split
  · exact selectCredentials_publishesNothing suite round
  · exact consult_publishesNothing (selectCredentials_publishesNothing suite round)

theorem firstUsable_publishesNothing (suites : List CipherSuite) (round : Round) :
    Event.PublishesNothing (firstUsable context manager suites round h).events := by
  induction suites generalizing h round with
  | nil => rfl
  | cons suite suites ih =>
    apply Outcome.andThen_publishesNothing
    · exact selectCipherSuite_publishesNothing suite round
    · intro usable reached
      cases usable with
      | true => rfl
      | false => exact ih reached.2

theorem conclude_publishesNothing {search : Attempt (Handshake × Round) (Option CipherSuite)}
    (hs : Event.PublishesNothing search.events) :
    Event.PublishesNothing (conclude search).events := by
  apply Outcome.andThen_publishesNothing hs
  intro found reached
  cases found <;> rfl

theorem adoptVerdict_publishesNothing {chain : List Certificate}
    {verdict : Attempt Unit ClientAuthentication} (hv : Event.PublishesNothing verdict.events) :
    Event.PublishesNothing (h.adoptVerdict chain verdict).events := by
  unfold adoptVerdict
  split
  · exact hv
  · exact hv

theorem selectedCipherSuite_publishesNothing :
    Event.PublishesNothing (h.selectedCipherSuite context manager).events := by
  unfold selectedCipherSuite
  split
  · rfl
  · exact conclude_publishesNothing (firstUsable_publishesNothing _ .fresh)

end Handshake

namespace ClientAuthentication

theorem verify_publishesNothing (config : Config) (trustStore : Option TrustStore)
    (chain : List Certificate) :
    Event.PublishesNothing (verify config trustStore chain).events := by
  unfold verify
  split
  · split <;> rfl
  · split
    · rfl
    · unfold ofTrust askTrust
      split <;> split <;> rfl

end ClientAuthentication

namespace Handshake

variable (context : Context) (manager : Manager) (h : Handshake)

/-! ## Which sessions are published -/

/-- The session that an operation publishes, if it publishes one. -/
def published? (operation : Operation) (h : Handshake) : Option Session :=
  match operation, h.version, h.suite with
  | .complete parameters, some version, some suite =>
    if h.isComplete then none else some (h.session parameters version suite)
  | _, _, _ => none

theorem published?_eq_some_iff (operation : Operation) (session : Session) :
    h.published? operation = some session ↔
      ∃ parameters version suite, operation = .complete parameters ∧ h.isComplete = false ∧
        h.version = some version ∧ h.suite = some suite ∧
        session = h.session parameters version suite := by
  unfold published?
  split
  · rename_i hv hs
    cases hc : h.isComplete <;> simp [hv, hs, eq_comm]
  · rename_i hnone
    constructor
    · rintro ⟨⟩
    · rintro ⟨parameters, version, suite, rfl, -, hv, hs, -⟩
      exact absurd hs (hnone parameters version suite rfl hv)

/-- What publishing a session tells the others: the cache gets the session, and the manager
    gets what the cache hands back. -/
def announcement (earlier : List Session) (session : Session) : List Call :=
  [.reportSession session, .handshakeComplete (context.sessionCache.report earlier session)]

/-- Later completions publish nothing. -/
theorem published?_of_isComplete {h : Handshake} (hc : h.isComplete = true)
    (operation : Operation) : h.published? operation = none := by
  unfold published?
  split
  · rw [if_pos hc]
  · rfl

/-- A completion that comes too early publishes nothing. -/
theorem published?_of_unready {h : Handshake} (hn : h.version = none ∨ h.suite = none)
    (operation : Operation) : h.published? operation = none := by
  cases hp : h.published? operation with
  | none => rfl
  | some session =>
    obtain ⟨_, version, suite, -, -, hv, hs, -⟩ := (published?_eq_some_iff ..).1 hp
    rcases hn with hnone | hnone
    · rw [hnone] at hv
      cases hv
    · rw [hnone] at hs
      cases hs

theorem publications_complete (earlier : List Session) (parameters : SessionParameters) :
    Event.publications (h.complete context earlier parameters).events =
      (h.published? (.complete parameters)).elim [] (announcement context earlier) := by
  rcases h.completion_cases with hc | ⟨hc, hn⟩ | ⟨version, suite, hc, hv, hs⟩
  · rw [complete_of_isComplete context hc, published?_of_isComplete hc]
    rfl
  · obtain ⟨cause, -, hfailed⟩ := complete_of_unready hc hn
    rw [hfailed, published?_of_unready hn]
    rfl
  · have hready := (published?_eq_some_iff h (.complete parameters) _).2
      ⟨parameters, version, suite, rfl, hc, hv, hs, rfl⟩
    rw [complete_of_ready context h hc hv hs, hready]
    rfl

/-- Only a completion publishes, and it publishes the session that it stands for. -/
theorem publications_perform (operation : Operation) (shared : Shared) :
    Event.publications (h.perform context manager operation shared).events =
      (h.published? operation).elim [] (announcement context shared.reported) := by
  cases operation with
  | serverVersion =>
    show Event.publications (h.serverVersion context).events = []
    unfold serverVersion adoptVersion negotiateVersion
    split
    · rfl
    · cases selectVersion? context.config.protocols h.offer.version <;> rfl
  | selectedCipherSuite => exact selectedCipherSuite_publishesNothing
  | selectCredentials round suite => exact selectCredentials_publishesNothing suite _
  | selectCipherSuite round suite => exact selectCipherSuite_publishesNothing suite _
  | ecdhCurve =>
    show Event.publications (h.ecdhCurve context).events = []
    unfold ecdhCurve
    split
    · rfl
    · split
      · split <;> rfl
      · rfl
  | certificateRequest =>
    show Event.publications (h.certificateRequest context).events = []
    unfold certificateRequest adoptRequest CertificateRequest.build CertificateRequest.askIssuers
    split
    · rfl
    · split
      · split <;> rfl
      · rfl
  | clientCertificate chain =>
    show Event.publications (h.clientCertificate context chain).events = []
    unfold clientCertificate
    split
    · exact adoptVerdict_publishesNothing (ClientAuthentication.verify_publishesNothing _ _ chain)
    · rfl
  | alertRaised alert detail cause => rfl
  | alertReceived alert => rfl
  | complete parameters => exact publications_complete context h shared.reported parameters

/-- Only a completion reports a session, and it reports the one that it publishes. -/
theorem sessions_perform (operation : Operation) (shared : Shared) :
    Event.sessions (h.perform context manager operation shared).events =
      (h.published? operation).toList := by
  rw [Event.sessions_eq_publications, publications_perform]
  cases h.published? operation <;> rfl

/-- The sessions that are reported on an occasion, and when there is one. -/
theorem mem_sessions_meet_iff {occasion : Occasion} {session : Session} :
    session ∈ Event.sessions (h.meet occasion).events ↔
      ∃ parameters version suite, occasion.operation = .complete parameters ∧
        h.isComplete = false ∧ h.version = some version ∧ h.suite = some suite ∧
        session = h.session parameters version suite := by
  rw [meet, sessions_perform, Option.mem_toList]
  exact h.published?_eq_some_iff occasion.operation session

end Handshake

end TlsHandshake
