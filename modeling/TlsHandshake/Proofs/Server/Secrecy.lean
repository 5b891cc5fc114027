/-
  TlsHandshake.Proofs.Server.Secrecy

  Secrets do not influence anything that a server shows.

  A server with any number of clients is run twice, with the same requests, once with these
  keys and master secrets and once with others.  If the collaborators that are handed secrets
  do not look at them, then nobody else can tell the runs apart: replies, handshakes and log
  are the same, and so are the reports on everything that holds a secret.  The calls to the
  collaborators differ in the secrets only.

    * `Pool.host` — requests one after the other, each with the collaborators that it meets;
    * `Pool.step_alike` — one request;
    * `Pool.host_alike` — all of them, from pools that differ in secrets only;
    * `secrets_stay_hidden` — what this means for replies, handshakes, log, calls and reports.
-/

import TlsHandshake.Diagnostic.Report
import TlsHandshake.Proofs.Handshake.Secrecy
import TlsHandshake.Proofs.Plain
import TlsHandshake.Server.Pool
import Mathlib.Data.List.Forall2

namespace TlsHandshake

/-! ## Collaborators that do not look at secrets -/

theorem Provider.complete_blind : Provider.complete.Blind where
  agreement _ _ _ _ := rfl
  signer _ _ _ _ _ := rfl
  decryptor _ _ _ _ := rfl

namespace SessionCache

/-- A cache that goes by identifiers does the same without master secrets. -/
theorem keepFirst_report_redact (earlier : List Session) (reported : Session) :
    (keepFirst.report earlier reported).redact =
      keepFirst.report (earlier.map Session.redact) reported.redact := by
  simp only [keepFirst, List.find?_map]
  show _ = ((earlier.find? (·.id == reported.id)).map Session.redact).getD reported.redact
  cases earlier.find? (·.id == reported.id) <;> rfl

theorem keepFirst_blind : keepFirst.Blind := by
  intro earlier earlier' reported reported' he hr
  rw [keepFirst_report_redact, keepFirst_report_redact, he, hr]

end SessionCache

/-! ## Reports -/

/-- The report on a key shows its type only. -/
theorem KeyHandle.report_congr {key other : KeyHandle} (hk : key.keyType = other.keyType) :
    key.report = other.report := by
  rw [report, report, hk]

/-- The report on session parameters shows the identifier only. -/
theorem SessionParameters.report_congr {parameters other : SessionParameters}
    (hid : parameters.id = other.id) : parameters.report = other.report := by
  rw [report, report, hid]

/-- The report on a session shows everything but the master secret. -/
theorem Session.report_congr {session other : Session} (hs : session.redact = other.redact) :
    session.report = other.report := by
  calc session.report
      = session.redact.report := rfl
    _ = other.redact.report := by rw [hs]
    _ = other.report := rfl

/-- The report on a resolver shows of the key store only whether there is one. -/
theorem Resolver.report_congr {context other : Context} (hc : context.Alike other)
    (h : Handshake) (version : Version) :
    (h.resolver context version).report = (h.resolver other version).report := by
  obtain ⟨hs⟩ := hc
  have hsome : ∀ {own keys : Option KeyStore}, Option.Rel KeyStore.Alike own keys →
      own.isSome = keys.isSome := by
    rintro _ _ (_ | _) <;> rfl
  simp only [report, Handshake.resolver, hsome hs]

/-! ## Requests to a server that may change -/

/-- A request with the server and the managers that it meets, whose collaborators may have
    changed since the last request. -/
structure Visit where
  server : Server
  managers : Nat → Manager
  request : Request

/-- The request itself, or a completion with another master secret. -/
inductive Request.Alike : Request → Request → Prop
  | same (request : Request) : Alike request request
  | operate (client : Nat) {operation other : Operation} (ho : operation.Alike other) :
      Alike (.operate client operation) (.operate client other)

/-- The visits differ in the names of keys and in master secrets only. -/
structure Visit.Alike (visit other : Visit) : Prop where
  context : visit.server.context.Alike other.server.context
  managers : visit.managers = other.managers
  request : visit.request.Alike other.request

/-- Negotiating at once asks for keys and shows no name of one. -/
theorem Server.negotiate_alike {server other : Server}
    (hc : server.context.Alike other.context) (hb : server.context.Blind) (manager : Manager)
    (offer : Offer) : (server.negotiate manager offer).Alike (other.negotiate manager offer) := by
  have hdriven := (Handshake.agree_alike (.start offer) hc hb.provider manager).after
    (rfl : (accept offer).events.map Event.redact = _)
  unfold negotiate
  generalize ((Handshake.start offer).agree server.context manager).after _ = driven at hdriven
  generalize ((Handshake.start offer).agree other.context manager).after _ = driven' at hdriven
  obtain ⟨answer, state, events⟩ := driven
  obtain ⟨_, _, events'⟩ := driven'
  obtain ⟨rfl, rfl, he⟩ := hdriven
  cases answer with
  | ok agreement => exact ⟨rfl, rfl, he⟩
  | error failure =>
    refine ⟨rfl, rfl, ?_⟩
    simp only [raiseAlert, List.map_append, he]

namespace Pool

/-- Carries out requests one after the other, each with what it meets. -/
def host : List Visit → Pool → Outcome Pool (List Reply)
  | [], pool => ⟨[], pool, []⟩
  | visit :: visits, pool =>
    let now := pool.step visit.server visit.managers visit.request
    let later := host visits now.state
    ⟨now.answer :: later.answer, later.state, now.events ++ later.events⟩

/-- A server that stays as it is hosts its requests. -/
theorem run_eq_host (server : Server) (managers : Nat → Manager) (requests : List Request)
    (pool : Pool) :
    pool.run server managers requests =
      pool.host (requests.map fun request => ⟨server, managers, request⟩) := by
  induction requests generalizing pool with
  | nil => rfl
  | cons request requests ih => simp only [run, List.map_cons, host, ih]

/-- The pool without the master secrets of the reported sessions. -/
def redact (pool : Pool) : Pool := { pool with shared := pool.shared.redact }

/-- The outcomes are alike, and leave pools that differ in secrets only. -/
def OutcomeAlike {α : Type} (outcome other : Outcome Pool α) : Prop :=
  (outcome.mapState redact).Alike (other.mapState redact)

/-- The same clients, with shared things that differ in secrets only. -/
theorem redact_congr {clients : List Client} {shared shared' : Shared}
    (hs : shared.redact = shared'.redact) :
    (Pool.mk clients shared).redact = (Pool.mk clients shared').redact := by
  rw [redact, redact, hs]

theorem operate_alike {server other : Server} (hc : server.context.Alike other.context)
    (hb : server.context.Blind) (managers : Nat → Manager) {operation operation' : Operation}
    (ho : operation.Alike operation') (clients : List Client) {shared shared' : Shared}
    (hs : shared.redact = shared'.redact) (index : Nat) :
    OutcomeAlike (step server managers (.operate index operation) ⟨clients, shared⟩)
      (step other managers (.operate index operation') ⟨clients, shared'⟩) := by
  simp only [step]
  split
  · exact ⟨rfl, redact_congr hs, rfl⟩
  · rename_i client _
    obtain ⟨hanswer, hstate, hevents⟩ :=
      Handshake.perform_alike hs hc hb (managers client.manager) ho client.handshake
    have hhandshake := congrArg Prod.fst hstate
    have hshared := congrArg Prod.snd hstate
    refine ⟨congrArg replyOf hanswer, ?_, hevents⟩
    show (Pool.mk (clients.set index ⟨client.manager, _⟩) _).redact =
      (Pool.mk (clients.set index ⟨client.manager, _⟩) _).redact
    rw [show (client.handshake.perform server.context (managers client.manager) operation
      shared).state.1 = _ from hhandshake]
    exact redact_congr hshared

/-- One request, in pools that differ in secrets only. -/
theorem step_alike {visit other : Visit} (ha : visit.Alike other)
    (hb : visit.server.context.Blind) {pool pool' : Pool} (hp : pool.redact = pool'.redact) :
    OutcomeAlike (pool.step visit.server visit.managers visit.request)
      (pool'.step other.server other.managers other.request) := by
  obtain ⟨clients, shared⟩ := pool
  obtain ⟨_, shared'⟩ := pool'
  -- The clients are the same, so an index means the same handshake in both pools.
  obtain ⟨rfl, hs⟩ := Pool.mk.inj hp
  obtain ⟨server, managers, request⟩ := visit
  obtain ⟨server', _, request'⟩ := other
  obtain ⟨hc, rfl, hr⟩ := ha
  cases hr with
  | operate index ho => exact operate_alike hc hb managers ho clients hs index
  | same =>
    cases request with
    | accept manager offer => exact ⟨rfl, redact_congr hs, rfl⟩
    | negotiate manager offer =>
      have hdriven := Server.negotiate_alike hc hb (managers manager) offer
      simp only [step]
      generalize server.negotiate (managers manager) offer = driven at hdriven
      generalize server'.negotiate (managers manager) offer = driven' at hdriven
      obtain ⟨answer, state, events⟩ := driven
      obtain ⟨_, _, events'⟩ := driven'
      obtain ⟨rfl, rfl, he⟩ := hdriven
      cases answer with
      | ok agreement => exact ⟨rfl, redact_congr hs, he⟩
      | error failure => exact ⟨rfl, redact_congr hs, he⟩
    | operate index operation =>
      exact operate_alike hc hb managers (.same operation) clients hs index
    | renewRound round => exact ⟨rfl, redact_congr (Shared.setRound_congr hs round .fresh), rfl⟩

/-- All requests, from pools that differ in secrets only. -/
theorem host_alike {visits others : List Visit} (ha : List.Forall₂ Visit.Alike visits others)
    (hb : ∀ visit ∈ visits, visit.server.context.Blind) {pool pool' : Pool}
    (hp : pool.redact = pool'.redact) : OutcomeAlike (pool.host visits) (pool'.host others) := by
  -- The induction is on the visits; what it carries is that the pools differ in secrets only.
  induction ha generalizing pool pool' with
  | nil => exact ⟨rfl, hp, rfl⟩
  | cons hfirst _ ih =>
    obtain ⟨hblind, hrest⟩ := List.forall_mem_cons.1 hb
    obtain ⟨hanswer, hstate, hevents⟩ := step_alike hfirst hblind hp
    obtain ⟨hanswers, hend, hlater⟩ := ih hrest hstate
    refine ⟨?_, hend, ?_⟩
    · exact congrArg₂ List.cons hanswer hanswers
    · show List.map _ (_ ++ _) = List.map _ (_ ++ _)
      rw [List.map_append, List.map_append]
      exact congrArg₂ (· ++ ·) hevents hlater

end Pool

/-! ## What is shown -/

theorem Event.notices_redact (events : List Event) :
    notices (events.map redact) = notices events := by
  simp only [notices, List.filterMap_map]
  congr 1
  funext event
  cases event <;> rfl

theorem Event.calls_redact (events : List Event) :
    calls (events.map redact) = (calls events).map Call.redact := by
  simp only [calls, List.filterMap_map, List.map_filterMap]
  congr 1
  funext event
  cases event <;> rfl

/-- Secrets do not influence anything that is shown.  The same visits are paid twice, with keys
    of the same types and with sessions of the same identifiers, and the collaborators that are
    handed key names and master secrets do not look at them.

    Then the replies are the same, with the same failures, and so are the handshakes and the
    rounds, and the log with the texts of its notices.  The calls to the collaborators differ
    in the names of the keys that credentials are made from and in the master secrets of the
    sessions that are published.  Reports on keys, session parameters, sessions and resolvers
    are the same. -/
theorem secrets_stay_hidden {visits others : List Visit}
    (ha : List.Forall₂ Visit.Alike visits others)
    (hb : ∀ visit ∈ visits, visit.server.context.Blind) :
    let hosted := Pool.empty.host visits
    let hosted' := Pool.empty.host others
    hosted.answer = hosted'.answer ∧
    hosted.state.clients = hosted'.state.clients ∧
    hosted.state.shared.rounds = hosted'.state.shared.rounds ∧
    Event.notices hosted.events = Event.notices hosted'.events ∧
    (Event.calls hosted.events).map Call.redact = (Event.calls hosted'.events).map Call.redact ∧
    hosted.events.map Event.redact = hosted'.events.map Event.redact ∧
    (∀ key key' : KeyHandle, key.keyType = key'.keyType → key.report = key'.report) ∧
    (∀ parameters parameters' : SessionParameters, parameters.id = parameters'.id →
      parameters.report = parameters'.report) ∧
    (∀ session session' : Session, session.redact = session'.redact →
      session.report = session'.report) ∧
    List.Forall₂ (fun visit other => ∀ (h : Handshake) (version : Version),
      (h.resolver visit.server.context version).report =
        (h.resolver other.server.context version).report) visits others := by
  intro hosted hosted'
  obtain ⟨hanswers, hend, hevents⟩ :=
    Pool.host_alike ha hb (rfl : Pool.empty.redact = Pool.empty.redact)
  obtain ⟨hclients, hshared⟩ := Pool.mk.inj hend
  have hnotices := congrArg Event.notices hevents
  have hcalls := congrArg Event.calls hevents
  rw [Event.notices_redact, Event.notices_redact] at hnotices
  rw [Event.calls_redact, Event.calls_redact] at hcalls
  refine ⟨hanswers, hclients, ((Shared.redact_eq_iff ..).1 hshared).1, hnotices, hcalls, hevents,
    ?_, ?_, ?_, ?_⟩
  · exact fun _ _ => KeyHandle.report_congr
  · exact fun _ _ => SessionParameters.report_congr
  · exact fun _ _ => Session.report_congr
  · exact ha.imp fun _ _ hvisit => Resolver.report_congr hvisit.context

/-- A key of another name and another master secret show up in the calls, and nowhere else. -/
theorem secrets_stay_hidden_after_completion :
    let suites := [CipherSuite.ecdheRsaWithAes128GcmSha256]
    let server := fun key => Server.mk
      { Context.plain suites [] with
        sessionCache := .keepFirst
        keyStore := some (.single [.ecdheRsa] ⟨Identity.plainRsa.chain, ⟨.rsa, key⟩⟩) }
    let requests := fun secret =>
      [Request.negotiate 0 (.plain suites), .operate 0 (.complete ⟨[1], secret⟩)]
    let run := fun key secret =>
      Pool.empty.run (server key) (fun _ => .refusing []) (requests secret)
    let one := run "first" [2]
    let other := run "second" [3, 4]
    one.events ≠ other.events ∧ one.answer = other.answer ∧
      Event.notices one.events = Event.notices other.events ∧
      (Event.calls one.events).map Call.redact = (Event.calls other.events).map Call.redact := by
  intro suites server requests run one other
  let visits := fun key secret =>
    (requests secret).map fun request => (⟨server key, fun _ => .refusing [], request⟩ : Visit)
  have hrun : ∀ key secret, run key secret = Pool.empty.host (visits key secret) :=
    fun key secret => Pool.run_eq_host (server key) _ (requests secret) .empty
  have hkeys : (server "first").context.Alike (server "second").context :=
    .keys (.some ⟨rfl, rfl, fun _ => rfl⟩)
  have ha : List.Forall₂ Visit.Alike (visits "first" [2]) (visits "second" [3, 4]) :=
    .cons ⟨hkeys, rfl, .same _⟩ (.cons ⟨hkeys, rfl, .operate 0 (.complete rfl)⟩ .nil)
  have hb : ∀ visit ∈ visits "first" [2], visit.server.context.Blind := by
    intro visit hm
    obtain ⟨request, -, rfl⟩ := List.mem_map.1 hm
    exact ⟨Provider.complete_blind, SessionCache.keepFirst_blind⟩
  obtain ⟨hanswer, -, -, hnotices, hcalls, -⟩ := secrets_stay_hidden ha hb
  rw [← hrun, ← hrun] at hanswer hnotices hcalls
  exact ⟨by decide +kernel, hanswer, hnotices, hcalls⟩

end TlsHandshake
