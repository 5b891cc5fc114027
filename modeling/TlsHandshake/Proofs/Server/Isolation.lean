/-
  TlsHandshake.Proofs.Server.Isolation

  The handshakes of a server do not interfere.

  A sequence of requests is an interleaving of the histories of all handshakes.  What
  concerns one client is picked out of it: the requests that open its handshake, operate on
  it, or renew a round of its own.  Taken alone, in the same order, from an empty pool, these
  requests are answered as they were among the others, and leave the same handshake each time.

  The session cache is the one thing that handshakes share and write to.  It may therefore
  answer differently, and the session that is published with it; nothing else does, and the
  sessions that are reported are the same.

    * `Event.SameButPublished` — the one difference that is allowed;
    * `perform_withCache` and `rounds_perform_of_not_mem` — what an operation reads and what it
      leaves alone;
    * `Alone` — a pool with one client only, as a picture of a pool with many;
    * `Alone.own` and `Alone.foreign` — the picture stays right, whosever turn it is;
    * `seen_turns` — turn by turn, for all requests;
    * `handshakes_do_not_interfere` — from the empty pool on.
-/

import TlsHandshake.Proofs.Handshake.Completion
import Mathlib.Data.List.Forall2

namespace TlsHandshake

/-! ## The difference that is allowed -/

/-- The events are the same, or both publish a session, which may be another one. -/
inductive Event.SameButPublished : Event → Event → Prop
  | same (event : Event) : SameButPublished event event
  | published (session other : Session) :
      SameButPublished (.call (.handshakeComplete session)) (.call (.handshakeComplete other))

theorem Event.SameButPublished.session? {event other : Event}
    (he : event.SameButPublished other) : other.session? = event.session? := by
  cases he <;> rfl

/-- The sessions that are reported are the same. -/
theorem Event.sessions_of_sameButPublished {events others : List Event}
    (he : List.Forall₂ SameButPublished events others) : sessions others = sessions events := by
  induction he with
  | nil => rfl
  | cons hfirst _ ih =>
    rw [sessions, sessions, List.filterMap_cons, List.filterMap_cons, hfirst.session?]
    rw [sessions, sessions] at ih
    rw [ih]

/-- The outcomes have the same answer and the same state, and the same events but for the
    sessions that are published. -/
structure Outcome.SameButPublished {σ α : Type} (outcome other : Outcome σ α) : Prop where
  answer : other.answer = outcome.answer
  state : other.state = outcome.state
  events : List.Forall₂ Event.SameButPublished outcome.events other.events

theorem Outcome.SameButPublished.refl {σ α : Type} (outcome : Outcome σ α) :
    outcome.SameButPublished outcome :=
  ⟨rfl, rfl, List.forall₂_same.2 fun event _ => .same event⟩

/-! ## Another session cache -/

/-- The context with another session cache. -/
def Context.withCache (context : Context) (cache : SessionCache) : Context :=
  { context with sessionCache := cache }

/-- The server with another session cache. -/
def Server.withCache (server : Server) (cache : SessionCache) : Server :=
  ⟨server.context.withCache cache⟩

/-- The numbered round that an operation uses, if it uses one. -/
def Operation.round? : Operation → Option Nat
  | .selectCredentials round _ | .selectCipherSuite round _ => some round
  | _ => none

namespace Handshake

variable (context : Context) (cache : SessionCache) (manager : Manager)

/-- No candidate is tried by the session cache. -/
theorem firstUsable_withCache (suites : List CipherSuite) (round : Round) (h : Handshake) :
    firstUsable (context.withCache cache) manager suites round h =
      firstUsable context manager suites round h := by
  induction suites generalizing round h with
  | nil => rfl
  | cons suite suites ih =>
    -- The first try reads no session cache; what it leaves is where the others start.
    simp only [firstUsable, ih]
    rfl

theorem selectedCipherSuite_withCache (h : Handshake) :
    h.selectedCipherSuite (context.withCache cache) manager =
      h.selectedCipherSuite context manager := by
  simp only [selectedCipherSuite, firstUsable_withCache]
  rfl

theorem agree_withCache (h : Handshake) :
    h.agree (context.withCache cache) manager = h.agree context manager := by
  simp only [agree, selectedCipherSuite_withCache]
  rfl

/-- Completing a handshake publishes what the session cache hands back, and is otherwise the
    same whatever it has stored. -/
theorem complete_withCache (h : Handshake) (earlier others : List Session)
    (parameters : SessionParameters) :
    (h.complete context earlier parameters).SameButPublished
      (h.complete (context.withCache cache) others parameters) := by
  rcases h.completion_cases with hc | ⟨hc, hn⟩ | ⟨version, suite, hc, hv, hs⟩
  · rw [complete_of_isComplete context hc, complete_of_isComplete _ hc]
    exact .refl _
  · obtain ⟨cause, -, hfailed⟩ := complete_of_unready hc hn
    rw [hfailed, hfailed]
    exact .refl _
  · rw [complete_of_ready context h hc hv hs, complete_of_ready _ h hc hv hs]
    exact ⟨rfl, rfl, .cons (.same _) (.cons (.same _) (.cons (.published _ _) .nil))⟩

/-- An operation reads of what is shared only the round that it uses, and the session cache
    only for the session that is published. -/
theorem perform_withCache (h : Handshake) {operation : Operation} {shared others : Shared}
    (hround : ∀ round, operation.round? = some round →
      others.rounds round = shared.rounds round) :
    ((h.perform context manager operation shared).mapState Prod.fst).SameButPublished
      ((h.perform (context.withCache cache) manager operation others).mapState Prod.fst) := by
  cases operation with
  | selectedCipherSuite =>
    simp only [perform, selectedCipherSuite_withCache]
    exact .refl _
  | selectCredentials round suite | selectCipherSuite round suite =>
    simp only [perform, hround round rfl]
    exact .refl _
  | complete parameters =>
    have hdone := complete_withCache context cache h shared.reported others.reported parameters
    exact ⟨congrArg (Except.map fun _ => Answer.done) hdone.answer, hdone.state, hdone.events⟩
  | _ => exact .refl _

/-- It leaves the other rounds as they are. -/
theorem rounds_perform_of_ne (h : Handshake) {operation : Operation} (shared : Shared)
    {round : Nat} (hr : operation.round? ≠ some round) :
    (h.perform context manager operation shared).state.2.rounds round = shared.rounds round := by
  cases operation with
  | selectCredentials used suite | selectCipherSuite used suite =>
    have hne : round ≠ used := fun heq => hr (congrArg some heq.symm)
    exact Shared.rounds_setRound_of_ne shared _ hne
  | _ => rfl

/-- What it leaves of its own round does not depend on the session cache or on other rounds. -/
theorem rounds_perform_withCache (h : Handshake) {operation : Operation}
    {shared others : Shared} {round : Nat} (hr : operation.round? = some round)
    (hround : others.rounds round = shared.rounds round) :
    (h.perform (context.withCache cache) manager operation others).state.2.rounds round =
      (h.perform context manager operation shared).state.2.rounds round := by
  cases operation with
  | selectCredentials used suite | selectCipherSuite used suite =>
    obtain rfl : used = round := Option.some.inj hr
    simp only [perform, insideRound, Outcome.withState, Shared.rounds_record,
      Shared.rounds_setRound_self, hround]
    rfl
  | _ => cases hr

end Handshake

/-! ## Turns -/

/-- A client that operates uses its own rounds only. -/
def Request.KeepsTo (owner : Nat → Nat) : Request → Prop
  | .operate client operation => ∀ round, operation.round? = some round → owner round = client
  | .accept _ _ | .negotiate _ _ | .renewRound _ => True

/-- The request as it is made to a server that has one client only. -/
def Request.alone : Request → Request
  | .operate _ operation => .operate 0 operation
  | request => request

/-- The reply as that client gets it: its number is the first. -/
def Reply.alone : Reply → Reply
  | .opened _ => .opened 0
  | .agreed _ agreement => .agreed 0 agreement
  | reply => reply

/-- A request with the pool that it finds. -/
structure Turn where
  pool : Pool
  request : Request

namespace Turn

/-- The turn is for a client: the request opens its handshake, or would if the negotiation
    succeeds, or it operates on it or renews one of its rounds. -/
def isFor (owner : Nat → Nat) (client : Nat) (turn : Turn) : Bool :=
  match turn.request with
  | .accept _ _ | .negotiate _ _ => turn.pool.clients.length == client
  | .operate index _ => index == client
  | .renewRound round => owner round == client

/-- What happens when it is taken. -/
def taken (server : Server) (managers : Nat → Manager) (turn : Turn) : Outcome Pool Reply :=
  turn.pool.step server managers turn.request

/-- What a client sees of that: its reply, the state that its handshake is left in, and the
    events. -/
def seen (server : Server) (managers : Nat → Manager) (client : Nat) (turn : Turn) :
    Outcome (Option Client) Reply :=
  let taken := turn.taken server managers
  ⟨taken.answer.alone, taken.state.clients[client]?, taken.events⟩

end Turn

/-- The turns in which a pool carries out requests. -/
def Pool.turns (server : Server) (managers : Nat → Manager) : List Request → Pool → List Turn
  | [], _ => []
  | request :: requests, pool =>
    ⟨pool, request⟩ :: turns server managers requests (pool.step server managers request).state

/-! ## A client on its own -/

/-- The second pool has the one client of the first, if it is there, and agrees with the first
    on the rounds that the client owns. -/
structure Alone (owner : Nat → Nat) (client : Nat) (pool single : Pool) : Prop where
  clients : single.clients = pool.clients[client]?.toList
  rounds : ∀ round, owner round = client →
    single.shared.rounds round = pool.shared.rounds round

/-- The outcomes of a turn show the client the same, and leave it alone. -/
structure LeavesAlone (owner : Nat → Nat) (client : Nat) (taken lone : Outcome Pool Reply) :
    Prop where
  state : Alone owner client taken.state lone.state
  answer : lone.answer.alone = taken.answer.alone
  events : List.Forall₂ Event.SameButPublished taken.events lone.events

/-- The handshake of a client with another number is not the one that is opened. -/
theorem Pool.clients_insert_of_ne {pool : Pool} {client : Nat}
    (hn : pool.clients.length ≠ client) (opened : Client) :
    (pool.insert opened).clients[client]? = pool.clients[client]? := by
  show (pool.clients ++ [opened])[client]? = _
  rcases Nat.lt_or_gt_of_ne hn with hlt | hgt
  · -- The number is beyond the end, with the new client and without.
    rw [List.getElem?_eq_none (Nat.le_of_lt hlt), List.getElem?_eq_none]
    rw [List.length_append]
    exact hlt
  · rw [List.getElem?_append_left hgt]

/-- Opening a handshake for another client, operating on another handshake and renewing a
    round leave the client's handshake as it is. -/
theorem Turn.clients_of_foreign {owner : Nat → Nat} {client : Nat} {turn : Turn}
    (hf : turn.isFor owner client = false) (server : Server) (managers : Nat → Manager) :
    (turn.taken server managers).state.clients[client]? = turn.pool.clients[client]? := by
  obtain ⟨pool, request⟩ := turn
  cases request with
  | accept manager offer =>
    have hn : pool.clients.length ≠ client := by simpa [isFor] using hf
    exact Pool.clients_insert_of_ne hn _
  | negotiate manager offer =>
    have hn : pool.clients.length ≠ client := by simpa [isFor] using hf
    simp only [taken, Pool.step, Pool.enrollNegotiated]
    split
    · exact Pool.clients_insert_of_ne hn _
    · rfl
  | operate index operation =>
    have hne : index ≠ client := by simpa [isFor] using hf
    exact Pool.clients_step_operate_of_ne server managers operation pool (Ne.symm hne)
  | renewRound round => rfl

namespace Alone

variable {owner : Nat → Nat} {client : Nat} {pool single : Pool} {server : Server}
  {cache : SessionCache} {managers : Nat → Manager} {request : Request}

theorem empty (owner : Nat → Nat) (client : Nat) : Alone owner client .empty .empty :=
  ⟨rfl, fun _ _ => rfl⟩

theorem head (ha : Alone owner client pool single) :
    single.clients[0]? = pool.clients[client]? := by
  rw [ha.clients]
  cases pool.clients[client]? <;> rfl

/-- A turn that is not the client's leaves its picture right. -/
theorem foreign (server : Server) (managers : Nat → Manager)
    (ha : Alone owner client pool single) (hk : request.KeepsTo owner)
    (hf : Turn.isFor owner client ⟨pool, request⟩ = false) :
    Alone owner client (pool.step server managers request).state single := by
  refine ⟨?_, ?_⟩
  · rw [ha.clients, ← Turn.clients_of_foreign hf server managers]
    rfl
  · intro round ho
    rw [ha.rounds round ho]
    cases request with
    | accept manager offer => rfl
    | negotiate manager offer =>
      simp only [Pool.step, Pool.enrollNegotiated]
      split <;> rfl
    | operate index operation =>
      have hne : index ≠ client := by simpa [Turn.isFor] using hf
      simp only [Pool.step]
      split
      · rfl
      · -- The round is the client's, and the operation uses only rounds of its own handshake.
        refine (Handshake.rounds_perform_of_ne _ _ _ pool.shared ?_).symm
        intro hused
        exact hne ((hk round hused).symm.trans ho)
    | renewRound index =>
      have hne : owner index ≠ client := by simpa [Turn.isFor] using hf
      have hother : round ≠ index := by
        rintro rfl
        exact hne ho
      exact (Shared.rounds_setRound_of_ne pool.shared _ hother).symm

/-- A handshake that is opened is the client's if it has the client's number. -/
theorem insert (ha : Alone owner client pool single) (hn : pool.clients.length = client)
    (opened : Client) : Alone owner client (pool.insert opened) (single.insert opened) := by
  refine ⟨?_, ha.rounds⟩
  have hsingle := ha.clients
  rw [List.getElem?_eq_none (Nat.le_of_eq hn)] at hsingle
  show single.clients ++ [opened] = (pool.clients ++ [opened])[client]?.toList
  rw [hsingle, ← hn, List.getElem?_concat_length]
  rfl

theorem negotiate (ha : Alone owner client pool single) (hn : pool.clients.length = client)
    (manager : Nat) (offer : Offer) :
    LeavesAlone owner client (pool.step server managers (.negotiate manager offer))
      (single.step (server.withCache cache) managers (.negotiate manager offer)) := by
  have hsame : (server.withCache cache).negotiate (managers manager) offer =
      server.negotiate (managers manager) offer := by
    simp only [Server.negotiate, Server.withCache, Handshake.agree_withCache]
  simp only [Pool.step, hsame, Pool.enrollNegotiated]
  cases (server.negotiate (managers manager) offer).answer with
  | ok agreement => exact ⟨ha.insert hn _, rfl, (Outcome.SameButPublished.refl _).events⟩
  | error failure => exact ⟨ha, rfl, (Outcome.SameButPublished.refl _).events⟩

/-- An operation on the client's handshake. -/
theorem operate (ha : Alone owner client pool single) {operation : Operation}
    (hk : ∀ round, operation.round? = some round → owner round = client) :
    LeavesAlone owner client (pool.step server managers (.operate client operation))
      (single.step (server.withCache cache) managers (.operate 0 operation)) := by
  have hhead := ha.head
  cases hc : pool.clients[client]? with
  | none =>
    rw [hc] at hhead
    simp only [Pool.step, hc, hhead]
    exact ⟨ha, rfl, .nil⟩
  | some known =>
    rw [hc] at hhead
    obtain ⟨manager, h⟩ := known
    have hround : ∀ round, operation.round? = some round →
        single.shared.rounds round = pool.shared.rounds round :=
      fun round hr => ha.rounds round (hk round hr)
    have hsame :=
      Handshake.perform_withCache server.context cache (managers manager) h hround
    have hsingle := ha.clients
    obtain ⟨hlt, -⟩ := List.getElem?_eq_some_iff.1 hc
    rw [hc] at hsingle
    simp only [Pool.step, hc, hhead]
    refine ⟨⟨?_, ?_⟩, congrArg (Pool.replyOf · |>.alone) hsame.answer, hsame.events⟩
    · -- What the operation leaves stands at the client's place, and at the first.
      show single.clients.set 0 ⟨manager, _⟩ = ((pool.clients.set client _)[client]?).toList
      rw [hsingle, List.getElem?_set_self hlt]
      exact congrArg (fun left => [Client.mk manager left]) hsame.state
    · intro round ho
      by_cases hr : operation.round? = some round
      · exact Handshake.rounds_perform_withCache _ _ _ h hr (hround round hr)
      · exact ((Handshake.rounds_perform_of_ne _ _ h single.shared hr).trans
          (ha.rounds round ho)).trans (Handshake.rounds_perform_of_ne _ _ h pool.shared hr).symm

/-- A turn that is the client's is the same for its picture. -/
theorem own (server : Server) (cache : SessionCache) (managers : Nat → Manager)
    (ha : Alone owner client pool single) (hk : request.KeepsTo owner)
    (hf : Turn.isFor owner client ⟨pool, request⟩ = true) :
    LeavesAlone owner client (pool.step server managers request)
      (single.step (server.withCache cache) managers request.alone) := by
  cases request with
  | accept manager offer =>
    have hn : pool.clients.length = client := by simpa [Turn.isFor] using hf
    exact ⟨ha.insert hn _, rfl, (Outcome.SameButPublished.refl _).events⟩
  | negotiate manager offer =>
    have hn : pool.clients.length = client := by simpa [Turn.isFor] using hf
    exact ha.negotiate hn manager offer
  | operate index operation =>
    obtain rfl : index = client := by simpa [Turn.isFor] using hf
    exact ha.operate hk
  | renewRound index =>
    refine ⟨⟨ha.clients, ?_⟩, rfl, .nil⟩
    intro round ho
    show (single.shared.setRound index .fresh).rounds round =
      (pool.shared.setRound index .fresh).rounds round
    by_cases hr : round = index
    · rw [hr, Shared.rounds_setRound_self, Shared.rounds_setRound_self]
    · rw [Shared.rounds_setRound_of_ne _ _ hr, Shared.rounds_setRound_of_ne _ _ hr]
      exact ha.rounds round ho

/-! ## All turns -/

/-- The client's own turns, among those of all clients, show it what they show it alone. -/
theorem seen_turns {requests : List Request} (ha : Alone owner client pool single)
    (hown : ∀ request ∈ requests, request.KeepsTo owner) :
    let own := (pool.turns server managers requests).filter (Turn.isFor owner client)
    let lone := single.turns (server.withCache cache) managers
      (own.map fun turn => turn.request.alone)
    List.Forall₂ Outcome.SameButPublished (own.map (Turn.seen server managers client))
      (lone.map (Turn.seen (server.withCache cache) managers 0)) := by
  -- The induction is on the requests of all clients; what it carries is the picture.
  induction requests generalizing pool single with
  | nil => exact .nil
  | cons request requests ih =>
    obtain ⟨hfirst, hrest⟩ := List.forall_mem_cons.1 hown
    cases hf : Turn.isFor owner client ⟨pool, request⟩ with
    | true =>
      obtain ⟨hstate, hanswer, hevents⟩ :=
        ha.own server cache managers hfirst hf
      have hseen : (Turn.seen server managers client ⟨pool, request⟩).SameButPublished
          (Turn.seen (server.withCache cache) managers 0 ⟨single, request.alone⟩) :=
        ⟨hanswer, hstate.head, hevents⟩
      have hlater := ih hstate hrest
      simp only [Pool.turns, List.filter_cons_of_pos hf, List.map_cons]
      exact .cons hseen hlater
    | false =>
      have hlater := ih (ha.foreign server managers hfirst hf) hrest
      simp only [Pool.turns, List.filter_cons, hf]
      exact hlater

end Alone

/-- Whatever requests come in, for however many handshakes and in whatever order, as long as
    each handshake uses rounds of its own only: one client's turns show it, one by one, the
    replies, the states of its handshake and the events that the same turns show it when they
    are all there is, at a server that differs in its session cache at most.  The exception is
    which session is published; the sessions that are reported are the same.

    A turn that is not the client's leaves its handshake and the flag of it as they are. -/
theorem handshakes_do_not_interfere (server : Server) (managers : Nat → Manager)
    (owner : Nat → Nat) (requests : List Request)
    (hown : ∀ request ∈ requests, request.KeepsTo owner) (cache : SessionCache) (client : Nat) :
    let own := (Pool.empty.turns server managers requests).filter (Turn.isFor owner client)
    let lone := Pool.empty.turns (server.withCache cache) managers
      (own.map fun turn => turn.request.alone)
    let seen := own.map (Turn.seen server managers client)
    let seenAlone := lone.map (Turn.seen (server.withCache cache) managers 0)
    List.Forall₂ Outcome.SameButPublished seen seenAlone ∧
    seenAlone.map (fun outcome => Event.sessions outcome.events) =
      seen.map (fun outcome => Event.sessions outcome.events) ∧
    ∀ turn : Turn, turn.isFor owner client = false →
      let left := (turn.taken server managers).state
      left.clients[client]? = turn.pool.clients[client]? ∧
        left.isComplete ⟨client⟩ = turn.pool.isComplete ⟨client⟩ := by
  intro own lone seen seenAlone
  have hseen : List.Forall₂ Outcome.SameButPublished seen seenAlone :=
    (Alone.empty owner client).seen_turns hown
  refine ⟨hseen, ?_, ?_⟩
  · clear_value seen seenAlone
    induction hseen with
    | nil => rfl
    | cons hfirst _ ih =>
      rw [List.map_cons, List.map_cons, Event.sessions_of_sameButPublished hfirst.events, ih]
  · intro turn hf left
    have hclients : left.clients[client]? = turn.pool.clients[client]? :=
      Turn.clients_of_foreign hf server managers
    refine ⟨hclients, ?_⟩
    simp only [Pool.isComplete, hclients]

/-- Two clients take turns and finish with the same session identifier, at a server that keeps
    the session it stored first.  The second one sees what it would see alone, but for the
    session that is published for it, which is the other's. -/
theorem interleaved_handshakes_differ_in_published_session :
    let server : Server := ⟨{ Context.plain [.rsaWithAes128CbcSha] [.rsa] with
      sessionCache := .keepFirst }⟩
    let managers : Nat → Manager := fun _ => .refusing []
    let offer := Offer.plain [.rsaWithAes128CbcSha]
    let requests : List Request := [.accept 0 offer, .accept 0 offer,
      .operate 1 .serverVersion, .operate 0 .serverVersion,
      .operate 0 (.selectCipherSuite 0 .rsaWithAes128CbcSha),
      .operate 1 (.selectCipherSuite 1 .ecdheRsaWithAes128GcmSha256),
      .operate 0 .selectedCipherSuite, .operate 1 .selectedCipherSuite,
      .operate 0 (.complete ⟨[1], [2]⟩), .operate 1 (.complete ⟨[1], [3]⟩)]
    let own := (Pool.empty.turns server managers requests).filter (Turn.isFor id 1)
    let lone := Pool.empty.turns server managers (own.map fun turn => turn.request.alone)
    let seen := own.map (Turn.seen server managers 1)
    let seenAlone := lone.map (Turn.seen server managers 0)
    List.Forall₂ Outcome.SameButPublished seen seenAlone ∧
      seenAlone.map (·.events) ≠ seen.map (·.events) := by
  intro server managers offer requests own lone seen seenAlone
  have hown : ∀ request ∈ requests, request.KeepsTo id := by
    simp [requests, Request.KeepsTo, Operation.round?]
  obtain ⟨hseen, -, -⟩ :=
    handshakes_do_not_interfere server managers id requests hown .keepFirst 1
  exact ⟨hseen, by decide +kernel⟩

end TlsHandshake
