/-
  TlsHandshake.Proofs.Server.OfferedSuites

  Of the suites that its clients offer, only the set of registered ones counts for a server.

  A server with any number of clients is run twice, with the same requests but for the lists of
  suites that the clients offer: each holds the same registered suites as in the other run, in
  any order, any number of times, and with any other codes in between.  Then the runs do the
  same.  The order of a client's list does not decide anything, and the one place where its
  length shows is the notice that an offer was received.

    * `Event.SameButCount` — the difference that is allowed between two events;
    * `Client.SameButOffer` — the difference that is allowed between two clients;
    * `Pool.step_equivalent` — one request;
    * `Pool.host_equivalent` — all of them, from pools that differ in offers only;
    * `registered_suites_decide` — what this means from the empty pool on.
-/

import Mathlib.Data.List.Forall2
import TlsHandshake.Proofs.Handshake.OfferedSuites
import TlsHandshake.Proofs.Server.Secrecy

namespace TlsHandshake

/-! ## The differences that are allowed -/

/-- The events are the same, or both note that an offer was received, with any number of suites
    in it. -/
inductive Event.SameButCount : Event → Event → Prop
  | same (event : Event) : SameButCount event event
  | received (version : Version) (suites others : Nat) :
      SameButCount (.log (.offerReceived version suites)) (.log (.offerReceived version others))

theorem Event.forall₂_sameButCount_refl (events : List Event) :
    List.Forall₂ SameButCount events events :=
  List.forall₂_same.2 fun event _ => .same event

theorem Event.SameButCount.call? {event other : Event} (he : event.SameButCount other) :
    Option.Rel Eq event.call? other.call? := by
  cases he with
  | same event =>
    cases event with
    | call c => exact .some rfl
    | log notice => exact .none
  | received => exact .none

/-- The calls are the same. -/
theorem Event.calls_of_sameButCount {events others : List Event}
    (he : List.Forall₂ SameButCount events others) : calls others = calls events := by
  have hcalls : List.Forall₂ Eq (calls events) (calls others) :=
    List.rel_filterMap (fun _ _ hsame => hsame.call?) he
  rw [List.forall₂_eq_eq_eq] at hcalls
  exact hcalls.symm

/-- The other client has the same manager, and the same handshake with an equivalent offer. -/
inductive Client.SameButOffer (client : Client) : Client → Prop
  | offering {offer : Offer} (he : client.handshake.offer.Equivalent offer) :
      SameButOffer client ⟨client.manager, client.handshake.withOffer offer⟩

/-- The curves that can be chosen are the same. -/
theorem Client.SameButOffer.curveChoice {client other : Client} (hc : client.SameButOffer other)
    (context : Context) :
    other.handshake.curveChoice context = client.handshake.curveChoice context := by
  obtain ⟨he⟩ := hc
  exact Handshake.curveChoice_withOffer he

/-- The pools share the same things, and differ in the offers of their clients only. -/
structure Pool.SameButOffers (pool other : Pool) : Prop where
  clients : List.Forall₂ Client.SameButOffer pool.clients other.clients
  shared : other.shared = pool.shared

/-- The outcomes show the same, and leave pools that differ in offers only. -/
structure Pool.ShowsSame {α : Type} (outcome other : Outcome Pool α) : Prop where
  answer : other.answer = outcome.answer
  state : outcome.state.SameButOffers other.state
  events : List.Forall₂ Event.SameButCount outcome.events other.events

/-- The requests are the same, but may bring equivalent offers. -/
inductive Request.Equivalent : Request → Request → Prop
  | accept (manager : Nat) {offer other : Offer} (he : offer.Equivalent other) :
      Equivalent (.accept manager offer) (.accept manager other)
  | negotiate (manager : Nat) {offer other : Offer} (he : offer.Equivalent other) :
      Equivalent (.negotiate manager offer) (.negotiate manager other)
  | operate (client : Nat) (operation : Operation) :
      Equivalent (.operate client operation) (.operate client operation)
  | renewRound (round : Nat) : Equivalent (.renewRound round) (.renewRound round)

/-- The visits meet the same server and the same managers, with equivalent requests. -/
structure Visit.Equivalent (visit other : Visit) : Prop where
  server : other.server = visit.server
  managers : other.managers = visit.managers
  request : visit.request.Equivalent other.request

/-! ## Opening a handshake -/

/-- A handshake that was handed out has the offer that it was opened for. -/
theorem Handshake.offer_of_opens {server : Server} {manager : Manager} {offer : Offer}
    {h : Handshake} (ho : server.Opens manager offer h) : h.offer = offer := by
  obtain ⟨steps, -, rfl⟩ := undergo_of_opens manager h ho
  exact offer_undergo (start offer) _

namespace Server

variable {offer other : Offer} (he : offer.Equivalent other)

include he

theorem accept_equivalent :
    List.Forall₂ Event.SameButCount (accept offer).events (accept other).events := by
  rw [accept, accept, he.version]
  exact .cons (.received ..) .nil

/-- Negotiating at once answers the same, and leaves the same handshake but for the offer. -/
theorem negotiate_equivalent (server : Server) (manager : Manager) :
    let driven := server.negotiate manager offer
    let driven' := server.negotiate manager other
    driven'.answer = driven.answer ∧ driven'.state = driven.state.withOffer other ∧
      List.Forall₂ Event.SameButCount driven.events driven'.events := by
  have hagree : (Handshake.start other).agree server.context manager =
      ((Handshake.start offer).agree server.context manager).mapState
        (Handshake.withOffer other) := Handshake.agree_withOffer (h := .start offer) he
  unfold negotiate
  rw [hagree]
  generalize (Handshake.start offer).agree server.context manager = agreed
  obtain ⟨answer, state, events⟩ := agreed
  have hevents := List.rel_append (accept_equivalent he) (Event.forall₂_sameButCount_refl events)
  cases answer with
  | ok agreement => exact ⟨rfl, rfl, hevents⟩
  | error failure =>
    have hnotices := Event.forall₂_sameButCount_refl (failureNotices failure)
    exact ⟨rfl, rfl, List.rel_append hevents hnotices⟩

end Server

/-! ## Pools -/

/-- In related lists every place holds related things, or nothing. -/
theorem forall₂_getElem? {α β : Type} {R : α → β → Prop} {as : List α} {bs : List β}
    (hr : List.Forall₂ R as bs) (i : Nat) : Option.Rel R as[i]? bs[i]? := by
  induction hr generalizing i with
  | nil => exact .none
  | cons hfirst _ ih =>
    cases i with
    | zero => exact .some hfirst
    | succ i => exact ih i

theorem forall₂_set {α β : Type} {R : α → β → Prop} {as : List α} {bs : List β} {a : α} {b : β}
    (hr : List.Forall₂ R as bs) (hab : R a b) (i : Nat) :
    List.Forall₂ R (as.set i a) (bs.set i b) := by
  induction hr generalizing i with
  | nil => exact .nil
  | cons hfirst hrest ih =>
    cases i with
    | zero => exact .cons hab hrest
    | succ i => exact .cons hfirst (ih i)

namespace Pool

variable {pool other : Pool} (hp : pool.SameButOffers other)

include hp

/-- A client that is taken in gets the same number in both pools. -/
theorem SameButOffers.insert {client newcomer : Client} (hc : client.SameButOffer newcomer) :
    (pool.insert client).SameButOffers (other.insert newcomer) :=
  ⟨List.rel_append hp.clients (.cons hc .nil), hp.shared⟩

theorem enroll_equivalent (manager : Nat) {offer offer' : Offer} (he : offer.Equivalent offer') :
    ShowsSame (pool.enroll manager (Server.accept offer))
      (other.enroll manager (Server.accept offer')) where
  answer := congrArg Reply.opened hp.clients.length_eq.symm
  state := by
    have hopened : Client.SameButOffer ⟨manager, .start offer⟩ ⟨manager, .start offer'⟩ :=
      .offering he
    exact hp.insert hopened
  events := Server.accept_equivalent he

theorem enrollNegotiated_equivalent (server : Server) (managers : Nat → Manager) (manager : Nat)
    {offer offer' : Offer} (he : offer.Equivalent offer') :
    ShowsSame (pool.enrollNegotiated manager (server.negotiate (managers manager) offer))
      (other.enrollNegotiated manager (server.negotiate (managers manager) offer')) := by
  obtain ⟨hanswer, hstate, hevents⟩ := Server.negotiate_equivalent he server (managers manager)
  rw [enrollNegotiated, enrollNegotiated, hanswer, hstate]
  cases hdriven : (server.negotiate (managers manager) offer).answer with
  | error failure => exact ⟨rfl, hp, hevents⟩
  | ok agreement =>
    have hkept := Handshake.offer_of_opens (.negotiated hdriven)
    generalize (server.negotiate (managers manager) offer).state = opened at hkept
    have hopened : Client.SameButOffer ⟨manager, opened⟩ ⟨manager, opened.withOffer offer'⟩ :=
      .offering (by rwa [hkept])
    exact ⟨congrArg (Reply.agreed · agreement) hp.clients.length_eq.symm, hp.insert hopened,
      hevents⟩

theorem operate_equivalent (server : Server) (managers : Nat → Manager) (index : Nat)
    (operation : Operation) :
    ShowsSame (pool.step server managers (.operate index operation))
      (other.step server managers (.operate index operation)) := by
  have hfound := forall₂_getElem? hp.clients index
  simp only [step]
  generalize pool.clients[index]? = found at hfound
  generalize other.clients[index]? = found' at hfound
  cases hfound with
  | none => exact ⟨rfl, hp, .nil⟩
  | @some client _ hc =>
    obtain ⟨he⟩ := hc
    have hkept := (client.handshake.transition_perform server.context (managers client.manager)
      operation pool.shared).sameOffer
    simp only [settle, hp.shared, Handshake.perform_withOffer he]
    refine ⟨rfl, ⟨?_, rfl⟩, Event.forall₂_sameButCount_refl _⟩
    exact forall₂_set hp.clients (.offering (hkept ▸ he)) index

/-- One request, in pools that differ in offers only. -/
theorem step_equivalent {visit visit' : Visit} (hv : visit.Equivalent visit') :
    ShowsSame (pool.step visit.server visit.managers visit.request)
      (other.step visit'.server visit'.managers visit'.request) := by
  obtain ⟨_, _, request⟩ := visit
  obtain ⟨server, managers, request'⟩ := visit'
  obtain ⟨rfl, rfl, hr⟩ := hv
  cases hr with
  | accept manager he => exact enroll_equivalent hp manager he
  | negotiate manager he => exact enrollNegotiated_equivalent hp server managers manager he
  | operate client operation => exact operate_equivalent hp server managers client operation
  | renewRound round =>
    exact ⟨rfl, ⟨hp.clients, congrArg (Shared.setRound · round .fresh) hp.shared⟩, .nil⟩

/-- All requests, from pools that differ in offers only. -/
theorem host_equivalent {visits others : List Visit}
    (hv : List.Forall₂ Visit.Equivalent visits others) :
    ShowsSame (pool.host visits) (other.host others) := by
  -- The induction is on the visits; what it carries is that the pools differ in offers only.
  induction hv generalizing pool other with
  | nil => exact ⟨rfl, hp, .nil⟩
  | cons hfirst _ ih =>
    obtain ⟨hanswer, hstate, hevents⟩ := step_equivalent hp hfirst
    obtain ⟨hanswers, hend, hlater⟩ := ih hstate
    exact ⟨congrArg₂ List.cons hanswer hanswers, hend, List.rel_append hevents hlater⟩

end Pool

/-! ## All of it -/

/-- Of the suites that clients offer, only the set of registered ones counts.  The same visits
    are paid twice, with offers of the same version, curves and schemes, whose lists of suites
    hold the same registered codes.

    Then the replies are the same, with the same failures, and so are the calls to the
    collaborators, in the same order, the rounds and the reported sessions, and the handshakes
    with their managers, apart from the offers that they keep, and with the same choice of curves.
    The log is the same, apart from the number of suites in the notice that an offer was
    received. -/
theorem registered_suites_decide {visits others : List Visit}
    (hv : List.Forall₂ Visit.Equivalent visits others) :
    let hosted := Pool.empty.host visits
    let hosted' := Pool.empty.host others
    hosted'.answer = hosted.answer ∧
    Event.calls hosted'.events = Event.calls hosted.events ∧
    List.Forall₂ Event.SameButCount hosted.events hosted'.events ∧
    hosted'.state.shared = hosted.state.shared ∧
    List.Forall₂ (fun client other => client.SameButOffer other ∧ ∀ context,
        other.handshake.curveChoice context = client.handshake.curveChoice context)
      hosted.state.clients hosted'.state.clients := by
  intro hosted hosted'
  have hstart : Pool.empty.SameButOffers Pool.empty := ⟨.nil, rfl⟩
  obtain ⟨hanswers, hend, hevents⟩ := Pool.host_equivalent hstart hv
  exact ⟨hanswers, Event.calls_of_sameButCount hevents, hevents, hend.shared,
    hend.clients.imp fun _ _ hc => ⟨hc, hc.curveChoice⟩⟩

/-- A client lists its two suites in the other order, one of them twice, with a code in front that
    is not registered: the notice tells four suites instead of two, and nothing else changes. -/
theorem registered_suites_decide_after_reordering :
    let suites := [CipherSuite.ecdheRsaWithAes128GcmSha256, .rsaWithAes128CbcSha]
    let server : Server := ⟨.plain suites [.ecdheRsa, .rsa]⟩
    let requests := fun offer => [Request.negotiate 0 offer, .operate 0 (.complete ⟨[1], [2]⟩)]
    let run := fun codes =>
      Pool.empty.run server (fun _ => .refusing []) (requests ⟨.tls12, codes, none, none⟩)
    let one := run [0xC02F, 0x002F]
    let other := run [0x1A1A, 0x002F, 0xC02F, 0x002F]
    one.events ≠ other.events ∧ other.answer = one.answer ∧
      Event.calls other.events = Event.calls one.events ∧
      List.Forall₂ Event.SameButCount one.events other.events := by
  intro suites server requests run one other
  let visits := fun codes => (requests ⟨.tls12, codes, none, none⟩).map fun request =>
    (⟨server, fun _ => .refusing [], request⟩ : Visit)
  have hrun : ∀ codes, run codes = Pool.empty.host (visits codes) :=
    fun codes => Pool.run_eq_host server _ (requests ⟨.tls12, codes, none, none⟩) .empty
  have he : (⟨.tls12, [0xC02F, 0x002F], none, none⟩ : Offer).Equivalent
      ⟨.tls12, [0x1A1A, 0x002F, 0xC02F, 0x002F], none, none⟩ := by
    refine ⟨rfl, rfl, rfl, ?_⟩
    intro code hcode
    have hunknown : (CipherSuite.ofCode? 0x1A1A).isSome = false := by decide
    have hne : code ≠ 0x1A1A := by
      rintro rfl
      rw [hunknown] at hcode
      cases hcode
    simp [hne, or_comm]
  have hv : List.Forall₂ Visit.Equivalent (visits [0xC02F, 0x002F])
      (visits [0x1A1A, 0x002F, 0xC02F, 0x002F]) :=
    .cons ⟨rfl, rfl, .negotiate 0 he⟩ (.cons ⟨rfl, rfl, .operate 0 _⟩ .nil)
  obtain ⟨hanswer, hcalls, hevents, -⟩ := registered_suites_decide hv
  rw [← hrun, ← hrun] at hanswer hcalls hevents
  exact ⟨by decide +kernel, hanswer, hcalls, hevents⟩

end TlsHandshake
