/-
  TlsHandshake.Proofs.Handshake.Completion

  A handshake is published once, by the first completion that succeeds.

  The completion flag accounts for the two calls that publish a session: they are made on
  the occasion that sets the flag and on no other, and nothing takes the flag back.  A
  completion that comes too early, without a version or a suite, fails before it reaches
  the flag, so a later one can still publish.

    * `isComplete_perform` — an operation sets the flag exactly if it publishes;
    * `meet_of_complete_unready`, `meet_of_complete_ready`, `meet_of_complete_again` — the
      three ends of a completion;
    * `negotiated_of_isComplete` — the flag is not set without a version and a suite;
    * `publications_undergo` — what is published in a whole lifetime, and when;
    * `Pool.isComplete_run` — the flag as its handles see it, whatever other handshakes do;
    * `FirstCompletion` — the occasion that publishes, by what went before it;
    * `Presents` — the chain in a session, by the credential that the handshake holds;
    * `published_once` — all of it, for a handshake that a server hands out.
-/

import TlsHandshake.Proofs.Handshake.Lifetime
import TlsHandshake.Proofs.Plain
import TlsHandshake.Server.Pool

namespace TlsHandshake

/-! ## Counting publications -/

/-- Reports are counted among the publications. -/
theorem Event.countP_isReport (events : List Event) :
    (Event.calls events).countP Call.isReport =
      (Event.publications events).countP Call.isReport := by
  rw [publications, List.countP_filter]
  congr 1
  funext call
  cases call <;> rfl

/-- So are the calls that tell the manager. -/
theorem Event.countP_isCompletion (events : List Event) :
    (Event.calls events).countP Call.isCompletion =
      (Event.publications events).countP Call.isCompletion := by
  rw [publications, List.countP_filter]
  congr 1
  funext call
  cases call <;> rfl

/-- Events that report no session leave the shared things as they are. -/
theorem Shared.record_of_sessions_nil {shared : Shared} {events : List Event}
    (h : Event.sessions events = []) : shared.record events = shared := by
  rw [record, h, List.append_nil]

namespace Handshake

variable {context : Context} {manager : Manager} {h : Handshake}

/-! ## One completion -/

section Call

variable {call : Occasion} {parameters : SessionParameters}

theorem meet_of_complete (ho : call.operation = .complete parameters) (h : Handshake) :
    h.meet call = outsideRounds call.shared
      ((h.complete call.context call.shared.reported parameters).mapOk fun _ => .done) :=
  meet_eq_perform ho h

/-- Too early: the call fails, and everything stays as it is. -/
theorem meet_of_complete_unready (ho : call.operation = .complete parameters)
    (hc : h.isComplete = false) (hn : h.version = none ∨ h.suite = none) :
    ∃ cause, h.meet call = ⟨.error (.fatal cause), (h, call.shared), []⟩ ∧
      cause.alert = .internalError := by
  obtain ⟨cause, halert, hfailed⟩ := complete_of_unready hc hn
  have hkept : call.shared.record [] = call.shared := Shared.record_of_sessions_nil rfl
  refine ⟨cause, ?_, halert⟩
  rw [meet_of_complete ho, hfailed]
  show Outcome.mk _ (h, call.shared.record []) _ = _
  rw [hkept]
  rfl

/-- In time: the call succeeds, and sets the flag. -/
theorem meet_of_complete_ready (ho : call.operation = .complete parameters)
    (hc : h.isComplete = false) {version : Version} {suite : CipherSuite}
    (hv : h.version = some version) (hs : h.suite = some suite) :
    (h.meet call).answer = .ok .done ∧
      (h.meet call).state.1 = { h with completion := ⟨true⟩ } := by
  rw [meet_of_complete ho, complete_of_ready call.context h hc hv hs]
  exact ⟨rfl, rfl⟩

/-- Again: the call succeeds, calls nobody, and everything stays as it is. -/
theorem meet_of_complete_again (ho : call.operation = .complete parameters)
    (hc : h.isComplete = true) :
    (h.meet call).answer = .ok .done ∧ (h.meet call).state = (h, call.shared) ∧
      Event.calls (h.meet call).events = [] := by
  have hkept : call.shared.record [.log .alreadyComplete] = call.shared :=
    Shared.record_of_sessions_nil rfl
  rw [meet_of_complete ho, complete_of_isComplete call.context hc]
  refine ⟨rfl, ?_, rfl⟩
  show (h, call.shared.record [.log .alreadyComplete]) = _
  rw [hkept]

end Call

/-! ## The flag -/

/-- No other operation touches the flag. -/
theorem Transition.completion {rounds : Nat → Round} {operation : Operation}
    {answer : Except Failure Answer} {k : Handshake}
    (ht : Transition context manager rounds h operation answer k)
    (hop : ∀ parameters, operation ≠ .complete parameters) : k.completion = h.completion := by
  cases ht with
  | completed => exact absurd rfl (hop _)
  | _ => rfl

theorem published?_of_ne_complete {operation : Operation}
    (hop : ∀ parameters, operation ≠ .complete parameters) (h : Handshake) :
    h.published? operation = none := by
  cases hp : h.published? operation with
  | none => rfl
  | some session =>
    obtain ⟨parameters, -, -, hcomplete, -⟩ := (published?_eq_some_iff ..).1 hp
    exact absurd hcomplete (hop parameters)

theorem isComplete_complete (context : Context) (h : Handshake) (earlier : List Session)
    (parameters : SessionParameters) :
    (h.complete context earlier parameters).state.isComplete =
      (h.isComplete || (h.published? (.complete parameters)).isSome) := by
  rcases h.completion_cases with hc | ⟨hc, hn⟩ | ⟨version, suite, hc, hv, hs⟩
  · rw [complete_of_isComplete context hc, hc, Bool.true_or]
  · obtain ⟨cause, -, hfailed⟩ := complete_of_unready hc hn
    rw [hfailed, published?_of_unready hn, Option.isSome_none, Bool.or_false]
  · have hready := (published?_eq_some_iff h (.complete parameters) _).2
      ⟨parameters, version, suite, rfl, hc, hv, hs, rfl⟩
    rw [complete_of_ready context h hc hv hs, hready, Option.isSome_some, Bool.or_true]
    exact h.completion.isComplete_mark

/-- An operation leaves the flag set exactly if it was set before or the operation
    publishes. -/
theorem isComplete_perform (context : Context) (manager : Manager) (operation : Operation)
    (h : Handshake) (shared : Shared) :
    (h.perform context manager operation shared).state.1.isComplete =
      (h.isComplete || (h.published? operation).isSome) := by
  by_cases hop : ∃ parameters, operation = .complete parameters
  · obtain ⟨parameters, rfl⟩ := hop
    exact isComplete_complete context h shared.reported parameters
  · have hne : ∀ parameters, operation ≠ .complete parameters := by
      intro parameters heq
      exact hop ⟨parameters, heq⟩
    have hkept := (transition_perform context manager h operation shared).completion hne
    rw [published?_of_ne_complete hne]
    simp only [isComplete, hkept, Option.isSome_none, Bool.or_false]

theorem isComplete_meet_of_isComplete (hc : h.isComplete = true) (occasion : Occasion) :
    (h.meet occasion).state.1.isComplete = true := by
  rw [meet, isComplete_perform, hc]
  rfl

/-- The flag stays set. -/
theorem isComplete_undergo (hc : h.isComplete = true) (occasions : List Occasion) :
    (h.undergo occasions).state.isComplete = true := by
  refine undergo_invariant (Q := fun _ => True) (P := fun k => k.isComplete = true) ?_
    (fun _ _ => trivial) hc
  intro k occasion _ hk
  exact isComplete_meet_of_isComplete hk occasion

/-- A handshake that is complete has a version and a suite. -/
def Finished (h : Handshake) : Prop :=
  h.isComplete = true → h.version ≠ none ∧ h.suite ≠ none

theorem Transition.finished {rounds : Nat → Round} {operation : Operation}
    {answer : Except Failure Answer} {k : Handshake}
    (ht : Transition context manager rounds h operation answer k) (hh : h.Finished) :
    k.Finished := by
  cases ht with
  | versionFixed =>
    intro hc
    exact ⟨Option.some_ne_none _, (hh hc).2⟩
  | suiteSelected =>
    intro hc
    exact ⟨(hh hc).1, Option.some_ne_none _⟩
  | completed _ hv hs =>
    -- The only case that sets the flag; its guard is what is to be shown.
    intro _
    exact ⟨by simp [hv], by simp [hs]⟩
  | _ => exact hh

theorem negotiated_of_isComplete (occasions : List Occasion) (hh : h.Finished) :
    (h.undergo occasions).state.Finished := by
  refine undergo_invariant (Q := fun _ => True) (P := Finished) ?_ (fun _ _ => trivial) hh
  intro k occasion _ hk
  exact (k.transition_meet occasion).finished hk

/-! ## A whole lifetime -/

theorem publications_undergo_cons (occasion : Occasion) (occasions : List Occasion)
    (h : Handshake) :
    Event.publications (h.undergo (occasion :: occasions)).events =
      (h.published? occasion.operation).elim []
          (announcement occasion.context occasion.shared.reported) ++
        Event.publications ((h.meet occasion).state.1.undergo occasions).events := by
  rw [undergo_cons, Event.publications_append, ← publications_perform occasion.context
    occasion.manager h occasion.operation occasion.shared]
  rfl

/-- A complete handshake publishes nothing more. -/
theorem publications_of_isComplete (hc : h.isComplete = true) (occasions : List Occasion) :
    Event.publications (h.undergo occasions).events = [] := by
  induction occasions generalizing h with
  | nil => rfl
  | cons occasion occasions ih =>
    rw [publications_undergo_cons, published?_of_isComplete hc,
      ih (isComplete_meet_of_isComplete hc occasion)]
    rfl

/-- After the earlier occasions, this one publishes the session. -/
structure PublishedOn (h : Handshake) (occasions before : List Occasion) (first : Occasion)
    (session : Session) : Prop where
  within : ∃ after, occasions = before ++ first :: after
  published : (h.undergo before).state.published? first.operation = some session

/-- An incomplete handshake stays so and publishes nothing, or is complete in the end and
    has published one session, on the occasion that completed it. -/
theorem publications_undergo (hc : h.isComplete = false) (occasions : List Occasion) :
    let lived := h.undergo occasions
    (lived.state.isComplete = false ∧ Event.publications lived.events = []) ∨
      (lived.state.isComplete = true ∧ ∃ before first session,
        h.PublishedOn occasions before first session ∧
          Event.publications lived.events =
            announcement first.context first.shared.reported session) := by
  induction occasions generalizing h with
  | nil => exact Or.inl ⟨hc, rfl⟩
  | cons occasion occasions ih =>
    intro lived
    have hevents : Event.publications lived.events = _ :=
      publications_undergo_cons occasion occasions h
    have hflag : (h.meet occasion).state.1.isComplete =
        (h.published? occasion.operation).isSome := by
      rw [meet, isComplete_perform, hc, Bool.false_or]
    cases hp : h.published? occasion.operation with
    | some session =>
      -- This occasion publishes, so nothing after it does.
      rw [hp] at hflag hevents
      refine Or.inr ⟨isComplete_undergo hflag occasions, [], occasion, session, ?_, ?_⟩
      · exact ⟨⟨occasions, rfl⟩, hp⟩
      · rw [hevents, publications_of_isComplete hflag, List.append_nil]
        rfl
    | none =>
      rw [hp] at hflag hevents
      have hlater : Event.publications lived.events =
          Event.publications ((h.meet occasion).state.1.undergo occasions).events := hevents
      rcases ih hflag with ⟨hopen, hnothing⟩ | ⟨hdone, before, first, session, hon, hannounced⟩
      · exact Or.inl ⟨hopen, hlater.trans hnothing⟩
      · obtain ⟨⟨after, hsplit⟩, hpublished⟩ := hon
        refine Or.inr ⟨hdone, occasion :: before, first, session, ?_, hlater.trans hannounced⟩
        exact ⟨⟨after, by rw [hsplit]; rfl⟩, hpublished⟩

/-- Each of the two calls is made once if the handshake is complete in the end, else never. -/
theorem countP_undergo (hc : h.isComplete = false) (occasions : List Occasion) :
    let lived := h.undergo occasions
    (Event.calls lived.events).countP Call.isReport = lived.state.isComplete.toNat ∧
      (Event.calls lived.events).countP Call.isCompletion = lived.state.isComplete.toNat := by
  intro lived
  rw [Event.countP_isReport, Event.countP_isCompletion]
  rcases publications_undergo hc occasions with ⟨hopen, hnothing⟩ | ⟨hdone, _, _, _, -, hannounced⟩
  · rw [hnothing, hopen]
    exact ⟨rfl, rfl⟩
  · rw [hannounced, hdone]
    exact ⟨rfl, rfl⟩

end Handshake

/-! ## The flag from outside -/

namespace Pool

variable {pool : Pool} {handle : FlagHandle}

/-- A handle reads that its handshake is complete. -/
theorem isComplete_iff :
    pool.isComplete handle = true ↔
      ∃ client, pool.clients[handle.client]? = some client ∧
        client.handshake.isComplete = true := by
  unfold isComplete
  cases pool.clients[handle.client]? <;> simp

/-- Another handshake that is opened leaves the flags of the others. -/
theorem isComplete_insert (hc : pool.isComplete handle = true) (client : Client) :
    (pool.insert client).isComplete handle = true := by
  obtain ⟨held, hheld, hdone⟩ := isComplete_iff.1 hc
  have hbound : handle.client < pool.clients.length :=
    (List.getElem?_eq_some_iff.1 hheld).1
  refine isComplete_iff.2 ⟨held, ?_, hdone⟩
  exact (List.getElem?_append_left hbound).trans hheld

/-- A set flag stays set, whatever request is carried out. -/
theorem isComplete_step (server : Server) (managers : Nat → Manager) (request : Request)
    (hc : pool.isComplete handle = true) :
    (pool.step server managers request).state.isComplete handle = true := by
  cases request with
  | accept manager offer => exact isComplete_insert hc _
  | negotiate manager offer =>
    simp only [step, enrollNegotiated]
    split
    · exact isComplete_insert hc _
    · exact hc
  | operate index operation =>
    obtain ⟨held, hheld, hdone⟩ := isComplete_iff.1 hc
    simp only [step]
    split
    · exact hc
    · rename_i client hclient
      by_cases hi : index = handle.client
      · -- The handshake of the handle itself: its own operations keep the flag.
        subst hi
        obtain rfl : client = held := Option.some.inj (hclient.symm.trans hheld)
        have hbound : handle.client < pool.clients.length :=
          (List.getElem?_eq_some_iff.1 hheld).1
        refine isComplete_iff.2 ⟨_, List.getElem?_set_self hbound, ?_⟩
        rw [Handshake.isComplete_perform, hdone]
        rfl
      · exact isComplete_iff.2 ⟨held, (List.getElem?_set_ne hi).trans hheld, hdone⟩
  | renewRound round => exact hc

theorem isComplete_run (server : Server) (managers : Nat → Manager) (requests : List Request)
    (hc : pool.isComplete handle = true) :
    (pool.run server managers requests).state.isComplete handle = true := by
  induction requests generalizing pool with
  | nil => exact hc
  | cons request requests ih => exact ih (isComplete_step server managers request hc)

end Pool

/-! ## Published once -/

/-- The certificates that a credential presents: its own chain, or none if the exchange is
    anonymous or there is no credential at all. -/
inductive Presents : Option Credential → List Certificate → Prop
  | nothing : Presents none []
  | anonymous : Presents (some .anonymous) []
  | agreement (credential : AgreementCredential) :
      Presents (some (.agreement credential)) credential.chain
  | signer (credential : SignerCredential) :
      Presents (some (.signer credential)) credential.chain
  | decryptor (credential : DecryptorCredential) :
      Presents (some (.decryptor credential)) credential.chain

theorem presents_presentedChain (held : Option Credential) :
    Presents held (presentedChain held) := by
  cases held with
  | none => exact .nothing
  | some credential =>
    cases credential with
    | anonymous => exact .anonymous
    | agreement credential => exact .agreement credential
    | signer credential => exact .signer credential
    | decryptor credential => exact .decryptor credential

namespace Handshake

variable {h : Handshake}

/-- A completion that succeeds leaves the handshake complete. -/
theorem isComplete_of_complete_ok {occasion : Occasion} {parameters : SessionParameters}
    {answer : Answer} (ho : occasion.operation = .complete parameters)
    (ha : (h.meet occasion).answer = .ok answer) :
    (h.meet occasion).state.1.isComplete = true := by
  have ht := h.transition_meet occasion
  rw [ho, ha] at ht
  generalize (h.meet occasion).state.1 = k at ht
  cases ht with
  | alreadyComplete hc => exact hc
  | completed => rfl

/-- Of these occasions, this is the first on which a completion succeeds. -/
structure FirstCompletion (h : Handshake) (occasions before : List Occasion) (first : Occasion)
    (parameters : SessionParameters) : Prop where
  within : ∃ after, occasions = before ++ first :: after
  completes : first.operation = .complete parameters
  succeeds : ((h.undergo before).state.meet first).answer = .ok .done
  earlierFail : ∀ earlier call later attempted, before = earlier ++ call :: later →
    call.operation = .complete attempted →
    ∃ failure, ((h.undergo earlier).state.meet call).answer = .error failure

/-- The occasion that publishes is that of the first completion that succeeds. -/
theorem PublishedOn.firstCompletion {occasions before : List Occasion} {first : Occasion}
    {session : Session} (hp : h.PublishedOn occasions before first session) :
    ∃ parameters version suite, let met := (h.undergo before).state
      h.FirstCompletion occasions before first parameters ∧ met.isComplete = false ∧
        met.version = some version ∧ met.suite = some suite ∧
        session = met.session parameters version suite := by
  obtain ⟨parameters, version, suite, ho, hc, hv, hs, hsession⟩ :=
    (published?_eq_some_iff ..).1 hp.published
  refine ⟨parameters, version, suite, ?_, hc, hv, hs, hsession⟩
  refine ⟨hp.within, ho, ?_, ?_⟩
  · exact (meet_of_complete_ready ho hc hv hs).1
  · -- Had an earlier one succeeded, the handshake would be complete by now.
    rintro earlier call later attempted rfl hcall
    cases ha : ((h.undergo earlier).state.meet call).answer with
    | error failure => exact ⟨failure, rfl⟩
    | ok answer =>
      have hdone := isComplete_undergo (isComplete_of_complete_ok hcall ha) later
      have hsame : (h.undergo (earlier ++ call :: later)).state =
          (((h.undergo earlier).state.meet call).state.1.undergo later).state := by
        rw [undergo_append]
        rfl
      rw [hsame, hdone] at hc
      cases hc

/-- No negotiation completes its handshake. -/
theorem isComplete_of_opens {server : Server} {manager : Manager} {offer : Offer}
    (ho : server.Opens manager offer h) : h.isComplete = false := by
  obtain ⟨steps, hsteps, rfl⟩ := undergo_of_opens manager h ho
  have hnone : ∀ occasion ∈ steps.map fun step =>
      (⟨server.context, manager, .fresh, step⟩ : Occasion),
      ∀ parameters, occasion.operation ≠ .complete parameters := by
    intro occasion hm parameters
    obtain ⟨step, hstep, rfl⟩ := List.mem_map.1 hm
    rcases hsteps with rfl | rfl
    · cases hstep
    · simp only [negotiationSteps, List.mem_cons, List.not_mem_nil, or_false] at hstep
      rcases hstep with rfl | rfl | rfl | rfl <;> simp
  refine undergo_invariant (P := fun k => k.isComplete = false) ?_ hnone rfl
  intro k occasion hne hk
  rw [meet, isComplete_perform, hk, published?_of_ne_complete hne]
  rfl

/-- Publishing happens once, with what the handshake holds when a completion first succeeds.

    The calls to the session cache and to the manager are as many as the flag says: one each
    if the handshake is complete, else none.  If it is, all that was published is the
    session of the first completion that succeeded, with the chain that the credential held
    then presents, and what the cache handed back for it.  The flag stays set, for the
    handshake and for every handle on it.  Of the completions that follow, those without a
    version or a suite fail with `internal_error` and change nothing, the first of the others
    completes the handshake, and all after it answer that they succeeded without calling
    anyone. -/
theorem published_once {server : Server} {manager : Manager} {offer : Offer} {h : Handshake}
    (ho : server.Opens manager offer h) (occasions : List Occasion) :
    let lived := h.undergo occasions
    ((Event.calls lived.events).countP Call.isReport = lived.state.isComplete.toNat ∧
      (Event.calls lived.events).countP Call.isCompletion = lived.state.isComplete.toNat) ∧
    (lived.state.isComplete = true → ∃ before first parameters version suite chain,
      let met := (h.undergo before).state
      let session : Session := ⟨parameters.id, version, suite, chain, met.peerCertificates,
        parameters.masterSecret⟩
      h.FirstCompletion occasions before first parameters ∧
        met.version = some version ∧ met.suite = some suite ∧ Presents met.credential chain ∧
        Event.publications lived.events = [.reportSession session,
          .handshakeComplete
            (first.context.sessionCache.report first.shared.reported session)]) ∧
    ((lived.state.isComplete = true →
        ∀ later, (lived.state.undergo later).state.isComplete = true) ∧
      ∀ (pool : Pool) (managers : Nat → Manager) (requests : List Request)
        (handle : FlagHandle), pool.isComplete handle = true →
          (pool.run server managers requests).state.isComplete handle = true) ∧
    ∀ call parameters, call.operation = .complete parameters →
      let called := lived.state.meet call
      (lived.state.version = none ∨ lived.state.suite = none → ∃ cause,
        called = ⟨.error (.fatal cause), (lived.state, call.shared), []⟩ ∧
          cause.alert = .internalError) ∧
      (lived.state.version ≠ none ∧ lived.state.suite ≠ none →
        lived.state.isComplete = false →
          called.answer = .ok .done ∧
            called.state.1 = { lived.state with completion := ⟨true⟩ }) ∧
      (lived.state.isComplete = true →
        called.answer = .ok .done ∧ called.state = (lived.state, call.shared) ∧
          Event.calls called.events = []) := by
  intro lived
  have hopen : h.isComplete = false := isComplete_of_opens ho
  have hfinished : lived.state.Finished := by
    refine negotiated_of_isComplete occasions ?_
    intro hc
    rw [hopen] at hc
    cases hc
  refine ⟨countP_undergo hopen occasions, ?_, ⟨isComplete_undergo, ?_⟩, ?_⟩
  · intro hc
    rcases publications_undergo hopen occasions with ⟨hopened, -⟩ | ⟨-, before, first, session,
      hon, hannounced⟩
    · rw [hc] at hopened
      cases hopened
    · obtain ⟨parameters, version, suite, hfirst, -, hv, hs, rfl⟩ := hon.firstCompletion
      exact ⟨before, first, parameters, version, suite, _, hfirst, hv, hs,
        presents_presentedChain _, hannounced⟩
  · intro pool managers requests handle hc
    exact pool.isComplete_run server managers requests hc
  · intro call parameters hcall called
    refine ⟨?_, ?_, meet_of_complete_again hcall⟩
    · intro hn
      refine meet_of_complete_unready hcall ?_ hn
      -- A complete handshake would have both.
      rw [Bool.eq_false_iff]
      intro hdone
      obtain ⟨hv, hs⟩ := hfinished hdone
      exact hn.elim hv hs
    · rintro ⟨hv, hs⟩ hc
      obtain ⟨version, hv⟩ := Option.ne_none_iff_exists'.1 hv
      obtain ⟨suite, hs⟩ := Option.ne_none_iff_exists'.1 hs
      exact meet_of_complete_ready hcall hc hv hs

/-- A completion comes too early, and fails; of the two after the negotiation the first
    publishes, and the session has the chain of the RSA identity. -/
theorem published_once_after_early_completion :
    let context := Context.plain [.rsaWithAes128CbcSha] [.rsa]
    let h := (Server.accept (.plain [.rsaWithAes128CbcSha])).state
    let steps : List Operation :=
      [.complete ⟨[1], [2]⟩] ++ negotiationSteps ++ [.complete ⟨[3], [4]⟩, .complete ⟨[5], [6]⟩]
    let occasions : List Occasion := steps.map fun step => ⟨context, .refusing [], .fresh, step⟩
    let early : Occasion := ⟨context, .refusing [], .fresh, .complete ⟨[1], [2]⟩⟩
    (Event.calls (h.undergo occasions).events).countP Call.isReport = 1 ∧
      (∃ before first parameters session,
        h.FirstCompletion occasions before first parameters ∧ parameters.id = [3] ∧
          Event.sessions (h.undergo occasions).events = [session] ∧
          Presents (h.undergo before).state.credential session.localCertificates ∧
          session.localCertificates = Identity.plainRsa.chain) ∧
      ∃ cause, h.meet early = ⟨.error (.fatal cause), (h, .fresh), []⟩ ∧
        cause.alert = .internalError := by
  intro context h steps occasions early
  have ho : Server.Opens ⟨context⟩ (.refusing []) (.plain [.rsaWithAes128CbcSha]) h := .accepted
  have hc : (h.undergo occasions).state.isComplete = true := by decide +kernel
  obtain ⟨⟨hreports, -⟩, hfirst, -, -⟩ := published_once ho occasions
  obtain ⟨-, -, -, hcalls⟩ := published_once ho []
  rw [hc] at hreports
  refine ⟨hreports, ?_, (hcalls early ⟨[1], [2]⟩ rfl).1 (Or.inl rfl)⟩
  obtain ⟨before, first, parameters, version, suite, chain, hcompletion, -, -, hpresents,
    hpublished⟩ := hfirst hc
  have hsessions : Event.sessions (h.undergo occasions).events = [⟨parameters.id, version, suite,
      chain, (h.undergo before).state.peerCertificates, parameters.masterSecret⟩] := by
    rw [Event.sessions_eq_publications, hpublished]
    rfl
  -- The reported session has the identifier of the parameters and the chain of the credential,
  -- and here both can be read.
  have hread : (Event.sessions (h.undergo occasions).events).map
      (fun session => (session.id, session.localCertificates)) =
        [([3], Identity.plainRsa.chain)] := by
    decide +kernel
  rw [hsessions] at hread
  obtain ⟨hid, hchain⟩ := Prod.mk.inj (List.cons.inj hread).1
  exact ⟨before, first, parameters, _, hcompletion, hid, hsessions, hpresents, hchain⟩

end Handshake

end TlsHandshake
