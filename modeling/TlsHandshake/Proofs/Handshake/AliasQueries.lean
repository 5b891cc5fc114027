/-
  TlsHandshake.Proofs.Handshake.AliasQueries

  How often a selection asks the key store for an alias.

  A selection tries its candidates up to the one that decides it, all in one round, so it
  costs what these suites cost when they are resolved one after the other.

    * `Resolver.tried` — the suites that a selection tries;
    * `aliasQueries_selectedCipherSuite` — the number of queries that they cost;
    * `asked_once_iff` — when a type is asked for at most once.
-/

import TlsHandshake.Proofs.Handshake.Search
import TlsHandshake.Proofs.Negotiation.AliasQueries

namespace TlsHandshake

namespace Resolver

variable (resolver : Resolver)

/-! ## The suites that a search tries -/

/-- The candidates up to the one that decides the search, or all of them. -/
def tried (manager : Manager) : List CipherSuite → List CipherSuite
  | [] => []
  | suite :: suites =>
    match resolver.judge manager suite with
    | .ok none => suite :: tried manager suites
    | .ok (some _) | .error _ => [suite]

end Resolver

namespace Handshake

variable (context : Context) (manager : Manager) {version : Version} {h : Handshake}
  {round : Round}

/-! ## A selection -/

/-- A suite that is tried costs what it costs to resolve it. -/
theorem aliasQueries_selectCipherSuite (auth : AuthType) (hv : h.version = some version)
    (suite : CipherSuite) :
    let resolved := (h.resolver context version).resolve suite round
    let tried := h.selectCipherSuite context manager suite round
    Event.aliasQueries auth tried.events = Event.aliasQueries auth resolved.events ∧
      tried.state.2 = resolved.state := by
  intro resolved tried
  have htried : tried = consult manager suite version (h.adopt resolved) := by
    simp [tried, resolved, selectCipherSuite, selectCredentials, hv]
  rw [htried]
  rcases ha : resolved.answer with failure | (_ | credential)
  · simp [consult, adopt, ha]
  · simp [consult, adopt, ha]
  · -- The manager is asked as well, which is no query.
    cases hm : manager.accepts suite version with
    | true => simp [consult, adopt, ha, hm, Outcome.thenDo, Event.aliasQueries]
    | false => simp [consult, adopt, ha, hm, Event.aliasQueries]

/-- A search in a round with sound records costs what its tried suites cost. -/
theorem aliasQueries_firstUsable (auth : AuthType) (hv : h.version = some version)
    (hr : (h.resolver context version).Sound round) (suites : List CipherSuite) :
    Event.aliasQueries auth (firstUsable context manager suites round h).events =
      Event.aliasQueries auth ((h.resolver context version).resolveAll
        ((h.resolver context version).tried manager suites) round).events := by
  induction suites generalizing h round with
  | nil => rfl
  | cons suite suites ih =>
    obtain ⟨-, -, hsound⟩ := selectCipherSuite_of_sound manager hv hr suite
    obtain ⟨hcost, hround⟩ :
        Event.aliasQueries auth (h.selectCipherSuite context manager suite round).events =
            Event.aliasQueries auth ((h.resolver context version).resolve suite round).events ∧
          (h.selectCipherSuite context manager suite round).state.2 =
            ((h.resolver context version).resolve suite round).state :=
      aliasQueries_selectCipherSuite context manager auth hv suite
    rcases hj : (h.resolver context version).judge manager suite with
      failure | (_ | credential)
    · rw [firstUsable_cons_of_error manager hv hr hj]
      simp [Resolver.tried, hj, Resolver.resolveAll, hcost]
    · -- The rest is searched in the round that this suite leaves.
      have hrest := @ih (h.withCredential none) _ hv hsound
      rw [hround] at hrest
      rw [firstUsable_cons_of_none manager hv hr hj]
      simpa [Resolver.tried, hj, Resolver.resolveAll, hcost, hround] using hrest
    · rw [firstUsable_cons_of_some manager hv hr hj]
      simp [Resolver.tried, hj, Resolver.resolveAll, hcost]

theorem aliasQueries_conclude (auth : AuthType)
    (search : Attempt (Handshake × Round) (Option CipherSuite)) :
    Event.aliasQueries auth (conclude search).events =
      Event.aliasQueries auth search.events := by
  unfold conclude
  rcases hs : search.answer with failure | (_ | suite)
  · rw [Outcome.andThen_of_error hs]
    rfl
  · rw [Outcome.andThen_of_ok hs]
    simp [Outcome.mapState, Outcome.withState, Event.aliasQueries]
  · rw [Outcome.andThen_of_ok hs]
    simp [Outcome.mapState, Outcome.withState, Event.aliasQueries]

/-- The number of queries of a selection is that of the suites it tries. -/
theorem aliasQueries_selectedCipherSuite (auth : AuthType) (hv : h.version = some version) :
    let resolver := h.resolver context version
    Event.aliasQueries auth (h.selectedCipherSuite context manager).events =
      resolver.queriesFor auth .fresh
        ((resolver.tried manager (h.candidates context version)).countP
          (CipherSuite.isOfType auth)) := by
  intro resolver
  have hsearch := aliasQueries_firstUsable context manager auth hv Resolver.sound_fresh
    (h.candidates context version)
  rw [← Resolver.aliasQueries_resolveAll, ← hsearch]
  simp only [selectedCipherSuite, hv]
  exact aliasQueries_conclude auth _

/-- A key store is asked for a type at most once in these cases only: the type is recorded
    already, there is nothing to serve it with, or a single suite of the type is resolved.
    A type that can be served is asked for with each of its suites, also within one
    selection, where the manager's refusals decide how many are tried. -/
theorem asked_once_iff (auth : AuthType) :
    (∀ (resolver : Resolver) (suites : List CipherSuite) (round : Round),
      Event.aliasQueries auth (resolver.resolveAll suites round).events ≤ 1 ↔
        auth ∈ round.misses ∨ ¬ resolver.Serves auth ∨
          suites.countP (CipherSuite.isOfType auth) ≤ 1) ∧
    (∀ (context : Context) (manager : Manager) (h : Handshake) (version : Version),
      h.version = some version →
        (Event.aliasQueries auth (h.selectedCipherSuite context manager).events ≤ 1 ↔
          ¬ (h.resolver context version).Serves auth ∨
            ((h.resolver context version).tried manager
              (h.candidates context version)).countP (CipherSuite.isOfType auth) ≤ 1)) := by
  constructor
  · intro resolver suites round
    rw [resolver.aliasQueries_resolveAll]
    exact resolver.queriesFor_le_one_iff auth round _
  · intro context manager h version hv
    rw [aliasQueries_selectedCipherSuite context manager auth hv,
      Resolver.queriesFor_le_one_iff]
    have hfresh : auth ∉ Round.fresh.misses := MissCache.not_mem_empty auth
    simp only [hfresh, false_or]

/-- The second suite is not tried after the first is selected, so one query is enough. -/
theorem asked_once_if_first_is_selected :
    let suites := [.ecdheRsaWithAes128GcmSha256, .ecdheRsaWithAes128CbcSha]
    let h := { start (.plain suites) with version := some .tls12 }
    h.version = some .tls12 ∧
      Event.aliasQueries .ecdheRsa
        (h.selectedCipherSuite (.plain suites [.ecdheRsa]) (.refusing [])).events ≤ 1 := by
  intro suites h
  exact ⟨rfl, ((asked_once_iff .ecdheRsa).2 (.plain suites [.ecdheRsa]) (.refusing []) h
    .tls12 rfl).2 (Or.inr (by decide))⟩

/-- Two suites of one type that can be served cost two queries, one after the other in one
    round as well as in a selection whose manager refuses the first. -/
theorem asked_twice_for_served_type :
    let suites := [.ecdheRsaWithAes128GcmSha256, .ecdheRsaWithAes128CbcSha]
    let context := Context.plain suites [.ecdheRsa]
    let h := { start (.plain suites) with version := some .tls12 }
    ¬ Event.aliasQueries .ecdheRsa
        ((h.resolver context .tls12).resolveAll suites .fresh).events ≤ 1 ∧
      ¬ Event.aliasQueries .ecdheRsa
        (h.selectedCipherSuite context (.refusing [.ecdheRsaWithAes128GcmSha256])).events ≤ 1 := by
  decide

end Handshake

end TlsHandshake
