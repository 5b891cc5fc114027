/-
  TlsHandshake.Proofs.Negotiation.AliasQueries

  How often a key store is asked for an alias in one round.

  A round remembers misses only.  A type for which there is nothing is therefore asked
  for once, however many suites share it, but a type that can be served is asked for
  again with every suite of it.

    * `aliasQueries_resolve` — what one suite costs;
    * `queriesFor` — what a number of suites of a type costs from a round on;
    * `aliasQueries_resolveAll` — the number of queries that a sequence of suites costs;
    * `queriesFor_le_one_iff` — when that is at most one.
-/

import TlsHandshake.Proofs.Negotiation.RoundMemory

namespace TlsHandshake

/-- How often the key store was asked for an alias of the type. -/
def Event.aliasQueries (auth : AuthType) (events : List Event) : Nat :=
  (Event.calls events).count (.chooseAlias auth)

@[simp] theorem Event.aliasQueries_nil (auth : AuthType) : Event.aliasQueries auth [] = 0 := rfl

@[simp] theorem Event.aliasQueries_append (auth : AuthType) (earlier later : List Event) :
    Event.aliasQueries auth (earlier ++ later) =
      Event.aliasQueries auth earlier + Event.aliasQueries auth later := by
  simp [Event.aliasQueries]

/-- The key store serves the suite by this type. -/
def CipherSuite.isOfType (auth : AuthType) (suite : CipherSuite) : Bool :=
  suite.keyExchange = .certified auth

namespace Resolver

variable (resolver : Resolver) (auth : AuthType)

/-! ## One suite -/

theorem aliasQueries_query (store : KeyStore) (other : AuthType) (round : Round) :
    Event.aliasQueries auth (query store other round).events = if other = auth then 1 else 0 := by
  unfold query fetch
  split
  · by_cases h : other = auth <;> simp [Event.aliasQueries, h]
  · split <;> by_cases h : other = auth <;>
      simp [Event.aliasQueries, h]

theorem aliasQueries_credentialFrom (other : AuthType) (identity : Identity) (round : Round) :
    Event.aliasQueries auth (resolver.credentialFrom other identity round).events = 0 := by
  rw [credentialFrom_eq]
  by_cases hl : resolver.lacksScheme other = true
  · rw [if_pos hl]
    rfl
  · have hc := resolver.makingCall_ne_chooseAlias other auth identity
    rw [if_neg hl, made_events]
    simp [Event.aliasQueries, hc]

/-- Asking for a type is one query for it and none for the others. -/
theorem aliasQueries_equip_query (store : KeyStore) (other : AuthType) (round : Round) :
    Event.aliasQueries auth (resolver.equip other (query store other round)).events =
      if other = auth then 1 else 0 := by
  rw [← aliasQueries_query auth store other round]
  unfold equip
  cases (query store other round).answer with
  | none => rfl
  | some identity => simp [aliasQueries_credentialFrom]

theorem aliasQueries_resolve_of_keyStore_none (hs : resolver.keyStore = none)
    (suite : CipherSuite) (round : Round) :
    Event.aliasQueries auth (resolver.resolve suite round).events = 0 := by
  cases hk : suite.keyExchange with
  | anonymousDh | anonymousEcdh | unsupported => simp [resolve, hk, Event.aliasQueries]
  | certified other =>
    rw [resolve_of_keyStore_none hk hs]
    rfl

/-- A suite costs a query exactly if it is of the type and the type is not recorded. -/
theorem aliasQueries_resolve {store : KeyStore} (hs : resolver.keyStore = some store)
    (suite : CipherSuite) (round : Round) :
    Event.aliasQueries auth (resolver.resolve suite round).events =
      if suite.isOfType auth && !round.misses.contains auth then 1 else 0 := by
  cases hk : suite.keyExchange with
  | anonymousDh | anonymousEcdh | unsupported =>
    simp [resolve, hk, Event.aliasQueries, CipherSuite.isOfType]
  | certified other =>
    have htype : suite.isOfType auth = decide (other = auth) := by
      simp [CipherSuite.isOfType, hk]
    by_cases hm : other ∈ round.misses
    · -- Nobody is asked, and if the type is this one it is recorded.
      rw [resolve_of_mem hk hm, htype]
      by_cases ho : other = auth
      · subst ho
        simp [hm]
      · simp [ho]
    · rw [resolve_eq_equip_query hk hs hm, aliasQueries_equip_query, htype]
      by_cases ho : other = auth
      · subst ho
        simp [hm]
      · simp [ho]

/-! ## A sequence of suites -/

/-- What a number of suites of the type costs from this round on: nothing if the type is
    recorded, one query if it is about to be, and else one query each. -/
def queriesFor (round : Round) (suites : Nat) : Nat :=
  match resolver.keyStore with
  | none => 0
  | some store =>
    if round.misses.contains auth then 0
    else if resolver.lacks store auth then min suites 1 else suites

/-- The first suite costs its query and leaves a round in which the others cost the rest. -/
theorem queriesFor_resolve (suite : CipherSuite) (round : Round) (suites : Nat) :
    Event.aliasQueries auth (resolver.resolve suite round).events +
        resolver.queriesFor auth (resolver.resolve suite round).state suites =
      resolver.queriesFor auth round (suites + if suite.isOfType auth then 1 else 0) := by
  unfold queriesFor
  cases hs : resolver.keyStore with
  | none => simp [aliasQueries_resolve_of_keyStore_none, hs]
  | some store =>
    have hcost := resolver.aliasQueries_resolve auth hs suite round
    have hrecorded : (resolver.resolve suite round).state.misses.contains auth =
        (round.misses.contains auth || (suite.isOfType auth && resolver.lacks store auth)) := by
      rw [Bool.eq_iff_iff]
      simpa [CipherSuite.isOfType] using mem_misses_resolve hs
    simp only [hcost, hrecorded]
    cases round.misses.contains auth with
    | true => simp
    | false =>
      cases suite.isOfType auth with
      | false => simp
      | true =>
        -- The first suite of the type pays for all if it records a miss, else for itself.
        cases resolver.lacks store auth with
        | true =>
          show 1 + 0 = min (suites + 1) 1
          omega
        | false =>
          show 1 + suites = suites + 1
          omega

/-- The number of queries for a type depends on the number of its suites alone. -/
theorem aliasQueries_resolveAll (suites : List CipherSuite) (round : Round) :
    Event.aliasQueries auth (resolver.resolveAll suites round).events =
      resolver.queriesFor auth round (suites.countP (CipherSuite.isOfType auth)) := by
  -- Each suite leaves a round in which the rest costs what is left of the whole.
  induction suites generalizing round with
  | nil =>
    unfold queriesFor
    cases resolver.keyStore <;> simp [resolveAll]
  | cons suite suites ih =>
    rw [List.countP_cons, ← queriesFor_resolve, ← ih]
    simp [resolveAll]

/-- There is a key store, and it has something to serve the type with. -/
def Serves : Prop := ∃ store, resolver.keyStore = some store ∧ resolver.lacks store auth = false

/-- Suites cost at most one query, unless the type can be served and there are several. -/
theorem queriesFor_le_one_iff (round : Round) (suites : Nat) :
    resolver.queriesFor auth round suites ≤ 1 ↔
      auth ∈ round.misses ∨ ¬ resolver.Serves auth ∨ suites ≤ 1 := by
  unfold queriesFor Serves
  cases hs : resolver.keyStore with
  | none => simp
  | some store =>
    by_cases hm : auth ∈ round.misses
    · simp [hm]
    · have hc : round.misses.contains auth = false :=
        Bool.eq_false_iff.2 (mt (MissCache.contains_iff ..).1 hm)
      cases hl : resolver.lacks store auth with
      | true =>
        have hnot : ¬ ∃ held, some store = some held ∧ resolver.lacks held auth = false := by
          rintro ⟨held, ⟨⟩, hserved⟩
          rw [hl] at hserved
          cases hserved
        refine ⟨fun _ => Or.inr (Or.inl hnot), fun _ => ?_⟩
        simp only [hc, hl, if_true]
        show min suites 1 ≤ 1
        omega
      | false => simp [hm, hl]

end Resolver

end TlsHandshake
