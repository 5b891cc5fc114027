/-
  TlsHandshake.Proofs.Negotiation.Inquiry

  Whom the search for the credential of a suite calls, and in which order.

  Nobody is called for a suite that needs no certificate or cannot be served at all, nor for
  a type that has missed before.  For any other suite the key store is asked for an alias of
  the suite's type and, if it chooses one, for the key and the chain that it keeps under it.
  If these fit, and a signer has a scheme, the provider is called last, and what it answers
  is what the search answers.

    * `Resolver.Procures` — the calls by which a credential is had, or by which it fails;
    * `Resolver.Inquiry` — these, and the ways to end without a credential;
    * `Resolver.inquiry_resolve` — every search is one of them, in whatever round;
    * `Procures.serves`, `Inquiry.seeks`, `Inquiry.last_of_failed` — what holds of each.
-/

import TlsHandshake.Proofs.Negotiation.Construction

namespace TlsHandshake

/-- The call asks the manager about a suite. -/
def Call.isConsultation : Call → Bool
  | .acceptsSuite _ _ => true
  | _ => false

/-- Making a credential is not the manager's business. -/
theorem Call.Constructs.isConsultation {identity : Identity} {keyUse : KeyUse} {call : Call}
    (hc : call.Constructs identity keyUse) : call.isConsultation = false := by
  cases hc <;> rfl

/-- What a key store is asked for a type: an alias and, if it chooses one, what it keeps
    under it. -/
def KeyStore.questions (store : KeyStore) (auth : AuthType) : List Call :=
  .chooseAlias auth :: (store.chooseAlias auth).elim []
    fun keyAlias => [.privateKey keyAlias, .certificateChain keyAlias]

/-- A position in two lists one after the other is one in the first or one in the second. -/
theorem split_append {α : Type} {first second before after : List α} {x : α}
    (h : first ++ second = before ++ x :: after) :
    (∃ rest, first = before ++ x :: rest ∧ after = rest ++ second) ∨
      ∃ more, before = first ++ more ∧ second = more ++ x :: after := by
  rcases List.append_eq_append_iff.1 h with ⟨more, hbefore, hsecond⟩ | ⟨rest, hfirst, hafter⟩
  · exact Or.inr ⟨more, hbefore, hsecond⟩
  · cases rest with
    | nil =>
      -- The first list ends right before the position, which is the head of the second.
      rw [List.nil_append] at hafter
      rw [List.append_nil] at hfirst
      exact Or.inr ⟨[], by rw [hfirst, List.append_nil], hafter.symm⟩
    | cons y rest =>
      obtain ⟨rfl, rfl⟩ := List.cons_eq_cons.1 hafter
      exact Or.inl ⟨rest, hfirst, rfl⟩

/-- A position in a list that has one more element at its end is one in the list or that
    end. -/
theorem split_concat {α : Type} {first before after : List α} {last x : α}
    (h : first ++ [last] = before ++ x :: after) :
    (∃ rest, first = before ++ x :: rest) ∨ before = first ∧ x = last ∧ after = [] := by
  rcases split_append h with ⟨rest, hfirst, -⟩ | ⟨more, hbefore, hlast⟩
  · exact Or.inl ⟨rest, hfirst⟩
  · cases more with
    | nil =>
      obtain ⟨hx, hafter⟩ := List.cons_eq_cons.1 hlast
      rw [List.append_nil] at hbefore
      exact Or.inr ⟨hbefore, hx.symm, hafter.symm⟩
    | cons y more =>
      have hnone : [] = more ++ x :: after := (List.cons_eq_cons.1 hlast).2
      cases more <;> cases hnone

/-- What succeeds after a change of its result succeeded before it. -/
theorem exists_of_map_ok {ε α β : Type} {result : Except ε α} {f : α → β} {b : β}
    (h : result.map f = .ok b) : ∃ a, result = .ok a ∧ f a = b := by
  cases result with
  | error failure => cases h
  | ok a => exact ⟨a, rfl, Except.ok.inj h⟩

namespace Resolver

variable {resolver : Resolver} {suite : CipherSuite} {auth : AuthType} {store : KeyStore}
  {identity : Identity}

/-! ## Calls for a suite -/

/-- The call is one that serves to find the credential of the suite: a question to the key
    store about the suite's type or about the alias chosen for it, or an order to the provider
    of the kind that the type calls for. -/
inductive Seeks (resolver : Resolver) (suite : CipherSuite) : Call → Prop
  | naming {auth : AuthType} (hx : suite.keyExchange = .certified auth) :
      Seeks resolver suite (.chooseAlias auth)
  | key {auth : AuthType} {store : KeyStore} {keyAlias : String}
      (hx : suite.keyExchange = .certified auth) (hs : resolver.keyStore = some store)
      (ha : store.chooseAlias auth = some keyAlias) : Seeks resolver suite (.privateKey keyAlias)
  | chain {auth : AuthType} {store : KeyStore} {keyAlias : String}
      (hx : suite.keyExchange = .certified auth) (hs : resolver.keyStore = some store)
      (ha : store.chooseAlias auth = some keyAlias) :
      Seeks resolver suite (.certificateChain keyAlias)
  | construction {auth : AuthType} {identity : Identity} {call : Call}
      (hx : suite.keyExchange = .certified auth) (hk : call.Constructs identity auth.keyUse) :
      Seeks resolver suite call

/-- The manager has no part in it. -/
theorem Seeks.isConsultation {call : Call} (hc : resolver.Seeks suite call) :
    call.isConsultation = false := by
  cases hc with
  | naming | key | chain => rfl
  | construction _ hk => exact hk.isConsultation

/-- An alias is asked for only for the suite's own type. -/
theorem Seeks.keyExchange (hc : resolver.Seeks suite (.chooseAlias auth)) :
    suite.keyExchange = .certified auth := by
  cases hc with
  | naming hx => exact hx
  | construction _ hk => cases hk.isConstruction

theorem seeks_of_mem_questions (hx : suite.keyExchange = .certified auth)
    (hs : resolver.keyStore = some store) :
    ∀ call ∈ store.questions auth, resolver.Seeks suite call := by
  intro call hc
  rcases List.mem_cons.1 hc with rfl | hc
  · exact .naming hx
  · cases ha : store.chooseAlias auth with
    | none =>
      rw [ha] at hc
      cases hc
    | some keyAlias =>
      rw [ha] at hc
      rcases List.mem_cons.1 hc with rfl | hc
      · exact .key hx hs ha
      · rw [List.mem_singleton.1 hc]
        exact .chain hx hs ha

/-- The key store is not asked to make a credential. -/
theorem construct?_of_mem_questions (provider : Provider) :
    ∀ call ∈ store.questions auth, provider.construct? call = none := by
  intro call hc
  rcases List.mem_cons.1 hc with rfl | hc
  · rfl
  · cases ha : store.chooseAlias auth with
    | none =>
      rw [ha] at hc
      cases hc
    | some keyAlias =>
      rw [ha] at hc
      rcases List.mem_cons.1 hc with rfl | hc
      · rfl
      · rw [List.mem_singleton.1 hc]
        rfl

/-! ## How a credential is had -/

/-- The calls by which the credential of a suite is had, and what comes of them.  Nobody is
    called for an anonymous suite.  For a certified one the key store chooses an alias of the
    suite's type and hands out key and chain, which fit the type, and the provider is called
    with them. -/
inductive Procures (resolver : Resolver) (suite : CipherSuite) :
    List Call → Except ProviderError Credential → Prop
  | anonymous (hx : suite.keyExchange.isAnonymous = true) :
      Procures resolver suite [] (.ok .anonymous)
  | made {auth : AuthType} {store : KeyStore} {keyAlias : String} {identity : Identity}
      {call : Call} {result : Except ProviderError Credential}
      (hx : suite.keyExchange = .certified auth) (hs : resolver.keyStore = some store)
      (ha : store.chooseAlias auth = some keyAlias)
      (hf : store.fitting? auth keyAlias = some identity)
      (hk : call.Constructs identity auth.keyUse)
      (hm : resolver.provider.construct? call = some result) :
      Procures resolver suite
        [.chooseAlias auth, .privateKey keyAlias, .certificateChain keyAlias, call] result

/-- A credential that is had in this way is of the kind that the suite calls for. -/
theorem Procures.serves {calls : List Call} {credential : Credential}
    (hp : resolver.Procures suite calls (.ok credential)) :
    credential.serves suite.keyExchange = true := by
  cases hp with
  | anonymous hx => exact hx
  | @made auth store keyAlias identity call result hx hs ha hf hk hm =>
    rw [hx]
    -- The kind of the order is that of the credential, and both are what the key is used for.
    generalize hu : auth.keyUse = keyUse at hk
    cases hk with
    | agreement =>
      obtain ⟨made, -, rfl⟩ := exists_of_map_ok (Option.some.inj hm)
      simp [Credential.serves, hu]
    | signer =>
      obtain ⟨made, -, rfl⟩ := exists_of_map_ok (Option.some.inj hm)
      simp [Credential.serves, hu]
    | decryptor =>
      obtain ⟨made, -, rfl⟩ := exists_of_map_ok (Option.some.inj hm)
      simp [Credential.serves, hu]

/-- Whatever the provider answers, it is called last, after the questions to the key store. -/
theorem Procures.shape {calls : List Call} {result : Except ProviderError Credential}
    (hp : resolver.Procures suite calls result) :
    calls = [] ∧ result = .ok .anonymous ∨
      ∃ auth store identity call, suite.keyExchange = .certified auth ∧
        resolver.keyStore = some store ∧ call.Constructs identity auth.keyUse ∧
        resolver.provider.construct? call = some result ∧
        calls = store.questions auth ++ [call] := by
  cases hp with
  | anonymous => exact Or.inl ⟨rfl, rfl⟩
  | @made auth store keyAlias identity call result hx hs ha hf hk hm =>
    refine Or.inr ⟨auth, store, identity, call, hx, hs, hk, hm, ?_⟩
    rw [KeyStore.questions, ha]
    rfl

/-! ## How the search ends -/

/-- The calls of the search for a suite's credential, and its answer. -/
inductive Inquiry (resolver : Resolver) (suite : CipherSuite) :
    List Call → Except Failure (Option Credential) → Prop
  /-- The suite cannot be served, there is no key store, or the type has missed before. -/
  | idle : Inquiry resolver suite [] (.ok none)
  /-- The key store holds nothing that fits, or there is no scheme to sign with. -/
  | unserved {auth : AuthType} {store : KeyStore} (hx : suite.keyExchange = .certified auth)
      (hs : resolver.keyStore = some store) :
      Inquiry resolver suite (store.questions auth) (.ok none)
  | procured {calls : List Call} {credential : Credential}
      (hp : resolver.Procures suite calls (.ok credential)) :
      Inquiry resolver suite calls (.ok (some credential))
  | failed {calls : List Call} {error : ProviderError}
      (hp : resolver.Procures suite calls (.error error)) :
      Inquiry resolver suite calls (.error (.provider error))

/-- What is made from a fitting identity is the answer, unless a scheme is missing. -/
theorem inquiry_of_identity?_some (hx : suite.keyExchange = .certified auth)
    (hs : resolver.keyStore = some store) (hi : store.identity? auth = some identity)
    (round : Round) :
    let equipped := resolver.equip auth (query store auth round)
    resolver.Inquiry suite (Event.calls equipped.events) equipped.answer := by
  intro equipped
  have hequipped : equipped = (resolver.credentialFrom auth identity round.query).after
      (query store auth .fresh).events := equip_query_of_identity?_some resolver hi round
  have hasked : Event.calls (query store auth .fresh).events = store.questions auth :=
    calls_query store auth .fresh
  rw [hequipped, credentialFrom_eq, Outcome.after_answer, Outcome.after_events,
    Event.calls_append, hasked]
  by_cases hl : resolver.lacksScheme auth = true
  · rw [if_pos hl]
    show resolver.Inquiry suite (store.questions auth ++ []) (.ok none)
    rw [List.append_nil]
    exact .unserved hx hs
  · rw [if_neg hl, made_events]
    obtain ⟨keyAlias, ha, hf⟩ := Option.bind_eq_some_iff.1 hi
    have hprocured : resolver.Procures suite
        (store.questions auth ++ [resolver.makingCall auth identity])
        (resolver.making auth identity) := by
      rw [KeyStore.questions, ha]
      exact .made hx hs ha hf (resolver.constructs_makingCall auth identity)
        (resolver.construct?_makingCall auth identity)
    show resolver.Inquiry suite (store.questions auth ++ [resolver.makingCall auth identity]) _
    -- The answer is that of the provider.
    cases hm : resolver.making auth identity with
    | ok credential =>
      rw [hm] at hprocured
      exact .procured hprocured
    | error error =>
      rw [hm] at hprocured
      exact .failed hprocured

/-- Every search for a credential is such an inquiry, whatever the round has recorded. -/
theorem inquiry_resolve (resolver : Resolver) (suite : CipherSuite) (round : Round) :
    let resolved := resolver.resolve suite round
    resolver.Inquiry suite (Event.calls resolved.events) resolved.answer := by
  intro resolved
  cases hx : suite.keyExchange with
  | anonymousDh | anonymousEcdh =>
    have hanonymous : suite.keyExchange.isAnonymous = true := by
      rw [hx]
      rfl
    simp only [resolved, resolve, hx]
    exact .procured (.anonymous hanonymous)
  | unsupported =>
    simp only [resolved, resolve, hx]
    exact .idle
  | certified auth =>
    cases hs : resolver.keyStore with
    | none =>
      rw [show resolved = _ from resolve_of_keyStore_none hx hs]
      exact .idle
    | some store =>
      by_cases hm : auth ∈ round.misses
      · rw [show resolved = _ from resolve_of_mem hx hm]
        exact .idle
      · rw [show resolved = _ from resolve_eq_equip_query hx hs hm]
        cases hi : store.identity? auth with
        | none =>
          rw [query_of_identity?_none hi round]
          show resolver.Inquiry suite (Event.calls (query store auth .fresh).events) (.ok none)
          rw [show Event.calls (query store auth .fresh).events = store.questions auth from
            calls_query store auth .fresh]
          exact .unserved hx hs
        | some identity => exact inquiry_of_identity?_some hx hs hi round

section Inquiry

variable {calls : List Call} {answer : Except Failure (Option Credential)}

theorem Procures.seeks {result : Except ProviderError Credential}
    (hp : resolver.Procures suite calls result) : ∀ call ∈ calls, resolver.Seeks suite call := by
  rcases hp.shape with ⟨rfl, -⟩ | ⟨auth, store, identity, order, hx, hs, hk, -, rfl⟩
  · intro call hc
    cases hc
  · intro call hc
    rcases List.mem_append.1 hc with hc | hc
    · exact seeks_of_mem_questions hx hs call hc
    · rw [List.mem_singleton.1 hc]
      exact .construction hx hk

/-- A credential that is found was procured. -/
theorem Inquiry.procures {credential : Credential}
    (hi : resolver.Inquiry suite calls (.ok (some credential))) :
    resolver.Procures suite calls (.ok credential) := by
  cases hi with
  | procured hp => exact hp

/-- A search fails only with what the provider answers. -/
theorem Inquiry.procures_of_error {failure : Failure}
    (hi : resolver.Inquiry suite calls (.error failure)) :
    ∃ error, failure = .provider error ∧ resolver.Procures suite calls (.error error) := by
  cases hi with
  | failed hp => exact ⟨_, rfl, hp⟩

/-- Nobody is called but for the suite in question. -/
theorem Inquiry.seeks (hi : resolver.Inquiry suite calls answer) :
    ∀ call ∈ calls, resolver.Seeks suite call := by
  cases hi with
  | idle =>
    intro call hc
    cases hc
  | unserved hx hs => exact seeks_of_mem_questions hx hs
  | procured hp => exact hp.seeks
  | failed hp => exact hp.seeks

/-- An order that fails is the last call, and its error is the answer. -/
theorem Procures.last_of_failed {result : Except ProviderError Credential}
    (hp : resolver.Procures suite calls result) {before after : List Call} {call : Call}
    {error : ProviderError} (hsplit : calls = before ++ call :: after)
    (hc : resolver.provider.construct? call = some (.error error)) :
    after = [] ∧ result = .error error := by
  rcases hp.shape with ⟨rfl, -⟩ | ⟨auth, store, identity, order, -, -, -, hm, rfl⟩
  · exact absurd hsplit.symm (by simp)
  · rcases split_concat hsplit with ⟨rest, hasked⟩ | ⟨-, rfl, rfl⟩
    · -- A question to the key store is no order.
      have hmem : call ∈ store.questions auth := by
        rw [hasked]
        exact List.mem_append_cons_self
      rw [construct?_of_mem_questions resolver.provider call hmem] at hc
      cases hc
    · rw [hm] at hc
      exact ⟨rfl, Option.some.inj hc⟩

theorem Inquiry.last_of_failed (hi : resolver.Inquiry suite calls answer)
    {before after : List Call} {call : Call} {error : ProviderError}
    (hsplit : calls = before ++ call :: after)
    (hc : resolver.provider.construct? call = some (.error error)) :
    after = [] ∧ answer = .error (.provider error) := by
  cases hi with
  | idle => exact absurd hsplit.symm (by simp)
  | @unserved auth store hx hs =>
    have hmem : call ∈ store.questions auth := by
      rw [hsplit]
      exact List.mem_append_cons_self
    rw [construct?_of_mem_questions resolver.provider call hmem] at hc
    cases hc
  | procured hp =>
    obtain ⟨-, hresult⟩ := hp.last_of_failed hsplit hc
    cases hresult
  | failed hp =>
    obtain ⟨hafter, hresult⟩ := hp.last_of_failed hsplit hc
    obtain rfl := Except.error.inj hresult
    exact ⟨hafter, rfl⟩

end Inquiry

end Resolver

end TlsHandshake
