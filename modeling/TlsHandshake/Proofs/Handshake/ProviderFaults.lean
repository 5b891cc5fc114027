/-
  TlsHandshake.Proofs.Handshake.ProviderFaults

  A failure of the provider is never swallowed, and never made up.

  A provider is called to make credentials, and only these calls can fail at it
  (`Provider.fault?`).  The steps of a negotiation answer for it (`Outcome.Accounts`): a step
  ends with the first failure of the provider, so that at most one call failed, and a step
  that ends otherwise has met none.  None of them logs an alert of its own.

    * `Outcome.Accounts.andThen` — going on keeps it;
    * `credentialFrom_accounts` — the only step that calls the provider;
    * `firstUsable_accounts` — a search through all candidates;
    * `agree_accounts` — the whole negotiation.
-/

import TlsHandshake.Proofs.Negotiation.RoundMemory
import TlsHandshake.Server.Negotiation

namespace TlsHandshake

/-! ## Failures of a provider and alerts, among events -/

/-- The failure that a provider answers with, if it does. -/
def ProviderError.ofAnswer? {α : Type} : Except ProviderError α → Option ProviderError
  | .ok _ => none
  | .error error => some error

theorem ProviderError.ofAnswer?_map {α β : Type} (answer : Except ProviderError α) (f : α → β) :
    ofAnswer? (answer.map f) = ofAnswer? answer := by
  cases answer <;> rfl

/-- The failure of a provider behind a failure of the server, if there is one. -/
def Failure.provider? : Failure → Option ProviderError
  | .provider error => some error
  | .fatal _ | .invalidConfig _ => none

namespace Provider

variable (provider : Provider)

/-- How the provider fails a call, if it is one that makes a credential and fails. -/
def fault? : Call → Option ProviderError
  | .makeAgreement identity =>
    ProviderError.ofAnswer? (provider.agreement identity.chain identity.key)
  | .makeSigner identity scheme =>
    ProviderError.ofAnswer? (provider.signer identity.chain identity.key scheme)
  | .makeDecryptor identity =>
    ProviderError.ofAnswer? (provider.decryptor identity.chain identity.key)
  | _ => none

/-- The failures of the provider in the calls among some events, in order. -/
def faults (events : List Event) : List ProviderError :=
  (Event.calls events).filterMap provider.fault?

@[simp] theorem faults_append (earlier later : List Event) :
    provider.faults (earlier ++ later) = provider.faults earlier ++ provider.faults later := by
  simp [faults]

theorem mem_faults_iff (events : List Event) (error : ProviderError) :
    error ∈ provider.faults events ↔
      ∃ call ∈ Event.calls events, provider.fault? call = some error := List.mem_filterMap

end Provider

/-- The notice is about an alert. -/
def Notice.isAlert : Notice → Bool
  | .alertRaised _ _ _ | .alertReceived _ => true
  | _ => false

/-- The notices of alerts among some events, in order. -/
def Event.alerts (events : List Event) : List Notice := (notices events).filter Notice.isAlert

@[simp] theorem Event.alerts_append (earlier later : List Event) :
    alerts (earlier ++ later) = alerts earlier ++ alerts later := by
  simp [alerts]

/-! ## Attempts that answer for the provider -/

namespace Outcome

variable {σ τ α β : Type} {provider : Provider}

/-- The failure of the provider that an attempt ends with, if it does. -/
def fault? (attempt : Attempt σ α) : Option ProviderError :=
  match attempt.answer with
  | .ok _ => none
  | .error failure => failure.provider?

theorem fault?_of_ok {attempt : Attempt σ α} {answer : α} (ha : attempt.answer = .ok answer) :
    attempt.fault? = none := by
  simp [fault?, ha]

theorem fault?_of_error {attempt : Attempt σ α} {failure : Failure}
    (ha : attempt.answer = .error failure) : attempt.fault? = failure.provider? := by
  simp [fault?, ha]

theorem fault?_eq_some_iff (attempt : Attempt σ α) (error : ProviderError) :
    attempt.fault? = some error ↔ attempt.answer = .error (.provider error) := by
  cases ha : attempt.answer with
  | ok answer => simp [fault?_of_ok ha]
  | error failure =>
    rw [fault?_of_error ha]
    cases failure <;> simp [Failure.provider?]

/-- The failures of the provider are the one that the attempt ends with, and no alert is
    logged on the way. -/
structure Accounts (provider : Provider) (attempt : Attempt σ α) : Prop where
  faults : provider.faults attempt.events = attempt.fault?.toList
  quiet : Event.alerts attempt.events = []

/-- The provider fails a call exactly if the attempt ends with that failure. -/
theorem Accounts.failed_iff {attempt : Attempt σ α} (ha : Accounts provider attempt)
    (error : ProviderError) :
    (∃ call ∈ Event.calls attempt.events, provider.fault? call = some error) ↔
      attempt.answer = .error (.provider error) := by
  rw [← Provider.mem_faults_iff, ha.faults, Option.mem_toList, fault?_eq_some_iff]

/-- Only the events and a failure of the provider count. -/
theorem Accounts.of_eq {attempt : Attempt σ α} {other : Attempt τ β}
    (ha : Accounts provider attempt) (he : other.events = attempt.events)
    (hf : other.fault? = attempt.fault?) : Accounts provider other where
  faults := by rw [he, hf, ha.faults]
  quiet := by rw [he, ha.quiet]

theorem Accounts.mapState {attempt : Attempt σ α} (ha : Accounts provider attempt)
    (f : σ → τ) : Accounts provider (attempt.mapState f) := ha.of_eq rfl rfl

/-- Events before which nothing failed and no alert was logged. -/
theorem Accounts.after {attempt : Attempt σ α} {earlier : List Event}
    (ha : Accounts provider attempt) (hf : provider.faults earlier = [])
    (hq : Event.alerts earlier = []) : Accounts provider (attempt.after earlier) where
  faults := by
    rw [after_events, Provider.faults_append, hf, ha.faults]
    rfl
  quiet := by
    rw [after_events, Event.alerts_append, hq, ha.quiet]
    rfl

/-- Whatever comes next, it is only reached if the provider has not failed so far. -/
theorem Accounts.andThen {attempt : Attempt σ α} {next : α → σ → Attempt σ β}
    (hfirst : Accounts provider attempt)
    (hnext : ∀ answer state, Accounts provider (next answer state)) :
    Accounts provider (attempt.andThen next) := by
  rcases ha : attempt.answer with failure | answer
  · rw [andThen_of_error ha]
    exact hfirst.of_eq rfl (fault?_of_error ha).symm
  · have hclean : provider.faults attempt.events = [] := by
      rw [hfirst.faults, fault?_of_ok ha]
      rfl
    rw [andThen_of_ok ha]
    exact (hnext answer attempt.state).after hclean hfirst.quiet

end Outcome

open Outcome (Accounts)

/-! ## Finding a credential -/

namespace Resolver

variable (resolver : Resolver)

/-- The key store is not the provider. -/
theorem lookup_faultless (auth : AuthType) (round : Round) :
    resolver.provider.faults (resolver.lookup auth round).events = [] ∧
      Event.alerts (resolver.lookup auth round).events = [] := by
  unfold lookup query fetch
  split
  · exact ⟨rfl, rfl⟩
  · split
    · exact ⟨rfl, rfl⟩
    · split
      · exact ⟨rfl, rfl⟩
      · split <;> exact ⟨rfl, rfl⟩

/-- The call that makes a credential fails as making it does. -/
theorem fault?_makingCall (auth : AuthType) (identity : Identity) :
    resolver.provider.fault? (resolver.makingCall auth identity) =
      ProviderError.ofAnswer? (resolver.making auth identity) := by
  unfold makingCall making
  cases auth.keyUse <;> exact (ProviderError.ofAnswer?_map ..).symm

theorem made_accounts {provider : Provider} {call : Call}
    {result : Except ProviderError Credential}
    (hf : provider.fault? call = ProviderError.ofAnswer? result) (round : Round) :
    Accounts provider (made round call result) where
  faults := by
    have hone : provider.faults [.call call] = (provider.fault? call).toList := by
      show List.filterMap provider.fault? [call] = _
      cases hc : provider.fault? call <;> simp [hc]
    rw [made_events, hone, hf]
    cases result <;> rfl
  quiet := by
    rw [made_events]
    rfl

theorem credentialFrom_accounts (auth : AuthType) (identity : Identity) (round : Round) :
    Accounts resolver.provider (resolver.credentialFrom auth identity round) := by
  rw [credentialFrom_eq]
  by_cases hl : resolver.lacksScheme auth = true
  · rw [if_pos hl]
    exact ⟨rfl, rfl⟩
  · rw [if_neg hl]
    exact made_accounts (resolver.fault?_makingCall auth identity) round

theorem resolve_accounts (suite : CipherSuite) (round : Round) :
    Accounts resolver.provider (resolver.resolve suite round) := by
  cases hk : suite.keyExchange with
  | anonymousDh | anonymousEcdh | unsupported =>
    simp only [resolve, hk]
    exact ⟨rfl, rfl⟩
  | certified auth =>
    obtain ⟨hfaults, hquiet⟩ := resolver.lookup_faultless auth round
    simp only [resolve, hk, equip]
    -- The provider is called only for an identity that was found.
    cases (resolver.lookup auth round).answer with
    | none => exact ⟨hfaults, hquiet⟩
    | some identity => exact (resolver.credentialFrom_accounts auth identity _).after hfaults hquiet

end Resolver

/-! ## The steps of a negotiation -/

namespace Handshake

variable (context : Context) (manager : Manager) (h : Handshake)

theorem selectCredentials_accounts (suite : CipherSuite) (round : Round) :
    Accounts context.provider (h.selectCredentials context suite round) := by
  unfold selectCredentials
  split
  · exact ⟨rfl, rfl⟩
  · rename_i version _
    have hresolve := (h.resolver context version).resolve_accounts suite round
    -- The handshake adopts what was found; events and failure are those of the search.
    refine hresolve.of_eq (adopt_events ..) ?_
    unfold adopt
    split
    · rename_i ha
      rw [Outcome.fault?_of_error ha]
      rfl
    · rename_i ha
      rw [Outcome.fault?_of_ok ha]
      rfl

/-- The manager is not the provider either. -/
theorem consult_accounts {suite : CipherSuite} {version : Version}
    {found : Attempt (Handshake × Round) Bool} (hf : Accounts context.provider found) :
    Accounts context.provider (consult manager suite version found) := by
  unfold consult
  split
  · -- The manager is asked only after a success, so the provider has not failed.
    rename_i ha
    have hclean : context.provider.faults found.events = [] := by
      rw [hf.faults, Outcome.fault?_of_ok ha]
      rfl
    have hfaults : context.provider.faults
        (found.events ++ [.call (.acceptsSuite suite version)]) = [] := by
      rw [Provider.faults_append, hclean]
      rfl
    have hquiet : Event.alerts (found.events ++ [.call (.acceptsSuite suite version)]) = [] := by
      rw [Event.alerts_append, hf.quiet]
      rfl
    split
    · have hnone : (found.thenDo (.call (.acceptsSuite suite version))).fault? = none :=
        Outcome.fault?_of_ok ha
      refine ⟨hfaults.trans ?_, hquiet⟩
      rw [hnone]
      rfl
    · exact ⟨hfaults, hquiet⟩
  · exact hf
  · exact hf

theorem selectCipherSuite_accounts (suite : CipherSuite) (round : Round) :
    Accounts context.provider (h.selectCipherSuite context manager suite round) := by
  unfold selectCipherSuite
  split
  · exact selectCredentials_accounts context h suite round
  · exact consult_accounts context manager (selectCredentials_accounts context h suite round)

theorem firstUsable_accounts (suites : List CipherSuite) (round : Round) :
    Accounts context.provider (firstUsable context manager suites round h) := by
  induction suites generalizing h round with
  | nil => exact ⟨rfl, rfl⟩
  | cons suite suites ih =>
    refine (selectCipherSuite_accounts context manager h suite round).andThen ?_
    intro usable reached
    cases usable with
    | true => exact ⟨rfl, rfl⟩
    | false => exact ih reached.1 reached.2

theorem conclude_accounts {search : Attempt (Handshake × Round) (Option CipherSuite)}
    (hs : Accounts context.provider search) : Accounts context.provider (conclude search) := by
  refine (hs.andThen ?_).mapState Prod.fst
  intro found reached
  cases found <;> exact ⟨rfl, rfl⟩

theorem selectedCipherSuite_accounts :
    Accounts context.provider (h.selectedCipherSuite context manager) := by
  unfold selectedCipherSuite
  split
  · exact ⟨rfl, rfl⟩
  · exact conclude_accounts context (firstUsable_accounts context manager h _ .fresh)

theorem serverVersion_accounts : Accounts context.provider (h.serverVersion context) := by
  unfold serverVersion adoptVersion negotiateVersion
  split
  · exact ⟨rfl, rfl⟩
  · cases selectVersion? context.config.protocols h.offer.version <;> exact ⟨rfl, rfl⟩

theorem ecdhCurve_accounts : Accounts context.provider (h.ecdhCurve context) := by
  unfold ecdhCurve
  split
  · exact ⟨rfl, rfl⟩
  · split
    · split <;> exact ⟨rfl, rfl⟩
    · exact ⟨rfl, rfl⟩

theorem certificateRequest_accounts :
    Accounts context.provider (h.certificateRequest context) := by
  unfold certificateRequest adoptRequest CertificateRequest.build CertificateRequest.askIssuers
  split
  · exact ⟨rfl, rfl⟩
  · split
    · split <;> exact ⟨rfl, rfl⟩
    · exact ⟨rfl, rfl⟩

/-- A whole negotiation answers for the provider. -/
theorem agree_accounts : Accounts context.provider (h.agree context manager) := by
  refine (serverVersion_accounts context h).andThen fun version h => ?_
  refine (selectedCipherSuite_accounts context manager h).andThen fun suite h => ?_
  refine (ecdhCurve_accounts context h).andThen fun curve h => ?_
  refine (certificateRequest_accounts context h).andThen fun request h => ?_
  exact ⟨rfl, rfl⟩

end Handshake

end TlsHandshake
