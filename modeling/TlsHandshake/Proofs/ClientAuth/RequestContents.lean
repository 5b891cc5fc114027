/-
  TlsHandshake.Proofs.ClientAuth.RequestContents

  What a certificate request says, and when a handshake has one.

  A request repeats what the collaborators answer.  Its schemes are the provider's, in the order
  of the registry, and its authorities are the subjects of the accepted issuers, one for one.
  Nothing of the handshake enters but the version, and a version that is fixed stays: however
  often a handshake is asked, it answers with the same request.

  Before there is a version the request fails and leaves no trace.  No request can have been made
  by then, so that the client has not been asked, and a certificate is unexpected.

    * `CertificateRequest.Mirrors` — the request repeats the provider and the trust store;
    * `CertificateRequest.build_mirrors` — every request that is built does;
    * `Handshake.certificateRequest_undergo` — a handshake with a version always answers the same;
    * `Handshake.version_ne_none_of_requested` — who was asked was asked at some version;
    * `Handshake.certificateRequest_mirrors_collaborators` — all of it.
-/

import Mathlib.Data.List.Forall2
import TlsHandshake.Proofs.Handshake.CertificateMessage
import TlsHandshake.Proofs.Handshake.Stability
import TlsHandshake.Proofs.Plain

namespace TlsHandshake

theorem Version.hasSignatureSchemes_iff (version : Version) :
    version.hasSignatureSchemes = true ↔ version ∈ [.tls12, .tls13, .dtls12, .dtls13] := by
  cases version <;> decide

/-- A policy asks for client authentication unless it neither needs nor wants it. -/
theorem Config.requestsClientAuth_eq_false_iff (config : Config) :
    config.requestsClientAuth = false ↔
      config.needClientAuth = false ∧ config.wantClientAuth = false := by
  rw [requestsClientAuth, Bool.or_eq_false_iff]

/-! ## What a request says -/

namespace CertificateRequest

/-- The schemes are the supported ones, each once, in the order of the registry. -/
structure MirrorsSchemes (provider : Provider) (schemes : List SignatureScheme) : Prop where
  sublist : schemes.Sublist SignatureScheme.all
  nodup : schemes.Nodup
  supported : ∀ scheme, scheme ∈ schemes ↔ provider.supportsScheme scheme = true

/-- The request repeats what the provider supports and whom the trust store accepts. -/
structure Mirrors (version : Version) (provider : Provider) (trustStore : Option TrustStore)
    (request : CertificateRequest) : Prop where
  /-- Schemes are listed in the versions that have the extension. -/
  listed : (∃ schemes, request.schemes = some schemes) ↔
    version ∈ [.tls12, .tls13, .dtls12, .dtls13]
  schemes : ∀ schemes, request.schemes = some schemes → MirrorsSchemes provider schemes
  /-- Each authority belongs to the issuer in the same place. -/
  authorities : ∀ store, trustStore = some store →
    List.Forall₂ (fun authority issuer => authority = Certificate.subject issuer)
      request.authorities store.acceptedIssuers
  nobody : trustStore = none → request.authorities = []

variable {config : Config} {version : Version} {provider : Provider}
  {trustStore : Option TrustStore} {request : CertificateRequest}

theorem mirrorsSchemes_schemes (provider : Provider) :
    MirrorsSchemes provider provider.schemes where
  sublist := List.filter_sublist
  nodup := SignatureScheme.nodup_all.filter _
  supported := provider.mem_schemes_iff

theorem schemesAt_eq_some_iff {schemes : List SignatureScheme} :
    schemesAt version provider = some schemes ↔
      version.hasSignatureSchemes = true ∧ provider.schemes = schemes := by
  simp [schemesAt]

theorem forall₂_authoritiesOf (issuers : List Certificate) :
    List.Forall₂ (fun authority issuer => authority = Certificate.subject issuer)
      (authoritiesOf issuers) issuers := by
  rw [authoritiesOf, List.forall₂_map_left_iff, List.forall₂_same]
  intro issuer _
  rfl

theorem build_eq_some_iff :
    (build config version provider trustStore).answer = some request ↔
      config.requestsClientAuth = true ∧
        ⟨ClientCertificateType.all, schemesAt version provider,
          authoritiesOf (askIssuers trustStore).answer⟩ = request := by
  unfold build
  split
  · rename_i hr
    simp [Outcome.map, hr]
  · rename_i hr
    simp [hr]

/-- Who is not asked for a certificate is not asked by any call either. -/
theorem build_of_not_requested (hr : config.requestsClientAuth = false) :
    build config version provider trustStore = ⟨none, (), []⟩ := by
  simp [build, hr]

theorem build_eq_none_iff :
    (build config version provider trustStore).answer = none ↔
      config.requestsClientAuth = false := by
  rw [← Option.not_isSome_iff_eq_none, build_isSome_iff, Bool.not_eq_true]

/-- Every request that is built repeats the provider and the trust store. -/
theorem build_mirrors (hb : (build config version provider trustStore).answer = some request) :
    request.Mirrors version provider trustStore := by
  obtain ⟨-, rfl⟩ := build_eq_some_iff.1 hb
  refine ⟨?_, ?_, ?_, ?_⟩
  · rw [← Version.hasSignatureSchemes_iff]
    simp [schemesAt_eq_some_iff]
  · intro schemes hs
    obtain ⟨-, rfl⟩ := schemesAt_eq_some_iff.1 hs
    exact mirrorsSchemes_schemes provider
  · rintro store rfl
    exact forall₂_authoritiesOf store.acceptedIssuers
  · rintro rfl
    rfl

/-- The issuers leave no choice of authorities. -/
theorem Mirrors.authorities_eq_map (hm : request.Mirrors version provider trustStore)
    {store : TrustStore} (hs : trustStore = some store) :
    request.authorities = store.acceptedIssuers.map Certificate.subject := by
  rw [← List.forall₂_eq_eq_eq, List.forall₂_map_right_iff]
  exact hm.authorities store hs

/-- A request asks for every type that there is. -/
theorem mem_types_of_build
    (hb : (build config version provider trustStore).answer = some request)
    (type : ClientCertificateType) : type ∈ request.types := by
  obtain ⟨-, rfl⟩ := build_eq_some_iff.1 hb
  exact type.mem_all

end CertificateRequest

namespace ClientAuthentication

/-- The verdict is not that the leaf's key cannot authenticate. -/
def PassesTypeCheck (leaf : Certificate) (verdict : Attempt Unit ClientAuthentication) : Prop :=
  verdict.answer ≠ .error (.fatal (.certificateKeyUnusable leaf.keyType))

/-- A leaf passes only if its key has a type. -/
theorem exists_type_of_passesTypeCheck {config : Config} {trustStore : Option TrustStore}
    {leaf : Certificate} {rest : List Certificate}
    (hp : PassesTypeCheck leaf (verify config trustStore (leaf :: rest))) :
    ∃ type, ClientCertificateType.ofKeyType? leaf.keyType = some type := by
  cases ht : ClientCertificateType.ofKeyType? leaf.keyType with
  | some type => exact ⟨type, rfl⟩
  | none => exact absurd (by simp [verify, ht]) hp

end ClientAuthentication

/-! ## When a handshake has one -/

namespace Handshake

variable {context : Context} {h : Handshake} {version : Version}

theorem certificateRequest_of_none (hv : h.version = none) :
    h.certificateRequest context = ⟨.error (.fatal .versionNotNegotiated), h, []⟩ := by
  simp only [certificateRequest, hv]

theorem certificateRequest_answer_of_some (hv : h.version = some version) :
    (h.certificateRequest context).answer =
      .ok (CertificateRequest.build context.config version context.provider
        context.trustStore).answer := by
  simp only [certificateRequest, hv]
  rfl

/-- Whatever happens to a handshake with a version, it answers with the same request. -/
theorem certificateRequest_undergo (hv : h.version = some version) (later : List Occasion) :
    ((h.undergo later).state.certificateRequest context).answer =
      .ok (CertificateRequest.build context.config version context.provider
        context.trustStore).answer :=
  certificateRequest_answer_of_some (version_undergo hv later)

/-- A request is made at some version. -/
theorem version_ne_none_of_asks {occasion : Occasion}
    (ha : Asks occasion.operation (h.meet occasion).answer) : h.version ≠ none := by
  intro hv
  obtain ⟨ho, request, hanswer⟩ := ha
  rw [meet_eq_perform ho, perform, certificateRequest_of_none hv] at hanswer
  cases hanswer

/-- A client that was asked for a certificate was asked at some version, which stays. -/
theorem version_ne_none_of_requested (offer : Offer) (occasions : List Occasion)
    (hr : ((start offer).undergo occasions).state.certificateRequested = true) :
    ((start offer).undergo occasions).state.version ≠ none := by
  refine undergo_invariant (Q := fun _ => True)
    (P := fun k => k.certificateRequested = true → k.version ≠ none) ?_ (fun _ _ => trivial)
    (fun hup => by cases hup) hr
  intro k occasion _ hk hup
  have ht := k.transition_meet occasion
  have hbefore : k.version ≠ none := by
    rcases ht.certificateRequested_iff.1 hup with hearlier | hasks
    · exact hk hearlier
    · exact version_ne_none_of_asks hasks
  obtain ⟨version, hv⟩ := Option.ne_none_iff_exists'.1 hbefore
  exact Option.ne_none_iff_exists'.2 ⟨version, ht.version_stays hv⟩

/-- A client that has not been asked, and is not asked later, cannot show a certificate. -/
theorem clientCertificate_of_unasked (hr : h.certificateRequested = false)
    {later : List Occasion} (hl : ¬ h.AskedOn later) (surroundings : Context)
    (chain : List Certificate) :
    ((h.undergo later).state.clientCertificate surroundings chain).FailsWith
      .unexpectedMessage := by
  refine (reading_clientCertificate ..).unexpectedMessage_iff.2 ?_
  rw [← Bool.not_eq_true, certificateRequested_undergo_iff, hr]
  rintro (hup | hasked)
  · cases hup
  · exact hl hasked

/-! ## All of it -/

/-- The certificate request of any server, whatever its policy and its collaborators, at any
    version.

    There is none exactly if the policy neither needs nor wants client authentication, and then
    nobody is called.  One that is built repeats the collaborators: its schemes are those that
    the provider supports, listed from TLS 1.2 and DTLS 1.2 on, and its authorities are the
    subjects of the accepted issuers.  A leaf whose key is not refused for its type, by this
    server or any other, has a type that the request asks for.

    A handshake with this version answers with this request, now and after anything that can
    happen to it.  One without a version fails with `internal_error` and is left as it was: until
    a request is made, every certificate is unexpected. -/
theorem certificateRequest_mirrors_collaborators (context : Context) (version : Version) :
    let config := context.config
    let built := CertificateRequest.build config version context.provider context.trustStore
    (built.answer = none ↔ config.needClientAuth = false ∧ config.wantClientAuth = false) ∧
    (built.answer = none → Event.calls built.events = []) ∧
    (∀ request, built.answer = some request →
      request.Mirrors version context.provider context.trustStore ∧
      ∀ policy trustStore leaf rest, ClientAuthentication.PassesTypeCheck leaf
          (ClientAuthentication.verify policy trustStore (leaf :: rest)) →
        ∃ type ∈ request.types, ClientCertificateType.ofKeyType? leaf.keyType = some type) ∧
    ∀ offer occasions,
      let h := ((start offer).undergo occasions).state
      let asked := h.certificateRequest context
      (h.version = some version →
        ∀ later, ((h.undergo later).state.certificateRequest context).answer =
          .ok built.answer) ∧
      (h.version = none → asked.FailsWith .internalError ∧ asked.state = h ∧
        ∀ later, ¬ asked.state.AskedOn later → ∀ surroundings chain,
          ((asked.state.undergo later).state.clientCertificate surroundings chain).FailsWith
            .unexpectedMessage) := by
  intro config built
  have hnone : built.answer = none ↔ config.requestsClientAuth = false :=
    CertificateRequest.build_eq_none_iff
  refine ⟨hnone.trans config.requestsClientAuth_eq_false_iff, ?_, ?_, ?_⟩
  · intro hb
    have hbuilt : built = ⟨none, (), []⟩ :=
      CertificateRequest.build_of_not_requested (hnone.1 hb)
    rw [hbuilt]
    rfl
  · intro request hb
    refine ⟨CertificateRequest.build_mirrors hb, ?_⟩
    intro policy trustStore leaf rest hp
    obtain ⟨type, ht⟩ := ClientAuthentication.exists_type_of_passesTypeCheck hp
    exact ⟨type, CertificateRequest.mem_types_of_build hb type, ht⟩
  · intro offer occasions h asked
    refine ⟨certificateRequest_undergo, ?_⟩
    intro hv
    have hasked : asked = ⟨.error (.fatal .versionNotNegotiated), h, []⟩ :=
      certificateRequest_of_none hv
    have hdown : h.certificateRequested = false := by
      rw [← Bool.not_eq_true]
      intro hr
      exact version_ne_none_of_requested offer occasions hr hv
    rw [hasked]
    refine ⟨Outcome.failsWith_fatal_iff.2 rfl, rfl, ?_⟩
    intro later hl surroundings chain
    exact clientCertificate_of_unasked hdown hl surroundings chain

/-- A server that wants client authentication and has two issuers of one name: after the version
    the request lists the name twice, an elliptic leaf is of a type it asks for, and asking before
    the version fails. -/
theorem certificateRequest_with_repeated_issuer :
    let issuer : Certificate := ⟨[0x50], ⟨[0x50]⟩, .rsa⟩
    let context : Context :=
      { Context.inviting [.rsaWithAes128CbcSha] with
        trustStore := some ⟨[issuer, issuer], fun _ _ => true⟩ }
    let offer := Offer.plain [.rsaWithAes128CbcSha]
    let occasions := [(⟨context, .refusing [], .fresh, .serverVersion⟩ : Occasion)]
    let leaf : Certificate := ⟨[0x51], ⟨[0x50]⟩, .ec⟩
    let h := ((start offer).undergo occasions).state
    (∃ request, (h.certificateRequest context).answer = .ok (some request) ∧
      request.Mirrors .tls12 context.provider context.trustStore ∧
      request.authorities = [⟨[0x50]⟩, ⟨[0x50]⟩] ∧
      ∃ type ∈ request.types, ClientCertificateType.ofKeyType? leaf.keyType = some type) ∧
    ((start offer).certificateRequest context).FailsWith .internalError := by
  intro issuer context offer occasions leaf h
  obtain ⟨hnone, -, hsome, hrun⟩ := certificateRequest_mirrors_collaborators context .tls12
  have hversion : h.version = some .tls12 := by decide +kernel
  obtain ⟨request, hb⟩ := Option.ne_none_iff_exists'.1 fun he => absurd (hnone.1 he) (by decide)
  obtain ⟨hmirrors, htypes⟩ := hsome request hb
  have hanswer := (hrun offer occasions).1 hversion []
  rw [hb] at hanswer
  have hpasses : ClientAuthentication.PassesTypeCheck leaf
      (ClientAuthentication.verify context.config context.trustStore [leaf]) := by
    intro he
    cases he
  have htype := htypes context.config context.trustStore leaf [] hpasses
  have hauthorities : request.authorities = [issuer, issuer].map Certificate.subject :=
    hmirrors.authorities_eq_map rfl
  exact ⟨⟨request, hanswer, hmirrors, hauthorities, htype⟩, ((hrun offer []).2 rfl).1⟩

end Handshake

end TlsHandshake
