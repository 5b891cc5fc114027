/-
  TlsHandshake.Proofs.Policy.BuiltConfig

  A configuration that is built is sound, and is what the last settings make it.

  Settings are applied one after the other, each over the result of the earlier ones.  A field
  therefore holds what the last setting of its kind gave it.  The two fields on client
  authentication are of one kind: a setting on either writes both, so the last setting on either
  decides both, and at most one of them is ever true.

  What comes out is checked in a fixed order, and the first check that fails says what is wrong.
  A configuration that passes names some version, so there is a client for it.

    * `Config.lastOf` — what the last setting of a kind gives;
    * `Config.withLast` — the configuration that the last settings describe;
    * `Config.foldl_set_eq_withLast` — settings applied in turn leave just that;
    * `Config.Sound`, `Config.FirstFault` — what passes the checks, and the first one that fails;
    * `Config.built_config_follows_last_settings` — all sequences of settings.
-/

import TlsHandshake.Policy.Settings
import TlsHandshake.Proofs.Negotiation.VersionChoice

namespace TlsHandshake

/-! ## Kinds of settings -/

namespace Setting

/-- The protocols that a setting enables, by name or by version. -/
def protocols? : Setting → Option (List String)
  | .protocols names => some names
  | .versions enabled => some (enabled.map Version.name)
  | _ => none

/-- The suites that a setting enables. -/
def suites? : Setting → Option (List CipherSuite)
  | .suites enabled => some enabled
  | _ => none

/-- What a setting says on FIPS mode. -/
def fips? : Setting → Option Bool
  | .fips on => some on
  | _ => none

/-- What a setting says on restricted curves. -/
def restrictedCurves? : Setting → Option Bool
  | .restrictedCurves on => some on
  | _ => none

/-- What a setting says on client authentication: whether the server needs it, and whether it
    wants it. -/
def clientAuth? : Setting → Option (Bool × Bool)
  | .needClientAuth on => some (on, false)
  | .wantClientAuth on => some (false, on)
  | _ => none

/-- The compression methods that a setting enables. -/
def compression? : Setting → Option (List CompressionMethod)
  | .compression methods => some methods
  | _ => none

end Setting

namespace Config

variable {config : Config} {settings : List Setting}

/-! ## The last setting of a kind -/

section LastOf

variable {α : Type} {kind : Setting → Option α}

/-- What the last setting of a kind gives, or the default if there is none of the kind. -/
def lastOf (kind : Setting → Option α) (default : α) (settings : List Setting) : α :=
  (settings.filterMap kind).getLast?.getD default

/-- The first setting of all only replaces the default. -/
theorem lastOf_cons (kind : Setting → Option α) (default : α) (setting : Setting)
    (settings : List Setting) :
    lastOf kind default (setting :: settings) =
      lastOf kind ((kind setting).getD default) settings := by
  cases hk : kind setting with
  | none => rw [lastOf, List.filterMap_cons_none hk, Option.getD_none, lastOf]
  | some value =>
    rw [lastOf, List.filterMap_cons_some hk, List.getLast?_cons, Option.getD_some,
      Option.getD_some, lastOf]

/-- A setting of the kind that none of the kind comes after is the last. -/
theorem lastOf_split (default : α) (before : List Setting) {setting : Setting} {value : α}
    (hk : kind setting = some value) {after : List Setting}
    (hafter : ∀ later ∈ after, kind later = none) :
    lastOf kind default (before ++ setting :: after) = value := by
  have hrest : after.filterMap kind = [] := List.filterMap_eq_nil_iff.2 hafter
  rw [lastOf, List.filterMap_append, List.filterMap_cons_some hk, hrest, List.getLast?_concat,
    Option.getD_some]

/-- It is the default, or some setting gives it. -/
theorem lastOf_eq_or_mem (kind : Setting → Option α) (default : α) (settings : List Setting) :
    lastOf kind default settings = default ∨
      ∃ setting ∈ settings, kind setting = some (lastOf kind default settings) := by
  cases hl : (settings.filterMap kind).getLast? with
  | none => exact Or.inl (by rw [lastOf, hl, Option.getD_none])
  | some value =>
    obtain ⟨setting, hm, hk⟩ := List.mem_filterMap.1 (List.mem_of_getLast? hl)
    exact Or.inr ⟨setting, hm, by rw [lastOf, hl, Option.getD_some, hk]⟩

end LastOf

/-- The configuration with each field as the last setting of its kind gives it, if there is one
    of the kind. -/
def withLast (config : Config) (settings : List Setting) : Config where
  protocols := lastOf Setting.protocols? config.protocols settings
  suites := lastOf Setting.suites? config.suites settings
  fips := lastOf Setting.fips? config.fips settings
  restrictedCurves := lastOf Setting.restrictedCurves? config.restrictedCurves settings
  needClientAuth :=
    (lastOf Setting.clientAuth? (config.needClientAuth, config.wantClientAuth) settings).1
  wantClientAuth :=
    (lastOf Setting.clientAuth? (config.needClientAuth, config.wantClientAuth) settings).2
  compression := lastOf Setting.compression? config.compression settings

/-- Settings applied in turn leave what the last of each kind gives. -/
theorem foldl_set_eq_withLast (settings : List Setting) (config : Config) :
    settings.foldl set config = config.withLast settings := by
  -- The induction is from the first setting on, so that it is the default that changes.
  induction settings generalizing config with
  | nil => rfl
  | cons setting settings ih =>
    rw [List.foldl_cons, ih]
    simp only [withLast, lastOf_cons]
    -- A setting replaces the default of the fields of its kind, and no other.
    cases setting <;> rfl

/-- The server never both needs client authentication and wants it. -/
theorem not_need_and_want (settings : List Setting) :
    let config := withLast {} settings
    ¬ (config.needClientAuth = true ∧ config.wantClientAuth = true) := by
  intro config hboth
  have hpair : lastOf Setting.clientAuth? (false, false) settings = (true, true) :=
    Prod.ext hboth.1 hboth.2
  rcases lastOf_eq_or_mem Setting.clientAuth? (false, false) settings with
    hdefault | ⟨setting, -, hk⟩
  · rw [hpair] at hdefault
    cases hdefault
  · -- No setting gives both.
    rw [hpair] at hk
    cases setting <;> cases hk

/-- The last setting on client authentication decides both, and so whether clients are asked for
    a certificate. -/
theorem clientAuth_withLast (before : List Setting) {setting : Setting} {need want : Bool}
    (hs : setting.clientAuth? = some (need, want)) {after : List Setting}
    (hafter : ∀ later ∈ after, later.clientAuth? = none) :
    let config := withLast {} (before ++ setting :: after)
    config.needClientAuth = need ∧ config.wantClientAuth = want ∧
      config.requestsClientAuth = (need || want) := by
  intro config
  have hpair := lastOf_split (false, false) before hs hafter
  have hneed : config.needClientAuth = need := congrArg Prod.fst hpair
  have hwant : config.wantClientAuth = want := congrArg Prod.snd hpair
  exact ⟨hneed, hwant, by rw [requestsClientAuth, hneed, hwant]⟩

/-! ## What is checked -/

/-- The configuration enables a protocol, knows all that it enables, enables a suite, and keeps
    null compression. -/
structure Sound (config : Config) : Prop where
  someProtocol : config.protocols ≠ []
  known : ∀ name ∈ config.protocols, ∃ version : Version, version.name = name
  someSuite : config.suites ≠ []
  nullCompression : .null ∈ config.compression

/-- The fault is what the first of the checks finds that fails. -/
inductive FirstFault (config : Config) : ConfigFault → Prop
  | noProtocols (hp : config.protocols = []) : FirstFault config .noProtocols
  /-- No name before this one is unknown. -/
  | unknownProtocol {before after : List String} {name : String}
      (hsplit : config.protocols = before ++ name :: after)
      (hbefore : ∀ earlier ∈ before, ∃ version : Version, version.name = earlier)
      (hname : ∀ version : Version, version.name ≠ name) :
      FirstFault config (.unknownProtocol name)
  | noSuites (hp : config.protocols ≠ [])
      (hk : ∀ name ∈ config.protocols, ∃ version : Version, version.name = name)
      (hs : config.suites = []) : FirstFault config .noSuites
  | nullCompressionMissing (hp : config.protocols ≠ [])
      (hk : ∀ name ∈ config.protocols, ∃ version : Version, version.name = name)
      (hs : config.suites ≠ []) (hc : .null ∉ config.compression) :
      FirstFault config .nullCompressionMissing

theorem fault?_eq_none_iff_sound : config.fault? = none ↔ config.Sound := by
  rw [fault?_eq_none_iff]
  simp only [Version.ofName?_isSome_iff]
  constructor
  · rintro ⟨hp, hk, hs, hc⟩
    exact ⟨hp, hk, hs, hc⟩
  · rintro ⟨hp, hk, hs, hc⟩
    exact ⟨hp, hk, hs, hc⟩

/-- The search for an unknown name finds the first one. -/
theorem find?_unknown_eq_some_iff {names : List String} {name : String} :
    names.find? (fun name => (Version.ofName? name).isNone) = some name ↔
      ∃ before after, names = before ++ name :: after ∧
        (∀ earlier ∈ before, ∃ version : Version, version.name = earlier) ∧
        ∀ version : Version, version.name ≠ name := by
  rw [List.find?_eq_some_iff_append]
  simp only [← Version.ofName?_isSome_iff, ← not_exists, ← Option.not_isSome, Bool.not_not,
    Bool.not_eq_true']
  constructor
  · rintro ⟨hname, before, after, hsplit, hbefore⟩
    exact ⟨before, after, hsplit, hbefore, by simp [hname]⟩
  · rintro ⟨before, after, hsplit, hbefore, hname⟩
    exact ⟨by simpa using hname, before, after, hsplit, hbefore⟩

/-- It finds none if all names are known. -/
theorem find?_unknown_eq_none_iff {names : List String} :
    names.find? (fun name => (Version.ofName? name).isNone) = none ↔
      ∀ name ∈ names, ∃ version : Version, version.name = name := by
  rw [List.find?_eq_none]
  simp only [← Version.ofName?_isSome_iff, ← Option.not_isSome, Bool.not_eq_true',
    Bool.not_eq_false]

theorem fault?_of_firstFault {fault : ConfigFault} (hf : config.FirstFault fault) :
    config.fault? = some fault := by
  cases hf with
  | noProtocols hp => simp [fault?, hp]
  | unknownProtocol hsplit hbefore hname =>
    have hsome : config.protocols.isEmpty = false := by simp [hsplit]
    have hu := find?_unknown_eq_some_iff.2 ⟨_, _, hsplit, hbefore, hname⟩
    simp [fault?, hsome, hu]
  | noSuites hp hk hs =>
    have hu := find?_unknown_eq_none_iff.2 hk
    simp [fault?, hp, hu, hs]
  | nullCompressionMissing hp hk hs hc =>
    have hu := find?_unknown_eq_none_iff.2 hk
    simp [fault?, hp, hu, hs, hc]

/-- A configuration that fails a check fails a first one. -/
theorem sound_or_firstFault (config : Config) :
    config.Sound ∨ ∃ fault, config.FirstFault fault := by
  by_cases hp : config.protocols = []
  · exact Or.inr ⟨_, .noProtocols hp⟩
  cases hu : config.protocols.find? fun name => (Version.ofName? name).isNone with
  | some unknown =>
    obtain ⟨before, after, hsplit, hbefore, hname⟩ := find?_unknown_eq_some_iff.1 hu
    exact Or.inr ⟨_, .unknownProtocol hsplit hbefore hname⟩
  | none =>
    have hk := find?_unknown_eq_none_iff.1 hu
    by_cases hs : config.suites = []
    · exact Or.inr ⟨_, .noSuites hp hk hs⟩
    by_cases hc : .null ∈ config.compression
    · exact Or.inl ⟨hp, hk, hs, hc⟩
    · exact Or.inr ⟨_, .nullCompressionMissing hp hk hs hc⟩

theorem fault?_eq_some_iff {fault : ConfigFault} :
    config.fault? = some fault ↔ config.FirstFault fault := by
  constructor
  · intro h
    rcases config.sound_or_firstFault with hsound | ⟨first, hfirst⟩
    · rw [fault?_eq_none_iff_sound.2 hsound] at h
      cases h
    · rw [fault?_of_firstFault hfirst] at h
      cases h
      exact hfirst
  · exact fault?_of_firstFault

/-- A sound configuration names some version, and a client of that version gets it. -/
theorem Sound.exists_client (hs : config.Sound) :
    ∃ client, (negotiateVersion config.protocols client).answer = .ok client := by
  obtain ⟨name, hm⟩ := List.exists_mem_of_ne_nil _ hs.someProtocol
  obtain ⟨version, rfl⟩ := hs.known name hm
  have hselected : selectVersion? config.protocols version = some version :=
    selectVersion?_eq_some_iff.2 ⟨hm, Version.atLeast_refl version, fun _ _ hbelow => hbelow⟩
  refine ⟨version, ?_⟩
  rw [negotiateVersion_answer, hselected]
  rfl

/-! ## What is built -/

/-- Building answers what the last settings describe, or refuses its first fault. -/
theorem build_eq (settings : List Setting) :
    (build settings).mapError Failure.invalidConfig =
      (withLast {} settings).fault?.elim (.ok (withLast {} settings))
        (fun fault => .error (.invalidConfig fault)) := by
  rw [build, ofSettings, foldl_set_eq_withLast, validate]
  cases (withLast {} settings).fault? <;> rfl

theorem build_eq_ok_iff :
    (build settings).mapError Failure.invalidConfig = .ok config ↔
      config = withLast {} settings ∧ config.Sound := by
  rw [build_eq, ← fault?_eq_none_iff_sound]
  constructor
  · intro h
    cases hf : (withLast {} settings).fault? with
    | none =>
      rw [hf] at h
      cases h
      exact ⟨rfl, hf⟩
    | some fault =>
      rw [hf] at h
      cases h
  · rintro ⟨rfl, hf⟩
    rw [hf]
    rfl

theorem build_eq_error_iff {failure : Failure} :
    (build settings).mapError Failure.invalidConfig = .error failure ↔
      ∃ fault, (withLast {} settings).FirstFault fault ∧ failure = .invalidConfig fault := by
  simp only [build_eq, ← fault?_eq_some_iff]
  constructor
  · intro h
    cases hf : (withLast {} settings).fault? with
    | none =>
      rw [hf] at h
      cases h
    | some fault =>
      rw [hf] at h
      cases h
      exact ⟨fault, rfl, rfl⟩
  · rintro ⟨fault, hf, rfl⟩
    rw [hf]
    rfl

/-! ## All of it -/

/-- What becomes of any sequence of settings.

    It is built exactly if the last settings describe a configuration that enables some
    protocols, all known, and some suites, and keeps null compression; then that is what is
    built, each field as the last setting of its kind gave it or as the default has it.  If not,
    the first check that fails is reported as an invalid configuration, without an alert, and an
    unknown protocol by the first name that is unknown.

    The last setting on client authentication, of either kind, decides whether the server needs
    it and whether it wants it, never both, and clients are asked for a certificate exactly if it
    turned its own on.  For what is built there is a client whose version can be negotiated. -/
theorem built_config_follows_last_settings (settings : List Setting) :
    let built := (build settings).mapError Failure.invalidConfig
    let described := withLast {} settings
    ((∃ config, built = .ok config) ↔ described.Sound) ∧
    (∀ config, built = .ok config → config = described) ∧
    (∀ failure, built = .error failure ↔
      ∃ fault, described.FirstFault fault ∧ failure = .invalidConfig fault) ∧
    (∀ failure, built = .error failure → failure.alert? = none ∧
      ∀ name, failure = .invalidConfig (.unknownProtocol name) →
        failure.message = "invalid configuration: Unknown protocol: " ++ name) ∧
    ¬ (described.needClientAuth = true ∧ described.wantClientAuth = true) ∧
    (∀ before setting after on, settings = before ++ setting :: after →
      (∀ later ∈ after, later.clientAuth? = none) →
      (setting = .needClientAuth on → described.needClientAuth = on ∧
        described.wantClientAuth = false ∧ described.requestsClientAuth = on) ∧
      (setting = .wantClientAuth on → described.needClientAuth = false ∧
        described.wantClientAuth = on ∧ described.requestsClientAuth = on)) ∧
    ((∀ setting ∈ settings, setting.clientAuth? = none) → described.needClientAuth = false ∧
      described.wantClientAuth = false ∧ described.requestsClientAuth = false) ∧
    (∀ config, built = .ok config →
      ∃ client, (negotiateVersion config.protocols client).answer = .ok client) := by
  intro built described
  refine ⟨?_, ?_, fun _ => build_eq_error_iff, ?_, not_need_and_want settings, ?_, ?_, ?_⟩
  · constructor
    · rintro ⟨config, hb⟩
      obtain ⟨rfl, hsound⟩ := build_eq_ok_iff.1 hb
      exact hsound
    · intro hsound
      exact ⟨described, build_eq_ok_iff.2 ⟨rfl, hsound⟩⟩
  · intro config hb
    exact (build_eq_ok_iff.1 hb).1
  · intro failure hb
    obtain ⟨fault, -, rfl⟩ := build_eq_error_iff.1 hb
    refine ⟨rfl, ?_⟩
    rintro name ⟨⟩
    rfl
  · rintro before setting after on rfl hafter
    constructor
    · rintro rfl
      have hs : (Setting.needClientAuth on).clientAuth? = some (on, false) := rfl
      obtain ⟨hneed, hwant, hrequests⟩ := clientAuth_withLast before hs hafter
      exact ⟨hneed, hwant, hrequests.trans (Bool.or_false on)⟩
    · rintro rfl
      have hs : (Setting.wantClientAuth on).clientAuth? = some (false, on) := rfl
      obtain ⟨hneed, hwant, hrequests⟩ := clientAuth_withLast before hs hafter
      exact ⟨hneed, hwant, hrequests.trans (Bool.false_or on)⟩
  · intro hnone
    have hdefault : settings.filterMap Setting.clientAuth? = [] :=
      List.filterMap_eq_nil_iff.2 hnone
    simp only [described, withLast, requestsClientAuth, lastOf, hdefault]
    exact ⟨rfl, rfl, rfl⟩
  · intro config hb
    exact (build_eq_ok_iff.1 hb).2.exists_client

/-- An unknown protocol and a demand for client authentication are both overwritten: what is
    built enables two versions, asks for no certificate, and has a client for one of them. -/
theorem built_config_after_overwrites :
    let settings : List Setting := [.protocols ["TLSv9"], .needClientAuth true, .fips true,
      .versions [.dtls12, .tls11], .compression [.deflate, .null], .wantClientAuth false]
    let config : Config :=
      { protocols := ["DTLSv1.2", "TLSv1.1"], fips := true, compression := [.deflate, .null] }
    (build settings).mapError Failure.invalidConfig = .ok config ∧
      config.needClientAuth = false ∧ config.requestsClientAuth = false ∧
      ∃ client, (negotiateVersion config.protocols client).answer = .ok client := by
  intro settings config
  obtain ⟨hok, heq, -, -, -, hauth, -, hclient⟩ := built_config_follows_last_settings settings
  have hdescribed : withLast {} settings = config := rfl
  have hsound : config.Sound := by
    have hknown : ∀ name ∈ config.protocols, ∃ version : Version, version.name = name :=
      List.forall_mem_cons.2 ⟨⟨.dtls12, rfl⟩, List.forall_mem_singleton.2 ⟨.tls11, rfl⟩⟩
    exact ⟨by decide, hknown, by decide, by decide⟩
  obtain ⟨built, hb⟩ := hok.2 hsound
  obtain rfl : built = config := heq built hb
  have hlast := hauth (settings.take 5) (.wantClientAuth false) [] false rfl (by simp)
  obtain ⟨hneed, -, hrequests⟩ := hlast.2 rfl
  exact ⟨hb, hneed, hrequests, hclient _ hb⟩

end Config

end TlsHandshake
