/-
  TlsHandshake.Proofs.Handshake.Lifetime

  From one operation to everything that a handshake goes through.

    * `undergo_invariant` — what every occasion keeps holds at the end;
    * `sessions_undergo` — what an invariant says of every published session holds of all
      that are reported;
    * `undergo_of_opens` — a handshake that a server hands out has gone through the steps
      of a negotiation, or through nothing.
-/

import TlsHandshake.Proofs.Handshake.Publication
import TlsHandshake.Proofs.Handshake.Transition
import TlsHandshake.Server.Negotiation

namespace TlsHandshake

namespace Handshake

variable (context : Context) (manager : Manager) (h : Handshake)

/-! ## From one operation to all of them -/

section Occasions

variable {Q : Occasion → Prop} {P : Handshake → Prop} {occasions : List Occasion}

/-- What every occasion keeps holds at the end of all of them. -/
theorem undergo_invariant {h : Handshake}
    (keeps : ∀ h occasion, Q occasion → P h → P (h.meet occasion).state.1)
    (hQ : ∀ occasion ∈ occasions, Q occasion) (start : P h) : P (h.undergo occasions).state := by
  induction occasions generalizing h with
  | nil => exact start
  | cons occasion occasions ih =>
    obtain ⟨hfirst, hrest⟩ := List.forall_mem_cons.1 hQ
    exact ih hrest (keeps h occasion hfirst start)

/-- What an invariant makes every published session satisfy, all reported ones satisfy. -/
theorem sessions_undergo {h : Handshake} {R : Session → Prop}
    (keeps : ∀ h occasion, Q occasion → P h → P (h.meet occasion).state.1)
    (publishes : ∀ h occasion session, Q occasion → P h →
      h.published? occasion.operation = some session → R session)
    (hQ : ∀ occasion ∈ occasions, Q occasion) (start : P h) :
    ∀ session ∈ Event.sessions (h.undergo occasions).events, R session := by
  induction occasions generalizing h with
  | nil =>
    intro session hs
    cases hs
  | cons occasion occasions ih =>
    intro session hs
    obtain ⟨hfirst, hrest⟩ := List.forall_mem_cons.1 hQ
    -- A session is reported on this occasion, by the handshake before it, or later.
    rw [undergo_cons, Event.sessions_append, List.mem_append, meet, sessions_perform,
      Option.mem_toList] at hs
    rcases hs with hnow | hlater
    · exact publishes h occasion session hfirst start hnow
    · exact ih hrest (keeps h occasion hfirst start) session hlater

end Occasions

/-! ## Where a handshake starts -/

/-- The steps of a negotiation. -/
def negotiationSteps : List Operation :=
  [.serverVersion, .selectedCipherSuite, .ecdhCurve, .certificateRequest]

/-- Steps that are all taken in the same surroundings. -/
theorem surroundings_of_mem (shared : Shared) (steps : List Operation) :
    ∀ occasion ∈ steps.map fun step => (⟨context, manager, shared, step⟩ : Occasion),
      occasion.context = context ∧ occasion.manager = manager := by
  intro occasion hm
  obtain ⟨step, -, rfl⟩ := List.mem_map.1 hm
  exact ⟨rfl, rfl⟩

/-- A negotiation that succeeds takes its handshake through the four steps. -/
theorem undergo_of_agree {agreement : Agreement} (shared : Shared)
    (ha : (h.agree context manager).answer = .ok agreement) :
    (h.undergo (negotiationSteps.map fun step => ⟨context, manager, shared, step⟩)).state =
      (h.agree context manager).state := by
  -- Each step succeeded, so the next one starts from the state that it left.
  obtain ⟨version, -, ha, hversion⟩ := Outcome.andThen_eq_ok ha
  obtain ⟨suite, -, ha, hsuite⟩ := Outcome.andThen_eq_ok ha
  obtain ⟨curve, -, ha, hcurve⟩ := Outcome.andThen_eq_ok ha
  obtain ⟨request, -, -, hrequest⟩ := Outcome.andThen_eq_ok ha
  rw [agree, hversion, hsuite, hcurve, hrequest]
  rfl

/-- A server hands a handshake out as it starts, or after the steps of a negotiation. -/
theorem undergo_of_opens {server : Server} {offer : Offer}
    (ho : server.Opens manager offer h) :
    ∃ steps, (steps = [] ∨ steps = negotiationSteps) ∧
      ((start offer).undergo
        (steps.map fun step => ⟨server.context, manager, .fresh, step⟩)).state = h := by
  cases ho with
  | accepted => exact ⟨[], Or.inl rfl, rfl⟩
  | negotiated ha =>
    refine ⟨negotiationSteps, Or.inr rfl, ?_⟩
    rw [Server.negotiate_answer] at ha
    rw [Server.negotiate_state]
    exact undergo_of_agree server.context manager (start offer) .fresh ha

end Handshake

end TlsHandshake
