/-
  TlsHandshake.Handshake.Selection

  Selecting the cipher suite of a handshake.

  The candidates are the server's supported suites, in its order, that the client
  offered, that the version allows and whose curve can be negotiated. Each candidate in
  turn needs a credential and the consent of the connection manager; the first that has
  both is selected. A suite that fails leaves no credential behind.

  The two steps for a single suite can also be taken on their own, for any suite and in
  any round. They change nothing of a handshake but its credential
  (`selectCredentials_frame`, `selectCipherSuite_frame`).
-/

import TlsHandshake.Handshake.State

namespace TlsHandshake

namespace Handshake

/-! ## A single suite -/

/-- The handshake with the credential that was found for a suite, or with none if there
    is none or the search failed; the answer is whether there is one. -/
def adopt (h : Handshake) (found : Attempt Round (Option Credential)) :
    Attempt (Handshake × Round) Bool :=
  match found.answer with
  | .error failure => ⟨.error failure, (h.withCredential none, found.state), found.events⟩
  | .ok credential =>
    ⟨.ok credential.isSome, (h.withCredential credential, found.state), found.events⟩

theorem adopt_events (h : Handshake) (found : Attempt Round (Option Credential)) :
    (h.adopt found).events = found.events := by
  unfold adopt
  split <;> rfl

/-- Finds the credential for a suite, in place of any the handshake had; tells whether
    there is one. -/
def selectCredentials (context : Context) (suite : CipherSuite) (round : Round)
    (h : Handshake) : Attempt (Handshake × Round) Bool :=
  match h.version with
  | none => ⟨.error (.fatal .versionNotNegotiated), (h.withCredential none, round), []⟩
  | some version => h.adopt ((h.resolver context version).resolve suite round)

/-- Asks the manager about a suite that has a credential; a veto takes the credential
    away. -/
def consult (manager : Manager) (suite : CipherSuite) (version : Version)
    (found : Attempt (Handshake × Round) Bool) : Attempt (Handshake × Round) Bool :=
  match found.answer with
  | .ok true =>
    if manager.accepts suite version then found.thenDo (.call (.acceptsSuite suite version))
    else
      ⟨.ok false, (found.state.1.withCredential none, found.state.2),
        found.events ++ [.call (.acceptsSuite suite version)]⟩
  | .ok false | .error _ => found

/-- Finds the credential for a suite and asks the manager whether the suite may be used;
    tells whether it can. -/
def selectCipherSuite (context : Context) (manager : Manager) (suite : CipherSuite)
    (round : Round) (h : Handshake) : Attempt (Handshake × Round) Bool :=
  match h.version with
  | none => h.selectCredentials context suite round
  | some version => consult manager suite version (h.selectCredentials context suite round)

/-! ## All candidates -/

/-- A supported suite is worth trying if the client offered it, the version allows it and
    a curve large enough for it could be negotiated. -/
def isCandidate (context : Context) (version : Version) (h : Handshake)
    (suite : CipherSuite) : Bool :=
  h.offer.offers suite && suite.isValidAt version &&
    suite.minimumCurveBits ≤ (h.curveChoice context).maxBits

/-- The suites to try, in the server's order. -/
def candidates (context : Context) (version : Version) (h : Handshake) : List CipherSuite :=
  context.supportedSuites.filter (h.isCandidate context version)

theorem mem_candidates_iff (context : Context) (version : Version) (h : Handshake)
    (suite : CipherSuite) :
    suite ∈ h.candidates context version ↔ suite ∈ context.supportedSuites ∧
      h.offer.offers suite = true ∧ suite.isValidAt version = true ∧
      suite.minimumCurveBits ≤ (h.curveChoice context).maxBits := by
  simp [candidates, isCandidate, and_assoc]

/-- Tries suites in turn, all in one round, and stops at the first that can be used or
    at an error. -/
def firstUsable (context : Context) (manager : Manager) :
    List CipherSuite → Round → Handshake → Attempt (Handshake × Round) (Option CipherSuite)
  | [], round, h => ⟨.ok none, (h, round), []⟩
  | suite :: suites, round, h =>
    (h.selectCipherSuite context manager suite round).andThen fun usable reached =>
      if usable then ⟨.ok (some suite), reached, []⟩
      else firstUsable context manager suites reached.2 reached.1

/-- Ends a search: a suite that was found is selected, and without one the handshake has
    no credential and must end. -/
def conclude (search : Attempt (Handshake × Round) (Option CipherSuite)) :
    Attempt Handshake CipherSuite :=
  (search.andThen fun found reached =>
    match found with
    | some suite =>
      ⟨.ok suite, (reached.1.withSuite suite, reached.2),
        [.log (.suiteSelected suite (credentialKind reached.1.credential))]⟩
    | none =>
      ⟨.error (.fatal .noAcceptableSuite), (reached.1.withCredential none, reached.2),
        [.log (.suiteMissing reached.2.queries)]⟩).mapState Prod.fst

/-- Selects the suite of the handshake in a round of its own, or fails with
    `handshake_failure`. -/
def selectedCipherSuite (context : Context) (manager : Manager) (h : Handshake) :
    Attempt Handshake CipherSuite :=
  match h.version with
  | none => ⟨.error (.fatal .versionNotNegotiated), h, []⟩
  | some version =>
    conclude (firstUsable context manager (h.candidates context version) .fresh h)

/-! ## What stays as it was -/

/-- Two handshakes agree but for the credential. -/
def SameButCredential (h k : Handshake) : Prop := k = { h with credential := k.credential }

theorem SameButCredential.trans {h k l : Handshake} (hk : SameButCredential h k)
    (kl : SameButCredential k l) : SameButCredential h l := by
  rw [SameButCredential] at *
  rw [kl, hk]

theorem sameButCredential_withCredential (h : Handshake) (credential : Option Credential) :
    SameButCredential h (h.withCredential credential) := rfl

/-- Trying for credentials changes nothing of a handshake but its credential. -/
theorem selectCredentials_frame (context : Context) (suite : CipherSuite) (round : Round)
    (h : Handshake) :
    SameButCredential h (h.selectCredentials context suite round).state.1 := by
  unfold selectCredentials adopt
  split
  · rfl
  · split <;> rfl

/-- Trying a suite changes nothing of a handshake but its credential. -/
theorem selectCipherSuite_frame (context : Context) (manager : Manager) (suite : CipherSuite)
    (round : Round) (h : Handshake) :
    SameButCredential h (h.selectCipherSuite context manager suite round).state.1 := by
  have frame := selectCredentials_frame context suite round h
  unfold selectCipherSuite consult
  split
  · exact frame
  · split
    · split
      · exact frame
      · exact frame.trans rfl
    · exact frame
    · exact frame

/-- A search changes nothing of a handshake but its credential. -/
theorem firstUsable_frame (context : Context) (manager : Manager) (suites : List CipherSuite)
    (round : Round) (h : Handshake) :
    SameButCredential h (firstUsable context manager suites round h).state.1 := by
  induction suites generalizing round h with
  | nil => rfl
  | cons suite suites ih =>
    have frame := selectCipherSuite_frame context manager suite round h
    unfold firstUsable Outcome.andThen
    split
    · exact frame
    · simp only [Outcome.after_state]
      split
      · exact frame
      · exact frame.trans (ih _ _)

end Handshake

end TlsHandshake
