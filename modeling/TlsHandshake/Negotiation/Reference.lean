/-
  TlsHandshake.Negotiation.Reference

  Suite selection without memory: each candidate is judged on its own, by the credential
  it would get in a round that nothing else has used and by the manager, and the first
  that passes is the answer. The selection of a handshake runs all candidates through
  one round instead, so that no authentication type is asked for again once it missed.
-/

import TlsHandshake.Negotiation.Resolver

namespace TlsHandshake

namespace Resolver

/-- What a candidate amounts to on its own: its credential, if it has one and the manager
    accepts the suite, or the failure of the provider. -/
def judge (resolver : Resolver) (manager : Manager) (suite : CipherSuite) :
    Except Failure (Option Credential) :=
  match resolver.standalone suite with
  | .ok (some credential) =>
    .ok (if manager.accepts suite resolver.version then some credential else none)
  | .ok none => .ok none
  | .error failure => .error failure

/-- The first candidate that passes, with its credential, unless the provider fails for
    one before it. -/
def firstPassing (resolver : Resolver) (manager : Manager) :
    List CipherSuite → Except Failure (Option (CipherSuite × Credential))
  | [] => .ok none
  | suite :: suites =>
    match resolver.judge manager suite with
    | .ok (some credential) => .ok (some (suite, credential))
    | .ok none => firstPassing resolver manager suites
    | .error failure => .error failure

/-- A candidate passes only with a credential of its own that the manager accepts. -/
theorem judge_eq_some_iff (resolver : Resolver) (manager : Manager) (suite : CipherSuite)
    (credential : Credential) :
    resolver.judge manager suite = .ok (some credential) ↔
      resolver.standalone suite = .ok (some credential) ∧
        manager.accepts suite resolver.version = true := by
  unfold judge
  cases resolver.standalone suite with
  | error failure => simp
  | ok found =>
    cases found with
    | none => simp
    | some c => cases manager.accepts suite resolver.version <;> simp

end Resolver

end TlsHandshake
