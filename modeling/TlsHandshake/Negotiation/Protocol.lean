/-
  TlsHandshake.Negotiation.Protocol

  The protocol version of a handshake: the first version on the walk down from the
  client's whose name is enabled. Names that stand for no version enable nothing.

  What is chosen is enabled and no later than the client's version
  (`enabled_of_selectVersion?`), and nothing is chosen only if no such version exists
  (`selectVersion?_eq_none_iff`).
-/

import TlsHandshake.Trace

namespace TlsHandshake

/-- The version that the names enable for a client, if they enable any for it. -/
def selectVersion? (enabled : List String) (client : Version) : Option Version :=
  client.descent.find? fun version => enabled.contains version.name

/-- Chooses the version for a client, or fails with `protocol_version`. -/
def negotiateVersion (enabled : List String) (client : Version) : Attempt Unit Version :=
  match selectVersion? enabled client with
  | some version => ⟨.ok version, (), [.log (.versionSelected version client)]⟩
  | none => ⟨.error (.fatal (.noEnabledProtocol client)), (), []⟩

/-- No version is chosen exactly if no enabled version is at or below the client's. -/
theorem selectVersion?_eq_none_iff (enabled : List String) (client : Version) :
    selectVersion? enabled client = none ↔
      ∀ version : Version, client.atLeast version = true → version.name ∉ enabled := by
  simp only [selectVersion?, List.find?_eq_none, Version.mem_descent_iff,
    List.contains_iff_mem]

/-- A chosen version is enabled and not later than the client's. -/
theorem enabled_of_selectVersion? {enabled : List String} {client version : Version}
    (h : selectVersion? enabled client = some version) :
    version.name ∈ enabled ∧ client.atLeast version = true := by
  refine ⟨?_, (Version.mem_descent_iff client version).1 (List.mem_of_find?_eq_some h)⟩
  simpa using List.find?_some h

end TlsHandshake
