/-
  TlsHandshake.ClientAuth.Verdict

  Judging a client's certificate message.

  An empty chain is a client that does not authenticate, which only a server that needs
  authentication refuses. A chain is judged by its leaf: the key must be able to sign,
  and the trust store must trust the whole chain for the leaf's type. A chain that is
  not trusted always ends the handshake.
-/

import TlsHandshake.Policy.Config
import TlsHandshake.Trace

namespace TlsHandshake

/-- How a client authenticated. -/
inductive ClientAuthentication
  | unauthenticated
  | trusted (type : ClientCertificateType)
  deriving DecidableEq

namespace ClientAuthentication

/-- Whether a client showed a trusted certificate. -/
def isTrusted : ClientAuthentication → Bool
  | .trusted _ => true
  | .unauthenticated => false

/-- Asks the trust store, if there is one, whether it trusts a chain for a type. -/
def askTrust (trustStore : Option TrustStore) (chain : List Certificate)
    (type : ClientCertificateType) : Outcome Unit Bool :=
  match trustStore with
  | some store => ⟨store.trusts chain type, (), [.call (.trusts chain type)]⟩
  | none => ⟨false, (), []⟩

/-- The verdict on a chain of a type that can authenticate, by the trust store's answer. -/
def ofTrust (type : ClientCertificateType) (asked : Outcome Unit Bool) :
    Attempt Unit ClientAuthentication :=
  if asked.answer then
    ⟨.ok (.trusted type), (), asked.events ++ [.log (.clientAuthenticated type)]⟩
  else ⟨.error (.fatal (.chainNotTrusted type)), (), asked.events⟩

/-- Judges a chain, leaf first; it is empty if the client sent no certificate. -/
def verify (config : Config) (trustStore : Option TrustStore) (chain : List Certificate) :
    Attempt Unit ClientAuthentication :=
  match chain with
  | [] =>
    if config.needClientAuth then ⟨.error (.fatal .certificateMissing), (), []⟩
    else ⟨.ok .unauthenticated, (), [.log .clientUnauthenticated]⟩
  | leaf :: _ =>
    match ClientCertificateType.ofKeyType? leaf.keyType with
    | none => ⟨.error (.fatal (.certificateKeyUnusable leaf.keyType)), (), []⟩
    | some type => ofTrust type (askTrust trustStore chain type)

end ClientAuthentication

end TlsHandshake
