/-
  TlsHandshake.Proofs.Plain

  Plain collaborators, for concrete runs: a provider that can do everything, a key store
  with one identity, a manager with a list of refused suites, and a client that offers
  suites and nothing else.
-/

import TlsHandshake.Handshake.State

namespace TlsHandshake

/-- A provider that has every algorithm and makes every credential. -/
def Provider.complete : Provider where
  supportsCipher _ := true
  supportsHash _ := true
  supportsScheme _ := true
  agreement chain _ := .ok ⟨chain⟩
  signer chain _ scheme := .ok ⟨chain, scheme⟩
  decryptor chain _ := .ok ⟨chain⟩

/-- A key store that holds one identity, for some types only. -/
def KeyStore.single (types : List AuthType) (identity : Identity) : KeyStore where
  chooseAlias auth := if auth ∈ types then some "server" else none
  privateKey _ := some identity.key
  certificateChain _ := identity.chain

/-- A manager that refuses some suites, at every version. -/
def Manager.refusing (suites : List CipherSuite) : Manager where
  accepts suite _ := !suites.contains suite

/-- An identity with an RSA key. -/
def Identity.plainRsa : Identity := ⟨[⟨[0x30], ⟨[0x30]⟩, .rsa⟩], ⟨.rsa, "server"⟩⟩

/-- Another identity with an RSA key. -/
def Identity.otherRsa : Identity := ⟨[⟨[0x31], ⟨[0x30]⟩, .rsa⟩], ⟨.rsa, "other"⟩⟩

/-- A key store that holds one RSA identity for key transport and another for signing an
    ephemeral elliptic exchange. -/
def KeyStore.twofold : KeyStore where
  chooseAlias auth :=
    match auth with
    | .rsa => some "server"
    | .ecdheRsa => some "other"
    | _ => none
  privateKey keyAlias := some ⟨.rsa, keyAlias⟩
  certificateChain keyAlias :=
    if keyAlias = "server" then Identity.plainRsa.chain else Identity.otherRsa.chain

/-- A server with these suites that holds an RSA identity for some types. -/
def Context.plain (suites : List CipherSuite) (types : List AuthType) : Context where
  config := { suites := suites }
  provider := .complete
  sessionCache := .keepAll
  keyStore := some (.single types .plainRsa)
  trustStore := none

/-- A server with these suites that needs client authentication and trusts every chain. -/
def Context.demanding (suites : List CipherSuite) : Context :=
  { Context.plain suites [.rsa] with
    config := { suites := suites, needClientAuth := true }
    trustStore := some ⟨[], fun _ _ => true⟩ }

/-- A server with these suites that wants client authentication, can do without it, and
    trusts every chain. -/
def Context.inviting (suites : List CipherSuite) : Context :=
  { Context.demanding suites with config := { suites := suites, wantClientAuth := true } }

/-- A TLS 1.2 client that offers these suites and sends no extension. -/
def Offer.plain (suites : List CipherSuite) : Offer :=
  ⟨.tls12, suites.map CipherSuite.code, none, none⟩

end TlsHandshake
