/-
  TlsHandshake.Server.Pool

  A server with any number of handshakes, each under a manager of its own. Requests
  name the handshake they are for, so a sequence of requests is an interleaving of the
  histories of all of them. What they share is the server's context and, as in
  `TlsHandshake.Handshake.History`, the numbered rounds and the session cache.
-/

import TlsHandshake.Handshake.History
import TlsHandshake.Server.Negotiation

namespace TlsHandshake

/-- A handshake with the number of its manager. -/
structure Client where
  manager : Nat
  handshake : Handshake

/-- The handshakes of a server, in the order in which they were opened. -/
structure Pool where
  clients : List Client
  shared : Shared

/-- A handle on the completion flag of a client's handshake, good for any thread. All
    handles on one handshake read the same flag, as it is when they read it. -/
structure FlagHandle where
  client : Nat
  deriving DecidableEq

/-- One request to a server. -/
inductive Request
  | accept (manager : Nat) (offer : Offer)
  | negotiate (manager : Nat) (offer : Offer)
  | operate (client : Nat) (operation : Operation)
  | renewRound (round : Nat)

/-- What a request is answered with. -/
inductive Reply
  | opened (client : Nat)
  | agreed (client : Nat) (agreement : Agreement)
  | answered (answer : Answer)
  | failed (failure : Failure)
  | noSuchClient
  | roundRenewed

namespace Pool

/-- No handshake has been opened. -/
def empty : Pool := ⟨[], .fresh⟩

/-- The pool with one more handshake. -/
def insert (pool : Pool) (client : Client) : Pool :=
  { pool with clients := pool.clients ++ [client] }

/-- The pool with the handshake of one client and the shared things replaced. -/
def update (pool : Pool) (index : Nat) (client : Client) (shared : Shared) : Pool :=
  ⟨pool.clients.set index client, shared⟩

/-- What a handle reads: whether its handshake is complete by now. -/
def isComplete (pool : Pool) (handle : FlagHandle) : Bool :=
  match pool.clients[handle.client]? with
  | some client => client.handshake.isComplete
  | none => false

/-- Takes an opened handshake in. -/
def enroll (pool : Pool) (manager : Nat) (opened : Outcome Handshake Unit) :
    Outcome Pool Reply :=
  ⟨.opened pool.clients.length, pool.insert ⟨manager, opened.state⟩, opened.events⟩

/-- Takes a handshake in that was negotiated at once, unless the negotiation failed. -/
def enrollNegotiated (pool : Pool) (manager : Nat) (driven : Attempt Handshake Agreement) :
    Outcome Pool Reply :=
  match driven.answer with
  | .ok agreement =>
    ⟨.agreed pool.clients.length agreement, pool.insert ⟨manager, driven.state⟩,
      driven.events⟩
  | .error failure => ⟨.failed failure, pool, driven.events⟩

/-- How an operation's answer is passed on. -/
def replyOf (answer : Except Failure Answer) : Reply :=
  match answer with
  | .ok answer => .answered answer
  | .error failure => .failed failure

/-- Takes over what an operation on a client's handshake leaves. -/
def settle (pool : Pool) (index manager : Nat)
    (performed : Attempt (Handshake × Shared) Answer) : Outcome Pool Reply :=
  ⟨replyOf performed.answer,
    pool.update index ⟨manager, performed.state.1⟩ performed.state.2, performed.events⟩

/-- Carries out one request. -/
def step (server : Server) (managers : Nat → Manager) (request : Request) (pool : Pool) :
    Outcome Pool Reply :=
  match request with
  | .accept manager offer => pool.enroll manager (Server.accept offer)
  | .negotiate manager offer =>
    pool.enrollNegotiated manager (server.negotiate (managers manager) offer)
  | .operate index operation =>
    match pool.clients[index]? with
    | none => ⟨.noSuchClient, pool, []⟩
    | some client =>
      pool.settle index client.manager
        (client.handshake.perform server.context (managers client.manager) operation
          pool.shared)
  | .renewRound round =>
    ⟨.roundRenewed, { pool with shared := pool.shared.setRound round .fresh }, []⟩

/-- Carries out requests one after the other. -/
def run (server : Server) (managers : Nat → Manager) :
    List Request → Pool → Outcome Pool (List Reply)
  | [], pool => ⟨[], pool, []⟩
  | request :: requests, pool =>
    let now := pool.step server managers request
    let later := run server managers requests now.state
    ⟨now.answer :: later.answer, later.state, now.events ++ later.events⟩

/-- A request for one handshake leaves every other one as it is. -/
theorem clients_step_operate_of_ne (server : Server) (managers : Nat → Manager)
    {index other : Nat} (operation : Operation) (pool : Pool) (h : other ≠ index) :
    (pool.step server managers (.operate index operation)).state.clients[other]? =
      pool.clients[other]? := by
  simp only [step]
  split
  · rfl
  · simp [settle, update, Ne.symm h]

end Pool

end TlsHandshake
