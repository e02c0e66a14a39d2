import ForwardProxy.Accept.Backoff
import ForwardProxy.Accept.Policy
import ForwardProxy.Session.Progress

namespace ForwardProxy

/-!
# The server

A server takes the clients that its listener offers and serves each by a session, until it is told
to stop or the listener fails for good.  Told to stop, it closes the listener and waits a while for
the sessions to end.  In the program this is a `ProxyServer`, with a `ServeOutcome` for its end.

* `Server`, `Gate`, `Visitor`, `Offer` — the state of a server.
* `Server.active`, `Server.outcome?`, `Server.isListening` — what can be seen of it.
* `Server.Event`, `Server.apply` — what others do.
-/

/-- What the listener offers. -/
inductive Offer where
  /-- The client with a number. -/
  | client (number : Nat)
  /-- Accepting fails. -/
  | fault (fault : Fault)
  deriving DecidableEq, Repr

/-- How far a client has come. -/
inductive Visit where
  /-- Not accepted yet. -/
  | waiting (channel : Channel)
  | served (session : Session)
  deriving DecidableEq, Repr

/-- A client that has connected. -/
structure Visitor where
  address : SocketAddress
  visit : Visit
  deriving DecidableEq, Repr

/-- How serving ends. -/
inductive ServeEnd where
  /-- Every session has ended. -/
  | drained
  /-- Some sessions had not ended in time. -/
  | drainTimedOut (remaining : Nat)
  | failed (failure : Failure)
  deriving DecidableEq, Repr

/-- What a server does about new clients. -/
inductive Gate where
  /-- The server has not started. -/
  | unopened
  /-- The next client is waited for. -/
  | listening
  /-- Accepting has failed; it is tried again at an instant. -/
  | backingOff (instant : Nat)
  /-- The listener is closed; sessions may take until an instant to end. -/
  | draining (deadline : Nat)
  | stopped (outcome : ServeEnd)
  deriving DecidableEq, Repr

/-- The state of a server. -/
structure Server where
  settings : Settings
  policy : AcceptPolicy
  network : Network
  turn : Turn
  now : Nat
  visitors : List Visitor
  /-- What the listener offers, in order. -/
  queue : List Offer
  gate : Gate
  backoff : Backoff
  /-- How often accepting has been begun. -/
  accepts : Nat
  /-- Whether the server has been told to stop. -/
  stopping : Bool
  /-- How many connections the sessions have made. -/
  connected : Nat
  /-- What the server has told the operator, its sessions apart. -/
  log : List LogLine
  deriving DecidableEq, Repr

namespace Visitor

/-- The session of a client, if it has been accepted. -/
def session? (v : Visitor) : Option Session :=
  match v.visit with
  | .waiting _ => none
  | .served s => some s

/-- The channel of a client. -/
def channel (v : Visitor) : Channel :=
  match v.visit with
  | .waiting c => c
  | .served s => s.client.channel

/-- The connection made for a client. -/
def outbound? (v : Visitor) : Option Outbound := v.session?.bind Session.outbound

/-- Whether the session of a client is under way. -/
def isActive (v : Visitor) : Bool := v.session?.any fun s => !s.isOver

/-- How many connections have been made for a client: none or one. -/
def connections (v : Visitor) : Nat := if v.outbound?.isSome then 1 else 0

/-- The client after something it does. -/
def applyClient (e : Channel.Event) (v : Visitor) : Visitor :=
  match v.visit with
  | .waiting c => { v with visit := .waiting (c.apply e) }
  | .served s => { v with visit := .served (s.applyClient e) }

/-- The client after something that happens on a connection. -/
def applyPeer (number : Nat) (e : Channel.Event) (v : Visitor) : Visitor :=
  match v.visit with
  | .waiting _ => v
  | .served s => { v with visit := .served (s.applyPeer number e) }

end Visitor

namespace Server

/-- A server that has not started and to which nobody has connected. -/
def create (settings : Settings) (policy : AcceptPolicy) (net : Network) (turn : Turn) :
    Server where
  settings := settings
  policy := policy
  network := net
  turn := turn
  now := 0
  visitors := []
  queue := []
  gate := .unopened
  backoff := .start settings.acceptBackoffMin settings.acceptBackoffMax
  accepts := 0
  stopping := false
  connected := 0
  log := []

/-! ### What can be seen -/

/-- How many sessions are under way. -/
def active (s : Server) : Nat := s.visitors.countP Visitor.isActive

/-- How serving ended, if it has. -/
def outcome? (s : Server) : Option ServeEnd :=
  match s.gate with
  | .stopped outcome => some outcome
  | _ => none

/-- Whether the listener is open. -/
def isListening (s : Server) : Bool :=
  match s.gate with
  | .draining _ => false
  | .stopped _ => false
  | _ => true

/-- The instants that a server waits for. -/
def deadlines (s : Server) : List Nat :=
  let gate :=
    match s.gate with
    | .backingOff instant => [instant]
    | .draining deadline => [deadline]
    | _ => []
  gate ++ (s.visitors.filterMap Visitor.session?).flatMap Session.deadlines

/-! ### What others do -/

/-- Something that others do to a server. -/
inductive Event where
  | start
  /-- A client connects from an address, on a channel. -/
  | connect (address : SocketAddress) (channel : Channel)
  | acceptFault (fault : Fault)
  | shutdown
  | client (number : Nat) (event : Channel.Event)
  /-- Something happens on the connection with a number. -/
  | peer (number : Nat) (event : Channel.Event)
  deriving DecidableEq, Repr

end Server

end ForwardProxy
