import ForwardProxy.Failure
import ForwardProxy.Network.Basic
import ForwardProxy.Stream.Lookahead

namespace ForwardProxy

/-!
# Dialling

A target is connected to by its text, as `dial` does it, and given up at a deadline.

* `Dial` — a dial under way, with the instant at which it is given up.
* `Dial.outcome?` — how it has ended by an instant, if it has.
* `Outbound` — a connection that a dial brought about.
-/

/-- A connection to a target. -/
structure Outbound where
  /-- Connections are numbered from zero, in the order in which they come about. -/
  number : Nat
  address : SocketAddress
  /-- Whether the local address of the connection can be read. -/
  localKnown : Bool
  /-- The stream of the connection; nothing is read ahead from it. -/
  stream : Lookahead
  deriving DecidableEq, Repr

namespace Outbound

/-- The connection with a number to an address whose owner has sent `greeting` and has room for so
    many octets. -/
def connect (number : Nat) (address : SocketAddress) (greeting : Bytes) (localKnown : Bool)
    (room : Option Nat := none) : Outbound :=
  let channel := (Channel.idle room).apply (.send greeting)
  ⟨number, address, localKnown, .ofChannel channel⟩

/-- The first local port. -/
def firstPort : Nat := 50000

/-- The local address of a connection, of the same family as the address it leads to. -/
def localAddress (o : Outbound) : Except Fault SocketAddress :=
  if o.localKnown then
    let port := UInt16.ofNat (firstPort + o.number)
    match o.address with
    | .v4 _ _ => .ok (.v4 ⟨192, 0, 2, 1⟩ port)
    | .v6 _ _ _ => .ok (.v6 ⟨[0x2001, 0x0DB8, 0, 0, 0, 0, 0, 0x00FF], rfl⟩ port 0)
  else .error (.system 22)

/-- Whether one of its sides has closed a connection; writing to it fails only once the other side
    has gone away. -/
def isClosed (o : Outbound) : Bool := o.stream.channel.shut || o.stream.channel.writeFault.isSome

/-- The connection, closed by the program. -/
def close (o : Outbound) : Outbound := { o with stream := o.stream.close }

/-- The connection after something that its other side does. -/
def apply (e : Channel.Event) (o : Outbound) : Outbound := { o with stream := o.stream.apply e }

end Outbound

/-- A dial under way. -/
structure Dial where
  target : Text
  attempt : DialAttempt
  deadline : Nat
  deriving DecidableEq, Repr

/-- What a dial brought about. -/
structure Connection where
  address : SocketAddress
  greeting : Bytes
  localKnown : Bool
  room : Option Nat
  deriving DecidableEq, Repr

namespace Dial

/-- The fault of a dial that took too long. -/
def timedOut : Fault := .described .timedOut "connect timed out"

/-- A dial of `target`, begun at `now` and given up after `limit`. -/
def start (net : Network) (target : Text) (limit now : Nat) : Dial :=
  ⟨target, net.attempt target, Time.deadline now limit⟩

/-- How a dial has ended by `now`; none while it is under way. -/
def outcome? (now : Nat) (d : Dial) : Option (Except Failure Connection) :=
  match d.attempt.reach with
  | .connected address greeting localKnown room =>
    some (.ok ⟨address, greeting, localKnown, room⟩)
  | .failed fault => some (.error (.dialFailure d.target fault))
  | .hanging =>
    if d.deadline ≤ now then some (.error (.dialFailure d.target timedOut)) else none

end Dial

end ForwardProxy
