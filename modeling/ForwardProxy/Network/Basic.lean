import ForwardProxy.Address.Parser
import ForwardProxy.Target
import ForwardProxy.Fault

namespace ForwardProxy

/-!
# The network

What the program meets when it dials: a table of names and the behaviour of every address.

* `Network.attempt` — what becomes of dialling a text: the names looked up, the addresses
  connected to, and the connection, the fault or the silence at the end.
-/

/-- What happens when an address is connected to. -/
inductive Peer where
  /-- The connection is there, `greeting` having been sent on it, and takes as many octets as there
      is room for, or any number; reading the local address of it may fail. -/
  | accepts (greeting : Bytes) (localKnown : Bool) (room : Option Nat := none)
  /-- The connection fails with a system error. -/
  | refuses (code : Int)
  /-- Nothing ever happens. -/
  | hangs
  deriving DecidableEq, Repr

/-- The names and the addresses of a network. -/
structure Network where
  hosts : List (Text × List IpAddress)
  peers : List (SocketAddress × Peer)
  deriving DecidableEq, Repr

/-- How dialling ends. -/
inductive Reach where
  | connected (address : SocketAddress) (greeting : Bytes) (localKnown : Bool)
      (room : Option Nat)
  | failed (fault : Fault)
  | hanging
  deriving DecidableEq, Repr

/-- What dialling does and how it ends. -/
structure DialAttempt where
  lookups : List Text
  connects : List SocketAddress
  reach : Reach
  deriving DecidableEq, Repr

namespace Network

/-- A network without names and peers. -/
def empty : Network := ⟨[], []⟩

/-- The behaviour of an address; one that is not listed refuses (error 111). -/
def peer (net : Network) (a : SocketAddress) : Peer :=
  ((net.peers.find? fun p => p.1 == a).map Prod.snd).getD (.refuses 111)

/-- Connects to addresses in order until one of them accepts or hangs: those connected to, and the
    end; `last` is how it ends if there are none. -/
def connectFirst (net : Network) (last : Fault) : List SocketAddress → List SocketAddress × Reach
  | [] => ([], .failed last)
  | a :: rest =>
    match net.peer a with
    | .accepts greeting localKnown room => ([a], .connected a greeting localKnown room)
    | .hangs => ([a], .hanging)
    | .refuses code =>
      let (tried, reach) := connectFirst net (.system code) rest
      (a :: tried, reach)

/-- The fault of a name that has addresses but none of them known. -/
def noAddress : Fault := .described .invalidInput "could not resolve to any address"

/-- The fault of a name that is not in the table. -/
def unknownName : Fault :=
  .described .uncategorized
    "failed to lookup address information: Name or service not known"

/-- Dials a name and a port. -/
def attemptName (net : Network) (name : Text) (port : UInt16) : DialAttempt :=
  match net.hosts.find? fun h => h.1 == name with
  | none => ⟨[name], [], .failed unknownName⟩
  | some (_, ips) =>
    let (tried, reach) := net.connectFirst noAddress (ips.map (SocketAddress.ofIp · port))
    ⟨[name], tried, reach⟩

/-- Dials a text: a socket address as it stands, its scope apart, or a name and a port with a colon
    between them. -/
def attempt (net : Network) (target : Text) : DialAttempt :=
  match SocketAddress.parse? target with
  | some a =>
    let (tried, reach) := net.connectFirst noAddress [a.unscoped]
    ⟨[], tried, reach⟩
  | none =>
    match Text.splitLast? ':' target with
    | none => ⟨[], [], .failed (.described .invalidInput "invalid socket address")⟩
    | some (name, port) =>
      match Decimal.readBelow 65536 port with
      | .error _ => ⟨[], [], .failed (.described .invalidInput "invalid port value")⟩
      | .ok p =>
        if name.contains '\x00' then
          ⟨[], [], .failed (.described .invalidInput
            "file name contained an unexpected NUL byte")⟩
        else net.attemptName name (UInt16.ofNat p)

end Network

end ForwardProxy
