import ForwardProxy.Address.Basic
import ForwardProxy.Failure
import ForwardProxy.Protocol
import ForwardProxy.Text.Utf8

namespace ForwardProxy.Socks5

/-!
# SOCKS5 messages

* `Command`, `Destination`, `Request` — what a client asks for.
* `reply` — the octets of a reply.
* `Flaw`, `SocksFailure` — what can go wrong before the relay, with its wording.
-/

/-- The version octet of every message. -/
def version : UInt8 := Protocol.socksVersion

/-- What a client wants done. -/
inductive Command where
  | connect
  | bind
  | associate
  deriving DecidableEq, Repr

namespace Command

/-- The command with a number. -/
def ofCode? (code : UInt8) : Option Command :=
  if code = 1 then some connect
  else if code = 2 then some bind
  else if code = 3 then some associate
  else none

/-- The name of a command. -/
def name : Command → String
  | connect => "TCPConnect"
  | bind => "TCPBind"
  | associate => "UDPAssociate"

end Command

/-- The host that a client asks for. -/
inductive Host where
  | ip (address : IpAddress)
  | domain (name : Text)
  deriving DecidableEq, Repr

/-- The host and the port that a client asks for. -/
structure Destination where
  host : Host
  port : UInt16
  deriving DecidableEq, Repr

/-- The text that a destination is dialled by. -/
def Destination.render (d : Destination) : Text :=
  match d.host with
  | .ip a => (SocketAddress.ofIp a d.port).render
  | .domain name => name ++ [':'] ++ Decimal.write d.port.toNat

/-- What a client asks for. -/
structure Request where
  command : Command
  destination : Destination
  deriving DecidableEq, Repr

/-! ### Replies -/

/-- What a reply tells. -/
inductive ReplyCode where
  | succeeded
  | hostUnreachable
  | connectionRefused
  | commandNotSupported
  | addressTypeNotSupported
  deriving DecidableEq, Repr

/-- The number of a reply. -/
def ReplyCode.code : ReplyCode → UInt8
  | succeeded => 0
  | hostUnreachable => 4
  | connectionRefused => 5
  | commandNotSupported => 7
  | addressTypeNotSupported => 8

/-- The octets of an IPv4 address. -/
def ipv4Octets (ip : Ipv4) : Bytes := [ip.a, ip.b, ip.c, ip.d]

/-- An address and a port as they stand in a message, with the number of the address type. -/
def addressOctets : SocketAddress → Bytes
  | .v4 ip p => 1 :: ipv4Octets ip ++ Bytes.bigEndian16 p
  | .v6 ip p _ => 4 :: ip.groups.flatMap Bytes.bigEndian16 ++ Bytes.bigEndian16 p

/-- The address of replies that have none to give. -/
def noAddress : SocketAddress := .v4 ⟨0, 0, 0, 0⟩ 0

/-- The octets of a reply. -/
def reply (code : ReplyCode) (address : SocketAddress) : Bytes :=
  [version, code.code, 0] ++ addressOctets address

/-- The octets of a reply that tells a failure. -/
def errorReply (code : ReplyCode) : Bytes := reply code noAddress

/-! ### Flaws -/

/-- A field of a message. -/
inductive Field where
  | methods
  | command
  | ipv4
  | ipv6
  | domainLength
  | domain
  | port
  deriving DecidableEq, Repr

/-- What goes wrong in a handshake. -/
inductive Flaw where
  /-- A field could not be read. -/
  | unreadable (field : Field) (fault : Fault)
  /-- The chosen method could not be told. -/
  | methodUnsent (fault : Fault)
  /-- That no method will do could not be told. -/
  | refusalUnsent (fault : Fault)
  | version (v : UInt8)
  /-- None of the methods offered will do. -/
  | methods (offered : Bytes)
  | addressType
  /-- A domain that is not UTF-8. -/
  | domain
  | command (code : UInt8)
  deriving DecidableEq, Repr

/-- The wording of a field that could not be read. -/
def Field.message : Field → String
  | methods => "i/o error when reading methods"
  | command => "i/o error when reading command"
  | ipv4 => "Can't read IPv4"
  | ipv6 => "Can't read IPv6"
  | domainLength => "Can't read domain len"
  | domain => "Can't read domain content"
  | port => "Can't read port number"

/-- Numbers in square brackets with commas between them. -/
def listed (bs : Bytes) : String :=
  "[" ++ ", ".intercalate (bs.map fun b => toString b.toNat) ++ "]"

/-- The wording of a flaw. -/
def Flaw.message : Flaw → String
  | unreadable field fault => s!"{field.message}: {fault.message}"
  | methodUnsent fault => s!"i/o error when replying with auth method: {fault.message}"
  | refusalUnsent fault => s!"i/o error when replying with method not acceptable: {fault.message}"
  | version v => s!"Unsupported SOCKS version `{v.toNat}`."
  | methods offered => s!"Auth method unacceptable `{listed offered}`."
  | addressType => "Unknown address type"
  | domain => "Malformed UTF-8"
  | command code => s!"Unsupported SOCKS command `{code.toNat}`."

/-- How a SOCKS5 session fails before its relay. -/
inductive SocksFailure where
  /-- The methods could not be agreed on. -/
  | greeting (flaw : Flaw)
  /-- The request could not be understood. -/
  | request (flaw : Flaw)
  /-- The handshake was not over in time. -/
  | late (limit : Nat)
  | unsupported (command : Command)
  /-- The local address of the connection could not be read. -/
  | localAddress (fault : Fault)
  /-- The reply could not be written. -/
  | reply (fault : Fault)
  deriving DecidableEq, Repr

/-- The wording of a failure. -/
def SocksFailure.message : SocksFailure → String
  | greeting flaw => s!"socks5 greeting: {flaw.message}"
  | request flaw => s!"socks5 request: {flaw.message}"
  | late limit => s!"socks5 handshake not completed within {Duration.describe limit}"
  | unsupported command => s!"unsupported socks5 command {command.name}"
  | localAddress fault => s!"reading outbound local address: {fault.message}"
  | reply fault => s!"socks5 reply: i/o error when writing successful reply: {fault.message}"

end ForwardProxy.Socks5
