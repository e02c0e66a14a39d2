import ForwardProxy.Socks5.Message
import ForwardProxy.Stream.Lookahead

namespace ForwardProxy.Socks5

/-!
# The SOCKS5 handshake

A client offers methods, of which "no authentication" is the only one that will do, is told which
one is chosen, and then asks for a command on a destination.  A request that cannot be understood
is answered by a reply that tells why, unless its version is wrong.  In the program this is what a
`FastSocks5Engine` does before it dials.

* `Handshake.run` — the handshake after everything that can be read and written at the moment.

The readers below are in the reverse order of the messages, so that each can go on with the next.
-/

/-- How far a handshake has come; `got` are the octets of the field being read. -/
inductive Handshake where
  /-- Version and number of methods. -/
  | greeting (got : Bytes)
  | methods (count : Nat) (got : Bytes)
  /-- The choice is being told; `left` of it is not written yet. -/
  | choosing (left : Bytes) (refused : Option Bytes)
  /-- Version, command, a reserved octet and the address type. -/
  | request (got : Bytes)
  | domainLength (command : UInt8) (got : Bytes)
  | ipv4 (command : UInt8) (got : Bytes)
  | ipv6 (command : UInt8) (got : Bytes)
  | domain (command : UInt8) (length : Nat) (got : Bytes)
  | port (command : UInt8) (host : Host) (got : Bytes)
  /-- A reply that tells a flaw of the request is being written. -/
  | refusing (code : ReplyCode) (flaw : Flaw)
  | understood (request : Request)
  | failed (failure : SocksFailure)
  deriving DecidableEq, Repr

namespace Handshake

/-- A handshake of which nothing has been read. -/
def start : Handshake := .greeting []

/-- How far the reading of a field has come. -/
inductive FieldProgress where
  | complete (octets : Bytes)
  | partly (octets : Bytes)
  | failed (fault : Fault)

/-- Reads on in a field of `n` octets, `got` being there. -/
def field (n : Nat) (got : Bytes) (l : Lookahead) : FieldProgress × Lookahead :=
  match l.readExact (n - got.length) with
  | (.ready _, more, l) => (.complete (got ++ more), l)
  | (.blocked, more, l) => (.partly (got ++ more), l)
  | (.failed f, _, l) => (.failed f, l)

/-- Writes a reply that tells a flaw, by a single write; what becomes of the reply does not
    matter. -/
def refuse (code : ReplyCode) (flaw : Flaw) (l : Lookahead) : Handshake × Lookahead :=
  match l.write (errorReply code) with
  | (.blocked, l) => (.refusing code flaw, l)
  | (_, l) => (.failed (.request flaw), l)

/-- What a complete request amounts to. -/
def finish (command : UInt8) (host : Host) (port : UInt16) (l : Lookahead) :
    Handshake × Lookahead :=
  match Command.ofCode? command with
  | some c => (.understood ⟨c, host, port⟩, l)
  | none => refuse .commandNotSupported (.command command) l

/-- Reads the port. -/
def readPort (command : UInt8) (host : Host) (got : Bytes) (l : Lookahead) :
    Handshake × Lookahead :=
  match field 2 got l with
  | (.partly got, l) => (.port command host got, l)
  | (.failed f, l) => refuse .connectionRefused (.unreadable .port f) l
  | (.complete [hi, lo], l) => finish command host (Bytes.ofBigEndian16 hi lo) l
  | (.complete got, l) => (.port command host got, l)

/-- Reads an IPv4 address. -/
def readIpv4 (command : UInt8) (got : Bytes) (l : Lookahead) : Handshake × Lookahead :=
  match field 4 got l with
  | (.partly got, l) => (.ipv4 command got, l)
  | (.failed f, l) => refuse .connectionRefused (.unreadable .ipv4 f) l
  | (.complete [a, b, c, d], l) => readPort command (.ip (.v4 ⟨a, b, c, d⟩)) [] l
  | (.complete got, l) => (.ipv4 command got, l)

/-- Octets taken two at a time as numbers. -/
def pairs : Bytes → List UInt16
  | hi :: lo :: r => Bytes.ofBigEndian16 hi lo :: pairs r
  | _ => []

/-- Reads an IPv6 address. -/
def readIpv6 (command : UInt8) (got : Bytes) (l : Lookahead) : Handshake × Lookahead :=
  match field 16 got l with
  | (.partly got, l) => (.ipv6 command got, l)
  | (.failed f, l) => refuse .connectionRefused (.unreadable .ipv6 f) l
  | (.complete got, l) =>
    match Ipv6.ofGroups? (pairs got) with
    | some ip => readPort command (.ip (.v6 ip)) [] l
    | none => (.ipv6 command got, l)

/-- Reads a domain of a given length. -/
def readDomain (command : UInt8) (length : Nat) (got : Bytes) (l : Lookahead) :
    Handshake × Lookahead :=
  match field length got l with
  | (.partly got, l) => (.domain command length got, l)
  | (.failed f, l) => refuse .connectionRefused (.unreadable .domain f) l
  | (.complete got, l) =>
    match Utf8.decode? got with
    | some name => readPort command (.domain name) [] l
    | none => refuse .connectionRefused .domain l

/-- Reads the length of a domain. -/
def readDomainLength (command : UInt8) (got : Bytes) (l : Lookahead) : Handshake × Lookahead :=
  match field 1 got l with
  | (.partly got, l) => (.domainLength command got, l)
  | (.failed f, l) => refuse .connectionRefused (.unreadable .domainLength f) l
  | (.complete [n], l) => readDomain command n.toNat [] l
  | (.complete got, l) => (.domainLength command got, l)

/-- Reads an address of a given type. -/
def readAddress (command addressType : UInt8) (l : Lookahead) : Handshake × Lookahead :=
  if addressType = 1 then readIpv4 command [] l
  else if addressType = 3 then readDomainLength command [] l
  else if addressType = 4 then readIpv6 command [] l
  else refuse .addressTypeNotSupported .addressType l

/-- Reads the start of a request. -/
def readRequest (got : Bytes) (l : Lookahead) : Handshake × Lookahead :=
  match field 4 got l with
  | (.partly got, l) => (.request got, l)
  | (.failed f, l) => (.failed (.request (.unreadable .command f)), l)
  | (.complete [v, command, _, addressType], l) =>
    if v = version then readAddress command addressType l
    else (.failed (.request (.version v)), l)
  | (.complete got, l) => (.request got, l)

/-- Tells which method is chosen, or that none will do. -/
def choose (left : Bytes) (refused : Option Bytes) (l : Lookahead) : Handshake × Lookahead :=
  match l.writeAll left, refused with
  | (.blocked, left, l), _ => (.choosing left refused, l)
  | (.failed f, _, l), none => (.failed (.greeting (.methodUnsent f)), l)
  | (.failed f, _, l), some _ => (.failed (.greeting (.refusalUnsent f)), l)
  | (.ready _, _, l), none => readRequest [] l
  | (.ready _, _, l), some offered => (.failed (.greeting (.methods offered)), l)

/-- The number of the method "no authentication". -/
def noAuthentication : UInt8 := 0

/-- The answer that no method will do. -/
def noMethod : UInt8 := 0xFF

/-- Reads the methods. -/
def readMethods (count : Nat) (got : Bytes) (l : Lookahead) : Handshake × Lookahead :=
  match field count got l with
  | (.partly got, l) => (.methods count got, l)
  | (.failed f, l) => (.failed (.greeting (.unreadable .methods f)), l)
  | (.complete offered, l) =>
    if offered.contains noAuthentication then choose [version, noAuthentication] none l
    else choose [version, noMethod] (some offered) l

/-- Reads the start of a greeting. -/
def readGreeting (got : Bytes) (l : Lookahead) : Handshake × Lookahead :=
  match field 2 got l with
  | (.partly got, l) => (.greeting got, l)
  | (.failed f, l) => (.failed (.greeting (.unreadable .methods f)), l)
  | (.complete [v, count], l) =>
    if v = version then readMethods count.toNat [] l else (.failed (.greeting (.version v)), l)
  | (.complete got, l) => (.greeting got, l)

/-- The handshake after everything that can be read and written at the moment. -/
def run (h : Handshake) (l : Lookahead) : Handshake × Lookahead :=
  match h with
  | .greeting got => readGreeting got l
  | .methods count got => readMethods count got l
  | .choosing left refused => choose left refused l
  | .request got => readRequest got l
  | .domainLength command got => readDomainLength command got l
  | .ipv4 command got => readIpv4 command got l
  | .ipv6 command got => readIpv6 command got l
  | .domain command length got => readDomain command length got l
  | .port command host got => readPort command host got l
  | .refusing code flaw => refuse code flaw l
  | .understood r => (.understood r, l)
  | .failed f => (.failed f, l)

end Handshake

end ForwardProxy.Socks5
