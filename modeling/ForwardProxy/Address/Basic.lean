import ForwardProxy.Text.Decimal
import ForwardProxy.Text.Quoted

namespace ForwardProxy

/-!
# Network addresses

* `Ipv4`, `Ipv6`, `IpAddress` — addresses of hosts.
* `SocketAddress` — an address and a port; on IPv6 also the scope the address is meant in.
* `SocketAddress.render` — the text of a socket address: `1.2.3.4:80`, `[::1]:80`, `[fe80::1%3]:80`.

In the text of an IPv6 address the longest run of two or more zero groups, the first of them if
several are longest, is left out between two colons; an address that embeds an IPv4 address is
written with that address at its end.
-/

/-- An IPv4 address, octet by octet. -/
structure Ipv4 where
  a : UInt8
  b : UInt8
  c : UInt8
  d : UInt8
  deriving DecidableEq, Repr

/-- An IPv6 address as its eight groups of sixteen bits. -/
structure Ipv6 where
  groups : List UInt16
  length_groups : groups.length = 8
  deriving DecidableEq, Repr

/-- The address of a host. -/
inductive IpAddress where
  | v4 (ip : Ipv4)
  | v6 (ip : Ipv6)
  deriving DecidableEq, Repr

/-- A place to connect to. -/
inductive SocketAddress where
  | v4 (ip : Ipv4) (port : UInt16)
  | v6 (ip : Ipv6) (port : UInt16) (scope : UInt32)
  deriving DecidableEq, Repr

namespace Ipv4

/-- The text of an IPv4 address: four numbers with dots between them. -/
def render (ip : Ipv4) : Text :=
  Decimal.write ip.a.toNat ++ ['.'] ++ Decimal.write ip.b.toNat ++ ['.'] ++
    Decimal.write ip.c.toNat ++ ['.'] ++ Decimal.write ip.d.toNat

/-- The two groups of sixteen bits that an IPv4 address fills inside an IPv6 address. -/
def groups (ip : Ipv4) : List UInt16 :=
  [Bytes.ofBigEndian16 ip.a ip.b, Bytes.ofBigEndian16 ip.c ip.d]

end Ipv4

namespace Ipv6

/-- The address with these groups, if there are eight of them. -/
def ofGroups? (gs : List UInt16) : Option Ipv6 :=
  if h : gs.length = 8 then some ⟨gs, h⟩ else none

/-- Start and length of the longest run of zero groups, the first of them if several are longest. -/
def longestZeros : List UInt16 → Nat × Nat
  | [] => (0, 0)
  | g :: gs =>
    let here := ((g :: gs).takeWhile (· == 0)).length
    let later := longestZeros gs
    if 0 < here && later.2 ≤ here then (0, here) else (later.1 + 1, later.2)

/-- Groups in lower-case hexadecimal with colons between them. -/
def renderGroups (gs : List UInt16) : Text :=
  [':'].intercalate (gs.map fun g => Text.hexDigits g.toNat)

/-- The IPv4 address embedded in an address of the form `::ffff:a.b.c.d`. -/
def embedded? (ip : Ipv6) : Option Ipv4 :=
  match ip.groups with
  | [0, 0, 0, 0, 0, 0xFFFF, hi, lo] =>
    some ⟨(hi >>> 8).toUInt8, hi.toUInt8, (lo >>> 8).toUInt8, lo.toUInt8⟩
  | _ => none

/-- The text of an IPv6 address. -/
def render (ip : Ipv6) : Text :=
  match ip.embedded? with
  | some v4 => text "::ffff:" ++ v4.render
  | none =>
    let run := longestZeros ip.groups
    if 1 < run.2 then
      renderGroups (ip.groups.take run.1) ++ text "::" ++
        renderGroups (ip.groups.drop (run.1 + run.2))
    else renderGroups ip.groups

end Ipv6

namespace SocketAddress

/-- The port of a socket address. -/
def port : SocketAddress → UInt16
  | v4 _ p => p
  | v6 _ p _ => p

/-- The socket address of a host's address and a port. -/
def ofIp : IpAddress → UInt16 → SocketAddress
  | .v4 ip, p => v4 ip p
  | .v6 ip, p => v6 ip p 0

/-- The address without its scope, which is of meaning on one machine alone. -/
def unscoped : SocketAddress → SocketAddress
  | v4 ip p => v4 ip p
  | v6 ip p _ => v6 ip p 0

/-- The text of a socket address. -/
def render : SocketAddress → Text
  | v4 ip p => ip.render ++ [':'] ++ Decimal.write p.toNat
  | v6 ip p scope =>
    let zone := if scope = 0 then [] else ['%'] ++ Decimal.write scope.toNat
    ['['] ++ ip.render ++ zone ++ [']', ':'] ++ Decimal.write p.toNat

end SocketAddress

end ForwardProxy
