import ForwardProxy.Address.Basic

namespace ForwardProxy

/-!
# Reading network addresses

Readers of addresses in their usual text.  Each reader takes what it understands off the front of
a text and returns the value with the rest; `IpAddress.parse?` and `SocketAddress.parse?` accept a
text only as a whole.

* A number of an IPv4 address has one to three digits and no leading zero.
* A group of an IPv6 address has one to four hexadecimal digits; the last two groups may be written
  as an IPv4 address; `::` stands for one or more zero groups.
* A port and a scope are rows of digits, leading zeros allowed, that fit their width.
-/

namespace Address

/-- The value of a digit in a base up to 16. -/
def digit? (base : Nat) (c : Char) : Option Nat :=
  let v :=
    if c.isDigit then c.toNat - '0'.toNat
    else if 'a' ≤ c && c ≤ 'f' then c.toNat - 'a'.toNat + 10
    else if 'A' ≤ c && c ≤ 'F' then c.toNat - 'A'.toNat + 10
    else base
  if v < base then some v else none

/-- The number that a row of digits writes in a base. -/
def numberOf (base : Nat) (ds : Text) : Nat :=
  ds.foldl (fun acc c => acc * base + (digit? base c).getD 0) 0

/-- A number below `bound` off the front of a text: the whole row of digits there, at most
    `maxDigits` of them if that is given, and without a leading zero unless `zeros` allows it. -/
def number? (base : Nat) (maxDigits : Option Nat) (zeros : Bool) (bound : Nat) (s : Text) :
    Option (Nat × Text) :=
  let ds := s.takeWhile fun c => (digit? base c).isSome
  let n := numberOf base ds
  if ds.isEmpty then none
  else if maxDigits.any (· < ds.length) then none
  else if !zeros && ds.head? == some '0' && 1 < ds.length then none
  else if n < bound then some (n, s.drop ds.length)
  else none

/-- A given character off the front of a text. -/
def char? (c : Char) : Text → Option Text
  | x :: r => if x = c then some r else none
  | [] => none

/-- What `p` reads, behind a separator unless it is the first of its row. -/
def separated? {α : Type} (sep : Char) (first : Bool) (p : Text → Option (α × Text)) (s : Text) :
    Option (α × Text) :=
  if first then p s else (char? sep s).bind p

/-- One number of an IPv4 address. -/
def octet? (s : Text) : Option (UInt8 × Text) :=
  (number? 10 (some 3) false 256 s).map fun r => (UInt8.ofNat r.1, r.2)

/-- An IPv4 address. -/
def ipv4? (s : Text) : Option (Ipv4 × Text) := do
  let (a, s) ← octet? s
  let (b, s) ← separated? '.' false octet? s
  let (c, s) ← separated? '.' false octet? s
  let (d, s) ← separated? '.' false octet? s
  return (⟨a, b, c, d⟩, s)

/-- One group of an IPv6 address. -/
def group? (s : Text) : Option (UInt16 × Text) :=
  (number? 16 (some 4) true 65536 s).map fun r => (UInt16.ofNat r.1, r.2)

/-- At most `limit` groups with colons between them; the flag tells that they end in an IPv4
    address, which needs room for two. -/
def groups : (limit : Nat) → (first : Bool) → Text → List UInt16 × Bool × Text
  | 0, _, s => ([], false, s)
  | n + 1, first, s =>
    match (if 0 < n then separated? ':' first ipv4? s else none) with
    | some (ip, rest) => (ip.groups, true, rest)
    | none =>
      match separated? ':' first group? s with
      | none => ([], false, s)
      | some (g, rest) =>
        let more := groups n false rest
        (g :: more.1, more.2)

/-- An IPv6 address. -/
def ipv6? (s : Text) : Option (Ipv6 × Text) :=
  let (head, v4, rest) := groups 8 true s
  if head.length = 8 then (Ipv6.ofGroups? head).map (·, rest)
  else if v4 then none
  else
    match rest with
    | ':' :: ':' :: rest =>
      let (tail, _, rest) := groups (8 - (head.length + 1)) true rest
      let zeros := List.replicate (8 - head.length - tail.length) 0
      (Ipv6.ofGroups? (head ++ zeros ++ tail)).map (·, rest)
    | _ => none

/-- A port behind a colon. -/
def port? (s : Text) : Option (UInt16 × Text) :=
  (char? ':' s).bind fun s => (number? 10 none true 65536 s).map fun r => (UInt16.ofNat r.1, r.2)

/-- A scope behind a percent sign; zero, and nothing taken, if there is none. -/
def scope (s : Text) : UInt32 × Text :=
  match (char? '%' s).bind (number? 10 none true 0x100000000) with
  | some (n, rest) => (UInt32.ofNat n, rest)
  | none => (0, s)

/-- An IPv4 address with its port. -/
def socketV4? (s : Text) : Option (SocketAddress × Text) := do
  let (ip, s) ← ipv4? s
  let (p, s) ← port? s
  return (.v4 ip p, s)

/-- An IPv6 address in brackets with its port. -/
def socketV6? (s : Text) : Option (SocketAddress × Text) := do
  let s ← char? '[' s
  let (ip, s) ← ipv6? s
  let (zone, s) := scope s
  let s ← char? ']' s
  let (p, s) ← port? s
  return (.v6 ip p zone, s)

/-- The value of a reader that leaves nothing over. -/
def whole? {α : Type} (p : Text → Option (α × Text)) (s : Text) : Option α :=
  match p s with
  | some (a, []) => some a
  | _ => none

end Address

/-- The socket address that a text writes. -/
def SocketAddress.parse? (s : Text) : Option SocketAddress :=
  match Address.socketV4? s with
  | some (a, rest) => if rest.isEmpty then some a else none
  | none => Address.whole? Address.socketV6? s

/-- The host address that a text writes. -/
def IpAddress.parse? (s : Text) : Option IpAddress :=
  match (if s.length ≤ 15 then Address.whole? Address.ipv4? s else none) with
  | some ip => some (.v4 ip)
  | none => (Address.whole? Address.ipv6? s).map .v6

end ForwardProxy
