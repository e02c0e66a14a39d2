import ForwardProxy.Failure
import ForwardProxy.Text.Utf8

namespace ForwardProxy

/-!
# Request heads

A request head is a request line and headers, ended by an empty line.  `RequestHead.parse` reads
one from the octets of a complete head and keeps what a tunnel needs: the method and the authority.
This is `parse_request_head`, with a `ConnectRequest` for its answer.

* Line ends are CRLF or LF; empty lines in front of the request line are skipped.
* A method is a row of token characters, a request target a row of visible characters or octets
  from 128 on that is UTF-8; one space follows each.
* The version is `HTTP/1.0` or `HTTP/1.1`.
* A header is a token, a colon, and a value with the spaces and tabs around it dropped.
* `maxHeaders` headers fit; one more is refused once it has been read whole.
-/

/-- The parts of a request head that a tunnel needs. -/
structure RequestHead where
  method : Text
  authority : Text
  deriving DecidableEq, Repr

/-- A header: its name and its value. -/
structure Header where
  name : Bytes
  value : Bytes
  deriving DecidableEq, Repr

namespace RequestHead

/-- How many headers fit. -/
def maxHeaders : Nat := 64

/-- Whether an octet may stand in a method or a header name. -/
def isToken (b : UInt8) : Bool :=
  (0x30 ≤ b && b ≤ 0x39) || (0x41 ≤ b && b ≤ 0x5A) || (0x61 ≤ b && b ≤ 0x7A) ||
    (ascii "!#$%&'*+-.^_`|~").contains b

/-- Whether an octet may stand in a request target. -/
def isTargetOctet (b : UInt8) : Bool := (0x21 ≤ b && b ≤ 0x7E) || 0x80 ≤ b

/-- Whether an octet may stand in a header value. -/
def isValueOctet (b : UInt8) : Bool := b == 0x09 || (0x20 ≤ b && b ≤ 0x7E) || 0x80 ≤ b

/-- Whether an octet is a space or a tab. -/
def isPad (b : UInt8) : Bool := b == 0x20 || b == 0x09

/-- Space. -/
def sp : UInt8 := 0x20

/-- Colon. -/
def colon : UInt8 := 0x3A

/-- Octets that are known to be ASCII, as text. -/
def asciiText (bs : Bytes) : Text := bs.map fun b => Char.ofNat b.toNat

/-- The octets behind the empty lines at the start. -/
def skipEmptyLines : Bytes → Except HeadFlaw Bytes
  | [] => .error .incomplete
  | b :: r =>
    if b = lf then skipEmptyLines r
    else if b = cr then
      match r with
      | [] => .error .incomplete
      | c :: r => if c = lf then skipEmptyLines r else .error .newLine
    else .ok (b :: r)

/-- The octets behind a line end; `flaw` is what an octet other than LF behind CR amounts to. -/
def lineEnd (flaw : HeadFlaw) : Bytes → Except HeadFlaw Bytes
  | [] => .error .incomplete
  | b :: r =>
    if b = lf then .ok r
    else if b = cr then
      match r with
      | [] => .error .incomplete
      | c :: r => if c = lf then .ok r else .error flaw
    else .error flaw

/-- The method and the octets behind the space that ends it. -/
def takeMethod (bs : Bytes) : Except HeadFlaw (Bytes × Bytes) :=
  match bs.dropWhile isToken with
  | [] => .error .incomplete
  | b :: r =>
    if b = sp && !(bs.takeWhile isToken).isEmpty then .ok (bs.takeWhile isToken, r)
    else .error .token

/-- The request target and the octets behind the space that ends it. -/
def takeTarget (bs : Bytes) : Except HeadFlaw (Text × Bytes) :=
  match bs.dropWhile isTargetOctet with
  | [] => .error .incomplete
  | b :: r =>
    let target := bs.takeWhile isTargetOctet
    if b != sp || target.isEmpty then .error .token
    else
      match Utf8.decode? target with
      | none => .error .token
      | some t => .ok (t, r)

/-- The start that the two versions share. -/
def versionStart : Bytes := ascii "HTTP/1."

/-- The octets behind the version.  With fewer than eight octets left the version is incomplete,
    unless they already differ from every version. -/
def takeVersion (bs : Bytes) : Except HeadFlaw Bytes :=
  if 8 ≤ bs.length then
    let v := bs.take 8
    if v = ascii "HTTP/1.0" ∨ v = ascii "HTTP/1.1" then .ok (bs.drop 8) else .error .version
  else if bs.isPrefixOf versionStart then .error .incomplete
  else .error .version

/-- Octets without the spaces and tabs at their end. -/
def trimPadEnd (bs : Bytes) : Bytes := (bs.reverse.dropWhile isPad).reverse

/-- One header and the octets behind its line end. -/
def takeHeader (bs : Bytes) : Except HeadFlaw (Header × Bytes) :=
  let name := bs.takeWhile isToken
  match bs.dropWhile isToken with
  | [] => .error .incomplete
  | b :: r =>
    if b != colon || name.isEmpty then .error .headerName
    else
      let r := r.dropWhile isPad
      match lineEnd .headerValue (r.dropWhile isValueOctet) with
      | .error flaw => .error flaw
      | .ok rest => .ok (⟨name, trimPadEnd (r.takeWhile isValueOctet)⟩, rest)

/-- The octets behind the empty line that ends a head; none if another header follows. -/
def headEnd : Bytes → Except HeadFlaw (Option Bytes)
  | [] => .error .incomplete
  | b :: r =>
    if b = lf then .ok (some r)
    else if b = cr then
      match r with
      | [] => .error .incomplete
      | c :: r => if c = lf then .ok (some r) else .error .newLine
    else .ok none

/-- The headers, for which there are `slots` slots, and the octets behind the head. -/
def takeHeaders : (slots : Nat) → Bytes → Except HeadFlaw (List Header × Bytes)
  | slots, bs =>
    match headEnd bs with
    | .error flaw => .error flaw
    | .ok (some rest) => .ok ([], rest)
    | .ok none =>
      match takeHeader bs with
      | .error flaw => .error flaw
      | .ok (h, rest) =>
        match slots with
        | 0 => .error .tooManyHeaders
        | n + 1 =>
          match takeHeaders n rest with
          | .error flaw => .error flaw
          | .ok (hs, rest) => .ok (h :: hs, rest)

/-- An octet with ASCII capitals made small. -/
def lower (b : UInt8) : UInt8 := if 0x41 ≤ b && b ≤ 0x5A then b + 0x20 else b

/-- Whether a header's name is `Host`, in any case. -/
def Header.isHost (h : Header) : Bool := h.name.map lower == ascii "host"

/-- The value of the first `Host` header; empty if there is none. -/
def hostValue (hs : List Header) : Bytes := ((hs.find? Header.isHost).map Header.value).getD []

/-- The parts of a head: method, request target and headers, with the octets behind it. -/
structure Parts where
  method : Bytes
  target : Text
  headers : List Header
  rest : Bytes

/-- The parts of the head that some octets start with. -/
def parts (bs : Bytes) : Except HeadFlaw Parts := do
  let bs ← skipEmptyLines bs
  let (method, bs) ← takeMethod bs
  let (target, bs) ← takeTarget bs
  let bs ← takeVersion bs
  let bs ← lineEnd .newLine bs
  let (headers, rest) ← takeHeaders maxHeaders bs
  return ⟨method, target, headers, rest⟩

/-- The authority that a head names: its request target or, if that is a path, its `Host` header. -/
def authorityOf (p : Parts) : Except HeadFlaw Text :=
  if p.target.head? = some '/' then
    match Utf8.decode? (hostValue p.headers) with
    | some t => .ok t
    | none => .error .hostNotUtf8
  else .ok p.target

/-- The head that some octets start with. -/
def read (bs : Bytes) : Except HeadFlaw RequestHead :=
  match parts bs with
  | .error flaw => .error flaw
  | .ok p => (authorityOf p).map fun a => ⟨asciiText p.method, a⟩

/-- The failure that a flaw of a head amounts to, `limit` being the cap on heads. -/
def failureOf (limit : Nat) : HeadFlaw → Failure
  | .tooManyHeaders => .requestTooLarge limit
  | flaw => .malformedRequest flaw

/-- The head that some octets start with, `limit` being the cap on heads. -/
def parse (bs : Bytes) (limit : Nat) : Except Failure RequestHead :=
  (read bs).mapError (failureOf limit)

end RequestHead

end ForwardProxy
