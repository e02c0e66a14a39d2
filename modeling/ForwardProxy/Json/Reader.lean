import ForwardProxy.Json.Flaw
import ForwardProxy.Text.Binary64
import ForwardProxy.Text.Utf8

namespace ForwardProxy.Json

/-!
# Pieces of JSON

Readers of white space, strings, numbers and words.  Each takes what it understands off the front
of the octets and returns its value with the octets left.

A flaw is placed by the number of octets left behind its place (`Slip.unread`): `slipAt` places it
where the reader stands, `slipNext` behind the next octet, if there is one.
-/

/-- A flaw and how many octets lie behind its place. -/
structure Slip where
  flaw : Flaw
  unread : Nat
  deriving DecidableEq, Repr

/-- A flaw placed where the reader stands. -/
def slipAt (flaw : Flaw) (left : Bytes) : Slip := ⟨flaw, left.length⟩

/-- A flaw placed behind the next octet, or at the end if there is none. -/
def slipNext (flaw : Flaw) (left : Bytes) : Slip := ⟨flaw, left.length - 1⟩

/-- The place of a flaw in the whole text: lines and columns count from one, and a column is the
    number of octets since the last line feed. -/
def Slip.locate (s : Slip) (whole : Bytes) : Misread :=
  let read := whole.take (whole.length - s.unread)
  ⟨s.flaw, 1 + read.count lf, (read.reverse.takeWhile (· != lf)).length⟩

/-- Whether an octet is white space of JSON. -/
def isBlank (b : UInt8) : Bool := b == 0x20 || b == 0x0A || b == 0x09 || b == 0x0D

/-- The octets behind the white space at the start. -/
def skipBlank (bs : Bytes) : Bytes := bs.dropWhile isBlank

/-- Whether an octet is a digit. -/
def isDigit (b : UInt8) : Bool := 0x30 ≤ b && b ≤ 0x39

/-- The value of a digit. -/
def digitValue (b : UInt8) : Nat := b.toNat - 0x30

/-- The octet of an ASCII character. -/
def octet (c : Char) : UInt8 := UInt8.ofNat c.toNat

/-! ### Words -/

/-- The octets behind the rest of a word. -/
def word : (rest : Bytes) → Bytes → Except Slip Bytes
  | [], bs => .ok bs
  | _ :: _, [] => .error (slipAt .endInValue [])
  | w :: ws, b :: bs => if b = w then word ws bs else .error (slipAt .noWord bs)

/-! ### Strings -/

/-- Where a reader stands inside a string. -/
inductive StringState where
  | plain
  /-- Behind a backslash. -/
  | escape
  /-- Inside the four digits of an escape, behind the first half of a pair if there is one. -/
  | hex (high : Option Nat) (digits : Bytes)
  /-- Behind the first half of a pair. -/
  | high (unit : Nat)
  /-- Behind the first half of a pair and a backslash. -/
  | highEscape (unit : Nat)

/-- The value of a hexadecimal digit. -/
def hexValue? (b : UInt8) : Option Nat :=
  if isDigit b then some (digitValue b)
  else if 0x61 ≤ b && b ≤ 0x66 then some (b.toNat - 0x61 + 10)
  else if 0x41 ≤ b && b ≤ 0x46 then some (b.toNat - 0x41 + 10)
  else none

/-- The number that hexadecimal digits write. -/
def hexNumber? (ds : Bytes) : Option Nat :=
  ds.foldlM (fun acc b => (hexValue? b).map (acc * 16 + ·)) 0

/-- The octet that a one-letter escape stands for. -/
def shortEscape? (b : UInt8) : Option UInt8 :=
  if b = octet '"' then some (octet '"')
  else if b = octet '\\' then some (octet '\\')
  else if b = octet '/' then some (octet '/')
  else if b = octet 'b' then some 0x08
  else if b = octet 'f' then some 0x0C
  else if b = octet 'n' then some 0x0A
  else if b = octet 'r' then some 0x0D
  else if b = octet 't' then some 0x09
  else none

/-- The string whose opening quote has been read; `out` holds its octets so far, last one first. -/
def stringBody : StringState → (out : Bytes) → Bytes → Except Slip (Bytes × Bytes)
  | _, _, [] => .error (slipAt .endInString [])
  | .plain, out, b :: r =>
    if b = octet '"' then .ok (out.reverse, r)
    else if b = octet '\\' then stringBody .escape out r
    else if b < 0x20 then .error (slipAt .controlCharacter r)
    else stringBody .plain (b :: out) r
  | .escape, out, b :: r =>
    if b = octet 'u' then stringBody (.hex none []) out r
    else
      match shortEscape? b with
      | some x => stringBody .plain (x :: out) r
      | none => .error (slipAt .escape r)
  | .hex first ds, out, b :: r =>
    let ds := ds ++ [b]
    if ds.length < 4 then stringBody (.hex first ds) out r
    else
      match hexNumber? ds, first with
      | none, _ => .error (slipAt .escape r)
      | some n, none =>
        if 0xDC00 ≤ n && n ≤ 0xDFFF then .error (slipAt .loneSurrogate r)
        else if 0xD800 ≤ n && n ≤ 0xDBFF then stringBody (.high n) out r
        else stringBody .plain ((String.utf8EncodeChar (Char.ofNat n)).reverse ++ out) r
      | some n, some m =>
        if n < 0xDC00 || 0xDFFF < n then .error (slipAt .loneSurrogate r)
        else
          let c := Char.ofNat ((m - 0xD800) * 1024 + (n - 0xDC00) + 0x10000)
          stringBody .plain ((String.utf8EncodeChar c).reverse ++ out) r
  | .high n, out, b :: r =>
    if b = octet '\\' then stringBody (.highEscape n) out r
    else .error (slipAt .unpairedSurrogate r)
  | .highEscape n, out, b :: r =>
    if b = octet 'u' then stringBody (.hex (some n) []) out r
    else .error (slipAt .unpairedSurrogate r)

/-- The text of a string whose opening quote has been read. -/
def string (bs : Bytes) : Except Slip (Text × Bytes) :=
  (stringBody .plain [] bs).map fun r => ((Utf8.decode? r.1).getD [], r.2)

/-! ### Numbers -/

/-- A number as it is written. -/
inductive Number where
  | natural (n : Nat)
  | negative (n : Int)
  /-- A number with a fraction or an exponent, or one too large for the others. -/
  | real (x : Float)

/-- The largest whole number that is kept exactly. -/
def maxSignificand : Nat := 0xFFFFFFFFFFFFFFFF

/-- Digits taken into a significand while it stays exact: the significand and how many digits
    were taken. -/
def absorb (significand : Nat) : Bytes → Nat × Nat
  | [] => (significand, 0)
  | d :: ds =>
    let next := significand * 10 + digitValue d
    if maxSignificand < next then (significand, 0)
    else
      let more := absorb next ds
      (more.1, more.2 + 1)

/-- A positive float divided by `10 ^ e`, in steps that keep the divisor finite. -/
def divided (x : Float) (e : Nat) : Float :=
  if e ≤ 308 then x / Float.ofScientific 1 false e
  else if x == 0 then x
  else divided (x / 1e308) (e - 308)
termination_by e

/-- The float of a significand and a power of ten; none if it is not finite. -/
def scaled? (significand : Nat) (e : Int) : Option Float :=
  let x := Float.ofNat significand
  if e < 0 then some (divided x e.natAbs)
  else if 308 < e then (if x == 0 then some x else none)
  else
    let y := x * Float.ofScientific 1 false e.toNat
    if y.isInf then none else some y

/-- A float with its sign. -/
def signed (positive : Bool) (x : Float) : Float := if positive then x else -x

/-- The float that ends where the reader stands. -/
def finishReal (positive : Bool) (significand : Nat) (e : Int) (bs : Bytes) :
    Except Slip (Number × Bytes) :=
  match scaled? significand e with
  | some x => .ok (.real (signed positive x), bs)
  | none => .error (slipAt .outOfRange bs)

/-- The largest exponent that is taken at its value. -/
def maxExponent : Nat := 0x7FFFFFFF

/-- The value of a row of digits, or the octets behind the digit at which it grows too large. -/
def exponentValue (acc : Nat) : Bytes → Bytes → Except Bytes Nat
  | [], _ => .ok acc
  | d :: ds, behind =>
    let next := acc * 10 + digitValue d
    if maxExponent < next then .error (ds ++ behind) else exponentValue next ds behind

/-- The number whose exponent mark has been read. -/
def exponentPart (positive : Bool) (significand : Nat) (e : Int) (bs : Bytes) :
    Except Slip (Number × Bytes) :=
  let (up, bs) :=
    match bs with
    | [] => (true, [])
    | b :: r =>
      if b = octet '+' then (true, r) else if b = octet '-' then (false, r) else (true, bs)
  match bs with
  | [] => .error (slipAt .endInValue [])
  | b :: r =>
    if !isDigit b then .error (slipAt .number r)
    else
      let ds := bs.takeWhile isDigit
      let behind := bs.dropWhile isDigit
      match exponentValue 0 ds behind with
      | .ok n => finishReal positive significand (if up then e + n else e - n) behind
      | .error left =>
        if significand != 0 && up then .error (slipAt .outOfRange left)
        else .ok (.real (signed positive 0), behind)

/-- What may follow the digits of a number: an exponent, or its end. -/
def realEnd (positive : Bool) (significand : Nat) (e : Int) (bs : Bytes) :
    Except Slip (Number × Bytes) :=
  match bs with
  | b :: r =>
    if b = octet 'e' || b = octet 'E' then exponentPart positive significand e r
    else finishReal positive significand e bs
  | [] => finishReal positive significand e []

/-- The number whose decimal point has been read. -/
def fractionPart (positive : Bool) (significand : Nat) (e : Int) (bs : Bytes) :
    Except Slip (Number × Bytes) :=
  let ds := bs.takeWhile isDigit
  if ds.isEmpty then
    .error (slipNext (if bs.isEmpty then .endInValue else .number) bs)
  else
    let (n, taken) := absorb significand ds
    realEnd positive n (e - taken) (bs.dropWhile isDigit)

/-- A whole number with its sign; those that do not fit 64 bits, and minus zero, are floats. -/
def wholeNumber (positive : Bool) (n : Nat) : Number :=
  if positive then .natural n
  else if 0 < n && n ≤ 0x8000000000000000 then .negative (-(n : Int))
  else .real (-(Float.ofNat n))

/-- The number whose first digit comes next. -/
def digits (positive : Bool) (bs : Bytes) : Except Slip (Number × Bytes) :=
  let ds := bs.takeWhile isDigit
  let behind := bs.dropWhile isDigit
  let (n, taken) := absorb 0 ds
  let dropped : Int := (ds.length : Int) - taken
  match behind with
  | b :: r =>
    if b = octet '.' then fractionPart positive n dropped r
    else if b = octet 'e' || b = octet 'E' then exponentPart positive n dropped r
    else if dropped = 0 then .ok (wholeNumber positive n, behind)
    else finishReal positive n dropped behind
  | [] =>
    if dropped = 0 then .ok (wholeNumber positive n, []) else finishReal positive n dropped []

/-- A number whose sign has been read. -/
def number (positive : Bool) : Bytes → Except Slip (Number × Bytes)
  | [] => .error (slipAt .endInValue [])
  | b :: r =>
    if !isDigit b then .error (slipAt .number r)
    else if b = octet '0' && r.head?.any isDigit then .error (slipNext .number r)
    else digits positive (b :: r)

/-- What a number is called when another value was expected. -/
def Number.found : Number → Found
  | natural n => .integer n
  | negative n => .integer n
  | real x => .real (Binary64.describe x)

end ForwardProxy.Json
