import ForwardProxy.Text.Decimal

namespace ForwardProxy.Binary64

/-!
# Decimal text of binary64 numbers

The fewest digits that read back as the number; of two candidates with as few digits, the nearer.

* `decompose` — a finite positive number as `m · 2 ^ q`.
* `shortest` — its digits and the exponent of the first of them.
* `describe` — its text: positional while the exponent of the first digit lies between -5
  and 15, scientific with the sign of the exponent otherwise.
-/

/-- The numerator and the denominator of `m · 2 ^ q`, scaled by `10 ^ k`. -/
def scaled (m : Nat) (q k : Int) : Nat × Nat :=
  (m * Nat.pow 2 q.toNat * Nat.pow 10 k.toNat, Nat.pow 2 (-q).toNat * Nat.pow 10 (-k).toNat)

/-- The leading bit of a mantissa, which is not written: 2^52. -/
def hidden : Nat := 0x10000000000000

/-- The bit of the sign: 2^63. -/
def signBit : Nat := 0x8000000000000000

/-- Mantissa and exponent of a finite positive number, from its bits. -/
def decompose (bits : UInt64) : Nat × Int :=
  let frac : Nat := bits.toNat % hidden
  let expo : Nat := bits.toNat / hidden % 2048
  if expo = 0 then (frac, -1074) else (hidden + frac, (expo : Int) - 1075)

/-- Whether the decimal `d · 10 ^ (-k)` rounds to `m · 2 ^ q`: it lies between the midpoints to the
    two neighbours, the midpoints included if `m` is even. -/
def roundsTo (m : Nat) (q : Int) (d : Nat) (k : Int) : Bool :=
  -- four times every quantity, so that the midpoint below a power of two is whole
  let (n, den) := scaled (4 * m) q k
  let (unit, _) := scaled 1 q k
  let below := if m = hidden ∧ -1074 < q then unit else 2 * unit
  let x := 4 * d * den
  if m % 2 = 0 then n ≤ x + below && x ≤ n + 2 * unit
  else n < x + below && x < n + 2 * unit

/-- The exponent of the first digit of a positive fraction. -/
def leadingExponent (num den : Nat) : Int :=
  if den ≤ num then ((Decimal.write (num / den)).length : Int) - 1
  else
    let e := (Decimal.write (den / num)).length
    -- `den / num` has `e` digits, so the fraction lies between 10 ^ -e and 10 ^ (1 - e)
    if den ≤ num * Nat.pow 10 (e - 1) then 1 - (e : Int) else -(e : Int)

/-- The nearest decimal of `digits` digits that rounds to the number, if there is one: its digits
    as a number and the power of ten it is scaled by. -/
def candidate (m : Nat) (q : Int) (lead : Int) (digits : Nat) : Option (Nat × Int) :=
  let k : Int := (digits : Int) - 1 - lead
  let (n, den) := scaled m q k
  let down := n / den
  let up := down + 1
  let downOk := roundsTo m q down k
  let upOk := roundsTo m q up k
  if downOk && (!upOk || 2 * (n % den) ≤ den) then some (down, k)
  else if upOk then some (up, k)
  else none

/-- The digits of a positive number and the exponent of the first of them. -/
def shortest (bits : UInt64) : Text × Int :=
  let (m, q) := decompose bits
  let (n, den) := scaled m q 0
  let lead := leadingExponent n den
  let pick := (List.range 17).findSome? fun i => candidate m q lead (i + 1)
  let (d, k) := pick.getD (m, 0)
  let ds := Decimal.write d
  let short := (ds.reverse.dropWhile (· == '0')).reverse
  (short, (ds.length : Int) - 1 - k)

/-- The exponent from which on a number is written in scientific notation. -/
def scientificFrom : Int := 16

/-- The least exponent at which a number is written positionally. -/
def positionalFrom : Int := -5

/-- The text of digits and the exponent of the first of them. -/
def layout (ds : Text) (e : Int) : Text :=
  if e < positionalFrom ∨ scientificFrom ≤ e then
    let sign := if e < 0 then '-' else '+'
    let fraction := if ds.tail.isEmpty then [] else '.' :: ds.tail
    ds.take 1 ++ fraction ++ ['e', sign] ++ Decimal.write e.natAbs
  else if e < 0 then
    text "0." ++ List.replicate (e.natAbs - 1) '0' ++ ds
  else
    let whole := e.toNat + 1
    if ds.length ≤ whole then ds ++ List.replicate (whole - ds.length) '0' ++ text ".0"
    else ds.take whole ++ ['.'] ++ ds.drop whole

/-- The text of a finite number. -/
def describe (x : Float) : String :=
  let bits := x.toBits
  let sign := if bits.toNat / signBit = 1 then "-" else ""
  let magnitude := UInt64.ofNat (bits.toNat % signBit)
  if magnitude = 0 then sign ++ "0.0"
  else
    let (ds, e) := shortest magnitude
    sign ++ String.ofList (layout ds e)

end ForwardProxy.Binary64
