import ForwardProxy.Bytes

namespace ForwardProxy.Decimal

/-!
# Decimal numbers

* `write n` — the decimal digits of `n`, without leading zeros.
* `digitsValue ds` — the number that a row of digits writes, leading zeros allowed.
* `read? s` — the number that `s` writes, if `s` is a non-empty row of digits.
* `readBelow bound s` — the number below `bound` that `s` writes, a plus sign allowed in front, or
  why there is none.
-/

/-- The decimal digits of a number. -/
def write (n : Nat) : Text := Nat.toDigits 10 n

/-- The value of one digit. -/
def digitValue (c : Char) : Nat := c.toNat - '0'.toNat

/-- The number that a row of digits writes. -/
def digitsValue (ds : Text) : Nat := ds.foldl (fun acc c => acc * 10 + digitValue c) 0

/-- The number that a non-empty row of digits writes; anything else writes none. -/
def read? (s : Text) : Option Nat :=
  if s.isEmpty || !s.all Char.isDigit then none else some (digitsValue s)

/-- Why a text writes no number below a bound. -/
inductive Flaw where
  | empty
  | invalidDigit
  | tooLarge
  deriving DecidableEq, Repr

/-- The wording of a flaw. -/
def Flaw.message : Flaw → String
  | empty => "cannot parse integer from empty string"
  | invalidDigit => "invalid digit found in string"
  | tooLarge => "number too large to fit in target type"

/-- Digits added to a number, the first flaw on the way deciding. -/
def extend (bound : Nat) : (acc : Nat) → Text → Except Flaw Nat
  | acc, [] => .ok acc
  | acc, c :: r =>
    if !c.isDigit then .error .invalidDigit
    else if acc * 10 + digitValue c < bound then extend bound (acc * 10 + digitValue c) r
    else .error .tooLarge

/-- The number below `bound` that a text writes. -/
def readBelow (bound : Nat) : Text → Except Flaw Nat
  | [] => .error .empty
  | ['+'] => .error .invalidDigit
  | '+' :: r => extend bound 0 r
  | s => extend bound 0 s

end ForwardProxy.Decimal
