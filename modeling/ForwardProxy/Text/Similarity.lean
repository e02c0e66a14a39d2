import ForwardProxy.Bytes

namespace ForwardProxy.Text

/-!
# Similarity of words

The Jaro similarity of two words: a number between 0 and 1, made of the characters that occur in
both at nearly the same place and of how many of those are in another order.

* `similarity` — how similar two words are.
-/

/-- Marks the first unmarked occurrence of `x` at a place from `low` to below `high`; `place` is
    the place of the first character. -/
def mark (x : Char) (low high : Nat) : Nat → List (Char × Bool) → Option (List (Char × Bool))
  | _, [] => none
  | place, (c, marked) :: r =>
    if low ≤ place && place < high && c == x && !marked then some ((c, true) :: r)
    else (mark x low high (place + 1) r).map ((c, marked) :: ·)

/-- The characters of a word that have a partner in another word at most `reach` places away, and
    the other word with the partners marked. -/
def partners (reach : Nat) : Nat → Text → List (Char × Bool) → Text × List (Char × Bool)
  | _, [], other => ([], other)
  | place, x :: r, other =>
    match mark x (place - reach) (place + reach + 1) 0 other with
    | none => partners reach (place + 1) r other
    | some other =>
      let (found, other) := partners reach (place + 1) r other
      (x :: found, other)

/-- How similar two words are. -/
def similarity (a b : Text) : Float :=
  if a.isEmpty && b.isEmpty then 1
  else
    let reach := max a.length b.length / 2 - 1
    let (found, marked) := partners reach 0 a (b.map fun c => (c, false))
    let partnersFound := (marked.filter Prod.snd).map Prod.fst
    let outOfOrder := ((found.zip partnersFound).countP fun p => p.1 != p.2) / 2
    let matching := found.length
    if matching = 0 then 0
    else
      (Float.ofNat matching / Float.ofNat a.length + Float.ofNat matching / Float.ofNat b.length +
        Float.ofNat (matching - outOfOrder) / Float.ofNat matching) / 3

end ForwardProxy.Text
