import ForwardProxy.Duration

namespace ForwardProxy

/-!
# Growing delays

The delay before an operation is tried again: the least one first, then twice the last one each
time, up to the most.  In the program this is a `RetryBackoff`, whose `next_delay` is
`Backoff.next` and whose `reset` is `Backoff.reset`.
-/

/-- The delays between attempts. -/
structure Backoff where
  /-- The last delay; zero if there has been none since the last success. -/
  current : Nat
  least : Nat
  most : Nat
  deriving DecidableEq, Repr

namespace Backoff

/-- Delays between `least` and `most`. -/
def start (least most : Nat) : Backoff := ⟨0, least, most⟩

/-- The delay after one more failure. -/
def next (b : Backoff) : Backoff :=
  if b.current = 0 then { b with current := b.least }
  else { b with current := min (min (b.current * 2) Duration.largest) b.most }

/-- The delays after a success. -/
def reset (b : Backoff) : Backoff := { b with current := 0 }

end Backoff

end ForwardProxy
