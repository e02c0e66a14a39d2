import ForwardProxy.Text.Decimal

namespace ForwardProxy

/-!
# Durations and deadlines

An instant is the number of nanoseconds since the start of the program, a duration is a number
of nanoseconds, at most `Duration.largest`.  Both are plain natural numbers.

* `Duration.describe` — the text of a duration: the largest unit of s, ms, µs, ns that it fills, and
  up to nine digits behind the point, without trailing zeros.
* `Time.deadline` — the instant a duration ahead.  One that lies past the end of the clock is
  replaced by an instant thirty years ahead: this is `deadline_after`, with its `FAR_FUTURE`.
-/

namespace Duration

/-- A span of whole seconds. -/
abbrev ofSeconds (n : Nat) : Nat := n * 1000000000

/-- A span of whole milliseconds. -/
abbrev ofMillis (n : Nat) : Nat := n * 1000000

/-- The largest span: 2^64 - 1 seconds and 999999999 nanoseconds. -/
def largest : Nat := 18446744073709551615999999999

/-- A row of digits without the zeros at its end. -/
def dropTrailingZeros (s : Text) : Text := (s.reverse.dropWhile (· == '0')).reverse

/-- `n` written in exactly `width` digits, zeros in front. -/
def padded (width n : Nat) : Text :=
  let ds := Decimal.write n
  List.replicate (width - ds.length) '0' ++ ds

/-- A whole number of a unit and the rest of it, which is below `10 ^ width`. -/
def withFraction (whole rest width : Nat) : String :=
  let tail := dropTrailingZeros (padded width rest)
  if rest = 0 || tail.isEmpty then toString whole else s!"{whole}.{String.ofList tail}"

/-- The text of a duration. -/
def describe (d : Nat) : String :=
  if 1000000000 ≤ d then withFraction (d / 1000000000) (d % 1000000000) 9 ++ "s"
  else if 1000000 ≤ d then withFraction (d / 1000000) (d % 1000000) 6 ++ "ms"
  else if 1000 ≤ d then withFraction (d / 1000) (d % 1000) 3 ++ "µs"
  else toString d ++ "ns"

end Duration

namespace Time

/-- The end of the clock, 2^63 seconds: no instant lies as late. -/
def horizon : Nat := Duration.ofSeconds 9223372036854775808

/-- How far ahead a deadline is put that would lie past the end of the clock: thirty years. -/
def farAhead : Nat := Duration.ofSeconds (86400 * 365 * 30)

/-- The instant `d` after `now`, or thirty years ahead if the clock does not reach that far. -/
def deadline (now d : Nat) : Nat :=
  if now + d < horizon then now + d else now + farAhead

/-- Up to the end of the clock, the deadline is the sum of the two. -/
theorem deadline_of_lt {now d : Nat} (h : now + d < horizon) :
    deadline now d = now + d := by simp [deadline, h]

/-- No deadline lies behind the instant that it is reckoned from. -/
theorem le_deadline (now d : Nat) : now ≤ deadline now d := by
  unfold deadline; split <;> omega

/-- The deadline of a duration above zero lies ahead. -/
theorem lt_deadline {d : Nat} (hd : 0 < d) (now : Nat) : now < deadline now d := by
  have hfar : 0 < farAhead := by decide
  unfold deadline; split <;> omega

end Time

end ForwardProxy
