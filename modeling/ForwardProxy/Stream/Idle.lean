import ForwardProxy.Stream.Lookahead

namespace ForwardProxy

/-!
# Idle deadlines

A stream that gives up once nothing has happened on it for a while.  Every completed read or
write, even one that fails, puts the deadline off; one that is not yet possible fails once the
deadline has come.  What is possible is never refused.  In the program this is an
`IdleTimeoutStream`; its `touch` puts the deadline off, and its `idle_error` is the fault.

* `ByteStream` — what a stream can do, whether or not it is read ahead.
* `IdleTimer.observe` — what an attempt comes to under a timer.
* `IdleStream` — a stream with a timer that all its reads and writes share.
-/

/-- What can be done with a stream of octets. -/
class ByteStream (σ : Type) where
  /-- At most a number of octets; an empty result is the end of the stream. -/
  read : Nat → σ → Attempt Bytes × σ
  /-- Writes as many octets as there is room for. -/
  write : Bytes → σ → Attempt Nat × σ
  /-- Shuts the sending side. -/
  close : σ → σ
  /-- The stream after something that the other side does. -/
  apply : Channel.Event → σ → σ

instance : ByteStream Channel := ⟨Channel.read, Channel.write, Channel.close, Channel.apply⟩

instance : ByteStream Lookahead :=
  ⟨Lookahead.read, Lookahead.write, Lookahead.close, Lookahead.apply⟩

/-- A span and the instant at which it has passed without anything happening. -/
structure IdleTimer where
  span : Nat
  deadline : Nat
  deriving DecidableEq, Repr

namespace IdleTimer

/-- A timer set at `now`. -/
def start (span now : Nat) : IdleTimer := ⟨span, Time.deadline now span⟩

/-- The timer after something happened at `now`. -/
def touch (now : Nat) (t : IdleTimer) : IdleTimer := start t.span now

/-- What an attempt that is not yet possible comes to. -/
def expire {α : Type} (now : Nat) (t : IdleTimer) : Attempt α :=
  if t.deadline ≤ now then .failed (.idle t.span) else .blocked

/-- What an attempt at `now` comes to, and the timer after it. -/
def observe {α : Type} (now : Nat) (attempt : Attempt α) (t : IdleTimer) : Attempt α × IdleTimer :=
  match attempt with
  | .blocked => (t.expire now, t)
  | result => (result, t.touch now)

end IdleTimer

/-- A stream under an idle timer. -/
structure IdleStream (σ : Type) where
  stream : σ
  timer : IdleTimer
  deriving DecidableEq, Repr

namespace IdleStream

variable {σ : Type} [ByteStream σ]

/-- A stream that may be idle for `span` from `now` on. -/
def start (span now : Nat) (stream : σ) : IdleStream σ := ⟨stream, .start span now⟩

/-- At most `n` octets. -/
def read (now n : Nat) (s : IdleStream σ) : Attempt Bytes × IdleStream σ :=
  let (attempt, stream) := ByteStream.read n s.stream
  let (result, timer) := s.timer.observe now attempt
  (result, ⟨stream, timer⟩)

/-- Writes as many octets as there is room for. -/
def write (now : Nat) (bs : Bytes) (s : IdleStream σ) : Attempt Nat × IdleStream σ :=
  let (attempt, stream) := ByteStream.write bs s.stream
  let (result, timer) := s.timer.observe now attempt
  (result, ⟨stream, timer⟩)

/-- Writes everything, or as much as there is room for; the octets left over come with the
    result.  Octets that did not fit make the attempt one that is not yet possible. -/
def writeAll (now : Nat) (bs : Bytes) (s : IdleStream σ) : Attempt Unit × Bytes × IdleStream σ :=
  if bs.isEmpty then (.ready (), [], s)
  else
    match s.write now bs with
    | (.ready k, s) =>
      if k < bs.length then (s.timer.expire now, bs.drop k, s) else (.ready (), [], s)
    | (.blocked, s) => (.blocked, bs, s)
    | (.failed f, s) => (.failed f, bs, s)

/-- Shuts the sending side, which does not put the deadline off. -/
def close (s : IdleStream σ) : IdleStream σ := { s with stream := ByteStream.close s.stream }

/-- The stream after something that the other side does. -/
def apply (e : Channel.Event) (s : IdleStream σ) : IdleStream σ :=
  { s with stream := ByteStream.apply e s.stream }

/-- Under a timer too, a read takes at least what it returns off what there is to read. -/
theorem weight_read_of_ready {now n : Nat} {s s' : IdleStream Lookahead} {bs : Bytes}
    (h : s.read now n = (.ready bs, s')) : s'.stream.weight + bs.length ≤ s.stream.weight := by
  have hr : s.stream.read n = (.ready bs, s'.stream) := by
    simp only [read, ByteStream.read, Prod.mk.injEq] at h
    obtain ⟨h1, rfl⟩ := h
    refine Prod.ext ?_ rfl
    generalize s.stream.read n = p at h1
    obtain ⟨a, l⟩ := p
    cases a with
    | ready bs' => simpa [IdleTimer.observe] using h1
    | blocked =>
      simp only [IdleTimer.observe, IdleTimer.expire] at h1
      split at h1 <;> simp at h1
    | failed f => simp [IdleTimer.observe] at h1
  exact Lookahead.weight_read_of_ready hr

end IdleStream

end ForwardProxy
