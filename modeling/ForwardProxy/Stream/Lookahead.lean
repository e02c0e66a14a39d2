import ForwardProxy.Stream.Channel

namespace ForwardProxy

/-!
# Reading ahead

A channel with a buffer of octets that have been read from it but not taken yet.  Looking at the
next octet fills the buffer and takes nothing; every read empties the buffer first; writes pass it
by.  In the program this is a `PeekedStream`, and looking at the next octet is its `peek_byte`.

* `Lookahead.fill`, `Lookahead.peek`, `Lookahead.read`, `Lookahead.consume` — the reading
  operations.
* `Lookahead.readExact` — a given number of octets.
* `Lookahead.scan` — octets one at a time until a scanner has seen enough; `Lookahead.readUntil` is
  the scanner that stops at one octet.
* `Lookahead.weight` — how much there is to read, the buffer included.
-/

/-- A channel and the octets read ahead from it. -/
structure Lookahead where
  channel : Channel
  ahead : Bytes
  deriving DecidableEq, Repr

namespace Lookahead

/-- How many octets the buffer holds. -/
def capacity : Nat := 8192

/-- A channel from which nothing has been read ahead. -/
def ofChannel (c : Channel) : Lookahead := ⟨c, []⟩

/-- The octets read ahead, after reading some if there were none; empty at the end of the stream. -/
def fill (l : Lookahead) : Attempt Bytes × Lookahead :=
  if l.ahead.isEmpty then
    match l.channel.read capacity with
    | (.ready bs, c) => (.ready bs, ⟨c, bs⟩)
    | (.blocked, c) => (.blocked, ⟨c, []⟩)
    | (.failed f, c) => (.failed f, ⟨c, []⟩)
  else (.ready l.ahead, l)

/-- The next octet, which stays where it is; none at the end of the stream. -/
def peek (l : Lookahead) : Attempt (Option UInt8) × Lookahead :=
  match l.fill with
  | (.ready bs, l) => (.ready bs.head?, l)
  | (.blocked, l) => (.blocked, l)
  | (.failed f, l) => (.failed f, l)

/-- The buffer without its first `n` octets. -/
def consume (n : Nat) (l : Lookahead) : Lookahead := { l with ahead := l.ahead.drop n }

/-- At most `n` octets; empty at the end of the stream.  A read that could fill the whole buffer
    passes an empty buffer by. -/
def read (n : Nat) (l : Lookahead) : Attempt Bytes × Lookahead :=
  if l.ahead.isEmpty && capacity ≤ n then
    match l.channel.read n with
    | (result, c) => (result, ⟨c, []⟩)
  else
    match l.fill with
    | (.ready bs, l) => (.ready (bs.take n), l.consume n)
    | (.blocked, l) => (.blocked, l)
    | (.failed f, l) => (.failed f, l)

/-- Writes as many octets as there is room for. -/
def write (bs : Bytes) (l : Lookahead) : Attempt Nat × Lookahead :=
  match l.channel.write bs with
  | (result, c) => (result, { l with channel := c })

/-- Writes everything, or as much as there is room for. -/
def writeAll (bs : Bytes) (l : Lookahead) : Attempt Unit × Bytes × Lookahead :=
  match l.channel.writeAll bs with
  | (result, left, c) => (result, left, { l with channel := c })

/-- Shuts the sending side. -/
def close (l : Lookahead) : Lookahead := { l with channel := l.channel.close }

/-- The stream after something that the other side does. -/
def apply (e : Channel.Event) (l : Lookahead) : Lookahead :=
  { l with channel := l.channel.apply e }

/-- The stream after all that the other side does. -/
def applyAll (es : List Channel.Event) (l : Lookahead) : Lookahead :=
  es.foldl (fun l e => l.apply e) l

/-! ### How much there is to read -/

/-- How much there is to read, the buffer included. -/
def weight (l : Lookahead) : Nat := l.ahead.length + l.channel.pending

/-- Filling the buffer moves octets into it and leaves no more than there was to read. -/
theorem weight_fill_of_ready {l l' : Lookahead} {bs : Bytes} (h : l.fill = (.ready bs, l')) :
    l'.ahead = bs ∧ l'.weight ≤ l.weight := by
  unfold fill at h
  split at h
  · rename_i he
    split at h <;> simp only [Prod.mk.injEq, Attempt.ready.injEq, reduceCtorEq, false_and] at h
    rename_i bs' c hr
    obtain ⟨rfl, rfl⟩ := h
    have := Channel.pending_read_of_ready hr
    exact ⟨rfl, by simp only [weight]; omega⟩
  · simp only [Prod.mk.injEq, Attempt.ready.injEq] at h
    obtain ⟨rfl, rfl⟩ := h
    exact ⟨rfl, Nat.le_refl _⟩

/-- A fill that fails takes the fault off what there is to read. -/
theorem weight_fill_of_failed {l l' : Lookahead} {f : Fault} (h : l.fill = (.failed f, l')) :
    l'.weight < l.weight := by
  unfold fill at h
  split at h
  · rename_i he
    split at h <;> simp only [Prod.mk.injEq, Attempt.failed.injEq, reduceCtorEq, false_and] at h
    rename_i f' c hr
    obtain ⟨rfl, rfl⟩ := h
    have := Channel.pending_read_of_failed hr
    simp only [weight, List.length_nil]
    omega
  · simp at h

/-- A read takes at least what it returns off what there is to read. -/
theorem weight_read_of_ready {l l' : Lookahead} {n : Nat} {bs : Bytes}
    (h : l.read n = (.ready bs, l')) : l'.weight + bs.length ≤ l.weight := by
  unfold read at h
  split at h
  · rename_i he
    simp only [Prod.mk.injEq] at h
    obtain ⟨h1, rfl⟩ := h
    have hc : l.channel.read n = (.ready bs, (l.channel.read n).2) := by rw [← h1]
    have := Channel.pending_read_of_ready hc
    simp only [weight, List.length_nil]
    omega
  · split at h <;> simp only [Prod.mk.injEq, Attempt.ready.injEq, reduceCtorEq, false_and] at h
    rename_i bs' l'' hf
    obtain ⟨rfl, rfl⟩ := h
    obtain ⟨ha, hw⟩ := weight_fill_of_ready hf
    simp only [weight, consume, List.length_drop, List.length_take, ha] at hw ⊢
    omega

/-! ### Longer reads -/

/-- Takes `n` octets; with the result come the octets taken, which are fewer if the attempt is
    blocked or fails. -/
def readExact (n : Nat) (l : Lookahead) : Attempt Unit × Bytes × Lookahead :=
  if n = 0 then (.ready (), [], l)
  else
    match l.read n with
    | (.blocked, l) => (.blocked, [], l)
    | (.failed f, l) => (.failed f, [], l)
    | (.ready [], l) => (.failed Fault.earlyEnd, [], l)
    | (.ready (b :: bs), l) =>
      let (result, more, l) := readExact (n - (b :: bs).length) l
      (result, b :: bs ++ more, l)
termination_by n
decreasing_by simp only [List.length_cons]; omega

/-- How a scan ends. -/
inductive Scan (σ : Type) where
  /-- The scanner has seen enough. -/
  | stopped (state : σ)
  /-- The stream has ended. -/
  | ended (state : σ)
  | blocked (state : σ)
  | failed (fault : Fault) (state : σ)

/-- Octets given to a scanner until it stops: its state, whether it has stopped, and the octets
    left. -/
def scanList {σ : Type} (step : σ → UInt8 → σ × Bool) : σ → Bytes → σ × Bool × Bytes
  | s, [] => (s, false, [])
  | s, b :: r =>
    match step s b with
    | (s, true) => (s, true, r)
    | (s, false) => scanList step s r

/-- Takes octets one at a time until the scanner stops.  An interrupted read is tried again. -/
def scan {σ : Type} (step : σ → UInt8 → σ × Bool) (s : σ) (l : Lookahead) : Scan σ × Lookahead :=
  match _h : l.fill with
  | (.blocked, l) => (.blocked s, l)
  | (.failed f, l) => if f.kind = .interrupted then scan step s l else (.failed f s, l)
  | (.ready [], l) => (.ended s, l)
  | (.ready (b :: bs), l) =>
    match scanList step s (b :: bs) with
    | (s, true, left) => (.stopped s, { l with ahead := left })
    | (s, false, _) => scan step s { l with ahead := [] }
termination_by l.weight
decreasing_by
  · exact weight_fill_of_failed _h
  · obtain ⟨ha, hw⟩ := weight_fill_of_ready _h
    simp only [weight, ha, List.length_cons, List.length_nil] at hw ⊢
    omega

/-- Takes octets up to and including the first `delimiter`; with the result come the octets taken.
    The end of the stream stands for a delimiter. -/
def readUntil (delimiter : UInt8) (l : Lookahead) : Attempt Unit × Bytes × Lookahead :=
  match l.scan (fun taken b => (b :: taken, b == delimiter)) [] with
  | (.stopped taken, l) => (.ready (), taken.reverse, l)
  | (.ended taken, l) => (.ready (), taken.reverse, l)
  | (.blocked taken, l) => (.blocked, taken.reverse, l)
  | (.failed f taken, l) => (.failed f, taken.reverse, l)

end Lookahead

end ForwardProxy
