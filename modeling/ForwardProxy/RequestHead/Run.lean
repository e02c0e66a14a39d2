import ForwardProxy.RequestHead.Reader

namespace ForwardProxy

/-!
# Reading a request head by the clock

A request head is read from a client that sends in its own time, until it is there, cannot be had,
or a deadline has come: `read_request_head` under the timeout that `establish` sets for it.

* `HeadRun.start` — the reading at its first instant, settled.
* `HeadRun.step` — the reading after a moment at which the client did something.
* `HeadRun.outcome?` — what it came to, and when.
-/

/-- How a reading stands. -/
inductive HeadStage where
  | reading (reader : HeadReader)
  | over (instant : Nat) (result : Except Failure Bytes)

/-- A request head that is being read, the client that it is read from, and the clock. -/
structure HeadRun where
  terms : HeadTerms
  deadline : Nat
  now : Nat
  client : Lookahead
  stage : HeadStage

namespace HeadRun

/-- Everything that a client does at one instant. -/
structure Moment where
  /-- How long after the moment before. -/
  span : Nat
  events : List Channel.Event
  deriving DecidableEq, Repr

/-- Lets a reading do what it can at an instant. -/
def settle (now : Nat) (r : HeadRun) : HeadRun :=
  match r.stage with
  | .over _ _ => { r with now := now }
  | .reading reader =>
    match reader.attempt r.terms r.deadline now r.client with
    | (.pending reader, l) => { r with now := now, client := l, stage := .reading reader }
    | (.over result, l) => { r with now := now, client := l, stage := .over now result }

/-- A reading that begins at `now`, settled. -/
def start (terms : HeadTerms) (now : Nat) (client : Lookahead) : HeadRun :=
  settle now ⟨terms, Time.deadline now terms.limit, now, client, .reading (.start terms.cap)⟩

/-- The instant at which a moment comes. -/
def instant (r : HeadRun) (m : Moment) : Nat := r.now + m.span

/-- A reading that meets its deadline if that lies before an instant. -/
def pass (instant : Nat) (r : HeadRun) : HeadRun :=
  if r.now < r.deadline ∧ r.deadline < instant then settle r.deadline r else r

/-- A reading after a moment, settled again. -/
def step (r : HeadRun) (m : Moment) : HeadRun :=
  let r' := r.pass (r.instant m)
  settle (r.instant m) { r' with client := r'.client.applyAll m.events }

/-- A reading after all moments. -/
def run (r : HeadRun) (ms : List Moment) : HeadRun := ms.foldl step r

/-- What a reading came to, and when; none while it is going on. -/
def outcome? (r : HeadRun) : Option (Nat × Except Failure Bytes) :=
  match r.stage with
  | .reading _ => none
  | .over instant result => some (instant, result)

end HeadRun

end ForwardProxy
