import ForwardProxy.Failure
import ForwardProxy.Stream.Lookahead

namespace ForwardProxy

/-!
# Reading a request head

The octets of a request head are taken one at a time, so that those behind it stay unread: up to
and including the first empty line behind a line that is not empty.  Empty lines in front of the
first other line count against the cap and are dropped.  This is the loop of `read_request_head`.

* `HeadReader.feed` — the reader after one more octet.
* `HeadReader.run` — the reader after everything there is to read.
* `HeadReader.attempt` — what reading comes to at an instant, under a deadline.
-/

/-- What a line holds so far. -/
inductive LineState where
  /-- Nothing. -/
  | fresh
  /-- A carriage return alone. -/
  | return
  /-- Anything else. -/
  | text
  deriving DecidableEq, Repr

/-- A reader of a request head. -/
structure HeadReader where
  /-- How many octets may still be taken. -/
  quota : Nat
  /-- The octets of the head so far, the last one first. -/
  taken : Bytes
  /-- Whether a line that is not empty has ended. -/
  started : Bool
  line : LineState
  /-- Whether the head is there. -/
  complete : Bool
  deriving DecidableEq, Repr

namespace HeadReader

/-- A reader that may take `cap` octets. -/
def start (cap : Nat) : HeadReader := ⟨cap, [], false, .fresh, false⟩

/-- The reader after one more octet. -/
def feed (r : HeadReader) (b : UInt8) : HeadReader :=
  let quota := r.quota - 1
  if b = lf then
    if r.line = .text then
      { r with quota := quota, taken := b :: r.taken, started := true, line := .fresh }
    else if r.started then
      { r with quota := quota, taken := b :: r.taken, line := .fresh, complete := true }
    else
      { r with quota := quota, taken := [], line := .fresh }
  else if b = cr ∧ r.line = .fresh then
    { r with quota := quota, taken := b :: r.taken, line := .return }
  else
    { r with quota := quota, taken := b :: r.taken, line := .text }

/-- Whether no more octets are to be taken: the head is there, or the cap is used up. -/
def isDone (r : HeadReader) : Bool := r.complete || r.quota == 0

/-- The octets of the head, in order. -/
def head (r : HeadReader) : Bytes := r.taken.reverse

/-- How far a reader has come. -/
inductive Progress where
  /-- The head is not there yet. -/
  | waiting (reader : HeadReader)
  | done (head : Bytes)
  /-- The cap was used up before the head was there. -/
  | tooLarge
  | failed (fault : Fault)
  deriving DecidableEq, Repr

/-- What a reader that takes no more octets has come to. -/
def conclude (r : HeadReader) : Progress := if r.complete then .done r.head else .tooLarge

/-- The reader after everything there is to read, or up to the end of the head. -/
def run (r : HeadReader) (l : Lookahead) : Progress × Lookahead :=
  if r.isDone then (r.conclude, l)
  else
    match l.scan (fun r b => (r.feed b, (r.feed b).isDone)) r with
    | (.stopped r, l) => (r.conclude, l)
    | (.ended _, l) => (.failed (.bare .unexpectedEof), l)
    | (.blocked r, l) => (.waiting r, l)
    | (.failed f _, l) => (.failed f, l)

end HeadReader

/-- The terms on which a request head is read. -/
structure HeadTerms where
  /-- How many octets may be taken. -/
  cap : Nat
  /-- How long it may take. -/
  limit : Nat
  deriving DecidableEq, Repr

/-- What reading a request head comes to at an instant. -/
inductive HeadAttempt where
  | pending (reader : HeadReader)
  | over (result : Except Failure Bytes)

namespace HeadReader

/-- What reading comes to at `now`.  What there is to read goes before a deadline that has come,
    and a cap that is used up before a fault. -/
def attempt (terms : HeadTerms) (deadline now : Nat) (r : HeadReader) (l : Lookahead) :
    HeadAttempt × Lookahead :=
  match r.run l with
  | (.waiting r, l) =>
    if deadline ≤ now then (.over (.error (.malformedRequest (.late terms.limit))), l)
    else (.pending r, l)
  | (.tooLarge, l) => (.over (.error (.requestTooLarge terms.cap)), l)
  | (.failed f, l) => (.over (.error (.malformedRequest (.unreadable f))), l)
  | (.done head, l) => (.over (.ok head), l)

end HeadReader

end ForwardProxy
