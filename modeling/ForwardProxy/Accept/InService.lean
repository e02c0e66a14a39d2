import ForwardProxy.Clock

namespace ForwardProxy

/-!
# Connections in service

A count of the connections that are being served, and those who wait for it to be zero.  A bell
rings when a connection that goes out of service was the last one, and who waits looks at the count
and sleeps until the bell rings if it is not zero.  That no ring is missed between the look and the
sleep, a waiter listens before it looks: it is woken by every ring that comes after it began to
listen.  A waiter learns `true` when it sees the count at zero, or `false` if it sleeps at its
deadline, and keeps what it learnt.

In the program the count is `ActiveConnections`.  A connection comes into service by `track` and
goes out of it with its `ConnectionGuard`; those who wait do so in `wait_idle` or in
`wait_idle_timeout`.

* `Waiter.poll` — how far a waiter gets on its own.
* `InService.step` — the state after a connection came or went, someone started to wait, or time
  went by, and everyone got as far as they can.
-/

/-- Where someone stands who waits for the count to be zero. -/
inductive Waiting where
  /-- Before listening for the bell. -/
  | awake
  /-- Listening for the bell, which had rung `heard` times by then, and before looking at the
      count. -/
  | listening (heard : Nat)
  /-- Asleep until the bell rings more than `heard` times, since the count was not zero. -/
  | asleep (heard : Nat)
  /-- Told that the count was zero, or that it was not by the deadline. -/
  | told (idle : Bool)
  deriving DecidableEq, Repr

/-- Someone who waits for the count to be zero. -/
structure Waiter where
  deadline : Option Nat
  stage : Waiting
  deriving DecidableEq, Repr

namespace Waiter

/-- What the waiter learnt. -/
def answer (w : Waiter) : Option Bool :=
  match w.stage with
  | .told idle => some idle
  | _ => none

/-- A waiter that sleeps wakes up if the bell, which rang `rung` times, rang since it began to
    listen. -/
def rouse (rung : Nat) (w : Waiter) : Waiter :=
  match w.stage with
  | .asleep heard => if heard < rung then { w with stage := .awake } else w
  | _ => w

/-- A waiter that is awake begins to listen for the bell. -/
def listen (rung : Nat) (w : Waiter) : Waiter :=
  match w.stage with
  | .awake => { w with stage := .listening rung }
  | _ => w

/-- A waiter that listens looks at the count, and sleeps if it is not zero. -/
def look (count : Nat) (w : Waiter) : Waiter :=
  match w.stage with
  | .listening heard => { w with stage := if count = 0 then .told true else .asleep heard }
  | _ => w

/-- A waiter that sleeps at its deadline gives up. -/
def expire (now : Nat) (w : Waiter) : Waiter :=
  match w.stage with
  | .asleep _ => if w.deadline.any (· ≤ now) then { w with stage := .told false } else w
  | _ => w

/-- A waiter goes on until it sleeps or is told: it takes the look that it may be about to take,
    comes round once more if the bell rang meanwhile, and minds its deadline when it sleeps. -/
def poll (now count rung : Nat) (w : Waiter) : Waiter :=
  (((w.look count).rouse rung).listen rung |>.look count).expire now

end Waiter

/-- Where a counted connection stands. -/
inductive Guard where
  /-- In service. -/
  | held
  /-- Out of service as the last one, with the bell still to be rung. -/
  | leaving
  /-- Out of service. -/
  | gone
  deriving DecidableEq, Repr

/-- The connections in service, and those who wait for them. -/
structure InService where
  now : Nat
  /-- How many connections are in service. -/
  count : Nat
  /-- How often the bell rang. -/
  rung : Nat
  /-- Each connection ever counted. -/
  guards : List Guard
  waiters : List Waiter
  deriving DecidableEq, Repr

namespace InService

/-- No connection, and no one waiting. -/
def empty : InService := ⟨0, 0, 0, [], []⟩

/-- A connection comes into service. -/
def track (s : InService) : InService :=
  { s with count := s.count + 1, guards := s.guards ++ [.held] }

/-- A connection is taken off the count.  It has the bell to ring if it was the last one. -/
def leave (n : Nat) (s : InService) : InService :=
  if s.guards[n]? = some .held then
    { s with
      count := s.count - 1
      guards := s.guards.set n (if s.count = 1 then .leaving else .gone) }
  else s

/-- A connection that was the last one rings the bell. -/
def ring (n : Nat) (s : InService) : InService :=
  if s.guards[n]? = some .leaving then
    { s with rung := s.rung + 1, guards := s.guards.set n .gone }
  else s

/-- Someone starts to wait, for ever or for a span. -/
def await (limit : Option Nat) (s : InService) : InService :=
  { s with waiters := s.waiters ++ [⟨limit.map (Time.deadline s.now), .awake⟩] }

/-- Lets everyone who waits go on as far as they can at an instant. -/
def settle (now : Nat) (s : InService) : InService :=
  { s with now := now, waiters := s.waiters.map (Waiter.poll now s.count s.rung) }

/-- The instants that waiters wait for. -/
def deadlines (s : InService) : List Nat :=
  (s.waiters.filter fun w => w.answer.isNone).filterMap Waiter.deadline

/-- Something that happens to the connections in service. -/
inductive Event where
  /-- A connection comes into service, numbered from zero. -/
  | track
  /-- The connection with this number goes out of service. -/
  | drop (guard : Nat)
  /-- Someone starts to wait, for ever or for a span. -/
  | await (limit : Option Nat)
  /-- Time goes by. -/
  | wait (span : Nat)
  deriving DecidableEq, Repr

/-- The state after something happened. -/
def step (s : InService) : Event → InService
  | .track => settle s.now s.track
  | .drop n => settle s.now ((s.leave n).ring n)
  | .await limit => settle s.now (s.await limit)
  | .wait span => Clock.run deadlines settle (s.now + span) s.now s

end InService

end ForwardProxy
