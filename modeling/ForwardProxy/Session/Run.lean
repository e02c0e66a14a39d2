import ForwardProxy.Session.Progress

namespace ForwardProxy

/-!
# A session by itself

What `dispatch` makes of a client and a target that do as they like, with nobody else around.

* `SessionRun.start` — a session at its first instant, settled.
* `SessionRun.step` — the session after its client, its target or the clock did something.
* `SessionRun.run` — the session after any number of such things.
-/

/-- A session, the network around it, and the clock it runs by. -/
structure SessionRun where
  now : Nat
  network : Network
  session : Session
  deriving DecidableEq, Repr

namespace SessionRun

/-- Something that happens to a session. -/
inductive Event where
  | client (event : Channel.Event)
  /-- Something happens on the connection with a number. -/
  | peer (number : Nat) (event : Channel.Event)
  /-- Time goes by. -/
  | wait (span : Nat)
  /-- The halves of the tunnel come to move in another order from here on. -/
  | reorder (turn : Turn)
  deriving DecidableEq, Repr

/-- Lets a session do what it can at an instant.  It makes one connection at most, which gets the
    number zero. -/
def settle (now : Nat) (r : SessionRun) : SessionRun :=
  { r with now := now, session := r.session.settle r.network 0 now }

/-- A session that has just begun, settled. -/
def start (net : Network) (now : Nat) (s : Session) : SessionRun := settle now ⟨now, net, s⟩

/-- The session after something happened, settled again. -/
def step (r : SessionRun) : Event → SessionRun
  | .client e => settle r.now { r with session := r.session.applyClient e }
  | .peer number e => settle r.now { r with session := r.session.applyPeer number e }
  | .wait span => Clock.run (fun r => r.session.deadlines) settle (r.now + span) r.now r
  | .reorder turn => { r with session := r.session.reorder turn }

/-- The session after everything that happened. -/
def run (r : SessionRun) (es : List Event) : SessionRun := es.foldl step r

end SessionRun

end ForwardProxy
