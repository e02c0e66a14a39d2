import ForwardProxy.Server.Basic

namespace ForwardProxy.Server

/-!
# The progress of a server

The loop of `serve`, one turn of it at a time, and `drain`, which comes after it.

* `attend` — the listener: clients are accepted, faults are waited out or end everything.
* `settleVisitors` — the sessions, in the order in which their clients connected.
* `checkDrained` — the end of the wait for sessions.
* `step`, `wait` — a server after an event, or after some time.
-/

/-- The server with one more line in its log. -/
def note (level : LogLevel) (message : String) (s : Server) : Server :=
  { s with log := s.log ++ [⟨level, message⟩] }

/-! ### The listener -/

/-- Closes the listener and waits for the sessions. -/
def drain (s : Server) : Server :=
  { s with gate := .draining (Time.deadline s.now s.settings.drainTimeout) }.note .debug
    s!"listener closed; draining {s.active} connections"

/-- Begins to accept, unless the server has been told to stop. -/
def listen (s : Server) : Server :=
  if s.stopping then s.drain else { s with gate := .listening, accepts := s.accepts + 1 }

/-- Begins a session with a client that waits. -/
def welcome (settings : Settings) (turn : Turn) (now : Nat) (v : Visitor) : Visitor :=
  match v.visit with
  | .waiting c => { v with visit := .served (.start settings v.address .detecting turn now c) }
  | .served _ => v

/-- Accepts a client. -/
def acceptClient (number : Nat) (s : Server) : Server :=
  { s with
    backoff := s.backoff.reset
    visitors := s.visitors.modify number (welcome s.settings s.turn s.now) }.listen

/-- Goes on accepting if the delay after a fault is over. -/
def wake (s : Server) : Server :=
  match s.gate with
  | .backingOff instant => if instant ≤ s.now then s.listen else s
  | _ => s

/-- Waits before accepting is tried again. -/
def backOff (fault : Fault) (s : Server) : Server :=
  let backoff := s.backoff.next
  let s :=
    { s with backoff := backoff, gate := .backingOff (Time.deadline s.now backoff.current) }
  let delay := Duration.describe backoff.current
  (s.note .warn s!"temporary accept error; retrying in {delay}: {fault.message}").wake

/-- Stops by a fault of the listener that does not pass. -/
def giveUp (fault : Fault) (s : Server) : Server :=
  { s with gate := .stopped (.failed (.fatalAccept fault)) }.note .error
    s!"accept failed: {fault.message}"

/-- Takes what the listener offers next. -/
def take (offer : Offer) (s : Server) : Server :=
  match offer with
  | .client number => s.acceptClient number
  | .fault f => if s.policy.isPassing f then s.backOff f else s.giveUp f

/-- Takes offers in order for as long as the server is accepting. -/
def takeOffers : List Offer → Server → Server
  | [], s => { s with queue := [] }
  | offer :: rest, s =>
    if s.gate = .listening then takeOffers rest (s.take offer)
    else { s with queue := offer :: rest }

/-- Attends to the listener.  Being told to stop goes before everything that is ready. -/
def attend (s : Server) : Server :=
  match s.gate with
  | .listening | .backingOff _ =>
    if s.stopping then s.drain
    else
      let s := s.wake
      takeOffers s.queue s
  | _ => s

/-! ### The sessions -/

/-- A client after everything that its session can do. -/
def settleVisitor (net : Network) (next now : Nat) (v : Visitor) : Visitor :=
  match v.visit with
  | .waiting _ => v
  | .served s => { v with visit := .served (s.settle net next now) }

/-- The clients after everything that their sessions can do, and the number of the connection that
    comes next. -/
def settleVisitors (net : Network) (now : Nat) : Nat → List Visitor → Nat × List Visitor
  | next, [] => (next, [])
  | next, v :: vs =>
    let settled := settleVisitor net next now v
    let (last, rest) := settleVisitors net now (next + (settled.connections - v.connections)) vs
    (last, settled :: rest)

/-- Lets the sessions do everything they can. -/
def serve (s : Server) : Server :=
  let (next, visitors) := settleVisitors s.network s.now s.connected s.visitors
  { s with connected := next, visitors := visitors }

/-! ### The end -/

/-- Stops when all sessions have ended, or when they have had time enough. -/
def checkDrained (s : Server) : Server :=
  match s.gate with
  | .draining deadline =>
    if s.active = 0 then
      { s with gate := .stopped .drained }.note .info "all connections closed"
    else if deadline ≤ s.now then
      let limit := Duration.describe s.settings.drainTimeout
      { s with gate := .stopped (.drainTimedOut s.active) }.note .warn
        s!"graceful shutdown timeout reached after {limit} with {s.active} connections still active"
    else s
  | _ => s

/-! ### Steps -/

/-- Everything that a server can do at an instant. -/
def settle (now : Nat) (s : Server) : Server := { s with now := now }.attend.serve.checkDrained

/-- The server after something that others do, before it does anything about it. -/
def apply (e : Event) (s : Server) : Server :=
  match e with
  | .start => if s.gate = .unopened then s.listen else s
  | .connect address channel =>
    { s with
      visitors := s.visitors ++ [⟨address, .waiting channel⟩]
      queue := s.queue ++ [.client s.visitors.length] }
  | .acceptFault f => { s with queue := s.queue ++ [.fault f] }
  | .shutdown => { s with stopping := true }
  | .client number e => { s with visitors := s.visitors.modify number (Visitor.applyClient e) }
  | .peer number e => { s with visitors := s.visitors.map (Visitor.applyPeer number e) }

/-- The server after something that others do. -/
def step (s : Server) (e : Event) : Server := settle s.now (s.apply e)

/-- The server after some time. -/
def wait (span : Nat) (s : Server) : Server := Clock.run deadlines settle (s.now + span) s.now s

end ForwardProxy.Server
