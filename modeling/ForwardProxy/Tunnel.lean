import ForwardProxy.Clock
import ForwardProxy.Failure
import ForwardProxy.Stream.Idle

namespace ForwardProxy

/-!
# Tunnels

A tunnel carries octets both ways between a client and a target until one of its two halves ends:
at the end of the stream it reads, at a fault, or at an idle deadline.  The half that ends shuts
the stream it was writing to and stops the other half, which shuts its own.  In the program this is
`relay_tunnel`, which runs a `relay_half` each way; a half copies chunks as `copy_until_eof` does.

* `Half.run` — moves octets one way until nothing more can be moved.
* `Tunnel.settle` — lets both halves move what they can and ends the tunnel if one of them ended.
* `Turn` — the order in which the halves come to move; it matters only when both can, and one ends.
* `Tunnel.stats?` — what a finished tunnel moved, and why it stopped.
-/

/-- What one half of a tunnel is doing. -/
inductive HalfState where
  | reading
  /-- Part of a chunk is not written yet; the chunk counts once all of it is. -/
  | writing (left : Bytes) (size : Nat)
  | ended (fault : Option Fault)
  deriving DecidableEq, Repr

/-- One direction of a tunnel. -/
structure Half where
  /-- How many octets of whole chunks have been moved. -/
  moved : Nat
  state : HalfState
  deriving DecidableEq, Repr

namespace Half

/-- How many octets are read at once. -/
def chunkSize : Nat := 16384

/-- A half that has moved nothing. -/
def fresh : Half := ⟨0, .reading⟩

/-- Whether a half has ended. -/
def hasEnded (h : Half) : Bool :=
  match h.state with
  | .ended _ => true
  | _ => false

/-- The fault that ended a half, if one did. -/
def fault? (h : Half) : Option Fault :=
  match h.state with
  | .ended f => f
  | _ => none

/-- The half, ended without a fault unless it has ended before. -/
def stop (h : Half) : Half := if h.hasEnded then h else { h with state := .ended none }

/-- Writes what is left of a chunk of `size` octets. -/
def flush (now : Nat) (left : Bytes) (size : Nat) (h : Half) (dst : IdleStream Lookahead) :
    Half × IdleStream Lookahead :=
  match dst.writeAll now left with
  | (.ready _, _, dst) => (⟨h.moved + size, .reading⟩, dst)
  | (.blocked, left, dst) => ({ h with state := .writing left size }, dst)
  | (.failed f, _, dst) => ({ h with state := .ended (some f) }, dst)

/-- Reads and writes until nothing more can be moved: the half and both its streams after that. -/
def pump (now : Nat) (h : Half) (src dst : IdleStream Lookahead) :
    Half × IdleStream Lookahead × IdleStream Lookahead :=
  match h.state with
  | .reading =>
    match _hr : src.read now chunkSize with
    | (.blocked, src) => (h, src, dst)
    | (.failed f, src) => ({ h with state := .ended (some f) }, src, dst)
    | (.ready [], src) => ({ h with state := .ended none }, src, dst)
    | (.ready (b :: bs), src) =>
      let (h, dst) := flush now (b :: bs) (b :: bs).length h dst
      pump now h src dst
  | _ => (h, src, dst)
termination_by src.stream.weight
decreasing_by
  have := IdleStream.weight_read_of_ready _hr
  simp only [List.length_cons] at this
  omega

/-- Moves octets until nothing more can be moved. -/
def run (now : Nat) (h : Half) (src dst : IdleStream Lookahead) :
    Half × IdleStream Lookahead × IdleStream Lookahead :=
  match h.state with
  | .writing left size =>
    let (h, dst) := flush now left size h dst
    pump now h src dst
  | _ => pump now h src dst

end Half

/-- The order in which the halves come to move. -/
structure Turn where
  /-- Whether the half from the client to the target moves first. -/
  clientFirst : Bool
  /-- Whether a half still moves what is there when the other half has just ended. -/
  lateMove : Bool
  deriving DecidableEq, Repr

/-- What a finished tunnel moved, and why it stopped. -/
structure TunnelStats where
  clientToTarget : Nat
  targetToClient : Nat
  failure : Option Failure
  deriving DecidableEq, Repr

/-- The two streams that a tunnel joins. -/
structure Ends where
  client : Lookahead
  target : Lookahead
  deriving DecidableEq, Repr

/-- The state of a tunnel, its streams apart. -/
structure Tunnel where
  clientTimer : IdleTimer
  targetTimer : IdleTimer
  /-- The half from the client to the target. -/
  up : Half
  /-- The half from the target to the client. -/
  down : Half
  turn : Turn
  deriving DecidableEq, Repr

namespace Tunnel

/-- A tunnel that starts at `now` and may be idle for `span`. -/
def start (span now : Nat) (turn : Turn) : Tunnel where
  clientTimer := .start span now
  targetTimer := .start span now
  up := .fresh
  down := .fresh
  turn := turn

/-- Whether both halves have ended. -/
def isOver (t : Tunnel) : Bool := t.up.hasEnded && t.down.hasEnded

/-- Lets the half from the client to the target move, and shut the target if it ends. -/
def runUp (now : Nat) (t : Tunnel) (e : Ends) : Tunnel × Ends :=
  let (h, src, dst) := t.up.run now ⟨e.client, t.clientTimer⟩ ⟨e.target, t.targetTimer⟩
  let dst := if h.hasEnded then dst.close else dst
  let t := { t with up := h, clientTimer := src.timer, targetTimer := dst.timer }
  (t, ⟨src.stream, dst.stream⟩)

/-- Lets the half from the target to the client move, and shut the client if it ends. -/
def runDown (now : Nat) (t : Tunnel) (e : Ends) : Tunnel × Ends :=
  let (h, src, dst) := t.down.run now ⟨e.target, t.targetTimer⟩ ⟨e.client, t.clientTimer⟩
  let dst := if h.hasEnded then dst.close else dst
  let t := { t with down := h, targetTimer := src.timer, clientTimer := dst.timer }
  (t, ⟨dst.stream, src.stream⟩)

/-- Stops the half from the client to the target. -/
def stopUp (t : Tunnel) (e : Ends) : Tunnel × Ends :=
  ({ t with up := t.up.stop }, { e with target := e.target.close })

/-- Stops the half from the target to the client. -/
def stopDown (t : Tunnel) (e : Ends) : Tunnel × Ends :=
  ({ t with down := t.down.stop }, { e with client := e.client.close })

/-- Lets both halves move, the one from the client first, and stops the one that is left when the
    other has ended. -/
def settleUpFirst (now : Nat) (t : Tunnel) (e : Ends) : Tunnel × Ends :=
  let (t, e) := t.runUp now e
  if t.up.hasEnded then
    let (t, e) := if t.turn.lateMove then t.runDown now e else (t, e)
    t.stopDown e
  else
    let (t, e) := t.runDown now e
    if t.down.hasEnded then t.stopUp e else (t, e)

/-- Lets both halves move, the one from the target first. -/
def settleDownFirst (now : Nat) (t : Tunnel) (e : Ends) : Tunnel × Ends :=
  let (t, e) := t.runDown now e
  if t.down.hasEnded then
    let (t, e) := if t.turn.lateMove then t.runUp now e else (t, e)
    t.stopUp e
  else
    let (t, e) := t.runUp now e
    if t.up.hasEnded then t.stopDown e else (t, e)

/-- Lets both halves move what they can, and ends the tunnel if one of them ended. -/
def settle (now : Nat) (t : Tunnel) (e : Ends) : Tunnel × Ends :=
  if t.isOver then (t, e)
  else if t.turn.clientFirst then t.settleUpFirst now e
  else t.settleDownFirst now e

/-- The instants that a running tunnel waits for: those at which the stream that a half is stuck
    on has been idle for too long. -/
def deadlines (t : Tunnel) : List Nat :=
  let up :=
    match t.up.state with
    | .reading => [t.clientTimer.deadline]
    | .writing _ _ => [t.targetTimer.deadline]
    | .ended _ => []
  let down :=
    match t.down.state with
    | .reading => [t.targetTimer.deadline]
    | .writing _ _ => [t.clientTimer.deadline]
    | .ended _ => []
  up ++ down

/-- Why a tunnel stopped: an idle deadline before any other fault, and the fault on the way to the
    target before the one on the way back. -/
def failure? (t : Tunnel) : Option Failure :=
  let faults := [t.up.fault?, t.down.fault?].filterMap id
  if faults.any Fault.isIdle then some (.idleTimeout t.clientTimer.span)
  else faults.head?.map .io

/-- What a tunnel moved, and why it stopped; none while it runs. -/
def stats? (t : Tunnel) : Option TunnelStats :=
  if t.isOver then some ⟨t.up.moved, t.down.moved, t.failure?⟩ else none

end Tunnel

/-- A tunnel with the streams it joins, and the clock it runs by. -/
structure TunnelRun where
  now : Nat
  tunnel : Tunnel
  ends : Ends
  deriving DecidableEq, Repr

namespace TunnelRun

/-- One of the two sides of a tunnel. -/
inductive Side where
  | client
  | target
  deriving DecidableEq, Repr

/-- Something that happens to a tunnel. -/
inductive Event where
  | stream (side : Side) (event : Channel.Event)
  /-- Time goes by. -/
  | wait (span : Nat)
  /-- The halves come to move in another order from here on. -/
  | reorder (turn : Turn)
  deriving DecidableEq, Repr

/-- Lets a tunnel move what it can at an instant. -/
def settle (now : Nat) (r : TunnelRun) : TunnelRun :=
  let (t, e) := r.tunnel.settle now r.ends
  ⟨now, t, e⟩

/-- A tunnel between two channels, started at `now` and settled. -/
def start (span now : Nat) (turn : Turn) (client target : Channel) : TunnelRun :=
  settle now ⟨now, .start span now turn, ⟨.ofChannel client, .ofChannel target⟩⟩

/-- A tunnel after something happened to it, settled again. -/
def step (r : TunnelRun) : Event → TunnelRun
  | .stream .client e => settle r.now { r with ends.client := r.ends.client.apply e }
  | .stream .target e => settle r.now { r with ends.target := r.ends.target.apply e }
  | .wait span => Clock.run (fun r => r.tunnel.deadlines) settle (r.now + span) r.now r
  | .reorder turn => { r with tunnel.turn := turn }

/-- A tunnel after everything that happened to it. -/
def run (r : TunnelRun) (es : List Event) : TunnelRun := es.foldl step r

end TunnelRun

end ForwardProxy
