import ForwardProxy.Proofs.Tunnel.Timers

namespace ForwardProxy

/-!
# The record of a tunnel

A tunnel, and all the times it has settled on its way.  What happens between two settlings changes
nothing but what there is to read and how much may be written, so the record tells at which
instants octets have moved on which side, and at which instant the tunnel has ended.

* `TunnelRun.Settling` — a tunnel that settles at an instant.
* `TunnelRun.Settling.moves` — whether octets move on a side as it does.
* `TunnelRun.Recorded` — a tunnel with its record, which goes through the same steps.
* `TunnelRun.Recorded.current_run` — keeping a record does not change the run.
-/

namespace TunnelRun

/-- A side of a tunnel, the stream and its timer. -/
def on (r : TunnelRun) (side : Side) : IdleStream Lookahead := r.tunnel.stream r.ends side

/-- A tunnel that settles at an instant. -/
structure Settling where
  instant : Nat
  before : TunnelRun

namespace Settling

/-- The tunnel once it has settled. -/
def after (m : Settling) : TunnelRun := settle m.instant m.before

/-- Whether any octets are read from the stream of a side or written to it. -/
def moves (m : Settling) (side : Side) : Bool :=
  (m.after.on side).stream.unread.length < (m.before.on side).stream.unread.length ||
    (m.before.on side).stream.channel.written.length <
      (m.after.on side).stream.channel.written.length

/-- A side has moved in a settling exactly if octets were moved on it. -/
theorem moves_iff_ne_zero {m : Settling} {side : Side} {n : Nat}
    (h : IdleStream.Used m.instant n (m.before.on side) (m.after.on side)) :
    m.moves side = true ↔ n ≠ 0 := by
  rw [h.ne_zero_iff, moves, Bool.or_eq_true, decide_eq_true_iff, decide_eq_true_iff]

/-- A tunnel that is over does not change when it settles. -/
theorem after_of_isOver {m : Settling} (hover : m.before.tunnel.isOver = true) :
    m.after = { m.before with now := m.instant } := by
  unfold after settle
  rw [Tunnel.settle_of_isOver hover]

/-- Nothing moves any more once a tunnel is over. -/
theorem not_moves_of_isOver {m : Settling} (hover : m.before.tunnel.isOver = true) (side : Side) :
    m.moves side = false := by
  have hon : m.after.on side = m.before.on side := by
    rw [after_of_isOver hover]
    rfl
  rw [moves, hon]
  simp

end Settling

/-- A tunnel and all the times it has settled, the last one first. -/
structure Recorded where
  current : TunnelRun
  past : List Settling

namespace Recorded

/-- Lets the tunnel settle and puts that on record. -/
def settle (now : Nat) (r : Recorded) : Recorded :=
  ⟨TunnelRun.settle now r.current, ⟨now, r.current⟩ :: r.past⟩

/-- A tunnel between two channels, on record from its start. -/
def start (span now : Nat) (turn : Turn) (client target : Channel) : Recorded :=
  settle now ⟨⟨now, .start span now turn, ⟨.ofChannel client, .ofChannel target⟩⟩, []⟩

/-- A tunnel after something happened to it, its settlings put on record. -/
def step (r : Recorded) : Event → Recorded
  | .stream .client e =>
    settle r.current.now { r with current.ends.client := r.current.ends.client.apply e }
  | .stream .target e =>
    settle r.current.now { r with current.ends.target := r.current.ends.target.apply e }
  | .wait span =>
    Clock.run (fun r => r.current.tunnel.deadlines) settle (r.current.now + span) r.current.now r
  | .reorder turn => { r with current.tunnel.turn := turn }

/-- A tunnel after everything that happened to it. -/
def run (r : Recorded) (es : List Event) : Recorded := es.foldl step r

/-- Recording a tunnel does not change how it starts. -/
theorem current_start (span now : Nat) (turn : Turn) (client target : Channel) :
    (start span now turn client target).current = TunnelRun.start span now turn client target := rfl

/-- Recording a tunnel does not change what it does. -/
theorem current_step (r : Recorded) (e : Event) : (r.step e).current = r.current.step e := by
  cases e with
  | stream side e => cases side <;> rfl
  | wait span =>
    refine Clock.run_map (f := current) ?_ ?_ _ _ r
    · intro r
      rfl
    · intro t r
      rfl
  | reorder turn => rfl

/-- **Keeping a record** does not change the run. -/
theorem current_run (r : Recorded) (es : List Event) :
    (r.run es).current = r.current.run es := by
  induction es generalizing r with
  | nil => rfl
  | cons e es ih =>
    show ((r.step e).run es).current = (r.current.step e).run es
    rw [ih, current_step]

end Recorded

end TunnelRun

end ForwardProxy
