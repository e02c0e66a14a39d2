import ForwardProxy.Proofs.Stream.Faults
import ForwardProxy.Proofs.Tunnel.Honesty
import ForwardProxy.Proofs.Tunnel.Passage

namespace ForwardProxy

/-!
# The faults of a tunnel

A half of a tunnel ends by a fault that one of its two streams has met, or by an idle deadline; what
is said of all of these holds of why the tunnel stopped.

* `TunnelRun.Raises` — every fault of a tunnel is as a property says.
* `TunnelRun.Raises.move` — no move of the tunnel itself spoils that.
* `Tunnel.cause_of_failure?` — why a tunnel stopped, by the fault of one of its halves.
-/

variable {P : Fault → Prop}

namespace TunnelRun

/-- The faults of both streams, and those that have ended a half, are as `P` says. -/
structure Raises (P : Fault → Prop) (r : TunnelRun) : Prop where
  streams : ∀ side, (r.on side).stream.Raises P
  halves : ∀ side f, (r.half side).fault? = some f → P f

variable {r : TunnelRun} {side : Side} {p : Half × IdleStream Lookahead × IdleStream Lookahead}

/-- A tunnel raises no other faults after one half was replaced, if its parts do not. -/
theorem Raises.put (h : r.Raises P) (hfault : ∀ f, p.1.fault? = some f → P f)
    (hsrc : p.2.1.stream.Raises P) (hdst : p.2.2.stream.Raises P) : (r.put side p).Raises P where
  streams := Side.all side (by rw [on_put]; exact hsrc) (by rw [on_other_put]; exact hdst)
  halves := Side.all side (by rw [half_put]; exact hfault)
    (by rw [half_other_put]; exact h.halves side.other)

/-- A half reads once or writes once. -/
theorem Raises.act (h : r.Raises P) (hpipe : P (.bare .brokenPipe))
    (hidle : ∀ span, P (.idle span)) (side : Side) : (r.move (.act side)).Raises P := by
  have hhere := h.streams side
  have hthere := h.streams side.other
  show (r.put side ((r.half side).act r.now (r.on side) (r.on side.other))).Raises P
  -- What a half ends with is the fault of the stream that it reads or writes just then.
  have hacts := Half.acts r.now (r.half side) (r.on side) (r.on side.other)
  generalize (r.half side).act r.now (r.on side) (r.on side.other) = moved at hacts ⊢
  cases hacts with
  | read hstate =>
    have hread := IdleStream.raises_read hidle hhere r.now Half.chunkSize
    exact h.put (fun f hf => hread.2 f (Half.eq_failed_of_afterRead hstate hf)) hread.1 hthere
  | @write left size hstate hne =>
    have hwrite := IdleStream.raises_write hpipe hidle hthere r.now left
    exact h.put (fun f hf => hwrite.2 f (Half.eq_failed_of_afterWrite hstate hf)) hhere hwrite.1
  | count => exact h.put nofun hhere hthere
  | rest => exact h.put (h.halves side) hhere hthere

/-- **A tunnel that moves** ends by no fault but one of its streams', or by an idle deadline. -/
theorem Raises.move (h : r.Raises P) (hpipe : P (.bare .brokenPipe))
    (hidle : ∀ span, P (.idle span)) {m : Move} (hown : m.isOwn = true) : (r.move m).Raises P := by
  cases m with
  | act side => exact h.act hpipe hidle side
  | stop side =>
    rw [TunnelRun.move]
    split
    · refine h.put (fun f hf => ?_) (h.streams side) (h.streams side.other)
      rw [Half.fault?_stop] at hf
      exact h.halves side f hf
    · exact h
  | shut side =>
    rw [TunnelRun.move]
    split
    · exact h.put (h.halves side) (h.streams side) (h.streams side.other).close
    · exact h
  | event e =>
    cases e with
    | stream s e => cases hown
    | wait span => exact ⟨h.streams, h.halves⟩
    | reorder turn => exact ⟨h.streams, h.halves⟩

end TunnelRun

/-- A tunnel stopped because it was idle, or because of the fault of one of its halves. -/
theorem Tunnel.cause_of_failure? {t : Tunnel} {failure : Failure} (h : t.failure? = some failure) :
    (∃ span, failure = .idleTimeout span) ∨
      ∃ f, failure = .io f ∧ (t.up.fault? = some f ∨ t.down.fault? = some f) := by
  have hreported := t.reported_failure?
  rw [h] at hreported
  cases hreported with
  | idle lapsed => exact .inl ⟨_, rfl⟩
  | fault raised unlapsed => exact .inr ⟨_, rfl, raised⟩

end ForwardProxy
