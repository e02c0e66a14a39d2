import ForwardProxy.Proofs.Tunnel.Interleaving

namespace ForwardProxy

/-!
# What flows through a tunnel that moves

Between any two operations of a half the other half may do anything, and still each of them writes
what it has read, in order.

* `Half.moved_act` — one operation of a half.
* `TunnelRun.Move.isOwn` — the moves of a tunnel itself.
* `TunnelRun.flows_move` — no move of a tunnel spoils what flows through it.
-/

namespace Half

/-- What a half still holds of a chunk of which it has just written some octets. -/
theorem inflight_afterWrite (left : Bytes) (size k : Nat) (h : Half) :
    (h.afterWrite left size (.ready k)).inflight =
      if k < left.length then left.drop k else [] := by
  unfold afterWrite
  dsimp only
  split <;> rfl

/-- **A half that reads or writes once** writes what it held and holds what it took. -/
theorem moved_act (now : Nat) (h : Half) (src dst : IdleStream Lookahead) :
    Moved h (h.act now src dst).1 src.stream (h.act now src dst).2.1.stream
      dst.stream (h.act now src dst).2.2.stream := by
  have hacts := acts now h src dst
  generalize h.act now src dst = moved at hacts ⊢
  cases hacts with
  | read hstate =>
    have htook := src.took_read now chunkSize
    have hnone := h.inflight_of_reading hstate
    generalize src.read now chunkSize = r at htook
    obtain ⟨a, src'⟩ := r
    refine ⟨a.taken, [], a.taken, htook, .refl _, by rw [hnone], fun hopen => ?_⟩
    cases a with
    | ready bs =>
      cases bs with
      | nil => cases hopen
      | cons b bs => rfl
    | blocked => exact hnone.symm
    | failed f => cases hopen
  | @write left size hstate hne =>
    have hwrote := dst.wrote_write now left
    have hholds : h.inflight = left := by rw [inflight, hstate]
    generalize dst.write now left = r at hwrote
    obtain ⟨a, dst'⟩ := r
    obtain ⟨rest, hcut⟩ := a.wrote_isPrefix left
    refine ⟨[], a.wrote left, rest, .refl _, hwrote, ?_, fun hopen => ?_⟩
    · rw [hholds, List.append_nil]
      exact hcut.symm
    · -- What was not written of the chunk is what the half holds on to.
      cases a with
      | ready k =>
        rw [inflight_afterWrite]
        exact List.append_cancel_left (hcut.trans (Lookahead.take_append_left k left))
      | blocked => exact hcut.trans hholds.symm
      | failed f => cases hopen
  | count hstate =>
    refine ⟨[], [], [], .refl _, .refl _, ?_, fun _ => rfl⟩
    rw [inflight, hstate]
  | rest => exact .refl _ _ _

end Half

/-- The half reads or writes once. -/
theorem Flow.act {g : Lookahead} {before base : Bytes} {h : Half} (src dst : IdleStream Lookahead)
    (hf : Flow g before base h src.stream dst.stream) (now : Nat) :
    Flow g before base (h.act now src dst).1 (h.act now src dst).2.1.stream
      (h.act now src dst).2.2.stream := by
  cases hended : h.hasEnded with
  | true =>
    rw [Half.act_of_hasEnded hended]
    exact hf
  | false => exact hf.moved hended (h.moved_act now src dst)

namespace TunnelRun

/-- Whether a move changes none of the streams from outside. -/
def Move.isOwn : Move → Bool
  | .event (.stream _ _) => false
  | _ => true

variable {g₁ g₂ : Lookahead} {before₁ base₁ before₂ base₂ : Bytes} {r : TunnelRun}

/-- **A tunnel that moves** spoils nothing, in whatever order its halves come to move. -/
theorem flows_move {m : Move} (hown : m.isOwn = true)
    (hf : Tunnel.Flows g₁ before₁ base₁ g₂ before₂ base₂ r.tunnel r.ends) :
    Tunnel.Flows g₁ before₁ base₁ g₂ before₂ base₂ (r.move m).tunnel (r.move m).ends := by
  cases m with
  | act side =>
    -- What one half takes and writes is seen by the other from behind, which changes nothing that
    -- came through it.
    have hmoved := (r.half side).moved_act r.now (r.on side) (r.on side.other)
    cases side with
    | client => exact ⟨hf.up.act (r.on .client) (r.on .target) r.now, hf.down.moved_back hmoved⟩
    | target => exact ⟨hf.up.moved_back hmoved, hf.down.act (r.on .target) (r.on .client) r.now⟩
  | stop side =>
    rw [move]
    split
    · cases side with
      | client => exact ⟨hf.up.stop, hf.down⟩
      | target => exact ⟨hf.up, hf.down.stop⟩
    · exact hf
  | shut side =>
    rw [move]
    split
    · cases side with
      | client => exact ⟨hf.up.close_dst, hf.down.close_src⟩
      | target => exact ⟨hf.up.close_src, hf.down.close_dst⟩
    · exact hf
  | event e =>
    cases e with
    | stream side e => cases hown
    | wait span => exact ⟨hf.up, hf.down⟩
    | reorder turn => exact ⟨hf.up, hf.down⟩

end TunnelRun

end ForwardProxy
