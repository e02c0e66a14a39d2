import ForwardProxy.Proofs.Stream.Writes
import ForwardProxy.Tunnel

namespace ForwardProxy

/-!
# What flows through a tunnel

Each half of a tunnel writes what it has read, in order, and holds back at most the part of a chunk
that is not written yet.

* `Half.inflight` — what a half has read and not written yet.
* `Moved` — what a half does when it moves: what it takes and what it holds come out in order.
* `Half.moved_run` — the spec of a half that moves.
* `Flow` — what has come through a half since it started.
* `Tunnel.swap` — a tunnel with its sides changed over, which does the same.
* `Tunnel.settleUpFirst_cases`, `Tunnel.settle_cases` — all that `Tunnel.settle` may do.
* `Tunnel.Flows`, `Tunnel.Flows.settle` — both halves of a tunnel, and that no settling spoils
  them, whichever half moves first and whatever ends it.
* `Tunnel.grew_settle` — what was written stays written.
-/

/-- What a half has read and not written yet. -/
def Half.inflight (h : Half) : Bytes :=
  match h.state with
  | .writing left _ => left
  | _ => []

/-- A half has moved: what it held and what it took is what it wrote and what it holds now. -/
def Moved (h h' : Half) (src src' dst dst' : Lookahead) : Prop :=
  ∃ taken wrote left, src.Took taken src' ∧ dst.Wrote wrote dst' ∧
    h.inflight ++ taken = wrote ++ left ∧ (h'.hasEnded = false → left = h'.inflight)

theorem Moved.refl (h : Half) (src dst : Lookahead) : Moved h h src src dst dst :=
  ⟨[], [], h.inflight, .refl src, .refl dst, List.append_nil _, fun _ => rfl⟩

/-- What a half moves in two goes is moved, if it runs in between. -/
theorem Moved.trans {h h' h'' : Half} {src src' src'' dst dst' dst'' : Lookahead}
    (hm : Moved h h' src src' dst dst') (hopen : h'.hasEnded = false)
    (hm' : Moved h' h'' src' src'' dst' dst'') : Moved h h'' src src'' dst dst'' := by
  obtain ⟨taken, wrote, left, htook, hwrote, hcut, hleft⟩ := hm
  obtain ⟨taken', wrote', left', htook', hwrote', hcut', hleft'⟩ := hm'
  refine ⟨taken ++ taken', wrote ++ wrote', left', htook.trans htook', ?_, ?_, hleft'⟩
  · refine ⟨?_, hwrote'.ahead_eq.trans hwrote.ahead_eq⟩
    rw [hwrote'.channel_eq, hwrote.channel_eq, ← List.append_assoc]
  · rw [← List.append_assoc, hcut, hleft hopen, List.append_assoc, hcut', List.append_assoc]

namespace Half

variable {now : Nat} {h : Half} {src dst : IdleStream Lookahead}

/-- A half that writes a chunk writes it from the front. -/
theorem moved_flush (now : Nat) (left : Bytes) (size : Nat) (h : Half)
    (dst : IdleStream Lookahead) :
    ∃ wrote rest, left = wrote ++ rest ∧
      dst.stream.Wrote wrote (flush now left size h dst).2.stream ∧
      ((flush now left size h dst).1.hasEnded = false →
        rest = (flush now left size h dst).1.inflight) := by
  obtain ⟨w, hcut, hwrote, hready⟩ := dst.wrote_writeAll now left
  unfold flush
  rcases hw : dst.writeAll now left with ⟨a, rest, dst'⟩
  rw [hw] at hcut hwrote hready
  refine ⟨w, rest, hcut, ?_⟩
  cases a with
  | ready u => exact ⟨hwrote, fun _ => hready rfl⟩
  | blocked => exact ⟨hwrote, fun _ => rfl⟩
  | failed f => exact ⟨hwrote, fun hopen => absurd hopen (by simp [hasEnded])⟩

/-- A half that reads holds no octets. -/
theorem inflight_of_reading (h : Half) (hreading : h.state = .reading) : h.inflight = [] := by
  rw [inflight, hreading]

/-- A half that is not reading does not move by itself. -/
theorem pump_of_ne_reading (hne : h.state ≠ .reading) (src dst : IdleStream Lookahead) :
    pump now h src dst = (h, src, dst) := by
  rw [pump.eq_def]
  split
  · exact absurd ‹_› hne
  · rfl

/-- A half that has ended does not read. -/
theorem ne_reading_of_hasEnded (hended : h.hasEnded = true) : h.state ≠ .reading := by
  intro hreading
  simp [hasEnded, hreading] at hended

/-- A half that reads and writes in turn. -/
theorem moved_pump (now : Nat) (h : Half) (src dst : IdleStream Lookahead) :
    Moved h (pump now h src dst).1 src.stream (pump now h src dst).2.1.stream
      dst.stream (pump now h src dst).2.2.stream := by
  induction h, src, dst using pump.induct now with
  | case1 h src dst hreading src' hread =>
    have htook := src.took_read now chunkSize
    rw [hread] at htook
    rw [pump, hreading, hread]
    refine ⟨[], [], [], htook, .refl _, ?_, fun _ => ?_⟩
    · rw [inflight_of_reading h hreading]
    · exact (inflight_of_reading h hreading).symm
  | case2 h src dst hreading f src' hread =>
    have htook := src.took_read now chunkSize
    rw [hread] at htook
    rw [pump, hreading, hread]
    refine ⟨[], [], [], htook, .refl _, ?_, fun hopen => absurd hopen (by simp [hasEnded])⟩
    rw [inflight_of_reading h hreading]
  | case3 h src dst hreading src' hread =>
    have htook := src.took_read now chunkSize
    rw [hread] at htook
    rw [pump, hreading, hread]
    refine ⟨[], [], [], htook, .refl _, ?_, fun hopen => absurd hopen (by simp [hasEnded])⟩
    rw [inflight_of_reading h hreading]
  | case4 h src dst hreading b bs src' hread h' dst' hflush ih =>
    have htook := src.took_read now chunkSize
    rw [hread] at htook
    obtain ⟨wrote, rest, hcut, hwrote, hrest⟩ := moved_flush now (b :: bs) (b :: bs).length h dst
    rw [hflush] at hwrote hrest
    -- The half held nothing while it was reading: what it took is written now or held from now on.
    have hmoved : Moved h h' src.stream src'.stream dst.stream dst'.stream := by
      refine ⟨b :: bs, wrote, rest, htook, hwrote, ?_, hrest⟩
      rw [inflight_of_reading h hreading, ← hcut]
      rfl
    rw [pump, hreading, hread]
    simp only [hflush]
    -- A half that writing has ended moves no more; one that waits to write does not either, and one
    -- that reads again is what the induction is about.
    cases hended : h'.hasEnded with
    | true =>
      rw [pump_of_ne_reading (ne_reading_of_hasEnded hended)]
      exact hmoved
    | false => exact hmoved.trans hended ih
  | case5 h src dst hne =>
    rw [pump_of_ne_reading hne]
    exact .refl _ _ _

/-- **A half that moves** writes what it held and what it takes, in order, and holds the rest. -/
theorem moved_run (now : Nat) (h : Half) (src dst : IdleStream Lookahead) :
    Moved h (run now h src dst).1 src.stream (run now h src dst).2.1.stream
      dst.stream (run now h src dst).2.2.stream := by
  unfold run
  split
  · rename_i left size hwriting
    obtain ⟨wrote, rest, hcut, hwrote, hrest⟩ := moved_flush now left size h dst
    rcases hflush : flush now left size h dst with ⟨h', dst'⟩
    rw [hflush] at hwrote hrest
    -- The chunk that was held is written first.
    have hmoved : Moved h h' src.stream src.stream dst.stream dst'.stream := by
      refine ⟨[], wrote, rest, .refl _, hwrote, ?_, hrest⟩
      rw [inflight, hwriting, List.append_nil]
      exact hcut
    show Moved h (pump now h' src dst').1 src.stream (pump now h' src dst').2.1.stream
      dst.stream (pump now h' src dst').2.2.stream
    cases hended : h'.hasEnded with
    | true =>
      rw [pump_of_ne_reading (ne_reading_of_hasEnded hended)]
      exact hmoved
    | false => exact hmoved.trans hended (moved_pump now h' src dst')
  · exact moved_pump now h src dst

/-- A half that has ended does not move any more. -/
theorem run_of_hasEnded (hended : h.hasEnded = true) (src dst : IdleStream Lookahead) :
    run now h src dst = (h, src, dst) := by
  unfold run
  split
  · rename_i hwriting
    simp [hasEnded, hwriting] at hended
  · exact pump_of_ne_reading (ne_reading_of_hasEnded hended) src dst

end Half

/-! ### One half -/

/-- What has come through a half since it started: it has taken octets of `g` behind `before`, and
    the stream that it writes to, on which `base` stood first, holds the front of them. -/
def Flow (g : Lookahead) (before base : Bytes) (h : Half) (src dst : Lookahead) : Prop :=
  ∃ taken left, g.Follows (before ++ taken) src ∧
    base ++ taken = dst.channel.written ++ left ∧ (h.hasEnded = false → left = h.inflight)

namespace Flow

variable {g src src' dst dst' : Lookahead} {before base : Bytes} {h h' k k' : Half}

/-- Nothing has come through a half that has just begun. -/
theorem fresh (hg : g.Follows before src) (hw : dst.channel.written = base) :
    Flow g before base .fresh src dst :=
  ⟨[], [], by rwa [List.append_nil], by rw [hw], fun _ => rfl⟩

/-- The half moves. -/
theorem moved (hf : Flow g before base h src dst) (hopen : h.hasEnded = false)
    (hm : Moved h h' src src' dst dst') : Flow g before base h' src' dst' := by
  obtain ⟨taken, left, hfollows, hcut, hleft⟩ := hf
  obtain ⟨taken', wrote, left', htook, hwrote, hcut', hleft'⟩ := hm
  refine ⟨taken ++ taken', left', ?_, ?_, hleft'⟩
  · rw [← List.append_assoc]
    exact hfollows.took htook
  · rw [← List.append_assoc, hcut, hleft hopen, List.append_assoc, hcut', hwrote.written_eq,
      List.append_assoc]

/-- The half does what it can. -/
theorem run (src dst : IdleStream Lookahead) (hf : Flow g before base h src.stream dst.stream)
    (now : Nat) : Flow g before base (h.run now src dst).1 (h.run now src dst).2.1.stream
      (h.run now src dst).2.2.stream := by
  cases hended : h.hasEnded with
  | true =>
    rw [Half.run_of_hasEnded hended]
    exact hf
  | false => exact hf.moved hended (h.moved_run now src dst)

/-- The other half moves, which reads where this one writes. -/
theorem moved_back (hf : Flow g before base h src dst) (hm : Moved k k' dst dst' src src') :
    Flow g before base h src' dst' := by
  obtain ⟨taken, left, hfollows, hcut, hleft⟩ := hf
  obtain ⟨taken', wrote, left', htook, hwrote, -, -⟩ := hm
  exact ⟨taken, left, hfollows.wrote hwrote, by rw [htook.written_eq, hcut], hleft⟩

/-- Closing the stream that is written to takes nothing back. -/
theorem close_dst (hf : Flow g before base h src dst) : Flow g before base h src dst.close := hf

/-- Closing the stream that is read takes nothing from it. -/
theorem close_src (hf : Flow g before base h src dst) : Flow g before base h src.close dst := by
  obtain ⟨taken, left, hfollows, hcut, hleft⟩ := hf
  exact ⟨taken, left, hfollows.close, hcut, hleft⟩

/-- Stopping a half moves nothing. -/
theorem stop (hf : Flow g before base h src dst) : Flow g before base h.stop src dst := by
  obtain ⟨taken, left, hfollows, hcut, hleft⟩ := hf
  refine ⟨taken, left, hfollows, hcut, fun hopen => ?_⟩
  unfold Half.stop at hopen
  split at hopen
  · rename_i hended
    exact absurd (hopen.symm.trans hended) (by decide)
  · simp [Half.hasEnded] at hopen

/-- A half flows on while its source goes on. -/
theorem apply_src (hf : Flow g before base h src dst) (e : Channel.Event) :
    Flow (g.apply e) before base h (src.apply e) dst := by
  obtain ⟨taken, left, hfollows, hcut, hleft⟩ := hf
  exact ⟨taken, left, hfollows.apply e, hcut, hleft⟩

/-- What the reader of a half does leaves what has come through. -/
theorem apply_dst (hf : Flow g before base h src dst) (e : Channel.Event) :
    Flow g before base h src (dst.apply e) := by
  obtain ⟨taken, left, hfollows, hcut, hleft⟩ := hf
  exact ⟨taken, left, hfollows, by rw [hcut, Lookahead.written_apply], hleft⟩

/-- **Nothing is lost, doubled or reordered** on the way through a half. -/
theorem written_isPrefix (hf : Flow g before base h src dst) :
    ∃ taken, g.unread = before ++ taken ++ src.unread ∧ dst.channel.written <+: base ++ taken := by
  obtain ⟨taken, left, hfollows, hcut, -⟩ := hf
  exact ⟨taken, hfollows.unread_eq, ⟨left, hcut.symm⟩⟩

end Flow

/-! ### The sides changed over -/

/-- The two streams changed over. -/
def Ends.swap (e : Ends) : Ends := ⟨e.target, e.client⟩

namespace Tunnel

/-- A tunnel with its two sides changed over. -/
def swap (t : Tunnel) : Tunnel where
  clientTimer := t.targetTimer
  targetTimer := t.clientTimer
  up := t.down
  down := t.up
  turn := t.turn

/-- The half down runs as the half up does with the sides changed over. -/
theorem runDown_eq_swap (now : Nat) (t : Tunnel) (e : Ends) :
    t.runDown now e = ((t.swap.runUp now e.swap).1.swap, (t.swap.runUp now e.swap).2.swap) := rfl

/-- Letting the half from the target move first is the same with the sides changed over. -/
theorem settleDownFirst_eq_swap (now : Nat) (t : Tunnel) (e : Ends) :
    t.settleDownFirst now e =
      ((t.swap.settleUpFirst now e.swap).1.swap, (t.swap.settleUpFirst now e.swap).2.swap) := by
  unfold settleDownFirst settleUpFirst
  rw [runDown_eq_swap]
  generalize t.swap.runUp now e.swap = moved
  obtain ⟨t₁, e₁⟩ := moved
  dsimp only
  -- Both sides ask the same questions about the halves, with their names changed over.
  have hended : t₁.swap.down.hasEnded = t₁.up.hasEnded := rfl
  have hlate : t₁.swap.turn.lateMove = t₁.turn.lateMove := rfl
  rw [hended, hlate]
  split
  · split <;> rfl
  · have hended' : (t₁.swap.runUp now e₁.swap).1.up.hasEnded =
        (t₁.runDown now e₁).1.down.hasEnded := rfl
    rw [hended']
    split <;> rfl

/-! ### How a tunnel settles -/

/-- What becomes of a tunnel that settles, the half up first: `first` is the tunnel after the half
    up has moved, `both` after the half down has moved as well. -/
inductive SettlesTo (first both : Tunnel × Ends) : Tunnel × Ends → Prop
  /-- The half up has ended, and the half down comes to move once more before it is stopped. -/
  | upEndedLate (ended : first.1.up.hasEnded = true) : SettlesTo first both (both.1.stopDown both.2)
  /-- The half up has ended, and the half down is stopped where it is. -/
  | upEnded (ended : first.1.up.hasEnded = true) : SettlesTo first both (first.1.stopDown first.2)
  /-- The half down has ended, and the half up is stopped. -/
  | downEnded (goes : first.1.up.hasEnded = false) (ended : both.1.down.hasEnded = true) :
    SettlesTo first both (both.1.stopUp both.2)
  /-- Both halves go on. -/
  | going (goes : first.1.up.hasEnded = false) (goes' : both.1.down.hasEnded = false) :
    SettlesTo first both both

/-- All that a tunnel may do as it settles, the half up first. -/
theorem settleUpFirst_cases (now : Nat) (t : Tunnel) (e : Ends) :
    SettlesTo (t.runUp now e) ((t.runUp now e).1.runDown now (t.runUp now e).2)
      (t.settleUpFirst now e) := by
  unfold settleUpFirst
  dsimp only
  cases hended : (t.runUp now e).1.up.hasEnded with
  | true =>
    rw [if_pos rfl]
    split
    · exact .upEndedLate hended
    · exact .upEnded hended
  | false =>
    rw [if_neg Bool.false_ne_true]
    split
    · exact .downEnded hended ‹_›
    · exact .going hended (Bool.eq_false_iff.mpr ‹_›)

/-- Settling changes nothing about a tunnel that is over. -/
theorem settle_of_isOver {now : Nat} {t : Tunnel} {e : Ends} (hover : t.isOver = true) :
    t.settle now e = (t, e) := by
  unfold settle
  rw [if_pos hover]

/-- A running tunnel settles the half up first, or does so with the sides changed over. -/
theorem settle_cases (now : Nat) {t : Tunnel} (e : Ends) (hopen : t.isOver = false) :
    t.settle now e = t.settleUpFirst now e ∨
      t.settle now e =
        ((t.swap.settleUpFirst now e.swap).1.swap, (t.swap.settleUpFirst now e.swap).2.swap) := by
  unfold settle
  rw [if_neg (by rw [hopen]; exact Bool.false_ne_true)]
  split
  · exact .inl rfl
  · exact .inr (settleDownFirst_eq_swap now t e)

/-! ### Both halves -/

/-- What has come through both halves of a tunnel. -/
structure Flows (g₁ : Lookahead) (before₁ base₁ : Bytes) (g₂ : Lookahead) (before₂ base₂ : Bytes)
    (t : Tunnel) (e : Ends) : Prop where
  up : Flow g₁ before₁ base₁ t.up e.client e.target
  down : Flow g₂ before₂ base₂ t.down e.target e.client

namespace Flows

variable {g₁ g₂ : Lookahead} {before₁ base₁ before₂ base₂ : Bytes} {t : Tunnel} {e : Ends}

/-- What flows both ways does so with the sides changed over. -/
theorem swap (hf : Flows g₁ before₁ base₁ g₂ before₂ base₂ t e) :
    Flows g₂ before₂ base₂ g₁ before₁ base₁ t.swap e.swap := ⟨hf.down, hf.up⟩

/-- What flows both ways does so after the half up has run. -/
theorem runUp (hf : Flows g₁ before₁ base₁ g₂ before₂ base₂ t e) (now : Nat) :
    Flows g₁ before₁ base₁ g₂ before₂ base₂ (t.runUp now e).1 (t.runUp now e).2 := by
  have hup := Flow.run ⟨e.client, t.clientTimer⟩ ⟨e.target, t.targetTimer⟩ hf.up now
  have hdown := hf.down.moved_back
    (t.up.moved_run now ⟨e.client, t.clientTimer⟩ ⟨e.target, t.targetTimer⟩)
  unfold Tunnel.runUp
  rcases hrun : t.up.run now ⟨e.client, t.clientTimer⟩ ⟨e.target, t.targetTimer⟩ with ⟨h, src, dst⟩
  rw [hrun] at hup hdown
  dsimp only
  split
  · exact ⟨hup.close_dst, hdown.close_src⟩
  · exact ⟨hup, hdown⟩

/-- What flows both ways does so after the half down has run. -/
theorem runDown (hf : Flows g₁ before₁ base₁ g₂ before₂ base₂ t e) (now : Nat) :
    Flows g₁ before₁ base₁ g₂ before₂ base₂ (t.runDown now e).1 (t.runDown now e).2 := by
  rw [runDown_eq_swap]
  exact (hf.swap.runUp now).swap

/-- What flows both ways does so after the half up was stopped. -/
theorem stopUp (hf : Flows g₁ before₁ base₁ g₂ before₂ base₂ t e) :
    Flows g₁ before₁ base₁ g₂ before₂ base₂ (t.stopUp e).1 (t.stopUp e).2 :=
  ⟨hf.up.stop.close_dst, hf.down.close_src⟩

/-- What flows both ways does so after the half down was stopped. -/
theorem stopDown (hf : Flows g₁ before₁ base₁ g₂ before₂ base₂ t e) :
    Flows g₁ before₁ base₁ g₂ before₂ base₂ (t.stopDown e).1 (t.stopDown e).2 :=
  ⟨hf.up.close_src, hf.down.stop.close_dst⟩

/-- What flows both ways does so after both halves have run, the half up first. -/
theorem settleUpFirst (hf : Flows g₁ before₁ base₁ g₂ before₂ base₂ t e) (now : Nat) :
    Flows g₁ before₁ base₁ g₂ before₂ base₂ (t.settleUpFirst now e).1
      (t.settleUpFirst now e).2 := by
  have hup := hf.runUp now
  have hdown := hup.runDown now
  have hcases := settleUpFirst_cases now t e
  generalize t.settleUpFirst now e = settled at hcases ⊢
  cases hcases with
  | upEndedLate => exact hdown.stopDown
  | upEnded => exact hup.stopDown
  | downEnded => exact hdown.stopUp
  | going => exact hdown

/-- **A tunnel that settles** spoils nothing, whichever half moves first and whatever ends it. -/
theorem settle (hf : Flows g₁ before₁ base₁ g₂ before₂ base₂ t e) (now : Nat) :
    Flows g₁ before₁ base₁ g₂ before₂ base₂ (t.settle now e).1 (t.settle now e).2 := by
  cases hover : t.isOver with
  | true =>
    rw [settle_of_isOver hover]
    exact hf
  | false =>
    rcases settle_cases now e hover with hsettle | hsettle
    · rw [hsettle]
      exact hf.settleUpFirst now
    · rw [hsettle]
      exact (hf.swap.settleUpFirst now).swap

end Flows

end Tunnel

/-! ### What is written stays -/

/-- What was written on either side still stands, perhaps with something behind it. -/
structure Ends.Grew (e e' : Ends) : Prop where
  client : e.client.channel.written <+: e'.client.channel.written
  target : e.target.channel.written <+: e'.target.channel.written

namespace Ends.Grew

variable {e e' e'' : Ends}

theorem refl (e : Ends) : e.Grew e := ⟨List.prefix_refl _, List.prefix_refl _⟩

theorem trans (h : e.Grew e') (h' : e'.Grew e'') : e.Grew e'' :=
  ⟨h.client.trans h'.client, h.target.trans h'.target⟩

/-- What is written stays with the sides changed over. -/
theorem swap (h : e.Grew e') : e.swap.Grew e'.swap := ⟨h.target, h.client⟩

end Ends.Grew

namespace Tunnel

/-- The half up takes back nothing that is written. -/
theorem grew_runUp (now : Nat) (t : Tunnel) (e : Ends) : e.Grew (t.runUp now e).2 := by
  obtain ⟨taken, wrote, -, htook, hwrote, -, -⟩ :=
    t.up.moved_run now ⟨e.client, t.clientTimer⟩ ⟨e.target, t.targetTimer⟩
  refine ⟨⟨[], ?_⟩, ⟨wrote, ?_⟩⟩
  · rw [List.append_nil]
    exact htook.written_eq.symm
  · -- Whether the target is shut then does not show in what was written to it.
    refine hwrote.written_eq.symm.trans ?_
    unfold runUp
    dsimp only
    split <;> rfl

/-- The half down takes back nothing that is written. -/
theorem grew_runDown (now : Nat) (t : Tunnel) (e : Ends) : e.Grew (t.runDown now e).2 := by
  rw [runDown_eq_swap]
  exact (grew_runUp now t.swap e.swap).swap

/-- Stopping the half up takes back nothing that is written. -/
theorem grew_stopUp (t : Tunnel) (e : Ends) : e.Grew (t.stopUp e).2 :=
  ⟨List.prefix_refl _, List.prefix_refl _⟩

/-- Stopping the half down takes back nothing that is written. -/
theorem grew_stopDown (t : Tunnel) (e : Ends) : e.Grew (t.stopDown e).2 :=
  ⟨List.prefix_refl _, List.prefix_refl _⟩

/-- Settling, the half up first, takes back nothing that is written. -/
theorem grew_settleUpFirst (now : Nat) (t : Tunnel) (e : Ends) :
    e.Grew (t.settleUpFirst now e).2 := by
  have hup := grew_runUp now t e
  have hdown := hup.trans (grew_runDown now (t.runUp now e).1 (t.runUp now e).2)
  have hcases := settleUpFirst_cases now t e
  generalize t.settleUpFirst now e = settled at hcases ⊢
  cases hcases with
  | upEndedLate => exact hdown.trans (grew_stopDown _ _)
  | upEnded => exact hup.trans (grew_stopDown _ _)
  | downEnded => exact hdown.trans (grew_stopUp _ _)
  | going => exact hdown

/-- **A tunnel that settles** only adds to what was written. -/
theorem grew_settle (now : Nat) (t : Tunnel) (e : Ends) : e.Grew (t.settle now e).2 := by
  cases hover : t.isOver with
  | true =>
    rw [settle_of_isOver hover]
    exact .refl e
  | false =>
    rcases settle_cases now e hover with hsettle | hsettle
    · rw [hsettle]
      exact grew_settleUpFirst now t e
    · rw [hsettle]
      exact (grew_settleUpFirst now t.swap e.swap).swap

end Tunnel

end ForwardProxy
