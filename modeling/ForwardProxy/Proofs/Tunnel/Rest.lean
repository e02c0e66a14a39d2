import ForwardProxy.Proofs.Tunnel.Waits

namespace ForwardProxy

/-!
# Tunnels at rest

A tunnel is at rest when no operation of its halves changes anything any more.  Either both halves
wait then, or the tunnel is over and both its streams are shut.  A tunnel that settles comes to
rest.

* `TunnelRun.Resting`, `TunnelRun.Waiting`, `TunnelRun.TornDown`, `TunnelRun.resting_iff` — a tunnel
  at rest, and what it looks like.
* `TunnelRun.Wound` — timers that were set by now.
* `TunnelRun.letMove` — one half moves what it can.
* `TunnelRun.Waiting.settle`, `TunnelRun.Waiting.later` — a tunnel that waits stays as it is until
  one of its deadlines has come.
* `TunnelRun.resting_settle`, `TunnelRun.resting_run` — a tunnel that settles, and one that runs,
  comes to rest.
-/

theorem Half.stop_of_hasEnded {h : Half} (hended : h.hasEnded = true) : h.stop = h :=
  if_pos hended

namespace TunnelRun

variable {r : TunnelRun} {side : Side} {span now : Nat}

/-- The half that reads a side waits for a stream whose idle deadline has not come. -/
def Stuck (r : TunnelRun) (side : Side) : Prop :=
  (r.half side).Stuck r.now (r.on side) (r.on side.other)

/-- Both halves run and wait. -/
def Waiting (r : TunnelRun) : Prop := ∀ side, r.Stuck side

/-- Both halves have ended, and both streams are shut. -/
def TornDown (r : TunnelRun) : Prop :=
  ∀ side, (r.half side).hasEnded = true ∧ (r.on side).stream.channel.shut = true

/-- Nothing that the halves could do changes the tunnel. -/
def Resting (r : TunnelRun) : Prop :=
  ∀ side, r.move (.act side) = r ∧ r.move (.stop side) = r ∧ r.move (.shut side) = r

/-- A tunnel that waits rests. -/
theorem Waiting.resting (h : r.Waiting) : r.Resting := by
  intro side
  have hopen s : (r.half s).hasEnded = false := (h s).1.hasEnded_eq
  refine ⟨?_, ?_, ?_⟩
  · rw [move, (Half.act_eq_self_iff (hopen side)).2 (h side), put_self]
  · rw [move, hopen side.other, if_neg Bool.false_ne_true]
  · rw [move, hopen side, if_neg Bool.false_ne_true]

/-- A tunnel that was torn down rests. -/
theorem TornDown.resting (h : r.TornDown) : r.Resting := by
  intro side
  have hshut : (r.on side.other).close = r.on side.other :=
    congrArg (IdleStream.mk · _) (Lookahead.close_of_shut (h side.other).2)
  refine ⟨?_, ?_, ?_⟩
  · rw [move, Half.act_of_hasEnded (h side).1, put_self]
  · rw [move, if_pos (h side.other).1, Half.stop_of_hasEnded (h side).1, put_self]
  · rw [move, if_pos (h side).1, hshut, put_self]

/-- A half that has ended leaves the other one to be stopped, unless that one has ended. -/
theorem ended_other_of_stop (hstop : r.move (.stop side.other) = r)
    (hended : (r.half side).hasEnded = true) : (r.half side.other).hasEnded = true := by
  rw [move, Side.other_other, if_pos hended] at hstop
  have hhalf := congrArg (fun r => r.half side.other) hstop
  rw [half_put] at hhalf
  rw [← hhalf]
  exact (r.half side.other).stop_spec.1

/-- A half that has ended shuts the stream that it was writing to, unless that has been shut. -/
theorem shut_other_of_shut (hshut : r.move (.shut side) = r)
    (hended : (r.half side).hasEnded = true) :
    (r.on side.other).stream.channel.shut = true := by
  rw [move, if_pos hended] at hshut
  have hon := congrArg (fun r => r.on side.other) hshut
  rw [on_other_put] at hon
  rw [← hon]
  rfl

/-- Once a half has ended, stopping the other one and shutting the streams tears the tunnel down. -/
theorem tornDown_of_ended (hstop : ∀ side, r.move (.stop side) = r)
    (hshut : ∀ side, r.move (.shut side) = r) (hended : (r.half side).hasEnded = true) :
    r.TornDown := by
  have hother := ended_other_of_stop (hstop side.other) hended
  have hback := shut_other_of_shut (hshut side.other) hother
  rw [Side.other_other] at hback
  exact Side.all side ⟨hended, hback⟩ ⟨hother, shut_other_of_shut (hshut side) hended⟩

/-- **At rest** a tunnel waits, both ways, or it is torn down, both ways. -/
theorem resting_iff : r.Resting ↔ r.Waiting ∨ r.TornDown := by
  refine ⟨fun h => ?_, fun h => h.elim Waiting.resting TornDown.resting⟩
  by_cases hended : ∃ side, (r.half side).hasEnded = true
  · obtain ⟨side, hended⟩ := hended
    exact .inr (tornDown_of_ended (fun side => (h side).2.1) (fun side => (h side).2.2) hended)
  · refine .inl fun side => ?_
    have hopen : (r.half side).hasEnded = false :=
      Bool.eq_false_iff.2 fun hside => hended ⟨side, hside⟩
    refine Half.stuck_of_act hopen ?_
    have hact := congrArg (fun r => r.half side) (h side).1
    rwa [move, half_put] at hact

/-! ### The timers of both sides -/

/-- The timers of both sides were set by now, for a span. -/
def Wound (span : Nat) (r : TunnelRun) : Prop := ∀ side, (r.on side).timer.Wound span r.now

/-- The timers were set by now after one half was replaced, if those that it brings were. -/
theorem Wound.put {p : Half × IdleStream Lookahead × IdleStream Lookahead}
    (hsrc : p.2.1.timer.Wound span r.now) (hdst : p.2.2.timer.Wound span r.now) :
    (r.put side p).Wound span := by
  refine Side.all side ?_ ?_
  · rw [on_put, now_put]
    exact hsrc
  · rw [on_other_put, now_put]
    exact hdst

/-- What happens to a tunnel sets no timer. -/
theorem Wound.happen (h : r.Wound span) (e : Event) : (r.happen e).Wound span := by
  intro side
  have hside := h side
  cases e with
  | stream s e => cases s <;> cases side <;> exact hside
  | wait time => cases side <;> exact hside.later (Nat.le_add_right r.now time)
  | reorder turn => cases side <;> exact hside

/-- A move sets timers to now or leaves them. -/
theorem Wound.move (h : r.Wound span) (m : Move) : (r.move m).Wound span := by
  cases m with
  | act side =>
    obtain ⟨hsrc, hdst⟩ := (r.half side).pushed_act r.now (r.on side) (r.on side.other)
    exact .put (hsrc.wound (h side)) (hdst.wound (h side.other))
  | stop side =>
    rw [TunnelRun.move]
    split
    · exact .put (h side) (h side.other)
    · exact h
  | shut side =>
    rw [TunnelRun.move]
    split
    · exact .put (h side) (h side.other)
    · exact h
  | event e => exact h.happen e

/-- However a tunnel moves, its timers were set by then. -/
theorem Wound.moves (h : r.Wound span) (ms : List Move) : (r.moves ms).Wound span := by
  induction ms generalizing r with
  | nil => exact h
  | cons m ms ih => exact ih (h.move m)

/-! ### Settling -/

/-- The half that reads a side moves what it can, and shuts the stream that it writes to if it ends
    or has ended before. -/
def letMove (r : TunnelRun) (side : Side) : TunnelRun :=
  let p := (r.half side).run r.now (r.on side) (r.on side.other)
  r.put side (p.1, p.2.1, if p.1.hasEnded then p.2.2.close else p.2.2)

/-- Letting a half run as far as it can sets timers to now or leaves them. -/
theorem Wound.letMove (h : r.Wound span) (side : Side) : (r.letMove side).Wound span := by
  have hspent := (r.half side).spent_run r.now (r.on side) (r.on side.other)
  have hdst := hspent.pushed_dst.wound (h side.other)
  refine .put (hspent.pushed_src.wound (h side)) ?_
  dsimp only
  split
  · exact hdst
  · exact hdst

/-- A half that has run as far as it can and has not ended waits for a stream. -/
theorem stuck_letMove (r : TunnelRun) (side : Side)
    (hopen : ((r.letMove side).half side).hasEnded = false) :
    (r.letMove side).Stuck side := by
  have hspent := (r.half side).spent_run r.now (r.on side) (r.on side.other)
  unfold letMove at hopen ⊢
  rw [half_put] at hopen
  rw [Stuck, half_put, on_put, on_other_put, now_put]
  dsimp only at hopen ⊢
  rw [hopen, if_neg Bool.false_ne_true]
  exact hspent.stuck hopen

/-- A half that has run to its end has shut the stream that it writes to. -/
theorem shut_letMove (r : TunnelRun) (side : Side)
    (hended : ((r.letMove side).half side).hasEnded = true) :
    ((r.letMove side).on side.other).stream.channel.shut = true := by
  unfold letMove at hended ⊢
  rw [half_put] at hended
  rw [on_other_put]
  dsimp only at hended ⊢
  rw [hended, if_pos rfl]
  rfl

/-- A half shuts no stream that it only reads. -/
theorem shut_src_letMove (r : TunnelRun) (side : Side) :
    ((r.letMove side).on side).stream.channel.shut =
    (r.on side).stream.channel.shut := by
  obtain ⟨taken, -, -, htook, -⟩ := (r.half side).moved_run r.now (r.on side) (r.on side.other)
  rw [letMove, on_put]
  exact htook.shut_eq

/-- A half that waits is not made to go on by the other one. -/
theorem Stuck.letMove (hw : r.Wound span) (side : Side) (hs : r.Stuck side.other)
    (hopen : ((r.letMove side).half side).hasEnded = false) :
    (r.letMove side).Stuck side.other := by
  obtain ⟨taken, wrote, -, htook, hwrote, -⟩ :=
    (r.half side).moved_run r.now (r.on side) (r.on side.other)
  have hspent := (r.half side).spent_run r.now (r.on side) (r.on side.other)
  rw [Stuck, Side.other_other] at hs
  unfold TunnelRun.letMove at hopen ⊢
  rw [half_put] at hopen
  rw [Stuck, Side.other_other, half_other_put, on_put, on_other_put, now_put]
  dsimp only at hopen ⊢
  rw [hopen, if_neg Bool.false_ne_true]
  exact hs.across htook hwrote hspent.pushed_dst hspent.pushed_src ⟨hw side.other, hw side⟩

/-- A half has ended and is let move no more: the other one is stopped. -/
theorem tornDown_of_stop (r : TunnelRun) (side : Side)
    (hended : (r.half side.other).hasEnded = true)
    (hshut : (r.on side).stream.channel.shut = true) :
    (r.put side ((r.half side).stop, r.on side, (r.on side.other).close)).TornDown := by
  refine Side.all side ?_ ?_
  · rw [half_put, on_put]
    exact ⟨(r.half side).stop_spec.1, hshut⟩
  · rw [half_other_put, on_other_put]
    exact ⟨hended, rfl⟩

/-- A tunnel rests after both halves have run, the half up first. -/
theorem resting_settleUpFirst (t : Tunnel) (e : Ends) (hw : Wound span ⟨now, t, e⟩) :
    Resting ⟨now, (t.settleUpFirst now e).1, (t.settleUpFirst now e).2⟩ := by
  rw [resting_iff]
  have hstuck := stuck_letMove ⟨now, t, e⟩ .client
  have hshut := shut_letMove ⟨now, t, e⟩ .client
  have hwound := hw.letMove .client
  have hrun : letMove ⟨now, t, e⟩ .client = ⟨now, (t.runUp now e).1, (t.runUp now e).2⟩ := rfl
  rw [hrun] at hstuck hshut hwound
  have hcases := Tunnel.settleUpFirst_cases now t e
  generalize t.settleUpFirst now e = settled at hcases ⊢
  generalize t.runUp now e = moved at hstuck hshut hwound hcases
  obtain ⟨t₁, e₁⟩ := moved
  have hstuck' := stuck_letMove ⟨now, t₁, e₁⟩ .target
  have hshut' := shut_letMove ⟨now, t₁, e₁⟩ .target
  have hacross := Stuck.letMove hwound .target
  have hsrc := shut_src_letMove ⟨now, t₁, e₁⟩ .target
  have hrun' : letMove ⟨now, t₁, e₁⟩ .target =
      ⟨now, (t₁.runDown now e₁).1, (t₁.runDown now e₁).2⟩ := rfl
  have hstays := Tunnel.runDown_up now t₁ e₁
  rw [hrun'] at hstuck' hshut' hacross hsrc
  dsimp only at hstuck hshut hstays hcases
  generalize t₁.runDown now e₁ = moved at hstuck' hshut' hacross hsrc hstays hcases
  obtain ⟨t₂, e₂⟩ := moved
  dsimp only at hstuck' hshut' hacross hsrc hstays hcases
  cases hcases with
  | upEndedLate hended =>
    exact .inr (tornDown_of_stop ⟨now, t₂, e₂⟩ .target
      ((congrArg Half.hasEnded hstays).trans hended) (hsrc.trans (hshut hended)))
  | upEnded hended => exact .inr (tornDown_of_stop ⟨now, t₁, e₁⟩ .target hended (hshut hended))
  | downEnded _ hended =>
    exact .inr (tornDown_of_stop ⟨now, t₂, e₂⟩ .client hended (hshut' hended))
  | going hgoing hgoing' =>
    exact .inl (Side.all .target (hstuck' hgoing') (hacross (hstuck hgoing) hgoing'))

/-- The timers were set by now with the sides changed over. -/
theorem Wound.swap (h : r.Wound span) : r.swap.Wound span := by
  intro side
  cases side
  · exact h .target
  · exact h .client

/-- A tunnel rests if it does with the sides changed over. -/
theorem Resting.of_swap (h : r.swap.Resting) : r.Resting := by
  have hback {m : Move} (hm : r.swap.move m.swap = r.swap) : r.move m = r := by
    rw [← swap_move] at hm
    exact congrArg TunnelRun.swap hm
  intro side
  obtain ⟨hact, hstop, hshut⟩ := h side.other
  exact ⟨hback hact, hback hstop, hback hshut⟩

/-- **A tunnel that settles** comes to rest, unless it was over before and a stream is still open
    then. -/
theorem resting_settle (hw : r.Wound span) (hover : r.tunnel.isOver = true → r.TornDown) :
    (settle r.now r).Resting := by
  cases hdone : r.tunnel.isOver with
  | true =>
    have hsame : settle r.now r = r := Settling.after_of_isOver (m := ⟨r.now, r⟩) hdone
    rw [hsame]
    exact (hover hdone).resting
  | false =>
    show Resting ⟨r.now, (r.tunnel.settle r.now r.ends).1, (r.tunnel.settle r.now r.ends).2⟩
    rcases Tunnel.settle_cases r.now r.ends hdone with hsettle | hsettle
    · rw [hsettle]
      exact resting_settleUpFirst r.tunnel r.ends hw
    · rw [hsettle]
      exact Resting.of_swap (resting_settleUpFirst r.tunnel.swap r.ends.swap hw.swap)

/-! ### A tunnel that waits -/

/-- A half up that waits does nothing. -/
theorem Waiting.runUp {t : Tunnel} {e : Ends} (h : Waiting ⟨now, t, e⟩) :
    t.runUp now e = (t, e) := by
  have hrun : t.up.run now ⟨e.client, t.clientTimer⟩ ⟨e.target, t.targetTimer⟩ =
      (t.up, ⟨e.client, t.clientTimer⟩, ⟨e.target, t.targetTimer⟩) := Half.run_of_stuck (h .client)
  have hopen : t.up.hasEnded = false := (h .client).1.hasEnded_eq
  rw [Tunnel.runUp, hrun]
  dsimp only
  rw [hopen]
  rfl

/-- A half down that waits does nothing. -/
theorem Waiting.runDown {t : Tunnel} {e : Ends} (h : Waiting ⟨now, t, e⟩) :
    t.runDown now e = (t, e) := by
  have hrun : t.down.run now ⟨e.target, t.targetTimer⟩ ⟨e.client, t.clientTimer⟩ =
      (t.down, ⟨e.target, t.targetTimer⟩, ⟨e.client, t.clientTimer⟩) :=
    Half.run_of_stuck (h .target)
  have hopen : t.down.hasEnded = false := (h .target).1.hasEnded_eq
  rw [Tunnel.runDown, hrun]
  dsimp only
  rw [hopen]
  rfl

/-- **A tunnel that waits** stays as it is when it settles. -/
theorem Waiting.settle {t : Tunnel} {e : Ends} (h : Waiting ⟨now, t, e⟩) :
    t.settle now e = (t, e) := by
  have hup : t.up.hasEnded = false := (h .client).1.hasEnded_eq
  have hdown : t.down.hasEnded = false := (h .target).1.hasEnded_eq
  rw [Tunnel.settle, Tunnel.isOver, hup, hdown]
  split
  · rename_i hover
    cases hover
  · split
    · rw [Tunnel.settleUpFirst, h.runUp]
      dsimp only
      rw [hup, if_neg Bool.false_ne_true, h.runDown]
      dsimp only
      rw [hdown, if_neg Bool.false_ne_true]
    · rw [Tunnel.settleDownFirst, h.runDown]
      dsimp only
      rw [hdown, if_neg Bool.false_ne_true, h.runUp]
      dsimp only
      rw [hup, if_neg Bool.false_ne_true]

/-- A tunnel goes on waiting until one of its deadlines has come. -/
theorem Waiting.later {t : Tunnel} {e : Ends} {later : Nat} (h : Waiting ⟨now, t, e⟩)
    (hahead : ∀ d ∈ t.deadlines, now < d → later < d) : Waiting ⟨later, t, e⟩ := by
  -- The stream that a half waits for is the one whose deadline the tunnel tells.
  have hmem (side : Side) : ((half ⟨now, t, e⟩ side).awaited (on ⟨now, t, e⟩ side)
      (on ⟨now, t, e⟩ side.other)).timer.deadline ∈ t.deadlines := by
    have hopen := (h side).1.hasEnded_eq
    unfold Tunnel.deadlines
    cases side with
    | client =>
      refine List.mem_append_left _ ?_
      show (t.up.awaited ⟨e.client, t.clientTimer⟩ ⟨e.target, t.targetTimer⟩).timer.deadline ∈ _
      replace hopen : t.up.hasEnded = false := hopen
      unfold Half.awaited
      unfold Half.hasEnded at hopen
      cases hstate : t.up.state with
      | ended fault =>
        rw [hstate] at hopen
        cases hopen
      | _ => exact List.mem_singleton_self _
    | target =>
      refine List.mem_append_right _ ?_
      show (t.down.awaited ⟨e.target, t.targetTimer⟩ ⟨e.client, t.clientTimer⟩).timer.deadline ∈ _
      replace hopen : t.down.hasEnded = false := hopen
      unfold Half.awaited
      unfold Half.hasEnded at hopen
      cases hstate : t.down.state with
      | ended fault =>
        rw [hstate] at hopen
        cases hopen
      | _ => exact List.mem_singleton_self _
  intro side
  obtain ⟨hblocked, hlt⟩ := h side
  refine ⟨?_, ?_⟩
  · cases side <;> exact hblocked
  · have hnext := hahead _ (hmem side) hlt
    cases side <;> exact hnext

/-! ### Whole runs -/

/-- What happens to a tunnel that is torn down does not open it again. -/
theorem TornDown.happen (h : r.TornDown) (e : Event) : (r.happen e).TornDown := by
  intro side
  obtain ⟨hended, hshut⟩ := h side
  cases e with
  | stream s e =>
    cases s <;> cases side
    · exact ⟨hended, (Lookahead.shut_apply e _).trans hshut⟩
    · exact ⟨hended, hshut⟩
    · exact ⟨hended, hshut⟩
    · exact ⟨hended, (Lookahead.shut_apply e _).trans hshut⟩
  | wait time => cases side <;> exact ⟨hended, hshut⟩
  | reorder turn => cases side <;> exact ⟨hended, hshut⟩

/-- The turn of a tunnel does not count while it rests. -/
theorem Resting.reorder (h : r.Resting) (turn : Turn) : (r.happen (.reorder turn)).Resting := by
  rcases resting_iff.1 h with hwaits | hdone
  · refine Waiting.resting fun side => ?_
    have hside := hwaits side
    cases side <;> exact hside
  · exact (hdone.happen _).resting

/-- A tunnel that is over and rests was torn down. -/
theorem Resting.tornDown (h : r.Resting) (hover : r.tunnel.isOver = true) : r.TornDown := by
  rcases resting_iff.1 h with hwaits | hdone
  · have hopen : r.tunnel.up.hasEnded = false := (hwaits .client).1.hasEnded_eq
    rw [Tunnel.isOver, hopen] at hover
    cases hover
  · exact hdone

/-- Settling sets timers to now or leaves them. -/
theorem Wound.settle (hw : r.Wound span) (hle : r.now ≤ now) :
    (settle now r).Wound span := by
  obtain ⟨ms, hms, -⟩ := reaches_settle_of_le r hle
  rw [← hms]
  exact hw.moves ms

/-- A tunnel that rests does so after it has settled at a later instant. -/
theorem Resting.settle (h : r.Resting) (hw : r.Wound span) (hle : r.now ≤ now) :
    (TunnelRun.settle now r).Resting := by
  have hlater : Wound span { r with now := now } := fun side => by
    have hside := (hw side).later hle
    cases side <;> exact hside
  refine resting_settle (r := { r with now := now }) hlater fun hover side => ?_
  have hside := h.tornDown hover side
  cases side <;> exact hside

/-- A tunnel that rests does so again after anything has happened and it has settled. -/
theorem resting_step (h : r.Resting) (hw : r.Wound span) (e : Event) :
    (r.step e).Resting ∧ (r.step e).Wound span := by
  obtain ⟨ms, hms, -⟩ := reaches_step r e
  refine ⟨?_, by rw [← hms]; exact hw.moves ms⟩
  cases e with
  | stream side e =>
    have hafter : (TunnelRun.settle r.now (r.happen (.stream side e))).Resting := by
      have hnow : (r.happen (.stream side e)).now = r.now := by cases side <;> rfl
      rw [← hnow]
      refine resting_settle (hw.happen _) fun hover => (h.tornDown ?_).happen _
      cases side <;> exact hover
    cases side <;> exact hafter
  | wait time =>
    have hrun : (r.step (.wait time)).now = r.now + time ∧ (r.step (.wait time)).Wound span ∧
        (r.step (.wait time)).Resting :=
      Clock.run_preserves
        (P := fun now (s : TunnelRun) => s.now = now ∧ s.Wound span ∧ s.Resting)
        (fun now t s hle hs => by
          obtain ⟨rfl, hwound, hrests⟩ := hs
          exact ⟨rfl, hwound.settle hle, hrests.settle hwound hle⟩)
        (Nat.le_add_right r.now time) ⟨rfl, hw, h⟩
    exact hrun.2.2
  | reorder turn => exact h.reorder turn

/-- **A tunnel that runs** is at rest after everything that happens to it. -/
theorem resting_run (h : r.Resting) (hw : r.Wound span) (es : List Event) :
    (r.run es).Resting ∧ (r.run es).Wound span := by
  induction es generalizing r with
  | nil => exact ⟨h, hw⟩
  | cons e es ih =>
    obtain ⟨hrests, hwound⟩ := resting_step h hw e
    exact ih hrests hwound

end TunnelRun

end ForwardProxy
