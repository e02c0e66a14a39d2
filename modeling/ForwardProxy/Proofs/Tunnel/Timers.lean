import ForwardProxy.Proofs.Stream.Timers
import ForwardProxy.Proofs.Tunnel.Flow

namespace ForwardProxy

/-!
# The timers of a tunnel

Each side of a tunnel has a timer of its own.  While the tunnel runs, settling it sets the timer of
a side anew if octets have moved on that side, and leaves it alone otherwise.  An idle deadline
ends a tunnel as soon as one of the two has come, whatever the other timer tells.

* `Half.lapsed` — whether an idle deadline has ended a half.
* `Timed`, `Half.timed_run` — what a half that moves does to the timers of its two streams.
* `Tunnel.stream` — a side of a tunnel, the stream and its timer.
* `Tunnel.Settled`, `Tunnel.settled_settle` — what settling a tunnel does to its timers.
* `Tunnel.Reported`, `Tunnel.reported_failure?` — why a tunnel says that it stopped.
-/

open IdleStream

/-- Whether an idle deadline has ended a half. -/
def Half.lapsed (h : Half) : Bool := h.fault?.any Fault.isIdle

/-- A half that runs has met no fault. -/
theorem Half.fault?_of_open {h : Half} (hopen : h.hasEnded = false) : h.fault? = none := by
  unfold fault?
  unfold hasEnded at hopen
  split
  · rename_i hended
    rw [hended] at hopen
    cases hopen
  · rfl

/-- A half that runs has not lapsed. -/
theorem Half.not_lapsed_of_open {h : Half} (hopen : h.hasEnded = false) : h.lapsed = false := by
  rw [lapsed, fault?_of_open hopen]
  rfl

/-- A half that was running has moved and is `h'` now. -/
structure Timed (now : Nat) (h' : Half) (src src' dst dst' : IdleStream Lookahead) : Prop where
  pushed_src : Pushed now src src'
  pushed_dst : Pushed now dst dst'
  used : h'.hasEnded = false → (∃ n, Used now n src src') ∧ ∃ n, Used now n dst dst'
  lapsed : h'.lapsed = true → src.timer.deadline ≤ now ∨ dst.timer.deadline ≤ now

namespace Timed

variable {now : Nat} {h h' h'' : Half} {src src' src'' dst dst' dst'' : IdleStream Lookahead}

theorem refl (hopen : h.hasEnded = false) (now : Nat) (src dst : IdleStream Lookahead) :
    Timed now h src src dst dst where
  pushed_src := .refl now src
  pushed_dst := .refl now dst
  used _ := ⟨⟨0, .refl now src⟩, ⟨0, .refl now dst⟩⟩
  lapsed hl := by
    rw [Half.not_lapsed_of_open hopen] at hl
    cases hl

/-- A half that goes on moving. -/
theorem trans (ht : Timed now h' src src' dst dst') (hsrc : src.Sound) (hdst : dst.Sound)
    (hopen : h'.hasEnded = false) (ht' : Timed now h'' src' src'' dst' dst'') :
    Timed now h'' src src'' dst dst'' where
  pushed_src := ht.pushed_src.trans ht'.pushed_src
  pushed_dst := ht.pushed_dst.trans ht'.pushed_dst
  used hopen' := by
    obtain ⟨⟨n, hn⟩, ⟨m, hm⟩⟩ := ht.used hopen
    obtain ⟨⟨n', hn'⟩, ⟨m', hm'⟩⟩ := ht'.used hopen'
    exact ⟨⟨n + n', hn.trans hn'⟩, ⟨m + m', hm.trans hm'⟩⟩
  lapsed hl := by
    rcases ht'.lapsed hl with hl | hl
    · exact .inl (ht.pushed_src.lapsed hsrc hl)
    · exact .inr (ht.pushed_dst.lapsed hdst hl)

end Timed

/-! ### One half -/

namespace Half

variable {now : Nat} {h : Half} {src dst : IdleStream Lookahead}

/-- A half that writes a chunk. -/
theorem timed_flush (now : Nat) (left : Bytes) (size : Nat) (h : Half)
    (src : IdleStream Lookahead) (hdst : dst.Sound) :
    Timed now (flush now left size h dst).1 src src dst (flush now left size h dst).2 := by
  have hpushed := dst.pushed_writeAll now left
  have hused := used_writeAll now left (s := dst)
  have hlapsed f := lapsed_of_writeAll now left (f := f) hdst
  unfold flush
  rcases hw : dst.writeAll now left with ⟨a, rest, dst'⟩
  rw [hw] at hpushed hused hlapsed
  cases a with
  | ready u =>
    refine ⟨.refl now src, hpushed, fun _ => ⟨⟨0, .refl now src⟩, hused nofun⟩, nofun⟩
  | blocked =>
    refine ⟨.refl now src, hpushed, fun _ => ⟨⟨0, .refl now src⟩, hused nofun⟩, nofun⟩
  | failed f =>
    refine ⟨.refl now src, hpushed, nofun, fun hl => .inr ?_⟩
    exact hlapsed f rfl hl

/-- A half that reads and writes in turn. -/
theorem timed_pump (now : Nat) (h : Half) (src dst : IdleStream Lookahead) (hsrc : src.Sound)
    (hdst : dst.Sound) (hopen : h.hasEnded = false) :
    Timed now (pump now h src dst).1 src (pump now h src dst).2.1 dst
      (pump now h src dst).2.2 := by
  induction h, src, dst using pump.induct now with
  | case1 h src dst hreading src' hread =>
    have hpushed := src.pushed_read now chunkSize
    rw [hread] at hpushed
    rw [pump, hreading, hread]
    refine ⟨hpushed, .refl now dst, fun _ => ⟨used_of_blocked hread, ⟨0, .refl now dst⟩⟩, ?_⟩
    intro hl
    rw [not_lapsed_of_open hopen] at hl
    cases hl
  | case2 h src dst hreading f src' hread =>
    have hpushed := src.pushed_read now chunkSize
    have hlapsed := lapsed_of_read now chunkSize (f := f) hsrc.genuine
    rw [hread] at hpushed hlapsed
    rw [pump, hreading, hread]
    refine ⟨hpushed, .refl now dst, fun ho => absurd ho.symm Bool.false_ne_true, fun hl => ?_⟩
    exact .inl (hlapsed rfl hl)
  | case3 h src dst hreading src' hread =>
    have hpushed := src.pushed_read now chunkSize
    rw [hread] at hpushed
    rw [pump, hreading, hread]
    exact ⟨hpushed, .refl now dst, fun ho => absurd ho.symm Bool.false_ne_true,
      fun hl => absurd hl Bool.false_ne_true⟩
  | case4 h src dst hreading b bs src' hread h' dst' hflush ih =>
    have hpushed := src.pushed_read now chunkSize
    rw [hread] at hpushed
    have hwrite := timed_flush now (b :: bs) (b :: bs).length h src' hdst
    rw [hflush] at hwrite
    -- What the read did to the source counts for the half as it is after the write.
    have hmoved : Timed now h' src src' dst dst' :=
      ⟨hpushed, hwrite.pushed_dst, fun ho => ⟨used_of_ready hread, (hwrite.used ho).2⟩, fun hl =>
        (hwrite.lapsed hl).imp_left (hpushed.lapsed hsrc)⟩
    rw [pump, hreading, hread]
    simp only [hflush]
    cases hended : h'.hasEnded with
    | true =>
      rw [pump_of_ne_reading (ne_reading_of_hasEnded hended)]
      exact hmoved
    | false =>
      have hrest := ih (hpushed.sound hsrc) (hwrite.pushed_dst.sound hdst) hended
      exact hmoved.trans hsrc hdst hended hrest
  | case5 h src dst hne =>
    rw [pump_of_ne_reading hne]
    exact .refl hopen now src dst

/-- **A half that moves** sets the timers of the two streams on which it moves octets, and ends for
    an idle deadline only if one of them had come. -/
theorem timed_run (now : Nat) (hsrc : src.Sound) (hdst : dst.Sound) (hopen : h.hasEnded = false) :
    Timed now (run now h src dst).1 src (run now h src dst).2.1 dst (run now h src dst).2.2 := by
  unfold run
  split
  · rename_i left size hwriting
    have hwrite := timed_flush now left size h src hdst
    rcases hflush : flush now left size h dst with ⟨h', dst'⟩
    rw [hflush] at hwrite
    show Timed now (pump now h' src dst').1 src (pump now h' src dst').2.1 dst
      (pump now h' src dst').2.2
    cases hended : h'.hasEnded with
    | true =>
      rw [pump_of_ne_reading (ne_reading_of_hasEnded hended)]
      exact hwrite
    | false =>
      have hrest := timed_pump now h' src dst' hsrc (hwrite.pushed_dst.sound hdst) hended
      exact hwrite.trans hsrc hdst hended hrest
  · exact timed_pump now h src dst hsrc hdst hopen

/-- A half that is stopped has ended, and not for an idle deadline unless it had before. -/
theorem stop_spec (h : Half) :
    h.stop.hasEnded = true ∧ (h.stop.lapsed = true → h.lapsed = true) := by
  unfold stop
  split
  · exact ⟨‹_›, id⟩
  · exact ⟨rfl, nofun⟩

end Half

/-! ### Both halves -/

/-- The side across the tunnel. -/
def TunnelRun.Side.other : TunnelRun.Side → TunnelRun.Side
  | client => target
  | target => client

/-- The other side of the other side is this one. -/
theorem TunnelRun.Side.other_other (side : TunnelRun.Side) : side.other.other = side := by
  cases side <;> rfl

namespace Tunnel

/-- A side of a tunnel, the stream and its timer. -/
def stream (t : Tunnel) (e : Ends) : TunnelRun.Side → IdleStream Lookahead
  | .client => ⟨e.client, t.clientTimer⟩
  | .target => ⟨e.target, t.targetTimer⟩

/-- The half that reads a side, and writes to the side across. -/
def half (t : Tunnel) : TunnelRun.Side → Half
  | .client => t.up
  | .target => t.down

/-- Stops the half that reads a side, and shuts the side across. -/
def stop (t : Tunnel) (e : Ends) : TunnelRun.Side → Tunnel × Ends
  | .client => t.stopUp e
  | .target => t.stopDown e

/-- The streams change over with the sides. -/
theorem stream_swap (t : Tunnel) (e : Ends) (side : TunnelRun.Side) :
    t.swap.stream e.swap side = t.stream e side.other := by
  cases side <;> rfl

/-- One half of a tunnel has moved, and is `h'` now. -/
structure Ran (now : Nat) (t : Tunnel) (e : Ends) (h' : Half) (t' : Tunnel) (e' : Ends) : Prop where
  pushed : ∀ side, Pushed now (t.stream e side) (t'.stream e' side)
  used : h'.hasEnded = false → ∀ side, ∃ n, Used now n (t.stream e side) (t'.stream e' side)
  lapsed : h'.lapsed = true → ∃ side, (t.stream e side).timer.deadline ≤ now

variable {now : Nat} {t : Tunnel} {e : Ends}

/-- A half up that runs has used its streams for what it moved, or has lapsed by one of them. -/
theorem ran_runUp (now : Nat) (hs : ∀ side, (t.stream e side).Sound)
    (hopen : t.up.hasEnded = false) :
    Ran now t e (t.runUp now e).1.up (t.runUp now e).1 (t.runUp now e).2 := by
  have htimed := Half.timed_run now (hs .client) (hs .target) hopen
  unfold runUp
  dsimp only [stream] at htimed
  rcases hrun : t.up.run now ⟨e.client, t.clientTimer⟩ ⟨e.target, t.targetTimer⟩ with ⟨h, src, dst⟩
  rw [hrun] at htimed
  dsimp only
  refine ⟨fun side => ?_, fun ho side => ?_, fun hl => ?_⟩
  · cases side with
    | client => exact htimed.pushed_src
    | target =>
      split
      · -- A half that has ended shuts the stream that it wrote to, which sets no timer.
        exact htimed.pushed_dst.trans (.close now dst)
      · exact htimed.pushed_dst
  · have hopen' : h.hasEnded = false := ho
    cases side with
    | client => exact (htimed.used hopen').1
    | target =>
      rw [if_neg (by rw [hopen']; exact Bool.false_ne_true)]
      exact (htimed.used hopen').2
  · rcases htimed.lapsed hl with hl | hl
    · exact ⟨.client, hl⟩
    · exact ⟨.target, hl⟩

/-- What holds of each side before and after holds so with the sides changed over. -/
theorem each_of_swap {t' : Tunnel} {e' : Ends}
    {P : IdleStream Lookahead → IdleStream Lookahead → Prop}
    (h : ∀ side, P (t.swap.stream e.swap side) (t'.stream e' side)) (side : TunnelRun.Side) :
    P (t.stream e side) (t'.swap.stream e'.swap side) := by
  have hside := h side.other
  rw [stream_swap, side.other_other] at hside
  rw [stream_swap]
  exact hside

/-- The deadline of a side has come if it has with the sides changed over. -/
theorem lapsed_of_swap (h : ∃ side, (t.swap.stream e.swap side).timer.deadline ≤ now) :
    ∃ side, (t.stream e side).timer.deadline ≤ now := by
  obtain ⟨side, hside⟩ := h
  rw [stream_swap] at hside
  exact ⟨side.other, hside⟩

/-- A half that ran with the sides changed over has run. -/
theorem Ran.swap {h' : Half} {t' : Tunnel} {e' : Ends} (h : Ran now t.swap e.swap h' t' e') :
    Ran now t e h' t'.swap e'.swap where
  pushed := each_of_swap h.pushed
  used ho := each_of_swap (P := fun s s' => ∃ n, Used now n s s') (h.used ho)
  lapsed hl := lapsed_of_swap (h.lapsed hl)

/-- Streams stay sound with the sides changed over. -/
theorem sound_swap (hs : ∀ side, (t.stream e side).Sound) (side : TunnelRun.Side) :
    (t.swap.stream e.swap side).Sound := by
  rw [stream_swap]
  exact hs side.other

/-- A half down that runs has used its streams for what it moved, or has lapsed by one of them. -/
theorem ran_runDown (now : Nat) (hs : ∀ side, (t.stream e side).Sound)
    (hopen : t.down.hasEnded = false) :
    Ran now t e (t.runDown now e).1.down (t.runDown now e).1 (t.runDown now e).2 :=
  (ran_runUp now (sound_swap hs) hopen).swap

/-- Running the half up does not touch the half down. -/
theorem runUp_down (now : Nat) (t : Tunnel) (e : Ends) : (t.runUp now e).1.down = t.down := rfl

/-- Running the half down does not touch the half up. -/
theorem runDown_up (now : Nat) (t : Tunnel) (e : Ends) : (t.runDown now e).1.up = t.up := rfl

/-- A running tunnel has settled. -/
structure Settled (now : Nat) (t : Tunnel) (e : Ends) (t' : Tunnel) (e' : Ends) : Prop where
  pushed : ∀ side, Pushed now (t.stream e side) (t'.stream e' side)
  /-- The halves end together. -/
  together : t'.up.hasEnded = t'.down.hasEnded
  used : t'.isOver = false → ∀ side, ∃ n, Used now n (t.stream e side) (t'.stream e' side)
  lapsed : t'.up.lapsed = true ∨ t'.down.lapsed = true →
    ∃ side, (t.stream e side).timer.deadline ≤ now

/-- Stopping a half sets no timer: of the two streams, one is shut and the other left alone. -/
theorem pushed_stop (now : Nat) (t : Tunnel) (e : Ends) (stopped side : TunnelRun.Side) :
    Pushed now (t.stream e side) ((t.stop e stopped).1.stream (t.stop e stopped).2 side) := by
  cases stopped <;> cases side
  · exact .refl now _
  · exact .close now _
  · exact .close now _
  · exact .refl now _

section

variable {t' : Tunnel} {e' : Ends}

/-- A deadline that has come after timers were pushed had come before. -/
theorem lapsed_of_pushed (hs : ∀ side, (t.stream e side).Sound)
    (hp : ∀ side, Pushed now (t.stream e side) (t'.stream e' side))
    (hl : ∃ side, (t'.stream e' side).timer.deadline ≤ now) :
    ∃ side, (t.stream e side).timer.deadline ≤ now := by
  obtain ⟨side, hside⟩ := hl
  exact ⟨side, (hp side).lapsed (hs side) hside⟩

/-- A tunnel one half of which has ended stops the other half. -/
theorem settled_stop (stopped : TunnelRun.Side)
    (hp : ∀ side, Pushed now (t.stream e side) (t'.stream e' side))
    (hended : (t'.half stopped.other).hasEnded = true)
    (hl : t'.up.lapsed = true ∨ t'.down.lapsed = true →
      ∃ side, (t.stream e side).timer.deadline ≤ now) :
    Settled now t e (t'.stop e' stopped).1 (t'.stop e' stopped).2 := by
  obtain ⟨hstop, hlapsed⟩ := (t'.half stopped).stop_spec
  -- The one half is stopped and the other has ended, so the tunnel is over either way.
  obtain ⟨hup, hdown⟩ : (t'.stop e' stopped).1.up.hasEnded = true ∧
      (t'.stop e' stopped).1.down.hasEnded = true := by
    cases stopped
    · exact ⟨hstop, hended⟩
    · exact ⟨hended, hstop⟩
  have hbefore : (t'.stop e' stopped).1.up.lapsed = true ∨
      (t'.stop e' stopped).1.down.lapsed = true → t'.up.lapsed = true ∨ t'.down.lapsed = true := by
    cases stopped
    · exact Or.imp_left hlapsed
    · exact Or.imp_right hlapsed
  refine ⟨fun side => (hp side).trans (pushed_stop now t' e' stopped side), hup.trans hdown.symm,
    fun hopen => ?_, fun hl' => hl (hbefore hl')⟩
  rw [isOver, hup, hdown] at hopen
  cases hopen

/-- A tunnel both halves of which go on. -/
theorem settled_of_open
    (hused : ∀ side, ∃ n, Used now n (t.stream e side) (t'.stream e' side))
    (hup : t'.up.hasEnded = false) (hdown : t'.down.hasEnded = false) :
    Settled now t e t' e' := by
  refine ⟨fun side => ?_, hup.trans hdown.symm, fun _ => hused, fun hl => ?_⟩
  · obtain ⟨n, hn⟩ := hused side
    exact hn.pushed
  · rw [Half.not_lapsed_of_open hup, Half.not_lapsed_of_open hdown] at hl
    rcases hl with hl | hl <;> cases hl

end

/-- A tunnel that settles, the half up first, has used its streams for what it moved or has ended.
    -/
theorem settled_settleUpFirst (hs : ∀ side, (t.stream e side).Sound)
    (hup : t.up.hasEnded = false) (hdown : t.down.hasEnded = false) :
    Settled now t e (t.settleUpFirst now e).1 (t.settleUpFirst now e).2 := by
  -- Running one half leaves the other as it was, so that what each has come to outlasts the other.
  have hran := ran_runUp now hs hup
  have hstays := runUp_down now t e
  have hcases := settleUpFirst_cases now t e
  generalize t.settleUpFirst now e = settled at hcases ⊢
  generalize t.runUp now e = moved at hran hstays hcases
  obtain ⟨t₁, e₁⟩ := moved
  dsimp only at hran hstays hcases
  have hopen : t₁.down.hasEnded = false := by rw [hstays]; exact hdown
  have hran' := ran_runDown now (fun side => (hran.pushed side).sound (hs side)) hopen
  have hstays' := runDown_up now t₁ e₁
  have hlapsed' := fun hl => lapsed_of_pushed hs hran.pushed (hran'.lapsed hl)
  have hpushed' := fun side => (hran.pushed side).trans (hran'.pushed side)
  generalize t₁.runDown now e₁ = moved at hran' hstays' hlapsed' hpushed' hcases
  obtain ⟨t₂, e₂⟩ := moved
  dsimp only at hran' hstays' hlapsed' hpushed' hcases
  cases hcases with
  | upEndedLate hended =>
    have hstill : t₂.up.hasEnded = true := by rw [hstays']; exact hended
    refine settled_stop .target hpushed' hstill fun hl => ?_
    rcases hl with hl | hl
    · exact hran.lapsed (by rw [← hstays']; exact hl)
    · exact hlapsed' hl
  | upEnded hended =>
    refine settled_stop .target hran.pushed hended fun hl => ?_
    rcases hl with hl | hl
    · exact hran.lapsed hl
    · rw [Half.not_lapsed_of_open hopen] at hl
      cases hl
  | downEnded hgoing hended =>
    have hgoing' : t₂.up.hasEnded = false := by rw [hstays']; exact hgoing
    refine settled_stop .client hpushed' hended fun hl => ?_
    rcases hl with hl | hl
    · rw [Half.not_lapsed_of_open hgoing'] at hl
      cases hl
    · exact hlapsed' hl
  | going hgoing hgoing' =>
    refine settled_of_open (fun side => ?_) (by rw [hstays']; exact hgoing) hgoing'
    obtain ⟨n, hn⟩ := hran.used hgoing side
    obtain ⟨m, hm⟩ := hran'.used hgoing' side
    exact ⟨n + m, hn.trans hm⟩

/-- A tunnel that settled with the sides changed over has settled. -/
theorem Settled.swap {t' : Tunnel} {e' : Ends} (h : Settled now t.swap e.swap t' e') :
    Settled now t e t'.swap e'.swap where
  pushed := each_of_swap h.pushed
  together := h.together.symm
  used ho := each_of_swap (P := fun s s' => ∃ n, Used now n s s')
    (h.used ((Bool.and_comm _ _).trans ho))
  lapsed hl := lapsed_of_swap (h.lapsed hl.symm)

/-- **A running tunnel that settles** sets the timers of those sides on which octets move, unless it
    ends; and it ends for an idle deadline only if that of one side has come. -/
theorem settled_settle (hs : ∀ side, (t.stream e side).Sound) (hup : t.up.hasEnded = false)
    (hdown : t.down.hasEnded = false) : Settled now t e (t.settle now e).1 (t.settle now e).2 := by
  have hopen : t.isOver = false := by rw [isOver, hup, Bool.false_and]
  rcases settle_cases now e hopen with hsettle | hsettle
  · rw [hsettle]
    exact settled_settleUpFirst hs hup hdown
  · rw [hsettle]
    exact (settled_settleUpFirst (sound_swap hs) hdown hup).swap

/-- The figures of a tunnel tell whether it is over. -/
theorem isOver_of_stats?_eq {t' : Tunnel} (h : t.stats? = t'.stats?) : t.isOver = t'.isOver := by
  unfold stats? at h
  cases hover : t.isOver <;> cases hover' : t'.isOver <;> simp [hover, hover'] at h ⊢

/-- Why a tunnel says that it stopped: an idle deadline of either half goes before any other
    fault. -/
inductive Reported (t : Tunnel) : Option Failure → Prop
  | idle (lapsed : t.up.lapsed = true ∨ t.down.lapsed = true) :
    Reported t (some (.idleTimeout t.clientTimer.span))
  | fault {f : Fault} (raised : t.up.fault? = some f ∨ t.down.fault? = some f)
    (unlapsed : t.up.lapsed = false ∧ t.down.lapsed = false) : Reported t (some (.io f))
  | sound (up : t.up.fault? = none) (down : t.down.fault? = none) : Reported t none

/-- What a tunnel says is so. -/
theorem reported_failure? (t : Tunnel) : t.Reported t.failure? := by
  have hany : ([t.up.fault?, t.down.fault?].filterMap id).any Fault.isIdle =
      (t.up.lapsed || t.down.lapsed) := by
    unfold Half.lapsed
    cases t.up.fault? <;> cases t.down.fault? <;> simp
  unfold failure?
  dsimp only
  rw [hany]
  split
  · rename_i hlapsed
    exact .idle (Bool.or_eq_true_iff.1 hlapsed)
  · rename_i hlapsed
    have hunlapsed := Bool.or_eq_false_iff.1 (Bool.eq_false_iff.2 hlapsed)
    cases hu : t.up.fault? with
    | some f => exact .fault (.inl hu) hunlapsed
    | none =>
      cases hd : t.down.fault? with
      | some f => exact .fault (.inr hd) hunlapsed
      | none => exact .sound hu hd

/-- The failure of a tunnel is an idle one just if an idle deadline has ended one of its halves. -/
theorem failure?_eq_idleTimeout {span : Nat} (h : t.failure? = some (.idleTimeout span)) :
    span = t.clientTimer.span ∧ (t.up.lapsed = true ∨ t.down.lapsed = true) := by
  have hreported := t.reported_failure?
  rw [h] at hreported
  cases hreported with
  | idle lapsed => exact ⟨rfl, lapsed⟩

end Tunnel

end ForwardProxy
