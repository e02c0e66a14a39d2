import ForwardProxy.Proofs.Tunnel.Wakeups

namespace ForwardProxy

/-!
# A silent tunnel ends in time

Both halves of a tunnel wait, and from then on nothing happens on its sides.  No operation is
completed any more, so that no deadline is put off; the alarm of each half goes off by its
deadline, and the half that tries then ends for idleness and ends the other one.

* `TunnelRun.Hushed` — what a tunnel that waits becomes while nothing happens on its sides.
* `TunnelRun.Hushed.move` — one move of it.
* `TunnelRun.Hushed.stats?_eq` — what it reports once it is over.
* `TunnelRun.Alarmed.reaches_settled` — its halves can fall asleep at any time.
* `TunnelRun.silent_tunnel_ends` — that it is over a span later, whatever it was waiting for.
-/

/-- An idle deadline that has ended a half is what the tunnel reports. -/
theorem Tunnel.failure?_of_lapsed {t : Tunnel} (h : t.up.lapsed = true ∨ t.down.lapsed = true) :
    t.failure? = some (.idleTimeout t.clientTimer.span) := by
  have hreported := t.reported_failure?
  generalize t.failure? = failure at hreported
  cases hreported with
  | idle lapsed => rfl
  | fault raised unlapsed =>
    rw [unlapsed.1, unlapsed.2] at h
    rcases h with h | h <;> cases h
  | sound up down =>
    rw [Half.lapsed, Half.lapsed, up, down] at h
    rcases h with h | h <;> cases h

namespace TunnelRun

variable {r s : TunnelRun} {side : Side} {span : Nat}

/-- Both halves run, and wait for a stream that has nothing for them or no room. -/
def Blocked (r : TunnelRun) : Prop :=
  ∀ side, (r.half side).Blocked (r.on side).stream (r.on side.other).stream

/-- `s` was a tunnel both halves of which wait, and since then nothing has happened on its sides. -/
structure Hushed (span : Nat) (s r : TunnelRun) : Prop where
  /-- No operation was completed. -/
  timer : ∀ side, (r.on side).timer = (s.on side).timer
  blocked : ∀ side, (r.half side).hasEnded = false →
    (r.half side).Blocked (r.on side).stream (r.on side.other).stream
  moved : ∀ side, (r.half side).moved = (s.half side).moved
  /-- Only idleness ends a half. -/
  fault : ∀ side f, (r.half side).fault? = some f → f = .idle span
  first : ∀ side, (r.half side).hasEnded = true → ∃ side, (r.half side).fault? = some (.idle span)

namespace Hushed

theorem refl (hb : s.Blocked) (span : Nat) : Hushed span s s where
  timer _ := rfl
  blocked side _ := hb side
  moved _ := rfl
  fault side f hf := by
    rw [Half.fault?_of_open (hb side).hasEnded_eq] at hf
    cases hf
  first side hended := by
    rw [(hb side).hasEnded_eq] at hended
    cases hended

/-- A half ends, or has ended and shuts the stream that it was writing to. -/
theorem put (h : Hushed span s r) {half : Half} {dst : IdleStream Lookahead}
    (hended : half.hasEnded = true) (hmoved : half.moved = (r.half side).moved)
    (hdst : dst = r.on side.other ∨ dst = (r.on side.other).close)
    (hfault : ∀ f, half.fault? = some f → f = .idle span)
    (hfirst : ∃ s, ((r.put side (half, r.on side, dst)).half s).fault? = some (.idle span)) :
    Hushed span s (r.put side (half, r.on side, dst)) := by
  refine ⟨Side.all side ?_ ?_, Side.all side (fun hopen => ?_) (fun hopen => ?_),
    Side.all side ?_ ?_, Side.all side ?_ ?_, fun _ _ => hfirst⟩
  · rw [on_put]
    exact h.timer side
  · rw [on_other_put, ← h.timer side.other]
    rcases hdst with rfl | rfl <;> rfl
  · rw [half_put, hended] at hopen
    cases hopen
  · -- The other half does not mind that a stream which it only reads is shut.
    rw [half_other_put] at hopen ⊢
    have hwaits := h.blocked side.other hopen
    rw [Side.other_other] at hwaits ⊢
    rw [on_put, on_other_put]
    rcases hdst with rfl | rfl
    · exact hwaits
    · exact hwaits.close_src
  · rw [half_put, hmoved, h.moved]
  · rw [half_other_put, h.moved]
  · rw [half_put]
    exact hfault
  · rw [half_other_put]
    exact h.fault side.other

/-- An operation of a half that waits ends it for idleness, or changes nothing. -/
theorem act (h : Hushed span s r) (hw : s.Wound span) (side : Side) :
    Hushed span s (r.move (.act side)) := by
  rw [TunnelRun.move]
  cases hopen : (r.half side).hasEnded with
  | true =>
    rw [Half.act_of_hasEnded hopen, put_self]
    exact h
  | false =>
    -- A blocked half can do nothing but look at the timer that it waits for.
    have hspan : ((r.half side).awaited (r.on side) (r.on side.other)).timer.span = span := by
      unfold Half.awaited
      split
      · rw [h.timer, (hw side.other).span_eq]
      · rw [h.timer, (hw side).span_eq]
    rw [Half.act_of_blocked (h.blocked side hopen), hspan]
    split
    · refine h.put rfl rfl (.inl rfl) (fun f hf => (Option.some.inj hf).symm) ⟨side, ?_⟩
      rw [half_put]
      rfl
    · rw [put_self]
      exact h

/-- **One move** in which nothing happens on the sides. -/
theorem move (h : Hushed span s r) (hw : s.Wound span) {m : Move}
    (hm : ∀ side, m.sent side = []) : Hushed span s (r.move m) := by
  cases m with
  | act side => exact h.act hw side
  | stop side =>
    rw [TunnelRun.move]
    split
    · rename_i hended
      -- A half is stopped only behind the other, so the one that ended first is still there.
      obtain ⟨first, hfirst⟩ := h.first _ hended
      have hstop := (r.half side).fault?_stop
      refine h.put (r.half side).stop_spec.1 ?_ (.inl rfl) (fun f hf => ?_) ⟨first, ?_⟩
      · unfold Half.stop
        split <;> rfl
      · exact h.fault side f (hstop ▸ hf)
      · rcases side.eq_or_eq_other first with rfl | rfl
        · rw [half_put, hstop, hfirst]
        · rw [half_other_put, hfirst]
    · exact h
  | shut side =>
    rw [TunnelRun.move]
    split
    · rename_i hended
      obtain ⟨first, hfirst⟩ := h.first _ hended
      refine h.put hended rfl (.inr rfl) (h.fault side) ⟨first, ?_⟩
      rcases side.eq_or_eq_other first with rfl | rfl
      · rw [half_put, hfirst]
      · rw [half_other_put, hfirst]
    · exact h
  | event e =>
    cases e with
    | stream side e =>
      have hsent : Event.sent side (.stream side e) = [e] := if_pos rfl
      have hnone := (hm side).symm.trans hsent
      cases hnone
    | wait time => exact ⟨h.timer, h.blocked, h.moved, h.fault, h.first⟩
    | reorder turn => exact ⟨h.timer, h.blocked, h.moved, h.fault, h.first⟩

/-- A tunnel stays hushed as long as nobody sends anything. -/
theorem moves (h : Hushed span s r) (hw : s.Wound span) {ms : List Move}
    (hms : ∀ side, ms.flatMap (Move.sent side) = []) : Hushed span s (r.moves ms) := by
  induction ms generalizing r with
  | nil => exact h
  | cons m ms ih =>
    have hsent side := List.append_eq_nil_iff.1 (hms side)
    exact ih (h.move hw fun side => (hsent side).1) fun side => (hsent side).2

/-- **Once it is over** it has moved nothing more, and reports idleness. -/
theorem stats?_eq (h : Hushed span s r) (hw : s.Wound span) (hdone : r.TornDown) :
    r.tunnel.stats? =
      some ⟨s.tunnel.up.moved, s.tunnel.down.moved, some (.idleTimeout span)⟩ := by
  have hover : r.tunnel.isOver = true :=
    Bool.and_eq_true_iff.2 ⟨(hdone .client).1, (hdone .target).1⟩
  have hlapsed : r.tunnel.up.lapsed = true ∨ r.tunnel.down.lapsed = true := by
    obtain ⟨first, hfirst⟩ := h.first .client (hdone .client).1
    have hidle : (r.half first).lapsed = true := by
      rw [Half.lapsed, hfirst]
      rfl
    cases first with
    | client => exact .inl hidle
    | target => exact .inr hidle
  have hspan : r.tunnel.clientTimer.span = span :=
    (congrArg IdleTimer.span (h.timer .client)).trans (hw .client).span_eq
  have hup : r.tunnel.up.moved = s.tunnel.up.moved := h.moved .client
  have hdown : r.tunnel.down.moved = s.tunnel.down.moved := h.moved .target
  rw [Tunnel.stats?, hover, if_pos rfl, Tunnel.failure?_of_lapsed hlapsed, hspan, hup, hdown]

/-- A half that still runs waits for a deadline that comes within a span. -/
theorem deadline_le (h : Hushed span s r) (hw : s.Wound span)
    (hclock : s.now + span < Time.horizon) (side : Side) :
    (r.on side).timer.deadline ≤ s.now + span := by
  rw [h.timer]
  exact (hw side).deadline_le hclock

end Hushed

/-! ### With alarms -/

namespace Alarmed

variable {a : Alarmed}

/-- While nothing happens on its sides, no alarm of a tunnel that waits gets too late. -/
theorem hushed_moves (h : Hushed span s a.current) (hv : a.Vigilant) (hw : s.Wound span)
    {ms : List Move} (hms : ∀ side, ms.flatMap (Move.sent side) = []) :
    Hushed span s (a.moves ms).current ∧ (a.moves ms).Vigilant := by
  induction ms generalizing a with
  | nil => exact ⟨h, hv⟩
  | cons m ms ih =>
    have hsent side := List.append_eq_nil_iff.1 (hms side)
    have hmove : Hushed span s (a.move m).current := by
      rcases current_move a m with ⟨m', rfl, hm⟩ | hm
      · rw [hm]
        exact h.move hw fun side => (hsent side).1
      · rw [hm]
        exact h
    have htimer side : ((a.move m).current.on side).timer = (a.current.on side).timer :=
      (hmove.timer side).trans (h.timer side).symm
    refine ih hmove (hv.move m fun side => ?_) fun side => (hsent side).2
    exact Nat.le_of_eq (congrArg IdleTimer.deadline (htimer side).symm)

/-- **A settled tunnel is over** if its halves had to wait a span ago, and nothing has happened on
    its sides since. -/
theorem Settled.tornDown (hsettled : a.Settled) (h : Hushed span s a.current) (hv : a.Vigilant)
    (hw : s.Wound span) (hclock : s.now + span < Time.horizon)
    (hlate : s.now + span ≤ a.current.now) : a.current.TornDown := by
  cases hended : (a.current.half .client).hasEnded with
  | true => exact tornDown_of_ended hsettled.stopped hsettled.shut hended
  | false =>
    -- The alarm of the half lies ahead, but it is not later than a deadline that has come.
    obtain ⟨hasleep, hahead⟩ := hsettled.asleep .client hended
    have halarm := hv .client hended hasleep
    have hdue := h.deadline_le hw hclock (a.waitsOn .client).1
    omega

/-- An attempt of a half that is awake and rests puts it to sleep. -/
theorem attempt_of_resting {side : Side} (hact : a.current.move (.act side) = a.current)
    (hawake : a.awake side = true) : a.attempt side = a.rest side := by
  rw [attempt, if_pos hawake, if_pos hact]

/-- The halves of a tunnel at rest try once more, and sleep then. -/
theorem reaches_settled_of_resting (hrests : a.current.Resting) :
    ∃ ms, (∀ side, ms.flatMap (Move.sent side) = []) ∧ (a.moves ms).current = a.current ∧
      (a.moves ms).Settled := by
  let first := (a.move (.wake .client)).rest .client
  let last := (first.move (.wake .target)).rest .target
  have hmoves : a.moves [.wake .client, .plain (.act .client), .wake .target,
      .plain (.act .target)] = last := by
    show (((a.move (.wake .client)).attempt .client).move (.wake .target)).attempt .target = last
    rw [attempt_of_resting (a := a.move (.wake .client)) (hrests .client).1 rfl]
    exact attempt_of_resting (a := first.move (.wake .target)) (hrests .target).1 rfl
  refine ⟨[.wake .client, .plain (.act .client), .wake .target, .plain (.act .target)],
    fun side => rfl, ?_, ?_⟩
  · rw [hmoves]
    rfl
  rw [hmoves]
  -- Each half was woken and has gone to sleep again, so its alarm stands at the deadline of the
  -- stream that it waits on.
  have halarm side : last.alarmOf side = (a.current.on (a.waitsOn side).1).timer.deadline := by
    cases side
    · exact (if_neg (waitsOn_ne_other a .client)).trans (if_pos rfl)
    · exact if_pos rfl
  have hawake side : last.awake side = false := by cases side <;> rfl
  have hstuck side (hopen : (a.current.half side).hasEnded = false) : a.current.Stuck side :=
    Half.stuck_of_act hopen (by
      have hact := congrArg (fun r => r.half side) (hrests side).1
      rwa [TunnelRun.move, half_put] at hact)
  refine ⟨fun side hopen => ⟨hawake side, ?_⟩, fun side hopen => (hstuck side hopen).1,
    fun side => (hrests side).2.1, fun side => (hrests side).2.2⟩
  rw [halarm, ← awaited_eq]
  exact (hstuck side hopen).2

/-- **The halves of a tunnel can fall asleep** at once, whatever they were doing. -/
theorem reaches_settled (hw : a.current.Wound span) :
    ∃ ms, (∀ side, ms.flatMap (Move.sent side) = []) ∧
      (a.moves ms).current.now = a.current.now ∧ (a.moves ms).Settled := by
  obtain ⟨r, ⟨ms, hms, hsent⟩, hnow, hrests⟩ := reaches_rest hw
  have hcurrent : (a.moves (ms.flatMap Move.waking)).current = r :=
    (current_moves_waking a ms).trans hms
  rw [← hcurrent] at hrests hnow
  obtain ⟨ms', hsent', hcurrent', hsettled⟩ := reaches_settled_of_resting hrests
  have happend : a.moves (ms.flatMap Move.waking ++ ms') =
      (a.moves (ms.flatMap Move.waking)).moves ms' := List.foldl_append
  refine ⟨ms.flatMap Move.waking ++ ms', fun side => ?_, ?_, ?_⟩
  · have hwaking : (ms.flatMap Move.waking).flatMap (Move.sent side) = [] := by
      rw [List.flatMap_assoc]
      simp only [sent_waking]
      exact hsent side
    rw [List.flatMap_append, hwaking, hsent' side]
    rfl
  · rw [happend, hcurrent', hnow]
  · rw [happend]
    exact hsettled

end Alarmed

/-! ### Silence -/

/-- A tunnel that waits is blocked. -/
theorem Waiting.blocked (h : r.Waiting) : r.Blocked := fun side => (h side).1

/-- A tunnel that waits and then runs in silence for a span is over. -/
theorem Resting.tornDown_of_silence (hrests : r.Resting) (hw : r.Wound span)
    (hrunning : r.tunnel.stats? = none) (hclock : r.now + span < Time.horizon) {es : List Event}
    (hsilent : ∀ side, es.flatMap (Event.sent side) = []) (hlate : r.now + span ≤ (r.run es).now) :
    Hushed span r (r.run es) ∧ (r.run es).TornDown := by
  have hwaits : r.Waiting := by
    refine (resting_iff.1 hrests).resolve_right fun hdone => ?_
    have hover : r.tunnel.isOver = true :=
      Bool.and_eq_true_iff.2 ⟨(hdone .client).1, (hdone .target).1⟩
    rw [Tunnel.stats?, hover] at hrunning
    cases hrunning
  have hushed : Hushed span r (r.run es) := by
    obtain ⟨ms, hms, hsent⟩ := reaches_run r es
    rw [← hms]
    exact (Hushed.refl hwaits.blocked span).moves hw fun side => (hsent side).trans (hsilent side)
  refine ⟨hushed, (resting_iff.1 (resting_run hrests hw es).1).resolve_left fun hstill => ?_⟩
  -- A half that still waited would wait for a deadline that has come.
  have hlt := (hstill .client).2
  unfold Half.awaited at hlt
  split at hlt
  · have hdue := hushed.deadline_le hw hclock Side.client.other
    omega
  · have hdue := hushed.deadline_le hw hclock .client
    omega

/-- A tunnel has become `r'`, which has returned for idleness and shut both its streams.  It has
    moved nothing on the way. -/
structure EndedIdle (span : Nat) (r r' : TunnelRun) : Prop where
  stats?_eq : r'.tunnel.stats? =
    some ⟨r.tunnel.up.moved, r.tunnel.down.moved, some (.idleTimeout span)⟩
  shut : ∀ side, (r'.on side).stream.channel.shut = true

/-- A hushed tunnel that was torn down has ended by silence. -/
theorem Hushed.endedIdle (h : Hushed span s r) (hw : s.Wound span) (hdone : r.TornDown) :
    EndedIdle span s r :=
  ⟨h.stats?_eq hw hdone, fun side => (hdone side).2⟩

/-- **A silent tunnel ends in time.**  Its halves sleep and are woken, try and have to wait, in any
    order with all that its sides do and with the time that goes by.  Wherever this has led to, if
    both halves have to wait, whatever for, and nothing happens on the sides from then on, then a
    span later the tunnel has returned for idleness and shut both its streams, once it is settled.
    It can settle at any time; and a tunnel that runs by itself has done so by then. -/
theorem silent_tunnel_ends (span begun : Nat) (turn : Turn) (ends : Ends) :
    (∀ ms a, (Alarmed.opening span begun turn ends).moves ms = a →
      (a.current.Blocked → a.current.now + span < Time.horizon →
        ∀ ms', (∀ side, ms'.flatMap (Alarmed.Move.sent side) = []) → (a.moves ms').Settled →
          a.current.now + span ≤ (a.moves ms').current.now →
          EndedIdle span a.current (a.moves ms').current) ∧
      ∃ ms', (∀ side, ms'.flatMap (Alarmed.Move.sent side) = []) ∧
        (a.moves ms').current.now = a.current.now ∧ (a.moves ms').Settled) ∧
    ∀ es r, (settle begun (opening span begun turn ends)).run es = r → r.tunnel.stats? = none →
      r.now + span < Time.horizon →
      ∀ es', (∀ side, es'.flatMap (Event.sent side) = []) → r.now + span ≤ (r.run es').now →
        EndedIdle span r (r.run es') := by
  have hwound := wound_opening span begun turn ends
  constructor
  · rintro ms a rfl
    have hw : ((Alarmed.opening span begun turn ends).moves ms).current.Wound span := by
      obtain ⟨ms', hms'⟩ := Alarmed.current_moves (Alarmed.opening span begun turn ends) ms
      rw [hms']
      exact hwound.moves ms'
    refine ⟨fun hblocked hclock ms' hsilent hsettled hlate => ?_, Alarmed.reaches_settled hw⟩
    -- No alarm is later than its deadline, so within a span each half wakes and finds the silence.
    have hvigilant := (Alarmed.vigilant_opening span begun turn ends).moves hwound hclock
    obtain ⟨hushed, hvigilant'⟩ :=
      Alarmed.hushed_moves (.refl hblocked span) hvigilant hw hsilent
    exact hushed.endedIdle hw (hsettled.tornDown hushed hvigilant' hw hclock hlate)
  · rintro es r rfl hrunning hclock es' hsilent hlate
    have hsettled : (settle begun (opening span begun turn ends)).Resting :=
      resting_settle (r := opening span begun turn ends) hwound nofun
    obtain ⟨hrests, hw⟩ := resting_run hsettled (hwound.settle (Nat.le_refl begun)) es
    obtain ⟨hushed, hdone⟩ := hrests.tornDown_of_silence hw hrunning hclock hsilent hlate
    exact hushed.endedIdle hw hdone

/-- Three octets come 60 ms after the halves fell asleep, so that the alarm of the half that reads
    the target goes off 60 ms too early.  It tries again and sleeps on, and the tunnel ends when the
    idle deadline comes. -/
theorem silent_tunnel_ends_after_early_alarm :
    let span := Duration.ofMillis 100
    let sleep := fun side => [Alarmed.Move.wake side, .plain (.act side)]
    let wait := fun ms => [Alarmed.Move.plain (.event (.wait (Duration.ofMillis ms)))]
    let a := (Alarmed.opening span 0 ⟨true, true⟩
      ⟨.ofChannel (.idle none), .ofChannel (.idle none)⟩).moves
        (sleep .client ++ sleep .target ++ wait 60 ++
          [.plain (.event (.stream .client (.send (ascii "abc")))), .wake .client,
            .plain (.act .client), .plain (.act .client), .plain (.act .client)])
    let ms := wait 40 ++ sleep .target ++ wait 60 ++ sleep .client ++
      [.plain (.stop .target), .plain (.shut .client), .plain (.shut .target)]
    a.awake .target = false ∧ a.alarmOf .target = Duration.ofMillis 100 ∧
      (a.current.on .target).timer.deadline = Duration.ofMillis 160 ∧
      EndedIdle span a.current (a.moves ms).current := by
  intro span sleep wait a ms
  have hblocked : a.current.Blocked := by
    have hreading side : (a.current.half side).state = .reading := by
      cases side <;> decide +kernel
    intro side
    rw [Half.Blocked, hreading side]
    cases side <;> exact ⟨by decide +kernel, by decide +kernel, by decide +kernel⟩
  have hended side : ((a.moves ms).current.half side).hasEnded = true := by
    cases side <;> decide +kernel
  have hsettled : (a.moves ms).Settled := by
    refine ⟨fun side hopen => ?_, fun side hopen => ?_, fun side => ?_, fun side => ?_⟩
    · rw [hended side] at hopen
      cases hopen
    · rw [hended side] at hopen
      cases hopen
    · cases side <;> decide +kernel
    · cases side <;> decide +kernel
  have hsilent side : ms.flatMap (Alarmed.Move.sent side) = [] := by cases side <;> rfl
  obtain ⟨hends, -⟩ := (silent_tunnel_ends span 0 ⟨true, true⟩
    ⟨.ofChannel (.idle none), .ofChannel (.idle none)⟩).1 _ a rfl
  refine ⟨by decide +kernel, by decide +kernel, by decide +kernel, ?_⟩
  exact hends hblocked (by decide +kernel) ms hsilent hsettled (by decide +kernel)

end TunnelRun

end ForwardProxy
