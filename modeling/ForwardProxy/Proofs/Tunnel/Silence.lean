import ForwardProxy.Proofs.Tunnel.Record

namespace ForwardProxy

/-!
# How silent an idle tunnel has been

The timer of a side tells when octets last moved on that side, and a tunnel ends for idleness when
one timer has run out that one of its halves waits for.  So one side has been silent for the span,
and the other one need not have been.

* `TunnelRun.Silent` — that no octet has moved on either side for a span.
* `TunnelRun.Last` — when octets last moved on a side.
* `TunnelRun.Running`, `TunnelRun.Told` — a running tunnel, and any tunnel, told by its record.
* `TunnelRun.Told.step`, `TunnelRun.Told.run` — whatever happens to it.
* `TunnelRun.silent_iff_of_idleTimeout` — just when an idle tunnel has been silent on both sides.
* `TunnelRun.torn_down_in_traffic` — that it may not have been.
-/

namespace TunnelRun

/-- No octet has moved on either side later than `span` before `instant`. -/
def Silent (span instant : Nat) (past : List Settling) : Prop :=
  ∀ m ∈ past, ∀ side, m.moves side = true → m.instant + span ≤ instant

/-- Something that happens to a tunnel without an idle fault in it. -/
def Event.Genuine : Event → Prop
  | stream _ e => e.Genuine
  | _ => True

/-- Octets last moved on a side at `last`, or `last` is when the tunnel began. -/
structure Last (begun last : Nat) (side : Side) (past : List Settling) : Prop where
  begun_le : begun ≤ last
  moved : (last = begun ∧ ∀ m ∈ past, m.moves side = false) ∨
    ∃ m ∈ past, m.moves side = true ∧ m.instant = last
  le_last : ∀ m ∈ past, m.moves side = true → m.instant ≤ last

namespace Last

variable {begun last : Nat} {side : Side} {past : List Settling} {m : Settling}

/-- Before anything was recorded, the last instant is that of the beginning. -/
theorem nil (begun : Nat) (side : Side) : Last begun begun side [] :=
  ⟨Nat.le_refl _, .inl ⟨rfl, fun _ hm => absurd hm List.not_mem_nil⟩,
    fun _ hm => absurd hm List.not_mem_nil⟩

/-- Octets move once more. -/
theorem moves (h : Last begun last side past) (hle : last ≤ m.instant)
    (hm : m.moves side = true) : Last begun m.instant side (m :: past) := by
  refine ⟨Nat.le_trans h.begun_le hle, .inr ⟨m, List.mem_cons_self, hm, rfl⟩, ?_⟩
  intro m' hm' hmoves
  rcases List.mem_cons.1 hm' with rfl | hm'
  · exact Nat.le_refl _
  · exact Nat.le_trans (h.le_last m' hm' hmoves) hle

/-- No octet moves. -/
theorem rests (h : Last begun last side past) (hm : m.moves side = false) :
    Last begun last side (m :: past) := by
  refine ⟨h.begun_le, ?_, ?_⟩
  · rcases h.moved with ⟨hlast, hnone⟩ | ⟨m', hm', hmoves⟩
    · refine .inl ⟨hlast, fun m' hm' => ?_⟩
      rcases List.mem_cons.1 hm' with rfl | hm'
      · exact hm
      · exact hnone m' hm'
    · exact .inr ⟨m', List.mem_cons_of_mem _ hm', hmoves⟩
  · intro m' hm' hmoves
    rcases List.mem_cons.1 hm' with rfl | hm'
    · rw [hm] at hmoves
      cases hmoves
    · exact h.le_last m' hm' hmoves

end Last

/-! ### A running tunnel -/

/-- A tunnel that runs, each timer of which was set when octets last moved on its side. -/
structure Running (span begun : Nat) (r : Recorded) : Prop where
  up_open : r.current.tunnel.up.hasEnded = false
  down_open : r.current.tunnel.down.hasEnded = false
  genuine : ∀ side, (r.current.on side).stream.channel.Genuine
  timers : ∀ side, ∃ last, last ≤ r.current.now ∧ Last begun last side r.past ∧
    (r.current.on side).timer = .start span last

namespace Running

variable {span begun : Nat} {r : Recorded}

/-- The timers of a running tunnel are sound. -/
theorem sound (h : Running span begun r) (hspan : 0 < span) (side : Side) :
    (r.current.on side).Sound := by
  obtain ⟨last, -, -, htimer⟩ := h.timers side
  exact ⟨by rw [htimer]; exact hspan, h.genuine side⟩

/-- **One settling:** a tunnel that goes on has set the timers of those sides on which octets have
    moved, and no others. -/
theorem settle (h : Running span begun r) (hspan : 0 < span) {t : Nat} (hle : r.current.now ≤ t)
    (hopen : (settle t r.current).tunnel.isOver = false) : Running span begun (r.settle t) := by
  have hsettled : Tunnel.Settled t r.current.tunnel r.current.ends
      (TunnelRun.settle t r.current).tunnel (TunnelRun.settle t r.current).ends :=
    Tunnel.settled_settle (h.sound hspan) h.up_open h.down_open
  have hused := hsettled.used hopen
  have hends := hsettled.together
  rw [Tunnel.isOver, hends, Bool.and_self] at hopen
  refine ⟨hends.trans hopen, hopen, fun side => (hsettled.pushed side).genuine (h.genuine side),
    fun side => ?_⟩
  obtain ⟨last, hnow, hlast, htimer⟩ := h.timers side
  obtain ⟨n, hn⟩ := hused side
  have hmoves := Settling.moves_iff_ne_zero (m := ⟨t, r.current⟩) hn
  have htimer' : ((TunnelRun.settle t r.current).on side).timer = _ := hn.timer
  by_cases hzero : n = 0
  · -- Nothing moved, and the timer is the one from before.
    refine ⟨last, Nat.le_trans hnow hle, hlast.rests ?_, ?_⟩
    · exact Bool.eq_false_iff.2 fun hm => hmoves.1 hm hzero
    · exact htimer'.trans ((if_pos hzero).trans htimer)
  · -- Octets moved, and the timer was set anew just now.
    refine ⟨t, Nat.le_refl _, hlast.moves (Nat.le_trans hnow hle) (hmoves.2 hzero), ?_⟩
    refine htimer'.trans ((if_neg hzero).trans ?_)
    show IdleTimer.touch t (r.current.on side).timer = _
    rw [htimer]
    rfl

/-- A tunnel that ends for idleness has been given its own span, and one timer has run out. -/
theorem idle_of_failure (h : Running span begun r) (hspan : 0 < span) {t idle : Nat}
    (hidle : (TunnelRun.settle t r.current).tunnel.failure? = some (.idleTimeout idle)) :
    idle = span ∧ ∃ side, (r.current.on side).timer.deadline ≤ t := by
  have hsettled : Tunnel.Settled t r.current.tunnel r.current.ends
      (TunnelRun.settle t r.current).tunnel (TunnelRun.settle t r.current).ends :=
    Tunnel.settled_settle (h.sound hspan) h.up_open h.down_open
  obtain ⟨hclient, hlapsed⟩ := Tunnel.failure?_eq_idleTimeout hidle
  obtain ⟨last, -, -, htimer⟩ := h.timers .client
  have hspan' : (r.current.on .client).timer.span = span := by
    rw [htimer]
    rfl
  exact ⟨hclient.trans ((hsettled.pushed .client).span_eq.trans hspan'), hsettled.lapsed hlapsed⟩

/-- A running tunnel has no report yet. -/
theorem stats?_eq_none (h : Running span begun r) : r.current.tunnel.stats? = none := by
  rw [Tunnel.stats?, Tunnel.isOver, h.up_open, Bool.false_and]
  rfl

/-- A tunnel that has just begun runs. -/
theorem start (span now : Nat) (turn : Turn) {client target : Channel} (hclient : client.Genuine)
    (htarget : target.Genuine) :
    Running span now
      ⟨⟨now, .start span now turn, ⟨.ofChannel client, .ofChannel target⟩⟩, []⟩ := by
  refine ⟨rfl, rfl, fun side => ?_, fun side => ⟨now, Nat.le_refl _, .nil now side, ?_⟩⟩
  · cases side with
    | client => exact hclient
    | target => exact htarget
  · cases side <;> rfl

/-- The other side does something. -/
theorem apply (h : Running span begun r) {e : Channel.Event} (he : e.Genuine) :
    Running span begun { r with current.ends.client := r.current.ends.client.apply e } ∧
      Running span begun { r with current.ends.target := r.current.ends.target.apply e } := by
  constructor
  · refine ⟨h.up_open, h.down_open, fun side => ?_, fun side => ?_⟩
    · cases side with
      | client => exact (h.genuine .client).apply he
      | target => exact h.genuine .target
    · cases side with
      | client => exact h.timers .client
      | target => exact h.timers .target
  · refine ⟨h.up_open, h.down_open, fun side => ?_, fun side => ?_⟩
    · cases side with
      | client => exact h.genuine .client
      | target => exact (h.genuine .target).apply he
    · cases side with
      | client => exact h.timers .client
      | target => exact h.timers .target

end Running

/-! ### Any tunnel -/

/-- A tunnel told by its record: it runs, or it has ended in one of its settlings. -/
inductive Told (span begun : Nat) (r : Recorded) : Prop where
  | running (h : Running span begun r)
  | finished (ending : Settling) (later earlier : List Settling)
      (past_eq : r.past = later ++ ending :: earlier)
      (quiet : ∀ m ∈ later, ∀ side, m.moves side = false)
      (before : Running span begun ⟨ending.before, earlier⟩)
      (isOver : ending.after.tunnel.isOver = true)
      (le_now : ending.instant ≤ r.current.now)
      (stats_eq : r.current.tunnel.stats? = ending.after.tunnel.stats?)

namespace Told

variable {span begun : Nat} {r r' : Recorded}

/-- **One settling** of any tunnel. -/
theorem settle (h : Told span begun r) (hspan : 0 < span) {t : Nat} (hle : r.current.now ≤ t) :
    Told span begun (r.settle t) := by
  cases h with
  | running h =>
    cases hover : (TunnelRun.settle t r.current).tunnel.isOver with
    | false => exact .running (h.settle hspan hle hover)
    | true =>
      exact .finished ⟨t, r.current⟩ [] r.past rfl (fun _ hm => absurd hm List.not_mem_nil) h hover
        (Nat.le_refl t) rfl
  | finished ending later earlier hpast hquiet hbefore hover hnow hstats =>
    -- It has ended before, and this settling changes nothing.
    have hover' : r.current.tunnel.isOver = true := (Tunnel.isOver_of_stats?_eq hstats).trans hover
    have hsame : TunnelRun.settle t r.current = { r.current with now := t } :=
      Settling.after_of_isOver (m := ⟨t, r.current⟩) hover'
    refine .finished ending (⟨t, r.current⟩ :: later) earlier ?_ ?_ hbefore hover ?_ ?_
    · show _ :: r.past = _
      rw [hpast]
      rfl
    · intro m hm side
      rcases List.mem_cons.1 hm with rfl | hm
      · exact Settling.not_moves_of_isOver hover' side
      · exact hquiet m hm side
    · exact Nat.le_trans hnow hle
    · show (TunnelRun.settle t r.current).tunnel.stats? = _
      rw [hsame]
      exact hstats

/-- A change that no record tells. -/
theorem unrecorded (h : Told span begun r) (hrunning : Running span begun r → Running span begun r')
    (hpast : r'.past = r.past) (hnow : r'.current.now = r.current.now)
    (hstats : r'.current.tunnel.stats? = r.current.tunnel.stats?) : Told span begun r' := by
  cases h with
  | running h => exact .running (hrunning h)
  | finished ending later earlier hpast' hquiet hbefore hover hnow' hstats' =>
    exact .finished ending later earlier (hpast.trans hpast') hquiet hbefore hover
      (by rw [hnow]; exact hnow') (hstats.trans hstats')

/-- **One event**, whatever it is. -/
theorem step (h : Told span begun r) (hspan : 0 < span) {e : Event} (he : e.Genuine) :
    Told span begun (r.step e) := by
  cases e with
  | stream side e =>
    cases side with
    | client =>
      have hsent := h.unrecorded (fun hr => (hr.apply he).1) rfl rfl rfl
      exact hsent.settle hspan (Nat.le_refl _)
    | target =>
      have hsent := h.unrecorded (fun hr => (hr.apply he).2) rfl rfl rfl
      exact hsent.settle hspan (Nat.le_refl _)
  | wait time =>
    have hrun : Told span begun (r.step (.wait time)) ∧
        (r.step (.wait time)).current.now = r.current.now + time :=
      Clock.run_preserves (P := fun now r => Told span begun r ∧ r.current.now = now)
        (fun now t r hle hr => ⟨hr.1.settle hspan (by rw [hr.2]; exact hle), rfl⟩)
        (Nat.le_add_right r.current.now time) ⟨h, rfl⟩
    exact hrun.1
  | reorder turn =>
    exact h.unrecorded (fun hr => ⟨hr.up_open, hr.down_open, hr.genuine, hr.timers⟩) rfl rfl rfl

/-- **Any number of events**, in any order. -/
theorem run (h : Told span begun r) (hspan : 0 < span) {es : List Event}
    (hes : ∀ e ∈ es, e.Genuine) : Told span begun (r.run es) := by
  induction es generalizing r with
  | nil => exact h
  | cons e es ih =>
    have hstep := h.step hspan (hes e List.mem_cons_self)
    exact ih hstep fun e' he' => hes e' (List.mem_cons_of_mem _ he')

end Told

/-! ### The end of an idle tunnel -/

section

variable {span begun : Nat} {ending : Settling} {later earlier past : List Settling}

/-- The deadline of a side is a span after octets last moved on it. -/
theorem deadline_of_last {last : Nat} {side : Side}
    (htimer : (ending.before.on side).timer = .start span last) :
    (ending.before.on side).timer.deadline = Time.deadline last span := by
  rw [htimer]
  rfl

/-- A tunnel that has been silent on both sides: both timers have run out. -/
theorem lapsed_of_silent (hbefore : Running span begun ⟨ending.before, earlier⟩)
    (hearlier : ∀ m ∈ earlier, m ∈ past) (hclock : ending.instant < Time.horizon)
    (hlapsed : ∃ side, (ending.before.on side).timer.deadline ≤ ending.instant)
    (hsilent : Silent span ending.instant past) (side : Side) :
    (ending.before.on side).timer.deadline ≤ ending.instant := by
  obtain ⟨last, -, hlast, htimer⟩ := hbefore.timers side
  have hdeadline := deadline_of_last htimer
  -- A deadline that is set early enough for the clock is the plain sum.
  have hsum : ∀ {at' : Nat}, at' + span ≤ ending.instant → last ≤ at' →
      Time.deadline last span ≤ ending.instant := by
    intro at' hat hle
    rw [Time.deadline_of_lt (by omega)]
    omega
  rw [hdeadline]
  rcases hlast.moved with ⟨hbegun, -⟩ | ⟨m, hm, hmoves, hinstant⟩
  · -- Nothing has moved on this side since the tunnel began: its deadline is not the later one.
    obtain ⟨side', hside'⟩ := hlapsed
    obtain ⟨last', -, hlast', htimer'⟩ := hbefore.timers side'
    rcases hlast'.moved with ⟨hbegun', -⟩ | ⟨m, hm, hmoves, hinstant⟩
    · rw [deadline_of_last htimer', hbegun', ← hbegun] at hside'
      exact hside'
    · have hle := hlast'.begun_le
      exact hsum (hsilent m (hearlier m hm) side' hmoves) (by omega)
  · exact hsum (hsilent m (hearlier m hm) side hmoves) (Nat.le_of_eq hinstant.symm)

/-- A tunnel both timers of which have run out: it has been silent on both sides. -/
theorem silent_of_lapsed (hbefore : Running span begun ⟨ending.before, earlier⟩)
    (hpast : past = later ++ ending :: earlier)
    (hquiet : ∀ m ∈ later, ∀ side, m.moves side = false)
    (hlapsed : ∀ side, (ending.before.on side).timer.deadline ≤ ending.instant)
    (hending : ∀ side, ending.moves side = false)
    (hcut : ∀ m ∈ past, ∀ side, m.moves side = true → m.instant + span < Time.horizon) :
    Silent span ending.instant past := by
  intro m hm side hmoves
  have hcut' := hcut
  rw [hpast] at hm hcut'
  rcases List.mem_append.1 hm with hm | hm
  · rw [hquiet m hm side] at hmoves
    cases hmoves
  rcases List.mem_cons.1 hm with rfl | hm
  · rw [hending side] at hmoves
    cases hmoves
  · obtain ⟨last, -, hlast, htimer⟩ := hbefore.timers side
    have hle := hlast.le_last m hm hmoves
    rcases hlast.moved with ⟨-, hnone⟩ | ⟨m', hm', hmoves', hinstant⟩
    · rw [hnone m hm] at hmoves
      cases hmoves
    · -- The deadline counts from the last octets on this side, and these are not older than `m`.
      have hlt := hcut' m' (List.mem_append_right _ (List.mem_cons_of_mem _ hm')) side hmoves'
      have hdeadline := hlapsed side
      rw [deadline_of_last htimer, Time.deadline_of_lt (by omega)] at hdeadline
      omega

end

/-- **The end of an idle tunnel.**  One timer at least has run out.  No octet has moved on either
    side for the span just if the other one has run out too, nothing moves as the tunnel ends, and
    the end of the clock has not cut short any deadline that octets have set. -/
theorem silent_iff_of_idleTimeout (span begun : Nat) (turn : Turn) (client target : Channel)
    (es : List Event) (hspan : 0 < span) (hclient : client.Genuine) (htarget : target.Genuine)
    (hes : ∀ e ∈ es, e.Genuine)
    (hclock : ((start span begun turn client target).run es).now < Time.horizon)
    {stats : TunnelStats} {idle : Nat}
    (hstats : ((start span begun turn client target).run es).tunnel.stats? = some stats)
    (hidle : stats.failure = some (.idleTimeout idle)) :
    let past := ((Recorded.start span begun turn client target).run es).past
    idle = span ∧ ∃ ending ∈ past,
      ending.before.tunnel.stats? = none ∧ ending.after.tunnel.stats? = some stats ∧
      (∃ side, (ending.before.on side).timer.deadline ≤ ending.instant) ∧
      (Silent span ending.instant past ↔
        (∀ side, (ending.before.on side).timer.deadline ≤ ending.instant) ∧
        (∀ side, ending.moves side = false) ∧
        ∀ m ∈ past, ∀ side, m.moves side = true → m.instant + span < Time.horizon) := by
  intro past
  have hrun : ((Recorded.start span begun turn client target).run es).current =
      (start span begun turn client target).run es := by
    rw [Recorded.current_run, Recorded.current_start]
  have hstart : Told span begun (Recorded.start span begun turn client target) :=
    Told.settle (.running (.start span begun turn hclient htarget)) hspan (Nat.le_refl begun)
  cases hstart.run hspan hes with
  | running h =>
    rw [← hrun, h.stats?_eq_none] at hstats
    cases hstats
  | finished ending later earlier hpast hquiet hbefore hover hnow hsame =>
    rw [hrun] at hnow hsame
    rw [hstats] at hsame
    -- The report is that of the settling in which the tunnel ended; what follows it changes
    -- nothing.
    have hfailure : ending.after.tunnel.failure? = some (.idleTimeout idle) := by
      rw [Tunnel.stats?, hover, if_pos rfl] at hsame
      rw [← hidle, Option.some.inj hsame]
    obtain ⟨hspan', hlapsed⟩ := hbefore.idle_of_failure hspan hfailure
    have hmem : ∀ m ∈ earlier, m ∈ past := fun m hm => by
      rw [show past = _ from hpast]
      exact List.mem_append_right _ (List.mem_cons_of_mem _ hm)
    have hending : ending ∈ past := by
      rw [show past = _ from hpast]
      exact List.mem_append_right _ List.mem_cons_self
    refine ⟨hspan', ending, hending, hbefore.stats?_eq_none, hsame.symm, hlapsed, ?_⟩
    constructor
    · intro hsilent
      have hlt : ending.instant < Time.horizon := Nat.lt_of_le_of_lt hnow hclock
      refine ⟨lapsed_of_silent hbefore hmem hlt hlapsed hsilent, fun side => ?_,
        fun m hm side hmoves => ?_⟩
      · refine Bool.eq_false_iff.2 fun hmoves => ?_
        have hle := hsilent ending hending side hmoves
        omega
      · have hle := hsilent m hm side hmoves
        omega
    · rintro ⟨hall, hnone, hcut⟩
      exact silent_of_lapsed hbefore hpast hquiet hall hnone hcut

/-- Three octets go through at once, and nothing comes after them: the tunnel ends a span later. -/
theorem silent_after_three_octets :
    let span := Duration.ofMillis 100
    let es := [Event.stream .client (.send (ascii "abc")), .wait (Duration.ofMillis 150)]
    let past := ((Recorded.start span 0 ⟨true, true⟩ (.idle none) (.idle none)).run es).past
    ((start span 0 ⟨true, true⟩ (.idle none) (.idle none)).run es).tunnel.stats? =
        some ⟨3, 0, some (.idleTimeout span)⟩ ∧
      ∃ ending ∈ past, ending.instant = span ∧ Silent span ending.instant past := by
  intro span es past
  have hstats : ((start span 0 ⟨true, true⟩ (.idle none) (.idle none)).run es).tunnel.stats? =
      some ⟨3, 0, some (.idleTimeout span)⟩ := by decide +kernel
  have hes : ∀ e ∈ es, e.Genuine := by
    intro e he
    rcases List.mem_cons.1 he with rfl | he
    · trivial
    · rw [List.mem_singleton.1 he]
      trivial
  obtain ⟨-, ending, hmem, hbefore, hafter, -, hiff⟩ :=
    silent_iff_of_idleTimeout span 0 ⟨true, true⟩ (.idle none) (.idle none) es (by decide)
      (Channel.genuine_idle none) (Channel.genuine_idle none) hes (by decide +kernel) hstats rfl
  have hends : ∀ m ∈ past, m.before.tunnel.stats? = none →
      m.after.tunnel.stats? = some ⟨3, 0, some (.idleTimeout span)⟩ →
      m.instant = span ∧ (m.before.on .client).timer.deadline ≤ m.instant ∧
        (m.before.on .target).timer.deadline ≤ m.instant ∧
        m.moves .client = false ∧ m.moves .target = false := by decide +kernel
  have hclock : ∀ m ∈ past, m.instant + span < Time.horizon := by decide +kernel
  obtain ⟨hinstant, hclient, htarget, hrest, hrest'⟩ := hends ending hmem hbefore hafter
  refine ⟨hstats, ending, hmem, hinstant, hiff.2 ⟨fun side => ?_, fun side => ?_, ?_⟩⟩
  · cases side <;> assumption
  · cases side <;> assumption
  · exact fun m hm _ _ => hclock m hm

/-- **Torn down in traffic.**  Three octets wait for a target that takes one at a time.  The last is
    taken 120 ms after they were read, and at that instant the tunnel ends for an idleness of
    100 ms, as its client has sent nothing since. -/
theorem torn_down_in_traffic :
    let span := Duration.ofMillis 100
    let more := Event.stream .target (.widen (some 1))
    let r := (Recorded.start span 0 ⟨true, true⟩ (.idle none) (.idle (some 1))).run
      [.stream .client (.send (ascii "abc")), .wait (Duration.ofMillis 60), more,
        .wait (Duration.ofMillis 60)]
    r.current.tunnel.stats? = none ∧ r.current.now = Duration.ofMillis 120 ∧
      (r.step more).current.tunnel.stats? = some ⟨3, 0, some (.idleTimeout span)⟩ ∧
      ¬Silent span (Duration.ofMillis 120) (r.step more).past := by
  intro span more r
  -- The target took an octet 60 ms before the end, and one at the very end.
  have hlate : ∃ m ∈ (r.step more).past,
      m.moves .target = true ∧ Duration.ofMillis 120 < m.instant + span := by decide +kernel
  refine ⟨by decide +kernel, by decide +kernel, by decide +kernel, fun hsilent => ?_⟩
  obtain ⟨m, hm, hmoves, hlt⟩ := hlate
  exact absurd (hsilent m hm .target hmoves) (Nat.not_le_of_lt hlt)

end TunnelRun

end ForwardProxy
