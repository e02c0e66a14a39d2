import ForwardProxy.Proofs.Tunnel.Honesty

namespace ForwardProxy

/-!
# How a tunnel says that it ended

A finished tunnel reports how many octets it has moved each way and why it stopped.  Its halves are
asked in a fixed order, and the one that was stopped has nothing to tell, so the report is about the
half that ended by itself.  An idle deadline goes before any other fault.

* `TunnelRun.Truthful` — a report that is so.
* `TunnelRun.reports_truthfully` — that every report is, in whatever order the halves come to move.
* `TunnelRun.torn_down_before_span` — that the idleness it tells of may be shorter than it says, if
  the clock ends first.
-/

namespace TunnelRun

/-- A tunnel that has begun, before anything has moved. -/
def opening (span begun : Nat) (turn : Turn) (ends : Ends) : TunnelRun :=
  ⟨begun, .start span begun turn, ends⟩

/-- A tunnel that has just begun is honest: nothing has been tried or carried. -/
theorem Honest.opening (span begun : Nat) (turn : Turn) (ends : Ends)
    (hproper : ∀ side, ((opening span begun turn ends).on side).stream.Proper)
    (hgenuine : ∀ side, ((opening span begun turn ends).on side).stream.channel.Genuine) :
    Honest span begun (fun side => ((opening span begun turn ends).on side).stream)
      (fun side => ((opening span begun turn ends).on side).stream.channel.written) []
      (opening span begun turn ends) where
  carries side := by
    have hfresh : (TunnelRun.half (.opening span begun turn ends) side) = .fresh := by
      cases side <;> rfl
    rw [hfresh]
    exact ⟨[], .refl _, fun _ => ⟨rfl, rfl⟩⟩
  proper := hproper
  genuine := hgenuine
  dated side := ⟨begun, .nil begun side, Nat.le_refl _, by cases side <;> rfl⟩
  real _ ho := absurd ho List.not_mem_nil
  explained side f hf := by cases side <;> cases hf
  first side hs := by cases side <;> cases hs

end TunnelRun

namespace Tunnel

variable {t : Tunnel}

/-- A tunnel that reports no failure has met no fault on either half. -/
theorem fault?_of_failure?_eq_none (h : t.failure? = none) :
    t.up.fault? = none ∧ t.down.fault? = none := by
  have hreported := t.reported_failure?
  rw [h] at hreported
  cases hreported with
  | sound up down => exact ⟨up, down⟩

/-- A tunnel that reports a fault has met it on one half, and it is not one of silence. -/
theorem fault?_of_failure?_eq_io {f : Fault} (h : t.failure? = some (.io f)) :
    (t.up.fault? = some f ∨ t.down.fault? = some f) ∧ f.isIdle = false := by
  have hreported := t.reported_failure?
  rw [h] at hreported
  cases hreported with
  | fault raised unlapsed =>
    refine ⟨raised, ?_⟩
    obtain ⟨hup, hdown⟩ := unlapsed
    rcases raised with hf | hf
    · rwa [Half.lapsed, hf] at hup
    · rwa [Half.lapsed, hf] at hdown

end Tunnel

/-- How many octets from a side a finished tunnel has counted. -/
def TunnelStats.moved (s : TunnelStats) : TunnelRun.Side → Nat
  | .client => s.clientToTarget
  | .target => s.targetToClient

namespace TunnelRun

/-- What a finished tunnel reports is so, if these were its moves since it began as `r`. -/
structure Truthful (span begun : Nat) (r : TunnelRun) (ms : List Move) (stats : TunnelStats) :
    Prop where
  /-- A tunnel that reports no failure has drained one of its sides. -/
  closed : stats.failure = none → ∃ side,
    Drained ((r.on side).stream.applyAll (ms.flatMap (Move.sent side)))
      (r.on side.other).stream.channel.written side (r.operations ms) (stats.moved side)
      ((r.moves ms).on side.other).stream
  /-- A fault that is reported is one that a stream has raised. -/
  failed : ∀ f, stats.failure = some (.io f) → ∃ o ∈ r.operations ms, o.fault? = some f
  /-- If it is idleness, an operation waited on a stream on which none was completed for long. -/
  idle : ∀ d, stats.failure = some (.idleTimeout d) → d = span ∧
    Starved begun (fun last => Time.deadline last span) (r.operations ms)

section

variable {span begun : Nat} {g : Side → Lookahead} {base : Side → Bytes} {ops : List Operation}
  {r : TunnelRun}

/-- A fault that a half has ended with was met by something that was tried. -/
theorem Honest.raised (hh : Honest span begun g base ops r) (side : Side) {f : Fault}
    (hf : (r.half side).fault? = some f) (hreal : f.isIdle = false) :
    ∃ o ∈ ops, o.fault? = some f := by
  rcases hh.explained side f hf with hraised | ⟨rfl, -⟩
  · exact hraised
  · cases hreal

/-- A half that ended by silence has starved on a stream. -/
theorem Honest.starved (hh : Honest span begun g base ops r) (side : Side)
    (hl : (r.half side).lapsed = true) :
    Starved begun (fun last => Time.deadline last span) ops := by
  obtain ⟨f, hf, hidle⟩ := (Option.any_eq_true _ _).1 hl
  rcases hh.explained side f hf with ⟨o, ho, hraised⟩ | ⟨-, hstarved⟩
  · -- No stream raises an idle fault.
    rw [hh.real o ho f hraised] at hidle
    cases hidle
  · exact hstarved

/-- A finished tunnel that has been honest reports what is so. -/
theorem Honest.truthful {ms : List Move} {stats : TunnelStats}
    (hh : Honest span begun (fun side => (r.on side).stream.applyAll (ms.flatMap (Move.sent side)))
      (fun side => (r.on side).stream.channel.written) (r.operations ms) (r.moves ms))
    (hstats : (r.moves ms).tunnel.stats? = some stats) : Truthful span begun r ms stats := by
  rw [Tunnel.stats?] at hstats
  split at hstats
  · rename_i hover
    cases hstats
    refine ⟨fun hnone => ?_, fun f hf => ?_, fun d hd => ?_⟩
    · obtain ⟨hup, hdown⟩ := Tunnel.fault?_of_failure?_eq_none hnone
      have hnone' side : ((r.moves ms).half side).fault? = none := by
        cases side
        · exact hup
        · exact hdown
      -- Neither half has met a fault, so the one that ended first has drained its side.
      obtain ⟨side, -, hfault | hdrained⟩ := hh.first .client (Bool.and_eq_true_iff.1 hover).1
      · rw [hnone' side] at hfault
        cases hfault
      · refine ⟨side, ?_⟩
        cases side <;> exact hdrained
    · obtain ⟨hup | hdown, hreal⟩ := Tunnel.fault?_of_failure?_eq_io hf
      · exact hh.raised .client hup hreal
      · exact hh.raised .target hdown hreal
    · obtain ⟨hspan, hlapsed⟩ := Tunnel.failure?_eq_idleTimeout hd
      obtain ⟨last, -, -, htimer⟩ := hh.dated .client
      refine ⟨hspan.trans (congrArg IdleTimer.span htimer), ?_⟩
      rcases hlapsed with hup | hdown
      · exact hh.starved .client hup
      · exact hh.starved .target hdown
  · cases hstats

end

/-- **How a tunnel ended is reported truthfully**, in whatever order its halves read and write, its
    streams change and time goes by; and letting a tunnel settle is one of these orders. -/
theorem reports_truthfully (span begun : Nat) (turn : Turn) (ends : Ends)
    (hproper : ∀ side, ((opening span begun turn ends).on side).stream.Proper)
    (hgenuine : ∀ side, ((opening span begun turn ends).on side).stream.channel.Genuine) :
    (∀ ms stats, (∀ side, ∀ e ∈ ms.flatMap (Move.sent side), e.Genuine) →
      ((opening span begun turn ends).moves ms).tunnel.stats? = some stats →
      Truthful span begun (opening span begun turn ends) ms stats) ∧
    ∀ es, ∃ ms, (opening span begun turn ends).moves ms =
        (settle begun (opening span begun turn ends)).run es ∧
      ∀ side, ms.flatMap (Move.sent side) = es.flatMap (Event.sent side) := by
  constructor
  · intro ms stats hms hstats
    have hopening := Honest.opening span begun turn ends hproper hgenuine
    exact (hopening.moves hms).truthful hstats
  · intro es
    have hsettle := reaches_settle (opening span begun turn ends)
    have hrun := hsettle.trans (reaches_run (settle begun (opening span begun turn ends)) es)
    exact hrun

/-- Three tunnels that may be idle for 100 ms: one whose client closes, one whose connection to the
    client the system times out, and one that is silent. -/
theorem truthful_of_three_ends :
    let span := Duration.ofMillis 100
    let r := opening span 0 ⟨true, true⟩ ⟨.ofChannel (.idle none), .ofChannel (.idle none)⟩
    let closing := [.event (.stream .client (.send (ascii "abc"))), .act .client, .act .client,
      .event (.stream .client .finish), .act .client, .stop .target]
    let failing := [.event (.stream .client (.failRead (.system 110))), .act .client,
      .stop .target]
    let idling := [.act .target, .event (.wait span), .act .target, .stop .client]
    Truthful span 0 r closing ⟨3, 0, none⟩ ∧
      Truthful span 0 r failing ⟨0, 0, some (.io (.system 110))⟩ ∧
      Truthful span 0 r idling ⟨0, 0, some (.idleTimeout span)⟩ := by
  intro span r closing failing idling
  have hproper side : (r.on side).stream.Proper := by
    cases side <;> exact Channel.proper_idle none
  have hgenuine side : (r.on side).stream.channel.Genuine := by
    cases side <;> exact Channel.genuine_idle none
  obtain ⟨htruthful, -⟩ := reports_truthfully span 0 ⟨true, true⟩ _ hproper hgenuine
  have hclosing : (r.moves closing).tunnel.stats? = some ⟨3, 0, none⟩ := by decide +kernel
  have hfailing : (r.moves failing).tunnel.stats? =
      some ⟨0, 0, some (.io (.system 110))⟩ := by decide +kernel
  have hidling : (r.moves idling).tunnel.stats? =
      some ⟨0, 0, some (.idleTimeout span)⟩ := by decide +kernel
  refine ⟨htruthful closing _ (fun side e he => ?_) hclosing,
    htruthful failing _ (fun side e he => ?_) hfailing,
    htruthful idling _ (fun side e he => ?_) hidling⟩
  · cases side <;> simp [closing, Move.sent, Event.sent] at he
    rcases he with rfl | rfl <;> trivial
  · cases side <;> simp [failing, Move.sent, Event.sent] at he
    rw [he]
    rfl
  · cases side <;> simp [idling, Move.sent, Event.sent] at he

/-- **Torn down before its time.**  A tunnel may be idle for the largest span there is, which the
    clock does not reach.  It ends for idleness thirty years after its last octet all the same. -/
theorem torn_down_before_span :
    let span := Duration.largest
    let wait := Duration.ofMillis 1000000000000
    let sent := Event.stream .client (.send (ascii "x"))
    let r := opening span 0 ⟨true, true⟩ ⟨.ofChannel (.idle none), .ofChannel (.idle none)⟩
    let ms := [.event sent, .act .client, .act .client, .act .client, .act .target,
      .event (.wait Time.farAhead), .act .client, .shut .client, .act .target, .shut .target,
      .event (.wait (wait - Time.farAhead))]
    (r.moves ms).tunnel.stats? = some ⟨1, 0, some (.idleTimeout span)⟩ ∧
      (settle 0 r).run [sent, .wait wait] = r.moves ms ∧
      ¬Starved 0 (fun last => last + span) (r.operations ms) := by
  intro span wait sent r ms
  -- The whole tunnel has not lasted for the span.
  have hearly : ∀ o ∈ r.operations ms, o.instant < span := by decide +kernel
  refine ⟨by decide +kernel, by decide +kernel, ?_⟩
  rintro ⟨earlier, o, later, last, hops, -, -, hdue⟩
  have hlt := hearly o (by
    rw [hops]
    exact List.mem_append_right _ List.mem_cons_self)
  dsimp only at hdue
  omega

end TunnelRun

end ForwardProxy
