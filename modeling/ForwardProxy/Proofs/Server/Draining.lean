import ForwardProxy.Proofs.Server.Accepting
import ForwardProxy.Proofs.Server.Counting

namespace ForwardProxy.Server

/-!
# How a server stops

A server that is told to stop waits for its sessions.  It has stopped as soon as all of them have
ended; if some have not when the time for that is over, it stops then and tells how many.

* `Server.course` — the settled points of a server.
* `Server.isDone`, `Server.verdict` — whether it need not wait any longer, and what it tells then.
* `Server.outcome?_course` — a server that drains stops at the first point at which it is done.
* `Server.counted_and_drained` — the count of the sessions, and the end that it leads to.
-/

/-- The settled points of a server: now, and after each round. -/
def course (s : Server) : List Round → List Server
  | [] => [s]
  | r :: rs => s :: course (s.round r) rs

/-- Whether a server that may wait until an instant need not wait any longer. -/
def isDone (deadline : Nat) (s : Server) : Bool := s.active = 0 || deadline ≤ s.now

/-- How serving ends at an instant: all sessions have ended, or some are left. -/
def verdict (s : Server) : ServeEnd := if s.active = 0 then .drained else .drainTimedOut s.active

variable {s : Server} {deadline : Nat}

/-- A server that waits for its sessions until `deadline` has stopped if it is done, and goes on
    waiting otherwise. -/
structure Draining (deadline : Nat) (s : Server) : Prop where
  now_le : s.now ≤ deadline
  gate_eq : s.gate = if s.isDone deadline then .stopped s.verdict else .draining deadline

/-- A server that drains before its deadline is in order after it has looked whether it may stop. -/
theorem draining_checkDrained (hle : s.now ≤ deadline) (hgate : s.gate = .draining deadline) :
    s.checkDrained.Draining deadline where
  now_le := s.sameSessions_checkDrained.now_eq ▸ hle
  gate_eq := by
    have hactive : s.checkDrained.active = s.active :=
      active_of_visitors_eq s.sameSessions_checkDrained.visitors_eq
    rw [isDone, verdict, hactive, s.sameSessions_checkDrained.now_eq, checkDrained, hgate]
    dsimp only
    by_cases hnone : s.active = 0
    · simp [hnone, note]
    · by_cases hlapsed : deadline ≤ s.now
      · simp [hnone, hlapsed, note]
      · simp [hnone, hlapsed, hgate]

/-- The time of a round is that of its instant until the server has served everyone. -/
theorem now_serve (s : Server) (r : Round) :
    ({ s with now := r.instant }.changes r.deeds).attend.serve.now = r.instant := by
  have hround := now_round s r
  rw [round_eq] at hround
  exact (sameSessions_checkDrained _).now_eq.symm.trans hround

/-- A server that does not accept any more attends to its listener no more. -/
theorem gate_serve_of_closed (hopened : s.gate ≠ .unopened) (hclosed : s.isAccepting = false)
    (r : Round) : ({ s with now := r.instant }.changes r.deeds).attend.serve.gate = s.gate := by
  have hchanges : ({ s with now := r.instant }.changes r.deeds).gate = s.gate :=
    (gate_changes (s := { s with now := r.instant }) hopened r.deeds).1
  have hstill : ({ s with now := r.instant }.changes r.deeds).isAccepting = false := by
    rw [isAccepting, hchanges]
    exact hclosed
  rw [attend_of_not_isAccepting hstill]
  exact hchanges

/-- A server that waits goes on waiting in the next round, or stops. -/
theorem Draining.round (h : s.Draining deadline) (hdone : s.isDone deadline = false) {r : Round}
    (hr : s.InTime r) : (s.round r).Draining deadline := by
  have hgate : s.gate = .draining deadline := by
    rw [h.gate_eq, hdone]
    rfl
  have hahead : s.now < deadline := by
    simp only [isDone, Bool.or_eq_false_iff, decide_eq_false_iff_not] at hdone
    omega
  have hmem : deadline ∈ s.deadlines := by
    rw [deadlines, hgate]
    exact List.mem_cons_self
  rw [round_eq]
  refine draining_checkDrained ?_ ?_
  · -- The clock does not run past the deadline.
    rw [now_serve]
    exact hr.2 deadline hmem hahead
  · rw [gate_serve_of_closed (by rw [hgate]; exact nofun) (by rw [isAccepting, hgate])]
    exact hgate

/-- A server that has stopped does so once and for all. -/
theorem gate_rounds_of_stopped {outcome : ServeEnd} (h : s.gate = .stopped outcome)
    (rs : List Round) : (s.rounds rs).gate = .stopped outcome := by
  induction rs generalizing s with
  | nil => exact h
  | cons r rs ih =>
    refine ih ?_
    have hserve : ({ s with now := r.instant }.changes r.deeds).attend.serve.gate =
        .stopped outcome :=
      (gate_serve_of_closed (by rw [h]; exact nofun) (by rw [isAccepting, h]) r).trans h
    rw [round_eq, checkDrained, hserve]
    exact hserve

/-- A server that is done with draining has stopped with its verdict, and stays so. -/
theorem Draining.outcome?_of_isDone (h : s.Draining deadline) (hdone : s.isDone deadline = true)
    (rs : List Round) :
    (s.rounds rs).outcome? = ((s.course rs).find? (isDone deadline)).map verdict ∧
      ∀ c ∈ (s.course rs).find? (isDone deadline),
        c.now ≤ deadline ∧ (c.active ≠ 0 → c.now = deadline) := by
  have hfirst : (s.course rs).find? (isDone deadline) = some s := by
    cases rs <;> exact List.find?_cons_of_pos hdone
  have hgate : s.gate = .stopped s.verdict := by
    rw [h.gate_eq, hdone]
    rfl
  rw [hfirst]
  refine ⟨?_, fun c hc => ?_⟩
  · rw [outcome?, gate_rounds_of_stopped hgate rs]
    rfl
  · cases hc
    refine ⟨h.now_le, fun hactive => ?_⟩
    -- With a session left, being done means that the deadline has come, and no round goes past it.
    simp only [isDone, hactive, decide_false, Bool.false_or, decide_eq_true_eq] at hdone
    exact Nat.le_antisymm h.now_le hdone

/-- **A server that waits for its sessions** stops at the first point at which it is done: because
    all of them have ended, or because its time is over, at that very instant. -/
theorem outcome?_course {rs : List Round} (h : s.Draining deadline) (ht : s.Timely rs) :
    (s.rounds rs).outcome? = ((s.course rs).find? (isDone deadline)).map verdict ∧
      ∀ c ∈ (s.course rs).find? (isDone deadline),
        c.now ≤ deadline ∧ (c.active ≠ 0 → c.now = deadline) := by
  -- By induction on the rounds: as long as it is not done it waits, and no round runs past its
  -- deadline; once it is done it has stopped, and stays so.
  induction rs generalizing s with
  | nil =>
    cases hdone : s.isDone deadline with
    | true => exact h.outcome?_of_isDone hdone []
    | false =>
      have hgate : s.gate = .draining deadline := by
        rw [h.gate_eq, hdone]
        rfl
      have hfirst : (s.course []).find? (isDone deadline) = none :=
        List.find?_cons_of_neg (by rw [hdone]; exact nofun)
      rw [hfirst]
      refine ⟨?_, fun c hc => (Option.not_mem_none c hc).elim⟩
      show s.outcome? = none
      rw [outcome?, hgate]
  | cons r rs ih =>
    cases hdone : s.isDone deadline with
    | true => exact h.outcome?_of_isDone hdone (r :: rs)
    | false =>
      have hfirst : (s.course (r :: rs)).find? (isDone deadline) =
          ((s.round r).course rs).find? (isDone deadline) :=
        List.find?_cons_of_neg (by rw [hdone]; exact nofun)
      rw [hfirst]
      exact ih (h.round hdone ht.1) ht.2

/-! ### When a server is told to stop -/

/-- A server that has not closed its listener, or has done so at this instant. -/
def Heeding (s : Server) : Prop :=
  s.gate = .unopened ∨ s.isAccepting = true ∨
    s.gate = .draining (Time.deadline s.now s.settings.drainTimeout)

/-- A server that begins to accept heeds an order to stop. -/
theorem heeding_listen (s : Server) : s.listen.Heeding := by
  unfold listen
  split
  · exact .inr (.inr rfl)
  · exact .inr (.inl rfl)

/-- What others do leaves a server heeding an order to stop. -/
theorem Heeding.changes (h : s.Heeding) (ds : List Deed) : (s.changes ds).Heeding := by
  induction ds generalizing s with
  | nil => exact h
  | cons d ds ih =>
    refine ih ?_
    cases d with
    | start =>
      show Heeding (if s.gate = .unopened then s.listen else s)
      split
      · exact s.heeding_listen
      · exact h
    | _ => exact h

/-- Nothing that others do changes the settings. -/
theorem settings_changes (ds : List Deed) (s : Server) : (s.changes ds).settings = s.settings := by
  induction ds generalizing s with
  | nil => rfl
  | cons d ds ih =>
    refine (ih (s.change d)).trans ?_
    cases d with
    | start =>
      show (if s.gate = .unopened then s.listen else s).settings = _
      split
      · exact s.sameBooks_listen.settings_eq
      · rfl
    | _ => rfl

/-- No round changes the settings. -/
theorem settings_rounds (rs : List Round) (s : Server) : (s.rounds rs).settings = s.settings := by
  induction rs generalizing s with
  | nil => rfl
  | cons r rs ih =>
    exact ((ih (s.round r)).trans (sameTerms_settle _ _).settings_eq).trans
      (settings_changes r.deeds { s with now := r.instant })

/-- **A server that is told to stop** closes its listener at once and waits for its sessions, for as
    long as it may. -/
theorem draining_round {r : Round} (hopen : s.isListening = true)
    (hstarted : s.gate ≠ .unopened ∨ .start ∈ r.deeds)
    (hstopping : s.stopping = true ∨ .shutdown ∈ r.deeds) :
    (s.round r).Draining (Time.deadline r.instant s.settings.drainTimeout) := by
  let later : Server := { s with now := r.instant }
  have hheeds : (later.changes r.deeds).Heeding := by
    refine Heeding.changes ?_ r.deeds
    unfold isListening at hopen
    unfold Heeding isAccepting
    cases hgate : s.gate with
    | unopened => exact .inl rfl
    | listening => exact .inr (.inl rfl)
    | backingOff instant => exact .inr (.inl rfl)
    | draining deadline =>
      rw [hgate] at hopen
      cases hopen
    | stopped outcome =>
      rw [hgate] at hopen
      cases hopen
  have hnow : (later.changes r.deeds).now = r.instant := later.now_changes r.deeds
  have hsettings : (later.changes r.deeds).settings = s.settings := settings_changes r.deeds later
  have hattend : (later.changes r.deeds).attend.gate =
      .draining (Time.deadline r.instant s.settings.drainTimeout) := by
    rcases hheeds with hunopened | haccepting | hdraining
    · -- Somebody has started it by now.
      obtain ⟨hfirst, hnever⟩ := (unopened_changes r.deeds later).1 hunopened
      exact (hstarted.elim (fun h => h hfirst) (fun h => hnever h)).elim
    · rw [attend_of_isAccepting haccepting, (stopping_changes r.deeds later).2 hstopping, if_pos rfl,
        ← hnow, ← hsettings]
      rfl
    · have hclosed : (later.changes r.deeds).isAccepting = false := by rw [isAccepting, hdraining]
      rw [attend_of_not_isAccepting hclosed, hdraining, hnow, hsettings]
  rw [round_eq]
  refine draining_checkDrained ?_ hattend
  rw [now_serve]
  exact Time.le_deadline _ _

/-- **The count of the sessions, and the end that it leads to.**  In whatever order things happen,
    the count is that of the sessions under way, and never shows; it is no less than zero.  A server
    that is told to stop at an instant returns at the first point at which all sessions have ended,
    if that is in time, and otherwise at the very instant at which time is over, with the sessions
    that are left.  A server that runs goes through such rounds, and rounds are such orders. -/
theorem counted_and_drained (settings : Settings) (policy : AcceptPolicy) (net : Network)
    (turn : Turn) :
    let begun := create settings policy net turn
    (∀ ms, ((CountedServer.create settings policy net turn).moves ms).server = begun.moves ms ∧
      ((CountedServer.create settings policy net turn).moves ms).count = (begun.moves ms).active) ∧
    (∀ rs r rs', begun.Timely (rs ++ r :: rs') → (begun.rounds rs).isListening = true →
      .start ∈ rs.flatMap Round.deeds ++ r.deeds → .shutdown ∈ rs.flatMap Round.deeds ++ r.deeds →
      let deadline := Time.deadline r.instant settings.drainTimeout
      let first := (((begun.rounds rs).round r).course rs').find? (isDone deadline)
      (begun.rounds (rs ++ r :: rs')).outcome? = first.map verdict ∧
        ∀ c ∈ first, c.now ≤ deadline ∧ (c.active ≠ 0 → c.now = deadline)) ∧
    (∀ rs, begun.Timely rs → ∃ ms, begun.moves ms = begun.rounds rs ∧
      ms.filterMap Move.deed? = rs.flatMap Round.deeds) ∧
    ∀ is, ∃ rs, begun.Timely rs ∧ begun.rounds rs = begun.run is ∧
      rs.flatMap Round.deeds = is.filterMap Input.deed? := by
  intro begun
  refine ⟨(CountedServer.sound_create settings policy net turn).moves, ?_, fun rs => reaches_rounds,
    begun.exists_rounds⟩
  intro rs r rs' ht hopen hstart hshut deadline first
  obtain ⟨hbefore, hr, hafter⟩ := timely_append.1 ht
  -- The round in which the order to stop comes is the one that closes the listener; from there on
  -- the run is a course of a draining server.
  have hdraining : ((begun.rounds rs).round r).Draining deadline := by
    have hround := draining_round (r := r) hopen ?_ ?_
    · rwa [settings_rounds] at hround
    · refine (List.mem_append.1 hstart).imp_left fun hmem hgate => ?_
      exact ((unopened_rounds rs begun).1 hgate).2 hmem
    · exact (List.mem_append.1 hshut).imp_left fun hmem =>
        (stopping_rounds rs begun).2 (.inr hmem)
  rw [rounds_append]
  exact outcome?_course hdraining hafter

/-- Two clients, one of whom leaves a second after the server was told to stop; the other one is left
    when the three seconds for that are over. -/
theorem counted_and_drained_of_two_clients :
    let settings : Settings := { Settings.standard with drainTimeout := Duration.ofSeconds 3 }
    let begun := create settings .standard .empty ⟨true, true⟩
    let client : Deed := .connect (.v4 ⟨127, 0, 0, 1⟩ 40000) none []
    let rs : List Round := [⟨0, [.start, client, client]⟩]
    let stop : Round := ⟨5, [.shutdown]⟩
    let rs' : List Round := [⟨1000000005, [.client 0 .finish]⟩, ⟨3000000005, []⟩]
    begun.Timely (rs ++ stop :: rs') ∧
      ((begun.rounds (rs ++ [stop])).active, (begun.rounds (rs ++ [stop])).outcome?) = (2, none) ∧
      (begun.rounds (rs ++ stop :: rs')).outcome? = some (.drainTimedOut 1) := by
  intro settings begun client rs stop rs'
  have ht : begun.Timely (rs ++ stop :: rs') := by decide +kernel
  have hdrained := (counted_and_drained settings .standard .empty ⟨true, true⟩).2.1 rs stop rs' ht
    (by decide +kernel) (by decide +kernel) (by decide +kernel)
  exact ⟨ht, by decide +kernel, hdrained.1.trans (by decide +kernel)⟩

end ForwardProxy.Server
