import ForwardProxy.Proofs.Server.Accepting

namespace ForwardProxy.Server

/-!
# How a server tries again to accept

A server whose listener has failed waits before it tries again: for the delay that the number of
faults in a row asks for, and never for none, if there is nothing wrong with its settings.

* `Server.delayAfter` — how long it waits.
* `Server.Patient` — what it does not do before that.
* `Server.patient_rounds` — no server does it, in any run.
* `Server.delays_and_waits` — the delays in closed form, and that every one of them is waited for.
-/

variable {settings : Settings} {policy : AcceptPolicy} {h : List Taking} {s : Server}

/-- How long a fault that comes behind `h` puts off the next accept. -/
def delayAfter (settings : Settings) (h : List Taking) : Nat :=
  min (settings.acceptBackoffMin * 2 ^ failures h) settings.acceptBackoffMax

/-- After a fault accepting goes on when the delay after it is over. -/
theorem due_after_fault (t : Nat) (f : Fault) :
    due settings (h ++ [⟨t, .fault f⟩]) = Time.deadline t (delayAfter settings h) := by
  rw [due_fault, delayAfter, Nat.min_comm]

/-- Settings with nothing wrong have a least delay above zero. -/
theorem backoffMin_pos (hvalid : settings.flaw? = none) : 0 < settings.acceptBackoffMin :=
  Nat.pos_of_ne_zero ((Settings.flaw?_eq_none_iff.1 hvalid).1 .acceptBackoffMin nofun)

/-- With settings that fit, no delay is zero. -/
theorem delayAfter_pos (hvalid : settings.flaw? = none) (h : List Taking) :
    0 < delayAfter settings h := by
  have hleast := backoffMin_pos hvalid
  have hmost := Nat.lt_of_lt_of_le hleast (backoffMin_le_backoffMax hvalid)
  exact Nat.lt_min.2 ⟨Nat.mul_pos hleast (Nat.two_pow_pos _), hmost⟩

/-- What a server keeps from doing that has taken `h` of what its listener has offered. -/
structure Patient (settings : Settings) (policy : AcceptPolicy) (h : List Taking) (s : Server) :
    Prop where
  /-- What is taken after a fault is taken when the delay has gone by. -/
  not_taken : ∀ h₁ t f x, h₁ ++ [⟨t, .fault f⟩, x] <+: h →
    Time.deadline t (delayAfter settings h₁) ≤ x.instant
  /-- After a fault that passes no accept is begun until the delay has gone by: as many have been
      begun as things have been taken. -/
  not_begun : ∀ h₁ t f, h = h₁ ++ [⟨t, .fault f⟩] → policy.Passes f →
    s.now < Time.deadline t (delayAfter settings h₁) → s.accepts = h.length

/-- No more accepts were begun than things were taken, or accepting was due.  A server whose
    listener has failed for good is left out. -/
def Begun (settings : Settings) (policy : AcceptPolicy) (h : List Taking) (s : Server) : Prop :=
  Passing policy h → s.accepts = h.length ∨ due settings h ≤ s.now

/-- A server that has not started has taken nothing, and may begin to accept. -/
theorem begun_of_unopened (hs : Standing settings policy h s) (hgate : s.gate = .unopened) :
    h = [] ∧ Begun settings policy h s := by
  rw [Standing, hgate] at hs
  obtain ⟨rfl, -, -⟩ := hs
  exact ⟨rfl, fun _ => .inr (Nat.zero_le _)⟩

/-- Something is taken only after everything before it has passed. -/
theorem Standing.front {x : Taking} (hs : Standing settings policy (h ++ [x]) s) :
    Passing policy h := by
  rcases hs.passing_or_failed with hp | ⟨h₁, t, f, heq, hp, -⟩
  · exact hp.subset (List.subset_append_left _ _)
  · rwa [(List.append_inj' heq rfl).1]

section Rounds

variable (hle : settings.acceptBackoffMin ≤ settings.acceptBackoffMax)
  (hlargest : settings.acceptBackoffMax ≤ Duration.largest)
include hle hlargest

/-- A round begins no accept that is not due. -/
theorem begun_round {r : Round} (hb : Books settings policy h s.queue s)
    (hs : Standing settings policy h s) (hr : s.now ≤ r.instant)
    (hbegun : Begun settings policy h s) :
    Begun settings policy (h ++ (s.taken r).map (Taking.mk r.instant)) (s.round r) := by
  obtain ⟨-, -, hstanding, -, hstopped⟩ := books_round hle hlargest hb hs hr
  have hnow := s.now_round r
  -- A server that waits for its sessions had been told to stop before it could take anything.
  have hstops (hstop : (s.round r).stopping = true) :
      Begun settings policy (h ++ (s.taken r).map (Taking.mk r.instant)) (s.round r) := by
    obtain ⟨hnone, haccepts⟩ := hstopped ((stopping_round s r).1 hstop)
    rw [hnone, List.map_nil, List.append_nil]
    by_cases hgate : s.gate = .unopened
    · rw [(begun_of_unopened hs hgate).1]
      exact fun _ => .inr (Nat.zero_le _)
    · rw [Begun, haccepts hgate, hnow]
      exact fun hp => (hbegun hp).imp_right fun hdue => Nat.le_trans hdue hr
  cases hgate : (s.round r).gate with
  | unopened => exact (begun_of_unopened hstanding hgate).2
  | listening =>
    rw [Standing, hgate] at hstanding
    exact fun _ => .inr hstanding.2.1
  | backingOff instant =>
    rw [Standing, hgate] at hstanding
    exact fun _ => .inl hstanding.2.2.1
  | draining deadline =>
    rw [Standing, hgate] at hstanding
    exact hstops hstanding.1
  | stopped outcome =>
    cases outcome with
    | failed failure => exact fun hp => absurd hgate (hstanding.not_failed hp failure)
    | drained | drainTimedOut =>
      rw [Standing, hgate] at hstanding
      exact hstops hstanding.1

/-- Whatever a server has begun, it has begun in time after any number of rounds. -/
theorem begun_rounds {rs : List Round} (hb : Books settings policy h s.queue s)
    (hs : Standing settings policy h s) (ht : s.Timely rs) (hbegun : Begun settings policy h s) :
    Begun settings policy (h ++ history s rs) (s.rounds rs) := by
  induction rs generalizing s h with
  | nil =>
    rw [history, List.append_nil]
    exact hbegun
  | cons r rs ih =>
    obtain ⟨-, hbooks, hstanding, -, -⟩ := books_round hle hlargest hb hs ht.1.1
    rw [history, ← List.append_assoc]
    exact ih hbooks hstanding ht.2 (begun_round hle hlargest hb hs ht.1.1 hbegun)

/-- **A server waits** for the delay after a fault, in every run. -/
theorem patient_rounds (policy : AcceptPolicy) (net : Network) (turn : Turn) {rs : List Round}
    (ht : (create settings policy net turn).Timely rs) :
    Patient settings policy (history (create settings policy net turn) rs)
      ((create settings policy net turn).rounds rs) := by
  obtain ⟨hnone, hunopened, hfirst⟩ := books_create settings policy net turn
  obtain ⟨hbooks, hstanding, -⟩ := books_rounds hle hlargest hnone hunopened hfirst ht
  have hbegun := begun_rounds hle hlargest hnone hunopened ht (begun_of_unopened hunopened rfl).2
  rw [List.nil_append] at hbooks hstanding hbegun
  refine ⟨fun h₁ t f x hpre => ?_, fun h₁ t f heq hpasses hearly => ?_⟩
  · rw [← due_after_fault t f]
    refine hbooks.not_before _ x ?_
    rwa [List.append_assoc]
  · -- What was taken before a fault that passes has passed as well.
    have hall : Passing policy (history (create settings policy net turn) rs) := by
      rw [heq] at hstanding ⊢
      exact hstanding.front.concat fun f' hf' => by cases hf'; exact hpasses
    refine (hbegun hall).resolve_right fun hdue => ?_
    rw [heq, due_after_fault] at hdue
    omega

end Rounds

/-- Settings that are accepted have no flaw. -/
theorem flaw?_of_validate (hvalid : settings.validate = .ok settings) : settings.flaw? = none := by
  unfold Settings.validate at hvalid
  split at hvalid
  · cases hvalid
  · assumption

/-- **Delays in closed form, and all of them waited for.**  Between any least and any most delay the
    `k`-th delay in a row is the least one times `2 ^ (k - 1)`, up to the most.  With settings that
    are accepted every delay is above zero, the delays rise up to the most from one success to the
    next, and a server whose listener has failed begins no accept before its delay has gone by. -/
theorem delays_and_waits :
    (∀ least most, least ≤ most → most ≤ Duration.largest → Backoff.Doubling least most) ∧
    ∀ settings : Settings, settings.validate = .ok settings →
      settings.acceptBackoffMax ≤ Duration.largest →
      Backoff.Rising settings.acceptBackoffMin settings.acceptBackoffMax ∧
      (∀ h now, 0 < delayAfter settings h ∧ now < Time.deadline now (delayAfter settings h)) ∧
      ∀ (policy : AcceptPolicy) (net : Network) (turn : Turn),
        let begun := create settings policy net turn
        (∀ rs, begun.Timely rs →
          Patient settings policy (history begun rs) (begun.rounds rs)) ∧
        ∀ is, ∃ rs, begun.Timely rs ∧ begun.rounds rs = begun.run is ∧
          rs.flatMap Round.deeds = is.filterMap Input.deed? := by
  refine ⟨fun least most hle hmost => Backoff.doubling hle hmost,
    fun settings hvalid hlargest => ?_⟩
  have hflaw := flaw?_of_validate hvalid
  have hle := backoffMin_le_backoffMax hflaw
  refine ⟨Backoff.rising (backoffMin_pos hflaw) hle hlargest, fun h now => ?_, ?_⟩
  · have hpos := delayAfter_pos hflaw h
    exact ⟨hpos, Time.lt_deadline hpos now⟩
  · intro policy net turn begun
    exact ⟨fun rs ht => patient_rounds hle hlargest policy net turn ht, begun.exists_rounds⟩

/-- The longest delays that there are, doubled past the largest duration; and a listener that fails
    twice, of which the second time is at the end of the first delay. -/
theorem delays_and_waits_after_two_faults :
    let begun := create .standard .standard .empty ⟨true, true⟩
    let reset : Fault := .bare .connectionReset
    let rs : List Round := [⟨0, [.start]⟩, ⟨7, [.acceptFault reset]⟩,
      ⟨50000007, [.acceptFault reset]⟩]
    Backoff.Doubling (Duration.largest - 1) Duration.largest ∧
      (Backoff.start (Duration.largest - 1) Duration.largest).told [.next, .next] =
        [Duration.largest - 1, Duration.largest] ∧
      Settings.standard.validate = .ok .standard ∧ begun.Timely rs ∧
      history begun rs = [⟨7, .fault reset⟩, ⟨50000007, .fault reset⟩] ∧
      Backoff.Rising Settings.standard.acceptBackoffMin Settings.standard.acceptBackoffMax ∧
      Patient .standard .standard (history begun rs) (begun.rounds rs) ∧
      (begun.rounds rs).accepts = 2 ∧ (begun.rounds rs).gate = .backingOff 150000007 := by
  intro begun reset rs
  have hvalid : Settings.standard.validate = .ok .standard := by decide
  obtain ⟨hclosed, hwaits⟩ := delays_and_waits
  obtain ⟨hrising, -, hserver⟩ := hwaits .standard hvalid (by decide)
  exact ⟨hclosed _ _ (by decide) (Nat.le_refl _), by decide, hvalid, by decide +kernel,
    by decide +kernel, hrising, (hserver .standard .empty ⟨true, true⟩).1 rs (by decide +kernel),
    by decide +kernel, by decide +kernel⟩

end ForwardProxy.Server
