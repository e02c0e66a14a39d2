import ForwardProxy.Clock

namespace ForwardProxy.Clock

/-!
# Two states in one time

A state is moved through time by stopping at its deadlines.  To stop more often makes no difference
to one that rests until its next deadline.

* `Clock.run_of_next?` — one stop on the way.
* `Clock.run_of_quiet` — a state that has no deadline before an instant may be taken up from there.
* `Clock.run_along` — a state and what is seen of it, which stops less often.
-/

/-- Where no deadline comes before the goal, the clock goes there at once. -/
theorem run_of_next?_eq_none {σ : Type} {deadlines : σ → List Nat} {settle : Nat → σ → σ}
    {goal now : Nat} {s : σ} (h : next? now goal (deadlines s) = none) :
    run deadlines settle goal now s = settle goal s := by
  rw [run, h]

/-- Otherwise it stops at the first deadline on the way. -/
theorem run_of_next? {σ : Type} {deadlines : σ → List Nat} {settle : Nat → σ → σ}
    {goal now t : Nat} {s : σ} (h : next? now goal (deadlines s) = some t) :
    run deadlines settle goal now s = run deadlines settle goal t (settle t s) := by
  rw [run.eq_def deadlines settle goal now, h]

/-- A state for which no deadline lies before an instant may be taken up from there. -/
theorem run_of_quiet {σ : Type} {deadlines : σ → List Nat} {settle : Nat → σ → σ}
    {goal now t : Nat} {s : σ} (hle : now ≤ t) (hquiet : ∀ d ∈ deadlines s, now < d → t < d) :
    run deadlines settle goal t s = run deadlines settle goal now s := by
  have hnext : next? t goal (deadlines s) = next? now goal (deadlines s) := by
    unfold next?
    congr 1
    refine List.filter_congr fun d hd => ?_
    have hahead := hquiet d hd
    congr 1
    exact decide_eq_decide.2 ⟨fun h => by omega, hahead⟩
  rw [run.eq_def, run.eq_def _ _ goal now, hnext]

/-- Two states move through time side by side.  The first one may stop more often; where it does,
    nothing changes for the second one, whose deadlines lie further ahead.  They may part on the
    way, and are `Off` from there on. -/
theorem run_along {σ τ : Type} {R : σ → τ → Prop} {Off : σ → Prop} {P : Nat → τ → Prop}
    {deadlines : σ → List Nat} {settle : Nat → σ → σ} {deadlines' : τ → List Nat}
    {settle' : Nat → τ → τ} {goal now : Nat}
    (hdeadlines : ∀ s x, R s x → ∀ d ∈ deadlines' x, d ∈ deadlines s)
    (hsettle : ∀ t s x, R s x → Off (settle t s) ∨ R (settle t s) (settle' t x))
    (hoff : ∀ t s, Off s → Off (settle t s))
    (hkeeps : ∀ now t x, now ≤ t → P now x → P t (settle' t x))
    (hrests : ∀ now t x, now ≤ t → (∀ d ∈ deadlines' x, now < d → t < d) → P now x →
      settle' t x = x)
    (hgoal : now ≤ goal) {s : σ} {x : τ} (h : R s x) (hx : P now x) :
    Off (run deadlines settle goal now s) ∨
      R (run deadlines settle goal now s) (run deadlines' settle' goal now x) := by
  induction now, s using run.induct deadlines settle goal generalizing x with
  | case1 now s hnext =>
    have hnone : next? now goal (deadlines' x) = none := by
      refine List.min?_eq_none_iff.2 (List.filter_eq_nil_iff.2 fun d hd => ?_)
      have hnil : (deadlines s).filter (fun d => now < d && d ≤ goal) = [] :=
        List.min?_eq_none_iff.1 hnext
      exact List.filter_eq_nil_iff.1 hnil d (hdeadlines s x h d hd)
    rw [run, hnext, run, hnone]
    exact hsettle goal s x h
  | case2 now s t hnext ih =>
    obtain ⟨hlt, hle⟩ := lt_and_le_of_next? hnext
    have hpast := Nat.le_of_lt hlt
    rw [run, hnext]
    dsimp only
    by_cases hquiet : ∀ d ∈ deadlines' x, now < d → t < d
    · -- The second one has nothing to do at this stop.
      have hstays := hrests now t x hpast hquiet hx
      have hx' := hkeeps now t x hpast hx
      rw [hstays] at hx'
      rw [← run_of_quiet hpast hquiet]
      rcases hsettle t s x h with hparted | hstill
      · exact .inl (run_preserves (P := fun _ s => Off s) (fun _ t s _ => hoff t s) hle hparted)
      · rw [hstays] at hstill
        exact ih hle hstill hx'
    · -- It is one of its own.
      simp only [Classical.not_forall, Nat.not_lt] at hquiet
      obtain ⟨d, hd, hahead, hdue⟩ := hquiet
      obtain rfl : d = t :=
        Nat.le_antisymm hdue (le_of_next? hnext (hdeadlines s x h d hd) hahead)
      have hown : next? now goal (deadlines' x) = some d := by
        refine List.min?_eq_some_iff.2 ⟨List.mem_filter.2 ⟨hd, by simp [hahead, hle]⟩,
          fun d' hd' => ?_⟩
        obtain ⟨hmem, hbetween⟩ := List.mem_filter.1 hd'
        simp only [Bool.and_eq_true, decide_eq_true_eq] at hbetween
        exact le_of_next? hnext (hdeadlines s x h d' hmem) hbetween.1
      rw [run.eq_def deadlines' settle' goal now, hown]
      dsimp only
      rcases hsettle d s x h with hparted | hstill
      · exact .inl (run_preserves (P := fun _ s => Off s) (fun _ t s _ => hoff t s) hle hparted)
      · exact ih hle hstill (hkeeps now d x hpast hx)

end ForwardProxy.Clock
