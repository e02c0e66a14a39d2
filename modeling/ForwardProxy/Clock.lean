import ForwardProxy.Duration

namespace ForwardProxy

/-!
# The clock

A state that waits for instants is moved through time by stopping at each of them: `Clock.run`
goes from one instant to a later one, stops at every deadline on the way, in order, and lets the
state settle there before it goes on.
-/

namespace Clock

/-- The first of some deadlines that lies after `now` and not after `goal`. -/
def next? (now goal : Nat) (deadlines : List Nat) : Option Nat :=
  (deadlines.filter fun d => now < d && d ≤ goal).min?

/-- The clock stops ahead of now, and not behind its goal. -/
theorem lt_and_le_of_next? {now goal t : Nat} {ds : List Nat} (h : next? now goal ds = some t) :
    now < t ∧ t ≤ goal := by
  have hm := List.min?_mem h
  simpa using (List.mem_filter.1 hm).2

/-- The first deadline that lies ahead is none of those behind it. -/
theorem le_of_next? {now goal t d : Nat} {ds : List Nat} (h : next? now goal ds = some t)
    (hd : d ∈ ds) (hahead : now < d) : t ≤ d := by
  by_cases hgoal : d ≤ goal
  · exact (List.min?_eq_some_iff.1 h).2 d (List.mem_filter.2 ⟨hd, by simp [hahead, hgoal]⟩)
  · have := lt_and_le_of_next? h
    omega

/-- Where no deadline lies ahead, the goal comes before them all. -/
theorem le_of_next?_eq_none {now goal d : Nat} {ds : List Nat} (h : next? now goal ds = none)
    (hd : d ∈ ds) (hahead : now < d) : goal ≤ d := by
  have hnil : (ds.filter fun d => now < d && d ≤ goal) = [] := List.min?_eq_none_iff.1 h
  have := List.filter_eq_nil_iff.1 hnil d hd
  simp only [Bool.and_eq_true, decide_eq_true_eq, not_and, Nat.not_le] at this
  exact Nat.le_of_lt (this hahead)

/-- Moves a state from `now` to `goal`, through every deadline on the way. -/
def run {σ : Type} (deadlines : σ → List Nat) (settle : Nat → σ → σ) (goal now : Nat) (s : σ) : σ :=
  match _h : next? now goal (deadlines s) with
  | none => settle goal s
  | some t => run deadlines settle goal t (settle t s)
termination_by goal - now
decreasing_by
  have := lt_and_le_of_next? _h
  omega

/-- What settling carries from one instant to a later one, past none of the deadlines between them
    and on the way to the goal, is carried the whole way. -/
theorem run_preserves_stopping {σ : Type} {P : Nat → σ → Prop} {deadlines : σ → List Nat}
    {settle : Nat → σ → σ} {goal now : Nat}
    (hsettle : ∀ now t s, now ≤ t → t ≤ goal → (∀ d ∈ deadlines s, now < d → t ≤ d) → P now s →
      P t (settle t s))
    (hgoal : now ≤ goal) {s : σ} (h : P now s) : P goal (run deadlines settle goal now s) := by
  induction now, s using run.induct deadlines settle goal with
  | case1 now s hnext =>
    rw [run, hnext]
    exact hsettle now goal s hgoal (Nat.le_refl goal) (fun d hd => le_of_next?_eq_none hnext hd) h
  | case2 now s t hnext ih =>
    have ht := lt_and_le_of_next? hnext
    rw [run, hnext]
    exact ih ht.2 (hsettle now t s (Nat.le_of_lt ht.1) ht.2 (fun d hd => le_of_next? hnext hd) h)

/-- What settling carries from one instant to a later one, on the way to the goal, is carried the
    whole way. -/
theorem run_preserves_within {σ : Type} {P : Nat → σ → Prop} {deadlines : σ → List Nat}
    {settle : Nat → σ → σ} {goal now : Nat}
    (hsettle : ∀ now t s, now ≤ t → t ≤ goal → P now s → P t (settle t s))
    (hgoal : now ≤ goal) {s : σ} (h : P now s) : P goal (run deadlines settle goal now s) :=
  run_preserves_stopping (fun now t s ht hgoal _ => hsettle now t s ht hgoal) hgoal h

/-- What settling carries from one instant to a later one is carried the whole way. -/
theorem run_preserves {σ : Type} {P : Nat → σ → Prop} {deadlines : σ → List Nat}
    {settle : Nat → σ → σ} (hsettle : ∀ now t s, now ≤ t → P now s → P t (settle t s))
    {goal now : Nat} (hgoal : now ≤ goal) {s : σ} (h : P now s) :
    P goal (run deadlines settle goal now s) :=
  run_preserves_within (fun now t s ht _ => hsettle now t s ht) hgoal h

/-- What is seen of a state moves through time on its own if it tells the deadlines and, as long as
    the state keeps what settling keeps, how the state settles. -/
theorem run_map_of {σ τ : Type} {P : σ → Prop} {f : σ → τ} {deadlines : σ → List Nat}
    {settle : Nat → σ → σ} {deadlines' : τ → List Nat} {settle' : Nat → τ → τ}
    (hdeadlines : ∀ s, deadlines s = deadlines' (f s))
    (hsettle : ∀ t s, P s → P (settle t s) ∧ f (settle t s) = settle' t (f s)) (goal now : Nat)
    {s : σ} (h : P s) :
    P (run deadlines settle goal now s) ∧
      f (run deadlines settle goal now s) = run deadlines' settle' goal now (f s) := by
  induction now, s using run.induct deadlines settle goal with
  | case1 now s hnext =>
    have hnext' : next? now goal (deadlines' (f s)) = none := by rw [← hdeadlines, hnext]
    rw [run, hnext, run, hnext']
    exact hsettle goal s h
  | case2 now s t hnext ih =>
    have hnext' : next? now goal (deadlines' (f s)) = some t := by rw [← hdeadlines, hnext]
    rw [run, hnext, run, hnext']
    obtain ⟨hstill, hsame⟩ := hsettle t s h
    have hrest := ih hstill
    rw [hsame] at hrest
    exact hrest

/-- What is seen of a state moves through time on its own if it tells the deadlines and how the
    state settles. -/
theorem run_map {σ τ : Type} {f : σ → τ} {deadlines : σ → List Nat} {settle : Nat → σ → σ}
    {deadlines' : τ → List Nat} {settle' : Nat → τ → τ}
    (hdeadlines : ∀ s, deadlines s = deadlines' (f s))
    (hsettle : ∀ t s, f (settle t s) = settle' t (f s)) (goal now : Nat) (s : σ) :
    f (run deadlines settle goal now s) = run deadlines' settle' goal now (f s) :=
  (run_map_of (P := fun _ => True) hdeadlines (fun t s _ => ⟨trivial, hsettle t s⟩) goal now
    trivial).2

end Clock

end ForwardProxy
