import ForwardProxy.Proofs.Clock
import ForwardProxy.Proofs.Server.Run

namespace ForwardProxy.Server

/-!
# Parts of a server

A part of a server that is told what others do, and that settles with the server, goes its own way:
it can be run without the rest of the server.  The rest may make the server stop at instants that
are none of the part's; nothing happens to the part then.

* `Server.run_preserves` — what a run keeps.
* `Server.View`, `Server.View.run` — such a part, by itself.
* `Server.View.Shows` — what makes it a part of the server.  A server may leave the view behind.
* `Server.View.Shows.run` — the part by itself is the part of the server.
* `Server.View.Shows.run_of_unheard` — something that the part is not told makes no difference to
  it.
-/

/-! ### Runs -/

/-- Waiting takes as long as it says. -/
theorem now_wait (s : Server) (span : Nat) : (s.wait span).now = s.now + span :=
  Clock.run_preserves (P := fun now (s : Server) => s.now = now) (fun _ t s _ _ => now_settle t s)
    (Nat.le_add_right s.now span) rfl

/-- What is kept whenever a server settles and whatever others do to it is kept in every run. -/
theorem run_preserves {P : Server → Prop} (hsettle : ∀ t {s}, P s → P (s.settle t))
    (hchange : ∀ d {s}, P s → P (s.change d)) {s : Server} (h : P s) (is : List Input) :
    P (s.run is) := by
  induction is generalizing s with
  | nil => exact h
  | cons i is ih =>
    refine ih ?_
    cases i with
    | deed d => exact hsettle s.now (hchange d h)
    | wait span =>
      exact Clock.run_preserves (P := fun _ s => P s) (fun _ t _ _ => hsettle t)
        (Nat.le_add_right s.now span) h

/-! ### Views -/

/-- A part of a server, by itself. -/
structure View (τ : Type) where
  /-- The instants that it waits for. -/
  deadlines : τ → List Nat
  settle : Nat → τ → τ
  /-- What others do to it. -/
  tell : Deed → τ → τ

namespace View

variable {τ : Type} {w : View τ} {R : Server → τ → Prop} {Off : Server → Prop}
  {Fit Steady : Nat → τ → Prop} {told : Deed → Prop}

/-- The part and its clock after something has happened. -/
def input (w : View τ) (p : Nat × τ) : Input → Nat × τ
  | .deed d => (p.1, w.settle p.1 (w.tell d p.2))
  | .wait span => (p.1 + span, Clock.run w.deadlines w.settle (p.1 + span) p.1 p.2)

/-- The part and its clock after any number of things have happened. -/
def run (w : View τ) (p : Nat × τ) (is : List Input) : Nat × τ := is.foldl w.input p

/-- `R` tells that this is the part of a server, `Off` that the server has left the view behind, and
    `told` which deeds the view stands.  A part is `Fit` at any instant and `Steady` once it has
    settled; it stays as it is then until its next deadline. -/
structure Shows (w : View τ) (told : Deed → Prop) (R : Server → τ → Prop) (Off : Server → Prop)
    (Fit Steady : Nat → τ → Prop) : Prop where
  deadlines : ∀ {s x}, R s x → ∀ d ∈ w.deadlines x, d ∈ s.deadlines
  settle : ∀ t {s x}, R s x → Off (s.settle t) ∨ R (s.settle t) (w.settle t x)
  change : ∀ {d}, told d → ∀ {s x}, R s x → R (s.change d) (w.tell d x)
  off_settle : ∀ t {s}, Off s → Off (s.settle t)
  off_change : ∀ d {s}, Off s → Off (s.change d)
  fit_tell : ∀ d {now x}, Fit now x → Fit now (w.tell d x)
  fit_of_steady : ∀ {now x}, Steady now x → Fit now x
  steady_settle : ∀ {now t x}, Fit now x → now ≤ t → Steady t (w.settle t x)
  settle_eq : ∀ {now t x}, Steady now x → now ≤ t → (∀ d ∈ w.deadlines x, now < d → t < d) →
    w.settle t x = x

namespace Shows

variable (hw : w.Shows told R Off Fit Steady) {s : Server} {x : τ}

include hw

/-- What happens to a server happens to the part. -/
theorem input (h : R s x) (hx : Steady s.now x) {i : Input} (htold : ∀ d ∈ i.deed?, told d) :
    Off (s.input i) ∨ (R (s.input i) (w.input (s.now, x) i).2 ∧
      (s.input i).now = (w.input (s.now, x) i).1 ∧
      Steady (s.input i).now (w.input (s.now, x) i).2) := by
  cases i with
  | deed d =>
    have hfit : Fit s.now (w.tell d x) := hw.fit_tell d (hw.fit_of_steady hx)
    rcases hw.settle s.now (hw.change (htold d rfl) h) with hoff | hstill
    · exact .inl hoff
    · have hnow : (s.input (.deed d)).now = s.now := now_settle s.now (s.change d)
      refine .inr ⟨hstill, hnow, ?_⟩
      rw [hnow]
      exact hw.steady_settle hfit (Nat.le_refl _)
  | wait span =>
    have hle := Nat.le_add_right s.now span
    -- The clock stops at every deadline of the server; those that the view does not have leave it
    -- as it is.
    have halong : Off (Clock.run Server.deadlines Server.settle (s.now + span) s.now s) ∨
        R (Clock.run Server.deadlines Server.settle (s.now + span) s.now s)
          (Clock.run w.deadlines w.settle (s.now + span) s.now x) := by
      refine Clock.run_along (R := R) (P := Steady) ?_ ?_ ?_ ?_ ?_ hle h hx
      · exact fun _ _ => hw.deadlines
      · exact fun t _ _ => hw.settle t
      · exact fun t _ => hw.off_settle t
      · exact fun _ _ _ hle hx => hw.steady_settle (hw.fit_of_steady hx) hle
      · exact fun _ _ _ hle hquiet hx => hw.settle_eq hx hle hquiet
    rcases halong with hoff | hstill
    · exact .inl hoff
    · refine .inr ⟨hstill, now_wait s span, ?_⟩
      rw [show (s.input (.wait span)).now = s.now + span from now_wait s span]
      exact Clock.run_preserves (P := Steady)
        (fun _ _ _ hle hx => hw.steady_settle (hw.fit_of_steady hx) hle) hle hx

/-- **A part by itself** is the part of the server, unless the server leaves the view behind. -/
theorem run (h : R s x) (hx : Steady s.now x) {is : List Input}
    (htold : ∀ d ∈ is.filterMap Input.deed?, told d) :
    Off (s.run is) ∨ R (s.run is) (w.run (s.now, x) is).2 := by
  -- The view follows the server input by input, until the server is off it for good.
  induction is generalizing s x with
  | nil => exact .inr h
  | cons i is ih =>
    have hhere : ∀ d ∈ i.deed?, told d := fun d hd =>
      htold d (List.mem_filterMap.2 ⟨i, List.mem_cons_self, hd⟩)
    have hlater : ∀ d ∈ is.filterMap Input.deed?, told d := fun d hd => by
      obtain ⟨i', hi', hd'⟩ := List.mem_filterMap.1 hd
      exact htold d (List.mem_filterMap.2 ⟨i', List.mem_cons_of_mem i hi', hd'⟩)
    rcases hw.input h hx hhere with hoff | ⟨hstill, hnow, hsteady⟩
    · exact .inl (run_preserves hw.off_settle hw.off_change hoff is)
    · have hrest := ih hstill hsteady hlater
      rw [hnow] at hrest
      exact hrest

/-- **Something that the part is not told** makes no difference to it: both servers show the same
    part afterwards, unless they leave the view behind. -/
theorem run_of_unheard (h : R s x) (hx : Steady s.now x) {d : Deed} (hd : told d)
    (hunheard : ∀ x, w.tell d x = x) {is : List Input}
    (htold : ∀ d ∈ is.filterMap Input.deed?, told d) :
    ∃ y, (Off (s.run is) ∨ R (s.run is) y) ∧
      (Off (s.run (.deed d :: is)) ∨ R (s.run (.deed d :: is)) y) := by
  refine ⟨(w.run (s.now, x) is).2, hw.run h hx htold, ?_⟩
  have hsame : w.run (s.now, x) (.deed d :: is) = w.run (s.now, x) is := by
    have hstays : w.settle s.now x = x :=
      hw.settle_eq hx (Nat.le_refl _) fun _ _ hahead => hahead
    show w.run (s.now, w.settle s.now (w.tell d x)) is = _
    rw [hunheard, hstays]
  rw [← hsame]
  refine hw.run h hx fun d' hd' => ?_
  rcases List.mem_cons.1 hd' with rfl | hmem
  · exact hd
  · exact htold d' hmem

end Shows

end View

end ForwardProxy.Server
