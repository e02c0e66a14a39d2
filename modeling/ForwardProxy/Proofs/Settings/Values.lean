import ForwardProxy.Settings.Basic

namespace ForwardProxy

/-!
# The values of settings

Settings are told by their values, each under its name.

* `Settings.value` — the value of a setting; settings are known by their values.
* `Settings.flaw?_eq_none_iff` — nothing is wrong with settings just if their values are sensible.
-/

/-- How much one of what a file counts in is: an octet, or a millisecond in nanoseconds. -/
def Setting.unit : Setting → Nat
  | maxRequestBytes => 1
  | _ => 1000000

namespace Settings

variable {s t : Settings}

/-- The value of a setting. -/
def value (s : Settings) : Setting → Nat
  | .idleTimeout => s.idleTimeout
  | .maxRequestBytes => s.maxRequestBytes
  | .requestReadTimeout => s.requestReadTimeout
  | .dialTimeout => s.dialTimeout
  | .peekTimeout => s.peekTimeout
  | .drainTimeout => s.drainTimeout
  | .acceptBackoffMin => s.acceptBackoffMin
  | .acceptBackoffMax => s.acceptBackoffMax

/-- Settings are known by their values. -/
theorem ext_value (h : ∀ f, s.value f = t.value f) : s = t := by
  obtain ⟨_, _, _, _, _, _, _, _⟩ := s
  obtain ⟨_, _, _, _, _, _, _, _⟩ := t
  rw [mk.injEq]
  exact ⟨h .idleTimeout, h .maxRequestBytes, h .requestReadTimeout, h .dialTimeout, h .peekTimeout,
    h .drainTimeout, h .acceptBackoffMin, h .acceptBackoffMax⟩

/-- What a file assigns replaces the value of each setting that it names. -/
theorem value_merge (s : Settings) (o : Overrides) (f : Setting) :
    (s.merge o).value f = ((o f).map (· * f.unit)).getD (s.value f) := by
  cases f <;> simp only [value, merge, span, Setting.unit] <;> cases o _ <;> simp

/-- No time but the longest delay is zero, nor is the cap, and the delays are not inverted. -/
def Sensible (value : Setting → Nat) : Prop :=
  (∀ f, f ≠ .acceptBackoffMax → value f ≠ 0) ∧ value .acceptBackoffMin ≤ value .acceptBackoffMax

/-- No duration is found to be zero just if none is but perhaps the longest delay. -/
theorem find?_spans_eq_none_iff : (s.spans.find? fun p => p.2 == 0) = none ↔
    ∀ f, f ≠ .acceptBackoffMax → f ≠ .maxRequestBytes → s.value f ≠ 0 := by
  simp only [List.find?_eq_none, spans, List.forall_mem_cons, beq_iff_eq]
  constructor
  · -- The list has every span but the largest delay, and the size of a request is no span.
    rintro ⟨hidle, hread, hdial, hpeek, hdrain, hmin, -⟩ f hmax hcap
    cases f with
    | idleTimeout => exact hidle
    | maxRequestBytes => exact absurd rfl hcap
    | requestReadTimeout => exact hread
    | dialTimeout => exact hdial
    | peekTimeout => exact hpeek
    | drainTimeout => exact hdrain
    | acceptBackoffMin => exact hmin
    | acceptBackoffMax => exact absurd rfl hmax
  · intro h
    exact ⟨h .idleTimeout nofun nofun, h .requestReadTimeout nofun nofun,
      h .dialTimeout nofun nofun, h .peekTimeout nofun nofun, h .drainTimeout nofun nofun,
      h .acceptBackoffMin nofun nofun, nofun⟩

/-- **What settings must be** to be used. -/
theorem flaw?_eq_none_iff : s.flaw? = none ↔ Sensible s.value := by
  constructor
  · intro h
    unfold flaw? at h
    split at h
    · cases h
    · rename_i htimes
      split at h
      · cases h
      · rename_i hcap
        split at h
        · cases h
        · rename_i hdelays
          refine ⟨fun f hmax => ?_, Nat.le_of_not_lt hdelays⟩
          by_cases hf : f = .maxRequestBytes
          · rw [hf]
            exact hcap
          · exact find?_spans_eq_none_iff.1 htimes f hmax hf
  · rintro ⟨hzero, hdelays⟩
    have htimes := find?_spans_eq_none_iff.2 fun f hmax _ => hzero f hmax
    have hcap : s.maxRequestBytes ≠ 0 := hzero .maxRequestBytes nofun
    have hnot : ¬ s.acceptBackoffMax < s.acceptBackoffMin := Nat.not_lt_of_le hdelays
    rw [flaw?, htimes]
    dsimp only
    rw [if_neg hcap, if_neg hnot]

end Settings

end ForwardProxy
