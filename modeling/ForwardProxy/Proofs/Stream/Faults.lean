import ForwardProxy.Proofs.Stream.Writes

namespace ForwardProxy

/-!
# The faults of a stream

A read or a write fails with a fault that the other side brought about, or with one of the few that
the program itself knows.  What is said of all of these holds of every fault that is met.

* `Channel.Event.Raises`, `Channel.Raises` — every fault is as a property says.
* `Channel.failing?` — the fault of every write to a channel, if there is one.
* `Channel.Raises.apply`, `Channel.Raises.read`, `Channel.Raises.write` — how that is kept.
* `Lookahead.raises_fill`, …, `Lookahead.raises_scan` — the same through a buffer.
* `IdleStream.raises_read`, `IdleStream.raises_write` — the same under an idle timer.
-/

variable {P : Fault → Prop}

/-- An attempt fails only with faults as `P` says. -/
def Attempt.Raises {α : Type} (P : Fault → Prop) (a : Attempt α) : Prop := ∀ f, a = .failed f → P f

namespace Attempt

/-- An attempt that succeeds raises nothing. -/
theorem raises_ready {α : Type} (x : α) : (ready x).Raises P := nofun

/-- An attempt that is held up raises nothing. -/
theorem raises_blocked {α : Type} : (blocked : Attempt α).Raises P := nofun

/-- An attempt that fails raises its fault. -/
theorem raises_failed_iff {α : Type} {f : Fault} : (failed f : Attempt α).Raises P ↔ P f :=
  ⟨fun h => h f rfl, fun h _ hf => failed.inj hf ▸ h⟩

end Attempt

/-! ### Channels -/

namespace Channel

/-- The other side brings about no fault but as `P` says. -/
def Event.Raises (P : Fault → Prop) : Event → Prop
  | failRead f => P f
  | failWrite f => P f
  | _ => True

/-- The faults that wait in a channel, and that of its writes, are as `P` says. -/
structure Raises (P : Fault → Prop) (c : Channel) : Prop where
  reads : ∀ f, .fault f ∈ c.inbox → P f
  writes : ∀ f, c.writeFault = some f → P f

variable {c : Channel} {bs : Bytes}

/-- A channel in which nothing has happened raises nothing. -/
theorem raises_idle (room : Option Nat) : (idle room).Raises P := ⟨nofun, nofun⟩

/-- A channel raises what arrives in it, and what it did before. -/
theorem Raises.arrive (h : c.Raises P) {a : Arrival} (ha : ∀ f, a = .fault f → P f) :
    (c.arrive a).Raises P := by
  unfold Channel.arrive
  split
  · exact h
  · refine ⟨fun f hf => ?_, h.writes⟩
    rcases List.mem_append.1 hf with hf | hf
    · exact h.reads f hf
    · exact ha f (List.mem_singleton.1 hf).symm

/-- A channel raises the fault of an event, a broken pipe, and what it did before. -/
theorem Raises.apply (h : c.Raises P) (hpipe : P (.bare .brokenPipe)) {e : Event}
    (he : e.Raises P) : (c.apply e).Raises P := by
  cases e with
  | send bs =>
    simp only [Channel.apply]
    split
    · exact h
    · exact h.arrive fun f hf => by cases hf
  | failRead f => exact h.arrive fun f' hf => by rw [← Arrival.fault.inj hf]; exact he
  | failWrite f => exact ⟨h.reads, fun f' hf => by rw [← Option.some.inj hf]; exact he⟩
  | hangUp => exact ⟨h.reads, fun f hf => by rw [← Option.some.inj hf]; exact hpipe⟩
  | finish => exact ⟨h.reads, h.writes⟩
  | widen amount => cases amount <;> exact ⟨h.reads, h.writes⟩

/-- A channel raises the faults of events, a broken pipe, and what it did before. -/
theorem Raises.applyAll (h : c.Raises P) (hpipe : P (.bare .brokenPipe)) {es : List Event}
    (hes : ∀ e ∈ es, e.Raises P) : (c.applyAll es).Raises P := by
  induction es generalizing c with
  | nil => exact h
  | cons e es ih =>
    exact ih (h.apply hpipe (hes e List.mem_cons_self)) fun e' he' =>
      hes e' (List.mem_cons_of_mem e he')

/-- A read leaves no fault that was not there, and fails with one that was. -/
theorem Raises.read (h : c.Raises P) (n : Nat) :
    (c.read n).2.Raises P ∧ (c.read n).1.Raises P := by
  unfold Channel.read
  split
  · refine ⟨h, fun f hf => ?_⟩
    split at hf <;> cases hf
  · rename_i f rest hinbox
    refine ⟨⟨fun f' hf => ?_, h.writes⟩, fun f' hf => ?_⟩
    · exact h.reads f' (by rw [hinbox]; exact List.mem_cons_of_mem _ hf)
    · cases hf
      exact h.reads f (by rw [hinbox]; exact List.mem_cons_self)
  · rename_i bs rest hinbox
    refine ⟨⟨fun f' hf => ?_, h.writes⟩, nofun⟩
    -- What is put back of a chunk that was cut is no fault.
    have hrest : .fault f' ∈ rest := by
      by_cases hle : bs.length ≤ n
      · simpa [hle] using hf
      · simpa [hle] using hf
    exact h.reads f' (by rw [hinbox]; exact List.mem_cons_of_mem _ hrest)

/-- The fault of every write to a channel, if writes fail or the channel is shut. -/
def failing? (c : Channel) : Option Fault :=
  if c.shut then some (.bare .brokenPipe) else c.writeFault

/-- **A write fails** with the fault of the channel, and not otherwise. -/
theorem write_failed_iff {f : Fault} : (c.write bs).1 = .failed f ↔ c.failing? = some f := by
  unfold write failing?
  split
  · simp
  · cases c.writeFault with
    | some f' => simp
    | none =>
      cases c.room with
      | none => simp
      | some r =>
        dsimp only
        split <;> simp

/-- A channel to which a write does not fail fails none. -/
theorem failing?_eq_none (h : ∀ f, (c.write bs).1 ≠ .failed f) : c.failing? = none :=
  Option.eq_none_iff_forall_ne_some.2 fun f hf => h f (write_failed_iff.2 hf)

/-- A channel that takes a write fails none. -/
theorem failing?_of_ready {k : Nat} (h : (c.write bs).1 = .ready k) : c.failing? = none :=
  failing?_eq_none fun f hf => by
    rw [h] at hf
    cases hf

/-- A write fails with the fault that was there, or because the channel is shut. -/
theorem Raises.write (h : c.Raises P) (hpipe : P (.bare .brokenPipe)) (bs : Bytes) :
    (c.write bs).1.Raises P := by
  intro f hf
  have hfailing := write_failed_iff.1 hf
  unfold failing? at hfailing
  split at hfailing
  · cases hfailing
    exact hpipe
  · exact h.writes f hfailing

end Channel

/-! ### Reading ahead -/

namespace Lookahead

variable {l l' : Lookahead} {bs : Bytes}

/-- The faults of a stream are those of its channel. -/
def Raises (P : Fault → Prop) (l : Lookahead) : Prop := l.channel.Raises P

/-- Closing a stream raises no fault. -/
theorem Raises.close (h : l.Raises P) : l.close.Raises P := ⟨h.reads, h.writes⟩

/-- A stream raises the fault of an event, a broken pipe, and what it did before. -/
theorem Raises.apply (h : l.Raises P) (hpipe : P (.bare .brokenPipe)) {e : Channel.Event}
    (he : e.Raises P) : (l.apply e).Raises P := Channel.Raises.apply h hpipe he

/-- Writing does not change whether writes fail. -/
theorem Wrote.failing?_eq (h : l.Wrote bs l') : l'.channel.failing? = l.channel.failing? := by
  rw [h.channel_eq]
  rfl

/-- Writing does not change the faults of a stream. -/
theorem Raises.wrote (h : l.Raises P) (hw : l.Wrote bs l') : l'.Raises P := by
  rw [Raises, hw.channel_eq]
  exact ⟨h.reads, h.writes⟩

/-- Filling the buffer raises no fault that was not there. -/
theorem raises_fill (h : l.Raises P) : l.fill.2.Raises P ∧ l.fill.1.Raises P := by
  unfold fill
  split
  · have hread := Channel.Raises.read h capacity
    rcases hr : l.channel.read capacity with ⟨a, c⟩
    rw [hr] at hread
    cases a with
    | ready bs => exact ⟨hread.1, Attempt.raises_ready _⟩
    | blocked => exact ⟨hread.1, Attempt.raises_blocked⟩
    | failed f => exact ⟨hread.1, Attempt.raises_failed_iff.2 (hread.2 f rfl)⟩
  · exact ⟨h, nofun⟩

/-- Filling the buffer raises no fault that was not there, told of what it comes to. -/
theorem raises_of_fill {a : Attempt Bytes} {m : Lookahead} (h : l.Raises P)
    (hf : l.fill = (a, m)) : m.Raises P ∧ a.Raises P := by
  have hfill := raises_fill h
  rwa [hf] at hfill

/-- A peek raises no fault that was not there. -/
theorem raises_peek (h : l.Raises P) : l.peek.2.Raises P ∧ l.peek.1.Raises P := by
  unfold peek
  rcases hf : l.fill with ⟨a, m⟩
  have hfill := raises_of_fill h hf
  cases a with
  | ready bs => exact ⟨hfill.1, Attempt.raises_ready _⟩
  | blocked => exact ⟨hfill.1, Attempt.raises_blocked⟩
  | failed f => exact ⟨hfill.1, Attempt.raises_failed_iff.2 (hfill.2 f rfl)⟩

/-- A read raises no fault that was not there. -/
theorem raises_read (h : l.Raises P) (n : Nat) :
    (l.read n).2.Raises P ∧ (l.read n).1.Raises P := by
  unfold read
  split
  · exact Channel.Raises.read h n
  · rcases hf : l.fill with ⟨a, m⟩
    have hfill := raises_of_fill h hf
    cases a with
    | ready bs => exact ⟨hfill.1, Attempt.raises_ready _⟩
    | blocked => exact ⟨hfill.1, Attempt.raises_blocked⟩
    | failed f => exact ⟨hfill.1, Attempt.raises_failed_iff.2 (hfill.2 f rfl)⟩

/-- A read of a given number of octets may also meet the end of the stream too soon. -/
theorem raises_readExact (hearly : P Fault.earlyEnd) (h : l.Raises P) (n : Nat) :
    (l.readExact n).2.2.Raises P ∧ (l.readExact n).1.Raises P := by
  -- By induction on what is still wanted: each read takes an octet at least, or is the last.
  induction n using Nat.strongRecOn generalizing l with
  | ind n ih =>
    rw [readExact]
    by_cases hn : n = 0
    · rw [if_pos hn]
      exact ⟨h, nofun⟩
    · rw [if_neg hn]
      have hread := raises_read h n
      rcases hr : l.read n with ⟨a, m⟩
      rw [hr] at hread
      cases a with
      | blocked => exact ⟨hread.1, Attempt.raises_blocked⟩
      | failed f => exact ⟨hread.1, Attempt.raises_failed_iff.2 (hread.2 f rfl)⟩
      | ready bs =>
        cases bs with
        | nil => exact ⟨hread.1, Attempt.raises_failed_iff.2 hearly⟩
        | cons b bs => exact ih _ (by rw [List.length_cons]; omega) hread.1

/-- A scan fails only with faults as `P` says. -/
def Scan.Raises {σ : Type} (P : Fault → Prop) (r : Scan σ) : Prop := ∀ f s, r = .failed f s → P f

/-- A scan raises no fault that was not there. -/
theorem raises_scan {σ : Type} (step : σ → UInt8 → σ × Bool) (s : σ) (h : l.Raises P) :
    (l.scan step s).2.Raises P ∧ (l.scan step s).1.Raises P := by
  -- Along the refills of the buffer, each of which leaves the faults as they are.
  induction s, l using scan.induct step with
  | case1 s l m hf =>
    have hfill := raises_of_fill h hf
    rw [scan, hf]
    exact ⟨hfill.1, fun f' s' hf' => by cases hf'⟩
  | case2 s l f m hf hk ih =>
    have hfill := raises_of_fill h hf
    rw [scan, hf]
    simp only [hk, if_true]
    exact ih hfill.1
  | case3 s l f m hf hk =>
    have hfill := raises_of_fill h hf
    rw [scan, hf]
    simp only [hk, if_false]
    exact ⟨hfill.1, fun f' s' hf' => by cases hf'; exact hfill.2 f rfl⟩
  | case4 s l m hf =>
    have hfill := raises_of_fill h hf
    rw [scan, hf]
    exact ⟨hfill.1, fun f' s' hf' => by cases hf'⟩
  | case5 s l b bs m hf s' left hs =>
    have hfill := raises_of_fill h hf
    rw [scan, hf]
    simp only [hs]
    exact ⟨hfill.1, fun f' s' hf' => by cases hf'⟩
  | case6 s l b bs m hf s' left hs ih =>
    have hfill := raises_of_fill h hf
    rw [scan, hf]
    simp only [hs]
    exact ih hfill.1

/-- A write raises a broken pipe, or the fault of the channel. -/
theorem raises_write (hpipe : P (.bare .brokenPipe)) (h : l.Raises P) (bs : Bytes) :
    (l.write bs).2.Raises P ∧ (l.write bs).1.Raises P :=
  ⟨h.wrote (l.wrote_write bs), Channel.Raises.write h hpipe bs⟩

/-- A write of a whole raises a broken pipe, or the fault of the channel. -/
theorem raises_writeAll (hpipe : P (.bare .brokenPipe)) (h : l.Raises P) (bs : Bytes) :
    (l.writeAll bs).2.2.Raises P ∧ (l.writeAll bs).1.Raises P := by
  rw [write_writeAll]
  by_cases hnil : bs.isEmpty
  · rw [if_pos hnil]
    exact ⟨h, nofun⟩
  · rw [if_neg hnil]
    have hwrite := raises_write hpipe h bs
    rcases hw : l.write bs with ⟨a, m⟩
    rw [hw] at hwrite
    cases a with
    | ready k =>
      dsimp only
      split
      · exact ⟨hwrite.1, nofun⟩
      · exact ⟨hwrite.1, nofun⟩
    | blocked => exact ⟨hwrite.1, Attempt.raises_blocked⟩
    | failed f => exact ⟨hwrite.1, Attempt.raises_failed_iff.2 (hwrite.2 f rfl)⟩

end Lookahead

/-! ### Under an idle timer -/

namespace IdleStream

variable {now n : Nat} {s : IdleStream Lookahead} {bs : Bytes}

/-- An idle timer adds nothing but its own fault. -/
theorem raises_observe {α : Type} (hidle : ∀ span, P (.idle span)) {a : Attempt α}
    (h : a.Raises P) (now : Nat) (t : IdleTimer) : (t.observe now a).1.Raises P := by
  cases a with
  | ready x => exact nofun
  | failed f => exact h
  | blocked =>
    show (t.expire now : Attempt α).Raises P
    unfold IdleTimer.expire
    split
    · exact Attempt.raises_failed_iff.2 (hidle t.span)
    · exact nofun

/-- A read under an idle timer adds nothing but the fault of silence. -/
theorem raises_read (hidle : ∀ span, P (.idle span)) (h : s.stream.Raises P) (now n : Nat) :
    (s.read now n).2.stream.Raises P ∧ (s.read now n).1.Raises P := by
  have hread := Lookahead.raises_read h n
  exact ⟨hread.1, raises_observe hidle hread.2 now s.timer⟩

/-- A write under an idle timer adds nothing but the fault of silence. -/
theorem raises_write (hpipe : P (.bare .brokenPipe)) (hidle : ∀ span, P (.idle span))
    (h : s.stream.Raises P) (now : Nat) (bs : Bytes) :
    (s.write now bs).2.stream.Raises P ∧ (s.write now bs).1.Raises P := by
  have hwrite := Lookahead.raises_write hpipe h bs
  exact ⟨hwrite.1, raises_observe hidle hwrite.2 now s.timer⟩

end IdleStream

end ForwardProxy
