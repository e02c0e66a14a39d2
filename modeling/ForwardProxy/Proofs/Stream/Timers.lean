import ForwardProxy.Proofs.Stream.Faults

namespace ForwardProxy

/-!
# What puts an idle deadline off

The timer of a stream is set anew by every attempt that comes to something.  As long as no attempt
has failed or met the end of the stream, that is whenever octets have moved, and only then.

* `Channel.Genuine` — a channel whose faults are not the idle faults of a timer.
* `IdleStream.Used` — so many octets have moved on a stream, and its timer tells whether any did.
* `IdleStream.Pushed` — a timer that was left as it is or set anew.
* `IdleStream.used_read`, `IdleStream.used_writeAll` — what attempts do to the timer.
* `IdleStream.lapsed_of_read`, `IdleStream.lapsed_of_writeAll` — an attempt fails for an idle
  deadline only if the deadline had come before it.
-/

/-! ### Faults of a channel -/

namespace Channel

/-- Something that the other side does with no idle fault in it. -/
def Event.Genuine : Event → Prop
  | failRead f => f.isIdle = false
  | failWrite f => f.isIdle = false
  | _ => True

/-- A channel without idle faults: these come from timers, not from the other side. -/
structure Genuine (c : Channel) : Prop where
  reads : ∀ f, .fault f ∈ c.inbox → f.isIdle = false
  writes : ∀ f, c.writeFault = some f → f.isIdle = false

variable {c c' : Channel}

/-- An event is genuine exactly if its fault does not look like silence. -/
theorem Event.genuine_iff {e : Event} : e.Genuine ↔ e.Raises (·.isIdle = false) := by
  cases e <;> exact .rfl

/-- A channel is genuine exactly if no fault in it looks like silence. -/
theorem genuine_iff : c.Genuine ↔ c.Raises (·.isIdle = false) :=
  ⟨fun h => ⟨h.reads, h.writes⟩, fun h => ⟨h.reads, h.writes⟩⟩

/-- A channel in which nothing has happened is genuine. -/
theorem genuine_idle (room : Option Nat) : (idle room).Genuine := genuine_iff.2 (raises_idle room)

/-- A channel stays genuine after a genuine event. -/
theorem Genuine.apply (h : c.Genuine) {e : Event} (he : e.Genuine) : (c.apply e).Genuine :=
  genuine_iff.2 ((genuine_iff.1 h).apply rfl (Event.genuine_iff.1 he))

/-- A read leaves no fault that was not there, and fails with one that was. -/
theorem Genuine.read (h : c.Genuine) (n : Nat) :
    (c.read n).2.Genuine ∧ ∀ f, (c.read n).1 = .failed f → f.isIdle = false := by
  have hread := (genuine_iff.1 h).read n
  exact ⟨genuine_iff.2 hread.1, hread.2⟩

/-- A write fails with the fault that was there, or because the channel is shut. -/
theorem Genuine.write (h : c.Genuine) (bs : Bytes) {f : Fault}
    (hf : (c.write bs).1 = .failed f) : f.isIdle = false :=
  (genuine_iff.1 h).write rfl bs f hf

/-- A write of something that is possible writes something. -/
theorem pos_of_write_ready {bs : Bytes} (hne : bs ≠ []) {k : Nat}
    (hk : (c.write bs).1 = .ready k) : 0 < k := by
  have hlen : 0 < bs.length := List.length_pos_iff.2 hne
  unfold write at hk
  split at hk
  · cases hk
  · split at hk
    · cases hk
    · cases hk
      exact hlen
    · rename_i r _ _
      by_cases hr : r = 0
      · simp [hr, hne] at hk
      · simp only [hr, decide_false, Bool.false_and, Bool.false_eq_true, if_false,
          Attempt.ready.injEq] at hk
        omega

end Channel

namespace Lookahead

variable {l l' : Lookahead}

/-- A read leaves no fault that was not there, and fails with one that was. -/
theorem genuine_read (h : l.channel.Genuine) (n : Nat) :
    (l.read n).2.channel.Genuine ∧ ∀ f, (l.read n).1 = .failed f → f.isIdle = false := by
  have hread := raises_read (Channel.genuine_iff.1 h) n
  exact ⟨Channel.genuine_iff.2 hread.1, hread.2⟩

/-- Writing does not change the faults of a stream. -/
theorem Wrote.genuine {bs : Bytes} (hw : l.Wrote bs l') (h : l.channel.Genuine) :
    l'.channel.Genuine := Channel.genuine_iff.2 (Raises.wrote (Channel.genuine_iff.1 h) hw)

/-- Writing takes nothing from what is there to read. -/
theorem Wrote.unread_eq {bs : Bytes} (hw : l.Wrote bs l') : l'.unread = l.unread := by
  rw [unread, unread, items, items, hw.ahead_eq, hw.channel_eq]
  rfl

end Lookahead

/-! ### Timers -/

namespace IdleTimer

variable {t : IdleTimer} {now : Nat}

/-- The deadline of a timer that was just set is still to come. -/
theorem lt_deadline_start {span : Nat} (hspan : 0 < span) (now : Nat) :
    now < (start span now).deadline := Time.lt_deadline hspan now

/-- An attempt fails for an idle deadline only if the deadline has come. -/
theorem lapsed_of_expire {α : Type} {f : Fault} (h : (t.expire now : Attempt α) = .failed f) :
    t.deadline ≤ now := by
  unfold expire at h
  split at h
  · assumption
  · cases h

end IdleTimer

namespace IdleStream

variable {now n m : Nat} {s s' s'' : IdleStream Lookahead} {bs : Bytes}

/-- A stream under a timer that runs for some time, and without idle faults of its own. -/
structure Sound (s : IdleStream Lookahead) : Prop where
  span_pos : 0 < s.timer.span
  genuine : s.stream.channel.Genuine

/-- The timer has been left as it is or set anew, and nothing has been said against the stream. -/
structure Pushed (now : Nat) (s s' : IdleStream Lookahead) : Prop where
  timer : s'.timer = s.timer ∨ s'.timer = s.timer.touch now
  genuine : s.stream.channel.Genuine → s'.stream.channel.Genuine

namespace Pushed

theorem refl (now : Nat) (s : IdleStream Lookahead) : Pushed now s s := ⟨.inl rfl, id⟩

/-- A timer that is pushed keeps its span. -/
theorem span_eq (h : Pushed now s s') : s'.timer.span = s.timer.span := by
  rcases h.timer with ht | ht
  · rw [ht]
  · rw [ht]
    rfl

/-- A stream stays sound when its timer is pushed. -/
theorem sound (h : Pushed now s s') (hs : s.Sound) : s'.Sound :=
  ⟨h.span_eq ▸ hs.span_pos, h.genuine hs.genuine⟩

theorem trans (h : Pushed now s s') (h' : Pushed now s' s'') : Pushed now s s'' where
  timer := by
    rcases h'.timer with ht' | ht'
    · rw [ht']
      exact h.timer
    · right
      rw [ht', IdleTimer.touch, h.span_eq]
      rfl
  genuine hg := h'.genuine (h.genuine hg)

/-- A deadline that has come by now had come before, as one set anew lies ahead. -/
theorem lapsed (h : Pushed now s s') (hs : s.Sound) (hl : s'.timer.deadline ≤ now) :
    s.timer.deadline ≤ now := by
  rcases h.timer with ht | ht
  · rw [← ht]
    exact hl
  · rw [ht] at hl
    have hlt := IdleTimer.lt_deadline_start hs.span_pos now
    exact absurd hl (Nat.not_le_of_lt hlt)

/-- Closing a stream does not push its timer. -/
theorem close (now : Nat) (s : IdleStream Lookahead) : Pushed now s s.close :=
  ⟨.inl rfl, fun hg => ⟨hg.reads, hg.writes⟩⟩

end Pushed

/-- So many octets have been read from a stream or written to it, and its timer tells whether any
    were. -/
structure Used (now n : Nat) (s s' : IdleStream Lookahead) : Prop where
  unread_le : s'.stream.unread.length ≤ s.stream.unread.length
  written_le : s.stream.channel.written.length ≤ s'.stream.channel.written.length
  count : s.stream.unread.length + s'.stream.channel.written.length =
    s'.stream.unread.length + s.stream.channel.written.length + n
  timer : s'.timer = if n = 0 then s.timer else s.timer.touch now
  genuine : s.stream.channel.Genuine → s'.stream.channel.Genuine

namespace Used

theorem refl (now : Nat) (s : IdleStream Lookahead) : Used now 0 s s :=
  ⟨Nat.le_refl _, Nat.le_refl _, rfl, rfl, id⟩

/-- A stream that is used has its timer pushed. -/
theorem pushed (h : Used now n s s') : Pushed now s s' where
  timer := by
    by_cases hn : n = 0
    · left
      rw [h.timer, if_pos hn]
    · right
      rw [h.timer, if_neg hn]
  genuine := h.genuine

theorem trans (h : Used now n s s') (h' : Used now m s' s'') : Used now (n + m) s s'' where
  unread_le := Nat.le_trans h'.unread_le h.unread_le
  written_le := Nat.le_trans h.written_le h'.written_le
  count := by
    have hc := h.count
    have hc' := h'.count
    omega
  timer := by
    by_cases hn : n = 0
    · rw [h'.timer, h.timer, if_pos hn, hn, Nat.zero_add]
    · rw [if_neg (by omega), h'.timer, h.timer, if_neg hn]
      -- A timer set anew twice at one instant is set anew once.
      split <;> rfl
  genuine hg := h'.genuine (h.genuine hg)

/-- Octets have moved if there is less to read or more is written. -/
theorem ne_zero_iff (h : Used now n s s') :
    n ≠ 0 ↔ s'.stream.unread.length < s.stream.unread.length ∨
      s.stream.channel.written.length < s'.stream.channel.written.length := by
  have hunread := h.unread_le
  have hwritten := h.written_le
  have hcount := h.count
  omega

/-- Octets taken from the front. -/
theorem of_took (ht : s.stream.Took bs s'.stream)
    (htimer : s'.timer = if bs.length = 0 then s.timer else s.timer.touch now)
    (hg : s.stream.channel.Genuine → s'.stream.channel.Genuine) : Used now bs.length s s' := by
  have hwritten := ht.written_eq
  have hunread : s.stream.unread.length = bs.length + s'.stream.unread.length := by
    rw [ht.unread_eq, List.length_append]
  exact ⟨by omega, Nat.le_of_eq (by rw [hwritten]), by rw [hwritten]; omega, htimer, hg⟩

/-- Octets written behind those before. -/
theorem of_wrote (hw : s.stream.Wrote bs s'.stream)
    (htimer : s'.timer = if bs.length = 0 then s.timer else s.timer.touch now) :
    Used now bs.length s s' := by
  have hunread := hw.unread_eq
  have hwritten : s'.stream.channel.written.length =
      s.stream.channel.written.length + bs.length := by
    rw [hw.written_eq, List.length_append]
  exact ⟨Nat.le_of_eq (by rw [hunread]), by omega, by rw [hunread]; omega, htimer, hw.genuine⟩

end Used

/-! ### Reading and writing -/

/-- Observing an attempt pushes the timer or leaves it. -/
theorem pushed_observe {α : Type} (a : Attempt α) (t : IdleTimer) :
    (t.observe now a).2 = t ∨ (t.observe now a).2 = t.touch now := by
  cases a with
  | ready x => exact .inr rfl
  | blocked => exact .inl rfl
  | failed f => exact .inr rfl

/-- A read pushes the timer or leaves it. -/
theorem pushed_read (now n : Nat) (s : IdleStream Lookahead) : Pushed now s (s.read now n).2 :=
  ⟨pushed_observe _ _, fun hg => (Lookahead.genuine_read hg n).1⟩

/-- A read that has to wait leaves everything as it is, and one that takes octets sets the timer
    anew. -/
theorem used_read (now n : Nat) {s : IdleStream Lookahead}
    (hne : ∀ f, (s.read now n).1 ≠ .failed f) (hend : (s.read now n).1 ≠ .ready []) :
    Used now (s.read now n).1.taken.length s (s.read now n).2 := by
  refine .of_took (s.took_read now n) ?_ (s.pushed_read now n).genuine
  unfold read at hne hend ⊢
  rcases hr : ByteStream.read n s.stream with ⟨a, l⟩
  rw [hr] at hne hend
  cases a with
  | ready bs =>
    -- The end of the stream would set the timer as well, but moves nothing.
    have hbs : bs.length ≠ 0 := fun h => hend (by rw [List.length_eq_zero_iff.1 h]; rfl)
    exact (if_neg hbs).symm
  | blocked =>
    show s.timer = if ((s.timer.expire now : Attempt Bytes).taken).length = 0 then _ else _
    unfold IdleTimer.expire
    split <;> rfl
  | failed f => exact absurd rfl (hne f)

/-- A read that is held up has used the stream for nothing. -/
theorem used_of_blocked (h : s.read now n = (.blocked, s')) : ∃ m, Used now m s s' := by
  have hused := used_read now n (s := s)
  rw [h] at hused
  exact ⟨_, hused (fun f hf => by cases hf) fun hf => by cases hf⟩

/-- A read that takes octets has used the stream for them. -/
theorem used_of_ready {b : UInt8} (h : s.read now n = (.ready (b :: bs), s')) :
    ∃ m, Used now m s s' := by
  have hused := used_read now n (s := s)
  rw [h] at hused
  exact ⟨_, hused (fun f hf => by cases hf) fun hf => by cases hf⟩

/-- A read fails for an idle deadline only if the deadline has come. -/
theorem lapsed_of_read (now n : Nat) {f : Fault} (hg : s.stream.channel.Genuine)
    (hf : (s.read now n).1 = .failed f) (hidle : f.isIdle = true) : s.timer.deadline ≤ now := by
  unfold read at hf
  have hgenuine := (Lookahead.genuine_read hg n).2
  rcases hr : ByteStream.read n s.stream with ⟨a, l⟩
  rw [hr] at hf
  cases a with
  | ready bs => cases hf
  | blocked => exact IdleTimer.lapsed_of_expire hf
  | failed f' =>
    cases hf
    have hnot := hgenuine f (by rw [show s.stream.read n = (.failed f, l) from hr])
    rw [hnot] at hidle
    cases hidle

/-- A write pushes the timer or leaves it. -/
theorem pushed_write (now : Nat) (bs : Bytes) (s : IdleStream Lookahead) :
    Pushed now s (s.write now bs).2 :=
  ⟨pushed_observe _ _, fun hg => (s.wrote_write now bs).genuine hg⟩

/-- A write that has to wait leaves everything as it is, and one that writes sets the timer anew. -/
theorem used_write (now : Nat) {s : IdleStream Lookahead} (hbs : bs ≠ [])
    (hne : ∀ f, (s.write now bs).1 ≠ .failed f) :
    Used now ((s.write now bs).1.wrote bs).length s (s.write now bs).2 := by
  refine .of_wrote (s.wrote_write now bs) ?_
  unfold write at hne ⊢
  rcases hw : ByteStream.write bs s.stream with ⟨a, l⟩
  rw [hw] at hne
  cases a with
  | ready k =>
    -- A write that succeeds takes one octet at least, so the timer was pushed by it.
    have hk : 0 < k := Channel.pos_of_write_ready (c := s.stream.channel) hbs (by
      have hfst := congrArg Prod.fst hw
      exact hfst)
    have hlen : 0 < bs.length := List.length_pos_iff.2 hbs
    have htake : (bs.take k).length ≠ 0 := by
      rw [List.length_take]
      omega
    exact (if_neg htake).symm
  | blocked =>
    show s.timer = if ((s.timer.expire now : Attempt Nat).wrote bs).length = 0 then _ else _
    unfold IdleTimer.expire
    split <;> rfl
  | failed f => exact absurd rfl (hne f)

/-- A write fails for an idle deadline only if the deadline has come. -/
theorem lapsed_of_write (now : Nat) (bs : Bytes) {f : Fault} (hg : s.stream.channel.Genuine)
    (hf : (s.write now bs).1 = .failed f) (hidle : f.isIdle = true) : s.timer.deadline ≤ now := by
  unfold write at hf
  rcases hw : ByteStream.write bs s.stream with ⟨a, l⟩
  rw [hw] at hf
  cases a with
  | ready k => cases hf
  | blocked => exact IdleTimer.lapsed_of_expire hf
  | failed f' =>
    cases hf
    have hnot : f.isIdle = false := hg.write bs (congrArg Prod.fst hw)
    rw [hnot] at hidle
    cases hidle

/-- A write of a whole pushes the timer or leaves it. -/
theorem pushed_writeAll (now : Nat) (bs : Bytes) (s : IdleStream Lookahead) :
    Pushed now s (s.writeAll now bs).2.2 := by
  unfold writeAll
  by_cases hnil : bs.isEmpty
  · rw [if_pos hnil]
    exact .refl now s
  · rw [if_neg hnil]
    have hpushed := s.pushed_write now bs
    rcases hw : s.write now bs with ⟨a, s'⟩
    rw [hw] at hpushed
    cases a with
    | ready k => by_cases hk : k < bs.length <;> simp only [hk, if_true, if_false] <;> exact hpushed
    | blocked => exact hpushed
    | failed f => exact hpushed

/-- Writing until there is no more room sets the timer anew if there was any. -/
theorem used_writeAll (now : Nat) (bs : Bytes) {s : IdleStream Lookahead}
    (hne : ∀ f, (s.writeAll now bs).1 ≠ .failed f) :
    ∃ n, Used now n s (s.writeAll now bs).2.2 := by
  unfold writeAll at hne ⊢
  by_cases hnil : bs.isEmpty
  · rw [if_pos hnil]
    exact ⟨0, .refl now s⟩
  · rw [if_neg hnil] at hne ⊢
    have hbs : bs ≠ [] := fun h => hnil (List.isEmpty_iff.2 h)
    -- Writing the whole is one write: what it falls short by is kept for the next.
    have hused := used_write now (s := s) hbs
    rcases hw : s.write now bs with ⟨a, s'⟩
    rw [hw] at hne hused
    cases a with
    | ready k =>
      have hmoved := hused nofun
      by_cases hk : k < bs.length
      · simp only [hk, if_true]
        exact ⟨_, hmoved⟩
      · simp only [hk, if_false]
        exact ⟨_, hmoved⟩
    | blocked => exact ⟨_, hused nofun⟩
    | failed f => exact absurd rfl (hne f)

/-- **Writing fails for an idle deadline** only if the deadline had come before the first octet was
    written: had one been written, the deadline would lie ahead. -/
theorem lapsed_of_writeAll (now : Nat) (bs : Bytes) (hs : s.Sound) {f : Fault}
    (hf : (s.writeAll now bs).1 = .failed f) (hidle : f.isIdle = true) :
    s.timer.deadline ≤ now := by
  unfold writeAll at hf
  by_cases hnil : bs.isEmpty
  · rw [if_pos hnil] at hf
    cases hf
  · rw [if_neg hnil] at hf
    have hpushed := s.pushed_write now bs
    have hlapsed := lapsed_of_write now bs (f := f) hs.genuine
    rcases hw : s.write now bs with ⟨a, s'⟩
    rw [hw] at hf hpushed hlapsed
    cases a with
    | ready k =>
      by_cases hk : k < bs.length
      · simp only [hk, if_true] at hf
        -- The timer that has run out is the one that this very write has set or left.
        exact hpushed.lapsed hs (IdleTimer.lapsed_of_expire hf)
      · simp only [hk, if_false] at hf
        cases hf
    | blocked => cases hf
    | failed f' =>
      cases hf
      exact hlapsed rfl hidle

end IdleStream

end ForwardProxy
