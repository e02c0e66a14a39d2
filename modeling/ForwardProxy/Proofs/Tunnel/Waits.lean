import ForwardProxy.Proofs.Tunnel.Interleaving

namespace ForwardProxy

/-!
# What a half waits for

A half of a tunnel waits for a stream that has nothing to read, or for one that takes no more.  Its
operations change nothing then until the idle deadline of this stream has come, and whatever the
other half does makes no difference to it.

* `Lookahead.Dry`, `Lookahead.Full` — a stream that has nothing to read, or no room.
* `IdleTimer.Wound` — a timer that was set by now.
* `Half.Blocked`, `Half.awaited`, `Half.Stuck` — a half that waits, the stream it waits for, and
  that the idle deadline of this stream lies ahead.
* `Half.act_of_blocked`, `Half.act_eq_self_iff` — what a half that waits does next.
* `Half.Blocked.across`, `Half.Stuck.across` — that the other half makes no difference.
* `Half.Spent`, `Half.spent_run` — a half that moves octets does so until it is stuck.
-/

open IdleStream

/-! ### Streams that wait -/

/-- A read is held up only where nothing is there and the input goes on. -/
theorem Channel.quiet_of_read {c : Channel} {n : Nat} (h : (c.read n).1 = .blocked) :
    c.inbox = [] ∧ c.ended = false := by
  unfold read at h
  split at h
  · rename_i hinbox
    refine ⟨hinbox, Bool.eq_false_iff.2 fun hended => ?_⟩
    simp only [hended, if_true] at h
    cases h
  · cases h
  · cases h

namespace Lookahead

variable {l l' : Lookahead} {bs : Bytes} {n : Nat}

/-- There is nothing to read, and the end of the stream has not come either. -/
structure Dry (l : Lookahead) : Prop where
  ahead_eq : l.ahead = []
  inbox_eq : l.channel.inbox = []
  ended_eq : l.channel.ended = false

/-- There is no room, and nothing else that ends a write. -/
structure Full (l : Lookahead) : Prop where
  room_eq : l.channel.room = some 0
  writeFault_eq : l.channel.writeFault = none
  shut_eq : l.channel.shut = false

/-- A dry stream gives nothing and stays as it is. -/
theorem Dry.read (h : l.Dry) (n : Nat) : l.read n = (.blocked, l) := by
  obtain ⟨channel, ahead⟩ := l
  obtain rfl : ahead = [] := h.ahead_eq
  have hread (m : Nat) : channel.read m = (.blocked, channel) := by
    rw [Channel.read, h.inbox_eq, h.ended_eq]
    rfl
  simp [Lookahead.read, fill, hread]

/-- Only a buffer that is empty is filled. -/
theorem dry_of_fill (h : l.fill.1 = .blocked) : l.Dry := by
  unfold fill at h
  split at h
  · rename_i hempty
    rcases hread : l.channel.read capacity with ⟨a, c⟩
    rw [hread] at h
    cases a with
    | ready bs => cases h
    | failed f => cases h
    | blocked =>
      obtain ⟨hinbox, hended⟩ := Channel.quiet_of_read (congrArg Prod.fst hread)
      exact ⟨List.isEmpty_iff.1 hempty, hinbox, hended⟩
  · cases h

/-- A read is held up only by a dry stream. -/
theorem dry_of_read (h : (l.read n).1 = .blocked) : l.Dry := by
  unfold read at h
  split at h
  · rename_i hpass
    obtain ⟨hinbox, hended⟩ := Channel.quiet_of_read h
    exact ⟨List.isEmpty_iff.1 (Bool.and_eq_true_iff.1 hpass).1, hinbox, hended⟩
  · have hfill := dry_of_fill (l := l)
    rcases hf : l.fill with ⟨a, l'⟩
    rw [hf] at h hfill
    cases a with
    | ready bs => cases h
    | failed f => cases h
    | blocked => exact hfill rfl

/-- A full stream takes nothing and stays as it is. -/
theorem Full.write (h : l.Full) (hne : bs ≠ []) : l.write bs = (.blocked, l) := by
  have hwrite : l.channel.write bs = (.blocked, l.channel) := by
    rw [Channel.write, h.shut_eq, if_neg Bool.false_ne_true, h.writeFault_eq, h.room_eq,
      List.isEmpty_eq_false_iff.2 hne]
    rfl
  rw [Lookahead.write, hwrite]

/-- A write is held up only by a full stream. -/
theorem full_of_write (h : (l.write bs).1 = .blocked) : l.Full := by
  obtain ⟨-, hroom, hfault, hopen⟩ := Channel.full_of_write (c := l.channel) h
  exact ⟨hroom, hfault, hopen⟩

/-- A dry stream stays so when it is written to. -/
theorem Dry.wrote (h : l.Dry) (hw : l.Wrote bs l') : l'.Dry := by
  refine ⟨hw.ahead_eq.trans h.ahead_eq, ?_, ?_⟩
  · rw [hw.channel_eq]
    exact h.inbox_eq
  · rw [hw.channel_eq]
    exact h.ended_eq

/-- A full stream stays so when it is read. -/
theorem Full.took (h : l.Full) (ht : l.Took bs l') : l'.Full := by
  refine ⟨?_, ?_, ?_⟩
  · rw [ht.channel_eq]
    exact h.room_eq
  · rw [ht.channel_eq]
    exact h.writeFault_eq
  · rw [ht.channel_eq]
    exact h.shut_eq

/-- A dry stream stays so when it is closed. -/
theorem Dry.close (h : l.Dry) : l.close.Dry := ⟨h.ahead_eq, h.inbox_eq, h.ended_eq⟩

/-- Writing shuts nothing. -/
theorem Wrote.shut_eq (hw : l.Wrote bs l') : l'.channel.shut = l.channel.shut := by
  rw [hw.channel_eq]

/-- Reading shuts nothing. -/
theorem Took.shut_eq (ht : l.Took bs l') : l'.channel.shut = l.channel.shut := by
  rw [ht.channel_eq]

/-- A stream that is shut is closed already. -/
theorem close_of_shut (h : l.channel.shut = true) : l.close = l := by
  obtain ⟨channel, ahead⟩ := l
  obtain ⟨inbox, ended, room, fault, shut, written⟩ := channel
  obtain rfl : shut = true := h
  rfl

end Lookahead

/-! ### Timers -/

namespace IdleTimer

variable {α : Type} {t : IdleTimer} {span now now' : Nat}

/-- A timer that was set at some instant not after `now`. -/
def Wound (span now : Nat) (t : IdleTimer) : Prop := ∃ last ≤ now, t = .start span last

/-- A timer that was set for a span has it. -/
theorem Wound.span_eq (h : t.Wound span now) : t.span = span := by
  obtain ⟨last, -, rfl⟩ := h
  rfl

/-- A timer that was set by now was set by any later instant. -/
theorem Wound.later (h : t.Wound span now) (hle : now ≤ now') : t.Wound span now' := by
  obtain ⟨last, hlast, ht⟩ := h
  exact ⟨last, Nat.le_trans hlast hle, ht⟩

/-- A timer that is set anew is set by now. -/
theorem Wound.touch (h : t.Wound span now) : (t.touch now).Wound span now :=
  ⟨now, Nat.le_refl now, by rw [IdleTimer.touch, h.span_eq]⟩

/-- A timer whose deadline lies ahead still has it ahead when it is set anew. -/
theorem Wound.lt_touch (h : t.Wound span now) (hlt : now < t.deadline) :
    now < (t.touch now).deadline := by
  obtain ⟨last, hlast, rfl⟩ := h
  rcases Nat.eq_zero_or_pos span with rfl | hpos
  · -- Without a span a deadline lies ahead only at the end of the clock.
    have hfar : 0 < Time.farAhead := by decide
    show now < Time.deadline now 0
    simp only [start, Time.deadline] at hlt ⊢
    split at hlt <;> split <;> omega
  · exact lt_deadline_start hpos now

/-- As long as the clock reaches far enough, a timer that is set anew is put off. -/
theorem Wound.deadline_le (h : t.Wound span now) (hclock : now + span < Time.horizon) :
    t.deadline ≤ now + span := by
  obtain ⟨last, hlast, rfl⟩ := h
  show Time.deadline last span ≤ now + span
  rw [Time.deadline_of_lt (by omega)]
  omega

/-- An attempt that has to wait finds the deadline ahead. -/
theorem lt_of_expire (h : (t.expire now : Attempt α) = .blocked) : now < t.deadline := by
  unfold expire at h
  split at h
  · cases h
  · rename_i hdue
    exact Nat.lt_of_not_le hdue

end IdleTimer

namespace IdleStream

variable {span now n : Nat} {s s' : IdleStream Lookahead} {bs : Bytes}

/-- A timer that is pushed was set by now. -/
theorem Pushed.wound (hp : Pushed now s s') (h : s.timer.Wound span now) :
    s'.timer.Wound span now := by
  rcases hp.timer with ht | ht
  · rw [ht]
    exact h
  · rw [ht]
    exact h.touch

/-- A deadline that is still to come is so after the timer was pushed. -/
theorem Pushed.lt_deadline (hp : Pushed now s s') (h : s.timer.Wound span now)
    (hlt : now < s.timer.deadline) : now < s'.timer.deadline := by
  rcases hp.timer with ht | ht
  · rw [ht]
    exact hlt
  · rw [ht]
    exact h.lt_touch hlt

/-- A read waits on a dry stream until its deadline has come. -/
theorem read_of_dry (h : s.stream.Dry) (now n : Nat) : s.read now n = (s.timer.expire now, s) := by
  rw [read_eq, h.read]
  rfl

/-- A write to a full stream waits for the deadline. -/
theorem write_of_full (h : s.stream.Full) (now : Nat) (hne : bs ≠ []) :
    s.write now bs = (s.timer.expire now, s) := by
  rw [write_eq, h.write hne]
  rfl

/-- What waits under a timer waits on the stream as well. -/
theorem eq_blocked_of_observe {α : Type} {a : Attempt α} {t : IdleTimer}
    (h : (t.observe now a).1 = .blocked) : a = .blocked ∧ now < t.deadline := by
  cases a with
  | ready x => cases h
  | failed f => cases h
  | blocked => exact ⟨rfl, IdleTimer.lt_of_expire h⟩

/-- A read under an idle timer is held up only by a dry stream before its deadline. -/
theorem dry_of_read (h : (s.read now n).1 = .blocked) :
    s.stream.Dry ∧ now < s.timer.deadline := by
  obtain ⟨hblocked, hlt⟩ := eq_blocked_of_observe h
  exact ⟨Lookahead.dry_of_read hblocked, hlt⟩

/-- A write under an idle timer is held up only by a full stream before its deadline. -/
theorem full_of_write (h : (s.write now bs).1 = .blocked) :
    s.stream.Full ∧ now < s.timer.deadline := by
  obtain ⟨hblocked, hlt⟩ := eq_blocked_of_observe h
  exact ⟨Lookahead.full_of_write hblocked, hlt⟩

/-- A write of something that is possible writes something. -/
theorem pos_of_write_ready {k : Nat} (hne : bs ≠ []) (h : (s.write now bs).1 = .ready k) :
    0 < k := by
  rw [write_eq] at h
  generalize hcame : (s.stream.write bs).1 = a at h
  cases a with
  | ready k' => exact Channel.pos_of_write_ready (c := s.stream.channel) hne (hcame.trans h)
  | failed f => cases h
  | blocked =>
    dsimp only [IdleTimer.observe, IdleTimer.expire] at h
    split at h <;> cases h

/-- Writing everything waits for a stream that is full by then, with something left over. -/
theorem full_of_writeAll (h : (s.writeAll now bs).1 = .blocked) :
    (s.writeAll now bs).2.1 ≠ [] ∧ (s.writeAll now bs).2.2.stream.Full ∧
      now < (s.writeAll now bs).2.2.timer.deadline := by
  unfold writeAll at h ⊢
  split at h
  · cases h
  · rename_i hne
    rw [if_neg hne]
    have hshort k s' (hready : s.write now bs = (.ready k, s')) := write_drop_of_short hready
    have hblocked (hb : (s.write now bs).1 = .blocked) := full_of_write hb
    have hsame (hf : s.stream.Full) : s.write now bs = (s.timer.expire now, s) :=
      write_of_full hf now fun hnil => hne (List.isEmpty_iff.2 hnil)
    rcases hw : s.write now bs with ⟨a, s'⟩
    rw [hw] at h hshort hblocked hsame
    cases a with
    | ready k =>
      by_cases hk : k < bs.length
      · -- A second write would have to wait.
        have hagain := hshort k s' rfl hk
        simp only [hk, if_true] at h ⊢
        have hwait : (s'.write now (bs.drop k)).1 = .blocked := by
          rw [hagain]
          unfold IdleTimer.expire at h ⊢
          split at h
          · cases h
          · rename_i hdue
            rw [if_neg hdue]
        refine ⟨?_, full_of_write hwait⟩
        rw [Ne, List.drop_eq_nil_iff]
        omega
      · simp only [hk, if_false] at h
        cases h
    | blocked =>
      obtain ⟨hfull, hlt⟩ := hblocked rfl
      have hs' : s' = s := congrArg Prod.snd (hsame hfull)
      rw [hs']
      exact ⟨fun hnil => hne (List.isEmpty_iff.2 hnil), hfull, hlt⟩
    | failed f => cases h

end IdleStream

/-! ### One half -/

namespace Half

variable {now span : Nat} {h h' : Half} {src src' dst dst' : IdleStream Lookahead}

/-- A half waits: the stream that it reads has nothing for it, or the one that it writes to has no
    room for what is left of a chunk. -/
def Blocked (h : Half) (src dst : Lookahead) : Prop :=
  match h.state with
  | .reading => src.Dry
  | .writing left _ => left ≠ [] ∧ dst.Full
  | .ended _ => False

/-- The stream that a half waits for when it waits. -/
def awaited (h : Half) (src dst : IdleStream Lookahead) : IdleStream Lookahead :=
  match h.state with
  | .writing _ _ => dst
  | _ => src

/-- A half waits for a stream whose idle deadline has not come. -/
def Stuck (now : Nat) (h : Half) (src dst : IdleStream Lookahead) : Prop :=
  h.Blocked src.stream dst.stream ∧ now < (h.awaited src dst).timer.deadline

/-- A blocked half has not ended. -/
theorem Blocked.hasEnded_eq {src dst : Lookahead} (hb : h.Blocked src dst) :
    h.hasEnded = false := by
  unfold Blocked at hb
  unfold hasEnded
  split at hb
  · rename_i hstate
    rw [hstate]
  · rename_i hstate
    rw [hstate]
  · exact hb.elim

/-- **A half that waits** goes on waiting until its deadline has come, and ends then. -/
theorem act_of_blocked (hb : h.Blocked src.stream dst.stream) (now : Nat) :
    h.act now src dst =
      if (h.awaited src dst).timer.deadline ≤ now then
        ({ h with state := .ended (some (.idle (h.awaited src dst).timer.span)) }, src, dst)
      else (h, src, dst) := by
  unfold Blocked at hb
  unfold awaited
  split at hb
  · rename_i hreading
    rw [act_of_reading hreading, read_of_dry hb, hreading]
    dsimp only [IdleTimer.expire]
    split <;> rfl
  · rename_i left size hwriting
    rw [act_of_writing hwriting hb.1, write_of_full hb.2 now hb.1, hwriting]
    dsimp only [IdleTimer.expire]
    split <;> rfl
  · exact hb.elim

/-- A half that reads on as before has to wait. -/
theorem blocked_of_afterRead {a : Attempt Bytes} (hreading : h.state = .reading)
    (hsame : h.afterRead a = h) : a = .blocked := by
  have hstate := congrArg Half.state hsame
  rw [hreading] at hstate
  cases a with
  | blocked => rfl
  | ready bs => cases bs <;> cases hstate
  | failed f => cases hstate

/-- A half that writes on as before has to wait, as a write that is possible leaves less. -/
theorem blocked_of_afterWrite {left : Bytes} {size : Nat} {a : Attempt Nat} (hne : left ≠ [])
    (hwriting : h.state = .writing left size) (hpos : ∀ k, a = .ready k → 0 < k)
    (hsame : h.afterWrite left size a = h) : a = .blocked := by
  have hstate := congrArg Half.state hsame
  rw [hwriting] at hstate
  cases a with
  | blocked => rfl
  | ready k =>
    have hk := hpos k rfl
    have hlen := List.length_pos_iff.2 hne
    unfold afterWrite at hstate
    dsimp only at hstate
    split at hstate
    · have hleft := congrArg List.length (HalfState.writing.inj hstate).1
      rw [List.length_drop] at hleft
      omega
    · cases hstate
  | failed f => cases hstate

/-- A half that runs and does not move is stuck. -/
theorem stuck_of_act (hopen : h.hasEnded = false) (hact : (h.act now src dst).1 = h) :
    h.Stuck now src dst := by
  unfold Stuck Blocked awaited
  have hacts := acts now h src dst
  generalize h.act now src dst = moved at hacts hact
  cases hacts with
  | read hstate =>
    rw [hstate]
    exact dry_of_read (blocked_of_afterRead hstate hact)
  | write hstate hne =>
    have hblocked := blocked_of_afterWrite hne hstate (fun k => pos_of_write_ready hne) hact
    obtain ⟨hroom, hlt⟩ := full_of_write hblocked
    rw [hstate]
    exact ⟨⟨hne, hroom⟩, hlt⟩
  | count hstate =>
    -- The chunk would have been counted.
    rw [← hact] at hstate
    cases hstate
  | rest hended =>
    rw [hopen] at hended
    cases hended

/-- A half that runs changes nothing just if it is stuck. -/
theorem act_eq_self_iff (hopen : h.hasEnded = false) :
    h.act now src dst = (h, src, dst) ↔ h.Stuck now src dst := by
  constructor
  · intro hact
    exact stuck_of_act hopen (congrArg Prod.fst hact)
  · rintro ⟨hb, hlt⟩
    rw [act_of_blocked hb, if_neg (Nat.not_le_of_lt hlt)]

/-- The other half reads where this one writes, and writes where this one reads.  Neither makes a
    half go on. -/
theorem Blocked.across {src src' dst dst' : Lookahead} {taken wrote : Bytes}
    (hb : h.Blocked src dst) (ht : dst.Took taken dst') (hw : src.Wrote wrote src') :
    h.Blocked src' dst' := by
  unfold Blocked at hb ⊢
  split at hb
  · exact hb.wrote hw
  · exact ⟨hb.1, hb.2.took ht⟩
  · exact hb.elim

/-- A half is blocked as much when its source is closed. -/
theorem Blocked.close_src {src dst : Lookahead} (hb : h.Blocked src dst) :
    h.Blocked src.close dst := by
  unfold Blocked at hb ⊢
  split at hb
  · exact hb.close
  · exact hb
  · exact hb.elim

/-- A half that is stuck stays so while the other half uses its streams the other way. -/
theorem Stuck.across {taken wrote : Bytes} (hs : h.Stuck now src dst)
    (ht : dst.stream.Took taken dst'.stream) (hw : src.stream.Wrote wrote src'.stream)
    (hsrc : Pushed now src src') (hdst : Pushed now dst dst')
    (hwound : src.timer.Wound span now ∧ dst.timer.Wound span now) : h.Stuck now src' dst' := by
  refine ⟨hs.1.across ht hw, ?_⟩
  have hlt := hs.2
  unfold awaited at hlt ⊢
  split at hlt
  · exact hdst.lt_deadline hwound.2 hlt
  · exact hsrc.lt_deadline hwound.1 hlt

/-- What one operation of a half does to its streams. -/
theorem flows_act (now : Nat) (h : Half) (src dst : IdleStream Lookahead) :
    ∃ taken wrote, src.stream.Took taken (h.act now src dst).2.1.stream ∧
      dst.stream.Wrote wrote (h.act now src dst).2.2.stream := by
  have hacts := acts now h src dst
  generalize h.act now src dst = moved at hacts ⊢
  cases hacts with
  | read => exact ⟨_, [], src.took_read now chunkSize, .refl _⟩
  | write => exact ⟨[], _, .refl _, dst.wrote_write now _⟩
  | count => exact ⟨[], [], .refl _, .refl _⟩
  | rest => exact ⟨[], [], .refl _, .refl _⟩

/-- An act of a half pushes timers or leaves them. -/
theorem pushed_act (now : Nat) (h : Half) (src dst : IdleStream Lookahead) :
    Pushed now src (h.act now src dst).2.1 ∧ Pushed now dst (h.act now src dst).2.2 := by
  have hacts := acts now h src dst
  generalize h.act now src dst = moved at hacts ⊢
  cases hacts with
  | read => exact ⟨src.pushed_read now chunkSize, .refl now dst⟩
  | write => exact ⟨.refl now src, dst.pushed_write now _⟩
  | count => exact ⟨.refl now src, .refl now dst⟩
  | rest => exact ⟨.refl now src, .refl now dst⟩

/-- A half has moved octets for as long as it could, and is `h'` now. -/
structure Spent (now : Nat) (h' : Half) (src src' dst dst' : IdleStream Lookahead) : Prop where
  stuck : h'.hasEnded = false → h'.Stuck now src' dst'
  pushed_src : Pushed now src src'
  pushed_dst : Pushed now dst dst'

/-- A half that writes a chunk waits for room then, has ended, or reads again. -/
theorem stuck_flush (now : Nat) (left : Bytes) (size : Nat) (h : Half)
    (src dst : IdleStream Lookahead)
    (hopen : (flush now left size h dst).1.hasEnded = false)
    (hne : (flush now left size h dst).1.state ≠ .reading) :
    (flush now left size h dst).1.Stuck now src (flush now left size h dst).2 := by
  have hfull (hb : (dst.writeAll now left).1 = .blocked) := full_of_writeAll hb
  unfold flush at hopen hne ⊢
  rcases hw : dst.writeAll now left with ⟨a, rest, dst'⟩
  rw [hw] at hopen hne hfull
  cases a with
  | ready u => exact absurd rfl hne
  | blocked =>
    obtain ⟨hrest, hroom, hlt⟩ := hfull rfl
    exact ⟨⟨hrest, hroom⟩, hlt⟩
  | failed f => cases hopen

/-- A flush pushes the timer of its stream or leaves it. -/
theorem pushed_flush (now : Nat) (left : Bytes) (size : Nat) (h : Half)
    (dst : IdleStream Lookahead) : Pushed now dst (flush now left size h dst).2 := by
  have hpushed := dst.pushed_writeAll now left
  unfold flush
  rcases hw : dst.writeAll now left with ⟨a, rest, dst'⟩
  rw [hw] at hpushed
  cases a <;> exact hpushed

/-- A half that has pumped all it can is stuck or has ended. -/
theorem spent_pump (now : Nat) (h : Half) (src dst : IdleStream Lookahead)
    (hstuck : h.hasEnded = false → h.state ≠ .reading → h.Stuck now src dst) :
    Spent now (pump now h src dst).1 src (pump now h src dst).2.1 dst
      (pump now h src dst).2.2 := by
  induction h, src, dst using pump.induct now with
  | case1 h src dst hreading src' hread =>
    have hpushed := src.pushed_read now chunkSize
    have hdry (hb : (src.read now chunkSize).1 = .blocked) := dry_of_read hb
    rw [hread] at hpushed hdry
    obtain ⟨hquiet, hlt⟩ := hdry rfl
    -- A read that has to wait leaves the stream as it is.
    have hsame := read_of_dry hquiet now chunkSize
    rw [hread] at hsame
    obtain rfl : src' = src := congrArg Prod.snd hsame
    rw [pump, hreading, hread]
    refine ⟨fun _ => ?_, hpushed, .refl now dst⟩
    rw [Stuck, Blocked, awaited, hreading]
    exact ⟨hquiet, hlt⟩
  | case2 h src dst hreading f src' hread =>
    have hpushed := src.pushed_read now chunkSize
    rw [hread] at hpushed
    rw [pump, hreading, hread]
    exact ⟨fun hopen => absurd hopen.symm Bool.false_ne_true, hpushed, .refl now dst⟩
  | case3 h src dst hreading src' hread =>
    have hpushed := src.pushed_read now chunkSize
    rw [hread] at hpushed
    rw [pump, hreading, hread]
    exact ⟨fun hopen => absurd hopen.symm Bool.false_ne_true, hpushed, .refl now dst⟩
  | case4 h src dst hreading b bs src' hread h' dst' hflush ih =>
    have hpushed := src.pushed_read now chunkSize
    rw [hread] at hpushed
    have hwrite := pushed_flush now (b :: bs) (b :: bs).length h dst
    have hwait := stuck_flush now (b :: bs) (b :: bs).length h src' dst
    rw [hflush] at hwrite hwait
    rw [pump, hreading, hread]
    simp only [hflush]
    have hrest := ih hwait
    exact ⟨hrest.stuck, hpushed.trans hrest.pushed_src, hwrite.trans hrest.pushed_dst⟩
  | case5 h src dst hne =>
    rw [pump_of_ne_reading hne]
    exact ⟨fun hopen => hstuck hopen hne, .refl now src, .refl now dst⟩

/-- **A half that moves octets** does so until it is stuck or has ended. -/
theorem spent_run (now : Nat) (h : Half) (src dst : IdleStream Lookahead) :
    Spent now (run now h src dst).1 src (run now h src dst).2.1 dst (run now h src dst).2.2 := by
  unfold run
  split
  · rename_i left size hwriting
    have hwrite := pushed_flush now left size h dst
    have hrest := spent_pump now _ src _ (stuck_flush now left size h src dst)
    exact ⟨hrest.stuck, hrest.pushed_src, hwrite.trans hrest.pushed_dst⟩
  · rename_i hne
    refine spent_pump now h src dst fun hopen hreading => ?_
    -- A half that neither reads nor writes has ended.
    unfold hasEnded at hopen
    cases hstate : h.state with
    | reading => exact absurd hstate hreading
    | writing left size => exact absurd hstate (hne left size)
    | ended f =>
      rw [hstate] at hopen
      cases hopen

/-- A half that is stuck moves nothing. -/
theorem run_of_stuck (hs : h.Stuck now src dst) : h.run now src dst = (h, src, dst) := by
  obtain ⟨hblocked, hahead⟩ := hs
  -- Before its deadline, an attempt that is held up is just that.
  have hwaits {α : Type} {t : IdleTimer} (hlt : now < t.deadline) :
      (t.expire now : Attempt α) = .blocked := if_neg (Nat.not_le_of_lt hlt)
  obtain ⟨moved, state⟩ := h
  cases state with
  | reading =>
    have hread : src.read now chunkSize = (.blocked, src) :=
      (read_of_dry hblocked now chunkSize).trans (congrArg (·, src) (hwaits hahead))
    rw [run, pump, hread]
  | writing left size =>
    obtain ⟨hne, hfull⟩ := hblocked
    have hwrite : dst.write now left = (.blocked, dst) :=
      (write_of_full hfull now hne).trans (congrArg (·, dst) (hwaits hahead))
    have hall : dst.writeAll now left = (.blocked, left, dst) := by
      rw [writeAll, List.isEmpty_eq_false_iff.2 hne, if_neg Bool.false_ne_true, hwrite]
    rw [run]
    dsimp only
    rw [flush, hall]
    exact pump_of_ne_reading (h := ⟨moved, .writing left size⟩) HalfState.noConfusion src dst
  | ended fault => exact hblocked.elim

end Half

end ForwardProxy
