import ForwardProxy.Proofs.Stream.Contents
import ForwardProxy.Stream.Idle

namespace ForwardProxy

/-!
# What a stream is given

Octets that are written to a stream come behind those written before, and nothing else about the
stream changes but how much it still takes.  Reading and writing do not meet: neither shows in
what the other one does.

* `Lookahead.Wrote` — what a write does.
* `Lookahead.wrote_writeAll` — what is written and what is left make up what was to be written.
* `Lookahead.room_writeAll_of_blocked`, `Lookahead.writeFault_writeAll_of_failed` — what keeps
  octets from being written.
* `Channel.kept_apply` — what the other side does leaves what the program has done.
* `Lookahead.Follows.wrote`, `Lookahead.Took.written_eq` — reading and writing do not meet.
* `IdleStream.took_read`, `IdleStream.wrote_writeAll` — the same under an idle timer.
-/

namespace Channel

variable {c : Channel} {bs : Bytes}

/-- A write that leaves something over leaves no room. -/
theorem room_write_of_short {k : Nat} (h : (c.write bs).1 = .ready k) (hk : k < bs.length) :
    (c.write bs).2.room = some 0 := by
  unfold write at h ⊢
  split at h
  · cases h
  · rename_i hopen
    rw [if_neg hopen]
    split at h
    · cases h
    · cases h
      exact absurd hk (Nat.lt_irrefl _)
    · -- Only a channel with limited room takes less than it is given, and then all of its room is
      -- used.
      rename_i r hfault hroom
      split at h
      · cases h
      · rename_i hsome
        cases h
        rw [if_neg hsome]
        simp only [Option.some.injEq]
        omega

/-- A write is held up only where there is no room, and changes nothing. -/
theorem full_of_write (h : (c.write bs).1 = .blocked) :
    (c.write bs).2 = c ∧ c.room = some 0 ∧ c.writeFault = none ∧ c.shut = false := by
  unfold write at h ⊢
  split at h
  · cases h
  · rename_i hopen
    rw [if_neg hopen]
    split at h
    · cases h
    · cases h
    · rename_i r hfault hroom
      split at h
      · rename_i hnone
        rw [if_pos hnone]
        rw [Bool.and_eq_true, decide_eq_true_iff] at hnone
        exact ⟨rfl, by rw [hroom, hnone.1], hfault, Bool.eq_false_iff.2 hopen⟩
      · cases h

/-- A write that is held up has found no room. -/
theorem room_write_of_blocked (h : (c.write bs).1 = .blocked) : (c.write bs).2.room = some 0 := by
  obtain ⟨hsame, hroom, -, -⟩ := full_of_write h
  rw [hsame]
  exact hroom

/-- A write fails only because writes fail, unless the channel was shut. -/
theorem writeFault_write_of_failed {f : Fault} (hopen : c.shut = false)
    (h : (c.write bs).1 = .failed f) : (c.write bs).2.writeFault = some f := by
  unfold write at h ⊢
  rw [hopen, if_neg Bool.false_ne_true] at h ⊢
  split at h
  · rename_i hfault
    cases h
    rw [hfault]
  · cases h
  · split at h <;> cases h

/-- The other side has made `c'` of a channel: it can neither take back what the program has written
    nor open what it has shut, and writes that fail go on failing. -/
structure Kept (c c' : Channel) : Prop where
  written_eq : c'.written = c.written
  shut_eq : c'.shut = c.shut
  writeFault : c.writeFault.isSome = true → c'.writeFault.isSome = true

/-- What arrives leaves what the program has written. -/
theorem kept_arrive (a : Arrival) (c : Channel) : c.Kept (c.arrive a) := by
  unfold arrive
  split <;> exact ⟨rfl, rfl, id⟩

/-- **What the other side does** leaves what the program has done. -/
theorem kept_apply (e : Event) (c : Channel) : c.Kept (c.apply e) := by
  cases e with
  | send bs =>
    show c.Kept (if bs.isEmpty then c else c.arrive (.data bs))
    split
    · exact ⟨rfl, rfl, id⟩
    · exact kept_arrive _ c
  | failRead f => exact kept_arrive _ c
  | widen amount => cases amount <;> exact ⟨rfl, rfl, id⟩
  | finish => exact ⟨rfl, rfl, id⟩
  | failWrite f => exact ⟨rfl, rfl, fun _ => rfl⟩
  | hangUp => exact ⟨rfl, rfl, fun _ => rfl⟩

end Channel

/-- The octets that an attempt to write `bs` has written. -/
def Attempt.wrote (bs : Bytes) : Attempt Nat → Bytes
  | .ready k => bs.take k
  | _ => []

/-- What a write takes is the first of what it is given. -/
theorem Attempt.wrote_isPrefix (bs : Bytes) (a : Attempt Nat) : a.wrote bs <+: bs := by
  cases a with
  | ready k => exact List.take_prefix k bs
  | blocked => exact List.nil_prefix
  | failed f => exact List.nil_prefix

namespace Lookahead

variable {l l' m : Lookahead} {bs cs : Bytes}

/-- `bs` has been written to `l`, which leaves `l'`; nothing but the room has changed besides. -/
structure Wrote (l : Lookahead) (bs : Bytes) (l' : Lookahead) : Prop where
  channel_eq : l'.channel =
    { l.channel with written := l.channel.written ++ bs, room := l'.channel.room }
  ahead_eq : l'.ahead = l.ahead

theorem Wrote.refl (l : Lookahead) : l.Wrote [] l :=
  ⟨by rw [List.append_nil], rfl⟩

/-- What is written stands behind what was written before. -/
theorem Wrote.written_eq (h : l.Wrote bs l') : l'.channel.written = l.channel.written ++ bs := by
  rw [h.channel_eq]

/-- Writing leaves no empty chunk. -/
theorem Wrote.proper (h : l.Wrote bs l') (hp : l.Proper) : l'.Proper := by
  rw [Proper, h.channel_eq]
  exact hp

/-- Reading writes nothing. -/
theorem Took.written_eq (h : l.Took bs l') : l'.channel.written = l.channel.written := by
  rw [h.channel_eq]

/-- What is written does not change what is read. -/
theorem Follows.wrote {g : Lookahead} {taken : Bytes} (h : g.Follows taken l)
    (hw : l.Wrote bs l') : g.Follows taken l' where
  unread_eq := by
    rw [h.unread_eq, unread, unread, items, items, hw.ahead_eq, hw.channel_eq]
    rfl
  ended_eq := by
    rw [← h.ended_eq, hw.channel_eq]

/-- Closing a stream takes nothing from it. -/
theorem Follows.close {g : Lookahead} {taken : Bytes} (h : g.Follows taken l) :
    g.Follows taken l.close := ⟨h.unread_eq, h.ended_eq⟩

/-- What the other side does leaves what was written. -/
theorem written_apply (e : Channel.Event) (l : Lookahead) :
    (l.apply e).channel.written = l.channel.written :=
  (l.channel.kept_apply e).written_eq

/-- What the other side does in a row leaves what was written. -/
theorem written_applyAll (es : List Channel.Event) (l : Lookahead) :
    (l.applyAll es).channel.written = l.channel.written := by
  induction es generalizing l with
  | nil => rfl
  | cons e es ih => exact (ih (l.apply e)).trans (written_apply e l)

/-- Only the program shuts a stream. -/
theorem shut_apply (e : Channel.Event) (l : Lookahead) :
    (l.apply e).channel.shut = l.channel.shut :=
  (l.channel.kept_apply e).shut_eq

/-- Writes that fail go on failing. -/
theorem writeFault_apply (e : Channel.Event) (h : l.channel.writeFault.isSome = true) :
    (l.apply e).channel.writeFault.isSome = true :=
  (l.channel.kept_apply e).writeFault h

/-! ### Writing -/

/-- A write adds what it says, and nothing if it is not possible or fails. -/
theorem wrote_write (bs : Bytes) (l : Lookahead) :
    l.Wrote ((l.write bs).1.wrote bs) (l.write bs).2 := by
  refine ⟨?_, rfl⟩
  show (l.channel.write bs).2 = _
  unfold write Channel.write
  split
  · simp [Attempt.wrote]
  · split
    · simp [Attempt.wrote]
    · simp [Attempt.wrote]
    · split <;> simp [Attempt.wrote]

/-- A write of a whole is one write, and what it falls short by. -/
theorem write_writeAll (bs : Bytes) (l : Lookahead) :
    l.writeAll bs =
      if bs.isEmpty then (.ready (), [], l)
      else
        match l.write bs with
        | (.ready k, l) => if k < bs.length then (.blocked, bs.drop k, l) else (.ready (), [], l)
        | (.blocked, l) => (.blocked, bs, l)
        | (.failed f, l) => (.failed f, bs, l) := by
  unfold writeAll Channel.writeAll write
  by_cases hnil : bs.isEmpty
  · rw [if_pos hnil, if_pos hnil]
  · rw [if_neg hnil, if_neg hnil]
    rcases l.channel.write bs with ⟨a, c⟩
    cases a with
    | ready k => by_cases hk : k < bs.length <;> simp [hk]
    | blocked => rfl
    | failed f => rfl

/-- What was written of some octets, and what is left of them. -/
theorem take_append_left (k : Nat) (bs : Bytes) :
    bs = bs.take k ++ if k < bs.length then bs.drop k else [] := by
  by_cases hk : k < bs.length
  · rw [if_pos hk, List.take_append_drop]
  · rw [if_neg hk, List.append_nil, List.take_of_length_le (Nat.le_of_not_lt hk)]

/-- **Nothing is lost in writing:** what is written and what is left make up what was to be
    written. -/
theorem wrote_writeAll (bs : Bytes) (l : Lookahead) :
    ∃ w, bs = w ++ (l.writeAll bs).2.1 ∧ l.Wrote w (l.writeAll bs).2.2 ∧
      ((l.writeAll bs).1 = .ready () → (l.writeAll bs).2.1 = []) := by
  rw [write_writeAll]
  by_cases hnil : bs.isEmpty
  · rw [if_pos hnil]
    exact ⟨[], by rw [List.isEmpty_iff.1 hnil]; rfl, .refl l, fun _ => rfl⟩
  · rw [if_neg hnil]
    have hwrote := l.wrote_write bs
    rcases hw : l.write bs with ⟨a, l'⟩
    rw [hw] at hwrote
    cases a with
    | ready k =>
      -- There may have been room for some of the octets only.
      have hcut := take_append_left k bs
      by_cases hk : k < bs.length
      · simp only [hk, if_true] at hcut ⊢
        exact ⟨_, hcut, hwrote, nofun⟩
      · simp only [hk, if_false] at hcut ⊢
        exact ⟨_, hcut, hwrote, fun _ => trivial⟩
    | blocked => exact ⟨[], rfl, hwrote, nofun⟩
    | failed f => exact ⟨[], rfl, hwrote, nofun⟩

/-- A write to a stream that is held up has found no room. -/
theorem room_write_of_blocked (h : (l.write bs).1 = .blocked) :
    (l.write bs).2.channel.room = some 0 :=
  Channel.room_write_of_blocked h

/-- What is left over of some octets has no room. -/
theorem room_writeAll_of_blocked (h : (l.writeAll bs).1 = .blocked) :
    (l.writeAll bs).2.2.channel.room = some 0 := by
  unfold writeAll Channel.writeAll at h ⊢
  by_cases hnil : bs.isEmpty
  · rw [if_pos hnil] at h
    cases h
  · rw [if_neg hnil] at h ⊢
    -- A whole that is not written is held up at once or falls short; neither leaves any room.
    have hshort k (hk : (l.channel.write bs).1 = .ready k) := Channel.room_write_of_short hk
    have hblocked (hb : (l.channel.write bs).1 = .blocked) := Channel.room_write_of_blocked hb
    rcases hw : l.channel.write bs with ⟨a, c⟩
    rw [hw] at h hshort hblocked
    cases a with
    | ready k =>
      by_cases hk : k < bs.length
      · simp only [hk, if_true]
        exact hshort k rfl hk
      · simp [hk] at h
    | blocked => exact hblocked rfl
    | failed f => cases h

/-- A write of a whole to an open stream fails by the fault of its channel. -/
theorem writeFault_writeAll_of_failed {f : Fault} (hopen : l.channel.shut = false)
    (h : (l.writeAll bs).1 = .failed f) : (l.writeAll bs).2.2.channel.writeFault = some f := by
  unfold writeAll Channel.writeAll at h ⊢
  by_cases hnil : bs.isEmpty
  · rw [if_pos hnil] at h
    cases h
  · rw [if_neg hnil] at h ⊢
    have hfailed (hf : (l.channel.write bs).1 = .failed f) :=
      Channel.writeFault_write_of_failed hopen hf
    rcases hw : l.channel.write bs with ⟨a, c⟩
    rw [hw] at h hfailed
    cases a with
    | ready k =>
      by_cases hk : k < bs.length
      · simp [hk] at h
      · simp [hk] at h
    | blocked => cases h
    | failed f' =>
      cases h
      exact hfailed rfl

end Lookahead

/-! ### Under an idle timer -/

namespace IdleStream

/-- An idle timer does not change what was taken. -/
theorem observe_taken (now : Nat) (a : Attempt Bytes) (t : IdleTimer) :
    (t.observe now a).1.taken = a.taken := by
  cases a with
  | ready bs => rfl
  | blocked =>
    show (t.expire now : Attempt Bytes).taken = []
    unfold IdleTimer.expire
    split <;> rfl
  | failed f => rfl

/-- An idle timer does not change what was written. -/
theorem observe_wrote (now : Nat) (bs : Bytes) (a : Attempt Nat) (t : IdleTimer) :
    (t.observe now a).1.wrote bs = a.wrote bs := by
  cases a with
  | ready k => rfl
  | blocked =>
    show (t.expire now : Attempt Nat).wrote bs = []
    unfold IdleTimer.expire
    split <;> rfl
  | failed f => rfl

/-- A read under an idle timer takes from the stream what it answers. -/
theorem took_read (now n : Nat) (s : IdleStream Lookahead) :
    s.stream.Took (s.read now n).1.taken (s.read now n).2.stream := by
  show s.stream.Took (s.timer.observe now (s.stream.read n).1).1.taken (s.stream.read n).2
  rw [observe_taken]
  exact s.stream.took_read n

/-- A write under an idle timer writes to the stream what it answers. -/
theorem wrote_write (now : Nat) (bs : Bytes) (s : IdleStream Lookahead) :
    s.stream.Wrote ((s.write now bs).1.wrote bs) (s.write now bs).2.stream := by
  show s.stream.Wrote ((s.timer.observe now (s.stream.write bs).1).1.wrote bs)
    (s.stream.write bs).2
  rw [observe_wrote]
  exact s.stream.wrote_write bs

/-- Nothing is lost in writing, even if the timer runs out. -/
theorem wrote_writeAll (now : Nat) (bs : Bytes) (s : IdleStream Lookahead) :
    ∃ w, bs = w ++ (s.writeAll now bs).2.1 ∧
      s.stream.Wrote w (s.writeAll now bs).2.2.stream ∧
      ((s.writeAll now bs).1 = .ready () → (s.writeAll now bs).2.1 = []) := by
  unfold writeAll
  by_cases hnil : bs.isEmpty
  · rw [if_pos hnil]
    exact ⟨[], by rw [List.isEmpty_iff.1 hnil]; rfl, .refl _, fun _ => rfl⟩
  · rw [if_neg hnil]
    have hwrote := s.wrote_write now bs
    rcases hw : s.write now bs with ⟨a, s'⟩
    rw [hw] at hwrote
    cases a with
    | ready k =>
      have hcut := Lookahead.take_append_left k bs
      by_cases hk : k < bs.length
      · simp only [hk, if_true] at hcut ⊢
        -- Whether the rest waits or fails is for the timer to say; it is not written either way.
        refine ⟨_, hcut, hwrote, ?_⟩
        unfold IdleTimer.expire
        split <;> exact nofun
      · simp only [hk, if_false] at hcut ⊢
        exact ⟨_, hcut, hwrote, fun _ => trivial⟩
    | blocked => exact ⟨[], rfl, hwrote, nofun⟩
    | failed f => exact ⟨[], rfl, hwrote, nofun⟩

end IdleStream

end ForwardProxy
