import ForwardProxy.Proofs.Tunnel.Teardown

namespace ForwardProxy

/-!
# How exact the counters of a tunnel are

A half counts a chunk once all of it is written.  A half that ends while a chunk is partly written,
because the write fails, because a deadline comes or because the other half has ended, does not
count that part.  The counters are exact but for this.

* `Half.part` — how much of a chunk is written and not counted yet.
* `Half.Tallied`, `Half.tallied_act` — what a half has counted, and one operation of it.
* `TunnelRun.lost` — what a half had written of a chunk when it ended.
* `TunnelRun.CutShort`, `TunnelRun.lost_pos_iff` — a half has ended while a chunk was partly
  written.
* `TunnelRun.counted_iff` — that the counters are exact just if no half was cut short.
* `TunnelRun.counts_none_of_one` — a tunnel that has written an octet and counted none.
-/

namespace Half

variable {now : Nat} {h : Half} {src dst dst' : Lookahead} {base : Bytes}

/-- How many octets are written of the chunk that a half is writing. -/
def part (h : Half) : Nat := h.chunk - h.inflight.length

/-- What a half has written behind `base` is what it has counted, and a part of a chunk. -/
structure Tallied (base : Bytes) (h : Half) (dst : Lookahead) : Prop where
  fits : h.inflight.length ≤ h.chunk
  count : ∃ w, dst.channel.written = base ++ w ∧ w.length = h.moved + h.part

/-- A half that has ended is writing no chunk. -/
theorem part_of_hasEnded (hended : h.hasEnded = true) : h.part = 0 := by
  unfold hasEnded at hended
  unfold part chunk
  split at hended
  · rename_i hstate
    rw [hstate]
    exact Nat.zero_sub _
  · cases hended

/-- A read changes nothing that counts. -/
theorem Tallied.afterRead (ht : h.Tallied base dst) (hreading : h.state = .reading)
    (a : Attempt Bytes) :
    (h.afterRead a).moved = h.moved ∧ (h.afterRead a).Tallied base dst := by
  obtain ⟨-, w, hw, hcount⟩ := ht
  -- A half that reads holds nothing, so a chunk that it gets begins with nothing written of it.
  have hpart : h.part = 0 := by rw [part, chunk, hreading, Nat.zero_sub]
  rw [hpart] at hcount
  cases a with
  | ready bs =>
    cases bs with
    | nil => exact ⟨rfl, Nat.le_refl 0, w, hw, hcount⟩
    | cons b bs =>
      refine ⟨rfl, Nat.le_refl _, w, hw, ?_⟩
      rw [hcount]
      exact (congrArg (h.moved + ·) (Nat.sub_self _)).symm
  | blocked =>
    refine ⟨rfl, ?_, w, hw, ?_⟩
    · show h.inflight.length ≤ h.chunk
      rw [inflight, hreading]
      exact Nat.zero_le _
    · show w.length = h.moved + h.part
      rw [hcount, hpart]
  | failed f => exact ⟨rfl, Nat.le_refl 0, w, hw, hcount⟩

/-- A write adds to the part of the chunk that is written, or counts the chunk. -/
theorem Tallied.afterWrite {left : Bytes} {size : Nat} {a : Attempt Nat}
    (ht : h.Tallied base dst) (hwriting : h.state = .writing left size)
    (hw : dst.Wrote (a.wrote left) dst')
    (hopen : (h.afterWrite left size a).hasEnded = false) :
    (h.afterWrite left size a).Tallied base dst' := by
  obtain ⟨hfits, w, hwritten, hcount⟩ := ht
  rw [part, inflight, chunk, hwriting] at hcount
  rw [inflight, chunk, hwriting] at hfits
  have hwritten' : dst'.channel.written = base ++ (w ++ a.wrote left) := by
    rw [hw.written_eq, hwritten, List.append_assoc]
  dsimp only at hfits hcount
  cases a with
  | blocked =>
    refine ⟨?_, w, hwritten'.trans (congrArg (base ++ ·) (List.append_nil w)), ?_⟩
    · show h.inflight.length ≤ h.chunk
      rw [inflight, chunk, hwriting]
      exact hfits
    · show w.length = h.moved + h.part
      rw [hcount, part, inflight, chunk, hwriting]
  | failed f => cases hopen
  | ready k =>
    unfold Half.afterWrite
    -- A chunk is counted when all of it is written; until then the octets stand in the part.
    by_cases hk : k < left.length
    · have hdrop : (left.drop k).length = left.length - k := List.length_drop
      refine ⟨?_, _, hwritten', ?_⟩
      · simp only [hk, if_true, inflight, chunk]
        omega
      · simp only [hk, if_true, part, inflight, chunk, Attempt.wrote, List.length_append,
          List.length_take]
        omega
    · refine ⟨?_, _, hwritten', ?_⟩
      · simp only [hk, if_false, inflight, chunk]
        exact Nat.le_refl 0
      · simp only [hk, if_false, part, inflight, chunk, Attempt.wrote, List.length_append,
          List.length_take]
        omega

/-- A write that ends a half writes nothing. -/
theorem wrote_of_afterWrite {left : Bytes} {size : Nat} {a : Attempt Nat}
    (hopen : h.hasEnded = false) (hended : (h.afterWrite left size a).hasEnded = true) :
    a.wrote left = [] ∧ (h.afterWrite left size a).moved = h.moved := by
  cases a with
  | ready k =>
    simp only [Half.afterWrite] at hended
    split at hended <;> cases hended
  | blocked =>
    have hsame : h.afterWrite left size .blocked = h := rfl
    rw [hsame, hopen] at hended
    cases hended
  | failed f => exact ⟨rfl, rfl⟩

/-- **One operation** of a half that runs: what it has written is counted or a part of a chunk.  If
    the half ends, the operation has written nothing and counted nothing. -/
theorem tallied_act {src dst : IdleStream Lookahead} (hopen : h.hasEnded = false)
    (ht : h.Tallied base dst.stream) :
    ((h.act now src dst).1.hasEnded = false →
      (h.act now src dst).1.Tallied base (h.act now src dst).2.2.stream) ∧
    ((h.act now src dst).1.hasEnded = true →
      (h.act now src dst).2.2.stream.channel.written = dst.stream.channel.written ∧
        (h.act now src dst).1.moved = h.moved) := by
  have hacts := acts now h src dst
  generalize h.act now src dst = moved at hacts ⊢
  cases hacts with
  | read hstate =>
    obtain ⟨hmoved, htallied⟩ := ht.afterRead hstate (src.read now chunkSize).1
    exact ⟨fun _ => htallied, fun _ => ⟨rfl, hmoved⟩⟩
  | @write left size hstate hne =>
    have hwrote := dst.wrote_write now left
    refine ⟨ht.afterWrite hstate hwrote, fun hended => ?_⟩
    obtain ⟨hnone, hmoved⟩ := wrote_of_afterWrite hopen hended
    rw [hnone] at hwrote
    exact ⟨hwrote.written_eq.trans (List.append_nil _), hmoved⟩
  | count hstate =>
    -- A chunk of which nothing is left is done with before the next is read.
    obtain ⟨-, w, hw, hcount⟩ := ht
    refine ⟨fun _ => ⟨Nat.le_refl 0, w, hw, ?_⟩, nofun⟩
    rw [part, inflight, chunk, hstate] at hcount
    exact hcount
  | rest hended =>
    rw [hopen] at hended
    cases hended

end Half

namespace TunnelRun

variable {r : TunnelRun} {side : Side} {base : Bytes}

/-- How much the half that reads `side` had written of a chunk when it ended; none while it runs. -/
def lost (r : TunnelRun) (side : Side) : List Move → Nat
  | [] => 0
  | m :: ms =>
    if (r.half side).hasEnded = false ∧ ((r.move m).half side).hasEnded = true then
      (r.half side).part
    else lost (r.move m) side ms

/-- The half that reads `side` has ended while it had written a part of a chunk. -/
def CutShort (r : TunnelRun) (side : Side) (ms : List Move) : Prop :=
  ∃ before m after, ms = before ++ m :: after ∧ 0 < ((r.moves before).half side).part ∧
    (((r.moves before).move m).half side).hasEnded = true

/-- A half that has ended stays as it is. -/
theorem moves_of_hasEnded (hended : (r.half side).hasEnded = true) (ms : List Move) :
    (r.moves ms).half side = r.half side := by
  induction ms generalizing r with
  | nil => rfl
  | cons m ms ih => exact (ih (hasEnded_move hended m)).trans (half_move_of_ended hended m)

/-- Something was lost just if the half was cut short. -/
theorem lost_pos_iff (r : TunnelRun) (side : Side) (ms : List Move) :
    0 < r.lost side ms ↔ r.CutShort side ms := by
  induction ms generalizing r with
  | nil =>
    refine ⟨fun h => absurd h (Nat.lt_irrefl 0), ?_⟩
    rintro ⟨before, m, after, hms, -⟩
    cases before <;> cases hms
  | cons m ms ih =>
    rw [lost]
    by_cases hends : (r.half side).hasEnded = false ∧ ((r.move m).half side).hasEnded = true
    · rw [if_pos hends]
      refine ⟨fun hpart => ⟨[], m, ms, rfl, hpart, hends.2⟩, ?_⟩
      rintro ⟨before, m', after, hms, hpart, -⟩
      cases before with
      | nil => exact hpart
      | cons m'' before =>
        -- After this move the half has ended, and holds no part of a chunk.
        cases hms
        have hlater : (r.moves (m :: before)).half side = (r.move m).half side :=
          moves_of_hasEnded hends.2 before
        rw [hlater, Half.part_of_hasEnded hends.2] at hpart
        exact absurd hpart (Nat.lt_irrefl 0)
    · rw [if_neg hends, ih]
      constructor
      · rintro ⟨before, m', after, rfl, hrest⟩
        exact ⟨m :: before, m', after, rfl, hrest⟩
      · rintro ⟨before, m', after, hms, hpart, hended⟩
        cases before with
        | nil =>
          cases hms
          -- A half that holds a part of a chunk has not ended.
          refine absurd ⟨Bool.eq_false_iff.2 fun hover => ?_, hended⟩ hends
          rw [show ((r.moves []).half side).part = 0 from Half.part_of_hasEnded hover] at hpart
          exact Nat.lt_irrefl 0 hpart
        | cons m'' before =>
          cases hms
          exact ⟨before, m', after, rfl, hpart, hended⟩

/-- Only the half that writes to a side changes what is written there. -/
theorem written_move_of_ne {m : Move} (hm : m ≠ .act side) :
    ((r.move m).on side.other).stream.channel.written =
      (r.on side.other).stream.channel.written := by
  cases m with
  | act s =>
    -- The half of the other side reads from this stream, and reading writes nothing.
    rcases s.eq_or_eq_other side with rfl | rfl
    · exact absurd rfl hm
    · rw [move, Side.other_other, on_put]
      exact (goes_act r.now _ _ _).src_written
  | stop s =>
    rw [move]
    split
    · cases s <;> cases side <;> rfl
    · rfl
  | shut s =>
    rw [move]
    split
    · cases s <;> cases side <;> rfl
    · rfl
  | event e => exact (on_happen r e side.other).2

/-- **One move** of a tunnel, for a half that runs: what it has written is counted or a part of a
    chunk.  If the half ends, nothing was written or counted in the move. -/
theorem tallied_move (hopen : (r.half side).hasEnded = false)
    (ht : (r.half side).Tallied base (r.on side.other).stream) (m : Move) :
    (((r.move m).half side).hasEnded = false →
      ((r.move m).half side).Tallied base ((r.move m).on side.other).stream) ∧
    (((r.move m).half side).hasEnded = true →
      ((r.move m).on side.other).stream.channel.written =
          (r.on side.other).stream.channel.written ∧
        ((r.move m).half side).moved = (r.half side).moved) := by
  -- Only the half itself moves octets; any other move leaves it, or stops it where it is.
  by_cases hm : m = .act side
  · rw [hm, move, half_put, on_other_put]
    exact Half.tallied_act hopen ht
  · have hwritten := written_move_of_ne (r := r) hm
    refine ⟨fun hopen' => ?_, fun hended => ⟨hwritten, ?_⟩⟩
    · rw [half_move_of_open hm hopen']
      obtain ⟨hfits, w, hw, hcount⟩ := ht
      exact ⟨hfits, w, hwritten.trans hw, hcount⟩
    · rcases half_move (r := r) hm with hsame | hstop
      · rw [hsame]
      · rw [hstop, Half.stop]
        split <;> rfl

/-- **What a half has written** it has counted, but for a part of a chunk that it is writing or was
    writing when it ended. -/
theorem tallied_moves (hopen : (r.half side).hasEnded = false)
    (ht : (r.half side).Tallied base (r.on side.other).stream) (ms : List Move) :
    ∃ w, ((r.moves ms).on side.other).stream.channel.written = base ++ w ∧
      w.length = ((r.moves ms).half side).moved + ((r.moves ms).half side).part +
        r.lost side ms := by
  induction ms generalizing r with
  | nil => exact ht.count
  | cons m ms ih =>
    obtain ⟨hgoes, hends⟩ := tallied_move hopen ht m
    rw [lost]
    cases hended : ((r.move m).half side).hasEnded with
    | false =>
      rw [if_neg (fun h => Bool.false_ne_true h.2)]
      exact ih hended (hgoes hended)
    | true =>
      -- The half ends here: what it had written of its chunk is lost to the count, and nothing is
      -- written after.
      obtain ⟨hwritten, hmoved⟩ := hends hended
      obtain ⟨-, w, hw, hcount⟩ := ht
      have hhalf : (r.moves (m :: ms)).half side = (r.move m).half side :=
        moves_of_hasEnded hended ms
      have hstill : ((r.moves (m :: ms)).on side.other).stream.channel.written =
          ((r.move m).on side.other).stream.channel.written :=
        (unwritten_of_ended (by rw [Side.other_other]; exact hended) ms).written_eq
      rw [if_pos ⟨hopen, rfl⟩, hhalf, hmoved, Half.part_of_hasEnded hended]
      exact ⟨w, hstill.trans (hwritten.trans hw), hcount⟩

/-- A half that has just begun has written and counted nothing. -/
theorem tallied_opening (span begun : Nat) (turn : Turn) (ends : Ends) (side : Side) :
    (half (opening span begun turn ends) side).Tallied
      ((opening span begun turn ends).on side.other).stream.channel.written
      ((opening span begun turn ends).on side.other).stream := by
  have hfresh : half (opening span begun turn ends) side = .fresh := by cases side <;> rfl
  rw [hfresh]
  exact ⟨Nat.le_refl 0, [], (List.append_nil _).symm, rfl⟩

/-- **The counters of a finished tunnel are exact just if no half was cut short**, in whatever order
    its halves read and write, its streams change and time goes by.  What is missing is the part of
    a chunk that a half had written when it ended.  Letting a tunnel settle is one of these
    orders. -/
theorem counted_iff (span begun : Nat) (turn : Turn) (ends : Ends) :
    (∀ ms stats side, ((opening span begun turn ends).moves ms).tunnel.stats? = some stats →
      ∃ w, (((opening span begun turn ends).moves ms).on side.other).stream.channel.written =
          ((opening span begun turn ends).on side.other).stream.channel.written ++ w ∧
        w.length = stats.moved side + (opening span begun turn ends).lost side ms ∧
        (stats.moved side = w.length ↔ ¬(opening span begun turn ends).CutShort side ms)) ∧
    ∀ es, ∃ ms, (opening span begun turn ends).moves ms =
        (settle begun (opening span begun turn ends)).run es ∧
      ∀ side, ms.flatMap (Move.sent side) = es.flatMap (Event.sent side) := by
  constructor
  · intro ms stats side hstats
    have hopen : (half (opening span begun turn ends) side).hasEnded = false := by
      cases side <;> rfl
    obtain ⟨w, hw, hcount⟩ := tallied_moves hopen (tallied_opening span begun turn ends side) ms
    rw [Tunnel.stats?] at hstats
    split at hstats
    · rename_i hover
      obtain ⟨hup, hdown⟩ := Bool.and_eq_true_iff.1 hover
      have hended : (((opening span begun turn ends).moves ms).half side).hasEnded = true := by
        cases side
        · exact hup
        · exact hdown
      have hmoved : stats.moved side =
          (((opening span begun turn ends).moves ms).half side).moved := by
        rw [← Option.some.inj hstats]
        cases side <;> rfl
      -- The tunnel is over, so no chunk is being written: the counts differ by what was lost alone.
      rw [Half.part_of_hasEnded hended, Nat.add_zero, ← hmoved] at hcount
      refine ⟨w, hw, hcount, ?_⟩
      rw [← lost_pos_iff]
      omega
    · cases hstats
  · intro es
    have hsettle := reaches_settle (opening span begun turn ends)
    exact hsettle.trans (reaches_run (settle begun (opening span begun turn ends)) es)

/-- A target takes a chunk in two goes before its client closes: all three octets are counted. -/
theorem counted_of_two_goes :
    let r := opening (Duration.ofMillis 100) 0 ⟨true, true⟩
      ⟨.ofChannel (.idle none), .ofChannel (.idle (some 1))⟩
    let ms := [.event (.stream .client (.send (ascii "abc"))), .act .client, .act .client,
      .event (.stream .target (.widen (some 2))), .act .client,
      .event (.stream .client .finish), .act .client, .stop .target]
    (r.moves ms).tunnel.stats? = some ⟨3, 0, none⟩ ∧ ¬r.CutShort .client ms := by
  intro r ms
  have hstats : (r.moves ms).tunnel.stats? = some ⟨3, 0, none⟩ := by decide +kernel
  obtain ⟨w, hw, -, hiff⟩ := (counted_iff (Duration.ofMillis 100) 0 ⟨true, true⟩
    ⟨.ofChannel (.idle none), .ofChannel (.idle (some 1))⟩).1 ms _ .client hstats
  have hwritten : ((r.moves ms).on .target).stream.channel.written = ascii "abc" := by
    decide +kernel
  have hall : w = ascii "abc" := hw.symm.trans hwritten
  refine ⟨hstats, hiff.1 ?_⟩
  rw [hall]
  rfl

/-- **One octet written, none counted.**  A target that takes one octet of three closes. -/
theorem counts_none_of_one :
    let r := opening (Duration.ofMillis 100) 0 ⟨true, true⟩
      ⟨.ofChannel (.idle none), .ofChannel (.idle (some 1))⟩
    let es := [Event.stream .client (.send (ascii "abc")), .stream .target .finish]
    ((settle 0 r).run es).tunnel.stats? = some ⟨0, 0, none⟩ ∧
      (((settle 0 r).run es).on .target).stream.channel.written = ascii "a" := by
  intro r es
  exact ⟨by decide +kernel, by decide +kernel⟩

end TunnelRun

end ForwardProxy
