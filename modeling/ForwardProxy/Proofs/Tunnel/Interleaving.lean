import ForwardProxy.Proofs.Tunnel.Record

namespace ForwardProxy

/-!
# The two halves interleaved

The halves of a tunnel are tasks of their own: between two operations of one of them the other may
do anything, the streams may change, and time may go by.  Here a half does one operation at a time,
in any order with everything else.  Letting a tunnel settle is one of these orders.

* `Half.act` — the next operation of a half, or the end of a chunk that is written.
* `Half.Acts`, `Half.acts` — all that such an operation may be.
* `TunnelRun.Move`, `TunnelRun.move` — one move of a tunnel; a move that is not possible is none.
* `TunnelRun.moves` — any number of moves, in any order.
* `TunnelRun.Reaches` — where moves lead to, with what the two sides do meanwhile.
* `TunnelRun.reaches_settle`, `TunnelRun.reaches_run` — a tunnel that settles, and one that runs, is
  a tunnel that moves.
-/

namespace Half

/-- A half that was reading, after what the read came to. -/
def afterRead (h : Half) : Attempt Bytes → Half
  | .blocked => h
  | .failed f => { h with state := .ended (some f) }
  | .ready [] => { h with state := .ended none }
  | .ready (b :: bs) => { h with state := .writing (b :: bs) (b :: bs).length }

/-- A half that was writing what is left of a chunk of `size` octets, after what the write came
    to. -/
def afterWrite (left : Bytes) (size : Nat) (h : Half) : Attempt Nat → Half
  | .blocked => h
  | .failed f => { h with state := .ended (some f) }
  | .ready k =>
    if k < left.length then { h with state := .writing (left.drop k) size }
    else ⟨h.moved + size, .reading⟩

/-- Reads once or writes once, and nothing more. -/
def act (now : Nat) (h : Half) (src dst : IdleStream Lookahead) :
    Half × IdleStream Lookahead × IdleStream Lookahead :=
  match h.state with
  | .reading =>
    let (result, src) := src.read now chunkSize
    (h.afterRead result, src, dst)
  | .writing left size =>
    if left.isEmpty then (⟨h.moved + size, .reading⟩, src, dst)
    else
      let (result, dst) := dst.write now left
      (h.afterWrite left size result, src, dst)
  | .ended _ => (h, src, dst)

variable {now : Nat} {h : Half}

/-- A half that reads takes a chunk from its source, or finds it dry, ended or failing. -/
theorem act_of_reading (hreading : h.state = .reading) (src dst : IdleStream Lookahead) :
    h.act now src dst =
      (h.afterRead (src.read now chunkSize).1, (src.read now chunkSize).2, dst) := by
  rw [act, hreading]

/-- A half that writes gives its reader what is left of its chunk, or as much as that takes. -/
theorem act_of_writing {left : Bytes} {size : Nat} (hwriting : h.state = .writing left size)
    (hne : left ≠ []) (src dst : IdleStream Lookahead) :
    h.act now src dst =
      (h.afterWrite left size (dst.write now left).1, src, (dst.write now left).2) := by
  rw [act, hwriting]
  exact if_neg fun hnil => hne (List.isEmpty_iff.1 hnil)

/-- A chunk that is written is counted. -/
theorem act_of_written {size : Nat} (hwriting : h.state = .writing [] size)
    (src dst : IdleStream Lookahead) :
    h.act now src dst = (⟨h.moved + size, .reading⟩, src, dst) := by
  rw [act, hwriting]
  rfl

/-- A half that has ended does nothing. -/
theorem act_of_hasEnded (hended : h.hasEnded = true) (src dst : IdleStream Lookahead) :
    h.act now src dst = (h, src, dst) := by
  unfold hasEnded at hended
  unfold act
  split at hended
  · rename_i hstate
    rw [hstate]
  · cases hended

/-- What one operation of a half may be, with the half and its two streams as they are then. -/
inductive Acts (now : Nat) (h : Half) (src dst : IdleStream Lookahead) :
    Half × IdleStream Lookahead × IdleStream Lookahead → Prop
  | read (reading : h.state = .reading) :
    Acts now h src dst (h.afterRead (src.read now chunkSize).1, (src.read now chunkSize).2, dst)
  | write {left : Bytes} {size : Nat} (writing : h.state = .writing left size) (hne : left ≠ []) :
    Acts now h src dst
      (h.afterWrite left size (dst.write now left).1, src, (dst.write now left).2)
  | count {size : Nat} (written : h.state = .writing [] size) :
    Acts now h src dst (⟨h.moved + size, .reading⟩, src, dst)
  | rest (ended : h.hasEnded = true) : Acts now h src dst (h, src, dst)

/-- A half reads, writes, counts what it has written, or has ended. -/
theorem acts (now : Nat) (h : Half) (src dst : IdleStream Lookahead) :
    Acts now h src dst (h.act now src dst) := by
  cases hstate : h.state with
  | reading =>
    rw [act_of_reading hstate]
    exact .read hstate
  | writing left size =>
    cases left with
    | nil =>
      rw [act_of_written hstate]
      exact .count hstate
    | cons b bs =>
      rw [act_of_writing hstate (List.cons_ne_nil b bs)]
      exact .write hstate (List.cons_ne_nil b bs)
  | ended f =>
    have hended : h.hasEnded = true := by rw [hasEnded, hstate]
    rw [act_of_hasEnded hended]
    exact .rest hended

end Half

namespace TunnelRun

/-- The other side is another one. -/
theorem Side.other_ne (side : Side) : side.other ≠ side := by cases side <;> nofun

/-- What holds of a side and of the one across holds of both. -/
theorem Side.all (side : Side) {P : Side → Prop} (h : P side) (h' : P side.other) (s : Side) :
    P s := by
  cases side <;> cases s <;> assumption

/-- A side is this one or the other. -/
theorem Side.eq_or_eq_other (side s : Side) : s = side ∨ s = side.other := by
  cases side <;> cases s <;> simp [other]

/-! ### Moves -/

/-- The half that reads a side, and writes to the side across. -/
def half (r : TunnelRun) (side : Side) : Half := r.tunnel.half side

/-- A tunnel with the half that reads a side put in its place, the stream that it reads, and the
    one that it writes to. -/
def put (r : TunnelRun) :
    Side → Half × IdleStream Lookahead × IdleStream Lookahead → TunnelRun
  | .client, (h, src, dst) =>
    { r with
      tunnel := { r.tunnel with up := h, clientTimer := src.timer, targetTimer := dst.timer }
      ends := ⟨src.stream, dst.stream⟩ }
  | .target, (h, src, dst) =>
    { r with
      tunnel := { r.tunnel with down := h, targetTimer := src.timer, clientTimer := dst.timer }
      ends := ⟨dst.stream, src.stream⟩ }

/-- What an event changes by itself, before any half moves. -/
def happen (r : TunnelRun) : Event → TunnelRun
  | .stream .client e => { r with ends.client := r.ends.client.apply e }
  | .stream .target e => { r with ends.target := r.ends.target.apply e }
  | .wait span => { r with now := r.now + span }
  | .reorder turn => { r with tunnel.turn := turn }

/-- One move of a tunnel. -/
inductive Move where
  /-- The half that reads a side reads or writes once. -/
  | act (side : Side)
  /-- The half that reads a side is stopped, as the other one has ended. -/
  | stop (side : Side)
  /-- The half that reads a side has ended and shuts the stream that it was writing to. -/
  | shut (side : Side)
  | event (event : Event)
  deriving DecidableEq, Repr

/-- A tunnel after one move. -/
def move (r : TunnelRun) : Move → TunnelRun
  | .act side => r.put side ((r.half side).act r.now (r.on side) (r.on side.other))
  | .stop side =>
    if (r.half side.other).hasEnded then
      r.put side ((r.half side).stop, r.on side, r.on side.other)
    else r
  | .shut side =>
    if (r.half side).hasEnded then r.put side (r.half side, r.on side, (r.on side.other).close)
    else r
  | .event e => r.happen e

/-- A tunnel after any number of moves. -/
def moves (r : TunnelRun) (ms : List Move) : TunnelRun := ms.foldl move r

/-- What a side does because of an event. -/
def Event.sent (side : Side) : Event → List Channel.Event
  | .stream s e => if s = side then [e] else []
  | _ => []

/-- What a side does in a move. -/
def Move.sent (side : Side) : Move → List Channel.Event
  | .event e => e.sent side
  | _ => []

/-- From `r` some moves lead to `r'`, in which each side does what `sent` tells. -/
def Reaches (r : TunnelRun) (sent : Side → List Channel.Event) (r' : TunnelRun) : Prop :=
  ∃ ms, r.moves ms = r' ∧ ∀ side, ms.flatMap (Move.sent side) = sent side

section

variable {r : TunnelRun} {side : Side}
  {p q : Half × IdleStream Lookahead × IdleStream Lookahead}

/-- Replacing a half takes no time. -/
@[simp] theorem now_put : (r.put side p).now = r.now := by cases side <;> rfl

/-- The half that was put is there. -/
@[simp] theorem half_put : (r.put side p).half side = p.1 := by cases side <;> rfl

/-- The half of the other side stays. -/
@[simp] theorem half_other_put : (r.put side p).half side.other = r.half side.other := by
  cases side <;> rfl

/-- The stream that was put is there. -/
@[simp] theorem on_put : (r.put side p).on side = p.2.1 := by cases side <;> rfl

/-- The stream of the other side that was put is there. -/
@[simp] theorem on_other_put : (r.put side p).on side.other = p.2.2 := by cases side <;> rfl

/-- What is put last counts. -/
@[simp] theorem put_put : (r.put side p).put side q = r.put side q := by cases side <;> rfl

/-- Putting what is there changes nothing. -/
@[simp] theorem put_self : r.put side (r.half side, r.on side, r.on side.other) = r := by
  cases side <;> rfl

end

namespace Reaches

variable {r r' r'' : TunnelRun} {sent sent' : Side → List Channel.Event}

theorem refl (r : TunnelRun) : r.Reaches (fun _ => []) r := ⟨[], rfl, fun _ => rfl⟩

/-- One move reaches what it leads to. -/
theorem one (r : TunnelRun) (m : Move) : r.Reaches (fun side => m.sent side) (r.move m) :=
  ⟨[m], rfl, fun _ => List.append_nil _⟩

theorem trans (h : r.Reaches sent r') (h' : r'.Reaches sent' r'') :
    r.Reaches (fun side => sent side ++ sent' side) r'' := by
  obtain ⟨ms, rfl, hsent⟩ := h
  obtain ⟨ms', rfl, hsent'⟩ := h'
  refine ⟨ms ++ ms', List.foldl_append, fun side => ?_⟩
  rw [List.flatMap_append, hsent, hsent']

/-- Some moves, and more moves in which the sides do nothing. -/
theorem andThen (h : r.Reaches sent r') (h' : r'.Reaches (fun _ => []) r'') :
    r.Reaches sent r'' := by
  have hboth := h.trans h'
  simpa only [List.append_nil] using hboth

end Reaches

end TunnelRun

/-! ### Writing in two goes -/

/-- A write that leaves something over leaves no room for it. -/
theorem Channel.write_drop_of_short {c c' : Channel} {bs : Bytes} {k : Nat}
    (h : c.write bs = (.ready k, c')) (hk : k < bs.length) :
    c'.write (bs.drop k) = (.blocked, c') := by
  have hroom : c'.room = some 0 := by
    have hshort (hw : (c.write bs).1 = .ready k) := Channel.room_write_of_short hw hk
    rw [h] at hshort
    exact hshort rfl
  have hrest : (bs.drop k).isEmpty = false := by
    rw [List.isEmpty_eq_false_iff, Ne, List.drop_eq_nil_iff]
    omega
  -- The first write has succeeded, so the channel is neither shut nor failing: it is full.
  have hopen : c'.shut = false ∧ c'.writeFault = none := by
    unfold write at h
    split at h
    · cases h
    · rename_i hshut
      split at h
      · cases h
      · rename_i hfault _
        cases h
        exact ⟨Bool.eq_false_iff.2 hshut, hfault⟩
      · rename_i hfault _
        split at h <;> cases h
        exact ⟨Bool.eq_false_iff.2 hshut, hfault⟩
  unfold write
  rw [hopen.1, if_neg Bool.false_ne_true, hopen.2, hroom, hrest]
  rfl

/-- What a write falls short by is held up. -/
theorem Lookahead.write_drop_of_short {l l' : Lookahead} {bs : Bytes} {k : Nat}
    (h : l.write bs = (.ready k, l')) (hk : k < bs.length) :
    l'.write (bs.drop k) = (.blocked, l') := by
  unfold write at h
  rcases hw : l.channel.write bs with ⟨a, c⟩
  rw [hw] at h
  cases h
  unfold write
  rw [Channel.write_drop_of_short hw hk]

namespace IdleStream

variable {now n k : Nat} {s s' : IdleStream Lookahead} {bs : Bytes}

/-- A read under an idle timer is a read of the stream, observed. -/
theorem read_eq (now n : Nat) (s : IdleStream Lookahead) :
    s.read now n = ((s.timer.observe now (s.stream.read n).1).1,
      ⟨(s.stream.read n).2, (s.timer.observe now (s.stream.read n).1).2⟩) := rfl

/-- A write under an idle timer is a write to the stream, observed. -/
theorem write_eq (now : Nat) (bs : Bytes) (s : IdleStream Lookahead) :
    s.write now bs = ((s.timer.observe now (s.stream.write bs).1).1,
      ⟨(s.stream.write bs).2, (s.timer.observe now (s.stream.write bs).1).2⟩) := rfl

/-- What a write under an idle timer falls short by waits for the deadline. -/
theorem write_drop_of_short (h : s.write now bs = (.ready k, s')) (hk : k < bs.length) :
    s'.write now (bs.drop k) = (s'.timer.expire now, s') := by
  rw [write_eq] at h
  rcases hw : s.stream.write bs with ⟨a, l⟩
  rw [hw] at h
  cases a with
  | ready k' =>
    cases h
    rw [write_eq, Lookahead.write_drop_of_short hw hk]
    rfl
  | blocked =>
    dsimp only [IdleTimer.observe, IdleTimer.expire] at h
    split at h <;> cases h
  | failed f => cases h

end IdleStream

/-! ### One half -/

namespace TunnelRun

section

variable {r : TunnelRun} {side : Side} {h : Half} {src dst : IdleStream Lookahead}

/-- One operation of a half. -/
theorem reaches_act (r : TunnelRun) (side : Side) (h : Half) (src dst : IdleStream Lookahead) :
    (r.put side (h, src, dst)).Reaches (fun _ => []) (r.put side (h.act r.now src dst)) := by
  have hmove : (r.put side (h, src, dst)).move (.act side) = r.put side (h.act r.now src dst) := by
    simp only [move, half_put, on_put, on_other_put, now_put, put_put]
  rw [← hmove]
  exact .one _ _

/-- What is left of a chunk is written by one write, or by two if there is room for a part of it:
    the second one finds no more room. -/
theorem reaches_flush (r : TunnelRun) (side : Side) {left : Bytes} {size : Nat}
    (hwriting : h.state = .writing left size) (src dst : IdleStream Lookahead) :
    (r.put side (h, src, dst)).Reaches (fun _ => [])
      (r.put side ((h.flush r.now left size dst).1, src, (h.flush r.now left size dst).2)) := by
  have hact := reaches_act r side h src dst
  unfold Half.flush IdleStream.writeAll
  cases left with
  | nil =>
    rw [Half.act_of_written hwriting] at hact
    exact hact
  | cons b bs =>
    rw [Half.act_of_writing hwriting (List.cons_ne_nil b bs)] at hact
    rw [List.isEmpty_cons, if_neg Bool.false_ne_true]
    rcases hw : dst.write r.now (b :: bs) with ⟨a, dst'⟩
    rw [hw] at hact
    cases a with
    | ready k =>
      by_cases hk : k < (b :: bs).length
      · simp only [Half.afterWrite, hk, if_true] at hact ⊢
        have hrest : (b :: bs).drop k ≠ [] := by
          rw [Ne, List.drop_eq_nil_iff]
          omega
        have hagain :=
          reaches_act r side { h with state := .writing ((b :: bs).drop k) size } src dst'
        rw [Half.act_of_writing rfl hrest, IdleStream.write_drop_of_short hw hk] at hagain
        -- Whether the second write waits or fails is for the timer to say.
        unfold IdleTimer.expire at hagain ⊢
        split at hagain
        · rename_i hdue
          rw [if_pos hdue]
          exact hact.andThen hagain
        · rename_i hdue
          rw [if_neg hdue]
          exact hact.andThen hagain
      · simp only [Half.afterWrite, hk, if_false] at hact ⊢
        exact hact
    | blocked =>
      have hsame : { h with state := .writing (b :: bs) size } = h := by rw [← hwriting]
      dsimp only
      rw [hsame]
      exact hact
    | failed f => exact hact

/-- A half that moves octets until nothing more can be moved does one operation after the other. -/
theorem reaches_pump (r : TunnelRun) (side : Side) (h : Half) (src dst : IdleStream Lookahead) :
    (r.put side (h, src, dst)).Reaches (fun _ => []) (r.put side (h.pump r.now src dst)) := by
  induction h, src, dst using Half.pump.induct r.now with
  | case1 h src dst hreading src' hread
  | case2 h src dst hreading f src' hread
  | case3 h src dst hreading src' hread =>
    -- The half stops after this read, whatever it comes to.
    have hact := reaches_act r side h src dst
    rw [Half.act_of_reading hreading, hread] at hact
    rw [Half.pump, hreading, hread]
    exact hact
  | case4 h src dst hreading b bs src' hread h' dst' hflush ih =>
    have hact := reaches_act r side h src dst
    rw [Half.act_of_reading hreading, hread] at hact
    -- The chunk that the half has read now is the one that it writes next.
    have hwrite := reaches_flush r side (h := h.afterRead (.ready (b :: bs))) rfl src' dst
    have hsame : (h.afterRead (.ready (b :: bs))).flush r.now (b :: bs) (b :: bs).length dst =
        (h', dst') := hflush
    rw [hsame] at hwrite
    rw [Half.pump, hreading, hread]
    simp only [hflush]
    exact (hact.andThen hwrite).andThen ih
  | case5 h src dst hne =>
    rw [Half.pump_of_ne_reading hne]
    exact .refl _

/-- **A half that is let move** does one operation after the other. -/
theorem reaches_half (r : TunnelRun) (side : Side) :
    r.Reaches (fun _ => [])
      (r.put side ((r.half side).run r.now (r.on side) (r.on side.other))) := by
  unfold Half.run
  split
  · rename_i left size hwriting
    have hwrite := reaches_flush r side hwriting (r.on side) (r.on side.other)
    rw [put_self] at hwrite
    exact hwrite.andThen (reaches_pump r side _ _ _)
  · have hpump := reaches_pump r side (r.half side) (r.on side) (r.on side.other)
    rw [put_self] at hpump
    exact hpump

/-- A half that has ended by then shuts the stream that it was writing to. -/
theorem reaches_shut (r : TunnelRun) (side : Side) (h : Half) (src dst : IdleStream Lookahead) :
    (r.put side (h, src, dst)).Reaches (fun _ => [])
      (r.put side (h, src, if h.hasEnded then dst.close else dst)) := by
  cases hended : h.hasEnded with
  | false => exact .refl _
  | true =>
    have hmove : (r.put side (h, src, dst)).move (.shut side) = r.put side (h, src, dst.close) := by
      simp only [move, half_put, hended, if_true, on_put, on_other_put, put_put]
    rw [if_pos rfl, ← hmove]
    exact .one _ _

end

/-! ### Both halves -/

section

variable {now : Nat} {t : Tunnel} {e : Ends}

/-- A half up that runs as far as it can does so move by move. -/
theorem reaches_runUp (now : Nat) (t : Tunnel) (e : Ends) :
    Reaches ⟨now, t, e⟩ (fun _ => []) ⟨now, (t.runUp now e).1, (t.runUp now e).2⟩ :=
  (reaches_half ⟨now, t, e⟩ .client).andThen (reaches_shut _ .client _ _ _)

/-- A half down that runs as far as it can does so move by move. -/
theorem reaches_runDown (now : Nat) (t : Tunnel) (e : Ends) :
    Reaches ⟨now, t, e⟩ (fun _ => []) ⟨now, (t.runDown now e).1, (t.runDown now e).2⟩ :=
  (reaches_half ⟨now, t, e⟩ .target).andThen (reaches_shut _ .target _ _ _)

/-- A half whose other half has ended is stopped, and shuts the stream that it was writing to. -/
theorem reaches_stop (r : TunnelRun) (side : Side) (hended : (r.half side.other).hasEnded = true) :
    r.Reaches (fun _ => [])
      (r.put side ((r.half side).stop, r.on side, (r.on side.other).close)) := by
  have hmove : r.move (.stop side) =
      r.put side ((r.half side).stop, r.on side, r.on side.other) := if_pos hended
  have hshut := reaches_shut r side (r.half side).stop (r.on side) (r.on side.other)
  rw [(r.half side).stop_spec.1, if_pos rfl] at hshut
  rw [← hmove] at hshut
  exact (Reaches.one r (.stop side)).andThen hshut

/-- The half up may be stopped once the half down has ended. -/
theorem reaches_stopUp (now : Nat) (hended : t.down.hasEnded = true) (e : Ends) :
    Reaches ⟨now, t, e⟩ (fun _ => []) ⟨now, (t.stopUp e).1, (t.stopUp e).2⟩ :=
  reaches_stop ⟨now, t, e⟩ .client hended

/-- The half down may be stopped once the half up has ended. -/
theorem reaches_stopDown (now : Nat) (hended : t.up.hasEnded = true) (e : Ends) :
    Reaches ⟨now, t, e⟩ (fun _ => []) ⟨now, (t.stopDown e).1, (t.stopDown e).2⟩ :=
  reaches_stop ⟨now, t, e⟩ .target hended

/-- A tunnel that settles, the half up first, does so move by move. -/
theorem reaches_settleUpFirst (now : Nat) (t : Tunnel) (e : Ends) :
    Reaches ⟨now, t, e⟩ (fun _ => [])
      ⟨now, (t.settleUpFirst now e).1, (t.settleUpFirst now e).2⟩ := by
  have hup := reaches_runUp now t e
  have hdown := hup.andThen (reaches_runDown now (t.runUp now e).1 (t.runUp now e).2)
  -- The half that ends first is fixed before the other is stopped; running the half down does not
  -- touch the half up.
  have hstays := Tunnel.runDown_up now (t.runUp now e).1 (t.runUp now e).2
  have hcases := Tunnel.settleUpFirst_cases now t e
  generalize t.settleUpFirst now e = settled at hcases ⊢
  cases hcases with
  | upEndedLate hended =>
    exact hdown.andThen (reaches_stopDown now (by rw [hstays]; exact hended) _)
  | upEnded hended => exact hup.andThen (reaches_stopDown now hended _)
  | downEnded _ hended => exact hdown.andThen (reaches_stopUp now hended _)
  | going => exact hdown

end

/-- A tunnel with its two sides changed over. -/
def swap (r : TunnelRun) : TunnelRun := ⟨r.now, r.tunnel.swap, r.ends.swap⟩

/-- A move of a tunnel with its two sides changed over. -/
def Move.swap : Move → Move
  | .act side => .act side.other
  | .stop side => .stop side.other
  | .shut side => .shut side.other
  | .event (.stream side e) => .event (.stream side.other e)
  | .event e => .event e

/-- A move with the sides changed over is the move of the other side. -/
theorem swap_move (r : TunnelRun) (m : Move) : (r.move m).swap = r.swap.move m.swap := by
  cases m with
  | act side => cases side <;> rfl
  | stop side => cases side <;> exact apply_ite swap _ _ _
  | shut side => cases side <;> exact apply_ite swap _ _ _
  | event e =>
    cases e with
    | stream side e => cases side <;> rfl
    | wait span => rfl
    | reorder turn => rfl

/-- Moves with the sides changed over are the moves of the other side. -/
theorem swap_moves (r : TunnelRun) (ms : List Move) :
    (r.moves ms).swap = r.swap.moves (ms.map Move.swap) := by
  induction ms generalizing r with
  | nil => rfl
  | cons m ms ih =>
    show ((r.move m).moves ms).swap = (r.swap.move m.swap).moves (ms.map Move.swap)
    rw [ih, swap_move]

/-- What a side sends in a move, the other one sends when the sides are changed over. -/
theorem Move.sent_swap (side : Side) (m : Move) : m.swap.sent side = m.sent side.other := by
  cases m with
  | event e =>
    cases e with
    | stream s e => cases s <;> cases side <;> rfl
    | wait span => rfl
    | reorder turn => rfl
  | _ => rfl

/-- What is reached is reached with the sides changed over. -/
theorem Reaches.swap {r r' : TunnelRun} {sent : Side → List Channel.Event}
    (h : r.Reaches sent r') : r.swap.Reaches (fun side => sent side.other) r'.swap := by
  obtain ⟨ms, rfl, hsent⟩ := h
  refine ⟨ms.map Move.swap, (swap_moves r ms).symm, fun side => ?_⟩
  show _ = sent side.other
  rw [List.flatMap_map, ← hsent side.other]
  exact congrArg ms.flatMap (funext (Move.sent_swap side))

/-- **A tunnel that settles** lets its halves do one operation after the other. -/
theorem reaches_settle (r : TunnelRun) : r.Reaches (fun _ => []) (settle r.now r) := by
  cases hover : r.tunnel.isOver with
  | true =>
    have hsame : settle r.now r = r := Settling.after_of_isOver (m := ⟨r.now, r⟩) hover
    rw [hsame]
    exact .refl r
  | false =>
    show r.Reaches _ ⟨r.now, (r.tunnel.settle r.now r.ends).1, (r.tunnel.settle r.now r.ends).2⟩
    rcases Tunnel.settle_cases r.now r.ends hover with hsettle | hsettle
    · rw [hsettle]
      exact reaches_settleUpFirst r.now r.tunnel r.ends
    · rw [hsettle]
      exact (reaches_settleUpFirst r.now r.tunnel.swap r.ends.swap).swap

/-! ### Whole runs -/

/-- A tunnel that settles later on lets time go by before. -/
theorem reaches_settle_of_le {now : Nat} (r : TunnelRun) (hle : r.now ≤ now) :
    r.Reaches (fun _ => []) (settle now r) := by
  have hwait : r.happen (.wait (now - r.now)) = { r with now := now } := by
    show { r with now := r.now + (now - r.now) } = _
    rw [Nat.add_sub_cancel' hle]
  have hmove := Reaches.one r (.event (.wait (now - r.now)))
  rw [move, hwait] at hmove
  exact hmove.andThen (reaches_settle { r with now := now })

/-- Whatever happens to a tunnel that settles, it moves there. -/
theorem reaches_step (r : TunnelRun) (e : Event) :
    r.Reaches (fun side => e.sent side) (r.step e) := by
  have hevent := Reaches.one r (.event e)
  cases e with
  | stream side e =>
    cases side with
    | client => exact hevent.andThen (reaches_settle _)
    | target => exact hevent.andThen (reaches_settle _)
  | wait span =>
    have hrun : (r.step (.wait span)).now = r.now + span ∧
        r.Reaches (fun _ => []) (r.step (.wait span)) :=
      Clock.run_preserves (P := fun now s => s.now = now ∧ r.Reaches (fun _ => []) s)
        (fun now t s hle hs =>
          ⟨rfl, hs.2.andThen (reaches_settle_of_le s (by rw [hs.1]; exact hle))⟩)
        (Nat.le_add_right r.now span) ⟨rfl, .refl r⟩
    exact hrun.2
  | reorder turn => exact hevent

/-- **A tunnel that runs** lets its halves do one operation after the other, in the order that its
    turns tell.  So what holds of every order holds of the run. -/
theorem reaches_run (r : TunnelRun) (es : List Event) :
    r.Reaches (fun side => es.flatMap (Event.sent side)) (r.run es) := by
  induction es generalizing r with
  | nil => exact .refl r
  | cons e es ih => exact (reaches_step r e).trans (ih (r.step e))

end TunnelRun

end ForwardProxy
