import ForwardProxy.Proofs.Stream.Exact
import ForwardProxy.Proofs.Tunnel.Interleaving

namespace ForwardProxy

/-!
# Relay buffers

Each half of a tunnel reads into a buffer that it is lent, and writes from there.  Buffers come from
a pool and are not cleared: a buffer still holds what whoever had it before has left in it.  A half
writes the front of its buffer, as far as it has just been read, and so what was left there does not
show.

* `Buffer`, `Buffer.lend`, `Buffer.fill`, `Buffer.slice` — what a buffer holds.
* `Copier`, `Copier.act` — a half that knows where in its buffer the octets are that it has not
  written yet.
* `Copier.half_act` — it does what a half does that holds these octets itself.
* `Lease`, `Lease.move` — the two halves of a tunnel with their buffers.
* `Lease.Backs.move` — they make the tunnel move as it does, whatever their buffers hold.
-/

/-! ### Buffers -/

/-- A buffer that holds a chunk. -/
structure Buffer where
  octets : Bytes
  length_eq : octets.length = Half.chunkSize
  deriving DecidableEq, Repr

namespace Buffer

/-- A buffer that holds what an earlier use has left in it, cut to its size or filled up. -/
def lend (stale : Bytes) : Buffer where
  octets := (stale ++ List.replicate Half.chunkSize 0).take Half.chunkSize
  length_eq := by simp

/-- The buffer after octets were read into the front of it; nothing behind them is cleared. -/
def fill (bs : Bytes) (b : Buffer) : Buffer where
  octets := (bs ++ b.octets.drop bs.length).take Half.chunkSize
  length_eq := by
    have := b.length_eq
    simp only [List.length_take, List.length_append, List.length_drop]
    omega

/-- The octets of a chunk of `size` octets from a position on. -/
def slice (pos size : Nat) (b : Buffer) : Bytes := (b.octets.take size).drop pos

/-- What was read into a buffer is there, and nothing else is in the chunk. -/
theorem slice_fill {bs : Bytes} (h : bs.length ≤ Half.chunkSize) (b : Buffer) :
    (b.fill bs).slice 0 bs.length = bs := by
  rw [slice, fill, List.drop_zero, List.take_take, Nat.min_eq_left h, List.take_left]

/-- What is left of a chunk when octets from a position on have been written. -/
theorem drop_slice (k pos size : Nat) (b : Buffer) :
    (b.slice pos size).drop k = b.slice (pos + k) size := List.drop_drop

end Buffer

/-! ### One half -/

/-- What a half does with its buffer. -/
inductive Copying where
  | reading
  /-- The octets of a chunk of `size` octets from `pos` on are not written yet. -/
  | writing (pos size : Nat)
  | ended (fault : Option Fault)
  deriving DecidableEq, Repr

/-- One direction of a tunnel, with the buffer that it was lent. -/
structure Copier where
  /-- How many octets of whole chunks have been moved. -/
  moved : Nat
  state : Copying
  buffer : Buffer
  deriving DecidableEq, Repr

namespace Copier

/-- A half that has moved nothing, with a buffer in which something was left. -/
def start (stale : Bytes) : Copier := ⟨0, .reading, .lend stale⟩

/-- The half that holds itself what is to be written from the buffer. -/
def half (c : Copier) : Half where
  moved := c.moved
  state :=
    match c.state with
    | .reading => .reading
    | .writing pos size => .writing (c.buffer.slice pos size) size
    | .ended fault => .ended fault

/-- The half, ended without a fault unless it has ended before. -/
def stop (c : Copier) : Copier := if c.half.hasEnded then c else { c with state := .ended none }

/-- A half that was reading, after what the read came to.  What was read is in the front of the
    buffer. -/
def afterRead (c : Copier) : Attempt Bytes → Copier
  | .blocked => c
  | .failed f => { c with state := .ended (some f) }
  | .ready [] => { c with state := .ended none }
  | .ready (b :: bs) =>
    { c with state := .writing 0 (b :: bs).length, buffer := c.buffer.fill (b :: bs) }

/-- A half that was writing a chunk of `size` octets from `pos` on, after what the write came to. -/
def afterWrite (pos size : Nat) (c : Copier) : Attempt Nat → Copier
  | .blocked => c
  | .failed f => { c with state := .ended (some f) }
  | .ready k =>
    if k < (c.buffer.slice pos size).length then { c with state := .writing (pos + k) size }
    else { c with moved := c.moved + size, state := .reading }

/-- Reads into the buffer once or writes from it once, and nothing more. -/
def act (now : Nat) (c : Copier) (src dst : IdleStream Lookahead) :
    Copier × IdleStream Lookahead × IdleStream Lookahead :=
  match c.state with
  | .reading =>
    let (result, src) := src.read now Half.chunkSize
    (c.afterRead result, src, dst)
  | .writing pos size =>
    if (c.buffer.slice pos size).isEmpty then
      ({ c with moved := c.moved + size, state := .reading }, src, dst)
    else
      let (result, dst) := dst.write now (c.buffer.slice pos size)
      (c.afterWrite pos size result, src, dst)
  | .ended _ => (c, src, dst)

/-- Stopping a copier stops the half that it shows. -/
theorem half_stop (c : Copier) : c.stop.half = c.half.stop := by
  unfold stop Half.stop
  split <;> rfl

/-- The chunk that was read is what is written from the front of the buffer. -/
theorem half_afterRead {a : Attempt Bytes} (h : a.taken.length ≤ Half.chunkSize) (c : Copier) :
    (c.afterRead a).half = c.half.afterRead a := by
  cases a with
  | ready bs =>
    cases bs with
    | nil => rfl
    | cons b bs =>
      have hslice : (c.buffer.fill (b :: bs)).slice 0 (b :: bs).length = b :: bs :=
        Buffer.slice_fill h c.buffer
      rw [afterRead, half]
      dsimp only
      rw [hslice]
      rfl
  | blocked => rfl
  | failed f => rfl

/-- What is left of a chunk is behind the octets that were written. -/
theorem half_afterWrite (pos size : Nat) (c : Copier) (a : Attempt Nat) :
    (c.afterWrite pos size a).half = c.half.afterWrite (c.buffer.slice pos size) size a := by
  cases a with
  | ready k =>
    unfold afterWrite Half.afterWrite
    dsimp only
    split
    · rw [Buffer.drop_slice]
      rfl
    · rfl
  | blocked => rfl
  | failed f => rfl

/-- **A half with a buffer** reads and writes what a half does that has none. -/
theorem half_act (now : Nat) (c : Copier) (src dst : IdleStream Lookahead) :
    c.half.act now src dst = ((c.act now src dst).1.half, (c.act now src dst).2) := by
  cases hstate : c.state with
  | reading =>
    have hsame := c.half_afterRead (src.length_read_le now Half.chunkSize)
    rw [Half.act_of_reading (by rw [half, hstate]), act, hstate]
    dsimp only
    rw [hsame]
  | writing pos size =>
    have hwriting : c.half.state = .writing (c.buffer.slice pos size) size := by rw [half, hstate]
    rw [Half.act, hwriting, act, hstate]
    dsimp only
    split
    · rfl
    · rw [half_afterWrite]
  | ended fault =>
    have hended : c.half.hasEnded = true := by rw [Half.hasEnded, half, hstate]
    rw [Half.act_of_hasEnded hended, act, hstate]

end Copier

/-! ### Both halves -/

/-- The two halves of a tunnel, with the buffers that they have been lent. -/
structure Lease where
  up : Copier
  down : Copier
  deriving DecidableEq, Repr

namespace Lease

open TunnelRun

/-- The half that reads a side. -/
def copier (l : Lease) : Side → Copier
  | .client => l.up
  | .target => l.down

/-- The halves with another one that reads a side. -/
def put (l : Lease) : Side → Copier → Lease
  | .client, c => { l with up := c }
  | .target, c => { l with down := c }

/-- A tunnel after one move, the octets of which go through buffers. -/
def move (l : Lease) (r : TunnelRun) : Move → Lease × TunnelRun
  | .act side =>
    let (c, src, dst) := (l.copier side).act r.now (r.on side) (r.on side.other)
    (l.put side c, r.put side (c.half, src, dst))
  | .stop side =>
    if (l.copier side.other).half.hasEnded then
      let c := (l.copier side).stop
      (l.put side c, r.put side (c.half, r.on side, r.on side.other))
    else (l, r)
  | m => (l, r.move m)

/-- The buffers of a tunnel hold what its halves hold, and perhaps anything else. -/
def Backs (l : Lease) (r : TunnelRun) : Prop := ∀ side, (l.copier side).half = r.half side

namespace Backs

variable {l : Lease} {r : TunnelRun}

/-- A lease that backs a tunnel does so after one half was replaced in both. -/
theorem put (h : l.Backs r) (side : Side) (c : Copier) (src dst : IdleStream Lookahead) :
    (l.put side c).Backs (r.put side (c.half, src, dst)) := by
  refine side.all ?_ ?_
  · rw [half_put]
    cases side <;> rfl
  · rw [half_other_put, ← h side.other]
    cases side <;> rfl

/-- A lease backs every tunnel with the same halves. -/
theorem of_half_eq {r' : TunnelRun} (h : l.Backs r) (hsame : ∀ side, r'.half side = r.half side) :
    l.Backs r' := fun side => (h side).trans (hsame side).symm

/-- **A tunnel that has buffers moves** as one that has none. -/
theorem move (h : l.Backs r) (m : Move) :
    (l.move r m).2 = r.move m ∧ (l.move r m).1.Backs (r.move m) := by
  -- Only a half that acts or stops touches its buffer; all else leaves both halves as they are.
  cases m with
  | act side =>
    have hact := (l.copier side).half_act r.now (r.on side) (r.on side.other)
    rw [h side] at hact
    have hmove : (l.move r (.act side)).2 = r.move (.act side) := by
      rw [TunnelRun.move, hact]
      rfl
    rw [← hmove]
    exact ⟨rfl, h.put side _ _ _⟩
  | stop side =>
    unfold Lease.move TunnelRun.move
    dsimp only
    rw [h side.other]
    split
    · rw [← h side, ← Copier.half_stop]
      exact ⟨rfl, h.put side _ _ _⟩
    · exact ⟨rfl, h⟩
  | shut side =>
    refine ⟨rfl, h.of_half_eq fun s => ?_⟩
    rw [TunnelRun.move]
    split
    · cases side <;> cases s <;> rfl
    · rfl
  | event e =>
    refine ⟨rfl, h.of_half_eq fun side => ?_⟩
    cases e with
    | stream s e => cases s <;> cases side <;> rfl
    | wait span => cases side <;> rfl
    | reorder turn => cases side <;> rfl

end Backs

end Lease

end ForwardProxy
