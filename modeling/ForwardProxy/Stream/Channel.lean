import ForwardProxy.Bytes
import ForwardProxy.Fault

namespace ForwardProxy

/-!
# Channels

A channel is one end of a byte stream as the program sees it: what the other side has sent and is
not read yet, how much the other side still takes, and everything written to it so far.

* `Attempt` — what a read or a write comes to: done, not yet possible, or failed.
* `Channel.read`, `Channel.write`, `Channel.writeAll`, `Channel.close` — what the program does.
* `Channel.Event`, `Channel.apply` — what the other side does.
* `Channel.pending` — how much there is to read; every read that takes something lowers it.
-/

/-- What a read or a write comes to. -/
inductive Attempt (α : Type) where
  | ready (value : α)
  /-- Not possible until the other side does something. -/
  | blocked
  | failed (fault : Fault)
  deriving Repr

/-- Something that has arrived and is not read yet. -/
inductive Arrival where
  | data (bytes : Bytes)
  /-- One read fails. -/
  | fault (fault : Fault)
  deriving DecidableEq, Repr

/-- One end of a byte stream. -/
structure Channel where
  /-- What has arrived, in order. -/
  inbox : List Arrival
  /-- Whether the stream ends behind what has arrived. -/
  ended : Bool
  /-- How many octets are still taken; none if there is no limit. -/
  room : Option Nat
  /-- The fault of every further write, if writes fail. -/
  writeFault : Option Fault
  /-- Whether the program has shut its sending side or dropped the channel. -/
  shut : Bool
  /-- Everything written so far. -/
  written : Bytes
  deriving DecidableEq, Repr

/-- What an arrival counts for: its octets and one for itself. -/
def Arrival.weight : Arrival → Nat
  | data bs => bs.length + 1
  | fault _ => 1

namespace Channel

/-- A channel on which nothing has happened, with room for so many octets. -/
def idle (room : Option Nat) : Channel where
  inbox := []
  ended := false
  room := room
  writeFault := none
  shut := false
  written := []

/-! ### What the program does -/

/-- At most `n` octets of what has arrived; an empty result is the end of the stream. -/
def read (n : Nat) (c : Channel) : Attempt Bytes × Channel :=
  match c.inbox with
  | [] => (if c.ended then .ready [] else .blocked, c)
  | .fault f :: rest => (.failed f, { c with inbox := rest })
  | .data bs :: rest =>
    let left := if bs.length ≤ n then rest else .data (bs.drop n) :: rest
    (.ready (bs.take n), { c with inbox := left })

/-- Writes as many octets as there is room for, and tells how many. -/
def write (bs : Bytes) (c : Channel) : Attempt Nat × Channel :=
  if c.shut then (.failed (.bare .brokenPipe), c)
  else
    match c.writeFault, c.room with
    | some f, _ => (.failed f, c)
    | none, none => (.ready bs.length, { c with written := c.written ++ bs })
    | none, some r =>
      if r = 0 && !bs.isEmpty then (.blocked, c)
      else
        let k := min r bs.length
        (.ready k, { c with written := c.written ++ bs.take k, room := some (r - k) })

/-- Writes everything, or as much as there is room for; the octets left over come with the
    result. -/
def writeAll (bs : Bytes) (c : Channel) : Attempt Unit × Bytes × Channel :=
  if bs.isEmpty then (.ready (), [], c)
  else
    match c.write bs with
    | (.ready k, c) => if k < bs.length then (.blocked, bs.drop k, c) else (.ready (), [], c)
    | (.blocked, c) => (.blocked, bs, c)
    | (.failed f, c) => (.failed f, bs, c)

/-- Shuts the sending side. -/
def close (c : Channel) : Channel := { c with shut := true }

/-! ### What the other side does -/

/-- Something that the other side does. -/
inductive Event where
  | send (bytes : Bytes)
  /-- The stream ends; nothing arrives after that. -/
  | finish
  | failRead (fault : Fault)
  | failWrite (fault : Fault)
  /-- Room for so many more octets, or for any number. -/
  | widen (amount : Option Nat)
  /-- The other side goes away: the stream ends and writes fail. -/
  | hangUp
  deriving DecidableEq, Repr

/-- A channel on which one more thing has arrived. -/
def arrive (a : Arrival) (c : Channel) : Channel :=
  if c.ended then c else { c with inbox := c.inbox ++ [a] }

/-- The channel after something that the other side does. -/
def apply (e : Event) (c : Channel) : Channel :=
  match e with
  | .send bs => if bs.isEmpty then c else c.arrive (.data bs)
  | .finish => { c with ended := true }
  | .failRead f => c.arrive (.fault f)
  | .failWrite f => { c with writeFault := some f }
  | .widen none => { c with room := none }
  | .widen (some n) => { c with room := c.room.map (· + n) }
  | .hangUp => { c with ended := true, writeFault := some (.bare .brokenPipe) }

/-- The channel after all that the other side does. -/
def applyAll (es : List Event) (c : Channel) : Channel := es.foldl (fun c e => c.apply e) c

/-! ### How much there is to read -/

/-- How much there is to read: the octets that have arrived, and one for each arrival. -/
def pending (c : Channel) : Nat := c.inbox.foldr (fun a n => a.weight + n) 0

/-- A read takes at least what it returns off what there is to read. -/
theorem pending_read_of_ready {c c' : Channel} {n : Nat} {bs : Bytes}
    (h : c.read n = (.ready bs, c')) : c'.pending + bs.length ≤ c.pending := by
  unfold read at h
  split at h
  · split at h <;> simp_all
  · simp at h
  · rename_i data rest hi
    simp only [Prod.mk.injEq, Attempt.ready.injEq] at h
    obtain ⟨rfl, rfl⟩ := h
    split <;> simp [pending, hi, Arrival.weight] <;> omega

/-- A read that fails takes the fault off what there is to read. -/
theorem pending_read_of_failed {c c' : Channel} {n : Nat} {f : Fault}
    (h : c.read n = (.failed f, c')) : c'.pending < c.pending := by
  unfold read at h
  split at h
  · split at h <;> simp at h
  · rename_i f' rest hi
    simp only [Prod.mk.injEq, Attempt.failed.injEq] at h
    obtain ⟨rfl, rfl⟩ := h
    simp [pending, hi, Arrival.weight]
  · simp at h

end Channel

end ForwardProxy
