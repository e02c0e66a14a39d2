import ForwardProxy.Proofs.Server.Lanes
import ForwardProxy.Proofs.Tunnel.Buffers

namespace ForwardProxy

/-!
# A server with a pool of buffers

The tunnels of all sessions borrow their buffers from one pool.  A buffer that has come back may be
lent to another tunnel with everything that is still in it.

* `BufferPool`, `BufferPool.borrow`, `BufferPool.release` — a pool, and what a tunnel has of it.
* `Session.actFrom` — a session, the tunnel of which moves its octets through buffers.
* `Phase.Holds`, `Session.actFrom_eq` — it does what a session does that has none.
* `PooledServer`, `PooledServer.moves` — all sessions with one pool.
* `PooledServer.Sound.server_moves` — whatever lies in the pool, nothing shows it.
* `PooledServer.isolated` — that nothing is mixed up between clients.
-/

/-! ### Lending -/

/-- A pool of buffers: `σ` is what it remembers.  It may hand out what it likes. -/
structure BufferPool (σ : Type) where
  /-- Hands out a buffer. -/
  lend : σ → Bytes × σ
  /-- Takes a buffer back, with what is in it. -/
  restore : Bytes → σ → σ

namespace Lease

/-- The halves that are shown; those of a tunnel without buffers have not begun. -/
def halves : Option Lease → Half × Half
  | none => (.fresh, .fresh)
  | some l => (l.up.half, l.down.half)

/-- A tunnel the halves of which are those with these buffers. -/
def run (now : Nat) (tunnel : Tunnel) (ends : Ends) (l : Lease) : TunnelRun :=
  ⟨now, { tunnel with up := l.up.half, down := l.down.half }, ends⟩

/-- Borrowed buffers back the tunnel that is shown through them. -/
theorem backs_run (now : Nat) (tunnel : Tunnel) (ends : Ends) (l : Lease) :
    l.Backs (l.run now tunnel ends) := fun side => by cases side <;> rfl

/-- A tunnel is the one shown through its buffers, if these show its halves. -/
theorem run_eq {tunnel : Tunnel} {l : Lease} (h : (tunnel.up, tunnel.down) = halves (some l))
    (now : Nat) (ends : Ends) : l.run now tunnel ends = ⟨now, tunnel, ends⟩ := by
  obtain ⟨clientTimer, targetTimer, up, down, turn⟩ := tunnel
  cases h
  rfl

end Lease

namespace BufferPool

variable {σ : Type}

/-- A pool that lends the buffer that came back last, as it came back, and one of zeros if there is
    none. -/
def stack : BufferPool (List Bytes) where
  lend
    | [] => (List.replicate Half.chunkSize 0, [])
    | b :: bs => (b, bs)
  restore b bs := b :: bs

/-- What was left in a buffer is there when it is lent again. -/
example (b : Bytes) (bs : List Bytes) : stack.lend (stack.restore b bs) = (b, bs) := rfl

/-- The buffers of a tunnel, which are borrowed if it has none yet. -/
def borrow (pool : BufferPool σ) (free : σ) : Option Lease → Lease × σ
  | some l => (l, free)
  | none =>
    let (b, free) := pool.lend free
    let (b', free) := pool.lend free
    (⟨.start b, .start b'⟩, free)

/-- Takes the buffers of a tunnel back. -/
def release (pool : BufferPool σ) (l : Lease) (free : σ) : σ :=
  pool.restore l.down.buffer.octets (pool.restore l.up.buffer.octets free)

/-- Whatever is in a buffer, a half that borrows it has not begun. -/
theorem halves_borrow (pool : BufferPool σ) (free : σ) (lease : Option Lease) :
    Lease.halves (some (pool.borrow free lease).1) = Lease.halves lease := by
  cases lease <;> rfl

end BufferPool

/-! ### One session -/

variable {σ : Type} {net : Network} {lease : Option Lease}

/-- The halves of the tunnel of a session; without a tunnel they have not begun. -/
def Phase.halves : Phase → Half × Half
  | .relaying _ _ tunnel => (tunnel.up, tunnel.down)
  | _ => (.fresh, .fresh)

/-- The buffers that a session in a phase has borrowed show the halves of its tunnel. -/
def Phase.Holds (lease : Option Lease) (phase : Phase) : Prop :=
  phase.halves = Lease.halves lease

namespace Session

variable {s : Session}

/-- Lets the tunnel make one move through its buffers, which are borrowed when it begins to move. -/
def carryFrom (pool : BufferPool σ) (now : Nat) (lease : Option Lease) (free : σ)
    (m : TunnelRun.Move) (s : Session) : Session × Option Lease × σ :=
  match s.phase, s.outbound with
  | .relaying protocol target tunnel, some o =>
    if m.isOwn then
      let (l, free) := pool.borrow free lease
      let (l, r) := l.move (l.run now tunnel ⟨s.client, o.stream⟩) m
      (s.carried protocol target o r, some l, free)
    else (s, lease, free)
  | _, _ => (s, lease, free)

/-- Ends the session if its tunnel has ended, and gives its buffers back. -/
def concludeFrom (pool : BufferPool σ) (lease : Option Lease) (free : σ) (s : Session) :
    Session × Option Lease × σ :=
  match s.phase, s.outbound with
  | .relaying protocol target tunnel, some _ =>
    match tunnel.stats? with
    | none => (s, lease, free)
    | some stats =>
      (s.conclude protocol target stats, none, lease.elim free fun l => pool.release l free)
  | _, _ => (s, lease, free)

/-- A session that does one thing, with a pool. -/
def actFrom (pool : BufferPool σ) (net : Network) (next now : Nat) (lease : Option Lease) (free : σ)
    (s : Session) : Act → Session × Option Lease × σ
  | .carry m => s.carryFrom pool now lease free m
  | .conclude => s.concludeFrom pool lease free
  | a => (s.act net next now a, lease, free)

/-! ### What a session holds -/

/-- A session that fails has no tunnel, so it holds nothing. -/
theorem holds_fail (protocol : Protocol) (failure : SessionFailure)
    (h : (.fresh, .fresh) = Lease.halves lease) : (s.fail protocol failure).phase.Holds lease := by
  unfold fail
  split <;> exact h

/-- A session that refuses has no tunnel yet, so it holds nothing. -/
theorem holds_refuse (failure : Failure) (h : (.fresh, .fresh) = Lease.halves lease) :
    (s.refuse failure).phase.Holds lease := by
  unfold refuse
  split
  · exact h
  · exact holds_fail _ _ h

/-- Finding out the protocol borrows no buffer. -/
theorem holds_peek (h : s.phase.Holds lease) (now : Nat) : (s.peek now).phase.Holds lease := by
  unfold peek
  split
  · rename_i hphase
    have hfresh : (.fresh, .fresh) = Lease.halves lease := by rwa [hphase] at h
    split
    · rename_i b l _
      show (opening s.settings now (Protocol.detect b)).Holds lease
      cases Protocol.detect b <;> exact hfresh
    · exact hfresh
    · exact hfresh
    · split
      · exact hfresh
      · exact h
  · exact h

/-- Reading a request head borrows no buffer. -/
theorem holds_readHead (h : s.phase.Holds lease) (now : Nat) :
    (s.readHead net now).phase.Holds lease := by
  unfold readHead
  split
  · rename_i hphase
    rw [hphase] at h
    split
    · exact h
    · exact holds_refuse _ h
    · split
      · exact holds_refuse _ h
      · exact h
  · exact h

/-- Negotiating borrows no buffer. -/
theorem holds_negotiate (h : s.phase.Holds lease) (now : Nat) :
    (s.negotiate net now).phase.Holds lease := by
  unfold negotiate
  split
  · rename_i hphase
    rw [hphase] at h
    split
    · split <;> exact h
    · exact holds_fail _ _ h
    · split
      · exact holds_fail _ _ h
      · exact h
  · exact h

/-- Dialling borrows no buffer. -/
theorem holds_dial (h : s.phase.Holds lease) (next now : Nat) :
    (s.dial next now).phase.Holds lease := by
  unfold dial
  split
  · rename_i protocol d hphase
    have hfresh : (.fresh, .fresh) = Lease.halves lease := by rwa [hphase] at h
    split
    · exact h
    · unfold announce
      split
      · exact hfresh
      · split
        · exact hfresh
        · exact holds_fail _ _ hfresh
    · split
      · exact holds_refuse _ hfresh
      · exact hfresh
  · exact h

/-- The halves of a tunnel have not begun when the tunnel begins. -/
theorem holds_tell (h : s.phase.Holds lease) (now : Nat) : (s.tell now).phase.Holds lease := by
  -- Every phase before the tunnel answers and goes on or fails; none of these borrows anything.
  unfold tell
  split
  · rename_i hphase
    rw [hphase] at h
    split
    · exact holds_fail _ _ h
    · exact h
    · exact holds_fail _ _ h
  · rename_i hphase
    have hfresh : (.fresh, .fresh) = Lease.halves lease := by rwa [hphase] at h
    split
    · exact h
    · exact holds_fail _ _ hfresh
  · rename_i hphase
    rw [hphase] at h
    split
    · exact h
    · exact h
    · exact holds_fail _ _ h
  · rename_i hphase
    have hfresh : (.fresh, .fresh) = Lease.halves lease := by rwa [hphase] at h
    split
    · exact hfresh
    · exact h
    · exact holds_fail _ _ hfresh
  · exact h

/-- A session whose tunnel has ended holds nothing. -/
theorem holds_conclude (protocol : Protocol) (target : Text) (stats : TunnelStats) (s : Session) :
    (s.conclude protocol target stats).phase.Holds none := by
  unfold conclude
  split
  · rfl
  · rfl
  · exact holds_fail _ _ rfl

/-- What is in the buffers of a tunnel besides the octets on their way does not show. -/
theorem carryFrom_eq (pool : BufferPool σ) (h : s.phase.Holds lease) (now : Nat) (free : σ)
    (m : TunnelRun.Move) :
    (s.carryFrom pool now lease free m).1 = s.carry now m ∧
      (s.carryFrom pool now lease free m).1.phase.Holds
        (s.carryFrom pool now lease free m).2.1 := by
  unfold carryFrom carry
  cases hphase : s.phase with
  | relaying protocol target tunnel =>
    cases houtbound : s.outbound with
    | none => exact ⟨rfl, h⟩
    | some o =>
      -- Whatever was in the buffers that the pool hands out, they show the halves of the tunnel as
      -- they are.
      have hhalves : (tunnel.up, tunnel.down) = Lease.halves (some (pool.borrow free lease).1) := by
        rw [hphase] at h
        exact h.trans (pool.halves_borrow free lease).symm
      dsimp only
      split
      · generalize pool.borrow free lease = borrowed at hhalves ⊢
        obtain ⟨l, free'⟩ := borrowed
        dsimp only at hhalves ⊢
        obtain ⟨hmove, hbacks⟩ := (l.backs_run now tunnel ⟨s.client, o.stream⟩).move m
        rw [Lease.run_eq hhalves] at hmove hbacks ⊢
        rw [hmove]
        exact ⟨rfl, Prod.ext (hbacks .client).symm (hbacks .target).symm⟩
      · exact ⟨rfl, h⟩
  | _ => exact ⟨rfl, h⟩

/-- A session that gives its buffers back ends as one that has none, and holds nothing after. -/
theorem concludeFrom_eq (pool : BufferPool σ) (h : s.phase.Holds lease) (free : σ) :
    (s.concludeFrom pool lease free).1 = s.concludeOver ∧
      (s.concludeFrom pool lease free).1.phase.Holds (s.concludeFrom pool lease free).2.1 := by
  unfold concludeFrom concludeOver
  cases hphase : s.phase with
  | relaying protocol target tunnel =>
    cases houtbound : s.outbound with
    | none => exact ⟨rfl, h⟩
    | some o =>
      dsimp only
      cases tunnel.stats? with
      | none => exact ⟨rfl, h⟩
      | some stats => exact ⟨rfl, holds_conclude _ _ _ _⟩
  | _ => exact ⟨rfl, h⟩

/-- **A session with a pool** does what a session does that has none. -/
theorem actFrom_eq (pool : BufferPool σ) (net : Network) (h : s.phase.Holds lease)
    (next now : Nat) (free : σ) (a : Act) :
    (s.actFrom pool net next now lease free a).1 = s.act net next now a ∧
      (s.actFrom pool net next now lease free a).1.phase.Holds
        (s.actFrom pool net next now lease free a).2.1 := by
  cases a with
  | peek => exact ⟨rfl, holds_peek h now⟩
  | readHead => exact ⟨rfl, holds_readHead h now⟩
  | negotiate => exact ⟨rfl, holds_negotiate h now⟩
  | dial => exact ⟨rfl, holds_dial h next now⟩
  | tell => exact ⟨rfl, holds_tell h now⟩
  | carry m => exact carryFrom_eq pool h now free m
  | conclude => exact concludeFrom_eq pool h free

end Session

/-! ### All sessions -/

/-- The buffers that have been borrowed for a client show the halves of its tunnel. -/
def Visitor.Holds (lease : Option Lease) (v : Visitor) : Prop :=
  match v.visit with
  | .waiting _ => (.fresh, .fresh) = Lease.halves lease
  | .served s => s.phase.Holds lease

/-- The client after its session has done one thing, with a pool. -/
def Visitor.actFrom (pool : BufferPool σ) (net : Network) (next now : Nat) (lease : Option Lease)
    (free : σ) (a : Session.Act) (v : Visitor) : Visitor × Option Lease × σ :=
  match v.visit with
  | .waiting _ => (v, lease, free)
  | .served s =>
    let (s, lease, free) := s.actFrom pool net next now lease free a
    ({ v with visit := .served s }, lease, free)

namespace Visitor

variable {v : Visitor}

/-- A session that begins holds what its client held, which is nothing. -/
theorem Holds.welcome (h : v.Holds lease) (settings : Settings) (turn : Turn) (now : Nat) :
    (Server.welcome settings turn now v).Holds lease := by
  obtain ⟨address, visit⟩ := v
  cases visit <;> exact h

/-- What a client does leaves its session the buffers that it holds. -/
theorem Holds.applyClient (h : v.Holds lease) (e : Channel.Event) :
    (v.applyClient e).Holds lease := by
  obtain ⟨address, visit⟩ := v
  cases visit <;> exact h

/-- What a target does leaves a session the buffers that it holds. -/
theorem Holds.applyPeer (h : v.Holds lease) (number : Nat) (e : Channel.Event) :
    (v.applyPeer number e).Holds lease := by
  obtain ⟨address, visit⟩ := v
  cases visit <;> exact h

/-- The order of the halves of a tunnel leaves a session the buffers that it holds. -/
theorem Holds.reorder (h : v.Holds lease) (turn : Turn) : (v.reorder turn).Holds lease := by
  obtain ⟨address, visit⟩ := v
  cases visit with
  | waiting c => exact h
  | served s =>
    obtain ⟨settings, peer, entry, turn', client, outbound, phase, log, lookups, dials⟩ := s
    cases phase <;> exact h

/-- A client whose session moves octets through buffers is one whose session has none. -/
theorem Holds.actFrom_eq (pool : BufferPool σ) (net : Network) (h : v.Holds lease)
    (next now : Nat) (free : σ) (a : Session.Act) :
    (v.actFrom pool net next now lease free a).1 = v.act net next now a ∧
      (v.actFrom pool net next now lease free a).1.Holds
        (v.actFrom pool net next now lease free a).2.1 := by
  obtain ⟨address, visit⟩ := v
  cases visit with
  | waiting c => exact ⟨rfl, h⟩
  | served s =>
    obtain ⟨hsame, hholds⟩ := Session.actFrom_eq pool net h next now free a
    exact ⟨congrArg (fun s => (⟨address, .served s⟩ : Visitor)) hsame, hholds⟩

end Visitor

/-- A server the tunnels of which borrow their buffers from a pool. -/
structure PooledServer (σ : Type) where
  server : Server
  /-- What the tunnel of each client has borrowed. -/
  leases : List (Option Lease)
  /-- What the pool remembers. -/
  free : σ

namespace PooledServer

/-- A server to which nobody has connected, with a pool in which anything may lie. -/
def create (settings : Settings) (policy : AcceptPolicy) (net : Network) (turn : Turn) (free : σ) :
    PooledServer σ :=
  ⟨.create settings policy net turn, [], free⟩

/-- Lets the session of a client do one thing. -/
def act (pool : BufferPool σ) (number : Nat) (a : Session.Act) (p : PooledServer σ) :
    PooledServer σ :=
  match p.server.visitors[number]?, p.leases[number]? with
  | some v, some lease =>
    let (v', lease, free) :=
      v.actFrom pool p.server.network p.server.connected p.server.now lease p.free a
    { server := { p.server with
        connected := p.server.connected + (v'.connections - v.connections)
        visitors := p.server.visitors.set number v' }
      leases := p.leases.set number lease
      free := free }
  | _, _ => p

/-- A server after one move. -/
def move (pool : BufferPool σ) (p : PooledServer σ) : Server.Move → PooledServer σ
  | .act number a => p.act pool number a
  | .deed (.connect address room early) =>
    { p with
      server := p.server.move (.deed (.connect address room early))
      leases := p.leases ++ [none] }
  | m => { p with server := p.server.move m }

/-- A server after any number of moves. -/
def moves (pool : BufferPool σ) (p : PooledServer σ) (ms : List Server.Move) : PooledServer σ :=
  ms.foldl (move pool) p

variable {p : PooledServer σ}

/-- The buffers that are borrowed are those that the tunnels of the sessions show. -/
def Sound (p : PooledServer σ) : Prop :=
  List.Forall₂ (fun v lease => v.Holds lease) p.server.visitors p.leases

/-- A change of one client that leaves it its buffers. -/
theorem Sound.modify (h : p.Sound) {f : Visitor → Visitor}
    (hf : ∀ v lease, Visitor.Holds lease v → (f v).Holds lease) (number : Nat) :
    List.Forall₂ (fun v lease => v.Holds lease) (p.server.visitors.modify number f) p.leases := by
  have hmodify := Server.forall₂_modify (g := id) hf number h
  rwa [List.modify_id] at hmodify

/-- What one session does through its buffers shows nothing of them, and the others keep theirs. -/
theorem Sound.act (pool : BufferPool σ) (h : p.Sound) (number : Nat) (a : Session.Act) :
    (p.act pool number a).server = p.server.act number a ∧ (p.act pool number a).Sound := by
  unfold PooledServer.act Server.act
  cases hv : p.server.visitors[number]? with
  | none => exact ⟨rfl, h⟩
  | some v =>
    obtain ⟨lease, hlease, hholds⟩ := Server.forall₂_getElem? h hv
    rw [hlease]
    obtain ⟨hsame, hstill⟩ := hholds.actFrom_eq pool p.server.network p.server.connected
      p.server.now p.free a
    dsimp only
    rw [hsame] at hstill ⊢
    exact ⟨rfl, Server.forall₂_set h hstill number⟩

/-- The buffers are of the sessions alone: whatever else a server changes leaves them. -/
theorem Sound.of_sameSessions (h : p.Sound) {s : Server} (hsame : p.server.SameSessions s) :
    Sound { p with server := s } := by
  show List.Forall₂ _ s.visitors p.leases
  rw [hsame.visitors_eq]
  exact h

/-- Whatever others do, the buffers stay where they are. -/
theorem Sound.deed (pool : BufferPool σ) (h : p.Sound) (d : Server.Deed) :
    (p.move pool (.deed d)).server = p.server.change d ∧ (p.move pool (.deed d)).Sound := by
  cases d with
  | start => exact ⟨rfl, h.of_sameSessions p.server.sameSessions_start⟩
  | connect address room early => exact ⟨rfl, List.rel_append h (.cons rfl .nil)⟩
  | acceptFault f => exact ⟨rfl, h⟩
  | shutdown => exact ⟨rfl, h⟩
  | client number e => exact ⟨rfl, h.modify (fun _ _ hv => hv.applyClient e) number⟩
  | peer number e =>
    exact ⟨rfl, List.forall₂_map_left_iff.2 (h.imp fun _ _ hv => hv.applyPeer number e)⟩
  | reorder number turn => exact ⟨rfl, h.modify (fun _ _ hv => hv.reorder turn) number⟩

/-- A session that begins has borrowed nothing yet. -/
theorem Sound.attend (h : p.Sound) : Sound { p with server := p.server.attend } := by
  refine Server.attend_preserves (P := fun s => Sound { p with server := s }) ?_ ?_ h
  · intro s s' hsame hsound
    exact hsound.of_sameSessions hsame
  · intro s number hsound
    exact hsound.modify (fun _ _ hv => hv.welcome s.settings s.turn s.now) number

/-- **No move** shows what is in the pool. -/
theorem Sound.move (pool : BufferPool σ) (h : p.Sound) (m : Server.Move) :
    (p.move pool m).server = p.server.move m ∧ (p.move pool m).Sound := by
  cases m with
  | deed d => exact h.deed pool d
  | tick span => exact ⟨rfl, h⟩
  | attend => exact ⟨rfl, h.attend⟩
  | act number a => exact h.act pool number a
  | check => exact ⟨rfl, h.of_sameSessions p.server.sameSessions_checkDrained⟩

/-- **Nothing shows what is in the pool**, in whatever order things happen. -/
theorem Sound.server_moves (pool : BufferPool σ) (h : p.Sound) (ms : List Server.Move) :
    (p.moves pool ms).server = p.server.moves ms := by
  induction ms generalizing p with
  | nil => rfl
  | cons m ms ih =>
    obtain ⟨hserver, hsound⟩ := h.move pool m
    show ((p.move pool m).moves pool ms).server = (p.server.move m).moves ms
    rw [ih hsound, hserver]

end PooledServer

/-! ### Nothing is mixed up -/

/-- Nothing is mixed up between the clients of a server. -/
structure Server.Isolated (net : Network) (j : Journal) (s : Server) : Prop where
  /-- Every connection that was made belongs to exactly one client. -/
  owned : ∀ n < s.connected,
    ∃! i : Nat, ∃ v : Visitor, s.visitors[i]? = some v ∧ v.number? = some n
  /-- A client has no other connection. -/
  made : ∀ v ∈ s.visitors, ∀ n, v.number? = some n → n < s.connected
  /-- A connection gets what its own client sends, and a client gets what its own session replies
      and its own target sends. -/
  unmixed : ∀ (i : Nat) (v : Visitor), s.visitors[i]? = some v → ∃ g, j.clients[i]? = some g ∧
    Session.Unmixed net j.heard g.unread v.channel.written v.outbound?

/-- **Connections never mix**, whatever clients, targets, the listener and the clock do, in whatever
    order sessions and the halves of their tunnels go on, and whatever lies in the buffers that they
    borrow.  A server that settles after each thing that happens is one of these orders. -/
theorem PooledServer.isolated (pool : BufferPool σ) (free : σ) (settings : Settings)
    (policy : AcceptPolicy) (net : Network) (turn : Turn) :
    (∀ ms, ((create settings policy net turn free).moves pool ms).server.Isolated net
      (Journal.blank.through (.create settings policy net turn) ms)) ∧
    ∀ is, ∃ ms, ((create settings policy net turn free).moves pool ms).server =
        (Server.create settings policy net turn).run is ∧
      ms.filterMap Server.Move.deed? = is.filterMap Server.Input.deed? := by
  have hsound : (create settings policy net turn free).Sound := .nil
  refine ⟨fun ms => ?_, fun is => ?_⟩
  · -- The pool does not show, so what is true of a server without one is true here.
    rw [hsound.server_moves pool ms]
    have hlanes := (Server.InLanes.create settings policy net turn).through ms
    exact ⟨fun n hn => hlanes.existsUnique_number? hn, fun v hv n hn => hlanes.number?_lt hv hn,
      fun i v hi => hlanes.unmixed hi⟩
  · obtain ⟨ms, hms, hdeeds⟩ := (Server.create settings policy net turn).reaches_run is
    exact ⟨ms, (hsound.server_moves pool ms).trans hms, hdeeds⟩

/-- Two clients that speak different protocols, and what their targets get. -/
example :
    let net : Network := ⟨[], [(.v4 ⟨10, 0, 0, 1⟩ 80, .accepts (ascii "one") true),
      (.v4 ⟨10, 0, 0, 2⟩ 80, .accepts (ascii "two") true)]⟩
    let first := ascii "CONNECT 10.0.0.1:80 HTTP/1.1\r\n\r\nfirst"
    let second := [5, 1, 0, 5, 1, 0, 1, 10, 0, 0, 2, 0, 80] ++ ascii "second"
    (((Server.create .standard .standard net ⟨true, true⟩).run [.deed .start,
      .deed (.connect (.v4 ⟨1, 1, 1, 1⟩ 1) none [.send first]),
      .deed (.connect (.v4 ⟨1, 1, 1, 2⟩ 2) none [.send second])]).visitors.map
        fun v => v.outbound?.map fun o => (o.number, o.stream.channel.written)) =
      [some (0, ascii "first"), some (1, ascii "second")] := by decide +kernel

end ForwardProxy
