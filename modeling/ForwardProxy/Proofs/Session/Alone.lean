import ForwardProxy.Proofs.Session.Release
import ForwardProxy.Proofs.Session.Rest

namespace ForwardProxy.Session

/-!
# What a session takes from its server

A session settles when its server looks after it, and the connection that it makes gets a number
from the server.  There is nothing else that the server has a part in: the number shows in nothing
before there is a connection, and never changes; and to be looked after more often changes nothing.

* `Session.Fit`, `Session.Steady` — what holds of a session in any case, and after it has settled.
* `Session.Fit.settle`, `Session.Steady.settle_eq` — a session settles once and for all.
* `Session.settle_cases` — another number makes no difference unless a connection gets it.
* `Session.Accounted.number?_settle` — a session keeps the number of its connection.
-/

variable {net : Network} {s : Session} {now t next : Nat}

/-! ### Settling -/

/-- What a session holds is accounted for after it has relayed all it can. -/
theorem Accounted.relay (h : s.Accounted net) (now : Nat) : (s.relay now).Accounted net := by
  obtain ⟨ms, hrelay⟩ := s.relay_eq_foldl now
  rw [hrelay]
  clear hrelay
  refine Accounted.concludeOver ?_
  induction ms generalizing s with
  | nil => exact h
  | cons m ms ih => exact ih (h.carry now m)

/-- What a session holds is accounted for after it has settled. -/
theorem Accounted.settle (h : s.Accounted net) (next now : Nat) :
    (s.settle net next now).Accounted net :=
  (((((h.peek now).readHead now).negotiate now).dial next now).tell now).relay now

/-- What holds of a session whatever it still has to do. -/
structure Fit (net : Network) (now : Nat) (s : Session) : Prop where
  accounted : s.Accounted net
  wound : s.Wound now

/-- A session that has nothing to do. -/
structure Steady (net : Network) (now : Nat) (s : Session) : Prop extends Fit net now s where
  resting : s.Resting now

/-- A session that is fit comes to rest when it settles, now or later. -/
theorem Fit.settle (h : s.Fit net now) (hle : now ≤ t) (next : Nat) :
    (s.settle net next t).Steady net t := by
  obtain ⟨hwound, hrests⟩ := calm_settle (h.wound.later hle) net next
  exact ⟨⟨h.accounted.settle next t, hwound⟩, hrests⟩

/-- **A session that has settled** stays as it is until one of its deadlines has come, however often
    it settles until then. -/
theorem Steady.settle_eq (h : s.Steady net now) (hahead : ∀ d ∈ s.deadlines, now < d → t < d)
    (next : Nat) : s.settle net next t = s :=
  h.resting.settle_eq hahead net next

/-! ### What others do -/

/-- A session that has just begun is fit. -/
theorem fit_start (net : Network) (settings : Settings) (peer : SocketAddress) (entry : Entry)
    (turn : Turn) (now : Nat) (channel : Channel) :
    (start settings peer entry turn now channel).Fit net now := by
  refine ⟨accounted_start settings peer entry turn now channel, wound_of_rank ?_⟩
  cases entry with
  | detecting => exact Nat.zero_ne_add_one 4
  | speaking protocol => cases protocol <;> simp [start, opening, Phase.rank]

/-- What happens on the streams of a tunnel, or to the order of its halves, leaves its timers. -/
theorem wound_of_timers {tunnel tunnel' : Tunnel} {e e' : Ends} {span : Nat}
    (h : TunnelRun.Wound span ⟨now, tunnel, e⟩) (hclient : tunnel'.clientTimer = tunnel.clientTimer)
    (htarget : tunnel'.targetTimer = tunnel.targetTimer) :
    TunnelRun.Wound span ⟨now, tunnel', e'⟩ := by
  intro side
  have hside := h side
  cases side with
  | client =>
    show tunnel'.clientTimer.Wound span now
    rw [hclient]
    exact hside
  | target =>
    show tunnel'.targetTimer.Wound span now
    rw [htarget]
    exact hside

/-- What happens on the streams of a session leaves the timers of its tunnel. -/
theorem Wound.told (h : s.Wound now) (client : Lookahead) {outbound : Option Outbound}
    (hkept : outbound.isSome = s.outbound.isSome) :
    Wound now { s with client := client, outbound := outbound } := by
  obtain ⟨settings, peer, entry, turn, client', outbound', phase, log, lookups, dials⟩ := s
  cases phase with
  | relaying protocol target tunnel =>
    cases outbound with
    | none => trivial
    | some o =>
      cases outbound' with
      | none => cases hkept
      | some o' => exact ⟨h.1, wound_of_timers h.2 rfl rfl⟩
  | _ => trivial

/-- The alarms of a tunnel have nothing to do with the order of its halves. -/
theorem Wound.reorder (h : s.Wound now) (turn : Turn) : (s.reorder turn).Wound now := by
  obtain ⟨settings, peer, entry, turn', client, outbound, phase, log, lookups, dials⟩ := s
  cases phase with
  | relaying protocol target tunnel =>
    cases outbound with
    | none => trivial
    | some o => exact ⟨h.1, wound_of_timers h.2 rfl rfl⟩
  | _ => trivial

/-- Whatever its client does, a session stays fit. -/
theorem Fit.applyClient (h : s.Fit net now) (e : Channel.Event) : (s.applyClient e).Fit net now :=
  ⟨h.accounted.applyClient e, h.wound.told (s.client.apply e) rfl⟩

/-- Whatever a target does, a session stays fit. -/
theorem Fit.applyPeer (h : s.Fit net now) (number : Nat) (e : Channel.Event) :
    (s.applyPeer number e).Fit net now :=
  ⟨h.accounted.applyPeer number e, h.wound.told s.client Option.isSome_map⟩

/-- Whatever the order of the halves of its tunnel, a session stays fit. -/
theorem Fit.reorder (h : s.Fit net now) (turn : Turn) : (s.reorder turn).Fit net now :=
  ⟨h.accounted.reorder turn, h.wound.reorder turn⟩

/-! ### Numbers -/

/-- A session that has reached its target has the connection to it, whether it can be announced or
    not. -/
theorem number?_announce (protocol : Protocol) (target : Text) (o : Outbound) (s : Session) :
    (s.announce protocol target o).number? = some o.number := by
  unfold announce
  split
  · rfl
  · split
    · rfl
    · exact number?_fail _ _ _

/-- The number that a dial has to give away shows only in the connection that gets it. -/
theorem dial_cases (next next' now : Nat) (s : Session) :
    s.dial next now = s.dial next' now ∨ (s.dial next now).number? = some next := by
  unfold Session.dial
  split
  · split
    · exact .inl rfl
    · exact .inr (number?_announce _ _ _ s)
    · exact .inl rfl
  · exact .inl rfl

/-- **Another number** makes no difference to a session that settles, unless its connection gets
    it. -/
theorem settle_cases (net : Network) (next next' now : Nat) (s : Session) :
    s.settle net next now = s.settle net next' now ∨
      (s.settle net next now).number? = some next := by
  unfold Session.settle
  generalize ((s.peek now).readHead net now).negotiate net now = asked
  rcases dial_cases next next' now asked with hsame | hmade
  · exact .inl (by rw [hsame])
  · refine .inr ?_
    rw [number?_relay, number?_tell]
    exact hmade

/-- **A session keeps the number** of its connection. -/
theorem Accounted.number?_settle (h : s.Accounted net) {n : Nat} (hn : s.number? = some n)
    (next now : Nat) : (s.settle net next now).number? = some n := by
  have hasked := ((h.peek now).readHead now).negotiate now
  have hsame : (((s.peek now).readHead net now).negotiate net now).number? = some n := by
    rw [number?_negotiate, number?_readHead, number?_peek, hn]
  unfold Session.settle
  rw [number?_relay, number?_tell]
  generalize ((s.peek now).readHead net now).negotiate net now = asked at hasked hsame ⊢
  rcases number?_dial next now asked with hkept | ⟨⟨protocol, d, hphase⟩, -⟩
  · rw [hkept, hsame]
  · -- A session that dials has no connection yet.
    rw [Accounted, hphase] at hasked
    rw [number?, hasked.1] at hsame
    cases hsame

end ForwardProxy.Session
