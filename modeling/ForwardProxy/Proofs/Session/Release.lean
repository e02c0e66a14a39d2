import ForwardProxy.Proofs.Network.Destinations
import ForwardProxy.Proofs.Session.Acts
import ForwardProxy.Proofs.Session.Requests

namespace ForwardProxy

/-!
# The connections of a session

A session begins with the connection of its client and brings about one more at most.  It lets go of
neither but by ending, and then of both.

* `Session.Accounted` — what a session holds, phase by phase.
* `Session.Accounted.act` — nothing that a session does upsets the account.
* `SessionRun.Move`, `SessionRun.moves` — a session that does one thing at a time, in any order with
  everything else.
* `SessionRun.reaches_run` — a session that runs is a session that moves.
* `Opening.leaks_nothing` — no session leaks a connection.
-/

/-! ### The account of a session -/

namespace Session

/-- The connection that a dial has brought about and the session has not taken over yet. -/
def pending? (s : Session) : Option SocketAddress :=
  match s.phase with
  | .dialling _ d => d.attempt.reach.address?
  | _ => none

/-- Every connection that came about is the one that the session holds. -/
def Held (net : Network) (s : Session) : Prop :=
  net.accepted s.dials = s.outbound.toList.map Outbound.address

/-- Both connections of a session are closed. -/
def Released (s : Session) : Prop :=
  s.client.channel.shut = true ∧ ∀ o ∈ s.outbound, o.stream.channel.shut = true

/-- What a session holds: nothing that it dialled before it dials, what its dial brought about while
    it dials, and from then on the one connection that there is, which is closed at the end. -/
def Accounted (net : Network) (s : Session) : Prop :=
  match s.phase with
  | .peeking _ | .readingHead _ _ | .negotiating _ _ => s.dials = [] ∧ s.outbound = none
  | .dialling _ d => s.outbound = none ∧ net.accepted s.dials = d.attempt.reach.address?.toList
  | .finished _ => s.Held net ∧ s.Released
  | _ => s.Held net

variable {net : Network} {s : Session}

/-- In every phase, the connections that came about are the one that is held and the one that is
    pending. -/
theorem Accounted.accepted_dials (h : s.Accounted net) :
    net.accepted s.dials = s.pending?.toList ++ s.outbound.toList.map Outbound.address := by
  obtain ⟨settings, peer, entry, turn, client, outbound, phase, log, lookups, dials⟩ := s
  cases phase with
  | peeking | readingHead | negotiating =>
    obtain ⟨rfl, rfl⟩ := h
    rfl
  | dialling =>
    obtain ⟨rfl, hreach⟩ := h
    exact hreach.trans (List.append_nil _).symm
  | finished => exact h.1
  | _ => exact h

/-- There is never more than one. -/
theorem Accounted.length_accepted_le (h : s.Accounted net) :
    (net.accepted s.dials).length ≤ 1 := by
  obtain ⟨settings, peer, entry, turn, client, outbound, phase, log, lookups, dials⟩ := s
  -- What a session holds is the one connection that it has, or none.
  have hone {α β : Type} (o : Option α) (f : α → β) : (o.toList.map f).length ≤ 1 := by
    cases o <;> simp
  cases phase with
  | peeking | readingHead | negotiating =>
    obtain ⟨rfl, -⟩ := h
    exact Nat.zero_le 1
  | dialling protocol d =>
    obtain ⟨-, hreach⟩ := h
    rw [hreach]
    cases d.attempt.reach.address? <;> simp
  | finished =>
    rw [h.1]
    exact hone _ _
  | _ =>
    rw [show net.accepted dials = _ from h]
    exact hone _ _

/-- A session that is over has closed all that it held. -/
theorem Accounted.released (h : s.Accounted net) (hover : s.isOver = true) : s.Released := by
  obtain ⟨settings, peer, entry, turn, client, outbound, phase, log, lookups, dials⟩ := s
  cases phase with
  | finished => exact h.2
  | _ => cases hover

/-! ### Endings -/

/-- A session that ends closes what it holds. -/
theorem Held.finish (h : s.Held net) (failure : Option SessionFailure) :
    (s.finish failure).Accounted net := by
  refine ⟨?_, rfl, fun o ho => ?_⟩
  · show net.accepted s.dials = (s.outbound.map Outbound.close).toList.map Outbound.address
    rw [h]
    cases s.outbound <;> rfl
  · obtain ⟨o', -, rfl⟩ := Option.map_eq_some_iff.1 ho
    rfl

/-- A session that fails closes what it held. -/
theorem Held.fail (h : s.Held net) (protocol : Protocol) (failure : SessionFailure) :
    (s.fail protocol failure).Accounted net := by
  unfold Session.fail
  split <;> exact Held.finish (by exact h) _

/-- A session that refuses still holds what it held, until its client was told. -/
theorem Held.refuse (h : s.Held net) (failure : Failure) : (s.refuse failure).Accounted net := by
  unfold Session.refuse
  split
  · exact h
  · exact h.fail _ _

/-- A session that ends as its tunnel has ended closes what it held. -/
theorem Held.conclude (h : s.Held net) (protocol : Protocol) (target : Text) (stats : TunnelStats) :
    (s.conclude protocol target stats).Accounted net := by
  unfold Session.conclude
  split
  · exact Held.finish (by exact h) _
  · exact Held.finish (by exact h) _
  · exact Held.fail (by exact h) _ _

/-- A session that has not dialled holds all the connections that came about: none. -/
theorem held_of_undialled (h : s.dials = [] ∧ s.outbound = none) : s.Held net := by
  rw [Held, h.1, h.2]
  rfl

/-! ### What a session does -/

/-- A session holds nothing when its protocol begins. -/
theorem accounted_opening (h : s.dials = [] ∧ s.outbound = none) (settings : Settings) (now : Nat)
    (protocol : Protocol) :
    Accounted net { s with phase := opening settings now protocol } := by
  cases protocol <;> exact h

/-- Finding out the protocol leaves accounted for what a session holds. -/
theorem Accounted.peek (h : s.Accounted net) (now : Nat) : (s.peek now).Accounted net := by
  unfold Session.peek
  split
  · rename_i deadline hphase
    have hundialled : s.dials = [] ∧ s.outbound = none := by rwa [Accounted, hphase] at h
    have hheld : s.Held net := held_of_undialled hundialled
    split
    · exact accounted_opening (by exact hundialled) _ _ _
    · exact Held.finish (by exact hheld) _
    · exact Held.finish (by exact hheld) _
    · split
      · exact Held.finish (by exact hheld) _
      · rw [Accounted, hphase]
        exact hundialled
  · exact h

/-- A session that begins to dial has no connection, and its dial accepts one at most. -/
theorem accounted_beginDial (h : s.dials = [] ∧ s.outbound = none) (now : Nat)
    (protocol : Protocol) (target : Text) :
    (s.beginDial net now protocol target).Accounted net := by
  refine ⟨h.2, ?_⟩
  show net.accepted (s.dials ++ (net.attempt target).connects) = _
  rw [h.1, List.nil_append]
  exact net.accepted_connects target

/-- Reading a request head leaves accounted for what a session holds. -/
theorem Accounted.readHead (h : s.Accounted net) (now : Nat) :
    (s.readHead net now).Accounted net := by
  unfold Session.readHead
  split
  · rename_i reader deadline hphase
    have hundialled : s.dials = [] ∧ s.outbound = none := by rwa [Accounted, hphase] at h
    have hheld : s.Held net := held_of_undialled hundialled
    split
    · exact hundialled
    · exact Held.refuse (by exact hheld) _
    · split
      · exact Held.refuse (by exact hheld) _
      · exact accounted_beginDial (by exact hundialled) _ _ _
  · exact h

/-- Negotiating leaves accounted for what a session holds. -/
theorem Accounted.negotiate (h : s.Accounted net) (now : Nat) :
    (s.negotiate net now).Accounted net := by
  unfold Session.negotiate
  split
  · rename_i handshake deadline hphase
    have hundialled : s.dials = [] ∧ s.outbound = none := by rwa [Accounted, hphase] at h
    have hheld : s.Held net := held_of_undialled hundialled
    split
    · split
      · exact accounted_beginDial (by exact hundialled) _ _ _
      · exact hheld
    · exact Held.fail (by exact hheld) _ _
    · split
      · exact Held.fail (by exact hheld) _ _
      · exact hundialled
  · exact h

/-- A session that takes over the connection of its dial holds what came about. -/
theorem accounted_announce {o : Outbound} (h : net.accepted s.dials = [o.address])
    (protocol : Protocol) (target : Text) : (s.announce protocol target o).Accounted net := by
  unfold announce
  split
  · exact h
  · split
    · exact h
    · exact Held.fail (by exact h) _ _

/-- A dial that reaches its target hands over the connection; one that fails has none to hand over.
    -/
theorem Accounted.dial (h : s.Accounted net) (next now : Nat) :
    (s.dial next now).Accounted net := by
  unfold Session.dial
  split
  · rename_i protocol d hphase
    have hdial : s.outbound = none ∧ net.accepted s.dials = d.attempt.reach.address?.toList := by
      rwa [Accounted, hphase] at h
    unfold Dial.outcome?
    cases hreach : d.attempt.reach with
    | connected address greeting known room =>
      rw [hreach] at hdial
      exact accounted_announce hdial.2 _ _
    | failed fault =>
      have hheld : s.Held net := by rw [Held, hdial.1, hdial.2, hreach]; rfl
      cases protocol with
      | httpConnect => exact hheld.refuse _
      | socks5 => exact hheld
    | hanging =>
      have hheld : s.Held net := by rw [Held, hdial.1, hdial.2, hreach]; rfl
      dsimp only
      by_cases hlapsed : d.deadline ≤ now
      · rw [if_pos hlapsed]
        cases protocol with
        | httpConnect => exact hheld.refuse _
        | socks5 => exact hheld
      · rw [if_neg hlapsed]
        exact h
  · exact h

/-- Answering leaves a session what it holds, or closes it. -/
theorem Accounted.tell (h : s.Accounted net) (now : Nat) : (s.tell now).Accounted net := by
  unfold Session.tell
  split
  · rename_i failure left hphase
    have hheld : s.Held net := by rwa [Accounted, hphase] at h
    split
    · exact Held.fail (by exact hheld) _ _
    · exact hheld
    · exact Held.fail (by exact hheld) _ _
  · rename_i failure reply hphase
    have hheld : s.Held net := by rwa [Accounted, hphase] at h
    split
    · rw [Accounted, hphase]
      exact hheld
    · exact Held.fail (by exact hheld) _ _
  · rename_i target left hphase
    have hheld : s.Held net := by rwa [Accounted, hphase] at h
    split
    · exact hheld
    · exact hheld
    · exact Held.fail (by exact hheld) _ _
  · rename_i target reply hphase
    have hheld : s.Held net := by rwa [Accounted, hphase] at h
    split
    · exact hheld
    · rw [Accounted, hphase]
      exact hheld
    · exact Held.fail (by exact hheld) _ _
  · exact h

/-- No move of the tunnel opens or closes a connection unaccounted for. -/
theorem Accounted.carry (h : s.Accounted net) (now : Nat) (m : TunnelRun.Move) :
    (s.carry now m).Accounted net := by
  unfold Session.carry
  split
  · rename_i protocol target tunnel o hphase houtbound
    have hheld : net.accepted s.dials = [o.address] := by
      rw [Accounted, hphase] at h
      exact h.trans (by rw [houtbound]; rfl)
    split
    · exact hheld
    · exact h
  · exact h

/-- A session that ends if its tunnel has closes what it held. -/
theorem Accounted.concludeOver (h : s.Accounted net) : s.concludeOver.Accounted net := by
  unfold Session.concludeOver
  split
  · rename_i protocol target tunnel o hphase houtbound
    split
    · exact h
    · have hheld : s.Held net := by rwa [Accounted, hphase] at h
      exact hheld.conclude _ _ _
  · exact h

/-- **Nothing that a session does** upsets the account. -/
theorem Accounted.act (h : s.Accounted net) (next now : Nat) (a : Act) :
    (s.act net next now a).Accounted net := by
  cases a with
  | peek => exact h.peek now
  | readHead => exact h.readHead now
  | negotiate => exact h.negotiate now
  | dial => exact h.dial next now
  | tell => exact h.tell now
  | carry m => exact h.carry now m
  | conclude => exact h.concludeOver

/-- A session that has just begun holds nothing. -/
theorem accounted_start (settings : Settings) (peer : SocketAddress) (entry : Entry) (turn : Turn)
    (now : Nat) (channel : Channel) :
    (Session.start settings peer entry turn now channel).Accounted net := by
  cases entry with
  | detecting => exact ⟨rfl, rfl⟩
  | speaking protocol => cases protocol <;> exact ⟨rfl, rfl⟩

/-! ### What others do -/

/-- What a client does opens no connection. -/
theorem Accounted.applyClient (h : s.Accounted net) (e : Channel.Event) :
    (s.applyClient e).Accounted net := by
  obtain ⟨settings, peer, entry, turn, client, outbound, phase, log, lookups, dials⟩ := s
  cases phase with
  | finished => exact ⟨h.1, (Lookahead.shut_apply e client).trans h.2.1, h.2.2⟩
  | _ => exact h

/-- What a target does leaves the connection that is held. -/
theorem Held.applyPeer (h : s.Held net) (number : Nat) (e : Channel.Event) :
    (s.applyPeer number e).Held net := by
  refine h.trans ?_
  show _ = (s.outbound.map fun o => if o.number = number then o.apply e else o).toList.map _
  cases s.outbound with
  | none => rfl
  | some o =>
    show [o.address] = [(if o.number = number then o.apply e else o).address]
    split <;> rfl

/-- What a target does opens no connection. -/
theorem Accounted.applyPeer (h : s.Accounted net) (number : Nat) (e : Channel.Event) :
    (s.applyPeer number e).Accounted net := by
  obtain ⟨settings, peer, entry, turn, client, outbound, phase, log, lookups, dials⟩ := s
  cases phase with
  | peeking | readingHead | negotiating | dialling =>
    -- There is no connection that anything could happen on.
    simp only [Accounted] at h
    simp only [Accounted, Session.applyPeer, h, Option.map_none, and_self]
  | finished =>
    refine ⟨h.1.applyPeer number e, h.2.1, fun o ho => ?_⟩
    obtain ⟨o', ho', rfl⟩ := Option.map_eq_some_iff.1 ho
    split
    · exact (Lookahead.shut_apply e o'.stream).trans (h.2.2 o' ho')
    · exact h.2.2 o' ho'
  | _ => exact Held.applyPeer h number e

/-- The order of the halves opens no connection. -/
theorem Accounted.reorder (h : s.Accounted net) (turn : Turn) : (s.reorder turn).Accounted net := by
  obtain ⟨settings, peer, entry, turn', client, outbound, phase, log, lookups, dials⟩ := s
  cases phase <;> exact h

/-! ### Settled points -/

/-- A session that is over has no connection pending. -/
theorem pending?_of_isOver (h : s.isOver = true) : s.pending? = none := by
  unfold isOver at h
  unfold pending?
  split at h
  · rename_i hphase
    rw [hphase]
  · cases h

/-- A session that fails is over. -/
theorem isOver_fail (protocol : Protocol) (failure : SessionFailure) (s : Session) :
    (s.fail protocol failure).isOver = true := by
  unfold Session.fail
  split <;> rfl

/-- A session that refuses has no connection pending. -/
theorem pending?_refuse (failure : Failure) (s : Session) :
    (s.refuse failure).pending? = none := by
  unfold Session.refuse
  split
  · rfl
  · exact pending?_of_isOver (isOver_fail _ _ _)

/-- A session takes over the connection that its dial has brought about. -/
theorem pending?_dial (next now : Nat) (s : Session) : (s.dial next now).pending? = none := by
  unfold Session.dial
  split
  · rename_i protocol d hphase
    split
    · rename_i hnone
      rw [pending?, hphase]
      -- A dial without an outcome hangs, so there is no address that it could have connected to.
      unfold Dial.outcome? at hnone
      cases hreach : d.attempt.reach with
      | hanging => exact congrArg Reach.address? hreach
      | _ => rw [hreach] at hnone; cases hnone
    · unfold announce
      split
      · rfl
      · split
        · rfl
        · exact pending?_of_isOver (isOver_fail _ _ _)
    · cases protocol with
      | httpConnect => exact pending?_refuse _ _
      | socks5 => rfl
  · rename_i hphase
    unfold pending?
    split
    · rename_i protocol d hdialling
      exact absurd hdialling (hphase protocol d)
    · rfl

/-- Answering leaves no connection pending. -/
theorem pending?_tell (h : s.pending? = none) (now : Nat) : (s.tell now).pending? = none := by
  unfold Session.tell
  split
  · split
    · exact pending?_of_isOver (isOver_fail _ _ _)
    · rfl
    · exact pending?_of_isOver (isOver_fail _ _ _)
  · split
    · exact h
    · exact pending?_of_isOver (isOver_fail _ _ _)
  · split
    · rfl
    · rfl
    · exact pending?_of_isOver (isOver_fail _ _ _)
  · split
    · rfl
    · exact h
    · exact pending?_of_isOver (isOver_fail _ _ _)
  · exact h

/-- Relaying leaves no connection pending. -/
theorem pending?_relay (h : s.pending? = none) (now : Nat) : (s.relay now).pending? = none := by
  unfold Session.relay
  split
  · dsimp only
    split
    · rfl
    · unfold Session.conclude
      split
      · rfl
      · rfl
      · exact pending?_of_isOver (isOver_fail _ _ _)
  · exact h

/-- A session that has settled has no connection pending. -/
theorem pending?_settle (net : Network) (next now : Nat) (s : Session) :
    (s.settle net next now).pending? = none :=
  pending?_relay (pending?_tell (pending?_dial next now _) now) now

/-- The order of the halves leaves pending what is pending. -/
theorem pending?_reorder (turn : Turn) (s : Session) : (s.reorder turn).pending? = s.pending? := by
  obtain ⟨settings, peer, entry, turn', client, outbound, phase, log, lookups, dials⟩ := s
  cases phase <;> rfl

end Session

/-! ### A session among others -/

namespace SessionRun

/-- One move of a session or of those around it. -/
inductive Move where
  | client (event : Channel.Event)
  /-- Something happens on the connection with a number. -/
  | peer (number : Nat) (event : Channel.Event)
  | reorder (turn : Turn)
  /-- Time goes by. -/
  | tick (span : Nat)
  /-- The session does one thing. -/
  | act (act : Session.Act)
  deriving DecidableEq, Repr

/-- A session after one move. -/
def move (r : SessionRun) : Move → SessionRun
  | .client e => { r with session := r.session.applyClient e }
  | .peer number e => { r with session := r.session.applyPeer number e }
  | .reorder turn => { r with session := r.session.reorder turn }
  | .tick span => { r with now := r.now + span }
  | .act a => { r with session := r.session.act r.network 0 r.now a }

/-- A session after any number of moves. -/
def moves (r : SessionRun) (ms : List Move) : SessionRun := ms.foldl move r

/-- What others do in a move. -/
def Move.event? : Move → Option Event
  | .client e => some (.client e)
  | .peer number e => some (.peer number e)
  | .reorder turn => some (.reorder turn)
  | _ => none

/-- What others do, the clock apart. -/
def Event.deed? : Event → Option Event
  | .wait _ => none
  | e => some e

/-- Whatever moves a session makes, what it holds is accounted for. -/
theorem Accounted.moves {r : SessionRun} (h : r.session.Accounted r.network) (ms : List Move) :
    (r.moves ms).session.Accounted r.network := by
  -- The network has to be carried along: the account is kept against it.
  have hmoves : (r.moves ms).session.Accounted (r.moves ms).network ∧
      (r.moves ms).network = r.network := by
    induction ms generalizing r with
    | nil => exact ⟨h, rfl⟩
    | cons m ms ih =>
      have hmove : (r.move m).session.Accounted (r.move m).network ∧
          (r.move m).network = r.network := by
        cases m with
        | client e => exact ⟨h.applyClient e, rfl⟩
        | peer number e => exact ⟨h.applyPeer number e, rfl⟩
        | reorder turn => exact ⟨h.reorder turn, rfl⟩
        | tick span => exact ⟨h, rfl⟩
        | act a => exact ⟨h.act 0 r.now a, rfl⟩
      exact ⟨(ih hmove.1).1, (ih hmove.1).2.trans hmove.2⟩
  exact hmoves.2 ▸ hmoves.1

/-! ### A session that settles is a session that moves -/

/-- From `r` some moves lead to `r'`, in which others do `events`. -/
def Reaches (r : SessionRun) (events : List Event) (r' : SessionRun) : Prop :=
  ∃ ms, r.moves ms = r' ∧ ms.filterMap Move.event? = events

variable {r r' r'' : SessionRun} {events events' : List Event}

namespace Reaches

theorem refl (r : SessionRun) : r.Reaches [] r := ⟨[], rfl, rfl⟩

/-- One move reaches what it leads to. -/
theorem one (r : SessionRun) (m : Move) : r.Reaches m.event?.toList (r.move m) :=
  ⟨[m], rfl, by cases m <;> rfl⟩

theorem trans (h : r.Reaches events r') (h' : r'.Reaches events' r'') :
    r.Reaches (events ++ events') r'' := by
  obtain ⟨ms, rfl, rfl⟩ := h
  obtain ⟨ms', rfl, rfl⟩ := h'
  exact ⟨ms ++ ms', List.foldl_append, List.filterMap_append⟩

/-- Some moves, and more moves in which others do nothing. -/
theorem andThen (h : r.Reaches events r') (h' : r'.Reaches [] r'') : r.Reaches events r'' := by
  have hboth := h.trans h'
  rwa [List.append_nil] at hboth

end Reaches

/-- The tunnel of a session may make any number of moves. -/
theorem reaches_carry (ms : List TunnelRun.Move) (r : SessionRun) :
    r.Reaches [] { r with session := ms.foldl (fun s m => s.carry r.now m) r.session } := by
  induction ms generalizing r with
  | nil => exact .refl r
  | cons m ms ih => exact (Reaches.one r (.act (.carry m))).trans (ih _)

/-- A tunnel that relays all it can does so move by move. -/
theorem reaches_relay (r : SessionRun) :
    r.Reaches [] { r with session := r.session.relay r.now } := by
  obtain ⟨ms, hrelay⟩ := r.session.relay_eq_foldl r.now
  rw [hrelay]
  exact (reaches_carry ms r).trans (.one _ (.act .conclude))

/-- A session that settles does one thing after the other. -/
theorem reaches_settle {now : Nat} (hle : r.now ≤ now) : r.Reaches [] (settle now r) := by
  have htick : r.Reaches [] { r with now := now } := by
    have hone := Reaches.one r (.tick (now - r.now))
    rwa [move, Nat.add_sub_cancel' hle] at hone
  have hask := ((htick.trans (.one _ (.act .peek))).trans (.one _ (.act .readHead))).trans
    (.one _ (.act .negotiate))
  exact ((hask.trans (.one _ (.act .dial))).trans (.one _ (.act .tell))).trans (reaches_relay _)

/-- Whatever happens to a session that settles, it moves there. -/
theorem reaches_step (r : SessionRun) (e : Event) : r.Reaches e.deed?.toList (r.step e) := by
  cases e with
  | client e => exact (Reaches.one r (.client e)).andThen (reaches_settle (Nat.le_refl _))
  | peer number e => exact (Reaches.one r (.peer number e)).andThen (reaches_settle (Nat.le_refl _))
  | reorder turn => exact .one r (.reorder turn)
  | wait span =>
    have hwait : (r.step (.wait span)).now = r.now + span ∧ r.Reaches [] (r.step (.wait span)) :=
      Clock.run_preserves (P := fun now r' => r'.now = now ∧ r.Reaches [] r')
        (fun now t r' hle hr => ⟨rfl, hr.2.andThen (reaches_settle (hr.1 ▸ hle))⟩)
        (Nat.le_add_right r.now span) ⟨rfl, .refl r⟩
    exact hwait.2

/-- **A session that runs** moves in one of the orders that there are. -/
theorem reaches_run (r : SessionRun) (es : List Event) :
    r.Reaches (es.filterMap Event.deed?) (r.run es) := by
  induction es generalizing r with
  | nil => exact .refl r
  | cons e es ih =>
    have hrest := (reaches_step r e).trans (ih (r.step e))
    cases e <;> exact hrest

/-- At a settled point, the session has taken over what its dial brought about. -/
theorem pending?_step (h : r.session.pending? = none) (e : Event) :
    (r.step e).session.pending? = none := by
  cases e with
  | client e => exact Session.pending?_settle _ _ _ _
  | peer number e => exact Session.pending?_settle _ _ _ _
  | reorder turn => exact (Session.pending?_reorder turn _).trans h
  | wait span =>
    exact Clock.run_preserves (P := fun _ (r : SessionRun) => r.session.pending? = none)
      (fun _ _ _ _ _ => Session.pending?_settle _ _ _ _) (Nat.le_add_right r.now span) h

/-- A session without a pending connection has none after anything that happens. -/
theorem pending?_run (h : r.session.pending? = none) (es : List Event) :
    (r.run es).session.pending? = none := by
  induction es generalizing r with
  | nil => exact h
  | cons e es ih => exact ih (pending?_step h e)

end SessionRun

/-! ### No session leaks a connection -/

/-- A session lets go of no connection that it has. -/
structure Session.Leakless (net : Network) (s : Session) : Prop where
  /-- One connection at most has come about, over all addresses that were dialled. -/
  single : (net.accepted s.dials).length ≤ 1
  /-- It is the one that the session holds, or its dial still does. -/
  held : net.accepted s.dials = s.pending?.toList ++ s.outbound.toList.map Outbound.address
  /-- Once the session is over, both its connections are closed. -/
  closed : s.isOver = true → s.Released

/-- A session that accounts for what it holds leaks nothing. -/
theorem Session.Accounted.leakless {net : Network} {s : Session} (h : s.Accounted net) :
    s.Leakless net :=
  ⟨h.length_accepted_le, h.accepted_dials, h.released⟩

namespace Opening

/-- The session before it does anything. -/
def entered (v : Opening) : SessionRun :=
  ⟨v.now, v.network,
    .start v.settings v.peer v.entry v.turn v.now ((Channel.idle v.room).applyAll v.early)⟩

/-- **No session leaks a connection**, however it is entered, whatever its client, its target and
    the clock do, and in whatever order it goes on.  A session that settles after each thing that
    happens is one of these orders, and holds then what its dial has brought about. -/
theorem leaks_nothing (v : Opening) :
    (∀ ms, (v.entered.moves ms).session.Leakless v.network) ∧
    ∀ es, (v.after es).session.pending? = none ∧
      ∃ ms, v.entered.moves ms = v.after es ∧
        ms.filterMap SessionRun.Move.event? = es.filterMap SessionRun.Event.deed? := by
  have hentered : v.entered.session.Accounted v.entered.network :=
    Session.accounted_start _ _ _ _ _ _
  refine ⟨fun ms => (SessionRun.Accounted.moves hentered ms).leakless, fun es => ⟨?_, ?_⟩⟩
  · exact SessionRun.pending?_run (Session.pending?_settle _ _ _ _) es
  · have hbegun : v.entered.Reaches [] v.begun := SessionRun.reaches_settle (Nat.le_refl _)
    exact hbegun.trans (v.begun.reaches_run es)

/-- A connection whose local address cannot be read: it has come about, and is closed with the
    client. -/
example :
    let target : SocketAddress := .v4 ⟨10, 0, 0, 1⟩ 80
    let v : Opening := ⟨⟨[], [(target, .accepts [] false)]⟩, .standard, .v4 ⟨127, 0, 0, 1⟩ 40000,
      .speaking .socks5, ⟨true, true⟩, 0, none, [.send [5, 1, 0, 5, 1, 0, 1, 10, 0, 0, 1, 0, 80]]⟩
    let s := (v.after []).session
    s.isOver ∧ s.dials = [target] ∧ s.client.channel.shut ∧
      s.outbound.map (fun o => (o.address, o.stream.channel.shut)) = some (target, true) := by
  decide +kernel

end Opening

end ForwardProxy
