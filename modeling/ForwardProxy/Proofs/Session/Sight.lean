import ForwardProxy.Proofs.Stream.Writes
import ForwardProxy.Session.Run

namespace ForwardProxy

/-!
# What others see of a session

Others see what a session writes, what it closes, what it looks up and whom it connects to, and
when.  They do not see its log, how it was entered, or how much it has read ahead.

* `Session.sight` — what there is to see of a session.
* `Session.gist` — a session without all that neither shows nor decides how it goes on.
* `Session.gist_settle` — what a session comes to is told by its gist.
* `SessionRun.Watched` — a session with everything that was seen of it, instant by instant.
* `SessionRun.Watched.behind_run` — sessions of one gist are seen alike, whatever happens to them.
-/

/-! ### The side that is written to -/

namespace Lookahead

variable {l l' : Lookahead}

/-- The stream without anything to read. -/
def writeSide (l : Lookahead) : Lookahead := ⟨{ l.channel with inbox := [], ended := false }, []⟩

/-- The side that is written to is all that is left of itself. -/
@[simp] theorem writeSide_writeSide (l : Lookahead) : l.writeSide.writeSide = l.writeSide := rfl

/-- Closing a stream closes the side that is written to. -/
@[simp] theorem writeSide_close (l : Lookahead) : l.close.writeSide = l.writeSide.close := rfl

/-- Reading does not change the side that is written to. -/
theorem Took.writeSide_eq {bs : Bytes} (h : l.Took bs l') : l'.writeSide = l.writeSide := by
  rw [writeSide, h.channel_eq]
  rfl

/-- What the other side does to a stream shows on the side that is written to. -/
theorem writeSide_apply (e : Channel.Event) (l : Lookahead) :
    (l.apply e).writeSide = (l.writeSide.apply e).writeSide := by
  have harrive : ∀ (m : Lookahead) a,
      (⟨m.channel.arrive a, m.ahead⟩ : Lookahead).writeSide = m.writeSide := by
    intro m a
    unfold Channel.arrive
    split <;> rfl
  cases e with
  | send bs =>
    simp only [apply, Channel.apply]
    split
    · rfl
    · exact (harrive l (.data bs)).trans (harrive l.writeSide (.data bs)).symm
  | failRead f => exact (harrive l (.fault f)).trans (harrive l.writeSide (.fault f)).symm
  | widen amount => cases amount <;> rfl
  | _ => rfl

/-- What a write comes to is told by the side that is written to. -/
theorem write_writeSide (bs : Bytes) (l : Lookahead) :
    l.writeSide.write bs = ((l.write bs).1, (l.write bs).2.writeSide) := by
  obtain ⟨⟨inbox, ended, room, fault, shut, written⟩, ahead⟩ := l
  cases shut with
  | true => rfl
  | false =>
    cases fault with
    | some f => rfl
    | none =>
      cases room with
      | none => rfl
      | some r =>
        simp only [writeSide, write, Channel.write]
        by_cases hfull : (r = 0 && !bs.isEmpty) = true
        · simp [hfull]
        · simp [hfull]

/-- Writing to a stream is writing to the side that is written to. -/
theorem writeAll_writeSide (bs : Bytes) (l : Lookahead) :
    l.writeSide.writeAll bs =
      ((l.writeAll bs).1, (l.writeAll bs).2.1, (l.writeAll bs).2.2.writeSide) := by
  rw [write_writeAll, write_writeAll]
  split
  · rfl
  · rw [write_writeSide]
    rcases l.write bs with ⟨a, m⟩
    cases a with
    | ready k =>
      dsimp only
      split <;> rfl
    | blocked => rfl
    | failed f => rfl

end Lookahead

/-! ### The gist of a session -/

namespace Session

/-- Whether a session may still read from its client. -/
def stillReads (s : Session) : Bool :=
  match s.phase with
  | .refusing _ _ => false
  | .finished _ => false
  | _ => true

/-- A session without its log, how it was entered, and what there is to read once it reads no
    more. -/
def gist (s : Session) : Session :=
  { s with
    entry := .detecting
    log := []
    client := if s.stillReads then s.client else s.client.writeSide }

/-- The gist of a gist is that gist. -/
@[simp] theorem gist_gist (s : Session) : s.gist.gist = s.gist := by
  obtain ⟨settings, peer, entry, turn, client, outbound, phase, log, lookups, dials⟩ := s
  cases phase <;> rfl

/-- The gist decides how a session fails. -/
theorem gist_fail (protocol : Protocol) (failure : SessionFailure) (s : Session) :
    (s.fail protocol failure).gist = (s.gist.fail protocol failure).gist := by
  -- How the session was entered, and by which protocol it fails, decide about the log alone.
  have hfail : ∀ s : Session, (s.fail protocol failure).gist = (s.finish (some failure)).gist := by
    intro s
    unfold fail
    split <;> rfl
  rw [hfail, hfail]
  obtain ⟨settings, peer, entry, turn, client, outbound, phase, log, lookups, dials⟩ := s
  cases phase <;> rfl

/-- The gist decides how a session refuses. -/
theorem gist_refuse (failure : Failure) (s : Session) :
    (s.refuse failure).gist = (s.gist.refuse failure).gist := by
  unfold refuse
  split
  · obtain ⟨settings, peer, entry, turn, client, outbound, phase, log, lookups, dials⟩ := s
    cases phase <;> rfl
  · exact gist_fail _ _ s

/-- The gist decides what a peek comes to. -/
theorem gist_peek (now : Nat) (s : Session) : (s.peek now).gist = (s.gist.peek now).gist := by
  obtain ⟨settings, peer, entry, turn, client, outbound, phase, log, lookups, dials⟩ := s
  cases phase with
  | peeking deadline =>
    simp only [peek, gist, stillReads, if_true]
    rcases client.peek with ⟨a, l⟩
    cases a with
    | ready first =>
      cases first with
      | none => rfl
      | some b => rfl
    | blocked =>
      dsimp only
      split <;> rfl
    | failed f => rfl
  | _ => rfl

/-- What goes on by the gist of a session goes on alike for sessions of one gist. -/
theorem gist_congr {f : Session → Session} (hf : ∀ s, (f s).gist = (f s.gist).gist)
    {s s' : Session} (h : s.gist = s'.gist) : (f s).gist = (f s').gist := by
  rw [hf, h, ← hf]

/-- The gist decides what reading a head comes to. -/
theorem gist_readHead (net : Network) (now : Nat) (s : Session) :
    (s.readHead net now).gist = (s.gist.readHead net now).gist := by
  obtain ⟨settings, peer, entry, turn, client, outbound, phase, log, lookups, dials⟩ := s
  cases phase with
  | readingHead reader deadline =>
    -- The gist of a session that reads a head is that session without its entry and its log.
    show _ = (readHead net now ⟨settings, peer, .detecting, turn, client, outbound,
      .readingHead reader deadline, [], lookups, dials⟩).gist
    unfold readHead
    dsimp only
    rcases reader.attempt settings.headTerms deadline now client with ⟨a, l⟩
    cases a with
    | pending r => rfl
    | _ result =>
      cases result with
      | error failure => exact gist_congr (gist_refuse failure) rfl
      | ok head =>
        dsimp only
        split
        · exact gist_congr (gist_refuse _) rfl
        · rfl
  | _ => rfl

/-- The gist decides what negotiating comes to. -/
theorem gist_negotiate (net : Network) (now : Nat) (s : Session) :
    (s.negotiate net now).gist = (s.gist.negotiate net now).gist := by
  obtain ⟨settings, peer, entry, turn, client, outbound, phase, log, lookups, dials⟩ := s
  cases phase with
  | negotiating handshake deadline =>
    show _ = (negotiate net now ⟨settings, peer, .detecting, turn, client, outbound,
      .negotiating handshake deadline, [], lookups, dials⟩).gist
    unfold negotiate
    dsimp only
    rcases handshake.run client with ⟨h, l⟩
    cases h with
    | understood request =>
      dsimp only
      split <;> rfl
    | failed failure => exact gist_congr (gist_fail _ _) rfl
    | _ =>
      dsimp only
      split
      · exact gist_congr (gist_fail _ _) rfl
      · rfl
  | _ => rfl

/-- The gist decides what a dial comes to. -/
theorem gist_dial (next now : Nat) (s : Session) :
    (s.dial next now).gist = (s.gist.dial next now).gist := by
  obtain ⟨settings, peer, entry, turn, client, outbound, phase, log, lookups, dials⟩ := s
  cases phase with
  | dialling protocol d =>
    show _ = (dial next now ⟨settings, peer, .detecting, turn, client, outbound,
      .dialling protocol d, [], lookups, dials⟩).gist
    unfold dial
    dsimp only
    cases d.outcome? now with
    | none => rfl
    | some result =>
      cases result with
      | error failure =>
        cases protocol with
        | socks5 => rfl
        | httpConnect => exact gist_congr (gist_refuse failure) rfl
      | ok c =>
        cases protocol with
        | httpConnect => rfl
        | socks5 =>
          unfold announce
          dsimp only
          split
          · rfl
          · exact gist_congr (gist_fail _ _) rfl
  | _ => rfl

/-- The gist decides what telling the client comes to. -/
theorem gist_tell (now : Nat) (s : Session) : (s.tell now).gist = (s.gist.tell now).gist := by
  obtain ⟨settings, peer, entry, turn, client, outbound, phase, log, lookups, dials⟩ := s
  cases phase with
  | refusing failure left =>
    -- Nothing is read any more, so that only the side that is written to counts.
    show _ = (tell now ⟨settings, peer, .detecting, turn, client.writeSide, outbound,
      .refusing failure left, [], lookups, dials⟩).gist
    unfold tell
    dsimp only
    rw [Lookahead.writeAll_writeSide]
    rcases client.writeAll left with ⟨a, rest, l⟩
    cases a with
    | ready u => exact gist_congr (gist_fail _ _) rfl
    | blocked => rfl
    | failed f => exact gist_congr (gist_fail _ _) rfl
  | rejecting failure reply =>
    show _ = (tell now ⟨settings, peer, .detecting, turn, client, outbound,
      .rejecting failure reply, [], lookups, dials⟩).gist
    unfold tell
    dsimp only
    rcases client.write reply with ⟨a, l⟩
    cases a with
    | blocked => rfl
    | _ => exact gist_congr (gist_fail _ _) rfl
  | announcing protocol target left =>
    show _ = (tell now ⟨settings, peer, .detecting, turn, client, outbound,
      .announcing protocol target left, [], lookups, dials⟩).gist
    cases protocol with
    | httpConnect =>
      unfold tell
      dsimp only
      rcases client.writeAll left with ⟨a, rest, l⟩
      cases a with
      | failed f => exact gist_congr (gist_fail _ _) rfl
      | _ => rfl
    | socks5 =>
      unfold tell
      dsimp only
      rcases client.write left with ⟨a, l⟩
      cases a with
      | failed f => exact gist_congr (gist_fail _ _) rfl
      | _ => rfl
  | _ => rfl

/-- The gist decides what relaying comes to. -/
theorem gist_relay (now : Nat) (s : Session) : (s.relay now).gist = (s.gist.relay now).gist := by
  obtain ⟨settings, peer, entry, turn, client, outbound, phase, log, lookups, dials⟩ := s
  cases outbound with
  | none => cases phase <;> rfl
  | some o =>
    cases phase with
    | relaying protocol target tunnel =>
      show _ = (relay now ⟨settings, peer, .detecting, turn, client, some o,
        .relaying protocol target tunnel, [], lookups, dials⟩).gist
      unfold relay
      dsimp only
      generalize tunnel.settle now ⟨client, o.stream⟩ = settled
      obtain ⟨t, e⟩ := settled
      dsimp only
      cases t.stats? with
      | none => rfl
      | some stats =>
        dsimp only
        unfold conclude
        dsimp only
        split
        · rfl
        · rfl
        · exact gist_congr (gist_fail _ _) rfl
    | _ => rfl

/-- Sessions of one gist go on alike once what their clients ask for is there. -/
theorem gist_goOn (next now : Nat) {s s' : Session} (h : s.gist = s'.gist) :
    (((s.dial next now).tell now).relay now).gist =
      (((s'.dial next now).tell now).relay now).gist :=
  gist_congr (gist_relay now) (gist_congr (gist_tell now) (gist_congr (gist_dial next now) h))

/-- **What a session comes to is told by its gist.** -/
theorem gist_settle (net : Network) (next now : Nat) (s : Session) :
    (s.settle net next now).gist = (s.gist.settle net next now).gist :=
  gist_goOn next now (gist_congr (gist_negotiate net now)
    (gist_congr (gist_readHead net now) (gist_peek now s)))

/-! ### What others do -/

/-- The gist decides what comes of what a client does. -/
theorem gist_applyClient (e : Channel.Event) (s : Session) :
    (s.applyClient e).gist = (s.gist.applyClient e).gist := by
  -- Only the client's stream is touched, and of it perhaps only the side that is written to counts.
  show Session.mk _ _ _ _ _ _ _ _ _ _ = Session.mk _ _ _ _ _ _ _ _ _ _
  congr 1
  show (if s.stillReads then s.client.apply e else (s.client.apply e).writeSide) =
    if s.stillReads then (if s.stillReads then s.client else s.client.writeSide).apply e
    else ((if s.stillReads then s.client else s.client.writeSide).apply e).writeSide
  split
  · rfl
  · exact Lookahead.writeSide_apply e s.client

/-- The gist decides what comes of what a target does. -/
theorem gist_applyPeer (number : Nat) (e : Channel.Event) (s : Session) :
    (s.applyPeer number e).gist = (s.gist.applyPeer number e).gist := by
  obtain ⟨settings, peer, entry, turn, client, outbound, phase, log, lookups, dials⟩ := s
  cases phase <;> rfl

/-- The order of the halves is part of the gist. -/
theorem gist_reorder (turn : Turn) (s : Session) :
    (s.reorder turn).gist = (s.gist.reorder turn).gist := by
  obtain ⟨settings, peer, entry, turn', client, outbound, phase, log, lookups, dials⟩ := s
  cases phase <;> rfl

/-! ### Sights -/

/-- What is seen of a target that a session is connected to. -/
structure TargetSight where
  address : SocketAddress
  /-- Everything that it was sent. -/
  got : Bytes
  closed : Bool
  deriving DecidableEq, Repr

/-- What is seen of a session. -/
structure Sight where
  /-- Everything that its client was told. -/
  told : Bytes
  closed : Bool
  ended : Bool
  lookups : List Text
  dials : List SocketAddress
  target : Option TargetSight
  deriving DecidableEq, Repr

/-- What is seen of a session that has done nothing, but for closing its client's stream. -/
def Sight.blank (closed : Bool) : Sight := ⟨[], closed, closed, [], [], none⟩

/-- What is seen of a session now. -/
def sight (s : Session) : Sight where
  told := s.client.channel.written
  closed := s.client.channel.shut
  ended := s.isOver
  lookups := s.lookups
  dials := s.dials
  target := s.outbound.map fun o => ⟨o.address, o.stream.channel.written, o.stream.channel.shut⟩

/-- **Sessions of one gist look alike.** -/
theorem sight_gist (s : Session) : s.gist.sight = s.sight := by
  obtain ⟨settings, peer, entry, turn, client, outbound, phase, log, lookups, dials⟩ := s
  cases phase <;> rfl

end Session

/-! ### Watching a session -/

namespace SessionRun

/-- A run without what neither shows nor decides how it goes on. -/
def gist (r : SessionRun) : SessionRun := { r with session := r.session.gist }

/-- A run without what neither shows nor decides settles alike. -/
theorem gist_settle (t : Nat) (r : SessionRun) : (r.settle t).gist = (r.gist.settle t).gist := by
  show SessionRun.mk _ _ _ = SessionRun.mk _ _ _
  congr 1
  exact Session.gist_settle r.network 0 t r.session

/-- A session with everything that was seen of it so far, and when. -/
structure Watched where
  current : SessionRun
  seen : List (Nat × Session.Sight)
  deriving DecidableEq, Repr

namespace Watched

/-- Lets a session do what it can at an instant, and looks at it then. -/
def settle (t : Nat) (w : Watched) : Watched :=
  ⟨w.current.settle t, w.seen ++ [(t, (w.current.settle t).session.sight)]⟩

/-- A session that has just begun, watched from the start. -/
def start (net : Network) (now : Nat) (s : Session) : Watched := settle now ⟨⟨now, net, s⟩, []⟩

/-- The instants that the session waits for. -/
def deadlines (w : Watched) : List Nat := w.current.session.deadlines

/-- The session after something happened to it. -/
def step (w : Watched) : Event → Watched
  | .client e =>
    settle w.current.now { w with current.session := w.current.session.applyClient e }
  | .peer number e =>
    settle w.current.now { w with current.session := w.current.session.applyPeer number e }
  | .wait span =>
    Clock.run deadlines settle (w.current.now + span) w.current.now w
  | .reorder turn => { w with current.session := w.current.session.reorder turn }

/-- The session after everything that happened to it. -/
def run (w : Watched) (es : List Event) : Watched := es.foldl step w

/-- Watching a session changes nothing about it. -/
theorem current_step (w : Watched) (e : Event) : (w.step e).current = w.current.step e := by
  cases e with
  | wait span =>
    refine Clock.run_map (f := current) ?_ ?_ _ _ w
    · intro w
      rfl
    · intro t w
      rfl
  | _ => rfl

/-- Watching a run does not change it. -/
theorem current_run (w : Watched) (es : List Event) : (w.run es).current = w.current.run es := by
  induction es generalizing w with
  | nil => rfl
  | cons e es ih =>
    show ((w.step e).run es).current = (w.current.step e).run es
    rw [ih, current_step]

/-- The gist of a session, where more was seen before. -/
def behind (before : List (Nat × Session.Sight)) (w : Watched) : Watched :=
  ⟨w.current.gist, before ++ w.seen⟩

variable {before : List (Nat × Session.Sight)}

/-- What is seen next is told by the gist, and not by what was seen before. -/
theorem behind_settle (t : Nat) (w : Watched) :
    (w.settle t).behind before = ((w.behind before).settle t).behind [] := by
  have hsight : (w.current.settle t).session.sight = (w.current.gist.settle t).session.sight := by
    rw [← Session.sight_gist, ← Session.sight_gist (w.current.gist.settle t).session]
    exact congrArg (fun r => r.session.sight) (gist_settle t w.current)
  show Watched.mk _ _ = Watched.mk _ _
  congr 1
  · exact gist_settle t w.current
  · show before ++ (w.seen ++ [(t, (w.current.settle t).session.sight)]) =
      before ++ w.seen ++ [(t, (w.current.gist.settle t).session.sight)]
    rw [hsight, List.append_assoc]

/-- Runs that settle to one gist are seen alike then. -/
theorem behind_settle_of_gist {t : Nat} {r r' : SessionRun}
    (h : (r.settle t).gist = (r'.settle t).gist) :
    (settle t ⟨r, before⟩).behind [] = (settle t ⟨r', []⟩).behind before := by
  have hsight : (r.settle t).session.sight = (r'.settle t).session.sight := by
    rw [← Session.sight_gist, ← Session.sight_gist (r'.settle t).session]
    exact congrArg (fun r => r.session.sight) h
  show Watched.mk _ _ = Watched.mk _ _
  congr 1
  show before ++ [(t, (r.settle t).session.sight)] = before ++ [(t, (r'.settle t).session.sight)]
  rw [hsight]

/-- What was seen before stays in front of all that is seen later. -/
theorem behind_step (w : Watched) (e : Event) :
    (w.step e).behind before = ((w.behind before).step e).behind [] := by
  obtain ⟨⟨now, net, s⟩, seen⟩ := w
  -- Whatever is done to a session is told by its gist.
  have hact : ∀ f : Session → Session, (∀ s, (f s).gist = (f s.gist).gist) →
      behind before ⟨⟨now, net, f s⟩, seen⟩ =
        behind [] ⟨⟨now, net, f s.gist⟩, before ++ seen⟩ := by
    intro f hf
    show Watched.mk ⟨now, net, (f s).gist⟩ _ = Watched.mk ⟨now, net, (f s.gist).gist⟩ _
    rw [hf, List.nil_append]
  cases e with
  | client e =>
    show behind before (settle now ⟨⟨now, net, s.applyClient e⟩, seen⟩) =
      behind [] (settle now ⟨⟨now, net, s.gist.applyClient e⟩, before ++ seen⟩)
    rw [behind_settle, hact _ (Session.gist_applyClient e), ← behind_settle]
  | peer number e =>
    show behind before (settle now ⟨⟨now, net, s.applyPeer number e⟩, seen⟩) =
      behind [] (settle now ⟨⟨now, net, s.gist.applyPeer number e⟩, before ++ seen⟩)
    rw [behind_settle, hact _ (Session.gist_applyPeer number e), ← behind_settle]
  | wait span =>
    -- The gist waits for the same instants, and settles at each of them as the session does.
    have hrun : ∀ b w, behind b (Clock.run deadlines settle (now + span) now w) =
        Clock.run deadlines (fun t w => (w.settle t).behind []) (now + span) now (behind b w) := by
      intro b w
      refine Clock.run_map (f := behind b) ?_ ?_ _ _ w
      · intro w
        rfl
      · intro t w
        exact behind_settle t w
    have hid := hact id fun _ => (Session.gist_gist _).symm
    exact (hrun before _).trans ((congrArg _ hid).trans (hrun [] _).symm)
  | reorder turn => exact hact _ (Session.gist_reorder turn)

/-- **Sessions of one gist are seen alike** from there on, whatever happens to them. -/
theorem behind_run {w w' : Watched} (h : w.behind [] = w'.behind before) (es : List Event) :
    (w.run es).behind [] = (w'.run es).behind before := by
  induction es generalizing w w' with
  | nil => exact h
  | cons e es ih =>
    refine ih ?_
    rw [behind_step, h, ← behind_step]

end Watched

end SessionRun

end ForwardProxy
