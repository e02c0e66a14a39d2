import ForwardProxy.Proofs.Session.Discipline
import ForwardProxy.Proofs.Session.Sight
import Mathlib.Data.List.Induction

namespace ForwardProxy

/-!
# Dispatch shows in nothing

A session that is entered by its first octet looks at that octet, which reads ahead, and lets the
protocol that the octet tells take over.  From then on it is seen to be the session of that
protocol, begun at that instant on a stream that nobody has looked at.  A session whose client
sends nothing in time does nothing but leave.

* `Lookahead.scan_fill`, `Lookahead.readExact_fill` — reading does not show what was read ahead.
* `Opening.Greets` — the first thing that a client does is to send octets, in time.
* `Opening.direct` — the session of a protocol, begun without looking at anything.
* `Opening.behind_of_greets` — a session goes on as the one begun directly does.
* `Opening.dormant` — a session that hears nothing in time waits and leaves.
* `Opening.dispatched` — what is seen of a session that is entered by its first octet.
-/

/-! ### Reading behind a peek -/

namespace Lookahead

variable {l l' : Lookahead} {b : UInt8} {bs : Bytes}

/-- A buffer that is filled stays as it is. -/
theorem fill_fill (h : l.fill = (.ready (b :: bs), l')) : l'.fill = l.fill := by
  have hahead : l'.ahead = b :: bs := (items_fill_of_ready h).2
  rw [h, fill, hahead]
  rfl

/-- Reading ahead does not change what a scan finds. -/
theorem scan_fill {σ : Type} (step : σ → UInt8 → σ × Bool) (s : σ)
    (h : l.fill = (.ready (b :: bs), l')) : l'.scan step s = l.scan step s := by
  have hfill := (fill_fill h).trans h
  rw [scan, hfill, scan, h]

/-- A read that does not pass the buffer by takes from it. -/
theorem read_fill {n : Nat} (hn : n < capacity) (h : l.fill = (.ready (b :: bs), l')) :
    l'.read n = l.read n := by
  have hpass : ∀ m : Lookahead, (m.ahead.isEmpty && capacity ≤ n) = false := by
    intro m
    simp [Nat.not_le.2 hn]
  simp only [read, hpass, fill_fill h, Bool.false_eq_true, if_false]

/-- Reading ahead does not change what is read of a given length. -/
theorem readExact_fill {n : Nat} (hpos : 0 < n) (hn : n < capacity)
    (h : l.fill = (.ready (b :: bs), l')) : l'.readExact n = l.readExact n := by
  rw [readExact, readExact, if_neg (Nat.ne_of_gt hpos), if_neg (Nat.ne_of_gt hpos), read_fill hn h]

/-- The buffer fills from the first chunk. -/
theorem fill_of_first (hahead : l.ahead = [])
    (hfirst : l.channel.inbox.head? = some (.data (b :: bs))) :
    ∃ more l', l.fill = (.ready (b :: more), l') := by
  obtain ⟨⟨inbox, ended, room, fault, shut, written⟩, ahead⟩ := l
  dsimp only at hahead hfirst
  subst hahead
  obtain ⟨rest, rfl⟩ := List.head?_eq_some_iff.1 hfirst
  exact ⟨bs.take (capacity - 1), _, rfl⟩

/-- A stream on which octets come first has nothing else to show to a peek. -/
theorem fill_of_silent (hproper : l.Proper) (hahead : l.ahead = [])
    (hfirst : ∀ b bs, l.channel.inbox.head? ≠ some (.data (b :: bs))) :
    (l.fill = (.ready [], l) ∧ l.channel.ended = true) ∨
      (∃ f l', l.fill = (.failed f, l') ∧ l.channel.inbox ≠ []) ∨
      l.fill = (.blocked, l) ∧ l.channel.inbox = [] ∧ l.channel.ended = false := by
  obtain ⟨⟨inbox, ended, room, fault, shut, written⟩, ahead⟩ := l
  dsimp only at hahead hfirst
  subst hahead
  -- A peek shows the first arrival, or whether the stream is at its end.
  cases inbox with
  | nil =>
    cases ended with
    | true => exact .inl ⟨rfl, rfl⟩
    | false => exact .inr (.inr ⟨rfl, rfl, rfl⟩)
  | cons a rest =>
    cases a with
    | fault f => exact .inr (.inl ⟨f, _, rfl, List.cons_ne_nil _ _⟩)
    | data bs =>
      cases bs with
      | nil => exact absurd List.mem_cons_self hproper
      | cons b bs => exact absurd rfl (hfirst b bs)

end Lookahead

namespace HeadReader

/-- A reader that takes octets does not show what was read ahead. -/
theorem attempt_fill {terms : HeadTerms} {deadline now : Nat} {r : HeadReader} {l l' : Lookahead}
    {b : UInt8} {bs : Bytes} (hopen : r.isDone = false) (h : l.fill = (.ready (b :: bs), l')) :
    r.attempt terms deadline now l' = r.attempt terms deadline now l := by
  have hrun : r.run l' = r.run l := by
    simp only [run, hopen, Bool.false_eq_true, if_false, Lookahead.scan_fill _ _ h]
  rw [attempt, hrun]
  rfl

/-- A reader that may take nothing takes nothing. -/
theorem attempt_start_zero (terms : HeadTerms) (deadline now : Nat) (l : Lookahead) :
    (start 0).attempt terms deadline now l = (.over (.error (.requestTooLarge terms.cap)), l) := rfl

end HeadReader

/-- A handshake does not show what was read ahead before it. -/
theorem Socks5.Handshake.run_fill {l l' : Lookahead} {b : UInt8} {bs : Bytes}
    (h : l.fill = (.ready (b :: bs), l')) : start.run l' = start.run l := by
  have hfield : field 2 [] l' = field 2 [] l := by
    unfold field
    rw [Lookahead.readExact_fill (by decide) (by decide) h]
  show readGreeting [] l' = readGreeting [] l
  rw [readGreeting, hfield]
  rfl

/-! ### The order of the halves -/

/-- The order in which the halves of a tunnel move after everything that happened. -/
def SessionRun.turnAfter (turn : Turn) (es : List SessionRun.Event) : Turn :=
  es.foldl (fun turn e =>
    match e with
    | .reorder turn => turn
    | _ => turn) turn

/-- The order of the halves after two parts of a run is told by one after the other. -/
theorem SessionRun.turnAfter_append (turn : Turn) (es more : List SessionRun.Event) :
    turnAfter turn (es ++ more) = turnAfter (turnAfter turn es) more := List.foldl_append

namespace Opening

open SessionRun (Event Watched)

/-! ### What is seen of a session -/

/-- The session and everything that was seen of it. -/
def watched (v : Opening) (es : List Event) : Watched :=
  (Watched.start v.network v.now
    (.start v.settings v.peer v.entry v.turn v.now ((Channel.idle v.room).applyAll v.early))).run es

/-- Everything that was seen of the session, and when. -/
def seen (v : Opening) (es : List Event) : List (Nat × Session.Sight) := (v.watched es).seen

variable {v : Opening} {es more : List Event} {b : UInt8} {t : Nat}

/-- Watching a session does not change it. -/
theorem current_watched (v : Opening) (es : List Event) : (v.watched es).current = v.after es :=
  Watched.current_run _ es

/-- What is seen in two parts of a run is seen in one after the other. -/
theorem watched_append (v : Opening) (es more : List Event) :
    v.watched (es ++ more) = (v.watched es).run more := List.foldl_append

/-- What is seen of a session after one thing more. -/
theorem watched_concat (v : Opening) (es : List Event) (e : Event) :
    v.watched (es ++ [e]) = (v.watched es).step e := v.watched_append es [e]

/-! ### The first octet -/

/-- The instant at which a client has to have sent something. -/
def peekDeadline (v : Opening) : Nat := Time.deadline v.now v.settings.peekTimeout

/-- The first thing that the client does is to send octets, the first of them `b`; it does so before
    the session begins, or after that and before the peek deadline. -/
structure Greets (v : Opening) (es : List Event) (b : UInt8) : Prop where
  first : ∃ bs, (v.client es).channel.inbox.head? = some (.data (b :: bs))
  fresh : ∀ es', es' <+: es → es' ≠ es →
    (v.client es').channel.inbox = [] ∧ (v.client es').channel.ended = false
  in_time : es = [] ∨ (v.after es).now < v.peekDeadline

/-- The session of the protocol that `b` tells, begun after `es` on a stream that nobody has looked
    at. -/
def direct (v : Opening) (es : List Event) (b : UInt8) : Opening :=
  { v with
    entry := .speaking (Protocol.detect b)
    turn := SessionRun.turnAfter v.turn es
    now := (v.after es).now
    early := v.early ++ SessionRun.clientEvents es }

/-- A session that waits for the first octet. -/
def listening (v : Opening) (turn : Turn) (client : Lookahead) : Session where
  settings := v.settings
  peer := v.peer
  entry := .detecting
  turn := turn
  client := client
  outbound := none
  phase := .peeking v.peekDeadline
  log := []
  lookups := []
  dials := []

/-- A session that speaks the protocol that `b` tells, from `t` on. -/
def speaking (v : Opening) (b : UInt8) (turn : Turn) (t : Nat) (client : Lookahead) : Session where
  settings := v.settings
  peer := v.peer
  entry := .speaking (Protocol.detect b)
  turn := turn
  client := client
  outbound := none
  phase := Session.opening v.settings t (Protocol.detect b)
  log := []
  lookups := []
  dials := []

/-- The protocol that takes over from a peek does not show that there was one. -/
theorem gist_taken_over {turn : Turn} {l l' : Lookahead} {bs : Bytes} {log : List LogLine}
    (net : Network) (hfill : l.fill = (.ready (b :: bs), l')) :
    (((({ v.speaking b turn t l' with entry := .detecting, log := log } : Session).readHead
      net t).negotiate net t).gist) =
      (((v.speaking b turn t l).readHead net t).negotiate net t).gist := by
  have htook := l.took_fill
  rw [hfill] at htook
  have hgist : ∀ l : Lookahead,
      ({ v.speaking b turn t l with entry := .detecting, log := log } : Session).gist =
        (v.speaking b turn t l).gist := by
    intro l
    unfold speaking
    cases Protocol.detect b <;> rfl
  -- What is left is the stream: the reader of either protocol meets the same octets on both.
  refine (Session.gist_congr (Session.gist_negotiate net t)
    (Session.gist_congr (Session.gist_readHead net t) (hgist l'))).trans ?_
  unfold speaking
  cases Protocol.detect b with
  | socks5 =>
    show (Session.negotiate net t ⟨_, _, _, _, _, _, .negotiating _ _, _, _, _⟩).gist =
      (Session.negotiate net t ⟨_, _, _, _, _, _, .negotiating _ _, _, _, _⟩).gist
    unfold Session.negotiate
    dsimp only
    rw [Socks5.Handshake.run_fill hfill]
  | httpConnect =>
    refine Session.gist_congr (Session.gist_negotiate net t) ?_
    unfold Session.readHead Session.opening
    dsimp only
    cases hcap : v.settings.maxRequestBytes with
    | zero =>
      -- The request is too large before anything is read, so that the streams differ still.
      rw [HeadReader.attempt_start_zero, HeadReader.attempt_start_zero]
      show Session.mk _ _ _ _ _ _ _ _ _ _ = Session.mk _ _ _ _ _ _ _ _ _ _
      congr 1
      exact htook.writeSide_eq
    | succ cap =>
      rw [HeadReader.attempt_fill rfl hfill]

/-- **An octet that comes first** makes a session go on as the session of its protocol, on the
    stream as it is. -/
theorem gist_settle_of_first {turn : Turn} {l : Lookahead} {bs : Bytes} (net : Network) (next : Nat)
    (hahead : l.ahead = []) (hfirst : l.channel.inbox.head? = some (.data (b :: bs))) :
    ((v.listening turn l).settle net next t).gist =
      ((v.speaking b turn t l).settle net next t).gist := by
  obtain ⟨more, l', hfill⟩ := Lookahead.fill_of_first hahead hfirst
  -- The one session peeks, which leaves it in the phase that the other one is in, but for what is
  -- read ahead and a line of log.
  obtain ⟨log, hpeek⟩ : ∃ log, (v.listening turn l).peek t =
      { v.speaking b turn t l' with entry := .detecting, log := log } := by
    let routed : LogLine :=
      ⟨.debug, s!"routing {String.ofList v.peer.render} as {(Protocol.detect b).name}"⟩
    refine ⟨[routed], ?_⟩
    unfold Session.peek listening
    dsimp only
    rw [Lookahead.peek, hfill]
    rfl
  have hspeaking : (v.speaking b turn t l).peek t = v.speaking b turn t l := by
    unfold speaking
    cases Protocol.detect b <;> rfl
  refine Session.gist_goOn next t ?_
  rw [hpeek, hspeaking]
  exact gist_taken_over net hfill

/-! ### Waiting for it -/

/-- The session is over without having done anything. -/
structure Left (s : Session) : Prop where
  finished : s.phase = .finished none
  blank : s.sight = .blank true

/-- Nothing has been heard: the session listens, or it has left for want of time or because the
    client sent something else than octets. -/
inductive Dormant (v : Opening) (es : List Event) (t : Nat) : Watched → Prop where
  | listening {seen : List (Nat × Session.Sight)} (quiet : (v.client es).channel.inbox = [])
      (lasting : (v.client es).channel.ended = false) (early : t < v.peekDeadline)
      (blank : ∀ p ∈ seen, p.1 ≤ t ∧ p.2 = .blank false) :
      Dormant v es t
        ⟨⟨t, v.network, v.listening (SessionRun.turnAfter v.turn es) (v.client es)⟩, seen⟩
  | left {s : Session} {seen : List (Nat × Session.Sight)} (left : Left s)
      (cause : v.peekDeadline ≤ t ∨ (v.client es).channel.inbox ≠ [] ∨
        (v.client es).channel.ended = true)
      (blank : ∀ p ∈ seen, p.2 = .blank true ∨ p.2 = .blank false ∧ p.1 < v.peekDeadline)
      (closed : ∃ p ∈ seen, p.1 ≤ v.peekDeadline ∧ p.2 = .blank true) :
      Dormant v es t ⟨⟨t, v.network, s⟩, seen⟩

/-- A session that has left does nothing more. -/
theorem Left.settled {s : Session} (h : Left s) (net : Network) (next t : Nat) :
    Left (((((s.readHead net t).negotiate net t).dial next t).tell t).relay t) := by
  obtain ⟨settings, peer, entry, turn, client, outbound, phase, log, lookups, dials⟩ := s
  obtain ⟨rfl, blank⟩ := h
  exact ⟨rfl, blank⟩

/-- A session that was left does not find out a protocol any more. -/
theorem Left.peek {s : Session} (h : Left s) (t : Nat) : Left (s.peek t) := by
  obtain ⟨settings, peer, entry, turn, client, outbound, phase, log, lookups, dials⟩ := s
  obtain ⟨rfl, blank⟩ := h
  exact ⟨rfl, blank⟩

/-- However a session leaves that has told its client nothing, it has done nothing. -/
theorem left_finish {s : Session} (huntold : Untold s.client) (houtbound : s.outbound = none)
    (hlookups : s.lookups = []) (hdials : s.dials = []) : Left (s.finish none) := by
  refine ⟨rfl, ?_⟩
  show Session.Sight.mk s.client.channel.written true true s.lookups s.dials
    ((s.outbound.map Outbound.close).map _) = _
  rw [huntold.written_eq, houtbound, hlookups, hdials]
  rfl

/-- A session that listens and meets no octets leaves, or goes on listening before the deadline. -/
theorem settle_listening {turn : Turn} {l : Lookahead} (hproper : l.Proper) (huntold : Untold l)
    (hahead : l.ahead = [])
    (hfirst : ∀ b bs, l.channel.inbox.head? ≠ some (.data (b :: bs))) :
    Left ((v.listening turn l).settle v.network 0 t) ∧
        (v.peekDeadline ≤ t ∨ l.channel.inbox ≠ [] ∨ l.channel.ended = true) ∨
      (v.listening turn l).settle v.network 0 t = v.listening turn l ∧
        l.channel.inbox = [] ∧ l.channel.ended = false ∧ t < v.peekDeadline := by
  have htook := l.took_fill
  -- The peek meets the end, or a failure, or nothing: only then does it look at the clock.
  rcases l.fill_of_silent hproper hahead hfirst with
    ⟨hfill, hended⟩ | ⟨f, l', hfill, harrived⟩ | ⟨hfill, hnil, hopen⟩
  · refine .inl ⟨Left.settled ?_ _ _ _, .inr (.inr hended)⟩
    unfold Session.peek listening
    dsimp only
    rw [Lookahead.peek, hfill]
    exact left_finish huntold rfl rfl rfl
  · rw [hfill] at htook
    refine .inl ⟨Left.settled ?_ _ _ _, .inr (.inl harrived)⟩
    unfold Session.peek listening
    dsimp only
    rw [Lookahead.peek, hfill]
    exact left_finish (huntold.took htook) rfl rfl rfl
  · by_cases hlate : v.peekDeadline ≤ t
    · refine .inl ⟨Left.settled ?_ _ _ _, .inl hlate⟩
      unfold Session.peek listening
      dsimp only
      rw [Lookahead.peek, hfill]
      dsimp only
      rw [if_pos hlate]
      exact left_finish huntold rfl rfl rfl
    · refine .inr ⟨?_, hnil, hopen, Nat.lt_of_not_le hlate⟩
      have hpeek : (v.listening turn l).peek t = v.listening turn l := by
        unfold Session.peek listening
        dsimp only
        rw [Lookahead.peek, hfill]
        dsimp only
        rw [if_neg hlate]
      rw [Session.settle, hpeek]
      rfl

/-- A session that was left stays so when it settles. -/
theorem Left.settle {s : Session} (h : Left s) (net : Network) (next t : Nat) :
    Left (s.settle net next t) := (h.peek t).settled net next t

/-- A session that was left stays so whatever its client does. -/
theorem Left.applyClient {s : Session} (h : Left s) (e : Channel.Event) :
    Left (s.applyClient e) := by
  refine ⟨h.finished, Eq.trans ?_ h.blank⟩
  show Session.Sight.mk _ _ _ _ _ _ = Session.Sight.mk _ _ _ _ _ _
  congr 1
  · exact Lookahead.written_apply e s.client
  · exact Lookahead.shut_apply e s.client

/-- A session that was left stays so whatever a target does. -/
theorem Left.applyPeer {s : Session} (h : Left s) (number : Nat) (e : Channel.Event) :
    Left (s.applyPeer number e) := by
  obtain ⟨settings, peer, entry, turn, client, outbound, phase, log, lookups, dials⟩ := s
  cases outbound with
  | none => exact h
  | some o =>
    have htarget := congrArg Session.Sight.target h.blank
    cases htarget

/-- A session that was left has no tunnel whose halves could change their order. -/
theorem Left.reorder {s : Session} (h : Left s) (turn : Turn) : Left (s.reorder turn) := by
  obtain ⟨settings, peer, entry, turn', client, outbound, phase, log, lookups, dials⟩ := s
  obtain ⟨rfl, blank⟩ := h
  exact ⟨rfl, blank⟩

/-- A session that has settled, and what was seen of it then. -/
theorem dormant_settle {now : Nat} {seen : List (Nat × Session.Sight)}
    (hfirst : ∀ b bs, (v.client es).channel.inbox.head? ≠ some (.data (b :: bs)))
    (hdeadline : t ≤ v.peekDeadline)
    (hblank : ∀ p ∈ seen, p.1 ≤ t ∧ p.1 < v.peekDeadline ∧ p.2 = .blank false) :
    v.Dormant es t (Watched.settle t
      ⟨⟨now, v.network, v.listening (SessionRun.turnAfter v.turn es) (v.client es)⟩, seen⟩) := by
  rcases settle_listening (t := t) (v.proper_client es) (v.untold_client es) (v.ahead_client es)
    hfirst with ⟨hleft, hcause⟩ | ⟨hsame, hquiet, hlasting, hearly⟩
  · refine .left hleft hcause (fun p hp => ?_) ⟨_, List.mem_concat_self, hdeadline, hleft.blank⟩
    rcases List.mem_append.1 hp with hp | hp
    · exact .inr ⟨(hblank p hp).2.2, (hblank p hp).2.1⟩
    · cases List.mem_singleton.1 hp
      exact .inl hleft.blank
  · show v.Dormant es t ⟨⟨t, v.network, Session.settle v.network 0 t (v.listening _ _)⟩,
      seen ++ [(t, Session.sight (Session.settle v.network 0 t (v.listening _ _)))]⟩
    rw [hsame]
    refine .listening hquiet hlasting hearly fun p hp => ?_
    rcases List.mem_append.1 hp with hp | hp
    · exact ⟨(hblank p hp).1, (hblank p hp).2.2⟩
    · cases List.mem_singleton.1 hp
      refine ⟨Nat.le_refl t, ?_⟩
      show Session.Sight.mk (v.client es).channel.written (v.client es).channel.shut false [] []
        none = _
      rw [(v.untold_client es).written_eq, (v.untold_client es).open_eq]
      rfl

/-- A session that was left before its first octet is dormant for good. -/
theorem dormant_of_left {s : Session} {seen : List (Nat × Session.Sight)} {now : Nat}
    (hleft : Left s)
    (hcause : v.peekDeadline ≤ t ∨ (v.client es).channel.inbox ≠ [] ∨
      (v.client es).channel.ended = true)
    (hblank : ∀ p ∈ seen, p.2 = .blank true ∨ p.2 = .blank false ∧ p.1 < v.peekDeadline)
    (hclosed : ∃ p ∈ seen, p.1 ≤ v.peekDeadline ∧ p.2 = .blank true) :
    v.Dormant es t (Watched.settle t ⟨⟨now, v.network, s⟩, seen⟩) := by
  have hsettled := hleft.settle v.network 0 t
  obtain ⟨p, hp, hclosed⟩ := hclosed
  refine .left hsettled hcause (fun p hp => ?_) ⟨p, List.mem_append_left _ hp, hclosed⟩
  rcases List.mem_append.1 hp with hp | hp
  · exact hblank p hp
  · cases List.mem_singleton.1 hp
    exact .inl hsettled.blank

/-- What is dormant stays so while time goes by, with nothing heard from the client. -/
theorem Dormant.settle {now : Nat} {w : Watched} (h : v.Dormant es now w) (hle : now ≤ t)
    (hstop : ∀ d ∈ w.deadlines, now < d → t ≤ d) : v.Dormant es t (w.settle t) := by
  cases h with
  | listening quiet lasting early blank =>
    have hdeadline : t ≤ v.peekDeadline := hstop _ (List.mem_singleton_self _) early
    refine dormant_settle (fun b bs hfirst => ?_) hdeadline fun p hp => ?_
    · rw [quiet] at hfirst
      cases hfirst
    · have := (blank p hp).1
      exact ⟨by omega, by omega, (blank p hp).2⟩
  | left left cause blank closed =>
    exact dormant_of_left left (cause.imp_left fun h => Nat.le_trans h hle) blank closed

/-- The stream of a client that goes on does not begin again. -/
theorem ended_of_isPrefix {es' : List Event} (h : es <+: es')
    (hended : (v.client es).channel.ended = true) : (v.client es').channel.ended = true := by
  obtain ⟨more, rfl⟩ := h
  rw [client_append]
  generalize SessionRun.clientEvents more = events
  generalize v.client es = l at hended
  induction events generalizing l with
  | nil => exact hended
  | cons e events ih => exact ih (l.apply e) (Lookahead.items_apply_of_ended hended e).2

/-- Octets that come to a session which listens greet it. -/
theorem greets_concat {e : Event} {bs : Bytes} (hquiet : (v.client es).channel.inbox = [])
    (hlasting : (v.client es).channel.ended = false)
    (hearly : (v.after (es ++ [e])).now < v.peekDeadline)
    (hfirst : (v.client (es ++ [e])).channel.inbox.head? = some (.data (b :: bs))) :
    v.Greets (es ++ [e]) b := by
  refine ⟨⟨bs, hfirst⟩, fun es' hes' hne => ?_, .inr hearly⟩
  have hle : es' <+: es := (List.prefix_concat_iff.1 hes').resolve_left hne
  refine ⟨List.prefix_nil.1 (hquiet ▸ v.inbox_isPrefix hle), ?_⟩
  cases hended : (v.client es').channel.ended with
  | false => rfl
  | true => exact (ended_of_isPrefix hle hended).symm.trans hlasting

/-- A session leaves for good. -/
theorem cause_mono {es' : List Event} {t' : Nat} (hes : es <+: es') (ht : t ≤ t')
    (h : v.peekDeadline ≤ t ∨ (v.client es).channel.inbox ≠ [] ∨
      (v.client es).channel.ended = true) :
    v.peekDeadline ≤ t' ∨ (v.client es').channel.inbox ≠ [] ∨
      (v.client es').channel.ended = true := by
  rcases h with h | h | h
  · exact .inl (Nat.le_trans h ht)
  · exact .inr (.inl fun hnil => h (List.prefix_nil.1 (hnil ▸ v.inbox_isPrefix hes)))
  · exact .inr (.inr (ended_of_isPrefix hes h))

/-- Where the client does nothing, a dormant session stays so. -/
theorem Dormant.extend {es' : List Event} {w : Watched} (h : v.Dormant es t w)
    (hclient : v.client es' = v.client es)
    (hturn : SessionRun.turnAfter v.turn es' = SessionRun.turnAfter v.turn es) :
    v.Dormant es' t w := by
  cases h with
  | listening quiet lasting early blank =>
    rw [← hclient] at quiet lasting
    rw [← hclient, ← hturn]
    exact .listening quiet lasting early blank
  | left left cause blank closed =>
    rw [← hclient] at cause
    exact .left left cause blank closed

/-- A dormant session has no target to hear from. -/
theorem Dormant.applyPeer {w : Watched} (h : v.Dormant es t w) (number : Nat) (e : Channel.Event) :
    v.Dormant es t { w with current.session := w.current.session.applyPeer number e } := by
  cases h with
  | listening quiet lasting early blank => exact .listening quiet lasting early blank
  | left left cause blank closed => exact .left (left.applyPeer number e) cause blank closed

/-- A dormant session is watched up to now. -/
theorem Dormant.now_eq {w : Watched} (h : v.Dormant es t w) : w.current.now = t := by
  cases h <;> rfl

/-- What is done to a dormant session leaves it so, unless octets come. -/
theorem Dormant.concat {e : Event} (h : v.Dormant es (v.after es).now (v.watched es))
    (hno : ∀ b, ¬v.Greets (es ++ [e]) b) :
    v.Dormant (es ++ [e]) (v.after (es ++ [e])).now (v.watched (es ++ [e])) := by
  have hle : es <+: es ++ [e] := List.prefix_append _ _
  have hnow := v.now_after_concat es e
  have hclient := v.client_append es [e]
  have hturn := SessionRun.turnAfter_append v.turn es [e]
  have hgreets := fun b bs => @greets_concat v es b e bs
  have hstay := h.now_eq
  rw [watched_concat]
  generalize v.watched es = w at h hstay
  generalize (v.after es).now = now at h hnow hstay
  cases e with
  | client e =>
    rw [hnow]
    cases h with
    | @listening seen quiet lasting early blank =>
      -- Octets would be a greeting, since nothing has been heard before.
      have hdormant := @dormant_settle v _ now now seen
        (fun b bs hfirst => hno b (hgreets b bs quiet lasting (by rw [hnow]; exact early) hfirst))
        (Nat.le_of_lt early) fun p hp => by
          have := (blank p hp).1
          exact ⟨this, by omega, (blank p hp).2⟩
      rw [hturn, hclient] at hdormant
      exact hdormant
    | left left cause blank closed =>
      exact dormant_of_left (left.applyClient e) (cause_mono hle (Nat.le_refl _) cause) blank closed
  | peer number e =>
    rw [hnow]
    have hdormant := ((h.extend hclient hturn).applyPeer number e).settle (Nat.le_refl now)
      fun d _ hd => Nat.le_of_lt hd
    rw [← hstay] at hdormant ⊢
    exact hdormant
  | wait span =>
    rw [hnow]
    -- The clock stops at the peek deadline, so that the session does not leave behind it.
    have hrun := Clock.run_preserves_stopping
      (fun _ _ w hle' _ hstop (hw : v.Dormant (es ++ [.wait span]) _ w) => hw.settle hle' hstop)
      (Nat.le_add_right now span) (h.extend hclient hturn)
    rw [← hstay] at hrun ⊢
    exact hrun
  | reorder turn =>
    rw [hnow]
    cases h with
    | listening quiet lasting early blank =>
      have hdormant : v.Dormant (es ++ [.reorder turn]) now
          ⟨⟨now, v.network, v.listening (SessionRun.turnAfter v.turn (es ++ [.reorder turn]))
            (v.client (es ++ [.reorder turn]))⟩, _⟩ :=
        .listening (hclient ▸ quiet) (hclient ▸ lasting) early blank
      rw [hturn, hclient] at hdormant
      exact hdormant
    | left left cause blank closed =>
      exact .left (left.reorder turn) (cause_mono hle (Nat.le_refl _) cause) blank closed

/-- A session that detects its protocol begins by listening for the first octet. -/
theorem watched_nil (hentry : v.entry = .detecting) :
    v.watched [] = Watched.settle v.now
      ⟨⟨v.now, v.network, v.listening (SessionRun.turnAfter v.turn []) (v.client [])⟩, []⟩ := by
  show Watched.settle v.now ⟨⟨v.now, v.network, Session.start _ _ _ _ _ _⟩, []⟩ = _
  rw [hentry]
  rfl

/-- **A session that nobody greets** waits for its deadline and leaves. -/
theorem dormant (hentry : v.entry = .detecting)
    (hno : ∀ es' b, es' <+: es → ¬v.Greets es' b) :
    v.Dormant es (v.after es).now (v.watched es) := by
  induction es using List.reverseRecOn with
  | nil =>
    rw [watched_nil hentry]
    refine dormant_settle (fun b bs hfirst => ?_) (Time.le_deadline _ _) nofun
    exact hno [] b (List.prefix_refl _)
      ⟨⟨bs, hfirst⟩, fun es' hes' hne => absurd (List.prefix_nil.1 hes') hne, .inl rfl⟩
  | append_singleton es e ih =>
    refine (ih fun es' b hes' => ?_).concat fun b => hno _ b (List.prefix_refl _)
    exact hno es' b (hes'.trans (List.prefix_append _ _))

/-- Before a client greets a session, nothing greets it. -/
theorem Greets.not_before {e : Event} (h : v.Greets (es ++ [e]) b) (es' : List Event) (b' : UInt8)
    (hes' : es' <+: es) : ¬v.Greets es' b' := by
  rintro ⟨⟨bs, hfirst⟩, -, -⟩
  have hne : es' ≠ es ++ [e] := by
    rintro rfl
    exact absurd hes'.length_le (by simp)
  rw [(h.fresh es' (hes'.trans (List.prefix_append _ _)) hne).1] at hfirst
  cases hfirst

/-- A session of the protocol of the first octet begins where the detecting one has come to. -/
theorem watched_direct (v : Opening) (es : List Event) (b : UInt8) :
    (v.direct es b).watched [] = Watched.settle (v.after es).now
      ⟨⟨(v.after es).now, v.network,
        v.speaking b (SessionRun.turnAfter v.turn es) (v.after es).now (v.client es)⟩, []⟩ := by
  show Watched.settle (v.after es).now ⟨⟨(v.after es).now, v.network,
    Session.start v.settings v.peer (.speaking (Protocol.detect b))
      (SessionRun.turnAfter v.turn es) (v.after es).now
      ((Channel.idle v.room).applyAll (v.early ++ SessionRun.clientEvents es))⟩, []⟩ = _
  rw [client_eq, Channel.applyAll_append]
  rfl

/-- Where octets greet a session, it has listened up to then. -/
theorem Greets.listened (h : v.Greets es b) (hentry : v.entry = .detecting) :
    ∃ now before, (∀ p ∈ before, p.1 ≤ (v.after es).now ∧ p.2 = .blank false) ∧
      v.watched es = Watched.settle (v.after es).now
        ⟨⟨now, v.network, v.listening (SessionRun.turnAfter v.turn es) (v.client es)⟩, before⟩ := by
  cases es using List.reverseRecOn with
  | nil => exact ⟨v.now, [], nofun, watched_nil hentry⟩
  | append_singleton es e =>
    obtain ⟨hquiet, hlasting⟩ := h.fresh es (List.prefix_append _ _) (by simp)
    have hdormant := dormant hentry h.not_before
    have hnow := v.now_after_concat es e
    have hclient := v.client_append es [e]
    have hturn := SessionRun.turnAfter_append v.turn es [e]
    obtain ⟨bs, hfirst⟩ := h.first
    -- Only something that the client does brings octets.
    obtain ⟨ev, rfl⟩ : ∃ ev, e = .client ev := by
      cases e with
      | client ev => exact ⟨ev, rfl⟩
      | _ =>
        rw [hclient] at hfirst
        exact absurd (hquiet ▸ hfirst) nofun
    have hearly : (v.after (es ++ [.client ev])).now < v.peekDeadline :=
      h.in_time.resolve_left (by simp)
    rw [hnow] at hearly ⊢
    rw [watched_concat, hclient, hturn]
    generalize v.watched es = w at hdormant
    generalize (v.after es).now = now at hdormant hearly
    cases hdormant with
    | listening quiet lasting early blank => exact ⟨now, _, blank, rfl⟩
    | left left cause blank closed =>
      -- A session that has left is none that can still be greeted.
      rcases cause with hc | hc | hc
      · exact absurd hearly (Nat.not_lt.2 hc)
      · exact absurd hquiet hc
      · exact absurd (hc.symm.trans hlasting) (by decide)

/-- **Dispatch shows in nothing:** a session that is greeted goes on as the one of its protocol
    does that begins there. -/
theorem behind_of_greets (h : v.Greets es b) (hentry : v.entry = .detecting) :
    ∃ before, (∀ p ∈ before, p.1 ≤ (v.after es).now ∧ p.2 = .blank false) ∧
      ∀ more, (v.watched (es ++ more)).behind [] =
        ((v.direct es b).watched more).behind before := by
  obtain ⟨now, before, hblank, hwatched⟩ := h.listened hentry
  obtain ⟨bs, hfirst⟩ := h.first
  refine ⟨before, hblank, fun more => ?_⟩
  rw [watched_append]
  -- From the settling on that meets the octet, both sessions are of one gist.
  refine Watched.behind_run ?_ more
  rw [hwatched]
  refine Eq.trans (Watched.behind_settle_of_gist ?_) (congrArg _ (v.watched_direct es b)).symm
  show SessionRun.mk _ _ _ = SessionRun.mk _ _ _
  congr 1
  exact gist_settle_of_first v.network 0 (v.ahead_client es) hfirst

/-! ### What it comes to -/

/-- What is seen of a session that is entered by its first octet. -/
structure Dispatched (v : Opening) (es : List Event) : Prop where
  /-- From a greeting on, it is what is seen of the session of its protocol that begins there; up to
      then nothing is done. -/
  greeted : ∀ es₀ more b, es = es₀ ++ more → v.Greets es₀ b →
    ∃ before, v.seen es = before ++ (v.direct es₀ b).seen more ∧
      ∀ p ∈ before, p.1 ≤ (v.after es₀).now ∧ p.2 = .blank false
  /-- Without a greeting nothing is done at all, and the client's stream is closed from the peek
      deadline on. -/
  ungreeted : (∀ es' b, es' <+: es → ¬v.Greets es' b) →
    ∀ p ∈ v.seen es, ∃ closed, p.2 = .blank closed ∧ (v.peekDeadline ≤ p.1 → closed = true)
  /-- It is closed by then. -/
  closed : (∀ es' b, es' <+: es → ¬v.Greets es' b) → v.peekDeadline ≤ (v.after es).now →
    ∃ p ∈ v.seen es, p.1 ≤ v.peekDeadline ∧ p.2 = .blank true

/-- **Dispatch.**  A session that is entered by its first octet is seen to do nothing before that
    octet, and from then on what the session of its protocol does that begins at that instant, on
    the stream as it is: it tells and closes the client, looks up, connects and sends the same at
    the same instants.  Without an octet in time it does nothing but close, by the deadline. -/
theorem dispatched (v : Opening) (es : List Event) (hentry : v.entry = .detecting) :
    v.Dispatched es := by
  refine ⟨fun es₀ more b hes hgreets => ?_, fun hno p hp => ?_, fun hno hlate => ?_⟩
  · obtain ⟨before, hblank, hbehind⟩ := behind_of_greets hgreets hentry
    subst hes
    exact ⟨before, congrArg Watched.seen (hbehind more), hblank⟩
  · have hdormant := dormant hentry hno
    show ∃ closed, _
    have hp : p ∈ (v.watched es).seen := hp
    -- Without a first octet nothing is seen but the session itself, open until its deadline and
    -- closed after.
    generalize v.watched es = w at hdormant hp
    cases hdormant with
    | listening quiet lasting early blank =>
      have := (blank p hp).1
      exact ⟨false, (blank p hp).2, fun h => by omega⟩
    | left left cause blank closed =>
      rcases blank p hp with h | ⟨h, hearly⟩
      · exact ⟨true, h, fun _ => rfl⟩
      · exact ⟨false, h, fun h => by omega⟩
  · have hdormant := dormant hentry hno
    show ∃ p ∈ (v.watched es).seen, _
    generalize v.watched es = w at hdormant
    cases hdormant with
    | listening quiet lasting early blank => exact absurd early (Nat.not_lt.2 hlate)
    | left left cause blank closed => exact closed

/-- A client that offers a method is seen to be served as if nobody had looked at its offer. -/
theorem dispatched_of_offer :
    let v : Opening := ⟨.empty, .standard, .v4 ⟨1, 1, 1, 2⟩ 2, .detecting, ⟨true, true⟩, 0, none,
      []⟩
    let es : List Event := [.wait 5, .client (.send [5, 1, 0])]
    v.Greets es 5 ∧
      ∃ before, v.seen (es ++ [.wait 7]) = before ++ (v.direct es 5).seen [.wait 7] := by
  intro v es
  have hgreets : v.Greets es 5 := by
    refine @greets_concat v [.wait 5] 5 _ [1, 0] rfl rfl ?_ rfl
    decide +kernel
  obtain ⟨before, hseen, -⟩ := (dispatched v (es ++ [.wait 7]) rfl).greeted es _ 5 rfl hgreets
  exact ⟨hgreets, before, hseen⟩

end Opening

end ForwardProxy
