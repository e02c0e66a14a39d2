import ForwardProxy.Proofs.Session.Discipline
import Mathlib.Data.List.Induction

namespace ForwardProxy

/-!
# How long a session takes to its tunnel

The first octet, the request and the target are each waited for until a deadline, so that a session
is past them once the three spans have gone by.  Between them and the tunnel lies the answer to the
client, which is waited for without a deadline: a client that takes no octets keeps the session
there.

* `Session.isRelaying`, `Session.isAnswering` — where a session stands that is past its deadlines.
* `Opening.Due` — a session keeps its deadlines.
* `Opening.due` — every session does, at every settled point.
* `Opening.lingers_iff` — the sessions that go on without a tunnel when all three spans are over.
-/

/-- The steps of a session, in the order in which they are taken. -/
def Phase.rank : Phase → Nat
  | .peeking _ => 0
  | .readingHead _ _ => 1
  | .negotiating _ _ => 2
  | .dialling _ _ => 3
  | .refusing _ _ => 4
  | .rejecting _ _ => 4
  | .announcing _ _ _ => 4
  | .relaying _ _ _ => 5
  | .finished _ => 6

/-- The instant at which a phase before the answer is given up. -/
def Phase.deadline? : Phase → Option Nat
  | .peeking deadline => some deadline
  | .readingHead _ deadline => some deadline
  | .negotiating _ deadline => some deadline
  | .dialling _ dial => some dial.deadline
  | _ => none

/-- What has a deadline comes before the answer. -/
theorem Phase.rank_lt_of_deadline? {phase : Phase} {d : Nat} (h : phase.deadline? = some d) :
    phase.rank < 4 := by
  cases phase <;> cases h <;> simp [rank]

namespace Session

/-- Whether the tunnel of a session runs. -/
def isRelaying (s : Session) : Bool :=
  match s.phase with
  | .relaying _ _ _ => true
  | _ => false

/-- Whether a session is telling its client what has become of the request. -/
def isAnswering (s : Session) : Bool :=
  match s.phase with
  | .refusing _ _ => true
  | .rejecting _ _ => true
  | .announcing _ _ _ => true
  | _ => false

end Session

/-- A reader that is still waiting has not met its deadline. -/
theorem HeadReader.lt_of_attempt_pending {terms : HeadTerms} {deadline now : Nat}
    {r r' : HeadReader} {l l' : Lookahead}
    (h : r.attempt terms deadline now l = (.pending r', l')) : now < deadline := by
  unfold attempt at h
  split at h
  · split at h
    · cases h
    · omega
  · cases h
  · cases h
  · cases h

/-- A dial that is still under way has not met its deadline. -/
theorem Dial.lt_of_outcome?_eq_none {d : Dial} {now : Nat} (h : d.outcome? now = none) :
    now < d.deadline := by
  unfold outcome? at h
  split at h
  · cases h
  · cases h
  · split at h
    · cases h
    · omega

namespace Opening

open SessionRun (Event)

variable {v : Opening} {es : List Event} {t k : Nat} {s : Session}

/-- The instant by which a phase has ended at the latest. -/
def latest (v : Opening) : Phase → Nat
  | .peeking _ => v.now + v.settings.peekTimeout
  | .readingHead _ _ => v.now + v.settings.peekTimeout + v.settings.requestReadTimeout
  | .negotiating _ _ => v.now + v.settings.peekTimeout + v.settings.requestReadTimeout
  | _ => v.now + v.settings.peekTimeout + v.settings.requestReadTimeout + v.settings.dialTimeout

/-- The three spans end before the clock does. -/
def WithinClock (v : Opening) : Prop :=
  v.now + v.settings.peekTimeout + v.settings.requestReadTimeout + v.settings.dialTimeout <
    Time.horizon

/-- A session keeps its deadlines at `t`; `k` of its steps have been taken at that instant. -/
structure Due (v : Opening) (t k : Nat) (s : Session) : Prop where
  settings_eq : s.settings = v.settings
  /-- Each deadline is set in time and not past, and lies ahead when its step has been taken. -/
  timely : ∀ d, s.phase.deadline? = some d →
    d ≤ v.latest s.phase ∧ t ≤ d ∧ (s.phase.rank < k → t < d)
  /-- An answer that is not written has no room. -/
  stuck : s.phase.rank = 4 → 4 < k → s.client.channel.room = some 0

/-! ### One step -/

/-- A step that a session does not take leaves it as it is. -/
theorem Due.skip (h : v.Due t k s) (hrank : s.phase.rank ≠ k) : v.Due t (k + 1) s := by
  refine ⟨h.settings_eq, fun d hd => ?_, fun hfour hk => h.stuck hfour (by omega)⟩
  obtain ⟨hlatest, hle, hlt⟩ := h.timely d hd
  exact ⟨hlatest, hle, fun hk => hlt (by omega)⟩

/-- A session without a deadline, whose answer is not tried yet, if it has one. -/
theorem due_of_untimed (hsettings : s.settings = v.settings) (hnone : s.phase.deadline? = none)
    (hrank : s.phase.rank = 4 → k ≤ 4) : v.Due t k s := by
  refine ⟨hsettings, fun d hd => ?_, fun hfour hk => absurd (hrank hfour) (by omega)⟩
  rw [hnone] at hd
  cases hd

/-- A session that has failed has no deadline to keep. -/
theorem due_fail (hsettings : s.settings = v.settings) (protocol : Protocol)
    (failure : SessionFailure) : v.Due t k (s.fail protocol failure) := by
  refine due_of_untimed ?_ rfl nofun
  unfold Session.fail
  split <;> exact hsettings

/-- A session that refuses has no deadline to keep, and has yet to tell its client. -/
theorem due_refuse (hsettings : s.settings = v.settings) (failure : Failure) (hk : k ≤ 4) :
    v.Due t k (s.refuse failure) := by
  unfold Session.refuse
  split
  · exact due_of_untimed hsettings rfl fun _ => hk
  · exact due_fail hsettings _ _

/-- A session with a deadline that lies ahead, or whose step is not taken yet. -/
theorem due_of_timed {d : Nat} (hsettings : s.settings = v.settings)
    (hdeadline : s.phase.deadline? = some d) (hlatest : d ≤ v.latest s.phase) (hle : t ≤ d)
    (hahead : k ≤ s.phase.rank ∨ t < d) : v.Due t k s := by
  refine ⟨hsettings, fun d' hd' => ?_, fun hfour => ?_⟩
  · obtain rfl : d = d' := Option.some.inj (hdeadline.symm.trans hd')
    exact ⟨hlatest, hle, fun hk => hahead.resolve_left (by omega)⟩
  · have := Phase.rank_lt_of_deadline? hdeadline
    omega

/-- A deadline that is set in time lies within the clock. -/
theorem deadline_le {span bound : Nat} (h : t + span ≤ bound) (hclock : bound < Time.horizon) :
    Time.deadline t span ≤ bound := by
  rw [Time.deadline_of_lt (by omega)]
  exact h

/-- A request that is read from `t` on. -/
theorem due_opening (hclock : v.WithinClock) (hsettings : s.settings = v.settings)
    (hphase : ∃ protocol, s.phase = Session.opening v.settings t protocol)
    (ht : t ≤ v.now + v.settings.peekTimeout) (hk : k ≤ 1) : v.Due t k s := by
  obtain ⟨protocol, hphase⟩ := hphase
  have hdeadline : Time.deadline t v.settings.requestReadTimeout ≤
      v.now + v.settings.peekTimeout + v.settings.requestReadTimeout := by
    unfold WithinClock at hclock
    exact deadline_le (by omega) (by omega)
  have hlater := Time.le_deadline t v.settings.requestReadTimeout
  cases protocol with
  | socks5 =>
    exact due_of_timed hsettings (congrArg Phase.deadline? hphase)
      (hphase ▸ hdeadline) hlater (.inl (hphase ▸ Nat.le_succ_of_le hk))
  | httpConnect =>
    exact due_of_timed hsettings (congrArg Phase.deadline? hphase)
      (hphase ▸ hdeadline) hlater (.inl (hphase ▸ hk))

/-- A target that is dialled from `t` on. -/
theorem due_beginDial (hclock : v.WithinClock) (hsettings : s.settings = v.settings)
    (net : Network) (protocol : Protocol) (target : Text)
    (ht : t ≤ v.now + v.settings.peekTimeout + v.settings.requestReadTimeout) (hk : k ≤ 3) :
    v.Due t k (s.beginDial net t protocol target) := by
  unfold WithinClock at hclock
  refine due_of_timed (d := Time.deadline t v.settings.dialTimeout) hsettings ?_
    (deadline_le (Nat.add_le_add_right ht _) hclock) (Time.le_deadline _ _) (.inl hk)
  rw [← hsettings]
  rfl

/-! ### The steps -/

/-- Finding out the protocol is done by its deadline. -/
theorem Due.peek (h : v.Due t 0 s) (hclock : v.WithinClock) : v.Due t 1 (s.peek t) := by
  have hsettings := h.settings_eq
  have htimely := h.timely
  obtain ⟨settings, peer, entry, turn, client, outbound, phase, log, lookups, dials⟩ := s
  dsimp only at hsettings htimely
  subst hsettings
  cases phase with
  | peeking d =>
    obtain ⟨hlatest, hle, -⟩ := htimely d rfl
    have hfinish : ∀ s' : Session, s'.settings = v.settings → v.Due t 1 (s'.finish none) :=
      fun s' hs' => due_of_untimed hs' rfl nofun
    unfold Session.peek
    dsimp only
    rcases client.peek with ⟨a, l⟩
    cases a with
    | ready first =>
      cases first with
      | none => exact hfinish _ rfl
      | some b =>
        -- The request is given its span from here, which is no later than the peek deadline.
        exact due_opening hclock rfl ⟨Protocol.detect b, rfl⟩ (Nat.le_trans hle hlatest)
          (Nat.le_refl 1)
    | failed f => exact hfinish _ rfl
    | blocked =>
      dsimp only
      split
      · exact hfinish _ rfl
      · rename_i hahead
        exact due_of_timed rfl rfl hlatest hle (.inr (Nat.lt_of_not_le hahead))
  | _ => exact h.skip nofun

/-- Reading a request head is done by its deadline. -/
theorem Due.readHead (h : v.Due t 1 s) (hclock : v.WithinClock) :
    v.Due t 2 (s.readHead v.network t) := by
  have hsettings := h.settings_eq
  have htimely := h.timely
  obtain ⟨settings, peer, entry, turn, client, outbound, phase, log, lookups, dials⟩ := s
  dsimp only at hsettings htimely
  subst hsettings
  cases phase with
  | readingHead reader d =>
    obtain ⟨hlatest, hle, -⟩ := htimely d rfl
    unfold Session.readHead
    dsimp only
    rcases hattempt : reader.attempt v.settings.headTerms d t client with ⟨a, l⟩
    cases a with
    | pending r =>
      exact due_of_timed rfl rfl hlatest hle (.inr (HeadReader.lt_of_attempt_pending hattempt))
    | _ result =>
      cases result with
      | error failure => exact due_refuse rfl failure (by decide)
      | ok head =>
        dsimp only
        split
        · exact due_refuse rfl _ (by decide)
        · -- So is the dial from here.
          exact due_beginDial hclock rfl _ _ _ (Nat.le_trans hle hlatest) (by decide)
  | _ => exact h.skip nofun

/-- Negotiating is done by its deadline. -/
theorem Due.negotiate (h : v.Due t 2 s) (hclock : v.WithinClock) :
    v.Due t 3 (s.negotiate v.network t) := by
  have hsettings := h.settings_eq
  have htimely := h.timely
  obtain ⟨settings, peer, entry, turn, client, outbound, phase, log, lookups, dials⟩ := s
  dsimp only at hsettings htimely
  subst hsettings
  cases phase with
  | negotiating handshake d =>
    obtain ⟨hlatest, hle, -⟩ := htimely d rfl
    unfold Session.negotiate
    dsimp only
    rcases handshake.run client with ⟨stage, l⟩
    cases stage with
    | understood request =>
      dsimp only
      split
      · exact due_beginDial hclock rfl _ _ _ (Nat.le_trans hle hlatest) (by decide)
      · exact due_of_untimed rfl rfl fun _ => by decide
    | failed failure => exact due_fail rfl _ _
    | _ =>
      -- Every other stage waits for octets, and no longer than up to its deadline.
      dsimp only
      split
      · exact due_fail rfl _ _
      · rename_i hahead
        exact due_of_timed rfl rfl hlatest hle (.inr (Nat.lt_of_not_le hahead))
  | _ => exact h.skip nofun

/-- A dial that is not given up has not met its deadline. -/
theorem Due.dial (h : v.Due t 3 s) : v.Due t 4 (s.dial 0 t) := by
  have hsettings := h.settings_eq
  have htimely := h.timely
  obtain ⟨settings, peer, entry, turn, client, outbound, phase, log, lookups, dials⟩ := s
  dsimp only at hsettings htimely
  subst hsettings
  cases phase with
  | dialling protocol d =>
    obtain ⟨hlatest, hle, -⟩ := htimely d.deadline rfl
    unfold Session.dial
    dsimp only
    -- A dial without an outcome is before its deadline; an outcome leads to a phase without one.
    cases houtcome : d.outcome? t with
    | none =>
      exact due_of_timed rfl rfl hlatest hle (.inr (Dial.lt_of_outcome?_eq_none houtcome))
    | some result =>
      cases result with
      | error failure =>
        cases protocol with
        | httpConnect => exact due_refuse rfl failure (Nat.le_refl 4)
        | socks5 => exact due_of_untimed rfl rfl fun _ => Nat.le_refl 4
      | ok c =>
        cases protocol with
        | httpConnect => exact due_of_untimed rfl rfl fun _ => Nat.le_refl 4
        | socks5 =>
          unfold Session.announce
          dsimp only
          split
          · exact due_of_untimed rfl rfl fun _ => Nat.le_refl 4
          · exact due_fail rfl _ _
  | _ => exact h.skip nofun

/-- An answer is written to its end, or as far as there is room. -/
theorem Due.tell (h : v.Due t 4 s) : v.Due t 5 (s.tell t) := by
  have hsettings := h.settings_eq
  obtain ⟨settings, peer, entry, turn, client, outbound, phase, log, lookups, dials⟩ := s
  dsimp only at hsettings
  subst hsettings
  -- An answer that waits is one for which there is no room.
  have hstuck : ∀ s' : Session, s'.settings = v.settings → s'.phase.rank = 4 →
      s'.client.channel.room = some 0 → v.Due t 5 s' := by
    intro s' hs' hrank hroom
    refine ⟨hs', fun d hd => ?_, fun _ _ => hroom⟩
    have := Phase.rank_lt_of_deadline? hd
    omega
  cases phase with
  | refusing failure left =>
    have hroom (hb : (client.writeAll left).1 = .blocked) := Lookahead.room_writeAll_of_blocked hb
    unfold Session.tell
    dsimp only
    rcases hw : client.writeAll left with ⟨a, rest, l⟩
    rw [hw] at hroom
    cases a with
    | blocked => exact hstuck _ rfl rfl (hroom rfl)
    | _ => exact due_fail rfl _ _
  | rejecting failure reply =>
    have hroom (hb : (client.write reply).1 = .blocked) := Lookahead.room_write_of_blocked hb
    unfold Session.tell
    dsimp only
    rcases hw : client.write reply with ⟨a, l⟩
    rw [hw] at hroom
    cases a with
    | blocked => exact hstuck _ rfl rfl (hroom rfl)
    | _ => exact due_fail rfl _ _
  | announcing protocol target left =>
    unfold Session.tell
    cases protocol with
    | httpConnect =>
      have hroom (hb : (client.writeAll left).1 = .blocked) := Lookahead.room_writeAll_of_blocked hb
      dsimp only
      rcases hw : client.writeAll left with ⟨a, rest, l⟩
      rw [hw] at hroom
      cases a with
      | ready u => exact due_of_untimed rfl rfl nofun
      | blocked => exact hstuck _ rfl rfl (hroom rfl)
      | failed f => exact due_fail rfl _ _
    | socks5 =>
      have hroom (hb : (client.write left).1 = .blocked) := Lookahead.room_write_of_blocked hb
      dsimp only
      rcases hw : client.write left with ⟨a, l⟩
      rw [hw] at hroom
      cases a with
      | ready u => exact due_of_untimed rfl rfl nofun
      | blocked => exact hstuck _ rfl rfl (hroom rfl)
      | failed f => exact due_fail rfl _ _
  | _ => exact h.skip nofun

/-- Relaying has no deadline of this kind. -/
theorem Due.relay (h : v.Due t 5 s) : v.Due t 6 (s.relay t) := by
  have hsettings := h.settings_eq
  unfold Session.relay
  split
  · rename_i protocol target tunnel outbound hphase houtbound
    dsimp only
    split
    · exact due_of_untimed hsettings rfl nofun
    · unfold Session.conclude
      dsimp only
      split
      · exact due_of_untimed hsettings rfl nofun
      · exact due_of_untimed hsettings rfl nofun
      · refine due_fail ?_ _ _
        exact hsettings
  · refine ⟨hsettings, fun d hd => ?_, fun hfour _ => h.stuck hfour (by decide)⟩
    obtain ⟨hlatest, hle, hlt⟩ := h.timely d hd
    exact ⟨hlatest, hle, fun _ => hlt (Nat.lt_succ_of_lt (Phase.rank_lt_of_deadline? hd))⟩

/-- **Settling keeps the deadlines.** -/
theorem Due.settle (h : v.Due t 0 s) (hclock : v.WithinClock) :
    v.Due t 6 (s.settle v.network 0 t) :=
  (((((h.peek hclock).readHead hclock).negotiate hclock).dial).tell).relay

/-! ### What others do -/

/-- The deadline of a phase is one of those of its session. -/
theorem mem_deadlines_of_deadline? {d : Nat} (h : s.phase.deadline? = some d) :
    d ∈ s.deadlines := by
  unfold Session.deadlines
  cases hphase : s.phase <;> rw [hphase] at h <;> cases h <;> exact List.mem_singleton_self _

/-- A settled session settles again at an instant before which no deadline comes. -/
theorem Due.restart {t' : Nat} (h : v.Due t 6 s)
    (hstop : ∀ d ∈ s.deadlines, t < d → t' ≤ d) : v.Due t' 0 s := by
  refine ⟨h.settings_eq, fun d hd => ?_, nofun⟩
  obtain ⟨hlatest, -, hlt⟩ := h.timely d hd
  have hahead : t < d := hlt (by have := Phase.rank_lt_of_deadline? hd; omega)
  exact ⟨hlatest, hstop d (mem_deadlines_of_deadline? hd) hahead, nofun⟩

/-- What a client does moves no deadline. -/
theorem Due.applyClient (h : v.Due t 0 s) (e : Channel.Event) : v.Due t 0 (s.applyClient e) :=
  ⟨h.settings_eq, h.timely, nofun⟩

/-- What a target does moves no deadline. -/
theorem Due.applyPeer (h : v.Due t 0 s) (number : Nat) (e : Channel.Event) :
    v.Due t 0 (s.applyPeer number e) :=
  ⟨h.settings_eq, h.timely, nofun⟩

/-- The order of the halves moves no deadline. -/
theorem Due.reorder (h : v.Due t k s) (turn : Turn) : v.Due t k (s.reorder turn) := by
  obtain ⟨settings, peer, entry, turn', client, outbound, phase, log, lookups, dials⟩ := s
  cases phase with
  | relaying protocol target tunnel => exact due_of_untimed h.settings_eq rfl nofun
  | _ => exact ⟨h.settings_eq, h.timely, h.stuck⟩

/-! ### Every settled point -/

/-- A session that has just begun waits for its first octet or its request. -/
theorem due_start (hclock : v.WithinClock) :
    v.Due v.now 0 (.start v.settings v.peer v.entry v.turn v.now
      ((Channel.idle v.room).applyAll v.early)) := by
  cases hentry : v.entry with
  | detecting =>
    unfold WithinClock at hclock
    have hbound := deadline_le (Nat.le_refl (v.now + v.settings.peekTimeout)) (by omega)
    exact due_of_timed rfl rfl hbound (Time.le_deadline _ _) (.inl (Nat.le_refl 0))
  | speaking protocol =>
    exact due_opening hclock rfl ⟨protocol, rfl⟩ (Nat.le_add_right _ _) (by decide)

/-- **Every session keeps its deadlines**, at every settled point. -/
theorem due (hclock : v.WithinClock) (es : List Event) :
    (v.after es).network = v.network ∧ v.Due (v.after es).now 6 (v.after es).session := by
  -- By induction from the end: each event is followed by a settling, and a wait stops at every
  -- deadline.
  induction es using List.reverseRecOn with
  | nil => exact ⟨rfl, (due_start hclock).settle hclock⟩
  | append_singleton es e ih =>
    obtain ⟨hnetwork, hdue⟩ := ih
    have hagain := hdue.restart fun d _ hd => Nat.le_of_lt hd
    rw [after_concat]
    have hnow := (v.after es).now_step e
    generalize v.after es = r at hnetwork hdue hagain hnow
    cases e with
    | client e =>
      refine ⟨hnetwork, ?_⟩
      show v.Due r.now 6 (Session.settle r.network 0 r.now _)
      rw [hnetwork]
      exact (hagain.applyClient e).settle hclock
    | peer number e =>
      refine ⟨hnetwork, ?_⟩
      show v.Due r.now 6 (Session.settle r.network 0 r.now _)
      rw [hnetwork]
      exact (hagain.applyPeer number e).settle hclock
    | wait span =>
      rw [hnow]
      refine Clock.run_preserves_stopping
        (P := fun t (r : SessionRun) => r.network = v.network ∧ v.Due t 6 r.session) ?_
        (Nat.le_add_right _ _) ⟨hnetwork, hdue⟩
      intro now t r _ _ hstop ⟨hnetwork, hdue⟩
      refine ⟨hnetwork, ?_⟩
      show v.Due t 6 (Session.settle r.network 0 t r.session)
      rw [hnetwork]
      exact (hdue.restart hstop).settle hclock
    | reorder turn => exact ⟨hnetwork, hdue.reorder turn⟩

/-- **What keeps a session from its tunnel** when its three spans are over: it neither has ended nor
    runs its tunnel just if it is telling its client what has become of the request, and the client
    takes no more octets. -/
theorem lingers_iff (v : Opening) (es : List Event) (hclock : v.WithinClock)
    (hlate : v.now + v.settings.peekTimeout + v.settings.requestReadTimeout +
      v.settings.dialTimeout ≤ (v.after es).now) :
    ((v.after es).session.isOver = false ∧ (v.after es).session.isRelaying = false) ↔
      (v.after es).session.isAnswering = true ∧
        (v.after es).session.client.channel.room = some 0 := by
  have hdue := (due hclock es).2
  generalize (v.after es).now = now at hdue hlate
  generalize (v.after es).session = s at hdue
  have hstuck := hdue.stuck
  -- A deadline would lie ahead, and before the end of the spans.
  have huntimed : s.phase.deadline? = none := by
    cases hd : s.phase.deadline? with
    | none => rfl
    | some d =>
      obtain ⟨hlatest, -, hlt⟩ := hdue.timely d hd
      have hrank := Phase.rank_lt_of_deadline? hd
      have hahead := hlt (by omega)
      have hend : v.latest s.phase ≤ now := by
        unfold latest
        split <;> omega
      omega
  unfold Session.isOver Session.isRelaying Session.isAnswering
  cases hphase : s.phase <;> rw [hphase] at huntimed hstuck <;>
    simp_all [Phase.rank, Phase.deadline?]

/-- A client that asks for something else than a connection, and takes the choice of a method but
    no more than that, keeps its session from ending. -/
theorem lingers_of_unread_rejection :
    let v : Opening := ⟨.empty, .standard, .v4 ⟨1, 1, 1, 2⟩ 2, .detecting, ⟨true, true⟩, 0, some 2,
      [.send [5, 1, 0, 5, 2, 0, 1, 1, 2, 3, 4, 0, 80]]⟩
    let s := (v.after [.wait (Duration.ofSeconds 35)]).session
    s.isOver = false ∧ s.isRelaying = false := by
  intro v s
  refine (lingers_iff v [.wait (Duration.ofSeconds 35)] ?_ ?_).2 ?_
  · unfold WithinClock
    decide +kernel
  · decide +kernel
  · decide +kernel

/-- A client that asks for a page and does not read the answer is never given up: its session goes
    on when every span that it was given is over, and a second more. -/
theorem lingers_on_unread_answer :
    let settings : Settings := { Settings.standard with
      peekTimeout := Duration.ofMillis 10
      requestReadTimeout := Duration.ofMillis 10
      dialTimeout := Duration.ofMillis 10 }
    let v : Opening := ⟨.empty, settings, .v4 ⟨127, 0, 0, 1⟩ 40000, .detecting, ⟨true, true⟩, 0,
      some 0, []⟩
    let es : List Event := [.client (.send (ascii "GET / HTTP/1.1\r\n\r\n")),
      .wait (Duration.ofMillis 30), .wait (Duration.ofMillis 1000)]
    v.now + settings.peekTimeout + settings.requestReadTimeout + settings.dialTimeout ≤
        (v.after es).now ∧
      (v.after es).session.isOver = false ∧ (v.after es).session.isRelaying = false := by
  decide +kernel

end Opening

end ForwardProxy
