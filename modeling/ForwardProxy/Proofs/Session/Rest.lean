import ForwardProxy.Proofs.Session.Lingering
import ForwardProxy.Proofs.Session.Pauses
import ForwardProxy.Proofs.Tunnel.Rest

namespace ForwardProxy

/-!
# Sessions at rest

A session that has done at an instant all that it can is at rest.  It waits for its client, for its
target or for a deadline that lies ahead, and as long as none of these does anything, it makes no
difference how often it is looked after.

* `Session.Resting` — what a session at rest waits for, phase by phase.
* `Session.Resting.peek` to `Session.Resting.relay` — each of the six steps leaves such a session.
* `Session.Resting.settle_eq` — a session at rest stays as it is, up to its next deadline.
* `Session.Wound` — the timers of the tunnel were set by now.
* `Session.Calm`, `Session.calm_settle` — a session that settles comes to rest, one step after the
  other.
-/

/-- Whether a handshake goes on. -/
def Socks5.Handshake.isOpen : Handshake → Bool
  | .understood _ => false
  | .failed _ => false
  | _ => true

namespace Session

/-- A session that could do nothing at an instant. -/
def Resting (now : Nat) (s : Session) : Prop :=
  match s.phase with
  | .peeking deadline => s.client.peek = (.blocked, s.client) ∧ now < deadline
  | .readingHead reader deadline => reader.run s.client = (.waiting reader, s.client) ∧ now < deadline
  | .negotiating handshake deadline =>
    handshake.run s.client = (handshake, s.client) ∧ handshake.isOpen = true ∧ now < deadline
  | .dialling _ d => d.outcome? now = none
  | .refusing _ left => s.client.writeAll left = (.blocked, left, s.client)
  | .rejecting _ reply => s.client.write reply = (.blocked, s.client)
  | .announcing .httpConnect _ left => s.client.writeAll left = (.blocked, left, s.client)
  | .announcing .socks5 _ reply => s.client.write reply = (.blocked, s.client)
  | .relaying _ _ tunnel =>
    ∀ o ∈ s.outbound, TunnelRun.Waiting ⟨now, tunnel, ⟨s.client, o.stream⟩⟩
  | .finished _ => True

variable {net : Network} {s : Session} {now t next : Nat}

/-! ### A session at rest stays as it is -/

/-- A dial that goes on does so until its deadline has come. -/
theorem outcome?_of_lt {d : Dial} (h : d.outcome? now = none)
    (hahead : now < d.deadline → t < d.deadline) : d.outcome? t = none := by
  have hnext := hahead (Dial.lt_of_outcome?_eq_none h)
  unfold Dial.outcome? at h ⊢
  cases hreach : d.attempt.reach with
  | hanging => exact if_neg (Nat.not_le_of_lt hnext)
  | _ =>
    rw [hreach] at h
    cases h

/-- A session rests until one of its deadlines has come. -/
theorem Resting.later (h : s.Resting now) (hahead : ∀ d ∈ s.deadlines, now < d → t < d) :
    s.Resting t := by
  obtain ⟨settings, peer, entry, turn, client, outbound, phase, log, lookups, dials⟩ := s
  cases phase with
  | peeking deadline => exact ⟨h.1, hahead _ List.mem_cons_self h.2⟩
  | readingHead reader deadline => exact ⟨h.1, hahead _ List.mem_cons_self h.2⟩
  | negotiating handshake deadline => exact ⟨h.1, h.2.1, hahead _ List.mem_cons_self h.2.2⟩
  | dialling protocol d => exact outcome?_of_lt h (hahead _ List.mem_cons_self)
  | relaying protocol target tunnel => exact fun o ho => (h o ho).later hahead
  | announcing protocol target left => cases protocol <;> exact h
  | _ => exact h

/-- A session at rest that peeks finds nothing, and its deadline lies ahead. -/
theorem Resting.peek (h : s.Resting now) : s.peek now = s := by
  obtain ⟨settings, peer, entry, turn, client, outbound, phase, log, lookups, dials⟩ := s
  cases phase with
  | peeking deadline =>
    obtain ⟨hpeek, hlt⟩ := h
    unfold Session.peek
    dsimp only at hpeek ⊢
    rw [hpeek]
    exact if_neg (Nat.not_le_of_lt hlt)
  | _ => rfl

/-- A session at rest that reads a head goes on waiting for the rest of it. -/
theorem Resting.readHead (h : s.Resting now) (net : Network) : s.readHead net now = s := by
  obtain ⟨settings, peer, entry, turn, client, outbound, phase, log, lookups, dials⟩ := s
  cases phase with
  | readingHead reader deadline =>
    obtain ⟨hrun, hlt⟩ := h
    have hattempt : reader.attempt settings.headTerms deadline now client =
        (.pending reader, client) := by
      rw [HeadReader.attempt, hrun]
      exact if_neg (Nat.not_le_of_lt hlt)
    unfold Session.readHead
    dsimp only
    rw [hattempt]
  | _ => rfl

/-- A session at rest goes on waiting in the same field of its handshake. -/
theorem Resting.negotiate (h : s.Resting now) (net : Network) : s.negotiate net now = s := by
  obtain ⟨settings, peer, entry, turn, client, outbound, phase, log, lookups, dials⟩ := s
  cases phase with
  | negotiating handshake deadline =>
    obtain ⟨hrun, hopen, hlt⟩ := h
    unfold Session.negotiate
    dsimp only at hrun ⊢
    rw [hrun]
    cases handshake with
    | understood request => cases hopen
    | failed failure => cases hopen
    | _ => exact if_neg (Nat.not_le_of_lt hlt)
  | _ => rfl

/-- The dial of a session at rest is still under way. -/
theorem Resting.dial (h : s.Resting now) (next : Nat) : s.dial next now = s := by
  obtain ⟨settings, peer, entry, turn, client, outbound, phase, log, lookups, dials⟩ := s
  cases phase with
  | dialling protocol d =>
    unfold Session.dial
    dsimp only
    rw [show d.outcome? now = none from h]
  | _ => rfl

/-- The client of a session at rest takes nothing of what it is told. -/
theorem Resting.tell (h : s.Resting now) : s.tell now = s := by
  obtain ⟨settings, peer, entry, turn, client, outbound, phase, log, lookups, dials⟩ := s
  unfold Session.tell
  cases phase with
  | refusing failure left =>
    dsimp only
    rw [show client.writeAll left = _ from h]
  | rejecting failure reply =>
    dsimp only
    rw [show client.write reply = _ from h]
  | announcing protocol target left =>
    cases protocol with
    | httpConnect =>
      dsimp only
      rw [show client.writeAll left = _ from h]
    | socks5 =>
      dsimp only
      rw [show client.write left = _ from h]
  | _ => rfl

/-- The tunnel of a session at rest waits on both sides. -/
theorem Resting.relay (h : s.Resting now) : s.relay now = s := by
  obtain ⟨settings, peer, entry, turn, client, outbound, phase, log, lookups, dials⟩ := s
  cases phase with
  | relaying protocol target tunnel =>
    cases outbound with
    | none => rfl
    | some o =>
      have hwaits : TunnelRun.Waiting ⟨now, tunnel, ⟨client, o.stream⟩⟩ := h o rfl
      have hruns : tunnel.isOver = false := by
        rw [Tunnel.isOver, show tunnel.up.hasEnded = false from (hwaits .client).1.hasEnded_eq]
        rfl
      unfold Session.relay
      dsimp only
      rw [hwaits.settle]
      dsimp only
      rw [Tunnel.stats?, hruns]
      rfl
  | _ => rfl

/-- **A session at rest** stays as it is when it settles: none of the six steps changes it. -/
theorem Resting.settle (h : s.Resting now) (net : Network) (next : Nat) :
    s.settle net next now = s := by
  rw [Session.settle, h.peek, h.readHead, h.negotiate, h.dial, h.tell, h.relay]

/-- A session at rest stays as it is until one of its deadlines has come, however often it is looked
    after. -/
theorem Resting.settle_eq (h : s.Resting now) (hahead : ∀ d ∈ s.deadlines, now < d → t < d)
    (net : Network) (next : Nat) : s.settle net next t = s :=
  (h.later hahead).settle net next

/-! ### A session comes to rest -/

/-- The tunnel of a session runs, and its timers were set by now. -/
def Wound (now : Nat) (s : Session) : Prop :=
  match s.phase, s.outbound with
  | .relaying _ _ tunnel, some o =>
    tunnel.isOver = false ∧
      TunnelRun.Wound s.settings.idleTimeout ⟨now, tunnel, ⟨s.client, o.stream⟩⟩
  | _, _ => True

/-- A session that does not relay has no timers to set. -/
theorem wound_of_rank (h : s.phase.rank ≠ 5) : s.Wound now := by
  unfold Wound
  split
  · rename_i hphase _
    rw [hphase] at h
    exact absurd rfl h
  · trivial

/-- Timers that were set by now were set by any later instant. -/
theorem Wound.later (h : s.Wound now) (hle : now ≤ t) : s.Wound t := by
  unfold Wound at h ⊢
  split
  · rename_i hphase houtbound
    rw [hphase, houtbound] at h
    refine ⟨h.1, fun side => ?_⟩
    have hside := (h.2 side).later hle
    cases side <;> exact hside
  · trivial

/-- A session that has taken the first `k` of its steps at an instant, and has nothing left to do
    in them. -/
structure Calm (now k : Nat) (s : Session) : Prop where
  wound : s.Wound now
  resting : s.phase.rank < k → s.Resting now

variable {k : Nat}

/-- A step that a session does not take leaves it as it is. -/
theorem Calm.skip (h : s.Calm now k) (hrank : s.phase.rank ≠ k) : s.Calm now (k + 1) :=
  ⟨h.wound, fun hk => h.resting (by omega)⟩

/-- A session that has gone on to a later step. -/
theorem calm_of_le (rank : Nat) (hrank : s.phase.rank = rank) (hk : k ≤ rank) (hne : rank ≠ 5) :
    s.Calm now k :=
  ⟨wound_of_rank (hrank ▸ hne), fun hlt => absurd hlt (by omega)⟩

/-- A session that has taken a step and waits in it. -/
theorem calm_of_resting (rank : Nat) (hrank : s.phase.rank = rank) (hne : rank ≠ 5)
    (h : s.Resting now) : s.Calm now k :=
  ⟨wound_of_rank (hrank ▸ hne), fun _ => h⟩

/-- A session that has ended has nothing left to do. -/
theorem calm_finish (hk : k ≤ 6) (failure : Option SessionFailure) :
    (s.finish failure).Calm now k :=
  calm_of_le 6 rfl hk (by decide)

/-- A session that has failed has nothing left to do. -/
theorem calm_fail (hk : k ≤ 6) (protocol : Protocol) (failure : SessionFailure) :
    (s.fail protocol failure).Calm now k :=
  calm_finish hk _

/-- A session that refuses has only to tell its client. -/
theorem calm_refuse (hk : k ≤ 4) (failure : Failure) : (s.refuse failure).Calm now k := by
  unfold Session.refuse
  split
  · exact calm_of_le 4 rfl hk (by decide)
  · exact calm_fail (by omega) _ _

/-- A session that rejects has only to tell its client. -/
theorem calm_reject (hk : k ≤ 4) (code : Socks5.ReplyCode) (failure : SessionFailure) :
    (s.reject code failure).Calm now k :=
  calm_of_le 4 rfl hk (by decide)

/-- A session that begins to dial has only to wait for the outcome, and what follows from it. -/
theorem calm_beginDial (hk : k ≤ 3) (protocol : Protocol) (target : Text) :
    (s.beginDial net now protocol target).Calm now k :=
  calm_of_le 3 rfl hk (by decide)

/-- A session that announces has only to tell its client, or has failed. -/
theorem calm_announce (hk : k ≤ 4) (protocol : Protocol) (target : Text) (o : Outbound) :
    (s.announce protocol target o).Calm now k := by
  unfold Session.announce
  split
  · exact calm_of_le 4 rfl hk (by decide)
  · split
    · exact calm_of_le 4 rfl hk (by decide)
    · exact calm_fail (by omega) _ _

/-- The request is read when the first octet is there. -/
theorem calm_opening (protocol : Protocol) :
    Calm now 1 { s with phase := opening s.settings now protocol } := by
  cases protocol with
  | socks5 => exact calm_of_le 2 rfl (by decide) (by decide)
  | httpConnect => exact calm_of_le 1 rfl (Nat.le_refl 1) (by decide)

/-- After a peek a session waits for its first octet, or has moved on. -/
theorem Calm.peek (h : s.Calm now 0) : (s.peek now).Calm now 1 := by
  obtain ⟨settings, peer, entry, turn, client, outbound, phase, log, lookups, dials⟩ := s
  cases phase with
  | peeking deadline =>
    unfold Session.peek
    dsimp only
    rcases hpeek : client.peek with ⟨a, l⟩
    cases a with
    | ready first =>
      cases first with
      | none => exact calm_finish (by decide) _
      | some b => exact calm_opening (Protocol.detect b)
    | failed f => exact calm_finish (by decide) _
    | blocked =>
      dsimp only
      split
      · exact calm_finish (by decide) _
      · rename_i hahead
        obtain rfl := Lookahead.peek_of_blocked hpeek
        exact calm_of_resting 0 rfl (by decide) ⟨hpeek, Nat.lt_of_not_le hahead⟩
  | _ => exact h.skip nofun

/-- After its reader has run a session waits for octets, or has moved on. -/
theorem Calm.readHead (h : s.Calm now 1) : (s.readHead net now).Calm now 2 := by
  obtain ⟨settings, peer, entry, turn, client, outbound, phase, log, lookups, dials⟩ := s
  cases phase with
  | readingHead reader deadline =>
    unfold Session.readHead HeadReader.attempt
    dsimp only
    rcases hrun : reader.run client with ⟨progress, l⟩
    cases progress with
    | waiting r =>
      dsimp only
      by_cases hdue : deadline ≤ now
      · rw [if_pos hdue]
        exact calm_refuse (by decide) _
      · rw [if_neg hdue]
        exact calm_of_resting 1 rfl (by decide)
          ⟨HeadReader.run_of_waiting hrun, Nat.lt_of_not_le hdue⟩
    | tooLarge => exact calm_refuse (by decide) _
    | failed f => exact calm_refuse (by decide) _
    | done head =>
      dsimp only
      split
      · exact calm_refuse (by decide) _
      · exact calm_beginDial (by decide) _ _
  | _ => exact h.skip nofun

/-- After its handshake has run a session waits for octets or for room, or has moved on. -/
theorem Calm.negotiate (h : s.Calm now 2) : (s.negotiate net now).Calm now 3 := by
  obtain ⟨settings, peer, entry, turn, client, outbound, phase, log, lookups, dials⟩ := s
  cases phase with
  | negotiating handshake deadline =>
    have hpaused := Socks5.Handshake.paused_run handshake client
    unfold Session.negotiate
    dsimp only
    rcases hrun : handshake.run client with ⟨stage, l⟩
    rw [hrun] at hpaused
    cases stage with
    | understood request =>
      dsimp only
      split
      · exact calm_beginDial (Nat.le_refl 3) _ _
      · exact calm_reject (by decide) _ _
    | failed failure => exact calm_fail (by decide) _ _
    | _ =>
      dsimp only
      split
      · exact calm_fail (by decide) _ _
      · rename_i hahead
        exact calm_of_resting 2 rfl (by decide) ⟨hpaused, rfl, Nat.lt_of_not_le hahead⟩
  | _ => exact h.skip nofun

/-- After a dial a session waits for its outcome, or has moved on. -/
theorem Calm.dial (h : s.Calm now 3) : (s.dial next now).Calm now 4 := by
  obtain ⟨settings, peer, entry, turn, client, outbound, phase, log, lookups, dials⟩ := s
  cases phase with
  | dialling protocol d =>
    unfold Session.dial
    dsimp only
    cases houtcome : d.outcome? now with
    | none => exact calm_of_resting 3 rfl (by decide) houtcome
    | some result =>
      cases result with
      | ok c => exact calm_announce (Nat.le_refl 4) _ _ _
      | error failure =>
        cases protocol with
        | httpConnect => exact calm_refuse (Nat.le_refl 4) failure
        | socks5 => exact calm_reject (Nat.le_refl 4) _ _
  | _ => exact h.skip nofun

/-- A tunnel that begins sets its timers. -/
theorem calm_beginRelay (protocol : Protocol) (target : Text) :
    (s.beginRelay now protocol target).Calm now 5 := by
  refine ⟨?_, fun hk => absurd hk (Nat.lt_irrefl 5)⟩
  unfold Wound
  split
  · rename_i protocol' target' tunnel o hphase _
    cases hphase
    refine ⟨rfl, fun side => ⟨now, Nat.le_refl now, ?_⟩⟩
    cases side <;> rfl
  · trivial

/-- After it has told what it could a session waits for room, or has moved on. -/
theorem Calm.tell (h : s.Calm now 4) : (s.tell now).Calm now 5 := by
  obtain ⟨settings, peer, entry, turn, client, outbound, phase, log, lookups, dials⟩ := s
  cases phase with
  | refusing failure left =>
    unfold Session.tell
    dsimp only
    rcases hwrite : client.writeAll left with ⟨a, rest, l⟩
    cases a with
    | blocked =>
      exact calm_of_resting 4 rfl (by decide) (Lookahead.writeAll_of_blocked hwrite)
    | _ => exact calm_fail (by decide) _ _
  | rejecting failure reply =>
    unfold Session.tell
    dsimp only
    rcases hwrite : client.write reply with ⟨a, l⟩
    cases a with
    | blocked =>
      obtain rfl := Lookahead.write_of_blocked hwrite
      exact calm_of_resting 4 rfl (by decide) hwrite
    | _ => exact calm_fail (by decide) _ _
  | announcing protocol target left =>
    cases protocol with
    | httpConnect =>
      unfold Session.tell
      dsimp only
      rcases hwrite : client.writeAll left with ⟨a, rest, l⟩
      cases a with
      | ready u => exact calm_beginRelay _ _
      | blocked =>
        exact calm_of_resting 4 rfl (by decide) (Lookahead.writeAll_of_blocked hwrite)
      | failed f => exact calm_fail (by decide) _ _
    | socks5 =>
      unfold Session.tell
      dsimp only
      rcases hwrite : client.write left with ⟨a, l⟩
      cases a with
      | ready k => exact calm_beginRelay _ _
      | blocked =>
        obtain rfl := Lookahead.write_of_blocked hwrite
        exact calm_of_resting 4 rfl (by decide) hwrite
      | failed f => exact calm_fail (by decide) _ _
  | _ => exact h.skip nofun

/-- A session that ends as its tunnel has ended has nothing left to do. -/
theorem calm_conclude (protocol : Protocol) (target : Text) (stats : TunnelStats) :
    (s.conclude protocol target stats).Calm now 6 := by
  unfold Session.conclude
  split
  · exact calm_finish (Nat.le_refl 6) _
  · exact calm_finish (Nat.le_refl 6) _
  · exact calm_fail (Nat.le_refl 6) _ _

/-- A tunnel that settles waits, or its session ends. -/
theorem Calm.relay (h : s.Calm now 5) : (s.relay now).Calm now 6 := by
  obtain ⟨settings, peer, entry, turn, client, outbound, phase, log, lookups, dials⟩ := s
  cases phase with
  | relaying protocol target tunnel =>
    cases outbound with
    | none => exact ⟨trivial, fun _ o ho => (Option.not_mem_none o ho).elim⟩
    | some o =>
      obtain ⟨hruns, hwound⟩ := h.wound
      have hrests := TunnelRun.resting_settle hwound fun hover => by
        rw [show tunnel.isOver = false from hruns] at hover
        cases hover
      have hwound' := hwound.settle (Nat.le_refl now)
      unfold Session.relay
      dsimp only
      unfold TunnelRun.settle at hrests hwound'
      dsimp only at hrests hwound'
      rcases hsettle : tunnel.settle now ⟨client, o.stream⟩ with ⟨tunnel', ends⟩
      rw [hsettle] at hrests hwound'
      dsimp only at hrests hwound' ⊢
      cases hstats : tunnel'.stats? with
      | some stats => exact calm_conclude _ _ _
      | none =>
        have hstill : tunnel'.isOver = false := Bool.eq_false_iff.2 fun hover => by
          rw [Tunnel.stats?, if_pos hover] at hstats
          cases hstats
        refine ⟨⟨hstill, hwound'⟩, fun _ o' ho' => ?_⟩
        cases ho'
        -- A tunnel at rest is torn down only when it is over.
        refine (TunnelRun.resting_iff.1 hrests).resolve_right fun htorn => ?_
        have hover : tunnel'.isOver = true :=
          Bool.and_eq_true_iff.2 ⟨(htorn .client).1, (htorn .target).1⟩
        rw [hstill] at hover
        cases hover
  | _ => exact h.skip nofun

/-- **A session that settles** comes to rest. -/
theorem calm_settle (h : s.Wound now) (net : Network) (next : Nat) :
    (s.settle net next now).Wound now ∧ (s.settle net next now).Resting now := by
  have hcalm : (s.settle net next now).Calm now 6 :=
    Calm.relay (Calm.tell (Calm.dial (Calm.negotiate (Calm.readHead (Calm.peek
      ⟨h, fun hk => absurd hk (Nat.not_lt_zero _)⟩)))))
  generalize s.settle net next now = s' at hcalm ⊢
  refine ⟨hcalm.wound, ?_⟩
  cases hphase : s'.phase with
  | finished failure =>
    rw [Resting, hphase]
    trivial
  | _ => exact hcalm.resting (by simp [hphase, Phase.rank])

end Session

end ForwardProxy
