import ForwardProxy.Proofs.Session.Release
import ForwardProxy.Proofs.Session.Wording

namespace ForwardProxy

/-!
# Forged lines of the log

A client could forge lines of the log if it could have a line break told.  An HTTP client cannot,
nor can a target by the faults that it brings about.  A SOCKS5 client can, by the domain that it
asks for: its target is told as it is, and no line break is kept out of it.

* `Session.Forged` — a line of the log that holds a line break.
* `Session.AsksForBreak` — a request for a domain that holds one.
* `Opening.forged_iff` — lines are forged by such a request, once its target is told, and by nothing
  else.
* `Opening.forged_by_known_name`, `Opening.forged_by_unknown_name` — lines that are forged.
-/

open Text (OneLine)

namespace Session

variable {g : Lookahead} {s : Session} {protocol : Protocol}

/-- A line of the log holds a line break. -/
def Forged (s : Session) : Prop := ∃ line ∈ s.log, ¬OneLine (text line.message)

/-- A line was forged exactly if some line of the log is more than one. -/
theorem forged_iff_not_plainLog : s.Forged ↔ ¬PlainLog s.log := by
  simp [Forged, PlainLog]

/-- The client asks, over SOCKS5, for a connection to a domain that holds a line break. -/
def AsksForBreak (g : Lookahead) : Prop :=
  ∃ a : Socks5.Ask, a.octets <+: g.unread ∧ a.command = .connect ∧
    ∃ name, a.host = .domain name ∧ ¬OneLine name

/-- A stream that speaks HTTP asks for nothing over SOCKS5. -/
theorem not_asksForBreak (hspeaks : Protocol.spoken? g.unread = some .httpConnect) :
    ¬AsksForBreak g := by
  rintro ⟨a, hopens, hcommand, -⟩
  have hsocks := spoken?_of_isPrefix hopens (Opens.socks5 a hcommand).spoken?_eq
  rw [hspeaks] at hsocks
  cases hsocks

/-- What a client has asked for breaks a line just if it is a SOCKS5 domain that does: no stream
    opens with two requests. -/
theorem Asks.not_oneLine_iff {target : Text} (h : Asks g protocol target) :
    ¬OneLine target ↔ AsksForBreak g := by
  cases h with
  | httpConnect speaks oneLine =>
    exact iff_of_false (not_not_intro oneLine) (not_asksForBreak speaks)
  | @socks5 a opens command =>
    rw [Socks5.Ask.oneLine_target_iff]
    constructor
    · intro hbreak
      obtain ⟨name, hname⟩ := not_forall.1 hbreak
      obtain ⟨hhost, hname⟩ := Classical.not_imp.1 hname
      exact ⟨a, opens, command, name, hhost, hname⟩
    · rintro ⟨b, hopens, -, name, hhost, hname⟩ hall
      have hrequest := Socks5.Ask.request_eq_of_isPrefix opens hopens
      have hsame : a.host = b.host := congrArg (fun r => r.destination.host) hrequest
      exact hname (hall name (hsame.trans hhost))

/-- **A line break is told** just if the session has told the target of its client, and the client
    asked for a domain that holds one. -/
theorem Worded.forged_iff_asks (hw : s.Worded g) :
    s.Forged ↔ s.tellsTarget = true ∧ AsksForBreak g := by
  rw [forged_iff_not_plainLog]
  obtain ⟨settings, peer, entry, turn, client, outbound, phase, log, lookups, dials⟩ := s
  obtain ⟨-, htells⟩ := hw
  -- Where the target is not told, the log is plain and neither side of the equivalence holds.
  have hquiet (hplain : PlainLog log) (b : Bool) (hb : b = false) :
      ¬PlainLog log ↔ b = true ∧ AsksForBreak g :=
    iff_of_false (not_not_intro hplain) fun h => Bool.false_ne_true (hb.symm.trans h.1)
  cases htells with
  | peeking follows untold plain => exact hquiet plain _ rfl
  | readingHead speaks plain => exact hquiet plain _ rfl
  | negotiating stood flaws plain => exact hquiet plain _ rfl
  | dialling asks fails plain => exact hquiet plain _ rfl
  | refusing speaks cause plain => exact hquiet plain _ rfl
  | rejecting cause plain => exact hquiet plain _ rfl
  | unreached asks cause plain => exact hquiet plain _ rfl
  | announcing asks plain => exact hquiet plain _ rfl
  | relaying asks ended told =>
    exact (not_congr told).trans (asks.not_oneLine_iff.trans (and_iff_right rfl).symm)
  | silent untold plain => exact hquiet plain _ untold
  | served speaks plain =>
    exact iff_of_false (not_not_intro plain) fun h => not_asksForBreak speaks h.2
  | named asks tells told =>
    exact (not_congr told).trans (asks.not_oneLine_iff.trans (and_iff_right tells).symm)

end Session

/-! ### Whole runs -/

namespace SessionRun

/-- Nobody brings about a fault but as `P` says. -/
def Event.Raises (P : Fault → Prop) : Event → Prop
  | client e => e.Raises P
  | peer _ e => e.Raises P
  | _ => True

variable {r : SessionRun} {g : Lookahead}

/-- Waiting is nothing that a client does. -/
theorem clientEvents_deed (es : List Event) :
    clientEvents (es.filterMap Event.deed?) = clientEvents es := by
  induction es with
  | nil => rfl
  | cons e es ih =>
    cases e with
    | client e => exact congrArg (e :: ·) ih
    | _ => exact ih

/-- **A session that moves** tells its operator what it may, in whatever order it goes on. -/
theorem worded_moves (h : r.session.Worded g) {ms : List Move}
    (hms : ∀ e ∈ ms.filterMap Move.event?, e.Raises Fault.Plain) :
    (r.moves ms).session.Worded (g.applyAll (clientEvents (ms.filterMap Move.event?))) := by
  induction ms generalizing r g with
  | nil => exact h
  | cons m ms ih =>
    cases m with
    | client e =>
      obtain ⟨he, hrest⟩ := List.forall_mem_cons.1 hms
      exact ih (r := r.move (.client e)) (h.applyClient he) hrest
    | peer number e =>
      obtain ⟨he, hrest⟩ := List.forall_mem_cons.1 hms
      exact ih (r := r.move (.peer number e)) (h.applyPeer number he) hrest
    | reorder turn =>
      exact ih (r := r.move (.reorder turn)) (h.reorder turn) (List.forall_mem_cons.1 hms).2
    | tick span => exact ih (r := r.move (.tick span)) h hms
    | act a => exact ih (r := r.move (.act a)) (h.act 0 r.now a) hms

end SessionRun

namespace Opening

open SessionRun (Event Move)

/-- A session that has not begun has told nothing. -/
theorem worded_entered (v : Opening) (hentry : v.entry = .detecting)
    (hearly : ∀ e ∈ v.early, e.Raises Fault.Plain) : v.entered.session.Worded (v.client []) := by
  have hraises : ((Channel.idle v.room).applyAll v.early).Raises Fault.Plain :=
    (Channel.raises_idle v.room).applyAll (Fault.plain_bare _) hearly
  have huntold := (v.untold_client []).written_eq
  obtain ⟨network, settings, peer, entry, turn, now, room, early⟩ := v
  obtain rfl : entry = .detecting := hentry
  exact ⟨⟨rfl, hraises, fun o ho => by cases ho⟩, .peeking (.refl _) huntold plainLog_nil⟩

/-- **Lines of the log are forged by the domain of a SOCKS5 request, and by nothing else.**  Of
    every session that is entered by its first octet, whatever its client, its target and the clock
    do, faults of more than one line apart, and in whatever order it goes on: a line of its log
    holds a line break just if the session has told its target, and the client has asked, over
    SOCKS5, for a domain that holds one. -/
theorem forged_iff (v : Opening) (hentry : v.entry = .detecting)
    (hearly : ∀ e ∈ v.early, e.Raises Fault.Plain) :
    (∀ ms, (∀ e ∈ ms.filterMap Move.event?, e.Raises Fault.Plain) →
      ((v.entered.moves ms).session.Forged ↔
        (v.entered.moves ms).session.tellsTarget = true ∧
          Session.AsksForBreak (v.client (ms.filterMap Move.event?)))) ∧
    ∀ es, (∀ e ∈ es, e.Raises Fault.Plain) →
      ((v.after es).session.Forged ↔
        (v.after es).session.tellsTarget = true ∧ Session.AsksForBreak (v.client es)) := by
  have hentered := v.worded_entered hentry hearly
  have hmoves (ms : List Move) (hms : ∀ e ∈ ms.filterMap Move.event?, e.Raises Fault.Plain) :
      (v.entered.moves ms).session.Worded (v.client (ms.filterMap Move.event?)) :=
    SessionRun.worded_moves hentered hms
  refine ⟨fun ms hms => (hmoves ms hms).forged_iff_asks, fun es hes => ?_⟩
  -- A session that settles after each thing that happens makes some of these moves.
  have hbegun : v.entered.Reaches [] v.begun := SessionRun.reaches_settle (Nat.le_refl _)
  obtain ⟨ms, hms, hevents⟩ := hbegun.trans (v.begun.reaches_run es)
  have hdeeds : ∀ e ∈ ms.filterMap Move.event?, e.Raises Fault.Plain := by
    rw [hevents]
    intro e he
    obtain ⟨e', he', hdeed⟩ := List.mem_filterMap.1 he
    cases e' <;> cases hdeed <;> exact hes _ he'
  have hclient : v.client (ms.filterMap Move.event?) = v.client es := by
    show Lookahead.applyAll _ _ = Lookahead.applyAll _ _
    rw [hevents, List.nil_append, SessionRun.clientEvents_deed]
  have hworded := hmoves ms hdeeds
  rw [hms, hclient] at hworded
  exact hworded.forged_iff_asks

/-- A SOCKS5 client asks for a domain with a line break that stands for an address, and its tunnel
    breaks: the lines about the tunnel are forged. -/
theorem forged_by_known_name :
    let net : Network := ⟨[(text "a\nb", [.v4 ⟨10, 0, 0, 1⟩])],
      [(.v4 ⟨10, 0, 0, 1⟩ 80, .accepts [] true)]⟩
    let v : Opening := ⟨net, .standard, .v4 ⟨127, 0, 0, 1⟩ 40000, .detecting, ⟨true, true⟩, 0, none,
      [.send [5, 1, 0]]⟩
    let es : List Event := [.client (.send [5, 1, 0, 3, 3, 97, 10, 98, 0, 80]),
      .peer 0 (.failRead (.system 104))]
    v.entry = .detecting ∧ (∀ e ∈ v.early, e.Raises Fault.Plain) ∧
      (∀ e ∈ es, e.Raises Fault.Plain) ∧ (v.after es).session.Forged := by
  intro net v es
  have hearly : ∀ e ∈ v.early, e.Raises Fault.Plain := List.forall_mem_singleton.2 trivial
  have hes : ∀ e ∈ es, e.Raises Fault.Plain :=
    List.forall_mem_cons.2 ⟨trivial, List.forall_mem_singleton.2 (Fault.plain_system 104)⟩
  have htells : (v.after es).session.tellsTarget = true := by decide +kernel
  -- The name has a line break in it, and the network knows it, so the tunnel is announced with it.
  have hasks : Session.AsksForBreak (v.client es) := by
    refine ⟨⟨[0], by decide, by decide, .connect, 0, .domain (text "a\nb"), 80, ?_⟩, ?_, rfl,
      text "a\nb", rfl, by decide +kernel⟩
    · rintro name hname
      cases hname
      decide
    · decide +kernel
  exact ⟨rfl, hearly, hes, ((forged_iff v rfl hearly).2 es hes).2 ⟨htells, hasks⟩⟩

/-- A SOCKS5 client asks for a domain with a line break that no address is known of, and nobody
    brings about a fault: the line that tells so is forged. -/
theorem forged_by_unknown_name :
    let v : Opening := ⟨⟨[], []⟩, .standard, .v4 ⟨127, 0, 0, 1⟩ 40000, .detecting, ⟨true, true⟩, 0,
      none, []⟩
    let es : List Event := [.client (.send [5, 1, 0]),
      .client (.send [5, 1, 0, 3, 3, 97, 10, 98, 0, 80])]
    v.entry = .detecting ∧ (∀ e ∈ v.early, e.Raises Fault.Plain) ∧
      (∀ e ∈ es, e.Raises Fault.Plain) ∧
        ∃ line ∈ (v.after es).session.log, '\n' ∈ text line.message := by
  intro v es
  have hearly : ∀ e ∈ v.early, e.Raises Fault.Plain := List.forall_mem_nil _
  have hes : ∀ e ∈ es, e.Raises Fault.Plain :=
    List.forall_mem_cons.2 ⟨trivial, List.forall_mem_singleton.2 trivial⟩
  refine ⟨rfl, hearly, hes, ?_⟩
  decide +kernel

end Opening

end ForwardProxy
