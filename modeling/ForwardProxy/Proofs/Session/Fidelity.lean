import ForwardProxy.Proofs.Session.Phases

namespace ForwardProxy

/-!
# The fidelity of an HTTP session

Whatever happens to an HTTP session, in whatever order, its target gets a prefix of what its client
sends behind the head, and its client a prefix of the answer and of what the target sends.

* `SessionRun.clientEvents`, `SessionRun.targetEvents` — what client and target do in a run.
* `SessionRun.Faithful.step` — nothing that happens spoils a session.
* `SessionRun.Faithful.run` — no run does.
* `SessionRun.fidelity` — what client and target have got at any settled point of a run.
-/

namespace Lookahead

/-- What is sent later comes behind what is sent before. -/
theorem unread_isPrefix_apply (l : Lookahead) (e : Channel.Event) :
    l.unread <+: (l.apply e).unread := by
  cases h : l.channel.ended with
  | false =>
    rw [unread, unread, items_apply h, Item.octets_append]
    exact List.prefix_append _ _
  | true =>
    have hsame : (l.apply e).unread = l.unread := by
      rw [unread, unread, (items_apply_of_ended h e).1]
    exact ⟨[], by rw [List.append_nil, hsame]⟩

/-- Whatever a client does, the octets that it has sent stay the first of all that it sends. -/
theorem unread_isPrefix_applyAll (l : Lookahead) (es : List Channel.Event) :
    l.unread <+: (l.applyAll es).unread := by
  induction es generalizing l with
  | nil => exact List.prefix_refl _
  | cons e es ih => exact (l.unread_isPrefix_apply e).trans (ih (l.apply e))

end Lookahead

namespace SessionRun

/-- What the client does in a run. -/
def clientEvents : List Event → List Channel.Event
  | [] => []
  | .client e :: es => e :: clientEvents es
  | _ :: es => clientEvents es

/-- What the target does at an event: nothing before it is connected to. -/
def targetEvent (r : SessionRun) : Event → List Channel.Event
  | .peer number e => if r.session.outbound.isSome = true ∧ number = 0 then [e] else []
  | _ => []

/-- What the target does in a run. -/
def targetEvents (r : SessionRun) : List Event → List Channel.Event
  | [] => []
  | e :: es => r.targetEvent e ++ targetEvents (r.step e) es

/-- A session in a network that has passed on what it should. -/
structure Faithful (net : Network) (whole : Bytes) (g : Lookahead) (events : List Channel.Event)
    (r : SessionRun) : Prop where
  network_eq : r.network = net
  session : r.session.Faithful net whole g events

variable {net : Network} {whole : Bytes} {g : Lookahead} {events : List Channel.Event}
  {r : SessionRun}

/-- Settling carries octets faithfully, as long as the client has sent nothing but what is asked
    about. -/
theorem Faithful.settle (hf : r.Faithful net whole g events) (hwhole : g.unread <+: whole)
    (now : Nat) : (SessionRun.settle now r).Faithful net whole g events where
  network_eq := hf.network_eq
  session := by
    show (r.session.settle r.network 0 now).Faithful net whole g events
    rw [hf.network_eq]
    exact hf.session.settle hwhole now

/-- **One event:** the client, the target and the clock may do what they like. -/
theorem Faithful.step (hf : r.Faithful net whole g events) (e : Event)
    (hwhole : (g.applyAll (clientEvents [e])).unread <+: whole) :
    (r.step e).Faithful net whole (g.applyAll (clientEvents [e])) (events ++ r.targetEvent e) := by
  -- Every event but the order of the halves is followed by a settling; waiting is one at each
  -- deadline.
  cases e with
  | client e =>
    show (SessionRun.settle r.now _).Faithful net whole (g.apply e) (events ++ [])
    have hclient : Faithful net whole (g.apply e) events
        { r with session := r.session.applyClient e } :=
      ⟨hf.network_eq, hf.session.applyClient e⟩
    rw [List.append_nil]
    exact hclient.settle hwhole r.now
  | peer number e =>
    have hpeer : Faithful net whole g (events ++ r.targetEvent (.peer number e))
        { r with session := r.session.applyPeer number e } :=
      ⟨hf.network_eq, hf.session.applyPeer number e⟩
    exact hpeer.settle hwhole r.now
  | wait span =>
    show Faithful net whole g (events ++ []) _
    rw [List.append_nil]
    exact Clock.run_preserves (P := fun _ (r : SessionRun) => r.Faithful net whole g events)
      (fun _ t r _ hr => hr.settle hwhole t) (Nat.le_add_right _ _) hf
  | reorder turn =>
    show Faithful net whole g (events ++ []) _
    rw [List.append_nil]
    exact ⟨hf.network_eq, hf.session.reorder turn⟩

/-- What a client does in a run is what it does at first and then. -/
theorem clientEvents_cons (e : Event) (es : List Event) :
    clientEvents (e :: es) = clientEvents [e] ++ clientEvents es := by
  cases e <;> rfl

/-- **Any number of events**, in any order. -/
theorem Faithful.run (hf : r.Faithful net whole g events) (es : List Event)
    (hwhole : (g.applyAll (clientEvents es)).unread <+: whole) :
    (r.run es).Faithful net whole (g.applyAll (clientEvents es)) (events ++ r.targetEvents es) := by
  induction es generalizing r g events with
  | nil =>
    rw [targetEvents, List.append_nil]
    exact hf
  | cons e es ih =>
    rw [clientEvents_cons, Lookahead.applyAll_append] at hwhole ⊢
    rw [targetEvents, ← List.append_assoc]
    exact ih (hf.step e ((Lookahead.unread_isPrefix_applyAll _ _).trans hwhole)) hwhole

/-! ### From the start -/

/-- The stream of a client that has sent `early` before its session began, unread. -/
def clientStream (room : Option Nat) (early : List Channel.Event) (es : List Event) : Lookahead :=
  (Lookahead.ofChannel ((Channel.idle room).applyAll early)).applyAll (clientEvents es)

/-- Whatever others do, nothing is written for them. -/
theorem written_applyAll (c : Channel) (es : List Channel.Event) :
    (c.applyAll es).written = c.written := by
  have hwritten := Lookahead.written_applyAll es (.ofChannel c)
  rwa [Lookahead.applyAll_eq] at hwritten

/-- Whether a session in which a client sends `bs` first speaks HTTP. -/
def SpeaksHttp (entry : Entry) (bs : Bytes) : Prop :=
  entry = .speaking .httpConnect ∨
    entry = .detecting ∧ ∃ b, bs.head? = some b ∧ Protocol.detect b = .httpConnect

/-- A session that has just begun is faithful, by either way of entering. -/
theorem faithful_start {entry : Entry} (hentry : SpeaksHttp entry whole) (net : Network)
    (settings : Settings) (peer : SocketAddress) (turn : Turn) (now : Nat) (room : Option Nat)
    (early : List Channel.Event)
    (hwhole : (Lookahead.ofChannel ((Channel.idle room).applyAll early)).unread <+: whole) :
    (start net now (Session.start settings peer entry turn now
      ((Channel.idle room).applyAll early))).Faithful net whole
        (.ofChannel ((Channel.idle room).applyAll early)) [] := by
  have hproper : (Lookahead.ofChannel ((Channel.idle room).applyAll early)).Proper :=
    (Channel.proper_idle room).applyAll early
  have htold := written_applyAll (.idle room) early
  suffices hsession : (Session.start settings peer entry turn now
      ((Channel.idle room).applyAll early)).Faithful net whole
        (.ofChannel ((Channel.idle room).applyAll early)) [] from
    Faithful.settle (r := ⟨now, net, _⟩) ⟨rfl, hsession⟩ hwhole now
  rcases hentry with rfl | ⟨rfl, b, hb, hdetect⟩
  · exact .readingHead hproper (.refl _) (HeadReader.reads_start _) (Nat.zero_le _) htold
  · refine .peeking hproper (.refl _) (fun b' hb' => ?_) htold
    rw [← Option.some.inj (hb.symm.trans hb')]
    exact hdetect

/-- The payload behind a head is told by the stream. -/
theorem payload_of_isPrefix {p p' h h' taken payload : Bytes} (hp : IsPreamble p) (hh : IsHead h)
    (hp' : IsPreamble p') (hh' : IsHead h') (hpre : p' ++ h' ++ taken <+: p ++ h ++ payload) :
    taken <+: payload := by
  have hfront : p' ++ h' <+: p ++ h ++ payload := (List.prefix_append _ _).trans hpre
  have heq : p' = p ∧ h' = h := by
    -- Of two heads at the front of one stream, one would begin the other.
    rcases List.prefix_or_prefix_of_prefix hfront (List.prefix_append (p ++ h) payload) with
      hle | hle
    · exact hh'.eq_of_isPrefix hp' hp hh hle
    · obtain ⟨rfl, rfl⟩ := hh.eq_of_isPrefix hp hp' hh' hle
      exact ⟨rfl, rfl⟩
  obtain ⟨rfl, rfl⟩ := heq
  exact (List.prefix_append_right_inj _).1 hpre

/-- **Fidelity.**  A client sends blank lines, a head and a payload, or the front of that.  At any
    settled point of any run, the target has got a prefix of the payload, and the client a prefix of
    the words that tell it so, or these and a prefix of what the target has sent. -/
theorem fidelity (net : Network) (settings : Settings) (peer : SocketAddress) (entry : Entry)
    (turn : Turn) (now : Nat) (room : Option Nat) (early : List Channel.Event) (es : List Event)
    (p h payload : Bytes) (hp : IsPreamble p) (hh : IsHead h) (hentry : SpeaksHttp entry (p ++ h))
    (hclient : (clientStream room early es).unread <+: p ++ h ++ payload) :
    let begun := start net now (Session.start settings peer entry turn now
      ((Channel.idle room).applyAll early))
    let session := (begun.run es).session
    ∀ o, session.outbound = some o →
      o.stream.channel.written <+: payload ∧
        (session.client.channel.written <+: Response.established ∨
          ∃ w, session.client.channel.written = Response.established ++ w ∧
            w <+: (net.targetStream o.address (begun.targetEvents es)).unread) := by
  intro begun session o ho
  -- The first octet of the stream is the first one of the head and its preamble.
  have hspeaks : SpeaksHttp entry (p ++ h ++ payload) := by
    rcases hentry with hentry | ⟨hentry, b, hb, hdetect⟩
    · exact .inl hentry
    · exact .inr ⟨hentry, b, by rw [List.head?_append, hb]; rfl, hdetect⟩
  have hstart := faithful_start hspeaks net settings peer turn now room early
    ((Lookahead.unread_isPrefix_applyAll _ _).trans hclient)
  obtain ⟨⟨p', h', taken, hp', hh', htaken, hsent⟩, htold⟩ :=
    (hstart.run es hclient).session.passed_on ho
  refine ⟨hsent.trans (payload_of_isPrefix hp hh hp' hh' (htaken.trans hclient)), ?_⟩
  -- The client has been told a part of the answer, or all of it and something behind it.
  rcases List.prefix_or_prefix_of_prefix htold (List.prefix_append _ _) with hle | ⟨w, hw⟩
  · exact .inl hle
  · refine .inr ⟨w, hw.symm, ?_⟩
    rw [← hw] at htold
    exact (List.prefix_append_right_inj _).1 htold

/-- A client that sends its head and two octets more at once, and a target that greets it and
    answers, but takes the second octet only once it has room for it: both are told so. -/
theorem fidelity_of_pipelined :
    let net : Network := ⟨[], [(.v4 ⟨1, 1, 1, 1⟩ 1, .accepts (ascii "yo") true (some 1))]⟩
    let early := [Channel.Event.send (ascii "CONNECT 1.1.1.1:1 HTTP/1.1\r\n\r\nhi")]
    let begun := start net 0 (Session.start .standard (.v4 ⟨1, 1, 1, 2⟩ 2) .detecting ⟨true, true⟩
      0 ((Channel.idle none).applyAll early))
    let session := (begun.run [.peer 0 (.send (ascii "ok")), .peer 0 (.widen (some 1))]).session
    ∃ o, session.outbound = some o ∧ o.stream.channel.written = ascii "hi" ∧
      session.client.channel.written = Response.established ++ ascii "yook" ∧
      o.stream.channel.written <+: ascii "hi" := by
  intro net early begun session
  have hwritten : (session.outbound.map fun o => o.stream.channel.written) =
      some (ascii "hi") := by decide +kernel
  obtain ⟨o, ho, hsent⟩ := Option.map_eq_some_iff.1 hwritten
  refine ⟨o, ho, hsent, by decide +kernel, ?_⟩
  -- The target takes one octet at first, so the second is written only when it makes room.
  have hhead : IsHead (ascii "CONNECT 1.1.1.1:1 HTTP/1.1\r\n\r\n") := by
    refine ⟨[ascii "CONNECT 1.1.1.1:1 HTTP/1.1\r\n"], [cr, lf], by simp, ?_, .inr rfl, rfl⟩
    intro l hl
    rw [List.mem_singleton.1 hl]
    exact ⟨⟨ascii "CONNECT 1.1.1.1:1 HTTP/1.1\r", by decide, rfl⟩, by unfold IsBlank; decide⟩
  exact (fidelity net .standard (.v4 ⟨1, 1, 1, 2⟩ 2) .detecting ⟨true, true⟩ 0 none early
    [.peer 0 (.send (ascii "ok")), .peer 0 (.widen (some 1))] [] _ (ascii "hi") isPreamble_nil hhead
    (.inr ⟨rfl, 67, rfl, rfl⟩) (by decide +kernel) o ho).1

end SessionRun

end ForwardProxy
