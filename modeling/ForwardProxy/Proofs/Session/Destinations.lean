import ForwardProxy.Proofs.Network.Destinations
import ForwardProxy.Proofs.Session.Entries

namespace ForwardProxy

/-!
# The destination of a SOCKS5 session

A client that asks in time to be connected has its destination dialled, exactly that, and what it
sends behind its request reaches that destination, in order.

* `Session.OnCourse.asked` — what is dialled on the course of a request, and when.
* `Session.OnCourse.connected` — where its connection leads, and what goes out on it.
* `Session.Delivers` — what is known of a session at a settled point.
* `Opening.dials_and_delivers` — of every client that asks in time, however its octets come.
-/

namespace Session

variable {net : Network} {a : Socks5.Ask} {d k : Nat} {g : Lookahead}
  {events : List Channel.Event} {s : Session}

/-- Until its request is there, a session does nothing; from then on, what the request asks for. -/
theorem OnCourse.asked (h : s.OnCourse net a d g 6 events) :
    (s.lookups = [] ∧ s.dials = [] ∧ s.outbound = none ∧ ¬a.octets <+: g.clear) ∨
      (s.lookups = a.lookups net ∧ s.dials = a.dials net ∧ a.octets <+: g.unread) := by
  have hasked : ∀ {l : Lookahead}, g.Follows a.octets l → a.octets <+: g.unread :=
    fun hfollows => ⟨_, hfollows.unread_eq.symm⟩
  have htunnel : ∀ {client o up down}, Tunnelled net a g events client o up down →
      a.octets <+: g.unread := by
    intro client o up down htunnelled
    obtain ⟨taken, hunread, -⟩ := htunnelled.sent.written_isPrefix
    rw [hunread, List.append_assoc]
    exact List.prefix_append _ _
  obtain ⟨settings, peer, entry, turn, client, outbound, phase, log, lookups, dials⟩ := s
  -- One case for each phase: only a session that still negotiates has not heard the whole request.
  cases h with
  | negotiating awaits cut trails proper accepts said still =>
    exact .inl ⟨rfl, rfl, rfl, still (by decide)⟩
  | dialling command follows => exact .inr ⟨rfl, rfl, hasked follows⟩
  | rejecting early unreached follows => exact .inr ⟨rfl, rfl, hasked follows⟩
  | rejected unreached follows => exact .inr ⟨rfl, rfl, hasked follows⟩
  | unreplied number reached follows => exact .inr ⟨rfl, rfl, hasked follows⟩
  | announcing early number reached follows => exact .inr ⟨rfl, rfl, hasked follows⟩
  | relaying tunnelled => exact .inr ⟨rfl, rfl, htunnel tunnelled⟩
  | relayed tunnelled => exact .inr ⟨rfl, rfl, htunnel tunnelled⟩

/-- What goes out on the connection of a session is what the client has sent behind its request. -/
theorem OnCourse.connected {o : Outbound} (h : s.OnCourse net a d g k events)
    (ho : s.outbound = some o) :
    (∃ known, a.Reaches net o.address known) ∧
      ∀ payload, g.unread <+: a.octets ++ payload → o.stream.channel.written <+: payload := by
  obtain ⟨settings, peer, entry, turn, client, outbound, phase, log, lookups, dials⟩ := s
  have htunnel : ∀ {client o up down}, Tunnelled net a g events client o up down →
      ∀ payload, g.unread <+: a.octets ++ payload → o.stream.channel.written <+: payload := by
    intro client o up down htunnelled payload hpayload
    obtain ⟨taken, hunread, hwritten⟩ := htunnelled.sent.written_isPrefix
    -- What was taken behind the request is the front of the payload, and went out in order.
    rw [hunread, List.append_assoc, List.prefix_append_right_inj] at hpayload
    exact (hwritten.trans (List.prefix_append _ _)).trans hpayload
  cases h with
  | negotiating => cases ho
  | dialling => cases ho
  | rejecting => cases ho
  | rejected => cases ho
  | unreplied number reached follows said silent =>
    cases ho
    exact ⟨⟨false, reached⟩, fun payload _ => silent ▸ List.nil_prefix⟩
  | announcing early number reached follows accepts said untouched silent =>
    cases ho
    exact ⟨⟨true, reached⟩, fun payload _ => silent ▸ List.nil_prefix⟩
  | relaying tunnelled =>
    cases ho
    exact ⟨⟨true, tunnelled.reached⟩, htunnel tunnelled⟩
  | relayed tunnelled =>
    cases ho
    exact ⟨⟨true, tunnelled.reached⟩, htunnel tunnelled⟩

/-- A session has its destination dialled once the request for it is there, and what has gone out on
    the connection that this brought about is the front of a payload. -/
structure Delivers (net : Network) (destination : Socks5.Destination) (payload : Bytes)
    (there : Prop) (s : Session) : Prop where
  before : ¬there → s.lookups = [] ∧ s.dials = [] ∧ s.outbound = none
  dialled : there → net.Dialled destination s.lookups s.dials
  delivered : ∀ o, s.outbound = some o →
    s.dials.getLast? = some o.address ∧ o.stream.channel.written <+: payload

/-- Sessions that are alike deliver alike. -/
theorem Alike.delivers {s' : Session} {destination : Socks5.Destination} {payload : Bytes}
    {there : Prop} (h : s.Alike s') (hdelivers : s.Delivers net destination payload there) :
    s'.Delivers net destination payload there := by
  obtain ⟨hbefore, hdialled, hdelivered⟩ := hdelivers
  constructor
  · rwa [h.lookups_eq, h.dials_eq, h.outbound_eq]
  · rwa [h.lookups_eq, h.dials_eq]
  · rwa [h.outbound_eq, h.dials_eq]

/-- On the course of a request for a connection, its destination is delivered to. -/
theorem OnCourse.delivers {payload : Bytes} (h : s.OnCourse net a d g 6 events)
    (hcommand : a.command = .connect) (hnul : ∀ name, a.host = .domain name → '\x00' ∉ name)
    (hquiet : ¬a.octets <+: g.clear → g.Quiet) (hsends : g.unread <+: a.octets ++ payload) :
    s.Delivers net a.request.destination payload (a.octets <+: g.clear) := by
  have hlookups : a.lookups net = (net.attempt a.target).lookups := if_pos hcommand
  have hdials : a.dials net = (net.attempt a.target).connects := if_pos hcommand
  refine ⟨fun hnot => ?_, fun hthere => ?_, fun o ho => ?_⟩
  · rcases h.asked with ⟨hnolookups, hnodials, hnone, -⟩ | ⟨-, -, hasked⟩
    · exact ⟨hnolookups, hnodials, hnone⟩
    · -- Of a quiet stream nothing is there that could not be read.
      rw [(hquiet hnot).unread_eq] at hasked
      exact absurd hasked hnot
  · rcases h.asked with ⟨-, -, -, hnot⟩ | ⟨hl, hd, -⟩
    · exact absurd hthere hnot
    · rw [hl, hd, hlookups, hdials]
      exact net.dialled_attempt a.request.destination hnul
  · obtain ⟨⟨known, -, greeting, room, hreach⟩, hwritten⟩ := h.connected ho
    refine ⟨?_, hwritten payload hsends⟩
    rcases h.asked with ⟨-, -, hnone, -⟩ | ⟨-, hd, -⟩
    · rw [hnone] at ho
      cases ho
    · rw [hd, hdials]
      exact Network.getLast?_connects hreach

end Session

namespace Opening

open SessionRun (Event)

/-- **Destinations and what is sent to them.**  A client offers to go without authentication, asks
    for a connection, and sends a payload; all of the request is there in time, and the client takes
    what it is told.  At every settled point its session has done nothing until then, and dialled
    just the destination of the request since; and what the target has got is the front of the
    payload. -/
theorem dials_and_delivers (v : Opening) (a : Socks5.Ask) (payload : Bytes)
    (es₁ es es' : List Event) (hcommand : a.command = .connect)
    (hnul : ∀ name, a.host = .domain name → '\x00' ∉ name)
    (hasks : v.AsksInTime a es₁ es) (haccepting : v.Accepting es)
    (hsends : (v.client es).unread <+: a.octets ++ payload) (hwithin : es' <+: es) :
    (v.after es').session.Delivers v.network a.request.destination payload
      (a.octets <+: (v.client es').clear) := by
  obtain ⟨es₂, hgreeted, hes₂, hthere, -⟩ := hasks.in_time
  by_cases hbefore : es' <+: es₁ ∧ es' ≠ es₁
  · -- The session does not speak the protocol yet.
    obtain ⟨hidle, hclear⟩ := hasks.speaks.idle hbefore.1 hbefore.2
    have hnot : ¬a.octets <+: (v.client es').clear := by
      rw [hclear]
      exact fun h => nomatch List.prefix_nil.1 h
    refine ⟨fun _ => hidle, fun h => absurd h hnot, fun o ho => ?_⟩
    rw [hidle.2.2] at ho
    cases ho
  · obtain ⟨more, rfl⟩ : es₁ <+: es' := by
      rcases List.prefix_or_prefix_of_prefix hwithin (hgreeted.trans hes₂) with h | h
      · cases Classical.not_not.1 fun hne => hbefore ⟨h, hne⟩
        exact List.prefix_refl _
      · exact h
    obtain ⟨d, s, halike, honCourse⟩ := hasks.alike haccepting hwithin
    have hsent : (v.client (es₁ ++ more)).unread <+: (v.client es).unread := by
      obtain ⟨later, rfl⟩ := hwithin
      rw [v.client_append (es₁ ++ more)]
      exact Lookahead.unread_isPrefix_applyAll _ _
    exact halike.delivers (honCourse.delivers hcommand hnul
      (fun hnot => (quiet_of_not_there hthere hes₂ hwithin hnot).2) (hsent.trans hsends))

/-- A name that stands for two addresses, the first of which refuses, asked for by a client that takes
    no more than a handshake tells. -/
theorem dials_and_delivers_to_second_address :
    let net : Network := ⟨[(text "a", [.v4 ⟨1, 1, 1, 1⟩, .v4 ⟨2, 2, 2, 2⟩])],
      [(.v4 ⟨2, 2, 2, 2⟩ 80, .accepts [] true)]⟩
    let v : Opening := ⟨net, .standard, .v4 ⟨127, 0, 0, 1⟩ 40000, .detecting, ⟨true, true⟩, 0,
      some 24, []⟩
    let a : Socks5.Ask := ⟨[0], by decide, by decide, .connect, 0, .domain (text "a"), 80, by
      rintro name hname
      cases hname
      decide⟩
    let es : List Event := [.client (.send [5, 1]), .client (.send [0, 5, 1, 0, 3, 1]),
      .client (.send [97]), .client (.send [0, 80, 104]), .client (.send [105])]
    a.octets <+: (v.client es).clear ∧
      (v.after es).session.Delivers v.network a.request.destination [104, 105]
        (a.octets <+: (v.client es).clear) := by
  intro net v a es
  have hthere : a.octets <+: (v.client es).clear := by decide +kernel
  have hgreets : v.Greets [.client (.send [5, 1])] Socks5.version := by
    refine @greets_concat v [] Socks5.version _ [1] rfl rfl ?_ rfl
    decide +kernel
  -- The first octet picks the protocol, and the request is whole before its deadline.
  have hasks : v.AsksInTime a [.client (.send [5, 1])] es := by
    refine ⟨.detected rfl hgreets, es, by decide, List.prefix_refl _, hthere, .inr ?_⟩
    decide +kernel
  have hnul : ∀ name, a.host = .domain name → '\x00' ∉ name := by
    rintro name hname
    cases hname
    decide
  have haccepting : v.Accepting es := accepting_of_faultless (fun r hr => by cases hr; decide) rfl
  exact ⟨hthere, dials_and_delivers v a [104, 105] _ es es rfl hnul hasks haccepting
    (by decide +kernel) (List.prefix_refl _)⟩

end Opening

end ForwardProxy
