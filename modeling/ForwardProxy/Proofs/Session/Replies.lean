import ForwardProxy.Proofs.Session.Entries

namespace ForwardProxy

/-!
# One reply to every request

A SOCKS5 client that asks in time and takes what it is told is told one reply before its stream is
closed, and that its request succeeds just if the session goes on to its tunnel.  There is one way
in which no reply is told at all: the target is reached, but the local address of the connection
cannot be read.

* `Session.hasRelayed` — whether a session has gone on to its tunnel.
* `Session.OneReply` — what a client is to be told.
* `Opening.one_reply_iff` — when it is told that.
-/

namespace Session

/-- Whether the tunnel of a SOCKS5 session runs or has run: a session that is over has had one if it
    was connected to its target and none of what goes wrong before the tunnel ended it. -/
def hasRelayed (s : Session) : Bool :=
  match s.phase, s.outbound with
  | .relaying _ _ _, _ => true
  | .finished failure, some _ => endsTunnel failure
  | _, _ => false

/-- Behind the choice of a method the client was told one reply, that its request succeeds if the
    session has gone on to its tunnel and that it fails otherwise; and nothing behind that but, from
    the tunnel, what the target has sent. -/
def OneReply (net : Network) (events : List Channel.Event) (s : Session) : Prop :=
  ∃ code address behind,
    s.client.channel.written = Socks5.choice ++ Socks5.reply code address ++ behind ∧
      (code = .succeeded ↔ s.hasRelayed = true) ∧
      (behind ≠ [] → s.hasRelayed = true ∧
        ∃ o, s.outbound = some o ∧ behind <+: (net.targetStream o.address events).unread)

variable {net : Network} {a : Socks5.Ask} {d k : Nat} {g : Lookahead} {events : List Channel.Event}
  {s s' : Session}

/-- Sessions that are alike were both replied to once, or neither was. -/
theorem Alike.oneReply_iff (h : s.Alike s') : s'.OneReply net events ↔ s.OneReply net events := by
  rw [OneReply, OneReply, hasRelayed, hasRelayed, h.phase_eq, h.outbound_eq, h.written_eq]

/-- A client whose session has gone on to its tunnel was told so. -/
theorem Tunnelled.oneReply {o : Outbound} {up down : Half}
    (h : Tunnelled net a g events s.client o up down) (houtbound : s.outbound = some o)
    (hrelayed : s.hasRelayed = true) : s.OneReply net events := by
  obtain ⟨-, -, -, address, ⟨behind, hbehind⟩, hback⟩ := h
  -- What stands behind the reply has come through the half that leads to the client.
  refine ⟨.succeeded, address, behind, hbehind.symm, ⟨fun _ => hrelayed, fun _ => rfl⟩,
    fun _ => ⟨hrelayed, o, houtbound, ?_⟩⟩
  obtain ⟨taken, hunread, hpre⟩ := hback.written_isPrefix
  rw [← hbehind, List.prefix_append_right_inj] at hpre
  rw [hunread, List.nil_append]
  exact hpre.trans (List.prefix_append _ _)

/-- Nobody is told a reply who was told the choice of a method only. -/
theorem not_oneReply (hsaid : s.client.channel.written = Socks5.choice) :
    ¬s.OneReply net events := by
  rintro ⟨code, address, behind, htold, -, -⟩
  rw [hsaid, List.append_assoc, List.self_eq_append_right] at htold
  cases htold

/-- A session that has ended or runs its tunnel has told one reply, unless its connection does not
    tell its local address. -/
theorem OnCourse.oneReply_iff (h : s.OnCourse net a d g k events)
    (hended : s.isOver = true ∨ s.isRelaying = true) :
    s.OneReply net events ↔ ¬∃ address, a.Reaches net address false := by
  obtain ⟨settings, peer, entry, turn, client, outbound, phase, log, lookups, dials⟩ := s
  -- A dial ends in one way only, so that a tunnel excludes a connection without a local address.
  have hrelayed : ∀ {o up down}, Tunnelled net a g events client o up down →
      ¬∃ address, a.Reaches net address false := by
    rintro o up down htunnelled ⟨address, -, greeting, room, hreach⟩
    obtain ⟨-, greeting', room', hreach'⟩ := htunnelled.reached
    rw [hreach] at hreach'
    cases hreach'
  cases h with
  | @rejected failure code client unreached follows said failing =>
    refine iff_of_true ⟨code, Socks5.noAddress, [], ?_, ?_, fun hne => absurd rfl hne⟩
      fun ⟨address, hreaches⟩ => unreached address false hreaches
    · rw [List.append_nil]
      exact said
    · exact iff_of_false failing Bool.false_ne_true
  | unreplied number reached follows said silent =>
    exact iff_of_false (not_oneReply said) fun hno => hno ⟨_, reached⟩
  | relaying tunnelled =>
    exact iff_of_true (tunnelled.oneReply rfl rfl) (hrelayed tunnelled)
  | relayed tunnelled ending =>
    exact iff_of_true (tunnelled.oneReply rfl ending) (hrelayed tunnelled)
  | _ => exact absurd hended (by simp [isOver, isRelaying])

end Session

namespace Opening

open SessionRun (Event)

/-- **One reply.**  Of every client that asks in time and takes what it is told: when its session
    has ended or runs its tunnel, it was told one reply to its request, that the request succeeds
    just if the session has gone on to its tunnel, unless the request brings about a connection
    whose local address cannot be read. -/
theorem one_reply_iff (v : Opening) (a : Socks5.Ask) (es₁ es : List Event)
    (hasks : v.AsksInTime a es₁ es) (haccepting : v.Accepting es)
    (hended : (v.after es).session.isOver = true ∨ (v.after es).session.isRelaying = true) :
    (v.after es).session.OneReply v.network (v.begun.targetEvents es) ↔
      ¬∃ address, a.Reaches v.network address false := by
  obtain ⟨es₂, hle, hwithin, -, -⟩ := hasks.in_time
  obtain ⟨more, rfl⟩ := hle.trans hwithin
  obtain ⟨d, s, halike, honCourse⟩ := hasks.alike haccepting (List.prefix_refl _)
  rw [halike.oneReply_iff]
  refine honCourse.oneReply_iff ?_
  unfold Session.isOver Session.isRelaying at hended ⊢
  rwa [halike.phase_eq] at hended

/-- A client that asks for a target which refuses is told so. -/
theorem one_reply_to_refused_connect :
    let v : Opening := ⟨.empty, .standard, .v4 ⟨1, 1, 1, 2⟩ 2, .detecting, ⟨true, true⟩, 0, none,
      []⟩
    let es : List Event := [.client (.send [5, 1, 0]), .client (.send [5, 1, 0, 1, 1, 2, 3, 4]),
      .client (.send [0, 80])]
    (v.after es).session.isOver = true ∧
      (v.after es).session.OneReply v.network (v.begun.targetEvents es) := by
  intro v es
  have hover : (v.after es).session.isOver = true := by decide +kernel
  let a : Socks5.Ask := ⟨[0], by decide, by decide, .connect, 0, .ip (.v4 ⟨1, 2, 3, 4⟩), 80, nofun⟩
  have hgreets : v.Greets [.client (.send [5, 1, 0])] Socks5.version := by
    refine @greets_concat v [] Socks5.version _ [1, 0] rfl rfl ?_ rfl
    decide +kernel
  have hasks : v.AsksInTime a [.client (.send [5, 1, 0])] es := by
    refine ⟨.detected rfl hgreets, es, by decide, List.prefix_refl _, by decide +kernel, .inr ?_⟩
    decide +kernel
  -- Nobody listens at the address, so the request is rejected with a reply of its own.
  have haccepting : v.Accepting es := accepting_of_faultless (fun r hr => by cases hr) rfl
  refine ⟨hover, (one_reply_iff v a _ es hasks haccepting (.inl hover)).2 ?_⟩
  rintro ⟨address, -, greeting, room, hreach⟩
  have hrefused : (v.network.attempt a.target).reach = .failed (.system 111) := by decide +kernel
  rw [hreach] at hrefused
  cases hrefused

/-- A client that asks for a target which accepts, but whose connection does not tell its local
    address, is told no reply at all before its stream is closed. -/
theorem no_reply_without_local_address :
    let net : Network := ⟨[], [(.v4 ⟨1, 2, 3, 4⟩ 80, .accepts [] false)]⟩
    let v : Opening := ⟨net, .standard, .v4 ⟨127, 0, 0, 1⟩ 40000, .speaking .socks5, ⟨true, true⟩,
      0, none, []⟩
    let es : List Event := [.client (.send [5, 1, 0]),
      .client (.send [5, 1, 0, 1, 1, 2, 3, 4, 0, 80])]
    (∃ a, v.AsksInTime a [] es) ∧ v.Accepting es ∧ (v.after es).session.isOver = true ∧
      (v.after es).session.client.channel.shut = true ∧
      ¬(v.after es).session.OneReply v.network (v.begun.targetEvents es) := by
  intro net v es
  have hsaid : (v.after es).session.client.channel.written = Socks5.choice := by decide +kernel
  refine ⟨⟨⟨[0], by decide, by decide, .connect, 0, .ip (.v4 ⟨1, 2, 3, 4⟩), 80, nofun⟩, ?_⟩,
    accepting_of_faultless (fun r hr => by cases hr) rfl, by decide +kernel, by decide +kernel,
    Session.not_oneReply hsaid⟩
  refine ⟨.entered rfl, es, List.nil_prefix, List.prefix_refl _, by decide +kernel, .inr ?_⟩
  decide +kernel

end Opening

end ForwardProxy
