import ForwardProxy.Proofs.Session.Lingering
import ForwardProxy.Proofs.Socks5.Ask

namespace ForwardProxy

/-!
# The course of a SOCKS5 session

A client that offers to go without authentication and asks in time, and that takes what it is told,
has its request understood; from then on its session goes one of a few ways.

* `Socks5.Ask.lookups`, `Socks5.Ask.dials`, `Socks5.Ask.Reaches` — what a request asks of the
  network.
* `Socks5.Ask.Timely` — a request that is there, or may still come in time.
* `Session.Tunnelled` — a session whose tunnel runs or has run.
* `Session.Course` — how far a session has come, one constructor for each way and phase.
* `Session.OnCourse.settle` — no settling leads a session astray.
* `Opening.onCourse` — every session of a timely request is on its course.
-/

/-! ### What a request asks of the network -/

namespace Socks5.Ask

variable {a : Ask} {net : Network} {g : Lookahead} {d t : Nat}

/-- The text that is dialled. -/
def target (a : Ask) : Text := a.request.destination.render

/-- The names that are looked up for a request. -/
def lookups (a : Ask) (net : Network) : List Text :=
  if a.command = .connect then (net.attempt a.target).lookups else []

/-- The addresses that are connected to for a request. -/
def dials (a : Ask) (net : Network) : List SocketAddress :=
  if a.command = .connect then (net.attempt a.target).connects else []

/-- The request brings about a connection to an address; `known` tells whether the local address of
    it can be read. -/
def Reaches (a : Ask) (net : Network) (address : SocketAddress) (known : Bool) : Prop :=
  a.command = .connect ∧
    ∃ greeting room, (net.attempt a.target).reach = .connected address greeting known room

/-- The request is there at `t`, or a part of it is, and the rest may still come before `d`. -/
def Timely (a : Ask) (g : Lookahead) (d t : Nat) : Prop :=
  a.octets <+: g.clear ∨ (g.Quiet ∧ g.clear <+: a.octets ∧ g.clear ≠ a.octets ∧ t < d)

/-- A request that is in time by a later instant was so by an earlier one. -/
theorem Timely.earlier {t' : Nat} (h : a.Timely g d t') (ht : t ≤ t') : a.Timely g d t := by
  rcases h with h | ⟨hquiet, hpart, hne, hearly⟩
  · exact .inl h
  · exact .inr ⟨hquiet, hpart, hne, by omega⟩

end Socks5.Ask

/-- How a dial has ended tells what the network makes of its target. -/
theorem Dial.connected_of_outcome? {d : Dial} {t : Nat} {c : Connection}
    (h : d.outcome? t = some (.ok c)) :
    d.attempt.reach = .connected c.address c.greeting c.localKnown c.room := by
  unfold outcome? at h
  split at h
  · rename_i hreach
    cases h
    exact hreach
  · cases h
  · split at h <;> cases h

/-- A dial that has failed has reached nothing. -/
theorem Dial.not_connected_of_outcome? {d : Dial} {t : Nat} {failure : Failure}
    (h : d.outcome? t = some (.error failure)) (address : SocketAddress) (greeting : Bytes)
    (known : Bool) (room : Option Nat) :
    d.attempt.reach ≠ .connected address greeting known room := by
  intro hreach
  rw [outcome?, hreach] at h
  cases h

/-- The local address of a connection is there if it can be read. -/
theorem Outbound.localAddress_cases (o : Outbound) :
    (o.localKnown = true ∧ ∃ address, o.localAddress = .ok address) ∨
      (o.localKnown = false ∧ ∃ fault, o.localAddress = .error fault) := by
  unfold localAddress
  cases o.localKnown with
  | false => exact .inr ⟨rfl, _, if_neg Bool.false_ne_true⟩
  | true =>
    refine .inl ⟨rfl, ?_⟩
    rw [if_pos rfl]
    cases o.address with
    | v4 ip port => exact ⟨_, rfl⟩
    | v6 ip port scope => exact ⟨_, rfl⟩

/-- A dial that fails is told so. -/
theorem Session.dialReply_ne_succeeded (failure : Failure) :
    Session.dialReply failure ≠ .succeeded := by
  unfold Session.dialReply
  split
  · split <;> nofun
  · nofun

namespace Session

/-! ### The invariant -/

/-- Whether an ending is none of those that a SOCKS5 session meets before its tunnel. -/
def endsTunnel : Option SessionFailure → Bool
  | some (.socks _) => false
  | _ => true

/-- The tunnel of a request runs or has run: its client was told the choice of a method and that the
    request succeeds, and what has come through both halves is what the other side has sent. -/
structure Tunnelled (net : Network) (a : Socks5.Ask) (g : Lookahead) (events : List Channel.Event)
    (client : Lookahead) (o : Outbound) (up down : Half) : Prop where
  number_eq : o.number = 0
  reached : a.Reaches net o.address true
  sent : Flow g a.octets [] up client o.stream
  back : ∃ address,
    Socks5.choice ++ Socks5.reply .succeeded address <+: client.channel.written ∧
      Flow (net.targetStream o.address events) []
        (Socks5.choice ++ Socks5.reply .succeeded address) down o.stream client

/-- How far the session of a request has come, whose handshake is to be over by `d`: `k` of the
    steps of the next settling are taken, `g` is the stream of the client, of which nobody has read
    anything, and `events` is what the target has done. -/
inductive Course (net : Network) (a : Socks5.Ask) (d : Nat) (g : Lookahead) (k : Nat) :
    List Channel.Event → Phase → Lookahead → Option Outbound → List Text → List SocketAddress →
      Prop where
  | negotiating {h : Socks5.Handshake} {client : Lookahead} {taken rest told : Bytes}
      (awaits : Socks5.Awaits a h rest told) (cut : taken ++ rest = a.octets)
      (trails : g.Trails taken client) (proper : client.Proper)
      (accepts : client.Accepts (told.length + Socks5.replyRoom))
      (said : client.channel.written ++ told = Socks5.choice)
      (still : 2 < k → ¬a.octets <+: g.clear) :
      Course net a d g k [] (.negotiating h d) client none [] []
  | dialling {client : Lookahead} {deadline : Nat} (command : a.command = .connect)
      (follows : g.Follows a.octets client) (accepts : client.Accepts Socks5.replyRoom)
      (said : client.channel.written = Socks5.choice) :
      Course net a d g k [] (.dialling .socks5 ⟨a.target, net.attempt a.target, deadline⟩) client
        none (a.lookups net) (a.dials net)
  | rejecting {failure : SessionFailure} {code : Socks5.ReplyCode} {client : Lookahead}
      (early : k ≤ 4) (unreached : ∀ address known, ¬a.Reaches net address known)
      (follows : g.Follows a.octets client) (accepts : client.Accepts Socks5.replyRoom)
      (said : client.channel.written = Socks5.choice) (failing : code ≠ .succeeded) :
      Course net a d g k [] (.rejecting failure (Socks5.errorReply code)) client none
        (a.lookups net) (a.dials net)
  | rejected {failure : SessionFailure} {code : Socks5.ReplyCode} {client : Lookahead}
      (unreached : ∀ address known, ¬a.Reaches net address known)
      (follows : g.Follows a.octets client)
      (said : client.channel.written = Socks5.choice ++ Socks5.errorReply code)
      (failing : code ≠ .succeeded) :
      Course net a d g k [] (.finished (some failure)) client none (a.lookups net) (a.dials net)
  /-- The local address of the connection cannot be read. -/
  | unreplied {events : List Channel.Event} {fault : Fault} {client : Lookahead} {o : Outbound}
      (number : o.number = 0) (reached : a.Reaches net o.address false)
      (follows : g.Follows a.octets client) (said : client.channel.written = Socks5.choice)
      (silent : o.stream.channel.written = []) :
      Course net a d g k events (.finished (some (.socks (.localAddress fault)))) client (some o)
        (a.lookups net) (a.dials net)
  | announcing {events : List Channel.Event} {target : Text} {address : SocketAddress}
      {client : Lookahead} {o : Outbound} (early : k ≤ 4) (number : o.number = 0)
      (reached : a.Reaches net o.address true) (follows : g.Follows a.octets client)
      (accepts : client.Accepts Socks5.replyRoom)
      (said : client.channel.written = Socks5.choice)
      (untouched : (net.targetStream o.address events).Follows [] o.stream)
      (silent : o.stream.channel.written = []) :
      Course net a d g k events (.announcing .socks5 target (Socks5.reply .succeeded address))
        client (some o) (a.lookups net) (a.dials net)
  | relaying {events : List Channel.Event} {target : Text} {tunnel : Tunnel} {client : Lookahead}
      {o : Outbound} (tunnelled : Tunnelled net a g events client o tunnel.up tunnel.down) :
      Course net a d g k events (.relaying .socks5 target tunnel) client (some o) (a.lookups net)
        (a.dials net)
  | relayed {events : List Channel.Event} {failure : Option SessionFailure} {client : Lookahead}
      {o : Outbound} {up down : Half} (tunnelled : Tunnelled net a g events client o up down)
      (ending : endsTunnel failure = true) :
      Course net a d g k events (.finished failure) client (some o) (a.lookups net) (a.dials net)

/-- A session on the course of its request. -/
def OnCourse (net : Network) (a : Socks5.Ask) (d : Nat) (g : Lookahead) (k : Nat)
    (events : List Channel.Event) (s : Session) : Prop :=
  Course net a d g k events s.phase s.client s.outbound s.lookups s.dials

variable {net : Network} {a : Socks5.Ask} {d t k : Nat} {g : Lookahead}
  {events : List Channel.Event} {s : Session}

/-- Only the bounds on the number of steps move with it, and only where a step works on the phase. -/
theorem OnCourse.recount {k' : Nat} (h : s.OnCourse net a d g k events)
    (hstill : s.phase.rank = 2 → 2 < k' → 2 < k) (hearly : s.phase.rank = 4 → k ≤ 4 → k' ≤ 4) :
    s.OnCourse net a d g k' events := by
  obtain ⟨settings, peer, entry, turn, client, outbound, phase, log, lookups, dials⟩ := s
  cases h with
  | negotiating awaits cut trails proper accepts said still =>
    exact .negotiating awaits cut trails proper accepts said fun hk => still (hstill rfl hk)
  | dialling command follows accepts said => exact .dialling command follows accepts said
  | rejecting early unreached follows accepts said failing =>
    exact .rejecting (hearly rfl early) unreached follows accepts said failing
  | rejected unreached follows said failing => exact .rejected unreached follows said failing
  | unreplied number reached follows said silent =>
    exact .unreplied number reached follows said silent
  | announcing early number reached follows accepts said untouched silent =>
    exact .announcing (hearly rfl early) number reached follows accepts said untouched silent
  | relaying tunnelled => exact .relaying tunnelled
  | relayed tunnelled ending => exact .relayed tunnelled ending

/-- A step that a session does not take leaves it where it is. -/
theorem OnCourse.skip (h : s.OnCourse net a d g k events) (hrank : s.phase.rank ≠ k) :
    s.OnCourse net a d g (k + 1) events :=
  h.recount (by omega) (by omega)

/-- A session on course has all steps of the next settling before it. -/
theorem OnCourse.restart (h : s.OnCourse net a d g k events) : s.OnCourse net a d g 2 events :=
  h.recount (by omega) (by omega)

/-- A session that fails is on course if the phase that it ends in is. -/
theorem OnCourse.fail_of {protocol : Protocol} {failure : SessionFailure}
    (h : Course net a d g k events (.finished (some failure)) s.client.close
      (s.outbound.map Outbound.close) s.lookups s.dials) :
    (s.fail protocol failure).OnCourse net a d g k events := by
  unfold Session.fail
  split <;> exact h

/-! ### Step by step -/

/-- A handshake that waits for more goes on waiting before its deadline. -/
theorem negotiate_of_awaits {h h' : Socks5.Handshake} {l : Lookahead} {rest told : Bytes}
    (hphase : s.phase = .negotiating h d) (hrun : h.run s.client = (h', l))
    (hawaits : Socks5.Awaits a h' rest told) (hearly : t < d) :
    s.negotiate net t = { s with client := l, phase := .negotiating h' d } := by
  have hahead : ¬d ≤ t := by omega
  rw [negotiate, hphase]
  dsimp only
  rw [hrun]
  cases hawaits <;> exact if_neg hahead

/-- A request that is there is understood. -/
theorem negotiate_of_understood {h : Socks5.Handshake} {l : Lookahead}
    (hphase : s.phase = .negotiating h d) (hrun : h.run s.client = (.understood a.request, l)) :
    s.negotiate net t =
      if a.command = .connect then { s with client := l }.beginDial net t .socks5 a.target
      else
        { s with client := l }.reject .commandNotSupported (.socks (.unsupported a.command)) := by
  rw [negotiate, hphase]
  dsimp only
  rw [hrun]
  rfl

/-- A client that negotiates in time stays on course, up to the dial or the rejection of its
    request. -/
theorem OnCourse.negotiate (h : s.OnCourse net a d g 2 events) (htimely : a.Timely g d t) :
    (s.negotiate net t).OnCourse net a d g 3 events := by
  have hsame := h
  obtain ⟨settings, peer, entry, turn, client, outbound, phase, log, lookups, dials⟩ := s
  cases h with
  | @negotiating stage client taken rest told awaits cut trails proper accepts said still =>
    have hsaid : (client.say told).channel.written = Socks5.choice := said
    by_cases hthere : a.octets <+: g.clear
    · -- The rest of the request is there.
      have hrest : rest <+: client.clear := by
        rw [trails.clear_eq, ← cut] at hthere
        exact (List.prefix_append_right_inj _).1 hthere
      obtain ⟨l, hrun, hcleared⟩ :=
        (Socks5.reads_run awaits).whole client proper (accepts.mono (Nat.le_add_right _ _)) hrest
      have hfollows := ((trails.wrote (Lookahead.wrote_say told client)).cleared hcleared).follows
      have haccepts := (accepts.say told).took hcleared.took
      rw [cut] at hfollows
      rw [negotiate_of_understood rfl hrun]
      by_cases hcommand : a.command = .connect
      · rw [if_pos hcommand]
        have hlookups : (net.attempt a.target).lookups = a.lookups net := (if_pos hcommand).symm
        have hdials : (net.attempt a.target).connects = a.dials net := (if_pos hcommand).symm
        show Course net a d g 3 [] _ l none (net.attempt a.target).lookups
          (net.attempt a.target).connects
        rw [hlookups, hdials]
        exact .dialling hcommand hfollows haccepts (hcleared.took.written_eq.trans hsaid)
      · rw [if_neg hcommand]
        have hlookups : [] = a.lookups net := (if_neg hcommand).symm
        have hdials : [] = a.dials net := (if_neg hcommand).symm
        show Course net a d g 3 [] _ l none [] []
        rw [hlookups, hdials]
        exact .rejecting (by decide) (fun _ _ hreaches => hcommand hreaches.1) hfollows haccepts
          (hcleared.took.written_eq.trans hsaid) nofun
    · -- What there is of the rest is taken, and more may come.
      obtain ⟨hquiet, hpart, hne, hearly⟩ := htimely.resolve_left hthere
      rw [trails.clear_eq, ← cut] at hpart hne
      obtain ⟨stage', l, more, said', left, hrun, hrest, htold, hawaits, hcleared⟩ :=
        (Socks5.reads_run awaits).part client proper (accepts.mono (Nat.le_add_right _ _))
          (trails.quiet_iff.1 hquiet) ((List.prefix_append_right_inj _).1 hpart)
          fun h => hne (by rw [h])
      rw [htold, List.length_append, Nat.add_assoc] at accepts
      rw [negotiate_of_awaits rfl hrun hawaits hearly]
      refine .negotiating hawaits ?_
        ((trails.wrote (Lookahead.wrote_say said' client)).cleared hcleared)
        (hcleared.took.proper proper) ((accepts.say said').took hcleared.took) ?_ fun _ => hthere
      · rw [List.append_assoc, ← hrest, cut]
      · rw [hcleared.took.written_eq, Lookahead.written_say, List.append_assoc, ← htold, said]
  | _ => exact hsame.skip nofun

/-- A session that is connected tells its client the local address of the connection, or ends for
    want of one. -/
theorem onCourse_announce {c : Connection} (hcommand : a.command = .connect)
    (hreach : (net.attempt a.target).reach =
      .connected c.address c.greeting c.localKnown c.room)
    (hfollows : g.Follows a.octets s.client) (haccepts : s.client.Accepts Socks5.replyRoom)
    (hsaid : s.client.channel.written = Socks5.choice) (hlookups : s.lookups = a.lookups net)
    (hdials : s.dials = a.dials net) :
    (s.announce .socks5 a.target (.connect 0 c.address c.greeting c.localKnown c.room)).OnCourse
      net a d g 4 [] := by
  have hreached : a.Reaches net c.address c.localKnown := ⟨hcommand, c.greeting, c.room, hreach⟩
  have hsilent := Outbound.written_connect 0 c.address c.greeting
  unfold announce
  dsimp only
  -- The reply carries the local address of the connection; without one the session ends and tells
  -- nothing.
  rcases Outbound.localAddress_cases (.connect 0 c.address c.greeting c.localKnown c.room) with
    ⟨hknown, address, haddress⟩ | ⟨hknown, fault, haddress⟩
  · have hknown : c.localKnown = true := hknown
    have huntouched : (net.targetStream c.address []).Follows []
        (Outbound.connect 0 c.address c.greeting true c.room).stream := by
      rw [← Network.targetStream_of_attempt 0 hreach]
      exact .refl _
    rw [haddress]
    rw [hknown] at hreached ⊢
    show Course net a d g 4 [] _ s.client _ s.lookups s.dials
    rw [hlookups, hdials]
    exact .announcing (Nat.le_refl 4) rfl hreached hfollows haccepts hsaid huntouched
      (hsilent true c.room)
  · have hknown : c.localKnown = false := hknown
    rw [haddress]
    rw [hknown] at hreached ⊢
    refine OnCourse.fail_of ?_
    show Course net a d g 4 [] _ s.client.close _ s.lookups s.dials
    rw [hlookups, hdials]
    exact .unreplied rfl hreached hfollows.close hsaid (hsilent false c.room)

/-- A session on course stays so when it dials: it announces what it reached, or rejects. -/
theorem OnCourse.dial (h : s.OnCourse net a d g 3 events) :
    (s.dial 0 t).OnCourse net a d g 4 events := by
  have hsame := h
  obtain ⟨settings, peer, entry, turn, client, outbound, phase, log, lookups, dials⟩ := s
  cases h with
  | @dialling client deadline command follows accepts said =>
    unfold Session.dial
    dsimp only
    -- The dial is under way, has failed, or is connected to what the network makes of its target.
    cases houtcome : Dial.outcome? t ⟨a.target, net.attempt a.target, deadline⟩ with
    | none => exact .dialling command follows accepts said
    | some result =>
      cases result with
      | error failure =>
        have hnot := Dial.not_connected_of_outcome? houtcome
        have hunreached : ∀ address known, ¬a.Reaches net address known := by
          rintro address known ⟨-, greeting, room, hreach⟩
          exact hnot address greeting known room hreach
        exact .rejecting (Nat.le_refl 4) hunreached follows accepts said
          (dialReply_ne_succeeded failure)
      | ok c =>
        exact onCourse_announce command (Dial.connected_of_outcome? houtcome) follows accepts said
          rfl rfl
  | _ => exact hsame.skip nofun

/-- A client that takes what it is told gets its reply at once. -/
theorem OnCourse.tell (h : s.OnCourse net a d g 4 events) :
    (s.tell t).OnCourse net a d g 5 events := by
  have hsame := h
  obtain ⟨settings, peer, entry, turn, client, outbound, phase, log, lookups, dials⟩ := s
  cases h with
  | @rejecting failure code client early unreached follows accepts said failing =>
    have hfollows := follows.wrote (Lookahead.wrote_say (Socks5.errorReply code) client)
    -- The client has room for any reply, so the reply is written at once and whole.
    have hfits : (Socks5.errorReply code).length ≤ Socks5.replyRoom :=
      Socks5.length_reply_le code Socks5.noAddress
    unfold Session.tell
    dsimp only
    rw [accepts.write_eq hfits]
    refine OnCourse.fail_of (.rejected unreached hfollows.close ?_ failing)
    show client.channel.written ++ _ = _
    rw [said]
  | @announcing events target address client o early number reached follows accepts said untouched
      silent =>
    unfold Session.tell
    dsimp only
    rw [accepts.write_eq (Socks5.length_reply_le _ _)]
    have hsaid : (client.say (Socks5.reply .succeeded address)).channel.written =
        Socks5.choice ++ Socks5.reply .succeeded address := by
      rw [Lookahead.written_say, said]
    refine .relaying ⟨number, reached, .fresh (follows.wrote (Lookahead.wrote_say _ client)) silent,
      address, ?_, .fresh untouched hsaid⟩
    exact ⟨[], (List.append_nil _).trans hsaid.symm⟩
  | _ => exact hsame.skip nofun

/-- What goes through the tunnel comes behind what was told. -/
theorem OnCourse.relay (h : s.OnCourse net a d g 5 events) :
    (s.relay t).OnCourse net a d g 6 events := by
  have hsame := h
  obtain ⟨settings, peer, entry, turn, client, outbound, phase, log, lookups, dials⟩ := s
  cases h with
  | @relaying events target tunnel client o tunnelled =>
    -- What was told stays in front of what the tunnel writes, and both halves pass on in order.
    obtain ⟨number, reached, sent, address, told, back⟩ := tunnelled
    have hflows := Tunnel.Flows.settle (t := tunnel) (e := ⟨client, o.stream⟩) ⟨sent, back⟩ t
    have hgrew := (Tunnel.grew_settle t tunnel ⟨client, o.stream⟩).client
    unfold Session.relay
    dsimp only
    generalize tunnel.settle t ⟨client, o.stream⟩ = settled at hflows hgrew
    obtain ⟨tunnel', e⟩ := settled
    have htold := told.trans hgrew
    dsimp only at hflows htold ⊢
    cases tunnel'.stats? with
    | none => exact .relaying ⟨number, reached, hflows.up, address, htold, hflows.down⟩
    | some stats =>
      -- However the tunnel ended, both streams are shut and nothing more is moved.
      have hrelayed : ∀ failure, endsTunnel failure = true →
          Course net a d g 6 events (.finished failure) e.client.close
            (some { o with stream := e.target.close }) (a.lookups net) (a.dials net) :=
        fun failure => .relayed ⟨number, reached, hflows.up.close_src.close_dst, address, htold,
          hflows.down.close_src.close_dst⟩
      dsimp only
      unfold Session.conclude
      split
      · exact hrelayed none rfl
      · exact hrelayed none rfl
      · exact OnCourse.fail_of (hrelayed _ rfl)
  | _ => exact hsame.skip nofun

/-- **Settling** keeps a session on its course while its request is timely. -/
theorem OnCourse.settle (h : s.OnCourse net a d g 2 events) (htimely : a.Timely g d t) :
    (s.settle net 0 t).OnCourse net a d g 6 events := by
  -- A session that speaks this protocol neither peeks nor reads a head.
  have hfirst : (s.peek t).readHead net t = s := by
    obtain ⟨settings, peer, entry, turn, client, outbound, phase, log, lookups, dials⟩ := s
    cases h <;> rfl
  rw [Session.settle, hfirst]
  exact (((h.negotiate htimely).dial).tell).relay

/-! ### What others do -/

/-- What the client does is sent on through its tunnel. -/
theorem Tunnelled.applyClient {client : Lookahead} {o : Outbound} {up down : Half}
    (h : Tunnelled net a g events client o up down) (e : Channel.Event) :
    Tunnelled net a (g.apply e) events (client.apply e) o up down := by
  obtain ⟨number, reached, sent, address, told, back⟩ := h
  refine ⟨number, reached, sent.apply_src e, address, ?_, back.apply_dst e⟩
  rw [Lookahead.written_apply]
  exact told

/-- What its client does leaves a session on course, unless the client stops taking what it is told.
    -/
theorem OnCourse.applyClient (h : s.OnCourse net a d g 2 events) {e : Channel.Event}
    (hfault : (g.apply e).channel.writeFault = none) :
    (s.applyClient e).OnCourse net a d (g.apply e) 2 events := by
  obtain ⟨settings, peer, entry, turn, client, outbound, phase, log, lookups, dials⟩ := s
  have hwritten := Lookahead.written_apply e client
  show Course net a d (g.apply e) 2 events phase (client.apply e) outbound lookups dials
  cases h with
  | negotiating awaits cut trails proper accepts said still =>
    exact .negotiating awaits cut (trails.apply e) (proper.apply e) (accepts.apply hfault)
      (by rw [hwritten]; exact said) (absurd · (by decide))
  | dialling command follows accepts said =>
    exact .dialling command (follows.apply e) (accepts.apply hfault) (hwritten.trans said)
  | rejecting early unreached follows accepts said failing =>
    exact .rejecting early unreached (follows.apply e) (accepts.apply hfault)
      (hwritten.trans said) failing
  | rejected unreached follows said failing =>
    exact .rejected unreached (follows.apply e) (hwritten.trans said) failing
  | unreplied number reached follows said silent =>
    exact .unreplied number reached (follows.apply e) (hwritten.trans said) silent
  | announcing early number reached follows accepts said untouched silent =>
    exact .announcing early number reached (follows.apply e) (accepts.apply hfault)
      (hwritten.trans said) untouched silent
  | relaying tunnelled => exact .relaying (tunnelled.applyClient e)
  | relayed tunnelled ending => exact .relayed (tunnelled.applyClient e) ending

/-- What the target does is sent back through the tunnel. -/
theorem Tunnelled.applyPeer {client : Lookahead} {o : Outbound} {up down : Half}
    (h : Tunnelled net a g events client o up down) (e : Channel.Event) :
    Tunnelled net a g (events ++ [e]) client (o.apply e) up down := by
  obtain ⟨number, reached, sent, address, told, back⟩ := h
  have hstream : net.targetStream o.address (events ++ [e]) =
      (net.targetStream o.address events).apply e := Lookahead.applyAll_append _ _ _
  refine ⟨number, reached, sent.apply_dst e, address, told, ?_⟩
  show Flow (net.targetStream o.address (events ++ [e])) _ _ down (o.stream.apply e) client
  rw [hstream]
  exact back.apply_src e

/-- The one connection of a session on its own has the number zero. -/
theorem Course.number_eq {phase : Phase} {client : Lookahead} {o : Outbound} {lookups : List Text}
    {dials : List SocketAddress}
    (h : Course net a d g k events phase client (some o) lookups dials) : o.number = 0 := by
  cases h with
  | unreplied number => exact number
  | announcing early number => exact number
  | relaying tunnelled => exact tunnelled.number_eq
  | relayed tunnelled => exact tunnelled.number_eq

/-- What happens on the connection of a session happens to the stream of its target. -/
theorem OnCourse.applyPeer (h : s.OnCourse net a d g k events) (number : Nat)
    (e : Channel.Event) :
    (s.applyPeer number e).OnCourse net a d g k
      (events ++ if s.outbound.isSome = true ∧ number = 0 then [e] else []) := by
  obtain ⟨settings, peer, entry, turn, client, outbound, phase, log, lookups, dials⟩ := s
  cases outbound with
  | none =>
    show Course net a d g k (events ++ if _ then _ else _) phase client none lookups dials
    -- Nothing is connected to yet, so that nobody hears it.
    rw [if_neg (by simp), List.append_nil]
    exact h
  | some o =>
    have hzero : o.number = 0 := Course.number_eq h
    show Course net a d g k (events ++ if _ then _ else _) phase client
      (some (if o.number = number then o.apply e else o)) lookups dials
    by_cases hnumber : number = 0
    · rw [if_pos ⟨rfl, hnumber⟩, if_pos (hzero.trans hnumber.symm)]
      have hwritten := Lookahead.written_apply e o.stream
      cases h with
      | unreplied number reached follows said silent =>
        exact .unreplied number reached follows said (hwritten.trans silent)
      | announcing early number reached follows accepts said untouched silent =>
        have hstream : net.targetStream o.address (events ++ [e]) =
            (net.targetStream o.address events).apply e := Lookahead.applyAll_append _ _ _
        refine .announcing early number reached follows accepts said ?_ (hwritten.trans silent)
        show (net.targetStream o.address (events ++ [e])).Follows [] (o.stream.apply e)
        rw [hstream]
        exact untouched.apply e
      | relaying tunnelled => exact .relaying (tunnelled.applyPeer e)
      | relayed tunnelled ending => exact .relayed (tunnelled.applyPeer e) ending
    · -- It happens on a connection of some other session.
      rw [if_neg fun h => hnumber h.2, if_neg fun h => hnumber (h.symm.trans hzero),
        List.append_nil]
      exact h

/-- The order of the halves of its tunnel leaves a session on course. -/
theorem OnCourse.reorder (h : s.OnCourse net a d g k events) (turn : Turn) :
    (s.reorder turn).OnCourse net a d g k events := by
  obtain ⟨settings, peer, entry, turn', client, outbound, phase, log, lookups, dials⟩ := s
  cases h with
  | relaying tunnelled => exact .relaying tunnelled
  | negotiating awaits cut trails proper accepts said still =>
    exact .negotiating awaits cut trails proper accepts said still
  | dialling command follows accepts said => exact .dialling command follows accepts said
  | rejecting early unreached follows accepts said failing =>
    exact .rejecting early unreached follows accepts said failing
  | rejected unreached follows said failing => exact .rejected unreached follows said failing
  | unreplied number reached follows said silent =>
    exact .unreplied number reached follows said silent
  | announcing early number reached follows accepts said untouched silent =>
    exact .announcing early number reached follows accepts said untouched silent
  | relayed tunnelled ending => exact .relayed tunnelled ending

end Session

/-! ### Whole runs -/

namespace SessionRun

/-- What has happened to the target in two parts of a run, the second from where the first has led.
    -/
theorem targetEvents_append (r : SessionRun) (es more : List Event) :
    r.targetEvents (es ++ more) = r.targetEvents es ++ (r.run es).targetEvents more := by
  induction es generalizing r with
  | nil => rfl
  | cons e es ih =>
    rw [List.cons_append, targetEvents, targetEvents, ih, List.append_assoc]
    rfl

/-- The clock does not go back. -/
theorem now_le_step (r : SessionRun) (e : Event) : r.now ≤ (r.step e).now := by
  rw [now_step]
  split <;> omega

/-- Time does not go back in a run. -/
theorem now_le_run (r : SessionRun) (es : List Event) : r.now ≤ (r.run es).now := by
  induction es generalizing r with
  | nil => exact Nat.le_refl _
  | cons e es ih => exact Nat.le_trans (r.now_le_step e) (ih (r.step e))

end SessionRun

namespace Opening

open SessionRun (Event)

variable {v : Opening} {a : Socks5.Ask} {es es' es₀ : List Event} {t k : Nat} {r : SessionRun}

/-- Time does not go back as more happens. -/
theorem now_le_of_isPrefix (h : es <+: es') : (v.after es).now ≤ (v.after es').now := by
  obtain ⟨more, rfl⟩ := h
  rw [after_append]
  exact SessionRun.now_le_run _ more

/-- The client takes everything that it is told up to its tunnel, which is the choice of a method and
    a reply at most. -/
def Accepting (v : Opening) (es : List Event) : Prop :=
  ∀ es', es' <+: es → (v.client es').Accepts (Socks5.choice.length + Socks5.replyRoom)

/-- A client takes everything if it has room for it at first and never makes writes fail. -/
theorem accepting_of_faultless
    (hroom : ∀ r, (v.client []).channel.room = some r →
      Socks5.choice.length + Socks5.replyRoom ≤ r)
    (hfault : (v.client es).channel.writeFault = none) : v.Accepting es := by
  have hbefore : ∀ es', es' <+: es → (v.client es').channel.writeFault = none := by
    rintro es' ⟨more, rfl⟩
    rw [client_append] at hfault
    generalize SessionRun.clientEvents more = events at hfault
    generalize v.client es' = l at hfault
    induction events generalizing l with
    | nil => exact hfault
    | cons e events ih =>
      have hnext : (l.apply e).channel.writeFault = none := ih (l.apply e) hfault
      cases hl : l.channel.writeFault with
      | none => rfl
      | some f =>
        have hstill := Lookahead.writeFault_apply e (l := l) (by rw [hl]; rfl)
        rw [hnext] at hstill
        cases hstill
  -- Event by event: whatever the client does, its room does not shrink.
  intro es' hes'
  induction es' using List.reverseRecOn with
  | nil => exact ⟨hroom, hbefore [] hes', (v.untold_client []).open_eq⟩
  | append_singleton es' e ih =>
    have haccepts := ih ((List.prefix_append _ _).trans hes')
    have hnext := hbefore _ hes'
    rw [client_append] at hnext ⊢
    cases e with
    | client e => exact haccepts.apply hnext
    | _ => exact haccepts

/-- The instant at which a handshake has to be over that begins with the session. -/
def handshakeDeadline (v : Opening) : Nat :=
  Time.deadline v.now v.settings.requestReadTimeout

/-- The session of a run is on the course of a request. -/
structure OnCourse (v : Opening) (a : Socks5.Ask) (es : List Event) (k : Nat) (r : SessionRun) :
    Prop where
  network_eq : r.network = v.network
  session : r.session.OnCourse v.network a v.handshakeDeadline (v.client es) k
    (v.begun.targetEvents es)

/-- A run on course stays so when its session settles, if its client asks in time. -/
theorem OnCourse.settle (h : v.OnCourse a es 2 r)
    (htimely : a.Timely (v.client es) v.handshakeDeadline t) :
    v.OnCourse a es 6 (r.settle t) := by
  refine ⟨h.network_eq, ?_⟩
  show (r.session.settle r.network 0 t).OnCourse _ _ _ _ _ _
  rw [h.network_eq]
  exact h.session.settle htimely

/-- **Whatever happens** to a session leaves it on its course while its request is timely and its
    client does not make writes fail. -/
theorem OnCourse.concat {e : Event} (h : v.OnCourse a es 6 (v.after es))
    (htimely : a.Timely (v.client (es ++ [e])) v.handshakeDeadline (v.after (es ++ [e])).now)
    (hfault : (v.client (es ++ [e])).channel.writeFault = none) :
    v.OnCourse a (es ++ [e]) 6 (v.after (es ++ [e])) := by
  have hnow := v.now_after_concat es e
  have hclient := v.client_append es [e]
  have htarget : v.begun.targetEvents (es ++ [e]) =
      v.begun.targetEvents es ++ (v.after es).targetEvent e := by
    rw [SessionRun.targetEvents_append]
    show _ ++ ((v.after es).targetEvent e ++ []) = _
    rw [List.append_nil]
  rw [hnow] at htimely
  rw [after_concat]
  have hagain : v.OnCourse a es 2 (v.after es) := ⟨h.network_eq, h.session.restart⟩
  generalize v.after es = r at h hagain htarget htimely
  cases e with
  | client e =>
    refine OnCourse.settle ⟨h.network_eq, ?_⟩ htimely
    rw [htarget, hclient]
    rw [hclient] at hfault
    show (r.session.applyClient e).OnCourse _ _ _ _ _ (_ ++ [])
    rw [List.append_nil]
    exact hagain.session.applyClient hfault
  | peer number e =>
    refine OnCourse.settle ⟨h.network_eq, ?_⟩ htimely
    rw [htarget, hclient]
    exact hagain.session.applyPeer number e
  | wait span =>
    -- The same is known of the client at every instant on the way.
    have hsame : ∀ {k r'}, v.OnCourse a es k r' → v.OnCourse a (es ++ [.wait span]) k r' := by
      intro k r' h'
      refine ⟨h'.network_eq, ?_⟩
      rw [htarget, hclient]
      show Session.OnCourse _ _ _ _ _ (_ ++ []) _
      rw [List.append_nil]
      exact h'.session
    -- What is timely at the end of the wait was so at each instant on the way.
    refine Clock.run_preserves_within
      (P := fun _ r' => v.OnCourse a (es ++ [.wait span]) 6 r') ?_ (Nat.le_add_right _ _) (hsame h)
    intro _ t r' _ ht h'
    exact OnCourse.settle ⟨h'.network_eq, h'.session.restart⟩ (htimely.earlier ht)
  | reorder turn =>
    refine ⟨h.network_eq, ?_⟩
    rw [htarget, hclient]
    show (r.session.reorder turn).OnCourse _ _ _ _ _ (_ ++ [])
    rw [List.append_nil]
    exact h.session.reorder turn

/-- **Every session of a timely request** is on its course, at every settled point. -/
theorem onCourse (hentry : v.entry = .speaking .socks5)
    (htimely : ∀ es', es' <+: es →
      a.Timely (v.client es') v.handshakeDeadline (v.after es').now)
    (haccepting : v.Accepting es) : v.OnCourse a es 6 (v.after es) := by
  -- By induction from the end: what has happened so far has led to a course, and one thing more is
  -- followed by a settling.
  induction es using List.reverseRecOn with
  | nil =>
    have hbegun : v.OnCourse a [] 2
        ⟨v.now, v.network, .start v.settings v.peer v.entry v.turn v.now
          ((Channel.idle v.room).applyAll v.early)⟩ := by
      refine ⟨rfl, ?_⟩
      rw [hentry]
      exact .negotiating (Socks5.awaits_start a) (List.nil_append _) (.refl _) (v.proper_client [])
        (haccepting [] (List.prefix_refl _)) (congrArg (· ++ _) (v.untold_client []).written_eq)
        (absurd · (by decide))
    exact hbegun.settle (htimely [] (List.prefix_refl _))
  | append_singleton es e ih =>
    have hle : es <+: es ++ [e] := List.prefix_append _ _
    have honCourse := ih (fun es' h => htimely es' (h.trans hle)) fun es' h =>
      haccepting es' (h.trans hle)
    exact honCourse.concat (htimely _ (List.prefix_refl _)) (haccepting _ (List.prefix_refl _)).faultless

/-! ### Requests in time -/

/-- What is clear of a client's input only grows. -/
theorem clear_isPrefix (h : es <+: es') : (v.client es).clear <+: (v.client es').clear := by
  obtain ⟨more, rfl⟩ := h
  rw [client_append]
  exact Lookahead.clear_isPrefix_applyAll _ _

/-- Until a request is there that comes at some time, nothing stands in its way. -/
theorem quiet_of_not_there (hthere : a.octets <+: (v.client es₀).clear) (hwithin : es₀ <+: es)
    (hes' : es' <+: es) (hnot : ¬a.octets <+: (v.client es').clear) :
    es' <+: es₀ ∧ (v.client es').Quiet := by
  have hbefore : es' <+: es₀ := by
    rcases List.prefix_or_prefix_of_prefix hes' hwithin with h | h
    · exact h
    · exact absurd (hthere.trans (clear_isPrefix h)) hnot
  refine ⟨hbefore, ?_⟩
  by_contra hfaulty
  obtain ⟨more, rfl⟩ := hbefore
  rw [client_append, Lookahead.clear_applyAll_of_not_quiet hfaulty] at hthere
  exact hnot hthere

/-- A request that is there in time was timely at every settled point before, and is so ever
    after. -/
theorem timely_of_there (hthere : a.octets <+: (v.client es₀).clear)
    (hintime : es₀ = [] ∨ (v.after es₀).now < v.handshakeDeadline)
    (hwithin : es₀ <+: es) (hes' : es' <+: es) :
    a.Timely (v.client es') v.handshakeDeadline (v.after es').now := by
  by_cases hdone : a.octets <+: (v.client es').clear
  · exact .inl hdone
  · -- The request was not there yet, so that this was before it was.
    obtain ⟨hbefore, hquiet⟩ := quiet_of_not_there hthere hwithin hes' hdone
    have hclear : (v.client es').clear <+: (v.client es₀).clear := clear_isPrefix hbefore
    have hpart : (v.client es').clear <+: a.octets :=
      (List.prefix_or_prefix_of_prefix hclear hthere).resolve_right hdone
    refine .inr ⟨hquiet, hpart, fun h => hdone (h ▸ List.prefix_refl _), ?_⟩
    rcases hintime with rfl | hearly
    · cases List.prefix_nil.1 hbefore
      exact absurd hthere hdone
    · exact Nat.lt_of_le_of_lt (now_le_of_isPrefix hbefore) hearly

end Opening

end ForwardProxy
