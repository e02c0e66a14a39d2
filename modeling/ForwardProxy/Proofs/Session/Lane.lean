import ForwardProxy.Proofs.Session.Acts
import ForwardProxy.Proofs.Session.Course
import ForwardProxy.Proofs.Session.Unmixed

namespace ForwardProxy.Session

/-!
# The lane of a session

What a session of a server passes on, whichever protocol its client speaks and whatever number its
connection has: it takes from its own client only, tells that client its own replies, and carries
over what its own target has sent.

* `Session.Lane`, `Session.InLane` — how far a session has come, one constructor for each phase.
* `Session.InLane.act` — nothing that a session does leads it out of its lane.
* `Session.InLane.applyClient`, `Session.InLane.applyPeer` — nor does what others do.
* `Session.InLane.unmixed` — what it comes to.
-/

/-! ### The invariant -/

/-- How far a session has come: `g` is the stream of its client, of which nobody has read anything,
    and `heard` is what has happened on each connection since it was made. -/
inductive Lane (net : Network) (cap : Nat) (g : Lookahead) (heard : Nat → List Channel.Event) :
    Phase → Lookahead → Option Outbound → Prop where
  | peeking {deadline : Nat} {client : Lookahead} (proper : client.Proper)
      (follows : g.Follows [] client) (untold : client.channel.written = []) :
      Lane net cap g heard (.peeking deadline) client none
  | readingHead {reader : HeadReader} {deadline : Nat} {client : Lookahead} {c : Bytes}
      (speaks : Protocol.spoken? g.unread = some .httpConnect) (proper : client.Proper)
      (follows : g.Follows c client) (reads : HeadReader.Reads cap c reader)
      (fits : c.length ≤ cap) (untold : client.channel.written = []) :
      Lane net cap g heard (.readingHead reader deadline) client none
  | negotiating {handshake : Socks5.Handshake} {deadline : Nat} {client : Lookahead}
      (speaks : Protocol.spoken? g.unread = some .socks5)
      (stood : Socks5.Stood g (handshake, client)) :
      Lane net cap g heard (.negotiating handshake deadline) client none
  | dialling {protocol : Protocol} {dial : Dial} {client : Lookahead} {opening : Bytes}
      (opens : Opens protocol opening) (follows : g.Follows opening client)
      (said : client.channel.written = told protocol)
      (attempt : dial.attempt = net.attempt dial.target) :
      Lane net cap g heard (.dialling protocol dial) client none
  | refusing {failure : Failure} {left answer : Bytes} {client : Lookahead}
      (speaks : Protocol.spoken? g.unread = some .httpConnect)
      (answers : Response.ofFailure? failure = some answer)
      (cut : client.channel.written ++ left = answer) :
      Lane net cap g heard (.refusing failure left) client none
  | rejecting {failure : SessionFailure} {code : Socks5.ReplyCode} {client : Lookahead}
      (speaks : Protocol.spoken? g.unread = some .socks5) (failing : code ≠ .succeeded)
      (said : client.channel.written = Socks5.choice) :
      Lane net cap g heard (.rejecting failure (Socks5.errorReply code)) client none
  | announcing {protocol : Protocol} {target : Text} {left words opening : Bytes}
      {client : Lookahead} {o : Outbound} (opens : Opens protocol opening)
      (follows : g.Follows opening client) (replies : Replies protocol (some o) words)
      (cut : client.channel.written ++ left = words)
      (untouched : (net.targetStream o.address (heard o.number)).Follows [] o.stream)
      (silent : o.stream.channel.written = []) :
      Lane net cap g heard (.announcing protocol target left) client (some o)
  | relaying {protocol : Protocol} {target : Text} {tunnel : Tunnel} {said : Bytes}
      {client : Lookahead} {o : Outbound}
      (joined : Joined net g heard protocol said client o tunnel.up tunnel.down)
      (whole : protocol = .httpConnect → said = Response.established) :
      Lane net cap g heard (.relaying protocol target tunnel) client (some o)
  | alone {failure : Option SessionFailure} {client : Lookahead}
      (denied : Denied g.unread client.channel.written) :
      Lane net cap g heard (.finished failure) client none
  | finished {protocol : Protocol} {failure : Option SessionFailure} {said : Bytes} {up down : Half}
      {client : Lookahead} {o : Outbound}
      (joined : Joined net g heard protocol said client o up down)
      (whole : protocol = .httpConnect →
        said = Response.established ∨ client.channel.written = said) :
      Lane net cap g heard (.finished failure) client (some o)

/-- A session that keeps to its lane. -/
def InLane (net : Network) (g : Lookahead) (heard : Nat → List Channel.Event) (s : Session) :
    Prop :=
  Lane net s.settings.maxRequestBytes g heard s.phase s.client s.outbound

variable {net : Network} {g : Lookahead} {heard : Nat → List Channel.Event} {s : Session}
  {protocol : Protocol}

/-! ### Endings -/

/-- A session that fails keeps to its lane if the phase that it ends in does. -/
theorem InLane.fail_of {failure : SessionFailure}
    (h : Lane net s.settings.maxRequestBytes g heard (.finished (some failure)) s.client.close
      (s.outbound.map Outbound.close)) :
    (s.fail protocol failure).InLane net g heard := by
  unfold Session.fail
  split <;> exact h

/-- A session without a connection that fails has told what it may. -/
theorem InLane.fail_alone {failure : SessionFailure} (hnone : s.outbound = none)
    (hdenied : Denied g.unread s.client.channel.written) :
    (s.fail protocol failure).InLane net g heard := by
  refine InLane.fail_of ?_
  rw [hnone]
  exact .alone hdenied

/-- An HTTP session that has told nothing yet may answer a failure. -/
theorem InLane.refuse_of (hnone : s.outbound = none)
    (hspeaks : Protocol.spoken? g.unread = some .httpConnect)
    (huntold : s.client.channel.written = []) (failure : Failure) :
    (s.refuse failure).InLane net g heard := by
  unfold Session.refuse
  cases hanswer : Response.ofFailure? failure with
  | some answer =>
    show Lane net _ g heard (.refusing failure answer) s.client s.outbound
    rw [hnone]
    exact .refusing hspeaks hanswer (by rw [huntold]; rfl)
  | none => exact InLane.fail_alone hnone (.inl huntold)

/-- A SOCKS5 session that has told the choice of a method may reject the request. -/
theorem InLane.reject_of (hnone : s.outbound = none)
    (hspeaks : Protocol.spoken? g.unread = some .socks5)
    (hsaid : s.client.channel.written = Socks5.choice) {code : Socks5.ReplyCode}
    (hfailing : code ≠ .succeeded) (failure : SessionFailure) :
    (s.reject code failure).InLane net g heard := by
  show Lane net _ g heard (.rejecting failure (Socks5.errorReply code)) s.client s.outbound
  rw [hnone]
  exact .rejecting hspeaks hfailing hsaid

/-! ### Phase by phase -/

/-- The first octet tells the protocol, and stays where it is. -/
theorem InLane.peek (hl : s.InLane net g heard) (now : Nat) :
    (s.peek now).InLane net g heard := by
  have hsame := hl
  obtain ⟨settings, peer, entry, turn, client, outbound, phase, log, lookups, dials⟩ := s
  cases hl with
  | peeking proper follows untold =>
    -- A peek takes nothing, so the first octet is still the first of the stream when its protocol
    -- begins.
    have htook := client.took_peek
    unfold Session.peek
    dsimp only
    rcases hpeek : client.peek with ⟨a, l⟩
    rw [hpeek] at htook
    have hstill : l.channel.written = [] := htook.written_eq.trans untold
    have hfollows : g.Follows [] l := follows.took htook
    cases a with
    | ready first =>
      cases first with
      | none => exact .alone (.inl hstill)
      | some b =>
        have hspeaks : Protocol.spoken? g.unread = some (.detect b) := by
          rw [Protocol.spoken?, follows.unread_eq, List.nil_append, Lookahead.unread_of_peek hpeek]
          rfl
        dsimp only
        cases hprotocol : Protocol.detect b with
        | httpConnect =>
          rw [hprotocol] at hspeaks
          exact .readingHead hspeaks (htook.proper proper) hfollows (HeadReader.reads_start _)
            (Nat.zero_le _) hstill
        | socks5 =>
          rw [hprotocol] at hspeaks
          have hstood : Socks5.Stood g (.start, l) := by
            refine ⟨[], hfollows, ?_⟩
            rw [show l.channel.written = [] from hstill]
            exact Socks5.stands_start
          exact .negotiating hspeaks hstood
    | failed f => exact .alone (.inl hstill)
    | blocked =>
      dsimp only
      split
      · exact .alone (.inl hstill)
      · exact .peeking (htook.proper proper) hfollows hstill
  | _ => exact hsame

/-- A head is taken whole, and nothing behind it. -/
theorem InLane.readHead (hl : s.InLane net g heard) (now : Nat) :
    (s.readHead net now).InLane net g heard := by
  have hsame := hl
  obtain ⟨settings, peer, entry, turn, client, outbound, phase, log, lookups, dials⟩ := s
  cases hl with
  | @readingHead reader deadline client c speaks proper follows reads fits untold =>
    have hcame := HeadReader.came_of_attempt settings.headTerms deadline now proper reads fits
    unfold Session.readHead
    dsimp only
    generalize reader.attempt settings.headTerms deadline now client = came at hcame ⊢
    cases hcame with
    | head took split preamble head =>
      have hstill := took.written_eq.trans untold
      have hfollows := follows.took took
      rw [split] at hfollows
      have hopens := opens_of_isHead preamble head ⟨_, hfollows.unread_eq.symm⟩ speaks
      dsimp only
      split
      · exact InLane.refuse_of rfl speaks hstill _
      · exact .dialling hopens hfollows hstill rfl
    | refused took failure =>
      exact InLane.refuse_of rfl speaks (took.written_eq.trans untold) failure
    | pending took reads fits =>
      exact .readingHead speaks (took.proper proper) (follows.took took) reads fits
        (took.written_eq.trans untold)
  | _ => exact hsame

/-- A handshake is taken field by field, and nothing behind it. -/
theorem InLane.negotiate (hl : s.InLane net g heard) (now : Nat) :
    (s.negotiate net now).InLane net g heard := by
  have hsame := hl
  obtain ⟨settings, peer, entry, turn, client, outbound, phase, log, lookups, dials⟩ := s
  cases hl with
  | @negotiating handshake deadline client speaks stood =>
    have hstood := Socks5.stood_run stood
    unfold Session.negotiate
    dsimp only
    generalize handshake.run client = r at hstood ⊢
    obtain ⟨h, l⟩ := r
    obtain ⟨taken, hfollows, hstands⟩ := id hstood
    have hdenied : Denied g.unread l.channel.written := denied_of_denies speaks hstands.denies
    -- A handshake that has not come to its end goes on, unless it is late.
    have hgoesOn : ∀ h' : Socks5.Handshake, h = h' →
        (if deadline ≤ now then
          Session.fail .socks5 (.socks (.late settings.requestReadTimeout))
            ⟨settings, peer, entry, turn, l, none, .negotiating handshake deadline, log, lookups,
              dials⟩
        else ⟨settings, peer, entry, turn, l, none, .negotiating h' deadline, log, lookups,
          dials⟩).InLane net g heard := by
      rintro h' rfl
      split
      · exact InLane.fail_alone rfl hdenied
      · exact .negotiating speaks hstood
    cases h with
    | understood request =>
      generalize hwritten : (Socks5.Handshake.understood request, l).2.channel.written = said
        at hstands
      cases hstands with
      | understood a =>
        dsimp only
        split
        · rename_i hcommand
          exact .dialling (.socks5 a hcommand) hfollows hwritten rfl
        · exact InLane.reject_of rfl speaks hwritten (by decide) _
    | failed failure => exact InLane.fail_alone rfl hdenied
    | greeting got => exact hgoesOn _ rfl
    | methods count got => exact hgoesOn _ rfl
    | choosing left refused => exact hgoesOn _ rfl
    | request got => exact hgoesOn _ rfl
    | domainLength command got => exact hgoesOn _ rfl
    | ipv4 command got => exact hgoesOn _ rfl
    | ipv6 command got => exact hgoesOn _ rfl
    | domain command length got => exact hgoesOn _ rfl
    | port command host got => exact hgoesOn _ rfl
    | refusing code flaw => exact hgoesOn _ rfl
  | _ => exact hsame

/-- A connection starts untouched, with what its target sends at once. -/
theorem InLane.dial (hl : s.InLane net g heard) {next : Nat} (hnew : heard next = []) (now : Nat) :
    (s.dial next now).InLane net g heard := by
  have hsame := hl
  obtain ⟨settings, peer, entry, turn, client, outbound, phase, log, lookups, dials⟩ := s
  cases hl with
  | @dialling protocol dial client opening opens follows said attempt =>
    have hspeaks : Protocol.spoken? g.unread = some protocol :=
      spoken?_of_isPrefix ⟨_, follows.unread_eq.symm⟩ opens.spoken?_eq
    unfold Session.dial
    dsimp only
    cases houtcome : dial.outcome? now with
    | none => exact hsame
    | some result =>
      cases result with
      | error failure =>
        cases protocol with
        | httpConnect => exact InLane.refuse_of rfl hspeaks said _
        | socks5 => exact InLane.reject_of rfl hspeaks said (dialReply_ne_succeeded _) _
      | ok c =>
        have hreach := Dial.connected_of_outcome? houtcome
        rw [attempt] at hreach
        -- Nothing has happened on the connection but that its target has greeted.
        have huntouched : (net.targetStream c.address (heard next)).Follows []
            (Outbound.connect next c.address c.greeting c.localKnown c.room).stream := by
          rw [hnew, ← Network.targetStream_of_attempt next hreach]
          exact .refl _
        have hsilent :=
          Outbound.written_connect next c.address c.greeting c.localKnown c.room
        cases protocol with
        | httpConnect =>
          have hcut : client.channel.written ++ Response.established = Response.established :=
            congrArg (· ++ Response.established) said
          exact .announcing opens follows .established hcut huntouched hsilent
        | socks5 =>
          dsimp only [announce]
          cases haddress :
              (Outbound.connect next c.address c.greeting c.localKnown c.room).localAddress with
          | ok address =>
            have hcut : client.channel.written ++ Socks5.reply .succeeded address =
                Socks5.choice ++ Socks5.reply .succeeded address :=
              congrArg (· ++ Socks5.reply .succeeded address) said
            exact .announcing opens follows (.success haddress) hcut huntouched hsilent
          | error fault =>
            have hjoined := (joined_fresh opens follows (.unreplied haddress)
              (by rw [said]; exact List.prefix_refl _) huntouched hsilent).close
            exact InLane.fail_of (.finished hjoined fun h => by cases h)
  | _ => exact hsame

section Telling

variable {left answer words opening : Bytes} {o : Outbound}

/-- What a client is told of a failure comes from the front of the answer. -/
theorem InLane.tell_refusing {failure : Failure} (hphase : s.phase = .refusing failure left)
    (hnone : s.outbound = none) (hspeaks : Protocol.spoken? g.unread = some .httpConnect)
    (hanswers : Response.ofFailure? failure = some answer)
    (hcut : s.client.channel.written ++ left = answer) (now : Nat) :
    (s.tell now).InLane net g heard := by
  obtain ⟨w, hleft, hwrote, -⟩ := s.client.wrote_writeAll left
  unfold Session.tell
  rw [hphase]
  dsimp only
  generalize s.client.writeAll left = r at hleft hwrote ⊢
  obtain ⟨a, rest, l⟩ := r
  have hstill : l.channel.written ++ rest = answer := by
    rw [hwrote.written_eq, List.append_assoc, ← hleft, hcut]
  -- However far the answer got, it is a first part of an answer to a request without a connection.
  have hdenied : Denied g.unread l.channel.written :=
    .inr ⟨_, answer, hspeaks, .failure hanswers, rest, hstill⟩
  cases a with
  | ready u => exact InLane.fail_alone hnone hdenied
  | blocked =>
    show Lane net _ g heard (.refusing failure rest) l s.outbound
    rw [hnone]
    exact .refusing hspeaks hanswers hstill
  | failed f => exact InLane.fail_alone hnone hdenied

/-- A single write tells a SOCKS5 client the front of the reply that rejects its request. -/
theorem InLane.tell_rejecting {failure : SessionFailure} {code : Socks5.ReplyCode}
    (hphase : s.phase = .rejecting failure (Socks5.errorReply code)) (hnone : s.outbound = none)
    (hspeaks : Protocol.spoken? g.unread = some .socks5) (hfailing : code ≠ .succeeded)
    (hsaid : s.client.channel.written = Socks5.choice) (now : Nat) :
    (s.tell now).InLane net g heard := by
  have hwrote := s.client.wrote_write (Socks5.errorReply code)
  have hfront := (s.client.write (Socks5.errorReply code)).1.wrote_isPrefix (Socks5.errorReply code)
  unfold Session.tell
  rw [hphase]
  dsimp only
  generalize s.client.write (Socks5.errorReply code) = r at hwrote hfront ⊢
  obtain ⟨a, l⟩ := r
  have hwritten : l.channel.written = Socks5.choice ++ a.wrote (Socks5.errorReply code) := by
    rw [hwrote.written_eq, hsaid]
  have hdenied : Denied g.unread l.channel.written := by
    refine denied_of_denies hspeaks (.inr ⟨code, hfailing, ?_⟩)
    rw [hwritten]
    exact (List.prefix_append_right_inj _).2 hfront
  cases a with
  | ready k => exact InLane.fail_alone hnone hdenied
  | blocked =>
    show Lane net _ g heard (.rejecting failure (Socks5.errorReply code)) l s.outbound
    rw [hnone]
    exact .rejecting hspeaks hfailing (hwritten.trans (List.append_nil _))
  | failed f => exact InLane.fail_alone hnone hdenied

variable (hopens : Opens protocol opening) (hfollows : g.Follows opening s.client)
  (hreplies : Replies protocol (some o) words) (hcut : s.client.channel.written ++ left = words)
  (huntouched : (net.targetStream o.address (heard o.number)).Follows [] o.stream)
  (hsilent : o.stream.channel.written = []) (houtbound : s.outbound = some o)

include hopens hfollows hreplies hcut huntouched hsilent houtbound

/-- An HTTP client is told to the end that its target is reached before anything else. -/
theorem InLane.tell_established {target : Text} (hprotocol : protocol = .httpConnect)
    (hphase : s.phase = .announcing .httpConnect target left) (now : Nat) :
    (s.tell now).InLane net g heard := by
  subst hprotocol
  obtain ⟨w, hleft, hwrote, hready⟩ := s.client.wrote_writeAll left
  unfold Session.tell
  rw [hphase]
  dsimp only
  generalize s.client.writeAll left = r at hleft hwrote hready ⊢
  obtain ⟨a, rest, l⟩ := r
  -- Telling the client takes nothing from it.
  have hstill : l.channel.written ++ rest = words := by
    rw [hwrote.written_eq, List.append_assoc, ← hleft, hcut]
  have hjoined := joined_fresh hopens (hfollows.wrote hwrote) hreplies ⟨rest, hstill⟩ huntouched
    hsilent
  cases a with
  | ready u =>
    have hrest : rest = [] := hready rfl
    show Lane net _ g heard (.relaying _ target _) l s.outbound
    rw [houtbound]
    cases hreplies with
    | established =>
      rw [hrest, List.append_nil] at hstill
      exact .relaying hjoined fun _ => hstill
  | blocked =>
    show Lane net _ g heard (.announcing _ target rest) l s.outbound
    rw [houtbound]
    exact .announcing hopens (hfollows.wrote hwrote) hreplies hstill huntouched hsilent
  | failed f =>
    refine InLane.fail_of ?_
    show Lane net _ g heard _ l.close (s.outbound.map Outbound.close)
    rw [houtbound]
    exact .finished hjoined.close fun _ => .inr rfl

/-- A SOCKS5 client is told by a single write that its target is reached. -/
theorem InLane.tell_success {target : Text} (hprotocol : protocol = .socks5)
    (hphase : s.phase = .announcing .socks5 target left) (now : Nat) :
    (s.tell now).InLane net g heard := by
  subst hprotocol
  have hwrote := s.client.wrote_write left
  have hfront := (s.client.write left).1.wrote_isPrefix left
  unfold Session.tell
  rw [hphase]
  dsimp only
  generalize s.client.write left = r at hwrote hfront ⊢
  obtain ⟨a, l⟩ := r
  have hwritten : l.channel.written = s.client.channel.written ++ a.wrote left := hwrote.written_eq
  have hstill : l.channel.written <+: words := by
    rw [hwritten, ← hcut]
    exact (List.prefix_append_right_inj _).2 hfront
  -- Written, held up or failed, the reply is a first part of the one that the connection calls for.
  have hjoined := joined_fresh hopens (hfollows.wrote hwrote) hreplies hstill huntouched hsilent
  cases a with
  | ready k =>
    show Lane net _ g heard (.relaying _ target _) l s.outbound
    rw [houtbound]
    exact .relaying hjoined fun h => by cases h
  | blocked =>
    show Lane net _ g heard (.announcing .socks5 target left) l s.outbound
    rw [houtbound]
    rw [← hwritten.trans (List.append_nil _)] at hcut
    exact .announcing hopens (hfollows.wrote hwrote) hreplies hcut huntouched hsilent
  | failed f =>
    refine InLane.fail_of ?_
    show Lane net _ g heard _ l.close (s.outbound.map Outbound.close)
    rw [houtbound]
    exact .finished hjoined.close fun h => by cases h

end Telling

/-- What a client is told comes from the front of the answer. -/
theorem InLane.tell (hl : s.InLane net g heard) (now : Nat) :
    (s.tell now).InLane net g heard := by
  have hsame := hl
  obtain ⟨settings, peer, entry, turn, client, outbound, phase, log, lookups, dials⟩ := s
  cases hl with
  | refusing speaks answers cut => exact InLane.tell_refusing rfl rfl speaks answers cut now
  | rejecting speaks failing said => exact InLane.tell_rejecting rfl rfl speaks failing said now
  | @announcing protocol target left words opening client o opens follows replies cut untouched
      silent =>
    cases protocol with
    | httpConnect =>
      exact InLane.tell_established opens follows replies cut untouched silent rfl rfl rfl now
    | socks5 =>
      exact InLane.tell_success opens follows replies cut untouched silent rfl rfl rfl now
  | _ => exact hsame

/-- What goes through the tunnel stays in its two lanes. -/
theorem InLane.carry (hl : s.InLane net g heard) (now : Nat) (m : TunnelRun.Move) :
    (s.carry now m).InLane net g heard := by
  have hsame := hl
  obtain ⟨settings, peer, entry, turn, client, outbound, phase, log, lookups, dials⟩ := s
  cases hl with
  | @relaying protocol target tunnel said client o joined whole =>
    obtain ⟨⟨opening, hopens, hsent⟩, hback, words, hreplies, hfront⟩ := joined
    unfold Session.carry
    dsimp only
    split
    · rename_i hown
      have hflows : Tunnel.Flows _ _ _ _ _ _ tunnel ⟨client, o.stream⟩ := ⟨hsent, hback⟩
      have hmoved := TunnelRun.flows_move (r := ⟨now, tunnel, ⟨client, o.stream⟩⟩) hown hflows
      exact .relaying ⟨⟨opening, hopens, hmoved.up⟩, hmoved.down, words, hreplies.of_stream _,
        hfront⟩ whole
    · exact hsame
  | _ => exact hsame

/-- However the tunnel ended, nothing more is moved. -/
theorem InLane.concludeOver (hl : s.InLane net g heard) : s.concludeOver.InLane net g heard := by
  have hsame := hl
  obtain ⟨settings, peer, entry, turn, client, outbound, phase, log, lookups, dials⟩ := s
  cases hl with
  | @relaying protocol target tunnel said client o joined whole =>
    have hfinished : ∀ failure, Lane net settings.maxRequestBytes g heard (.finished failure)
        client.close (some o.close) :=
      fun failure => .finished joined.close fun h => .inl (whole h)
    unfold Session.concludeOver
    dsimp only
    split
    · exact hsame
    · unfold Session.conclude
      split
      · exact hfinished none
      · exact hfinished none
      · exact InLane.fail_of (hfinished _)
  | _ => exact hsame

/-- **A session that does one thing** keeps to its lane; nothing may have happened yet on the
    connection that it makes. -/
theorem InLane.act (hl : s.InLane net g heard) {next : Nat} (hnew : heard next = [])
    (now : Nat) (a : Act) : (s.act net next now a).InLane net g heard := by
  cases a with
  | peek => exact hl.peek now
  | readHead => exact hl.readHead now
  | negotiate => exact hl.negotiate now
  | dial => exact hl.dial hnew now
  | tell => exact hl.tell now
  | carry m => exact hl.carry now m
  | conclude => exact hl.concludeOver

/-! ### What others do -/

/-- A session that begins has told and taken nothing. -/
theorem inLane_start {client : Channel} (hproper : client.Proper)
    (hfollows : g.Follows [] (.ofChannel client)) (huntold : client.written = [])
    (settings : Settings) (peer : SocketAddress) (turn : Turn) (now : Nat) :
    (start settings peer .detecting turn now client).InLane net g heard :=
  .peeking hproper hfollows huntold

/-- What its client does is heard in the lane of a session. -/
theorem InLane.applyClient (hl : s.InLane net g heard) (e : Channel.Event) :
    (s.applyClient e).InLane net (g.apply e) heard := by
  obtain ⟨settings, peer, entry, turn, client, outbound, phase, log, lookups, dials⟩ := s
  have hwritten := Lookahead.written_apply e client
  have hmore := g.unread_isPrefix_apply e
  show Lane net _ (g.apply e) heard phase (client.apply e) outbound
  cases hl with
  | peeking proper follows untold =>
    exact .peeking (proper.apply e) (follows.apply e) (hwritten.trans untold)
  | readingHead speaks proper follows reads fits untold =>
    exact .readingHead (spoken?_of_isPrefix hmore speaks) (proper.apply e) (follows.apply e) reads
      fits (hwritten.trans untold)
  | negotiating speaks stood =>
    obtain ⟨taken, hfollows, hstands⟩ := stood
    rw [← hwritten] at hstands
    exact .negotiating (spoken?_of_isPrefix hmore speaks) ⟨taken, hfollows.apply e, hstands⟩
  | dialling opens follows said attempt =>
    exact .dialling opens (follows.apply e) (hwritten.trans said) attempt
  | refusing speaks answers cut =>
    rw [← hwritten] at cut
    exact .refusing (spoken?_of_isPrefix hmore speaks) answers cut
  | rejecting speaks failing said =>
    exact .rejecting (spoken?_of_isPrefix hmore speaks) failing (hwritten.trans said)
  | announcing opens follows replies cut untouched silent =>
    rw [← hwritten] at cut
    exact .announcing opens (follows.apply e) replies cut untouched silent
  | relaying joined whole =>
    obtain ⟨⟨opening, hopens, hsent⟩, hback, hfront⟩ := joined
    exact .relaying ⟨⟨opening, hopens, hsent.apply_src e⟩, hback.apply_dst e, hfront⟩ whole
  | alone denied =>
    rw [← hwritten] at denied
    exact .alone (denied.mono hmore)
  | finished joined whole =>
    obtain ⟨⟨opening, hopens, hsent⟩, hback, hfront⟩ := joined
    rw [← hwritten] at whole
    exact .finished ⟨⟨opening, hopens, hsent.apply_src e⟩, hback.apply_dst e, hfront⟩ whole

/-- What happens on the connection of a session happens to the stream of its target, and what
    happens on another connection does not concern it. -/
theorem InLane.applyPeer (hl : s.InLane net g heard) (number : Nat) (e : Channel.Event) :
    (s.applyPeer number e).InLane net g (hear number e heard) := by
  obtain ⟨settings, peer, entry, turn, client, outbound, phase, log, lookups, dials⟩ := s
  show Lane net _ g (hear number e heard) phase client
    (outbound.map fun o => if o.number = number then o.apply e else o)
  cases hl with
  | peeking proper follows untold => exact .peeking proper follows untold
  | readingHead speaks proper follows reads fits untold =>
    exact .readingHead speaks proper follows reads fits untold
  | negotiating speaks stood => exact .negotiating speaks stood
  | dialling opens follows said attempt => exact .dialling opens follows said attempt
  | refusing speaks answers cut => exact .refusing speaks answers cut
  | rejecting speaks failing said => exact .rejecting speaks failing said
  | alone denied => exact .alone denied
  | @announcing protocol target left words opening client o opens follows replies cut untouched
      silent =>
    rw [Option.map_some]
    -- Only a connection of that number hears it; what is heard of the others stays.
    by_cases hnumber : o.number = number
    · subst hnumber
      rw [if_pos rfl]
      refine .announcing opens follows (replies.of_stream _) cut ?_
        ((Lookahead.written_apply e o.stream).trans silent)
      show (net.targetStream o.address (hear o.number e heard o.number)).Follows [] _
      rw [targetStream_hear]
      exact untouched.apply e
    · rw [if_neg hnumber]
      refine .announcing opens follows replies cut ?_ silent
      rw [hear, if_neg hnumber]
      exact untouched
  | @relaying protocol target tunnel said client o joined whole =>
    exact .relaying (joined.applyPeer number e) whole
  | @finished protocol failure said up down client o joined whole =>
    exact .finished (joined.applyPeer number e) whole

/-- The order in which the halves of a tunnel move does not show in what they moved. -/
theorem InLane.reorder (hl : s.InLane net g heard) (turn : Turn) :
    (s.reorder turn).InLane net g heard := by
  obtain ⟨settings, peer, entry, turn', client, outbound, phase, log, lookups, dials⟩ := s
  cases hl with
  | peeking proper follows untold => exact .peeking proper follows untold
  | readingHead speaks proper follows reads fits untold =>
    exact .readingHead speaks proper follows reads fits untold
  | negotiating speaks stood => exact .negotiating speaks stood
  | dialling opens follows said attempt => exact .dialling opens follows said attempt
  | refusing speaks answers cut => exact .refusing speaks answers cut
  | rejecting speaks failing said => exact .rejecting speaks failing said
  | announcing opens follows replies cut untouched silent =>
    exact .announcing opens follows replies cut untouched silent
  | relaying joined whole => exact .relaying ⟨joined.sent, joined.back, joined.front⟩ whole
  | alone denied => exact .alone denied
  | finished joined whole => exact .finished joined whole

/-! ### What it comes to -/

/-- **A session that keeps to its lane** mixes nothing up. -/
theorem InLane.unmixed (hl : s.InLane net g heard) :
    Unmixed net heard g.unread s.client.channel.written s.outbound := by
  obtain ⟨settings, peer, entry, turn, client, outbound, phase, log, lookups, dials⟩ := s
  cases hl with
  | peeking proper follows untold => exact Denied.unmixed (.inl untold)
  | readingHead speaks proper follows reads fits untold => exact Denied.unmixed (.inl untold)
  | negotiating speaks stood =>
    obtain ⟨taken, -, hstands⟩ := stood
    exact (denied_of_denies speaks hstands.denies).unmixed
  | @dialling protocol dial client opening opens follows said attempt =>
    cases protocol with
    | httpConnect => exact Denied.unmixed (.inl said)
    | socks5 =>
      have hspeaks := spoken?_of_isPrefix ⟨_, follows.unread_eq.symm⟩ opens.spoken?_eq
      exact (denied_of_denies hspeaks (said ▸ Socks5.denies_choice)).unmixed
  | refusing speaks answers cut =>
    exact Denied.unmixed (.inr ⟨_, _, speaks, .failure answers, _, cut⟩)
  | rejecting speaks failing said =>
    exact (denied_of_denies speaks (said ▸ Socks5.denies_choice)).unmixed
  | announcing opens follows replies cut untouched silent =>
    exact (joined_fresh opens follows replies ⟨_, cut⟩ untouched silent).unmixed fun _ => .inr rfl
  | relaying joined whole => exact joined.unmixed fun h => .inl (whole h)
  | alone denied => exact denied.unmixed
  | finished joined whole => exact joined.unmixed whole

end ForwardProxy.Session
