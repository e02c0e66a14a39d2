import ForwardProxy.Proofs.Session.Fidelity
import ForwardProxy.Proofs.Socks5.Standing

namespace ForwardProxy

/-!
# What belongs to a session

Whichever protocol a client speaks and whatever number its connection has, some octets are its own:
those of its handshake, those that its session may reply, and those that the two halves between the
client and its target carry.

* `Session.Opens` — the octets of a handshake that asks for a tunnel; a stream opens with one such
  handshake at most.
* `Session.Replies`, `Session.Denied` — what a session may tell its client on its own account.
* `Session.Joined` — what has come through the two halves between a client and its target.
* `Session.Unmixed` — a session to which nothing has come that is not its own.
* `Session.Joined.unmixed`, `Session.Denied.unmixed` — sessions with a connection and without one.
-/

/-- The protocol of a client that sends these octets. -/
def Protocol.spoken? (sent : Bytes) : Option Protocol := sent.head?.map detect

/-- A request head has octets. -/
theorem IsHead.ne_nil {h : Bytes} (hh : IsHead h) : h ≠ [] := by
  obtain ⟨ls, e, -, -, he, rfl⟩ := hh
  intro hnil
  have hlength := he.isLine.length_pos
  rw [(List.append_eq_nil_iff.1 hnil).2] at hlength
  exact absurd hlength (Nat.lt_irrefl 0)

namespace Session

/-! ### Handshakes -/

/-- The octets by which a client asks for a tunnel: a request head and the blank lines in front of
    it, or an offer of methods and a SOCKS5 request to connect. -/
inductive Opens : Protocol → Bytes → Prop where
  | httpConnect {p h : Bytes} (preamble : IsPreamble p) (head : IsHead h)
      (speaks : Protocol.spoken? (p ++ h) = some .httpConnect) : Opens .httpConnect (p ++ h)
  | socks5 (a : Socks5.Ask) (command : a.command = .connect) : Opens .socks5 a.octets

variable {protocol protocol' : Protocol} {sent bs opening opening' : Bytes}

/-- The first octets of a stream tell the protocol as all of it does. -/
theorem spoken?_of_isPrefix (hpre : sent <+: bs) (h : Protocol.spoken? sent = some protocol) :
    Protocol.spoken? bs = some protocol := by
  obtain ⟨rest, rfl⟩ := hpre
  cases sent with
  | nil => cases h
  | cons b sent => exact h

/-- A head in front of a stream opens it, if the stream tells that it speaks HTTP. -/
theorem opens_of_isHead {p h : Bytes} (hp : IsPreamble p) (hh : IsHead h) (hpre : p ++ h <+: bs)
    (hspeaks : Protocol.spoken? bs = some .httpConnect) : Opens .httpConnect (p ++ h) := by
  refine .httpConnect hp hh ?_
  obtain ⟨rest, rfl⟩ := hpre
  -- A head is not empty, so that its first octet is that of the stream.
  have hne : p ++ h ≠ [] := fun hnil => hh.ne_nil (List.append_eq_nil_iff.1 hnil).2
  cases hopening : p ++ h with
  | nil => exact absurd hopening hne
  | cons b r =>
    rw [hopening] at hspeaks
    exact hspeaks

/-- The octets that ask for a tunnel tell their protocol. -/
theorem Opens.spoken?_eq (h : Opens protocol opening) :
    Protocol.spoken? opening = some protocol := by
  cases h with
  | httpConnect preamble head speaks => exact speaks
  | socks5 a command => rfl

/-- **A stream opens with one handshake at most.** -/
theorem Opens.eq_of_isPrefix (h : Opens protocol opening) (h' : Opens protocol' opening')
    (hpre : opening <+: bs) (hpre' : opening' <+: bs) : opening = opening' := by
  have hspoken := spoken?_of_isPrefix hpre h.spoken?_eq
  have hspoken' := spoken?_of_isPrefix hpre' h'.spoken?_eq
  obtain rfl : protocol = protocol' := Option.some.inj (hspoken.symm.trans hspoken')
  cases h with
  | httpConnect preamble head speaks =>
    cases h' with
    | httpConnect preamble' head' speaks' =>
      rcases List.prefix_or_prefix_of_prefix hpre hpre' with hle | hle
      · obtain ⟨rfl, rfl⟩ := head.eq_of_isPrefix preamble preamble' head' hle
        rfl
      · obtain ⟨rfl, rfl⟩ := head'.eq_of_isPrefix preamble' preamble head hle
        rfl
  | socks5 a command =>
    cases h' with
    | socks5 b command' => exact Socks5.Ask.octets_eq_of_isPrefix hpre hpre'

/-! ### Replies -/

/-- What a session tells its client on its own account before its tunnel. -/
inductive Replies : Protocol → Option Outbound → Bytes → Prop where
  | failure {failure : Failure} {answer : Bytes} (h : Response.ofFailure? failure = some answer) :
      Replies .httpConnect none answer
  | established {o : Outbound} : Replies .httpConnect (some o) Response.established
  | refusal : Replies .socks5 none Socks5.refusal
  | rejection {code : Socks5.ReplyCode} (failing : code ≠ .succeeded) :
      Replies .socks5 none (Socks5.choice ++ Socks5.errorReply code)
  | success {o : Outbound} {address : SocketAddress} (h : o.localAddress = .ok address) :
      Replies .socks5 (some o) (Socks5.choice ++ Socks5.reply .succeeded address)
  /-- The reply needs an address that cannot be read. -/
  | unreplied {o : Outbound} {fault : Fault} (h : o.localAddress = .error fault) :
      Replies .socks5 (some o) Socks5.choice

/-- What happens on a connection does not change what its session tells. -/
theorem Replies.of_stream {o : Outbound} {words : Bytes} (h : Replies protocol (some o) words)
    (l : Lookahead) : Replies protocol (some { o with stream := l }) words := by
  cases h with
  | established => exact .established
  | success haddress => exact .success haddress
  | unreplied haddress => exact .unreplied haddress

/-- What a client has been told before its request is acted on. -/
def told : Protocol → Bytes
  | .httpConnect => []
  | .socks5 => Socks5.choice

/-- What a client has been told whose session has made no connection. -/
def Denied (sent written : Bytes) : Prop :=
  written = [] ∨ ∃ protocol words, Protocol.spoken? sent = some protocol ∧
    Replies protocol none words ∧ written <+: words

/-- What a denied client has been told stays so when it sends more. -/
theorem Denied.mono {written : Bytes} (h : Denied sent written) (hpre : sent <+: bs) :
    Denied bs written := by
  rcases h with h | ⟨protocol, words, hspeaks, hreplies, hwritten⟩
  · exact .inl h
  · exact .inr ⟨protocol, words, spoken?_of_isPrefix hpre hspeaks, hreplies, hwritten⟩

/-- A client that is denied by the handshake is denied. -/
theorem denied_of_denies {written : Bytes} (hspeaks : Protocol.spoken? sent = some .socks5)
    (h : Socks5.Denies written) : Denied sent written := by
  rcases h with h | ⟨code, hfailing, h⟩
  · exact .inr ⟨_, _, hspeaks, .refusal, h⟩
  · exact .inr ⟨_, _, hspeaks, .rejection hfailing, h⟩

/-! ### Two halves -/

/-- A client and a target are joined by two halves: what has come through the one is what the client
    has sent behind its handshake, and what has come through the other, behind `said`, is what the
    target has sent. -/
structure Joined (net : Network) (g : Lookahead) (heard : Nat → List Channel.Event)
    (protocol : Protocol) (said : Bytes) (client : Lookahead) (o : Outbound) (up down : Half) :
    Prop where
  sent : ∃ opening, Opens protocol opening ∧ Flow g opening [] up client o.stream
  back : Flow (net.targetStream o.address (heard o.number)) [] said down o.stream client
  front : ∃ words, Replies protocol (some o) words ∧ said <+: words

variable {net : Network} {g : Lookahead} {heard : Nat → List Channel.Event}

section Joined

variable {said words : Bytes} {client : Lookahead} {o : Outbound} {up down : Half}

/-- Nothing has come through halves that have just begun. -/
theorem joined_fresh (hopens : Opens protocol opening) (hfollows : g.Follows opening client)
    (hreplies : Replies protocol (some o) words) (hfront : client.channel.written <+: words)
    (huntouched : (net.targetStream o.address (heard o.number)).Follows [] o.stream)
    (hsilent : o.stream.channel.written = []) :
    Joined net g heard protocol client.channel.written client o .fresh .fresh where
  sent := ⟨opening, hopens, .fresh hfollows hsilent⟩
  back := .fresh huntouched rfl
  front := ⟨words, hreplies, hfront⟩

/-- Closing both streams moves nothing. -/
theorem Joined.close (h : Joined net g heard protocol said client o up down) :
    Joined net g heard protocol said client.close o.close up down where
  sent := by
    obtain ⟨opening, hopens, hsent⟩ := h.sent
    exact ⟨opening, hopens, hsent.close_src.close_dst⟩
  back := h.back.close_src.close_dst
  front := by
    obtain ⟨words, hreplies, hfront⟩ := h.front
    exact ⟨words, hreplies.of_stream _, hfront⟩

/-- What has happened on the connections, after something more on the one with a number. -/
def hear (number : Nat) (e : Channel.Event) (heard : Nat → List Channel.Event) :
    Nat → List Channel.Event :=
  fun n => if n = number then heard n ++ [e] else heard n

/-- What is heard of a target is what its stream has gone through. -/
theorem targetStream_hear (a : SocketAddress) (n : Nat) (e : Channel.Event) :
    net.targetStream a (hear n e heard n) = (net.targetStream a (heard n)).apply e := by
  rw [hear, if_pos rfl]
  exact Lookahead.applyAll_append _ _ _

/-- What a target does is sent back to the client that it is joined with, and to no other. -/
theorem Joined.applyPeer (h : Joined net g heard protocol said client o up down) (number : Nat)
    (e : Channel.Event) :
    Joined net g (hear number e heard) protocol said client
      (if o.number = number then o.apply e else o) up down := by
  obtain ⟨⟨opening, hopens, hsent⟩, hback, words, hreplies, hfront⟩ := h
  by_cases hnumber : o.number = number
  · subst hnumber
    rw [if_pos rfl]
    refine ⟨⟨opening, hopens, hsent.apply_dst e⟩, ?_, words, hreplies.of_stream _, hfront⟩
    show Flow (net.targetStream o.address (hear o.number e heard o.number)) [] said down
      (o.stream.apply e) client
    rw [targetStream_hear]
    exact hback.apply_src e
  · rw [if_neg hnumber]
    refine ⟨⟨opening, hopens, hsent⟩, ?_, words, hreplies, hfront⟩
    rw [hear, if_neg hnumber]
    exact hback

end Joined

/-! ### Nothing else -/

/-- What the target of a session has sent since it was connected to; nothing if there is none. -/
def targetSent (net : Network) (heard : Nat → List Channel.Event) : Option Outbound → Bytes
  | none => []
  | some o => (net.targetStream o.address (heard o.number)).unread

/-- Nothing is mixed up in a session whose client has sent `sent` and got `got`. -/
structure Unmixed (net : Network) (heard : Nat → List Channel.Event) (sent got : Bytes)
    (outbound : Option Outbound) : Prop where
  /-- A connection is made for a client that has asked for it. -/
  asked : ∀ o, outbound = some o → ∃ protocol opening, Opens protocol opening ∧ opening <+: sent
  /-- What has been written to it is the front of what the client has sent behind its handshake. -/
  forth : ∀ o, outbound = some o → ∀ protocol opening payload, Opens protocol opening →
    sent = opening ++ payload → o.stream.channel.written <+: payload
  /-- The client has got the front of a reply of its own session, and behind it the front of what
      its own target has sent.  An HTTP answer is there to its end before anything comes behind. -/
  back : got = [] ∨ ∃ protocol words said relayed, Protocol.spoken? sent = some protocol ∧
    Replies protocol outbound words ∧ got = said ++ relayed ∧ said <+: words ∧
    relayed <+: targetSent net heard outbound ∧
    (protocol = .httpConnect → relayed ≠ [] → said = words)

/-- A denied client has been told nothing of any target. -/
theorem Denied.unmixed {got : Bytes} (h : Denied sent got) : Unmixed net heard sent got none where
  asked o ho := by cases ho
  forth o ho := by cases ho
  back := by
    rcases h with h | ⟨protocol, words, hspeaks, hreplies, hgot⟩
    · exact .inl h
    · exact .inr ⟨protocol, words, got, [], hspeaks, hreplies, (List.append_nil got).symm, hgot,
        List.nil_prefix, fun _ h => absurd rfl h⟩

/-- What has come through two halves is what the other side has sent. -/
theorem Joined.unmixed {said : Bytes} {client : Lookahead} {o : Outbound} {up down : Half}
    (h : Joined net g heard protocol said client o up down)
    (hwhole : protocol = .httpConnect →
      said = Response.established ∨ client.channel.written = said) :
    Unmixed net heard g.unread client.channel.written (some o) := by
  obtain ⟨⟨opening, hopens, hsent⟩, hback, words, hreplies, hfront⟩ := h
  obtain ⟨taken, hunread, hwritten⟩ := hsent.written_isPrefix
  have hpre : opening <+: g.unread := by
    rw [hunread, List.append_assoc]
    exact List.prefix_append _ _
  refine ⟨?_, ?_, ?_⟩
  · rintro o' -
    exact ⟨protocol, opening, hopens, hpre⟩
  · rintro o' ho protocol' opening' payload hopens' hcut
    cases ho
    -- There is no other handshake that the stream opens with.
    obtain rfl := hopens.eq_of_isPrefix hopens' hpre ⟨payload, hcut.symm⟩
    rw [hunread, List.append_assoc, List.append_cancel_left_eq] at hcut
    rw [← hcut]
    exact hwritten.trans (List.prefix_append _ _)
  · obtain ⟨taken', hunread', hwritten'⟩ := hback.written_isPrefix
    have hspeaks := spoken?_of_isPrefix hpre hopens.spoken?_eq
    -- The client has been told a part of the replies, or all that it is told and something behind.
    rcases List.prefix_or_prefix_of_prefix hwritten' (List.prefix_append _ _) with
      hle | ⟨relayed, hrelayed⟩
    · exact .inr ⟨protocol, words, _, [], hspeaks, hreplies, (List.append_nil _).symm,
        hle.trans hfront, List.nil_prefix, fun _ h => absurd rfl h⟩
    · refine .inr ⟨protocol, words, said, relayed, hspeaks, hreplies, hrelayed.symm, hfront, ?_, ?_⟩
      · rw [← hrelayed, List.prefix_append_right_inj] at hwritten'
        rw [targetSent, hunread', List.nil_append]
        exact hwritten'.trans (List.prefix_append _ _)
      · rintro rfl hne
        cases hreplies with
        | established =>
          refine (hwhole rfl).resolve_right fun hsame => hne ?_
          rw [← hrelayed] at hsame
          simpa using hsame

end Session

end ForwardProxy
