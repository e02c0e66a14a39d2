import ForwardProxy.Proofs.RequestHead.Timed
import ForwardProxy.Proofs.Tunnel.Flow
import ForwardProxy.Session.Run

namespace ForwardProxy

/-!
# What a session has passed on

Phase by phase, what an HTTP session has taken from its client and what it has told it.

* `Network.targetStream` — what a target sends, as if nobody had read any of it.
* `Network.targetStream_of_attempt` — a connection starts as the stream of its target.
* `Session.Passed` — how far a session has come, one constructor for each phase.
* `Session.Faithful.settle` — no settling of a session spoils it.
-/

/-! ### The target -/

namespace Network

/-- What the owner of an address sends as soon as it is connected to. -/
def greeting (net : Network) (a : SocketAddress) : Bytes :=
  match net.peer a with
  | .accepts greeting _ _ => greeting
  | _ => []

/-- For how many octets the owner of an address has room as soon as it is connected to; none if
    there is no limit. -/
def room (net : Network) (a : SocketAddress) : Option Nat :=
  match net.peer a with
  | .accepts _ _ room => room
  | _ => none

/-- The stream of a target that has done all this since it was connected to, unread. -/
def targetStream (net : Network) (a : SocketAddress) (events : List Channel.Event) : Lookahead :=
  (Lookahead.ofChannel ((Channel.idle (net.room a)).apply (.send (net.greeting a)))).applyAll
    events

variable {net : Network} {a : SocketAddress} {greeting : Bytes} {known : Bool} {room : Option Nat}

/-- The first address that connects is that of a peer that accepts. -/
theorem peer_of_connectFirst {last : Fault} {as : List SocketAddress}
    (h : (net.connectFirst last as).2 = .connected a greeting known room) :
    net.peer a = .accepts greeting known room := by
  induction as generalizing last with
  | nil => simp [connectFirst] at h
  | cons b as ih =>
    unfold connectFirst at h
    split at h
    · rename_i g k r hpeer
      simp only [Reach.connected.injEq] at h
      obtain ⟨rfl, rfl, rfl, rfl⟩ := h
      exact hpeer
    · simp at h
    · exact ih h

/-- A connection that is there was accepted, with the greeting of its address. -/
theorem peer_of_attempt {target : Text}
    (h : (net.attempt target).reach = .connected a greeting known room) :
    net.peer a = .accepts greeting known room := by
  unfold attempt at h
  split at h
  · exact peer_of_connectFirst h
  · split at h
    · simp at h
    · split at h
      · simp at h
      · split at h
        · simp at h
        · unfold attemptName at h
          split at h
          · simp at h
          · exact peer_of_connectFirst h

/-- What a dial connects to is the stream of a target that has done nothing yet but greet. -/
theorem targetStream_of_attempt {target : Text} (number : Nat)
    (h : (net.attempt target).reach = .connected a greeting known room) :
    (Outbound.connect number a greeting known room).stream = net.targetStream a [] := by
  rw [targetStream, Network.greeting, Network.room, peer_of_attempt h]
  rfl

end Network

/-- Nothing has gone out on a connection that has just come about. -/
theorem Outbound.written_connect (number : Nat) (a : SocketAddress) (greeting : Bytes)
    (known : Bool) (room : Option Nat) :
    (connect number a greeting known room).stream.channel.written = [] :=
  Lookahead.written_apply (.send greeting) (.ofChannel (.idle room))

namespace Session

/-! ### The invariant -/

/-- What an HTTP session has passed on in each phase: `whole` is all that its client is going to
    send, `g` the stream of its client, of which nobody has read anything, and `events` is what its
    target has done. -/
inductive Passed (net : Network) (cap : Nat) (whole : Bytes) (g : Lookahead) :
    List Channel.Event → Phase → Lookahead → Option Outbound → Prop where
  | peeking {deadline client} (proper : client.Proper) (follows : g.Follows [] client)
      (detects : ∀ b, whole.head? = some b → Protocol.detect b = .httpConnect)
      (told : client.channel.written = []) :
      Passed net cap whole g [] (.peeking deadline) client none
  | readingHead {reader deadline client c} (proper : client.Proper) (follows : g.Follows c client)
      (reads : HeadReader.Reads cap c reader) (fits : c.length ≤ cap)
      (told : client.channel.written = []) :
      Passed net cap whole g [] (.readingHead reader deadline) client none
  | dialling {dial client s h} (preamble : IsPreamble s) (head : IsHead h)
      (follows : g.Follows (s ++ h) client) (told : client.channel.written = [])
      (attempt : dial.attempt = net.attempt dial.target) :
      Passed net cap whole g [] (.dialling .httpConnect dial) client none
  | refusing {failure left client} : Passed net cap whole g [] (.refusing failure left) client none
  | announcing {events target left client o s h} (preamble : IsPreamble s) (head : IsHead h)
      (follows : g.Follows (s ++ h) client)
      (told : client.channel.written ++ left = Response.established) (number : o.number = 0)
      (untouched : (net.targetStream o.address events).Follows [] o.stream)
      (silent : o.stream.channel.written = []) :
      Passed net cap whole g events (.announcing .httpConnect target left) client (some o)
  | relaying {events target tunnel client o s h} (preamble : IsPreamble s) (head : IsHead h)
      (number : o.number = 0)
      (flows : Tunnel.Flows g (s ++ h) [] (net.targetStream o.address events) []
        Response.established tunnel ⟨client, o.stream⟩) :
      Passed net cap whole g events (.relaying .httpConnect target tunnel) client (some o)
  | alone {failure client} : Passed net cap whole g [] (.finished failure) client none
  | finished {events failure client o s h up} (preamble : IsPreamble s) (head : IsHead h)
      (number : o.number = 0) (sent : Flow g (s ++ h) [] up client o.stream)
      (told : client.channel.written <+: Response.established ∨
        ∃ down, Flow (net.targetStream o.address events) [] Response.established down o.stream
          client) :
      Passed net cap whole g events (.finished failure) client (some o)

/-- A session that has passed on what it should. -/
def Faithful (net : Network) (whole : Bytes) (g : Lookahead) (events : List Channel.Event)
    (s : Session) : Prop :=
  Passed net s.settings.maxRequestBytes whole g events s.phase s.client s.outbound

variable {net : Network} {whole : Bytes} {g : Lookahead} {events : List Channel.Event} {s : Session}

/-! ### Endings -/

/-- A session that fails is faithful if the phase that it ends in is. -/
theorem Faithful.fail_of {protocol : Protocol} {failure : SessionFailure}
    (h : Passed net s.settings.maxRequestBytes whole g events (.finished (some failure))
      s.client.close (s.outbound.map Outbound.close)) :
    (s.fail protocol failure).Faithful net whole g events := by
  unfold Session.fail
  split <;> exact h

/-- A session that has no target yet may answer what it wants. -/
theorem Faithful.refuse_of (h : s.outbound = none) (failure : Failure) :
    (s.refuse failure).Faithful net whole g [] := by
  unfold Session.refuse
  split
  · show Passed net _ whole g [] (.refusing failure _) s.client s.outbound
    rw [h]
    exact .refusing
  · refine Faithful.fail_of ?_
    rw [h]
    exact .alone

/-! ### Phase by phase -/

/-- The first octet tells the protocol, and stays where it is. -/
theorem Faithful.peek (hf : s.Faithful net whole g events)
    (hwhole : g.unread <+: whole) (now : Nat) :
    (s.peek now).Faithful net whole g events := by
  have hsame := hf
  obtain ⟨settings, peer, entry, turn, client, outbound, phase, log, lookups, dials⟩ := s
  cases hf with
  | peeking proper follows detects told =>
    have htook := client.took_peek
    unfold Session.peek
    dsimp only
    rcases hpeek : client.peek with ⟨a, l⟩
    rw [hpeek] at htook
    cases a with
    | ready first =>
      cases first with
      | none => exact .alone
      | some b =>
        -- The octet is the first one that the client has sent.
        have hfirst : whole.head? = some b := by
          obtain ⟨rest, hrest⟩ := hwhole
          have hhead := Lookahead.unread_of_peek hpeek
          rw [← hrest, follows.unread_eq, List.nil_append, List.head?_append, hhead]
          rfl
        dsimp only
        rw [detects b hfirst]
        exact .readingHead (htook.proper proper) (follows.took htook) (HeadReader.reads_start _)
          (Nat.zero_le _) (htook.written_eq.trans told)
    | failed f => exact .alone
    | blocked =>
      dsimp only
      split
      · exact .alone
      · exact .peeking (htook.proper proper) (follows.took htook) detects
          (htook.written_eq.trans told)
  | _ => exact hsame

/-- A head is taken whole, and nothing behind it. -/
theorem Faithful.readHead (hf : s.Faithful net whole g events) (now : Nat) :
    (s.readHead net now).Faithful net whole g events := by
  have hsame := hf
  obtain ⟨settings, peer, entry, turn, client, outbound, phase, log, lookups, dials⟩ := s
  cases hf with
  | @readingHead reader deadline client c proper follows reads fits told =>
    have hcame := HeadReader.came_of_attempt settings.headTerms deadline now proper reads fits
    unfold Session.readHead
    dsimp only
    generalize reader.attempt settings.headTerms deadline now client = came at hcame ⊢
    cases hcame with
    | head took split preamble head =>
      have hfollows := follows.took took
      rw [split] at hfollows
      dsimp only
      split
      · exact Faithful.refuse_of rfl _
      · exact .dialling preamble head hfollows (took.written_eq.trans told) rfl
    | refused took failure => exact Faithful.refuse_of rfl failure
    | pending took reads fits =>
      exact .readingHead (took.proper proper) (follows.took took) reads fits
        (took.written_eq.trans told)
  | _ => exact hsame

/-- A session that speaks HTTP does not negotiate, so nothing is carried wrongly. -/
theorem Faithful.negotiate (hf : s.Faithful net whole g events) (now : Nat) :
    (s.negotiate net now).Faithful net whole g events := by
  have hsame := hf
  obtain ⟨settings, peer, entry, turn, client, outbound, phase, log, lookups, dials⟩ := s
  cases hf <;> exact hsame

/-- A connection starts untouched, with what its target sends at once. -/
theorem Faithful.dial (hf : s.Faithful net whole g events) (now : Nat) :
    (s.dial 0 now).Faithful net whole g events := by
  have hsame := hf
  obtain ⟨settings, peer, entry, turn, client, outbound, phase, log, lookups, dials⟩ := s
  cases hf with
  | @dialling dial client s h preamble head follows told attempt =>
    unfold Session.dial
    dsimp only
    cases houtcome : dial.outcome? now with
    | none => exact hsame
    | some result =>
      cases result with
      | error failure => exact Faithful.refuse_of rfl _
      | ok c =>
        -- The address that was reached accepts, and its greeting is what is there to read.
        have hreach : (net.attempt dial.target).reach =
            .connected c.address c.greeting c.localKnown c.room := by
          unfold Dial.outcome? at houtcome
          rw [attempt] at houtcome
          split at houtcome
          · rename_i hreach
            simp only [Option.some.injEq, Except.ok.injEq] at houtcome
            rw [hreach, ← houtcome]
          · simp at houtcome
          · split at houtcome <;> simp at houtcome
        have htold : client.channel.written ++ Response.established = Response.established :=
          congrArg (· ++ Response.established) told
        refine .announcing preamble head follows htold rfl ?_ ?_
        · show (net.targetStream c.address []).Follows [] _
          rw [← Network.targetStream_of_attempt 0 hreach]
          exact .refl _
        · exact Outbound.written_connect 0 c.address c.greeting c.localKnown c.room
  | _ => exact hsame

/-- The client is told that its target is reached, from the front. -/
theorem Faithful.tell (hf : s.Faithful net whole g events) (now : Nat) :
    (s.tell now).Faithful net whole g events := by
  have hsame := hf
  obtain ⟨settings, peer, entry, turn, client, outbound, phase, log, lookups, dials⟩ := s
  cases hf with
  | @refusing failure left client =>
    unfold Session.tell
    dsimp only
    rcases client.writeAll left with ⟨a, rest, l⟩
    cases a with
    | ready u => exact Faithful.fail_of .alone
    | blocked => exact .refusing
    | failed f => exact Faithful.fail_of .alone
  | @announcing events target left client o s h preamble head follows told number untouched
      silent =>
    obtain ⟨w, hcut, hwrote, hready⟩ := client.wrote_writeAll left
    unfold Session.tell
    dsimp only
    rcases hw : client.writeAll left with ⟨a, rest, l⟩
    rw [hw] at hcut hwrote hready
    -- Telling the client takes nothing from it.
    have hfollows := follows.wrote hwrote
    have htold : l.channel.written ++ rest = Response.established := by
      rw [hwrote.written_eq, List.append_assoc, ← hcut, told]
    cases a with
    | ready u =>
      have hrest : rest = [] := hready rfl
      rw [hrest, List.append_nil] at htold
      exact .relaying preamble head number
        ⟨.fresh hfollows silent, .fresh untouched htold⟩
    | blocked => exact .announcing preamble head hfollows htold number untouched silent
    | failed f =>
      -- Nothing has gone to the target, and the client has been told the front of the answer.
      have hsent : Flow g (s ++ h) [] .fresh l.close o.stream.close :=
        (Flow.fresh hfollows silent).close_src.close_dst
      exact Faithful.fail_of (.finished preamble head number hsent (.inl ⟨rest, htold⟩))
  | _ => exact hsame

/-- What goes through the tunnel stays in order, also when the tunnel ends. -/
theorem Faithful.relay (hf : s.Faithful net whole g events) (now : Nat) :
    (s.relay now).Faithful net whole g events := by
  have hsame := hf
  obtain ⟨settings, peer, entry, turn, client, outbound, phase, log, lookups, dials⟩ := s
  cases hf with
  | @relaying events target tunnel client o s h preamble head number flows =>
    have hflows := flows.settle now
    unfold Session.relay
    dsimp only
    generalize tunnel.settle now ⟨client, o.stream⟩ = settled at hflows
    obtain ⟨t, e⟩ := settled
    dsimp only at hflows ⊢
    cases t.stats? with
    | none => exact .relaying preamble head number hflows
    | some stats =>
      -- However the tunnel ended, both streams are shut and nothing more is moved.
      have hfinished : ∀ failure, Passed net settings.maxRequestBytes whole g events
          (.finished failure) e.client.close (some { o with stream := e.target.close }) :=
        fun failure => .finished preamble head number hflows.up.close_src.close_dst
          (.inr ⟨t.down, hflows.down.close_src.close_dst⟩)
      dsimp only
      unfold Session.conclude
      split
      · exact hfinished none
      · exact hfinished none
      · exact Faithful.fail_of (hfinished _)
  | _ => exact hsame

/-- **A session that settles** passes on what it should. -/
theorem Faithful.settle (hf : s.Faithful net whole g events)
    (hwhole : g.unread <+: whole) (now : Nat) :
    (s.settle net 0 now).Faithful net whole g events :=
  ((((((hf.peek hwhole now).readHead now).negotiate now).dial now).tell now).relay now)

/-! ### What others do -/

/-- What its client does leaves a session faithful to all that the client has sent by then. -/
theorem Faithful.applyClient (hf : s.Faithful net whole g events) (e : Channel.Event) :
    (s.applyClient e).Faithful net whole (g.apply e) events := by
  obtain ⟨settings, peer, entry, turn, client, outbound, phase, log, lookups, dials⟩ := s
  have hwritten := Lookahead.written_apply e client
  show Passed net _ whole (g.apply e) events phase (client.apply e) outbound
  cases hf with
  | peeking proper follows detects told =>
    exact .peeking (proper.apply e) (follows.apply e) detects (hwritten.trans told)
  | readingHead proper follows reads fits told =>
    exact .readingHead (proper.apply e) (follows.apply e) reads fits (hwritten.trans told)
  | dialling preamble head follows told attempt =>
    exact .dialling preamble head (follows.apply e) (hwritten.trans told) attempt
  | refusing => exact .refusing
  | announcing preamble head follows told number untouched silent =>
    exact .announcing preamble head (follows.apply e) (by rw [hwritten]; exact told) number
      untouched silent
  | relaying preamble head number flows =>
    exact .relaying preamble head number ⟨flows.up.apply_src e, flows.down.apply_dst e⟩
  | alone => exact .alone
  | finished preamble head number sent told =>
    refine .finished preamble head number (sent.apply_src e) ?_
    rcases told with told | ⟨down, hdown⟩
    · exact .inl (by rw [hwritten]; exact told)
    · exact .inr ⟨down, hdown.apply_dst e⟩

/-- The one connection of a session on its own has the number zero. -/
theorem Passed.number_eq {cap : Nat} {phase : Phase} {client : Lookahead}
    {o : Outbound} (h : Passed net cap whole g events phase client (some o)) : o.number = 0 := by
  cases h <;> assumption

/-- What happens on the connection of a session happens to the stream of its target. -/
theorem Faithful.applyPeer (hf : s.Faithful net whole g events) (number : Nat) (e : Channel.Event) :
    (s.applyPeer number e).Faithful net whole g
      (events ++ if s.outbound.isSome = true ∧ number = 0 then [e] else []) := by
  obtain ⟨settings, peer, entry, turn, client, outbound, phase, log, lookups, dials⟩ := s
  cases outbound with
  | none =>
    show Passed net _ whole g (events ++ if _ then _ else _) phase client none
    -- Nothing is connected to yet, so that nobody hears it.
    rw [if_neg (by simp), List.append_nil]
    exact hf
  | some o =>
    have hzero : o.number = 0 := Passed.number_eq hf
    show Passed net _ whole g (events ++ if _ then _ else _) phase client
      (some (if o.number = number then o.apply e else o))
    by_cases hnumber : number = 0
    · rw [if_pos ⟨rfl, hnumber⟩, if_pos (hzero.trans hnumber.symm)]
      have hwritten := Lookahead.written_apply e o.stream
      have hstream : net.targetStream o.address (events ++ [e]) =
          (net.targetStream o.address events).apply e := Lookahead.applyAll_append _ _ _
      cases hf with
      | announcing preamble head follows told number untouched silent =>
        refine .announcing preamble head follows told number ?_ (hwritten.trans silent)
        show (net.targetStream o.address (events ++ [e])).Follows [] (o.stream.apply e)
        rw [hstream]
        exact untouched.apply e
      | relaying preamble head number flows =>
        refine .relaying preamble head number ?_
        show Tunnel.Flows g _ _ (net.targetStream o.address (events ++ [e])) _ _ _
          ⟨client, o.stream.apply e⟩
        rw [hstream]
        exact ⟨flows.up.apply_dst e, flows.down.apply_src e⟩
      | finished preamble head number sent told =>
        refine .finished preamble head number (sent.apply_dst e) ?_
        rcases told with told | ⟨down, hdown⟩
        · exact .inl told
        · refine .inr ⟨down, ?_⟩
          show Flow (net.targetStream o.address (events ++ [e])) _ _ down (o.stream.apply e) client
          rw [hstream]
          exact hdown.apply_src e
    · -- It happens on a connection of some other session.
      rw [if_neg fun h => hnumber h.2, if_neg fun h => hnumber (h.symm.trans hzero),
        List.append_nil]
      exact hf

/-- The order in which the halves of a tunnel move does not show in what they moved. -/
theorem Faithful.reorder (hf : s.Faithful net whole g events) (turn : Turn) :
    (s.reorder turn).Faithful net whole g events := by
  obtain ⟨settings, peer, entry, turn', client, outbound, phase, log, lookups, dials⟩ := s
  cases hf with
  | peeking proper follows detects told => exact .peeking proper follows detects told
  | readingHead proper follows reads fits told =>
    exact .readingHead proper follows reads fits told
  | dialling preamble head follows told attempt =>
    exact .dialling preamble head follows told attempt
  | refusing => exact .refusing
  | announcing preamble head follows told number untouched silent =>
    exact .announcing preamble head follows told number untouched silent
  | relaying preamble head number flows =>
    exact .relaying preamble head number ⟨flows.up, flows.down⟩
  | alone => exact .alone
  | finished preamble head number sent told => exact .finished preamble head number sent told

/-! ### What it comes to -/

/-- What a session has written to its target is what it took behind the head of its client, and
    what it has told the client is that the target is reached, and then what that has sent. -/
theorem Faithful.passed_on (hf : s.Faithful net whole g events) {o : Outbound}
    (ho : s.outbound = some o) :
    (∃ p h taken, IsPreamble p ∧ IsHead h ∧ p ++ h ++ taken <+: g.unread ∧
      o.stream.channel.written <+: taken) ∧
    s.client.channel.written <+:
      Response.established ++ (net.targetStream o.address events).unread := by
  obtain ⟨settings, peer, entry, turn, client, outbound, phase, log, lookups, dials⟩ := s
  dsimp only at ho ⊢
  subst ho
  -- What goes back to the client comes behind the answer, what goes forth behind the head.
  have hback : ∀ {down : Half}, Flow (net.targetStream o.address events) [] Response.established
      down o.stream client → client.channel.written <+:
        Response.established ++ (net.targetStream o.address events).unread := by
    intro down hdown
    obtain ⟨taken, hunread, hpre⟩ := hdown.written_isPrefix
    refine hpre.trans ((List.prefix_append_right_inj _).2 ?_)
    rw [hunread, List.nil_append]
    exact List.prefix_append _ _
  have hforth : ∀ {up : Half} {p h : Bytes}, IsPreamble p → IsHead h →
      Flow g (p ++ h) [] up client o.stream →
      ∃ p h taken, IsPreamble p ∧ IsHead h ∧ p ++ h ++ taken <+: g.unread ∧
        o.stream.channel.written <+: taken := by
    intro up p h hp hh hup
    obtain ⟨taken, hunread, hpre⟩ := hup.written_isPrefix
    exact ⟨p, h, taken, hp, hh, ⟨_, hunread.symm⟩, hpre⟩
  cases hf with
  | announcing preamble head follows told number untouched silent =>
    refine ⟨hforth preamble head (Flow.fresh follows silent), ?_⟩
    exact List.IsPrefix.trans ⟨_, told⟩ (List.prefix_append _ _)
  | relaying preamble head number flows =>
    exact ⟨hforth preamble head flows.up, hback flows.down⟩
  | finished preamble head number sent told =>
    refine ⟨hforth preamble head sent, ?_⟩
    rcases told with told | ⟨down, hdown⟩
    · exact told.trans (List.prefix_append _ _)
    · exact hback hdown

end Session

end ForwardProxy
