import ForwardProxy.Proofs.Server.Books
import ForwardProxy.Proofs.Server.Sessions

namespace ForwardProxy.Server

/-!
# Sessions go on when the server stops

A session that has begun depends on nothing that the server does about its listener.  All that it
gets from the server is the number of its connection, which is how many connections there were
before.  A client that still waits to be accepted can make a difference to this number, and to
nothing else.

* `Server.alone`, `Server.shows_alone` — one session is a part of its server, as long as its
  connection gets the number that it is to get.
* `Server.together`, `Server.shows_together` — all sessions are a part of their server, as long as no
  client waits to be accepted.
* `Server.undisturbed` — stopping the server does not touch the sessions.
* `Server.disturbed_by_waiting_client` — what a client that waits makes of a number.
-/

variable {net : Network} {s : Server} {number link : Nat} {x : Session}

/-! ### One session -/

/-- The session of the client with a number, whose connection gets the number `link`. -/
def alone (net : Network) (number link : Nat) : View Session where
  deadlines := Session.deadlines
  settle t x := x.settle net link t
  tell d x := meet number d x

/-- The session of a client has another number than it was to get. -/
def Strays (number link : Nat) (s : Server) : Prop := ∃ n, n ≠ link ∧ s.Bears number n

/-- **One session** is a part of its server. -/
theorem shows_alone (net : Network) (number link : Nat) :
    (alone net number link).Shows (fun _ => True)
      (fun s x => s.network = net ∧ s.session? number = some x ∧ x.Accounted net)
      (Strays number link) (Session.Fit net) (Session.Steady net) where
  deadlines := fun ⟨_, hx, _⟩ _ hd => mem_deadlines hx hd
  settle t s x := by
    rintro ⟨rfl, hx, haccounted⟩
    obtain ⟨next, hsettle⟩ := session?_settle hx t
    have hnetwork := network_settle t s
    have hstays := haccounted.settle next t
    -- Another number than `link` is no matter as long as no connection gets it.
    rcases x.settle_cases s.network next link t with hsame | hmade
    · rw [hsame] at hsettle hstays
      exact .inr ⟨hnetwork, hsettle, hstays⟩
    · by_cases hlink : next = link
      · subst hlink
        exact .inr ⟨hnetwork, hsettle, hstays⟩
      · exact .inl ⟨next, hlink, _, hsettle, hnetwork ▸ hstays, hmade⟩
  change := by
    rintro d - s x ⟨rfl, hx, haccounted⟩
    exact ⟨network_change d s, session?_change hx d, accounted_meet haccounted number d⟩
  off_settle := fun t _ ⟨n, hn, hbears⟩ => ⟨n, hn, hbears.settle t⟩
  off_change := fun d _ ⟨n, hn, hbears⟩ => ⟨n, hn, hbears.change d⟩
  fit_tell := fun d _ _ hfit => fit_meet hfit number d
  fit_of_steady := fun hsteady => hsteady.toFit
  steady_settle := fun hfit hle => hfit.settle hle link
  settle_eq := fun hsteady _ hahead => hsteady.settle_eq hahead link

/-! ### All sessions -/

/-- The clients of a server and how many connections have been made for them. -/
def together (net : Network) : View (Nat × List Visitor) where
  deadlines h := (h.2.filterMap Visitor.session?).flatMap Session.deadlines
  settle t h := settleVisitors net t h.1 h.2
  tell d h := (h.1, tellVisitors d h.2)

/-- No client waits to be accepted. -/
def Deserted (s : Server) : Prop := ∀ n, .client n ∉ s.queue

/-- Without clients to be accepted, attending to the listener leaves the sessions as they are. -/
theorem sameSessions_takeOffers {offers : List Offer} (h : ∀ n, .client n ∉ offers) (s : Server) :
    s.SameSessions (takeOffers offers s) ∧ (takeOffers offers s).Deserted := by
  induction offers generalizing s with
  | nil => exact ⟨⟨rfl, rfl, rfl, rfl⟩, fun _ hn => nomatch hn⟩
  | cons offer rest ih =>
    unfold takeOffers
    split
    · have hrest := ih (fun n hn => h n (List.mem_cons_of_mem offer hn)) (s.take offer)
      refine ⟨SameSessions.trans ?_ hrest.1, hrest.2⟩
      cases offer with
      | client n => exact absurd List.mem_cons_self (h n)
      | fault f =>
        show s.SameSessions (if s.policy.isPassing f then s.backOff f else s.giveUp f)
        split
        · exact s.sameSessions_backOff f
        · exact ⟨rfl, rfl, rfl, rfl⟩
    · exact ⟨⟨rfl, rfl, rfl, rfl⟩, h⟩

/-- A server for which no client waits begins no session when it attends to its listener. -/
theorem sameSessions_attend (h : s.Deserted) : s.SameSessions s.attend ∧ s.attend.Deserted := by
  cases haccepting : s.isAccepting with
  | false =>
    rw [attend_of_not_isAccepting haccepting]
    exact ⟨.refl s, h⟩
  | true =>
    rw [attend_of_isAccepting haccepting]
    split
    · exact ⟨s.sameSessions_drain, h⟩
    · have hwake := s.sameSessions_wake
      have hqueue : ∀ n, .client n ∉ s.wake.queue := by
        rw [s.queue_wake]
        exact h
      obtain ⟨hsame, hdeserted⟩ := sameSessions_takeOffers hqueue s.wake
      exact ⟨hwake.trans hsame, hdeserted⟩

/-- Stopping puts no client in the queue. -/
theorem deserted_checkDrained (h : s.Deserted) : s.checkDrained.Deserted := by
  rw [Deserted, queue_checkDrained]
  exact h

/-- Nothing but a client that connects puts one in the queue. -/
theorem deserted_change (h : s.Deserted) {d : Deed} (hd : d.connects = false) :
    (s.change d).Deserted := by
  cases d with
  | start =>
    show Deserted (s.apply .start)
    rw [Deserted, s.queue_start]
    exact h
  | connect address room early => cases hd
  | acceptFault fault =>
    intro n hn
    rcases List.mem_append.1 hn with hmem | hnew
    · exact h n hmem
    · cases List.mem_singleton.1 hnew
  | _ => exact h

/-- What others do makes no connection. -/
theorem connected_change (d : Deed) (s : Server) : (s.change d).connected = s.connected := by
  cases d with
  | start => exact s.sameSessions_start.connected_eq
  | _ => rfl

/-- **All sessions** are a part of their server, as long as no client waits to be accepted. -/
theorem shows_together (net : Network) :
    (together net).Shows (fun d => d.connects = false)
      (fun s h => s.network = net ∧ h = (s.connected, s.visitors) ∧ s.Deserted) (fun _ => False)
      (fun now h => AllFit net now h.2) (fun now h => AllSteady net now h.2) where
  deadlines := by
    rintro s h ⟨-, rfl, -⟩ d hd
    exact List.mem_append_right _ hd
  settle t s h := by
    rintro ⟨rfl, rfl, hdeserted⟩
    refine .inr ?_
    -- Nobody waits, so the listener begins no session, and settling is what the sessions do.
    obtain ⟨hattend, hstill⟩ := sameSessions_attend (s := { s with now := t }) hdeserted
    have hcheck := sameSessions_checkDrained ({ s with now := t }.attend.serve)
    have hsettled : ({ s with now := t }.attend.serve.checkDrained).Deserted :=
      deserted_checkDrained hstill
    refine ⟨network_settle t s, ?_, hsettled⟩
    show settleVisitors s.network t s.connected s.visitors = _
    rw [settle, hcheck.connected_eq, hcheck.visitors_eq]
    show _ = settleVisitors _ _ _ _
    rw [hattend.network_eq, hattend.now_eq, hattend.connected_eq, hattend.visitors_eq]
  change := by
    rintro d hd s h ⟨rfl, rfl, hdeserted⟩
    refine ⟨network_change d s, ?_, deserted_change hdeserted hd⟩
    show (s.connected, tellVisitors d s.visitors) = _
    rw [connected_change]
    rcases visitors_change d s with htold | ⟨hconnects, -⟩
    · rw [htold]
    · rw [hconnects] at hd
      cases hd
  off_settle := fun _ _ h => h
  off_change := fun _ _ h => h
  fit_tell := fun d _ _ hfit => hfit.tellVisitors d
  fit_of_steady := fun hsteady => hsteady.allFit
  steady_settle := fun hfit hle => hfit.settle hle _
  settle_eq := fun hsteady _ hahead => hsteady.settle_eq hahead _

/-! ### Stopping -/

/-- Something that does not concern the sessions, such as telling the server to stop. -/
def Deed.concernsNone : Deed → Bool
  | .start => true
  | .acceptFault _ => true
  | .shutdown => true
  | _ => false

/-- Whether the number of its connection tells two sessions apart. -/
def Renumbered (y z : Session) : Prop :=
  ∃ n n', y.number? = some n ∧ z.number? = some n' ∧ n ≠ n'

/-- A session goes on in the same way, whatever happens to the listener, up to the number of its
    connection. -/
theorem eq_or_renumbered (hx : s.session? number = some x) (hsteady : x.Steady s.network s.now)
    {d : Deed} (hd : d.concernsNone = true) (is : List Input) :
    ∃ y z, (s.run is).session? number = some y ∧ (s.run (.deed d :: is)).session? number = some z ∧
      (y = z ∨ Renumbered y z) := by
  have hunheard (x : Session) : meet number d x = x := by cases d <;> first | rfl | cases hd
  have htold : ∀ d ∈ is.filterMap Input.deed?, True := fun _ _ => trivial
  have hshows (link : Nat) := (shows_alone s.network number link).run_of_unheard
    ⟨rfl, hx, hsteady.accounted⟩ hsteady trivial hunheard htold
  have hserved {link : Nat} {s' : Server} {w : Session}
      (h : s'.Strays number link ∨
        s'.network = s.network ∧ s'.session? number = some w ∧ w.Accounted s.network) :
      ∃ y, s'.session? number = some y ∧ (y.number? = none ∨ y.number? = some link → y = w) := by
    rcases h with ⟨n, hne, y, hy, -, hn⟩ | ⟨-, hw, -⟩
    · refine ⟨y, hy, fun hkept => ?_⟩
      rcases hkept with hnone | hlink
      · rw [hn] at hnone
        cases hnone
      · exact absurd (Option.some.inj (hn.symm.trans hlink)) hne
    · exact ⟨w, hw, fun _ => rfl⟩
  obtain ⟨w, hkept, hstopped⟩ := hshows 0
  obtain ⟨y, hy, -⟩ := hserved hkept
  obtain ⟨z, hz, -⟩ := hserved hstopped
  refine ⟨y, z, hy, hz, ?_⟩
  by_cases hrenumbered : Renumbered y z
  · exact .inr hrenumbered
  · -- There is one number that stands for both.
    have hlink : ∃ link, (y.number? = none ∨ y.number? = some link) ∧
        (z.number? = none ∨ z.number? = some link) := by
      cases hn : y.number? with
      | none =>
        cases hm : z.number? with
        | none => exact ⟨0, .inl rfl, .inl rfl⟩
        | some m => exact ⟨m, .inl rfl, .inr rfl⟩
      | some n =>
        refine ⟨n, .inr rfl, ?_⟩
        cases hm : z.number? with
        | none => exact .inl rfl
        | some m => exact .inr (congrArg some (Decidable.byContradiction fun hne =>
            hrenumbered ⟨n, m, hn, hm, fun hsame => hne hsame.symm⟩))
    obtain ⟨link, hyl, hzl⟩ := hlink
    obtain ⟨w, hkept, hstopped⟩ := hshows link
    obtain ⟨y', hy', hyw⟩ := hserved hkept
    obtain ⟨z', hz', hzw⟩ := hserved hstopped
    obtain rfl := Option.some.inj (hy.symm.trans hy')
    obtain rfl := Option.some.inj (hz.symm.trans hz')
    exact .inl ((hyw hyl).trans (hzw hzl).symm)

/-- If its connection is there already, or no client waits to be accepted, a session goes on in the
    same way with the same number. -/
theorem not_renumbered (hx : s.session? number = some x)
    (hsteady : AllSteady s.network s.now s.visitors) {d : Deed} (hd : d.concernsNone = true)
    {is : List Input} (his : ∀ d ∈ is.filterMap Input.deed?, d.connects = false)
    (hsafe : x.number?.isSome = true ∨ s.Deserted) {y z : Session}
    (hy : (s.run is).session? number = some y)
    (hz : (s.run (.deed d :: is)).session? number = some z) : ¬Renumbered y z := by
  rintro ⟨n, m, hn, hm, hne⟩
  rcases hsafe with hmade | hdeserted
  · -- A number that is there stays, in each of the two runs.
    obtain ⟨k, hk⟩ := Option.isSome_iff_exists.1 hmade
    obtain ⟨v, hv, hvx⟩ := Option.bind_eq_some_iff.1 hx
    have haccounted := (hsteady v (List.mem_of_getElem? hv) x hvx).accounted
    have hbears : s.Bears number k := ⟨x, hx, haccounted, hk⟩
    obtain ⟨y', hy', -, hn'⟩ := hbears.run is
    obtain ⟨z', hz', -, hm'⟩ := hbears.run (.deed d :: is)
    obtain rfl := Option.some.inj (hy.symm.trans hy')
    obtain rfl := Option.some.inj (hz.symm.trans hz')
    exact hne (Option.some.inj ((hn.symm.trans hn').trans (hm'.symm.trans hm)))
  · -- Nobody begins a session any more: all of them together go the same way in both runs.
    have hconnects : d.connects = false := by cases d <;> first | rfl | cases hd
    have hunheard (h : Nat × List Visitor) : (together s.network).tell d h = h := by
      cases d <;> first | rfl | cases hd
    obtain ⟨h, hkept, hstopped⟩ := (shows_together s.network).run_of_unheard
      ⟨rfl, rfl, hdeserted⟩ hsteady hconnects hunheard his
    obtain ⟨-, rfl, -⟩ := hkept.resolve_left id
    obtain ⟨-, hsame, -⟩ := hstopped.resolve_left id
    have hsame' : (s.run (.deed d :: is)).session? number = (s.run is).session? number := by
      rw [session?, session?, (Prod.mk.inj hsame).2]
    obtain rfl := Option.some.inj (hz.symm.trans (hsame'.trans hy))
    exact hne (Option.some.inj (hn.symm.trans hm))

/-- **Stopping the server does not touch its sessions.**  Two runs of a server are the same up to some
    moment and in all that others do afterwards, and no client connects any more; but at that moment
    one of them is told to stop, or accepting fails for good.  Whatever has happened until then and
    is still to happen, every session goes on in the same way in both, with what it reads, writes,
    dials, closes and tells, unless its connection gets another number in one run than in the other.
    It gets the same one if it is there already at that moment, or if no client waits to be accepted
    then. -/
theorem undisturbed (settings : Settings) (policy : AcceptPolicy) (net : Network) (turn : Turn)
    (before after : List Input) {stop : Deed}
    (hstop : stop = .shutdown ∨ ∃ f, ¬policy.Passes f ∧ stop = .acceptFault f)
    (hafter : ∀ d ∈ after.filterMap Input.deed?, d.connects = false) :
    let s := (create settings policy net turn).run before
    ∀ number x, s.session? number = some x →
      ∃ y z, (s.run after).session? number = some y ∧
        (s.run (.deed stop :: after)).session? number = some z ∧ (y = z ∨ Renumbered y z) ∧
        (x.number?.isSome = true ∨ s.Deserted → y = z) := by
  intro s number x hx
  have hsteady : AllSteady s.network s.now s.visitors :=
    steady_run (s := create settings policy net turn) (fun _ hv => nomatch hv) before
  have hd : stop.concernsNone = true := by
    rcases hstop with rfl | ⟨f, -, rfl⟩ <;> rfl
  obtain ⟨v, hv, hvx⟩ := Option.bind_eq_some_iff.1 hx
  obtain ⟨y, z, hy, hz, hcases⟩ :=
    eq_or_renumbered hx (hsteady v (List.mem_of_getElem? hv) x hvx) hd after
  -- Only the number of a connection can tell the two runs apart, and here none is still to be given
  -- to it.
  refine ⟨y, z, hy, hz, hcases, fun hsafe => hcases.resolve_right ?_⟩
  exact not_renumbered hx hsteady hd hafter hsafe hy hz

/-- A tunnel that is up when the server is told to stop.  The server gives it up after three seconds,
    but it goes on carrying octets both ways. -/
theorem undisturbed_after_drain_timeout :
    let settings : Settings := { Settings.standard with drainTimeout := Duration.ofSeconds 3 }
    let net : Network := ⟨[], [(.v4 ⟨10, 0, 0, 1⟩ 443, .accepts [] true)]⟩
    let before : List Input := [.deed .start, .deed (.connect (.v4 ⟨127, 0, 0, 1⟩ 40000) none
      [.send (ascii "CONNECT 10.0.0.1:443 HTTP/1.1\r\n\r\n")])]
    let after : List Input := [.wait (Duration.ofSeconds 4), .deed (.client 0 (.send (ascii "ping"))),
      .deed (.peer 0 (.send (ascii "pong")))]
    let s := (create settings .standard net ⟨true, true⟩).run before
    (s.run (.deed .shutdown :: after)).outcome? = some (.drainTimedOut 1) ∧
      ∃ y o, (s.run after).session? 0 = some y ∧
        (s.run (.deed .shutdown :: after)).session? 0 = some y ∧
        y.client.channel.written = Response.established ++ ascii "pong" ∧
        y.outbound = some o ∧ o.stream.channel.written = ascii "ping" := by
  intro settings net before after s
  have hserved : (s.session? 0).isSome = true := by decide +kernel
  obtain ⟨x, hx⟩ := Option.isSome_iff_exists.1 hserved
  have hmade : ((s.session? 0).bind Session.number?).isSome = true := by decide +kernel
  rw [hx] at hmade
  have hstop : Deed.shutdown = .shutdown ∨
      ∃ f, ¬AcceptPolicy.standard.Passes f ∧ Deed.shutdown = .acceptFault f := .inl rfl
  have hafter : ∀ d ∈ after.filterMap Input.deed?, d.connects = false := by decide
  obtain ⟨y, z, hy, hz, -, hsame⟩ :=
    undisturbed settings .standard net ⟨true, true⟩ before after hstop hafter 0 x hx
  obtain rfl := hsame (.inl hmade)
  have htold : ((s.run after).session? 0).map (fun y => y.client.channel.written) =
      some (Response.established ++ ascii "pong") := by decide +kernel
  have hsent : ((s.run after).session? 0).bind (fun y => y.outbound.map fun o =>
      o.stream.channel.written) = some (ascii "ping") := by decide +kernel
  rw [hy] at htold hsent
  obtain ⟨o, ho, hping⟩ := Option.map_eq_some_iff.1 hsent
  exact ⟨by decide +kernel, y, o, hy, hz, Option.some.inj htold, ho, hping⟩

/-- A client that is accepted before the server puts accepting off asks for its target when the
    delay is over.  If another client was waiting for that, it gets the first connection, but not if
    the server has been told to stop: so the first client is told another local address then. -/
theorem disturbed_by_waiting_client :
    let net : Network := ⟨[], [(.v4 ⟨10, 0, 0, 1⟩ 443, .accepts [] true)]⟩
    let before : List Input := [.deed .start,
      .deed (.connect (.v4 ⟨127, 0, 0, 1⟩ 40000) none [.send [5, 1, 0]]),
      .deed (.acceptFault (.bare .connectionReset)),
      .deed (.connect (.v4 ⟨127, 0, 0, 1⟩ 40001) none
        [.send (ascii "CONNECT 10.0.0.1:443 HTTP/1.1\r\n\r\n")])]
    let after : List Input := [.wait (Duration.ofMillis 50),
      .deed (.client 0 (.send [5, 1, 0, 1, 10, 0, 0, 1, 1, 187]))]
    let s := (create .standard .standard net ⟨true, true⟩).run before
    let told (s : Server) : Option Bytes := (s.session? 0).map fun x => x.client.channel.written
    (∀ d ∈ after.filterMap Input.deed?, d.connects = false) ∧
      told s = some ([5, 0] : Bytes) ∧
      told (s.run after) = some ([5, 0, 5, 0, 0, 1, 192, 0, 2, 1, 195, 81] : Bytes) ∧
      told (s.run (.deed .shutdown :: after)) =
        some ([5, 0, 5, 0, 0, 1, 192, 0, 2, 1, 195, 80] : Bytes) := by
  decide +kernel

end ForwardProxy.Server
