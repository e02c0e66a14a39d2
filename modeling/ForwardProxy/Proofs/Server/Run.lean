import ForwardProxy.Proofs.Session.Acts
import ForwardProxy.Proofs.Session.Unmixed
import ForwardProxy.Server.Progress

namespace ForwardProxy

/-!
# The run of a server

Clients, targets, the listener and the clock do what they like, and each session of a server goes on
when it likes, one thing at a time, in any order with everything else.  Letting a server settle is
one of these orders.

* `Server.Deed`, `Server.change` — what others do to a server.
* `Server.Move`, `Server.move`, `Server.moves` — one move of a server, and any number of moves.
* `Server.Input`, `Server.run` — a server that settles after each thing that happens.
* `Server.input_eq_step`, `Server.exists_run_of_steps` — a server that takes steps is one that runs.
* `Server.SameSessions`, `Server.attend_preserves` — attending to the listener only begins sessions.
* `Server.Reaches`, `Server.reaches_run` — a server that runs is a server that moves.
* `Journal` — what every client and every target has done.
-/

/-! ### Clients -/

namespace Visitor

/-- The number of the connection made for a client. -/
def number? (v : Visitor) : Option Nat := v.outbound?.map Outbound.number

/-- A client has as many connections as numbers, one at most. -/
theorem connections_eq (v : Visitor) : v.connections = v.number?.toList.length := by
  unfold connections number?
  cases v.outbound? <;> rfl

/-- The client after its session has done one thing. -/
def act (net : Network) (next now : Nat) (a : Session.Act) (v : Visitor) : Visitor :=
  match v.visit with
  | .waiting _ => v
  | .served s => { v with visit := .served (s.act net next now a) }

/-- The client, the halves of whose tunnel come to move in another order from now on. -/
def reorder (turn : Turn) (v : Visitor) : Visitor :=
  match v.visit with
  | .waiting _ => v
  | .served s => { v with visit := .served (s.reorder turn) }

end Visitor

namespace Server

/-! ### Moves -/

/-- Something that others do to a server. -/
inductive Deed where
  | start
  /-- A client connects, which takes so many octets and has done some things already. -/
  | connect (address : SocketAddress) (room : Option Nat) (early : List Channel.Event)
  | acceptFault (fault : Fault)
  | shutdown
  | client (number : Nat) (event : Channel.Event)
  /-- Something happens on the connection with a number. -/
  | peer (number : Nat) (event : Channel.Event)
  /-- The halves of the tunnel of a client, and of every session that begins later, come to move in
      another order. -/
  | reorder (number : Nat) (turn : Turn)
  deriving DecidableEq, Repr

/-- The channel of a client that has just connected. -/
def arrival (room : Option Nat) (early : List Channel.Event) : Channel :=
  (Channel.idle room).applyAll early

/-- A server after something that others do, before it does anything about it. -/
def change (d : Deed) (s : Server) : Server :=
  match d with
  | .start => s.apply .start
  | .connect address room early => s.apply (.connect address (arrival room early))
  | .acceptFault f => s.apply (.acceptFault f)
  | .shutdown => s.apply .shutdown
  | .client number e => s.apply (.client number e)
  | .peer number e => s.apply (.peer number e)
  | .reorder number turn =>
    { s with turn := turn, visitors := s.visitors.modify number (Visitor.reorder turn) }

/-- Lets the session of a client do one thing. -/
def act (number : Nat) (a : Session.Act) (s : Server) : Server :=
  match s.visitors[number]? with
  | none => s
  | some v =>
    let v' := v.act s.network s.connected s.now a
    { s with
      connected := s.connected + (v'.connections - v.connections)
      visitors := s.visitors.set number v' }

/-- One move of a server. -/
inductive Move where
  | deed (deed : Deed)
  /-- Time goes by. -/
  | tick (span : Nat)
  /-- The server attends to its listener. -/
  | attend
  /-- The session of a client does one thing. -/
  | act (number : Nat) (act : Session.Act)
  /-- The server stops if it may. -/
  | check
  deriving DecidableEq, Repr

/-- A server after one move. -/
def move (s : Server) : Move → Server
  | .deed d => s.change d
  | .tick span => { s with now := s.now + span }
  | .attend => s.attend
  | .act number a => s.act number a
  | .check => s.checkDrained

/-- A server after any number of moves. -/
def moves (s : Server) (ms : List Move) : Server := ms.foldl move s

/-- What others do in a move. -/
def Move.deed? : Move → Option Deed
  | .deed d => some d
  | _ => none

/-! ### A server that settles -/

/-- Something that happens to a server. -/
inductive Input where
  | deed (deed : Deed)
  /-- Time goes by. -/
  | wait (span : Nat)
  deriving DecidableEq, Repr

/-- What others do. -/
def Input.deed? : Input → Option Deed
  | .deed d => some d
  | .wait _ => none

/-- A server after something has happened to which it has done everything that it can. -/
def input (s : Server) : Input → Server
  | .deed d => settle s.now (s.change d)
  | .wait span => s.wait span

/-- A server after any number of things have happened, one after the other. -/
def run (s : Server) (is : List Input) : Server := is.foldl input s

/-! ### Deeds and events -/

/-- The event that a deed is; giving halves of a tunnel another order is none. -/
def Deed.event? : Deed → Option Event
  | .start => some .start
  | .connect address room early => some (.connect address (arrival room early))
  | .acceptFault f => some (.acceptFault f)
  | .shutdown => some .shutdown
  | .client number e => some (.client number e)
  | .peer number e => some (.peer number e)
  | .reorder _ _ => none

/-- Every event is that of a deed, if whoever connects does so on a channel on which only what it
    has done so far has happened. -/
theorem exists_deed {e : Event}
    (harrives : ∀ a c, e = .connect a c → ∃ room early, c = arrival room early) :
    ∃ d : Deed, d.event? = some e := by
  cases e with
  | start => exact ⟨.start, rfl⟩
  | connect address channel =>
    obtain ⟨room, early, rfl⟩ := harrives address channel rfl
    exact ⟨.connect address room early, rfl⟩
  | acceptFault f => exact ⟨.acceptFault f, rfl⟩
  | shutdown => exact ⟨.shutdown, rfl⟩
  | client number e => exact ⟨.client number e, rfl⟩
  | peer number e => exact ⟨.peer number e, rfl⟩

/-- **A deed is a step** of the server, by the event that it is. -/
theorem input_eq_step {d : Deed} {e : Event} (he : d.event? = some e) (s : Server) :
    s.input (.deed d) = s.step e := by
  cases d <;> cases he <;> rfl

/-- **A server that takes steps** is a server that runs: what holds of every run holds after any
    number of steps. -/
theorem exists_run_of_steps (es : List Event)
    (harrives : ∀ a c, .connect a c ∈ es → ∃ room early, c = arrival room early) (s : Server) :
    ∃ ds : List Deed, ds.map Deed.event? = es.map some ∧
      s.run (ds.map .deed) = es.foldl step s := by
  -- By induction on the steps: the deed of the first one, and those of the others behind it.
  induction es generalizing s with
  | nil => exact ⟨[], rfl, rfl⟩
  | cons e es ih =>
    obtain ⟨d, hd⟩ := exists_deed fun a c he => harrives a c (he ▸ List.mem_cons_self)
    obtain ⟨ds, hds, hrun⟩ := ih (fun a c he => harrives a c (List.mem_cons_of_mem _ he)) (s.step e)
    refine ⟨d :: ds, by rw [List.map_cons, List.map_cons, hd, hds], ?_⟩
    show (s.input (.deed d)).run (ds.map .deed) = es.foldl step (s.step e)
    rw [input_eq_step hd]
    exact hrun

/-! ### Attending to the listener -/

/-- Two states of a server at an instant with the same sessions. -/
structure SameSessions (s s' : Server) : Prop where
  now_eq : s'.now = s.now
  network_eq : s'.network = s.network
  visitors_eq : s'.visitors = s.visitors
  connected_eq : s'.connected = s.connected

theorem SameSessions.refl (s : Server) : s.SameSessions s := ⟨rfl, rfl, rfl, rfl⟩

theorem SameSessions.trans {s s' s'' : Server} (h : s.SameSessions s') (h' : s'.SameSessions s'') :
    s.SameSessions s'' where
  now_eq := h'.now_eq.trans h.now_eq
  network_eq := h'.network_eq.trans h.network_eq
  visitors_eq := h'.visitors_eq.trans h.visitors_eq
  connected_eq := h'.connected_eq.trans h.connected_eq

variable {P : Server → Prop} {s : Server}

/-- Closing the listener touches no session. -/
theorem sameSessions_drain (s : Server) : s.SameSessions s.drain := ⟨rfl, rfl, rfl, rfl⟩

/-- Beginning to accept touches no session. -/
theorem sameSessions_listen (s : Server) : s.SameSessions s.listen := by
  unfold listen
  split
  · exact s.sameSessions_drain
  · exact ⟨rfl, rfl, rfl, rfl⟩

/-- Starting a server touches no session. -/
theorem sameSessions_start (s : Server) : s.SameSessions (s.apply .start) := by
  show s.SameSessions (if s.gate = .unopened then s.listen else s)
  split
  · exact s.sameSessions_listen
  · exact .refl s

/-- A server that has put accepting off begins it again when the delay is over. -/
theorem wake_cases (s : Server) :
    (s.wake = s ∧ ∀ instant, s.gate = .backingOff instant → s.now < instant) ∨
      (s.wake = s.listen ∧ ∃ instant ≤ s.now, s.gate = .backingOff instant) := by
  unfold wake
  split
  · rename_i instant hgate
    by_cases hover : instant ≤ s.now
    · rw [if_pos hover]
      exact .inr ⟨rfl, instant, hover, hgate⟩
    · rw [if_neg hover]
      refine .inl ⟨rfl, fun instant' hgate' => ?_⟩
      cases hgate.symm.trans hgate'
      exact Nat.lt_of_not_le hover
  · rename_i hgate
    exact .inl ⟨rfl, fun instant hgate' => absurd hgate' (hgate instant)⟩

/-- Going on accepting touches no session. -/
theorem sameSessions_wake (s : Server) : s.SameSessions s.wake := by
  rcases s.wake_cases with ⟨hsame, -⟩ | ⟨hlistens, -⟩
  · rw [hsame]
    exact .refl s
  · rw [hlistens]
    exact s.sameSessions_listen

/-- Putting accepting off touches no session. -/
theorem sameSessions_backOff (fault : Fault) (s : Server) : s.SameSessions (s.backOff fault) := by
  unfold backOff
  refine SameSessions.trans ?_ (sameSessions_wake _)
  exact ⟨rfl, rfl, rfl, rfl⟩

/-- A server that drains ends when no session is left or its deadline has come; any other stays as
    it is. -/
theorem checkDrained_cases (s : Server) :
    s.checkDrained = s ∨ ∃ deadline outcome log, s.gate = .draining deadline ∧
      (s.active = 0 ∧ outcome = .drained ∨
        deadline ≤ s.now ∧ outcome = .drainTimedOut s.active) ∧
      s.checkDrained = { s with gate := .stopped outcome, log := log } := by
  unfold checkDrained
  split
  · rename_i deadline hgate
    by_cases hnone : s.active = 0
    · rw [if_pos hnone]
      exact .inr ⟨deadline, _, _, hgate, .inl ⟨hnone, rfl⟩, rfl⟩
    · rw [if_neg hnone]
      by_cases hdue : deadline ≤ s.now
      · rw [if_pos hdue]
        exact .inr ⟨deadline, _, _, hgate, .inr ⟨hdue, rfl⟩, rfl⟩
      · rw [if_neg hdue]
        exact .inl rfl
  · exact .inl rfl

/-- Stopping touches no session. -/
theorem sameSessions_checkDrained (s : Server) : s.SameSessions s.checkDrained := by
  rcases s.checkDrained_cases with hsame | ⟨_, _, _, -, -, hstops⟩
  · rw [hsame]
    exact .refl s
  · rw [hstops]
    exact ⟨rfl, rfl, rfl, rfl⟩

/-- A listener only begins sessions with clients that wait: what hangs on the sessions alone, and is
    kept when one begins, is kept when the server attends to its listener. -/
theorem takeOffers_preserves (hsame : ∀ s s', s.SameSessions s' → P s → P s')
    (hwelcome : ∀ s number, P s →
      P { s with visitors := s.visitors.modify number (welcome s.settings s.turn s.now) })
    (offers : List Offer) (h : P s) : P (takeOffers offers s) := by
  -- One case for each kind of offer: a client changes one visitor, and everything else is about the
  -- listener.
  induction offers generalizing s with
  | nil => exact hsame s _ ⟨rfl, rfl, rfl, rfl⟩ h
  | cons offer rest ih =>
    unfold takeOffers
    split
    · refine ih ?_
      cases offer with
      | client number =>
        refine hsame _ _ (sameSessions_listen _) ?_
        exact hsame { s with visitors := _ } _ ⟨rfl, rfl, rfl, rfl⟩ (hwelcome s number h)
      | fault f =>
        show P (if s.policy.isPassing f then s.backOff f else s.giveUp f)
        split
        · exact hsame _ _ (s.sameSessions_backOff f) h
        · exact hsame s _ ⟨rfl, rfl, rfl, rfl⟩ h
    · exact hsame s _ ⟨rfl, rfl, rfl, rfl⟩ h

/-- What holds however the listener is attended to: it is enough that it is of the sessions alone
    and outlasts a welcome. -/
theorem attend_preserves (hsame : ∀ s s', s.SameSessions s' → P s → P s')
    (hwelcome : ∀ s number, P s →
      P { s with visitors := s.visitors.modify number (welcome s.settings s.turn s.now) })
    (h : P s) : P s.attend := by
  have htake : P (if s.stopping then s.drain else takeOffers s.wake.queue s.wake) := by
    split
    · exact hsame _ _ s.sameSessions_drain h
    · exact takeOffers_preserves hsame hwelcome _ (hsame _ _ s.sameSessions_wake h)
  unfold attend
  split
  · exact htake
  · exact htake
  · exact h

/-! ### A server that settles is a server that moves -/

/-- From `s` some moves lead to `s'`, in which others do `deeds`. -/
def Reaches (s : Server) (deeds : List Deed) (s' : Server) : Prop :=
  ∃ ms, s.moves ms = s' ∧ ms.filterMap Move.deed? = deeds

namespace Reaches

variable {s s' s'' : Server} {deeds deeds' : List Deed}

theorem refl (s : Server) : s.Reaches [] s := ⟨[], rfl, rfl⟩

/-- One move reaches what it leads to. -/
theorem one (s : Server) (m : Move) : s.Reaches m.deed?.toList (s.move m) :=
  ⟨[m], rfl, by cases m <;> rfl⟩

theorem trans (h : s.Reaches deeds s') (h' : s'.Reaches deeds' s'') :
    s.Reaches (deeds ++ deeds') s'' := by
  obtain ⟨ms, rfl, rfl⟩ := h
  obtain ⟨ms', rfl, rfl⟩ := h'
  exact ⟨ms ++ ms', List.foldl_append, List.filterMap_append⟩

/-- Some moves, and more moves in which others do nothing. -/
theorem andThen (h : s.Reaches deeds s') (h' : s'.Reaches [] s'') : s.Reaches deeds s'' := by
  have hboth := h.trans h'
  rwa [List.append_nil] at hboth

end Reaches

/-- A server with these clients, for whom so many connections have been made. -/
def hosting (connected : Nat) (vs : List Visitor) (s : Server) : Server :=
  { s with connected := connected, visitors := vs }

/-- A server with this session of a client between the other clients. -/
def seat (before : List Visitor) (address : SocketAddress) (after : List Visitor) (s : Server)
    (connected : Nat) (x : Session) : Server :=
  s.hosting connected (before ++ ⟨address, .served x⟩ :: after)

section Seat

variable {before after : List Visitor} {address : SocketAddress} {s : Server} {c : Nat}
  {x : Session}

/-- How many connections a session has made. -/
def made (x : Session) : Nat := x.number?.toList.length

/-- Letting the session in one seat do something leaves all other seats as they are. -/
theorem act_seat (a : Session.Act) :
    (seat before address after s c x).move (.act before.length a) =
      seat before address after s (c + (made (x.act s.network c s.now a) - made x))
        (x.act s.network c s.now a) := by
  have hget : (before ++ (⟨address, .served x⟩ : Visitor) :: after)[before.length]? =
      some ⟨address, .served x⟩ := by simp
  show act before.length a (seat before address after s c x) = _
  unfold act seat hosting
  dsimp only
  rw [hget]
  simp [Visitor.act, Visitor.connections_eq, made, Visitor.number?, Visitor.outbound?,
    Visitor.session?, Session.number?]

/-- A session that does anything but dial makes no connection, so the number that comes next stays.
    -/
theorem reaches_act_seat {a : Session.Act} (ha : a ≠ .dial) :
    (seat before address after s c x).Reaches []
      (seat before address after s c (x.act s.network c s.now a)) := by
  have hone := Reaches.one (seat before address after s c x) (.act before.length a)
  rw [act_seat, made, x.number?_act ha, ← made, Nat.sub_self] at hone
  exact hone

/-- The tunnel of one session may make any number of moves. -/
theorem reaches_foldl_carry (ms : List TunnelRun.Move) :
    (seat before address after s c x).Reaches []
      (seat before address after s c (ms.foldl (fun x m => x.carry s.now m) x)) := by
  induction ms generalizing x with
  | nil => exact .refl _
  | cons m ms ih => exact (reaches_act_seat (a := .carry m) nofun).trans ih

/-- A tunnel that relays all it can does so move by move. -/
theorem reaches_relay_seat :
    (seat before address after s c x).Reaches []
      (seat before address after s c (x.relay s.now)) := by
  obtain ⟨ms, hrelay⟩ := x.relay_eq_foldl s.now
  rw [hrelay]
  exact (reaches_foldl_carry ms).trans (reaches_act_seat (a := .conclude) nofun)

/-- A session that settles does one thing after the other. -/
theorem reaches_settle_seat (address : SocketAddress) (before after : List Visitor) (s : Server)
    (c : Nat) (x : Session) :
    (seat before address after s c x).Reaches []
      (seat before address after s (c + (made (x.settle s.network c s.now) - made x))
        (x.settle s.network c s.now)) := by
  -- Only dialling makes a connection; what comes before it and after it leaves the number.
  let asked := ((x.peek s.now).readHead s.network s.now).negotiate s.network s.now
  have hasked : made asked = made x := by
    rw [made, Session.number?_negotiate, Session.number?_readHead, Session.number?_peek]
    rfl
  have hmade : made (x.settle s.network c s.now) = made (asked.dial c s.now) := by
    rw [made, Session.settle, Session.number?_relay, Session.number?_tell]
    rfl
  have hask : (seat before address after s c x).Reaches [] (seat before address after s c asked) :=
    ((reaches_act_seat (a := .peek) nofun).trans
      (reaches_act_seat (a := .readHead) nofun)).trans (reaches_act_seat (a := .negotiate) nofun)
  have hdial := Reaches.one (seat before address after s c asked) (.act before.length .dial)
  rw [act_seat, hasked] at hdial
  rw [hmade]
  exact ((hask.trans hdial).trans (reaches_act_seat (a := .tell) nofun)).trans reaches_relay_seat

end Seat

variable {s : Server}

/-- A client that settles makes as many connections as its session does. -/
theorem connections_settleVisitor (address : SocketAddress) (net : Network) (c now : Nat)
    (x : Session) :
    (settleVisitor net c now ⟨address, .served x⟩).connections -
        (⟨address, .served x⟩ : Visitor).connections = made (x.settle net c now) - made x := by
  rw [Visitor.connections_eq, Visitor.connections_eq]
  rfl

/-- Sessions that settle in order do so one after the other. -/
theorem reaches_settleVisitors (vs before : List Visitor) (c : Nat) (s : Server) :
    (s.hosting c (before ++ vs)).Reaches []
      (s.hosting (settleVisitors s.network s.now c vs).1
        (before ++ (settleVisitors s.network s.now c vs).2)) := by
  -- The clients settle one after the other: those before have settled, those after have not yet
  -- moved.
  induction vs generalizing before c with
  | nil => exact .refl _
  | cons v vs ih =>
    have hrest (v' : Visitor) (c' : Nat) : (s.hosting c' (before ++ v' :: vs)).Reaches []
        (s.hosting (settleVisitors s.network s.now c' vs).1
          (before ++ v' :: (settleVisitors s.network s.now c' vs).2)) := by
      have hih := ih (before ++ [v']) c'
      simpa only [List.append_assoc, List.singleton_append] using hih
    unfold settleVisitors
    dsimp only
    obtain ⟨address, visit⟩ := v
    cases visit with
    | waiting channel => exact hrest _ _
    | served x =>
      rw [connections_settleVisitor]
      exact (reaches_settle_seat address before vs s c x).trans (hrest _ _)

/-- Serving everyone is letting the sessions do what they can, one after the other. -/
theorem reaches_serve (s : Server) : s.Reaches [] s.serve :=
  reaches_settleVisitors s.visitors [] s.connected s

/-- **A server that settles** lets its sessions do one thing after the other. -/
theorem reaches_settle {now : Nat} (hle : s.now ≤ now) : s.Reaches [] (s.settle now) := by
  have htick : s.Reaches [] { s with now := now } := by
    have hone := Reaches.one s (.tick (now - s.now))
    rwa [move, Nat.add_sub_cancel' hle] at hone
  exact ((htick.trans (.one _ .attend)).trans (reaches_serve _)).trans (.one _ .check)

/-- After a server has settled at an instant, it is that instant. -/
theorem now_settle (now : Nat) (s : Server) : (s.settle now).now = now := by
  have hattend : ({ s with now := now }.attend).now = now :=
    attend_preserves (P := fun s => s.now = now) (fun _ _ hsame h => hsame.now_eq.trans h)
      (fun _ _ h => h) rfl
  exact (sameSessions_checkDrained _).now_eq.trans hattend

/-- What others do takes no time. -/
theorem now_change (d : Deed) (s : Server) : (s.change d).now = s.now := by
  cases d with
  | start => exact s.sameSessions_start.now_eq
  | _ => rfl

/-- Whatever happens to a server that settles, it moves there. -/
theorem reaches_input (s : Server) (i : Input) : s.Reaches i.deed?.toList (s.input i) := by
  cases i with
  | deed d =>
    have hdeed := Reaches.one s (.deed d)
    exact hdeed.andThen (reaches_settle (Nat.le_of_eq (now_change d s)))
  | wait span =>
    have hwait : (s.wait span).now = s.now + span ∧ s.Reaches [] (s.wait span) :=
      Clock.run_preserves (P := fun now s' => s'.now = now ∧ s.Reaches [] s')
        (fun now t s' hle hs =>
          ⟨now_settle t s', hs.2.andThen (reaches_settle (hs.1 ▸ hle))⟩)
        (Nat.le_add_right s.now span) ⟨rfl, .refl s⟩
    exact hwait.2

/-- **A server that runs** moves in one of the orders that there are.  So what holds of every order
    holds of the run. -/
theorem reaches_run (s : Server) (is : List Input) :
    s.Reaches (is.filterMap Input.deed?) (s.run is) := by
  induction is generalizing s with
  | nil => exact .refl s
  | cons i is ih =>
    have hrest := (reaches_input s i).trans (ih (s.input i))
    cases i <;> exact hrest

end Server

/-! ### What the others have done -/

/-- What clients and targets have done in a run. -/
structure Journal where
  /-- The streams of the clients, in the order in which they connected, of which nobody has read
      anything. -/
  clients : List Lookahead
  /-- What has happened on the connection with a number since it was made. -/
  heard : Nat → List Channel.Event

namespace Journal

/-- Nothing has been done. -/
def blank : Journal := ⟨[], fun _ => []⟩

/-- The journal after something that others do, when so many connections have been made; nothing
    happens on one that has not been made yet. -/
def note (connected : Nat) (d : Server.Deed) (j : Journal) : Journal :=
  match d with
  | .connect _ room early =>
    { j with clients := j.clients ++ [.ofChannel (Server.arrival room early)] }
  | .client number e => { j with clients := j.clients.modify number fun g => g.apply e }
  | .peer number e =>
    if number < connected then { j with heard := Session.hear number e j.heard } else j
  | _ => j

/-- The journal after any number of moves of a server. -/
def through (s : Server) (j : Journal) : List Server.Move → Journal
  | [] => j
  | m :: ms => through (s.move m) (m.deed?.elim j fun d => j.note s.connected d) ms

end Journal

end ForwardProxy
