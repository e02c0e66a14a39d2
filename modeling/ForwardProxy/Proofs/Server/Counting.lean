import ForwardProxy.Proofs.Server.Books

namespace ForwardProxy

/-!
# The count of sessions

A server counts its sessions: one more when it accepts a client, one less when a session returns, in
whatever way.  It waits for the count, and not for the sessions, when it is to stop.

* `CountedServer` — a server with such a count.
* `Server.Queued` — the clients that the listener offers are those that wait.
* `CountedServer.counted_moves` — the count is right in every state, and never shows.
-/

/-- A server with its count of the sessions under way. -/
structure CountedServer where
  server : Server
  count : Int
  deriving DecidableEq, Repr

namespace CountedServer

/-- A server that has not started and to which nobody has connected. -/
def create (settings : Settings) (policy : AcceptPolicy) (net : Network) (turn : Turn) :
    CountedServer := ⟨.create settings policy net turn, 0⟩

/-- Takes what the listener offers next; a client counts before its session begins. -/
def take (offer : Offer) (c : CountedServer) : CountedServer :=
  match offer with
  | .client number => ⟨c.server.acceptClient number, c.count + 1⟩
  | .fault f => { c with server := c.server.take (.fault f) }

/-- Takes offers in order for as long as the server is accepting. -/
def takeOffers : List Offer → CountedServer → CountedServer
  | [], c => { c with server := { c.server with queue := [] } }
  | offer :: rest, c =>
    if c.server.gate = .listening then takeOffers rest (c.take offer)
    else { c with server := { c.server with queue := offer :: rest } }

/-- Attends to the listener. -/
def attend (c : CountedServer) : CountedServer :=
  if c.server.isAccepting then
    if c.server.stopping then { c with server := c.server.drain }
    else takeOffers c.server.wake.queue { c with server := c.server.wake }
  else c

/-- Lets the session of a client do one thing; if it returns, it does not count any more. -/
def act (number : Nat) (a : Session.Act) (c : CountedServer) : CountedServer :=
  let server := c.server.act number a
  let wasActive := c.server.visitors[number]?.any Visitor.isActive
  let isActive := server.visitors[number]?.any Visitor.isActive
  ⟨server, if wasActive && !isActive then c.count - 1 else c.count⟩

/-- Stops when nothing counts any more, or when there has been time enough. -/
def checkDrained (c : CountedServer) : CountedServer :=
  match c.server.gate with
  | .draining deadline =>
    if c.count = 0 then
      let server := { c.server with gate := .stopped .drained }
      { c with server := server.note .info "all connections closed" }
    else if deadline ≤ c.server.now then
      let limit := Duration.describe c.server.settings.drainTimeout
      let message :=
        s!"graceful shutdown timeout reached after {limit} with {c.count} connections still active"
      let server := { c.server with gate := .stopped (.drainTimedOut c.count.toNat) }
      { c with server := server.note .warn message }
    else c
  | _ => c

/-- A server after one move. -/
def move (c : CountedServer) : Server.Move → CountedServer
  | .attend => c.attend
  | .act number a => c.act number a
  | .check => c.checkDrained
  | m => { c with server := c.server.move m }

/-- A server after any number of moves. -/
def moves (c : CountedServer) (ms : List Server.Move) : CountedServer := ms.foldl move c

end CountedServer

/-! ### Sessions that are under way -/

namespace Session

variable {s : Session}

/-- A session that is over does nothing any more. -/
theorem act_of_isOver (h : s.isOver = true) (net : Network) (next now : Nat) (a : Act) :
    s.act net next now a = s := by
  unfold isOver at h
  split at h
  · rename_i failure hphase
    cases a <;>
      simp [Session.act, peek, readHead, negotiate, dial, tell, carry, concludeOver, hphase]
  · cases h

end Session

namespace Visitor

/-- What a client does ends no session and begins none. -/
theorem isActive_applyClient (e : Channel.Event) (v : Visitor) :
    (v.applyClient e).isActive = v.isActive := by
  obtain ⟨address, visit⟩ := v
  cases visit <;> rfl

/-- What a target does ends no session and begins none. -/
theorem isActive_applyPeer (number : Nat) (e : Channel.Event) (v : Visitor) :
    (v.applyPeer number e).isActive = v.isActive := by
  obtain ⟨address, visit⟩ := v
  cases visit <;> rfl

/-- The order of the halves of a tunnel ends no session and begins none. -/
theorem isActive_reorder (turn : Turn) (v : Visitor) : (v.reorder turn).isActive = v.isActive := by
  obtain ⟨address, visit⟩ := v
  cases visit with
  | waiting c => rfl
  | served s =>
    obtain ⟨settings, peer, entry, turn', client, outbound, phase, log, lookups, dials⟩ := s
    cases phase <;> rfl

/-- Nothing that a client's session does begins it again. -/
theorem isActive_of_act {v : Visitor} {net : Network} {next now : Nat} {a : Session.Act}
    (h : (v.act net next now a).isActive = true) : v.isActive = true := by
  obtain ⟨address, visit⟩ := v
  cases visit with
  | waiting c => exact h
  | served s =>
    by_contra hnot
    have hover : s.isOver = true := by
      cases hs : s.isOver
      · exact absurd (show (!s.isOver) = true by rw [hs]; rfl) hnot
      · rfl
    have hstill : (!(s.act net next now a).isOver) = true := h
    rw [Session.act_of_isOver hover, hover] at hstill
    cases hstill

/-- What its session does leaves a client served or unserved as it was. -/
theorem isServed_act (net : Network) (next now : Nat) (a : Session.Act) (v : Visitor) :
    (v.act net next now a).isServed = v.isServed := by
  obtain ⟨address, visit⟩ := v
  cases visit <;> rfl

end Visitor

namespace Server

variable {s s' : Server} {pending : List Offer}

/-! ### Clients that wait -/

/-- The clients that wait are those who came last, and they are offered in order. -/
def Queued (pending : List Offer) (s : Server) : Prop :=
  ∃ served waiting, s.visitors.map Visitor.isServed =
      List.replicate served true ++ List.replicate waiting false ∧
    pending.filterMap Offer.client? = List.range' served waiting

/-- Who waits in the queue is known by who is served. -/
theorem Queued.of_served_eq (hq : s.Queued pending)
    (h : s'.visitors.map Visitor.isServed = s.visitors.map Visitor.isServed) :
    s'.Queued pending := by
  obtain ⟨served, waiting, hserved, hpending⟩ := hq
  exact ⟨served, waiting, h.trans hserved, hpending⟩

/-- The client that is offered next is the first one that waits. -/
theorem Queued.client {n : Nat} (hq : s.Queued (.client n :: pending)) :
    ∃ v, s.visitors[n]? = some v ∧ v.isServed = false ∧ ∀ s' : Server,
      s'.visitors.map Visitor.isServed = (s.visitors.map Visitor.isServed).set n true →
        s'.Queued pending := by
  obtain ⟨served, waiting, hserved, hpending⟩ := hq
  -- The first client of the queue is the first of those not served: the numbers in the queue are
  -- consecutive.
  obtain ⟨rfl, hpos, hrest⟩ := List.range'_eq_cons_iff.1 hpending.symm
  obtain ⟨waiting, rfl⟩ := Nat.exists_eq_add_one.2 hpos
  have hget : (s.visitors.map Visitor.isServed)[served]? = some false := by
    rw [hserved, List.getElem?_append_right (by simp)]
    simp
  rw [List.getElem?_map, Option.map_eq_some_iff] at hget
  obtain ⟨v, hv, hwaits⟩ := hget
  refine ⟨v, hv, hwaits, fun s' hs' => ⟨served + 1, waiting, ?_, hrest⟩⟩
  rw [hs', hserved, List.set_append_right _ _ (by simp), List.length_replicate, Nat.sub_self,
    List.replicate_succ, List.set_cons_zero, List.replicate_succ', List.append_assoc]
  rfl

/-- A fault at the head of the queue is no client. -/
theorem Queued.fault {f : Fault} (hq : s.Queued (.fault f :: pending)) : s.Queued pending := hq

/-- A client that connects is the last of those who wait. -/
theorem Queued.connect (hq : s.Queued s.queue) (address : SocketAddress) (channel : Channel) :
    (s.apply (.connect address channel)).Queued (s.apply (.connect address channel)).queue := by
  obtain ⟨served, waiting, hserved, hpending⟩ := hq
  have hlength := congrArg List.length hserved
  simp only [List.length_map, List.length_append, List.length_replicate] at hlength
  refine ⟨served, waiting + 1, ?_, ?_⟩
  · show (s.visitors ++ [_]).map Visitor.isServed = _
    rw [List.map_append, hserved, List.append_assoc, List.replicate_succ']
    rfl
  · show (s.queue ++ [Offer.client s.visitors.length]).filterMap _ = _
    rw [List.filterMap_append, hpending, hlength]
    exact List.range'_1_concat.symm

/-! ### Sessions that are under way -/

/-- One client more is active if a change makes it so. -/
theorem countP_modify {vs : List Visitor} {f : Visitor → Visitor} {n : Nat} {v : Visitor}
    (hv : vs[n]? = some v) (hbefore : v.isActive = false) (hafter : (f v).isActive = true) :
    (vs.modify n f).countP Visitor.isActive = vs.countP Visitor.isActive + 1 := by
  obtain ⟨hn, rfl⟩ := List.getElem?_eq_some_iff.1 hv
  rw [List.modify_eq_set_get f hn, List.countP_set hn]
  simp only [hbefore, Bool.false_eq_true, if_false, Nat.sub_zero]
  rw [if_pos]
  exact hafter

/-- A change that ends no session and begins none leaves their number. -/
theorem countP_modify_of_eq {vs : List Visitor} {f : Visitor → Visitor}
    (hf : ∀ v, (f v).isActive = v.isActive) (n : Nat) :
    (vs.modify n f).countP Visitor.isActive = vs.countP Visitor.isActive := by
  induction vs generalizing n with
  | nil => cases n <;> rfl
  | cons v vs ih =>
    cases n with
    | zero =>
      show (f v :: vs).countP _ = _
      rw [List.countP_cons, List.countP_cons, hf]
    | succ n =>
      show (v :: vs.modify n f).countP _ = _
      rw [List.countP_cons, List.countP_cons, ih]

/-- One client less is active if a change makes it so. -/
theorem countP_set_of_imp {vs : List Visitor} {n : Nat} {v v' : Visitor} (hv : vs[n]? = some v)
    (hback : v'.isActive = true → v.isActive = true) :
    (if v.isActive && !v'.isActive then (vs.countP Visitor.isActive : Int) - 1
      else vs.countP Visitor.isActive) = ((vs.set n v').countP Visitor.isActive : Int) := by
  obtain ⟨hn, rfl⟩ := List.getElem?_eq_some_iff.1 hv
  have hset := List.countP_set (p := Visitor.isActive) (a := v') hn
  -- A session that is still under way was so before, so the number falls only when one has ended.
  cases hafter : v'.isActive with
  | true =>
    have hbefore := hback hafter
    have hpos : 0 < vs.countP Visitor.isActive :=
      List.countP_pos_iff.2 ⟨_, List.getElem_mem hn, hbefore⟩
    rw [if_pos hbefore, if_pos hafter] at hset
    simp only [hbefore, Bool.not_true, Bool.and_false, Bool.false_eq_true, if_false]
    omega
  | false =>
    by_cases hbefore : vs[n].isActive = true
    · have hpos : 0 < vs.countP Visitor.isActive :=
        List.countP_pos_iff.2 ⟨_, List.getElem_mem hn, hbefore⟩
      rw [if_pos hbefore, if_neg (by rw [hafter]; exact nofun)] at hset
      simp only [hbefore, Bool.not_false, Bool.and_true, if_true]
      omega
    · rw [if_neg hbefore, if_neg (by rw [hafter]; exact nofun)] at hset
      rw [Bool.eq_false_iff.2 hbefore, Bool.false_and, if_neg Bool.false_ne_true]
      omega

/-- The number of sessions under way depends on nothing but the visitors. -/
theorem active_of_visitors_eq (h : s'.visitors = s.visitors) : s'.active = s.active :=
  congrArg (List.countP Visitor.isActive) h

/-- **Accepting a client** begins a session, which is under way. -/
theorem Queued.active_acceptClient {n : Nat} (hq : s.Queued (.client n :: pending)) :
    (s.acceptClient n).active = s.active + 1 ∧ (s.acceptClient n).Queued pending := by
  obtain ⟨v, hv, hwaits, hqueued⟩ := hq.client
  have hvisitors : (s.acceptClient n).visitors =
      s.visitors.modify n (welcome s.settings s.turn s.now) := (sameSessions_listen _).visitors_eq
  obtain ⟨address, visit⟩ := v
  cases visit with
  | served x => cases hwaits
  | waiting channel =>
    refine ⟨?_, hqueued _ ?_⟩
    · show (s.acceptClient n).visitors.countP _ = _
      rw [hvisitors, countP_modify hv rfl rfl]
      rfl
    · obtain ⟨hn, hget⟩ := List.getElem?_eq_some_iff.1 hv
      rw [hvisitors, List.modify_eq_set_get _ hn, List.map_set, List.get_eq_getElem, hget]
      rfl

end Server

namespace CountedServer

variable {c : CountedServer} {pending : List Offer}

/-- The count is that of the sessions under way, and `pending` is what the clients that wait are
    offered by. -/
structure Sound (pending : List Offer) (c : CountedServer) : Prop where
  count_eq : c.count = c.server.active
  queued : c.server.Queued pending

/-- The count is of the sessions alone: whatever else a server changes leaves it right. -/
theorem Sound.of_sameSessions (hs : c.Sound pending) {s : Server}
    (hsame : c.server.SameSessions s) : Sound pending { c with server := s } where
  count_eq := by
    show c.count = s.active
    rw [hs.count_eq, Server.active_of_visitors_eq hsame.visitors_eq]
  queued := hs.queued.of_served_eq (congrArg _ hsame.visitors_eq)

/-- **Taking one thing** counts a client that begins to be served. -/
theorem Sound.take {offer : Offer} (hs : c.Sound (offer :: pending)) :
    (c.take offer).server = c.server.take offer ∧ (c.take offer).Sound pending := by
  cases offer with
  | client n =>
    obtain ⟨hactive, hqueued⟩ := hs.queued.active_acceptClient
    refine ⟨rfl, ?_, hqueued⟩
    show c.count + 1 = ((c.server.acceptClient n).active : Int)
    rw [hs.count_eq, hactive]
    rfl
  | fault f =>
    refine ⟨rfl, Sound.of_sameSessions ⟨hs.count_eq, hs.queued.fault⟩ ?_⟩
    show c.server.SameSessions
      (if c.server.policy.isPassing f then c.server.backOff f else c.server.giveUp f)
    split
    · exact c.server.sameSessions_backOff f
    · exact ⟨rfl, rfl, rfl, rfl⟩

/-- Taking what is offered counts each session that begins. -/
theorem Sound.takeOffers {offers : List Offer} (hs : c.Sound offers) :
    (c.takeOffers offers).server = c.server.takeOffers offers ∧
      (c.takeOffers offers).Sound (c.takeOffers offers).server.queue := by
  induction offers generalizing c with
  | nil => exact ⟨rfl, hs.count_eq, hs.queued⟩
  | cons offer rest ih =>
    unfold CountedServer.takeOffers Server.takeOffers
    split
    · obtain ⟨hserver, hsound⟩ := hs.take
      rw [← hserver]
      exact ih hsound
    · exact ⟨rfl, hs.count_eq, hs.queued⟩

/-- Attending to the listener counts each session that begins. -/
theorem Sound.attend (hs : c.Sound c.server.queue) :
    c.attend.server = c.server.attend ∧ c.attend.Sound c.attend.server.queue := by
  have htake : (CountedServer.takeOffers c.server.wake.queue
        { c with server := c.server.wake }).server =
        c.server.wake.takeOffers c.server.wake.queue ∧
      (CountedServer.takeOffers c.server.wake.queue { c with server := c.server.wake }).Sound
        (CountedServer.takeOffers c.server.wake.queue
          { c with server := c.server.wake }).server.queue := by
    refine Sound.takeOffers (c := { c with server := c.server.wake }) ?_
    rw [Server.queue_wake]
    exact hs.of_sameSessions c.server.sameSessions_wake
  unfold CountedServer.attend
  cases haccepting : c.server.isAccepting with
  | false =>
    rw [Server.attend_of_not_isAccepting haccepting]
    exact ⟨rfl, hs⟩
  | true =>
    rw [Server.attend_of_isAccepting haccepting, if_pos rfl]
    split
    · exact ⟨rfl, hs.of_sameSessions c.server.sameSessions_drain⟩
    · exact htake

/-- **A session that does one thing** counts as long as it has not returned. -/
theorem Sound.act (hs : c.Sound c.server.queue) (number : Nat) (a : Session.Act) :
    (c.act number a).server = c.server.act number a ∧
      (c.act number a).Sound (c.act number a).server.queue := by
  unfold CountedServer.act Server.act
  dsimp only
  cases hv : c.server.visitors[number]? with
  | none =>
    dsimp only
    rw [hv]
    exact ⟨rfl, hs⟩
  | some v =>
    obtain ⟨hn, rfl⟩ := List.getElem?_eq_some_iff.1 hv
    dsimp only
    rw [List.getElem?_set_self hn]
    generalize hv' :
      c.server.visitors[number].act c.server.network c.server.connected c.server.now a = v'
    refine ⟨rfl, ?_, ?_⟩
    · -- A session that is over stays so: the count can only go down.
      have hback : v'.isActive = true → c.server.visitors[number].isActive = true := by
        rw [← hv']
        exact Visitor.isActive_of_act
      rw [hs.count_eq]
      exact Server.countP_set_of_imp hv hback
    · refine hs.queued.of_served_eq ?_
      show (c.server.visitors.set number v').map _ = _
      rw [List.map_set, ← hv', Visitor.isServed_act]
      refine List.ext_getElem? fun k => ?_
      rw [List.getElem?_set, List.getElem?_map]
      by_cases hk : number = k
      · subst hk
        simp [hn]
      · rw [if_neg hk]

/-- A change of one client that ends no session and begins none leaves the count right. -/
theorem Sound.modify (hs : c.Sound c.server.queue) {f : Visitor → Visitor}
    (hactive : ∀ v, (f v).isActive = v.isActive) (hserved : ∀ v, (f v).isServed = v.isServed)
    (number : Nat) {turn : Turn} :
    Sound c.server.queue { c with server :=
      { c.server with turn := turn, visitors := c.server.visitors.modify number f } } where
  count_eq := hs.count_eq.trans (congrArg _ (Server.countP_modify_of_eq hactive number).symm)
  queued := hs.queued.of_served_eq (Server.isServed_modify hserved number _)

/-- Whatever others do, the count is right. -/
theorem Sound.deed (hs : c.Sound c.server.queue) (d : Server.Deed) :
    Sound (c.server.change d).queue { c with server := c.server.change d } := by
  cases d with
  | start =>
    have hstart := hs.of_sameSessions c.server.sameSessions_start
    rw [← c.server.queue_start] at hstart
    exact hstart
  | connect address room early =>
    refine ⟨?_, hs.queued.connect address _⟩
    show c.count = ((c.server.visitors ++ [_]).countP Visitor.isActive : Int)
    rw [hs.count_eq, List.countP_append]
    rfl
  | acceptFault f =>
    refine ⟨hs.count_eq, ?_⟩
    obtain ⟨served, waiting, hserved, hpending⟩ := hs.queued
    refine ⟨served, waiting, hserved, ?_⟩
    show (c.server.queue ++ [Offer.fault f]).filterMap _ = _
    rw [List.filterMap_append, hpending]
    exact List.append_nil _
  | shutdown => exact ⟨hs.count_eq, hs.queued⟩
  | client number e =>
    exact hs.modify (Visitor.isActive_applyClient e) (Server.isServed_applyClient e) number
  | peer number e =>
    refine ⟨?_, hs.queued.of_served_eq ?_⟩
    · show c.count = ((c.server.visitors.map _).countP Visitor.isActive : Int)
      rw [hs.count_eq, List.countP_map]
      exact congrArg _ (List.countP_congr fun v _ => by
        rw [Function.comp_apply, Visitor.isActive_applyPeer])
    · show (c.server.visitors.map _).map _ = _
      rw [List.map_map]
      exact List.map_congr_left fun v _ => Server.isServed_applyPeer number e v
  | reorder number turn =>
    exact hs.modify (Visitor.isActive_reorder turn) (Server.isServed_reorder turn) number

/-- A server that goes by its count stops as one that goes by its sessions. -/
theorem Sound.checkDrained (hs : c.Sound pending) :
    c.checkDrained.server = c.server.checkDrained ∧ c.checkDrained.Sound pending := by
  have hserver : c.checkDrained = { c with server := c.server.checkDrained } := by
    obtain ⟨s, count⟩ := c
    obtain rfl : count = s.active := hs.count_eq
    -- The count is right, so both servers decide on the same number.
    unfold CountedServer.checkDrained Server.checkDrained
    cases s.gate with
    | draining deadline =>
      dsimp only
      by_cases hnone : s.active = 0
      · rw [if_pos hnone, if_pos (by omega)]
      · rw [if_neg hnone, if_neg (by omega)]
        split <;> rfl
    | _ => rfl
  rw [hserver]
  exact ⟨rfl, hs.of_sameSessions c.server.sameSessions_checkDrained⟩

/-- Each move of a counted server is the move of a server, and the count stays right. -/
theorem Sound.move (hs : c.Sound c.server.queue) (m : Server.Move) :
    (c.move m).server = c.server.move m ∧ (c.move m).Sound (c.move m).server.queue := by
  cases m with
  | deed d => exact ⟨rfl, hs.deed d⟩
  | tick span => exact ⟨rfl, hs.count_eq, hs.queued⟩
  | attend => exact hs.attend
  | act number a => exact hs.act number a
  | check =>
    obtain ⟨hserver, hsound⟩ := hs.checkDrained
    refine ⟨hserver, ?_⟩
    show c.checkDrained.Sound c.checkDrained.server.queue
    rw [hserver, Server.queue_checkDrained]
    exact hsound

/-- **The count is right in every state, and never shows**, in whatever order things happen. -/
theorem Sound.moves (hs : c.Sound c.server.queue) (ms : List Server.Move) :
    (c.moves ms).server = c.server.moves ms ∧ (c.moves ms).count = (c.server.moves ms).active := by
  induction ms generalizing c with
  | nil => exact ⟨rfl, hs.count_eq⟩
  | cons m ms ih =>
    obtain ⟨hserver, hsound⟩ := hs.move m
    have hrest := ih hsound
    rw [hserver] at hrest
    exact hrest

/-- Before anything happens, no session is counted and none is under way. -/
theorem sound_create (settings : Settings) (policy : AcceptPolicy) (net : Network) (turn : Turn) :
    (create settings policy net turn).Sound [] := ⟨rfl, 0, 0, rfl, rfl⟩

end CountedServer

end ForwardProxy
