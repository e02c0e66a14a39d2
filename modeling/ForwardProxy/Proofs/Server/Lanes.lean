import ForwardProxy.Proofs.Server.Run
import ForwardProxy.Proofs.Session.Lane
import Mathlib.Data.List.Forall2
import Mathlib.Data.List.Nodup

namespace ForwardProxy

/-!
# The lanes of a server

The sessions of a server go on side by side, each in its own lane, and the connections that they
make are numbered one after the other.

* `Session.InLane.number?_act` — a session makes one connection at most.
* `Server.numbers` — the numbers of the connections that there are.
* `Server.InLanes` — every session keeps to its lane, and every number belongs to one of them.
* `Server.InLanes.move`, `Server.InLanes.through` — no move leads a session out of its lane, and so
  none does of any number of moves.
-/

/-! ### Numbers -/

namespace Session

variable {net : Network} {g : Lookahead} {heard : Nat → List Channel.Event} {s : Session}

/-- A session that dials has no connection yet. -/
theorem InLane.outbound_of_dialling (hl : s.InLane net g heard) {protocol : Protocol} {d : Dial}
    (hphase : s.phase = .dialling protocol d) : s.outbound = none := by
  obtain ⟨settings, peer, entry, turn, client, outbound, phase, log, lookups, dials⟩ := s
  cases hl with
  | dialling opens follows said attempt => rfl
  | _ => cases hphase

/-- What a session does makes one connection at most, and none if it has one. -/
theorem InLane.number?_act (hl : s.InLane net g heard) (next now : Nat) (a : Act) :
    (s.act net next now a).number? = s.number? ∨
      (s.number? = none ∧ (s.act net next now a).number? = some next) := by
  by_cases ha : a = .dial
  · subst ha
    refine (s.number?_dial next now).imp_right fun ⟨⟨protocol, d, hphase⟩, hsome⟩ => ⟨?_, hsome⟩
    rw [number?, hl.outbound_of_dialling hphase]
    rfl
  · exact .inl (s.number?_act ha next now)

end Session

/-! ### Clients side by side -/

namespace Visitor

variable {net : Network} {g : Lookahead} {heard : Nat → List Channel.Event} {v : Visitor}

/-- A client whose session keeps to its lane, or has not begun. -/
def InLane (net : Network) (heard : Nat → List Channel.Event) (v : Visitor) (g : Lookahead) :
    Prop :=
  match v.visit with
  | .waiting c => (Lookahead.ofChannel c).Proper ∧ g.Follows [] (.ofChannel c) ∧ c.written = []
  | .served s => s.InLane net g heard

/-- A client whose session begins has kept to its lane: it has been told nothing yet. -/
theorem InLane.welcome (hl : v.InLane net heard g) (settings : Settings) (turn : Turn)
    (now : Nat) : (Server.welcome settings turn now v).InLane net heard g := by
  obtain ⟨address, visit⟩ := v
  cases visit with
  | waiting c =>
    obtain ⟨hproper, hfollows, huntold⟩ := hl
    exact Session.inLane_start hproper hfollows huntold settings address turn now
  | served s => exact hl

/-- A session that begins has no connection yet. -/
theorem number?_welcome (settings : Settings) (turn : Turn) (now : Nat) (v : Visitor) :
    (Server.welcome settings turn now v).number? = v.number? := by
  obtain ⟨address, visit⟩ := v
  cases visit <;> rfl

/-- What its session does keeps a client in its lane, if nothing is known of the connection that
    comes next. -/
theorem InLane.act (hl : v.InLane net heard g) {next : Nat} (hnew : heard next = [])
    (now : Nat) (a : Session.Act) : (v.act net next now a).InLane net heard g := by
  obtain ⟨address, visit⟩ := v
  cases visit with
  | waiting c => exact hl
  | served s => exact Session.InLane.act hl hnew now a

/-- What its session does makes one connection at most for a client. -/
theorem InLane.number?_act (hl : v.InLane net heard g) (next now : Nat) (a : Session.Act) :
    (v.act net next now a).number? = v.number? ∨
      (v.number? = none ∧ (v.act net next now a).number? = some next) := by
  obtain ⟨address, visit⟩ := v
  cases visit with
  | waiting c => exact .inl rfl
  | served s => exact Session.InLane.number?_act hl next now a

/-- What a client does is heard in its own lane. -/
theorem InLane.applyClient (hl : v.InLane net heard g) (e : Channel.Event) :
    (v.applyClient e).InLane net heard (g.apply e) := by
  obtain ⟨address, visit⟩ := v
  cases visit with
  | waiting c =>
    obtain ⟨hproper, hfollows, huntold⟩ := hl
    have hstill : (c.apply e).written = [] :=
      (Lookahead.written_apply e (.ofChannel c)).trans huntold
    exact ⟨hproper.apply e, hfollows.apply e, hstill⟩
  | served s => exact Session.InLane.applyClient hl e

/-- What a client does makes no connection. -/
theorem number?_applyClient (e : Channel.Event) (v : Visitor) :
    (v.applyClient e).number? = v.number? := by
  obtain ⟨address, visit⟩ := v
  cases visit <;> rfl

/-- What a target does is heard in the lane of the connection with its number. -/
theorem InLane.applyPeer (hl : v.InLane net heard g) (number : Nat) (e : Channel.Event) :
    (v.applyPeer number e).InLane net (Session.hear number e heard) g := by
  obtain ⟨address, visit⟩ := v
  cases visit with
  | waiting c => exact hl
  | served s => exact Session.InLane.applyPeer hl number e

/-- What a target does makes no connection. -/
theorem number?_applyPeer (number : Nat) (e : Channel.Event) (v : Visitor) :
    (v.applyPeer number e).number? = v.number? := by
  obtain ⟨address, visit⟩ := v
  cases visit with
  | waiting c => rfl
  | served s =>
    show ((s.outbound.map fun o => if o.number = number then o.apply e else o).map _) =
      s.outbound.map Outbound.number
    rw [Option.map_map]
    refine congrArg (s.outbound.map ·) (funext fun o => ?_)
    show (if o.number = number then o.apply e else o).number = o.number
    split <;> rfl

/-- What happens on other connections does not concern a client. -/
theorem applyPeer_of_ne {number : Nat} (h : v.number? ≠ some number) (e : Channel.Event) :
    v.applyPeer number e = v := by
  obtain ⟨address, visit⟩ := v
  cases visit with
  | waiting c => rfl
  | served s =>
    obtain ⟨settings, peer, entry, turn, client, outbound, phase, log, lookups, dials⟩ := s
    -- Only the number of the connection is looked at: another one, or none, hears nothing.
    cases outbound with
    | none => rfl
    | some o =>
      have hne : o.number ≠ number := fun hsame => h (congrArg some hsame)
      unfold applyPeer Session.applyPeer
      dsimp only
      rw [Option.map_some, if_neg hne]

/-- The order of the halves of a tunnel leaves a client in its lane. -/
theorem InLane.reorder (hl : v.InLane net heard g) (turn : Turn) :
    (v.reorder turn).InLane net heard g := by
  obtain ⟨address, visit⟩ := v
  cases visit with
  | waiting c => exact hl
  | served s => exact Session.InLane.reorder hl turn

/-- The order of the halves of a tunnel makes no connection. -/
theorem number?_reorder (turn : Turn) (v : Visitor) : (v.reorder turn).number? = v.number? := by
  obtain ⟨address, visit⟩ := v
  cases visit <;> rfl

/-- In its lane, what a client is told and what its target is told come from these two alone. -/
theorem InLane.unmixed (hl : v.InLane net heard g) :
    Session.Unmixed net heard g.unread v.channel.written v.outbound? := by
  obtain ⟨address, visit⟩ := v
  cases visit with
  | waiting c =>
    obtain ⟨-, -, huntold⟩ := hl
    exact Session.Denied.unmixed (.inl huntold)
  | served s => exact Session.InLane.unmixed hl

end Visitor

namespace Server

/-- The numbers of the connections of some clients. -/
def numbers (vs : List Visitor) : List Nat := vs.flatMap fun v => v.number?.toList

/-- The numbers of the connections are those of the first client and those of the rest. -/
theorem numbers_cons (v : Visitor) (vs : List Visitor) :
    numbers (v :: vs) = v.number?.toList ++ numbers vs := rfl

/-- Where the numbers stay, a change of one client does not show in them. -/
theorem numbers_modify {f : Visitor → Visitor} (hf : ∀ v, (f v).number? = v.number?) (n : Nat)
    (vs : List Visitor) : numbers (vs.modify n f) = numbers vs := by
  induction vs generalizing n with
  | nil => cases n <;> rfl
  | cons v vs ih =>
    cases n with
    | zero =>
      show numbers (f v :: vs) = _
      rw [numbers_cons, numbers_cons, hf]
    | succ n => exact congrArg (v.number?.toList ++ ·) (ih n)

/-- A change that leaves each client its connection leaves the numbers. -/
theorem numbers_map {f : Visitor → Visitor} (hf : ∀ v, (f v).number? = v.number?)
    (vs : List Visitor) : numbers (vs.map f) = numbers vs := by
  unfold numbers
  rw [List.flatMap_map]
  exact congrArg (vs.flatMap ·) (funext fun v => by rw [hf])

/-- A number is among the connections exactly if some client has the connection. -/
theorem mem_numbers {vs : List Visitor} {n : Nat} :
    n ∈ numbers vs ↔ ∃ v ∈ vs, v.number? = some n := by
  simp [numbers, Option.mem_toList]

/-- Where no number occurs twice, no two clients have the same. -/
theorem eq_of_number? {vs : List Visitor} (hnodup : (numbers vs).Nodup) {i i' n : Nat}
    {v v' : Visitor} (hi : vs[i]? = some v) (hi' : vs[i']? = some v') (hn : v.number? = some n)
    (hn' : v'.number? = some n) : i = i' := by
  have hdisjoint := List.pairwise_iff_getElem.1 (List.nodup_flatMap.1 hnodup).2
  obtain ⟨hlt, rfl⟩ := List.getElem?_eq_some_iff.1 hi
  obtain ⟨hlt', rfl⟩ := List.getElem?_eq_some_iff.1 hi'
  rcases Nat.lt_trichotomy i i' with h | h | h
  · exact absurd (Option.mem_toList.2 hn') (hdisjoint i i' hlt hlt' h (Option.mem_toList.2 hn))
  · exact h
  · exact absurd (Option.mem_toList.2 hn) (hdisjoint i' i hlt' hlt h (Option.mem_toList.2 hn'))

/-- What goes for corresponding elements of two lists still goes when one pair is changed. -/
theorem forall₂_modify {α β : Type} {R : α → β → Prop} {f : α → α} {g : β → β}
    (hf : ∀ a b, R a b → R (f a) (g b)) (n : Nat) {as : List α} {bs : List β}
    (h : List.Forall₂ R as bs) : List.Forall₂ R (as.modify n f) (bs.modify n g) := by
  induction h generalizing n with
  | nil => cases n <;> exact .nil
  | cons hab hrest ih =>
    cases n with
    | zero => exact .cons (hf _ _ hab) hrest
    | succ n => exact .cons hab (ih n)

/-- What stands at one place of a list has its counterpart at that place of the other. -/
theorem forall₂_getElem? {α β : Type} {R : α → β → Prop} {as : List α} {bs : List β}
    (h : List.Forall₂ R as bs) {i : Nat} {a : α} (hi : as[i]? = some a) :
    ∃ b, bs[i]? = some b ∧ R a b := by
  obtain ⟨hlt, rfl⟩ := List.getElem?_eq_some_iff.1 hi
  have hlt' : i < bs.length := h.length_eq ▸ hlt
  exact ⟨bs[i], List.getElem?_eq_getElem hlt', h.get hlt hlt'⟩

/-- What goes for corresponding elements of two lists still goes when one pair is put in another's
    place. -/
theorem forall₂_set {α β : Type} {R : α → β → Prop} {as : List α} {bs : List β}
    (h : List.Forall₂ R as bs) {a : α} {b : β} (hab : R a b) (n : Nat) :
    List.Forall₂ R (as.set n a) (bs.set n b) := by
  induction h generalizing n with
  | nil => exact .nil
  | cons hhead hrest ih =>
    cases n with
    | zero => exact .cons hab hrest
    | succ n => exact .cons hhead (ih n)

/-- A client that gets a connection adds its number to those that there are. -/
theorem numbers_set {vs : List Visitor} {n : Nat} {v v' : Visitor} (hv : vs[n]? = some v)
    (hnone : v.number? = none) :
    (numbers (vs.set n v')).Perm (numbers vs ++ v'.number?.toList) := by
  -- A client that had no connection adds its new number; the order in which the numbers stand is of
  -- no account.
  induction vs generalizing n with
  | nil => cases hv
  | cons w vs ih =>
    cases n with
    | zero =>
      cases hv
      show (numbers (v' :: vs)).Perm _
      rw [numbers_cons, numbers_cons, hnone]
      exact List.perm_append_comm
    | succ n =>
      show (numbers (w :: vs.set n v')).Perm _
      rw [numbers_cons, numbers_cons, List.append_assoc]
      exact (ih hv).append_left _

/-- A client whose number stays changes nothing in the numbers. -/
theorem numbers_set_of_eq {vs : List Visitor} {n : Nat} {v v' : Visitor} (hv : vs[n]? = some v)
    (hsame : v'.number? = v.number?) : numbers (vs.set n v') = numbers vs := by
  induction vs generalizing n with
  | nil => cases hv
  | cons w vs ih =>
    cases n with
    | zero =>
      cases hv
      show numbers (v' :: vs) = _
      rw [numbers_cons, numbers_cons, hsame]
    | succ n => exact congrArg (w.number?.toList ++ ·) (ih hv)

/-! ### The invariant -/

variable {net : Network}

/-- Every session of a server keeps to its lane, and every number of a connection belongs to one
    session. -/
structure InLanes (net : Network) (j : Journal) (s : Server) : Prop where
  network_eq : s.network = net
  lanes : List.Forall₂ (Visitor.InLane net j.heard) s.visitors j.clients
  numbers : (numbers s.visitors).Perm (List.range s.connected)
  unheard : ∀ n, s.connected ≤ n → j.heard n = []

namespace InLanes

variable {j : Journal} {s s' : Server}

/-- The lanes are of the sessions alone: whatever else a server changes leaves them. -/
theorem of_sameSessions (h : InLanes net j s) (hsame : s.SameSessions s') : InLanes net j s' := by
  obtain ⟨hnetwork, hlanes, hnumbers, hunheard⟩ := h
  refine ⟨hsame.network_eq.trans hnetwork, ?_, ?_, ?_⟩
  · rw [hsame.visitors_eq]
    exact hlanes
  · rw [hsame.visitors_eq, hsame.connected_eq]
    exact hnumbers
  · rw [hsame.connected_eq]
    exact hunheard

/-- A change of one client, of whose stream `f'` is the change. -/
theorem modify {f : Visitor → Visitor} (f' : Lookahead → Lookahead) (h : InLanes net j s)
    (hlane : ∀ v g, v.InLane net j.heard g → (f v).InLane net j.heard (f' g))
    (hnumber : ∀ v, (f v).number? = v.number?) (n : Nat) :
    InLanes net { j with clients := j.clients.modify n f' }
      { s with visitors := s.visitors.modify n f } where
  network_eq := h.network_eq
  lanes := forall₂_modify hlane n h.lanes
  numbers := by
    show (Server.numbers (s.visitors.modify n f)).Perm _
    rw [numbers_modify hnumber]
    exact h.numbers
  unheard := h.unheard

/-- A session that begins does so in its lane. -/
theorem welcome (h : InLanes net j s) (n : Nat) :
    InLanes net j { s with visitors := s.visitors.modify n (welcome s.settings s.turn s.now) } := by
  have hwelcome := h.modify id (fun v g hv => hv.welcome s.settings s.turn s.now)
    (fun v => v.number?_welcome s.settings s.turn s.now) n
  rwa [List.modify_id] at hwelcome

/-- Attending to the listener leaves every session in its lane. -/
theorem attend (h : InLanes net j s) : InLanes net j s.attend :=
  attend_preserves (fun _ _ hsame h => h.of_sameSessions hsame) (fun _ n h => h.welcome n) h

/-- **A session that does one thing** stays in its lane, and so do all the others. -/
theorem act (h : InLanes net j s) (number : Nat) (a : Session.Act) :
    InLanes net j (s.act number a) := by
  obtain ⟨rfl, hlanes, hnumbers, hunheard⟩ := h
  unfold Server.act
  split
  · exact ⟨rfl, hlanes, hnumbers, hunheard⟩
  · rename_i v hv
    obtain ⟨g, hg, hlane⟩ := forall₂_getElem? hlanes hv
    have hstays := hlane.act (hunheard s.connected (Nat.le_refl _)) s.now a
    have hset := forall₂_set hlanes hstays number
    obtain ⟨hlt, rfl⟩ := List.getElem?_eq_some_iff.1 hg
    rw [List.set_getElem_self] at hset
    dsimp only
    rw [Visitor.connections_eq, Visitor.connections_eq]
    rcases hlane.number?_act s.connected s.now a with hsame | ⟨hnone, hsome⟩
    · -- No connection is made.
      rw [hsame, Nat.sub_self]
      refine ⟨rfl, hset, ?_, hunheard⟩
      rw [numbers_set_of_eq hv hsame]
      exact hnumbers
    · -- One is made, which gets the next number.
      rw [hnone, hsome]
      refine ⟨rfl, hset, (numbers_set hv hnone).trans ?_,
        fun n hn => hunheard n (Nat.le_of_succ_le hn)⟩
      rw [hsome]
      show List.Perm _ (List.range (s.connected + 1))
      rw [List.range_succ]
      exact hnumbers.append_right _

/-! ### What others do -/

/-- A client that connects gets a lane of its own, on which all is heard that it has done already.
    -/
theorem connect (h : InLanes net j s) (address : SocketAddress) (room : Option Nat)
    (early : List Channel.Event) :
    InLanes net { j with clients := j.clients ++ [.ofChannel (arrival room early)] }
      (s.apply (.connect address (arrival room early))) where
  network_eq := h.network_eq
  lanes := by
    refine List.rel_append h.lanes (.cons ⟨?_, .refl _, ?_⟩ .nil)
    · exact (Channel.proper_idle room).applyAll early
    · exact SessionRun.written_applyAll (.idle room) early
  numbers := by
    show (Server.numbers (s.visitors ++ [_])).Perm _
    rw [Server.numbers, List.flatMap_append]
    exact (List.append_nil _).symm ▸ h.numbers
  unheard := h.unheard

/-- The number of a connection is below the number that comes next. -/
theorem number?_lt (h : InLanes net j s) {v : Visitor} {n : Nat} (hv : v ∈ s.visitors)
    (hn : v.number? = some n) : n < s.connected :=
  List.mem_range.1 (h.numbers.mem_iff.1 (mem_numbers.2 ⟨v, hv, hn⟩))

/-- Nothing happens on a connection that has not been made. -/
theorem applyPeer_eq (h : InLanes net j s) {number : Nat} (hnumber : s.connected ≤ number)
    (e : Channel.Event) : s.apply (.peer number e) = s := by
  have hsame : ∀ v ∈ s.visitors, v.applyPeer number e = v := fun v hv =>
    v.applyPeer_of_ne (fun hn => Nat.not_lt_of_le hnumber (h.number?_lt hv hn)) e
  show { s with visitors := s.visitors.map (Visitor.applyPeer number e) } = s
  rw [List.map_congr_left hsame, List.map_id']

/-- What the target of a connection does is heard in one lane only, and never on a number yet to
    come. -/
theorem applyPeer (h : InLanes net j s) {number : Nat} (hnumber : number < s.connected)
    (e : Channel.Event) :
    InLanes net { j with heard := Session.hear number e j.heard } (s.apply (.peer number e)) where
  network_eq := h.network_eq
  lanes := List.forall₂_map_left_iff.2 (h.lanes.imp fun v g hv => hv.applyPeer number e)
  numbers := by
    show (Server.numbers (s.visitors.map _)).Perm _
    rw [numbers_map (Visitor.number?_applyPeer number e)]
    exact h.numbers
  unheard n hn := by
    have hother : n ≠ number := by rintro rfl; exact Nat.not_lt_of_le hn hnumber
    show Session.hear number e j.heard n = []
    rw [Session.hear, if_neg hother]
    exact h.unheard n hn

/-- Whatever others do, every session stays in its lane and the journal has what they did. -/
theorem change (h : InLanes net j s) (d : Deed) :
    InLanes net (j.note s.connected d) (s.change d) := by
  cases d with
  | start => exact h.of_sameSessions s.sameSessions_start
  | connect address room early => exact h.connect address room early
  | acceptFault f => exact h.of_sameSessions ⟨rfl, rfl, rfl, rfl⟩
  | shutdown => exact h.of_sameSessions ⟨rfl, rfl, rfl, rfl⟩
  | client number e =>
    exact h.modify (fun g => g.apply e) (fun v g hv => hv.applyClient e)
      (fun v => v.number?_applyClient e) number
  | peer number e =>
    -- A number that no connection has yet is heard by nobody, so the journal leaves it out.
    by_cases hnumber : number < s.connected
    · show InLanes net (if _ then _ else _) _
      rw [if_pos hnumber]
      exact h.applyPeer hnumber e
    · show InLanes net (if _ then _ else _) (s.apply (.peer number e))
      rw [if_neg hnumber, h.applyPeer_eq (Nat.le_of_not_lt hnumber) e]
      exact h
  | reorder number turn =>
    have hreorder := h.modify id (fun _ _ hv => Visitor.InLane.reorder hv turn)
      (Visitor.number?_reorder turn) number
    rw [List.modify_id] at hreorder
    exact ⟨hreorder.network_eq, hreorder.lanes, hreorder.numbers, hreorder.unheard⟩

/-- **No move** leads a session out of its lane. -/
theorem move (h : InLanes net j s) (m : Move) :
    InLanes net (m.deed?.elim j fun d => j.note s.connected d) (s.move m) := by
  cases m with
  | deed d => exact h.change d
  | tick span => exact ⟨h.network_eq, h.lanes, h.numbers, h.unheard⟩
  | attend => exact h.attend
  | act number a => exact h.act number a
  | check => exact h.of_sameSessions (sameSessions_checkDrained s)

/-- **Nothing leads a session out of its lane**, in whatever order things happen. -/
theorem through (h : InLanes net j s) (ms : List Move) :
    InLanes net (j.through s ms) (s.moves ms) := by
  induction ms generalizing s j with
  | nil => exact h
  | cons m ms ih => exact ih (h.move m)

/-- A server to which nobody has connected has no sessions. -/
theorem create (settings : Settings) (policy : AcceptPolicy) (net : Network) (turn : Turn) :
    InLanes net .blank (.create settings policy net turn) :=
  ⟨rfl, .nil, .refl _, fun _ _ => rfl⟩

/-! ### What it comes to -/

/-- **Every connection belongs to exactly one client.** -/
theorem existsUnique_number? (h : InLanes net j s) {n : Nat} (hn : n < s.connected) :
    ∃! i : Nat, ∃ v : Visitor, s.visitors[i]? = some v ∧ v.number? = some n := by
  obtain ⟨v, hv, hnumber⟩ := mem_numbers.1 (h.numbers.mem_iff.2 (List.mem_range.2 hn))
  obtain ⟨i, hi⟩ := List.mem_iff_getElem?.1 hv
  refine ⟨i, ⟨v, hi, hnumber⟩, ?_⟩
  rintro i' ⟨v', hi', hnumber'⟩
  exact eq_of_number? (h.numbers.nodup_iff.2 List.nodup_range) hi' hi hnumber' hnumber

/-- What a client has got and what its target has got is unmixed. -/
theorem unmixed (h : InLanes net j s) {i : Nat} {v : Visitor} (hi : s.visitors[i]? = some v) :
    ∃ g, j.clients[i]? = some g ∧
      Session.Unmixed net j.heard g.unread v.channel.written v.outbound? := by
  obtain ⟨g, hg, hlane⟩ := forall₂_getElem? h.lanes hi
  exact ⟨g, hg, hlane.unmixed⟩

end InLanes

end Server

end ForwardProxy
