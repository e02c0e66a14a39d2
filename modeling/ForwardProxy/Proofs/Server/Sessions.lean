import ForwardProxy.Proofs.Server.Lanes
import ForwardProxy.Proofs.Server.Rounds
import ForwardProxy.Proofs.Server.Views
import ForwardProxy.Proofs.Session.Alone

namespace ForwardProxy.Server

/-!
# The sessions of a server

All that a server does for a session is to begin it, to look after it, and to number the connection
that it makes.

* `Server.session?`, `Server.session?_settle`, `Server.session?_change` — what becomes of the session
  of a client.
* `Server.AllFit`, `Server.AllSteady`, `Server.steady_run` — in every run, all sessions rest when the
  server has settled.
* `Server.Bears`, `Server.Bears.run` — a session keeps the number of its connection.
-/

variable {net : Network} {s : Server} {now t n number : Nat} {x : Session} {vs : List Visitor}

/-- The session of the client with a number, if it has been accepted. -/
def session? (number : Nat) (s : Server) : Option Session :=
  s.visitors[number]?.bind Visitor.session?

/-! ### What a server does -/

/-- The session of a client that settles is its session, settled. -/
theorem session?_settleVisitor (net : Network) (next now : Nat) (v : Visitor) :
    (settleVisitor net next now v).session? = v.session?.map fun x => x.settle net next now := by
  obtain ⟨address, visit⟩ := v
  cases visit <;> rfl

/-- Each session settles, with the number that is the next one by then. -/
theorem getElem?_settleVisitors (net : Network) (now next i : Nat) (vs : List Visitor) :
    ∃ next', (settleVisitors net now next vs).2[i]? =
      vs[i]?.map (settleVisitor net next' now) := by
  induction vs generalizing next i with
  | nil => exact ⟨0, rfl⟩
  | cons v vs ih =>
    cases i with
    | zero => exact ⟨next, rfl⟩
    | succ i => exact ih _ i

/-- Every client that has settled was there before. -/
theorem mem_settleVisitors {v : Visitor} {next : Nat}
    (hv : v ∈ (settleVisitors net now next vs).2) :
    ∃ v₀ ∈ vs, ∃ next', v = settleVisitor net next' now v₀ := by
  obtain ⟨i, hi⟩ := List.mem_iff_getElem?.1 hv
  obtain ⟨next', hnext⟩ := getElem?_settleVisitors net now next i vs
  rw [hnext] at hi
  obtain ⟨v₀, hv₀, rfl⟩ := Option.map_eq_some_iff.1 hi
  exact ⟨v₀, List.mem_of_getElem? hv₀, next', rfl⟩

/-- Visitors with whom nothing changes when they settle make no connection. -/
theorem settleVisitors_of_still (h : ∀ v ∈ vs, ∀ next, settleVisitor net next now v = v)
    (next : Nat) : settleVisitors net now next vs = (next, vs) := by
  induction vs generalizing next with
  | nil => rfl
  | cons v vs ih =>
    have hrest := ih (fun v hv => h v (List.mem_cons_of_mem _ hv)) next
    rw [settleVisitors, h v List.mem_cons_self next]
    dsimp only
    rw [Nat.sub_self, Nat.add_zero, hrest]

/-- A client after a change of one of them was there before, or is the one that was changed. -/
theorem mem_modify {f : Visitor → Visitor} {v : Visitor} (hv : v ∈ vs.modify n f) :
    v ∈ vs ∨ ∃ v₀ ∈ vs, v = f v₀ := by
  obtain ⟨i, hi⟩ := List.mem_iff_getElem?.1 hv
  rw [List.getElem?_modify] at hi
  obtain ⟨v₀, hv₀, rfl⟩ := Option.map_eq_some_iff.1 hi
  split
  · exact .inr ⟨v₀, List.mem_of_getElem? hv₀, rfl⟩
  · exact .inl (List.mem_of_getElem? hv₀)

/-- A session has been accepted for good. -/
theorem session?_welcome {v : Visitor} (hv : v.session? = some x) (settings : Settings) (turn : Turn)
    (now : Nat) : welcome settings turn now v = v := by
  obtain ⟨address, visit⟩ := v
  cases visit with
  | waiting channel => cases hv
  | served session => rfl

/-- Attending to the listener leaves a session that has begun as it is. -/
theorem session?_attend (hx : s.session? number = some x) : s.attend.session? number = some x := by
  refine attend_preserves (P := fun s => s.session? number = some x) ?_ ?_ hx
  · intro s s' hsame hx
    rw [session?, hsame.visitors_eq]
    exact hx
  · intro s n hx
    obtain ⟨v, hv, hvx⟩ := Option.bind_eq_some_iff.1 hx
    rw [session?, List.getElem?_modify, hv]
    show (if n = number then _ else v).session? = _
    rw [session?_welcome hvx]
    split <;> exact hvx

/-- The network is the same whatever the listener offers. -/
theorem network_attend (s : Server) : s.attend.network = s.network :=
  attend_preserves (P := fun s' => s'.network = s.network)
    (fun _ _ hsame h => hsame.network_eq.trans h) (fun _ _ h => h) rfl

/-- Attending to the listener takes no time. -/
theorem now_attend (s : Server) : s.attend.now = s.now :=
  attend_preserves (P := fun s' => s'.now = s.now) (fun _ _ hsame h => hsame.now_eq.trans h)
    (fun _ _ h => h) rfl

/-- The network is the same after a server has settled. -/
theorem network_settle (t : Nat) (s : Server) : (s.settle t).network = s.network :=
  (sameSessions_checkDrained _).network_eq.trans (network_attend { s with now := t })

/-- **A session settles** when its server does. -/
theorem session?_settle (hx : s.session? number = some x) (t : Nat) :
    ∃ next, (s.settle t).session? number = some (x.settle s.network next t) := by
  let later : Server := { s with now := t }
  have hattend : later.attend.session? number = some x := session?_attend (s := later) hx
  -- The number that the session would give to a connection depends on the clients before it.
  obtain ⟨next, hnext⟩ := getElem?_settleVisitors later.attend.network later.attend.now
    later.attend.connected number later.attend.visitors
  refine ⟨next, ?_⟩
  obtain ⟨v, hv, hvx⟩ := Option.bind_eq_some_iff.1 hattend
  have hserve : later.attend.serve.session? number = some (x.settle s.network next t) := by
    show ((settleVisitors _ _ _ _).2[number]?).bind _ = _
    rw [hnext, hv, Option.map_some, Option.bind_some, session?_settleVisitor, hvx, network_attend,
      now_attend]
    rfl
  rw [← hserve]
  show later.attend.serve.checkDrained.session? number = _
  rw [session?, (sameSessions_checkDrained _).visitors_eq]
  rfl

/-- A server waits for whatever one of its sessions waits for. -/
theorem mem_deadlines (hx : s.session? number = some x) {d : Nat} (hd : d ∈ x.deadlines) :
    d ∈ s.deadlines := by
  obtain ⟨v, hv, hvx⟩ := Option.bind_eq_some_iff.1 hx
  refine List.mem_append_right _ (List.mem_flatMap.2 ⟨x, ?_, hd⟩)
  exact List.mem_filterMap.2 ⟨v, List.mem_of_getElem? hv, hvx⟩

/-! ### What others do -/

/-- Whether a client connects. -/
def Deed.connects : Deed → Bool
  | .connect _ _ _ => true
  | _ => false

/-- What others do to the session of the client with a number. -/
def meet (number : Nat) (d : Deed) (x : Session) : Session :=
  match d with
  | .client n e => if n = number then x.applyClient e else x
  | .peer n e => x.applyPeer n e
  | .reorder n turn => if n = number then x.reorder turn else x
  | _ => x

/-- What others do to the clients that there are. -/
def tellVisitors (d : Deed) (vs : List Visitor) : List Visitor :=
  match d with
  | .client n e => vs.modify n (Visitor.applyClient e)
  | .peer n e => vs.map (Visitor.applyPeer n e)
  | .reorder n turn => vs.modify n (Visitor.reorder turn)
  | _ => vs

/-- What others do to a server they do to its clients; one more may come. -/
theorem visitors_change (d : Deed) (s : Server) :
    (s.change d).visitors = tellVisitors d s.visitors ∨
      d.connects = true ∧
        ∃ v : Visitor, v.session? = none ∧ (s.change d).visitors = s.visitors ++ [v] := by
  cases d with
  | start => exact .inl s.sameSessions_start.visitors_eq
  | connect address room early => exact .inr ⟨rfl, _, rfl, rfl⟩
  | _ => exact .inl rfl

/-- Nothing that others do changes the network. -/
theorem network_change (d : Deed) (s : Server) : (s.change d).network = s.network := by
  cases d with
  | start => exact s.sameSessions_start.network_eq
  | _ => rfl

/-- What a client does, its session hears. -/
theorem session?_applyClient (e : Channel.Event) (v : Visitor) :
    (v.applyClient e).session? = v.session?.map (Session.applyClient e) := by
  obtain ⟨address, visit⟩ := v
  cases visit <;> rfl

/-- What a target does, the session hears that has the connection. -/
theorem session?_applyPeer (n : Nat) (e : Channel.Event) (v : Visitor) :
    (v.applyPeer n e).session? = v.session?.map (Session.applyPeer n e) := by
  obtain ⟨address, visit⟩ := v
  cases visit <;> rfl

/-- The order of the halves is that of the tunnel of the session. -/
theorem session?_reorder (turn : Turn) (v : Visitor) :
    (v.reorder turn).session? = v.session?.map (Session.reorder turn) := by
  obtain ⟨address, visit⟩ := v
  cases visit <;> rfl

/-- A change of one client is one of its session. -/
theorem session?_modify {f : Visitor → Visitor} {f' : Session → Session}
    (hf : ∀ v, (f v).session? = v.session?.map f') (hx : s.session? number = some x) (n : Nat) :
    ((s.visitors.modify n f)[number]?).bind Visitor.session? =
      some (if n = number then f' x else x) := by
  obtain ⟨v, hv, hvx⟩ := Option.bind_eq_some_iff.1 hx
  rw [List.getElem?_modify, hv]
  show (if n = number then f v else v).session? = _
  split
  · rw [hf, hvx]
    rfl
  · exact hvx

/-- **What others do to a server** they do to each session. -/
theorem session?_change (hx : s.session? number = some x) (d : Deed) :
    (s.change d).session? number = some (meet number d x) := by
  have hkept {s' : Server} (hsame : s'.visitors = s.visitors) : s'.session? number = some x := by
    rw [session?, hsame]
    exact hx
  cases d with
  | start => exact hkept s.sameSessions_start.visitors_eq
  | connect address room early =>
    obtain ⟨v, hv, hvx⟩ := Option.bind_eq_some_iff.1 hx
    have hlt := (List.getElem?_eq_some_iff.1 hv).1
    show (((s.visitors ++ [_])[number]?).bind Visitor.session?) = _
    rw [List.getElem?_append_left hlt, hv]
    exact hvx
  | acceptFault fault => exact hkept rfl
  | shutdown => exact hkept rfl
  | client n e => exact session?_modify (session?_applyClient e) hx n
  | peer n e =>
    obtain ⟨v, hv, hvx⟩ := Option.bind_eq_some_iff.1 hx
    show (((s.visitors.map _)[number]?).bind Visitor.session?) = _
    rw [List.getElem?_map, hv]
    show (v.applyPeer n e).session? = _
    rw [session?_applyPeer, hvx]
    rfl
  | reorder n turn => exact session?_modify (session?_reorder turn) hx n

/-- What nothing takes from a session that may happen on its streams, or to the order of its halves,
    others do not take from it. -/
theorem meet_preserves {P : Session → Prop} (hclient : ∀ e, P x → P (x.applyClient e))
    (hpeer : ∀ n e, P x → P (x.applyPeer n e)) (hreorder : ∀ turn, P x → P (x.reorder turn))
    (h : P x) (number : Nat) (d : Deed) : P (meet number d x) := by
  unfold meet
  split
  · split
    · exact hclient _ h
    · exact h
  · exact hpeer _ _ h
  · split
    · exact hreorder _ h
    · exact h
  · exact h

/-- Whatever a session hears of others leaves it fit. -/
theorem fit_meet (h : x.Fit net now) (number : Nat) (d : Deed) : (meet number d x).Fit net now :=
  meet_preserves (fun e h => h.applyClient e) (fun n e h => h.applyPeer n e)
    (fun turn h => h.reorder turn) h number d

/-! ### Sessions at rest -/

/-- The sessions of some clients, whatever they still have to do. -/
def AllFit (net : Network) (now : Nat) (vs : List Visitor) : Prop :=
  ∀ v ∈ vs, ∀ x ∈ v.session?, x.Fit net now

/-- The sessions of some clients, none of which has anything to do. -/
def AllSteady (net : Network) (now : Nat) (vs : List Visitor) : Prop :=
  ∀ v ∈ vs, ∀ x ∈ v.session?, x.Steady net now

/-- Sessions at rest are fit. -/
theorem AllSteady.allFit (h : AllSteady net now vs) : AllFit net now vs :=
  fun v hv x hx => (h v hv x hx).toFit

/-- A change of a client that keeps its session fit, told of the session alone. -/
theorem AllFit.map_of {f : Visitor → Visitor} {f' : Session → Session}
    (hf : ∀ v, (f v).session? = v.session?.map f')
    (hfit : ∀ x : Session, x.Fit net now → (f' x).Fit net now) {v : Visitor}
    (hv : ∀ x ∈ v.session?, x.Fit net now) : ∀ x ∈ (f v).session?, x.Fit net now := by
  intro x hx
  rw [hf] at hx
  obtain ⟨x₀, hx₀, rfl⟩ := Option.map_eq_some_iff.1 hx
  exact hfit x₀ (hv x₀ hx₀)

/-- Sessions stay fit when one of them is changed into a fit one. -/
theorem AllFit.modify {f : Visitor → Visitor}
    (hf : ∀ v : Visitor, (∀ x ∈ v.session?, x.Fit net now) → ∀ x ∈ (f v).session?, x.Fit net now)
    (h : AllFit net now vs) (n : Nat) : AllFit net now (vs.modify n f) := by
  intro v hv
  rcases mem_modify hv with hmem | ⟨v₀, hv₀, rfl⟩
  · exact h v hmem
  · exact hf v₀ (h v₀ hv₀)

/-- Sessions stay fit whatever others do. -/
theorem AllFit.tellVisitors (h : AllFit net now vs) (d : Deed) :
    AllFit net now (tellVisitors d vs) := by
  cases d with
  | client n e =>
    exact h.modify (fun _ => map_of (session?_applyClient e) fun _ hx => hx.applyClient e) n
  | peer n e =>
    intro v hv
    obtain ⟨v₀, hv₀, rfl⟩ := List.mem_map.1 hv
    exact map_of (session?_applyPeer n e) (fun _ hx => hx.applyPeer n e) (h v₀ hv₀)
  | reorder n turn =>
    exact h.modify (fun _ => map_of (session?_reorder turn) fun _ hx => hx.reorder turn) n
  | _ => exact h

/-- What settles is at rest. -/
theorem AllFit.settle (h : AllFit net now vs) (hle : now ≤ t) (next : Nat) :
    AllSteady net t (settleVisitors net t next vs).2 := by
  intro v hv x hx
  obtain ⟨v₀, hv₀, next', rfl⟩ := mem_settleVisitors hv
  rw [session?_settleVisitor] at hx
  obtain ⟨x₀, hx₀, rfl⟩ := Option.map_eq_some_iff.1 hx
  exact (h v₀ hv₀ x₀ hx₀).settle hle next'

/-- What is at rest does not settle again before one of its deadlines has come. -/
theorem AllSteady.settle_eq (h : AllSteady net now vs)
    (hahead : ∀ d ∈ (vs.filterMap Visitor.session?).flatMap Session.deadlines, now < d → t < d)
    (next : Nat) : settleVisitors net t next vs = (next, vs) := by
  refine settleVisitors_of_still (fun v hv next => ?_) next
  have hsteady := h v hv
  have hmem x (hx : x ∈ v.session?) : x ∈ vs.filterMap Visitor.session? :=
    List.mem_filterMap.2 ⟨v, hv, hx⟩
  obtain ⟨address, visit⟩ := v
  cases visit with
  | waiting channel => rfl
  | served x =>
    have hstays := (hsteady x rfl).settle_eq
      (fun d hd => hahead d (List.mem_flatMap.2 ⟨x, hmem x rfl, hd⟩)) next
    show (⟨address, .served (x.settle net next t)⟩ : Visitor) = _
    rw [hstays]

/-- A session that begins is fit, and nothing else happens when a server attends to its
    listener. -/
theorem allFit_attend (h : AllFit s.network s.now s.visitors) :
    AllFit s.network s.now s.attend.visitors := by
  have hattend : s.attend.now = s.now ∧ AllFit s.network s.now s.attend.visitors := by
    refine attend_preserves (P := fun s' => s'.now = s.now ∧ AllFit s.network s.now s'.visitors)
      ?_ ?_ ⟨rfl, h⟩
    · rintro s₁ s₂ hsame ⟨hnow, hfit⟩
      rw [hsame.now_eq, hsame.visitors_eq]
      exact ⟨hnow, hfit⟩
    · rintro s₁ n ⟨hnow, hfit⟩
      refine ⟨hnow, hfit.modify (fun v hv x hx => ?_) n⟩
      obtain ⟨address, visit⟩ := v
      cases visit with
      | served session => exact hv x hx
      | waiting channel =>
        cases hx
        rw [← hnow]
        exact Session.fit_start s.network s₁.settings address .detecting s₁.turn s₁.now channel
  exact hattend.2

/-- A server whose sessions are fit comes to rest when it settles, now or later. -/
theorem allSteady_settle (h : AllFit s.network now s.visitors) (hle : now ≤ t) :
    AllSteady (s.settle t).network t (s.settle t).visitors := by
  let later : Server := { s with now := t }
  have hlater : AllFit later.network later.now later.visitors := fun v hv x hx => by
    obtain ⟨haccounted, hwound⟩ := h v hv x hx
    exact ⟨haccounted, hwound.later hle⟩
  have hattend := allFit_attend hlater
  have hserve : AllSteady s.network t later.attend.serve.visitors := by
    have hsettle := hattend.settle (Nat.le_refl _) later.attend.connected
    rw [← network_attend later, ← now_attend later] at hsettle
    rw [show s.network = later.attend.network from (network_attend later).symm,
      show t = later.attend.now from (now_attend later).symm]
    exact hsettle
  rw [network_settle]
  show AllSteady _ t later.attend.serve.checkDrained.visitors
  rw [(sameSessions_checkDrained _).visitors_eq]
  exact hserve

/-- Sessions stay fit whatever others do to the server. -/
theorem allFit_change (h : AllFit s.network now s.visitors) (d : Deed) :
    AllFit (s.change d).network now (s.change d).visitors := by
  rw [network_change]
  rcases visitors_change d s with htold | ⟨-, v, hnone, hmore⟩
  · rw [htold]
    exact h.tellVisitors d
  · rw [hmore]
    intro v' hv' x hx
    rcases List.mem_append.1 hv' with hmem | hnew
    · exact h v' hmem x hx
    · obtain rfl := List.mem_singleton.1 hnew
      rw [hnone] at hx
      cases hx

/-- **In every run**, all sessions rest when the server has settled. -/
theorem steady_run (h : AllSteady s.network s.now s.visitors) (is : List Input) :
    AllSteady (s.run is).network (s.run is).now (s.run is).visitors := by
  -- Every input ends with settling, after which all sessions rest again.
  induction is generalizing s with
  | nil => exact h
  | cons i is ih =>
    refine ih ?_
    cases i with
    | deed d =>
      have hsettle := allSteady_settle (allFit_change h.allFit d) (Nat.le_refl s.now)
      rw [show (s.input (.deed d)).now = s.now from now_settle s.now (s.change d)]
      exact hsettle
    | wait span =>
      have hwait : AllSteady (s.wait span).network (s.now + span) (s.wait span).visitors :=
        Clock.run_preserves (P := fun now (s : Server) => AllSteady s.network now s.visitors)
          (fun _ _ _ hle h => allSteady_settle h.allFit hle) (Nat.le_add_right s.now span) h
      rw [show (s.input (.wait span)).now = s.now + span from now_wait s span]
      exact hwait

/-! ### Numbers -/

/-- The session of a client has a connection with a number. -/
def Bears (number n : Nat) (s : Server) : Prop :=
  ∃ x, s.session? number = some x ∧ x.Accounted s.network ∧ x.number? = some n

/-- A session that has a connection keeps its number when the server settles. -/
theorem Bears.settle (h : s.Bears number n) (t : Nat) : (s.settle t).Bears number n := by
  obtain ⟨x, hx, haccounted, hn⟩ := h
  obtain ⟨next, hsettle⟩ := session?_settle hx t
  refine ⟨_, hsettle, ?_, haccounted.number?_settle hn next t⟩
  rw [network_settle]
  exact haccounted.settle next t

/-- What a session hears of others makes no connection. -/
theorem number?_meet (number : Nat) (d : Deed) (x : Session) :
    (meet number d x).number? = x.number? :=
  meet_preserves (P := fun y => y.number? = x.number?) (fun _ h => h)
    (fun n e _ => Visitor.number?_applyPeer n e ⟨x.peer, .served x⟩) (fun _ h => h) rfl number d

/-- What a session hears of others leaves accounted for what it holds. -/
theorem accounted_meet (h : x.Accounted net) (number : Nat) (d : Deed) :
    (meet number d x).Accounted net :=
  meet_preserves (fun e h => h.applyClient e) (fun n e h => h.applyPeer n e)
    (fun turn h => h.reorder turn) h number d

/-- A session that has a connection keeps its number whatever others do. -/
theorem Bears.change (h : s.Bears number n) (d : Deed) : (s.change d).Bears number n := by
  obtain ⟨x, hx, haccounted, hn⟩ := h
  refine ⟨_, session?_change hx d, ?_, (number?_meet number d x).trans hn⟩
  rw [network_change]
  exact accounted_meet haccounted number d

/-- **A session keeps the number** of its connection in every run. -/
theorem Bears.run (h : s.Bears number n) (is : List Input) : (s.run is).Bears number n :=
  run_preserves (P := Bears number n) (fun t _ h => h.settle t) (fun d _ h => h.change d) h is

end ForwardProxy.Server
