import ForwardProxy.Proofs.Server.Run

namespace ForwardProxy.Server

/-!
# A server in rounds

A server goes through rounds.  In each of them others do what they like, all at the same instant,
and then the server does everything that it can.  The clock does not run past an instant that the
server waits for.

* `Server.Round`, `Server.round`, `Server.rounds` — a round, and any number of rounds.
* `Server.InTime`, `Server.Timely` — rounds that miss no instant.
* `Server.exists_rounds`, `Server.reaches_rounds` — a server that runs goes through rounds, and one
  that goes through rounds moves.
* `Server.offersFrom`, `Server.queue_changes` — what the listener offers.
-/

/-- What others do at an instant, one thing after the other. -/
structure Round where
  instant : Nat
  deeds : List Deed
  deriving DecidableEq, Repr

/-- A server after things that others do, before it does anything about them. -/
def changes (s : Server) (ds : List Deed) : Server := ds.foldl (fun s d => s.change d) s

/-- A server after a round. -/
def round (s : Server) (r : Round) : Server :=
  settle r.instant ({ s with now := r.instant }.changes r.deeds)

/-- A server after any number of rounds. -/
def rounds (s : Server) (rs : List Round) : Server := rs.foldl round s

/-- The clock comes to the round without running past an instant that the server waits for. -/
def InTime (s : Server) (r : Round) : Prop :=
  s.now ≤ r.instant ∧ ∀ d ∈ s.deadlines, s.now < d → r.instant ≤ d

/-- The clock comes to one round after the other. -/
def Timely (s : Server) : List Round → Prop
  | [] => True
  | r :: rs => s.InTime r ∧ (s.round r).Timely rs

instance (s : Server) (r : Round) : Decidable (s.InTime r) := inferInstanceAs (Decidable (_ ∧ _))

instance decidableTimely : (s : Server) → (rs : List Round) → Decidable (s.Timely rs)
  | _, [] => .isTrue trivial
  | s, r :: rs =>
    have := decidableTimely (s.round r) rs
    inferInstanceAs (Decidable (_ ∧ _))

variable {s : Server}

/-- Rounds one after the other make one course of rounds. -/
theorem rounds_append (s : Server) (rs rs' : List Round) :
    s.rounds (rs ++ rs') = (s.rounds rs).rounds rs' := List.foldl_append

/-- A course of rounds is in time exactly if each part of it is, the second from where the first has
    led. -/
theorem timely_append {rs rs' : List Round} :
    s.Timely (rs ++ rs') ↔ s.Timely rs ∧ (s.rounds rs).Timely rs' := by
  induction rs generalizing s with
  | nil => exact ⟨fun h => ⟨trivial, h⟩, fun h => h.2⟩
  | cons r rs ih =>
    show s.InTime r ∧ (s.round r).Timely (rs ++ rs') ↔
      (s.InTime r ∧ (s.round r).Timely rs) ∧ ((s.round r).rounds rs).Timely rs'
    rw [ih, and_assoc]

/-- What others do takes no time. -/
theorem now_changes (ds : List Deed) (s : Server) : (s.changes ds).now = s.now := by
  induction ds generalizing s with
  | nil => rfl
  | cons d ds ih => exact (ih (s.change d)).trans (now_change d s)

/-- In a round, the server attends to its listener, its sessions and its end, in this order. -/
theorem round_eq (s : Server) (r : Round) :
    s.round r = ({ s with now := r.instant }.changes r.deeds).attend.serve.checkDrained := by
  have hnow : ({ s with now := r.instant }.changes r.deeds).now = r.instant := now_changes r.deeds _
  unfold round
  generalize { s with now := r.instant }.changes r.deeds = changed at hnow ⊢
  rw [settle, ← hnow]

/-- After a round it is the instant of that round. -/
theorem now_round (s : Server) (r : Round) : (s.round r).now = r.instant := now_settle _ _

/-! ### A server that runs -/

/-- Timely rounds in which others do `deeds` lead from `s` to `s'`. -/
def Passes (s : Server) (deeds : List Deed) (s' : Server) : Prop :=
  ∃ rs, s.Timely rs ∧ s.rounds rs = s' ∧ rs.flatMap Round.deeds = deeds

theorem Passes.refl (s : Server) : s.Passes [] s := ⟨[], trivial, rfl, rfl⟩

/-- One round in time is a passage. -/
theorem Passes.one {r : Round} (h : s.InTime r) : s.Passes r.deeds (s.round r) :=
  ⟨[r], ⟨h, trivial⟩, rfl, List.append_nil _⟩

theorem Passes.trans {s' s'' : Server} {ds ds' : List Deed} (h : s.Passes ds s')
    (h' : s'.Passes ds' s'') : s.Passes (ds ++ ds') s'' := by
  obtain ⟨rs, ht, rfl, rfl⟩ := h
  obtain ⟨rs', ht', rfl, rfl⟩ := h'
  exact ⟨rs ++ rs', timely_append.2 ⟨ht, ht'⟩, s.rounds_append rs rs', List.flatMap_append⟩

/-- Whatever happens to a server that settles, it passes through rounds in time. -/
theorem passes_input (s : Server) (i : Input) : s.Passes i.deed?.toList (s.input i) := by
  cases i with
  | deed d => exact Passes.one (r := ⟨s.now, [d]⟩) ⟨Nat.le_refl _, fun _ _ hd => Nat.le_of_lt hd⟩
  | wait span =>
    have hwait : (s.wait span).now = s.now + span ∧ s.Passes [] (s.wait span) :=
      Clock.run_preserves_stopping (P := fun now s' => s'.now = now ∧ s.Passes [] s')
        (fun now t s' hle _ hnext hs => by
          obtain ⟨rfl, hpasses⟩ := hs
          exact ⟨now_settle t s', hpasses.trans (.one (r := ⟨t, []⟩) ⟨hle, hnext⟩)⟩)
        (Nat.le_add_right s.now span) ⟨rfl, .refl s⟩
    exact hwait.2

/-- **A server that runs** goes through timely rounds in which others do the same. -/
theorem exists_rounds (s : Server) (is : List Input) :
    ∃ rs, s.Timely rs ∧ s.rounds rs = s.run is ∧
      rs.flatMap Round.deeds = is.filterMap Input.deed? := by
  induction is generalizing s with
  | nil => exact Passes.refl s
  | cons i is ih =>
    have hrest : s.Passes (i.deed?.toList ++ is.filterMap Input.deed?) ((s.input i).run is) :=
      (passes_input s i).trans (ih (s.input i))
    cases i <;> exact hrest

/-- A server after some deeds is reached by moving. -/
theorem reaches_changes (ds : List Deed) (s : Server) : s.Reaches ds (s.changes ds) := by
  induction ds generalizing s with
  | nil => exact .refl s
  | cons d ds ih => exact (Reaches.one s (.deed d)).trans (ih (s.change d))

/-- A round is an order of moves. -/
theorem reaches_round {r : Round} (hle : s.now ≤ r.instant) : s.Reaches r.deeds (s.round r) := by
  have htick : s.Reaches [] { s with now := r.instant } := by
    have hone := Reaches.one s (.tick (r.instant - s.now))
    rwa [move, Nat.add_sub_cancel' hle] at hone
  exact (htick.trans (reaches_changes r.deeds _)).andThen
    (reaches_settle (Nat.le_of_eq (now_changes r.deeds _)))

/-- **A server that goes through rounds** moves in one of the orders that there are. -/
theorem reaches_rounds {rs : List Round} (ht : s.Timely rs) :
    s.Reaches (rs.flatMap Round.deeds) (s.rounds rs) := by
  induction rs generalizing s with
  | nil => exact .refl s
  | cons r rs ih => exact (reaches_round ht.1.1).trans (ih ht.2)

/-! ### The listener -/

/-- What the listener offers when others do something: clients, numbered from `n` on, and faults. -/
def offersFrom : Nat → List Deed → List Offer
  | _, [] => []
  | n, .connect _ _ _ :: ds => .client n :: offersFrom (n + 1) ds
  | n, .acceptFault f :: ds => .fault f :: offersFrom n ds
  | n, _ :: ds => offersFrom n ds

/-- How many clients connect when others do something. -/
def arrivals : List Deed → Nat
  | [] => 0
  | .connect _ _ _ :: ds => arrivals ds + 1
  | _ :: ds => arrivals ds

/-- What is offered by some deeds and then others: the clients of the second part are numbered on
    from the first. -/
theorem offersFrom_append (n : Nat) (ds ds' : List Deed) :
    offersFrom n (ds ++ ds') = offersFrom n ds ++ offersFrom (n + arrivals ds) ds' := by
  induction ds generalizing n with
  | nil => rfl
  | cons d ds ih =>
    cases d with
    | connect address room early =>
      show Offer.client n :: offersFrom (n + 1) (ds ++ ds') =
        Offer.client n :: (offersFrom (n + 1) ds ++ offersFrom (n + (arrivals ds + 1)) ds')
      rw [ih, Nat.add_assoc, Nat.add_comm 1]
    | acceptFault f => exact congrArg (Offer.fault f :: ·) (ih n)
    | _ => exact ih n

/-- Beginning to accept takes nothing from the queue. -/
theorem queue_listen (s : Server) : s.listen.queue = s.queue := by
  unfold listen
  split <;> rfl

/-- Starting a server takes nothing from the queue. -/
theorem queue_start (s : Server) : (s.apply .start).queue = s.queue := by
  show (if s.gate = .unopened then s.listen else s).queue = s.queue
  split
  · exact s.queue_listen
  · rfl

/-- **What the listener offers** waits behind what it has offered before, in order. -/
theorem queue_changes (ds : List Deed) (s : Server) :
    (s.changes ds).queue = s.queue ++ offersFrom s.visitors.length ds ∧
      (s.changes ds).visitors.length = s.visitors.length + arrivals ds := by
  induction ds generalizing s with
  | nil => exact ⟨(List.append_nil _).symm, rfl⟩
  | cons d ds ih =>
    obtain ⟨hqueue, hlength⟩ := ih (s.change d)
    -- Most deeds leave both the queue and the number of visitors.
    have hkeeps {n : Nat} (hq : (s.change d).queue = s.queue)
        (hl : (s.change d).visitors.length = n) :
        ((s.change d).changes ds).queue = s.queue ++ offersFrom n ds ∧
          ((s.change d).changes ds).visitors.length = n + arrivals ds := by
      rw [hqueue, hlength, hq, hl]
      exact ⟨rfl, rfl⟩
    cases d with
    | start =>
      exact hkeeps s.queue_start (congrArg List.length s.sameSessions_start.visitors_eq)
    | connect address room early =>
      have hlength' : (s.change (.connect address room early)).visitors.length =
          s.visitors.length + 1 := List.length_append
      rw [hlength'] at hqueue hlength
      refine ⟨hqueue.trans ?_, hlength.trans ?_⟩
      · show (s.queue ++ [.client s.visitors.length]) ++ _ = _
        rw [List.append_assoc]
        rfl
      · rw [arrivals]
        omega
    | acceptFault f =>
      refine ⟨hqueue.trans ?_, hlength⟩
      show (s.queue ++ [.fault f]) ++ offersFrom s.visitors.length ds = _
      rw [List.append_assoc]
      rfl
    | shutdown => exact hkeeps rfl rfl
    | client number e => exact hkeeps rfl (List.length_modify _ _ _)
    | peer number e => exact hkeeps rfl (List.length_map _)
    | reorder number turn => exact hkeeps rfl (List.length_modify _ _ _)

end ForwardProxy.Server
