import ForwardProxy.Proofs.Tunnel.Passage
import ForwardProxy.Proofs.Tunnel.Teardown
import ForwardProxy.Session.Progress

namespace ForwardProxy.Session

/-!
# The acts of a session

A session is a task of its own, and so is each half of its tunnel: between two things that they do,
anything may happen.  Here they do one thing at a time.  Letting a session settle is to let it do
one after the other.

* `Session.Act`, `Session.act` — what a session can do next.
* `Session.relay_eq_foldl` — a tunnel that settles is carried by one move after the other.
* `Session.number?`, `Session.number?_act`, `Session.number?_dial` — only a dial makes a connection.
-/

/-- What a session can do next.  What is not possible in its phase leaves it as it is. -/
inductive Act where
  | peek
  | readHead
  | negotiate
  | dial
  | tell
  /-- The tunnel makes a move of its own. -/
  | carry (move : TunnelRun.Move)
  /-- The session ends as its tunnel has ended. -/
  | conclude
  deriving DecidableEq, Repr

/-- The session with its tunnel at another place. -/
def carried (protocol : Protocol) (target : Text) (o : Outbound) (r : TunnelRun) (s : Session) :
    Session :=
  { s with
    client := r.ends.client
    outbound := some { o with stream := r.ends.target }
    phase := .relaying protocol target r.tunnel }

/-- Lets the tunnel make one move. -/
def carry (now : Nat) (m : TunnelRun.Move) (s : Session) : Session :=
  match s.phase, s.outbound with
  | .relaying protocol target tunnel, some o =>
    if m.isOwn then
      s.carried protocol target o (TunnelRun.move ⟨now, tunnel, ⟨s.client, o.stream⟩⟩ m)
    else s
  | _, _ => s

/-- Ends the session if its tunnel has ended. -/
def concludeOver (s : Session) : Session :=
  match s.phase, s.outbound with
  | .relaying protocol target tunnel, some _ =>
    match tunnel.stats? with
    | none => s
    | some stats => s.conclude protocol target stats
  | _, _ => s

/-- A session that does one thing; a connection that it makes gets the number `next`. -/
def act (net : Network) (next now : Nat) (s : Session) : Act → Session
  | .peek => s.peek now
  | .readHead => s.readHead net now
  | .negotiate => s.negotiate net now
  | .dial => s.dial next now
  | .tell => s.tell now
  | .carry m => s.carry now m
  | .conclude => s.concludeOver

/-! ### A tunnel that settles -/

section Carrying

variable {protocol : Protocol} {target : Text} {o : Outbound} {r : TunnelRun} {s : Session}

/-- Carrying a tunnel by one of its own moves puts it where the move leads. -/
theorem carry_carried {m : TunnelRun.Move} (hown : m.isOwn = true) :
    (s.carried protocol target o r).carry r.now m = s.carried protocol target o (r.move m) :=
  if_pos hown

/-- Moves that take no time carry a tunnel one after the other. -/
theorem foldl_carry_carried {ms : List TunnelRun.Move} (hown : ∀ m ∈ ms, m.isOwn = true)
    (hnow : (r.moves ms).now = r.now) :
    ms.foldl (fun s m => s.carry r.now m) (s.carried protocol target o r) =
      s.carried protocol target o (r.moves ms) := by
  induction ms generalizing r with
  | nil => rfl
  | cons m ms ih =>
    have hmove := r.now_le_move m
    have hmoves := (r.move m).now_le_moves ms
    have hstill : (r.move m).now = r.now := Nat.le_antisymm (hnow ▸ hmoves) hmove
    rw [List.foldl_cons, carry_carried (hown m List.mem_cons_self), ← hstill]
    exact ih (fun m' hm' => hown m' (List.mem_cons_of_mem m hm')) (hnow.trans hstill.symm)

/-- The moves by which a tunnel settles are its own. -/
theorem isOwn_of_sent {ms : List TunnelRun.Move}
    (hsent : ∀ side, ms.flatMap (TunnelRun.Move.sent side) = []) : ∀ m ∈ ms, m.isOwn = true := by
  intro m hm
  cases m with
  | event e =>
    cases e with
    | stream side e =>
      have hnone := List.flatMap_eq_nil_iff.1 (hsent side) _ hm
      simp [TunnelRun.Move.sent, TunnelRun.Event.sent] at hnone
    | _ => rfl
  | _ => rfl

/-- A tunnel that relays all it can is carried by a row of moves, and its session ends if the tunnel
    has. -/
theorem relay_carried (protocol : Protocol) (target : Text) (o : Outbound) (r : TunnelRun)
    (s : Session) :
    ∃ ms : List TunnelRun.Move, (s.carried protocol target o r).relay r.now =
      (ms.foldl (fun s m => s.carry r.now m) (s.carried protocol target o r)).concludeOver := by
  obtain ⟨ms, hms, hsent⟩ := r.reaches_settle
  have hnow : (r.moves ms).now = r.now := by rw [hms]; rfl
  refine ⟨ms, ?_⟩
  rw [foldl_carry_carried (isOwn_of_sent hsent) hnow, hms]
  rfl

/-- **A tunnel that settles** makes one move after the other, and its session ends with it. -/
theorem relay_eq_foldl (now : Nat) (s : Session) :
    ∃ ms : List TunnelRun.Move,
      s.relay now = (ms.foldl (fun s m => s.carry now m) s).concludeOver := by
  cases hphase : s.phase with
  | relaying protocol target tunnel =>
    cases houtbound : s.outbound with
    | none => exact ⟨[], by rw [relay, List.foldl_nil, concludeOver, hphase, houtbound]⟩
    | some o =>
      have hs : s.carried protocol target o ⟨now, tunnel, ⟨s.client, o.stream⟩⟩ = s := by
        rw [carried, ← hphase, ← houtbound]
      have hrelay := s.relay_carried protocol target o ⟨now, tunnel, ⟨s.client, o.stream⟩⟩
      rwa [hs] at hrelay
  | _ => exact ⟨[], by rw [relay, List.foldl_nil, concludeOver, hphase]⟩

end Carrying

/-! ### Numbers -/

section Numbers

variable {net : Network}

/-- The number of the connection of a session. -/
def number? (s : Session) : Option Nat := s.outbound.map Outbound.number

/-- Ending leaves a session the connection that it has. -/
theorem number?_finish (failure : Option SessionFailure) (s : Session) :
    (s.finish failure).number? = s.number? := by
  unfold number? finish
  cases s.outbound <;> rfl

/-- Failing leaves a session the connection that it has. -/
theorem number?_fail (protocol : Protocol) (failure : SessionFailure) (s : Session) :
    (s.fail protocol failure).number? = s.number? := by
  unfold fail
  split <;> exact number?_finish _ _

/-- Refusing leaves a session the connection that it has. -/
theorem number?_refuse (failure : Failure) (s : Session) :
    (s.refuse failure).number? = s.number? := by
  unfold refuse
  split
  · rfl
  · exact number?_fail _ _ _

/-- Finding out the protocol makes no connection. -/
theorem number?_peek (now : Nat) (s : Session) : (s.peek now).number? = s.number? := by
  unfold peek
  split
  · split
    · rfl
    · exact number?_finish _ _
    · exact number?_finish _ _
    · split
      · exact number?_finish _ _
      · rfl
  · rfl

/-- Reading a request head makes no connection. -/
theorem number?_readHead (now : Nat) (s : Session) : (s.readHead net now).number? = s.number? := by
  unfold readHead
  split
  · split
    · rfl
    · exact number?_refuse _ _
    · split
      · exact number?_refuse _ _
      · rfl
  · rfl

/-- Negotiating makes no connection. -/
theorem number?_negotiate (now : Nat) (s : Session) :
    (s.negotiate net now).number? = s.number? := by
  unfold negotiate
  split
  · split
    · split <;> rfl
    · exact number?_fail _ _ _
    · split
      · exact number?_fail _ _ _
      · rfl
  · rfl

/-- Answering makes no connection. -/
theorem number?_tell (now : Nat) (s : Session) : (s.tell now).number? = s.number? := by
  unfold tell
  split
  · split
    · exact number?_fail _ _ _
    · rfl
    · exact number?_fail _ _ _
  · split
    · rfl
    · exact number?_fail _ _ _
  · split
    · rfl
    · rfl
    · exact number?_fail _ _ _
  · split
    · rfl
    · rfl
    · exact number?_fail _ _ _
  · rfl

/-- A session ends as its tunnel has ended, with the connection that it has. -/
theorem number?_conclude (protocol : Protocol) (target : Text) (stats : TunnelStats) (s : Session) :
    (s.conclude protocol target stats).number? = s.number? := by
  unfold conclude
  split
  · exact number?_finish _ _
  · exact number?_finish _ _
  · exact number?_fail _ _ _

/-- Relaying makes no connection. -/
theorem number?_relay (now : Nat) (s : Session) : (s.relay now).number? = s.number? := by
  unfold relay
  split
  · rename_i protocol target tunnel outbound hphase houtbound
    have hsame : s.number? = some outbound.number := by rw [number?, houtbound, Option.map_some]
    rw [hsame]
    dsimp only
    split
    · rfl
    · exact number?_conclude _ _ _ _
  · rfl

/-- No move of the tunnel makes a connection. -/
theorem number?_carry (now : Nat) (m : TunnelRun.Move) (s : Session) :
    (s.carry now m).number? = s.number? := by
  unfold carry
  split
  · rename_i protocol target tunnel o _ houtbound
    split
    · rw [number?, number?, houtbound]
      rfl
    · rfl
  · rfl

/-- A session that ends if its tunnel has keeps its connection. -/
theorem number?_concludeOver (s : Session) : s.concludeOver.number? = s.number? := by
  unfold concludeOver
  split
  · split
    · rfl
    · exact number?_conclude _ _ _ _
  · rfl

/-- No session makes a connection but by dialling. -/
theorem number?_act {a : Act} (ha : a ≠ .dial) (next now : Nat) (s : Session) :
    (s.act net next now a).number? = s.number? := by
  cases a with
  | peek => exact number?_peek now s
  | readHead => exact number?_readHead now s
  | negotiate => exact number?_negotiate now s
  | dial => exact absurd rfl ha
  | tell => exact number?_tell now s
  | carry m => exact number?_carry now m s
  | conclude => exact number?_concludeOver s

/-- A dial makes one connection at most. -/
theorem number?_dial (next now : Nat) (s : Session) :
    (s.dial next now).number? = s.number? ∨
      ((∃ protocol d, s.phase = .dialling protocol d) ∧ (s.dial next now).number? = some next) := by
  unfold Session.dial
  split
  · rename_i protocol d hphase
    split
    · exact .inl rfl
    · -- Once the target is reached the connection is there, whether or not the client can be told
      -- its address.
      refine .inr ⟨⟨protocol, d, hphase⟩, ?_⟩
      unfold announce
      split
      · rfl
      · split
        · rfl
        · exact number?_fail _ _ _
    · split
      · exact .inl (number?_refuse _ _)
      · exact .inl rfl
  · exact .inl rfl

end Numbers

end ForwardProxy.Session
