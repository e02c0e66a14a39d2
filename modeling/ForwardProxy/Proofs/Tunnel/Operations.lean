import ForwardProxy.Proofs.Tunnel.Interleaving

namespace ForwardProxy

/-!
# The operations of a tunnel

What a tunnel does to its streams is a row of reads and writes.  Each of them comes to something on
the stream itself, and the timer of the stream makes of it what the half gets to see: a fault that
the stream has raised, or one that says for how long no operation was completed on it.

* `TunnelRun.Operation`, `TunnelRun.operations` — the reads and writes of a tunnel that moves, and
  what each came to on the stream itself.
* `TunnelRun.LastDone` — when an operation was last completed on a stream.
* `TunnelRun.Starved` — an operation that waits on a stream on which none was completed for long.
* `TunnelRun.Dated`, `TunnelRun.Dated.observe` — what the timer of a stream tells.
* `TunnelRun.explained_of_observe` — what an operation fails with.
-/

namespace TunnelRun

/-- What was tried on a stream and came to what there, whatever the timer makes of it. -/
inductive Tried where
  | read (result : Attempt Bytes)
  | write (result : Attempt Nat)
  deriving Repr

/-- A read or a write. -/
structure Operation where
  instant : Nat
  /-- The side on whose stream it was tried. -/
  side : Side
  tried : Tried
  deriving Repr

namespace Operation

/-- Whether an operation was not yet possible. -/
def isPending (o : Operation) : Bool :=
  match o.tried with
  | .read .blocked => true
  | .write .blocked => true
  | _ => false

/-- The fault that the stream raised. -/
def fault? (o : Operation) : Option Fault :=
  match o.tried with
  | .read (.failed f) => some f
  | .write (.failed f) => some f
  | _ => none

/-- Whether a read met the end of the stream. -/
def metEnd (o : Operation) : Bool :=
  match o.tried with
  | .read (.ready []) => true
  | _ => false

end Operation

end TunnelRun

open TunnelRun

/-- The operation that a half does next, reading the stream of `side`. -/
def Half.operation (now : Nat) (side : Side) (h : Half) (src dst : Lookahead) : List Operation :=
  match h.state with
  | .reading => [⟨now, side, .read (src.read chunkSize).1⟩]
  | .writing left _ =>
    if left.isEmpty then [] else [⟨now, side.other, .write (dst.write left).1⟩]
  | .ended _ => []

namespace TunnelRun

/-- The operation that a move does, if it does any. -/
def operation (r : TunnelRun) : Move → List Operation
  | .act side =>
    (r.half side).operation r.now side (r.on side).stream (r.on side.other).stream
  | _ => []

/-- The operations that moves do, in order. -/
def operations (r : TunnelRun) : List Move → List Operation
  | [] => []
  | m :: ms => r.operation m ++ operations (r.move m) ms

/-- The last operation completed on a side was at `last`, or none was and `last` is when the tunnel
    began. -/
structure LastDone (begun last : Nat) (side : Side) (ops : List Operation) : Prop where
  begun_le : begun ≤ last
  done : last = begun ∨ ∃ o ∈ ops, o.side = side ∧ o.isPending = false ∧ o.instant = last
  le_last : ∀ o ∈ ops, o.side = side → o.isPending = false → o.instant ≤ last

/-- An operation was tried and not possible on a stream, at an instant not before the one that is
    due for the last operation completed on this stream. -/
def Starved (begun : Nat) (due : Nat → Nat) (ops : List Operation) : Prop :=
  ∃ earlier o later last, ops = earlier ++ o :: later ∧ o.isPending = true ∧
    LastDone begun last o.side earlier ∧ due last ≤ o.instant

namespace LastDone

variable {begun last : Nat} {side : Side} {ops : List Operation} {o : Operation}

/-- Before anything was tried, the last instant is that of the beginning. -/
theorem nil (begun : Nat) (side : Side) : LastDone begun begun side [] :=
  ⟨Nat.le_refl _, .inl rfl, fun _ ho => absurd ho List.not_mem_nil⟩

/-- An operation is completed on the side. -/
theorem done_now (h : LastDone begun last side ops) (hside : o.side = side)
    (hdone : o.isPending = false) (hle : last ≤ o.instant) :
    LastDone begun o.instant side (ops ++ [o]) := by
  refine ⟨Nat.le_trans h.begun_le hle, .inr ⟨o, ?_, hside, hdone, rfl⟩, fun o' ho' hs hd => ?_⟩
  · exact List.mem_append_right _ List.mem_cons_self
  · rcases List.mem_append.1 ho' with ho' | ho'
    · exact Nat.le_trans (h.le_last o' ho' hs hd) hle
    · exact Nat.le_of_eq (congrArg Operation.instant (List.mem_singleton.1 ho'))

/-- No operation is completed on the side. -/
theorem rests (h : LastDone begun last side ops) {more : List Operation}
    (hmore : ∀ o ∈ more, o.side = side → o.isPending = true) :
    LastDone begun last side (ops ++ more) := by
  refine ⟨h.begun_le, h.done.imp_right ?_, fun o' ho' hs hd => ?_⟩
  · rintro ⟨o', ho', hrest⟩
    exact ⟨o', List.mem_append_left _ ho', hrest⟩
  · rcases List.mem_append.1 ho' with ho' | ho'
    · exact h.le_last o' ho' hs hd
    · rw [hmore o' ho' hs] at hd
      cases hd

end LastDone

/-- A stream that has starved has done so, whatever is tried later. -/
theorem Starved.append {begun : Nat} {due : Nat → Nat} {ops : List Operation}
    (h : Starved begun due ops) (more : List Operation) : Starved begun due (ops ++ more) := by
  obtain ⟨earlier, o, later, last, rfl, hrest⟩ := h
  exact ⟨earlier, o, later ++ more, last, by rw [List.append_assoc]; rfl, hrest⟩

/-! ### What a timer makes of them -/

/-- A fault is one of a stream, or comes from a timer that has rightly run out. -/
def Explained (span begun : Nat) (ops : List Operation) (f : Fault) : Prop :=
  (∃ o ∈ ops, o.fault? = some f) ∨
    (f = .idle span ∧ Starved begun (fun last => Time.deadline last span) ops)

/-- A fault that is explained stays so, whatever is tried later. -/
theorem Explained.append {span begun : Nat} {ops : List Operation} {f : Fault}
    (h : Explained span begun ops f) (more : List Operation) :
    Explained span begun (ops ++ more) f := by
  rcases h with ⟨o, ho, hf⟩ | ⟨hf, hstarved⟩
  · exact .inl ⟨o, List.mem_append_left _ ho, hf⟩
  · exact .inr ⟨hf, hstarved.append more⟩

/-- A timer that was set when an operation was last completed on its side. -/
def Dated (span begun now : Nat) (side : Side) (ops : List Operation) (t : IdleTimer) : Prop :=
  ∃ last, LastDone begun last side ops ∧ last ≤ now ∧ t = .start span last

/-- An operation was tried at `now` on the stream of a side, and came to `a` there. -/
structure Operation.CameTo {α : Type} (now : Nat) (side : Side) (a : Attempt α) (o : Operation) :
    Prop where
  instant_eq : o.instant = now
  side_eq : o.side = side
  isPending_iff : o.isPending = true ↔ a = .blocked
  fault?_iff : ∀ f, o.fault? = some f ↔ a = .failed f

/-- A read comes to what its stream answers. -/
theorem Operation.cameTo_read (now : Nat) (side : Side) (a : Attempt Bytes) :
    CameTo now side a ⟨now, side, .read a⟩ := by
  refine ⟨rfl, rfl, ?_, fun f => ?_⟩ <;> cases a <;> simp [isPending, fault?]

/-- A write comes to what its stream answers. -/
theorem Operation.cameTo_write (now : Nat) (side : Side) (a : Attempt Nat) :
    CameTo now side a ⟨now, side, .write a⟩ := by
  refine ⟨rfl, rfl, ?_, fun f => ?_⟩ <;> cases a <;> simp [isPending, fault?]

section

variable {α : Type} {span begun now n : Nat} {side : Side} {ops : List Operation} {t : IdleTimer}
  {a : Attempt α} {o : Operation} {s : IdleStream Lookahead} {bs : Bytes} {f : Fault}

/-- The timer of a stream is set anew when an operation on it is completed. -/
theorem Dated.observe (hd : Dated span begun now side ops t) (ho : o.CameTo now side a) :
    Dated span begun now side (ops ++ [o]) (t.observe now a).2 := by
  obtain ⟨last, hlast, hle, rfl⟩ := hd
  have hdone (hne : a ≠ .blocked) : LastDone begun now side (ops ++ [o]) := by
    have hcompleted : o.isPending = false :=
      Bool.eq_false_iff.2 fun hpending => hne (ho.isPending_iff.1 hpending)
    have hnow := hlast.done_now ho.side_eq hcompleted (by rw [ho.instant_eq]; exact hle)
    rw [ho.instant_eq] at hnow
    exact hnow
  cases a with
  | ready x => exact ⟨now, hdone nofun, Nat.le_refl _, rfl⟩
  | failed f => exact ⟨now, hdone nofun, Nat.le_refl _, rfl⟩
  | blocked =>
    refine ⟨last, hlast.rests fun o' ho' _ => ?_, hle, rfl⟩
    rw [List.mem_singleton.1 ho']
    exact ho.isPending_iff.2 rfl

/-- A timer keeps the date of what was done last when its stream is read. -/
theorem Dated.read (hd : Dated span begun now side ops s.timer) (n : Nat) :
    Dated span begun now side (ops ++ [⟨now, side, .read (s.stream.read n).1⟩])
      (s.read now n).2.timer := hd.observe (Operation.cameTo_read now side _)

/-- A timer keeps the date of what was done last when its stream is written to. -/
theorem Dated.write (hd : Dated span begun now side ops s.timer) (bs : Bytes) :
    Dated span begun now side (ops ++ [⟨now, side, .write (s.stream.write bs).1⟩])
      (s.write now bs).2.timer := hd.observe (Operation.cameTo_write now side _)

/-- A timer keeps its date while the other side is tried. -/
theorem Dated.rests (hd : Dated span begun now side ops t) {more : List Operation}
    (hmore : ∀ o ∈ more, o.side ≠ side) : Dated span begun now side (ops ++ more) t := by
  obtain ⟨last, hlast, hle, ht⟩ := hd
  exact ⟨last, hlast.rests fun o ho hs => absurd hs (hmore o ho), hle, ht⟩

/-- A timer keeps its date while nothing is tried. -/
theorem Dated.still (hd : Dated span begun now side ops t) :
    Dated span begun now side (ops ++ []) t := hd.rests fun _ ho => absurd ho List.not_mem_nil

/-- A timer keeps its date while time goes by. -/
theorem Dated.later (hd : Dated span begun now side ops t) {now' : Nat} (hle : now ≤ now') :
    Dated span begun now' side ops t := by
  obtain ⟨last, hlast, hle', ht⟩ := hd
  exact ⟨last, hlast, Nat.le_trans hle' hle, ht⟩

/-- **What an operation fails with** is the fault that the stream has raised, or says that nothing
    was completed on this stream for too long. -/
theorem explained_of_observe (hd : Dated span begun now side ops t) (ho : o.CameTo now side a)
    (hf : (t.observe now a).1 = .failed f) : Explained span begun (ops ++ [o]) f := by
  obtain ⟨last, hlast, -, rfl⟩ := hd
  cases a with
  | ready x => cases hf
  | failed f' =>
    cases hf
    exact .inl ⟨o, List.mem_append_right _ List.mem_cons_self, (ho.fault?_iff f).2 rfl⟩
  | blocked =>
    have hdue : Time.deadline last span ≤ now := IdleTimer.lapsed_of_expire hf
    have hfault : (IdleTimer.start span last).expire now = (.failed (.idle span) : Attempt α) :=
      if_pos hdue
    refine .inr ⟨Attempt.failed.inj (hf.symm.trans hfault), ops, o, [], last, rfl,
      ho.isPending_iff.2 rfl, ?_, ?_⟩
    · rw [ho.side_eq]
      exact hlast
    · rw [ho.instant_eq]
      exact hdue

/-- A read that fails is explained by a fault of its stream or by silence. -/
theorem explained_of_read (hd : Dated span begun now side ops s.timer)
    (hf : (s.read now n).1 = .failed f) :
    Explained span begun (ops ++ [⟨now, side, .read (s.stream.read n).1⟩]) f :=
  explained_of_observe hd (Operation.cameTo_read now side _) hf

/-- A write that fails is explained by a fault of its stream or by silence. -/
theorem explained_of_write (hd : Dated span begun now side ops s.timer)
    (hf : (s.write now bs).1 = .failed f) :
    Explained span begun (ops ++ [⟨now, side, .write (s.stream.write bs).1⟩]) f :=
  explained_of_observe hd (Operation.cameTo_write now side _) hf

/-- A read under a timer ends a stream only if the stream itself has ended. -/
theorem eq_ready_of_read (h : (s.read now n).1 = .ready bs) : (s.stream.read n).1 = .ready bs := by
  rw [IdleStream.read_eq] at h
  generalize (s.stream.read n).1 = a at h ⊢
  cases a with
  | ready bs' => exact h
  | failed f => cases h
  | blocked =>
    dsimp only [IdleTimer.observe, IdleTimer.expire] at h
    split at h <;> cases h

end

end TunnelRun

end ForwardProxy
