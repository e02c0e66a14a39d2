import ForwardProxy.Proofs.Tunnel.Report
import ForwardProxy.Proofs.Tunnel.Rest

namespace ForwardProxy

/-!
# How a tunnel is torn down

The half that ends first shuts one stream and stops the other half, which shuts the other stream.
So no tunnel at rest is half open, whatever ended the first half and whatever the other one was
waiting for; and nothing is written to a stream that has been shut.

* `TunnelRun.Open`, `TunnelRun.Closed` — a tunnel that runs, and one that has returned.
* `TunnelRun.Goes`, `TunnelRun.move_cases` — what a move can do to a half and its streams.
* `TunnelRun.ShutByWriter` — a stream is shut by the half that wrote to it, once it has ended.
* `TunnelRun.Unwritten`, `TunnelRun.unwritten_of_shut` — moves that write nothing to a side.
* `TunnelRun.reaches_rest` — a tunnel can always come to rest.
* `TunnelRun.torn_down_whole` — that a tunnel is torn down as a whole or not at all.
-/

namespace TunnelRun

variable {r : TunnelRun} {side : Side}

/-- A tunnel has not returned, and neither of its streams has been shut. -/
structure Open (r : TunnelRun) : Prop where
  unfinished : r.tunnel.stats? = none
  opened : ∀ side, (r.on side).stream.channel.shut = false

/-- A tunnel has returned, and both its streams are shut. -/
structure Closed (r : TunnelRun) : Prop where
  finished : r.tunnel.stats?.isSome = true
  shut : ∀ side, (r.on side).stream.channel.shut = true

/-! ### What a move can do -/

/-- A half has become `h'`, and its streams have changed. -/
structure Goes (h h' : Half) (src src' dst dst' : Channel) : Prop where
  ended : h.hasEnded = true → h'.hasEnded = true
  src_shut : src'.shut = src.shut
  src_written : src'.written = src.written
  /-- A half shuts the stream that it writes to only when it has ended. -/
  dst_shut : dst'.shut = dst.shut ∨ h'.hasEnded = true ∧ dst'.shut = true
  /-- A half that has ended writes nothing. -/
  dst_written : h.hasEnded = true → dst'.written = dst.written

theorem Goes.refl (h : Half) (src dst : Channel) : Goes h h src src dst dst :=
  ⟨id, rfl, rfl, .inl rfl, fun _ => rfl⟩

/-- What one act of a half can do: it may write, and end. -/
theorem goes_act (now : Nat) (h : Half) (src dst : IdleStream Lookahead) :
    Goes h (h.act now src dst).1 src.stream.channel (h.act now src dst).2.1.stream.channel
      dst.stream.channel (h.act now src dst).2.2.stream.channel := by
  obtain ⟨taken, wrote, htook, hwrote⟩ := h.flows_act now src dst
  refine ⟨fun hended => ?_, htook.shut_eq, htook.written_eq, .inl hwrote.shut_eq, fun hended => ?_⟩
  · rw [Half.act_of_hasEnded hended]
    exact hended
  · rw [Half.act_of_hasEnded hended]

/-- **A move** is an event, or one half goes on in it. -/
theorem move_cases (r : TunnelRun) (m : Move) :
    (∃ e, m = .event e) ∨ ∃ side p, r.move m = r.put side p ∧
      Goes (r.half side) p.1 (r.on side).stream.channel p.2.1.stream.channel
        (r.on side.other).stream.channel p.2.2.stream.channel := by
  cases m with
  | act side => exact .inr ⟨side, _, rfl, goes_act r.now _ _ _⟩
  | stop side =>
    refine .inr ⟨side, if (r.half side.other).hasEnded then
      ((r.half side).stop, r.on side, r.on side.other)
      else (r.half side, r.on side, r.on side.other), ?_, ?_⟩
    · rw [move]
      split
      · rfl
      · rw [put_self]
    · split
      · exact ⟨fun _ => (r.half side).stop_spec.1, rfl, rfl, .inl rfl, fun _ => rfl⟩
      · exact .refl _ _ _
  | shut side =>
    refine .inr ⟨side, if (r.half side).hasEnded then
      (r.half side, r.on side, (r.on side.other).close)
      else (r.half side, r.on side, r.on side.other), ?_, ?_⟩
    · rw [move]
      split
      · rfl
      · rw [put_self]
    · split
      · rename_i hended
        exact ⟨id, rfl, rfl, .inr ⟨hended, rfl⟩, fun _ => rfl⟩
      · exact .refl _ _ _
  | event e => exact .inl ⟨e, rfl⟩

/-- Time goes by only in an event. -/
theorem now_move {m : Move} (hm : ∀ e, m ≠ .event e) : (r.move m).now = r.now := by
  rcases move_cases r m with ⟨e, rfl⟩ | ⟨side, p, hmove, -⟩
  · exact absurd rfl (hm e)
  · rw [hmove, now_put]

theorem half_happen (r : TunnelRun) (e : Event) (side : Side) :
    (r.happen e).half side = r.half side := by
  cases e with
  | stream s e => cases s <;> cases side <;> rfl
  | wait time => cases side <;> rfl
  | reorder turn => cases side <;> rfl

/-- What happens to a tunnel neither shuts a stream nor writes to one. -/
theorem on_happen (r : TunnelRun) (e : Event) (side : Side) :
    ((r.happen e).on side).stream.channel.shut = (r.on side).stream.channel.shut ∧
      ((r.happen e).on side).stream.channel.written = (r.on side).stream.channel.written := by
  cases e with
  | stream s e =>
    cases s <;> cases side
    · exact ⟨Lookahead.shut_apply e _, Lookahead.written_apply e _⟩
    · exact ⟨rfl, rfl⟩
    · exact ⟨rfl, rfl⟩
    · exact ⟨Lookahead.shut_apply e _, Lookahead.written_apply e _⟩
  | wait time => cases side <;> exact ⟨rfl, rfl⟩
  | reorder turn => cases side <;> exact ⟨rfl, rfl⟩

/-- A stream that is shut stays so. -/
theorem shut_move (hshut : (r.on side).stream.channel.shut = true) (m : Move) :
    ((r.move m).on side).stream.channel.shut = true := by
  rcases move_cases r m with ⟨e, rfl⟩ | ⟨s, p, hmove, hgoes⟩
  · rw [move, (on_happen r e side).1]
    exact hshut
  · rw [hmove]
    rcases s.eq_or_eq_other side with rfl | rfl
    · rw [on_put, hgoes.src_shut]
      exact hshut
    · rw [on_other_put]
      exact hgoes.dst_shut.elim (fun hsame => hsame.trans hshut) And.right

/-- Nothing but its own operations changes a half, unless it is stopped. -/
theorem half_move {m : Move} (hm : m ≠ .act side) :
    (r.move m).half side = r.half side ∨ (r.move m).half side = (r.half side).stop := by
  cases m with
  | act s =>
    rcases s.eq_or_eq_other side with rfl | rfl
    · exact absurd rfl hm
    · exact .inl half_other_put
  | stop s =>
    rw [move]
    split
    · rcases s.eq_or_eq_other side with rfl | rfl
      · exact .inr half_put
      · exact .inl half_other_put
    · exact .inl rfl
  | shut s =>
    rw [move]
    split
    · rcases s.eq_or_eq_other side with rfl | rfl
      · exact .inl half_put
      · exact .inl half_other_put
    · exact .inl rfl
  | event e => exact .inl (half_happen r e side)

/-- A half that runs after a move of something else is as it was. -/
theorem half_move_of_open {m : Move} (hm : m ≠ .act side)
    (hopen : ((r.move m).half side).hasEnded = false) : (r.move m).half side = r.half side := by
  refine (half_move hm).resolve_right fun hstop => ?_
  rw [hstop, (r.half side).stop_spec.1] at hopen
  cases hopen

/-- A half that has ended does not change any more. -/
theorem half_move_of_ended (hended : (r.half side).hasEnded = true) (m : Move) :
    (r.move m).half side = r.half side := by
  by_cases hm : m = .act side
  · rw [hm, move, half_put, Half.act_of_hasEnded hended]
  · rcases half_move hm with hsame | hstop
    · exact hsame
    · rw [hstop, Half.stop_of_hasEnded hended]

/-- Time does not go back in a move. -/
theorem now_le_move (r : TunnelRun) (m : Move) : r.now ≤ (r.move m).now := by
  rcases move_cases r m with ⟨e, rfl⟩ | ⟨side, p, hmove, -⟩
  · cases e with
    | stream side e => cases side <;> exact Nat.le_refl _
    | wait time => exact Nat.le_add_right r.now time
    | reorder turn => exact Nat.le_refl _
  · exact Nat.le_of_eq (by rw [hmove, now_put])

/-- Time does not go back in moves. -/
theorem now_le_moves (r : TunnelRun) (ms : List Move) : r.now ≤ (r.moves ms).now := by
  induction ms generalizing r with
  | nil => exact Nat.le_refl r.now
  | cons m ms ih => exact Nat.le_trans (r.now_le_move m) (ih (r.move m))

/-- A half that has ended stays so. -/
theorem hasEnded_move (hended : (r.half side).hasEnded = true) (m : Move) :
    ((r.move m).half side).hasEnded = true := by
  rw [half_move_of_ended hended]
  exact hended

/-! ### Streams that are shut -/

/-- A stream has been shut only if the half that wrote to it has ended. -/
def ShutByWriter (r : TunnelRun) : Prop :=
  ∀ side, (r.on side.other).stream.channel.shut = true → (r.half side).hasEnded = true

/-- After a move, a stream is shut only if the half that writes to it has ended. -/
theorem ShutByWriter.move (h : r.ShutByWriter) (m : Move) : (r.move m).ShutByWriter := by
  rcases move_cases r m with ⟨e, rfl⟩ | ⟨s, p, hmove, hgoes⟩
  · intro side hshut
    rw [TunnelRun.move, (on_happen r e side.other).1] at hshut
    rw [TunnelRun.move, half_happen]
    exact h side hshut
  · rw [hmove]
    refine Side.all s (fun hshut => ?_) fun hshut => ?_
    · rw [on_other_put] at hshut
      rw [half_put]
      rcases hgoes.dst_shut with hsame | ⟨hended, -⟩
      · exact hgoes.ended (h s (hsame.symm.trans hshut))
      · exact hended
    · rw [Side.other_other, on_put, hgoes.src_shut] at hshut
      rw [half_other_put]
      refine h s.other ?_
      rw [Side.other_other]
      exact hshut

/-- After any number of moves, a stream is shut only if the half that writes to it has ended. -/
theorem ShutByWriter.moves (h : r.ShutByWriter) (ms : List Move) : (r.moves ms).ShutByWriter := by
  induction ms generalizing r with
  | nil => exact h
  | cons m ms ih => exact ih (h.move m)

/-- The half that writes to a stream which was shut has ended. -/
theorem ShutByWriter.ended (h : r.ShutByWriter)
    (hshut : (r.on side).stream.channel.shut = true) :
    (r.half side.other).hasEnded = true := by
  refine h side.other ?_
  rw [Side.other_other]
  exact hshut

/-- Whether an operation is a write. -/
def Operation.isWrite (o : Operation) : Bool :=
  match o.tried with
  | .write _ => true
  | .read _ => false

/-- Nothing is written to a side in these moves, and no write is tried. -/
structure Unwritten (r : TunnelRun) (side : Side) (ms : List Move) : Prop where
  written_eq : ((r.moves ms).on side).stream.channel.written =
    (r.on side).stream.channel.written
  not_tried : ∀ o ∈ r.operations ms, o.side = side → o.isWrite = false

/-- Only the half that writes to a side tries to. -/
theorem not_isWrite_of_ended (hended : (r.half side.other).hasEnded = true) {m : Move}
    {o : Operation} (ho : o ∈ r.operation m) (hside : o.side = side) : o.isWrite = false := by
  cases m with
  | act s =>
    unfold operation Half.operation at ho
    dsimp only at ho
    split at ho
    · rw [List.mem_singleton.1 ho]
      rfl
    · rename_i left size hwriting
      split at ho
      · cases ho
      · -- A half that writes to the side has not ended.
        obtain rfl : s.other = side := by rw [← hside, List.mem_singleton.1 ho]
        rw [Side.other_other, Half.hasEnded, hwriting] at hended
        cases hended
    · cases ho
  | stop s => cases ho
  | shut s => cases ho
  | event e => cases ho

/-- Nothing more is written to a stream whose writer has ended. -/
theorem written_move (hended : (r.half side.other).hasEnded = true) (m : Move) :
    ((r.move m).on side).stream.channel.written = (r.on side).stream.channel.written := by
  rcases move_cases r m with ⟨e, rfl⟩ | ⟨s, p, hmove, hgoes⟩
  · exact (on_happen r e side).2
  · rw [hmove]
    rcases s.eq_or_eq_other side with rfl | rfl
    · rw [on_put, hgoes.src_written]
    · rw [Side.other_other] at hended
      rw [on_other_put, hgoes.dst_written hended]

/-- **Nothing is written to a stream** once the half that writes to it has ended. -/
theorem unwritten_of_ended (hended : (r.half side.other).hasEnded = true) (ms : List Move) :
    r.Unwritten side ms := by
  induction ms generalizing r with
  | nil => exact ⟨rfl, fun _ ho => absurd ho List.not_mem_nil⟩
  | cons m ms ih =>
    have hrest := ih (hasEnded_move hended m)
    refine ⟨hrest.written_eq.trans (written_move hended m), fun o ho hside => ?_⟩
    rcases List.mem_append.1 ho with ho | ho
    · exact not_isWrite_of_ended hended ho hside
    · exact hrest.not_tried o ho hside

/-! ### Tunnels at rest -/

/-- A tunnel that waits runs, and one that is torn down has returned. -/
theorem Resting.open_or_closed (h : r.Resting) (hs : r.ShutByWriter) :
    r.Open ∨ r.Closed := by
  rcases resting_iff.1 h with hwaits | hdone
  · have hopen side : (r.half side).hasEnded = false := (hwaits side).1.hasEnded_eq
    refine .inl ⟨?_, fun side => Bool.eq_false_iff.2 fun hshut => ?_⟩
    · have hup : r.tunnel.up.hasEnded = false := hopen .client
      rw [Tunnel.stats?, Tunnel.isOver, hup]
      rfl
    · have hended := hs.ended hshut
      rw [hopen side.other] at hended
      cases hended
  · refine .inr ⟨?_, fun side => (hdone side).2⟩
    have hover : r.tunnel.isOver = true :=
      Bool.and_eq_true_iff.2 ⟨(hdone .client).1, (hdone .target).1⟩
    rw [Tunnel.stats?, hover]
    rfl

/-- Replacing a half puts the stream that it writes to. -/
theorem on_put_other {p : Half × IdleStream Lookahead × IdleStream Lookahead} :
    (r.put side.other p).on side = p.2.2 := by cases side <;> rfl

/-- A tunnel one half of which has ended can be torn down at once. -/
theorem reaches_tornDown (hended : (r.half side).hasEnded = true) :
    ∃ r', r.Reaches (fun _ => []) r' ∧ r'.now = r.now ∧ r'.TornDown := by
  have hstop : ((r.move (.stop side.other)).half side.other).hasEnded = true := by
    rw [move, Side.other_other, if_pos hended, half_put]
    exact (r.half side.other).stop_spec.1
  have hstays := hasEnded_move hended (.stop side.other)
  generalize hr₁ : r.move (.stop side.other) = r₁ at hstop hstays
  -- Both halves have ended now; each shuts the stream that it was writing to.
  have hshut : ((r₁.move (.shut side)).on side.other).stream.channel.shut = true := by
    rw [move, if_pos hstays, on_other_put]
    rfl
  have hstop₂ := hasEnded_move hstop (.shut side)
  have hstays₂ := hasEnded_move hstays (.shut side)
  generalize hr₂ : r₁.move (.shut side) = r₂ at hshut hstop₂ hstays₂
  have hshut₃ : ((r₂.move (.shut side.other)).on side).stream.channel.shut = true := by
    rw [move, if_pos hstop₂, on_put_other]
    rfl
  refine ⟨r₂.move (.shut side.other), ⟨[.stop side.other, .shut side, .shut side.other], ?_, ?_⟩,
    ?_, ?_⟩
  · rw [moves, List.foldl_cons, hr₁, List.foldl_cons, hr₂]
    rfl
  · exact fun _ => rfl
  · have hnow₁ : r₁.now = r.now := hr₁ ▸ now_move fun _ h => by cases h
    have hnow₂ : r₂.now = r₁.now := hr₂ ▸ now_move fun _ h => by cases h
    have hnow₃ : (r₂.move (.shut side.other)).now = r₂.now := now_move fun _ h => by cases h
    rw [hnow₃, hnow₂, hnow₁]
  · exact Side.all side ⟨hasEnded_move hstays₂ _, hshut₃⟩
      ⟨hasEnded_move hstop₂ _, shut_move hshut _⟩

/-- **A tunnel can come to rest** at once, wherever its halves are. -/
theorem reaches_rest {span : Nat} (hw : r.Wound span) :
    ∃ r', r.Reaches (fun _ => []) r' ∧ r'.now = r.now ∧ r'.Resting := by
  by_cases hended : ∃ side, (r.half side).hasEnded = true
  · obtain ⟨side, hended⟩ := hended
    obtain ⟨r', hreaches, hnow, hdone⟩ := reaches_tornDown hended
    exact ⟨r', hreaches, hnow, hdone.resting⟩
  · refine ⟨settle r.now r, reaches_settle r, rfl, resting_settle hw fun hover => ?_⟩
    exact absurd ⟨.client, (Bool.and_eq_true_iff.1 hover).1⟩ hended

/-- The timers of a tunnel that has just begun were set by now. -/
theorem wound_opening (span begun : Nat) (turn : Turn) (ends : Ends) :
    (opening span begun turn ends).Wound span := by
  intro side
  refine ⟨begun, Nat.le_refl begun, ?_⟩
  cases side <;> rfl

/-- **A tunnel is torn down as a whole or not at all**, in whatever order its halves read and write,
    its streams change and time goes by.  At rest it runs and has shut neither stream, or it has
    returned and has shut both; and nothing is written to a stream that was shut.  It can come to
    rest at any time, and letting it settle is one way to do so. -/
theorem torn_down_whole (span begun : Nat) (turn : Turn) (ends : Ends)
    (hopen : ∀ side,
      ((opening span begun turn ends).on side).stream.channel.shut = false) :
    (∀ ms, ((opening span begun turn ends).moves ms).Resting →
      ((opening span begun turn ends).moves ms).Open ∨
        ((opening span begun turn ends).moves ms).Closed) ∧
    (∀ ms side, (((opening span begun turn ends).moves ms).on side).stream.channel.shut = true →
      ∀ ms', ((opening span begun turn ends).moves ms).Unwritten side ms') ∧
    (∀ ms, ∃ r', ((opening span begun turn ends).moves ms).Reaches (fun _ => []) r' ∧
      r'.now = ((opening span begun turn ends).moves ms).now ∧ r'.Resting) ∧
    ∀ es, ((settle begun (opening span begun turn ends)).run es).Resting ∧
      ∃ ms, (opening span begun turn ends).moves ms =
          (settle begun (opening span begun turn ends)).run es ∧
        ∀ side, ms.flatMap (Move.sent side) = es.flatMap (Event.sent side) := by
  have hwound := wound_opening span begun turn ends
  have hshut : (opening span begun turn ends).ShutByWriter := fun side hshut => by
    rw [hopen side.other] at hshut
    cases hshut
  refine ⟨fun ms hrests => hrests.open_or_closed (hshut.moves ms), fun ms side hside => ?_,
    fun ms => reaches_rest (hwound.moves ms), fun es => ⟨?_, ?_⟩⟩
  · exact unwritten_of_ended ((hshut.moves ms).ended hside)
  · have hsettled : (settle begun (opening span begun turn ends)).Resting :=
      resting_settle (r := opening span begun turn ends) hwound nofun
    exact (resting_run hsettled (hwound.settle (Nat.le_refl begun)) es).1
  · have hsettle := reaches_settle (opening span begun turn ends)
    exact hsettle.trans (reaches_run (settle begun (opening span begun turn ends)) es)

/-- The target of a tunnel goes away while two of three octets for it have no room: the half that
    waits for room is stopped, and both streams are shut. -/
theorem torn_down_whole_of_target_end :
    let r := opening (Duration.ofMillis 100) 0 ⟨true, true⟩
      ⟨.ofChannel (.idle none), .ofChannel (.idle (some 1))⟩
    let es := [Event.stream .client (.send (ascii "abc")), .stream .target .finish]
    (((settle 0 r).run es).on .target).stream.channel.written = ascii "a" ∧
      ((settle 0 r).run es).Closed := by
  intro r es
  have hopen side : (r.on side).stream.channel.shut = false := by cases side <;> rfl
  obtain ⟨hwhole, -, -, hrun⟩ := torn_down_whole (Duration.ofMillis 100) 0 ⟨true, true⟩
    ⟨.ofChannel (.idle none), .ofChannel (.idle (some 1))⟩ hopen
  obtain ⟨hrests, ms, hms, -⟩ := hrun es
  refine ⟨by decide +kernel, ?_⟩
  have hover : ((settle 0 r).run es).tunnel.stats? ≠ none := by decide +kernel
  rw [← hms] at hrests hover ⊢
  exact (hwhole ms hrests).resolve_left fun hruns => hover hruns.unfinished

end TunnelRun

end ForwardProxy
