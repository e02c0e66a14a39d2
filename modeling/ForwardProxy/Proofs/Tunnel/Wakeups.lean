import ForwardProxy.Proofs.Tunnel.Teardown

namespace ForwardProxy

/-!
# Halves that sleep

A half whose operation is not yet possible sleeps until it is woken: by its stream, by the half
across, or by an alarm.  Each stream has an alarm for reads and one for writes.  They are set
lazily: an alarm is moved to the idle deadline only when an operation has to wait, so it may go off
for a deadline that was put off since.  The half then tries again and sets the alarm anew.

* `TunnelRun.Alarmed` — a tunnel with its four alarms and its sleeping halves.
* `TunnelRun.Alarmed.Settled` — nothing happens by itself any more.
* `TunnelRun.Alarmed.current_moves`, `TunnelRun.Alarmed.current_moves_waking` — its tunnel moves as
  one without alarms, and may move in every way in which such a one may.
* `TunnelRun.Alarmed.Vigilant`, `TunnelRun.Alarmed.Vigilant.moves` — no alarm goes off too late.
-/

namespace TunnelRun

variable {r : TunnelRun} {side : Side} {span : Nat}

/-! ### Timers -/

/-- A timer is left as it is or set anew. -/
theorem timer_move (r : TunnelRun) (m : Move) (side : Side) :
    ((r.move m).on side).timer = (r.on side).timer ∨
      ((r.move m).on side).timer = (r.on side).timer.touch r.now := by
  cases m with
  | act s =>
    -- Timers are set by reads and writes only, and then to now.
    obtain ⟨hsrc, hdst⟩ := (r.half s).pushed_act r.now (r.on s) (r.on s.other)
    rcases s.eq_or_eq_other side with rfl | rfl
    · rw [move, on_put]
      exact hsrc.timer
    · rw [move, on_other_put]
      exact hdst.timer
  | stop s =>
    left
    rw [move]
    split
    · cases s <;> cases side <;> rfl
    · rfl
  | shut s =>
    left
    rw [move]
    split
    · cases s <;> cases side <;> rfl
    · rfl
  | event e =>
    left
    cases e with
    | stream s e => cases s <;> cases side <;> rfl
    | wait time => cases side <;> rfl
    | reorder turn => cases side <;> rfl

/-- As long as the clock reaches far enough, no deadline is brought forward. -/
theorem deadline_le_move (hw : r.Wound span) (hclock : r.now + span < Time.horizon) (m : Move)
    (side : Side) : (r.on side).timer.deadline ≤ ((r.move m).on side).timer.deadline := by
  rcases timer_move r m side with ht | ht
  · exact Nat.le_of_eq (by rw [ht])
  · have hle := (hw side).deadline_le hclock
    have htouch : ((r.on side).timer.touch r.now).deadline = r.now + span := by
      rw [IdleTimer.touch, (hw side).span_eq]
      exact Time.deadline_of_lt hclock
    rw [ht, htouch]
    exact hle

/-! ### Alarms -/

/-- What an alarm of a stream is for. -/
inductive Way where
  | reading
  | writing
  deriving DecidableEq, Repr

/-- A tunnel whose halves sleep while they have to wait. -/
structure Alarmed where
  current : TunnelRun
  /-- When the alarm of a side goes off, the one for reads or the one for writes. -/
  alarm : Side → Way → Nat
  /-- Whether the half that reads a side is going to try its operation. -/
  awake : Side → Bool

namespace Alarmed

/-- A tunnel that has begun: its halves are about to try, and its alarms are set for the first
    deadlines. -/
def opening (span begun : Nat) (turn : Turn) (ends : Ends) : Alarmed where
  current := .opening span begun turn ends
  alarm _ _ := Time.deadline begun span
  awake _ := true

/-- The side and the way of the operation that a half does next, if it reads `side`. -/
def waitsOn (a : Alarmed) (side : Side) : Side × Way :=
  match (a.current.half side).state with
  | .writing _ _ => (side.other, .writing)
  | _ => (side, .reading)

/-- When the alarm goes off that a half sets while it waits. -/
def alarmOf (a : Alarmed) (side : Side) : Nat := a.alarm (a.waitsOn side).1 (a.waitsOn side).2

/-- A half falls asleep: it sets its alarm for the idle deadline of the stream that it waits for. -/
def rest (a : Alarmed) (side : Side) : Alarmed where
  current := a.current
  alarm s way :=
    if (s, way) = a.waitsOn side then (a.current.on s).timer.deadline else a.alarm s way
  awake s := if s = side then false else a.awake s

/-- A half that is awake tries its operation, and falls asleep if it has to wait. -/
def attempt (a : Alarmed) (side : Side) : Alarmed :=
  if a.awake side then
    if a.current.move (.act side) = a.current then a.rest side
    else { a with current := a.current.move (.act side) }
  else a

/-- One move of a tunnel whose halves sleep. -/
inductive Move where
  | plain (move : TunnelRun.Move)
  /-- The half that reads a side is woken, by whatever it is. -/
  | wake (side : Side)
  deriving DecidableEq, Repr

def move (a : Alarmed) : Move → Alarmed
  | .plain (.act side) => a.attempt side
  | .plain m => { a with current := a.current.move m }
  | .wake side => { a with awake := fun s => if s = side then true else a.awake s }

/-- Any number of moves, in any order. -/
def moves (a : Alarmed) (ms : List Move) : Alarmed := ms.foldl move a

/-- What a side does in a move. -/
def Move.sent (side : Side) : Move → List Channel.Event
  | .plain m => m.sent side
  | .wake _ => []

/-- Nothing happens by itself any more: no half is awake, no alarm has gone off, no stream is ready,
    no half is to be stopped and no stream to be shut. -/
structure Settled (a : Alarmed) : Prop where
  asleep : ∀ side, (a.current.half side).hasEnded = false →
    a.awake side = false ∧ a.current.now < a.alarmOf side
  blocked : ∀ side, (a.current.half side).hasEnded = false →
    (a.current.half side).Blocked (a.current.on side).stream (a.current.on side.other).stream
  stopped : ∀ side, a.current.move (.stop side) = a.current
  shut : ∀ side, a.current.move (.shut side) = a.current

variable {a : Alarmed}

/-! ### The tunnel without its alarms -/

/-- An attempt of a half that is awake is an act of it. -/
theorem current_attempt (h : a.awake side = true) :
    (a.attempt side).current = a.current.move (.act side) := by
  unfold attempt
  rw [if_pos h]
  split
  · rename_i hsame
    exact hsame.symm
  · rfl

/-- A move of the tunnel is one of a tunnel without alarms, or none. -/
theorem current_move (a : Alarmed) (m : Move) :
    (∃ m', m = .plain m' ∧ (a.move m).current = a.current.move m') ∨
      (a.move m).current = a.current := by
  cases m with
  | plain m =>
    cases m with
    | act side =>
      cases hawake : a.awake side with
      | true => exact .inl ⟨_, rfl, current_attempt hawake⟩
      | false =>
        have hsame : a.move (.plain (.act side)) = a :=
          if_neg (by rw [hawake]; exact Bool.false_ne_true)
        exact .inr (congrArg current hsame)
    | stop side => exact .inl ⟨_, rfl, rfl⟩
    | shut side => exact .inl ⟨_, rfl, rfl⟩
    | event e => exact .inl ⟨_, rfl, rfl⟩
  | wake side => exact .inr rfl

/-- **What the tunnel does** is what one without alarms may do as well. -/
theorem current_moves (a : Alarmed) (ms : List Move) :
    ∃ ms', (a.moves ms).current = a.current.moves ms' := by
  induction ms generalizing a with
  | nil => exact ⟨[], rfl⟩
  | cons m ms ih =>
    obtain ⟨ms', hms'⟩ := ih (a.move m)
    rcases current_move a m with ⟨m', -, hm⟩ | hm
    · exact ⟨m' :: ms', hms'.trans (by rw [hm]; rfl)⟩
    · exact ⟨ms', hms'.trans (by rw [hm])⟩

/-- A half is woken before it does anything. -/
def Move.waking (m : TunnelRun.Move) : List Move :=
  match m with
  | .act side => [.wake side, .plain (.act side)]
  | m => [.plain m]

/-- **Whatever a tunnel without alarms does**, this one may do as well. -/
theorem current_moves_waking (a : Alarmed) (ms : List TunnelRun.Move) :
    (a.moves (ms.flatMap Move.waking)).current = a.current.moves ms := by
  induction ms generalizing a with
  | nil => rfl
  | cons m ms ih =>
    rw [List.flatMap_cons, moves, List.foldl_append]
    refine (ih _).trans ?_
    cases m with
    | act side =>
      have hawake : (a.move (.wake side)).awake side = true := if_pos rfl
      exact congrArg (TunnelRun.moves · ms) (current_attempt hawake)
    | stop side => rfl
    | shut side => rfl
    | event e => rfl

/-- Waking the halves before their moves sends nothing more. -/
theorem sent_waking (side : Side) (m : TunnelRun.Move) :
    (Move.waking m).flatMap (Move.sent side) = m.sent side := by
  cases m <;> exact List.append_nil _

/-! ### No alarm is too late -/

/-- The stream that a half waits for is that of the side it waits on. -/
theorem awaited_eq (a : Alarmed) (side : Side) :
    (a.current.half side).awaited (a.current.on side) (a.current.on side.other) =
      a.current.on (a.waitsOn side).1 := by
  unfold Half.awaited waitsOn
  cases (a.current.half side).state <;> rfl

/-- What a half waits on is told by the half. -/
theorem waitsOn_congr {b : Alarmed} (h : b.current.half side = a.current.half side) :
    b.waitsOn side = a.waitsOn side := by
  rw [waitsOn, h, waitsOn]

/-- The two halves never wait on one alarm. -/
theorem waitsOn_ne_other (a : Alarmed) (side : Side) : a.waitsOn side ≠ a.waitsOn side.other := by
  intro h
  unfold waitsOn at h
  cases side <;> split at h <;> split at h <;> cases h

/-- No half sleeps for longer than its stream may be idle. -/
def Vigilant (a : Alarmed) : Prop :=
  ∀ side, (a.current.half side).hasEnded = false → a.awake side = false →
    a.alarmOf side ≤ (a.current.on (a.waitsOn side).1).timer.deadline

/-- A half that falls asleep sets its own alarm and not that of the other half. -/
theorem Vigilant.rest (h : a.Vigilant) (side : Side) : (a.rest side).Vigilant := by
  intro s hopen hasleep
  rcases side.eq_or_eq_other s with rfl | rfl
  · exact Nat.le_of_eq (if_pos rfl)
  · have hawake : (a.rest side).awake side.other = a.awake side.other := if_neg side.other_ne
    have halarm : (a.rest side).alarmOf side.other = a.alarmOf side.other :=
      if_neg (waitsOn_ne_other a side).symm
    rw [halarm]
    exact h side.other hopen (hawake.symm.trans hasleep)

/-- A half that sleeps on is as it was, and so is its alarm. -/
theorem Vigilant.plain (h : a.Vigilant) {m : TunnelRun.Move}
    (hawake : ∀ side, a.awake side = false → m ≠ .act side)
    (hlater : ∀ side, (a.current.on side).timer.deadline ≤
      ((a.current.move m).on side).timer.deadline) :
    Vigilant { a with current := a.current.move m } := by
  intro side hopen hasleep
  have hhalf : (a.current.move m).half side = a.current.half side :=
    half_move_of_open (hawake side hasleep) hopen
  have hwaits := waitsOn_congr (a := a) (b := { a with current := a.current.move m }) hhalf
  have halarm := h side (by rw [← hhalf]; exact hopen) hasleep
  rw [alarmOf, hwaits]
  exact Nat.le_trans halarm (hlater _)

/-- **No alarm is too late** after a move that brings no deadline forward. -/
theorem Vigilant.move (h : a.Vigilant) (m : Move)
    (hlater : ∀ side, (a.current.on side).timer.deadline ≤
      ((a.move m).current.on side).timer.deadline) : (a.move m).Vigilant := by
  cases m with
  | wake side =>
    intro s hopen hasleep
    refine h s hopen ?_
    by_cases hs : s = side
    · simp [Alarmed.move, hs] at hasleep
    · simpa [Alarmed.move, hs] using hasleep
  | plain m =>
    cases m with
    | act side =>
      show (a.attempt side).Vigilant
      have hlater' : ∀ s, (a.current.on s).timer.deadline ≤
        ((a.attempt side).current.on s).timer.deadline := hlater
      unfold attempt at hlater' ⊢
      split
      · rename_i hawake
        rw [if_pos hawake] at hlater'
        split
        · exact h.rest side
        · rename_i hmoves
          rw [if_neg hmoves] at hlater'
          refine h.plain (fun s hasleep => ?_) hlater'
          -- The half that moves is awake, so the one that sleeps is the other one.
          rintro ⟨⟩
          rw [hawake] at hasleep
          cases hasleep
      · exact h
    | stop side => exact h.plain (fun s _ => nofun) hlater
    | shut side => exact h.plain (fun s _ => nofun) hlater
    | event e => exact h.plain (fun s _ => nofun) hlater

/-- Time does not go back in moves. -/
theorem now_le_moves (a : Alarmed) (ms : List Move) : a.current.now ≤ (a.moves ms).current.now := by
  induction ms generalizing a with
  | nil => exact Nat.le_refl _
  | cons m ms ih =>
    refine Nat.le_trans ?_ (ih (a.move m))
    rcases current_move a m with ⟨m', -, hm⟩ | hm
    · rw [hm]
      exact now_le_move a.current m'
    · exact Nat.le_of_eq (by rw [hm])

/-- A move sets timers to now or leaves them, with alarms as without. -/
theorem wound_move (hw : a.current.Wound span) (m : Move) : (a.move m).current.Wound span := by
  rcases current_move a m with ⟨m', -, hm⟩ | hm
  · rw [hm]
    exact hw.move m'
  · rw [hm]
    exact hw

/-- **No alarm is ever too late**, as long as the clock reaches far enough. -/
theorem Vigilant.moves (h : a.Vigilant) (hw : a.current.Wound span) {ms : List Move}
    (hclock : (a.moves ms).current.now + span < Time.horizon) : (a.moves ms).Vigilant := by
  induction ms generalizing a with
  | nil => exact h
  | cons m ms ih =>
    have hnow := now_le_moves a (m :: ms)
    refine ih (h.move m fun side => ?_) (wound_move hw m) hclock
    rcases current_move a m with ⟨m', -, hm⟩ | hm
    · rw [hm]
      exact deadline_le_move hw (by omega) m' side
    · exact Nat.le_of_eq (by rw [hm])

/-- No half sleeps when a tunnel begins. -/
theorem vigilant_opening (span begun : Nat) (turn : Turn) (ends : Ends) :
    (opening span begun turn ends).Vigilant := fun _ _ hasleep => by cases hasleep

end Alarmed

end TunnelRun

end ForwardProxy
