import ForwardProxy.Proofs.Stream.Conservation
import ForwardProxy.Proofs.Stream.Timers

namespace ForwardProxy

/-!
# The law of the idle deadline

A stream under an idle timer answers as the stream itself does whenever that is ready.  When it is
not, an attempt waits until the deadline, and from then on fails for it.  The deadline lies one span
behind the last attempt that the stream itself has completed, and nothing else moves it.

* `OrderlyStream` — a stream of which it is known what is left to read.
* `IdleStream.Step`, `IdleStream.Answer` — what is done with a stream, and what comes of it.
* `IdleStream.lastDone`, `IdleStream.due` — when the stream last completed an attempt, and the
  deadline that follows from it; neither knows of a timer.
* `IdleStream.timed_eq`, `IdleStream.timed_after` — what the timer does to one step and to a run.
* `AlarmedStream` — the same stream with one deadline and two alarms, which are moved to the
  deadline only when an attempt has to wait.
* `AlarmedStream.alarmed_step`, `AlarmedStream.alarmed_after` — the alarms do not show.
* `IdleStream.obeys` — the law, for every run.
-/

/-! ### Orderly streams -/

/-- A stream of which it is known what is left to read: `view` is a stream with the same octets, of
    which reading takes what it returns, and to which writing adds what it says. -/
class OrderlyStream (σ : Type) extends ByteStream σ where
  view : σ → Lookahead
  took_read (n : Nat) (s : σ) : (view s).Took (read n s).1.taken (view (read n s).2)
  wrote_write (bs : Bytes) (s : σ) :
    (view s).Wrote ((write bs s).1.wrote bs) (view (write bs s).2)
  view_close (s : σ) : view (close s) = (view s).close
  view_apply (e : Channel.Event) (s : σ) : view (apply e s) = (view s).apply e
  genuine_read (n : Nat) (s : σ) (h : (view s).channel.Genuine) :
    (view (read n s).2).channel.Genuine ∧ ∀ f, (read n s).1 = .failed f → f.isIdle = false
  genuine_write (bs : Bytes) (s : σ) (h : (view s).channel.Genuine) :
    ∀ f, (write bs s).1 = .failed f → f.isIdle = false

/-- A read of a channel takes what it returns. -/
theorem Channel.took_read (n : Nat) (c : Channel) :
    (Lookahead.ofChannel c).Took (c.read n).1.taken (.ofChannel (c.read n).2) := by
  have hchannel := c.read_channel n
  have hproper := fun h : c.Proper => h.read n
  rcases hread : c.read n with ⟨a, c'⟩
  rw [hread] at hchannel hproper
  refine ⟨?_, hchannel, hproper⟩
  show Item.octets c.items = a.taken ++ Item.octets c'.items
  cases a with
  | ready bs => rw [items_read_of_ready hread, Item.octets_append, Item.octets_map, Attempt.taken]
  | blocked =>
    rw [(items_read_of_blocked hread).2]
    rfl
  | failed f =>
    rw [items_read_of_failed hread, Item.octets_append, Lookahead.octets_fault_items]
    rfl

instance : OrderlyStream Channel where
  view := .ofChannel
  took_read := Channel.took_read
  wrote_write bs c := (Lookahead.ofChannel c).wrote_write bs
  view_close _ := rfl
  view_apply _ _ := rfl
  genuine_read n _ h := h.read n
  genuine_write bs _ h _ hf := h.write bs hf

instance : OrderlyStream Lookahead where
  view := id
  took_read n l := l.took_read n
  wrote_write bs l := l.wrote_write bs
  view_close _ := rfl
  view_apply _ _ := rfl
  genuine_read n _ h := Lookahead.genuine_read h n
  genuine_write bs _ h _ hf := h.write bs hf

namespace IdleStream

variable {σ τ : Type}

/-! ### Steps and answers -/

/-- Something that is done with a stream under an idle timer, by the program, by the other side or
    by the clock.  What has to wait may be tried again as another step. -/
inductive Step where
  | read (n : Nat)
  | write (bs : Bytes)
  /-- Nothing is held back of what was written. -/
  | flush
  | close
  | event (e : Channel.Event)
  | wait (time : Nat)
  deriving DecidableEq, Repr

/-- What comes of a step. -/
inductive Answer where
  | read (attempt : Attempt Bytes)
  | write (attempt : Attempt Nat)
  | none

/-- How long a step takes. -/
def Step.time : Step → Nat
  | wait time => time
  | _ => 0

/-- What the other side does in a step. -/
def Step.events : Step → List Channel.Event
  | event e => [e]
  | _ => []

/-- Whether a read or a write has come to something. -/
def Answer.isDone : Answer → Bool
  | read (.ready _) | read (.failed _) | write (.ready _) | write (.failed _) => true
  | _ => false

/-- When the stream has last completed an attempt, if that was `since` before this answer came at
    `now`. -/
def Answer.latest (now since : Nat) (a : Answer) : Nat := if a.isDone then now else since

/-- The fault of a read or a write that has failed. -/
def Answer.fault? : Answer → Option Fault
  | read (.failed f) | write (.failed f) => some f
  | _ => Option.none

/-- A read answers with a fault exactly if it fails by it. -/
theorem Answer.fault?_read {attempt : Attempt Bytes} {f : Fault} :
    (Answer.read attempt).fault? = some f ↔ attempt = .failed f := by
  cases attempt <;> simp [fault?]

/-- A write answers with a fault exactly if it fails by it. -/
theorem Answer.fault?_write {attempt : Attempt Nat} {f : Fault} :
    (Answer.write attempt).fault? = some f ↔ attempt = .failed f := by
  cases attempt <;> simp [fault?]

/-- The octets that a read has taken. -/
def Answer.octets : Answer → Bytes
  | read attempt => attempt.taken
  | _ => []

/-- How a kind of stream meets a step that begins at an instant. -/
abbrev Conduct (τ : Type) := Nat → τ → Step → Answer × τ

/-- The stream after a run of steps that begins at `now`. -/
def Conduct.after (c : Conduct τ) : Nat → τ → List Step → τ
  | _, t, [] => t
  | now, t, step :: rest => c.after (now + step.time) (c now t step).2 rest

/-- The answers to a run of steps that begins at `now`. -/
def Conduct.answers (c : Conduct τ) : Nat → τ → List Step → List Answer
  | _, _, [] => []
  | now, t, step :: rest => (c now t step).1 :: c.answers (now + step.time) (c now t step).2 rest

/-- The instant to which a run of steps that begins at `now` leads. -/
def clock : Nat → List Step → Nat
  | now, [] => now
  | now, step :: rest => clock (now + step.time) rest

variable [ByteStream σ]

/-- A stream without a timer. -/
def plain : Conduct σ := fun _ s step =>
  match step with
  | .read n => (.read (ByteStream.read n s).1, (ByteStream.read n s).2)
  | .write bs => (.write (ByteStream.write bs s).1, (ByteStream.write bs s).2)
  | .flush => (.none, s)
  | .close => (.none, ByteStream.close s)
  | .event e => (.none, ByteStream.apply e s)
  | .wait _ => (.none, s)

/-- A stream under an idle timer. -/
def timed : Conduct (IdleStream σ) := fun now s step =>
  match step with
  | .read n => (.read (s.read now n).1, (s.read now n).2)
  | .write bs => (.write (s.write now bs).1, (s.write now bs).2)
  | .flush => (.none, s)
  | .close => (.none, s.close)
  | .event e => (.none, s.apply e)
  | .wait _ => (.none, s)

/-! ### The deadline -/

/-- When a stream has last completed a read or a write in a run of steps that begins at `now`, or
    `since` if it has completed none. -/
def lastDone : Nat → Nat → σ → List Step → Nat
  | since, _, _, [] => since
  | since, now, s, step :: rest =>
    lastDone ((plain now s step).1.latest now since) (now + step.time) (plain now s step).2 rest

/-- The deadline of a stream that was begun at `begun`, after a run of steps. -/
def due (span begun : Nat) (s : σ) (ss : List Step) : Nat :=
  Time.deadline (lastDone begun begun s ss) span

/-- What an attempt comes to at `now` that the stream itself has answered: a wait ends with the
    deadline. -/
def Answer.under (span deadline now : Nat) : Answer → Answer
  | read .blocked => read (if now < deadline then .blocked else .failed (.idle span))
  | write .blocked => write (if now < deadline then .blocked else .failed (.idle span))
  | answer => answer

/-- Under a deadline an attempt fails with a fault of the stream itself, or for the deadline while
    the stream makes it wait. -/
theorem Answer.fault?_under {span deadline now : Nat} {a : Answer} {f : Fault}
    (h : (a.under span deadline now).fault? = some f) :
    a.fault? = some f ∧ a.isDone = true ∨ f = .idle span ∧ a.isDone = false := by
  -- Only an answer that waits can fail by the deadline; any other fault is its own.
  have hexpired {α : Type}
      (hf : (if now < deadline then .blocked else .failed (.idle span) : Attempt α) = .failed f) :
      f = .idle span := by
    split at hf
    · cases hf
    · exact (Attempt.failed.inj hf).symm
  cases a with
  | read attempt =>
    cases attempt with
    | ready bs => cases h
    | blocked => exact .inr ⟨hexpired (Answer.fault?_read.1 h), rfl⟩
    | failed f => exact .inl ⟨h, rfl⟩
  | write attempt =>
    cases attempt with
    | ready k => cases h
    | blocked => exact .inr ⟨hexpired (Answer.fault?_write.1 h), rfl⟩
    | failed f => exact .inl ⟨h, rfl⟩
  | none => cases h

/-! ### One step -/

/-- An attempt that is held up waits before the deadline, and fails by it from then on. -/
theorem expire_eq {α : Type} (now : Nat) (t : IdleTimer) :
    (t.expire now : Attempt α) =
      if now < t.deadline then .blocked else .failed (.idle t.span) := by
  unfold IdleTimer.expire
  by_cases hlapsed : t.deadline ≤ now
  · rw [if_pos hlapsed, if_neg (Nat.not_lt.2 hlapsed)]
  · rw [if_neg hlapsed, if_pos (Nat.lt_of_not_le hlapsed)]

/-- **One step:** a timer changes nothing but the answer to an attempt that has to wait, and is set
    anew when the stream itself completes one. -/
theorem timed_eq (span since now : Nat) (s : σ) (step : Step) :
    timed now ⟨s, .start span since⟩ step =
      ((plain now s step).1.under span (Time.deadline since span) now,
        ⟨(plain now s step).2, .start span ((plain now s step).1.latest now since)⟩) := by
  -- The timer is set anew by what is done and by nothing else, whatever the step.
  cases step with
  | read n =>
    unfold timed plain read
    dsimp only
    rcases ByteStream.read n s with ⟨attempt, s'⟩
    cases attempt with
    | ready bs => rfl
    | blocked => exact congrArg (fun a => (Answer.read a, _)) (expire_eq now (.start span since))
    | failed f => rfl
  | write bs =>
    unfold timed plain write
    dsimp only
    rcases ByteStream.write bs s with ⟨attempt, s'⟩
    cases attempt with
    | ready k => rfl
    | blocked => exact congrArg (fun a => (Answer.write a, _)) (expire_eq now (.start span since))
    | failed f => rfl
  | flush => rfl
  | close => rfl
  | event e => rfl
  | wait time => rfl

/-- **A run of steps** leaves the stream as it would be without a timer, and its timer set for when
    the stream last completed an attempt. -/
theorem timed_after (span since now : Nat) (s : σ) (ss : List Step) :
    timed.after now ⟨s, .start span since⟩ ss =
      ⟨plain.after now s ss, .start span (lastDone since now s ss)⟩ := by
  induction ss generalizing since now s with
  | nil => rfl
  | cons step ss ih =>
    rw [Conduct.after, timed_eq, Conduct.after, lastDone]
    exact ih _ _ _

/-! ### What is read -/

/-- The deadline does not change which octets were read. -/
theorem octets_under (span deadline now : Nat) (a : Answer) :
    (a.under span deadline now).octets = a.octets := by
  cases a with
  | read attempt =>
    cases attempt with
    | blocked =>
      show (Answer.read (if now < deadline then .blocked else .failed (.idle span))).octets = _
      split <;> rfl
    | _ => rfl
  | write attempt => cases attempt <;> rfl
  | none => rfl

/-- A run under a timer reads what it reads without one. -/
theorem octets_timed (span since now : Nat) (s : σ) (ss : List Step) :
    (timed.answers now ⟨s, .start span since⟩ ss).flatMap Answer.octets =
      (plain.answers now s ss).flatMap Answer.octets := by
  induction ss generalizing since now s with
  | nil => rfl
  | cons step ss ih =>
    rw [Conduct.answers, Conduct.answers, List.flatMap_cons, List.flatMap_cons, timed_eq]
    dsimp only
    rw [octets_under, ih]

section Orderly

open OrderlyStream (view)

variable {ρ : Type} [OrderlyStream ρ] {g : Lookahead} {taken : Bytes} {s : ρ}

/-- **One step** of a stream takes what its answer brings. -/
theorem follows_step (h : g.Follows taken (view s)) (now : Nat) (step : Step) :
    (g.applyAll step.events).Follows (taken ++ (plain now s step).1.octets)
      (view (plain now s step).2) := by
  -- Only a read brings octets, and only in an event does the other side do something.
  have hkept {l : Lookahead} (h' : g.Follows taken l) : g.Follows (taken ++ []) l := by
    rw [List.append_nil]
    exact h'
  -- A read asks its own alarm and a write the other; both stand for the same deadline.
  cases step with
  | read n => exact h.took (OrderlyStream.took_read n s)
  | write bs => exact hkept (h.wrote (OrderlyStream.wrote_write bs s))
  | flush => exact hkept h
  | close =>
    refine hkept ?_
    show g.Follows taken (view (ByteStream.close s))
    rw [OrderlyStream.view_close]
    exact h.close
  | event e =>
    show (g.apply e).Follows (taken ++ []) (view (ByteStream.apply e s))
    rw [List.append_nil, OrderlyStream.view_apply]
    exact h.apply e
  | wait time => exact hkept h

/-- **A run of steps** takes what its answers bring. -/
theorem follows_after (h : g.Follows taken (view s)) (now : Nat) (ss : List Step) :
    (g.applyAll (ss.flatMap Step.events)).Follows
      (taken ++ (plain.answers now s ss).flatMap Answer.octets) (view (plain.after now s ss)) := by
  induction ss generalizing g taken now s with
  | nil =>
    rw [Conduct.answers, List.flatMap_nil, List.flatMap_nil, List.append_nil]
    exact h
  | cons step ss ih =>
    rw [List.flatMap_cons, Lookahead.applyAll_append, Conduct.answers, List.flatMap_cons,
      ← List.append_assoc]
    exact ih (follows_step h now step) _

/-- A stream on which no step is an idle fault has none. -/
theorem genuine_step (h : (view s).channel.Genuine) (now : Nat) {step : Step}
    (hstep : ∀ e ∈ step.events, e.Genuine) : (view (plain now s step).2).channel.Genuine := by
  cases step with
  | read n => exact (OrderlyStream.genuine_read n s h).1
  | write bs => exact (OrderlyStream.wrote_write bs s).genuine h
  | close =>
    show (view (ByteStream.close s)).channel.Genuine
    rw [OrderlyStream.view_close]
    exact ⟨h.reads, h.writes⟩
  | event e =>
    show (view (ByteStream.apply e s)).channel.Genuine
    rw [OrderlyStream.view_apply]
    exact Channel.Genuine.apply h (hstep e (List.mem_singleton_self e))
  | flush => exact h
  | wait time => exact h

/-- Genuine faults stay so through any number of steps. -/
theorem genuine_after (h : (view s).channel.Genuine) (now : Nat) {ss : List Step}
    (hss : ∀ e ∈ ss.flatMap Step.events, e.Genuine) :
    (view (plain.after now s ss)).channel.Genuine := by
  induction ss generalizing now s with
  | nil => exact h
  | cons step ss ih =>
    rw [List.flatMap_cons, List.forall_mem_append] at hss
    exact ih (genuine_step h now hss.1) _ hss.2

/-- An attempt of such a stream does not fail for an idle deadline. -/
theorem genuine_fault (h : (view s).channel.Genuine) {now : Nat} {step : Step} {f : Fault}
    (hf : (plain now s step).1.fault? = some f) : f.isIdle = false := by
  cases step with
  | read n => exact (OrderlyStream.genuine_read n s h).2 f (Answer.fault?_read.1 hf)
  | write bs => exact OrderlyStream.genuine_write bs s h f (Answer.fault?_write.1 hf)
  | _ => cases hf

end Orderly

end IdleStream

/-! ### Two alarms for one deadline -/

/-- An alarm: the instant it is set for, and whether it has gone off since it was set. -/
structure Alarm where
  due : Nat
  rung : Bool
  deriving DecidableEq, Repr

namespace Alarm

/-- An alarm that is set for an instant. -/
def set (due : Nat) : Alarm := ⟨due, false⟩

/-- The alarm when the clock has come to `now`. -/
def ring (now : Nat) (a : Alarm) : Alarm := { a with rung := a.rung || a.due ≤ now }

/-- The alarm of an attempt that has to wait for `deadline`: if it is set for another instant, from
    before the deadline was put off, it is set anew. -/
def ask (now deadline : Nat) (a : Alarm) : Alarm :=
  (if a.due = deadline then a else set deadline).ring now

/-- An alarm goes off no sooner than at the instant it is set for. -/
def Fair (now : Nat) (a : Alarm) : Prop := a.rung = true → a.due ≤ now

variable {a : Alarm} {now later deadline : Nat}

/-- A fair alarm stays so when time goes by. -/
theorem Fair.ring (h : a.Fair now) (hlater : now ≤ later) : (a.ring later).Fair later := by
  intro hrung
  simp only [Alarm.ring, Bool.or_eq_true, decide_eq_true_eq] at hrung
  rcases hrung with hrung | hdue
  · exact Nat.le_trans (h hrung) hlater
  · exact hdue

/-- An alarm that was just set has not rung. -/
theorem fair_set (now due : Nat) : (set due).Fair now := nofun

/-- **An alarm that is asked** is set for the deadline, and has gone off just if that has come. -/
theorem ask_eq (h : a.Fair now) : a.ask now deadline = ⟨deadline, decide (deadline ≤ now)⟩ := by
  unfold ask
  split
  · rename_i hdue
    subst hdue
    have hrung : (a.rung || decide (a.due ≤ now)) = decide (a.due ≤ now) := by
      cases hr : a.rung with
      | false => exact Bool.false_or _
      | true => simpa using h hr
    rw [ring, hrung]
  · rw [ring, set, Bool.false_or]

end Alarm

/-- A stream with one deadline and an alarm for each direction.  The deadline is put off at once by
    every attempt that comes to something, an alarm only when an attempt in its direction has to
    wait. -/
structure AlarmedStream (σ : Type) where
  stream : σ
  timer : IdleTimer
  reading : Alarm
  writing : Alarm

namespace AlarmedStream

open IdleStream (Answer Conduct Step)

variable {σ : Type} {now : Nat} {s : AlarmedStream σ}

/-- A stream that may be idle for `span` from `now` on. -/
def start (span now : Nat) (stream : σ) : AlarmedStream σ :=
  ⟨stream, .start span now, .set (Time.deadline now span), .set (Time.deadline now span)⟩

/-- The stream as its users see it. -/
def idle (s : AlarmedStream σ) : IdleStream σ := ⟨s.stream, s.timer⟩

/-- Neither alarm goes off too soon. -/
structure Fair (now : Nat) (s : AlarmedStream σ) : Prop where
  reading : s.reading.Fair now
  writing : s.writing.Fair now

/-- The alarms of a stream that has just begun are fair. -/
theorem fair_start (span now : Nat) (stream : σ) : (start span now stream).Fair now :=
  ⟨Alarm.fair_set now _, Alarm.fair_set now _⟩

/-- What an attempt comes to, and the timer and the alarm of its direction after it. -/
def observe {α : Type} (now : Nat) (attempt : Attempt α) (timer : IdleTimer) (alarm : Alarm) :
    Attempt α × IdleTimer × Alarm :=
  match attempt with
  | .blocked =>
    let alarm := alarm.ask now timer.deadline
    (if alarm.rung then .failed (.idle timer.span) else .blocked, timer, alarm)
  | result => (result, timer.touch now, alarm)

section Observe

variable {α : Type} {alarm : Alarm}

/-- An attempt comes to what it comes to under the timer alone. -/
theorem observe_eq (attempt : Attempt α) (timer : IdleTimer) (h : alarm.Fair now) :
    (observe now attempt timer alarm).1 = (timer.observe now attempt).1 ∧
      (observe now attempt timer alarm).2.1 = (timer.observe now attempt).2 := by
  cases attempt with
  | ready x => exact ⟨rfl, rfl⟩
  | failed f => exact ⟨rfl, rfl⟩
  | blocked =>
    refine ⟨?_, rfl⟩
    simp only [observe, Alarm.ask_eq h, decide_eq_true_eq]
    rfl

/-- An alarm stays fair when an attempt is observed. -/
theorem fair_observe (attempt : Attempt α) (timer : IdleTimer) (h : alarm.Fair now) :
    (observe now attempt timer alarm).2.2.Fair now := by
  cases attempt with
  | ready x => exact h
  | failed f => exact h
  | blocked =>
    rw [observe, Alarm.ask_eq h]
    exact of_decide_eq_true

end Observe

variable [ByteStream σ]

/-- A stream with its alarms. -/
def alarmed : Conduct (AlarmedStream σ) := fun now s step =>
  match step with
  | .read n =>
    let (attempt, stream) := ByteStream.read n s.stream
    let (result, timer, alarm) := observe now attempt s.timer s.reading
    (.read result, { s with stream := stream, timer := timer, reading := alarm })
  | .write bs =>
    let (attempt, stream) := ByteStream.write bs s.stream
    let (result, timer, alarm) := observe now attempt s.timer s.writing
    (.write result, { s with stream := stream, timer := timer, writing := alarm })
  | .flush => (.none, s)
  | .close => (.none, { s with stream := ByteStream.close s.stream })
  | .event e => (.none, { s with stream := ByteStream.apply e s.stream })
  | .wait time =>
    (.none, { s with
      reading := s.reading.ring (now + time), writing := s.writing.ring (now + time) })

/-- **One step:** the alarms do not show, and still go off no sooner than they are set for. -/
theorem alarmed_step (h : s.Fair now) (step : Step) :
    (alarmed now s step).1 = (IdleStream.timed now s.idle step).1 ∧
      (alarmed now s step).2.idle = (IdleStream.timed now s.idle step).2 ∧
      (alarmed now s step).2.Fair (now + step.time) := by
  cases step with
  | read n =>
    obtain ⟨hresult, htimer⟩ := observe_eq (ByteStream.read n s.stream).1 s.timer h.reading
    have hfair := fair_observe (ByteStream.read n s.stream).1 s.timer h.reading
    exact ⟨congrArg Answer.read hresult, congrArg (IdleStream.mk _) htimer, hfair, h.writing⟩
  | write bs =>
    obtain ⟨hresult, htimer⟩ := observe_eq (ByteStream.write bs s.stream).1 s.timer h.writing
    have hfair := fair_observe (ByteStream.write bs s.stream).1 s.timer h.writing
    exact ⟨congrArg Answer.write hresult, congrArg (IdleStream.mk _) htimer, h.reading, hfair⟩
  | flush => exact ⟨rfl, rfl, h⟩
  | close => exact ⟨rfl, rfl, h.reading, h.writing⟩
  | event e => exact ⟨rfl, rfl, h.reading, h.writing⟩
  | wait time =>
    exact ⟨rfl, rfl, h.reading.ring (Nat.le_add_right now time),
      h.writing.ring (Nat.le_add_right now time)⟩

/-- **A run of steps:** the stream is as its users see it without alarms. -/
theorem alarmed_after (h : s.Fair now) (ss : List Step) :
    (alarmed.after now s ss).idle = IdleStream.timed.after now s.idle ss ∧
      (alarmed.after now s ss).Fair (IdleStream.clock now ss) := by
  induction ss generalizing now s with
  | nil => exact ⟨rfl, h⟩
  | cons step ss ih =>
    obtain ⟨-, hidle, hfair⟩ := alarmed_step h step
    rw [Conduct.after, Conduct.after, ← hidle]
    exact ih hfair

end AlarmedStream

/-! ### The law -/

namespace IdleStream

variable {σ τ : Type}

/-- The answer to a step behind a run of others. -/
def Conduct.next (c : Conduct τ) (now : Nat) (t : τ) (before : List Step) (step : Step) : Answer :=
  (c (clock now before) (c.after now t before) step).1

/-- The latest attempt that a stream has completed is the last step, if it was one. -/
theorem lastDone_append [ByteStream σ] (since now : Nat) (s : σ) (before : List Step)
    (step : Step) :
    lastDone since now s (before ++ [step]) =
      (plain.next now s before step).latest (clock now before) (lastDone since now s before) := by
  induction before generalizing since now s with
  | nil => rfl
  | cons first before ih => exact ih _ _ _

variable [OrderlyStream σ]

/-- What comes of a step behind the steps `before` on a stream that may be idle for `span`, and how
    it stands when the step begins. -/
structure Lawful (span begun : Nat) (s : σ) (before : List Step) (step : Step) : Prop where
  /-- The answer is the stream's own whenever that is ready, and a wait ends with the deadline. -/
  answer : timed.next begun (start span begun s) before step =
    (plain.next begun s before step).under span (due span begun s before) (clock begun before)
  /-- With alarms it is the same. -/
  alarms : AlarmedStream.alarmed.next begun (.start span begun s) before step =
    timed.next begun (start span begun s) before step
  /-- The timer is set for one span behind the last attempt that the stream has completed. -/
  deadline : (timed.after begun (start span begun s) before).timer.deadline =
    due span begun s before
  /-- Only an attempt that the stream itself completes moves the deadline. -/
  moved : due span begun s (before ++ [step]) =
    if (plain.next begun s before step).isDone then Time.deadline (clock begun before) span
    else due span begun s before
  /-- The stream itself does not know of the timer. -/
  stream : (timed.after begun (start span begun s) before).stream = plain.after begun s before
  /-- What was read and what is left to read are what was there and what was sent, in order. -/
  total : (timed.answers begun (start span begun s) before).flatMap Answer.octets ++
      (OrderlyStream.view (timed.after begun (start span begun s) before).stream).unread =
    (OrderlyStream.view s).unread ++
      if (OrderlyStream.view s).channel.ended then []
      else Channel.sent (before.flatMap Step.events)
  /-- A fault is an idle one just if it comes from the deadline, and then it tells the span. -/
  idle : ∀ f, (timed.next begun (start span begun s) before step).fault? = some f →
    (f.isIdle = true ↔ f = .idle span ∧ (plain.next begun s before step).isDone = false)

/-- **The law of the deadline,** for every step of every run on a stream without idle faults of its
    own. -/
theorem obeys (span begun : Nat) (s : σ) (before : List Step) (step : Step)
    (hs : (OrderlyStream.view s).channel.Genuine)
    (hbefore : ∀ e ∈ before.flatMap Step.events, e.Genuine) :
    Lawful span begun s before step := by
  have hafter := timed_after span begun begun s before
  have hanswer : timed.next begun (start span begun s) before step =
      (plain.next begun s before step).under span (due span begun s before)
        (clock begun before) := by
    unfold Conduct.next start
    rw [hafter, timed_eq]
    rfl
  refine ⟨hanswer, ?_, ?_, ?_, ?_, ?_, ?_⟩
  · obtain ⟨hidle, hfair⟩ :=
      AlarmedStream.alarmed_after (AlarmedStream.fair_start span begun s) before
    unfold Conduct.next
    rw [(AlarmedStream.alarmed_step hfair step).1, hidle]
    rfl
  · unfold start
    rw [hafter]
    rfl
  · unfold due
    rw [lastDone_append]
    unfold Answer.latest
    split <;> rfl
  · unfold start
    rw [hafter]
  · have hfollows :=
      follows_after (Lookahead.Follows.refl (OrderlyStream.view s)) begun before
    unfold start
    rw [octets_timed, hafter, ← Lookahead.unread_applyAll, hfollows.unread_eq, List.nil_append]
  · intro f hf
    rw [hanswer] at hf
    -- A fault of the stream is genuine, so it is never taken for silence.
    rcases Answer.fault?_under hf with ⟨hown, hdone⟩ | ⟨rfl, hwaits⟩
    · have hgenuine := genuine_fault (genuine_after hs begun hbefore) hown
      rw [hgenuine, hdone]
      exact ⟨nofun, fun h => absurd h.2 nofun⟩
    · exact ⟨fun _ => ⟨rfl, hwaits⟩, fun _ => rfl⟩

/-- A read finds nothing until the deadline has come and fails for it; later ones, later still, get
    what has arrived since, a time-out of the system among it. -/
theorem obeys_behind_an_idle_failure :
    timed.answers 0 (start 5 0 (Channel.idle none))
        [.wait 3, .read 4, .wait 2, .read 4, .event (.send [7]),
          .event (.failRead (.system 110)), .wait 1, .read 4, .read 4] =
      [.none, .read .blocked, .none, .read (.failed (.idle 5)), .none, .none, .none,
        .read (.ready [7]), .read (.failed (.system 110))] ∧
    Lawful 5 0 (Channel.idle none)
      [.wait 3, .read 4, .wait 2, .read 4, .event (.send [7]),
        .event (.failRead (.system 110)), .wait 1, .read 4] (.read 4) :=
  ⟨rfl, obeys 5 0 (Channel.idle none) _ _ (Channel.genuine_idle none)
    (List.forall_mem_cons.2 ⟨trivial, List.forall_mem_singleton.2 rfl⟩)⟩

end IdleStream

end ForwardProxy
