import ForwardProxy.Accept.InService
import Mathlib.Data.Finset.Card
import Mathlib.Data.List.Induction

namespace ForwardProxy

/-!
# Connections and waiters in any order

The calls on a count and what comes of them, each cut down to the steps that are taken at once: a
connection is taken off the count before it rings the bell, and a waiter listens before it looks.
Between any two of them others may take theirs, so `InService.Move` is one such step and a list of
moves any order of them, sensible or not: a move that is not up changes nothing.

* `InService.Sound` — what every order keeps: the count is that of the connections held, and a
  waiter only sleeps on the last ring if the count is not zero or a ring is to come.
* `InService.sound_after` — it holds after all moves.
* `InService.told_of_resting` — so nobody is left asleep when the count is zero and all is quiet.
* `InService.exists_gone` — the count is that of the connections tracked without those dropped.
-/

/-! ### Turns of a waiter -/

namespace Waiter

/-- What a waiter does on its own. -/
inductive Turn where
  | rouse
  | listen
  | look
  | expire
  deriving DecidableEq, Repr

variable {now count rung : Nat} {w : Waiter}

/-- The waiter after one thing it did. -/
def turn (now count rung : Nat) (w : Waiter) : Turn → Waiter
  | .rouse => w.rouse rung
  | .listen => w.listen rung
  | .look => w.look count
  | .expire => w.expire now

/-- What can come of one turn. -/
theorem turn_cases (now count rung : Nat) (w : Waiter) (t : Turn) :
    w.turn now count rung t = w ∨
    (∃ heard < rung, w.stage = .asleep heard ∧
      w.turn now count rung t = { w with stage := .awake }) ∨
    (w.stage = .awake ∧ w.turn now count rung t = { w with stage := .listening rung }) ∨
    (∃ heard, w.stage = .listening heard ∧ count = 0 ∧
      w.turn now count rung t = { w with stage := .told true }) ∨
    (∃ heard, w.stage = .listening heard ∧ 0 < count ∧
      w.turn now count rung t = { w with stage := .asleep heard }) ∨
    (∃ heard, w.stage = .asleep heard ∧ (∃ d ∈ w.deadline, d ≤ now) ∧
      w.turn now count rung t = { w with stage := .told false }) := by
  obtain ⟨deadline, stage⟩ := w
  cases t with
  | rouse =>
    cases stage with
    | asleep heard =>
      by_cases h : heard < rung
      · exact .inr (.inl ⟨heard, h, rfl, if_pos h⟩)
      · exact .inl (if_neg h)
    | _ => exact .inl rfl
  | listen =>
    cases stage with
    | awake => exact .inr (.inr (.inl ⟨rfl, rfl⟩))
    | _ => exact .inl rfl
  | look =>
    cases stage with
    | listening heard =>
      rcases Nat.eq_zero_or_pos count with h | h
      · exact .inr (.inr (.inr (.inl ⟨heard, rfl, h, by simp [turn, look, h]⟩)))
      · exact .inr (.inr (.inr (.inr (.inl
          ⟨heard, rfl, h, by simp [turn, look, Nat.ne_of_gt h]⟩))))
    | _ => exact .inl rfl
  | expire =>
    cases stage with
    | asleep heard =>
      by_cases h : deadline.any (· ≤ now) = true
      · have hdue : ∃ d ∈ deadline, d ≤ now := by simpa [Option.any_eq_true] using h
        exact .inr (.inr (.inr (.inr (.inr ⟨heard, rfl, hdue, if_pos h⟩))))
      · exact .inl (if_neg h)
    | _ => exact .inl rfl

/-- No turn of a waiter moves its deadline. -/
theorem deadline_turn (t : Turn) : (w.turn now count rung t).deadline = w.deadline := by
  rcases turn_cases now count rung w t with h | ⟨_, _, _, h⟩ | ⟨_, h⟩ | ⟨_, _, _, h⟩ |
    ⟨_, _, _, h⟩ | ⟨_, _, _, h⟩ <;> rw [h]

/-- Who was told something does nothing more. -/
theorem turn_of_told {idle : Bool} (h : w.stage = .told idle) (t : Turn) :
    w.turn now count rung t = w := by
  cases t <;> simp only [turn, rouse, listen, look, expire, h]

/-- A waiter has an answer when it has learnt it. -/
theorem answer_eq_some {idle : Bool} : w.answer = some idle ↔ w.stage = .told idle := by
  cases h : w.stage <;> simp [answer, h]

/-- **Who does nothing more** was told something or sleeps: no ring is still to be heard, and the
    deadline lies ahead. -/
theorem told_or_asleep (h : ∀ t, w.turn now count rung t = w) :
    (∃ idle, w.stage = .told idle) ∨
      ∃ heard, w.stage = .asleep heard ∧ rung ≤ heard ∧ ∀ d ∈ w.deadline, now < d := by
  cases hstage : w.stage with
  | awake =>
    have hmoved := congrArg stage (h .listen)
    simp [turn, listen, hstage] at hmoved
  | listening heard =>
    have hmoved := congrArg stage (h .look)
    simp only [turn, look, hstage] at hmoved
    split at hmoved <;> cases hmoved
  | asleep heard =>
    refine .inr ⟨heard, rfl, ?_, fun d hd => ?_⟩
    · by_contra hlt
      have hmoved := congrArg stage (h .rouse)
      simp [turn, rouse, hstage, Nat.lt_of_not_le hlt] at hmoved
    · by_contra hdue
      have hmoved := congrArg stage (h .expire)
      rw [Option.mem_def] at hd
      simp [turn, expire, hstage, hd, Nat.le_of_not_lt hdue] at hmoved
  | told idle => exact .inl ⟨idle, rfl⟩

/-- Nor does who sleeps, has heard every ring and has the deadline ahead. -/
theorem turn_of_asleep {heard : Nat} (hstage : w.stage = .asleep heard) (hheard : rung ≤ heard)
    (hahead : ∀ d ∈ w.deadline, now < d) (t : Turn) : w.turn now count rung t = w := by
  rcases turn_cases now count rung w t with h | ⟨_, hlt, hstage', -⟩ | ⟨hstage', -⟩ |
    ⟨_, hstage', -⟩ | ⟨_, hstage', -⟩ | ⟨_, -, ⟨d, hd, hdue⟩, -⟩
  · exact h
  · cases hstage.symm.trans hstage'
    exact absurd hheard (Nat.not_le_of_lt hlt)
  · cases hstage.symm.trans hstage'
  · cases hstage.symm.trans hstage'
  · cases hstage.symm.trans hstage'
  · exact absurd hdue (Nat.not_le_of_lt (hahead d hd))

/-- A waiter has heard no ring that was not rung, and if it sleeps although it heard the last one,
    there is another to wait for. -/
def Alert (rung : Nat) (awaited : Prop) (w : Waiter) : Prop :=
  match w.stage with
  | .listening heard => heard ≤ rung
  | .asleep heard => heard < rung ∨ heard = rung ∧ awaited
  | _ => True

/-- **A turn of a waiter** keeps it alert: it falls asleep only behind a look at a count that is not
    zero, and it has listened before that look. -/
theorem Alert.turn {awaited : Prop} (h : w.Alert rung awaited) (hcount : 0 < count → awaited)
    (t : Turn) : (w.turn now count rung t).Alert rung awaited := by
  rcases turn_cases now count rung w t with he | ⟨_, _, _, he⟩ | ⟨_, he⟩ | ⟨_, _, _, he⟩ |
    ⟨heard, hstage, hpos, he⟩ | ⟨_, _, _, he⟩ <;> rw [he]
  · exact h
  · trivial
  · exact Nat.le_refl rung
  · trivial
  · -- It looked after it began to listen, so a ring that it has not heard will wake it.
    rw [Alert, hstage] at h
    exact (Nat.lt_or_eq_of_le h).imp_right fun heq => ⟨heq, hcount hpos⟩
  · trivial

/-- A waiter that is alert stays so when more is awaited. -/
theorem Alert.mono {awaited awaited' : Prop} (h : w.Alert rung awaited)
    (hawaited : awaited → awaited') : w.Alert rung awaited' := by
  unfold Alert at h ⊢
  split <;> simp_all only
  exact h.imp_right fun ⟨heq, ha⟩ => ⟨heq, hawaited ha⟩

/-- A ring wakes everybody. -/
theorem Alert.ring {awaited awaited' : Prop} (h : w.Alert rung awaited) :
    w.Alert (rung + 1) awaited' := by
  unfold Alert at h ⊢
  split <;> simp_all only
  · exact Nat.le_succ_of_le h
  · exact .inl (by omega)

end Waiter

namespace InService

variable {s : InService}

/-! ### Moves -/

/-- Something that is done to the count from without. -/
inductive Act where
  | track
  /-- A connection is dropped, and taken off the count. -/
  | leave (guard : Nat)
  | await (limit : Option Nat)
  /-- Time goes by, up to an instant or the first deadline before it. -/
  | pass (goal : Nat)
  deriving DecidableEq, Repr

/-- Something that comes of it. -/
inductive Work where
  /-- A connection that was the last one rings the bell. -/
  | ring (guard : Nat)
  | turn (waiter : Nat) (what : Waiter.Turn)
  deriving DecidableEq, Repr

/-- The state after something was done. -/
def act (s : InService) : Act → InService
  | .track => s.track
  | .leave n => s.leave n
  | .await limit => s.await limit
  | .pass goal => { s with now := (Clock.next? s.now goal s.deadlines).getD (max s.now goal) }

/-- The state after something came of it. -/
def work (s : InService) : Work → InService
  | .ring n => s.ring n
  | .turn i t => { s with waiters := s.waiters.modify i (·.turn s.now s.count s.rung t) }

/-- One move of anybody. -/
inductive Move where
  | act (a : Act)
  | work (k : Work)
  deriving DecidableEq, Repr

def move (s : InService) : Move → InService
  | .act a => s.act a
  | .work k => s.work k

/-- The state after some moves. -/
def after (s : InService) (ms : List Move) : InService := ms.foldl move s

/-- Without moves nothing changes. -/
@[simp] theorem after_nil (s : InService) : s.after [] = s := rfl

/-- Moves are made one after the other. -/
@[simp] theorem after_cons (s : InService) (m : Move) (ms : List Move) :
    s.after (m :: ms) = (s.move m).after ms := rfl

/-- Moves made in two parts. -/
theorem after_append (s : InService) (ms ms' : List Move) :
    s.after (ms ++ ms') = (s.after ms).after ms' := List.foldl_append

/-- **Quiet**: nothing more comes of what was done. -/
def Resting (s : InService) : Prop := ∀ k, s.work k = s

/-! ### What moves keep -/

/-- There is a ring to wait for: that of the last connection, still in service or on its way out. -/
def Awaited (s : InService) : Prop := 0 < s.count ∨ .leaving ∈ s.guards

/-- What is so whatever the order of the moves. -/
structure Sound (s : InService) : Prop where
  /-- The count is that of the connections held. -/
  count : s.count = s.guards.count .held
  /-- No waiter sleeps through the last ring. -/
  alert : ∀ w ∈ s.waiters, w.Alert s.rung s.Awaited

/-- Nobody is counted and nobody waits at first. -/
theorem sound_empty : Sound empty := ⟨rfl, nofun⟩

/-- Dropping a connection changes nothing, or takes one off the count that was held.  The last one
    has the bell to ring. -/
theorem leave_cases (s : InService) (n : Nat) :
    (s.leave n = s ∧ s.guards[n]? ≠ some .held) ∨
    (s.guards[n]? = some .held ∧ s.leave n =
      { s with
        count := s.count - 1
        guards := s.guards.set n (if s.count = 1 then .leaving else .gone) }) := by
  by_cases h : s.guards[n]? = some .held
  · exact .inr ⟨h, if_pos h⟩
  · exact .inl ⟨if_neg h, h⟩

/-- The bell is not rung, or by a connection that has it to ring. -/
theorem ring_cases (s : InService) (n : Nat) :
    (s.ring n = s ∧ s.guards[n]? ≠ some .leaving) ∨
    (s.guards[n]? = some .leaving ∧
      s.ring n = { s with rung := s.rung + 1, guards := s.guards.set n .gone }) := by
  by_cases h : s.guards[n]? = some .leaving
  · exact .inr ⟨h, if_pos h⟩
  · exact .inl ⟨if_neg h, h⟩

/-- Going out of service takes no time. -/
@[simp] theorem now_leave (n : Nat) (s : InService) : (s.leave n).now = s.now := by
  unfold leave; split <;> rfl

/-- Going out of service touches no waiter by itself. -/
@[simp] theorem waiters_leave (n : Nat) (s : InService) : (s.leave n).waiters = s.waiters := by
  unfold leave; split <;> rfl

/-- Ringing the bell takes no time. -/
@[simp] theorem now_ring (n : Nat) (s : InService) : (s.ring n).now = s.now := by
  unfold ring; split <;> rfl

/-- Ringing the bell leaves the count. -/
@[simp] theorem count_ring (n : Nat) (s : InService) : (s.ring n).count = s.count := by
  unfold ring; split <;> rfl

/-- Ringing the bell touches no waiter by itself: it is woken in a turn of its own. -/
@[simp] theorem waiters_ring (n : Nat) (s : InService) : (s.ring n).waiters = s.waiters := by
  unfold ring; split <;> rfl

/-- One held connection less. -/
theorem count_held_set {guards : List Guard} {n : Nat} {g : Guard} (h : guards[n]? = some .held)
    (hg : g ≠ .held) :
    (guards.set n g).count Guard.held + 1 = guards.count Guard.held := by
  obtain ⟨hn, hget⟩ := List.getElem?_eq_some_iff.1 h
  have hpos : 0 < guards.count .held := List.count_pos_iff.2 (hget ▸ List.getElem_mem hn)
  rw [List.count_set hn, hget]
  simp [hg]
  omega

/-- **What others do** keeps the state sound: the count is that of the connections held, and no
    waiter sleeps through the ring that it waits for. -/
theorem Sound.act (h : Sound s) (a : Act) : Sound (s.act a) := by
  cases a with
  | track =>
    refine ⟨?_, fun w hw => (h.alert w hw).mono fun _ => .inl (Nat.succ_pos _)⟩
    show s.count + 1 = (s.guards ++ [Guard.held]).count Guard.held
    rw [List.count_append, h.count]
    rfl
  | leave n =>
    rcases leave_cases s n with ⟨hsame, -⟩ | ⟨hheld, hleft⟩
    · rwa [show s.act (.leave n) = s from hsame]
    · have hne : (if s.count = 1 then Guard.leaving else .gone) ≠ .held := by split <;> nofun
      have hless := count_held_set hheld hne
      have hone := h.count
      rw [show s.act (.leave n) = _ from hleft]
      refine ⟨by simp only; omega, fun w hw => (h.alert w hw).mono fun _ => ?_⟩
      -- The last connection has the bell to ring; without it others are still in service.
      by_cases hlast : s.count = 1
      · refine .inr ?_
        obtain ⟨hn, -⟩ := List.getElem?_eq_some_iff.1 hheld
        simp only [if_pos hlast]
        exact List.mem_set hn _
      · exact .inl (by simp only; omega)
  | await limit =>
    refine ⟨h.count, fun w hw => ?_⟩
    rcases List.mem_append.1 hw with hw | hw
    · exact h.alert w hw
    · rw [List.mem_singleton.1 hw]
      trivial
  | pass goal => exact ⟨h.count, h.alert⟩

/-- **The work that is left to do** keeps the state sound: a ring reaches all who sleep, and a
    waiter in its turn only goes on from where it is. -/
theorem Sound.work (h : Sound s) (k : Work) : Sound (s.work k) := by
  cases k with
  | ring n =>
    rcases ring_cases s n with ⟨hsame, -⟩ | ⟨hleaving, hrung⟩
    · rwa [show s.work (.ring n) = s from hsame]
    · obtain ⟨hn, hget⟩ := List.getElem?_eq_some_iff.1 hleaving
      rw [show s.work (.ring n) = _ from hrung]
      refine ⟨?_, fun w hw => (h.alert w hw).ring⟩
      -- The one who rings was not counted any more, so that its going changes no count.
      show s.count = (s.guards.set n Guard.gone).count Guard.held
      rw [List.count_set hn, hget, h.count]
      rfl
  | turn i t =>
    refine ⟨h.count, fun w hw => ?_⟩
    obtain ⟨j, hj⟩ := List.mem_iff_getElem?.1 hw
    rw [show (s.work (.turn i t)).waiters = s.waiters.modify i _ from rfl,
      List.getElem?_modify, Option.map_eq_map, Option.map_eq_some_iff] at hj
    obtain ⟨v, hv, rfl⟩ := hj
    have halert := h.alert v (List.mem_of_getElem? hv)
    split
    · exact halert.turn .inl t
    · exact halert

/-- One move of either kind keeps the state sound. -/
theorem Sound.move (h : Sound s) : ∀ m, Sound (s.move m)
  | .act a => h.act a
  | .work k => h.work k

/-- **Whatever the order** of the moves, the count is right and no waiter sleeps through a ring. -/
theorem sound_after (ms : List Move) (h : Sound s) : Sound (s.after ms) := by
  induction ms generalizing s with
  | nil => exact h
  | cons m ms ih => exact ih (h.move m)

/-! ### What is left when all is quiet -/

/-- When all is quiet, no waiter gets any further in its turn. -/
theorem Resting.turn (h : Resting s) {w : Waiter} (hw : w ∈ s.waiters) (t : Waiter.Turn) :
    w.turn s.now s.count s.rung t = w := by
  obtain ⟨i, hi⟩ := List.mem_iff_getElem?.1 hw
  have hsame := congrArg (fun r : InService => r.waiters[i]?) (h (.turn i t))
  dsimp only [work] at hsame
  rw [List.getElem?_modify, hi] at hsame
  simpa using hsame

/-- Nobody has the bell still to ring. -/
theorem Resting.leaving_notMem (h : Resting s) : .leaving ∉ s.guards := by
  intro hmem
  obtain ⟨n, hn⟩ := List.mem_iff_getElem?.1 hmem
  have hrung := congrArg InService.rung (h (.ring n))
  rw [show s.work (.ring n) = s.ring n from rfl, ring, if_pos hn] at hrung
  exact absurd hrung (Nat.succ_ne_self _)

/-- When all is quiet, a waiter was told something, or the count is not zero and its deadline lies
    ahead. -/
theorem Sound.told_or_waits (h : Sound s) (hrest : Resting s) {w : Waiter} (hw : w ∈ s.waiters) :
    (∃ idle, w.stage = .told idle) ∨
      (∃ heard, w.stage = .asleep heard) ∧ 0 < s.count ∧ ∀ d ∈ w.deadline, s.now < d := by
  refine (Waiter.told_or_asleep (hrest.turn hw)).imp_right ?_
  rintro ⟨heard, hstage, hheard, hahead⟩
  have halert := h.alert w hw
  rw [Waiter.Alert, hstage] at halert
  have hawaited : s.Awaited :=
    halert.elim (fun hlt => absurd hlt (Nat.not_lt_of_le hheard)) And.right
  exact ⟨⟨heard, hstage⟩, hawaited.resolve_right hrest.leaving_notMem, hahead⟩

/-- **No lost wake-up**: when all is quiet and the count is zero, nobody waits any more. -/
theorem told_of_resting (h : Sound s) (hrest : Resting s) (hzero : s.count = 0) {w : Waiter}
    (hw : w ∈ s.waiters) : ∃ idle, w.answer = some idle := by
  rcases h.told_or_waits hrest hw with ⟨idle, htold⟩ | ⟨-, hpos, -⟩
  · exact ⟨idle, Waiter.answer_eq_some.2 htold⟩
  · exact absurd hzero (Nat.ne_of_gt hpos)

/-! ### What a waiter keeps -/

/-- What is done from without leaves a waiter where it was. -/
theorem waiters_act (a : Act) {i : Nat} {w : Waiter} (h : s.waiters[i]? = some w) :
    (s.act a).waiters[i]? = some w := by
  cases a with
  | track | pass _ => exact h
  | leave n => rwa [show (s.act (.leave n)).waiters = s.waiters from waiters_leave n s]
  | await limit =>
    show (s.waiters ++ [_])[i]? = some w
    rwa [List.getElem?_append_left (List.getElem?_eq_some_iff.1 h).1]

/-- What comes of it leaves a waiter where it was, or is a turn of the waiter. -/
theorem waiters_work (k : Work) {i : Nat} {w : Waiter} (h : s.waiters[i]? = some w) :
    (s.work k).waiters[i]? = some w ∨
      ∃ t, (s.work k).waiters[i]? = some (w.turn s.now s.count s.rung t) := by
  cases k with
  | ring n =>
    exact .inl (by rwa [show (s.work (.ring n)).waiters = s.waiters from waiters_ring n s])
  | turn j t =>
    show (s.waiters.modify j _)[i]? = some w ∨ ∃ t, (s.waiters.modify j _)[i]? = some _
    rw [List.getElem?_modify, h]
    by_cases hj : j = i
    · exact .inr ⟨t, by simp [hj]⟩
    · exact .inl (by simp [hj])

/-- A waiter keeps its place and its deadline. -/
theorem waiters_after (ms : List Move) {i : Nat} {w : Waiter} (h : s.waiters[i]? = some w) :
    ∃ w', (s.after ms).waiters[i]? = some w' ∧ w'.deadline = w.deadline ∧
      ∀ idle, w.answer = some idle → w'.answer = some idle := by
  induction ms generalizing s w with
  | nil => exact ⟨w, h, rfl, fun _ ha => ha⟩
  | cons m ms ih =>
    match m with
    | .act a => exact ih (waiters_act a h)
    | .work k =>
      -- A turn keeps what was learnt; all other work does not touch this waiter.
      rcases waiters_work k h with hsame | ⟨t, hturn⟩
      · exact ih hsame
      · obtain ⟨w', hw', hdeadline, hkept⟩ := ih hturn
        refine ⟨w', hw', hdeadline.trans (Waiter.deadline_turn t), fun idle ha => hkept idle ?_⟩
        rwa [Waiter.turn_of_told (Waiter.answer_eq_some.1 ha)]

/-! ### The count -/

/-- How many connections were tracked. -/
def created (ms : List Move) : Nat := ms.count (.act .track)

/-- The connection with a number was dropped, once it was there. -/
def Dropped (ms : List Move) (n : Nat) : Prop :=
  ∃ before later, ms = before ++ .act (.leave n) :: later ∧ n < created before

/-- What has gone out of service after one more move: the same, and what that move has taken out. -/
theorem dropped_concat (ms : List Move) (m : Move) (n : Nat) :
    Dropped (ms ++ [m]) n ↔ Dropped ms n ∨ m = .act (.leave n) ∧ n < created ms := by
  constructor
  · rintro ⟨before, later, heq, hn⟩
    rcases List.eq_nil_or_concat later with rfl | ⟨later, l, rfl⟩
    · obtain ⟨rfl, hm⟩ := List.append_inj' heq rfl
      exact .inr ⟨List.singleton_inj.1 hm, hn⟩
    · rw [List.concat_eq_append, ← List.cons_append, ← List.append_assoc] at heq
      exact .inl ⟨before, later, (List.append_inj' heq rfl).1, hn⟩
  · rintro (⟨before, later, rfl, hn⟩ | ⟨rfl, hn⟩)
    · exact ⟨before, later ++ [m], by simp, hn⟩
    · exact ⟨ms, [], rfl, hn⟩

/-- Only what came into service can go out of it. -/
theorem Dropped.lt_created {ms : List Move} {n : Nat} (h : Dropped ms n) : n < created ms := by
  obtain ⟨before, later, rfl, hn⟩ := h
  exact Nat.lt_of_lt_of_le hn ((List.sublist_append_left _ _).count_le _)

/-- The connections that were tracked: `gone` are those dropped, and the others are held. -/
structure Tally (ms : List Move) (s : InService) (gone : Finset Nat) : Prop where
  dropped : ∀ n, n ∈ gone ↔ Dropped ms n
  guards : s.guards.length = created ms
  held : ∀ n, s.guards[n]? = some .held ↔ n < created ms ∧ n ∉ gone
  count : s.count + gone.card = created ms

/-- Only one kind of move brings a connection into service. -/
theorem created_concat (ms : List Move) (m : Move) :
    created (ms ++ [m]) = created ms + if m = .act .track then 1 else 0 := by
  rw [created, List.count_append, List.count_singleton]
  simp only [created, beq_iff_eq]

/-- A move that tracks and drops nothing leaves the tally as it is. -/
theorem Tally.of_held_iff {ms : List Move} {gone : Finset Nat} {s' : InService}
    (h : Tally ms s gone) {m : Move} (htrack : m ≠ .act .track)
    (hleave : ∀ n, m = .act (.leave n) → n < created ms → n ∈ gone)
    (hlength : s'.guards.length = s.guards.length)
    (hheld : ∀ n : Nat, s'.guards[n]? = some Guard.held ↔ s.guards[n]? = some Guard.held)
    (hcount : s'.count = s.count) : Tally (ms ++ [m]) s' gone := by
  have hcreated : created (ms ++ [m]) = created ms := by rw [created_concat, if_neg htrack]; rfl
  refine ⟨fun n => ?_, ?_, fun n => ?_, ?_⟩
  · rw [dropped_concat, ← h.dropped]
    exact ⟨.inl, fun hn => hn.elim id fun ⟨hm, hlt⟩ => hleave n hm hlt⟩
  · rw [hlength, h.guards, hcreated]
  · rw [hheld, h.held, hcreated]
  · rw [hcount, h.count, hcreated]

/-- A connection that comes into service is tallied as held. -/
theorem Tally.track {ms : List Move} {gone : Finset Nat} (h : Tally ms s gone) :
    Tally (ms ++ [.act .track]) s.track gone := by
  have hcreated : created (ms ++ [.act .track]) = created ms + 1 := created_concat ms _
  have hnew : created ms ∉ gone := fun hmem =>
    absurd ((h.dropped _).1 hmem).lt_created (Nat.lt_irrefl _)
  refine ⟨fun n => ?_, ?_, fun n => ?_, ?_⟩
  · rw [dropped_concat, ← h.dropped]
    exact ⟨.inl, fun hn => hn.elim id nofun⟩
  · rw [hcreated, InService.track, List.length_append, h.guards]
    rfl
  · show (s.guards ++ [.held])[n]? = some .held ↔ _
    rw [hcreated]
    -- The new connection has the first number that is free; those before it are as they were.
    rcases Nat.lt_trichotomy n (created ms) with hlt | rfl | hgt
    · rw [List.getElem?_append_left (h.guards ▸ hlt), h.held]
      exact and_congr_left fun _ => ⟨Nat.lt_succ_of_lt, fun _ => hlt⟩
    · rw [← h.guards, List.getElem?_concat_length, h.guards]
      exact ⟨fun _ => ⟨Nat.lt_succ_self _, hnew⟩, fun _ => rfl⟩
    · rw [List.getElem?_eq_none (by rw [List.length_append, h.guards]; exact hgt)]
      exact ⟨nofun, fun ⟨hlt, _⟩ => absurd hlt (by omega)⟩
  · show s.count + 1 + gone.card = _
    have := h.count
    omega

/-- A connection that goes out of service is tallied as gone; one that went before is so already. -/
theorem Tally.leave {ms : List Move} {gone : Finset Nat} (h : Tally ms s gone) (hs : Sound s)
    (n : Nat) : ∃ gone', Tally (ms ++ [.act (.leave n)]) (s.leave n) gone' := by
  rcases leave_cases s n with ⟨hsame, hnot⟩ | ⟨hheld, hleft⟩
  · -- Nothing is held under this number any more, so that nothing changes.
    refine ⟨gone, h.of_held_iff nofun (fun k hk hlt => ?_) (by rw [hsame]) (by simp [hsame])
      (by rw [hsame])⟩
    obtain rfl : n = k := by injection hk with hk; injection hk
    by_contra hmem
    exact hnot ((h.held n).2 ⟨hlt, hmem⟩)
  · obtain ⟨hlt, hmem⟩ := (h.held n).1 hheld
    obtain ⟨hn, -⟩ := List.getElem?_eq_some_iff.1 hheld
    have hcreated : created (ms ++ [.act (.leave n)]) = created ms := created_concat ms _
    refine ⟨insert n gone, fun k => ?_, ?_, fun k => ?_, ?_⟩
    · rw [dropped_concat, Finset.mem_insert, h.dropped, or_comm]
      refine or_congr_right ⟨fun hk => ⟨by rw [hk], hk ▸ hlt⟩, fun ⟨hk, _⟩ => ?_⟩
      injection hk with hk
      injection hk with hk
      exact hk.symm
    · rw [hleft, hcreated, ← h.guards]
      exact List.length_set
    · have hset : (s.guards.set n (if s.count = 1 then .leaving else .gone))[k]? = some .held ↔
          k ≠ n ∧ s.guards[k]? = some .held := by
        rw [List.getElem?_set]
        by_cases hk : n = k
        · subst hk
          simp only [if_true, if_pos hn, ne_eq, not_true_eq_false, false_and, iff_false]
          split <;> nofun
        · rw [if_neg hk]
          exact ⟨fun hh => ⟨Ne.symm hk, hh⟩, And.right⟩
      rw [hleft, hcreated]
      show _ ↔ k < created ms ∧ k ∉ insert n gone
      rw [hset, h.held, Finset.mem_insert, not_or]
      exact ⟨fun ⟨hk, hlt, hmem⟩ => ⟨hlt, hk, hmem⟩, fun ⟨hlt, hk, hmem⟩ => ⟨hk, hlt, hmem⟩⟩
    · have hpos : 0 < s.count := by
        rw [hs.count]
        exact List.count_pos_iff.2 (List.mem_of_getElem? hheld)
      have := h.count
      rw [hleft, hcreated, Finset.card_insert_of_notMem hmem]
      show s.count - 1 + (gone.card + 1) = _
      omega

/-- The ring behind the last one to go changes nothing in the tally. -/
theorem Tally.ring {ms : List Move} {gone : Finset Nat} (h : Tally ms s gone) (n : Nat) :
    Tally (ms ++ [.work (.ring n)]) (s.ring n) gone := by
  rcases ring_cases s n with ⟨hsame, -⟩ | ⟨hleaving, hrung⟩
  · exact h.of_held_iff nofun nofun (by rw [hsame]) (by simp [hsame]) (by rw [hsame])
  · rw [hrung]
    refine h.of_held_iff nofun nofun List.length_set (fun k => ?_) rfl
    show (s.guards.set n .gone)[k]? = _ ↔ _
    rw [List.getElem?_set]
    by_cases hk : n = k
    · subst hk
      rw [if_pos rfl, hleaving]
      split <;> simp
    · rw [if_neg hk]

/-- **The count is that of the connections tracked without those dropped**, whatever the order of
    the moves. -/
theorem exists_gone (ms : List Move) : ∃ gone, Tally ms (empty.after ms) gone := by
  -- By induction from the end: the tally of a row of moves is carried on by the last of them.
  induction ms using List.reverseRecOn with
  | nil =>
    refine ⟨∅, fun n => ⟨nofun, ?_⟩, rfl, fun n => ⟨nofun, nofun⟩, rfl⟩
    rintro ⟨before, later, heq, -⟩
    exact absurd heq.symm (by simp)
  | append_singleton ms m ih =>
    obtain ⟨gone, h⟩ := ih
    rw [after_append]
    match m with
    | .act .track => exact ⟨gone, h.track⟩
    | .act (.leave n) => exact h.leave (sound_after ms sound_empty) n
    | .work (.ring n) => exact ⟨gone, h.ring n⟩
    | .act (.await _) | .act (.pass _) | .work (.turn _ _) =>
      exact ⟨gone, h.of_held_iff nofun nofun rfl (fun _ => Iff.rfl) rfl⟩

end InService

end ForwardProxy
