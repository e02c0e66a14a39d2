import ForwardProxy.Proofs.Accept.Orders
import ForwardProxy.Proofs.Clock

namespace ForwardProxy

/-!
# What a waiter learns and when

A course of episodes: in each something is done from without, and then, in any order, everything
happens that comes of it.  At the end of an episode all is quiet, and it is there that the count
decides what is learnt: `true` at the first such point with a count of zero, `false` at the first at
which the clock stands at the deadline.  The running model goes through such a course.

* `InService.Settled` — a course that comes to rest after each episode.
* `InService.Verdict` — what a waiter learns from the points of a course, and at which of them.
* `InService.exists_course` — a step of the running model is such a course.
* `InService.wakeups` — what holds in every order, what is learnt in every course, and that the
  running model goes through one.
-/

/-! ### Between a call and the rest that follows it -/

namespace Waiter

variable {now count rung : Nat} {w : Waiter}

/-- What a waiter was told is so at an instant and a count, and at its deadline it sleeps only if
    the count is not zero. -/
def Fair (now count : Nat) (w : Waiter) : Prop :=
  match w.stage with
  | .told true => count = 0
  | .told false => 0 < count ∧ ∃ d ∈ w.deadline, d ≤ now
  | .asleep _ => (∃ d ∈ w.deadline, d ≤ now) → 0 < count
  | _ => True

/-- A waiter that has been treated fairly still has been after a turn of its own. -/
theorem Fair.turn (h : w.Fair now count) (t : Turn) : (w.turn now count rung t).Fair now count := by
  rcases turn_cases now count rung w t with he | ⟨_, _, _, he⟩ | ⟨_, he⟩ | ⟨_, _, hzero, he⟩ |
    ⟨_, _, hpos, he⟩ | ⟨heard, hstage, hdue, he⟩ <;> rw [he]
  · exact h
  · trivial
  · trivial
  · exact hzero
  · exact fun _ => hpos
  · rw [Fair, hstage] at h
    exact ⟨h hdue, hdue⟩

/-- A waiter sleeps for good reason: the count is not zero and the deadline lies ahead. -/
def Waits (now count : Nat) (w : Waiter) : Prop :=
  w.answer = none ∧ 0 < count ∧ ∀ d ∈ w.deadline, now < d

/-- Where a waiter stands when all is quiet. -/
inductive Rested (now count : Nat) (w : Waiter) : Prop where
  | idle (answer : w.answer = some true) (zero : count = 0)
  | late (answer : w.answer = some false) (pos : 0 < count) (due : ∃ d ∈ w.deadline, d ≤ now)
  | waits (waits : w.Waits now count)

end Waiter

namespace InService

variable {s p : InService}

/-- The work that is left to do takes no time. -/
@[simp] theorem now_work (s : InService) (k : Work) : (s.work k).now = s.now := by
  cases k with
  | ring n => exact now_ring n s
  | turn i t => rfl

/-- The work that is left to do leaves the count. -/
@[simp] theorem count_work (s : InService) (k : Work) : (s.work k).count = s.count := by
  cases k with
  | ring n => exact count_ring n s
  | turn i t => rfl

/-- Any amount of work that is left to do takes no time and leaves the count. -/
theorem after_works (s : InService) (ks : List Work) :
    (s.after (ks.map .work)).now = s.now ∧ (s.after (ks.map .work)).count = s.count := by
  induction ks generalizing s with
  | nil => exact ⟨rfl, rfl⟩
  | cons k ks ih =>
    obtain ⟨hnow, hcount⟩ := ih (s.work k)
    exact ⟨hnow.trans (now_work s k), hcount.trans (count_work s k)⟩

/-- Whatever comes of a call, and in whatever order, a waiter is told what is so. -/
theorem fair_works (ks : List Work) {i : Nat} {w : Waiter} (h : s.waiters[i]? = some w)
    (hfair : w.Fair s.now s.count) :
    ∃ w', (s.after (ks.map .work)).waiters[i]? = some w' ∧ w'.deadline = w.deadline ∧
      w'.Fair s.now s.count := by
  induction ks generalizing s w with
  | nil => exact ⟨w, h, rfl, hfair⟩
  | cons k ks ih =>
    have hnow := now_work s k
    have hcount := count_work s k
    rcases waiters_work k h with hsame | ⟨t, hturn⟩
    · have hrest := ih hsame
      rw [hnow, hcount] at hrest
      exact hrest hfair
    · have hrest := ih hturn
      rw [hnow, hcount] at hrest
      obtain ⟨w', hw', hdeadline, hfair'⟩ := hrest (hfair.turn t)
      exact ⟨w', hw', hdeadline.trans (Waiter.deadline_turn t), hfair'⟩

/-- When all is quiet, a waiter has learnt what is so, or sleeps for good reason. -/
theorem rested_of_fair (hs : Sound p) (hrest : Resting p) {w : Waiter} (hw : w ∈ p.waiters)
    (hfair : w.Fair p.now p.count) : w.Rested p.now p.count := by
  rcases hs.told_or_waits hrest hw with ⟨idle, htold⟩ | ⟨⟨heard, hasleep⟩, hpos, hahead⟩
  · rw [Waiter.Fair, htold] at hfair
    cases idle with
    | true => exact .idle (Waiter.answer_eq_some.2 htold) hfair
    | false => exact .late (Waiter.answer_eq_some.2 htold) hfair.1 hfair.2
  · exact .waits ⟨by rw [Waiter.answer, hasleep], hpos, hahead⟩

/-! ### Courses -/

/-- Something that is done, and what comes of it, in the order in which it does. -/
structure Episode where
  act : Act
  works : List Work
  deriving DecidableEq, Repr

def Episode.moves (e : Episode) : List Move := .act e.act :: e.works.map .work

/-- The state at the end of an episode. -/
def through (s : InService) (e : Episode) : InService := s.after e.moves

/-- The state at the end of a course. -/
def ending (s : InService) (es : List Episode) : InService := es.foldl through s

/-- The states at the end of each episode of a course. -/
def points (s : InService) : List Episode → List InService
  | [] => []
  | e :: es => s.through e :: (s.through e).points es

/-- **A course that comes to rest** after each episode. -/
def Settled (s : InService) (es : List Episode) : Prop := ∀ p ∈ s.points es, p.Resting

/-- A course of no episodes ends where it began. -/
@[simp] theorem ending_nil (s : InService) : s.ending [] = s := rfl

/-- A course goes on from the end of its first episode. -/
@[simp] theorem ending_cons (s : InService) (e : Episode) (es : List Episode) :
    s.ending (e :: es) = (s.through e).ending es := rfl

/-- A course in two parts. -/
theorem ending_append (s : InService) (es es' : List Episode) :
    s.ending (es ++ es') = (s.ending es).ending es' := List.foldl_append

/-- The points of a course are the end of its first episode and those behind it. -/
@[simp] theorem points_cons (s : InService) (e : Episode) (es : List Episode) :
    s.points (e :: es) = s.through e :: (s.through e).points es := rfl

/-- The points of a course in two parts. -/
theorem points_append (s : InService) (es es' : List Episode) :
    s.points (es ++ es') = s.points es ++ (s.ending es).points es' := by
  induction es generalizing s with
  | nil => rfl
  | cons e es ih => rw [List.cons_append, points_cons, ih]; rfl

/-- A course is settled if its first episode ends in quiet and the rest of it is settled. -/
theorem settled_cons {e : Episode} {es : List Episode} :
    Settled s (e :: es) ↔ (s.through e).Resting ∧ Settled (s.through e) es := List.forall_mem_cons

/-- A course is settled if both parts of it are. -/
theorem settled_append {es es' : List Episode} :
    Settled s (es ++ es') ↔ Settled s es ∧ Settled (s.ending es) es' := by
  rw [Settled, points_append, List.forall_mem_append]
  rfl

/-- A course is one order of its moves. -/
theorem ending_eq_after (s : InService) (es : List Episode) :
    s.ending es = s.after (es.flatMap Episode.moves) := by
  induction es generalizing s with
  | nil => rfl
  | cons e es ih => rw [ending_cons, ih, List.flatMap_cons, after_append]; rfl

/-- A course from a sound state ends in one. -/
theorem sound_ending (es : List Episode) (h : Sound s) : Sound (s.ending es) :=
  ending_eq_after s es ▸ sound_after _ h

/-! ### One episode -/

/-- The clock never goes past the deadline of someone who waits for it. -/
theorem now_act_le {w : Waiter} (hw : w ∈ s.waiters) (hnone : w.answer = none) {d : Nat}
    (hd : d ∈ w.deadline) (hahead : s.now < d) (a : Act) : (s.act a).now ≤ d := by
  cases a with
  | track | await limit => exact Nat.le_of_lt hahead
  | leave n => exact (now_leave n s).trans_le (Nat.le_of_lt hahead)
  | pass goal =>
    have hmem : d ∈ s.deadlines := by
      refine List.mem_filterMap.2 ⟨w, List.mem_filter.2 ⟨hw, ?_⟩, hd⟩
      rw [hnone]
      rfl
    show (Clock.next? s.now goal s.deadlines).getD (max s.now goal) ≤ d
    -- Time stops at the first deadline, and this one is among them.
    cases hnext : Clock.next? s.now goal s.deadlines with
    | some t => exact Clock.le_of_next? hnext hmem hahead
    | none =>
      exact Nat.max_le.2 ⟨Nat.le_of_lt hahead, Clock.le_of_next?_eq_none hnext hmem hahead⟩

/-- A call changes the clock or the count, not both. -/
theorem now_or_count_act (s : InService) (a : Act) :
    (s.act a).now = s.now ∨ (s.act a).count = s.count := by
  cases a with
  | track | await limit => exact .inl rfl
  | leave n => exact .inl (now_leave n s)
  | pass goal => exact .inr rfl

/-- Someone who waits can be told what is so after the next call. -/
theorem fair_act {w : Waiter} (hwaits : w.Waits s.now s.count) (a : Act) :
    w.Fair (s.act a).now (s.act a).count := by
  obtain ⟨hnone, hpos, hahead⟩ := hwaits
  unfold Waiter.Fair
  unfold Waiter.answer at hnone
  split at hnone
  · cases hnone
  · rename_i hnot
    split
    · exact absurd ‹_› (hnot _)
    · exact absurd ‹_› (hnot _)
    · rintro ⟨d, hd, hdue⟩
      -- An act lets time go by or changes the count, but not both.
      rcases now_or_count_act s a with h | h
      · exact absurd (hahead d hd) (by omega)
      · rwa [h]
    · trivial

/-- **At the end of an episode** a waiter that was not told before has been told what is so there,
    or waits on. -/
theorem rested_through (hs : Sound s) {e : Episode} (hrest : (s.through e).Resting) {i : Nat}
    {w : Waiter} (hw : (s.act e.act).waiters[i]? = some w)
    (hfair : w.Fair (s.act e.act).now (s.act e.act).count)
    (hle : ∀ d ∈ w.deadline, (s.act e.act).now ≤ d) :
    ∃ w', (s.through e).waiters[i]? = some w' ∧ w'.deadline = w.deadline ∧
      w'.Rested (s.through e).now (s.through e).count ∧
      ∀ d ∈ w.deadline, (s.through e).now ≤ d := by
  obtain ⟨w', hw', hdeadline, hfair'⟩ := fair_works e.works hw hfair
  obtain ⟨hnow, hcount⟩ := after_works (s.act e.act) e.works
  rw [← hnow, ← hcount] at hfair'
  refine ⟨w', hw', hdeadline, rested_of_fair (sound_after e.moves hs) hrest
    (List.mem_of_getElem? hw') hfair', fun d hd => ?_⟩
  exact hnow.trans_le (hle d hd)

/-! ### A whole course -/

/-- Among some points there is one of a kind, before which the count was never zero and the deadline
    always lay ahead. -/
def FirstAt (deadline : Option Nat) (kind : InService → Prop) (ps : List InService) : Prop :=
  ∃ before p later, ps = before ++ p :: later ∧ kind p ∧
    ∀ q ∈ before, 0 < q.count ∧ ∀ d ∈ deadline, q.now < d

/-- What happens first in a course happens at its first point, or nothing that counts is there and
    it happens first in the rest. -/
theorem firstAt_cons {deadline : Option Nat} {kind : InService → Prop} {ps : List InService} :
    FirstAt deadline kind (p :: ps) ↔
      kind p ∨ (0 < p.count ∧ ∀ d ∈ deadline, p.now < d) ∧ FirstAt deadline kind ps := by
  constructor
  · rintro ⟨before, q, later, heq, hkind, hbefore⟩
    cases before with
    | nil =>
      obtain ⟨rfl, -⟩ := List.cons_eq_cons.1 heq
      exact .inl hkind
    | cons b before =>
      obtain ⟨rfl, rfl⟩ := List.cons_eq_cons.1 heq
      exact .inr ⟨hbefore p List.mem_cons_self, before, q, later, rfl, hkind,
        fun r hr => hbefore r (List.mem_cons_of_mem _ hr)⟩
  · rintro (hkind | ⟨hp, before, q, later, rfl, hkind, hbefore⟩)
    · exact ⟨[], p, ps, rfl, hkind, nofun⟩
    · exact ⟨p :: before, q, later, rfl, hkind, List.forall_mem_cons.2 ⟨hp, hbefore⟩⟩

/-- Nothing happens in a course without points. -/
theorem not_firstAt_nil {deadline : Option Nat} {kind : InService → Prop} :
    ¬ FirstAt deadline kind [] := by
  rintro ⟨before, p, later, heq, -⟩
  exact absurd heq.symm (by simp)

/-- **What a waiter learns** from the points that a course came through since it started, if it has
    a deadline or not. -/
structure Verdict (deadline : Option Nat) (ps : List InService) (answer : Option Bool) : Prop where
  /-- It learns `true` at the first point with a count of zero, if that is no later than the
      deadline. -/
  idle : answer = some true ↔
    FirstAt deadline (fun p => p.count = 0 ∧ ∀ d ∈ deadline, p.now ≤ d) ps
  /-- It learns `false` exactly at the deadline if there was no such point. -/
  late : answer = some false ↔ FirstAt deadline (fun p => 0 < p.count ∧ deadline = some p.now) ps
  /-- It has nothing to learn as long as the count is not zero and the deadline lies ahead. -/
  waits : answer = none → ∀ p ∈ ps, 0 < p.count ∧ ∀ d ∈ deadline, p.now < d

/-- What was learnt at a point is kept, and who waits there learns from the points that follow. -/
theorem verdict_cons {es : List Episode} {i : Nat} {w : Waiter} (hw : p.waiters[i]? = some w)
    (hrested : w.Rested p.now p.count) (hle : ∀ d ∈ w.deadline, p.now ≤ d)
    (hwaits : w.Waits p.now p.count → ∃ w', (p.ending es).waiters[i]? = some w' ∧
      w'.deadline = w.deadline ∧ Verdict w.deadline (p.points es) w'.answer) :
    ∃ w', (p.ending es).waiters[i]? = some w' ∧ w'.deadline = w.deadline ∧
      Verdict w.deadline (p :: p.points es) w'.answer := by
  obtain ⟨w', hw', hdeadline, hkept⟩ := waiters_after (es.flatMap Episode.moves) hw
  rw [← ending_eq_after] at hw'
  rcases hrested with ⟨htold, hzero⟩ | ⟨htold, hpos, d, hd, hdue⟩ | hwaiting
  · refine ⟨w', hw', hdeadline, ?_⟩
    rw [hkept true htold]
    refine ⟨⟨fun _ => firstAt_cons.2 (.inl ⟨hzero, hle⟩), fun _ => rfl⟩, ⟨nofun, fun hfirst => ?_⟩,
      nofun⟩
    rcases firstAt_cons.1 hfirst with ⟨hpos, -⟩ | ⟨⟨hpos, -⟩, -⟩ <;> omega
  · have hdeadline' : w.deadline = some p.now :=
      hd.trans (congrArg some (Nat.le_antisymm hdue (hle d hd)))
    refine ⟨w', hw', hdeadline, ?_⟩
    rw [hkept false htold]
    refine ⟨⟨nofun, fun hfirst => ?_⟩, ⟨fun _ => firstAt_cons.2 (.inl ⟨hpos, hdeadline'⟩),
      fun _ => rfl⟩, nofun⟩
    rcases firstAt_cons.1 hfirst with ⟨hzero, -⟩ | ⟨⟨-, hahead⟩, -⟩
    · omega
    · exact absurd (hahead d hd) (Nat.not_lt_of_le hdue)
  · obtain ⟨w'', hw'', hdeadline'', hidle, hlate, hnone⟩ := hwaits hwaiting
    obtain ⟨-, hpos, hahead⟩ := hwaiting
    refine ⟨w'', hw'', hdeadline'', hidle.trans ?_, hlate.trans ?_, fun h =>
      List.forall_mem_cons.2 ⟨⟨hpos, hahead⟩, hnone h⟩⟩
    · rw [firstAt_cons]
      exact ⟨fun h => .inr ⟨⟨hpos, hahead⟩, h⟩, fun h => h.elim (fun h => by omega) And.right⟩
    · rw [firstAt_cons]
      refine ⟨fun h => .inr ⟨⟨hpos, hahead⟩, h⟩, fun h => h.elim (fun h => ?_) And.right⟩
      exact absurd (hahead _ h.2) (Nat.lt_irrefl _)

/-- Who waits at a point learns from the points that follow. -/
theorem verdict_of_waits {es : List Episode} (hs : Sound s) (hsettled : Settled s es) {i : Nat}
    {w : Waiter} (hw : s.waiters[i]? = some w) (hwaits : w.Waits s.now s.count) :
    ∃ w', (s.ending es).waiters[i]? = some w' ∧ w'.deadline = w.deadline ∧
      Verdict w.deadline (s.points es) w'.answer := by
  -- By induction on the course, from the point at which the waiter came to rest.
  induction es generalizing s w with
  | nil =>
    refine ⟨w, hw, rfl, ?_⟩
    rw [hwaits.1]
    exact ⟨⟨nofun, fun h => absurd h not_firstAt_nil⟩, ⟨nofun, fun h => absurd h not_firstAt_nil⟩,
      fun _ => nofun⟩
  | cons e es ih =>
    obtain ⟨hrest, hsettled⟩ := settled_cons.1 hsettled
    obtain ⟨w', hw', hdeadline, hrested, hle⟩ := rested_through hs hrest (waiters_act e.act hw)
      (fair_act hwaits e.act) fun d hd =>
        now_act_le (List.mem_of_getElem? hw) hwaits.1 hd (hwaits.2.2 d hd) e.act
    rw [← hdeadline] at hle ⊢
    exact verdict_cons hw' hrested hle fun hwaits' =>
      ih (sound_after e.moves hs) hsettled hw' hwaits'

/-- Who starts to wait learns from the points of the course from then on. -/
theorem verdict_of_await {limit : Option Nat} {works : List Work} {es : List Episode}
    (hs : Sound s) (hsettled : Settled s (⟨.await limit, works⟩ :: es)) :
    ∃ w', (s.ending (⟨.await limit, works⟩ :: es)).waiters[s.waiters.length]? = some w' ∧
      w'.deadline = limit.map (Time.deadline s.now) ∧
      Verdict w'.deadline (s.points (⟨.await limit, works⟩ :: es)) w'.answer := by
  obtain ⟨hrest, hsettled⟩ := settled_cons.1 hsettled
  have hnew : (s.act (.await limit)).waiters[s.waiters.length]? =
      some ⟨limit.map (Time.deadline s.now), .awake⟩ := List.getElem?_concat_length
  obtain ⟨w, hw, hdeadline, hrested, hle⟩ := rested_through hs hrest hnew trivial fun d hd => by
    obtain ⟨l, -, rfl⟩ := Option.map_eq_some_iff.1 hd
    exact Time.le_deadline s.now l
  rw [← hdeadline] at hle
  obtain ⟨w', hw', hdeadline', hverdict⟩ := verdict_cons hw hrested hle fun hwaits =>
    verdict_of_waits (sound_after _ hs) hsettled hw hwaits
  exact ⟨w', hw', hdeadline'.trans hdeadline, by rwa [hdeadline']⟩

/-! ### The running model -/

end InService

namespace Waiter

variable {now count rung : Nat} {w : Waiter}

/-- Who sleeps, has heard every ring and minded the deadline, does nothing more. -/
theorem turn_expire {heard : Nat} (hstage : w.stage = .asleep heard) (hheard : rung ≤ heard)
    (t : Turn) : (w.expire now).turn now count rung t = w.expire now := by
  by_cases hdue : w.deadline.any (· ≤ now) = true
  · have htold : w.expire now = { w with stage := .told false } := by
      rw [expire, hstage]
      exact if_pos hdue
    exact turn_of_told (congrArg stage htold) t
  · have hsame : w.expire now = w := by
      rw [expire, hstage]
      exact if_neg hdue
    rw [hsame]
    refine turn_of_asleep hstage hheard (fun d hd => ?_) t
    rw [Option.mem_def] at hd
    simpa [hd] using hdue

/-- Who is awake listens from then on, so it has heard every ring when it sleeps. -/
theorem turn_listen (deadline : Option Nat) (t : Turn) :
    (((⟨deadline, .awake⟩ : Waiter).listen rung |>.look count).expire now).turn now count rung t =
      ((⟨deadline, .awake⟩ : Waiter).listen rung |>.look count).expire now := by
  rcases Nat.eq_zero_or_pos count with rfl | hpos
  · exact turn_of_told rfl t
  · have hlook : ((⟨deadline, .awake⟩ : Waiter).listen rung).look count =
        ⟨deadline, .asleep rung⟩ := congrArg (Waiter.mk deadline) (if_neg (Nat.ne_of_gt hpos))
    rw [hlook]
    exact turn_expire rfl (Nat.le_refl rung) t

/-- Who sleeps either heard every ring or is awake again. -/
theorem turn_rouse (deadline : Option Nat) (heard : Nat) (t : Turn) :
    (((⟨deadline, .asleep heard⟩ : Waiter).rouse rung |>.listen rung |>.look count).expire now).turn
        now count rung t =
      (((⟨deadline, .asleep heard⟩ : Waiter).rouse rung |>.listen rung).look count).expire now := by
  by_cases hheard : heard < rung
  · have hrouse : (⟨deadline, .asleep heard⟩ : Waiter).rouse rung = ⟨deadline, .awake⟩ :=
      if_pos hheard
    rw [hrouse]
    exact turn_listen deadline t
  · have hrouse : (⟨deadline, .asleep heard⟩ : Waiter).rouse rung = ⟨deadline, .asleep heard⟩ :=
      if_neg hheard
    rw [hrouse]
    exact turn_expire rfl (Nat.le_of_not_lt hheard) t

/-- **Who went on as far as it can** does nothing more. -/
theorem turn_poll (w : Waiter) (t : Turn) :
    (w.poll now count rung).turn now count rung t = w.poll now count rung := by
  obtain ⟨deadline, stage⟩ := w
  cases stage with
  | awake => exact turn_listen deadline t
  | listening heard =>
    rcases Nat.eq_zero_or_pos count with rfl | hpos
    · exact turn_of_told rfl t
    · have hlook : (⟨deadline, .listening heard⟩ : Waiter).look count =
          ⟨deadline, .asleep heard⟩ := congrArg (Waiter.mk deadline) (if_neg (Nat.ne_of_gt hpos))
      rw [poll, hlook]
      exact turn_rouse deadline heard t
  | asleep heard => exact turn_rouse deadline heard t
  | told idle => exact turn_of_told rfl t

end Waiter

namespace InService

variable {s : InService}

/-- All turns that the waiter with a number takes when it goes on as far as it can. -/
def turns (i : Nat) : List Work :=
  [.turn i .look, .turn i .rouse, .turn i .listen, .turn i .look, .turn i .expire]

/-- All turns of one waiter, in the order of its stages, take it as far as it gets by itself. -/
theorem after_turns (s : InService) (i : Nat) :
    s.after ((turns i).map .work) =
      { s with waiters := s.waiters.modify i (Waiter.poll s.now s.count s.rung) } := by
  show { s with
    waiters := ((((s.waiters.modify i _).modify i _).modify i _).modify i _).modify i _ } = _
  simp only [List.modify_modify_eq]
  rfl

/-- When the first few of those who wait have taken their turns, they went as far as they can. -/
theorem after_few_turns (s : InService) (m : Nat) :
    ∃ ws, s.after (((List.range m).flatMap turns).map .work) = { s with waiters := ws } ∧
      ∀ k, ws[k]? = s.waiters[k]?.map fun w =>
        if k < m then w.poll s.now s.count s.rung else w := by
  -- Waiters take their turns in order; those behind the first `m` have had none yet.
  induction m with
  | zero => exact ⟨s.waiters, rfl, fun k => by simp⟩
  | succ m ih =>
    obtain ⟨ws, hws, hget⟩ := ih
    rw [List.range_succ, List.flatMap_append, List.map_append, after_append, hws,
      List.flatMap_singleton, after_turns]
    refine ⟨_, rfl, fun k => ?_⟩
    rw [List.getElem?_modify, hget]
    cases s.waiters[k]? with
    | none => rfl
    | some w =>
      rcases Nat.lt_trichotomy k m with h | rfl | h
      · simp [h, Nat.lt_succ_of_lt h, Nat.ne_of_gt h]
      · simp
      · simp [Nat.not_lt_of_lt h, Nat.ne_of_lt h, show ¬ k < m + 1 by omega]

/-- Taking the turns of all who wait, in the order in which they came, is settling. -/
theorem after_all_turns (s : InService) :
    s.after (((List.range s.waiters.length).flatMap turns).map .work) = settle s.now s := by
  obtain ⟨ws, hws, hget⟩ := after_few_turns s s.waiters.length
  rw [hws, settle]
  congr 1
  refine List.ext_getElem? fun k => ?_
  rw [hget, List.getElem?_map]
  refine Option.map_congr fun w hw => ?_
  rw [if_pos (List.getElem?_eq_some_iff.1 hw).1]

/-- All is quiet if nobody has the bell to ring and no waiter has a turn to take. -/
theorem resting_of (hbell : .leaving ∉ s.guards)
    (hturn : ∀ w ∈ s.waiters, ∀ t, w.turn s.now s.count s.rung t = w) : Resting s := by
  intro k
  cases k with
  | ring n => exact if_neg fun h => hbell (List.mem_of_getElem? h)
  | turn i t =>
    have hsame : s.waiters.modify i (·.turn s.now s.count s.rung t) = s.waiters := by
      refine List.ext_getElem? fun k => ?_
      rw [List.getElem?_modify]
      cases hk : s.waiters[k]? with
      | none => rfl
      | some w =>
        have hw := hturn w (List.mem_of_getElem? hk) t
        by_cases hik : i = k <;> simp [hik, hw]
    exact congrArg (fun ws => { s with waiters := ws }) hsame

/-- Only four turns can move a waiter, so that quiet can be decided. -/
theorem resting_iff : Resting s ↔ .leaving ∉ s.guards ∧ ∀ w ∈ s.waiters,
    ∀ t ∈ [.rouse, .listen, .look, .expire], w.turn s.now s.count s.rung t = w := by
  refine ⟨fun h => ⟨h.leaving_notMem, fun w hw t _ => h.turn hw t⟩, fun ⟨hbell, hturn⟩ => ?_⟩
  exact resting_of hbell fun w hw t => hturn w hw t (by cases t <;> simp)

instance (s : InService) : Decidable (Resting s) := decidable_of_iff _ resting_iff.symm

instance (s : InService) (es : List Episode) : Decidable (Settled s es) :=
  inferInstanceAs (Decidable (∀ p ∈ s.points es, p.Resting))

/-- A settled state is quiet if nobody has the bell to ring. -/
theorem resting_settle (now : Nat) (hbell : .leaving ∉ s.guards) : Resting (settle now s) := by
  refine resting_of hbell fun w hw t => ?_
  obtain ⟨v, -, rfl⟩ := List.mem_map.1 hw
  exact Waiter.turn_poll v t

/-- A connection that is dropped has rung the bell by the end of it. -/
theorem leaving_notMem_drop (hbell : .leaving ∉ s.guards) (n : Nat) :
    .leaving ∉ ((s.leave n).ring n).guards := by
  rcases leave_cases s n with ⟨hsame, -⟩ | ⟨hheld, hleft⟩
  · have hquiet : s.ring n = s := if_neg fun h => hbell (List.mem_of_getElem? h)
    rwa [hsame, hquiet]
  · obtain ⟨hn, -⟩ := List.getElem?_eq_some_iff.1 hheld
    rw [hleft]
    unfold ring
    by_cases hlast : s.count = 1
    · simp only [if_pos hlast, List.getElem?_set_self hn, if_true, List.set_set]
      exact fun h => (List.mem_or_eq_of_mem_set h).elim hbell nofun
    · simp only [if_neg hlast, List.getElem?_set_self hn]
      exact fun h => (List.mem_or_eq_of_mem_set h).elim hbell nofun

/-- What is done from without when something happens. -/
def Event.act (now : Nat) : Event → Act
  | .track => .track
  | .drop n => .leave n
  | .await limit => .await limit
  | .wait span => .pass (now + span)

/-- Settling after a call is an episode that comes to rest. -/
theorem exists_episode (a : Act) (ks : List Work) {r : InService}
    (hr : s.after (.act a :: ks.map .work) = r) (hbell : .leaving ∉ r.guards) :
    ∃ e : Episode, e.act = a ∧ s.through e = settle r.now r ∧ (s.through e).Resting := by
  have hend :
      s.through ⟨a, ks ++ (List.range r.waiters.length).flatMap turns⟩ = settle r.now r := by
    rw [through, Episode.moves, List.map_append, ← List.cons_append, after_append, hr,
      after_all_turns]
  exact ⟨⟨a, _⟩, rfl, hend, hend ▸ resting_settle r.now hbell⟩

/-- Moving the clock is a course of episodes in which it goes as far as it can. -/
theorem exists_course_run (goal now : Nat) (hnow : s.now = now) (hle : now ≤ goal)
    (hbell : .leaving ∉ s.guards) :
    ∃ es : List Episode, es ≠ [] ∧ (∀ e ∈ es, e.act = .pass goal) ∧ Settled s es ∧
      s.ending es = Clock.run deadlines settle goal now s := by
  induction now, s using Clock.run.induct deadlines settle goal with
  | case1 now s hnext =>
    have hpass : s.act (.pass goal) = { s with now := goal } := by
      rw [act, hnow, hnext, Option.getD_none, Nat.max_eq_right hle]
    obtain ⟨e, hact, hend, hrest⟩ := exists_episode (.pass goal) [] hpass hbell
    refine ⟨[e], List.cons_ne_nil _ _, List.forall_mem_singleton.2 hact,
      List.forall_mem_singleton.2 hrest, ?_⟩
    rw [Clock.run_of_next?_eq_none hnext]
    exact hend
  | case2 now s t hnext ih =>
    have hpass : s.act (.pass goal) = { s with now := t } := by
      rw [act, hnow, hnext, Option.getD_some]
    obtain ⟨e, hact, hend, hrest⟩ := exists_episode (.pass goal) [] hpass hbell
    obtain ⟨es, -, hacts, hsettled, hending⟩ := ih rfl (Clock.lt_and_le_of_next? hnext).2 hbell
    have hend' : s.through e = settle t s := hend
    refine ⟨e :: es, List.cons_ne_nil _ _, List.forall_mem_cons.2 ⟨hact, hacts⟩, ?_, ?_⟩
    · exact settled_cons.2 ⟨hrest, hend' ▸ hsettled⟩
    · rw [ending_cons, hend', hending, Clock.run_of_next? hnext]

/-- **A step of the running model** is a course that comes to rest after each episode. -/
theorem exists_course (hrest : Resting s) (e : Event) :
    ∃ es : List Episode, es ≠ [] ∧ (∀ ep ∈ es, ep.act = e.act s.now) ∧ Settled s es ∧
      s.ending es = s.step e := by
  have hbell := hrest.leaving_notMem
  -- All but the going by of time is an episode of one act.
  have hone : ∀ (a : Act) (ks : List Work) (r : InService),
      s.after (.act a :: ks.map .work) = r → .leaving ∉ r.guards → ∃ es : List Episode, es ≠ [] ∧
        (∀ ep ∈ es, ep.act = a) ∧ Settled s es ∧ s.ending es = settle r.now r := by
    intro a ks r hr hbell'
    obtain ⟨ep, hact, hend, hrest'⟩ := exists_episode a ks hr hbell'
    exact ⟨[ep], List.cons_ne_nil _ _, List.forall_mem_singleton.2 hact,
      List.forall_mem_singleton.2 hrest', hend⟩
  cases e with
  | track =>
    refine hone .track [] s.track rfl fun h => ?_
    exact (List.mem_append.1 h).elim hbell (by simp)
  | drop n =>
    have hdrop := hone (.leave n) [.ring n] ((s.leave n).ring n) rfl (leaving_notMem_drop hbell n)
    rwa [now_ring, now_leave] at hdrop
  | await limit => exact hone (.await limit) [] (s.await limit) rfl hbell
  | wait span => exact exists_course_run _ _ rfl (Nat.le_add_right _ _) hbell

/-- What holds after some moves, whatever their order. -/
structure Upheld (ms : List Move) : Prop where
  /-- The count is that of the connections tracked without those dropped. -/
  count : ∃ gone : Finset Nat, (∀ n, n ∈ gone ↔ Dropped ms n) ∧
    (empty.after ms).count + gone.card = created ms
  /-- Nobody still waits when all is quiet and the count is zero. -/
  told : (empty.after ms).Resting → (empty.after ms).count = 0 →
    ∀ w ∈ (empty.after ms).waiters, ∃ idle, w.answer = some idle
  /-- What was learnt is not forgotten, whatever moves follow. -/
  kept : ∀ (more : List Move) (i : Nat) (w : Waiter) (idle : Bool),
    (empty.after ms).waiters[i]? = some w → w.answer = some idle →
      ∃ w', (empty.after (ms ++ more)).waiters[i]? = some w' ∧ w'.answer = some idle

/-- Every order of moves upholds the laws of the count. -/
theorem upheld (ms : List Move) : Upheld ms := by
  have hsound : Sound (empty.after ms) := sound_after ms sound_empty
  refine ⟨?_, fun hrest hzero w hw => told_of_resting hsound hrest hzero hw, ?_⟩
  · obtain ⟨gone, htally⟩ := exists_gone ms
    exact ⟨gone, htally.dropped, htally.count⟩
  · intro more i w idle hw htold
    obtain ⟨w', hw', -, hkept⟩ := waiters_after more hw
    rw [← after_append] at hw'
    exact ⟨w', hw', hkept idle htold⟩

/-- **No wake-up is lost.**  In whatever order calls and wake-ups are cut down to single moves, the
    count is right, nobody waits when all is quiet at a count of zero, and what was learnt is kept.
    In a course that comes to rest after each call, whoever starts to wait learns what the points
    from then on tell, at the first that tells it.  The running model goes through such courses. -/
theorem wakeups :
    (∀ ms, Upheld ms) ∧
    (∀ before limit works later, Settled empty (before ++ ⟨.await limit, works⟩ :: later) →
      ∃ w, (empty.ending (before ++ ⟨.await limit, works⟩ :: later)).waiters[
          (empty.ending before).waiters.length]? = some w ∧
        w.deadline = limit.map (Time.deadline (empty.ending before).now) ∧
        Verdict w.deadline ((empty.ending before).points (⟨.await limit, works⟩ :: later))
          w.answer) ∧
    (∀ (s : InService) (e : Event), Resting s →
      ∃ es : List Episode, es ≠ [] ∧ (∀ ep ∈ es, ep.act = e.act s.now) ∧ Settled s es ∧
        s.ending es = s.step e) := by
  refine ⟨upheld, fun before limit works later hsettled => ?_, fun s e hrest =>
    exists_course hrest e⟩
  rw [ending_append]
  exact verdict_of_await (sound_ending before sound_empty) (settled_append.1 hsettled).2

/-- Two wait for one connection.  The clock stops at the deadline of the second, which learns that
    the connection is still there; the first one learns that it left.  The model goes on from there
    through courses as well. -/
theorem wakeups_for_two_waiters :
    let before : List Episode := [⟨.track, []⟩, ⟨.await none, [.turn 0 .listen, .turn 0 .look]⟩]
    let es : List Episode := [⟨.await (some 5), [.turn 1 .listen, .turn 1 .look]⟩,
      ⟨.pass 9, [.turn 1 .expire]⟩,
      ⟨.leave 0, [.turn 0 .rouse, .ring 0, .turn 0 .rouse, .turn 0 .listen, .turn 0 .look]⟩]
    Settled empty (before ++ es) ∧
      (empty.ending (before ++ es)).waiters = [⟨none, .told true⟩, ⟨some 5, .told false⟩] ∧
      FirstAt (some 5) (fun p => 0 < p.count ∧ some 5 = some p.now)
        ((empty.ending before).points es) ∧
      Resting (empty.ending (before ++ es)) ∧
      ∃ more : List Episode, more ≠ [] ∧ (∀ ep ∈ more, ep.act = .pass 8) ∧
        Settled (empty.ending (before ++ es)) more ∧
        (empty.ending (before ++ es)).ending more =
          (empty.ending (before ++ es)).step (.wait 3) := by
  intro before es
  have hsettled : Settled empty (before ++ es) := by decide
  have hwaiters : (empty.ending (before ++ es)).waiters =
      [⟨none, .told true⟩, ⟨some 5, .told false⟩] := by decide
  obtain ⟨w, hw, -, hverdict⟩ := wakeups.2.1 before (some 5) _ _ hsettled
  rw [hwaiters] at hw
  obtain rfl : ⟨some 5, .told false⟩ = w := Option.some.inj hw
  have hrest : Resting (empty.ending (before ++ es)) := by decide
  exact ⟨hsettled, hwaiters, hverdict.late.1 rfl, hrest, wakeups.2.2 _ (.wait 3) hrest⟩

end InService

end ForwardProxy
