import ForwardProxy.Accept.Backoff
import Mathlib.Algebra.Group.Nat.Defs
import Mathlib.Data.List.Induction
import Mathlib.Logic.Function.Iterate

namespace ForwardProxy.Backoff

/-!
# The delays between attempts

* `Backoff.reset_iterate` — a success makes all failures before it forgotten.
* `Backoff.current_iterate` — the delay after any number of failures in a row.
* `Backoff.Call`, `Backoff.after`, `Backoff.told` — failures and successes in any order, and the
  delays that are told meanwhile.
* `Backoff.doubling` — every delay in closed form.
* `Backoff.rising` — delays that start above zero rise from one success to the next.
-/

variable {least most : Nat}

/-- The least delay of a series stays the same. -/
theorem least_next (b : Backoff) : b.next.least = b.least := by
  unfold next
  split <;> rfl

/-- The most delay of a series stays the same. -/
theorem most_next (b : Backoff) : b.next.most = b.most := by
  unfold next
  split <;> rfl

/-- The bounds stay the same, however many attempts fail. -/
theorem bounds_iterate (b : Backoff) (k : Nat) :
    (next^[k] b).least = b.least ∧ (next^[k] b).most = b.most := by
  induction k with
  | zero => exact ⟨rfl, rfl⟩
  | succ k ih =>
    rw [Function.iterate_succ_apply', least_next, most_next]
    exact ih

/-- **A success** makes all failures before it forgotten. -/
theorem reset_iterate (least most k : Nat) : (next^[k] (start least most)).reset =
    start least most := by
  obtain ⟨hleast, hmost⟩ := bounds_iterate (start least most) k
  rw [reset, hleast, hmost]
  rfl

/-- **The delay after a failure**: the least one if the last attempt but one was no failure, twice
    the last delay otherwise, and never more than the most. -/
theorem current_iterate (hle : least ≤ most) (hmost : most ≤ Duration.largest) (k : Nat) :
    (next^[k + 1] (start least most)).current = min most (least * 2 ^ k) := by
  induction k with
  | zero =>
    show least = min most (least * 2 ^ 0)
    rw [Nat.pow_zero, Nat.mul_one, Nat.min_eq_right hle]
  | succ k ih =>
    obtain ⟨hleast, hbound⟩ := bounds_iterate (start least most) (k + 1)
    rw [Function.iterate_succ_apply', next]
    split
    · -- Only a least delay of zero, or none but zero, leaves the delay at zero.
      rename_i hzero
      show (next^[k + 1] (start least most)).least = _
      rw [hleast, Nat.pow_succ, ← Nat.mul_assoc]
      rw [ih] at hzero
      show least = _
      have hpos : 0 < 2 ^ k := Nat.two_pow_pos k
      have hnone : least = 0 := by
        rcases Nat.le_total most (least * 2 ^ k) with h | h
        · rw [Nat.min_eq_left h] at hzero
          omega
        · rw [Nat.min_eq_right h] at hzero
          exact (Nat.mul_eq_zero.1 hzero).resolve_right (Nat.ne_of_gt hpos)
      rw [hnone, Nat.zero_mul, Nat.zero_mul, Nat.min_zero]
    · show min (min (_ * 2) Duration.largest) (next^[k + 1] (start least most)).most = _
      rw [hbound, ih, Nat.pow_succ, ← Nat.mul_assoc]
      show min (min (_ * 2) Duration.largest) most = _
      generalize least * 2 ^ k = d
      omega

/-- Four failures in a row, from 50 up to 300. -/
example : (List.range 4).map (fun k => (next^[k + 1] (start 50 300)).current) =
    [50, 100, 200, 300] := by decide

/-! ### Failures and successes in any order -/

/-- What is asked of the delays. -/
inductive Call where
  /-- The delay after one more failure. -/
  | next
  /-- To begin anew after a success. -/
  | reset
  deriving DecidableEq, Repr

/-- The delays after something was asked of them. -/
def call (b : Backoff) : Call → Backoff
  | .next => b.next
  | .reset => b.reset

/-- The delays after all that was asked of them. -/
def after (b : Backoff) (cs : List Call) : Backoff := cs.foldl call b

/-- The delays that are told, in order. -/
def told (b : Backoff) : List Call → List Nat
  | [] => []
  | .next :: cs => b.next.current :: told b.next cs
  | .reset :: cs => told b.reset cs

/-- How often a delay was asked for since the start or the last success. -/
def streak (cs : List Call) : Nat := (cs.reverse.takeWhile (· == .next)).length

/-- Calls made in two parts. -/
theorem after_append (b : Backoff) (cs ds : List Call) :
    b.after (cs ++ ds) = (b.after cs).after ds := List.foldl_append

/-- What is told in two parts: the second one goes on where the first one has stopped. -/
theorem told_append (b : Backoff) (cs ds : List Call) :
    b.told (cs ++ ds) = b.told cs ++ (b.after cs).told ds := by
  induction cs generalizing b with
  | nil => rfl
  | cons c cs ih =>
    cases c with
    | next => exact congrArg (b.next.current :: ·) (ih b.next)
    | reset => exact ih b.reset

/-- One more failure makes the row of failures longer by one. -/
theorem streak_next (cs : List Call) : streak (cs ++ [.next]) = streak cs + 1 := by
  rw [streak, List.reverse_append]
  rfl

/-- A success ends the row of failures. -/
theorem streak_reset (cs : List Call) : streak (cs ++ [.reset]) = 0 := by
  rw [streak, List.reverse_append]
  rfl

/-- Only the failures since the last success count. -/
theorem after_start (least most : Nat) (cs : List Call) :
    (start least most).after cs = next^[streak cs] (start least most) := by
  induction cs using List.reverseRecOn with
  | nil => rfl
  | append_singleton cs c ih =>
    rw [after_append, ih]
    cases c with
    | next => rw [streak_next, Function.iterate_succ_apply']; rfl
    | reset => rw [streak_reset]; exact reset_iterate least most (streak cs)

/-- The delays between `least` and `most`, in closed form. -/
structure Doubling (least most : Nat) : Prop where
  /-- The `k`-th delay since the start or the last success is the least one times `2 ^ (k - 1)`, or
      the most if that is less. -/
  closed : ∀ cs, ((start least most).told (cs ++ [.next])).getLast? =
    some (min (least * 2 ^ streak cs) most)
  /-- What is kept is the delay that was told last. -/
  current_next : ∀ cs, ((start least most).told (cs ++ [.next])).getLast? =
    some ((start least most).after (cs ++ [.next])).current
  current_reset : ∀ cs, ((start least most).after (cs ++ [.reset])).current = 0
  current_start : ((start least most).after []).current = 0

/-- **Every delay in closed form**, however many failures and successes there are: doubling does not
    overflow before the most is reached. -/
theorem doubling (hle : least ≤ most) (hmost : most ≤ Duration.largest) : Doubling least most := by
  have hlast (cs : List Call) : ((start least most).told (cs ++ [.next])).getLast? =
      some ((start least most).after (cs ++ [.next])).current := by
    rw [told_append, after_append]
    exact List.getLast?_concat
  refine ⟨fun cs => ?_, hlast, fun cs => ?_, rfl⟩
  · rw [hlast, after_start, streak_next, current_iterate hle hmost, Nat.min_comm]
  · rw [after_append]
    rfl

/-! ### Delays that rise -/

/-- Delays between a least and a most that a duration can hold. -/
structure Within (b : Backoff) : Prop where
  current_le : b.current ≤ b.most
  least_le : b.least ≤ b.most
  most_le : b.most ≤ Duration.largest

/-- Delays begin within their bounds. -/
theorem Within.start (hle : least ≤ most) (hmost : most ≤ Duration.largest) :
    (start least most).Within := ⟨Nat.zero_le most, hle, hmost⟩

/-- **One call** keeps the delay within its bounds, which stay what they are. -/
theorem Within.call {b : Backoff} (h : b.Within) (c : Call) :
    (b.call c).Within ∧ (b.call c).least = b.least ∧ (b.call c).most = b.most := by
  cases c with
  | next =>
    refine ⟨⟨?_, ?_, ?_⟩, b.least_next, b.most_next⟩
    · show b.next.current ≤ b.next.most
      rw [most_next, next]
      split
      · exact h.least_le
      · exact Nat.min_le_right _ _
    · show b.next.least ≤ b.next.most
      rw [least_next, most_next]
      exact h.least_le
    · show b.next.most ≤ _
      rw [most_next]
      exact h.most_le
  | reset => exact ⟨⟨Nat.zero_le _, h.least_le, h.most_le⟩, rfl, rfl⟩

/-- Any number of calls keep the delay within its bounds. -/
theorem Within.after {b : Backoff} (h : b.Within) (cs : List Call) :
    (b.after cs).Within ∧ (b.after cs).least = b.least ∧ (b.after cs).most = b.most := by
  induction cs generalizing b with
  | nil => exact ⟨h, rfl, rfl⟩
  | cons c cs ih =>
    obtain ⟨hcall, hleast, hmost⟩ := h.call c
    obtain ⟨hafter, hleast', hmost'⟩ := ih hcall
    exact ⟨hafter, hleast'.trans hleast, hmost'.trans hmost⟩

/-- One more failure does not shorten the delay. -/
theorem Within.current_le_next {b : Backoff} (h : b.Within) : b.current ≤ b.next.current := by
  obtain ⟨hcurrent, -, hmost⟩ := h
  rw [next]
  split
  · omega
  · show _ ≤ min (min (b.current * 2) Duration.largest) b.most
    omega

/-- The next delay is above zero if the least one is. -/
theorem Within.next_pos {b : Backoff} (h : b.Within) (hleast : 0 < b.least) :
    0 < b.next.current := by
  have hgrows := h.current_le_next
  rw [next] at hgrows ⊢
  split
  · exact hleast
  · rw [if_neg ‹_›] at hgrows
    omega

/-- The delays told without a success in between are no shorter than the one in force. -/
theorem Within.pairwise_told {b : Backoff} (h : b.Within) (k : Nat) :
    (∀ d ∈ b.told (List.replicate k .next), b.current ≤ d) ∧
      (b.told (List.replicate k .next)).Pairwise (· ≤ ·) := by
  induction k generalizing b with
  | zero => exact ⟨nofun, .nil⟩
  | succ k ih =>
    obtain ⟨hlater, hrising⟩ := ih (h.call .next).1
    have hstep := h.current_le_next
    refine ⟨fun d hd => ?_, .cons hlater hrising⟩
    rcases List.mem_cons.1 hd with rfl | hd
    · exact hstep
    · exact Nat.le_trans hstep (hlater d hd)

/-- Every delay that is told is above zero, and at most the most one. -/
theorem Within.mem_told {b : Backoff} (h : b.Within) (hleast : 0 < b.least) {cs : List Call}
    {d : Nat} (hd : d ∈ b.told cs) : 0 < d ∧ d ≤ b.most := by
  induction cs generalizing b with
  | nil => cases hd
  | cons c cs ih =>
    obtain ⟨hcall, hleast', hmost'⟩ := h.call c
    have hrest := fun hd => ih hcall (hleast'.symm ▸ hleast) hd
    rw [hmost'] at hrest
    cases c with
    | next =>
      rcases List.mem_cons.1 hd with rfl | hd
      · exact ⟨h.next_pos hleast, hmost' ▸ hcall.current_le⟩
      · exact hrest hd
    | reset => exact hrest hd

/-- What delays above zero keep to. -/
structure Rising (least most : Nat) : Prop where
  pos : ∀ cs, ∀ d ∈ (start least most).told cs, 0 < d
  le_most : ∀ cs, ∀ d ∈ (start least most).told cs, d ≤ most
  /-- Between two successes no delay is shorter than one before it. -/
  pairwise : ∀ cs k,
    (((start least most).after cs).told (List.replicate k .next)).Pairwise (· ≤ ·)

/-- **Delays that start above zero** stay above it, rise from one success to the next, and never
    exceed the most. -/
theorem rising (hpos : 0 < least) (hle : least ≤ most) (hmost : most ≤ Duration.largest) :
    Rising least most := by
  have hstart := Within.start hle hmost
  exact ⟨fun cs d hd => (hstart.mem_told hpos hd).1, fun cs d hd => (hstart.mem_told hpos hd).2,
    fun cs k => ((hstart.after cs).1.pairwise_told k).2⟩

end ForwardProxy.Backoff
