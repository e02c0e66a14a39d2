import ForwardProxy.Target
import Mathlib.Data.List.TakeWhile

namespace ForwardProxy.Text

/-!
# Cutting a text

A text is cut at the first or the last occurrence of a character, and blanks are cut off its ends.

* `row_append` — where a row of whatever belongs to it ends.
* `splitLast?_eq_some_iff`, `splitLast?_eq_none_iff` — the cut at the last occurrence.
* `takeWhile_ne_append_cons`, `dropWhile_ne_append_cons`, `append_cons_inj` — the cut at the first
  one.
* `trim_eq_nil_iff`, `trim_append_cons_concat` — what is left without the blanks at the ends.
-/

variable {c d : Char} {a b s : Text}

/-! ### Rows -/

section Rows

variable {α : Type} {p : α → Bool} {row rest : List α}

/-- A row ends where something comes that does not belong to it. -/
theorem row_append (hrow : ∀ x ∈ row, p x = true) (hrest : ∀ y, rest.head? = some y → p y = false) :
    (row ++ rest).takeWhile p = row ∧ (row ++ rest).dropWhile p = rest := by
  rw [List.takeWhile_append_of_pos hrow, List.dropWhile_append_of_pos hrow]
  cases rest with
  | nil => exact ⟨List.append_nil row, rfl⟩
  | cons y rest =>
    rw [List.takeWhile_cons, List.dropWhile_cons, hrest y rfl]
    exact ⟨List.append_nil row, rfl⟩

/-- A row ends at the first thing that does not belong to it. -/
theorem row_append_cons {y : α} (hrow : ∀ x ∈ row, p x = true) (hy : p y = false)
    (rest : List α) :
    (row ++ y :: rest).takeWhile p = row ∧ (row ++ y :: rest).dropWhile p = y :: rest :=
  row_append hrow fun _ heq => Option.some.inj heq ▸ hy

end Rows

/-! ### Occurrences -/

/-- A text is split at the last place of a character. -/
theorem splitLast?_append_cons (a : Text) (hb : c ∉ b) :
    splitLast? c (a ++ c :: b) = some (a, b) := by
  induction a with
  | nil =>
    have hnone : splitLast? c b = none := by
      induction b with
      | nil => rfl
      | cons x b ih =>
        rw [List.mem_cons, not_or] at hb
        rw [splitLast?, ih hb.2, if_neg (Ne.symm hb.1)]
    rw [List.nil_append, splitLast?, hnone, if_pos rfl]
  | cons x a ih => rw [List.cons_append, splitLast?, ih]

/-- A text is not split exactly if the character is not in it. -/
theorem splitLast?_eq_none_iff : splitLast? c s = none ↔ c ∉ s := by
  constructor
  · intro hnone hc
    -- Turned round, the first occurrence is the last one.
    obtain ⟨b, a, hcut, hb⟩ := List.eq_append_cons_of_mem (List.mem_reverse.2 hc)
    have hs : s = a.reverse ++ c :: b.reverse := by
      rw [← List.reverse_reverse s, hcut]
      simp
    rw [hs, splitLast?_append_cons _ (by simpa using hb)] at hnone
    cases hnone
  · intro hc
    induction s with
    | nil => rfl
    | cons x s ih =>
      rw [List.mem_cons, not_or] at hc
      rw [splitLast?, ih hc.2, if_neg (Ne.symm hc.1)]

/-- A text is split in two exactly if the character stands between them, and not in the second. -/
theorem splitLast?_eq_some_iff :
    splitLast? c s = some (a, b) ↔ s = a ++ c :: b ∧ c ∉ b := by
  constructor
  · intro h
    induction s generalizing a with
    | nil => cases h
    | cons x s ih =>
      rw [splitLast?] at h
      cases hrest : splitLast? c s with
      | none =>
        rw [hrest] at h
        by_cases hx : x = c
        · rw [if_pos hx] at h
          cases h
          exact ⟨by rw [hx, List.nil_append], splitLast?_eq_none_iff.1 hrest⟩
        · rw [if_neg hx] at h
          cases h
      | some p =>
        rw [hrest] at h
        cases h
        obtain ⟨hs, hb⟩ := ih hrest
        exact ⟨by rw [hs, List.cons_append], hb⟩
  · rintro ⟨rfl, hb⟩
    exact splitLast?_append_cons a hb

/-- A text is cut at the last occurrence in one way only. -/
theorem append_cons_inj_last {a' b' : Text} (hb : c ∉ b) (hb' : c ∉ b')
    (h : a ++ c :: b = a' ++ c :: b') : a = a' ∧ b = b' := by
  have hsplit := splitLast?_append_cons a hb
  rw [h, splitLast?_append_cons a' hb'] at hsplit
  cases hsplit
  exact ⟨rfl, rfl⟩

/-- All characters differ from one that is not in a text. -/
theorem bne_of_not_mem (ha : c ∉ a) : ∀ x ∈ a, (x != c) = true := by
  intro x hx
  refine bne_iff_ne.2 fun h => ha ?_
  rw [← h]
  exact hx

/-- Taking up to a character stops at its first place. -/
theorem takeWhile_ne_append_cons (ha : c ∉ a) (b : Text) :
    (a ++ c :: b).takeWhile (· != c) = a :=
  (row_append_cons (bne_of_not_mem ha) (bne_self_eq_false c) b).1

/-- Dropping up to a character stops at its first place. -/
theorem dropWhile_ne_append_cons (ha : c ∉ a) (b : Text) :
    (a ++ c :: b).dropWhile (· != c) = c :: b :=
  (row_append_cons (bne_of_not_mem ha) (bne_self_eq_false c) b).2

/-- A text is cut at the first occurrence in one way only. -/
theorem append_cons_inj {a' b' : Text} (ha : c ∉ a) (ha' : c ∉ a')
    (h : a ++ c :: b = a' ++ c :: b') : a = a' ∧ b = b' := by
  have hfront : a = a' := by
    rw [← takeWhile_ne_append_cons ha b, h, takeWhile_ne_append_cons ha']
  have hbehind : c :: b = c :: b' := by
    rw [← dropWhile_ne_append_cons ha b, h, dropWhile_ne_append_cons ha']
  exact ⟨hfront, List.tail_eq_of_cons_eq hbehind⟩

/-! ### Blanks -/

/-- Trimming the start stops at a character that is not blank. -/
theorem trimStart_append_cons (a b : Text) (hc : isBlank c = false) :
    trimStart (a ++ c :: b) = trimStart a ++ c :: b := by
  rw [trimStart, trimStart, List.dropWhile_append]
  by_cases hnil : (a.dropWhile isBlank).isEmpty
  · rw [if_pos hnil, List.isEmpty_iff.1 hnil, List.nil_append,
      List.dropWhile_cons_of_neg (by rw [hc]; exact Bool.false_ne_true)]
  · rw [if_neg hnil]

/-- Trimming the end stops at a character that is not blank. -/
theorem trimEnd_concat (a : Text) (hc : isBlank c = false) : trimEnd (a ++ [c]) = a ++ [c] := by
  have h := trimStart_append_cons [] a.reverse hc
  rw [trimEnd, List.reverse_append]
  show (trimStart ([] ++ c :: a.reverse)).reverse = _
  rw [h]
  simp [trimStart]

/-- Blanks in front of a character that is no blank are cut off, and none behind one that is the
    last. -/
theorem trim_append_cons_concat (a b : Text) (hc : isBlank c = false) (hd : isBlank d = false) :
    trim (a ++ c :: b ++ [d]) = trimStart a ++ c :: b ++ [d] := by
  have h : trimStart (a ++ c :: b ++ [d]) = trimStart a ++ c :: b ++ [d] := by
    rw [List.append_assoc, List.cons_append, trimStart_append_cons a _ hc, List.append_assoc,
      List.cons_append]
  rw [trim, h, trimEnd_concat _ hd]

/-- Trimming adds nothing. -/
theorem trim_subset (s : Text) : trim s ⊆ s := by
  have hstart (s : Text) : trimStart s ⊆ s := (List.dropWhile_sublist _).subset
  intro c hc
  have hend := hstart (trimStart s).reverse (List.mem_reverse.1 hc)
  exact hstart s (List.mem_reverse.1 hend)

/-- Nothing is left of a trimmed text exactly if all of it is blank. -/
theorem trim_eq_nil_iff : trim s = [] ↔ ∀ c ∈ s, isBlank c = true := by
  constructor
  · intro h
    have hrev : (trimStart s).reverse.dropWhile isBlank = [] := List.reverse_eq_nil_iff.1 h
    -- What is left in front of the first character that is no blank would begin with it.
    intro c hc
    refine Bool.not_eq_false _ |>.mp fun hblank => ?_
    obtain ⟨a, b, rfl⟩ := List.append_of_mem hc
    rw [trimStart_append_cons a b hblank, List.reverse_append, List.reverse_cons,
      List.append_assoc] at hrev
    have hcons := trimStart_append_cons b.reverse (trimStart a).reverse hblank
    rw [trimStart] at hcons
    simp [hcons] at hrev
  · intro h
    rw [trim, trimStart, List.dropWhile_eq_nil_iff.2 h]
    rfl

end ForwardProxy.Text
