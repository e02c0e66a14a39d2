import ForwardProxy.Proofs.RequestHead.Timed
import ForwardProxy.RequestHead.Parser

namespace ForwardProxy.RequestHead

/-!
# Where a request head ends

The reader and the parser of request heads agree on where a head ends, although the reader looks
for lines and the parser for tokens.

* `Decides` — a parser that does not ask for more octets.
* `parts_append` — what a parser has found, it finds whatever follows.
* `parts_of_isHead` — given a head, a parser asks for nothing more and leaves nothing.
* `Returnable`, `returnable_iff` — the heads that a reader can come to.
* `parse_of_returnable` — the agreement.
-/

/-- A parser did not ask for more octets, and what it found is as `P` says. -/
def Decides {α : Type} (x : Except HeadFlaw α) (P : α → Prop) : Prop :=
  match x with
  | .error flaw => flaw ≠ .incomplete
  | .ok a => P a

/-- A reader that refuses has decided, unless it asks for more. -/
theorem Decides.error {α : Type} {P : α → Prop} {flaw : HeadFlaw} (h : flaw ≠ .incomplete) :
    Decides (.error flaw) P := h

/-- Of two readers in a row, the second one decides what the first one has left open. -/
theorem Decides.bind {α β : Type} {x : Except HeadFlaw α} {f : α → Except HeadFlaw β}
    {P : α → Prop} {Q : β → Prop} (h : Decides x P) (hf : ∀ a, P a → Decides (f a) Q) :
    Decides (x >>= f) Q := by
  cases x with
  | error flaw => exact h
  | ok a => exact hf a h

section

variable {p : UInt8 → Bool} {bs q tail more r : Bytes} {b : UInt8}

/-! ### Rows of octets -/

/-- A row that ends within some octets ends there whatever follows. -/
theorem dropWhile_append_of_cons (h : bs.dropWhile p = b :: r) (more : Bytes) :
    (bs ++ more).dropWhile p = b :: (r ++ more) ∧
      (bs ++ more).takeWhile p = bs.takeWhile p := by
  induction bs with
  | nil => simp at h
  | cons a bs ih =>
    rw [List.cons_append, List.dropWhile_cons, List.takeWhile_cons, List.takeWhile_cons]
    rw [List.dropWhile_cons] at h
    cases hp : p a with
    | true =>
      rw [hp, if_pos rfl] at h
      obtain ⟨hdrop, htake⟩ := ih h
      exact ⟨by rw [if_pos rfl, hdrop], by rw [if_pos rfl, if_pos rfl, htake]⟩
    | false =>
      rw [hp, if_neg (by decide)] at h
      obtain ⟨rfl, rfl⟩ := List.cons.inj h
      exact ⟨rfl, rfl⟩

/-- A row without line feeds ends within its line. -/
theorem dropWhile_line (hp : p lf = false) (hq : lf ∉ q) (tail : Bytes) :
    ∃ q', lf ∉ q' ∧ (q ++ lf :: tail).dropWhile p = q' ++ lf :: tail := by
  induction q with
  | nil => exact ⟨[], List.not_mem_nil, by simp [hp]⟩
  | cons a q ih =>
    rw [List.cons_append, List.dropWhile_cons]
    cases p a with
    | true => exact ih fun h => hq (List.mem_cons_of_mem _ h)
    | false => exact ⟨a :: q, hq, rfl⟩

/-- The octet behind such a row is the line feed, or stands within the line as well. -/
theorem cons_line (hq : lf ∉ q) (h : q ++ lf :: tail = b :: r) :
    (b = lf ∧ r = tail) ∨ (b ≠ lf ∧ ∃ q', lf ∉ q' ∧ r = q' ++ lf :: tail) := by
  cases q with
  | nil =>
    obtain ⟨rfl, rfl⟩ := List.cons.inj h
    exact .inl ⟨rfl, rfl⟩
  | cons a q =>
    obtain ⟨rfl, rfl⟩ := List.cons.inj h
    rw [List.mem_cons, not_or] at hq
    exact .inr ⟨fun h => hq.1 h.symm, q, hq.2, rfl⟩

/-! ### Line ends -/

/-- A carriage return is no line feed. -/
theorem cr_ne_lf : ¬ cr = lf := by decide

/-- A line feed is no carriage return. -/
theorem lf_ne_cr : ¬ lf = cr := by decide

/-- A line ends by a line feed, with or without a carriage return. -/
theorem lineEnd_eq_ok {flaw : HeadFlaw} :
    lineEnd flaw bs = .ok r ↔ bs = lf :: r ∨ bs = cr :: lf :: r := by
  match bs with
  | [] => simp [lineEnd]
  | [a] =>
    by_cases ha : a = lf
    · simp [lineEnd, ha]
    · by_cases hc : a = cr <;> simp [lineEnd, ha, hc, cr_ne_lf]
  | a :: a' :: bs =>
    by_cases ha : a = lf
    · simp [lineEnd, ha, lf_ne_cr]
    · by_cases hc : a = cr
      · by_cases ha' : a' = lf <;> simp [lineEnd, hc, ha', cr_ne_lf]
      · simp [lineEnd, ha, hc]

/-- A head ends where a line end comes. -/
theorem headEnd_eq_some : headEnd bs = .ok (some r) ↔ bs = lf :: r ∨ bs = cr :: lf :: r := by
  match bs with
  | [] => simp [headEnd]
  | [a] =>
    by_cases ha : a = lf
    · simp [headEnd, ha]
    · by_cases hc : a = cr <;> simp [headEnd, ha, hc, cr_ne_lf]
  | a :: a' :: bs =>
    by_cases ha : a = lf
    · simp [headEnd, ha, lf_ne_cr]
    · by_cases hc : a = cr
      · by_cases ha' : a' = lf <;> simp [headEnd, hc, ha', cr_ne_lf]
      · simp [headEnd, ha, hc]

/-- A head goes on where anything else comes. -/
theorem headEnd_eq_none : headEnd bs = .ok none ↔ ∃ b r, bs = b :: r ∧ b ≠ lf ∧ b ≠ cr := by
  match bs with
  | [] => simp [headEnd]
  | [a] =>
    by_cases ha : a = lf
    · simp [headEnd, ha]
    · by_cases hc : a = cr <;> simp [headEnd, ha, hc, cr_ne_lf]
  | a :: a' :: bs =>
    by_cases ha : a = lf
    · simp [headEnd, ha]
    · by_cases hc : a = cr
      · by_cases ha' : a' = lf <;> simp [headEnd, hc, ha', cr_ne_lf]
      · simp [headEnd, ha, hc]

/-- Nothing is skipped in front of a line that is not empty. -/
theorem skipEmptyLines_cons (h : b ≠ lf) (h' : b ≠ cr) (r : Bytes) :
    skipEmptyLines (b :: r) = .ok (b :: r) := by
  rw [skipEmptyLines.eq_def]
  simp [h, h']

/-- Empty lines in front of a head are skipped. -/
theorem skipEmptyLines_preamble {s : Bytes} (hs : IsPreamble s) (bs : Bytes) :
    skipEmptyLines (s ++ bs) = skipEmptyLines bs := by
  obtain ⟨ls, hls, rfl⟩ := hs
  induction ls with
  | nil => rfl
  | cons l ls ih =>
    have htail := ih fun m hm => hls m (List.mem_cons_of_mem _ hm)
    rw [List.flatten_cons, List.append_assoc, ← htail]
    rcases hls l List.mem_cons_self with rfl | rfl
    · rw [skipEmptyLines.eq_def]
      simp
    · rw [skipEmptyLines.eq_def]
      simp [cr_ne_lf]

/-- What is found behind empty lines starts with something else. -/
theorem skipEmptyLines_eq_ok (h : skipEmptyLines bs = .ok r) :
    ∃ s b r', IsPreamble s ∧ bs = s ++ r ∧ r = b :: r' ∧ b ≠ lf ∧ b ≠ cr := by
  induction bs using skipEmptyLines.induct with
  | case1 => simp [skipEmptyLines] at h
  | case2 bs ih =>
    rw [skipEmptyLines.eq_def] at h
    obtain ⟨s, b, r', hs, rfl, rfl, hb⟩ := ih (by simpa using h)
    exact ⟨[lf] ++ s, b, r', hs.cons (.inl rfl), rfl, rfl, hb⟩
  | case3 => simp [skipEmptyLines, cr_ne_lf] at h
  | case4 bs hne ih =>
    rw [skipEmptyLines.eq_def] at h
    obtain ⟨s, b, r', hs, rfl, rfl, hb⟩ := ih (by simpa [hne] using h)
    exact ⟨[cr, lf] ++ s, b, r', hs.cons (.inr rfl), rfl, rfl, hb⟩
  | case5 bs b hne hb =>
    rw [skipEmptyLines.eq_def] at h
    simp [hne, hb] at h
  | case6 b bs hb hb' =>
    rw [skipEmptyLines_cons hb hb'] at h
    obtain rfl := Except.ok.inj h
    exact ⟨[], b, bs, isPreamble_nil, rfl, rfl, hb, hb'⟩

/-- Headers end with the head, or begin with one of them, for which there is a place. -/
theorem takeHeaders_eq_ok {slots : Nat} {hs : List Header} :
    takeHeaders slots bs = .ok (hs, r) ↔
      (headEnd bs = .ok (some r) ∧ hs = []) ∨
      ∃ n h hs' rest, slots = n + 1 ∧ headEnd bs = .ok none ∧ takeHeader bs = .ok (h, rest) ∧
        takeHeaders n rest = .ok (hs', r) ∧ hs = h :: hs' := by
  rw [takeHeaders.eq_def]
  cases he : headEnd bs with
  | error flaw => simp [he]
  | ok found =>
    cases found with
    | some rest => simp [he, and_comm, eq_comm]
    | none =>
      cases ht : takeHeader bs with
      | error flaw => simp [he, ht]
      | ok header =>
        obtain ⟨h, rest⟩ := header
        cases slots with
        | zero => simp [he, ht]
        | succ n =>
          cases hrec : takeHeaders n rest with
          | error flaw => simp [he, ht, hrec]
          | ok found =>
            obtain ⟨hs', r'⟩ := found
            simp only [he, ht, hrec, Except.ok.injEq, Prod.mk.injEq, reduceCtorEq, false_and,
              false_or, Nat.add_right_cancel_iff, true_and]
            refine ⟨?_, ?_⟩
            · rintro ⟨rfl, rfl⟩
              exact ⟨n, h, hs', rest, rfl, ⟨rfl, rfl⟩, hrec, rfl⟩
            · rintro ⟨_, _, _, _, rfl, ⟨rfl, rfl⟩, hrec', rfl⟩
              rw [hrec] at hrec'
              obtain ⟨rfl, rfl⟩ := Prod.mk.inj (Except.ok.inj hrec')
              exact ⟨rfl, rfl⟩

/-! ### More octets -/

/-- Octets behind those that were read do not change which lines are skipped. -/
theorem skipEmptyLines_append (h : skipEmptyLines bs = .ok r) (more : Bytes) :
    skipEmptyLines (bs ++ more) = .ok (r ++ more) := by
  obtain ⟨s, b, r', hs, rfl, rfl, hb, hb'⟩ := skipEmptyLines_eq_ok h
  rw [List.append_assoc, skipEmptyLines_preamble hs]
  exact skipEmptyLines_cons hb hb' _

/-- Octets behind those that were read do not change where a line ends. -/
theorem lineEnd_append {flaw : HeadFlaw} (h : lineEnd flaw bs = .ok r) (more : Bytes) :
    lineEnd flaw (bs ++ more) = .ok (r ++ more) := by
  rw [lineEnd_eq_ok] at h ⊢
  rcases h with rfl | rfl
  · exact .inl rfl
  · exact .inr rfl

/-- Octets behind those that were read do not change where a head ends. -/
theorem headEnd_append_of_some (h : headEnd bs = .ok (some r)) (more : Bytes) :
    headEnd (bs ++ more) = .ok (some (r ++ more)) := by
  rw [headEnd_eq_some] at h ⊢
  rcases h with rfl | rfl
  · exact .inl rfl
  · exact .inr rfl

/-- Octets behind those that were read do not end a head that goes on. -/
theorem headEnd_append_of_none (h : headEnd bs = .ok none) (more : Bytes) :
    headEnd (bs ++ more) = .ok none := by
  rw [headEnd_eq_none] at h ⊢
  obtain ⟨b, r, rfl, hb⟩ := h
  exact ⟨b, r ++ more, rfl, hb⟩

/-- Octets behind those that were read do not change the method. -/
theorem takeMethod_append {m : Bytes} (h : takeMethod bs = .ok (m, r)) (more : Bytes) :
    takeMethod (bs ++ more) = .ok (m, r ++ more) := by
  unfold takeMethod at h ⊢
  cases hd : bs.dropWhile isToken with
  | nil => simp [hd] at h
  | cons b s =>
    obtain ⟨hdrop, htake⟩ := dropWhile_append_of_cons hd more
    rw [hd] at h
    rw [hdrop, htake]
    dsimp only at h ⊢
    split at h
    · rename_i hc
      simp only [Except.ok.injEq, Prod.mk.injEq] at h
      rw [if_pos hc, h.1, h.2]
    · simp at h

/-- Octets behind those that were read do not change the target. -/
theorem takeTarget_append {t : Text} (h : takeTarget bs = .ok (t, r)) (more : Bytes) :
    takeTarget (bs ++ more) = .ok (t, r ++ more) := by
  unfold takeTarget at h ⊢
  cases hd : bs.dropWhile isTargetOctet with
  | nil => simp [hd] at h
  | cons b s =>
    obtain ⟨hdrop, htake⟩ := dropWhile_append_of_cons hd more
    rw [hd] at h
    rw [hdrop, htake]
    dsimp only at h ⊢
    split at h
    · simp at h
    · rename_i hc
      rw [if_neg hc]
      cases ht : Utf8.decode? (bs.takeWhile isTargetOctet) with
      | none => simp [ht] at h
      | some t' =>
        simp only [ht, Except.ok.injEq, Prod.mk.injEq] at h ⊢
        exact ⟨h.1, by rw [h.2]⟩

/-- Octets behind those that were read do not change the version. -/
theorem takeVersion_append (h : takeVersion bs = .ok r) (more : Bytes) :
    takeVersion (bs ++ more) = .ok (r ++ more) := by
  unfold takeVersion at h ⊢
  split at h
  · rename_i hlen
    -- What follows does not reach into the version.
    have hlong : 8 ≤ (bs ++ more).length := by
      rw [List.length_append]
      omega
    rw [if_pos hlong, List.take_append_of_le_length hlen, List.drop_append_of_le_length hlen]
    dsimp only at h ⊢
    split at h
    · rename_i hv
      rw [if_pos hv, ← Except.ok.inj h]
    · simp at h
  · split at h <;> simp at h

/-- Octets behind those that were read do not change a header. -/
theorem takeHeader_append {header : Header} (h : takeHeader bs = .ok (header, r)) (more : Bytes) :
    takeHeader (bs ++ more) = .ok (header, r ++ more) := by
  unfold takeHeader at h ⊢
  cases hd : bs.dropWhile isToken with
  | nil => simp [hd] at h
  | cons b s =>
    obtain ⟨hdrop, htake⟩ := dropWhile_append_of_cons hd more
    rw [hd] at h
    rw [hdrop, htake]
    dsimp only at h ⊢
    split at h
    · simp at h
    · rename_i hc
      rw [if_neg hc]
      -- A line end has been found, so neither the padding nor the value ran to the end.
      cases hv : (s.dropWhile isPad).dropWhile isValueOctet with
      | nil => simp [hv, lineEnd] at h
      | cons c v =>
        cases hpad : s.dropWhile isPad with
        | nil => simp [hpad] at hv
        | cons d u =>
          obtain ⟨hpdrop, -⟩ := dropWhile_append_of_cons hpad more
          rw [hpad] at hv h
          obtain ⟨hvdrop, hvtake⟩ := dropWhile_append_of_cons hv more
          rw [List.cons_append] at hvdrop hvtake
          rw [hpdrop, hvdrop, hvtake]
          rw [hv] at h
          cases hend : lineEnd .headerValue (c :: v) with
          | error flaw => simp [hend] at h
          | ok rest =>
            have happend := lineEnd_append hend more
            rw [List.cons_append] at happend
            simp only [hend, happend, Except.ok.injEq, Prod.mk.injEq] at h ⊢
            exact ⟨h.1, by rw [h.2]⟩

/-- Octets behind those that were read do not change the headers. -/
theorem takeHeaders_append {slots : Nat} {hs : List Header}
    (h : takeHeaders slots bs = .ok (hs, r)) (more : Bytes) :
    takeHeaders slots (bs ++ more) = .ok (hs, r ++ more) := by
  induction slots generalizing bs hs with
  | zero =>
    rcases takeHeaders_eq_ok.1 h with ⟨hend, rfl⟩ | ⟨n, -, -, -, hn, -⟩
    · exact takeHeaders_eq_ok.2 (.inl ⟨headEnd_append_of_some hend more, rfl⟩)
    · omega
  | succ n ih =>
    rcases takeHeaders_eq_ok.1 h with ⟨hend, rfl⟩ | ⟨m, header, hs', rest, hm, hend, hh, hrec, rfl⟩
    · exact takeHeaders_eq_ok.2 (.inl ⟨headEnd_append_of_some hend more, rfl⟩)
    · obtain rfl : n = m := Nat.succ.inj hm
      exact takeHeaders_eq_ok.2 (.inr ⟨n, header, hs', rest ++ more, rfl,
        headEnd_append_of_none hend more, takeHeader_append hh more, ih hrec, rfl⟩)

/-- What follows a reader is read only if that reader has an answer. -/
theorem bind_eq_ok {α β : Type} {x : Except HeadFlaw α} {f : α → Except HeadFlaw β} {b : β} :
    (x >>= f) = .ok b ↔ ∃ a, x = .ok a ∧ f a = .ok b := by
  cases x with
  | error flaw => exact ⟨nofun, nofun⟩
  | ok a => exact ⟨fun h => ⟨a, rfl, h⟩, fun ⟨_, h, hf⟩ => by cases h; exact hf⟩

/-- **What is found, is found whatever follows:** it is the same, and what follows is left. -/
theorem parts_append {found : Parts} (h : parts bs = .ok found) (more : Bytes) :
    parts (bs ++ more) = .ok { found with rest := found.rest ++ more } := by
  obtain ⟨s, hskip, h⟩ := bind_eq_ok.1 h
  obtain ⟨⟨m, s₁⟩, hmethod, h⟩ := bind_eq_ok.1 h
  obtain ⟨⟨t, s₂⟩, htarget, h⟩ := bind_eq_ok.1 h
  obtain ⟨s₃, hversion, h⟩ := bind_eq_ok.1 h
  obtain ⟨s₄, hend, h⟩ := bind_eq_ok.1 h
  obtain ⟨⟨hs, rest⟩, hheaders, h⟩ := bind_eq_ok.1 h
  obtain rfl := Except.ok.inj h
  -- Each reader in the row finds what it has found before, with the octets left over behind it.
  refine bind_eq_ok.2 ⟨_, skipEmptyLines_append hskip more, ?_⟩
  refine bind_eq_ok.2 ⟨_, takeMethod_append hmethod more, ?_⟩
  refine bind_eq_ok.2 ⟨_, takeTarget_append htarget more, ?_⟩
  refine bind_eq_ok.2 ⟨_, takeVersion_append hversion more, ?_⟩
  refine bind_eq_ok.2 ⟨_, lineEnd_append hend more, ?_⟩
  exact bind_eq_ok.2 ⟨_, takeHeaders_append hheaders more, rfl⟩

/-! ### Whole lines -/

/-- A parser that stays within its line. -/
def InLine (tail r : Bytes) : Prop := ∃ q, lf ∉ q ∧ r = q ++ lf :: tail

/-- The first octet of a line that is not blank tells so, or the second one does. -/
theorem IsFilled.cons {l : Bytes} (h : IsFilled l) :
    ∃ b q, lf ∉ b :: q ∧ l = b :: (q ++ [lf]) ∧ (b = cr → q ≠ []) := by
  obtain ⟨⟨p, hp, rfl⟩, hblank⟩ := h
  cases p with
  | nil => exact absurd (.inl rfl) hblank
  | cons b q =>
    refine ⟨b, q, hp, rfl, ?_⟩
    rintro rfl rfl
    exact hblank (.inr rfl)

/-- Within a filled line, it is decided which lines are empty. -/
theorem skipEmptyLines_filled {l : Bytes} (h : IsFilled l) (tail : Bytes) :
    Decides (skipEmptyLines (l ++ tail)) (InLine tail) := by
  obtain ⟨b, q, hq, rfl, hcr⟩ := IsFilled.cons h
  have hb : b ≠ lf := fun he => hq (he ▸ List.mem_cons_self)
  by_cases hc : b = cr
  · cases q with
    | nil => exact absurd rfl (hcr hc)
    | cons c q =>
      have hne : c ≠ lf := fun he => hq (he ▸ List.mem_cons_of_mem _ List.mem_cons_self)
      rw [List.cons_append, skipEmptyLines.eq_def]
      simp [hc, hne, cr_ne_lf, Decides]
  · rw [List.cons_append, skipEmptyLines_cons hb hc]
    exact ⟨b :: q, hq, by simp⟩

/-- At a filled line, it is decided that the head goes on. -/
theorem headEnd_filled {l : Bytes} (h : IsFilled l) (tail : Bytes) :
    Decides (headEnd (l ++ tail)) (· = none) := by
  obtain ⟨b, q, hq, rfl, hcr⟩ := IsFilled.cons h
  have hb : b ≠ lf := fun he => hq (he ▸ List.mem_cons_self)
  by_cases hc : b = cr
  · cases q with
    | nil => exact absurd rfl (hcr hc)
    | cons c q =>
      have hne : c ≠ lf := fun he => hq (he ▸ List.mem_cons_of_mem _ List.mem_cons_self)
      simp [headEnd, hc, hne, cr_ne_lf, Decides]
  · simp [headEnd, hb, hc, Decides]

/-- Within a line, it is decided where the line ends. -/
theorem lineEnd_line {flaw : HeadFlaw} (hflaw : flaw ≠ .incomplete) (h : InLine tail r) :
    Decides (lineEnd flaw r) (· = tail) := by
  obtain ⟨q, hq, rfl⟩ := h
  match q with
  | [] => simp [lineEnd, Decides]
  | [a] =>
    by_cases ha : a = lf
    · exact absurd ha fun he => hq (he ▸ List.mem_cons_self)
    · by_cases hc : a = cr <;> simp [lineEnd, ha, hc, cr_ne_lf, Decides, hflaw]
  | a :: c :: q =>
    have ha : a ≠ lf := fun he => hq (he ▸ List.mem_cons_self)
    have hne : c ≠ lf := fun he => hq (he ▸ List.mem_cons_of_mem _ List.mem_cons_self)
    by_cases hc : a = cr <;> simp [lineEnd, ha, hne, hc, cr_ne_lf, Decides, hflaw]

/-- Within a line, it is decided what the method is. -/
theorem takeMethod_line (h : InLine tail r) :
    Decides (takeMethod r) fun found => InLine tail found.2 := by
  obtain ⟨q, hq, rfl⟩ := h
  obtain ⟨q', hq', hdrop⟩ := dropWhile_line (p := isToken) (by decide) hq tail
  unfold takeMethod
  cases hd : (q ++ lf :: tail).dropWhile isToken with
  | nil => simp [hd] at hdrop
  | cons b s =>
    dsimp only
    split
    · rename_i hc
      rw [hdrop] at hd
      rcases cons_line hq' hd with ⟨rfl, -⟩ | ⟨-, hs⟩
      · exact absurd (Bool.and_eq_true_iff.1 hc).1 (by decide)
      · exact hs
    · exact Decides.error (by decide)

/-- Within a line, it is decided what the target is. -/
theorem takeTarget_line (h : InLine tail r) :
    Decides (takeTarget r) fun found => InLine tail found.2 := by
  obtain ⟨q, hq, rfl⟩ := h
  obtain ⟨q', hq', hdrop⟩ := dropWhile_line (p := isTargetOctet) (by decide) hq tail
  unfold takeTarget
  cases hd : (q ++ lf :: tail).dropWhile isTargetOctet with
  | nil => simp [hd] at hdrop
  | cons b s =>
    dsimp only
    split
    · exact Decides.error (by decide)
    · rename_i hc
      rw [hdrop] at hd
      cases Utf8.decode? ((q ++ lf :: tail).takeWhile isTargetOctet) with
      | none => exact Decides.error (by decide)
      | some t =>
        rcases cons_line hq' hd with ⟨rfl, -⟩ | ⟨-, hs⟩
        · exact absurd (Bool.or_eq_true_iff.2 (.inl (by decide))) hc
        · exact hs

/-- A version holds no line feed, and neither does a part of one. -/
theorem takeVersion_line (h : InLine tail r) : Decides (takeVersion r) (InLine tail) := by
  obtain ⟨q, hq, rfl⟩ := h
  have hmem : lf ∈ q ++ lf :: tail := by simp
  unfold takeVersion
  split
  · dsimp only
    split
    · rename_i hv
      -- A line feed among the first eight octets would be part of the version.
      have hlong : 8 ≤ q.length := by
        refine Nat.le_of_not_lt fun hlt => ?_
        have htake : lf ∈ (q ++ lf :: tail).take 8 := by
          rw [List.take_append]
          have hpos : 8 - q.length = (7 - q.length) + 1 := by omega
          rw [hpos, List.take_succ_cons]
          simp
        rcases hv with hv | hv
        · rw [hv] at htake
          exact absurd htake (by decide)
        · rw [hv] at htake
          exact absurd htake (by decide)
      refine ⟨q.drop 8, fun hd => hq (List.mem_of_mem_drop hd), ?_⟩
      exact List.drop_append_of_le_length hlong
    · exact Decides.error (by decide)
  · split
    · rename_i hpre
      -- Octets that a version may begin with hold no line feed, but these hold one.
      have hsub := (List.isPrefixOf_iff_prefix.1 hpre).subset hmem
      exact absurd hsub (by decide)
    · exact Decides.error (by decide)

/-- Within a line, it is decided what the header is, and it takes the whole line. -/
theorem takeHeader_line (h : InLine tail r) :
    Decides (takeHeader r) fun found => found.2 = tail := by
  obtain ⟨q, hq, rfl⟩ := h
  obtain ⟨q', hq', hdrop⟩ := dropWhile_line (p := isToken) (by decide) hq tail
  unfold takeHeader
  cases hd : (q ++ lf :: tail).dropWhile isToken with
  | nil => simp [hd] at hdrop
  | cons b s =>
    dsimp only
    split
    · exact Decides.error (by decide)
    · rename_i hc
      rw [hdrop] at hd
      rcases cons_line hq' hd with ⟨rfl, -⟩ | ⟨-, q₁, hq₁, rfl⟩
      · exact absurd (Bool.or_eq_true_iff.2 (.inl (by decide))) hc
      · obtain ⟨q₂, hq₂, hpad⟩ := dropWhile_line (p := isPad) (by decide) hq₁ tail
        obtain ⟨q₃, hq₃, hvalue⟩ := dropWhile_line (p := isValueOctet) (by decide) hq₂ tail
        rw [hpad, hvalue]
        have hin : InLine tail (q₃ ++ lf :: tail) := ⟨q₃, hq₃, rfl⟩
        have hend := lineEnd_line (by decide : HeadFlaw.headerValue ≠ .incomplete) hin
        cases hl : lineEnd .headerValue (q₃ ++ lf :: tail) with
        | error flaw =>
          rw [hl] at hend
          exact hend
        | ok rest =>
          rw [hl] at hend
          exact hend

/-- **The headers end with the head:** each of them takes one line, and the blank line the rest. -/
theorem takeHeaders_lines {ls : List Bytes} {e : Bytes} (hls : ∀ l ∈ ls, IsFilled l)
    (he : IsBlank e) (slots : Nat) :
    Decides (takeHeaders slots (ls.flatten ++ e)) fun found => found.2 = [] := by
  induction ls generalizing slots with
  | nil =>
    rw [takeHeaders.eq_def]
    rcases he with rfl | rfl
    · simp [headEnd, Decides]
    · simp [headEnd, Decides, cr_ne_lf]
  | cons l ls ih =>
    have hl := hls l List.mem_cons_self
    obtain ⟨p, hp, hlp⟩ := hl.1
    have hend := headEnd_filled hl (ls.flatten ++ e)
    have hheader := takeHeader_line ⟨p, hp, (rfl : p ++ lf :: (ls.flatten ++ e) = _)⟩
    rw [List.flatten_cons, List.append_assoc, takeHeaders.eq_def]
    have hrow : l ++ (ls.flatten ++ e) = p ++ lf :: (ls.flatten ++ e) := by simp [hlp]
    rw [← hrow] at hheader
    cases hfound : headEnd (l ++ (ls.flatten ++ e)) with
    | error flaw =>
      rw [hfound] at hend
      simp only [hfound]
      exact Decides.error hend
    | ok found =>
      rw [hfound] at hend
      obtain rfl : found = none := hend
      cases htake : takeHeader (l ++ (ls.flatten ++ e)) with
      | error flaw =>
        rw [htake] at hheader
        simp only [hfound, htake]
        exact Decides.error hheader
      | ok header =>
        obtain ⟨h, rest⟩ := header
        rw [htake] at hheader
        obtain rfl : rest = ls.flatten ++ e := hheader
        -- A header without a slot is a flaw, but not that of a head cut short.
        cases slots with
        | zero => simp [hfound, htake, Decides]
        | succ n =>
          have hrec := ih (fun m hm => hls m (List.mem_cons_of_mem _ hm)) n
          cases hmore : takeHeaders n (ls.flatten ++ e) with
          | error flaw =>
            rw [hmore] at hrec
            simpa [hfound, htake, hmore] using hrec
          | ok found =>
            rw [hmore] at hrec
            simpa [hfound, htake, hmore, Decides] using hrec

/-- **A head is enough for the parser**, and nothing of it is left. -/
theorem parts_of_isHead {h : Bytes} (hh : IsHead h) : Decides (parts h) fun p => p.rest = [] := by
  obtain ⟨ls, e, hne, hls, he, rfl⟩ := hh
  cases ls with
  | nil => exact absurd rfl hne
  | cons l ls =>
    rw [List.flatten_cons, List.append_assoc]
    have htail : ∀ m ∈ ls, IsFilled m := fun m hm => hls m (List.mem_cons_of_mem _ hm)
    -- The request line is decided within its own octets, and each header within its line.
    refine (skipEmptyLines_filled (hls l List.mem_cons_self) _).bind fun s hs => ?_
    refine (takeMethod_line hs).bind fun method hmethod => ?_
    refine (takeTarget_line hmethod).bind fun target htarget => ?_
    refine (takeVersion_line htarget).bind fun s hs => ?_
    refine (lineEnd_line (by decide) hs).bind fun s hs => ?_
    subst hs
    exact (takeHeaders_lines htail he maxHeaders).bind fun headers hheaders => hheaders

end

/-! ### The reader's heads -/

/-- A head that a reader of some client comes to. -/
def Returnable (h : Bytes) : Prop :=
  ∃ (terms : HeadTerms) (now : Nat) (room : Option Nat) (early : List Channel.Event)
    (ahead : Bytes) (ms : List HeadRun.Moment) (t : Nat),
    ((HeadRun.start terms now ⟨(Channel.idle room).applyAll early, ahead⟩).run ms).outcome? =
      some (t, .ok h)

/-- What the reader returns is a head. -/
theorem isHead_of_judge {terms : HeadTerms} {start deadline last t : Nat} {met : Timeline}
    {h : Bytes}
    (hj : HeadRun.judge terms start deadline last (.start terms.cap) met = some (t, .ok h)) :
    IsHead h := by
  -- Without a head that fits, what is judged is a failure.
  by_cases hfit : ∃ s h, Framed (met.heard.map Prod.snd) s h ∧ (s ++ h).length ≤ terms.cap
  · obtain ⟨s, h', hf, hcap⟩ := hfit
    rw [(HeadRun.judge_of_framed hf hcap start deadline last).1] at hj
    simp only [Option.some.injEq, Prod.mk.injEq, Except.ok.injEq] at hj
    exact hj.2 ▸ hf.isHead
  · have hn : ∀ s h, Framed (met.heard.map Prod.snd) s h → terms.cap < (s ++ h).length :=
      fun s h hf => Nat.lt_of_not_le fun hcap => hfit ⟨s, h, hf, hcap⟩
    rw [(HeadRun.judge_of_not_framed hn start deadline last).1] at hj
    repeat' split at hj
    all_goals simp at hj

/-- The heads that a reader can come to are told by their lines. -/
theorem returnable_iff {h : Bytes} : Returnable h ↔ IsHead h := by
  refine ⟨fun ⟨terms, now, room, early, ahead, ms, t, houtcome⟩ => ?_, fun hh => ?_⟩
  · have hproper : ((Channel.idle room).applyAll early).Proper :=
      (Channel.proper_idle room).applyAll early
    obtain ⟨hjudge, -⟩ := HeadRun.judged (H := ⟨terms, Time.deadline now terms.limit, now,
      ⟨(Channel.idle room).applyAll early, ahead⟩, .reading (.start terms.cap)⟩) ms rfl hproper
      (Time.le_deadline now terms.limit) (.refl _)
    exact isHead_of_judge (hjudge.symm.trans houtcome)
  · -- A client that has sent the head, and a cap that it just fits.
    obtain ⟨hjudge, -⟩ := HeadRun.judged (H := ⟨⟨h.length, 0⟩, Time.deadline 0 0, 0,
      ⟨(Channel.idle none).applyAll [], h⟩, .reading (.start h.length)⟩) [] rfl
      (Channel.proper_idle none) (Time.le_deadline 0 0) (.refl _)
    have hheard : (Timeline.heard
        (Timeline.sameTime 0 (h.map Item.octet ++ []) ++ [])).map Prod.snd = h := by
      rw [HeadRun.octets_sameTime_append, Item.ending?_map_append, Item.leading_map_append]
      simp [Timeline.heard]
    have hframed : Framed ((Timeline.heard
        (Timeline.sameTime 0 (h.map Item.octet ++ []) ++ [])).map Prod.snd) [] h :=
      framed_iff.2 ⟨by rw [hheard]; exact List.prefix_refl h, isPreamble_nil, hh⟩
    have hfits : ([] ++ h).length ≤ (HeadTerms.mk h.length 0).cap := Nat.le_refl _
    obtain ⟨hcome, -⟩ := HeadRun.judge_of_framed hframed hfits 0 (Time.deadline 0 0) 0
    exact ⟨⟨h.length, 0⟩, 0, none, [], h, [], _, hjudge.trans hcome⟩

/-- A head that cannot be read is refused by its flaw. -/
theorem parse_of_error {bs : Bytes} {flaw : HeadFlaw} (limit : Nat) (h : read bs = .error flaw) :
    parse bs limit = .error (failureOf limit flaw) := by
  rw [parse, h]
  rfl

/-- A head that can be read is accepted. -/
theorem parse_of_ok {bs : Bytes} {request : RequestHead} (limit : Nat) (h : read bs = .ok request) :
    parse bs limit = .ok request := by
  rw [parse, h]
  rfl

/-- What is parsed has been found whole. -/
theorem parts_of_parse {bs : Bytes} {limit : Nat} {request : RequestHead}
    (h : parse bs limit = .ok request) : ∃ found, parts bs = .ok found := by
  cases hp : parts bs with
  | error flaw =>
    have hread : read bs = .error flaw := by rw [read, hp]
    rw [parse_of_error limit hread] at h
    cases h
  | ok found => exact ⟨found, rfl⟩

/-- A head about which everything is decided is never called incomplete. -/
theorem read_ne_incomplete {bs : Bytes} {P : Parts → Prop} (h : Decides (parts bs) P) :
    read bs ≠ .error .incomplete := by
  unfold read
  cases hp : parts bs with
  | error flaw =>
    rw [hp] at h
    have hne : flaw ≠ .incomplete := h
    exact fun he => hne (Except.error.inj he)
  | ok found =>
    dsimp only
    unfold authorityOf
    split
    · cases Utf8.decode? (hostValue found.headers) <;> simp [Except.map]
    · simp [Except.map]

/-- A head about which everything is decided is never refused as incomplete. -/
theorem parse_ne_incomplete {bs : Bytes} {P : Parts → Prop} (h : Decides (parts bs) P)
    (limit : Nat) : parse bs limit ≠ .error (.malformedRequest .incomplete) := by
  intro hparse
  cases hread : read bs with
  | error flaw =>
    rw [parse_of_error limit hread] at hparse
    have hflaw : flaw = .incomplete := by
      cases flaw <;> simp_all [failureOf]
    exact read_ne_incomplete h (by rw [hread, hflaw])
  | ok request =>
    rw [parse_of_ok limit hread] at hparse
    cases hparse

/-- **Reader and parser agree on where a head ends.**  A head that the reader comes to is enough
    for the parser, nothing shorter is, and all of it is parsed. -/
theorem parse_of_returnable {h : Bytes} (hr : Returnable h) (limit : Nat) :
    parse h limit ≠ .error (.malformedRequest .incomplete) ∧
      (∀ q, q <+: h → q ≠ h → ∀ request, parse q limit ≠ .ok request) ∧
      ∀ request, parse h limit = .ok request →
        ∃ found, parts h = .ok found ∧ found.rest = [] := by
  have hparts := parts_of_isHead (returnable_iff.1 hr)
  refine ⟨parse_ne_incomplete hparts limit, ?_, ?_⟩
  · rintro q ⟨more, rfl⟩ hne request hparse
    obtain ⟨found, hfound⟩ := parts_of_parse hparse
    -- What the parser finds in `q` it finds in the head, and leaves what `q` lacks of it.  But of a
    -- head it leaves nothing.
    rw [parts_append hfound more] at hparts
    have hrest : found.rest ++ more = [] := hparts
    rw [(List.append_eq_nil_iff.1 hrest).2, List.append_nil] at hne
    exact hne rfl
  · intro request hparse
    obtain ⟨found, hfound⟩ := parts_of_parse hparse
    rw [hfound] at hparts
    exact ⟨found, hfound, hparts⟩

/-- The least head that names a path: the parser needs its last octet, and no more. -/
theorem parse_of_least_head :
    Returnable (ascii "GET / HTTP/1.1\r\n\r\n") ∧
      parse (ascii "GET / HTTP/1.1\r\n\r\n") 8192 ≠ .error (.malformedRequest .incomplete) ∧
      ∀ request, parse (ascii "GET / HTTP/1.1\r\n\r") 8192 ≠ .ok request := by
  have hr : Returnable (ascii "GET / HTTP/1.1\r\n\r\n") := by
    refine returnable_iff.2 ⟨[ascii "GET / HTTP/1.1\r\n"], [cr, lf], by simp, ?_, .inr rfl, rfl⟩
    intro l hl
    rw [List.mem_singleton.1 hl]
    exact ⟨⟨ascii "GET / HTTP/1.1\r", by decide, rfl⟩, by unfold IsBlank; decide⟩
  exact ⟨hr, (parse_of_returnable hr 8192).1,
    (parse_of_returnable hr 8192).2.1 _ (by decide) (by decide)⟩

end ForwardProxy.RequestHead
