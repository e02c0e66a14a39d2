import ForwardProxy.Proofs.RequestHead.Lines
import ForwardProxy.Proofs.Stream.Contents
import ForwardProxy.RequestHead.Reader

namespace ForwardProxy.HeadReader

/-!
# The head that a reader finds

* `HeadReader.takeFrom` — what a reader takes out of octets that are all there.
* `HeadReader.Reads`, `HeadReader.Completes` — how a reader stands after the octets that it took.
* `HeadReader.takeFrom_of_framed` — a head that fits the cap is found, and nothing behind it taken.
* `HeadReader.takeFrom_of_not_framed` — without one, the reader goes on until the cap is used up.
* `HeadReader.scanList_feed` — a scan gives a reader the same octets.
-/

/-- The reader after the octets that it takes out of some, and those that it leaves. -/
def takeFrom (r : HeadReader) : Bytes → HeadReader × Bytes
  | [] => (r, [])
  | b :: bs => if r.isDone then (r, b :: bs) else (r.feed b).takeFrom bs

/-- How a line stands that holds `p` so far. -/
def lineOf : Bytes → LineState
  | [] => .fresh
  | [b] => if b = cr then .return else .text
  | _ => .text

/-- A reader with a cap that has taken `c` and not found the end of a head: blank lines, filled
    lines, and a line that is not over. -/
def Reads (cap : Nat) (c : Bytes) (r : HeadReader) : Prop :=
  ∃ (s : Bytes) (ls : List Bytes) (p : Bytes), c = s ++ ls.flatten ++ p ∧ IsPreamble s ∧
    (∀ l ∈ ls, IsFilled l) ∧ lf ∉ p ∧
    r = ⟨cap - c.length, (ls.flatten ++ p).reverse, !ls.isEmpty, lineOf p, false⟩

/-- A reader with a cap that has taken `c`, which ends with a head. -/
def Completes (cap : Nat) (c : Bytes) (r : HeadReader) : Prop :=
  ∃ s h : Bytes, c = s ++ h ∧ IsPreamble s ∧ IsHead h ∧
    r = ⟨cap - c.length, h.reverse, true, .fresh, true⟩

variable {cap : Nat} {c bs : Bytes} {r : HeadReader}

/-! ### One octet -/

/-- Nothing of a line has been read at its start. -/
@[simp] theorem lineOf_nil : lineOf [] = .fresh := rfl

/-- One more octet of a line: a carriage return at its start may still end it. -/
theorem lineOf_append {p : Bytes} (b : UInt8) :
    lineOf (p ++ [b]) = if b = cr ∧ lineOf p = .fresh then .return else .text := by
  match p with
  | [] => by_cases h : b = cr <;> simp [lineOf, h]
  | [a] => by_cases h : a = cr <;> simp [lineOf, h]
  | a :: a' :: p => simp [lineOf]

/-- A line with text is not blank. -/
theorem isFilled_of_lineOf {p : Bytes} (hp : lf ∉ p) (h : lineOf p = .text) :
    IsFilled (p ++ [lf]) := by
  refine ⟨⟨p, hp, rfl⟩, ?_⟩
  rintro (hb | hb)
  · have hnil : p = [] := by simpa using hb
    simp [hnil, lineOf] at h
  · have hcr : p = [cr] := List.append_cancel_right (hb : p ++ [lf] = [cr] ++ [lf])
    simp [hcr, lineOf] at h

/-- A line feed ends a blank line, unless the line has text. -/
theorem isBlank_of_lineOf {p : Bytes} (h : lineOf p ≠ .text) : IsBlank (p ++ [lf]) := by
  match p with
  | [] => exact .inl rfl
  | [b] =>
    by_cases hb : b = cr
    · exact .inr (by rw [hb]; rfl)
    · simp [lineOf, hb] at h
  | a :: a' :: p => simp [lineOf] at h

/-- A reader that starts has read nothing. -/
theorem reads_start (cap : Nat) : Reads cap [] (start cap) :=
  ⟨[], [], [], rfl, isPreamble_nil, by simp, List.not_mem_nil, rfl⟩

/-- **One octet:** it goes on with a line, ends one, or ends the head. -/
theorem Reads.feed (h : Reads cap c r) (b : UInt8) :
    Reads cap (c ++ [b]) (r.feed b) ∨ Completes cap (c ++ [b]) (r.feed b) := by
  obtain ⟨s, ls, p, rfl, hs, hls, hp, rfl⟩ := h
  have hquota : ∀ n : Nat, cap - n - 1 = cap - (n + 1) := fun n => by omega
  by_cases hb : b = lf
  · subst hb
    -- The line is over: it is one more filled line, or a blank one.
    by_cases htext : lineOf p = .text
    · refine .inl ⟨s, ls ++ [p ++ [lf]], [], by simp, hs, ?_, List.not_mem_nil, ?_⟩
      · intro l hl
        rcases List.mem_append.1 hl with hl | hl
        · exact hls l hl
        · rw [List.mem_singleton.1 hl]
          exact isFilled_of_lineOf hp htext
      · simp [HeadReader.feed, htext, hquota, Nat.add_assoc]
    · have hblank := isBlank_of_lineOf htext
      by_cases hnil : ls = []
      · -- No line with text has ended yet: this one belongs to the preamble.
        subst hnil
        refine .inl ⟨s ++ (p ++ [lf]), [], [], by simp, hs.append hblank, by simp,
          List.not_mem_nil, ?_⟩
        simp [HeadReader.feed, htext, hquota, Nat.add_assoc]
      · -- A filled line has come before, and this one ends the head.
        refine .inr ⟨s, ls.flatten ++ (p ++ [lf]), by simp, hs, ⟨ls, _, hnil, hls, hblank, rfl⟩, ?_⟩
        simp [HeadReader.feed, htext, hnil, hquota, Nat.add_assoc]
  · refine .inl ⟨s, ls, p ++ [b], by simp, hs, hls, ?_, ?_⟩
    · simp only [List.mem_append, List.mem_singleton, not_or]
      exact ⟨hp, fun he => hb he.symm⟩
    · rw [lineOf_append]
      by_cases hcr : b = cr ∧ lineOf p = .fresh
      · have hne : ¬ cr = lf := by decide
        simp [HeadReader.feed, hcr, hne, hquota, Nat.add_assoc]
      · simp [HeadReader.feed, hb, hcr, hquota, Nat.add_assoc]

/-! ### All octets -/

/-- A reader that is done takes nothing more. -/
theorem takeFrom_of_isDone (h : r.isDone = true) (bs : Bytes) : r.takeFrom bs = (r, bs) := by
  cases bs with
  | nil => rfl
  | cons b bs => simp [takeFrom, h]

/-- A reader that is not done leaves nothing. -/
theorem takeFrom_left (h : (r.takeFrom bs).1.isDone = false) : (r.takeFrom bs).2 = [] := by
  induction bs generalizing r with
  | nil => rfl
  | cons b bs ih =>
    by_cases hd : r.isDone = true
    · rw [takeFrom_of_isDone hd] at h
      simp [hd] at h
    · simp only [takeFrom, hd] at h ⊢
      exact ih h

/-- What a reader does not take out of octets it leaves in front of those behind them. -/
theorem takeFrom_append (xs ys : Bytes) (h : (r.takeFrom xs).1.isDone = true) :
    r.takeFrom (xs ++ ys) = ((r.takeFrom xs).1, (r.takeFrom xs).2 ++ ys) := by
  induction xs generalizing r with
  | nil => exact takeFrom_of_isDone h ys
  | cons b xs ih =>
    by_cases hd : r.isDone = true
    · simp [takeFrom_of_isDone hd]
    · simp only [List.cons_append, takeFrom, hd] at h ⊢
      exact ih h

/-- A reader that is not done goes on with the octets behind. -/
theorem takeFrom_append_of_not_done (xs ys : Bytes) (h : (r.takeFrom xs).1.isDone = false) :
    r.takeFrom (xs ++ ys) = (r.takeFrom xs).1.takeFrom ys := by
  induction xs generalizing r with
  | nil => rfl
  | cons b xs ih =>
    by_cases hd : r.isDone = true
    · rw [takeFrom_of_isDone hd] at h
      simp [hd] at h
    · simp only [List.cons_append, takeFrom, hd] at h ⊢
      exact ih h

/-- A scan gives a reader the octets that it takes. -/
theorem scanList_feed (h : r.isDone = false) (bs : Bytes) :
    Lookahead.scanList (fun r b => (r.feed b, (r.feed b).isDone)) r bs =
      ((r.takeFrom bs).1, (r.takeFrom bs).1.isDone, (r.takeFrom bs).2) := by
  induction bs generalizing r with
  | nil => simp [Lookahead.scanList, takeFrom, h]
  | cons b bs ih =>
    simp only [Lookahead.scanList, takeFrom, h]
    cases hd : (r.feed b).isDone with
    | true => simp [takeFrom_of_isDone hd, hd]
    | false => exact ih hd

/-- **All octets:** what a reader comes to that goes on while it is not done. -/
theorem Reads.takeFrom (h : Reads cap c r) (hc : c.length ≤ cap) (bs : Bytes) :
    ∃ d, bs = d ++ (r.takeFrom bs).2 ∧ (c ++ d).length ≤ cap ∧
      (Reads cap (c ++ d) (r.takeFrom bs).1 ∨ Completes cap (c ++ d) (r.takeFrom bs).1) := by
  induction bs generalizing c r with
  | nil => exact ⟨[], rfl, by simpa using hc, .inl (by rwa [List.append_nil])⟩
  | cons b bs ih =>
    by_cases hd : r.isDone = true
    · rw [takeFrom_of_isDone hd]
      exact ⟨[], rfl, by simpa using hc, .inl (by rwa [List.append_nil])⟩
    · rw [HeadReader.takeFrom, if_neg hd]
      -- A reader that is not done has some of its cap left.
      have hroom : (c ++ [b]).length ≤ cap := by
        obtain ⟨s, ls, p, rfl, -, -, -, rfl⟩ := h
        simp only [isDone, Bool.false_or, beq_iff_eq] at hd
        rw [List.length_append, List.length_singleton]
        omega
      rcases h.feed b with hr | hr
      · obtain ⟨d, hd, hlen, hcases⟩ := ih hr hroom
        rw [List.append_assoc] at hlen hcases
        exact ⟨b :: d, by rw [List.cons_append, ← hd], hlen, hcases⟩
      · have hdone : (r.feed b).isDone = true := by
          obtain ⟨s, h, -, -, -, he⟩ := hr
          rw [he]; rfl
        rw [takeFrom_of_isDone hdone]
        exact ⟨[b], rfl, hroom, .inr hr⟩

/-- How much may still be read, while the head is not complete. -/
theorem Reads.quota (h : Reads cap c r) : r.quota = cap - c.length ∧ r.complete = false := by
  obtain ⟨s, ls, p, -, -, -, -, rfl⟩ := h
  exact ⟨rfl, rfl⟩

/-- A reader that is complete has found the head and all that is in front of it. -/
theorem Completes.framed (h : Completes cap c r) (hpre : c <+: bs) :
    ∃ s h, Framed bs s h ∧ (s ++ h).length = c.length ∧ r.complete = true ∧ r.head = h := by
  obtain ⟨s, h, rfl, hs, hh, rfl⟩ := h
  exact ⟨s, h, framed_iff.2 ⟨hpre, hs, hh⟩, rfl, rfl, List.reverse_reverse h⟩

/-- The octets up to the end of a head end one. -/
theorem Reads.not_framed {s h : Bytes} (hr : Reads cap c r) (hf : Framed bs s h) :
    ¬ s ++ h <+: c := by
  obtain ⟨s', ls, p, rfl, hs', hls, hp, -⟩ := hr
  exact hf.isHead.not_isPrefix hf.preamble hs' hls hp

/-- What a reader leaves is there behind as many octets as it took. -/
private theorem drop_eq_left {d left : Bytes} {n : Nat} (h : bs = d ++ left) (hn : d.length = n) :
    left = bs.drop n := by
  rw [h, ← hn, List.drop_left]

/-- **A head that fits the cap is found**, and nothing behind it is taken. -/
theorem takeFrom_of_framed {s h : Bytes} (hf : Framed bs s h) (hcap : (s ++ h).length ≤ cap) :
    ∃ r, (start cap).takeFrom bs = (r, bs.drop (s ++ h).length) ∧ r.complete = true ∧
      r.head = h := by
  obtain ⟨d, hd, hlen, hcases⟩ := (reads_start cap).takeFrom (Nat.zero_le cap) bs
  rw [List.nil_append] at hlen hcases
  have hpre : d <+: bs := ⟨_, hd.symm⟩
  rcases hcases with hr | hr
  · -- The octets taken would have to be fewer than the head has.
    have hnot := hr.not_framed hf
    have hshort : d.length < (s ++ h).length := by
      rcases List.prefix_or_prefix_of_prefix hf.within hpre with hle | hle
      · exact absurd hle hnot
      · refine Nat.lt_of_le_of_ne hle.length_le fun he => hnot ?_
        have heq : d = _ := hle.eq_of_length he
        exact ⟨[], by rw [List.append_nil, heq]⟩
    have hnd : ((start cap).takeFrom bs).1.isDone = false := by
      obtain ⟨hquota, hcomplete⟩ := hr.quota
      simp only [isDone, hquota, hcomplete, Bool.false_or, beq_eq_false_iff_ne]
      omega
    rw [takeFrom_left hnd, List.append_nil] at hd
    exact absurd (hd ▸ hf.within) hnot
  · -- A head has been found, and there are no two of them at the front of one stream.
    obtain ⟨s', h', hf', hlen', hcomplete, hhead⟩ := hr.framed hpre
    have heq : s = s' ∧ h = h' := by
      rcases List.prefix_or_prefix_of_prefix hf.within hf'.within with hle | hle
      · exact hf.isHead.eq_of_isPrefix hf.preamble hf'.preamble hf'.isHead hle
      · obtain ⟨rfl, rfl⟩ := hf'.isHead.eq_of_isPrefix hf'.preamble hf.preamble hf.isHead hle
        exact ⟨rfl, rfl⟩
    obtain ⟨rfl, rfl⟩ := heq
    exact ⟨_, Prod.ext rfl (drop_eq_left hd hlen'.symm), hcomplete, hhead⟩

/-- **Without a head that fits the cap** the reader takes everything up to the cap. -/
theorem takeFrom_of_not_framed (hn : ∀ s h, Framed bs s h → cap < (s ++ h).length) :
    ∃ r, (start cap).takeFrom bs = (r, bs.drop cap) ∧ r.complete = false ∧
      r.isDone = decide (cap ≤ bs.length) := by
  obtain ⟨d, hd, hlen, hcases⟩ := (reads_start cap).takeFrom (Nat.zero_le cap) bs
  rw [List.nil_append] at hlen hcases
  rcases hcases with hr | hr
  · obtain ⟨hquota, hcomplete⟩ := hr.quota
    have hdone : ((start cap).takeFrom bs).1.isDone = decide (cap ≤ d.length) := by
      rw [isDone, hcomplete, hquota, Bool.false_or, Bool.beq_eq_decide_eq, decide_eq_decide]
      omega
    by_cases hcap : cap ≤ d.length
    · have hlong : cap ≤ bs.length := by
        rw [hd, List.length_append]
        omega
      refine ⟨_, Prod.ext rfl (drop_eq_left hd (by omega)), hcomplete, ?_⟩
      rw [hdone, decide_eq_true hcap, decide_eq_true hlong]
    · -- The cap is not used up, so that everything there was has been taken.
      have hnil := takeFrom_left (hdone.trans (decide_eq_false hcap))
      rw [hnil, List.append_nil] at hd
      subst hd
      refine ⟨_, Prod.ext rfl ?_, hcomplete, hdone⟩
      rw [hnil, List.drop_eq_nil_of_le (by omega)]
  · -- A head that has been found is within the cap.
    obtain ⟨s, h, hf, hlen', -, -⟩ := hr.framed ⟨_, hd.symm⟩
    have hbig := hn s h hf
    omega

end ForwardProxy.HeadReader
