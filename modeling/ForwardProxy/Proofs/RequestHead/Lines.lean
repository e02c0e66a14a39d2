import ForwardProxy.Bytes

namespace ForwardProxy

/-!
# Lines

A request head is told apart from what stands around it by its lines alone.

* `IsLine`, `IsBlank` — lines, and those that hold nothing.
* `IsPreamble`, `IsHead` — blank lines alone, and lines of which only the last one is blank.
* `Framed` — the head in a stream, found by a longest and a shortest prefix.
* `framed_iff` — the same, told by lines.
* `IsHead.eq_of_isPrefix`, `IsHead.not_isPrefix` — a stream holds one head at most.
-/

/-- A line: its only line feed is its last octet. -/
def IsLine (l : Bytes) : Prop := ∃ p, lf ∉ p ∧ l = p ++ [lf]

/-- A line that holds nothing. -/
def IsBlank (l : Bytes) : Prop := l = [lf] ∨ l = [cr, lf]

/-- A line that holds something. -/
def IsFilled (l : Bytes) : Prop := IsLine l ∧ ¬ IsBlank l

/-- Blank lines alone. -/
def IsPreamble (s : Bytes) : Prop := ∃ ls : List Bytes, (∀ l ∈ ls, IsBlank l) ∧ s = ls.flatten

/-- Lines, the last of which is blank. -/
def EndsBlank (h : Bytes) : Prop :=
  ∃ (ls : List Bytes) (e : Bytes), (∀ l ∈ ls, IsLine l) ∧ IsBlank e ∧ h = ls.flatten ++ e

/-- Lines that hold something, one at least, and a blank line behind them. -/
def IsHead (h : Bytes) : Prop :=
  ∃ (ls : List Bytes) (e : Bytes),
    ls ≠ [] ∧ (∀ l ∈ ls, IsFilled l) ∧ IsBlank e ∧ h = ls.flatten ++ e

/-- `s` is the longest prefix of `bs` that is made of blank lines alone, and `h` the shortest
    continuation of it that ends with a blank line. -/
structure Framed (bs s h : Bytes) : Prop where
  within : s ++ h <+: bs
  preamble : IsPreamble s
  longest : ∀ s', s' <+: bs → IsPreamble s' → s'.length ≤ s.length
  endsBlank : EndsBlank h
  shortest : ∀ h', s ++ h' <+: bs → EndsBlank h' → h.length ≤ h'.length

/-! ### Lines in a row -/

/-- A blank line is a line. -/
theorem IsBlank.isLine {l : Bytes} (h : IsBlank l) : IsLine l := by
  rcases h with rfl | rfl
  · exact ⟨[], by decide, rfl⟩
  · exact ⟨[cr], by decide, rfl⟩

/-- A line has its line feed. -/
theorem IsLine.lf_mem {l : Bytes} (h : IsLine l) : lf ∈ l := by
  obtain ⟨p, -, rfl⟩ := h
  simp

/-- No line is without octets. -/
theorem IsLine.length_pos {l : Bytes} (h : IsLine l) : 0 < l.length :=
  List.length_pos_of_mem h.lf_mem

/-- No blank line needs to come before a head. -/
theorem isPreamble_nil : IsPreamble [] := ⟨[], by simp, rfl⟩

/-- One more blank line behind a preamble. -/
theorem IsPreamble.append {s l : Bytes} (h : IsPreamble s) (hl : IsBlank l) :
    IsPreamble (s ++ l) := by
  obtain ⟨ls, hls, rfl⟩ := h
  refine ⟨ls ++ [l], ?_, by simp⟩
  intro m hm
  rcases List.mem_append.1 hm with hm | hm
  · exact hls m hm
  · rwa [List.mem_singleton.1 hm]

/-- One more blank line in front of a preamble. -/
theorem IsPreamble.cons {s l : Bytes} (hl : IsBlank l) (h : IsPreamble s) :
    IsPreamble (l ++ s) := by
  obtain ⟨ls, hls, rfl⟩ := h
  refine ⟨l :: ls, ?_, rfl⟩
  intro m hm
  rcases List.mem_cons.1 hm with rfl | hm
  · exact hl
  · exact hls m hm

/-- Lines and the blank line that ends them are lines. -/
theorem isLine_of_mem_concat {ls : List Bytes} {e : Bytes} (hls : ∀ l ∈ ls, IsLine l)
    (he : IsBlank e) : ∀ l ∈ ls ++ [e], IsLine l := by
  intro l hl
  rcases List.mem_append.1 hl with hl | hl
  · exact hls l hl
  · rw [List.mem_singleton.1 hl]
    exact he.isLine

/-- Blank lines and filled ones are lines. -/
theorem isLine_of_mem_lines {as bs : List Bytes} (ha : ∀ a ∈ as, IsBlank a)
    (hb : ∀ b ∈ bs, IsFilled b) : ∀ l ∈ as ++ bs, IsLine l := by
  intro l hl
  rcases List.mem_append.1 hl with hl | hl
  · exact (ha l hl).isLine
  · exact (hb l hl).1

/-- Where a line ends is told by the line alone. -/
theorem IsLine.append_inj {l m xs ys : Bytes} (hl : IsLine l) (hm : IsLine m)
    (h : l ++ xs = m ++ ys) : l = m ∧ xs = ys := by
  obtain ⟨p, hp, rfl⟩ := hl
  obtain ⟨q, hq, rfl⟩ := hm
  -- By induction on what stands in front of the line feed, of which there is none before the end.
  induction p generalizing q with
  | nil =>
    cases q with
    | nil => simpa using h
    | cons b q =>
      simp only [List.nil_append, List.cons_append, List.cons.injEq] at h
      exact absurd (h.1 ▸ List.mem_cons_self) hq
  | cons a p ih =>
    cases q with
    | nil =>
      simp only [List.nil_append, List.cons_append, List.cons.injEq] at h
      exact absurd (h.1 ▸ List.mem_cons_self) hp
    | cons b q =>
      simp only [List.cons_append, List.cons.injEq] at h
      obtain ⟨rfl, h⟩ := h
      obtain ⟨heq, hrest⟩ := ih (fun hmem => hp (List.mem_cons_of_mem _ hmem)) q
        (fun hmem => hq (List.mem_cons_of_mem _ hmem)) h
      exact ⟨by rw [List.cons_append, heq, List.cons_append], hrest⟩

/-- Octets are cut into lines in one way only. -/
theorem lines_of_isPrefix {ls ms : List Bytes} {p : Bytes} (hl : ∀ l ∈ ls, IsLine l)
    (hm : ∀ m ∈ ms, IsLine m) (hp : lf ∉ p) (h : ls.flatten <+: ms.flatten ++ p) : ls <+: ms := by
  induction ls generalizing ms with
  | nil => exact List.nil_prefix
  | cons l ls ih =>
    obtain ⟨t, ht⟩ := h
    rw [List.flatten_cons, List.append_assoc] at ht
    cases ms with
    | nil =>
      -- A line brings a line feed, and there is none left to meet.
      have hmem : lf ∈ l ++ (ls.flatten ++ t) :=
        List.mem_append_left _ (hl l List.mem_cons_self).lf_mem
      rw [ht] at hmem
      exact absurd hmem hp
    | cons m ms =>
      -- Both begin with a line, and so with the same one.
      rw [List.flatten_cons, List.append_assoc] at ht
      obtain ⟨rfl, hrest⟩ :=
        (hl l List.mem_cons_self).append_inj (hm m List.mem_cons_self) ht
      have htail := ih (fun x hx => hl x (List.mem_cons_of_mem _ hx))
        (fun x hx => hm x (List.mem_cons_of_mem _ hx)) ⟨t, hrest⟩
      exact List.cons_prefix_cons.2 ⟨rfl, htail⟩

/-! ### Blank lines and filled lines -/

section

variable {as as' bs bs' xs ys : List Bytes} {e : Bytes}

/-- The blank lines in front of the first filled one are the same in a prefix. -/
theorem blank_of_isPrefix (ha : ∀ a ∈ as, IsBlank a) (ha' : ∀ a ∈ as', IsBlank a)
    (hx : ∃ x ∈ xs.head?, ¬ IsBlank x) (hy : ∀ y ∈ ys.head?, ¬ IsBlank y)
    (h : as ++ xs <+: as' ++ ys) : as = as' ∧ xs <+: ys := by
  induction as generalizing as' with
  | nil =>
    cases as' with
    | nil => exact ⟨rfl, h⟩
    | cons a' as' =>
      -- The prefix shows a filled line where the other one is still blank.
      obtain ⟨x, hx, hfilled⟩ := hx
      cases xs with
      | nil => simp at hx
      | cons x' xs =>
        obtain ⟨rfl, -⟩ := List.cons_prefix_cons.1 h
        obtain rfl : x' = x := by simpa using hx
        exact absurd (ha' _ List.mem_cons_self) hfilled
  | cons a as ih =>
    cases as' with
    | nil =>
      cases ys with
      | nil => simp at h
      | cons y ys =>
        obtain ⟨rfl, -⟩ := List.cons_prefix_cons.1 h
        exact absurd (ha _ List.mem_cons_self) (hy a rfl)
    | cons a' as' =>
      rw [List.cons_append, List.cons_append] at h
      obtain ⟨rfl, htail⟩ := List.cons_prefix_cons.1 h
      obtain ⟨rfl, hrest⟩ := ih (fun x hx => ha x (List.mem_cons_of_mem _ hx))
        (fun x hx => ha' x (List.mem_cons_of_mem _ hx)) htail
      exact ⟨rfl, hrest⟩

/-- The filled lines in front of the first blank one are the same in a prefix. -/
theorem filled_of_isPrefix (hb : ∀ b ∈ bs, IsFilled b) (hb' : ∀ b ∈ bs', IsFilled b)
    (he : IsBlank e) (hy : ∀ y ∈ ys.head?, IsBlank y) (h : bs ++ [e] <+: bs' ++ ys) :
    bs = bs' ∧ [e] <+: ys := by
  induction bs generalizing bs' with
  | nil =>
    cases bs' with
    | nil => exact ⟨rfl, h⟩
    | cons b' bs' =>
      obtain ⟨rfl, -⟩ := List.cons_prefix_cons.1 h
      exact absurd he (hb' _ List.mem_cons_self).2
  | cons b bs ih =>
    cases bs' with
    | nil =>
      cases ys with
      | nil => simp at h
      | cons y ys =>
        obtain ⟨rfl, -⟩ := List.cons_prefix_cons.1 h
        exact absurd (hy b rfl) (hb _ List.mem_cons_self).2
    | cons b' bs' =>
      rw [List.cons_append, List.cons_append] at h
      obtain ⟨rfl, htail⟩ := List.cons_prefix_cons.1 h
      obtain ⟨rfl, hrest⟩ := ih (fun x hx => hb x (List.mem_cons_of_mem _ hx))
        (fun x hx => hb' x (List.mem_cons_of_mem _ hx)) htail
      exact ⟨rfl, hrest⟩

/-- Blank lines, filled lines and a blank line come first only where such lines stand. -/
theorem head_lines_of_isPrefix (ha : ∀ a ∈ as, IsBlank a) (hne : bs ≠ [])
    (hb : ∀ b ∈ bs, IsFilled b) (he : IsBlank e) (ha' : ∀ a ∈ as', IsBlank a)
    (hne' : ys ≠ [] → bs' ≠ []) (hb' : ∀ b ∈ bs', IsFilled b) (hy : ∀ y ∈ ys.head?, IsBlank y)
    (h : as ++ (bs ++ [e]) <+: as' ++ (bs' ++ ys)) : as = as' ∧ bs = bs' ∧ [e] <+: ys := by
  -- The first line behind the blank ones is filled on either side.
  have hx : ∃ x ∈ (bs ++ [e]).head?, ¬ IsBlank x := by
    cases bs with
    | nil => exact absurd rfl hne
    | cons b bs => exact ⟨b, rfl, (hb b List.mem_cons_self).2⟩
  have hfilled : ∀ y ∈ (bs' ++ ys).head?, ¬ IsBlank y := by
    intro y hmem
    cases bs' with
    | nil =>
      cases ys with
      | nil => simp at hmem
      | cons y' ys => exact absurd rfl (hne' (by simp))
    | cons b bs' =>
      obtain rfl : b = y := by simpa using hmem
      exact (hb' b List.mem_cons_self).2
  obtain ⟨hab, hrest⟩ := blank_of_isPrefix ha ha' hx hfilled h
  exact ⟨hab, filled_of_isPrefix hb hb' he hy hrest⟩

end

/-! ### Heads -/

section

variable {s s' h h' : Bytes}

/-- A preamble and a head are blank lines, filled lines and a blank line. -/
theorem IsPreamble.lines_head (hs : IsPreamble s) (hh : IsHead h) :
    ∃ (as bs : List Bytes) (e : Bytes), (∀ a ∈ as, IsBlank a) ∧ bs ≠ [] ∧
      (∀ b ∈ bs, IsFilled b) ∧ IsBlank e ∧ s = as.flatten ∧ h = (bs ++ [e]).flatten := by
  obtain ⟨as, ha, rfl⟩ := hs
  obtain ⟨bs, e, hne, hb, he, rfl⟩ := hh
  exact ⟨as, bs, e, ha, hne, hb, he, rfl, by simp⟩

/-- Everything in front of the end of a head, and that end, are lines. -/
private theorem isLine_of_mem_head {as bs : List Bytes} {e : Bytes} (ha : ∀ a ∈ as, IsBlank a)
    (hb : ∀ b ∈ bs, IsFilled b) (he : IsBlank e) : ∀ l ∈ as ++ (bs ++ [e]), IsLine l := by
  rw [← List.append_assoc]
  exact isLine_of_mem_concat (isLine_of_mem_lines ha hb) he

/-- There is one head at most at the front of a stream. -/
theorem IsHead.eq_of_isPrefix (hs : IsPreamble s) (hh : IsHead h) (hs' : IsPreamble s')
    (hh' : IsHead h') (hpre : s ++ h <+: s' ++ h') : s = s' ∧ h = h' := by
  obtain ⟨as, bs, e, ha, hne, hb, he, rfl, rfl⟩ := hs.lines_head hh
  obtain ⟨as', bs', e', ha', hne', hb', he', rfl, rfl⟩ := hs'.lines_head hh'
  rw [← List.flatten_append, ← List.flatten_append] at hpre
  have hlines := lines_of_isPrefix (isLine_of_mem_head ha hb he) (isLine_of_mem_head ha' hb' he')
    (List.not_mem_nil (a := lf)) (by rwa [List.append_nil])
  obtain ⟨rfl, rfl, hend⟩ := head_lines_of_isPrefix ha hne hb he ha' (fun _ => hne') hb'
    (by simpa using he') hlines
  obtain ⟨rfl, -⟩ := List.cons_prefix_cons.1 hend
  exact ⟨rfl, rfl⟩

/-- No head is there before a blank line has followed a filled one. -/
theorem IsHead.not_isPrefix {ls : List Bytes} {p : Bytes} (hs : IsPreamble s) (hh : IsHead h)
    (hs' : IsPreamble s') (hls : ∀ l ∈ ls, IsFilled l) (hp : lf ∉ p) :
    ¬ s ++ h <+: s' ++ ls.flatten ++ p := by
  intro hpre
  obtain ⟨as, bs, e, ha, hne, hb, he, rfl, rfl⟩ := hs.lines_head hh
  obtain ⟨as', ha', rfl⟩ := hs'
  rw [← List.flatten_append, ← List.flatten_append] at hpre
  have hlines :=
    lines_of_isPrefix (isLine_of_mem_head ha hb he) (isLine_of_mem_lines ha' hls) hp hpre
  rw [← List.append_nil ls] at hlines
  have hend := (head_lines_of_isPrefix ha hne hb he ha' (by simp) hls (by simp) hlines).2.2
  simp at hend

end

/-! ### Framing -/

section

variable {bs s h : Bytes}

/-- Blank lines behind others would be part of the preamble, and a blank line among the others the
    end of the head. -/
theorem Framed.isHead (hf : Framed bs s h) : IsHead h := by
  obtain ⟨ls, e, hls, he, rfl⟩ := hf.endsBlank
  refine ⟨ls, e, ?_, fun l hl => ⟨hls l hl, fun hblank => ?_⟩, he, rfl⟩
  · -- Had the head no line but its blank one, this would lengthen the preamble.
    rintro rfl
    have hlen := hf.longest (s ++ e) hf.within (hf.preamble.append he)
    have hpos := he.isLine.length_pos
    rw [List.length_append] at hlen
    omega
  · -- A blank line among the others would end a shorter head.
    obtain ⟨before, after, rfl⟩ := List.append_of_mem hl
    have hpre : s ++ (before.flatten ++ l) <+: bs := by
      refine List.IsPrefix.trans ?_ hf.within
      exact ⟨after.flatten ++ e, by simp⟩
    have hlen := hf.shortest _ hpre
      ⟨before, l, fun x hx => hls x (List.mem_append_left _ hx), hblank, rfl⟩
    have hpos := he.isLine.length_pos
    simp only [List.flatten_append, List.flatten_cons, List.length_append] at hlen
    omega

/-- Of two preambles in front of a head, none is longer than the other. -/
private theorem preamble_length_le (hs : IsPreamble s) (hh : IsHead h) {s' : Bytes}
    (hs' : IsPreamble s') (hpre : s' <+: s ++ h) : s'.length ≤ s.length := by
  obtain ⟨as, bs, e, ha, hne, hb, he, rfl, rfl⟩ := hs.lines_head hh
  obtain ⟨as', ha', rfl⟩ := hs'
  rw [← List.flatten_append] at hpre
  have hlines := lines_of_isPrefix (fun l hl => (ha' l hl).isLine) (isLine_of_mem_head ha hb he)
    (List.not_mem_nil (a := lf)) (by rwa [List.append_nil])
  -- The blank lines end within those of the preamble, or go on where the head begins.
  rcases List.prefix_or_prefix_of_prefix hlines (List.prefix_append as _) with hle | ⟨t, rfl⟩
  · obtain ⟨t, rfl⟩ := hle
    simp
  · rw [List.prefix_append_right_inj] at hlines
    cases t with
    | nil => simp
    | cons l t =>
      cases bs with
      | nil => exact absurd rfl hne
      | cons b bs =>
        obtain ⟨rfl, -⟩ := List.cons_prefix_cons.1 hlines
        exact absurd (ha' l (by simp)) (hb l List.mem_cons_self).2

/-- A head ends at its first blank line. -/
private theorem head_length_le (hh : IsHead h) {h' : Bytes} (hh' : EndsBlank h')
    (hpre : h' <+: h) : h.length ≤ h'.length := by
  obtain ⟨bs, e, hne, hb, he, rfl⟩ := hh
  obtain ⟨ls, e', hls, he', rfl⟩ := hh'
  have hflat : (ls ++ [e']).flatten <+: (bs ++ [e]).flatten ++ [] := by simpa using hpre
  have hlines := lines_of_isPrefix (isLine_of_mem_concat hls he')
    (isLine_of_mem_concat (fun b hmem => (hb b hmem).1) he) List.not_mem_nil hflat
  -- What ends with a blank line is the head as a whole, or ends with one of its filled lines.
  rcases List.prefix_concat_iff.1 hlines with heq | hlt
  · have hlen := congrArg (fun ls : List Bytes => ls.flatten.length) heq
    simp only [List.flatten_append, List.flatten_singleton] at hlen
    exact Nat.le_of_eq hlen.symm
  · exact absurd he' (hb e' (hlt.subset (by simp))).2

/-- **Framing is told by lines:** blank lines, then filled lines and the first blank line behind
    them. -/
theorem framed_iff : Framed bs s h ↔ s ++ h <+: bs ∧ IsPreamble s ∧ IsHead h := by
  refine ⟨fun hf => ⟨hf.within, hf.preamble, hf.isHead⟩, fun ⟨hpre, hs, hh⟩ => ?_⟩
  have hends : EndsBlank h := by
    obtain ⟨ls, e, -, hls, he, rfl⟩ := hh
    exact ⟨ls, e, fun l hl => (hls l hl).1, he, rfl⟩
  refine ⟨hpre, hs, fun s' hs' hp => ?_, hends, fun h' hh' hends' => ?_⟩
  · rcases List.prefix_or_prefix_of_prefix hs' hpre with hle | hle
    · exact preamble_length_le hs hh hp hle
    · -- Blank lines alone do not hold a head.
      obtain ⟨ls, hls, rfl⟩ := hp
      have hle' : s ++ h <+: ls.flatten ++ [].flatten ++ [] := by simpa using hle
      exact absurd hle' (hh.not_isPrefix hs ⟨ls, hls, rfl⟩ (by simp) List.not_mem_nil)
  · rcases List.prefix_or_prefix_of_prefix hh' hpre with hle | hle
    · exact head_length_le hh hends' ((List.prefix_append_right_inj s).1 hle)
    · exact ((List.prefix_append_right_inj s).1 hle).length_le

end

end ForwardProxy
