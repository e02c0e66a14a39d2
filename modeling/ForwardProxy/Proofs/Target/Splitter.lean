import ForwardProxy.Proofs.Text.Offsets

namespace ForwardProxy.Target

/-!
# The splitter

What the splitter makes of each shape of an authority, and that offsets would do as well: a
splitter that finds its places by octet offsets, and cuts there, never cuts past the end or inside
a character.

* `splitHostPort_plain`, `splitHostPort_bracketed`, `splitBracketed_append` — the shapes.
* `splitAtOffsets?` — the splitter on offsets; none if a place it cuts at is none.
* `splitAtOffsets?_eq` — there always is such a place, and the answer is the same.
-/

open Text (cut? firstOffset? lastOffset? octetAt? size slice? splitLast?)

variable {s host digits rest : Text}

/-! ### The shapes -/

/-- Without a colon there is no port. -/
theorem splitHostPort_of_not_mem (hcolon : ':' ∉ s) : splitHostPort s = .error .missingPort := by
  rw [splitHostPort, Text.splitLast?_eq_none_iff.2 hcolon]

/-- Without an opening bracket in front, the last colon cuts. -/
theorem splitHostPort_plain (hplain : (host ++ ':' :: digits).head? ≠ some '[')
    (hdigits : ':' ∉ digits) :
    splitHostPort (host ++ ':' :: digits) =
      if ':' ∈ host then .error .tooManyColons
      else if '[' ∈ host ++ ':' :: digits then .error (.malformed .strayOpening)
      else if ']' ∈ host ++ ':' :: digits then .error (.malformed .strayClosing)
      else .ok (host, digits) := by
  rw [splitHostPort, Text.splitLast?_append_cons host hdigits]
  dsimp only
  split
  · rename_i hbracket
    rw [hbracket] at hplain
    exact absurd rfl hplain
  · simp only [List.contains_iff_mem]

/-- With an opening bracket in front, the first closing one cuts. -/
theorem splitHostPort_bracketed (hcolon : ':' ∈ rest) :
    splitHostPort ('[' :: rest) = splitBracketed rest := by
  rw [splitHostPort]
  cases hsplit : splitLast? ':' ('[' :: rest) with
  | none => exact absurd (List.mem_cons_of_mem _ hcolon) (Text.splitLast?_eq_none_iff.1 hsplit)
  | some p => rfl

/-- Without a closing bracket, a bracketed host has no end. -/
theorem splitBracketed_of_not_mem (hclosing : ']' ∉ rest) :
    splitBracketed rest = .error (.malformed .unclosedBracket) := by
  rw [splitBracketed, List.dropWhile_eq_nil_iff.2 (Text.bne_of_not_mem hclosing)]

/-- The first closing bracket ends a bracketed host; what follows it decides about the port. -/
theorem splitBracketed_append (hhost : ']' ∉ host) (tail : Text) :
    splitBracketed (host ++ ']' :: tail) =
      match tail with
      | [] => .error .missingPort
      | c :: port =>
        if c ≠ ':' then .error .missingPort
        else if ':' ∈ port then .error .tooManyColons
        else if '[' ∈ host ++ ']' :: c :: port then .error (.malformed .strayOpening)
        else if ']' ∈ port then .error (.malformed .strayClosing)
        else .ok (host, port) := by
  rw [splitBracketed, Text.dropWhile_ne_append_cons hhost, Text.takeWhile_ne_append_cons hhost]
  cases tail with
  | nil => rfl
  | cons c port => simp only [bne_iff_ne, List.contains_iff_mem]

/-! ### The splitter on offsets -/

/-- The last steps: no opening bracket may stand at or behind one offset, and no closing one at or
    behind another. -/
def finishAtOffsets? (s host : Text) (opening closing colon : Nat) :
    Option (Except SplitFlaw (Text × Text)) := do
  let (_, behindOpening) ← cut? opening s
  if '[' ∈ behindOpening then return .error (.malformed .strayOpening)
  let (_, behindClosing) ← cut? closing s
  if ']' ∈ behindClosing then return .error (.malformed .strayClosing)
  let (_, port) ← cut? (colon + 1) s
  return .ok (host, port)

/-- Host and port, cut at octet offsets; none if there is no place at such an offset. -/
def splitAtOffsets? (s : Text) : Option (Except SplitFlaw (Text × Text)) :=
  match lastOffset? ':' s with
  | none => some (.error .missingPort)
  | some colon =>
    if s.head? = some '[' then
      match firstOffset? ']' s with
      | none => some (.error (.malformed .unclosedBracket))
      | some close =>
        if close + 1 = size s then some (.error .missingPort)
        else if close + 1 = colon then do
          let host ← slice? 1 close s
          finishAtOffsets? s host 1 (close + 1) colon
        else do
          let octet ← octetAt? (close + 1) s
          return .error (if octet = 0x3A then .tooManyColons else .missingPort)
    else do
      let (host, _) ← cut? colon s
      if ':' ∈ host then return .error .tooManyColons
      finishAtOffsets? s host 0 0 colon

/-- The last checks on offsets are those on the texts behind the two brackets. -/
theorem finishAtOffsets?_eq (host opening closing before : Text)
    {behindOpening behindClosing port : Text}
    (hopening : s = opening ++ behindOpening) (hclosing : s = closing ++ behindClosing)
    (hcolon : s = before ++ ':' :: port) :
    finishAtOffsets? s host (size opening) (size closing) (size before) =
      some (if '[' ∈ behindOpening then .error (.malformed .strayOpening)
        else if ']' ∈ behindClosing then .error (.malformed .strayClosing)
        else .ok (host, port)) := by
  have hopening' := Text.cut?_eq_some_iff.2 ⟨hopening, rfl⟩
  have hclosing' := Text.cut?_eq_some_iff.2 ⟨hclosing, rfl⟩
  have hport : cut? (size before + 1) s = some (before ++ [':'], port) :=
    Text.cut?_eq_some_iff.2 ⟨by rw [hcolon]; simp, by rw [Text.size_append]; rfl⟩
  simp only [finishAtOffsets?, hopening', hclosing', hport, Option.bind_eq_bind, Option.bind_some,
    Option.pure_def]
  split
  · rfl
  · split <;> rfl

/-- Without an opening bracket in front, every place is there. -/
theorem splitAtOffsets?_plain (hplain : s.head? ≠ some '[') (hmem : ':' ∈ s) :
    splitAtOffsets? s = some (splitHostPort s) := by
  obtain ⟨host, digits, rfl, hdigits, hcolon⟩ := Text.exists_lastOffset? hmem
  have hfinish := finishAtOffsets?_eq host [] [] host
    (List.nil_append (host ++ ':' :: digits)).symm (List.nil_append _).symm rfl
  rw [Text.size_nil] at hfinish
  rw [splitHostPort_plain hplain hdigits, splitAtOffsets?, hcolon]
  simp only [if_neg hplain, Text.cut?_size, Option.bind_eq_bind, Option.bind_some, Option.pure_def,
    hfinish]
  split <;> rfl

/-- With an opening bracket in front and a closing one behind it, every place is there. -/
theorem splitAtOffsets?_bracketed (hhost : ']' ∉ host) {tail : Text}
    (hmem : ':' ∈ host ++ ']' :: tail) :
    splitAtOffsets? ('[' :: (host ++ ']' :: tail)) =
      some (splitBracketed (host ++ ']' :: tail)) := by
  obtain ⟨before, port, hcut, hport, hcolon⟩ :=
    Text.exists_lastOffset? (List.mem_cons_of_mem '[' hmem)
  have hclose : firstOffset? ']' ('[' :: (host ++ ']' :: tail)) = some (size ('[' :: host)) :=
    Text.firstOffset?_append_cons (a := '[' :: host) (by simp [hhost]) tail
  -- The place behind the closing bracket, and what stands there.
  have hbehind : size ('[' :: host) + 1 = size ('[' :: host ++ [']']) := by
    rw [Text.size_append]
    rfl
  have hshape : '[' :: (host ++ ']' :: tail) = '[' :: host ++ [']'] ++ tail := by simp
  rw [splitBracketed_append hhost, splitAtOffsets?, hcolon, hclose]
  dsimp only
  rw [if_pos List.head?_cons, hbehind]
  cases tail with
  | nil => rw [if_pos (by rw [hshape, List.append_nil])]
  | cons c tail =>
    have hsize : size ('[' :: host ++ [']']) ≠ size ('[' :: (host ++ ']' :: c :: tail)) := by
      have hpos := c.utf8Size_pos
      rw [hshape, Text.size_append ('[' :: host ++ [']']), Text.size_cons]
      omega
    rw [if_neg hsize]
    dsimp only
    by_cases hlast : c = ':' ∧ ':' ∉ tail
    · -- The last colon stands right behind the bracket: this is a port.
      obtain ⟨rfl, htail⟩ := hlast
      obtain ⟨hbefore, -⟩ := Text.append_cons_inj_last htail hport (hshape.symm.trans hcut)
      rw [← hbefore, if_pos rfl, if_neg fun h => h rfl, if_neg htail]
      have hslice :
          slice? 1 (size ('[' :: host)) ('[' :: (host ++ ']' :: ':' :: tail)) = some host :=
        Text.slice?_size ['['] host (']' :: ':' :: tail)
      have hfinish := finishAtOffsets?_eq host ['['] ('[' :: host ++ [']'])
        ('[' :: host ++ [']']) rfl hshape hshape
      rw [hslice]
      refine hfinish.trans ?_
      simp
    · have hne : size ('[' :: host ++ [']']) ≠ size before := by
        intro hsame
        have h₁ := Text.cut?_eq_some_iff.2 ⟨hshape, hsame.symm⟩
        have h₂ := Text.cut?_eq_some_iff.2 ⟨hcut, rfl⟩
        obtain ⟨-, hrest⟩ := Prod.mk.inj (Option.some.inj (h₁.symm.trans h₂))
        cases hrest
        exact hlast ⟨rfl, hport⟩
      obtain ⟨octet, hoctet, hiff⟩ :=
        Text.octetAt?_size (d := ':') (by decide) ('[' :: host ++ [']']) c tail
      have h58 : UInt8.ofNat ':'.val.toNat = 0x3A := by decide
      rw [h58] at hiff
      rw [if_neg hne, hshape, hoctet]
      show some _ = _
      by_cases hc : c = ':'
      · rw [if_pos (hiff.2 hc), if_neg fun h => h hc,
          if_pos (Classical.not_not.1 fun h => hlast ⟨hc, h⟩)]
      · rw [if_neg (mt hiff.1 hc), if_pos hc]

/-- **No place is missing:** the splitter on offsets always answers, and as the splitter does. -/
theorem splitAtOffsets?_eq (s : Text) : splitAtOffsets? s = some (splitHostPort s) := by
  by_cases hcolon : ':' ∈ s
  · -- The splitter looks for the last colon first, and only then at the first character.
    by_cases hplain : s.head? = some '['
    · cases s with
      | nil => cases hplain
      | cons c rest =>
        obtain rfl := Option.some.inj hplain
        have hrest : ':' ∈ rest := by simpa using hcolon
        rw [splitHostPort_bracketed hrest]
        by_cases hclosing : ']' ∈ rest
        · obtain ⟨host, tail, rfl, hhost⟩ := List.eq_append_cons_of_mem hclosing
          exact splitAtOffsets?_bracketed hhost hrest
        · obtain ⟨_, _, _, _, hlast⟩ := Text.exists_lastOffset? hcolon
          rw [splitBracketed_of_not_mem hclosing, splitAtOffsets?, hlast,
            Text.firstOffset?_of_not_mem (by simpa using hclosing)]
          exact if_pos hplain
    · exact splitAtOffsets?_plain hplain hcolon
  · rw [splitHostPort_of_not_mem hcolon, splitAtOffsets?, Text.lastOffset?_eq,
      Text.splitLast?_eq_none_iff.2 hcolon]
    rfl

end ForwardProxy.Target
