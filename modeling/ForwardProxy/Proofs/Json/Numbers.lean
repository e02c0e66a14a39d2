import ForwardProxy.Json.Reader
import ForwardProxy.Proofs.Text.Cutting
import ForwardProxy.Text.Decimal

namespace ForwardProxy.Json

/-!
# Whole numbers that are read back

* `number_digits` — a whole number up to 2^64 - 1 that was written in decimal is read back.
* `row_of_natural` — nothing else is read as a whole number that is not negative: it is a row of
  digits of such a value, behind which neither a fraction nor an exponent comes.
-/

variable {ds rest bs : Bytes} {n s : Nat}

/-! ### Rows of digits -/

/-- A digit is no octet that is not one. -/
theorem ne_of_isDigit {a b : UInt8} (ha : isDigit a = true) (hb : isDigit b = false) : a ≠ b := by
  rintro rfl
  exact absurd (ha.symm.trans hb) (by decide)

/-- No digit is white space. -/
theorem isBlank_of_isDigit {b : UInt8} (h : isDigit b = true) : isBlank b = false := by
  have hne : ∀ a, isDigit a = false → (b == a) = false := fun a ha =>
    beq_false_of_ne (ne_of_isDigit h ha)
  rw [isBlank, hne _ (by decide), hne _ (by decide), hne _ (by decide), hne _ (by decide)]
  rfl

/-- The number that a row of digits writes behind another number. -/
def rowValue (s : Nat) (ds : Bytes) : Nat := ds.foldl (fun acc d => acc * 10 + digitValue d) s

/-- A row of digits is reckoned from its first one on. -/
theorem rowValue_cons (s : Nat) (d : UInt8) (ds : Bytes) :
    rowValue s (d :: ds) = rowValue (s * 10 + digitValue d) ds := by
  rw [rowValue, List.foldl_cons, rowValue]

/-- More digits make no number smaller. -/
theorem le_rowValue (s : Nat) (ds : Bytes) : s ≤ rowValue s ds := by
  induction ds generalizing s with
  | nil => exact Nat.le_refl s
  | cons d ds ih =>
    have := ih (s * 10 + digitValue d)
    rw [rowValue_cons]
    omega

/-- A longer row writes no smaller number. -/
theorem rowValue_le_append (s : Nat) (ds more : Bytes) :
    rowValue s ds ≤ rowValue s (ds ++ more) := by
  rw [rowValue, rowValue, List.foldl_append]
  exact le_rowValue _ more

/-- A row of a value that is kept exactly is taken whole. -/
theorem absorb_of_le (h : rowValue s ds ≤ maxSignificand) :
    absorb s ds = (rowValue s ds, ds.length) := by
  induction ds generalizing s with
  | nil => rfl
  | cons d ds ih =>
    rw [rowValue_cons] at h
    have hsmall : ¬ maxSignificand < s * 10 + digitValue d :=
      Nat.not_lt_of_le (Nat.le_trans (le_rowValue _ ds) h)
    rw [absorb, if_neg hsmall, ih h]
    rfl

/-- A row that is taken whole has a value that is kept exactly. -/
theorem rowValue_le_of_absorb (hs : s ≤ maxSignificand) (h : (absorb s ds).2 = ds.length) :
    rowValue s ds ≤ maxSignificand := by
  induction ds generalizing s with
  | nil => exact hs
  | cons d ds ih =>
    rw [absorb] at h
    dsimp only at h
    split at h
    · exact absurd h (Nat.succ_ne_zero _).symm
    · rename_i hnext
      exact ih (Nat.le_of_not_lt hnext) (Nat.succ.inj h)

/-! ### Whole numbers -/

/-- The octets of a number in decimal. -/
def decimal (n : Nat) : Bytes := (Decimal.write n).map octet

/-- A number is written as its quotient by ten and its last digit. -/
theorem decimal_eq (n : Nat) :
    decimal n =
      if n < 10 then [octet n.digitChar]
      else decimal (n / 10) ++ [octet (n % 10).digitChar] := by
  rw [decimal, Decimal.write, Nat.toDigits_eq_if (by omega)]
  split
  · rfl
  · rw [List.map_append]
    rfl

/-- A digit is an octet that is one, and it is zero only if its octet says so. -/
theorem digit_octet {d : Nat} (hd : d < 10) :
    isDigit (octet d.digitChar) = true ∧ digitValue (octet d.digitChar) = d ∧
      (octet d.digitChar = octet '0' → d = 0) := by
  have hall : ∀ d : Fin 10, isDigit (octet d.val.digitChar) = true ∧
      digitValue (octet d.val.digitChar) = d.val ∧
      (octet d.val.digitChar = octet '0' → d.val = 0) := by decide
  exact hall ⟨d, hd⟩

/-- **A number in decimal**: a row of digits that writes it, with a zero in front only if it is
    zero. -/
theorem decimal_spec (n : Nat) :
    (∀ b ∈ decimal n, isDigit b = true) ∧ rowValue 0 (decimal n) = n ∧
      ∃ d r, decimal n = d :: r ∧ (d = octet '0' → r = []) := by
  induction n using Nat.strongRecOn with
  | ind n ih =>
    rw [decimal_eq]
    split
    · rename_i hlt
      obtain ⟨hdigit, hvalue, -⟩ := digit_octet hlt
      refine ⟨List.forall_mem_singleton.2 hdigit, ?_, _, [], rfl, fun _ => rfl⟩
      show 0 * 10 + digitValue _ = n
      rw [hvalue]
      omega
    · rename_i hge
      obtain ⟨hdigits, hvalue, d, r, hcons, hzero⟩ := ih (n / 10) (by omega)
      obtain ⟨hdigit, hlast, -⟩ := digit_octet (Nat.mod_lt n (by omega : 0 < 10))
      refine ⟨?_, ?_, d, r ++ [octet (n % 10).digitChar], by rw [hcons]; rfl, fun hd => ?_⟩
      · exact List.forall_mem_append.2 ⟨hdigits, List.forall_mem_singleton.2 hdigit⟩
      · rw [rowValue, List.foldl_append]
        show rowValue 0 (decimal (n / 10)) * 10 + digitValue _ = n
        rw [hvalue, hlast]
        omega
      · -- Only zero has a zero in front, and what stands in front of the last digit is not zero.
        rw [hcons, hzero hd, hd] at hvalue
        have hnone : rowValue 0 [octet '0'] = 0 := by decide
        omega

/-- A number in decimal is ASCII. -/
theorem toNat_lt_of_mem_decimal {b : UInt8} (h : b ∈ decimal n) : b.toNat < 128 := by
  have hdigit := (decimal_spec n).1 b h
  rw [isDigit, Bool.and_eq_true, decide_eq_true_eq, decide_eq_true_eq] at hdigit
  exact Nat.lt_of_le_of_lt (UInt8.le_iff_toNat_le.1 hdigit.2) (by decide)

/-- What may stand behind a whole number. -/
def Ends (rest : Bytes) : Prop :=
  ∀ b, rest.head? = some b →
    isDigit b = false ∧ b ≠ octet '.' ∧ b ≠ octet 'e' ∧ b ≠ octet 'E'

/-- **A whole number** that was written is read back. -/
theorem number_decimal (hn : n ≤ maxSignificand) (hrest : Ends rest) :
    number true (decimal n ++ rest) = .ok (.natural n, rest) := by
  obtain ⟨hdigits, hvalue, d, r, hcons, hzero⟩ := decimal_spec n
  obtain ⟨htake, hdrop⟩ := Text.row_append hdigits fun b hb => (hrest b hb).1
  have habsorb : absorb 0 (decimal n) = (n, (decimal n).length) := by
    rw [absorb_of_le (hvalue.symm ▸ hn), hvalue]
  have hdigit : isDigit d = true := hdigits d (hcons ▸ List.mem_cons_self)
  have hlead : ¬ (d = octet '0' && (r ++ rest).head?.any isDigit) = true := by
    simp only [Bool.and_eq_true, decide_eq_true_eq, not_and]
    intro hd
    rw [hzero hd]
    cases hhead : rest.head? with
    | none => simp [hhead]
    | some b => simp [hhead, (hrest b hhead).1]
  -- A leading zero, which would be refused, is written for zero only, and nothing follows it then.
  have hread : number true (decimal n ++ rest) = digits true (decimal n ++ rest) := by
    rw [hcons, List.cons_append, number, hdigit]
    rw [if_neg (by decide), if_neg hlead]
  rw [hread, digits, htake, hdrop, habsorb]
  dsimp only
  rw [Int.sub_self]
  cases rest with
  | nil => rfl
  | cons b rest =>
    obtain ⟨-, hpoint, he, hE⟩ := hrest b rfl
    dsimp only
    rw [if_neg hpoint, if_neg (by simp [he, hE]), if_pos rfl]
    rfl

/-! ### Everything else -/

/-- What is read is not a whole number from zero on. -/
def NoNatural (r : Except Slip (Number × Bytes)) : Prop := ∀ n rest, r ≠ .ok (.natural n, rest)

/-- A number with an exponent is no whole number, however it ends. -/
theorem noNatural_finishReal (positive : Bool) (s : Nat) (e : Int) (bs : Bytes) :
    NoNatural (finishReal positive s e bs) := by
  intro n rest h
  unfold finishReal at h
  split at h
  · cases h
  · cases h

/-- An exponent makes no whole number. -/
theorem noNatural_exponentPart (positive : Bool) (s : Nat) (e : Int) (bs : Bytes) :
    NoNatural (exponentPart positive s e bs) := by
  intro n rest h
  unfold exponentPart at h
  split at h
  rename_i up behind hsign
  split at h
  · cases h
  · split at h
    · cases h
    · dsimp only at h
      split at h
      · exact noNatural_finishReal _ _ _ _ _ _ h
      · split at h <;> cases h

/-- A fraction makes no whole number. -/
theorem noNatural_fractionPart (positive : Bool) (s : Nat) (e : Int) (bs : Bytes) :
    NoNatural (fractionPart positive s e bs) := by
  intro n rest h
  unfold fractionPart at h
  dsimp only at h
  split at h
  · cases h
  · unfold realEnd at h
    split at h
    · split at h
      · exact noNatural_exponentPart _ _ _ _ _ _ h
      · exact noNatural_finishReal _ _ _ _ _ _ h
    · exact noNatural_finishReal _ _ _ _ _ _ h

/-- The end of the digits is that of a whole number only if all of them were taken and no sign
    stands in front. -/
theorem taken_of_natural {positive : Bool} {dropped : Int} {m : Nat} {behind : Bytes}
    (h : (if dropped = 0 then .ok (wholeNumber positive m, behind)
      else finishReal positive m dropped behind) = .ok (.natural n, rest)) :
    positive = true ∧ dropped = 0 ∧ behind = rest := by
  split at h
  · rename_i hnone
    unfold wholeNumber at h
    split at h
    · rename_i hpositive
      cases h
      exact ⟨hpositive, hnone, rfl⟩
    · split at h <;> cases h
  · exact absurd h (noNatural_finishReal _ _ _ _ _ _)

/-- Digits that are read as a whole number are a row of their own, with no fraction and no exponent
    behind it. -/
theorem row_of_digits {positive : Bool} (h : digits positive bs = .ok (.natural n, rest)) :
    positive = true ∧ bs.dropWhile isDigit = rest ∧
      rowValue 0 (bs.takeWhile isDigit) ≤ maxSignificand ∧ Ends rest := by
  have htaken : ((bs.takeWhile isDigit).length : Int) - (absorb 0 (bs.takeWhile isDigit)).2 = 0 →
      rowValue 0 (bs.takeWhile isDigit) ≤ maxSignificand :=
    fun hnone => rowValue_le_of_absorb (Nat.zero_le _) (by omega)
  have hnot := List.head?_dropWhile_not isDigit bs
  unfold digits at h
  dsimp only at h
  generalize bs.dropWhile isDigit = behind at h hnot ⊢
  split at h
  · rename_i b r
    split at h
    · exact absurd h (noNatural_fractionPart _ _ _ _ _ _)
    · rename_i hpoint
      split at h
      · exact absurd h (noNatural_exponentPart _ _ _ _ _ _)
      · rename_i hexponent
        rw [Bool.or_eq_true, decide_eq_true_eq, decide_eq_true_eq, not_or] at hexponent
        obtain ⟨hpositive, hnone, rfl⟩ := taken_of_natural h
        refine ⟨hpositive, rfl, htaken hnone, fun c hc => ?_⟩
        cases hc
        exact ⟨hnot, hpoint, hexponent⟩
  · obtain ⟨hpositive, hnone, rfl⟩ := taken_of_natural h
    exact ⟨hpositive, rfl, htaken hnone, nofun⟩

/-- **Only a row of digits** of a value below 2^64 is read as a whole number from zero on, and
    neither a fraction nor an exponent may follow it. -/
theorem row_of_natural {positive : Bool} (h : number positive bs = .ok (.natural n, rest)) :
    positive = true ∧ ∃ ds, bs = ds ++ rest ∧ (∀ b ∈ ds, isDigit b = true) ∧
      rowValue 0 ds ≤ maxSignificand ∧ Ends rest := by
  unfold number at h
  split at h
  · cases h
  · rename_i b r
    split at h
    · cases h
    · split at h
      · cases h
      · obtain ⟨hpositive, hdrop, hvalue, hends⟩ := row_of_digits h
        refine ⟨hpositive, (b :: r).takeWhile isDigit, ?_, ?_, hvalue, hends⟩
        · rw [← hdrop, List.takeWhile_append_dropWhile]
        · exact List.all_eq_true.1 List.all_takeWhile

/-- Digits that write 2^64 or more are no whole number. -/
theorem noNatural_of_large {more : Bytes} (hds : ∀ b ∈ ds, isDigit b = true)
    (hlarge : 0x10000000000000000 ≤ rowValue 0 ds) : NoNatural (number true (ds ++ more)) := by
  intro n rest h
  obtain ⟨-, ds', hsplit, hds', hvalue, hends⟩ := row_of_natural h
  have hwhole : ds' = ds ++ more.takeWhile isDigit := by
    rw [← List.takeWhile_append_of_pos hds, hsplit,
      (Text.row_append hds' fun b hb => (hends b hb).1).1]
  have hle := rowValue_le_append 0 ds (more.takeWhile isDigit)
  rw [← hwhole] at hle
  exact absurd (Nat.le_trans (Nat.le_trans hlarge hle) hvalue) (by decide)

/-- Digits behind which a fraction or an exponent comes are no whole number. -/
theorem noNatural_of_fraction {more : Bytes} {c : Char} (hds : ∀ b ∈ ds, isDigit b = true)
    (hc : c = '.' ∨ c = 'e' ∨ c = 'E') : NoNatural (number true (ds ++ octet c :: more)) := by
  intro n rest h
  obtain ⟨-, ds', hsplit, hds', -, hends⟩ := row_of_natural h
  have hdigit : isDigit (octet c) = false := by rcases hc with rfl | rfl | rfl <;> decide
  have hdrop : (ds ++ octet c :: more).dropWhile isDigit = octet c :: more :=
    (Text.row_append hds fun b hb => by cases hb; exact hdigit).2
  rw [hsplit, (Text.row_append hds' fun b hb => (hends b hb).1).2] at hdrop
  obtain ⟨-, hpoint, he, hE⟩ := hends (octet c) (by rw [hdrop]; rfl)
  rcases hc with rfl | rfl | rfl
  · exact hpoint rfl
  · exact he rfl
  · exact hE rfl

end ForwardProxy.Json
