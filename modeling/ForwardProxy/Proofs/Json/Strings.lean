import ForwardProxy.Json.Reader
import ForwardProxy.Proofs.Text.Utf8

namespace ForwardProxy.Json

/-!
# Strings that are read back

A character of a string may be written as it is, as a letter behind a backslash, or as one or two
numbers of four hexadecimal digits; which of them is open to the writer.

* `WrittenChar` — a character and how it is written.
* `string_written` — a string that was written is read back, and what is behind it is left.
-/

/-! ### Characters of a string -/

/-- A hexadecimal digit, as a capital or a small letter from ten on. -/
def hexDigit (capital : Bool) (d : Nat) : UInt8 :=
  UInt8.ofNat (if d < 10 then 0x30 + d else (if capital then 0x41 else 0x61) + (d - 10))

/-- A number as an escape of four hexadecimal digits; `capitals` tells which are capitals. -/
def unitEscape (capitals : Nat → Bool) (n : Nat) : Bytes :=
  [octet '\\', octet 'u', hexDigit (capitals 0) (n / 4096 % 16),
    hexDigit (capitals 1) (n / 256 % 16), hexDigit (capitals 2) (n / 16 % 16),
    hexDigit (capitals 3) (n % 16)]

/-- The letters that stand for a character behind a backslash, and that character. -/
def shortEscapes : List (Char × Char) :=
  [('"', '"'), ('\\', '\\'), ('/', '/'), ('b', '\x08'), ('f', '\x0C'), ('n', '\n'), ('r', '\r'),
    ('t', '\t')]

/-- A character of a string, and how it is written. -/
inductive WrittenChar where
  /-- As it is: no quote, no backslash and no control character. -/
  | plain (c : Char) (quote : c ≠ '"') (backslash : c ≠ '\\') (control : 0x20 ≤ c.toNat)
  /-- A letter behind a backslash. -/
  | short (letter c : Char) (escape : (letter, c) ∈ shortEscapes)
  /-- By its number. -/
  | unit (capitals : Nat → Bool) (c : Char) (small : c.toNat < 0x10000)
  /-- By a pair of numbers that stand for the two halves of its own. -/
  | pair (capitals capitals' : Nat → Bool) (c : Char) (large : 0x10000 ≤ c.toNat)

namespace WrittenChar

/-- A character as it is, or by its number if it cannot stand so. -/
def ofChar (c : Char) : WrittenChar :=
  if h : c ≠ '"' ∧ c ≠ '\\' ∧ 0x20 ≤ c.toNat then plain c h.1 h.2.1 h.2.2
  else if h : c.toNat < 0x10000 then unit (fun _ => false) c h
  else pair (fun _ => false) (fun _ => false) c (Nat.le_of_not_lt h)

/-- The character itself. -/
def char : WrittenChar → Char
  | plain c .. | short _ c _ | unit _ c _ | pair _ _ c _ => c

/-- The octets that write it. -/
def octets : WrittenChar → Bytes
  | plain c .. => String.utf8EncodeChar c
  | short letter _ _ => [octet '\\', octet letter]
  | unit capitals c _ => unitEscape capitals c.toNat
  | pair capitals capitals' c _ =>
    unitEscape capitals (0xD800 + (c.toNat - 0x10000) / 1024) ++
      unitEscape capitals' (0xDC00 + (c.toNat - 0x10000) % 1024)

end WrittenChar

/-- The text of a string that was written. -/
def textOf (s : List WrittenChar) : Text := s.map WrittenChar.char

/-- The octets of a string that was written, without the quotes. -/
def octetsOf (s : List WrittenChar) : Bytes := s.flatMap WrittenChar.octets

/-- Every character may be written. -/
theorem char_ofChar (c : Char) : (WrittenChar.ofChar c).char = c := by
  unfold WrittenChar.ofChar
  split
  · rfl
  · split <;> rfl

/-- Every text may be written. -/
theorem textOf_map_ofChar (t : Text) : textOf (t.map WrittenChar.ofChar) = t := by
  rw [textOf, List.map_map]
  exact List.map_id'' char_ofChar t

/-! ### Reading them -/

variable {out r : Bytes}

/-- Octets that need no escape are taken as they are. -/
theorem stringBody_row {row : Bytes}
    (h : ∀ b ∈ row, b ≠ octet '"' ∧ b ≠ octet '\\' ∧ ¬ b < 0x20) :
    stringBody .plain out (row ++ r) = stringBody .plain (row.reverse ++ out) r := by
  induction row generalizing out with
  | nil => rfl
  | cons b row ih =>
    obtain ⟨hquote, hbackslash, hcontrol⟩ := h b List.mem_cons_self
    rw [List.cons_append, stringBody, if_neg hquote, if_neg hbackslash, if_neg hcontrol,
      ih fun b hb => h b (List.mem_cons_of_mem _ hb), List.reverse_cons, List.append_assoc]
    rfl

/-- A character that needs no escape is taken as its octets. -/
theorem stringBody_plain {c : Char} (hquote : c ≠ '"') (hbackslash : c ≠ '\\')
    (hcontrol : 0x20 ≤ c.toNat) :
    stringBody .plain out (String.utf8EncodeChar c ++ r) =
      stringBody .plain ((String.utf8EncodeChar c).reverse ++ out) r := by
  refine stringBody_row fun b hb => ?_
  -- A character of ASCII is its own octet, and the octets of any other one are above them all.
  by_cases hsmall : c.toNat < 128
  · rw [Utf8.utf8EncodeChar_of_lt hsmall, List.mem_singleton] at hb
    have hoctet : c.toNat < 256 := by omega
    have htoNat : b.toNat = c.toNat := hb ▸ UInt8.toNat_ofNat_of_lt' hoctet
    refine ⟨fun h => hquote ?_, fun h => hbackslash ?_, fun h => ?_⟩
    · exact Char.ext (UInt32.toNat_inj.1 (htoNat.symm.trans (congrArg UInt8.toNat h)))
    · exact Char.ext (UInt32.toNat_inj.1 (htoNat.symm.trans (congrArg UInt8.toNat h)))
    · have := UInt8.lt_iff_toNat_lt.1 h
      exact absurd this (by rw [htoNat]; exact Nat.not_lt_of_le hcontrol)
  · have hlarge := Utf8.le_of_mem_octets (Nat.le_of_not_lt hsmall) b hb
    refine ⟨fun h => ?_, fun h => ?_, fun h => ?_⟩
    · exact absurd hlarge (by rw [h]; decide)
    · exact absurd hlarge (by rw [h]; decide)
    · have := UInt8.lt_iff_toNat_lt.1 h
      exact absurd this (Nat.not_lt_of_le (Nat.le_trans (by decide) hlarge))

/-- A backslash and a letter stand for the character of that escape. -/
theorem stringBody_short {letter c : Char} (h : (letter, c) ∈ shortEscapes) :
    stringBody .plain out (octet '\\' :: octet letter :: r) =
      stringBody .plain ((String.utf8EncodeChar c).reverse ++ out) r := by
  have hall : ∀ p ∈ shortEscapes, octet p.1 ≠ octet 'u' ∧
      ∃ x, shortEscape? (octet p.1) = some x ∧ String.utf8EncodeChar p.2 = [x] := by decide
  obtain ⟨hu, x, hx, hoctets⟩ := hall _ h
  rw [stringBody, if_neg (by decide), if_pos rfl, stringBody, if_neg hu, hx, hoctets]
  rfl

/-- A hexadecimal digit is read in either case. -/
theorem hexValue?_hexDigit {d : Nat} (capital : Bool) (hd : d < 16) :
    hexValue? (hexDigit capital d) = some d := by
  have hall : ∀ capital, ∀ d : Fin 16, hexValue? (hexDigit capital d) = some d.val := by decide
  exact hall capital ⟨d, hd⟩

/-- Four hexadecimal digits write the number that they were taken from. -/
theorem hexNumber?_digits (capitals : Nat → Bool) {n : Nat} (hn : n < 0x10000) :
    hexNumber? [hexDigit (capitals 0) (n / 4096 % 16), hexDigit (capitals 1) (n / 256 % 16),
      hexDigit (capitals 2) (n / 16 % 16), hexDigit (capitals 3) (n % 16)] = some n := by
  simp only [hexNumber?, List.foldlM_cons, List.foldlM_nil, hexValue?_hexDigit _ (Nat.mod_lt _ _),
    Nat.zero_lt_succ, Option.map_some, Option.bind_eq_bind, Option.bind_some,
    Option.pure_def, Option.some.injEq]
  omega

/-- Four hexadecimal digits are one unit: a character of its own, or a half of one, which has to
    come in its place. -/
theorem stringBody_unitEscape (first : Option Nat) (capitals : Nat → Bool) {n : Nat}
    (hn : n < 0x10000) :
    stringBody (.hex first []) out
        (hexDigit (capitals 0) (n / 4096 % 16) :: hexDigit (capitals 1) (n / 256 % 16) ::
          hexDigit (capitals 2) (n / 16 % 16) :: hexDigit (capitals 3) (n % 16) :: r) =
      match first with
      | none =>
        if 0xDC00 ≤ n && n ≤ 0xDFFF then .error (slipAt .loneSurrogate r)
        else if 0xD800 ≤ n && n ≤ 0xDBFF then stringBody (.high n) out r
        else stringBody .plain ((String.utf8EncodeChar (Char.ofNat n)).reverse ++ out) r
      | some m =>
        if n < 0xDC00 || 0xDFFF < n then .error (slipAt .loneSurrogate r)
        else
          stringBody .plain ((String.utf8EncodeChar
            (Char.ofNat ((m - 0xD800) * 1024 + (n - 0xDC00) + 0x10000))).reverse ++ out) r := by
  have hvalue := hexNumber?_digits capitals hn
  simp only [stringBody, List.nil_append, List.cons_append, List.length_cons, List.length_nil,
    Nat.reduceAdd, Nat.reduceLT, if_true, if_false, hvalue]
  cases first <;> rfl

/-- A character of the first plane is read back from one escaped unit. -/
theorem stringBody_unit (capitals : Nat → Bool) {c : Char} (hsmall : c.toNat < 0x10000) :
    stringBody .plain out (unitEscape capitals c.toNat ++ r) =
      stringBody .plain ((String.utf8EncodeChar c).reverse ++ out) r := by
  have hchar : Char.ofNat c.toNat = c := c.ofNat_toNat
  have hvalid : c.toNat < 0xD800 ∨ 0xDFFF < c.toNat ∧ c.toNat < 0x110000 := c.valid
  rw [unitEscape, List.cons_append, stringBody, if_neg (by decide), if_pos rfl, List.cons_append,
    stringBody, if_pos rfl]
  simp only [List.cons_append, List.nil_append]
  rw [stringBody_unitEscape none capitals hsmall, hchar]
  simp only [Bool.and_eq_true, decide_eq_true_eq]
  rw [if_neg (by omega), if_neg (by omega)]

/-- A character past the first plane is read back from two escaped units. -/
theorem stringBody_pair (capitals capitals' : Nat → Bool) {c : Char} (hlarge : 0x10000 ≤ c.toNat) :
    stringBody .plain out (unitEscape capitals (0xD800 + (c.toNat - 0x10000) / 1024) ++
        unitEscape capitals' (0xDC00 + (c.toNat - 0x10000) % 1024) ++ r) =
      stringBody .plain ((String.utf8EncodeChar c).reverse ++ out) r := by
  have hchar : Char.ofNat c.toNat = c := c.ofNat_toNat
  have hvalid : c.toNat < 0xD800 ∨ 0xDFFF < c.toNat ∧ c.toNat < 0x110000 := c.valid
  have hhigh : 0xD800 + (c.toNat - 0x10000) / 1024 < 0x10000 := by omega
  have hlow : 0xDC00 + (c.toNat - 0x10000) % 1024 < 0x10000 := by omega
  -- The two units carry ten bits each, and the rule that joins them undoes the one that parts them.
  have hjoined : (0xD800 + (c.toNat - 0x10000) / 1024 - 0xD800) * 1024 +
      (0xDC00 + (c.toNat - 0x10000) % 1024 - 0xDC00) + 0x10000 = c.toNat := by omega
  rw [List.append_assoc, unitEscape, List.cons_append, stringBody, if_neg (by decide), if_pos rfl,
    List.cons_append, stringBody, if_pos rfl]
  simp only [List.cons_append, List.nil_append]
  rw [stringBody_unitEscape none capitals hhigh]
  simp only [Bool.and_eq_true, decide_eq_true_eq]
  rw [if_neg (by omega), if_pos (by omega), unitEscape, List.cons_append, stringBody, if_pos rfl,
    List.cons_append, stringBody, if_pos rfl]
  simp only [List.cons_append, List.nil_append]
  rw [stringBody_unitEscape (some _) capitals' hlow]
  dsimp only
  rw [hjoined, hchar]
  simp only [Bool.or_eq_true, decide_eq_true_eq]
  rw [if_neg (by omega)]

/-- **A character** of a string is read back, however it is written. -/
theorem stringBody_written (w : WrittenChar) :
    stringBody .plain out (w.octets ++ r) =
      stringBody .plain ((String.utf8EncodeChar w.char).reverse ++ out) r := by
  cases w with
  | plain c hquote hbackslash hcontrol => exact stringBody_plain hquote hbackslash hcontrol
  | short letter c h => exact stringBody_short h
  | unit capitals c hsmall => exact stringBody_unit capitals hsmall
  | pair capitals capitals' c hlarge => exact stringBody_pair capitals capitals' hlarge

/-- **A string** is read to its closing quote, however its characters are written. -/
theorem stringBody_octetsOf (s : List WrittenChar) :
    stringBody .plain out (octetsOf s ++ octet '"' :: r) =
      .ok (out.reverse ++ Utf8.encode (textOf s), r) := by
  induction s generalizing out with
  | nil =>
    show stringBody .plain out (octet '"' :: r) = _
    rw [stringBody, if_pos rfl]
    exact congrArg (fun bs => Except.ok (bs, r)) (List.append_nil _).symm
  | cons w s ih =>
    have hsplit : octetsOf (w :: s) ++ octet '"' :: r =
        w.octets ++ (octetsOf s ++ octet '"' :: r) := by simp [octetsOf]
    rw [hsplit, stringBody_written, ih, List.reverse_append, List.reverse_reverse,
      List.append_assoc]
    rfl

/-- **A string** that was written is read back, however its characters are written. -/
theorem string_written (s : List WrittenChar) (r : Bytes) :
    string (octetsOf s ++ octet '"' :: r) = .ok (textOf s, r) := by
  rw [string, stringBody_octetsOf]
  show Except.ok ((Utf8.decode? (Utf8.encode (textOf s))).getD [], r) = _
  rw [Utf8.decode?_encode]
  rfl

/-! ### They are text -/

/-- Hexadecimal digits are written in ASCII. -/
theorem toNat_hexDigit_lt {d : Nat} (capital : Bool) (hd : d < 16) :
    (hexDigit capital d).toNat < 128 := by
  have hall : ∀ capital, ∀ d : Fin 16, (hexDigit capital d).toNat < 128 := by decide
  exact hall capital ⟨d, hd⟩

/-- An escaped unit is well-formed text. -/
theorem valid_unitEscape (capitals : Nat → Bool) (n : Nat) :
    Utf8.Valid (unitEscape capitals n) := by
  refine Utf8.valid_of_lt ?_
  simp only [unitEscape, List.forall_mem_cons]
  have hdigit : ∀ k, (hexDigit (capitals k) (n / 16 ^ (3 - k) % 16)).toNat < 128 := fun k =>
    toNat_hexDigit_lt _ (Nat.mod_lt _ (by decide))
  exact ⟨by decide, by decide, hdigit 0, hdigit 1, hdigit 2, by simpa using hdigit 3, nofun⟩

/-- The octets of a string that was written are text. -/
theorem valid_octetsOf (s : List WrittenChar) : Utf8.Valid (octetsOf s) := by
  induction s with
  | nil => exact ⟨[], rfl⟩
  | cons w s ih =>
    refine Utf8.Valid.append ?_ ih
    cases w with
    | plain c _ _ _ => exact ⟨[c], List.append_nil _⟩
    | short letter c h =>
      have hall : ∀ p ∈ shortEscapes, (octet p.1).toNat < 128 := by decide
      exact Utf8.valid_cons (by decide) (Utf8.valid_cons (hall _ h) ⟨[], rfl⟩)
    | unit capitals c _ => exact valid_unitEscape capitals c.toNat
    | pair capitals capitals' c _ =>
      exact (valid_unitEscape capitals _).append (valid_unitEscape capitals' _)

end ForwardProxy.Json
