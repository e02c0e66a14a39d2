import ForwardProxy.Proofs.Text.Cutting
import ForwardProxy.Proofs.Text.Utf8

namespace ForwardProxy.Text

/-!
# Offsets in a text

A place in a text may be told by the number of octets in front of it.  Not every number tells a
place: it may lie past the end or inside a character.

* `size`, `firstOffset?`, `lastOffset?` — the octets of a text, and those in front of a character.
* `cut?`, `slice?`, `octetAt?` — what stands at an offset, if there is such a place.
* `cut?_eq_some_iff` — a text is cut just where a part of it ends.
* `octetAt?_size` — an octet below 128 stands there just if the character does.
-/

variable {c d : Char} {a b s : Text} {n : Nat}

/-! ### Sizes -/

/-- The number of octets of a text. -/
def size (s : Text) : Nat := (Utf8.encode s).length

/-- The empty text has no octets. -/
@[simp] theorem size_nil : size [] = 0 := rfl

/-- A text has the octets of its first character and of the rest. -/
@[simp] theorem size_cons (c : Char) (s : Text) : size (c :: s) = c.utf8Size + size s := by
  simp [size, Utf8.encode]

/-- The octets of two texts add up. -/
@[simp] theorem size_append (a b : Text) : size (a ++ b) = size a + size b := by
  simp [size, Utf8.encode]

/-! ### Cuts -/

/-- The parts of a text before and behind an offset; none past the end or inside a character. -/
def cut? : Nat → Text → Option (Text × Text)
  | 0, s => some ([], s)
  | _ + 1, [] => none
  | n + 1, c :: s =>
    if c.utf8Size ≤ n + 1 then
      match cut? (n + 1 - c.utf8Size) s with
      | some (before, behind) => some (c :: before, behind)
      | none => none
    else none

/-- The part of a text between two offsets. -/
def slice? (first last : Nat) (s : Text) : Option Text :=
  match cut? last s with
  | none => none
  | some (before, _) => (cut? first before).map Prod.snd

/-- The octet at an offset. -/
def octetAt? (n : Nat) (s : Text) : Option UInt8 := (Utf8.encode s)[n]?

/-- A text is cut where its first part ends. -/
theorem cut?_size (a b : Text) : cut? (size a) (a ++ b) = some (a, b) := by
  induction a with
  | nil => rw [size_nil, List.nil_append, cut?]
  | cons c a ih =>
    have hpos := c.utf8Size_pos
    obtain ⟨n, hn⟩ : ∃ n, size (c :: a) = n + 1 :=
      ⟨c.utf8Size + size a - 1, by rw [size_cons]; omega⟩
    have hle : c.utf8Size ≤ n + 1 := by rw [← hn, size_cons]; omega
    have hrest : n + 1 - c.utf8Size = size a := by rw [← hn, size_cons]; omega
    rw [hn, List.cons_append, cut?, if_pos hle, hrest, ih]

/-- **A text is cut just where a part of it ends.** -/
theorem cut?_eq_some_iff : cut? n s = some (a, b) ↔ s = a ++ b ∧ n = size a := by
  constructor
  · intro h
    induction s generalizing n a with
    | nil =>
      cases n with
      | zero => cases h; exact ⟨rfl, rfl⟩
      | succ n => cases h
    | cons c s ih =>
      cases n with
      | zero => cases h; exact ⟨rfl, rfl⟩
      | succ n =>
        rw [cut?] at h
        split at h
        · rename_i hle
          cases hrest : cut? (n + 1 - c.utf8Size) s with
          | none => rw [hrest] at h; cases h
          | some p =>
            rw [hrest] at h
            cases h
            obtain ⟨hs, hn⟩ := ih hrest
            exact ⟨by rw [hs, List.cons_append], by rw [size_cons]; omega⟩
        · cases h
  · rintro ⟨rfl, rfl⟩
    exact cut?_size a b

/-- A slice between the ends of two parts is the second of them. -/
theorem slice?_size (a b s : Text) :
    slice? (size a) (size (a ++ b)) (a ++ b ++ s) = some b := by
  rw [slice?, cut?_size]
  dsimp only
  rw [cut?_size]
  rfl

/-! ### Places of a character -/

/-- The offset of the first occurrence of a character. -/
def firstOffset? (c : Char) : Text → Option Nat
  | [] => none
  | x :: s => if x = c then some 0 else (firstOffset? c s).map (x.utf8Size + ·)

/-- The offset of the last occurrence of a character. -/
def lastOffset? (c : Char) : Text → Option Nat
  | [] => none
  | x :: s =>
    match lastOffset? c s with
    | some n => some (x.utf8Size + n)
    | none => if x = c then some 0 else none

/-- The first place of a character is behind the part that does not have it. -/
theorem firstOffset?_append_cons (ha : c ∉ a) (b : Text) :
    firstOffset? c (a ++ c :: b) = some (size a) := by
  induction a with
  | nil => rw [List.nil_append, firstOffset?, if_pos rfl, size_nil]
  | cons x a ih =>
    rw [List.mem_cons, not_or] at ha
    rw [List.cons_append, firstOffset?, if_neg (Ne.symm ha.1), ih ha.2, size_cons]
    rfl

/-- A character that is not in a text has no first place. -/
theorem firstOffset?_of_not_mem (hs : c ∉ s) : firstOffset? c s = none := by
  induction s with
  | nil => rfl
  | cons x s ih =>
    rw [List.mem_cons, not_or] at hs
    rw [firstOffset?, if_neg (Ne.symm hs.1), ih hs.2]
    rfl

/-- The last occurrence of a character is where the text is split at it. -/
theorem lastOffset?_eq (c : Char) (s : Text) :
    lastOffset? c s = (splitLast? c s).map fun p => size p.1 := by
  induction s with
  | nil => rfl
  | cons x s ih =>
    rw [lastOffset?, splitLast?, ih]
    cases splitLast? c s with
    | some p => simp
    | none =>
      by_cases hx : x = c
      · simp [hx]
      · simp [hx]

/-- A character that is in a text has a last place, behind which it does not come again. -/
theorem exists_lastOffset? (hs : c ∈ s) :
    ∃ a b, s = a ++ c :: b ∧ c ∉ b ∧ lastOffset? c s = some (size a) := by
  obtain ⟨⟨a, b⟩, hsplit⟩ := Option.ne_none_iff_exists'.1 fun h => splitLast?_eq_none_iff.1 h hs
  obtain ⟨hcut, hb⟩ := splitLast?_eq_some_iff.1 hsplit
  exact ⟨a, b, hcut, hb, by rw [lastOffset?_eq, hsplit]; rfl⟩

/-! ### Octets of a character -/

/-- A character past 127 opens with an octet past 127. -/
theorem head?_utf8EncodeChar_of_lt (hc : 127 < c.val.toNat) (hd : d.val.toNat ≤ 127) :
    (String.utf8EncodeChar c).head? ≠ some (UInt8.ofNat d.val.toNat) := by
  intro hhead
  have hle := Utf8.le_of_mem_octets hc _ (List.mem_of_mem_head? hhead)
  rw [UInt8.toNat_ofNat_of_lt' (Nat.lt_of_le_of_lt hd (by decide))] at hle
  omega

/-- An ASCII octet is the first of a character exactly if that is the ASCII character. -/
theorem head?_utf8EncodeChar_iff (hd : d.val.toNat ≤ 127) :
    (String.utf8EncodeChar c).head? = some (UInt8.ofNat d.val.toNat) ↔ c = d := by
  constructor
  · intro h
    by_cases hc : c.val.toNat ≤ 127
    · rw [String.utf8EncodeChar.eq_1, if_pos hc] at h
      have h' := congrArg UInt8.toNat (Option.some.inj h)
      rw [UInt8.toNat_ofNat', UInt8.toNat_ofNat'] at h'
      exact Char.ext (UInt32.toNat_inj.1 (by omega))
    · exact absurd h (head?_utf8EncodeChar_of_lt (by omega) hd)
  · rintro rfl
    rw [String.utf8EncodeChar.eq_1, if_pos hd]
    rfl

/-- **The octet of a character below 128 stands at a place just if the character does.** -/
theorem octetAt?_size (hd : d.val.toNat ≤ 127) (a : Text) (c : Char) (b : Text) :
    ∃ octet, octetAt? (size a) (a ++ c :: b) = some octet ∧
      (octet = UInt8.ofNat d.val.toNat ↔ c = d) := by
  have hat : octetAt? (size a) (a ++ c :: b) = (String.utf8EncodeChar c).head? := by
    rw [octetAt?, Utf8.encode_append, size, List.getElem?_append_right (Nat.le_refl _),
      Nat.sub_self, ← List.head?_eq_getElem?]
    show (String.utf8EncodeChar c ++ Utf8.encode b).head? = _
    rw [List.head?_append, Option.or_of_isSome (List.isSome_head?.2 String.utf8EncodeChar_ne_nil)]
  cases hhead : (String.utf8EncodeChar c).head? with
  | none => exact absurd (List.head?_eq_none_iff.1 hhead) String.utf8EncodeChar_ne_nil
  | some octet =>
    refine ⟨octet, hat.trans hhead, ?_⟩
    rw [← head?_utf8EncodeChar_iff hd, hhead, Option.some.injEq]

end ForwardProxy.Text
