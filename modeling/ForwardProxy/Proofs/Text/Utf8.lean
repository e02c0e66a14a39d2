import ForwardProxy.Text.Utf8

namespace ForwardProxy.Utf8

/-!
# Writing UTF-8 and reading it back

* `decodeChar?_append` — a character that was written is read back, and what is behind it is left.
* `decode?_encode` — a text that was written is read back: every text has its octets, and they are
  well formed.
* `Valid` — the octets of a text, made up of such.
* `encode_of_ascii`, `ascii_of_encode` — a text of ASCII characters is written with one octet each,
  and no other text is written with octets below 128 alone.
-/

/-- What the first octet announces, by its number. -/
theorem announced_eq (b : UInt8) :
    announced b =
      if b.toNat < 128 then some 1
      else if b.toNat < 192 then none
      else if b.toNat < 224 then some 2
      else if b.toNat < 240 then some 3
      else if b.toNat < 248 then some 4
      else none := by
  simp only [announced, UInt8.lt_iff_toNat_lt]
  rfl

/-- Four octets make the character of the bits that they carry. -/
theorem assemble_four (a b c d : UInt8) :
    assemble [a, b, c, d] = Char.ofNat (a.toNat % 8 * 262144 + tailBits [b, c, d]) := rfl

/-- Octets that are those of a character, and announce themselves. -/
theorem decodeChar?_of_announced {c : Char} {b : UInt8} {tail : Bytes} (rest : Bytes)
    (hoctets : String.utf8EncodeChar c = b :: tail)
    (hannounced : announced b = some (tail.length + 1)) (hassemble : assemble (b :: tail) = c) :
    decodeChar? (b :: tail ++ rest) = some (c, rest) := by
  have htake : (tail ++ rest).take (tail.length + 1 - 1) = tail := List.take_left
  have hdrop : (tail ++ rest).drop (tail.length + 1 - 1) = rest := List.drop_left
  rw [List.cons_append, decodeChar?, hannounced]
  simp only
  rw [htake, hdrop, hassemble, if_pos hoctets]

/-- **A character** that was written is read back. -/
theorem decodeChar?_append (c : Char) (rest : Bytes) :
    decodeChar? (String.utf8EncodeChar c ++ rest) = some (c, rest) := by
  have hchar : Char.ofNat c.val.toNat = c := c.ofNat_toNat
  have hoctet : ∀ n, n < 256 → (UInt8.ofNat n).toNat = n := fun n hn => UInt8.toNat_ofNat_of_lt' hn
  have hbound : c.val.toNat < 1114112 := by
    rcases c.valid with h | h <;> omega
  have hoctets := String.utf8EncodeChar.eq_1 c
  generalize c.val.toNat = v at hchar hbound hoctets
  -- One to four octets, by the size of the character's number.
  split at hoctets
  · rw [hoctets]
    refine decodeChar?_of_announced rest hoctets ?_ ?_
    · rw [announced_eq, hoctet v (by omega), if_pos (by omega)]
      rfl
    · rw [assemble, hoctet v (by omega), hchar]
  · split at hoctets
    · rw [hoctets]
      have hhigh := hoctet (v / 64 % 32 + 192) (by omega)
      have hlow := hoctet (v % 64 + 128) (by omega)
      refine decodeChar?_of_announced rest hoctets ?_ ?_
      · rw [announced_eq, hhigh, if_neg (by omega), if_neg (by omega), if_pos (by omega)]
        rfl
      · rw [assemble, tailBits, List.foldl, List.foldl, hhigh, hlow, ← hchar]
        congr 1
        omega
    · split at hoctets
      · rw [hoctets]
        have hhigh := hoctet (v / 4096 % 16 + 224) (by omega)
        have hmid := hoctet (v / 64 % 64 + 128) (by omega)
        have hlow := hoctet (v % 64 + 128) (by omega)
        refine decodeChar?_of_announced rest hoctets ?_ ?_
        · rw [announced_eq, hhigh, if_neg (by omega), if_neg (by omega), if_neg (by omega),
            if_pos (by omega)]
          rfl
        · rw [assemble, tailBits, List.foldl, List.foldl, List.foldl, hhigh, hmid, hlow, ← hchar]
          congr 1
          omega
      · rw [hoctets]
        have hhigh := hoctet (v / 262144 % 8 + 240) (by omega)
        have hupper := hoctet (v / 4096 % 64 + 128) (by omega)
        have hmid := hoctet (v / 64 % 64 + 128) (by omega)
        have hlow := hoctet (v % 64 + 128) (by omega)
        refine decodeChar?_of_announced rest hoctets ?_ ?_
        · rw [announced_eq, hhigh, if_neg (by omega), if_neg (by omega), if_neg (by omega),
            if_neg (by omega), if_pos (by omega)]
          rfl
        · rw [assemble_four, tailBits, List.foldl, List.foldl, List.foldl, List.foldl, hhigh,
            hupper, hmid, hlow, ← hchar]
          congr 1
          omega

/-- **Every text** that was written is read back. -/
theorem decode?_encode (s : Text) : decode? (encode s) = some s := by
  induction s with
  | nil =>
    rw [decode?]
    rfl
  | cons c s ih =>
    have hsplit : encode (c :: s) = String.utf8EncodeChar c ++ encode s := rfl
    have hchar := decodeChar?_append c (encode s)
    rw [← hsplit] at hchar
    have hne : (encode (c :: s)).isEmpty = false := by
      rw [hsplit]
      simp [String.utf8EncodeChar_ne_nil]
    -- The octets of the first character are taken off, and the rest is decoded.
    rw [decode?, hne, if_neg Bool.false_ne_true]
    split
    · rename_i hnone
      rw [hchar] at hnone
      cases hnone
    · rename_i c' rest hsome
      rw [hchar] at hsome
      cases hsome
      rw [ih]
      rfl

/-- The octets of two texts are those of the first and then those of the second. -/
theorem encode_append (s t : Text) : encode (s ++ t) = encode s ++ encode t :=
  List.flatMap_append

/-! ### ASCII -/

/-- An ASCII character is one octet, its number. -/
theorem utf8EncodeChar_of_lt {c : Char} (h : c.toNat < 128) :
    String.utf8EncodeChar c = [UInt8.ofNat c.toNat] := by
  rw [String.utf8EncodeChar.eq_1, if_pos (show c.val.toNat ≤ 0x7f from Nat.le_of_lt_succ h)]
  rfl

/-- The octets of any other character are 128 or more. -/
theorem le_of_mem_octets {c : Char} (h : 128 ≤ c.toNat) :
    ∀ b ∈ String.utf8EncodeChar c, 128 ≤ b.toNat := by
  have hlong : ¬ c.val.toNat ≤ 0x7f := Nat.not_le_of_lt h
  have hoctet : ∀ n, 128 ≤ n → n < 256 → 128 ≤ (UInt8.ofNat n).toNat := fun n hle hlt => by
    rwa [UInt8.toNat_ofNat_of_lt' hlt]
  rw [String.utf8EncodeChar.eq_1, if_neg hlong]
  simp only [apply_ite (fun bs : Bytes => ∀ b ∈ bs, 128 ≤ b.toNat), List.forall_mem_cons]
  split
  · exact ⟨hoctet _ (by omega) (by omega), hoctet _ (by omega) (by omega), nofun⟩
  · split
    · exact ⟨hoctet _ (by omega) (by omega), hoctet _ (by omega) (by omega),
        hoctet _ (by omega) (by omega), nofun⟩
    · exact ⟨hoctet _ (by omega) (by omega), hoctet _ (by omega) (by omega),
        hoctet _ (by omega) (by omega), hoctet _ (by omega) (by omega), nofun⟩

/-- A character whose octets are all ASCII is ASCII. -/
theorem toNat_lt_of_octets {c : Char} (h : ∀ b ∈ String.utf8EncodeChar c, b.toNat < 128) :
    c.toNat < 128 := by
  refine Nat.lt_of_not_le fun hle => ?_
  obtain ⟨b, hb⟩ := List.exists_mem_of_ne_nil _ (String.utf8EncodeChar_ne_nil (c := c))
  exact Nat.not_lt_of_le (le_of_mem_octets hle b hb) (h b hb)

/-- An ASCII text has one octet for each character. -/
theorem encode_of_ascii {s : Text} (h : ∀ c ∈ s, c.toNat < 128) :
    encode s = s.map fun c => UInt8.ofNat c.toNat := by
  induction s with
  | nil => rfl
  | cons c s ih =>
    show String.utf8EncodeChar c ++ encode s = _
    rw [utf8EncodeChar_of_lt (h c List.mem_cons_self),
      ih fun d hd => h d (List.mem_cons_of_mem _ hd)]
    rfl

/-- A text whose octets are all ASCII is ASCII. -/
theorem ascii_of_encode {s : Text} (h : ∀ b ∈ encode s, b.toNat < 128) :
    ∀ c ∈ s, c.toNat < 128 := fun c hc =>
  toNat_lt_of_octets fun b hb => h b (List.mem_flatMap.2 ⟨c, hc, hb⟩)

/-- An ASCII character stands in the octets of a text if it stands in the text. -/
theorem mem_encode_iff {c : Char} (hc : c.toNat < 128) {s : Text} :
    UInt8.ofNat c.toNat ∈ encode s ↔ c ∈ s := by
  have hsmall : ∀ {d : Char}, d.toNat < 128 → (UInt8.ofNat d.toNat).toNat = d.toNat := fun hd =>
    UInt8.toNat_ofNat_of_lt' (Nat.lt_trans hd (by decide))
  refine List.mem_flatMap.trans ⟨fun ⟨d, hd, hmem⟩ => ?_, fun h => ⟨c, h, ?_⟩⟩
  · by_cases hlt : d.toNat < 128
    · rw [utf8EncodeChar_of_lt hlt, List.mem_singleton] at hmem
      have hsame := congrArg UInt8.toNat hmem
      rw [hsmall hc, hsmall hlt] at hsame
      exact Char.toNat_inj.1 hsame ▸ hd
    · have hle := le_of_mem_octets (Nat.le_of_not_lt hlt) _ hmem
      rw [hsmall hc] at hle
      exact absurd hc (Nat.not_lt_of_le hle)
  · rw [utf8EncodeChar_of_lt hc]
    exact List.mem_singleton_self _

/-! ### Well-formed octets -/

/-- Octets that are those of a text. -/
def Valid (bs : Bytes) : Prop := ∃ s, encode s = bs

/-- Octets that are a text can be decoded. -/
theorem Valid.isSome_decode? {bs : Bytes} (h : Valid bs) : (decode? bs).isSome = true := by
  obtain ⟨s, rfl⟩ := h
  rw [decode?_encode]
  rfl

/-- The octets of two texts are those of one. -/
theorem Valid.append {bs cs : Bytes} (hbs : Valid bs) (hcs : Valid cs) : Valid (bs ++ cs) := by
  obtain ⟨s, rfl⟩ := hbs
  obtain ⟨t, rfl⟩ := hcs
  exact ⟨s ++ t, encode_append s t⟩

/-- ASCII octets are a text. -/
theorem valid_of_lt {bs : Bytes} (h : ∀ b ∈ bs, b.toNat < 128) : Valid bs := by
  induction bs with
  | nil => exact ⟨[], rfl⟩
  | cons b bs ih =>
    have hall : ∀ n : Fin 128, String.utf8EncodeChar (Char.ofNat n) = [UInt8.ofNat n] := by decide
    have hone : encode [Char.ofNat b.toNat] = [b] := by
      show String.utf8EncodeChar (Char.ofNat b.toNat) ++ [] = [b]
      rw [List.append_nil, hall ⟨b.toNat, h b List.mem_cons_self⟩, UInt8.ofNat_toNat]
    exact Valid.append ⟨_, hone⟩ (ih fun c hc => h c (List.mem_cons_of_mem _ hc))

/-- Octets that are all seen to be below 128 are those of a text. -/
theorem valid_of_all {bs : Bytes} (h : (bs.all fun b => b < 0x80) = true) : Valid bs :=
  valid_of_lt fun b hb => UInt8.lt_iff_toNat_lt.1 (of_decide_eq_true (List.all_eq_true.1 h b hb))

/-- An ASCII octet in front of a text makes a text. -/
theorem valid_cons {b : UInt8} {bs : Bytes} (hb : b.toNat < 128) (h : Valid bs) : Valid (b :: bs) :=
  Valid.append (valid_of_lt (List.forall_mem_singleton.2 hb)) h

end ForwardProxy.Utf8
