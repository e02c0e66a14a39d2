import ForwardProxy.Bytes

namespace ForwardProxy.Utf8

/-!
# UTF-8

A character is written as one to four octets.  The reader takes the number of octets that the
first one announces, puts their payload bits together and accepts the result only if writing it
gives back the very octets it came from: overlong forms, surrogates and values past the last
character all fail that one test.

* `encode` — the octets of a text.
* `decode?` — the text of some octets, if they are well formed.
* `encode_eq_of_decode?` — what was read is written back as it was.
-/

/-- The octets of a text. -/
def encode (s : Text) : Bytes := s.flatMap String.utf8EncodeChar

/-- How many octets the first octet of a character announces, itself included; none for an
    octet that opens no character. -/
def announced (b : UInt8) : Option Nat :=
  if b < 0x80 then some 1
  else if b < 0xC0 then none
  else if b < 0xE0 then some 2
  else if b < 0xF0 then some 3
  else if b < 0xF8 then some 4
  else none

/-- The payload bits of the octets that follow the first one, six from each. -/
def tailBits (bs : Bytes) : Nat := bs.foldl (fun acc b => acc * 64 + b.toNat % 64) 0

/-- The character whose payload bits `bs` carries; meaningless unless `bs` is well formed. -/
def assemble : Bytes → Char
  | [] => Char.ofNat 0
  | [a] => Char.ofNat a.toNat
  | [a, b] => Char.ofNat (a.toNat % 32 * 64 + tailBits [b])
  | [a, b, c] => Char.ofNat (a.toNat % 16 * 4096 + tailBits [b, c])
  | a :: rest => Char.ofNat (a.toNat % 8 * 262144 + tailBits rest)

/-- The first character and the octets behind it. -/
def decodeChar? : Bytes → Option (Char × Bytes)
  | [] => none
  | a :: rest =>
    match announced a with
    | none => none
    | some n =>
      let written := a :: rest.take (n - 1)
      let c := assemble written
      if String.utf8EncodeChar c = written then some (c, rest.drop (n - 1)) else none

/-- Reading a character takes at least one octet, so that reading a text comes to an end. -/
theorem length_lt_of_decodeChar? {bs rest : Bytes} {c : Char}
    (h : decodeChar? bs = some (c, rest)) : rest.length < bs.length := by
  cases bs with
  | nil => simp [decodeChar?] at h
  | cons a tail =>
    simp only [decodeChar?] at h
    split at h
    · simp at h
    · split at h
      · simp only [Option.some.injEq, Prod.mk.injEq] at h
        rw [← h.2]
        simp only [List.length_drop, List.length_cons]
        omega
      · simp at h

/-- The text of some octets; none if they are not well formed. -/
def decode? (bs : Bytes) : Option Text :=
  if bs.isEmpty then some []
  else
    match _h : decodeChar? bs with
    | none => none
    | some (c, rest) => (decode? rest).map (c :: ·)
termination_by bs.length
decreasing_by exact length_lt_of_decodeChar? _h

/-- What `decodeChar?` read is written back as it was, in front of what it left. -/
theorem utf8EncodeChar_append_of_decodeChar? {bs rest : Bytes} {c : Char}
    (h : decodeChar? bs = some (c, rest)) : String.utf8EncodeChar c ++ rest = bs := by
  cases bs with
  | nil => simp [decodeChar?] at h
  | cons a tail =>
    simp only [decodeChar?] at h
    split at h
    · simp at h
    · split at h
      · rename_i hw
        simp only [Option.some.injEq, Prod.mk.injEq] at h
        rw [← h.2, ← h.1, hw]
        simp
      · simp at h

/-- Reading loses nothing: the octets read are the octets of the text. -/
theorem encode_eq_of_decode? {bs : Bytes} {s : Text} (h : decode? bs = some s) :
    encode s = bs := by
  fun_induction decode? bs generalizing s with
  | case1 bs he =>
    simp only [Option.some.injEq] at h
    subst h
    simpa [encode] using he.symm
  | case2 => simp at h
  | case3 bs _ c rest hc ih =>
    obtain ⟨u, hu, rfl⟩ := Option.map_eq_some_iff.1 h
    rw [← utf8EncodeChar_append_of_decodeChar? hc, ← ih hu]
    simp [encode]

end ForwardProxy.Utf8
