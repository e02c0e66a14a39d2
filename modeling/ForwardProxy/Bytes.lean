namespace ForwardProxy

/-!
# Bytes and text

What travels on a connection is a list of octets; what a reader takes apart is a list of
characters.  Both are plain lists, so that every law about cutting, joining and prefixes is a
law about lists.

* `Text.ascii` — the octets of a text whose characters are all below 128 (protocol constants).
* `Bytes.bigEndian16` / `Bytes.ofBigEndian16` — sixteen-bit numbers in network order.
-/

/-- Octets, in the order they travel. -/
abbrev Bytes := List UInt8

/-- Characters, in reading order. -/
abbrev Text := List Char

/-- The text of a string literal. -/
abbrev text (s : String) : Text := s.toList

/-- The octets of a literal whose characters are all below 128. -/
def ascii (s : String) : Bytes := s.toList.map fun c => UInt8.ofNat c.toNat

/-- Carriage return. -/
abbrev cr : UInt8 := 13

/-- Line feed. -/
abbrev lf : UInt8 := 10

namespace Bytes

/-- A number below 65536 as two octets, the high one first. -/
def bigEndian16 (n : UInt16) : Bytes := [(n >>> 8).toUInt8, n.toUInt8]

/-- The number that two octets write in network order. -/
def ofBigEndian16 (hi lo : UInt8) : UInt16 := hi.toUInt16 <<< 8 ||| lo.toUInt16

/-- A number that was written in network order is read back. -/
theorem ofBigEndian16_bigEndian16 (n : UInt16) :
    ofBigEndian16 (n >>> 8).toUInt8 n.toUInt8 = n := by
  have hn : n.toNat < 65536 := n.toNat_lt
  have hhigh : n.toNat >>> 8 = n.toNat / 256 := Nat.shiftRight_eq_div_pow _ 8
  have hshift : (n.toNat / 256) <<< 8 = n.toNat / 256 * 256 := Nat.shiftLeft_eq _ 8
  have hor : n.toNat / 256 * 256 ||| n.toNat % 256 = n.toNat / 256 * 256 + n.toNat % 256 := by
    rw [← hshift, Nat.shiftLeft_add_eq_or_of_lt (Nat.mod_lt _ (by decide))]
  apply UInt16.toNat_inj.1
  simp only [ofBigEndian16, UInt16.toNat_or, UInt16.toNat_shiftLeft, UInt8.toNat_toUInt16,
    UInt16.toNat_toUInt8, UInt16.toNat_shiftRight]
  show (n.toNat >>> 8 % 256) <<< 8 % 65536 ||| n.toNat % 256 = n.toNat
  rw [hhigh, Nat.mod_eq_of_lt (by omega : n.toNat / 256 < 256), hshift,
    Nat.mod_eq_of_lt (by omega), hor]
  omega

end Bytes

end ForwardProxy
