import ForwardProxy.Bytes

namespace ForwardProxy.Text

/-!
# Blank characters

The characters with the property `White_Space` of Unicode, and trimming them off both ends of a
text.
-/

/-- The characters that Unicode calls white space. -/
def blanks : List Nat :=
  [0x09, 0x0A, 0x0B, 0x0C, 0x0D, 0x20, 0x85, 0xA0, 0x1680, 0x2000, 0x2001, 0x2002, 0x2003, 0x2004,
    0x2005, 0x2006, 0x2007, 0x2008, 0x2009, 0x200A, 0x2028, 0x2029, 0x202F, 0x205F, 0x3000]

/-- Whether a character is white space. -/
def isBlank (c : Char) : Bool := blanks.contains c.toNat

/-- A text without the blanks at its start. -/
def trimStart (s : Text) : Text := s.dropWhile isBlank

/-- A text without the blanks at its end. -/
def trimEnd (s : Text) : Text := (trimStart s.reverse).reverse

/-- A text without the blanks at both ends. -/
def trim (s : Text) : Text := trimEnd (trimStart s)

end ForwardProxy.Text
