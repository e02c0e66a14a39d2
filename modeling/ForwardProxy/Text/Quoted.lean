import ForwardProxy.Text.Printable

namespace ForwardProxy.Text

/-!
# Quoted text

A text in double quotes, fit for one line of a message.  A quote or a backslash gets a backslash
in front; tab, carriage return, line feed and NUL have their two-letter forms; every other
character that is not shown as itself is written by its code point in braces.

* `quote` — the quoted text.
-/

/-- The lower-case hexadecimal digits of a number. -/
def hexDigits (n : Nat) : Text := Nat.toDigits 16 n

/-- How one character stands inside quotes. -/
def quoteChar (c : Char) : Text :=
  match c with
  | '"' => ['\\', '"']
  | '\\' => ['\\', '\\']
  | '\t' => ['\\', 't']
  | '\r' => ['\\', 'r']
  | '\n' => ['\\', 'n']
  | '\x00' => ['\\', '0']
  | c => if isShown c then [c] else ['\\', 'u', '\x7b'] ++ hexDigits c.toNat ++ ['\x7d']

/-- A text in quotes. -/
def quote (s : Text) : Text := ['"'] ++ s.flatMap quoteChar ++ ['"']

end ForwardProxy.Text
