import ForwardProxy.Text.Quoted

namespace ForwardProxy.Json

/-!
# Flaws of a JSON text

What can be wrong with a text that should be an object of optional numbers, and the message of
each.

* `Flaw.message` — the wording of a flaw.
* `Misread.message` — the wording with the place: line and column, both counted in octets.
-/

/-- A value that stands where another one was expected. -/
inductive Found where
  | null
  | boolean (b : Bool)
  | integer (n : Int)
  | real (written : String)
  | string (content : Text)
  | sequence
  | map
  deriving DecidableEq, Repr

/-- The wording of a value found. -/
def Found.message : Found → String
  | null => "null"
  | boolean b => s!"boolean `{b}`"
  | integer n => s!"integer `{n}`"
  | real w => s!"floating point `{w}`"
  | string c => "string " ++ String.ofList (Text.quote c)
  | sequence => "sequence"
  | map => "map"

/-- A flaw of a JSON text. -/
inductive Flaw where
  | endInList
  | endInObject
  | endInString
  | endInValue
  | noColon
  | noListSeparator
  | noObjectSeparator
  | noWord
  | noValue
  | escape
  | number
  | outOfRange
  | controlCharacter
  | keyNotString
  | loneSurrogate
  | unpairedSurrogate
  | trailingComma
  | trailingCharacters
  /-- A value of the wrong type. -/
  | wrongType (found : Found) (wanted : String)
  /-- A value of the right type that is not allowed. -/
  | wrongValue (found : Found) (wanted : String)
  /-- A list that ends too soon. -/
  | wrongLength (length : Nat) (wanted : String)
  /-- A member that the object does not have. -/
  | unknownField (name : Text) (known : List String)
  /-- A member given twice. -/
  | repeatedField (name : String)
  deriving DecidableEq, Repr

/-- Names in backquotes with commas between them. -/
def enumerate (names : List String) : String :=
  ", ".intercalate (names.map fun n => s!"`{n}`")

/-- The wording of a flaw. -/
def Flaw.message : Flaw → String
  | endInList => "EOF while parsing a list"
  | endInObject => "EOF while parsing an object"
  | endInString => "EOF while parsing a string"
  | endInValue => "EOF while parsing a value"
  | noColon => "expected `:`"
  | noListSeparator => "expected `,` or `]`"
  | noObjectSeparator => "expected `,` or `\x7d`"
  | noWord => "expected ident"
  | noValue => "expected value"
  | escape => "invalid escape"
  | number => "invalid number"
  | outOfRange => "number out of range"
  | controlCharacter => "control character (\\u0000-\\u001F) found while parsing a string"
  | keyNotString => "key must be a string"
  | loneSurrogate => "lone leading surrogate in hex escape"
  | unpairedSurrogate => "unexpected end of hex escape"
  | trailingComma => "trailing comma"
  | trailingCharacters => "trailing characters"
  | wrongType found wanted => s!"invalid type: {found.message}, expected {wanted}"
  | wrongValue found wanted => s!"invalid value: {found.message}, expected {wanted}"
  | wrongLength n wanted => s!"invalid length {n}, expected {wanted}"
  | unknownField name known =>
    s!"unknown field `{String.ofList name}`, expected one of {enumerate known}"
  | repeatedField name => s!"duplicate field `{name}`"

/-- A flaw and its place. -/
structure Misread where
  flaw : Flaw
  line : Nat
  column : Nat
  deriving DecidableEq, Repr

/-- The wording of a flaw with its place. -/
def Misread.message (m : Misread) : String :=
  s!"{m.flaw.message} at line {m.line} column {m.column}"

end ForwardProxy.Json
