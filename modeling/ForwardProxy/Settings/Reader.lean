import ForwardProxy.Json.Reader
import ForwardProxy.Settings.Basic

namespace ForwardProxy.Overrides

/-!
# Overrides in JSON

A file of overrides is an object whose members are settings, or a list of all eight values in
order; a value is a whole number or `null`, which overrides nothing.  No member may be unknown and
none may stand twice.

* `ofJson` — the overrides that a JSON text writes.

A flaw of the object as a whole (an unknown or repeated member, a list of the wrong length) is
placed behind the end of the object, as far as the end is there.
-/

open Json

/-- What the whole text is called when something else stands in its place. -/
def subject : String := "struct ConfigFile"

/-- A flaw that has its place, or one that will be placed at the end of the object. -/
inductive Stop where
  | placed (slip : Slip)
  | loose (flaw : Flaw) (left : Bytes)

/-- The flaw of a value that is no number, `wanted` being what a number is called. -/
def strayValue (wanted : String) (bs : Bytes) : Slip :=
  match bs with
  | [] => slipNext .noValue []
  | b :: r =>
    let afterWord (rest : String) (found : Found) : Slip :=
      match word (ascii rest) r with
      | .ok left => slipAt (.wrongType found wanted) left
      | .error slip => slip
    if b = octet 'n' then afterWord "ull" .null
    else if b = octet 't' then afterWord "rue" (.boolean true)
    else if b = octet 'f' then afterWord "alse" (.boolean false)
    else if b = octet '-' then
      match number false r with
      | .ok (n, left) => slipAt (.wrongType n.found wanted) left
      | .error slip => slip
    else if isDigit b then
      match number true bs with
      | .ok (n, left) => slipAt (.wrongType n.found wanted) left
      | .error slip => slip
    else if b = octet '"' then
      match string r with
      | .ok (s, left) => slipAt (.wrongType (.string s) wanted) left
      | .error slip => slip
    else if b = octet '[' then slipAt (.wrongType .sequence wanted) bs
    else if b = octet '{' then slipAt (.wrongType .map wanted) bs
    else slipNext .noValue bs

/-- The value of a setting that a number writes. -/
def naturalOf (wanted : String) (r : Except Slip (Number × Bytes)) : Except Slip (Nat × Bytes) :=
  match r with
  | .error slip => .error slip
  | .ok (.natural n, left) => .ok (n, left)
  | .ok (.negative n, left) => .error (slipAt (.wrongValue (.integer n) wanted) left)
  | .ok (.real x, left) => .error (slipAt (.wrongType (Number.real x).found wanted) left)

/-- A value: a whole number, or `null`. -/
def value (wanted : String) (bs : Bytes) : Except Slip (Option Nat × Bytes) :=
  match skipBlank bs with
  | [] => .error (slipNext .endInValue [])
  | b :: r =>
    if b = octet 'n' then (word (ascii "ull") r).map (none, ·)
    else if b = octet '-' then
      (naturalOf wanted (number false r)).map fun p => (some p.1, p.2)
    else if isDigit b then
      (naturalOf wanted (number true (b :: r))).map fun p => (some p.1, p.2)
    else .error (strayValue wanted (b :: r))

/-- The octets behind the colon between a name and its value. -/
def colon (bs : Bytes) : Except Slip Bytes :=
  match skipBlank bs with
  | [] => .error (slipNext .endInObject [])
  | b :: r => if b = octet ':' then .ok r else .error (slipNext .noColon (b :: r))

/-- The octets behind the opening quote of the next name; none at the end of the object. -/
def nextName (first : Bool) (bs : Bytes) : Except Slip (Option Bytes) :=
  let name (bs : Bytes) : Except Slip (Option Bytes) :=
    match bs with
    | [] => .error (slipNext .endInValue [])
    | b :: r =>
      if b = octet '"' then .ok (some r)
      else if b = octet '}' then .error (slipNext .trailingComma bs)
      else .error (slipNext .keyNotString bs)
  match skipBlank bs with
  | [] => .error (slipNext .endInObject [])
  | b :: r =>
    if b = octet '}' then .ok none
    else if first then name (b :: r)
    else if b = octet ',' then name (skipBlank r)
    else .error (slipNext .noObjectSeparator (b :: r))

/-- The members of an object up to its closing brace; `missing` are the settings not given yet. -/
def members (missing : List Setting) (first : Bool) (given : Overrides) (bs : Bytes) :
    Except Stop (Overrides × Bytes) :=
  match nextName first bs with
  | .error slip => .error (.placed slip)
  | .ok none => .ok (given, skipBlank bs)
  | .ok (some r) =>
    match string r with
    | .error slip => .error (.placed slip)
    | .ok (name, r) =>
      match Setting.ofKey? name with
      | none => .error (.loose (.unknownField name (Setting.all.map Setting.key)) r)
      | some f =>
        if _h : f ∈ missing then
          match colon r with
          | .error slip => .error (.placed slip)
          | .ok r =>
            match value f.unitName r with
            | .error slip => .error (.placed slip)
            | .ok (v, r) => members (missing.erase f) false (given.set f v) r
        else .error (.loose (.repeatedField f.key) r)
termination_by missing.length
decreasing_by
  rw [List.length_erase_of_mem _h]
  exact Nat.sub_lt (List.length_pos_of_mem _h) Nat.one_pos

/-- The octets in front of the next element of a list; none at the end of the list. -/
def nextElement (first : Bool) (bs : Bytes) : Except Slip (Option Bytes) :=
  match skipBlank bs with
  | [] => .error (slipNext .endInList [])
  | b :: r =>
    if b = octet ']' then .ok none
    else if first then .ok (some (b :: r))
    else if b = octet ',' then
      match skipBlank r with
      | [] => .error (slipNext .endInValue [])
      | c :: r =>
        if c = octet ']' then .error (slipNext .trailingComma (c :: r)) else .ok (some (c :: r))
    else .error (slipNext .noListSeparator (b :: r))

/-- The elements of a list, one for each of `fields`. -/
def elements (fields : List Setting) (first : Bool) (given : Overrides) (bs : Bytes) :
    Except Stop (Overrides × Bytes) :=
  match fields with
  | [] => .ok (given, bs)
  | f :: fs =>
    match nextElement first bs with
    | .error slip => .error (.placed slip)
    | .ok none =>
      let count := Setting.all.length - (f :: fs).length
      .error (.loose (.wrongLength count s!"{subject} with 8 elements") bs)
    | .ok (some r) =>
      match value f.unitName r with
      | .error slip => .error (.placed slip)
      | .ok (v, r) => elements fs false (given.set f v) r

/-- The end of an object: the octets where the reader then stands, and its flaw if it is not
    there. -/
def objectEnd (bs : Bytes) : Bytes × Option Slip :=
  match skipBlank bs with
  | [] => ([], some (slipNext .endInObject []))
  | b :: r =>
    if b = octet '}' then (r, none)
    else if b = octet ',' then (b :: r, some (slipNext .trailingComma (b :: r)))
    else (b :: r, some (slipNext .trailingCharacters (b :: r)))

/-- The end of a list, as `objectEnd`. -/
def listEnd (bs : Bytes) : Bytes × Option Slip :=
  match skipBlank bs with
  | [] => ([], some (slipNext .endInList []))
  | b :: r =>
    if b = octet ']' then (r, none)
    else if b = octet ',' then
      let r := skipBlank r
      let flaw := if r.head? = some (octet ']') then Flaw.trailingComma else .trailingCharacters
      (r, some (slipNext flaw r))
    else (b :: r, some (slipNext .trailingCharacters (b :: r)))

/-- What was read inside brackets, once their end has been looked for. -/
def closed (ending : Bytes → Bytes × Option Slip) (r : Except Stop (Overrides × Bytes)) :
    Except Slip (Overrides × Bytes) :=
  match r with
  | .error (.placed slip) => .error slip
  | .error (.loose flaw left) => .error (slipAt flaw (ending left).1)
  | .ok (o, left) =>
    match ending left with
    | (left, none) => .ok (o, left)
    | (_, some slip) => .error slip

/-- The object or the list at the start of a text. -/
def body (bs : Bytes) : Except Slip (Overrides × Bytes) :=
  match skipBlank bs with
  | [] => .error (slipNext .endInValue [])
  | b :: r =>
    if b = octet '{' then closed objectEnd (members Setting.all true empty r)
    else if b = octet '[' then closed listEnd (elements Setting.all true empty r)
    else .error (strayValue subject (b :: r))

/-- The overrides that a JSON text writes. -/
def ofJson (bs : Bytes) : Except Misread Overrides :=
  match body bs with
  | .error slip => .error (slip.locate bs)
  | .ok (o, left) =>
    let left := skipBlank left
    if left.isEmpty then .ok o else .error ((slipNext .trailingCharacters left).locate bs)

end ForwardProxy.Overrides
