import ForwardProxy.Text.Blank
import ForwardProxy.Text.Decimal

namespace ForwardProxy

/-!
# Targets

What a tunnel leads to, and how the authority of a request names it.  In the program a target is a
`ProxyTarget`; it is found by `resolve_target`, which takes the authority apart by
`split_host_port` and reads the port by `parse_port`.

* `Target.render` — `host:port`, the host in brackets if it has a colon.
* `Target.resolve` — the target that an authority names.  A missing port means 443; several colons
  outside brackets can only be an IPv6 address without a port; blanks around the authority do not
  count; a space or a slash inside it is refused, since a tunnel has no path.
-/

/-- A host and a port to dial. -/
structure Target where
  host : Text
  port : UInt16
  deriving DecidableEq, Repr

/-- Why an authority names no target. -/
inductive TargetFlaw where
  | emptyHost
  | invalidHost
  | invalidPort
  | missingPort
  | tooManyColons
  | unclosedBracket
  | strayOpening
  | strayClosing
  /-- A flaw found elsewhere, in its own words. -/
  | described (reason : String)
  deriving DecidableEq, Repr

namespace TargetFlaw

/-- The text of a flaw. -/
def message : TargetFlaw → String
  | emptyHost => "empty host"
  | invalidHost => "invalid host format"
  | invalidPort => "invalid port"
  | missingPort => "missing port in address"
  | tooManyColons => "too many colons in address"
  | unclosedBracket => "missing ']' in address"
  | strayOpening => "unexpected '[' in address"
  | strayClosing => "unexpected ']' in address"
  | described reason => reason

end TargetFlaw

/-- The parts of a text before and behind the last occurrence of a character. -/
def Text.splitLast? (c : Char) : Text → Option (Text × Text)
  | [] => none
  | x :: r =>
    match Text.splitLast? c r with
    | some (before, behind) => some (x :: before, behind)
    | none => if x = c then some ([], r) else none

namespace Target

/-- The port of a target whose authority names none. -/
def defaultPort : UInt16 := 443

/-- The text of a target. -/
def render (t : Target) : Text :=
  if t.host.contains ':' then ['['] ++ t.host ++ [']', ':'] ++ Decimal.write t.port.toNat
  else t.host ++ [':'] ++ Decimal.write t.port.toNat

/-- How a text fails to be `host:port`. -/
inductive SplitFlaw where
  | missingPort
  | tooManyColons
  | malformed (flaw : TargetFlaw)
  deriving DecidableEq, Repr

/-- The host and the port of `[host]:port`, given what follows the opening bracket. -/
def splitBracketed (s : Text) : Except SplitFlaw (Text × Text) :=
  let host := s.takeWhile (· != ']')
  match s.dropWhile (· != ']') with
  | [] => .error (.malformed .unclosedBracket)
  | _ :: [] => .error .missingPort
  | _ :: c :: port =>
    if c != ':' then .error .missingPort
    else if port.contains ':' then .error .tooManyColons
    else if s.contains '[' then .error (.malformed .strayOpening)
    else if port.contains ']' then .error (.malformed .strayClosing)
    else .ok (host, port)

/-- The host and the port of `host:port` or `[host]:port`. -/
def splitHostPort (s : Text) : Except SplitFlaw (Text × Text) :=
  match Text.splitLast? ':' s with
  | none => .error .missingPort
  | some (host, port) =>
    match s with
    | '[' :: rest => splitBracketed rest
    | _ =>
      if host.contains ':' then .error .tooManyColons
      else if s.contains '[' then .error (.malformed .strayOpening)
      else if s.contains ']' then .error (.malformed .strayClosing)
      else .ok (host, port)

/-- A port: decimal digits alone, with a value from 1 to 65535. -/
def parsePort? (s : Text) : Option UInt16 :=
  match Decimal.read? s with
  | none => none
  | some n => if 0 < n && n < 65536 then some (UInt16.ofNat n) else none

/-- The host between brackets that span a whole text, given what follows the opening bracket. -/
def unbracket? (s : Text) : Option Text :=
  if s.getLast? = some ']' then some s.dropLast else none

/-- The target that an authority without blanks around it names. -/
def resolveTrimmed (s : Text) : Except TargetFlaw Target :=
  if s.isEmpty then .error .emptyHost
  else if s.any fun c => c == ' ' || c == '/' || c == '\\' then .error .invalidHost
  else
    match splitHostPort s with
    | .ok (host, port) =>
      if (Text.trim host).isEmpty then .error .emptyHost
      else
        match parsePort? port with
        | some p => .ok ⟨host, p⟩
        | none => .error .invalidPort
    | .error .missingPort =>
      match s with
      | '[' :: rest =>
        match unbracket? rest with
        | none => .error .missingPort
        | some host => if host.isEmpty then .error .emptyHost else .ok ⟨host, defaultPort⟩
      | _ => .ok ⟨s, defaultPort⟩
    | .error .tooManyColons =>
      if s.head? = some '[' then .error .tooManyColons else .ok ⟨s, defaultPort⟩
    | .error (.malformed flaw) => .error flaw

/-- The target that an authority names. -/
def resolve (authority : Text) : Except TargetFlaw Target := resolveTrimmed (Text.trim authority)

end Target

end ForwardProxy
