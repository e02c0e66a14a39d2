import ForwardProxy.Address.Parser
import ForwardProxy.CommandLine.Basic
import ForwardProxy.Text.Similarity

namespace ForwardProxy.CommandLine

/-!
# Reading the command line

The arguments are read in order.  A value that stands in an argument of its own is looked at only
when the next known switch comes, or at the end, so a mistake in between is told first.

* `parse` — the options that arguments come to, or why they come to nothing.
-/

/-- What has been read. -/
structure Reading where
  options : Options
  /-- The switches given, in order. -/
  given : List Switch
  /-- A switch whose value may still come, and the value if it has come. -/
  pending : Option (Switch × Option Text)
  deriving DecidableEq, Repr

namespace Reading

/-- Nothing has been read. -/
def start : Reading := ⟨.standard, [], none⟩

/-- The first number that is too many seconds. -/
def secondsBound : Nat := 0x10000000000000000

/-- The options with the value of a switch in place. -/
def assign (s : Switch) (value : Text) (o : Options) : Except Stop Options :=
  match s with
  | .listen =>
    match SocketAddress.parse? value with
    | some a => .ok { o with listen := a }
    | none => .error (.badValue s value .address)
  | .config =>
    if value.isEmpty then .error (.missingValue s) else .ok { o with config := some value }
  | .idleTimeoutSecs =>
    match Decimal.readBelow secondsBound value with
    | .ok n => .ok { o with idleSeconds := some n }
    | .error flaw => .error (.badValue s value (.number flaw))
  | .verbose => .ok { o with verbose := true }
  | .help => .error .help
  | .version => .error .version

/-- Takes a switch with its value. -/
def take (s : Switch) (value : Text) (r : Reading) : Except Stop Reading :=
  if r.given.contains s then .error (.repeated s)
  else
    match assign s value r.options with
    | .ok o => .ok { r with options := o, given := r.given ++ [s] }
    | .error stop => .error stop

/-- Takes the switch that may still have got its value. -/
def resolve (r : Reading) : Except Stop Reading :=
  match r.pending with
  | none => .ok r
  | some (s, none) => .error (.missingValue s)
  | some (s, some value) => { r with pending := none }.take s value

/-- Takes a switch once what came before it is settled. -/
def react (s : Switch) (value : Text) (r : Reading) : Except Stop Reading :=
  match r.resolve with
  | .ok r => r.take s value
  | .error stop => .error stop

/-- How similar an argument has to be to a switch to be taken for a slip of it. -/
def similarityBound : Float := 0.7

/-- The switch that an unknown name is most like, if it is like one; of two that are equally alike,
    the later one. -/
def closest? (name : Text) : Option Switch :=
  let better (best : Option (Float × Switch)) (s : Switch) : Option (Float × Switch) :=
    let likeness := Text.similarity name (text s.name)
    if similarityBound < likeness && best.all (fun b => b.1 ≤ likeness) then some (likeness, s)
    else best
  (Switch.all.foldl better none).map Prod.snd

/-- A row of switches with one more at the end, unless it is there. -/
def including (s : Switch) (used : List Switch) : List Switch :=
  if used.contains s then used else used ++ [s]

/-- Reads a long switch, with the value attached to it if there is one. -/
def long (name : Text) (value : Option Text) (r : Reading) : Except Stop Reading :=
  match Switch.ofName? name with
  | none =>
    let hint := closest? name
    let used :=
      match hint with
      | some s => including s r.given
      | none => r.given
    .error (.unknown (text "--" ++ name) hint used)
  | some s =>
    match s.valueName?, value with
    | some _, some v => r.react s v
    | some _, none =>
      match r.resolve with
      | .ok r => .ok { r with pending := some (s, none) }
      | .error stop => .error stop
    | none, some v => .error (.surplusValue s v (including s r.given))
    | none, none => r.react s []

/-- Reads short switches that stand together. -/
def short : Text → Reading → Except Stop Reading
  | [], r => .ok r
  | c :: rest, r =>
    match Switch.ofLetter? c with
    | none => .error (.unknown ['-', c] none [])
    | some s =>
      match r.react s [] with
      | .ok r => short rest r
      | .error stop => .error stop

/-- Reads an argument that is not a switch. -/
def plain (argument : Text) (r : Reading) : Except Stop Reading :=
  match r.pending with
  | some (s, none) => .ok { r with pending := some (s, some argument) }
  | _ => .error (.unknown argument none [])

/-- A text in front of its first equals sign and, if there is one, behind it. -/
def splitValue : Text → Text × Option Text
  | [] => ([], none)
  | c :: r =>
    if c = '=' then ([], some r)
    else
      let (name, value) := splitValue r
      (c :: name, value)

/-- Reads an argument; two dashes alone are not given to this. -/
def argument (a : Text) (r : Reading) : Except Stop Reading :=
  match a with
  | '-' :: '-' :: rest => r.long (splitValue rest).1 (splitValue rest).2
  | '-' :: c :: rest => short (c :: rest) r
  | _ => r.plain a

/-- Reads arguments in order.  Behind two dashes nothing is a switch or a value. -/
def arguments : List Text → Reading → Except Stop Reading
  | [], r => r.resolve
  | ['-', '-'] :: [], r => r.resolve
  | ['-', '-'] :: extra :: _, _ => .error (.unknown extra none [])
  | a :: rest, r =>
    match r.argument a with
    | .ok r => arguments rest r
    | .error stop => .error stop

end Reading

/-- The options that arguments come to. -/
def parse (args : List Text) : Except Stop Options :=
  match Reading.arguments args .start with
  | .ok r => .ok r.options
  | .error stop => .error stop

end ForwardProxy.CommandLine
