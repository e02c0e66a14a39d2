import ForwardProxy.Address.Basic
import ForwardProxy.Text.Decimal

namespace ForwardProxy.CommandLine

/-!
# The command line

What the program can be told when it is started, its `Cli`.

* `Switch` — what can be given.
* `Options` — what a command line comes to.
* `Stop` — why a command line comes to nothing: help, the version, or a mistake.
* `Stop.message` — the text for each.
-/

/-- The name of the program. -/
def program : String := "tailgate"

/-- The version of the program. -/
def versionNumber : String := "0.1.0"

/-- Something that can be given on the command line. -/
inductive Switch where
  | listen
  | config
  | idleTimeoutSecs
  | verbose
  | help
  | version
  deriving DecidableEq, Repr

namespace Switch

/-- Every switch, in the order of the help text. -/
def all : List Switch := [listen, config, idleTimeoutSecs, verbose, help, version]

/-- The long name of a switch. -/
def name : Switch → String
  | listen => "listen"
  | config => "config"
  | idleTimeoutSecs => "idle-timeout-secs"
  | verbose => "verbose"
  | help => "help"
  | version => "version"

/-- What the value of a switch is called; none if it takes no value. -/
def valueName? : Switch → Option String
  | listen => some "LISTEN"
  | config => some "CONFIG"
  | idleTimeoutSecs => some "IDLE_TIMEOUT_SECS"
  | _ => none

/-- The switch with a long name. -/
def ofName? (t : Text) : Option Switch := all.find? fun s => text s.name == t

/-- The switch with a short name. -/
def ofLetter? (c : Char) : Option Switch :=
  if c = 'v' then some verbose
  else if c = 'h' then some help
  else if c = 'V' then some version
  else none

/-- A switch as it stands in a usage line. -/
def usage (s : Switch) : String :=
  match s.valueName? with
  | some value => s!"--{s.name} <{value}>"
  | none => s!"--{s.name}"

end Switch

/-- What a command line comes to. -/
structure Options where
  /-- Where clients are accepted. -/
  listen : SocketAddress
  /-- The path of the settings file. -/
  config : Option Text
  /-- How many seconds a tunnel may be silent. -/
  idleSeconds : Option Nat
  /-- Whether more is told. -/
  verbose : Bool
  deriving DecidableEq, Repr

namespace Options

/-- Where clients are accepted if nothing is said about it. -/
def defaultListen : SocketAddress := .v4 ⟨0, 0, 0, 0⟩ 1080

/-- The options of an empty command line. -/
def standard : Options := ⟨defaultListen, none, none, false⟩

end Options

/-- Why a value does not do. -/
inductive ValueFlaw where
  | address
  | number (flaw : Decimal.Flaw)
  deriving DecidableEq, Repr

/-- The wording of a flaw. -/
def ValueFlaw.message : ValueFlaw → String
  | address => "invalid socket address syntax"
  | number flaw => flaw.message

/-- Why a command line comes to nothing.  `used` are the switches that the usage line names. -/
inductive Stop where
  | help
  | version
  | unknown (shown : Text) (hint : Option Switch) (used : List Switch)
  | missingValue (switch : Switch)
  | badValue (switch : Switch) (value : Text) (flaw : ValueFlaw)
  | surplusValue (switch : Switch) (value : Text) (used : List Switch)
  | repeated (switch : Switch)
  deriving DecidableEq, Repr

/-! ### Texts -/

/-- The lines of the help text about one switch. -/
def helpEntry (head about : String) : String := head ++ "\n          " ++ about ++ "\n"

/-- The help text. -/
def helpText : String :=
  let listen := String.ofList Options.defaultListen.render
  "SOCKS5 and HTTP CONNECT proxy on a single port\n\n" ++
    s!"Usage: {program} [OPTIONS]\n\nOptions:\n" ++
    helpEntry s!"      {Switch.listen.usage}"
      s!"Address to accept proxy clients on [default: {listen}]" ++
    helpEntry s!"      {Switch.config.usage}"
      "JSON file overriding the built-in timeouts and limits" ++
    helpEntry s!"      {Switch.idleTimeoutSecs.usage}"
      "Close tunnels idle for this many seconds" ++
    helpEntry s!"  -v, {Switch.verbose.usage}"
      "Log at debug level unless RUST_LOG says otherwise" ++
    helpEntry s!"  -h, {Switch.help.usage}" "Print help" ++
    helpEntry s!"  -V, {Switch.version.usage}" "Print version"

/-- A usage line that names some switches. -/
def usageLine (used : List Switch) : String :=
  let rest := if used.isEmpty then "[OPTIONS]" else " ".intercalate (used.map Switch.usage)
  s!"\n\nUsage: {program} {rest}"

/-- A mistake and the lines behind it. -/
def mistake (first usage : String) : String :=
  s!"error: {first}{usage}\n\nFor more information, try '--help'.\n"

/-- The text for a command line that comes to nothing. -/
def Stop.message : Stop → String
  | help => helpText
  | version => s!"{program} {versionNumber}\n"
  | unknown shown hint used =>
    let tip :=
      match hint with
      | some s => s!"\n\n  tip: a similar argument exists: '--{s.name}'"
      | none => ""
    mistake s!"unexpected argument '{String.ofList shown}' found{tip}" (usageLine used)
  | missingValue s =>
    mistake s!"a value is required for '{s.usage}' but none was supplied" ""
  | badValue s value flaw =>
    mistake s!"invalid value '{String.ofList value}' for '{s.usage}': {flaw.message}" ""
  | surplusValue s value used =>
    let shown := String.ofList value
    mistake s!"unexpected value '{shown}' for '{s.usage}' found; no more were expected"
      (usageLine used)
  | repeated s => mistake s!"the argument '{s.usage}' cannot be used multiple times" (usageLine [])

/-- Whether a text is what was asked for, and not about a mistake. -/
def Stop.isAnswer : Stop → Bool
  | help => true
  | version => true
  | _ => false

end ForwardProxy.CommandLine
