import ForwardProxy.CommandLine.Parser
import ForwardProxy.Log
import ForwardProxy.Settings.File

namespace ForwardProxy

/-!
# Starting up

From the command line and the settings file to a server that can begin, or to the end of the
program.  The settings are put together as `build_config` does it.

* `CommandLine.Options.settings` — the settings in force: the standard ones, those of the file over
  them, and those of the command line over both.
* `Startup.run` — what becomes of the program before it serves anybody.
-/

/-- Why the program cannot start. -/
inductive StartupFailure where
  /-- The settings file is of no use. -/
  | loading (path : Text) (failure : Failure)
  /-- The settings in force are of no use. -/
  | settings (failure : Failure)
  /-- The address to listen on cannot be had. -/
  | binding (address : SocketAddress) (fault : Fault)
  deriving DecidableEq, Repr

namespace StartupFailure

/-- What was being done, and the wording of what went wrong; nothing was being done if a failure
    speaks for itself. -/
def parts : StartupFailure → Option String × String
  | loading path failure => (some s!"loading config from {String.ofList path}", failure.message)
  | settings failure => (none, failure.message)
  | binding address fault => (some s!"binding {String.ofList address.render}", fault.message)

/-- A failure on one line. -/
def message (f : StartupFailure) : String :=
  match f.parts with
  | (none, wording) => wording
  | (some doing, wording) => s!"{doing}: {wording}"

/-- A text with every line behind the first indented by four. -/
def indented (s : String) : String :=
  String.ofList (s.toList.flatMap fun c => if c = '\n' then text "\n    " else [c])

/-- A failure as the program ends by it. -/
def report (f : StartupFailure) : String :=
  match f.parts with
  | (none, wording) => s!"Error: {wording}\n"
  | (some doing, wording) => s!"Error: {doing}\n\nCaused by:\n    {indented wording}\n"

end StartupFailure

/-- Settings with the overrides of a file, if there is one, in place. -/
def Settings.withFile (s : Settings) (path : Option Text) (read : Text → Except Fault Bytes) :
    Except StartupFailure Settings :=
  match path with
  | none => .ok s
  | some path =>
    match Overrides.load path (read path) with
    | .ok o => .ok (s.merge o)
    | .error failure => .error (.loading path failure)

/-- Settings with the silence allowed to tunnels replaced, if it is given. -/
def Settings.withIdleSeconds (s : Settings) (seconds : Option Nat) : Settings :=
  match seconds with
  | none => s
  | some n => { s with idleTimeout := Duration.ofSeconds n }

/-- The settings in force; `read` tells what reading a file comes to. -/
def CommandLine.Options.settings (o : Options) (read : Text → Except Fault Bytes) :
    Except StartupFailure Settings :=
  match Settings.standard.withFile o.config read with
  | .error failure => .error failure
  | .ok s =>
    match (s.withIdleSeconds o.idleSeconds).validate with
    | .ok s => .ok s
    | .error failure => .error (.settings failure)

namespace Startup

/-- What becomes of the program before it serves anybody. -/
inductive Course where
  /-- It ends, with an exit code, after it has written to its output and its error output. -/
  | ended (exit : UInt32) (output errors : String)
  /-- It serves. -/
  | serving (options : CommandLine.Options) (settings : Settings)
  deriving DecidableEq, Repr

/-- The end by a failure. -/
def failed (f : StartupFailure) : Course := .ended 1 "" f.report

/-- The end of a command line that comes to nothing. -/
def stopped (stop : CommandLine.Stop) : Course :=
  if stop.isAnswer then .ended 0 stop.message "" else .ended 2 "" stop.message

/-- What becomes of the program; `bind` tells why an address cannot be listened on. -/
def run (args : List Text) (read : Text → Except Fault Bytes)
    (bind : SocketAddress → Option Fault) : Course :=
  match CommandLine.parse args with
  | .error stop => stopped stop
  | .ok options =>
    match options.settings read with
    | .error failure => failed failure
    | .ok settings =>
      match bind options.listen with
      | some fault => failed (.binding options.listen fault)
      | none => .serving options settings

/-- What the operator is told when the program begins to serve. -/
def announcement (listen : SocketAddress) : LogLine :=
  let name := s!"{CommandLine.program} {CommandLine.versionNumber}"
  ⟨.info, s!"Starting {name} at: {String.ofList listen.render}"⟩

end Startup

end ForwardProxy
