import ForwardProxy.Session.Run
import ForwardProxy.Startup

/-!
# The program

Reads the command line and the settings file, and then serves one client: whoever is at the
standard input and output, as `handle_client` serves whoever connects.  The log goes to the error
output.  The process has no sockets of its own, so the network around the session is empty and every
dial is refused.
-/

namespace ForwardProxy.Main

/-- The number of a system error, which may come with its sign turned. -/
def systemCode (code : UInt32) : Int := code.toInt32.toInt.natAbs

/-- The fault behind a file that could not be read. -/
def faultOf (e : IO.Error) : Fault :=
  match e with
  | .noFileOrDirectory _ code _ => .system (systemCode code)
  | .permissionDenied _ code _ => .system (systemCode code)
  | .inappropriateType _ code _ => .system (systemCode code)
  | .invalidArgument _ code _ => .system (systemCode code)
  | .noSuchThing _ code _ => .system (systemCode code)
  | .otherError code _ => .system (systemCode code)
  | e => .described .uncategorized e.toString

/-- What reading the settings file comes to. -/
def readSettings (args : List Text) : IO (Text → Except Fault Bytes) := do
  match CommandLine.parse args with
  | .ok { config := some path, .. } =>
    try
      let content ← IO.FS.readBinFile (String.ofList path)
      return fun _ => .ok content.toList
    catch e => return fun _ => .error (faultOf e)
  | _ => return fun _ => .error (.system 2)

/-- The client's address in the log. -/
def clientAddress : SocketAddress := .v4 ⟨127, 0, 0, 1⟩ 0

/-- Writes what a session has written and told since an earlier state. -/
def report (verbose : Bool) (before after : Session) : IO Unit := do
  let output ← IO.getStdout
  let written := after.client.channel.written.drop before.client.channel.written.length
  output.write ⟨written.toArray⟩
  output.flush
  for line in after.log.drop before.log.length do
    if verbose || line.level != .debug then IO.eprintln line.render

/-- Serves until the session is over or the client's stream has ended. -/
partial def serve (verbose : Bool) (input : IO.FS.Stream) (r : SessionRun) : IO Unit := do
  if r.session.isOver then return
  let octets ← input.read 8192
  let now ← IO.monoNanosNow
  let awake := r.step (.wait (now - r.now))
  let event := if octets.isEmpty then Channel.Event.finish else .send octets.toList
  let after := awake.step (.client event)
  report verbose r.session after.session
  unless octets.isEmpty do serve verbose input after

end ForwardProxy.Main

open ForwardProxy in
/-- The program. -/
def main (args : List String) : IO UInt32 := do
  let args := args.map String.toList
  match Startup.run args (← Main.readSettings args) (fun _ => none) with
  | .ended exit output errors => do
    IO.print output
    IO.eprint errors
    return exit
  | .serving options settings => do
    IO.eprintln (Startup.announcement options.listen).render
    let now ← IO.monoNanosNow
    let session :=
      Session.start settings Main.clientAddress .detecting ⟨true, false⟩ now (.idle none)
    Main.serve options.verbose (← IO.getStdin) (SessionRun.start .empty now session)
    return 0
