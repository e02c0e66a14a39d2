import ForwardProxy.Fault
import ForwardProxy.Json.Flaw
import ForwardProxy.Target

namespace ForwardProxy

/-!
# Failures

Everything that can go wrong while connections are served, by its cause, with the wording of each
and the HTTP answer that tells a client about it.  In the program a failure is a `ProxyError`, and
the parts of the answer are its `http_status` and its `http_body`.

* `Failure.message` — the wording.
* `Failure.httpStatus?`, `Failure.httpBody` — status line and body of the answer; failures that
  no request causes have none.
-/

/-- What is wrong with a request head. -/
inductive HeadFlaw where
  | token
  | newLine
  | version
  | headerName
  | headerValue
  /-- The octets end before the head does. -/
  | incomplete
  /-- More headers than the parser has slots for. -/
  | tooManyHeaders
  | hostNotUtf8
  /-- The head was not there in time. -/
  | late (limit : Nat)
  /-- The connection failed before the head was complete. -/
  | unreadable (fault : Fault)
  /-- A flaw found elsewhere, in its own words. -/
  | described (text : String)
  deriving DecidableEq, Repr

namespace HeadFlaw

/-- The wording of a flaw. -/
def message : HeadFlaw → String
  | token => "invalid token"
  | newLine => "invalid new line"
  | version => "invalid HTTP version"
  | headerName => "invalid header name"
  | headerValue => "invalid header value"
  | incomplete => "incomplete request head"
  | tooManyHeaders => "too many headers"
  | hostNotUtf8 => "Host header is not UTF-8"
  | late limit => s!"request not received within {Duration.describe limit}"
  | unreadable fault => fault.message
  | described t => t

end HeadFlaw

/-- What is wrong with a configuration. -/
inductive SettingsFlaw where
  /-- The file could not be read. -/
  | unreadable (path : Text) (fault : Fault)
  | json (misread : Json.Misread)
  /-- A field that must not be zero is. -/
  | zero (field : String)
  | backoffInverted (least most : Nat)
  /-- A flaw found elsewhere, in its own words. -/
  | described (text : String)
  deriving DecidableEq, Repr

namespace SettingsFlaw

/-- The wording of a flaw. -/
def message : SettingsFlaw → String
  | unreadable path fault => s!"reading {String.ofList path}: {fault.message}"
  | json m => m.message
  | zero field => s!"{field} must be non-zero"
  | backoffInverted least most =>
    s!"accept backoff min {Duration.describe least} exceeds max {Duration.describe most}"
  | described t => t

end SettingsFlaw

/-- A failure while connections are served. -/
inductive Failure where
  /-- The authority of a request names no target. -/
  | invalidTarget (authority : Text) (flaw : TargetFlaw)
  /-- The request head exceeds the cap or the header slots. -/
  | requestTooLarge (limit : Nat)
  /-- The request head could not be read or understood. -/
  | malformedRequest (flaw : HeadFlaw)
  /-- A method other than CONNECT. -/
  | unsupportedMethod (method : Text)
  /-- The target could not be reached. -/
  | dialFailure (target : Text) (fault : Fault)
  /-- Nothing happened on a tunnel for this long. -/
  | idleTimeout (span : Nat)
  /-- The listener failed for good. -/
  | fatalAccept (fault : Fault)
  | config (flaw : SettingsFlaw)
  | io (fault : Fault)
  deriving DecidableEq, Repr

namespace Failure

/-- The wording of a failure. -/
def message : Failure → String
  | invalidTarget authority flaw =>
    s!"invalid CONNECT target {String.ofList (Text.quote authority)}: {flaw.message}"
  | requestTooLarge limit => s!"request head exceeds {limit} bytes"
  | malformedRequest flaw => s!"malformed request: {flaw.message}"
  | unsupportedMethod m => s!"method {String.ofList m} not allowed, CONNECT required"
  | dialFailure target fault => s!"failed to dial {String.ofList target}: {fault.message}"
  | idleTimeout span => s!"tunnel idle for {Duration.describe span}"
  | fatalAccept fault => s!"accept failed: {fault.message}"
  | config flaw => s!"invalid configuration: {flaw.message}"
  | io fault => s!"I/O error: {fault.message}"

/-- Code and reason of the HTTP answer to a failure. -/
def httpStatus? : Failure → Option (Nat × String)
  | requestTooLarge _ => some (431, "Request Header Fields Too Large")
  | malformedRequest _ => some (400, "Bad Request")
  | invalidTarget _ _ => some (400, "Bad Request")
  | unsupportedMethod _ => some (405, "Method Not Allowed")
  | dialFailure _ _ => some (502, "Bad Gateway")
  | _ => none

/-- Body of the HTTP answer to a failure. -/
def httpBody : Failure → String
  | requestTooLarge _ => "request too large\n"
  | malformedRequest _ => "malformed request\n"
  | invalidTarget _ _ => "invalid CONNECT host\n"
  | unsupportedMethod _ => "CONNECT required\n"
  | dialFailure _ _ => "dial failed\n"
  | _ => ""

end Failure

/-- The target that an authority names; a failure keeps the authority as it was given. -/
def Target.ofAuthority (authority : Text) : Except Failure Target :=
  match resolve authority with
  | .ok target => .ok target
  | .error flaw => .error (.invalidTarget authority flaw)

end ForwardProxy
