import ForwardProxy.Duration
import ForwardProxy.Fault.Kind
import ForwardProxy.Fault.SystemError

namespace ForwardProxy

/-!
# I/O faults

* `Fault.kind`, `Fault.osCode?`, `Fault.message` — what can be seen of a fault.
* `Fault.isIdle` — whether it is an idle deadline lapsing, which a fault that merely has the kind
  "timed out" is not: this is the question of `is_idle_timeout`.
-/

/-- A failed operation on a connection, a file or a listener. -/
inductive Fault where
  /-- Nothing but the kind is known. -/
  | bare (kind : FaultKind)
  /-- A kind and a text of its own. -/
  | described (kind : FaultKind) (text : String)
  /-- An error of the operating system, by its number. -/
  | system (code : Int)
  /-- A connection on which nothing happened for this long. -/
  | idle (span : Nat)
  deriving DecidableEq, Repr

namespace Fault

/-- The kind of a fault. -/
def kind : Fault → FaultKind
  | bare k => k
  | described k _ => k
  | system code => .ofOs code
  | idle _ => .timedOut

/-- The number that the operating system gave. -/
def osCode? : Fault → Option Int
  | system code => some code
  | _ => none

/-- The text of a fault. -/
def message : Fault → String
  | bare k => k.description
  | described _ t => t
  | system code => s!"{SystemError.description code} (os error {code})"
  | idle d => s!"no traffic for {Duration.describe d}"

/-- Whether a fault is an idle deadline that lapsed. -/
def isIdle : Fault → Bool
  | idle _ => true
  | _ => false

/-- What a reader of an exact number of octets meets when the stream ends too soon. -/
def earlyEnd : Fault := .described .unexpectedEof "early eof"

end Fault

end ForwardProxy
