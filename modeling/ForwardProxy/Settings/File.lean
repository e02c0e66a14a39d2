import ForwardProxy.Settings.Reader
import ForwardProxy.Text.Utf8

namespace ForwardProxy.Overrides

/-!
# Settings files

Where overrides come from: `from_json` and `load` of a `ConfigFile`.

* `fromJson` — the overrides that a text writes, or the failure.
* `load` — the overrides of a file, or the failure.
-/

/-- The overrides that a JSON text writes. -/
def fromJson (content : Bytes) : Except Failure Overrides :=
  match ofJson content with
  | .ok o => .ok o
  | .error misread => .error (.config (.json misread))

/-- The fault of a file that is no text. -/
def notText : Fault := .described .invalidData "stream did not contain valid UTF-8"

/-- The overrides of a file, by its path and what reading it comes to. -/
def load (path : Text) (content : Except Fault Bytes) : Except Failure Overrides :=
  match content with
  | .error fault => .error (.config (.unreadable path fault))
  | .ok content =>
    if (Utf8.decode? content).isSome then fromJson content
    else .error (.config (.unreadable path notText))

end ForwardProxy.Overrides
