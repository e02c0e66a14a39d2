import ForwardProxy.Failure

namespace ForwardProxy

/-!
# Settings

The limits and timeouts under which connections are served: a `ProxyConfig`, and the overrides in a
`ConfigFile`.

* `Settings` — the values in force; durations in nanoseconds.
* `Setting` — the names of the values; a file may override each.
* `Overrides` — the overrides of a file: milliseconds for durations, octets for the cap.
* `Settings.merge` — the settings with some overrides in place.
* `Settings.flaw?`, `Settings.validate` — what is wrong with settings, if anything.
-/

/-- The limits and timeouts under which connections are served. -/
structure Settings where
  /-- How long a tunnel may be silent. -/
  idleTimeout : Nat
  /-- Cap on the octets of a request head. -/
  maxRequestBytes : Nat
  /-- How long a client may take to send its request. -/
  requestReadTimeout : Nat
  dialTimeout : Nat
  /-- How long a client may take to send its first octet. -/
  peekTimeout : Nat
  /-- How long a stopping server waits for connections in service. -/
  drainTimeout : Nat
  acceptBackoffMin : Nat
  acceptBackoffMax : Nat
  deriving DecidableEq, Repr

/-- The name of one of the settings. -/
inductive Setting where
  | idleTimeout
  | maxRequestBytes
  | requestReadTimeout
  | dialTimeout
  | peekTimeout
  | drainTimeout
  | acceptBackoffMin
  | acceptBackoffMax
  deriving DecidableEq, Repr

namespace Setting

/-- Every setting, in the order of a list without names. -/
def all : List Setting :=
  [idleTimeout, maxRequestBytes, requestReadTimeout, dialTimeout, peekTimeout, drainTimeout,
    acceptBackoffMin, acceptBackoffMax]

/-- No setting is left out of the list of all. -/
theorem mem_all (f : Setting) : f ∈ all := by cases f <;> decide

/-- The name of a setting in a file. -/
def key : Setting → String
  | idleTimeout => "idle_timeout_ms"
  | maxRequestBytes => "max_request_bytes"
  | requestReadTimeout => "request_read_timeout_ms"
  | dialTimeout => "dial_timeout_ms"
  | peekTimeout => "peek_timeout_ms"
  | drainTimeout => "drain_timeout_ms"
  | acceptBackoffMin => "accept_backoff_min_ms"
  | acceptBackoffMax => "accept_backoff_max_ms"

/-- The setting with a given name in a file. -/
def ofKey? (name : Text) : Option Setting := all.find? fun f => text f.key == name

/-- What a value of the setting is called. -/
def unitName : Setting → String
  | maxRequestBytes => "usize"
  | _ => "u64"

end Setting

/-- The overrides of a file; none for a setting that it leaves alone. -/
abbrev Overrides := Setting → Option Nat

namespace Overrides

/-- No override at all. -/
def empty : Overrides := fun _ => none

/-- The overrides with one of them replaced. -/
def set (o : Overrides) (f : Setting) (v : Option Nat) : Overrides :=
  fun g => if g = f then v else o g

end Overrides

namespace Settings

/-- The settings of a program that is told nothing. -/
def standard : Settings where
  idleTimeout := Duration.ofSeconds 300
  maxRequestBytes := 8192
  requestReadTimeout := Duration.ofSeconds 15
  dialTimeout := Duration.ofSeconds 10
  peekTimeout := Duration.ofSeconds 10
  drainTimeout := Duration.ofSeconds 10
  acceptBackoffMin := Duration.ofMillis 50
  acceptBackoffMax := Duration.ofSeconds 1

/-- A duration that an override may replace. -/
def span (override : Option Nat) (old : Nat) : Nat :=
  match override with
  | some ms => Duration.ofMillis ms
  | none => old

/-- The settings with overrides in place. -/
def merge (s : Settings) (o : Overrides) : Settings where
  idleTimeout := span (o .idleTimeout) s.idleTimeout
  maxRequestBytes := (o .maxRequestBytes).getD s.maxRequestBytes
  requestReadTimeout := span (o .requestReadTimeout) s.requestReadTimeout
  dialTimeout := span (o .dialTimeout) s.dialTimeout
  peekTimeout := span (o .peekTimeout) s.peekTimeout
  drainTimeout := span (o .drainTimeout) s.drainTimeout
  acceptBackoffMin := span (o .acceptBackoffMin) s.acceptBackoffMin
  acceptBackoffMax := span (o .acceptBackoffMax) s.acceptBackoffMax

/-- The durations that must not be zero, in the order in which they are looked at. -/
def spans (s : Settings) : List (String × Nat) :=
  [("idle_timeout", s.idleTimeout), ("request_read_timeout", s.requestReadTimeout),
    ("dial_timeout", s.dialTimeout), ("peek_timeout", s.peekTimeout),
    ("drain_timeout", s.drainTimeout), ("accept_backoff_min", s.acceptBackoffMin)]

/-- The first thing that is wrong with settings. -/
def flaw? (s : Settings) : Option SettingsFlaw :=
  match s.spans.find? fun p => p.2 == 0 with
  | some p => some (.zero p.1)
  | none =>
    if s.maxRequestBytes = 0 then some (.zero "max_request_bytes")
    else if s.acceptBackoffMax < s.acceptBackoffMin then
      some (.backoffInverted s.acceptBackoffMin s.acceptBackoffMax)
    else none

/-- The settings, if nothing is wrong with them. -/
def validate (s : Settings) : Except Failure Settings :=
  match s.flaw? with
  | some flaw => .error (.config flaw)
  | none => .ok s

end Settings

end ForwardProxy
