import ForwardProxy.Proofs.Settings.Values
import ForwardProxy.Startup

namespace ForwardProxy

/-!
# Settings in force

Each setting by its name: the standard one, that of the file over it, and that of the command line
over both.

* `Overrides.inForce` — the value that is in force with the overrides of a file and a command line.
* `CommandLine.Options.settings_eq_ok_iff` — starting succeeds just with these values, and only if
  they will do.
-/

/-- A number of seconds on the command line replaces the idle timeout and nothing else. -/
theorem Settings.value_withIdleSeconds (s : Settings) (seconds : Option Nat) (f : Setting) :
    (s.withIdleSeconds seconds).value f =
      if f = .idleTimeout then (seconds.map (· * 1000000000)).getD (s.value f) else s.value f := by
  cases seconds <;> cases f <;> rfl

/-- The value that is in force: that of the command line for the silence allowed to tunnels, or else
    that of the file, or else the standard one. -/
def Overrides.inForce (o : Overrides) (idleSeconds : Option Nat) (f : Setting) : Nat :=
  match f, idleSeconds, o f with
  | .idleTimeout, some seconds, _ => seconds * 1000000000
  | f, _, some v => v * f.unit
  | f, _, none => Settings.standard.value f

/-- What is in force is what the command line says, else the file, else the standard. -/
theorem Settings.value_inForce (o : Overrides) (idleSeconds : Option Nat) (f : Setting) :
    ((Settings.standard.merge o).withIdleSeconds idleSeconds).value f =
      o.inForce idleSeconds f := by
  rw [value_withIdleSeconds, value_merge]
  cases f <;> cases idleSeconds <;> simp only [Overrides.inForce] <;> cases o _ <;> rfl

/-- **Starting with a file that was read** gives just the values in force, if they will do. -/
theorem CommandLine.Options.settings_eq_ok_iff {options : CommandLine.Options} {path : Text}
    {read : Text → Except Fault Bytes} {o : Overrides} (hpath : options.config = some path)
    (hload : Overrides.load path (read path) = .ok o) (s : Settings) :
    options.settings read = .ok s ↔ (∀ f, s.value f = o.inForce options.idleSeconds f) ∧
      Settings.Sensible (o.inForce options.idleSeconds) := by
  have hvalue := Settings.value_inForce o options.idleSeconds
  -- Settings are told by their values, so the merged ones are known by what is in force.
  generalize hmerged : (Settings.standard.merge o).withIdleSeconds options.idleSeconds = m at hvalue
  have hsensible : Settings.Sensible (o.inForce options.idleSeconds) ↔ m.flaw? = none := by
    rw [Settings.flaw?_eq_none_iff, ← funext hvalue]
  rw [settings, hpath, Settings.withFile, hload, hsensible]
  dsimp only
  rw [hmerged, Settings.validate]
  cases hflaw : m.flaw? with
  | none =>
    constructor
    · intro h
      cases h
      exact ⟨hvalue, rfl⟩
    · intro h
      exact congrArg Except.ok (Settings.ext_value fun f => (hvalue f).trans (h.1 f).symm)
  | some flaw =>
    constructor
    · intro h
      cases h
    · intro h
      cases h.2

/-- A file that is not read ends the start. -/
theorem CommandLine.Options.settings_of_load_error {options : CommandLine.Options} {path : Text}
    {read : Text → Except Fault Bytes} {failure : Failure} (hpath : options.config = some path)
    (hload : Overrides.load path (read path) = .error failure) :
    options.settings read = .error (.loading path failure) := by
  rw [settings, hpath, Settings.withFile, hload]

end ForwardProxy
