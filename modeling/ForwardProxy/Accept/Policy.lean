import ForwardProxy.Fault

namespace ForwardProxy

/-!
# Which failed accepts are tried again

A fault of the listener is passing if its kind or its system error number is listed; any other
fault stops the server.  In the program the lists are an `AcceptErrorPolicy`, which is asked
by `is_transient`.

* `AcceptPolicy.isPassing` — whether a fault passes, as it is checked.
* `AcceptPolicy.Passes`, `AcceptPolicy.isPassing_iff` — which faults those are.
-/

/-- The faults that pass. -/
structure AcceptPolicy where
  kinds : List FaultKind
  codes : List Int
  deriving DecidableEq, Repr

namespace AcceptPolicy

/-- Connections that went away, interruptions, and lack of descriptors, buffers or memory, which
    ends as connections close: numbers 24, 23, 105 and 12. -/
def standard : AcceptPolicy where
  kinds := [.connectionAborted, .connectionReset, .interrupted, .timedOut, .wouldBlock]
  codes := [24, 23, 105, 12]

/-- The policy with one more kind of passing fault. -/
def withKind (p : AcceptPolicy) (k : FaultKind) : AcceptPolicy := { p with kinds := p.kinds ++ [k] }

/-- The policy with one more number of a passing fault. -/
def withCode (p : AcceptPolicy) (c : Int) : AcceptPolicy := { p with codes := p.codes ++ [c] }

/-- Whether a fault passes. -/
def isPassing (p : AcceptPolicy) (f : Fault) : Bool :=
  f.osCode?.any p.codes.contains || p.kinds.contains f.kind

/-- A fault passes if its kind is among those of the policy, or its system error number, if it has
    one, among the numbers. -/
def Passes (p : AcceptPolicy) (f : Fault) : Prop :=
  f.kind ∈ p.kinds ∨ ∃ code ∈ p.codes, f.osCode? = some code

/-- The check finds the faults that pass, and no others. -/
theorem isPassing_iff {p : AcceptPolicy} {f : Fault} : p.isPassing f = true ↔ p.Passes f := by
  rw [isPassing, Passes, Bool.or_eq_true, List.contains_iff_mem, or_comm]
  refine or_congr_right ?_
  cases f.osCode? <;> simp [eq_comm]

instance (p : AcceptPolicy) (f : Fault) : Decidable (p.Passes f) := decidable_of_iff _ isPassing_iff

end AcceptPolicy

end ForwardProxy
