import ForwardProxy.Log

namespace ForwardProxy

/-!
# Being told to stop

A watcher waits for one of two signals; the first of them is told to the operator and stops the
server: this is `shutdown_signal`.
-/

/-- A signal that stops the program. -/
inductive StopSignal where
  | interrupt
  | terminate
  deriving DecidableEq, Repr

/-- What the operator is told about a signal. -/
def StopSignal.announcement : StopSignal → LogLine
  | interrupt => ⟨.info, "received ctrl-c, shutting down"⟩
  | terminate => ⟨.info, "received SIGTERM, shutting down"⟩

/-- A watcher for signals. -/
structure SignalWatch where
  /-- Whether the server has been told to stop. -/
  stopping : Bool
  log : List LogLine
  deriving DecidableEq, Repr

namespace SignalWatch

/-- A watcher that has seen nothing. -/
def start : SignalWatch := ⟨false, []⟩

/-- The watcher after a signal; all but the first pass it by. -/
def receive (signal : StopSignal) (w : SignalWatch) : SignalWatch :=
  if w.stopping then w else ⟨true, w.log ++ [signal.announcement]⟩

end SignalWatch

end ForwardProxy
