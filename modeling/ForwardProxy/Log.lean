namespace ForwardProxy

/-!
# The log

What the program tells its operator, line by line.
-/

/-- How much a line of the log matters. -/
inductive LogLevel where
  | debug
  | info
  | warn
  | error
  deriving DecidableEq, Repr

/-- The name of a level. -/
def LogLevel.name : LogLevel → String
  | debug => "DEBUG"
  | info => "INFO"
  | warn => "WARN"
  | error => "ERROR"

/-- A line of the log. -/
structure LogLine where
  level : LogLevel
  message : String
  deriving DecidableEq, Repr

/-- The text of a line. -/
def LogLine.render (l : LogLine) : String := s!"{l.level.name} {l.message}"

end ForwardProxy
