/-!
# Events

What a program reports about its work, in the order in which it happens.
-/

namespace Switchboard

/-- How grave an event is. -/
inductive LogLevel where
  | error
  | warn
  | info
  | debug
  deriving DecidableEq, Repr

/-- How the level is called. -/
def LogLevel.name : LogLevel → String
  | .error => "ERROR"
  | .warn => "WARN"
  | .info => "INFO"
  | .debug => "DEBUG"

/-- An event. -/
structure LogEntry where
  level : LogLevel
  message : String
  deriving DecidableEq, Repr

/-- The event as a line. -/
def LogEntry.line (e : LogEntry) : String := e.level.name ++ " " ++ e.message

end Switchboard
