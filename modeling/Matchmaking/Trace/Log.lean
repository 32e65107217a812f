import Matchmaking.Allocation.Response

/-!
# What a run leaves behind

Log lines, and the calls made to the allocator and the notifier, as data in the order in which they
happen.
-/

namespace Matchmaking

/-- How important a log line is. -/
inductive LogLevel where
  | error
  | warn
  | info
  | debug
  | trace
  deriving DecidableEq, Repr

def LogLevel.name : LogLevel → String
  | .error => "ERROR"
  | .warn => "WARN"
  | .info => "INFO"
  | .debug => "DEBUG"
  | .trace => "TRACE"

/-- How much a level lets through: a line passes a threshold that is not below its weight. -/
def LogLevel.weight : LogLevel → Nat
  | .error => 1
  | .warn => 2
  | .info => 3
  | .debug => 4
  | .trace => 5

/-- The value of a field of a log line. -/
inductive LogValue where
  | text (s : String)
  | number (n : Int)
  | flag (b : Bool)
  deriving DecidableEq

/-- A log line: a message with named values. -/
structure LogLine where
  level : LogLevel
  message : String
  fields : List (String × LogValue)
  deriving DecidableEq

/-- Something that happens in a run and can be seen from outside. -/
inductive TraceEntry where
  | log (line : LogLine)
  /-- The allocator is asked. -/
  | allocate (request : Allocation.Request)
  /-- The notifier is told. -/
  | notify (m : Match)
  deriving DecidableEq

/-- What happens in a run, in order. -/
abbrev Trace := List TraceEntry

def Trace.line (level : LogLevel) (message : String) (fields : List (String × LogValue)) : Trace :=
  [.log ⟨level, message, fields⟩]

end Matchmaking
