import GraphServe.Text.Scan

/-!
# Log levels

A level says how severe a message must be to be let through. Levels have names, in any case, and
numbers; the name of a level reads back as that level (`ofText?_name`).
-/

namespace GraphServe

/-- The least severe messages that are let through. -/
inductive LogLevel where
  | off
  | error
  | warn
  | info
  | debug
  | trace
deriving DecidableEq, Repr

namespace LogLevel

/-- The name of a level. -/
def name : LogLevel → String
  | .off => "off"
  | .error => "error"
  | .warn => "warn"
  | .info => "info"
  | .debug => "debug"
  | .trace => "trace"

/-- The levels in the order of their numbers. -/
def all : List LogLevel := [.off, .error, .warn, .info, .debug, .trace]

/-- The level that a text names or numbers. A number may have a plus sign. -/
def ofText? (s : String) : Option LogLevel :=
  let digits := match s.toList with
    | '+' :: digits => digits
    | digits => digits
  if !digits.isEmpty && digits.all Text.isDigit then all[Text.numberOf 10 digits]?
  else all.find? (·.name == Text.lower s)

theorem ofText?_name (l : LogLevel) : ofText? l.name = some l := by
  cases l <;> decide +kernel

end LogLevel

end GraphServe
