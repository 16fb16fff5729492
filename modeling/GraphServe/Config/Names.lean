import GraphServe.Config.Basic

/-!
# Names in configurations

The names by which configurations write the choices of their fields. Each list holds every choice
once and no name twice.
-/

namespace GraphServe

/-- The kinds of backends by name. -/
def BackendKind.names : List (String × BackendKind) := [("gpu_engine", .engine), ("mock", .mock)]

/-- The policies for input sizes by name. -/
def SizePolicy.names : List (String × SizePolicy) := [("strict", .strict), ("lenient", .lenient)]

/-- The forms of log lines by name. -/
def LogFormat.names : List (String × LogFormat) :=
  [("compact", .compact), ("pretty", .pretty), ("json", .json)]

/-- The name of a kind of backend. -/
def BackendKind.name : BackendKind → String
  | .engine => "gpu_engine"
  | .mock => "mock"

/-- The name of a policy. -/
def SizePolicy.name : SizePolicy → String
  | .strict => "strict"
  | .lenient => "lenient"

/-- The name of a form of log lines. -/
def LogFormat.name : LogFormat → String
  | .compact => "compact"
  | .pretty => "pretty"
  | .json => "json"

theorem BackendKind.lookup_name (k : BackendKind) : names.lookup k.name = some k := by
  cases k <;> decide

theorem SizePolicy.lookup_name (p : SizePolicy) : names.lookup p.name = some p := by
  cases p <;> decide

theorem LogFormat.lookup_name (f : LogFormat) : names.lookup f.name = some f := by
  cases f <;> decide

end GraphServe
