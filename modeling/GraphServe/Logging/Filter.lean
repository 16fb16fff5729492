import GraphServe.Error
import GraphServe.Logging.Order

/-!
# Log filters

A filter is a list of directives, separated by commas. Those about targets and fields are decided
once for each place that logs; those about spans and values of fields depend on what is running, and
those about fields count as both. Each kind is kept with the most specific directive first.
-/

namespace GraphServe

/-- The directives of each kind, the most specific one first. -/
structure LogFilter where
  statics : List StaticDirective
  dynamics : List LogDirective
deriving DecidableEq, Repr

namespace LogFilter

/-- The filter of some directives. -/
def ofDirectives (directives : List LogDirective) : LogFilter :=
  let dynamic := directives.filter LogDirective.isDynamic
  let static := directives.filter (!LogDirective.isDynamic ·)
  ⟨LogOrder.placeAll StaticDirective.order
      (static.filterMap LogDirective.static? ++ dynamic.filterMap LogDirective.static?),
    LogOrder.placeAll LogDirective.order dynamic⟩

/-- The parts of a text between commas that are not empty. -/
def parts (s : String) : List String := (s.splitOn ",").filter (!·.isEmpty)

/-- The filter of a text. -/
def ofText (s : String) : Except FilterFault LogFilter := do
  return ofDirectives (← (parts s).mapM LogDirective.ofText)

/-- The text of a filter. -/
def render (filter : LogFilter) : String :=
  ",".intercalate
    (filter.statics.map StaticDirective.render ++ filter.dynamics.map LogDirective.render)

/-- The filter in force: that of the override if it is well formed, else that of the level. -/
def select (level : String) (override : Option String) : Except EngineError LogFilter :=
  match override.map ofText with
  | some (.ok filter) => .ok filter
  | _ =>
    match ofText level with
    | .ok filter => .ok filter
    | .error fault => .error (.config s!"invalid log level '{level}': {fault.message}")

end LogFilter

end GraphServe
