import GraphServe.Setting.KeyPath
import GraphServe.Setting.Library

/-!
# Settings in the environment

A source considers the variables whose names, in lower case, start with its own start and what
stands behind it: the separator of paths, unless another one is given for this place. Separators in
the rest of a name are those of a path. The text of a variable is a flag or a number if it reads as
one and the source tries that.
-/

namespace GraphServe

/-- What the names of variables start with that a source considers, in lower case. -/
def EnvironmentSource.opening (source : EnvironmentSource) : String :=
  match source.start with
  | none => ""
  | some start => Text.lower (start ++ (source.startSeparator.or source.separator).getD "_")

namespace Setting

/-- The path that the names in the rest of a variable's name make up. -/
def restPath (source : EnvironmentSource) (rest : List Char) : KeyPath :=
  let names := Text.pieces ((source.separator.getD "").toList) 0 rest
  KeyPath.ofText (".".intercalate (names.map String.ofList))

/-- The path that a variable is about, if the source considers it. -/
def variablePath? (source : EnvironmentSource) (name : String) : Option KeyPath :=
  let chars := (Text.lower name).toList
  if source.opening.toList.isPrefixOf chars then
    some (restPath source (chars.drop source.opening.toList.length))
  else none

/-- The setting that a text reads as: a flag, a number or itself. -/
def ofVariable (value : String) : Setting :=
  match Text.lower value with
  | "true" => .flag true
  | "false" => .flag false
  | _ =>
    -- an integer of more than 64 bits becomes a number with rounding
    match (readInteger? value.toList).bind ofInt? with
    | some setting => setting
    | none => ((Numeric.readReal? value.toList).map .real).getD (.text value)

/-- The settings of the variables that a source considers, with their paths. -/
def ofEnvironment (source : EnvironmentSource) (environment : Environment) :
    List (KeyPath × Setting) :=
  environment.filterMap fun (name, value) =>
    (variablePath? source name).map fun path =>
      (path, if source.tryParsing then ofVariable value else .text value)

end Setting

end GraphServe
