import GraphServe.Setting.Yaml.Document
import GraphServe.Setting.Yaml.Lexer

/-!
# Settings in YAML

The settings of a YAML document. A text may hold one document at most; without one it is an empty
table.
-/

namespace GraphServe.Setting

/-- The settings of a YAML document. -/
def readYaml? (text : String) : Option Setting :=
  match (Yaml.tokens? text).bind Yaml.documentOf? with
  | some (some node) => node.setting?
  | some none => some (.table [])
  | none => none

end GraphServe.Setting
