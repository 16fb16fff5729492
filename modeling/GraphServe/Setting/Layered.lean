import GraphServe.Setting.Environment
import GraphServe.Setting.Ini
import GraphServe.Setting.Json
import GraphServe.Setting.Json5
import GraphServe.Setting.Ron
import GraphServe.Setting.Toml
import GraphServe.Setting.Yaml

/-!
# Layered settings

The library that keeps what it gathers as one setting. A file is read in the format that its
extension names, and the settings of a source replace those that were there, path by path.
-/

namespace GraphServe

namespace Setting

/-! ## Files -/

/-- What follows the last point of a path's last name, unless the name starts with that point. -/
def extension? (path : String) : Option String :=
  let name := (path.toList.reverse.takeWhile (· != '/')).reverse
  let behind := (name.reverse.takeWhile (· != '.')).reverse
  if behind.length + 1 < name.length then some (String.ofList behind) else none

/-- The format of files with an extension. -/
def formatOf? : String → Option (String → Option Setting)
  | "toml" => some readToml?
  | "json" => some readJson?
  | "yaml" => some readYaml?
  | "yml" => some readYaml?
  | "ini" => some readIni?
  | "json5" => some readJson5?
  | "ron" => some readRon?
  | _ => none

/-- The text of a file without the mark of its byte order. -/
def fileText (text : String) : String :=
  match text.toList with
  | '\uFEFF' :: rest => String.ofList rest
  | _ => text

/-- The settings in a file, with their paths. -/
def readFile (files : Files) (path : String) : Except String (List (KeyPath × Setting)) := do
  let bytes ← (files.content path).mapError fun fault => s!"{path}: {fault.message}"
  match (extension? path).bind formatOf? with
  | none => .error s!"{path}: no known format"
  | some format =>
    let text ← (Text.Utf8.decode bytes).mapError fun fault => s!"{path}: {fault.message}"
    match format (fileText text) with
    | some (.table entries) => return entries.map fun (key, value) => (KeyPath.ofText key, value)
    | some _ => .error s!"{path}: no table"
    | none => .error s!"{path}: not well formed"

/-! ## Records -/

/-- The form in which a setting gives a record. -/
def toRecord? : Setting → Option (RecordForm Setting Setting)
  | .table entries => some (.named (.table entries))
  | .list items => some (.listed items)
  | _ => none

/-- Whether the setting stands for none. -/
def isNothing : Setting → Bool
  | .nothing => true
  | _ => false

/-- The items of a list. -/
def toItems? : Setting → Option (List Setting)
  | .list items => some items
  | _ => none

end Setting

/-- The library of layered settings. -/
def SettingLibrary.layered : SettingLibrary where
  Table := Setting
  Value := Setting
  empty := .table []
  collectFile files path table := do return table.overlay (← Setting.readFile files path)
  collectEnvironment source environment table :=
    .ok (table.overlay (Setting.ofEnvironment source environment))
  entry? table name := table.entries.lookup name
  record? := Setting.toRecord?
  isNothing := Setting.isNothing
  text? := Setting.toText?
  flag? := Setting.toFlag?
  word? := Setting.toWord?
  int64? := Setting.toInt64?
  items? := Setting.toItems?
  variant? := Setting.toVariant?
  complaint _ := "a value of the wrong type"

end GraphServe
