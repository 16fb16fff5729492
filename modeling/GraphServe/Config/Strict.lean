import GraphServe.Config.Names
import GraphServe.Text.JsonReader

/-!
# Configurations in JSON

The strict reading of a configuration: nothing is converted between types, names are taken as they
are, and a field may be given once. A record may also be given as the list of its fields in order,
where missing ones at the end have their defaults. Fields that are not known are ignored, however
deep they are.
-/

namespace GraphServe

open Text (JsonValue)

namespace StrictJson

/-- A text. -/
def text? : JsonValue → Option String
  | .text s => some s
  | _ => none

/-- A flag. -/
def flag? : JsonValue → Option Bool
  | .flag b => some b
  | _ => none

/-- An unsigned 64-bit number. -/
def word? : JsonValue → Option UInt64
  | .number (.natural n) => some n
  | _ => none

/-- A signed 64-bit number. -/
def int64? : JsonValue → Option Int64
  | .number (.natural n) => if n ≤ Int64.maxValue.toUInt64 then some n.toInt64 else none
  | .number (.negative i) => some i
  | _ => none

/-- A list whose items are read. -/
def list? (item : JsonValue → Option α) : JsonValue → Option (List α)
  | .list items => items.mapM item
  | _ => none

/-- A value that may be null. -/
def nullable? (value : JsonValue → Option α) : JsonValue → Option (Option α)
  | .null => some none
  | v => (value v).map some

/-- A choice by name, also as a table whose only member has that name and holds null. -/
def choice? (choices : List (String × α)) : JsonValue → Option α
  | .text name => choices.lookup name
  | .table [(some name, .null)] => choices.lookup name
  | _ => none

/-! ## Records -/

/-- One field of a record: its name, and what reading its value does to the record. -/
structure RecordField (Record : Type) where
  name : String
  set : Record → JsonValue → Option Record

/-- Reads members in any order, each with a name. The names of fields that were given are in
`given`. -/
def readMembers? (fields : List (RecordField Record)) (given : List String) (r : Record) :
    List (Option String × JsonValue) → Option Record
  | [] => some r
  | (none, _) :: _ => none
  | (some name, value) :: rest =>
    match fields.find? (·.name == name) with
    | none => readMembers? fields given r rest
    | some field =>
      if name ∈ given then none
      else (field.set r value).bind fun r => readMembers? fields (name :: given) r rest

/-- Reads fields in order, not more than there are. -/
def readItems? (r : Record) : List (RecordField Record) → List JsonValue → Option Record
  | _, [] => some r
  | [], _ :: _ => none
  | field :: fields, value :: rest =>
    (field.set r value).bind fun r => readItems? r fields rest

/-- Reads a record over its default. -/
def record? (fields : List (RecordField Record)) (default : Record) : JsonValue → Option Record
  | .table members => readMembers? fields [] default members
  | .list items => readItems? default fields items
  | _ => none

end StrictJson

open StrictJson

namespace LoggingConfig

/-- The fields in their order. -/
def fields : List (RecordField LoggingConfig) :=
  [⟨"level", fun c v => (text? v).map fun level => { c with level }⟩,
    ⟨"format", fun c v => (choice? LogFormat.names v).map fun format => { c with format }⟩]

end LoggingConfig

namespace BackendConfig

/-- The fields in their order. -/
def fields : List (RecordField BackendConfig) :=
  [⟨"model_path", fun c v => (text? v).map fun modelPath => { c with modelPath }⟩,
    ⟨"kind", fun c v => (choice? BackendKind.names v).map fun kind => { c with kind }⟩,
    ⟨"use_gpu", fun c v => (flag? v).map fun useGpu => { c with useGpu }⟩,
    ⟨"batch_size", fun c v => (word? v).map fun batchSize => { c with batchSize }⟩,
    ⟨"input_sizes", fun c v => (list? (list? int64?) v).map fun inputSizes =>
      { c with inputSizes }⟩,
    ⟨"input_size_policy", fun c v => (choice? SizePolicy.names v).map fun policy =>
      { c with policy }⟩,
    ⟨"device_memory_limit", fun c v => (nullable? word? v).map fun memoryLimit =>
      { c with memoryLimit }⟩,
    ⟨"pool_size", fun c v => (word? v).map fun poolSize => { c with poolSize }⟩,
    ⟨"logging", fun c v => (record? LoggingConfig.fields LoggingConfig.default v).map fun logging =>
      { c with logging }⟩]

/-- The configuration in a JSON document. It need not be valid. -/
def ofJson? (text : String) : Option BackendConfig :=
  (Text.readJson? text.length text).bind (record? fields default)

end BackendConfig

end GraphServe
