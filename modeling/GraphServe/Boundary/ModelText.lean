import GraphServe.Backend.ModelInfo
import GraphServe.Text.JsonString

/-!
# Model descriptions as text

The description of a model as a JSON document without blanks, the members of each record in a fixed
order.
-/

namespace GraphServe

/-- A list in JSON. -/
def jsonList (items : List String) : String := "[" ++ ",".intercalate items ++ "]"

/-- A record in JSON, from the names and the documents of its members. -/
def jsonRecord (members : List (String × String)) : String :=
  "\x7b" ++ ",".intercalate (members.map fun (name, value) => Text.jsonString name ++ ":" ++ value)
    ++ "\x7d"

/-- One input or output in JSON. -/
def LayerInfo.toJson (l : LayerInfo) : String :=
  jsonRecord [("name", Text.jsonString l.name), ("shape", jsonList (l.shape.map toString)),
    ("batch_size", toString l.batchSize), ("dtype", Text.jsonString l.dtype.name)]

/-- The description of a model in JSON. -/
def ModelInfo.toJson (m : ModelInfo) : String :=
  jsonRecord [("inputs", jsonList (m.inputs.map LayerInfo.toJson)),
    ("outputs", jsonList (m.outputs.map LayerInfo.toJson))]

end GraphServe
