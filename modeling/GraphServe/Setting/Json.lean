import GraphServe.Setting.Basic
import GraphServe.Text.JsonReader

/-!
# Settings in JSON

The settings of a JSON document. The last member of a name counts, and an integer beyond the signed
64-bit range becomes a number with rounding.
-/

namespace GraphServe.Setting

open Text (JsonNumber JsonValue)

/-- The setting of a number. -/
def ofJsonNumber? : JsonNumber → Option Setting
  | .natural n =>
    if n ≤ Int64.maxValue.toUInt64 then some (.integer n.toInt64)
    else some (.real (UInt64.ofNat (Numeric.Format.binary64.ofInt n.toNat)))
  | .negative i => some (.integer i)
  | .real bits => some (.real bits)
  | .tooLarge => none

mutual

/-- The setting of a value, unless a number in it is too large, or a string or a name in it is
broken. -/
def ofJson? : JsonValue → Option Setting
  | .null => some .nothing
  | .flag b => some (.flag b)
  | .number n => ofJsonNumber? n
  | .text s => some (.text s)
  | .brokenText => none
  | .list items => (ofJsonItems? items).map .list
  | .table members => (ofJsonMembers? [] members).map .table

/-- The settings of several values. -/
def ofJsonItems? : List JsonValue → Option (List Setting)
  | [] => some []
  | item :: rest => do
    let first ← ofJson? item
    return first :: (← ofJsonItems? rest)

/-- The entries of a table behind those already read. -/
def ofJsonMembers? (entries : List (String × Setting)) :
    List (Option String × JsonValue) → Option (List (String × Setting))
  | [] => some entries
  | (none, _) :: _ => none
  | (some name, value) :: rest => do
    let setting ← ofJson? value
    ofJsonMembers? (upsert entries name fun _ => setting) rest

end

/-- Values may contain each other to this depth. -/
def maxJsonDepth : Nat := 127

/-- The settings of a JSON document. -/
def readJson? (text : String) : Option Setting := (Text.readJson? maxJsonDepth text).bind ofJson?

end GraphServe.Setting
