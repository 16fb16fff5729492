/-!
# Tokens of YAML documents

The parts of a document once its layout is understood: indentation has become the starts and ends of
blocks, and scalars are read.
-/

namespace GraphServe.Setting.Yaml

/-- A part of a document. -/
inductive Token where
  /-- The version of the language. -/
  | version
  /-- What the handle of tags stands for. -/
  | tagHandle (handle expansion : String)
  | documentStart
  | documentEnd
  | blockListStart
  | blockTableStart
  | blockEnd
  | listStart
  | listEnd
  | tableStart
  | tableEnd
  /-- The dash in front of an item of a block. -/
  | item
  /-- The comma behind an item in brackets. -/
  | comma
  | key
  | value
  | alias (name : String)
  | anchor (name : String)
  | tag (handle suffix : String)
  /-- A scalar; `plain` says that it has neither quotes nor a sign in front of it. -/
  | scalar (plain : Bool) (text : String)
deriving DecidableEq, Repr

end GraphServe.Setting.Yaml
