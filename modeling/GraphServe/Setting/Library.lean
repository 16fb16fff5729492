import GraphServe.Graph

/-!
# Setting libraries

Configurations are gathered from files and from the environment by a library from outside, which
also converts what it gathered. A setting library is what such a library does, as far as reading a
configuration depends on it: how a source is laid over what was gathered before, how a value is
found and converted, and with which texts it refuses. What a configuration makes of that is the same
for all of them.
-/

namespace GraphServe

/-- The variables of a process, each name once. -/
abbrev Environment := List (String × String)

/-- How variables are picked and read: what their names start with, what stands behind the start if
not the separator, what separates the names of a path, and whether texts are tried as flags and as
numbers. -/
structure EnvironmentSource where
  start : Option String
  startSeparator : Option String
  separator : Option String
  tryParsing : Bool
deriving DecidableEq, Repr

/-- The form in which a value gives a record: by the names of its fields, or in their order. -/
inductive RecordForm (Table Value : Type) where
  | named (table : Table)
  | listed (items : List Value)

/-- A library that gathers settings in tables. A conversion gives nothing for a value that it
refuses. -/
structure SettingLibrary where
  Table : Type
  Value : Type
  /-- Nothing was gathered. -/
  empty : Table
  /-- Lays what the file at a path holds over a table. -/
  collectFile : Files → String → Table → Except String Table
  /-- Lays the variables that a source considers over a table. -/
  collectEnvironment : EnvironmentSource → Environment → Table → Except String Table
  entry? : Table → String → Option Value
  record? : Value → Option (RecordForm Table Value)
  /-- The value stands for none. -/
  isNothing : Value → Bool
  text? : Value → Option String
  flag? : Value → Option Bool
  word? : Value → Option UInt64
  int64? : Value → Option Int64
  items? : Value → Option (List Value)
  /-- The one of the given names that a value stands for. -/
  variant? : List String → Value → Option String
  /-- Why a table is no configuration. -/
  complaint : Table → String

namespace SettingLibrary

variable (library : SettingLibrary)

/-- The value of a field: the default if there is no entry. -/
def field? (table : library.Table) (name : String) (default : α)
    (convert : library.Value → Option α) : Option α :=
  match library.entry? table name with
  | none => some default
  | some value => convert value

/-- An item of a list that stands for a record: the default if there are too few items. -/
def item? (items : List library.Value) (index : Nat) (default : α)
    (convert : library.Value → Option α) : Option α :=
  match items[index]? with
  | none => some default
  | some value => convert value

/-- A choice by name. -/
def choice? (choices : List (String × α)) (value : library.Value) : Option α :=
  (library.variant? (choices.map Prod.fst) value).bind fun name => choices.lookup name

/-- A list whose items are converted. -/
def list? (convert : library.Value → Option α) (value : library.Value) : Option (List α) :=
  (library.items? value).bind fun items => items.mapM convert

/-- A value that may stand for none. -/
def nullable? (convert : library.Value → Option α) (value : library.Value) : Option (Option α) :=
  if library.isNothing value then some none else (convert value).map some

end SettingLibrary

end GraphServe
