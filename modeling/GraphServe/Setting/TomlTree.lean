import GraphServe.Setting.Basic
import GraphServe.Setting.TomlDate

/-!
# Tables of a TOML document

A TOML document builds its tables step by step. A header opens a table that was not opened before;
the tables on the way to it come into being by themselves. A dotted key makes tables too, and those
can be extended by further dotted keys only. Nothing that is defined can be defined again. A table
that begins with a name of its own for that stands for the date in its text.
-/

namespace GraphServe.Setting

/-- How a table came into being. -/
inductive TomlOrigin where
  /-- By its own header. -/
  | header
  /-- On the way to the header of a table inside it. -/
  | onTheWay
  /-- By a dotted key. -/
  | dotted
deriving DecidableEq, Repr

/-- What a name in a document under construction stands for. -/
inductive TomlNode where
  | value (s : Setting)
  /-- A date or a time, in normal form. -/
  | date (normal : String)
  | table (origin : TomlOrigin) (entries : List (String × TomlNode))
  /-- A list of tables, each opened by a header of its own. -/
  | tables (elements : List (List (String × TomlNode)))

namespace TomlNode

/-- The names of a table under construction. -/
abbrev Entries := List (String × TomlNode)

/-- Puts a node under a name, in place of the old one if there is one. -/
def put (entries : Entries) (name : String) (node : TomlNode) : Entries :=
  upsert entries name fun _ => node

/-- Changes the last table of a list of tables. -/
def changeLast (change : Entries → Option Entries) : List Entries → Option (List Entries)
  | [] => none
  | [last] => (change last).map fun changed => [changed]
  | first :: rest => (changeLast change rest).map (first :: ·)

/-- Changes the table that a header's path leads to. Missing tables on the way are made. -/
def changeAt (change : Entries → Option Entries) : List String → Entries → Option Entries
  | [], entries => change entries
  | name :: path, entries =>
    match entries.lookup name with
    | none => (changeAt change path []).map fun made => put entries name (.table .onTheWay made)
    | some (.value _) => none
    | some (.date _) => none
    | some (.table origin inner) =>
      (changeAt change path inner).map fun changed => put entries name (.table origin changed)
    | some (.tables elements) =>
      (changeLast (changeAt change path) elements).map fun changed =>
        put entries name (.tables changed)

/-! ## Headers -/

/-- Opens the table with a name. -/
def openTable (name : String) (entries : Entries) : Option Entries :=
  match entries.lookup name with
  | none => some (put entries name (.table .header []))
  | some (.table .onTheWay inner) => some (put entries name (.table .header inner))
  | some _ => none

/-- Opens another table in the list of tables with a name. -/
def openElement (name : String) (entries : Entries) : Option Entries :=
  match entries.lookup name with
  | none => some (put entries name (.tables [[]]))
  | some (.tables elements) => some (put entries name (.tables (elements ++ [[]])))
  | some _ => none

/-! ## Keys -/

/-- Defines a name that is not defined yet. -/
def define (name : String) (value : TomlNode) (entries : Entries) : Option Entries :=
  match entries.lookup name with
  | none => some (put entries name value)
  | some _ => none

/-- Defines a name under a dotted key's path. The table it ends in must have come into being by
dotted keys, and none on the way may have been opened by a header. -/
def defineDotted (name : String) (value : TomlNode) : List String → Entries → Option Entries
  | [], entries => define name value entries
  | step :: path, entries =>
    match entries.lookup step with
    | none =>
      (defineDotted name value path []).map fun made => put entries step (.table .dotted made)
    | some (.value _) => none
    | some (.date _) => none
    | some (.table origin inner) =>
      if origin = .header || (origin = .onTheWay && path.isEmpty) then none
      else (defineDotted name value path inner).map fun changed =>
        put entries step (.table origin changed)
    | some (.tables elements) =>
      if path.isEmpty then none
      else (changeLast (defineDotted name value path) elements).map fun changed =>
        put entries step (.tables changed)

/-! ## Settings -/

/-- The first name of a table that stands for a date. -/
def dateName : String := "$__toml_private_datetime"

/-- The date that the first entry of a table gives, if its name says so. -/
def date? : Entries → Option (Option String)
  | (name, node) :: _ =>
    if name = dateName then
      match node with
      | .value (.text s) => some (TomlDate.read? s.toList)
      | _ => some none
    else none
  | [] => none

mutual

/-- The setting that a node stands for, unless a table of it should be a date and is none. -/
def setting? : TomlNode → Option Setting
  | .value s => some s
  | .date d => some (.text d)
  | .table _ entries =>
    match date? entries with
    | some found => found.map .text
    | none => (settings? entries).map .table
  | .tables elements => (elementSettings? elements).map .list

/-- The settings under the names of a table. -/
def settings? : List (String × TomlNode) → Option (List (String × Setting))
  | [] => some []
  | (name, node) :: rest => do
    let s ← setting? node
    return (name, s) :: (← settings? rest)

/-- The settings of a list of tables. -/
def elementSettings? : List (List (String × TomlNode)) → Option (List Setting)
  | [] => some []
  | entries :: rest => do
    let s ← match date? entries with
      | some found => found.map .text
      | none => (settings? entries).map .table
    return s :: (← elementSettings? rest)

end

end TomlNode

end GraphServe.Setting
