import GraphServe.Setting.Basic

/-!
# Key paths

A source addresses its values by paths: a name, followed by `.name` for an entry of a table or
`[index]` for an item of a list. Placing a value creates the tables and lists on the way and
replaces whatever else stood there. A table is merged into the table it meets, entry by entry; any
other value replaces the old one. Tables hold the names that lead to a value in lower case, so that
a name may be written in any case.
-/

namespace GraphServe

/-- One step of a path. -/
inductive KeyStep where
  | entry (name : String)
  /-- An item of a list; a negative index counts from the end. -/
  | item (index : Int)
deriving DecidableEq, Repr

/-- Where a value belongs. -/
structure KeyPath where
  first : KeyStep
  rest : List KeyStep
deriving DecidableEq, Repr

/-! ## Paths as text -/

namespace KeyPath

open Text (Scan)

/-- The characters of names in paths. -/
def isNameChar (c : Char) : Bool := c.isAlphanum || c == '_' || c == '-' || c == ' '

/-- An index in brackets, within the signed 64-bit range. -/
def index : Scan Int := do
  let blank := Scan.skip fun c => c == ' ' || c == '\t'
  blank
  let negative ← Scan.accept '-'
  let n : Int := Text.numberOf 10 (← Scan.takeSome Text.isDigit)
  blank
  let i := if negative then -n else n
  Scan.given (Setting.within Int64.minValue.toInt Int64.maxValue.toInt i)

/-- A name. -/
def name : Scan String := return String.ofList (← Scan.takeSome isNameChar)

/-- A step after the first. -/
def step : Scan KeyStep := do
  if ← Scan.accept '.' then return .entry (← name)
  else
    Scan.exact '['
    let i ← index
    Scan.exact ']'
    return .item i

/-- The steps up to the end of the text, at most `bound` of them. -/
def steps : (bound : Nat) → Scan (List KeyStep)
  | 0 => Scan.refuse
  | bound + 1 => do
    if (← Scan.peek?).isNone then return []
    let first ← step
    return first :: (← steps bound)

/-- A path in text form. -/
def path : Scan KeyPath := do
  let first ← name
  return ⟨.entry first, ← steps ((← Scan.rest).length + 1)⟩

/-- The path that a text writes. A text in no such form is a name as a whole. -/
def ofText (text : String) : KeyPath :=
  (path.all text.toList).getD ⟨.entry text, []⟩

end KeyPath

/-! ## Merging and placing -/

namespace Setting

/-- Changes the entry with a name in any case, or adds it. -/
def upsertNamed (entries : List (String × Setting)) (name : String)
    (change : Option Setting → Setting) : List (String × Setting) :=
  upsert entries (Text.lower name) change

mutual

/-- Merges a value into a setting. -/
def merge (target : Setting) : Setting → Setting
  | .table entries => mergeEntries target entries
  | .nothing => .nothing
  | .flag b => .flag b
  | .integer i => .integer i
  | .real bits => .real bits
  | .text s => .text s
  | .list items => .list items

/-- Merges entries into a setting, which becomes a table if there are any. -/
def mergeEntries (target : Setting) : List (String × Setting) → Setting
  | [] => target
  | (name, value) :: rest =>
    mergeEntries
      (.table (upsertNamed target.entries name fun old => merge (old.getD (.table [])) value))
      rest

end

/-- The position of an index in a list of the given length. -/
def position (length : Nat) (index : Int) : Nat :=
  if 0 ≤ index then index.toNat else length - (-index).toNat

/-- Changes the item at an index of a list, which grows as far as needed. -/
def upsertItem (items : List Setting) (index : Int) (change : Setting → Setting) : List Setting :=
  let i := position items.length index
  let grown := items ++ List.replicate (i + 1 - items.length) .nothing
  grown.modify i change

/-- Places a value under a setting. -/
def placeAt (value : Setting) : KeyStep → List KeyStep → Setting → Setting
  | .entry name, [], s =>
    .table (upsertNamed s.entries name fun old => merge (old.getD (.table [])) value)
  | .entry name, next :: rest, s =>
    .table (upsertNamed s.entries name fun old => placeAt value next rest (old.getD .nothing))
  | .item index, [], s => .list (upsertItem s.items index fun _ => value)
  | .item index, next :: rest, s =>
    .list (upsertItem s.items index fun old => placeAt value next rest old)

/-- Places a value at a path. -/
def place (root : Setting) (path : KeyPath) (value : Setting) : Setting :=
  placeAt value path.first path.rest root

/-- Places the values of a source, in order, over those of earlier sources. -/
def overlay (root : Setting) (source : List (KeyPath × Setting)) : Setting :=
  source.foldl (fun root (path, value) => root.place path value) root

end Setting

end GraphServe
