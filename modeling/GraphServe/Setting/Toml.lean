import GraphServe.Setting.TomlDate
import GraphServe.Setting.TomlNumber
import GraphServe.Setting.TomlTree

/-!
# Settings in TOML

A TOML document is a sequence of lines: headers, which open tables, and keys with values. Values
may be nested `maxTomlDepth` deep, keys have at most `maxKeyParts` parts, and dates count as texts.
-/

namespace GraphServe.Setting

namespace Toml

open Text (Scan)

/-- Values may contain each other to this depth. -/
def maxTomlDepth : Nat := 79

/-- Keys have at most this many parts. -/
def maxKeyParts : Nat := 79

/-- A blank within a line. -/
def isBlank (c : Char) : Bool := c == ' ' || c == '\t'

/-- Characters that may stand in comments and strings. -/
def isPlain (c : Char) : Bool := c == '\t' || (0x20 ≤ c.toNat && c.toNat != 0x7F)

/-- Characters of keys without quotes. -/
def isBare (c : Char) : Bool := c.isAlphanum || c == '_' || c == '-'

/-- Passes over blanks. -/
def blank : Scan Unit := Scan.skip isBlank

/-- Passes over a comment, if there is one. -/
def comment : Scan Unit := do
  if ← Scan.accept '#' then Scan.skip isPlain

/-- Takes the end of a line, if it comes next, and says whether it did. -/
def newline : Scan Bool := do
  if ← Scan.accept '\n' then return true else Scan.acceptWord ['\r', '\n']

/-- Passes over blanks, comments and at most `bound` ends of lines. -/
def passLines : (bound : Nat) → Scan Unit
  | 0 => blank
  | bound + 1 => do
    blank
    comment
    if ← newline then passLines bound

/-- Passes over blanks, comments and ends of lines. -/
def blankLines : Scan Unit := do passLines (← Scan.rest).length

/-! ## Strings -/

/-- A character given by `count` hexadecimal digits. -/
def numbered (count : Nat) : Scan Char := do
  let digits ← (List.replicate count ()).mapM fun _ => Scan.one Text.isHexDigit
  let n := Text.numberOf 16 digits
  if n < 0xD800 || (0xE000 ≤ n && n < 0x110000) then return Char.ofNat n else Scan.refuse

/-- The character behind a backslash. -/
def escaped : Scan Char := do
  match ← Scan.next with
  | '"' => return '"'
  | '\\' => return '\\'
  | 'b' => return '\x08'
  | 'f' => return '\x0c'
  | 'n' => return '\n'
  | 'r' => return '\r'
  | 't' => return '\t'
  | 'u' => numbered 4
  | 'U' => numbered 8
  | _ => Scan.refuse

/-- The characters of a basic string up to the closing quote. -/
def basicTail : (bound : Nat) → Scan (List Char)
  | 0 => Scan.refuse
  | bound + 1 => do
    if ← Scan.accept '"' then return []
    let c ← if ← Scan.accept '\\' then escaped else Scan.one isPlain
    return c :: (← basicTail bound)

/-- A literal string behind the opening quote. -/
def literalTail : Scan (List Char) := do
  let text ← Scan.takeWhile fun c => isPlain c && c != '\''
  Scan.exact '\''
  return text

/-- A run of quotes in a string of several lines: three to five end it, and those beyond three
belong to the text. Says which quotes belong to the text, and whether the string goes on. -/
def quoteRun (quote : Char) : Scan (List Char × Bool) := do
  let run ← Scan.takeSome (· == quote)
  if run.length < 3 then return (run, true)
  else if run.length ≤ 5 then return (run.drop 3, false)
  else Scan.refuse

/-- One part of a string of several lines that is no run of quotes. In a basic string a backslash at
the end of a line passes over everything up to the next visible character. -/
def linePart (quote : Char) : Scan (List Char) := do
  if ← newline then return ['\n']
  if quote == '"' then
    if ← Scan.accept '\\' then
      -- blanks are allowed between the backslash and the end of its line
      let text ← Scan.rest
      if (text.dropWhile isBlank).head? ∈ [some '\n', some '\r'] then
        blank
        if ← newline then
          Scan.skip fun c => isBlank c || c == '\n' || c == '\r'
          return []
        else Scan.refuse
      else return [← escaped]
  return [← Scan.one isPlain]

/-- The characters of a string of several lines up to the closing quotes. -/
def linesTail (quote : Char) : (bound : Nat) → Scan (List Char)
  | 0 => Scan.refuse
  | bound + 1 => do
    if (← Scan.peek?) = some quote then
      let (quotes, goesOn) ← quoteRun quote
      if goesOn then return quotes ++ (← linesTail quote bound) else return quotes
    else
      let part ← linePart quote
      return part ++ (← linesTail quote bound)

/-- A string of several lines behind the opening quotes. An end of line right behind them is passed
over. -/
def lines (quote : Char) : Scan String := do
  let _ ← newline
  return String.ofList (← linesTail quote ((← Scan.rest).length + 1))

/-- A string within a line behind the opening quote. -/
def line (quote : Char) : Scan String := do
  if quote == '"' then return String.ofList (← basicTail ((← Scan.rest).length + 1))
  else return String.ofList (← literalTail)

/-- A string in the given quotes. -/
def string (quote : Char) : Scan String := do
  if ← Scan.acceptWord [quote, quote, quote] then lines quote
  else
    Scan.exact quote
    line quote

/-! ## Keys and values -/

/-- One part of a key. -/
def keyPart : Scan String := do
  match ← Scan.acceptAny ['"', '\''] with
  | some quote => line quote
  | none => return String.ofList (← Scan.takeSome isBare)

/-- The parts of a key behind the first. -/
def keyParts : (bound : Nat) → Scan (List String)
  | 0 => Scan.refuse
  | bound + 1 => do
    blank
    if ← Scan.accept '.' then
      blank
      let part ← keyPart
      return part :: (← keyParts bound)
    else return []

/-- A key: its path and its last part. Blanks behind it are passed over. -/
def key : Scan (List String × String) := do
  let first ← keyPart
  let parts := first :: (← keyParts ((← Scan.rest).length + 1))
  if maxKeyParts < parts.length then Scan.refuse
  else return (parts.dropLast, parts.getLastD first)

/-- Characters of numbers, flags and dates. -/
def isWordChar (c : Char) : Bool :=
  c.isAlphanum || c == '_' || c == '+' || c == '-' || c == '.' || c == ':'

/-- The value of a word without quotes. -/
def wordNode? (word : List Char) : Option TomlNode :=
  if word = "true".toList then some (.value (.flag true))
  else if word = "false".toList then some (.value (.flag false))
  else ((TomlNumber.read? word).map .value).or ((TomlDate.read? word).map .date)

/-- Whether a word is a date and the characters behind it are a blank and a digit. -/
def continuesDate (word rest : List Char) : Bool :=
  match rest with
  | ' ' :: c :: _ => Text.isDigit c && (TomlDate.date.all word).isSome
  | _ => false

/-- A number, a flag or a date. A date and the time behind it may be separated by a blank. -/
def word : Scan TomlNode := do
  let first ← Scan.takeSome isWordChar
  let whole ←
    if continuesDate first (← Scan.rest) then do
      Scan.exact ' '
      pure (first ++ ' ' :: (← Scan.takeWhile isWordChar))
    else pure first
  Scan.given (wordNode? whole)

/-- A value that contains no other. -/
def scalar : Scan TomlNode := do
  match ← Scan.peek? with
  | some '"' => return .value (.text (← string '"'))
  | some '\'' => return .value (.text (← string '\''))
  | _ => word

/-- A key with its value. -/
def pair (value : Scan TomlNode) : Scan ((List String × String) × TomlNode) := do
  let k ← key
  Scan.exact '='
  blank
  return (k, ← value)

/-- The list of the given items. -/
def listOf? (items : List TomlNode) : Option TomlNode :=
  (items.mapM TomlNode.setting?).map fun items => .value (.list items)

/-- The table that pairs define. -/
def tableOf? (pairs : List ((List String × String) × TomlNode)) : Option TomlNode := do
  let entries ← pairs.foldlM
    (fun entries ((path, name), value) => TomlNode.defineDotted name value path entries) []
  match TomlNode.date? entries with
  | some found => found.map .date
  | none => (TomlNode.settings? entries).map fun entries => .value (.table entries)

/-- What a scan takes and a check accepts. -/
def checked (check : α → Option β) (scan : Scan α) : Scan β := do Scan.given (check (← scan))

/-- A value that contains others to the given depth. -/
def value : (depth : Nat) → Scan TomlNode
  | 0 => scalar
  | depth + 1 => do
    if ← Scan.accept '[' then
      checked listOf? (Scan.listed ']' blankLines (value depth))
    else if ← Scan.accept '\x7b' then
      checked tableOf? (Scan.bracketed '\x7d' blank (pair (value depth)))
    else scalar

/-! ## Documents -/

/-- A document under construction: its tables, and the path of the table that is open. -/
structure Draft where
  entries : TomlNode.Entries
  path : List String

/-- The draft after a header. -/
def openHeader (draft : Draft) (path : List String) (name : String) (element : Bool) :
    Option Draft :=
  let opening := if element then TomlNode.openElement name else TomlNode.openTable name
  (TomlNode.changeAt opening path draft.entries).map fun entries => ⟨entries, path ++ [name]⟩

/-- The draft after a key with a value. -/
def addPair (draft : Draft) (path : List String) (name : String) (value : TomlNode) :
    Option Draft :=
  (TomlNode.changeAt (TomlNode.defineDotted name value path) draft.path draft.entries).map
    fun entries => { draft with entries }

/-- A header behind its opening bracket. -/
def header (draft : Draft) : Scan (Option Draft) := do
  let element ← Scan.accept '['
  blank
  let (path, name) ← key
  Scan.word (if element then [']', ']'] else [']'])
  return openHeader draft path name element

/-- One line without its end. -/
def statement (draft : Draft) : Scan Draft := do
  blank
  let next ← match ← Scan.peek? with
    | none | some '#' | some '\n' | some '\r' => pure (some draft)
    | some '[' => do
      Scan.exact '['
      header draft
    | some _ => do
      let ((path, name), v) ← pair (value maxTomlDepth)
      pure (addPair draft path name v)
  blank
  comment
  Scan.given next

/-- The lines of a document, at most `bound` of them. -/
def statements (draft : Draft) : (bound : Nat) → Scan Draft
  | 0 => Scan.refuse
  | bound + 1 => do
    let draft ← statement draft
    if ← newline then statements draft bound else return draft

/-- A document, with or without a byte order mark. -/
def document : Scan Draft := do
  let _ ← Scan.accept '\uFEFF'
  statements ⟨[], []⟩ ((← Scan.rest).length + 1)

end Toml

/-- The settings of a TOML document. -/
def readToml? (text : String) : Option Setting :=
  (Toml.document.all text.toList).bind fun draft =>
    (TomlNode.table .header draft.entries).setting?

end GraphServe.Setting
