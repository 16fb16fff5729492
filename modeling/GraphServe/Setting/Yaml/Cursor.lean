import GraphServe.Text.Scan

/-!
# Places in a YAML document

The indentation of a line decides what its contents belong to, so a reader of YAML knows its place.
Taking characters keeps the place in step with them (`advance_index`), and only an end of line begins
a new line.
-/

namespace GraphServe.Setting.Yaml

/-- A place in a document and what follows it. -/
structure Cursor where
  rest : List Char
  /-- How many characters stand in front. -/
  index : Nat
  line : Nat
  column : Nat
  /-- Whether nothing but blanks stands in front on the line. -/
  fresh : Bool
deriving DecidableEq, Repr

/-- The beginning of a document. -/
def Cursor.start (text : List Char) : Cursor := ⟨text, 0, 0, 0, true⟩

/-- A reader that knows its place. -/
abbrev Read := StateT Cursor Option

/-! ## Characters -/

/-- A blank within a line. -/
def isBlank (c : Char) : Bool := c == ' ' || c == '\t'

/-- A character that ends a line. -/
def isBreak (c : Char) : Bool := c == '\n' || c == '\r'

/-- The punctuation of lists and tables in brackets. -/
def isFlow (c : Char) : Bool := c ∈ [',', '[', ']', '\x7b', '\x7d']

/-- Letters, digits, and the two signs of words. -/
def isWordChar (c : Char) : Bool := c.isAlphanum || c == '_' || c == '-'

/-- Whether a line ends in front of a character. -/
def atLineEnd : Option Char → Bool
  | none => true
  | some c => isBreak c

/-- Whether a word ends in front of a character. -/
def atWordEnd : Option Char → Bool
  | none => true
  | some c => isBlank c || isBreak c

/-- Whether three signs that separate documents stand alone in front of the characters. -/
def marksDocument (sign : Char) (text : List Char) : Bool :=
  [sign, sign, sign].isPrefixOf text && atWordEnd text[3]?

/-! ## Moving -/

namespace Read

/-- Refuses the document. -/
def refuse : Read α := fun _ => none

/-- Gives a value if there is one, and refuses the document else. -/
def given (a? : Option α) : Read α := fun cursor => a?.map (·, cursor)

/-- The next character, which stays. -/
def peek? : Read (Option Char) := return (← get).rest.head?

/-- The character behind the next one. -/
def peekSecond? : Read (Option Char) := return (← get).rest[1]?

/-- The place that `count` characters of the line lead to. `fresh` says whether they are blanks. -/
def advanced (cursor : Cursor) (count : Nat) (fresh : Bool) : Cursor :=
  { cursor with
    rest := cursor.rest.drop count
    index := cursor.index + count
    column := cursor.column + count
    fresh := cursor.fresh && (fresh || count == 0) }

theorem advance_index (cursor : Cursor) (count : Nat) (fresh : Bool) :
    (advanced cursor count fresh).index - cursor.index = count := by
  simp [advanced]

/-- Passes over blanks of the line. -/
def skipBlanks (count : Nat) : Read Unit := modify (advanced · count true)

/-- Passes over characters of the line. -/
def skip (count : Nat) : Read Unit := modify (advanced · count false)

/-- Takes the next character, which does not end the line. -/
def next : Read Char := do
  match ← peek? with
  | some c =>
    skip 1
    return c
  | none => refuse

/-- Takes the longest run of characters of a class, none of which ends the line. -/
def takeWhile (p : Char → Bool) : Read (List Char) := do
  let run := (← get).rest.takeWhile p
  skip run.length
  return run

/-- Takes a character if it comes next, and says whether it did. -/
def accept (c : Char) : Read Bool := do
  if (← peek?) = some c then
    skip 1
    return true
  else return false

/-- Passes over the end of a line, if it comes next. -/
def skipBreak : Read Unit := modify fun cursor =>
  let count := match cursor.rest with
    | '\r' :: '\n' :: _ => 2
    | c :: _ => if isBreak c then 1 else 0
    | [] => 0
  if count = 0 then cursor
  else
    { rest := cursor.rest.drop count
      index := cursor.index + count
      line := cursor.line + 1
      column := 0
      fresh := true }

/-- Passes over a comment. -/
def skipComment : Read Unit := do
  let _ ← takeWhile (!isBreak ·)

/-- Passes over blanks and a comment, and gives the blanks. Something must separate a comment from
what stands in front. -/
def passLine : Read (List Char) := do
  let run := (← get).rest.takeWhile isBlank
  skipBlanks run.length
  if (← peek?) = some '#' then
    if run.isEmpty then refuse
    skipComment
  return run

/-- Passes over blanks, comments and at most `bound` ends of lines, and says whether a line ended. A
line that must be indented is not indented by tabs, unless there is nothing on it. -/
def passGaps (blank : Char → Bool) (indent? : Option Int) : (bound : Nat) → Read Bool
  | 0 => return false
  | bound + 1 => do
    let cursor ← get
    match cursor.rest with
    | c :: _ =>
      if c == '\t' && cursor.fresh && indent?.any ((cursor.column : Int) < ·) then
        let _ ← passLine
        if !atLineEnd (← peek?) then refuse
        passGaps blank indent? bound
      else if blank c then
        skipBlanks 1
        passGaps blank indent? bound
      else if isBreak c then
        skipBreak
        let _ ← passGaps blank indent? bound
        return true
      else if c == '#' then
        skipComment
        passGaps blank indent? bound
      else return false
    | [] => return false

end Read

end GraphServe.Setting.Yaml
