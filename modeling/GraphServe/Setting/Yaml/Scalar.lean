import GraphServe.Setting.Yaml.Cursor

/-!
# Scalars of YAML documents

A scalar may go on over several lines. Without a sign of its own, or in quotes, an end of line counts
as a blank, and every further one stands for itself. In a block the lines are kept, or folded into
paragraphs. `fold_one` and `fold_more` state what ends of lines become.
-/

namespace GraphServe.Setting.Yaml

open Read

/-- What ends of lines within a scalar become. -/
def fold : (breaks : Nat) → List Char
  | 0 => []
  | 1 => [' ']
  | breaks + 2 => List.replicate (breaks + 1) '\n'

theorem fold_one : fold 1 = [' '] := rfl

theorem fold_more (breaks : Nat) : (fold (breaks + 2)).length = breaks + 1 := by simp [fold]

/-! ## Without quotes -/

/-- Whether the next character can be part of a scalar without quotes. `inside` says whether that
stands in brackets. -/
def continuesPlain (inside : Bool) (text : List Char) : Bool :=
  match text with
  | [] => false
  | ':' :: rest => !(atWordEnd rest.head? || (inside && rest.head?.any isFlow))
  | c :: _ => !(isBlank c || isBreak c || (inside && isFlow c))

/-- The characters up to the next blank, or to what ends a scalar without quotes. -/
def plainRun (inside : Bool) : List Char → List Char
  | [] => []
  | c :: rest => if continuesPlain inside (c :: rest) then c :: plainRun inside rest else []

/-- The blanks and ends of lines behind a part of a scalar without quotes, as they count if another
part follows. -/
def plainGap (indent : Int) (blanks : List Char) (breaks : Nat) :
    (bound : Nat) → Read (List Char)
  | 0 => refuse
  | bound + 1 => do
    let cursor ← get
    match cursor.rest with
    | c :: _ =>
      if isBreak c then
        skipBreak
        plainGap indent [] (breaks + 1) bound
      else if isBlank c then
        if !cursor.fresh then
          skipBlanks 1
          plainGap indent (c :: blanks) breaks bound
        else if c == '\t' && (cursor.column : Int) < indent then
          let _ ← passLine
          if !atLineEnd (← peek?) then refuse
          plainGap indent blanks breaks bound
        else
          skipBlanks 1
          plainGap indent blanks breaks bound
      else return if breaks = 0 then blanks.reverse else fold breaks
    | [] => return if breaks = 0 then blanks.reverse else fold breaks

/-- The parts of a scalar without quotes. `gap` stands in front of the next one. -/
def plainParts (inside : Bool) (indent : Int) (gap : List Char) :
    (bound : Nat) → Read (List Char)
  | 0 => refuse
  | bound + 1 => do
    let cursor ← get
    let text := cursor.rest
    if cursor.column = 0 && (marksDocument '-' text || marksDocument '.' text) then return []
    if text.head? = some '#' then return []
    if inside && text.head? = some '-' && text[1]?.any isFlow then refuse
    let run := plainRun inside text
    skip run.length
    let part := if run.isEmpty then [] else gap ++ run
    match ← peek? with
    | some c =>
      if !(isBlank c || isBreak c) then return part
      let gap ← plainGap indent [] 0 (text.length + 1)
      if !inside && ((← get).column : Int) < indent then return part
      return part ++ (← plainParts inside indent gap bound)
    | none => return part

/-- A scalar without quotes, whose lines behind the first are indented like `indent`. -/
def plain (inside : Bool) (indent : Int) : Read String := do
  let cursor ← get
  if inside && (cursor.column : Int) < indent then refuse
  return String.ofList (← plainParts inside indent [] (cursor.rest.length + 1))

/-! ## In quotes -/

/-- A character given by `count` hexadecimal digits. -/
def numbered (count : Nat) : Read Char := do
  let digits := (← get).rest.take count
  let n := Text.numberOf 16 digits
  if digits.length = count && digits.all Text.isHexDigit
      && (n < 0xD800 || (0xE000 ≤ n && n < 0x110000)) then
    skip count
    return Char.ofNat n
  else refuse

/-- The character behind a backslash. -/
def escaped : Read Char := do
  match ← next with
  | '0' => return '\x00'
  | 'a' => return '\x07'
  | 'b' => return '\x08'
  | 't' => return '\t'
  | '\t' => return '\t'
  | 'n' => return '\n'
  | 'v' => return '\x0b'
  | 'f' => return '\x0c'
  | 'r' => return '\r'
  | 'e' => return '\x1b'
  | ' ' => return ' '
  | '"' => return '"'
  | '/' => return '/'
  | '\\' => return '\\'
  | 'N' => return '\u0085'
  | '_' => return '\u00A0'
  | 'L' => return '\u2028'
  | 'P' => return '\u2029'
  | 'x' => numbered 2
  | 'u' => numbered 4
  | 'U' => numbered 8
  | _ => refuse

/-- The characters up to the next blank or the closing quote, and whether an end of line behind a
backslash follows them, which is passed over. -/
def quotedRun (quote : Char) : (bound : Nat) → Read (List Char × Bool)
  | 0 => refuse
  | bound + 1 => do
    match (← get).rest with
    | [] => return ([], false)
    | c :: rest =>
      if isBlank c || isBreak c then return ([], false)
      else if c == '\'' && quote == '\'' && rest.head? = some '\'' then
        skip 2
        let (run, broken) ← quotedRun quote bound
        return ('\'' :: run, broken)
      else if c == quote then return ([], false)
      else
        skip 1
        if c == '\\' && quote == '"' then
          if rest.head?.any isBreak then
            skipBreak
            return ([], true)
          else
            let e ← escaped
            let (run, broken) ← quotedRun quote bound
            return (e :: run, broken)
        else
          let (run, broken) ← quotedRun quote bound
          return (c :: run, broken)

/-- What blanks and ends of lines within quotes become. `broken` says whether a line has ended in front
of them already, without counting. -/
def quotedFold (broken : Bool) (blanks : List Char) (breaks : Nat) : List Char :=
  if broken then List.replicate breaks '\n'
  else if breaks = 0 then blanks.reverse
  else fold breaks

/-- The blanks and ends of lines within quotes, as they count. -/
def quotedGap (indent : Int) (broken : Bool) (blanks : List Char) (breaks : Nat) :
    (bound : Nat) → Read (List Char)
  | 0 => refuse
  | bound + 1 => do
    let cursor ← get
    match cursor.rest with
    | c :: _ =>
      if isBreak c then
        skipBreak
        quotedGap indent broken [] (breaks + 1) bound
      else if isBlank c then
        let indents := broken || breaks != 0
        if indents && c == '\t' && (cursor.column : Int) < indent then refuse
        skipBlanks 1
        quotedGap indent broken (if indents then blanks else c :: blanks) breaks bound
      else return quotedFold broken blanks breaks
    | [] => return quotedFold broken blanks breaks

/-- The parts of a text in quotes up to the closing one, which stays. -/
def quotedParts (quote : Char) (indent : Int) : (bound : Nat) → Read (List Char)
  | 0 => refuse
  | bound + 1 => do
    let cursor ← get
    let text := cursor.rest
    if cursor.column = 0 && (marksDocument '-' text || marksDocument '.' text) then refuse
    if text.isEmpty || (cursor.column : Int) < indent then refuse
    let (run, broken) ← quotedRun quote (text.length + 1)
    if (← peek?) = some quote then return run
    let gap ← quotedGap indent broken [] 0 (text.length + 1)
    return run ++ gap ++ (← quotedParts quote indent bound)

/-- A text in quotes, whose lines behind the first are indented. What may follow it depends on whether
it stands in brackets, and on whether it is on one line. -/
def quoted (inside : Bool) (indent : Int) : Read String := do
  let first ← get
  let quote ← next
  let text ← quotedParts quote indent (first.rest.length + 1)
  skip 1
  let _ ← passLine
  let next ← peek?
  let closes := inside && (next = some ',' || next = some '\x7d' || next = some ']')
  let isKey := next = some ':' && (inside || (← get).line = first.line)
  if atLineEnd next || closes || isKey then return String.ofList text else refuse

/-! ## Blocks -/

/-- What becomes of the ends of lines behind a block. -/
inductive Chomping where
  /-- None is kept. -/
  | strip
  /-- The first is kept. -/
  | clip
  /-- All are kept. -/
  | keep
deriving DecidableEq, Repr

/-- Passes over the indentation of at most `bound` lines up to one with contents, and counts those
without. Blanks beyond the width are contents. -/
def passIndents (width : Nat) : (bound : Nat) → Read Nat
  | 0 => return 0
  | bound + 1 => do
    let cursor ← get
    skipBlanks ((cursor.rest.take (width - cursor.column)).takeWhile (· == ' ')).length
    if (← peek?).any isBreak then
      skipBreak
      return (← passIndents width bound) + 1
    else return 0

/-- Passes over lines of blanks and the indentation of the first with contents, counts those lines,
and gives the deepest indentation. -/
def findIndent (deepest : Nat) : (bound : Nat) → Read (Nat × Nat)
  | 0 => return (0, deepest)
  | bound + 1 => do
    skipBlanks ((← get).rest.takeWhile (· == ' ')).length
    let deepest := max deepest (← get).column
    if (← peek?).any isBreak then
      skipBreak
      let (breaks, deepest) ← findIndent deepest bound
      return (breaks + 1, deepest)
    else return (0, deepest)

/-- The sign of what becomes of the ends of lines, if there is one. -/
def chompingSign : Read (Option Chomping) := do
  if ← accept '+' then return some .keep
  else if ← accept '-' then return some .strip
  else return none

/-- The digit of the indentation, if there is one. It is not zero. -/
def indentDigit : Read (Option Nat) := do
  match ← peek? with
  | some c =>
    if !Text.isDigit c then return none
    else if c == '0' then refuse
    else
      skip 1
      return some (Text.digitValue c)
  | none => return none

/-- The signs behind the one that begins a block, in either order. -/
def blockHead : Read (Chomping × Option Nat) := do
  match ← chompingSign with
  | some chomping => return (chomping, ← indentDigit)
  | none =>
    match ← indentDigit with
    | some digit => return ((← chompingSign).getD .clip, some digit)
    | none => return (.clip, none)

/-- Ends of lines. -/
def lineEnds (count : Nat) : List Char := List.replicate count '\n'

/-- What becomes of the ends of lines behind a block: of those behind its last line, and of one that
is missing at the end of the document. -/
def chomped (chomping : Chomping) (first : Bool) (breaks : Nat) (missing : Bool) : List Char :=
  match chomping with
  | .strip => []
  | .clip => lineEnds ((if first then 0 else 1) + missing.toNat)
  | .keep => lineEnds (breaks + missing.toNat)

/-- The lines of a block up to one that is less indented. `breaks` counts the ends of lines in front
of the next one, `first` says whether it is the first, and `deeper` whether the one before it begins
with a blank. -/
def blockLines (literal : Bool) (chomping : Chomping) (width : Nat) (first deeper : Bool)
    (breaks : Nat) : (bound : Nat) → Read (List Char)
  | 0 => refuse
  | bound + 1 => do
    let cursor ← get
    if cursor.column = width && !cursor.rest.isEmpty then
      let blank := cursor.rest.head?.any isBlank
      let joint := if first || literal || deeper || blank then lineEnds breaks else fold breaks
      let line ← takeWhile (!isBreak ·)
      let behind ← get
      if behind.rest.isEmpty then
        return joint ++ line ++ chomped chomping true 0 (max width 1 ≤ behind.column)
      else
        skipBreak
        let more ← passIndents width (behind.rest.length + 1)
        return joint ++ line ++ (← blockLines literal chomping width false blank (more + 1) bound)
    else
      return chomped chomping first breaks (cursor.rest.isEmpty && max width 1 ≤ cursor.column)

/-- A block without contents at the end of a document. `ended` says whether the line of its sign has
an end, and `breaks` counts the lines behind it. -/
def emptyBlock (chomping : Chomping) (ended : Bool) (breaks : Nat) : List Char :=
  match chomping with
  | .strip => []
  | .clip => lineEnds ended.toNat
  | .keep => lineEnds (if breaks = 0 then ended.toNat else breaks)

/-- A block behind the sign that begins it, in a part that is indented by `indent`. -/
def block (literal : Bool) (indent : Int) : Read String := do
  let (chomping, digit?) ← blockHead
  let _ ← passLine
  let next ← peek?
  if !atLineEnd next then refuse
  skipBreak
  if (← peek?) = some '\t' then refuse
  let bound := (← get).rest.length + 1
  let (breaks, width) ← match digit? with
    | some digit => do
      let width := indent.toNat + digit
      pure (← passIndents width bound, width)
    | none => do
      let (breaks, deepest) ← findIndent 0 bound
      pure (breaks, max deepest (indent + 1).toNat)
  let cursor ← get
  if cursor.rest.isEmpty then return String.ofList (emptyBlock chomping next.isSome breaks)
  if cursor.column < width && indent < cursor.column then refuse
  return String.ofList (← blockLines literal chomping width true false breaks bound)

end GraphServe.Setting.Yaml
