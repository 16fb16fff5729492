import GraphServe.Setting.Yaml.Scalar
import GraphServe.Setting.Yaml.Tag

/-!
# The layout of YAML documents

The tokens of a document. Every block has an indentation, and blocks end where a line is less
indented. Whether something is a key shows only when the colon behind it is found: until then its
place is remembered, and the tokens of the key are put in front of it afterwards.
-/

namespace GraphServe.Setting.Yaml

/-! ## State -/

/-- Something that may turn out to be a key. -/
structure KeyPlace where
  /-- Whether the document is wrong if it is none. -/
  required : Bool
  /-- The number of tokens in front of it. -/
  number : Nat
  index : Nat
  line : Nat
  column : Nat
deriving DecidableEq, Repr

/-- An indentation and the one around it. -/
structure Indent where
  outer : Int
  /-- Whether a block ends with it. -/
  ofBlock : Bool
deriving DecidableEq, Repr

/-- What is known of a document up to a place. -/
structure Layout where
  cursor : Cursor
  /-- The tokens, the last one first. -/
  tokens : List Token
  /-- The column of the last token if that is an anchor or a tag. -/
  property? : Option Nat
  /-- Whether a key may begin here. -/
  keyAllowed : Bool
  /-- What may turn out to be a key outside brackets and in each bracket, the innermost first. -/
  keys : List (Option KeyPlace)
  indent : Int
  indents : List Indent
  /-- The place where a colon needs no blank behind it. -/
  adjacent : Nat
  /-- For each list in brackets, the innermost first, whether a pair without braces is open. -/
  pairs : List Bool
  /-- Whether braces or the sign of a key have begun a table. -/
  inTable : Bool
deriving DecidableEq, Repr

/-- The layout at the beginning of a document. -/
def Layout.start (text : List Char) : Layout where
  cursor := .start text
  tokens := []
  property? := none
  keyAllowed := true
  keys := [none]
  indent := -1
  indents := []
  adjacent := 0
  pairs := []
  inTable := false

/-- How many brackets are open. -/
def Layout.depth (s : Layout) : Nat := s.keys.length - 1

/-- Whether a bracket is open. -/
def Layout.inside (s : Layout) : Bool := s.depth != 0

/-- Brackets may contain each other to this depth. -/
def maxYamlDepth : Nat := 255

/-- A key and its colon are at most this far apart. -/
def maxKeyLength : Nat := 1024

/-- A reader that keeps track of the layout. -/
abbrev Lex := StateT Layout Option

namespace Lex

/-- Refuses the document. -/
def refuse : Lex α := fun _ => none

/-- Reads at the place. -/
def read (reader : Read α) : Lex α := fun s =>
  (reader s.cursor).map fun (a, cursor) => (a, { s with cursor })

/-- Appends a token. -/
def push (token : Token) : Lex Unit :=
  modify fun s => { s with tokens := token :: s.tokens, property? := none }

/-- Puts a token behind the first `number` ones. -/
def insert (number : Nat) (token : Token) : Lex Unit :=
  modify fun s => { s with tokens := s.tokens.insertIdx (s.tokens.length - number) token }

/-- Says whether a key may begin here. -/
def allowKey (keyAllowed : Bool) : Lex Unit := modify fun s => { s with keyAllowed }

/-! ## Keys -/

/-- Gives up what cannot be a key any more, as its colon would be on another line or too far away. -/
def dropStaleKey : Lex Unit := do
  let s ← get
  match s.keys with
  | some key :: rest =>
    let stale := key.line < s.cursor.line || key.index + maxKeyLength < s.cursor.index
    if !s.inside && stale then
      if key.required then refuse
      set { s with keys := none :: rest }
  | _ => return ()

/-- Remembers that what comes next may be a key. -/
def saveKey : Lex Unit := modify fun s =>
  if s.keyAllowed then
    let required := !s.inside && s.indent == s.cursor.column && s.indents.head?.any (·.ofBlock)
    let key : KeyPlace :=
      ⟨required, s.tokens.length, s.cursor.index, s.cursor.line, s.cursor.column⟩
    { s with keys := some key :: s.keys.tail }
  else s

/-- Gives up what may have been a key. -/
def removeKey : Lex Unit := do
  let s ← get
  if s.keys.head?.any (·.any (·.required)) then refuse
  set { s with keys := none :: s.keys.tail }

/-! ## Indentation -/

/-- Ends the blocks that are indented deeper than a column. At most `bound` indentations end. -/
def unrollTo (column : Int) : (bound : Nat) → Layout → Layout
  | 0, s => s
  | bound + 1, s =>
    match s.indents with
    | [] => s
    | last :: rest =>
      if s.indent ≤ column then s
      else
        let s := if last.ofBlock then
            { s with tokens := .blockEnd :: s.tokens, property? := none }
          else s
        unrollTo column bound { s with indent := last.outer, indents := rest }

/-- Ends the blocks that are indented deeper than a column, outside brackets. -/
def unroll (column : Int) : Lex Unit := modify fun s =>
  if s.inside then s else unrollTo column s.indents.length s

/-- Indents by one column without a block, outside brackets and directly in a block. -/
def indentOnce : Lex Unit := modify fun s =>
  if !s.inside && s.indents.head?.any (·.ofBlock) then
    { s with indent := s.indent + 1, indents := ⟨s.indent, false⟩ :: s.indents }
  else s

/-- The layout without the indentations that belong to no block. -/
def withoutLoose : (bound : Nat) → Layout → Layout
  | 0, s => s
  | bound + 1, s =>
    match s.indents with
    | ⟨outer, false⟩ :: rest => withoutLoose bound { s with indent := outer, indents := rest }
    | _ => s

/-- Drops the indentations that belong to no block. -/
def dropLoose : Lex Unit := modify fun s => withoutLoose s.indents.length s

/-- Begins a block at a column that is deeper indented, with a token behind the first `number` ones. -/
def roll (column : Int) (number : Nat) (token : Token) : Lex Unit := do
  let s ← get
  if s.inside then return ()
  let s := if s.indent ≤ column then withoutLoose (min 1 s.indents.length) s else s
  if s.indent < column then
    set { s with indent := column, indents := ⟨s.indent, true⟩ :: s.indents }
    insert number token
  else set s

/-! ## Gaps -/

/-- Passes over what stands between tokens. A key may begin on a new line outside brackets. -/
def passGaps : Lex Unit := do
  let s ← get
  let indent? := if s.indents.isEmpty then none else some s.indent
  let newLine ← read (Read.passGaps isBlank indent? (s.cursor.rest.length + 1))
  if newLine && !s.inside then allowKey true

/-- Passes over the blanks and the comment behind a token. -/
def passLine : Lex (List Char) := read Read.passLine

/-! ## Documents -/

/-- A directive. -/
def directive : Lex Unit := do
  unroll (-1)
  removeKey
  allowKey false
  push (← read Yaml.directive)

/-- The signs that begin or end a document. -/
def documentMark (token : Token) : Lex Unit := do
  unroll (-1)
  removeKey
  allowKey false
  read (Read.skip 3)
  push token

/-- The signs that end a document, with nothing behind them. -/
def documentEnd : Lex Unit := do
  documentMark .documentEnd
  let _ ← passLine
  if !atLineEnd (← read Read.peek?) then refuse

/-- The end of the text. -/
def textEnd : Lex Unit := do
  let s ← get
  if s.keys.any (·.any (·.required)) then refuse
  unroll (-1)

/-! ## Brackets -/

/-- Ends the pair without braces that is open in the innermost list. -/
def endPair : Lex Unit := do
  let s ← get
  match s.pairs with
  | true :: rest =>
    set { s with pairs := false :: rest, inTable := false }
    push .tableEnd
  | _ => return ()

/-- An opening bracket. -/
def openBracket (token : Token) : Lex Unit := do
  saveKey
  indentOnce
  let s ← get
  if maxYamlDepth ≤ s.depth then refuse
  set { s with keys := none :: s.keys, keyAllowed := true }
  read (Read.skip 1)
  modify fun s =>
    if token = .tableStart then { s with inTable := true } else { s with pairs := false :: s.pairs }
  let _ ← passLine
  push token

/-- A closing bracket. -/
def closeBracket (token : Token) : Lex Unit := do
  removeKey
  modify fun s =>
    { s with keys := if s.inside then s.keys.tail else s.keys, keyAllowed := false }
  if token = .listEnd then
    endPair
    modify fun s => { s with pairs := s.pairs.tail }
  read (Read.skip 1)
  let _ ← passLine
  modify fun s => if s.inside then { s with adjacent := s.cursor.index } else s
  push token

/-- A comma in brackets. -/
def comma : Lex Unit := do
  removeKey
  allowKey true
  endPair
  read (Read.skip 1)
  let _ ← passLine
  push .comma

/-! ## Items, keys and values -/

/-- The dash in front of an item of a block. -/
def item : Lex Unit := do
  let s ← get
  if s.inside || !s.keyAllowed then refuse
  -- an anchor or a tag of the list would have to be indented like it
  if s.cursor.column = 0 && s.property? = some 0 && -1 < s.indent then refuse
  read (Read.skip 1)
  roll s.cursor.column s.tokens.length .blockListStart
  let blanks ← passLine
  let behind := (← get).cursor.rest
  if '\t' ∈ blanks && behind.head? = some '-' && atWordEnd behind[1]? then refuse
  if behind.head?.any fun c => isBreak c || isFlow c then indentOnce
  removeKey
  allowKey true
  push .item

/-- The sign of a key. A blank or the end of the line follows it, and what comes behind is not indented
by tabs. -/
def explicitKey : Lex Unit := do
  let s ← get
  if s.inside then set { s with inTable := true }
  else
    if !s.keyAllowed then refuse
    roll s.cursor.column s.tokens.length .blockTableStart
  removeKey
  allowKey !s.inside
  read (Read.skip 1)
  if !(← read Read.peek?).any fun c => c == ' ' || isBreak c then refuse
  let newLine ← read (Read.passGaps (· == ' ') none (s.cursor.rest.length + 1))
  if newLine && !s.inside then allowKey true
  if (← read Read.peek?) = some '\t' then refuse
  push .key

/-- The colon in front of a value. If something in front of it may be a key, it is one now. -/
def value : Lex Unit := do
  let s ← get
  let implicit := !s.pairs.isEmpty && !s.inTable
  if implicit then set { s with pairs := true :: s.pairs.tail }
  read (Read.skip 1)
  if (← read Read.peek?) = some '\t' then
    let blanks ← passLine
    if ' ' ∉ blanks && (← read Read.peek?).any isWordChar then refuse
  match s.keys.head? with
  | some (some key) =>
    insert key.number .key
    if implicit then
      if key.line < s.cursor.line then refuse
      insert key.number .tableStart
    roll key.column key.number .blockTableStart
    indentOnce
    modify fun s => { s with keys := none :: s.keys.tail, keyAllowed := false }
  | _ =>
    if implicit then push .tableStart
    if !s.inside then
      if !s.keyAllowed then refuse
      roll s.cursor.column s.tokens.length .blockTableStart
    indentOnce
    allowKey !s.inside
  push .value

/-! ## Nodes -/

/-- An anchor or a tag, or what stands for a node with an anchor. -/
def property (reader : Read Token) (standsAlone : Bool) : Lex Unit := do
  saveKey
  allowKey false
  let column := (← get).cursor.column
  push (← read reader)
  if !standsAlone then modify fun s => { s with property? := some column }

/-- A text in quotes. A colon right behind it needs no blank in brackets. -/
def quoted : Lex Unit := do
  saveKey
  allowKey false
  let s ← get
  let text ← read (Yaml.quoted s.inside s.indent)
  passGaps
  modify fun s => { s with adjacent := s.cursor.index }
  push (.scalar false text)

/-- A block whose lines are kept or folded. -/
def block (literal : Bool) : Lex Unit := do
  saveKey
  allowKey true
  dropLoose
  read (Read.skip 1)
  let text ← read (Yaml.block literal (← get).indent)
  push (.scalar false text)

/-- A scalar without quotes. A key may begin behind it if it ends with its line. -/
def plain : Lex Unit := do
  saveKey
  allowKey false
  dropLoose
  let s ← get
  let text ← read (Yaml.plain s.inside (s.indent + 1))
  if (← get).cursor.fresh then allowKey true
  push (.scalar true text)

/-! ## All tokens -/

/-- The token that begins with a character, of which `next` follows. -/
def token (c : Char) (next : Option Char) : Lex Unit := do
  let s ← get
  let adjacent := next.any isFlow || s.cursor.index == s.adjacent
  if c == '[' then openBracket .listStart
  else if c == '\x7b' then openBracket .tableStart
  else if c == ']' then closeBracket .listEnd
  else if c == '\x7d' then closeBracket .tableEnd
  else if c == ',' then comma
  else if c == '-' && atWordEnd next then item
  else if c == '?' && atWordEnd next then explicitKey
  else if c == ':' && (atWordEnd next || (s.inside && adjacent)) then value
  else if c == '*' then property (return .alias (← anchorName)) true
  else if c == '&' then property (return .anchor (← anchorName)) false
  else if c == '!' then property (tag s.inside) false
  else if (c == '|' || c == '>') && !s.inside then block (c == '|')
  else if c == '\'' || c == '"' then quoted
  else if c ∈ ['%', '@', '\x60'] then refuse
  else plain

/-- Takes the next token, and says whether there was one. -/
def step : Lex Bool := do
  passGaps
  dropStaleKey
  unroll (← get).cursor.column
  let s ← get
  match s.cursor.rest with
  | [] =>
    textEnd
    return false
  | c :: rest =>
    let atStart := s.cursor.column == 0
    if atStart && c == '%' then directive
    else if atStart && marksDocument '-' (c :: rest) then documentMark .documentStart
    else if atStart && marksDocument '.' (c :: rest) then documentEnd
    else if s.cursor.column < s.indent then refuse
    else token c rest.head?
    return true

/-- Takes all tokens, at most `bound` of them. -/
def all : (bound : Nat) → Lex Unit
  | 0 => refuse
  | bound + 1 => do
    if ← step then all bound

end Lex

/-- The tokens of a document. It ends in front of a null character. -/
def tokens? (text : String) : Option (List Token) :=
  let chars := text.toList.takeWhile (· != '\x00')
  (Lex.all (chars.length + 1) (.start chars)).map fun (_, s) => s.tokens.reverse

end GraphServe.Setting.Yaml
