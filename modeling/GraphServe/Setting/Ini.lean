import GraphServe.Setting.Basic
import GraphServe.Text.Class

/-!
# Settings in INI

An INI document is a sequence of keys with values and of headings in brackets, which open sections.
All values are texts. Keys in front of the first heading belong to the document itself, and every
section is a table. A section or a key takes the place of an earlier one of its name.
-/

namespace GraphServe.Setting

namespace Ini

open Text (Scan)

/-- One part of a document. -/
inductive Part where
  | heading (name : String)
  | pair (key value : String)
deriving DecidableEq, Repr

/-! ## Texts -/

/-- A character given by four hexadecimal digits, or by a plus sign and three. -/
def numbered : Scan Char := do
  let signed ← Scan.accept '+'
  let digits ← (List.replicate (if signed then 3 else 4) ()).mapM fun _ =>
    Scan.one Text.isHexDigit
  let n := Text.numberOf 16 digits
  if n < 0xD800 || 0xE000 ≤ n then return Char.ofNat n else Scan.refuse

/-- The characters that a backslash and what follows it stand for. A line goes on behind it. -/
def escaped : Scan (List Char) := do
  match ← Scan.next with
  | '0' => return ['\x00']
  | 'a' => return ['\x07']
  | 'b' => return ['\x08']
  | 't' => return ['\t']
  | 'r' => return ['\r']
  | 'n' => return ['\n']
  | '\n' => return []
  | 'x' => return [← numbered]
  | c => return [c]

/-- A text up to a character that ends it, which stays. `mayEnd` says whether the end of the document
ends it too. -/
def textUntil (ends : Char → Bool) (mayEnd : Bool) : (bound : Nat) → Scan (List Char)
  | 0 => Scan.refuse
  | bound + 1 => do
    match ← Scan.peek? with
    | none => if mayEnd then return [] else Scan.refuse
    | some c =>
      if ends c then return []
      let _ ← Scan.next
      let part ← if c == '\\' then escaped else pure [c]
      return part ++ (← textUntil ends mayEnd bound)

/-- A text that must be ended by a character of a class. -/
def closed (ends : Char → Bool) : Scan (List Char) := do
  textUntil ends false ((← Scan.rest).length + 1)

/-- Whether a character ends a line. -/
def isLineEnd (c : Char) : Bool := c == '\n' || c == '\r'

/-- The rest of a line. -/
def restOfLine : Scan (List Char) := do
  textUntil isLineEnd true ((← Scan.rest).length + 1)

/-- A text without the space around it. -/
def trimmed (chars : List Char) : String := String.ofList (Text.trim chars)

/-! ## Parts -/

/-- The name of a section behind its opening bracket. -/
def heading : Scan String := do
  let name ← closed (· == ']')
  Scan.exact ']'
  return trimmed name

/-- A value behind its mark. What follows a value in quotes on its line belongs to it. -/
def value : Scan String := do
  Scan.skip fun c => Text.isSpace c && !isLineEnd c
  match ← Scan.acceptAny ['"', '\''] with
  | none => return trimmed (← restOfLine)
  | some quote =>
    let inside ← closed (· == quote)
    Scan.exact quote
    return trimmed (inside ++ (← restOfLine))

/-- Whether a character stands between a key and its value. -/
def isMark (c : Char) : Bool := c == '=' || c == ':'

/-- A key with its value. A key goes on up to the mark, also over the ends of lines, and is not
empty. -/
def pair : Scan Part := do
  let key := trimmed (← closed isMark)
  let _ ← Scan.one isMark
  if key.isEmpty then Scan.refuse else return .pair key (← value)

/-- The parts of a document, at most `bound` of them. `fresh` says whether a line begins here, as it
must in front of a comment. -/
def parts (fresh : Bool) : (bound : Nat) → Scan (List Part)
  | 0 => Scan.refuse
  | bound + 1 => do
    let space ← Scan.takeWhile Text.isSpace
    let fresh := match space.getLast? with
      | some last => last == '\n'
      | none => fresh
    match ← Scan.peek? with
    | none => return []
    | some c =>
      if c == ';' || c == '#' then
        if !fresh then Scan.refuse
        else
          Scan.skip (· != '\n')
          let _ ← Scan.accept '\n'
          parts true bound
      else
        let first ←
          if ← Scan.accept '[' then pure (.heading (← heading)) else pair
        return first :: (← parts false bound)

/-! ## Tables -/

/-- The settings of the parts of a document, behind those already read. `section?` names the section
that is open. -/
def settings (entries : List (String × Setting)) (section? : Option String) :
    List Part → List (String × Setting)
  | [] => entries
  | .heading name :: rest => settings (upsert entries name fun _ => .table []) (some name) rest
  | .pair key value :: rest =>
    let change (entries : List (String × Setting)) : List (String × Setting) :=
      upsert entries key fun _ => .text value
    let entries := match section? with
      | none => change entries
      | some name => upsert entries name fun old => .table (change (old.getD .nothing).entries)
    settings entries section? rest

end Ini

/-- The settings of an INI document. -/
def readIni? (text : String) : Option Setting :=
  ((Ini.parts true (text.length + 1)).all text.toList).map fun parts =>
    .table (Ini.settings [] none parts)

end GraphServe.Setting
