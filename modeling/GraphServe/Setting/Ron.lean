import GraphServe.Setting.Basic

/-!
# Settings in RON

Records with fields in parentheses, tables in braces, lists in brackets and values in parentheses.
Records and tables count as tables, and the values in parentheses as a list; what they are called
counts for nothing, and neither does the mark of a value that may be missing. The last entry of a
name counts.
-/

namespace GraphServe.Setting

namespace Ron

open Text (Scan)

/-- Values may contain each other to this depth. -/
def maxRonDepth : Nat := 128

/-! ## Gaps -/

/-- The characters between the parts of a document. -/
def isBlank (c : Char) : Bool := c == ' ' || c == '\t' || c == '\n' || c == '\r'

/-- Passes over the rest of a comment in which `depth` others are open. -/
def commentTail (depth : Nat) : (bound : Nat) → Scan Unit
  | 0 => Scan.refuse
  | bound + 1 => do
    if ← Scan.acceptWord ['/', '*'] then commentTail (depth + 1) bound
    else if ← Scan.acceptWord ['*', '/'] then
      match depth with
      | 0 => return ()
      | depth + 1 => commentTail depth bound
    else
      let _ ← Scan.next
      commentTail depth bound

/-- Passes over a comment, if there is one. -/
def comment : Scan Bool := do
  if ← Scan.acceptWord ['/', '*'] then
    commentTail 0 ((← Scan.rest).length + 1)
    return true
  else if ← Scan.acceptWord ['/', '/'] then
    Scan.skip (· != '\n')
    return true
  else return false

/-- Passes over blanks and comments. -/
def blank : Scan Unit := do Scan.gaps isBlank comment (← Scan.rest).length

/-- Takes the given words with blanks between them. -/
def words : List String → Scan Unit
  | [] => return ()
  | w :: rest => do
    Scan.word w.toList
    blank
    words rest

/-! ## Names -/

/-- The characters that a name may begin with. -/
def startsName (c : Char) : Bool := c.isAlpha || c == '_'

/-- The characters that a name may go on with. -/
def isNamePart (c : Char) : Bool := c.isAlphanum || c == '_'

/-- The characters of a name that is marked as such. -/
def isMarkedPart (c : Char) : Bool := isNamePart c || c == '.' || c == '+' || c == '-'

/-- A name that is not marked. Nothing may follow it that only marked names have, and it is not the
mark of a string or of another name. -/
def plainName : Scan String := do
  let first ← Scan.one startsName
  let name := first :: (← Scan.takeWhile isNamePart)
  match ← Scan.peek? with
  | some c =>
    if isMarkedPart c || (name = ['r'] && (c == '"' || c == '#')) then Scan.refuse
    else return String.ofList name
  | none => return String.ofList name

/-- A name behind its mark. -/
def markedName : Scan String := do
  Scan.word ['r', '#']
  return String.ofList (← Scan.takeSome isMarkedPart)

/-- A name. -/
def name : Scan String := Scan.either markedName plainName

/-! ## Texts -/

/-- A character given by up to six hexadecimal digits in braces. -/
def numbered : Scan Char := do
  Scan.exact '\x7b'
  let digits ← Scan.takeSome Text.isHexDigit
  Scan.exact '\x7d'
  let n := Text.numberOf 16 digits
  if 6 < digits.length || (0xD800 ≤ n && n < 0xE000) || 0x110000 ≤ n then Scan.refuse
  else return Char.ofNat n

/-- The character behind a backslash. -/
def escaped : Scan Char := do
  match ← Scan.next with
  | '\'' => return '\''
  | '"' => return '"'
  | '\\' => return '\\'
  | 'n' => return '\n'
  | 'r' => return '\r'
  | 't' => return '\t'
  | '0' => return '\x00'
  | 'x' =>
    let high ← Scan.one Text.isHexDigit
    let low ← Scan.one Text.isHexDigit
    return Char.ofNat (Text.numberOf 16 [high, low])
  | 'u' => numbered
  | _ => Scan.refuse

/-- The characters of a string up to the closing quote. -/
def stringTail : (bound : Nat) → Scan (List Char)
  | 0 => Scan.refuse
  | bound + 1 => do
    let c ← Scan.next
    if c == '"' then return []
    else
      let c ← if c == '\\' then escaped else pure c
      return c :: (← stringTail bound)

/-- The characters up to a word that ends them. -/
def upTo (stop : List Char) : (bound : Nat) → Scan (List Char)
  | 0 => Scan.refuse
  | bound + 1 => do
    if ← Scan.acceptWord stop then return []
    let c ← Scan.next
    return c :: (← upTo stop bound)

/-- A string without escapes behind its mark. It ends at a quote with as many signs as it began. -/
def rawString : Scan (List Char) := do
  let signs ← Scan.takeWhile (· == '#')
  Scan.exact '"'
  upTo ('"' :: signs) ((← Scan.rest).length + 1)

/-- A character in quotes behind the opening one. -/
def character : Scan Char := do
  let first ← Scan.one (· != '\'')
  let c ← if first == '\\' then escaped else pure first
  Scan.exact '\''
  return c

/-- A string or a character. -/
def text : Scan String := do
  if ← Scan.accept '"' then return String.ofList (← stringTail ((← Scan.rest).length + 1))
  else if ← Scan.accept '\'' then return String.ofList [← character]
  else
    Scan.exact 'r'
    return String.ofList (← rawString)

/-! ## Numbers -/

/-- The characters of integers behind their base. -/
def isIntegerChar (c : Char) : Bool := Text.isHexDigit c || c == '_'

/-- The characters of other numbers. -/
def isRealChar (c : Char) : Bool :=
  Text.isDigit c || c ∈ ['e', 'E', '.', '+', '-', '_']

/-- The sign in front of a number, if there is one. -/
def sign : Scan (Option Char) := Scan.acceptAny ['+', '-']

/-- The base that an integer is marked with. -/
def base : Scan Nat := do
  if ← Scan.acceptWord ['0', 'x'] then return 16
  else if ← Scan.acceptWord ['0', 'o'] then return 8
  else if ← Scan.acceptWord ['0', 'b'] then return 2
  else return 10

/-- An integer. Without a sign it may have 64 bits, and becomes a number with rounding if it is beyond
the signed range. -/
def integer : Scan Setting := do
  let sign ← sign
  let base ← base
  let digits ← Scan.takeSome isIntegerChar
  let counted := digits.filter (· != '_')
  let n := Text.numberOf base counted
  if digits.head? = some '_' || counted.any (base ≤ Text.digitValue ·) then Scan.refuse
  else if sign.isNone && n < UInt64.size then
    return (ofInt? n).getD (.real (UInt64.ofNat (Numeric.Format.binary64.ofInt n)))
  else Scan.given (ofInt? (if sign = some '-' then -(n : Int) else n))

/-- A number that need not be an integer. -/
def real : Scan Setting := do
  Scan.given ((Numeric.readReal? (← Scan.takeWhile isRealChar)).map .real)

/-- An infinity or what is not a number, with a sign. -/
def signedName : Scan Setting := do
  let sign ← sign
  let name ← Scan.takeSome isNamePart
  if name = "inf".toList || name = "NaN".toList then
    Scan.given ((Numeric.readReal? (sign.toList ++ name)).map .real)
  else Scan.refuse

/-- Whether the characters that come next can only be those of a real number. -/
def looksReal (text : List Char) : Bool :=
  let unsigned := match text with
    | '+' :: rest => rest
    | '-' :: rest => rest
    | rest => rest
  (unsigned.takeWhile isIntegerChar).length < (unsigned.takeWhile isRealChar).length

/-- A number. What cannot be read as an integer is read as a real number. -/
def number : Scan Setting := do
  let any := Scan.either signedName real
  if looksReal (← Scan.rest) then any else Scan.either integer any

/-! ## Values -/

/-- An entry of a table. -/
def entry (key : Scan String) (value : Scan Setting) : Scan (String × Setting) := do
  let k ← key
  blank
  Scan.exact ':'
  blank
  return (k, ← value)

/-- Whether a field of a record comes next. -/
def fieldFollows (text : List Char) : Bool :=
  let mark : Scan Unit := do
    let _ ← name
    blank
    Scan.exact ':'
  (mark text).isSome

/-- What parentheses hold, if they come next: the fields of a record or a list of values. -/
def parenthesised (value : Scan Setting) : Scan Setting := do
  if !(← Scan.accept '(') then return .nothing
  blank
  if fieldFollows (← Scan.rest) then return tableOf (← Scan.listed ')' blank (entry name value))
  else return .list (← Scan.listed ')' blank value)

/-- A value behind the mark of those that may be missing. -/
def present (value : Scan Setting) : Scan Setting := do
  blank
  Scan.exact '('
  blank
  let s ← value
  blank
  if ← Scan.accept ',' then blank
  Scan.exact ')'
  return s

/-- A value that begins with a name without a mark. -/
def named (value : Scan Setting) : Scan Setting := do
  match ← plainName with
  | "true" => return .flag true
  | "false" => return .flag false
  | "None" => return .nothing
  | "Some" => present value
  | "inf" => Scan.given ((Numeric.readReal? "inf".toList).map .real)
  | "NaN" => Scan.given ((Numeric.readReal? "nan".toList).map .real)
  | _ =>
    blank
    parenthesised value

/-- A value that is no list and no table. -/
def scalar : Scan Setting := do
  match ← Scan.peek? with
  | some '"' | some '\'' | some 'r' => return .text (← text)
  | _ => number

/-- A value that contains others to the given depth. -/
def value : (depth : Nat) → Scan Setting
  | 0 => Scan.refuse
  | depth + 1 => do
    if ← Scan.acceptWord ['(', ')'] then return .nothing
    match ← Scan.peek? with
    | some '[' =>
      Scan.exact '['
      return .list (← Scan.listed ']' blank (value depth))
    | some '\x7b' =>
      Scan.exact '\x7b'
      return tableOf (← Scan.listed '\x7d' blank (entry text (value depth)))
    | some '(' => parenthesised (value depth)
    | some c =>
      let marked : Scan Setting := do
        let _ ← markedName
        blank
        parenthesised (value depth)
      if startsName c then
        Scan.either marked (Scan.either (named (value depth)) scalar)
      else scalar
    | none => Scan.refuse

/-! ## Documents -/

/-- What a document may ask for. -/
def features : List String := ["unwrap_newtypes", "implicit_some", "unwrap_variant_newtypes"]

/-- One feature by its name. -/
def feature : Scan Unit := do
  if (← plainName) ∈ features then return () else Scan.refuse

/-- What a document asks for, if it asks for something. -/
def request : Scan Bool := do
  if (← Scan.peek?) = some '#' then
    words ["#", "!", "[", "enable", "("]
    let asked ← Scan.listed ')' blank feature
    blank
    Scan.exact ']'
    if asked.isEmpty then Scan.refuse else return true
  else return false

/-- A value with nothing but requests in front of it and blanks and comments around it. -/
def document : Scan Setting := do
  blank
  Scan.gaps isBlank (do if ← request then blank; return true else return false)
    (← Scan.rest).length
  let s ← value (maxRonDepth + 1)
  blank
  return s

end Ron

/-- The settings of a RON document. -/
def readRon? (text : String) : Option Setting := Ron.document.all text.toList

end GraphServe.Setting
