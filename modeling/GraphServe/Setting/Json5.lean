import GraphServe.Setting.Basic
import GraphServe.Text.Class
import GraphServe.Text.JsonReader

/-!
# Settings in JSON5

JSON with comments, names without quotes, trailing commas, strings in either quotes that may go on
over lines, and numbers in base sixteen, with a sign, or without digits on one side of the point. The
last entry of a name counts.
-/

namespace GraphServe.Setting

namespace Json5

open Text (Scan)

/-! ## Gaps -/

/-- The characters that end a line. -/
def isLineEnd (c : Char) : Bool := c ∈ ['\n', '\r', '\u2028', '\u2029']

/-- The characters between the parts of a document. -/
def isBlank (c : Char) : Bool :=
  c == '\uFEFF' || isLineEnd c || (Text.isSpace c && c != '\u0085')

/-- Passes over the rest of a comment that an asterisk and a slash end. -/
def commentTail : (bound : Nat) → Scan Unit
  | 0 => Scan.refuse
  | bound + 1 => do
    if !(← Scan.acceptWord ['*', '/']) then
      let _ ← Scan.next
      commentTail bound

/-- Passes over a comment, if there is one. -/
def comment : Scan Bool := do
  if ← Scan.acceptWord ['/', '*'] then
    commentTail ((← Scan.rest).length + 1)
    return true
  else if ← Scan.acceptWord ['/', '/'] then
    Scan.skip (!isLineEnd ·)
    return true
  else return false

/-- Passes over blanks and comments. -/
def blank : Scan Unit := do Scan.gaps isBlank comment (← Scan.rest).length

/-! ## Strings and names -/

/-- The codes that a backslash and what follows it stand for. An end of line stands for nothing. -/
def escaped : Scan (List Nat) := do
  match ← Scan.next with
  | 'b' => return [0x08]
  | 'f' => return [0x0c]
  | 'n' => return [0x0a]
  | 'r' => return [0x0d]
  | 't' => return [0x09]
  | 'v' => return [0x0b]
  | '0' => return [0]
  | 'x' =>
    let high ← Scan.one Text.isHexDigit
    let low ← Scan.one Text.isHexDigit
    return [Text.numberOf 16 [high, low]]
  | 'u' => return [← Text.JsonReader.fourHex]
  | '\r' =>
    let _ ← Scan.accept '\n'
    return []
  | c =>
    if Text.isDigit c then Scan.refuse
    else return if isLineEnd c then [] else [c.toNat]

/-- The codes of a string up to the closing quote. -/
def stringTail (quote : Char) : (bound : Nat) → Scan (List Nat)
  | 0 => Scan.refuse
  | bound + 1 => do
    let c ← Scan.next
    if c == quote then return []
    else if c == '\\' then
      let codes ← escaped
      return codes ++ (← stringTail quote bound)
    else if isLineEnd c then Scan.refuse
    else return c.toNat :: (← stringTail quote bound)

/-- The text of codes, in which the halves of surrogate pairs follow each other. -/
def joined (codes : List Nat) : Scan String :=
  Scan.given ((Text.JsonReader.joinSurrogates? codes).map String.ofList)

/-- A string behind its opening quote. -/
def string (quote : Char) : Scan String := do
  joined (← stringTail quote ((← Scan.rest).length + 1))

/-- The characters that a name may begin with. -/
def startsName (c : Char) : Bool :=
  c == '$' || c == '_' || (Text.isAlphabetic c && !Text.isExtending c)

/-- The characters that a name may go on with. -/
def isNamePart (c : Char) : Bool :=
  startsName c || Text.isAlphanumeric c || Text.isExtending c ||
    c ∈ ['\u200C', '\u200D', '\u203F', '\u2040', '\u2054']

/-- The codes of a name, of which `first` says whether it is at its beginning. -/
def nameCodes (first : Bool) : (bound : Nat) → Scan (List Nat)
  | 0 => Scan.refuse
  | bound + 1 => do
    match ← Scan.peek? with
    | some '\\' =>
      Scan.word ['\\', 'u']
      let code ← Text.JsonReader.fourHex
      return code :: (← nameCodes false bound)
    | some c =>
      if if first then startsName c else isNamePart c then
        let _ ← Scan.next
        return c.toNat :: (← nameCodes false bound)
      else return []
    | none => return []

/-- A name, with or without quotes. -/
def name : Scan String := do
  match ← Scan.acceptAny ['"', '\''] with
  | some quote => string quote
  | none =>
    let codes ← nameCodes true ((← Scan.rest).length + 1)
    if codes.isEmpty then Scan.refuse else joined codes

/-! ## Numbers -/

/-- The largest number in base sixteen. -/
def maxHex : Nat := 0xFFFFFFFF

/-- Takes the mark of base sixteen, if it comes next, and says whether it did. -/
def hexMark : Scan Bool := do
  if ← Scan.acceptWord ['0', 'x'] then return true else Scan.acceptWord ['0', 'X']

/-- The digits of a number before the point, without a superfluous zero in front. -/
def wholeDigits : Scan (List Char) := do
  if ← Scan.accept '0' then return ['0'] else Scan.takeWhile Text.isDigit

/-- The exponent of a number with its mark, if there is one. -/
def exponent : Scan (List Char) := do
  match ← Scan.acceptAny ['e', 'E'] with
  | none => return []
  | some _ =>
    let sign ← Scan.acceptAny ['+', '-']
    return 'e' :: sign.toList ++ (← Scan.takeSome Text.isDigit)

/-- A decimal number behind its sign. A real number must be finite. -/
def decimal (negative : Bool) : Scan Setting := do
  let whole ← wholeDigits
  let point ← Scan.accept '.'
  let fraction ← if point then Scan.takeWhile Text.isDigit else pure []
  let exponent ← exponent
  if whole.isEmpty && fraction.isEmpty then Scan.refuse
  else if !point && exponent.isEmpty then
    let n : Int := Text.numberOf 10 whole
    Scan.given (ofInt? (if negative then -n else n))
  else
    let bits ← Scan.given (Numeric.readUnsigned? negative (whole ++ '.' :: fraction ++ exponent))
    let magnitude := bits.toNat % Numeric.Format.binary64.signWeight
    if magnitude = Numeric.Format.binary64.infinity then Scan.refuse else return .real bits

/-- A number. Only decimal numbers may have a plus sign, and those in base sixteen have no sign. -/
def number : Scan Setting := do
  let sign ← Scan.acceptAny ['+', '-']
  let signText := sign.toList
  if ← Scan.acceptWord "Infinity".toList then
    if sign = some '+' then Scan.refuse
    else Scan.given ((Numeric.readReal? (signText ++ "inf".toList)).map .real)
  else if ← Scan.acceptWord "NaN".toList then
    if sign = some '+' then Scan.refuse
    else Scan.given ((Numeric.readReal? "nan".toList).map .real)
  else if ← hexMark then
    let n := Text.numberOf 16 (← Scan.takeSome Text.isHexDigit)
    if sign.isSome || maxHex < n then Scan.refuse else Scan.given (ofInt? n)
  else decimal (sign = some '-')

/-! ## Values -/

/-- A value that contains no other. -/
def scalar : Scan Setting := do
  if ← Scan.acceptWord "null".toList then return .nothing
  else if ← Scan.acceptWord "true".toList then return .flag true
  else if ← Scan.acceptWord "false".toList then return .flag false
  else
    match ← Scan.acceptAny ['"', '\''] with
    | some quote => return .text (← string quote)
    | none => number

/-- An entry of a table, whose value is read by the given scan. -/
def entry (value : Scan Setting) : Scan (String × Setting) := do
  let key ← name
  blank
  Scan.exact ':'
  blank
  return (key, ← value)

/-- A value that contains others to the given depth. -/
def value : (depth : Nat) → Scan Setting
  | 0 => scalar
  | depth + 1 => do
    if ← Scan.accept '[' then return .list (← Scan.listed ']' blank (value depth))
    else if ← Scan.accept '\x7b' then
      return tableOf (← Scan.listed '\x7d' blank (entry (value depth)))
    else scalar

/-- A value with nothing but blanks and comments around it. -/
def document (depth : Nat) : Scan Setting := do
  blank
  let s ← value depth
  blank
  return s

end Json5

/-- The settings of a JSON5 document. -/
def readJson5? (text : String) : Option Setting := (Json5.document text.length).all text.toList

end GraphServe.Setting
