import GraphServe.Setting.Yaml.Cursor
import GraphServe.Setting.Yaml.Token

/-!
# Tags, anchors and directives of YAML documents

A tag names the type of a node, an anchor gives it a name of its own, and a directive in front of a
document says what the handles of tags stand for.
-/

namespace GraphServe.Setting.Yaml

open Read

/-! ## Characters -/

/-- The characters of the names of types. -/
def isUriChar (c : Char) : Bool :=
  (isWordChar c && c != '_') || c ∈ "#;/?:@&=+$,_.!~*'()[]%".toList

/-- The characters of a tag behind its handle. -/
def isTagChar (c : Char) : Bool := isUriChar c && !isFlow c && c != '!'

/-- The characters of anchors. -/
def isAnchorChar (c : Char) : Bool := !(isBlank c || isBreak c || isFlow c || c == '\uFEFF')

/-- A byte behind a percent sign. -/
def escapedByte : Read Nat := do
  match (← get).rest with
  | '%' :: high :: low :: _ =>
    if Text.isHexDigit high && Text.isHexDigit low then
      skip 3
      return Text.numberOf 16 [high, low]
    else refuse
  | _ => refuse

/-- The number that further bytes of a character make. -/
def furtherBytes (code : Nat) : (count : Nat) → Read Nat
  | 0 => return code
  | count + 1 => do
    let byte ← escapedByte
    if byte / 0x40 = 2 then furtherBytes (code * 0x100 + byte) count else refuse

/-- A character whose bytes are escaped. The bytes stand one behind the other in its number. -/
def escapedChar : Read Char := do
  let lead ← escapedByte
  let count ←
    if lead < 0x80 then pure 0
    else if lead / 0x20 = 6 then pure 1
    else if lead / 0x10 = 14 then pure 2
    else if lead / 0x08 = 30 then pure 3
    else refuse
  let code ← furtherBytes lead count
  if code < 0xD800 || (0xE000 ≤ code && code < 0x110000) then return Char.ofNat code else refuse

/-- A run of characters of a class, in which a percent sign begins an escaped one. -/
def uriRun (p : Char → Bool) : (bound : Nat) → Read (List Char)
  | 0 => refuse
  | bound + 1 => do
    match ← peek? with
    | some '%' =>
      let c ← escapedChar
      return c :: (← uriRun p bound)
    | some c =>
      if p c then
        skip 1
        return c :: (← uriRun p bound)
      else return []
    | none => return []

/-- The longest run of characters of a class. -/
def uri (p : Char → Bool) : Read (List Char) := do uriRun p ((← get).rest.length + 1)

/-! ## Tags and anchors -/

/-- The handle of a tag, or what looks like one. -/
def handle : Read (List Char) := do
  if !(← accept '!') then refuse
  let word ← takeWhile isWordChar
  return '!' :: word ++ (if ← accept '!' then ['!'] else [])

/-- Whether a handle ends with a sign of its own. -/
def isClosed (handle : List Char) : Bool := 2 ≤ handle.length && handle.getLast? = some '!'

/-- A tag between angle brackets. -/
def verbatimTag : Read Token := do
  skip 2
  let name ← uri isUriChar
  if ← accept '>' then return .tag "" (String.ofList name) else refuse

/-- A tag with a handle. -/
def shortTag : Read Token := do
  let first ← handle
  let more ← uri isTagChar
  if isClosed first then
    if first = ['!', '!'] && more.isEmpty then refuse
    else return .tag (String.ofList first) (String.ofList more)
  else
    let suffix := first.drop 1 ++ more
    return if suffix.isEmpty then .tag "" "!" else .tag "!" (String.ofList suffix)

/-- A tag. `inside` says whether it stands in brackets, where their punctuation may follow it. -/
def tag (inside : Bool) : Read Token := do
  let token ← if (← peekSecond?) = some '<' then verbatimTag else shortTag
  let next ← peek?
  if atWordEnd next || (inside && next.any isFlow) then return token else refuse

/-- The name of an anchor behind its sign. -/
def anchorName : Read String := do
  skip 1
  let name ← takeWhile isAnchorChar
  if name.isEmpty then refuse else return String.ofList name

/-! ## Directives -/

/-- One number of a version, of at most nine digits. -/
def versionNumber : Read Unit := do
  let digits ← takeWhile Text.isDigit
  if digits.isEmpty || 9 < digits.length then refuse

/-- The version of the language. -/
def version : Read Token := do
  let _ ← takeWhile isBlank
  versionNumber
  if !(← accept '.') then refuse
  versionNumber
  return .version

/-- What a handle stands for. -/
def expansion : Read (List Char) := do
  match ← peek? with
  | some '!' =>
    skip 1
    return '!' :: (← uri isUriChar)
  | some c =>
    if !isTagChar c then refuse
    uri isUriChar
  | none => refuse

/-- A handle and what it stands for. -/
def tagHandle : Read Token := do
  let _ ← takeWhile isBlank
  let name ← handle
  if name != ['!'] && !isClosed name then refuse
  let _ ← takeWhile isBlank
  let text ← expansion
  if atWordEnd (← peek?) then return .tagHandle (String.ofList name) (String.ofList text)
  else refuse

/-- A directive, with the end of its line. One that is not known says nothing. -/
def directive : Read Token := do
  skip 1
  let name ← takeWhile isWordChar
  if name.isEmpty || !atWordEnd (← peek?) then refuse
  let token ←
    if name = "YAML".toList then version
    else if name = "TAG".toList then tagHandle
    else do
      skipComment
      pure (.tagHandle "" "")
  let _ ← passLine
  if !atLineEnd (← peek?) then refuse
  skipBreak
  return token

end GraphServe.Setting.Yaml
