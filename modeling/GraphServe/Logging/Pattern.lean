import GraphServe.Text.Class
import GraphServe.Text.Scan

/-!
# Patterns of field values

A pattern is a regular expression. Only its form is checked here, from the left to the right: which
groups are open, which flags are in force, and whether something stands in front of a sign of
repetition. A pattern stands in braces, so a count in braces cannot be closed within it. Characters
are known by their codes alone; what needs the letters or the cases of all scripts is refused.
-/

namespace GraphServe

/-- What is wrong with a pattern. -/
inductive PatternFault where
  | malformed
  /-- The pattern is well formed, but asks for the ends of words of all scripts. -/
  | wordBoundary
deriving DecidableEq, Repr

namespace FieldPattern

/-! ## State -/

/-- The flags in force that matter for the form of a pattern. -/
structure Flags where
  /-- Whether capital and small letters are the same. -/
  caseless : Bool
  /-- Whether space and comments between the parts count for nothing. -/
  spaced : Bool
  /-- Whether classes mean the characters of all scripts, and not those of ASCII. -/
  wide : Bool
deriving DecidableEq, Repr

/-- What is known of a pattern up to a place. -/
structure State where
  rest : List Char
  flags : Flags
  /-- The flags around each open group, the innermost first. -/
  groups : List Flags
  /-- The names of groups. -/
  names : List String
  /-- Whether a sign of repetition may follow. -/
  repeatable : Bool
  /-- Whether the ends of words of all scripts were asked for. -/
  boundary : Bool
deriving DecidableEq, Repr

/-- The state in front of a pattern. -/
def State.start (text : List Char) : State where
  rest := text
  flags := ⟨false, false, true⟩
  groups := []
  names := []
  repeatable := false
  boundary := false

/-- A check of a part of a pattern. -/
abbrev Check := StateT State Option

namespace Check

/-- Refuses the pattern. -/
def refuse : Check α := fun _ => none

/-- Refuses the pattern unless a condition holds. -/
def require (condition : Bool) : Check Unit := if condition then return () else refuse

/-- Scans the characters at the place. -/
def scan (s : Text.Scan α) : Check α := fun state =>
  (s state.rest).map fun (a, rest) => (a, { state with rest })

/-- The flags in force. -/
def flags : Check Flags := return (← get).flags

/-- Says whether a sign of repetition may follow. -/
def setRepeatable (repeatable : Bool) : Check Unit := modify fun s => { s with repeatable }

/-! ## Space -/

/-- A comment up to the end of its line, if there is one. -/
def comment : Text.Scan Bool := do
  if ← Text.Scan.accept '#' then
    Text.Scan.skip (· != '\n')
    let _ ← Text.Scan.accept '\n'
    return true
  else return false

/-- Passes over space and comments, if they count for nothing. -/
def space : Check Unit := do
  if (← flags).spaced then
    scan do Text.Scan.gaps Text.isSpace comment (← Text.Scan.rest).length

/-- The character behind the next one and the space that follows that. -/
def peekBehind? : Check (Option Char) := do
  let behind := (← get).rest.tail
  if !(← flags).spaced then return behind.head?
  match behind.dropWhile Text.isSpace with
  | '#' :: rest => return (rest.dropWhile Text.isSpace).head?
  | rest => return rest.head?

/-! ## Escapes -/

/-- What a backslash and the characters behind it stand for. -/
inductive Escape where
  /-- A character; `byte` says that it is given by the two digits of a byte. -/
  | char (c : Char) (byte : Bool)
  /-- The digits, the space or the word characters, or all but those. -/
  | kind (negated : Bool)
  /-- A place, which may be the end of a word. -/
  | place (boundary : Bool)
deriving DecidableEq, Repr

/-- Hexadecimal digits, with space between them. -/
def digits : (count : Nat) → Check (List Char)
  | 0 => return []
  | count + 1 => do
    space
    let digit ← scan (Text.Scan.one Text.isHexDigit)
    return digit :: (← digits count)

/-- A character given by `count` hexadecimal digits. -/
def numbered (count : Nat) : Check Char := do
  let n := Text.numberOf 16 (← digits count)
  require (n < 0xD800 || (0xE000 ≤ n && n < 0x110000))
  return Char.ofNat n

/-- What follows a backslash. Signs stand for themselves, letters and digits only where they have a
meaning. -/
def escape : Check Escape := do
  let c ← scan Text.Scan.next
  if c == 'x' then return .char (← numbered 2) true
  else if c == 'u' then return .char (← numbered 4) false
  else if c == 'U' then return .char (← numbered 8) false
  else if c ∈ ['d', 's', 'w'] then return .kind false
  else if c ∈ ['D', 'S', 'W'] then return .kind true
  else if c ∈ ['A', 'z'] then return .place false
  else if c ∈ ['b', 'B', '<', '>'] then return .place true
  else
    let control := match c with
      | 'a' => some '\x07'
      | 'f' => some '\x0c'
      | 't' => some '\t'
      | 'n' => some '\n'
      | 'r' => some '\r'
      | 'v' => some '\x0b'
      | _ => none
    match control with
    | some control => return .char control false
    | none =>
      require (c.toNat < 0x80 && !c.isAlphanum)
      return .char c false

/-- Checks that a class of digits, space or word characters can be had. -/
def requireKind (negated : Bool) : Check Unit := do require (!(← flags).wide && !negated)

/-! ## Classes in brackets -/

/-- Names of the classes of ASCII. -/
def classNames : List String :=
  ["alnum", "alpha", "ascii", "blank", "cntrl", "digit", "graph", "lower", "print", "punct", "space",
    "upper", "word", "xdigit"]

/-- Checks that a character can be in a class. -/
def requireMember (c : Char) : Check Unit := do
  let flags ← flags
  require (if flags.wide then !flags.caseless else c.toNat < 0x80)

/-- Passes over the name of a class in brackets and colons, if it comes next, and says whether it
did. -/
def namedClass : Check Bool := do
  match (← get).rest with
  | '[' :: ':' :: behind =>
    let negated := behind.head? == some '^'
    let behind := if negated then behind.tail else behind
    let name := behind.takeWhile (· != ':')
    match behind.drop name.length with
    | ':' :: ']' :: rest =>
      if String.ofList name ∈ classNames then
        let flags ← flags
        require (if flags.wide then !flags.caseless else !negated)
        modify fun s => { s with rest }
        return true
      else return false
    | _ => return false
  | _ => return false

/-- Dashes at the beginning of a class, which stand for themselves, at most `bound` of them. -/
def dashes : (bound : Nat) → Check Bool
  | 0 => return false
  | bound + 1 => do
    if ← scan (Text.Scan.accept '-') then
      requireMember '-'
      space
      let _ ← dashes bound
      return true
    else return false

/-- The beginning of a class. A closing bracket that comes first stands for itself. -/
def classStart : Check Unit := do
  scan (Text.Scan.exact '[')
  space
  if ← scan (Text.Scan.accept '^') then
    require (← flags).wide
    space
  if !(← dashes ((← get).rest.length + 1)) then
    if ← scan (Text.Scan.accept ']') then
      requireMember ']'
      space

/-- One end of a range. -/
def classEnd : Check Escape := do
  let c ← scan Text.Scan.next
  let part ← if c == '\\' then escape else pure (.char c false)
  match part with
  | .char c _ => requireMember c
  | .kind negated => requireKind negated
  | .place _ => refuse
  return part

/-- A character or a range of characters, whose ends are in order. A dash in front of another one or of
the end of the class makes no range. -/
def classRange : Check Unit := do
  let first ← classEnd
  space
  let behind? ← peekBehind?
  if (← scan Text.Scan.peek?) = some '-' && behind? != some ']' && behind? != some '-' then
    let _ ← scan Text.Scan.next
    space
    match first, ← classEnd with
    | .char low _, .char high _ => require (low ≤ high)
    | _, _ => refuse

/-- The parts of a class up to its end. `depth` further classes are open around it, and `bound` limits
the number of parts. -/
def classParts : (depth bound : Nat) → Check Unit
  | _, 0 => refuse
  | depth, bound + 1 => do
    space
    match (← get).rest with
    | '[' :: _ =>
      if ← namedClass then classParts depth bound
      else
        classStart
        classParts (depth + 1) bound
    | ']' :: rest =>
      modify fun s => { s with rest }
      match depth with
      | 0 => return ()
      | depth + 1 => classParts depth bound
    | c :: d :: rest =>
      if c == d && (c == '&' || c == '-' || c == '~') then modify fun s => { s with rest }
      else classRange
      classParts depth bound
    | _ => refuse

/-- A class in brackets. -/
def bracketClass : Check Unit := do
  classStart
  classParts 0 ((← get).rest.length + 1)

/-! ## Groups -/

/-- Whether the name of a group may contain a character. -/
def isNameChar (first : Bool) (c : Char) : Bool :=
  c == '_' ||
    if first then Text.isAlphabetic c else Text.isAlphanumeric c || c ∈ ['.', '[', ']']

/-- The name of a group, which no other group has. -/
def groupName : Check Unit := do
  let name ← scan (Text.Scan.takeWhile (· != '>'))
  scan (Text.Scan.exact '>')
  let text := String.ofList name
  require (name.head?.any (isNameChar true) && name.tail.all (isNameChar false))
  require (text ∉ (← get).names)
  modify fun s => { s with names := text :: s.names }

/-- Flags with one of them changed. -/
def withFlag (flags : Flags) (name : Char) (on : Bool) : Flags :=
  match name with
  | 'i' => { flags with caseless := on }
  | 'x' => { flags with spaced := on }
  | 'u' => { flags with wide := on }
  | _ => flags

/-- The flags that signs change. Each sign occurs once, and what follows a minus sign is switched off. -/
def changed (flags : Flags) (on : Bool) : List Char → Option Flags
  | [] => some flags
  | '-' :: signs =>
    if on && !signs.isEmpty && '-' ∉ signs then changed flags false signs else none
  | sign :: signs =>
    if sign ∈ ['i', 'm', 's', 'U', 'u', 'R', 'x'] && sign ∉ signs then
      changed (withFlag flags sign on) on signs
    else none

/-- Begins a group in which the given flags are in force. -/
def enter (inner : Flags) : Check Unit := modify fun s =>
  { s with flags := inner, groups := s.flags :: s.groups, repeatable := false }

/-- The beginning of a group, or a change of flags. -/
def groupStart : Check Unit := do
  space
  let outer ← flags
  if ← scan (Text.Scan.acceptWord ['?', 'P', '<']) then
    groupName
    enter outer
  else if ← scan (Text.Scan.acceptWord ['?', '<']) then
    groupName
    enter outer
  else if ← scan (Text.Scan.accept '?') then
    let signs ← scan (Text.Scan.takeWhile fun c => c != ':' && c != ')')
    match changed outer true signs with
    | none => refuse
    | some inner =>
      if (← scan Text.Scan.next) == ':' then enter inner
      else
        require !signs.isEmpty
        modify fun s => { s with flags := inner, repeatable := false }
  else enter outer

/-- The end of a group. -/
def groupEnd : Check Unit := do
  let s ← get
  match s.groups with
  | outer :: groups => set { s with flags := outer, groups, repeatable := true }
  | [] => refuse

/-! ## Parts -/

/-- A character that stands for itself. -/
def literal (c : Char) (byte : Bool) : Check Unit := do
  let flags ← flags
  require (if flags.wide then !flags.caseless else !byte || c.toNat < 0x80)
  setRepeatable true

/-- What follows a backslash outside brackets. -/
def escapedPart : Check Unit := do
  match ← escape with
  | .char c byte => literal c byte
  | .kind negated => requireKind negated
  | .place boundary =>
    let wide := (← flags).wide
    modify fun s => { s with boundary := s.boundary || (boundary && wide) }
  setRepeatable true

/-- The part that begins with a character. -/
def part (c : Char) : Check Unit := do
  if c == '[' then
    bracketClass
    setRepeatable true
  else
    let _ ← scan Text.Scan.next
    if c == '(' then groupStart
    else if c == ')' then groupEnd
    else if c == '|' then setRepeatable false
    else if c == '?' || c == '*' || c == '+' then
      require (← get).repeatable
      let _ ← scan (Text.Scan.accept '?')
    else if c == '\x7b' then refuse
    else if c == '\\' then escapedPart
    else if c == '.' then
      require (← flags).wide
      setRepeatable true
    else if c == '^' || c == '$' then setRepeatable true
    else literal c false

/-- All parts, at most `bound` of them. -/
def parts : (bound : Nat) → Check Unit
  | 0 => refuse
  | bound + 1 => do
    space
    match (← get).rest with
    | [] => require (← get).groups.isEmpty
    | c :: _ =>
      part c
      parts bound

end Check

/-- What is wrong with a pattern, if anything is. -/
def fault? (pattern : String) : Option PatternFault :=
  let text := pattern.toList
  match Check.parts (text.length + 1) (.start text) with
  | some ((), s) => if s.boundary then some .wordBoundary else none
  | none => some .malformed

end FieldPattern

end GraphServe
