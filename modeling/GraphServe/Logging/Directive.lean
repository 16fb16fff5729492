import GraphServe.Logging.Level
import GraphServe.Logging.Pattern
import GraphServe.Numeric.Decimal
import GraphServe.Text.ByteCut
import GraphServe.Text.Class

/-!
# Directives of log filters

A directive gives the level for a target, for a span, for a field with or without a value, or for
everything. Its parts are found in the text without the space around it; they are then cut out of
the whole text at the same places.
-/

namespace GraphServe

/-- What is wrong with a filter. -/
inductive FilterFault where
  | badDirective
  | badLevel
  | badPattern (fault : PatternFault)
deriving DecidableEq, Repr

/-- The wording of a fault. -/
def FilterFault.message : FilterFault → String
  | .badDirective => "invalid filter directive"
  | .badLevel =>
    "error parsing level filter: expected one of \"off\", \"error\", \"warn\", \"info\", \"debug\", \"trace\", or a number 0-5"
  | .badPattern .malformed => "invalid field filter: error building NFA"
  | .badPattern .wordBoundary =>
    "invalid field filter: unsupported regex feature for DFAs: cannot build DFAs for regexes with " ++
      "Unicode word boundaries; switch to ASCII word boundaries, or heuristically enable Unicode " ++
      "word boundaries or use a different regex engine"

/-! ## Fields -/

/-- What the value of a field is compared with. -/
inductive FieldValue where
  | flag (b : Bool)
  /-- A number that is not an integer of 64 bits. -/
  | real (bits : UInt64)
  | notANumber
  | natural (n : UInt64)
  /-- An integer with a minus sign. -/
  | negative (i : Int64)
  | pattern (text : String)
deriving DecidableEq, Repr

namespace FieldValue

/-- The integer that a text of digits writes. A plus sign in front of it counts for nothing. -/
def readInteger? (s : List Char) : Option FieldValue :=
  let (minus, digits) := Numeric.splitSign s
  let n := Text.numberOf 10 digits
  if digits.isEmpty || !digits.all Text.isDigit then none
  else if minus then
    if -(n : Int) < Int64.minValue.toInt then none else some (.negative (Int64.ofInt (-(n : Int))))
  else if n < UInt64.size then some (.natural (UInt64.ofNat n))
  else none

/-- The value of a 64-bit pattern. -/
def ofBits (bits : UInt64) : FieldValue :=
  match Numeric.Format.binary64.decode bits.toNat with
  | .nan _ _ => .notANumber
  | _ => .real bits

/-- The flag or the number that a text writes. -/
def literal? (s : String) : Option FieldValue :=
  if s = "true" then some (.flag true)
  else if s = "false" then some (.flag false)
  else (readInteger? s.toList).or ((Numeric.readReal? s.toList).map ofBits)

/-- The value that a text writes: a flag or a number if it reads as one, and else a pattern. -/
def ofText (s : String) : Except FilterFault FieldValue :=
  match literal? s with
  | some value => .ok value
  | none =>
    match FieldPattern.fault? s with
    | some fault => .error (.badPattern fault)
    | none => .ok (.pattern s)

/-- The text of a value. -/
def render : FieldValue → String
  | .flag b => toString b
  | .real bits => Numeric.renderReal bits
  | .notANumber => "NaN"
  | .natural n => toString n
  | .negative i => toString i
  | .pattern text => text

/-- The place of each kind of value among the others. -/
def rank : FieldValue → Nat
  | .flag _ => 0
  | .real _ => 1
  | .notANumber => 2
  | .natural _ => 3
  | .negative _ => 4
  | .pattern _ => 5

/-- The order of values: by kind, and within one kind by size. -/
def order (a b : FieldValue) : Ordering :=
  match a, b with
  | .flag a, .flag b => compareOfLessAndEq a.toNat b.toNat
  | .real a, .real b =>
    let key (bits : UInt64) : Int := Numeric.Format.binary64.orderKey bits.toNat
    compareOfLessAndEq (key a) (key b)
  | .natural a, .natural b => compareOfLessAndEq a.toNat b.toNat
  | .negative a, .negative b => compareOfLessAndEq a.toInt b.toInt
  | .pattern a, .pattern b => compareOfLessAndEq a b
  | a, b => compareOfLessAndEq a.rank b.rank

end FieldValue

/-- A field that must be there, with the given value if there is one. -/
structure FieldMatch where
  name : String
  value : Option FieldValue
deriving DecidableEq, Repr

namespace FieldMatch

/-- The field of a text: what stands in front of an equals sign and what follows it up to another. -/
def ofText (s : String) : Except FilterFault FieldMatch :=
  let chars := s.toList
  let name := chars.takeWhile (· != '=')
  match chars.drop name.length with
  | [] => .ok ⟨s, none⟩
  | _ :: value => do
    let value ← FieldValue.ofText (String.ofList (value.takeWhile (· != '=')))
    return ⟨String.ofList name, some value⟩

/-- The text of a field. -/
def render (m : FieldMatch) : String :=
  match m.value with
  | none => m.name
  | some value => s!"{m.name}={value.render}"

end FieldMatch

/-! ## Directives -/

/-- A level, and what it is for. -/
structure LogDirective where
  target : Option String
  span : Option String
  field : Option FieldMatch
  level : LogLevel
deriving DecidableEq, Repr

namespace LogDirective

/-- Whether a directive may begin with a character, an opening bracket apart. -/
def mayStart (c : Char) : Bool := c == '-' || c == ':' || c == '_' || Text.isAlphanumeric c

/-- The part of the whole text at a place that is as long as the given characters. -/
def part (whole : List Char) (place : Nat) (chars : List Char) : String :=
  String.ofList (Text.takeBytes (Text.byteCount chars) (Text.dropBytes place whole))

/-- The level behind a place. No text there lets everything through. -/
def levelAt (whole : List Char) (place : Nat) : Except FilterFault LogLevel :=
  match Text.dropBytes place whole with
  | [] => .ok .trace
  | name =>
    match LogLevel.ofText? (String.ofList name) with
    | some level => .ok level
    | none => .error .badLevel

/-- The level that follows a closing bracket. -/
def closing (whole : List Char) (place : Nat) : List Char → Except FilterFault LogLevel
  | [] => .ok .trace
  | '=' :: _ => levelAt whole (place + 1)
  | _ => .error .badDirective

/-- The directive whose opening bracket stands in front of a place, with the characters from there
on. In brackets is the name of a span, a field in braces, or both. -/
def ofBrackets (whole : List Char) (target : Option String) (place : Nat) (rest : List Char) :
    Except FilterFault LogDirective :=
  let name := rest.takeWhile fun c => c != ']' && c != '\x7b'
  let stop := place + Text.byteCount name
  match rest.drop name.length with
  | ']' :: rest => do
    let level ← closing whole (stop + 1) rest
    return ⟨target, some (part whole place name), none, level⟩
  | '\x7b' :: rest =>
    let field := rest.takeWhile (· != '\x7d')
    let span := part whole place name
    let text := part whole (stop + 1) field
    match rest.drop field.length with
    | '\x7d' :: rest =>
      if text.isEmpty then .error .badDirective
      else do
        let found ← FieldMatch.ofText text
        match rest with
        | ']' :: rest => do
          let level ← closing whole (stop + Text.byteCount field + 3) rest
          return ⟨target, if span.isEmpty then none else some span, some found, level⟩
        | _ => .error .badDirective
    | _ => .error .badDirective
  | _ => .error .badDirective

/-- The directive of a text that is not empty. A word alone is a level if it names one, and else a
target that everything is let through for. -/
def ofText (s : String) : Except FilterFault LogDirective :=
  let whole := s.toList
  match Text.trim whole with
  | [] => .error .badDirective
  | '[' :: rest => ofBrackets whole none 1 rest
  | c :: rest =>
    let word := (c :: rest).takeWhile fun c => c != '=' && c != '['
    let stop := Text.byteCount word
    if !mayStart c then .error .badDirective
    else
      match (c :: rest).drop word.length with
      | [] =>
        match LogLevel.ofText? s with
        | some level => .ok ⟨none, none, none, level⟩
        | none => .ok ⟨some s, none, none, .trace⟩
      | '[' :: rest => ofBrackets whole (some (part whole 0 word)) (stop + 1) rest
      | _ => do
        let level ← levelAt whole (stop + 1)
        return ⟨some (part whole 0 word), none, none, level⟩

/-- The text of a directive. -/
def render (d : LogDirective) : String :=
  let span := d.span.getD ""
  let field := match d.field with
    | none => ""
    | some field => "\x7b" ++ field.render ++ "\x7d"
  let brackets := if d.span.isNone && d.field.isNone then "" else "[" ++ span ++ field ++ "]"
  let mark := if d.target.isNone && brackets.isEmpty then "" else "="
  d.target.getD "" ++ brackets ++ mark ++ d.level.name

end LogDirective

end GraphServe
