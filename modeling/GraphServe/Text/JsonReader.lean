import GraphServe.Numeric.Decimal

/-!
# Reading JSON

A JSON document is read into a tree that keeps the order of members and their repetitions. Integers
are kept apart from other numbers as far as 64 bits go. Numbers that are too large, and strings and
names with unpaired surrogates, are well formed, so that a reader of the tree may pass over them.
-/

namespace GraphServe.Text

open Numeric (Format)

/-- A number of a JSON document. -/
inductive JsonNumber where
  | natural (n : UInt64)
  /-- An integer below zero. -/
  | negative (i : Int64)
  /-- A number with a fraction or an exponent, or an integer of more than 64 bits. -/
  | real (bits : UInt64)
  /-- A number whose magnitude is beyond all 64-bit patterns. -/
  | tooLarge
deriving DecidableEq, Repr

/-- A value of a JSON document. -/
inductive JsonValue where
  | null
  | flag (b : Bool)
  | number (n : JsonNumber)
  | text (s : String)
  /-- A string with a surrogate that has no partner. -/
  | brokenText
  | list (items : List JsonValue)
  /-- A member whose name has a surrogate without a partner has no name. -/
  | table (members : List (Option String × JsonValue))
deriving Repr

namespace JsonReader

/-- The characters between the parts of a document. -/
def isBlank (c : Char) : Bool := c == ' ' || c == '\t' || c == '\n' || c == '\r'

/-- Passes over blanks. -/
def blank : Scan Unit := Scan.skip isBlank

/-! ## Strings -/

/-- Takes four hexadecimal digits. -/
def fourHex : Scan Nat := do
  let a ← Scan.one isHexDigit
  let b ← Scan.one isHexDigit
  let c ← Scan.one isHexDigit
  let d ← Scan.one isHexDigit
  return numberOf 16 [a, b, c, d]

/-- The code behind a backslash: that of a character, or one half of a surrogate pair. -/
def escaped : Scan Nat := do
  match ← Scan.next with
  | '"' => return '"'.toNat
  | '\\' => return '\\'.toNat
  | '/' => return '/'.toNat
  | 'b' => return 0x08
  | 'f' => return 0x0c
  | 'n' => return '\n'.toNat
  | 'r' => return '\r'.toNat
  | 't' => return '\t'.toNat
  | 'u' => fourHex
  | _ => Scan.refuse

/-- The codes of a string up to the closing quote, at most `bound` of them. -/
def stringTail : (bound : Nat) → Scan (List Nat)
  | 0 => Scan.refuse
  | bound + 1 => do
    let c ← Scan.next
    if c == '"' then return []
    else if c == '\\' then
      let code ← escaped
      return code :: (← stringTail bound)
    else if c.toNat < 0x20 then Scan.refuse
    else return c.toNat :: (← stringTail bound)

/-- Whether a code is the first half of a surrogate pair. -/
def isHighSurrogate (code : Nat) : Bool := 0xD800 ≤ code && code < 0xDC00

/-- Whether a code is the second half of a surrogate pair. -/
def isLowSurrogate (code : Nat) : Bool := 0xDC00 ≤ code && code < 0xE000

/-- The characters that codes stand for. The halves of surrogate pairs must follow each other. -/
def joinSurrogates? : List Nat → Option (List Char)
  | [] => some []
  | [code] =>
    if isHighSurrogate code || isLowSurrogate code then none else some [Char.ofNat code]
  | code :: next :: rest =>
    if isLowSurrogate code then none
    else if isHighSurrogate code then
      if isLowSurrogate next then
        (joinSurrogates? rest).map
          (Char.ofNat (0x10000 + (code - 0xD800) * 0x400 + (next - 0xDC00)) :: ·)
      else none
    else (joinSurrogates? (next :: rest)).map (Char.ofNat code :: ·)

/-- Text without escapes stands for itself. -/
theorem joinSurrogates?_toNat (chars : List Char) :
    joinSurrogates? (chars.map Char.toNat) = some chars := by
  have plain (c : Char) : isHighSurrogate c.toNat = false ∧ isLowSurrogate c.toNat = false := by
    have valid : c.toNat < 0xD800 ∨ (0xDFFF < c.toNat ∧ c.toNat < 0x110000) := c.valid
    simp only [isHighSurrogate, isLowSurrogate, Bool.and_eq_false_iff, decide_eq_false_iff_not]
    omega
  induction chars with
  | nil => rfl
  | cons c rest ih =>
    cases rest with
    | nil => simp [joinSurrogates?, plain c]
    | cons d rest =>
      simp only [List.map_cons] at ih ⊢
      simp [joinSurrogates?, plain c, ih]

/-- A string, if its surrogates are paired. -/
def string : Scan (Option String) := do
  Scan.exact '"'
  return (joinSurrogates? (← stringTail (← Scan.rest).length)).map String.ofList

/-! ## Numbers

A number that is no integer of 64 bits is rounded twice: its digits as far as 64 bits go, and then their
product with the power of ten. -/

/-- The leading digits whose number fits in 64 bits, and how many digits are left out. -/
def wordDigits (n : Nat) : List Char → Nat × Nat
  | [] => (n, 0)
  | d :: digits =>
    let next := n * 10 + digitValue d
    if next < UInt64.size then wordDigits next digits else (n, (d :: digits).length)

/-- The number `significand * 10 ^ exponent` with a sign: the significand and the power of ten are
rounded, and then their product or quotient. Powers are applied in steps of at most `10 ^ 308`. -/
def scaleReal (negative : Bool) (significand : Nat) (exponent : Int) : JsonNumber :=
  let f := Format.binary64
  let power (k : Nat) : Nat := f.ofRatio false (Nat.pow 10 k) 1
  let start := f.ofInt significand
  let signed (bits : Nat) : JsonNumber :=
    .real (UInt64.ofNat (f.withSign negative bits))
  if significand = 0 then signed start
  else if 308 < exponent then .tooLarge
  else if 0 ≤ exponent then
    let product := f.mul start (power exponent.toNat)
    if product = f.infinity then .tooLarge else signed product
  else
    let places := (-exponent).toNat
    if 1000 < places then signed 0
    else
      let steps := (places - 1) / 308
      let reduced := (List.range steps).foldl (fun x _ => f.div x (power 308)) start
      signed (f.div reduced (power (places - steps * 308)))

/-- A number from its digits before and after the point and its exponent. -/
def realOf (negative : Bool) (whole fraction : List Char) (exponent : Int) : JsonNumber :=
  let (n, dropped) := wordDigits 0 whole
  let (significand, left) := wordDigits n fraction
  scaleReal negative significand (exponent + dropped - (fraction.length - left : Nat))

/-- A number without fraction and exponent. -/
def integerOf (negative : Bool) (digits : List Char) : JsonNumber :=
  let n := numberOf 10 digits
  if negative then
    -- zero with a minus sign is no integer
    if n = 0 || -(n : Int) < Int64.minValue.toInt then realOf true digits [] 0
    else .negative (Int64.ofInt (-(n : Int)))
  else if n < UInt64.size then .natural (UInt64.ofNat n)
  else realOf false digits [] 0

/-- Digits that do not start with a zero, or a zero alone. -/
def wholeDigits : Scan (List Char) := do
  if ← Scan.accept '0' then
    match ← Scan.peek? with
    | some c => if isDigit c then Scan.refuse else return ['0']
    | none => return ['0']
  else Scan.takeSome isDigit

/-- The digits after a point, if there is one. -/
def fractionDigits : Scan (List Char) := do
  if ← Scan.accept '.' then Scan.takeSome isDigit else return []

/-- The exponent, if there is one. -/
def exponentPart : Scan (Option Int) := do
  let marked ← Scan.acceptAny ['e', 'E']
  if marked.isNone then return none
  let mark ← Scan.acceptAny ['-', '+']
  let n := numberOf 10 (← Scan.takeSome isDigit)
  return some (if mark = some '-' then -(n : Int) else n)

/-- A number. -/
def number : Scan JsonNumber := do
  let negative ← Scan.accept '-'
  let whole ← wholeDigits
  let fraction ← fractionDigits
  let exponent ← exponentPart
  return if fraction.isEmpty && exponent.isNone then integerOf negative whole
    else realOf negative whole fraction (exponent.getD 0)

/-! ## Values -/

/-- A member of a table, whose value is read by the given scan. -/
def member (value : Scan JsonValue) : Scan (Option String × JsonValue) := do
  let name ← string
  blank
  Scan.exact ':'
  blank
  return (name, ← value)

/-- A value that contains no other. -/
def scalar : Scan JsonValue := do
  match ← Scan.peek? with
  | some '"' => return ((← string).map JsonValue.text).getD .brokenText
  | some 't' =>
    Scan.word "true".toList
    return .flag true
  | some 'f' =>
    Scan.word "false".toList
    return .flag false
  | some 'n' =>
    Scan.word "null".toList
    return .null
  | _ => return .number (← number)

/-- A value that contains others to the given depth. -/
def value : (depth : Nat) → Scan JsonValue
  | 0 => scalar
  | depth + 1 => do
    if ← Scan.accept '[' then return .list (← Scan.bracketed ']' blank (value depth))
    else if ← Scan.accept '\x7b' then
      return .table (← Scan.bracketed '\x7d' blank (member (value depth)))
    else scalar

/-- A value with blanks around it. -/
def document (depth : Nat) : Scan JsonValue := do
  blank
  let v ← value depth
  blank
  return v

end JsonReader

/-- The value of a JSON document, in which values contain each other to at most the given depth. -/
def readJson? (depth : Nat) (text : String) : Option JsonValue :=
  (JsonReader.document depth).all text.toList

end GraphServe.Text
