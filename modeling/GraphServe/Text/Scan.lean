/-!
# Scanning text

A scan takes a value off the front of a character list, or refuses it. What a scan takes and what
it leaves make up the list it was given; `takeWhile_append` says so for runs of characters.
-/

namespace GraphServe.Text

/-- A reader of characters. -/
abbrev Scan := StateT (List Char) Option

namespace Scan

theorem pure_apply (a : α) (text : List Char) : (pure a : Scan α) text = some (a, text) := rfl

theorem bind_apply (scan : Scan α) (next : α → Scan β) (text : List Char) :
    (scan >>= next) text = (scan text).bind fun taken => next taken.1 taken.2 := rfl

theorem map_apply (f : α → β) (scan : Scan α) (text : List Char) :
    (f <$> scan) text = (scan text).map fun taken => (f taken.1, taken.2) := by
  rw [map_eq_pure_bind, bind_apply, Option.map_eq_bind]
  rfl

/-- Refuses the text. -/
def refuse : Scan α := fun _ => none

/-- Gives a value if there is one, and refuses the text else. -/
def given (a? : Option α) : Scan α := fun text => a?.map (·, text)

/-- The characters that are left. -/
def rest : Scan (List Char) := fun text => some (text, text)

/-- The next character, which stays. -/
def peek? : Scan (Option Char) := fun text => some (text.head?, text)

/-- Takes the next character if it is of a class. -/
def one (p : Char → Bool) : Scan Char
  | c :: text => if p c then some (c, text) else none
  | [] => none

/-- Takes the next character, whatever it is. -/
def next : Scan Char := one fun _ => true

/-- Takes one given character. -/
def exact (c : Char) : Scan Unit := do
  let _ ← one (· == c)

/-- Takes the given characters. -/
def word : List Char → Scan Unit
  | [] => pure ()
  | c :: cs => do
    exact c
    word cs

/-- Takes the longest run of characters of a class. -/
def takeWhile (p : Char → Bool) : Scan (List Char) := fun text =>
  some (text.takeWhile p, text.dropWhile p)

theorem takeWhile_append {p : Char → Bool} {text taken left : List Char}
    (h : takeWhile p text = some (taken, left)) : taken ++ left = text := by
  cases h
  exact List.takeWhile_append_dropWhile

/-- Takes a run of characters of a class that is not empty. -/
def takeSome (p : Char → Bool) : Scan (List Char) := do
  let taken ← takeWhile p
  if taken.isEmpty then refuse else pure taken

/-- Passes over characters of a class. -/
def skip (p : Char → Bool) : Scan Unit := do
  let _ ← takeWhile p

/-- Takes a character if it comes next, and says whether it did. -/
def accept (c : Char) : Scan Bool
  | d :: text => if d == c then some (true, text) else some (false, d :: text)
  | [] => some (false, [])

/-- Takes one of several characters if it comes next, and says which. -/
def acceptAny (cs : List Char) : Scan (Option Char)
  | d :: text => if d ∈ cs then some (some d, text) else some (none, d :: text)
  | [] => some (none, [])

/-- Takes the given characters if they come next, and says whether they did. -/
def acceptWord (cs : List Char) : Scan Bool := fun text =>
  if cs.isPrefixOf text then some (true, text.drop cs.length) else some (false, text)

/-- Takes what the first scan takes, or else what the second takes. -/
def either (first second : Scan α) : Scan α := fun text => (first text).or (second text)

/-- Items with a comma between them, up to the closing character. The first item has not been read
yet, blanks around items are passed over, and `bound` limits the number of items. -/
def itemsUntil (close : Char) (blank : Scan Unit) (item : Scan α) : (bound : Nat) → Scan (List α)
  | 0 => refuse
  | bound + 1 => do
    let first ← item
    blank
    if ← accept ',' then
      blank
      return first :: (← itemsUntil close blank item bound)
    else
      exact close
      return [first]

/-- The items of a bracketed sequence whose opening character has been taken. -/
def bracketed (close : Char) (blank : Scan Unit) (item : Scan α) : Scan (List α) := do
  blank
  if ← accept close then return []
  itemsUntil close blank item (← rest).length

/-- Items with commas between them, and perhaps one behind the last, up to the closing character. -/
def listUntil (close : Char) (blank : Scan Unit) (item : Scan α) : (bound : Nat) → Scan (List α)
  | 0 => refuse
  | bound + 1 => do
    if ← accept close then return []
    let first ← item
    blank
    if ← accept ',' then
      blank
      return first :: (← listUntil close blank item bound)
    else
      exact close
      return [first]

/-- The items of a bracketed sequence whose opening character has been taken. A comma may follow the
last. -/
def listed (close : Char) (blank : Scan Unit) (item : Scan α) : Scan (List α) := do
  blank
  listUntil close blank item ((← rest).length + 1)

/-- Blanks and comments, of which `comment` takes one if there is one and says whether there was. -/
def gaps (isBlank : Char → Bool) (comment : Scan Bool) : (bound : Nat) → Scan Unit
  | 0 => skip isBlank
  | bound + 1 => do
    skip isBlank
    if ← comment then gaps isBlank comment bound

/-- The value of a scan that takes the whole text. -/
def all (s : Scan α) (text : List Char) : Option α :=
  match s text with
  | some (a, []) => some a
  | _ => none

end Scan

/-! ## Marks -/

/-- The pieces of a text between the marks in it, which are found from the left; `passed` characters
still belong to the last mark. -/
def pieces (mark : List Char) : (passed : Nat) → List Char → List (List Char)
  | _, [] => [[]]
  | passed + 1, _ :: text => pieces mark passed text
  | 0, c :: text =>
    if !mark.isEmpty && mark.isPrefixOf (c :: text) then
      [] :: pieces mark (mark.length - 1) text
    else (pieces mark 0 text).modifyHead (c :: ·)

/-! ## Digits and letters -/

/-- Decimal digits. -/
def isDigit (c : Char) : Bool := '0' ≤ c && c ≤ '9'

/-- The value of a digit in any base up to sixteen. -/
def digitValue (c : Char) : Nat :=
  if isDigit c then c.toNat - '0'.toNat
  else if 'a' ≤ c && c ≤ 'f' then c.toNat - 'a'.toNat + 10
  else c.toNat - 'A'.toNat + 10

/-- Hexadecimal digits. -/
def isHexDigit (c : Char) : Bool :=
  isDigit c || ('a' ≤ c && c ≤ 'f') || ('A' ≤ c && c ≤ 'F')

/-- The number written with the given digits. -/
def numberOf (base : Nat) (digits : List Char) : Nat :=
  digits.foldl (fun n c => n * base + digitValue c) 0

/-- The hexadecimal digits of a number, filled up with zeros to a width. -/
def hexDigits (width n : Nat) : List Char :=
  let digits := Nat.toDigits 16 n
  List.replicate (width - digits.length) '0' ++ digits

/-- A letter of the Latin alphabet in lower case. The sign of the kelvin counts as a capital letter. -/
def lowerChar (c : Char) : Char := if c == '\u212A' then 'k' else c.toLower

/-- A text in lower case, for the letters of the Latin alphabet. -/
def lower (s : String) : String := String.ofList (s.toList.map lowerChar)

end GraphServe.Text
