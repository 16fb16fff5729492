import GraphServe.Text.Class.Alphabetic
import GraphServe.Text.Class.Extending
import GraphServe.Text.Class.Numeral
import GraphServe.Text.Class.Unshown

/-!
# Character classes

Classes of the characters of all scripts. The tables hold the characters beyond ASCII; letters and
digits of ASCII are known without them, so every class extends its narrower one
(`isAlphanumeric_of_isAlphanum`, `isSpace_of_isWhitespace`).
-/

namespace GraphServe.Text

/-- Whether a code is in one of the given ranges. -/
def inRanges (ranges : List (Nat × Nat)) (code : Nat) : Bool :=
  ranges.any fun range => range.1 ≤ code && code ≤ range.2

/-- Letters of all scripts, and the signs that count as such. -/
def isAlphabetic (c : Char) : Bool :=
  c.isAlpha || (0x80 ≤ c.toNat && inRanges alphabeticRanges c.toNat)

/-- Letters and numerals of all scripts. -/
def isAlphanumeric (c : Char) : Bool :=
  isAlphabetic c || c.isDigit || (0x80 ≤ c.toNat && inRanges numeralRanges c.toNat)

theorem isAlphanumeric_of_isAlphanum {c : Char} (h : c.isAlphanum = true) :
    isAlphanumeric c = true := by
  rw [Char.isAlphanum, Bool.or_eq_true] at h
  cases h with
  | inl letter => simp [isAlphanumeric, isAlphabetic, letter]
  | inr digit => simp [isAlphanumeric, digit]

/-- Characters that combine with the one before them. -/
def isExtending (c : Char) : Bool := 0x80 ≤ c.toNat && inRanges extendingRanges c.toNat

/-- Characters of the two control blocks. -/
def isControl (c : Char) : Bool := c.toNat < 0x20 || (0x7F ≤ c.toNat && c.toNat < 0xA0)

/-- Characters that show nothing by themselves, the blank apart. -/
def isUnshown (c : Char) : Bool := isControl c || (0x80 ≤ c.toNat && inRanges unshownRanges c.toNat)

/-- Ranges of the characters that separate words and lines, each with its first and its last code. -/
def spaceRanges : List (Nat × Nat) :=
  [(0x09, 0x0D), (0x20, 0x20), (0x85, 0x85), (0xA0, 0xA0), (0x1680, 0x1680), (0x2000, 0x200A),
   (0x2028, 0x2029), (0x202F, 0x202F), (0x205F, 0x205F), (0x3000, 0x3000)]

/-- Characters that separate words and lines. -/
def isSpace (c : Char) : Bool := inRanges spaceRanges c.toNat

theorem isSpace_of_isWhitespace {c : Char} (h : c.isWhitespace = true) : isSpace c = true := by
  simp only [Char.isWhitespace, Bool.or_eq_true, decide_eq_true_eq] at h
  rcases h with ((h | h) | h) | h <;> subst h <;> decide

/-- A text without the space at both ends. -/
def trim (chars : List Char) : List Char :=
  ((chars.dropWhile isSpace).reverse.dropWhile isSpace).reverse

end GraphServe.Text
