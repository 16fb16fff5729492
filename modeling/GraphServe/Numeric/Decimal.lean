import GraphServe.Numeric.Binary
import GraphServe.Text.Scan

/-!
# Decimal text of numbers

Decimal text is read to the nearest 64-bit pattern. A pattern is written on the coarsest decimal
grid that has a value which reads back as the pattern, so with the fewest digits
(`onGrid?_reads_back`), and always positionally.
-/

namespace GraphServe.Numeric

open Text (isDigit numberOf)

/-! ## Reading -/

namespace Format

/-- The pattern nearest to `digits * 10 ^ exponent`. -/
def ofDecimal (f : Format) (negative : Bool) (digits : Nat) (exponent : Int) : Nat :=
  f.ofRatio negative (digits * Nat.pow 10 exponent.toNat) (Nat.pow 10 (-exponent).toNat)

end Format

/-- The place of the leading digit beyond which every number of 64 bits is infinite. -/
def largestPlace : Int := 310

/-- The place of the leading digit below which every number of 64 bits vanishes. -/
def smallestPlace : Int := -330

/-- The 64-bit pattern nearest to `digits * 10 ^ exponent`, where exponents far out of range are not
worked out. -/
def ofDecimalText (negative : Bool) (digits : List Char) (exponent : Int) : UInt64 :=
  let n := numberOf 10 digits
  let place : Int := digits.length + exponent
  UInt64.ofNat <|
    -- the exponent is kept from blowing up the powers of ten below
    if n = 0 || place < smallestPlace then Format.binary64.withSign negative 0
    else if largestPlace < place - (digits.takeWhile (· == '0')).length then
      Format.binary64.withSign negative Format.binary64.infinity
    else Format.binary64.ofDecimal negative n exponent

/-- The sign in front of a number and what follows it. -/
def splitSign : List Char → Bool × List Char
  | '-' :: text => (true, text)
  | '+' :: text => (false, text)
  | text => (false, text)

/-- The exponent that a text writes, digits only with an optional sign. -/
def readExponent? (text : List Char) : Option Int :=
  let (negative, digits) := splitSign text
  if digits.isEmpty || !digits.all isDigit then none
  else some (if negative then -(numberOf 10 digits : Int) else numberOf 10 digits)

/-- A number without a sign: digits with at most one point, at least one digit, and perhaps an
exponent. -/
def readUnsigned? (negative : Bool) (text : List Char) : Option UInt64 :=
  let whole := text.takeWhile isDigit
  let rest := text.dropWhile isDigit
  let (fraction, rest) := match rest with
    | '.' :: rest => (rest.takeWhile isDigit, rest.dropWhile isDigit)
    | rest => ([], rest)
  let exponent? := match rest with
    | [] => some 0
    | e :: rest => if e == 'e' || e == 'E' then readExponent? rest else none
  let digits := whole ++ fraction
  if digits.isEmpty then none
  else exponent?.map fun exponent => ofDecimalText negative digits (exponent - fraction.length)

/-- The 64-bit pattern a text stands for: a decimal number, or the name of an infinity or of the
not-a-number in any case. -/
def readReal? (text : List Char) : Option UInt64 :=
  let (negative, unsigned) := splitSign text
  let name := Text.lower (String.ofList unsigned)
  if name == "inf" || name == "infinity" then
    some (UInt64.ofNat (Format.binary64.withSign negative Format.binary64.infinity))
  else if name == "nan" then some (UInt64.ofNat (Format.binary64.quietNaN negative 0))
  else readUnsigned? negative unsigned

/-! ## Writing

The coarsest grid that has a value which reads back gives the fewest digits: if a value of a grid reads
back, so does one of the two next to the number on that grid. -/

/-- Whether `digits * 10 ^ place` reads back as the magnitude of a pattern. -/
def readsBack (magnitude : Nat) (place : Int) (digits : Nat) : Bool :=
  Format.binary64.ofDecimal false digits place == magnitude

/-- The multiple of `10 ^ place` that reads back as a magnitude of value `num / den` and lies next to
it, the nearer one if both neighbours do. -/
def onGrid? (magnitude num den : Nat) (place : Int) : Option Nat :=
  let num := num * Nat.pow 10 (-place).toNat
  let den := den * Nat.pow 10 place.toNat
  let below := num / den
  let remainder := num % den
  -- of two neighbours the nearer comes first, at an exact tie the even one
  let nearer := if 2 * remainder < den then [below, below + 1]
    else if den < 2 * remainder then [below + 1, below]
    else if below % 2 = 0 then [below, below + 1] else [below + 1, below]
  nearer.find? (readsBack magnitude place)

theorem onGrid?_reads_back {magnitude num den digits : Nat} {place : Int}
    (h : onGrid? magnitude num den place = some digits) :
    readsBack magnitude place digits = true :=
  List.find?_some h

/-- The places of decimal grids, coarsest first, down to one that separates all 64-bit numbers. -/
def gridPlaces : List Int := (List.range 670).map fun k : Nat => 310 - (k : Int)

/-- The fewest digits that read back, with the place of the last of them. -/
def shortestDigits (magnitude num den : Nat) : Nat × Int :=
  (gridPlaces.findSome? fun place =>
    (onGrid? magnitude num den place).map fun digits => (digits, place)).getD (0, 0)

/-- `digits * 10 ^ place` in positional notation, without a point if there is no fraction. -/
def positional (digits : Nat) (place : Int) : String :=
  if 0 ≤ place then toString (digits * Nat.pow 10 place.toNat)
  else
    let places := (-place).toNat
    let text := (toString digits).toList
    let padded := List.replicate (places + 1 - text.length) '0' ++ text
    String.ofList (padded.take (padded.length - places)) ++ "." ++
      String.ofList (padded.drop (padded.length - places))

/-- The sign of a number as it is written. -/
def signText (negative : Bool) : String := if negative then "-" else ""

/-- A 64-bit pattern as text. -/
def renderReal (bits : UInt64) : String :=
  match Format.binary64.decode bits.toNat with
  | .nan _ _ => "NaN"
  | .infinite negative => signText negative ++ "inf"
  | .finite negative significand exponent =>
    signText negative ++
      if significand = 0 then "0"
      else
        let magnitude := bits.toNat % Format.binary64.signWeight
        let (digits, place) := shortestDigits magnitude
          (significand <<< exponent.toNat) (1 <<< (-exponent).toNat)
        positional digits place

/-! ## Rounding to integers -/

/-- The integer nearest to a number, halves going away from zero, kept between two bounds. What is
not a number counts as zero. -/
def clampReal (low high : Int) (bits : UInt64) : Int :=
  match Format.binary64.decode bits.toNat with
  | .nan _ _ => max low (min high 0)
  | .infinite negative => if negative then low else high
  | .finite negative significand exponent =>
    let num := significand <<< exponent.toNat
    let den := 1 <<< (-exponent).toNat
    let rounded : Int := (2 * num + den) / (2 * den)
    max low (min high (if negative then -rounded else rounded))

end GraphServe.Numeric
