import GraphServe.Setting.Basic

/-!
# Numbers in TOML

Integers in four bases and decimal numbers, with single underscores between digits. A decimal
integer has no superfluous leading zero. `ungroup?_digits` says that what is left of a group is
digits only.
-/

namespace GraphServe.Setting.TomlNumber

/-- The digits of a run whose underscores each stand between two digits. -/
def ungroup? (isDigit : Char → Bool) : List Char → Option (List Char)
  | [] => none
  | [c] => if isDigit c then some [c] else none
  | c :: '_' :: rest => if isDigit c then (ungroup? isDigit rest).map (c :: ·) else none
  | c :: rest => if isDigit c then (ungroup? isDigit rest).map (c :: ·) else none

theorem ungroup?_digits {isDigit : Char → Bool} {text digits : List Char}
    (h : ungroup? isDigit text = some digits) : digits.all isDigit = true := by
  fun_induction ungroup? isDigit text generalizing digits with
  | case1 => cases h
  | case2 c digit =>
    cases h
    simp [digit]
  | case3 => cases h
  | case4 c rest digit ih =>
    obtain ⟨more, found, rfl⟩ := Option.map_eq_some_iff.1 h
    simp [digit, ih found]
  | case5 => cases h
  | case6 c rest _ _ digit ih =>
    obtain ⟨more, found, rfl⟩ := Option.map_eq_some_iff.1 h
    simp [digit, ih found]
  | case7 => cases h

/-- Decimal digits without a superfluous zero in front. -/
def wholeDigits? (text : List Char) : Option (List Char) :=
  match ungroup? Text.isDigit text with
  | some ('0' :: _ :: _) => none
  | digits? => digits?

/-- An integer in the given base. -/
def based? (base : Nat) (isDigit : Char → Bool) (text : List Char) : Option Setting :=
  (ungroup? isDigit text).bind fun digits => ofInt? (Text.numberOf base digits)

/-- The exponent of a number, if it has one. -/
def exponent? : List Char → Option (List Char)
  | [] => some []
  | e :: rest =>
    if e == 'e' || e == 'E' then
      let (mark, digits) := match rest with
        | '-' :: digits => (['-'], digits)
        | '+' :: digits => ([], digits)
        | digits => ([], digits)
      (ungroup? Text.isDigit digits).map fun digits => 'e' :: mark ++ digits
    else none

/-- The characters of a number that may be grouped. -/
def isGrouped (c : Char) : Bool := Text.isDigit c || c == '_'

/-- The fraction and the exponent of a number, of which one must be there. -/
def tail? : List Char → Option (List Char)
  | '.' :: rest => do
    let fraction ← ungroup? Text.isDigit (rest.takeWhile isGrouped)
    let exponent ← exponent? (rest.dropWhile isGrouped)
    return '.' :: fraction ++ exponent
  | [] => none
  | rest => exponent? rest

/-- A number with a fraction or an exponent. A positive one must be finite. -/
def real? (negative : Bool) (text : List Char) : Option Setting := do
  let whole ← wholeDigits? (text.takeWhile isGrouped)
  let tail ← tail? (text.dropWhile isGrouped)
  let bits ← Numeric.readUnsigned? negative (whole ++ tail)
  if bits.toNat = Numeric.Format.binary64.infinity then none else some (.real bits)

/-- A number behind its sign. -/
def unsigned? (negative : Bool) (text : List Char) : Option Setting :=
  match text with
  | ['i', 'n', 'f'] | ['n', 'a', 'n'] =>
    (Numeric.readReal? ((if negative then ['-'] else []) ++ text)).map .real
  | _ =>
    if text.all isGrouped then
      (wholeDigits? text).bind fun digits =>
        let n : Int := Text.numberOf 10 digits
        ofInt? (if negative then -n else n)
    else real? negative text

/-- The number that a text writes. -/
def read? (text : List Char) : Option Setting :=
  match text with
  | '0' :: 'x' :: digits => based? 16 Text.isHexDigit digits
  | '0' :: 'o' :: digits => based? 8 (fun c => '0' ≤ c && c ≤ '7') digits
  | '0' :: 'b' :: digits => based? 2 (fun c => c == '0' || c == '1') digits
  | _ =>
    let (negative, unsigned) := Numeric.splitSign text
    unsigned? negative unsigned

end GraphServe.Setting.TomlNumber
