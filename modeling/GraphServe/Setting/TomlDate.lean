import GraphServe.Text.Scan

/-!
# Dates and times in TOML

A date, a time of day, or both, with or without an offset from universal time. They count as texts
in one normal form: a capital letter between date and time, and a fraction of a second of at most
nine digits that does not end in a zero.
-/

namespace GraphServe.Setting.TomlDate

open Text (Scan)

/-- A number of exactly `count` digits within two bounds. -/
def field (count low high : Nat) : Scan (List Char) := do
  let digits ← (List.replicate count ()).mapM fun _ => Scan.one Text.isDigit
  let n := Text.numberOf 10 digits
  if low ≤ n ∧ n ≤ high then return digits else Scan.refuse

/-- Whether a year of the Gregorian calendar has a 29th of February. -/
def isLeap (year : Nat) : Bool := year % 4 == 0 && (year % 100 != 0 || year % 400 == 0)

/-- The number of days in a month. -/
def daysIn (year month : Nat) : Nat :=
  if month = 2 then if isLeap year then 29 else 28
  else if month ∈ [4, 6, 9, 11] then 30
  else 31

/-- A date. -/
def date : Scan (List Char) := do
  let year ← field 4 0 9999
  Scan.exact '-'
  let month ← field 2 1 12
  Scan.exact '-'
  let day ← field 2 1 (daysIn (Text.numberOf 10 year) (Text.numberOf 10 month))
  return year ++ ['-'] ++ month ++ ['-'] ++ day

/-- The digits of a fraction of a second in normal form. -/
def trimFraction (digits : List Char) : List Char :=
  ((digits.take 9).reverse.dropWhile (· == '0')).reverse

/-- The fraction of a second, if there is one. -/
def fraction : Scan (List Char) := do
  if ← Scan.accept '.' then
    let digits := trimFraction (← Scan.takeSome Text.isDigit)
    return if digits.isEmpty then [] else '.' :: digits
  else return []

/-- A time of day. -/
def time : Scan (List Char) := do
  let hour ← field 2 0 23
  Scan.exact ':'
  let minute ← field 2 0 59
  Scan.exact ':'
  let second ← field 2 0 60
  return hour ++ [':'] ++ minute ++ [':'] ++ second ++ (← fraction)

/-- The offset from universal time, if there is one. -/
def offset : Scan (List Char) := do
  match ← Scan.acceptAny ['Z', 'z', '+', '-'] with
  | none => return []
  | some sign =>
    if sign == 'Z' || sign == 'z' then return ['Z']
    else
      let hour ← field 2 0 23
      Scan.exact ':'
      let minute ← field 2 0 59
      let east := sign == '+' || (hour ++ minute).all (· == '0')
      return (if east then '+' else '-') :: hour ++ [':'] ++ minute

/-- A date, with or without a time of day. -/
def dateTime : Scan (List Char) := do
  let d ← date
  match ← Scan.acceptAny ['T', 't', ' '] with
  | none => return d
  | some _ =>
    let t ← time
    return d ++ ['T'] ++ t ++ (← offset)

/-- The normal form of a date, a time of day or both. -/
def read? (text : List Char) : Option String :=
  ((dateTime.all text).or (time.all text)).map String.ofList

end GraphServe.Setting.TomlDate
