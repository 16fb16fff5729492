import GraphServe.Text.Class

/-!
# Quoted text

Text in double quotes, as it is shown in reports: quotes and backslashes are preceded by a
backslash, the common control characters have letters of their own, and every other character that
cannot be seen standing alone is shown by its number. A plain character stands for itself
(`escape_of_plain`).
-/

namespace GraphServe.Text

/-- Whether a character cannot be seen standing alone. -/
def isHidden (c : Char) : Bool := isExtending c || isUnshown c

/-- One character inside quotes. -/
def escape (c : Char) : List Char :=
  if c = '"' then ['\\', '"']
  else if c = '\\' then ['\\', '\\']
  else if c = '\n' then ['\\', 'n']
  else if c = '\r' then ['\\', 'r']
  else if c = '\t' then ['\\', 't']
  else if c = '\x00' then ['\\', '0']
  else if isHidden c then "\\u\x7b".toList ++ Nat.toDigits 16 c.toNat ++ ['\x7d']
  else [c]

theorem escape_of_plain {c : Char} (quote : c ≠ '"') (slash : c ≠ '\\')
    (seen : isHidden c = false) : escape c = [c] := by
  have special (d : Char) (h : isHidden d = true) : c ≠ d := by
    rintro rfl
    simp [seen] at h
  simp [escape, quote, slash, seen, special '\n' (by decide), special '\r' (by decide),
    special '\t' (by decide), special '\x00' (by decide)]

/-- A text in quotes. -/
def quoted (s : String) : String :=
  "\"" ++ String.ofList (s.toList.flatMap escape) ++ "\""

end GraphServe.Text
