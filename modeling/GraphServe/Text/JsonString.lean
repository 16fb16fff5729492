import GraphServe.Text.Scan

/-!
# JSON strings

The quoted form of a text in JSON documents: quotes, backslashes and control characters are escaped
and everything else stands for itself (`escapeJson_of_plain`).
-/

namespace GraphServe.Text

/-- One character inside a JSON string. -/
def escapeJson (c : Char) : List Char :=
  if c = '"' then ['\\', '"']
  else if c = '\\' then ['\\', '\\']
  else if c = '\n' then ['\\', 'n']
  else if c = '\r' then ['\\', 'r']
  else if c = '\t' then ['\\', 't']
  else if c = '\x08' then ['\\', 'b']
  else if c = '\x0c' then ['\\', 'f']
  else if c.toNat < 0x20 then ['\\', 'u'] ++ hexDigits 4 c.toNat
  else [c]

theorem escapeJson_of_plain {c : Char} (quote : c ≠ '"') (slash : c ≠ '\\')
    (plain : 0x20 ≤ c.toNat) : escapeJson c = [c] := by
  have special (d : Char) (h : d.toNat < 0x20) : c ≠ d := by
    rintro rfl
    omega
  have := Nat.not_lt.2 plain
  simp [escapeJson, quote, slash, special '\n' (by decide), special '\r' (by decide),
    special '\t' (by decide), special '\x08' (by decide), special '\x0c' (by decide), this]

/-- A text as a JSON string. -/
def jsonString (s : String) : String :=
  "\"" ++ String.ofList (s.toList.flatMap escapeJson) ++ "\""

end GraphServe.Text
