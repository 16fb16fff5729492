import GraphServe.Numeric.Decimal

/-!
# Settings

A setting is a value whose type is found at run time, as it comes from a configuration file or from
the environment. Tables hold every name once (`names_upsert_nodup`). Conversions accept whatever can
be understood as the wanted type and refuse the rest.
-/

namespace GraphServe

/-- A value from a configuration source. -/
inductive Setting where
  | nothing
  | flag (b : Bool)
  | integer (i : Int64)
  | real (bits : UInt64)
  | text (s : String)
  | list (items : List Setting)
  | table (entries : List (String × Setting))
deriving Repr

namespace Setting

/-! ## Tables -/

/-- Changes the entry with a name, or adds it at the end. The change is told the old value. -/
def upsert (entries : List (String × α)) (name : String) (change : Option α → α) :
    List (String × α) :=
  match entries with
  | [] => [(name, change none)]
  | (n, old) :: rest =>
    if n = name then (n, change (some old)) :: rest else (n, old) :: upsert rest name change

theorem names_upsert (entries : List (String × α)) (name : String) (change : Option α → α) :
    (upsert entries name change).map Prod.fst =
      if name ∈ entries.map Prod.fst then entries.map Prod.fst
      else entries.map Prod.fst ++ [name] := by
  induction entries with
  | nil => simp [upsert]
  | cons entry rest ih =>
    obtain ⟨n, old⟩ := entry
    by_cases h : n = name
    · simp [upsert, h]
    · have h' : ¬name = n := fun e => h e.symm
      simp only [upsert, if_neg h, List.map_cons, ih, List.mem_cons, h', false_or]
      split <;> simp

/-- Changing or adding an entry keeps names from being repeated. -/
theorem names_upsert_nodup {entries : List (String × α)} {name : String}
    {change : Option α → α} (h : (entries.map Prod.fst).Nodup) :
    ((upsert entries name change).map Prod.fst).Nodup := by
  rw [names_upsert]
  split
  · exact h
  · rename_i fresh
    exact List.nodup_append.2 ⟨h, List.nodup_cons.2 ⟨List.not_mem_nil, List.nodup_nil⟩,
      fun a member b same => by
        rw [List.mem_singleton.1 same]
        exact fun e => fresh (e ▸ member)⟩

/-- The table of the given entries, of which the last of a name counts. -/
def tableOf (entries : List (String × Setting)) : Setting :=
  .table (entries.foldl (fun made (name, s) => upsert made name fun _ => s) [])

/-- The entries of a table; anything else counts as an empty table. -/
def entries : Setting → List (String × Setting)
  | .table entries => entries
  | _ => []

/-- The items of a list; anything else counts as an empty list. -/
def items : Setting → List Setting
  | .list items => items
  | _ => []

/-! ## Conversions -/

/-- The names of flags as texts in lower case. -/
def flagWord? (word : String) : Option Bool :=
  if word ∈ ["true", "on", "yes"] then some true
  else if word ∈ ["false", "off", "no"] then some false
  else none

/-- The number that a text of decimal digits with an optional sign writes. -/
def readInteger? (text : List Char) : Option Int :=
  let (negative, digits) := Numeric.splitSign text
  if digits.isEmpty || !digits.all Text.isDigit then none
  else
    let n : Int := Text.numberOf 10 digits
    some (if negative then -n else n)

/-- A number from a text: the names of flags count as one and zero. A minus sign is accepted only
where numbers may be negative. -/
def textNumber? (signed : Bool) (s : String) : Option Int :=
  match flagWord? (Text.lower s) with
  | some b => some (if b then 1 else 0)
  | none => if !signed && s.startsWith "-" then none else readInteger? s.toList

/-- A number between two bounds. -/
def within (low high : Int) (i : Int) : Option Int := if low ≤ i ∧ i ≤ high then some i else none

/-- The setting of an integer within the signed 64-bit range. -/
def ofInt? (i : Int) : Option Setting :=
  (within Int64.minValue.toInt Int64.maxValue.toInt i).map fun i => .integer (Int64.ofInt i)

/-- The setting as an integer between two bounds. A number with a fraction is rounded and clamped. -/
def toNumber? (low high : Int) : Setting → Option Int
  | .flag b => some (if b then 1 else 0)
  | .integer i => within low high i.toInt
  | .real bits => some (Numeric.clampReal low high bits)
  | .text s => (textNumber? (low < 0) s).bind (within low high)
  | .nothing => none
  | .list _ => none
  | .table _ => none

/-- The setting as a signed 64-bit number. -/
def toInt64? (s : Setting) : Option Int64 :=
  (s.toNumber? Int64.minValue.toInt Int64.maxValue.toInt).map Int64.ofInt

/-- The setting as an unsigned 64-bit number. -/
def toWord? (s : Setting) : Option UInt64 :=
  (s.toNumber? 0 (UInt64.size - 1)).map fun i => UInt64.ofNat i.toNat

/-- Whether a 64-bit pattern is one of the zeros. -/
def isZero (bits : UInt64) : Bool := bits.toNat % Numeric.Format.binary64.signWeight == 0

/-- The setting as a flag: numbers other than zero are true. -/
def toFlag? : Setting → Option Bool
  | .flag b => some b
  | .integer i => some (i != 0)
  | .real bits => some (!isZero bits)
  | .text s =>
    match Text.lower s with
    | "1" => some true
    | "0" => some false
    | word => flagWord? word
  | .nothing => none
  | .list _ => none
  | .table _ => none

/-- The setting as a text: flags and numbers are written out. -/
def toText? : Setting → Option String
  | .text s => some s
  | .flag b => some (toString b)
  | .integer i => some (toString i)
  | .real bits => some (Numeric.renderReal bits)
  | .nothing => none
  | .list _ => none
  | .table _ => none

/-- The one of the given names that a setting stands for, in any case. A table with one entry stands
for its name. -/
def toVariant? (names : List String) : Setting → Option String
  | .text name => names.find? fun known => Text.lower known == Text.lower name
  | .table [(name, _)] => names.find? fun known => Text.lower known == Text.lower name
  | _ => none

end Setting

end GraphServe
