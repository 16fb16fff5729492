import GraphServe.Setting.Basic

/-!
# Nodes of YAML documents

A node is a scalar, a list or a table. A scalar without quotes and tags has the type that its text
reads as. The keys of a table are scalars, and no key occurs twice (`entries?_nodup`).
-/

namespace GraphServe.Setting.Yaml

/-- A value without parts. -/
inductive Scalar where
  | null
  | flag (b : Bool)
  | integer (i : Int64)
  /-- A number by its text. -/
  | real (text : String)
  | text (s : String)
deriving DecidableEq, Repr

/-- A value of a document. -/
inductive Node where
  /-- What is not of the type that its tag names. -/
  | bad
  | scalar (s : Scalar)
  | list (items : List Node)
  | table (entries : List (Scalar × Node))
deriving Repr

/-- The node without a value. -/
def Node.null : Node := .scalar .null

/-! ## Scalars -/

namespace Scalar

/-- The integer that a text in a base writes, with or without a sign. -/
def based? (base : Nat) (isDigit : Char → Bool) (text : List Char) : Option Scalar :=
  let (negative, digits) := Numeric.splitSign text
  let n : Int := Text.numberOf base digits
  if digits.isEmpty || !digits.all isDigit then none
  else
    (within Int64.minValue.toInt Int64.maxValue.toInt (if negative then -n else n)).map fun i =>
      .integer (Int64.ofInt i)

/-- The integer that a text of decimal digits writes. -/
def decimal? (text : List Char) : Option Scalar := based? 10 Text.isDigit text

/-- The integer that a text with the mark of a base, or with a further plus sign in front, writes. -/
def marked? (text : List Char) : Option Scalar :=
  match text with
  | '0' :: 'x' :: digits => based? 16 Text.isHexDigit digits
  | '0' :: 'o' :: digits => based? 8 (fun c => '0' ≤ c && c ≤ '7') digits
  | '+' :: digits => decimal? digits
  | _ => none

/-- Names of the infinities and of what is not a number. -/
def realNames : List String :=
  [".inf", ".Inf", ".INF", "+.inf", "+.Inf", "+.INF", "-.inf", "-.Inf", "-.INF", ".nan", "NaN",
    ".NAN"]

/-- The number that a text writes. -/
def real? (s : String) : Option Scalar :=
  if s ∈ realNames || (Numeric.readReal? s.toList).isSome then some (.real s) else none

/-- The flag that a text names. -/
def flag? (s : String) : Option Scalar :=
  if s = "true" then some (.flag true)
  else if s = "false" then some (.flag false)
  else none

/-- The scalar that a text without quotes and tags writes. -/
def ofPlain (s : String) : Scalar :=
  match marked? s.toList with
  | some scalar => scalar
  | none =>
    if s ∈ ["", "~", "null"] then .null
    else (((flag? s).or (decimal? s.toList)).or (real? s)).getD (.text s)

/-- What the names of the common types begin with. -/
def commonTypes : String := "tag:yaml.org,2002:"

/-- The scalar of the type that a tag names, if the text is of that type. -/
def ofTagged? (handle suffix : String) (s : String) : Option Scalar :=
  if handle != commonTypes then some (.text s)
  else
    match suffix with
    | "bool" => flag? s
    | "int" => decimal? s.toList
    | "float" => real? s
    | "null" => if s ∈ ["~", "null"] then some .null else none
    | _ => some (.text s)

/-- The name that a scalar stands for as a key. -/
def name? : Scalar → Option String
  | .null => none
  | .flag b => some (toString b)
  | .integer i => some (toString i)
  | .real written => some written
  | .text s => some s

/-- The setting of a scalar. The infinities have no reading as a setting, and what is not a number has
one only by its common name. -/
def setting? : Scalar → Option Setting
  | .null => some .nothing
  | .flag b => some (.flag b)
  | .integer i => some (.integer i)
  | .real written => (Numeric.readReal? written.toList).map .real
  | .text s => some (.text s)

end Scalar

/-! ## Tables -/

namespace Node

/-- The entries that keys and values in turn make, behind those already read. A key that is bad does
not count, so that the next node is a key, and so does a last key without a value. -/
def entries? (entries : List (Scalar × Node)) : List Node → Option (List (Scalar × Node))
  | [] => some entries
  | .bad :: rest => entries? entries rest
  | [_] => some entries
  | .scalar key :: value :: rest =>
    if key ∈ entries.map Prod.fst then none else entries? (entries ++ [(key, value)]) rest
  | .list _ :: _ => none
  | .table _ :: _ => none

/-- No key occurs twice. -/
theorem entries?_nodup {entries made : List (Scalar × Node)} {nodes : List Node}
    (h : entries? entries nodes = some made) (distinct : (entries.map Prod.fst).Nodup) :
    (made.map Prod.fst).Nodup := by
  fun_induction entries? entries nodes with
  | case1 entries =>
    cases h
    exact distinct
  | case2 entries rest ih => exact ih h distinct
  | case3 entries =>
    cases h
    exact distinct
  | case4 => cases h
  | case5 entries key value rest fresh ih =>
    refine ih h ?_
    rw [List.map_append]
    exact List.nodup_append.2 ⟨distinct, List.nodup_cons.2 ⟨List.not_mem_nil, List.nodup_nil⟩,
      fun a member b same => by
        rw [List.mem_singleton.1 same]
        intro e
        have e : a = key := e
        exact fresh (e ▸ member)⟩
  | case6 => cases h
  | case7 => cases h

/-- The table of keys and values in turn. -/
def tableOf? (nodes : List Node) : Option Node := (entries? [] nodes).map .table

/-! ## Settings -/

mutual

/-- The setting of a node. What is bad has no value. -/
def setting? : Node → Option Setting
  | .bad => some .nothing
  | .scalar s => s.setting?
  | .list items => (itemSettings? items).map .list
  | .table entries => (entrySettings? entries).map tableOf

/-- The settings of several nodes. -/
def itemSettings? : List Node → Option (List Setting)
  | [] => some []
  | item :: rest => do
    let s ← setting? item
    return s :: (← itemSettings? rest)

/-- The settings under the names of a table. -/
def entrySettings? : List (Scalar × Node) → Option (List (String × Setting))
  | [] => some []
  | (key, value) :: rest => do
    let name ← key.name?
    let s ← setting? value
    return (name, s) :: (← entrySettings? rest)

end

end Node

end GraphServe.Setting.Yaml
