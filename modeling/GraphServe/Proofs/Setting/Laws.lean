import GraphServe.Numeric.Decimal
import GraphServe.Proofs.Setting.Paths
import GraphServe.Setting.Library

/-!
# Laws of variables

What is known of how a library reads variables, for a source of the library (`VariableLaws`): which
names it considers and which paths they write, that what it places replaces what was there and
leaves everything apart from it alone, and what a text is worth that writes a word, a flag, a name
or itself.
-/

namespace GraphServe

open KeyPath (Apart)

/-! ## Texts of values -/

namespace Text

/-- A text that names no flag and reads as no number. -/
def Verbatim (text : String) : Prop :=
  lower text ≠ "true" ∧ lower text ≠ "false" ∧ Numeric.readReal? text.toList = none

instance (text : String) : Decidable (Verbatim text) :=
  inferInstanceAs (Decidable (_ ∧ _ ∧ _))

/-- A text of digits, and the number of at most 63 bits that it writes. -/
def WritesWord (text : String) (n : UInt64) : Prop :=
  text.toList ≠ [] ∧ text.toList.all isDigit = true ∧
    numberOf 10 text.toList = n.toNat ∧ n.toNat < wordBound / 2

instance (text : String) (n : UInt64) : Decidable (WritesWord text n) :=
  inferInstanceAs (Decidable (_ ∧ _ ∧ _ ∧ _))

/-- The words for a flag. -/
def flagWords : Bool → List String
  | true => ["true", "on", "yes"]
  | false => ["false", "off", "no"]

/-- A text that is a word for a flag in any case, or its digit. -/
def WritesFlag (text : String) (b : Bool) : Prop :=
  lower text ∈ flagWords b ∨ text = if b then "1" else "0"

/-- Whether a text begins with a letter in lower case. -/
def beginsWithLetter (word : String) : Bool := word.toList.head?.any (97 ≤ ·.toNat)

/-- A word in lower case that names neither a flag nor a number. -/
def IsPlainWord (word : String) : Prop :=
  beginsWithLetter word = true ∧ lower word = word ∧
    word ∉ ["true", "false", "inf", "infinity", "nan"]

instance (word : String) : Decidable (IsPlainWord word) :=
  inferInstanceAs (Decidable (_ ∧ _ ∧ _))

/-- A name of letters in lower case, digits and underscores. -/
def IsPlainName (name : List Char) : Prop :=
  name ≠ [] ∧ name.all (fun c => c.isLower || c.isDigit || c == '_') = true

instance (name : List Char) : Decidable (IsPlainName name) :=
  inferInstanceAs (Decidable (_ ∧ _))

end Text

open Text (lower pieces)

/-- The texts of the variables about a path, in order, if `path?` says what variables are about. -/
def Environment.texts (path? : String → Option KeyPath) (env : Environment) (p : KeyPath) :
    List String :=
  env.filterMap fun v => if path? v.1 = some p then some v.2 else none

namespace SettingLibrary

/-! ## Values under names -/

section

variable (library : SettingLibrary)

/-- The table that a value is, if it is one. -/
def table? (value : library.Value) : Option library.Table :=
  match library.record? value with
  | some (.named table) => some table
  | _ => none

/-- What a table holds under a path of names. -/
def at? (table : library.Table) : List String → Option library.Value
  | [] => none
  | [name] => library.entry? table name
  | name :: next :: names =>
    ((library.entry? table name).bind library.table?).bind fun inner => at? inner (next :: names)

theorem at?_single (table : library.Table) (name : String) :
    library.at? table [name] = library.entry? table name := rfl

theorem at?_pair (table : library.Table) (name next : String) :
    library.at? table [name, next] =
      ((library.entry? table name).bind library.table?).bind fun inner =>
        library.entry? inner next :=
  rfl

end

theorem table?_eq_some_iff {library : SettingLibrary} {value : library.Value}
    {table : library.Table} :
    library.table? value = some table ↔ library.record? value = some (.named table) := by
  rw [table?]
  rcases library.record? value with - | ⟨inner | items⟩ <;> simp

/-! ## Laws -/

/-- How a library reads the variables of a source. -/
structure VariableLaws (library : SettingLibrary) (source : EnvironmentSource) where
  /-- Where the variable of a name is placed, if the source considers it. -/
  path? : String → Option KeyPath
  /-- What the text of a variable is worth. -/
  value : String → library.Value
  /-- Only names are considered that begin, in any case, with the start of the source and the
  separator of paths, unless another one stands behind the start. -/
  considers : ∀ {start separator name : String} {p : KeyPath}, source.start = some start →
    source.startSeparator = none → source.separator = some separator → path? name = some p →
      (lower (start ++ separator)).toList <+: (lower name).toList
  /-- Separators in the rest of such a name stand between the names of a path. -/
  nests : ∀ {start separator name : String} {rest : List Char}, source.start = some start →
    source.startSeparator = none → source.separator = some separator →
      (lower name).toList = (lower (start ++ separator)).toList ++ rest →
        (∀ piece ∈ pieces separator.toList 0 rest, Text.IsPlainName piece) →
          path? name = some (.ofNames ((pieces separator.toList 0 rest).map String.ofList))
  /-- Every environment can be read. -/
  collects : ∀ env table, ∃ table', library.collectEnvironment source env table = .ok table'
  /-- A variable that is not considered makes no difference. -/
  ignores : ∀ {name : String}, path? name = none → ∀ text env table,
    library.collectEnvironment source ((name, text) :: env) table =
      library.collectEnvironment source env table
  /-- No variables leave the table as it is. -/
  keeps : ∀ table, library.collectEnvironment source [] table = .ok table
  /-- Variables override what was there: the last text for a path counts, if all other variables
  are about paths apart from it. -/
  overrides : ∀ {env : Environment} {table table' : library.Table} {names : List String},
    library.collectEnvironment source env table = .ok table' → names ≠ [] →
      (∀ name ∈ names, lower name = name) →
        (∀ v ∈ env, ∀ q, path? v.1 = some q → q = .ofNames names ∨ Apart names q.walk) →
          library.at? table' names =
            ((env.texts path? (.ofNames names)).getLast?.map value).or (library.at? table names)
  /-- A variable about something below a name makes a table there. -/
  tables : ∀ {env : Environment} {table table' : library.Table} {name : String},
    library.collectEnvironment source env table = .ok table' →
      (∀ v ∈ env, ∀ q, path? v.1 = some q → Apart [name] q.walk ∨ q.Below name) →
        (∃ v ∈ env, ∃ q, path? v.1 = some q ∧ q.Below name) →
          ∃ inner, (library.entry? table' name).bind library.table? = some inner
  /-- A text that is neither a flag nor a number is itself. -/
  text : ∀ {text : String}, Text.Verbatim text → library.text? (value text) = some text
  /-- Digits stand for their number, which is not none. -/
  word : ∀ {text : String} {n : UInt64}, Text.WritesWord text n →
    library.word? (value text) = some n ∧ library.isNothing (value text) = false
  /-- The words for a flag and its digit stand for it. -/
  flag : ∀ {text : String} {b : Bool}, Text.WritesFlag text b →
    library.flag? (value text) = some b
  /-- A name stands for itself in any case of its letters. -/
  variant : ∀ {text word : String} {words : List String}, lower text = word → word ∈ words →
    (∀ known ∈ words, Text.IsPlainWord known) → library.variant? words (value text) = some word

end SettingLibrary

end GraphServe
