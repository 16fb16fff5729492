import GraphServe.Config.Load
import GraphServe.Proofs.Except
import GraphServe.Proofs.Setting.Laws

/-!
# Fields of configurations

The fields of a configuration with one value, as a type: where each is found in a table, which
values of a library it takes, and which texts write a value (`readText?_of_writes`). A table has a
configuration exactly if each of these fields has its value and the sizes and the logging have
theirs (`ofTable?_eq_some_iff`), and the fields of a logging that is a table are found one by one
(`logging_eq_some_iff`).
-/

namespace GraphServe

/-! ## Fields with one value -/

/-- A field of a configuration with one value, as opposed to the lists of sizes. -/
inductive ScalarField where
  | modelPath
  | kind
  | useGpu
  | batchSize
  | policy
  | memoryLimit
  | poolSize
  | level
  | format
deriving DecidableEq

variable (library : SettingLibrary)

namespace ScalarField

/-- All of them. -/
def all : List ScalarField :=
  [.modelPath, .kind, .useGpu, .batchSize, .policy, .memoryLimit, .poolSize, .level, .format]

theorem mem_all (f : ScalarField) : f ∈ all := by cases f <;> decide

/-- The type of a field's values. -/
def Value : ScalarField → Type
  | .modelPath => String
  | .kind => BackendKind
  | .useGpu => Bool
  | .batchSize => UInt64
  | .policy => SizePolicy
  | .memoryLimit => Option UInt64
  | .poolSize => UInt64
  | .level => String
  | .format => LogFormat

/-- The value of a field. -/
def get : (f : ScalarField) → BackendConfig → f.Value
  | .modelPath, c => c.modelPath
  | .kind, c => c.kind
  | .useGpu, c => c.useGpu
  | .batchSize, c => c.batchSize
  | .policy, c => c.policy
  | .memoryLimit, c => c.memoryLimit
  | .poolSize, c => c.poolSize
  | .level, c => c.logging.level
  | .format, c => c.logging.format

/-- The value that a field takes from a value of a library. -/
def read? : (f : ScalarField) → library.Value → Option f.Value
  | .modelPath => library.text?
  | .kind => library.choice? BackendKind.names
  | .useGpu => library.flag?
  | .batchSize => library.word?
  | .policy => library.choice? SizePolicy.names
  | .memoryLimit => library.nullable? library.word?
  | .poolSize => library.word?
  | .level => library.text?
  | .format => library.choice? LogFormat.names

/-- The names that lead to a field in a file. -/
def names : ScalarField → List String
  | .modelPath => ["model_path"]
  | .kind => ["kind"]
  | .useGpu => ["use_gpu"]
  | .batchSize => ["batch_size"]
  | .policy => ["input_size_policy"]
  | .memoryLimit => ["device_memory_limit"]
  | .poolSize => ["pool_size"]
  | .level => ["logging", "level"]
  | .format => ["logging", "format"]

/-- The path to a field. -/
def path (f : ScalarField) : KeyPath := KeyPath.ofNames f.names

/-- What the names of variables for a field end in: its names in capital letters. -/
def capitals (f : ScalarField) : String :=
  "__".intercalate (f.names.map fun name => String.ofList (name.toList.map Char.toUpper))

/-- The name that a variable for a field has by the documentation. -/
def documentedName (f : ScalarField) : String := BackendConfig.variableStart ++ "_" ++ f.capitals

/-- The name that a variable for a field must have to be seen. -/
def seenName (f : ScalarField) : String := BackendConfig.variableStart ++ "__" ++ f.capitals

/-- A text that writes a value of a field: a name in any case of its letters, a word or digit for a
flag, the digits of a number of 63 bits, or a text itself, if it is no flag and no number. -/
def Writes : (f : ScalarField) → String → f.Value → Prop
  | .modelPath, text, a => Text.Verbatim text ∧ a = text
  | .kind, text, a => Text.lower text = BackendKind.name a
  | .useGpu, text, a => Text.WritesFlag text a
  | .batchSize, text, a => Text.WritesWord text a
  | .policy, text, a => Text.lower text = SizePolicy.name a
  | .memoryLimit, text, a => ∃ n, a = some n ∧ Text.WritesWord text n
  | .poolSize, text, a => Text.WritesWord text a
  | .level, text, a => Text.Verbatim text ∧ a = text
  | .format, text, a => Text.lower text = LogFormat.name a

/-! ## Texts of fields -/

section

variable {library} {source : EnvironmentSource} (laws : library.VariableLaws source)

/-- The value that the text of a variable has for a field. -/
def readText? (f : ScalarField) (text : String) : Option f.Value :=
  f.read? library (laws.value text)

theorem choice?_of_lower {α : Type} {choices : List (String × α)} {text word : String} {a : α}
    (hlower : Text.lower text = word) (hword : choices.lookup word = some a)
    (hplain : ∀ known ∈ choices.map Prod.fst, Text.IsPlainWord known) :
    library.choice? choices (laws.value text) = some a := by
  have hmem : word ∈ choices.map Prod.fst := by
    obtain ⟨before, after, rfl, -⟩ := List.lookup_eq_some_iff.1 hword
    simp
  rw [SettingLibrary.choice?, laws.variant hlower hmem hplain, Option.bind_some, hword]

/-- A text that writes a value of a field is read as this value. -/
theorem readText?_of_writes {f : ScalarField} {text : String} {a : f.Value}
    (h : f.Writes text a) : f.readText? laws text = some a := by
  cases f with
  | modelPath =>
    obtain ⟨hverbatim, rfl⟩ := h
    exact laws.text hverbatim
  | level =>
    obtain ⟨hverbatim, rfl⟩ := h
    exact laws.text hverbatim
  | memoryLimit =>
    obtain ⟨n, rfl, hwrites⟩ := h
    obtain ⟨hword, hsome⟩ := laws.word hwrites
    rw [readText?, read?, SettingLibrary.nullable?, hsome, hword]
    rfl
  | useGpu => exact laws.flag h
  | batchSize => exact (laws.word h).1
  | poolSize => exact (laws.word h).1
  | kind => exact choice?_of_lower laws h (BackendKind.lookup_name a) (by decide)
  | policy => exact choice?_of_lower laws h (SizePolicy.lookup_name a) (by decide)
  | format => exact choice?_of_lower laws h (LogFormat.lookup_name a) (by decide)

end

/-- The value of a field in a table: the default if there is no entry. -/
def settled (f : ScalarField) (table : library.Table) : Option f.Value :=
  (library.at? table f.names).elim (some (f.get .default)) (f.read? library)

end ScalarField

/-! ## Configurations in tables -/

variable {library} {table : library.Table} {c : BackendConfig}

theorem SettingLibrary.field?_eq {α : Type} (table : library.Table) (name : String) (default : α)
    (convert : library.Value → Option α) :
    library.field? table name default convert =
      (library.entry? table name).elim (some default) convert := by
  rw [field?]
  cases library.entry? table name <;> rfl

theorem ScalarField.settled_of_single {f : ScalarField} {name : String} (h : f.names = [name])
    (table : library.Table) :
    f.settled library table =
      (library.entry? table name).elim (some (f.get .default)) (f.read? library) := by
  rw [settled, h, SettingLibrary.at?_single]

namespace BackendConfig

/-- A configuration in a table: each field outside the logging has its entry's value, and the
logging is what the entry of this name says. -/
theorem ofTable?_eq_some_iff :
    ofTable? library table = some c ↔
      (∀ (f : ScalarField) (name : String), f.names = [name] →
        f.settled library table = some (f.get c)) ∧
      (library.entry? table "input_sizes").elim (some [])
        (library.list? (library.list? library.int64?)) = some c.inputSizes ∧
      (library.entry? table "logging").elim (some .default) (LoggingConfig.ofValue? library) =
        some c.logging := by
  simp only [ofTable?, Option.bind_eq_bind, Option.bind_eq_some_iff, SettingLibrary.field?_eq]
  constructor
  · rintro ⟨modelPath, hmodelPath, kind, hkind, useGpu, huseGpu, batchSize, hbatchSize,
      inputSizes, hinputSizes, policy, hpolicy, memoryLimit, hmemoryLimit, poolSize, hpoolSize,
      logging, hlogging, hc⟩
    cases hc
    refine ⟨?_, hinputSizes, hlogging⟩
    intro f name hname
    rw [ScalarField.settled_of_single hname]
    cases f with
    | level => cases hname
    | format => cases hname
    | modelPath => cases hname; exact hmodelPath
    | kind => cases hname; exact hkind
    | useGpu => cases hname; exact huseGpu
    | batchSize => cases hname; exact hbatchSize
    | policy => cases hname; exact hpolicy
    | memoryLimit => cases hname; exact hmemoryLimit
    | poolSize => cases hname; exact hpoolSize
  · rintro ⟨hscalar, hinputSizes, hlogging⟩
    have hvalue : ∀ (f : ScalarField) (name : String), f.names = [name] →
        (library.entry? table name).elim (some (f.get .default)) (f.read? library) =
          some (f.get c) := by
      intro f name hname
      rw [← ScalarField.settled_of_single hname]
      exact hscalar f name hname
    exact ⟨_, hvalue .modelPath _ rfl, _, hvalue .kind _ rfl, _, hvalue .useGpu _ rfl, _,
      hvalue .batchSize _ rfl, _, hinputSizes, _, hvalue .policy _ rfl, _,
      hvalue .memoryLimit _ rfl, _, hvalue .poolSize _ rfl, _, hlogging, rfl⟩

/-- The entry of the logging is absent or a table. -/
def TablesLogging (table : library.Table) : Prop :=
  library.entry? table "logging" = none ∨
    ∃ inner, (library.entry? table "logging").bind library.table? = some inner

/-- The entry of the logging is a list of the fields. -/
def ListsLogging (table : library.Table) : Prop :=
  ∃ value items, library.entry? table "logging" = some value ∧
    library.record? value = some (.listed items)

/-- In a table the fields of the logging are found one by one. -/
theorem logging_eq_some_iff (h : TablesLogging table) :
    (library.entry? table "logging").elim (some .default) (LoggingConfig.ofValue? library) =
        some c.logging ↔
      ScalarField.settled library .level table = some (ScalarField.get .level c) ∧
        ScalarField.settled library .format table = some (ScalarField.get .format c) := by
  simp only [ScalarField.settled, ScalarField.names, SettingLibrary.at?_pair, ScalarField.get]
  generalize c.logging = logging
  obtain ⟨level, format⟩ := logging
  rcases h with h | ⟨inner, h⟩
  · rw [h]
    constructor
    · intro hdefault
      cases hdefault
      exact ⟨rfl, rfl⟩
    · rintro ⟨hlevel, hformat⟩
      cases hlevel
      cases hformat
      rfl
  · obtain ⟨value, hvalue, htable⟩ := Option.bind_eq_some_iff.1 h
    have hrecord := SettingLibrary.table?_eq_some_iff.1 htable
    rw [h, hvalue]
    dsimp only [Option.elim_some, Option.bind_some]
    rw [LoggingConfig.ofValue?, hrecord]
    simp only [Option.bind_eq_bind, Option.bind_some, Option.bind_eq_some_iff,
      SettingLibrary.field?_eq]
    constructor
    · rintro ⟨_, hlevel, _, hformat, hmade⟩
      cases hmade
      exact ⟨hlevel, hformat⟩
    · rintro ⟨hlevel, hformat⟩
      exact ⟨_, hlevel, _, hformat, rfl⟩

/-- The logging that a configuration was read from is absent, a table or a list. -/
theorem tables_or_lists {logging : LoggingConfig}
    (h : (library.entry? table "logging").elim (some .default) (LoggingConfig.ofValue? library) =
      some logging) :
    TablesLogging table ∨ ListsLogging table := by
  cases hvalue : library.entry? table "logging" with
  | none => exact Or.inl (Or.inl hvalue)
  | some value =>
    rw [hvalue, Option.elim_some, LoggingConfig.ofValue?] at h
    obtain ⟨form, hrecord, -⟩ := Option.bind_eq_some_iff.1 h
    cases form with
    | named inner =>
      refine Or.inl (Or.inr ⟨inner, ?_⟩)
      rw [hvalue, Option.bind_some, SettingLibrary.table?_eq_some_iff, hrecord]
    | listed items => exact Or.inr ⟨value, items, hvalue, hrecord⟩

end BackendConfig

end GraphServe
