import GraphServe.Proofs.Config.Fields
import GraphServe.Proofs.Setting.Layered

/-!
# Layers of configurations

The environment over a file, for every library that reads variables by the laws, when each variable
that has to do with a field sets one field as a whole. Under the names of a field there is then the
last text for it, and else what the file has (`ScalarField.at?_under`), so every field is read from
the environment first (`ScalarField.settled_under`). A configuration that is read from the file
becomes the overlaid one (`BackendConfig.ofTable?_under`), and a text that is no value of its field
leaves none (`BackendConfig.ofTable?_under_eq_none`). The two together say what loading gives for
every file that loads on its own (`BackendConfig.load_layers`).

The separator stands behind the start of a variable's name as well, so a variable is seen under a
name with two underscores there. The documented names have one, and a variable under such a name
changes nothing.
-/

namespace GraphServe

open Text (lower pieces)
open KeyPath (Apart)

variable {library : SettingLibrary} {env : Environment}
  (laws : library.VariableLaws BackendConfig.environmentSource)

/-! ## Variables -/

/-- The path goes apart from all that a configuration reads, sizes or fields with one value. -/
def KeyPath.Foreign (p : KeyPath) : Prop :=
  Apart ["input_sizes"] p.walk ∧ ∀ f : ScalarField, Apart f.names p.walk

namespace SettingLibrary.VariableLaws

/-- The text for a field: that of the last variable that is about it. -/
def given? (env : Environment) (f : ScalarField) : Option String :=
  (env.texts laws.path? f.path).getLast?

/-- Whether the environment has something below the logging. -/
def TouchesLogging (env : Environment) : Prop :=
  ∃ v ∈ env, ∃ p, laws.path? v.1 = some p ∧ p.Below "logging"

/-- The environment has something below the logging, but not both of its fields. -/
def SplitsLogging (env : Environment) : Prop :=
  laws.TouchesLogging env ∧ ¬((laws.given? env .level).isSome ∧ (laws.given? env .format).isSome)

/-- Every variable that has to do with a field sets a field with one value, as a whole. -/
def SetsWholeFields (env : Environment) : Prop :=
  ∀ v ∈ env, ∀ p, laws.path? v.1 = some p → p.Foreign ∨ ∃ f : ScalarField, p = f.path

/-- Every text for a field has a value for it. -/
def Readable (env : Environment) : Prop :=
  ∀ (f : ScalarField) (text : String), laws.given? env f = some text →
    (f.readText? laws text).isSome

variable {laws}

theorem exists_of_given? {f : ScalarField} {text : String} (h : laws.given? env f = some text) :
    ∃ v ∈ env, laws.path? v.1 = some f.path := by
  obtain ⟨v, hv, hvalue⟩ := List.mem_filterMap.1 (List.mem_of_getLast? h)
  split at hvalue
  · next hpath => exact ⟨v, hv, hpath⟩
  · cases hvalue

theorem touchesLogging_of_given? {f : ScalarField} {name text : String}
    (hname : f.names = ["logging", name]) (hgiven : laws.given? env f = some text) :
    laws.TouchesLogging env := by
  obtain ⟨v, hv, hpath⟩ := exists_of_given? hgiven
  refine ⟨v, hv, f.path, hpath, "logging", name, [], ?_, by decide⟩
  rw [ScalarField.path, hname]
  rfl

end SettingLibrary.VariableLaws

namespace ScalarField

/-! ## Names of variables -/

/-- The names that lead to a field with separators between them. -/
def key (f : ScalarField) : List Char := ("__".intercalate f.names).toList

theorem lower_seenName (f : ScalarField) :
    (lower f.seenName).toList = (lower ("IB" ++ "__")).toList ++ f.key := by
  cases f <;> decide

theorem pieces_key (f : ScalarField) :
    (pieces "__".toList 0 f.key).map String.ofList = f.names := by
  cases f <;> decide

theorem isPlainName_of_mem_names (f : ScalarField) :
    ∀ name ∈ f.names, Text.IsPlainName name.toList := by
  cases f <;> decide

theorem isPlainName_of_mem_pieces_key (f : ScalarField) :
    ∀ piece ∈ pieces "__".toList 0 f.key, Text.IsPlainName piece := by
  intro piece hpiece
  have hname : String.ofList piece ∈ f.names := f.pieces_key ▸ List.mem_map_of_mem hpiece
  have hplain := f.isPlainName_of_mem_names _ hname
  rwa [String.toList_ofList] at hplain

theorem not_prefix_documentedName (f : ScalarField) :
    ¬(lower ("IB" ++ "__")).toList <+: (lower f.documentedName).toList := by
  cases f <;> decide

/-- A variable is seen under its own name. -/
theorem path?_seenName (f : ScalarField) : laws.path? f.seenName = some f.path := by
  have hpath := laws.nests rfl rfl rfl f.lower_seenName f.isPlainName_of_mem_pieces_key
  rwa [f.pieces_key] at hpath

/-- A variable is not seen under the documented name. -/
theorem path?_documentedName (f : ScalarField) : laws.path? f.documentedName = none := by
  rw [Option.eq_none_iff_forall_ne_some]
  intro p hpath
  exact f.not_prefix_documentedName (laws.considers rfl rfl rfl hpath)

theorem names_ne_nil (f : ScalarField) : f.names ≠ [] := by cases f <;> decide

theorem lower_of_mem_names (f : ScalarField) : ∀ name ∈ f.names, lower name = name := by
  cases f <;> decide

theorem apart_path {f g : ScalarField} (h : g ≠ f) : Apart f.names g.path.walk := by
  have hall : ∀ f ∈ all, ∀ g ∈ all, g ≠ f → Apart f.names g.path.walk := by
    decide
  exact hall f f.mem_all g g.mem_all h

theorem apart_inputSizes (f : ScalarField) : Apart ["input_sizes"] f.path.walk := by
  cases f <;> decide

end ScalarField

/-! ## The environment over a table -/

section under

variable {laws} {table table' : library.Table}

/-- A variable goes apart from the logging as a whole or below it. -/
theorem SettingLibrary.VariableLaws.SetsWholeFields.apart_or_below (h : laws.SetsWholeFields env) :
    ∀ v ∈ env, ∀ p, laws.path? v.1 = some p → Apart ["logging"] p.walk ∨ p.Below "logging" := by
  intro v hv p hp
  rcases h v hv p hp with hforeign | ⟨g, rfl⟩
  · exact KeyPath.apart_or_below (hforeign.2 .level)
  · -- one of the two fields of the logging is another one
    by_cases hlevel : g = .level
    · exact KeyPath.apart_or_below (ScalarField.apart_path (f := .format) (by rw [hlevel]; decide))
    · exact KeyPath.apart_or_below (ScalarField.apart_path hlevel)

variable (hcollect : library.collectEnvironment BackendConfig.environmentSource env table =
  .ok table')
include hcollect

/-- Under the names of a field there is the text for it, and else what was there before. -/
theorem ScalarField.at?_under (h : laws.SetsWholeFields env) (f : ScalarField) :
    library.at? table' f.names =
      ((laws.given? env f).map laws.value).or (library.at? table f.names) := by
  apply laws.overrides hcollect f.names_ne_nil f.lower_of_mem_names
  intro v hv p hp
  rcases h v hv p hp with hforeign | ⟨g, rfl⟩
  · exact Or.inr (hforeign.2 f)
  · by_cases hfg : g = f
    · exact Or.inl (hfg ▸ rfl)
    · exact Or.inr (ScalarField.apart_path hfg)

/-- Under a name that all variables go apart from there is what was there before. -/
theorem SettingLibrary.VariableLaws.entry?_under {name : String} (hlower : lower name = name)
    (h : ∀ v ∈ env, ∀ p, laws.path? v.1 = some p → Apart [name] p.walk) :
    library.entry? table' name = library.entry? table name := by
  have hnone : env.texts laws.path? (.ofNames [name]) = [] := by
    rw [Environment.texts, List.filterMap_eq_nil_iff]
    intro v hv
    rw [if_neg]
    intro hpath
    rcases h v hv _ hpath with hname | hnil
    · exact hname hlower
    · exact hnil
  have hfound := laws.overrides hcollect (List.cons_ne_nil name []) (by simpa using hlower)
    fun v hv p hp => Or.inr (h v hv p hp)
  rw [hnone] at hfound
  exact hfound

/-- A field under the layers has the value of its variable, if there is one, and else its own. -/
theorem ScalarField.settled_under (h : laws.SetsWholeFields env) (f : ScalarField) :
    f.settled library table' =
      match laws.given? env f with
      | some text => f.readText? laws text
      | none => f.settled library table := by
  rw [settled, ScalarField.at?_under hcollect h]
  cases laws.given? env f <;> rfl

end under

/-! ## Overlaid configurations -/

namespace BackendConfig

/-- The configuration of values for the fields with one value and lists of sizes. -/
def ofValues (value : (f : ScalarField) → f.Value) (inputSizes : List (List Int64)) :
    BackendConfig where
  modelPath := value .modelPath
  kind := value .kind
  useGpu := value .useGpu
  batchSize := value .batchSize
  inputSizes := inputSizes
  policy := value .policy
  memoryLimit := value .memoryLimit
  poolSize := value .poolSize
  logging := ⟨value .level, value .format⟩

theorem get_ofValues (value : (f : ScalarField) → f.Value) (inputSizes : List (List Int64))
    (f : ScalarField) : f.get (ofValues value inputSizes) = value f := by
  cases f <;> rfl

/-- A configuration with the values of the environment over its own. -/
def overlaid (c : BackendConfig) (env : Environment) : BackendConfig :=
  ofValues (fun f => ((laws.given? env f).bind (f.readText? laws)).getD (f.get c)) c.inputSizes

theorem get_overlaid (c : BackendConfig) (env : Environment) (f : ScalarField) :
    f.get (c.overlaid laws env) =
      ((laws.given? env f).bind (f.readText? laws)).getD (f.get c) :=
  get_ofValues _ _ f

/-- A configuration, if it is valid. -/
def validated (c : BackendConfig) : Except EngineError BackendConfig := do
  c.validate
  return c

section

variable {laws} {table table' : library.Table} {base : BackendConfig}
  (hcollect : library.collectEnvironment environmentSource env table = .ok table')
include hcollect

theorem settled_overlaid (hwhole : laws.SetsWholeFields env) (hreadable : laws.Readable env)
    {f : ScalarField}
    (hbase : laws.given? env f = none → f.settled library table = some (f.get base)) :
    f.settled library table' = some (f.get (base.overlaid laws env)) := by
  rw [f.settled_under hcollect hwhole, get_overlaid]
  cases hgiven : laws.given? env f with
  | none => exact hbase hgiven
  | some text =>
    obtain ⟨a, ha⟩ := Option.isSome_iff_exists.1 (hreadable f text hgiven)
    simp [ha]

/-- The logging of a table with a readable environment over it. -/
theorem logging_under (hwhole : laws.SetsWholeFields env)
    (hlist : ListsLogging table → ¬laws.SplitsLogging env)
    (hreadable : laws.Readable env)
    (hbase : (library.entry? table "logging").elim (some .default)
      (LoggingConfig.ofValue? library) = some base.logging) :
    (library.entry? table' "logging").elim (some .default) (LoggingConfig.ofValue? library) =
      some (base.overlaid laws env).logging := by
  by_cases htouches : laws.TouchesLogging env
  · -- a field that the environment does not give is read from the table, unless it has a list
    have hkept : ¬((laws.given? env .level).isSome ∧ (laws.given? env .format).isSome) →
        ScalarField.settled library .level table = some (ScalarField.get .level base) ∧
          ScalarField.settled library .format table = some (ScalarField.get .format base) := by
      intro hmissing
      rcases tables_or_lists hbase with htable | hitems
      · exact (logging_eq_some_iff htable).1 hbase
      · exact absurd ⟨htouches, hmissing⟩ (hlist hitems)
    have htable := laws.tables hcollect hwhole.apart_or_below htouches
    rw [logging_eq_some_iff (Or.inr htable)]
    constructor
    · apply settled_overlaid hcollect hwhole hreadable
      intro hlevel
      exact (hkept (by simp [hlevel])).1
    · apply settled_overlaid hcollect hwhole hreadable
      intro hformat
      exact (hkept (by simp [hformat])).2
  · have hsame : (base.overlaid laws env).logging = base.logging := by
      have hnone : ∀ (f : ScalarField) (name : String), f.names = ["logging", name] →
          laws.given? env f = none := by
        intro f name hname
        rw [Option.eq_none_iff_forall_ne_some]
        intro text hgiven
        exact htouches (SettingLibrary.VariableLaws.touchesLogging_of_given? hname hgiven)
      rw [overlaid, ofValues]
      simp only [hnone .level _ rfl, hnone .format _ rfl]
      rfl
    have hapart : ∀ v ∈ env, ∀ p, laws.path? v.1 = some p → Apart ["logging"] p.walk := by
      intro v hv p hp
      exact (hwhole.apart_or_below v hv p hp).resolve_right fun hbelow =>
        htouches ⟨v, hv, p, hp, hbelow⟩
    rw [SettingLibrary.VariableLaws.entry?_under hcollect (by decide) hapart, hsame]
    exact hbase

/-- A table with a readable environment over it has the overlaid configuration. -/
theorem ofTable?_under (hbase : ofTable? library table = some base)
    (hwhole : laws.SetsWholeFields env)
    (hlist : ListsLogging table → ¬laws.SplitsLogging env)
    (hreadable : laws.Readable env) :
    ofTable? library table' = some (base.overlaid laws env) := by
  obtain ⟨hscalar, hinputSizes, hlogging⟩ := ofTable?_eq_some_iff.1 hbase
  rw [ofTable?_eq_some_iff]
  refine ⟨?_, ?_, logging_under hcollect hwhole hlist hreadable hlogging⟩
  · intro f name hname
    exact settled_overlaid hcollect hwhole hreadable fun _ => hscalar f name hname
  · have hapart : ∀ v ∈ env, ∀ p, laws.path? v.1 = some p → Apart ["input_sizes"] p.walk := by
      intro v hv p hp
      rcases hwhole v hv p hp with hforeign | ⟨g, rfl⟩
      · exact hforeign.1
      · exact g.apart_inputSizes
    rw [SettingLibrary.VariableLaws.entry?_under hcollect (by decide) hapart]
    exact hinputSizes

/-- A text that is no value of its field leaves no configuration. -/
theorem ofTable?_under_eq_none (hwhole : laws.SetsWholeFields env) {f : ScalarField}
    {text : String} (hgiven : laws.given? env f = some text)
    (hbad : f.readText? laws text = none) : ofTable? library table' = none := by
  rw [Option.eq_none_iff_forall_ne_some]
  intro c hc
  obtain ⟨hscalar, -, hlogging⟩ := ofTable?_eq_some_iff.1 hc
  have hnone : f.settled library table' = none := by
    rw [f.settled_under hcollect hwhole, hgiven]
    exact hbad
  have hsome : f.settled library table' = some (f.get c) := by
    -- the fields of the logging stand in a table, which the variable itself has made
    have htable : ∀ name, f.names = ["logging", name] → TablesLogging table' := by
      intro name hname
      exact Or.inr (laws.tables hcollect hwhole.apart_or_below
        (SettingLibrary.VariableLaws.touchesLogging_of_given? hname hgiven))
    cases f with
    | level => exact ((logging_eq_some_iff (htable _ rfl)).1 hlogging).1
    | format => exact ((logging_eq_some_iff (htable _ rfl)).1 hlogging).2
    | modelPath => exact hscalar _ _ rfl
    | kind => exact hscalar _ _ rfl
    | useGpu => exact hscalar _ _ rfl
    | batchSize => exact hscalar _ _ rfl
    | policy => exact hscalar _ _ rfl
    | memoryLimit => exact hscalar _ _ rfl
    | poolSize => exact hscalar _ _ rfl
  rw [hnone] at hsome
  cases hsome

end

/-! ## Loading -/

variable {files : Files} {path : String} {base : BackendConfig} {file table : library.Table}

theorem load_eq (hfile : library.collectFile files path library.empty = .ok file)
    (hcollect : library.collectEnvironment environmentSource env file = .ok table) :
    load library files env path = ofTable library table := by
  simp only [load, withEnvironment, hfile, hcollect, Except.mapError, ok_bind]

theorem ofTable_of_some {c : BackendConfig} (h : ofTable? library table = some c) :
    ofTable library table = c.validated := by
  rw [ofTable, h]
  rfl

/-- A file that loads on its own has a configuration. -/
theorem exists_file_of_load (laws : library.VariableLaws environmentSource)
    (h : load library files [] path = .ok base) :
    ∃ file, library.collectFile files path library.empty = .ok file ∧
      ofTable? library file = some base := by
  cases hfile : library.collectFile files path library.empty with
  | error text =>
    rw [load, hfile] at h
    cases h
  | ok file =>
    rw [load_eq hfile (laws.keeps file)] at h
    refine ⟨file, rfl, ?_⟩
    cases hc : ofTable? library file with
    | none =>
      rw [ofTable, hc] at h
      cases h
    | some c =>
      rw [ofTable_of_some hc, validated] at h
      obtain ⟨-, -, h⟩ := bind_eq_ok_iff.1 h
      cases h
      rfl

/-- A variable that is not seen changes nothing. -/
theorem load_cons_of_unseen {name : String} (h : laws.path? name = none) (files : Files)
    (env : Environment) (path text : String) :
    load library files ((name, text) :: env) path = load library files env path := by
  simp only [load, withEnvironment, laws.ignores h]

/-- Loading a file that loads on its own with an environment over it, in which every variable that
has to do with a field sets a field as a whole, and which leaves a logging alone or gives both of
its fields if the file writes it as a list: each field has the value of its variable if there is
one, and else the file's, and the result must be valid. A text that is no value of its field is
refused. A variable for a field is seen under the name with two underscores behind the start; under
the documented one, with a single underscore, it changes nothing. -/
theorem load_layers {library : SettingLibrary} (laws : library.VariableLaws environmentSource)
    {files : Files} {path : String} {base : BackendConfig} {env : Environment}
    (hfile : load library files [] path = .ok base) (hwhole : laws.SetsWholeFields env)
    (hlist : ∀ file, library.collectFile files path library.empty = .ok file →
      ListsLogging file → ¬laws.SplitsLogging env) :
    (laws.Readable env → load library files env path = (base.overlaid laws env).validated) ∧
    (∀ (f : ScalarField) (text : String), laws.given? env f = some text →
      f.readText? laws text = none →
      ∃ reason, load library files env path = .error (.unreadableConfig reason)) ∧
    (∀ (f : ScalarField) (text : String) (a : f.Value), laws.given? env f = some text →
      f.Writes text a → f.readText? laws text = some a ∧ f.get (base.overlaid laws env) = a) ∧
    (∀ f : ScalarField, laws.given? env f = none → f.get (base.overlaid laws env) = f.get base) ∧
    (base.overlaid laws env).inputSizes = base.inputSizes ∧
    ∀ f : ScalarField, laws.path? f.seenName = some f.path ∧
      ∀ text, load library files ((f.documentedName, text) :: env) path =
        load library files env path := by
  obtain ⟨file, hcollected, hbase⟩ := exists_file_of_load laws hfile
  obtain ⟨table, hcollect⟩ := laws.collects env file
  refine ⟨?_, ?_, ?_, ?_, rfl, ?_⟩
  · intro hreadable
    rw [load_eq hcollected hcollect,
      ofTable_of_some (ofTable?_under hcollect hbase hwhole (hlist file hcollected) hreadable)]
  · intro f text hgiven hbad
    refine ⟨library.complaint table, ?_⟩
    rw [load_eq hcollected hcollect, ofTable, ofTable?_under_eq_none hcollect hwhole hgiven hbad]
  · intro f text a hgiven hwrites
    have hread := ScalarField.readText?_of_writes laws hwrites
    refine ⟨hread, ?_⟩
    rw [get_overlaid, hgiven, Option.bind_some, hread, Option.getD_some]
  · intro f hnone
    rw [get_overlaid, hnone, Option.bind_none, Option.getD_none]
  · intro f
    refine ⟨f.path?_seenName laws, ?_⟩
    exact load_cons_of_unseen laws (f.path?_documentedName laws) files env path

/-- A mock's configuration in a file. -/
def mockFile : Files where
  content name :=
    if name = "backend.toml" then .ok (Text.Utf8.encode "kind = \"mock\"\n") else .error .notFound

/-- What is in `mockFile`. -/
def mockConfig : BackendConfig := { BackendConfig.new "" with kind := .mock }

theorem load_mockFile : load .layered mockFile [] "backend.toml" = .ok mockConfig := by
  decide +kernel

/-- Layered settings read the variables for a configuration by the laws. -/
def layeredLaws : SettingLibrary.layered.VariableLaws environmentSource := Setting.variableLaws rfl

/-- Five variables over a file: one for each field of the logging, one for the batch size, one for
no field and one under a documented name. -/
theorem load_layers_mock :
    let env : Environment := [("IB__LOGGING__LEVEL", "warn,GraphServe=debug"),
      ("IB__LOGGING__FORMAT", "JSON"), ("IB__BATCH_SIZE", "0016"), ("IB__OTHER[0]", "1"),
      ("IB_POOL_SIZE", "8")]
    load .layered mockFile [] "backend.toml" = .ok mockConfig ∧ layeredLaws.SetsWholeFields env ∧
      ¬layeredLaws.SplitsLogging env ∧
      ∃ c, load .layered mockFile env "backend.toml" = .ok c ∧ c.batchSize = 16 ∧
        c.logging = ⟨"warn,GraphServe=debug", .json⟩ ∧ c.poolSize = 1 := by
  intro env
  have hwhole : layeredLaws.SetsWholeFields env := by
    intro v hv p hp
    simp only [env, List.mem_cons, List.not_mem_nil, or_false] at hv
    rcases hv with rfl | rfl | rfl | rfl | rfl
    · exact Or.inr ⟨.level, Option.some.inj (hp.symm.trans (by decide +kernel))⟩
    · exact Or.inr ⟨.format, Option.some.inj (hp.symm.trans (by decide +kernel))⟩
    · exact Or.inr ⟨.batchSize, Option.some.inj (hp.symm.trans (by decide +kernel))⟩
    · have hother : p = ⟨.entry "other", [.item 0]⟩ :=
        Option.some.inj (hp.symm.trans (by decide +kernel))
      exact Or.inl (hother ▸ ⟨by decide, fun f => by cases f <;> decide⟩)
    · have hunseen : layeredLaws.path? "IB_POOL_SIZE" = none := by decide +kernel
      rw [hunseen] at hp
      cases hp
  obtain ⟨hmodelPath, hkind, huseGpu, hbatchSize, hpolicy, hmemoryLimit, hpoolSize, hlevel,
      hformat⟩ :
      layeredLaws.given? env .modelPath = none ∧ layeredLaws.given? env .kind = none ∧
        layeredLaws.given? env .useGpu = none ∧ layeredLaws.given? env .batchSize = some "0016" ∧
        layeredLaws.given? env .policy = none ∧ layeredLaws.given? env .memoryLimit = none ∧
        layeredLaws.given? env .poolSize = none ∧
        layeredLaws.given? env .level = some "warn,GraphServe=debug" ∧
        layeredLaws.given? env .format = some "JSON" := by
    decide +kernel
  have hsplits : ¬layeredLaws.SplitsLogging env := by
    simp [SettingLibrary.VariableLaws.SplitsLogging, hlevel, hformat]
  obtain ⟨hload, -, hwrites, hkept, -⟩ :=
    load_layers layeredLaws load_mockFile hwhole fun _ _ _ => hsplits
  obtain ⟨hlevelRead, hlevelKept⟩ := hwrites .level _ "warn,GraphServe=debug" hlevel
    ⟨by decide +kernel, rfl⟩
  have hjson : Text.lower "JSON" = "json" := by decide
  obtain ⟨hformatRead, hformatKept⟩ := hwrites .format _ .json hformat hjson
  have hword : Text.WritesWord "0016" 16 := by decide +kernel
  obtain ⟨hbatchRead, hbatchKept⟩ := hwrites .batchSize _ (16 : UInt64) hbatchSize hword
  have hreadable : layeredLaws.Readable env := by
    intro f text hgiven
    cases f with
    | level =>
      obtain rfl := Option.some.inj (hlevel.symm.trans hgiven)
      exact Option.isSome_of_eq_some hlevelRead
    | format =>
      obtain rfl := Option.some.inj (hformat.symm.trans hgiven)
      exact Option.isSome_of_eq_some hformatRead
    | batchSize =>
      obtain rfl := Option.some.inj (hbatchSize.symm.trans hgiven)
      exact Option.isSome_of_eq_some hbatchRead
    | modelPath => cases hmodelPath.symm.trans hgiven
    | kind => cases hkind.symm.trans hgiven
    | useGpu => cases huseGpu.symm.trans hgiven
    | policy => cases hpolicy.symm.trans hgiven
    | memoryLimit => cases hmemoryLimit.symm.trans hgiven
    | poolSize => cases hpoolSize.symm.trans hgiven
  have hmade : load .layered mockFile env "backend.toml" =
      .ok (mockConfig.overlaid layeredLaws env) := by
    rw [hload hreadable]
    decide +kernel
  have hpool := hkept .poolSize hpoolSize
  generalize mockConfig.overlaid layeredLaws env = c
    at hmade hbatchKept hlevelKept hformatKept hpool
  exact ⟨load_mockFile, hwhole, hsplits, c, hmade, hbatchKept,
    congrArg₂ LoggingConfig.mk hlevelKept hformatKept, hpool⟩

/-- A variable under the name that the documentation gives changes nothing, although its text writes
another value than the field has. -/
theorem documented_name_unseen :
    ScalarField.documentedName .batchSize = "IB_BATCH_SIZE" ∧
      ScalarField.Writes .batchSize "4" (4 : UInt64) ∧
      layeredLaws.path? "IB_BATCH_SIZE" = none ∧
      load .layered mockFile [] "backend.toml" = .ok mockConfig ∧
      load .layered mockFile [("IB_BATCH_SIZE", "4")] "backend.toml" = .ok mockConfig ∧
      mockConfig.batchSize = 1 := by
  have hname : ScalarField.documentedName .batchSize = "IB_BATCH_SIZE" := by decide +kernel
  have hword : Text.WritesWord "4" 4 := by decide +kernel
  -- the rule that joins start and separator decides it
  have hunseen : layeredLaws.path? "IB_BATCH_SIZE" = none :=
    hname ▸ ScalarField.path?_documentedName layeredLaws .batchSize
  exact ⟨hname, hword, hunseen, load_mockFile,
    (load_cons_of_unseen layeredLaws hunseen _ _ _ _).trans load_mockFile, rfl⟩

end BackendConfig

end GraphServe
