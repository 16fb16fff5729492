import GraphServe.Config.Names
import GraphServe.Setting.Library

/-!
# Loading configurations

A configuration is read from a file with the environment laid over it, or from the environment
alone. A setting library gathers the two; here is how its tables are read. Names that no field has
are ignored, missing fields have their defaults, and the result must be valid.
-/

namespace GraphServe

variable (library : SettingLibrary)

/-- The logging configuration in a record of the level and the format. -/
def LoggingConfig.ofValue? (value : library.Value) : Option LoggingConfig := do
  match ← library.record? value with
  | .named table =>
    let level ← library.field? table "level" default.level library.text?
    let format ← library.field? table "format" default.format (library.choice? LogFormat.names)
    return ⟨level, format⟩
  | .listed items =>
    let level ← library.item? items 0 default.level library.text?
    let format ← library.item? items 1 default.format (library.choice? LogFormat.names)
    return ⟨level, format⟩

namespace BackendConfig

/-- The configuration in a table. -/
def ofTable? (table : library.Table) : Option BackendConfig := do
  return {
    modelPath := ← library.field? table "model_path" default.modelPath library.text?
    kind := ← library.field? table "kind" default.kind (library.choice? BackendKind.names)
    useGpu := ← library.field? table "use_gpu" default.useGpu library.flag?
    batchSize := ← library.field? table "batch_size" default.batchSize library.word?
    inputSizes := ← library.field? table "input_sizes" default.inputSizes
      (library.list? (library.list? library.int64?))
    policy := ← library.field? table "input_size_policy" default.policy
      (library.choice? SizePolicy.names)
    memoryLimit := ← library.field? table "device_memory_limit" default.memoryLimit
      (library.nullable? library.word?)
    poolSize := ← library.field? table "pool_size" default.poolSize library.word?
    logging := ← library.field? table "logging" default.logging (LoggingConfig.ofValue? library) }

/-- The valid configuration in a table. -/
def ofTable (table : library.Table) : Except EngineError BackendConfig :=
  match ofTable? library table with
  | none => .error (.unreadableConfig (library.complaint table))
  | some config => do
    config.validate
    return config

/-- What the names of variables for a configuration start with. -/
def variableStart : String := "IB"

/-- The variables for a configuration. -/
def environmentSource : EnvironmentSource where
  start := variableStart
  startSeparator := none
  separator := "__"
  tryParsing := true

/-- The table of a library with the environment over it. -/
def withEnvironment (environment : Environment) (table : library.Table) :
    Except EngineError library.Table :=
  (library.collectEnvironment environmentSource environment table).mapError .unreadableConfig

/-- The valid configuration of a file with the environment over it. -/
def load (files : Files) (environment : Environment) (path : String) :
    Except EngineError BackendConfig := do
  let file ← (library.collectFile files path library.empty).mapError .unreadableConfig
  ofTable library (← withEnvironment library environment file)

/-- The valid configuration of the environment alone. -/
def fromEnvironment (environment : Environment) : Except EngineError BackendConfig := do
  ofTable library (← withEnvironment library environment library.empty)

end BackendConfig

end GraphServe
