import GraphServe.Error
import GraphServe.Transfer

/-!
# Backend configuration

Everything needed to build a backend, with its defaults. A configuration is valid if its batch and
pool sizes are positive, an engine backend has a model path, and all caller sizes are positive; the
rules are checked in this order.
-/

namespace GraphServe

/-- Which backend to build. -/
inductive BackendKind where
  /-- A compiled graph on a device. -/
  | engine
  /-- A stand-in with fixed outputs. -/
  | mock
deriving DecidableEq, Repr

/-- The form of log lines. -/
inductive LogFormat where
  | compact
  | pretty
  | json
deriving DecidableEq, Repr

/-- What is logged, and how. -/
structure LoggingConfig where
  level : String
  format : LogFormat
deriving DecidableEq, Repr

/-- Everything needed to build a backend. -/
structure BackendConfig where
  modelPath : String
  kind : BackendKind
  useGpu : Bool
  batchSize : UInt64
  /-- The sizes of each input, with or without the batch axis. -/
  inputSizes : List (List Int64)
  policy : SizePolicy
  /-- Limit on the memory of a device of the backend's own. -/
  memoryLimit : Option UInt64
  /-- Instances in a pool. -/
  poolSize : UInt64
  logging : LoggingConfig
deriving DecidableEq, Repr

/-- Logs at the level `info`, one compact line each. -/
def LoggingConfig.default : LoggingConfig := ⟨"info", .compact⟩

namespace BackendConfig

/-- The configuration of the model at a path, with default values. -/
def new (modelPath : String) : BackendConfig where
  modelPath := modelPath
  kind := .engine
  useGpu := true
  batchSize := 1
  inputSizes := []
  policy := .strict
  memoryLimit := none
  poolSize := 1
  logging := .default

/-- The default configuration, which has no model path. -/
def default : BackendConfig := new ""

/-- The first size vector with a size that is not positive. -/
def badSizes? (c : BackendConfig) : Option (List Int64) :=
  c.inputSizes.find? fun sizes => sizes.any (· ≤ 0)

/-- Checks a configuration. -/
def validate (c : BackendConfig) : Except EngineError Unit :=
  if c.batchSize = 0 then .error (.config "batch_size must be at least 1")
  else if c.poolSize = 0 then .error (.config "pool_size must be at least 1")
  else if c.kind = .engine ∧ c.modelPath.isEmpty then .error (.config "model_path is empty")
  else
    match c.badSizes? with
    | some sizes => .error (.config s!"input sizes must be positive, got {renderSizes sizes}")
    | none => .ok ()

end BackendConfig

end GraphServe
