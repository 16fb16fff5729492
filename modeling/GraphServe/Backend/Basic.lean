import GraphServe.Backend.Engine
import GraphServe.Backend.Mock

/-!
# Backends

A backend is an engine backend or a mock. An engine backend runs either on a device that it shares
with others, which is handed to it with every call, or on a device of its own, which it carries.
-/

namespace GraphServe

/-- A backend of either kind. -/
inductive Backend where
  /-- An engine backend on the shared device. -/
  | shared (backend : EngineBackend)
  /-- An engine backend on a device of its own. -/
  | alone (backend : EngineBackend) (device : Device)
  | mock (backend : MockBackend)

namespace Backend

/-- The identifier of the kind of backend. -/
def name : Backend → String
  | .shared _ => "gpu-engine"
  | .alone _ _ => "gpu-engine"
  | .mock _ => "mock"

/-- Runs one call. -/
def infer (b : Backend) (d : Device) (inputs : List Bytes) (elapsed : Duration) :
    Outcome (Backend × Device) InferenceOutput :=
  match b with
  | .shared e =>
    let (result, e, d) := e.infer d inputs elapsed
    (result, .shared e, d)
  | .alone e own =>
    let (result, e, own) := e.infer own inputs elapsed
    (result, .alone e own, d)
  | .mock m =>
    let (result, m) := m.infer inputs
    (result, .mock m, d)

/-- Gives back what the backend holds on the shared device. -/
def close (d : Device) : Backend → Device
  | .shared e => e.close d
  | .alone _ _ => d
  | .mock _ => d

/-- The engine backend, if it is one. -/
def engine? : Backend → Option EngineBackend
  | .shared e => some e
  | .alone e _ => some e
  | .mock _ => none

/-- What the backend tells about its model. -/
def modelInfo : Backend → ModelInfo
  | .shared e => e.modelInfo
  | .alone e _ => e.modelInfo
  | .mock m => m.modelInfo

/-- The batch size. -/
def batchSize : Backend → UInt64
  | .shared e => e.batchSize
  | .alone e _ => e.batchSize
  | .mock m => m.batchSize

/-- The path of the model. -/
def modelPath : Backend → String
  | .shared e => e.modelPath
  | .alone e _ => e.modelPath
  | .mock _ => MockBackend.modelPath

/-- Whether the backend runs on an accelerator. -/
def isGpuAvailable : Backend → Bool
  | .shared _ => true
  | .alone _ _ => true
  | .mock _ => false

/-- The call statistics. -/
def stats : Backend → Stats
  | .shared e => e.stats
  | .alone e _ => e.stats
  | .mock m => m.stats

/-- The bytes of memory that the backend holds. -/
def memoryUsage : Backend → Nat
  | .shared e => e.memoryUsage
  | .alone e _ => e.memoryUsage
  | .mock m => m.memoryUsage

/-- Gives caches back. -/
def clearCache : Backend → Backend
  | .mock m => .mock m.clearCache
  | b => b

/-- Whether calls are accepted. -/
def isUsable : Backend → Bool
  | .shared e => e.isUsable
  | .alone e _ => e.isUsable
  | .mock _ => true

/-- Takes new sizes for the inputs of an engine backend. -/
def reconfigure? (b : Backend) (d : Device) (sizes : List (List Int64)) :
    Option (Outcome (Backend × Device) Unit) :=
  match b with
  | .shared e =>
    let (result, e, d) := e.reconfigure d sizes
    some (result, .shared e, d)
  | .alone e own =>
    let (result, e, own) := e.reconfigure own sizes
    some (result, .alone e own, d)
  | .mock _ => none

end Backend

end GraphServe
