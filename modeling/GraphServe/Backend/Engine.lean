import GraphServe.Backend.ModelInfo
import GraphServe.Backend.Stats
import GraphServe.Config.Basic
import GraphServe.Context.Resolve

/-!
# The engine backend

An engine backend owns one graph, one context and one buffer per tensor on a device. Building it
succeeds as a whole or gives everything back. New sizes take effect as a whole or not at all, and
buffers that are large enough are kept. After a device failure the backend is unusable for good.
-/

namespace GraphServe

/-- A backend that runs a compiled graph on a device. Buffers are in binding order. -/
structure EngineBackend where
  modelPath : String
  batchSize : UInt64
  inputSizes : List (List Int64)
  policy : SizePolicy
  context : Context
  buffers : List Buffer
  modelInfo : ModelInfo
  stats : Stats
  /-- The text of the device failure that made the backend unusable. -/
  failure : Option String

namespace EngineBackend

/-- The graph that the backend runs. -/
def graph (b : EngineBackend) : Graph := b.context.graph

/-! ## Building and closing -/

/-- The backend of a configuration once its context and buffers are ready. -/
def assemble (config : BackendConfig) (context : Context) (buffers : List Buffer)
    (shapes : List Shape) : EngineBackend where
  modelPath := config.modelPath
  batchSize := config.batchSize
  inputSizes := config.inputSizes
  policy := config.policy
  context := context
  buffers := buffers
  modelInfo := ModelInfo.ofRegistry context.graph.registry shapes config.batchSize
  stats := .zero
  failure := none

/-- Allocates the buffers of a context whose shapes are resolved and makes it ready. On failure the
context is closed. -/
def prepare (d : Device) (config : BackendConfig) (context : Context) (shapes : List Shape) :
    Outcome Device EngineBackend :=
  match Buffer.allocateAll d context.graph.registry shapes with
  | (.error e, d) => (.error e, context.close d)
  | (.ok buffers, d) =>
    match context.markAllocated with
    | (.error e, context) => (.error e, context.close (Buffer.discardAll d buffers))
    | (.ok (), context) => (.ok (assemble config context buffers shapes), d)

/-- Builds the backend of a graph that was loaded. -/
def ofGraph (d : Device) (config : BackendConfig) (graph : Graph) : Outcome Device EngineBackend :=
  match Context.create d graph with
  | (.error e, d) => (.error e, d)
  | (.ok context, d) =>
    match context.resolve config.batchSize config.inputSizes with
    | (.error e, context) => (.error e, context.close d)
    | (.ok shapes, context) => prepare d config context shapes

/-- Loads the graph of a valid configuration. -/
def loadGraph (files : Files) (config : BackendConfig) : Except EngineError Graph := do
  config.validate
  Graph.load files config.modelPath

/-- Builds a backend on a device. -/
def build (files : Files) (config : BackendConfig) (d : Device) : Outcome Device EngineBackend :=
  match loadGraph files config with
  | .error e => (.error e, d)
  | .ok graph => ofGraph d config graph

/-- Gives the buffers and the stream back. -/
def close (d : Device) (b : EngineBackend) : Device :=
  b.context.close (Buffer.releaseAll d b.buffers).2

/-- Whether calls are accepted. -/
def isUsable (b : EngineBackend) : Bool := b.failure.isNone

/-- Refuses calls after a device failure. -/
def ensureUsable (b : EngineBackend) : Except EngineError Unit :=
  match b.failure with
  | some reason => .error (.unusable reason)
  | none => .ok ()

/-- The bytes of device memory that the backend holds. -/
def memoryUsage (b : EngineBackend) : Nat := Buffer.totalCapacity b.buffers

/-- The resolved shape of the tensor with a name. -/
def resolvedShape? (b : EngineBackend) (name : String) : Option Shape :=
  (b.graph.registry.ordinal? name).bind b.context.shape?

/-- Makes the backend unusable. -/
def poison (b : EngineBackend) (e : EngineError) : EngineBackend :=
  { b with context := b.context.poison, failure := some e.message }

/-! ## New sizes

All replacements are allocated before any buffer is given up, so that a failure, after which the
replacements made so far are given back, changes nothing. -/

/-- The buffer that has to take another's place at a new shape, if the other is too small. -/
def replacement (d : Device) (t : Descriptor) (s : Shape) (b : Buffer) :
    Outcome Device (Option Buffer) :=
  match t.requiredBytes s with
  | .error e => (.error e, d)
  | .ok bytes =>
    if bytes ≤ b.capacity then (.ok none, d)
    else
      match Buffer.allocate d t s with
      | (.error e, d) => (.error e, d)
      | (.ok buffer, d) => (.ok (some buffer), d)

/-- The replacements for all buffers at new shapes, up to the first failure. -/
def replacements (d : Device) : List Descriptor → List Shape → List Buffer →
    Progress (Option Buffer) × Device
  | t :: tensors, s :: shapes, b :: buffers =>
    match replacement d t s b with
    | (.error e, d) => (.stopped e, d)
    | (.ok new, d) =>
      let (rest, d) := replacements d tensors shapes buffers
      (rest.after new, d)
  | _, _, _ => (.finished, d)

/-- Puts replacements in place. -/
def install : List (Option Buffer) → List Buffer → List Buffer
  | new :: rest, old :: buffers => new.getD old :: install rest buffers
  | _, buffers => buffers

/-- The buffers that replacements displace. -/
def displaced : List (Option Buffer) → List Buffer → List Buffer
  | some _ :: rest, old :: buffers => old :: displaced rest buffers
  | none :: rest, _ :: buffers => displaced rest buffers
  | _, _ => []

/-- Takes new sizes for the inputs. On failure the sizes, shapes and buffers stay as they were. -/
def reconfigure (b : EngineBackend) (d : Device) (sizes : List (List Int64)) :
    Outcome (EngineBackend × Device) Unit :=
  match b.ensureUsable with
  | .error e => (.error e, b, d)
  | .ok () =>
    let snapshot := b.context.snapshot
    match b.context.resetShapes with
    | (.error e, context) => (.error e, { b with context }, d)
    | (.ok (), context) =>
      match context.resolve b.batchSize sizes with
      | (.error e, context) => (.error e, { b with context := context.restore snapshot }, d)
      | (.ok shapes, context) =>
        -- up to here, and while replacements are allocated, the old buffers are untouched
        match replacements d b.graph.registry.all shapes b.buffers with
        | (⟨new, some e⟩, d) =>
          (.error e, { b with context := context.restore snapshot },
            Buffer.discardAll d (new.filterMap id))
        | (⟨new, none⟩, d) =>
          let (_, d) := Buffer.releaseAll d (displaced new b.buffers)
          let buffers := install new b.buffers
          match context.markAllocated with
          | (.error e, context) => (.error e, { b with context, buffers }, d)
          | (.ok (), context) =>
            (.ok (),
              { b with
                context := context
                buffers := buffers
                modelInfo := ModelInfo.ofRegistry b.graph.registry shapes b.batchSize
                inputSizes := sizes },
              d)

/-! ## Calls -/

/-- Uploads checked inputs, launches the graph and downloads the outputs. -/
def execute (b : EngineBackend) (d : Device) (inputs : List Bytes) (expected : List Nat)
    (shapes : List Shape) : Outcome (Context × Device) InferenceOutput :=
  match Transfer.upload d b.graph.registry b.buffers inputs expected with
  | (.error e, d) => (.error e, b.context, d)
  | (.ok (), d) =>
    match b.context.bind b.buffers with
    | (.error e, context) => (.error e, context, d)
    | (.ok (), context) =>
      match context.enqueue d with
      | (.error e, context, d) => (.error e, context, d)
      | (.ok (), context, d) =>
        let (result, d) := Transfer.download d b.graph.registry b.buffers shapes
        (result, context, d)

/-- What a call has to pass before the device is touched: the resolved shapes and the byte sizes of
the inputs. -/
def screen (b : EngineBackend) (inputs : List Bytes) :
    Except EngineError (List Shape × List Nat) := do
  b.ensureUsable
  let shapes ← b.context.resolvedShapes
  let expected ← Transfer.validate b.policy b.graph.registry shapes inputs
  return (shapes, expected)

/-- The backend after a call that failed on the way through the device. -/
def afterFailure (b : EngineBackend) (context : Context) (e : EngineError) : EngineBackend :=
  let b := { b with stats := b.stats.recordFailure, context := context.clearBindings }
  if e.isDeviceError then b.poison e else b

/-- Runs one call. `elapsed` is the time that a successful call took. -/
def infer (b : EngineBackend) (d : Device) (inputs : List Bytes) (elapsed : Duration) :
    Outcome (EngineBackend × Device) InferenceOutput :=
  match b.screen inputs with
  -- a refused call counts as failed although it never reached the device
  | .error e => (.error e, { b with stats := b.stats.recordFailure }, d)
  | .ok (shapes, expected) =>
    match b.execute d inputs expected shapes with
    | (.ok output, context, d) =>
      (.ok output, { b with context, stats := b.stats.recordSuccess elapsed }, d)
    | (.error e, context, d) => (.error e, b.afterFailure context e, d)

end EngineBackend

end GraphServe
