import GraphServe.Buffer
import GraphServe.Context.AxisSizes
import GraphServe.Device.Launch
import GraphServe.Graph

/-!
# Execution contexts

A context holds what one graph needs to run on one stream: the concrete shape of every tensor as
far as it is known, the bindings for the next launch, and the phase of its life. Input shapes are
set while configuring; resolving the outputs completes the shapes; marking the buffers allocated
makes it ready; binding and launching take turns; a device failure poisons it for good. A refused
operation leaves the context as it was.
-/

namespace GraphServe

/-- The phases of a context's life. -/
inductive Phase where
  /-- Input shapes are being set. -/
  | configuring
  /-- Every tensor has a shape, and buffers are still to be allocated. -/
  | shapesResolved
  /-- Buffers exist and nothing is bound. -/
  | ready
  /-- Bindings are set for the next launch. -/
  | bound
  /-- The device failed. -/
  | poisoned
deriving DecidableEq, Repr

/-- The name of a phase. -/
def Phase.name : Phase → String
  | .configuring => "configuring"
  | .shapesResolved => "shapes-resolved"
  | .ready => "ready"
  | .bound => "bound"
  | .poisoned => "poisoned"

/-- A shape configuration to return to. -/
structure Snapshot where
  phase : Phase
  shapes : List (Option Shape)
deriving DecidableEq, Repr

/-- The state of one graph on one stream. Shapes are in binding order. -/
structure Context where
  graph : Graph
  stream : Stream
  phase : Phase
  shapes : List (Option Shape)
  bindings : List Binding

namespace Context

/-- Creates a context with a stream of its own, on a device that has the graph's kernel. -/
def create (d : Device) (graph : Graph) : Outcome Device Context :=
  if d.hasKernel graph.kernel then
    let (stream, d) := d.createStream
    (.ok ⟨graph, stream, .configuring, List.replicate graph.registry.size none, []⟩, d)
  else
    (.error (.kernelNotFound
      s!"'{graph.kernel}' is not available on device '{Device.name}'"), d)

/-- Destroys the context's stream. -/
def close (d : Device) (c : Context) : Device := (d.destroyStream c.stream).2

/-- Whether a device failure ended the context's use. -/
def isPoisoned (c : Context) : Bool := c.phase == .poisoned

/-- The context with no shape and nothing bound. -/
def cleared (c : Context) : Context :=
  { c with phase := .configuring, shapes := c.shapes.map fun _ => none, bindings := [] }

/-! ## Refusals -/

/-- Refuses an operation outside the phases that allow it. -/
def expect (c : Context) (allowed : List Phase) (operation : String) : Except EngineError Unit :=
  if c.phase ∈ allowed then .ok ()
  else .error (.invalidState s!"cannot {operation} while context is {c.phase.name}")

/-- Tells a refusal and keeps the context, or moves to the new one. -/
def commit (c : Context) (next : Except EngineError Context) : Outcome Context Unit :=
  match next with
  | .ok c' => (.ok (), c')
  | .error e => (.error e, c)

/-! ## Shapes -/

/-- The shape of an input after setting it. -/
def acceptShape (c : Context) (ordinal : Nat) (s : Shape) : Except EngineError Context := do
  c.expect [.configuring] "set an input shape"
  match (c.graph.registry.get? ordinal).filter Descriptor.isInput with
  | none => throw (.invalidState s!"ordinal {ordinal} is not an input")
  | some d =>
    if (0 : UInt64) ∈ s.dims then
      throw (.invalidShape d.name s!"{s.render} has a zero-sized axis")
    match d.shape.check s with
    | .error fault => throw (.invalidShape d.name fault.message)
    | .ok () => return { c with shapes := c.shapes.set ordinal (some s) }

/-- Sets the shape of an input. It must agree with the declaration and have no zero axis. -/
def setInputShape (c : Context) (ordinal : Nat) (s : Shape) : Outcome Context Unit :=
  c.commit (c.acceptShape ordinal s)

/-- The shape of every tensor that has one, or the first tensor that has none. -/
def requireShapes : List Descriptor → List (Option Shape) → Except EngineError (List Shape)
  | d :: tensors, slot :: slots =>
    match slot with
    | none => .error (.shapeUnresolved d.name "shape not resolved")
    | some s => do return s :: (← requireShapes tensors slots)
  | _, _ => .ok []

/-- The shapes of all tensors, in binding order. -/
def resolvedShapes (c : Context) : Except EngineError (List Shape) := do
  c.expect [.shapesResolved, .ready, .bound] "read resolved shapes"
  requireShapes c.graph.registry.all c.shapes

/-- The shape of a tensor, if it has one. -/
def shape? (c : Context) (ordinal : Nat) : Option Shape := (c.shapes[ordinal]?).join

/-- The context with the outputs' shapes filled in. -/
def deriveOutputs (c : Context) : Except EngineError Context := do
  c.expect [.configuring] "resolve output shapes"
  let registry := c.graph.registry
  let sizes ← AxisSizes.unifyInputs [] registry.inputs c.shapes
  let outputs ← registry.outputs.mapM (AxisSizes.evaluate sizes)
  return { c with
    phase := .shapesResolved
    shapes := c.shapes.take registry.inputCount ++ outputs.map some }

/-- Derives the shapes of the outputs from those of the inputs. -/
def resolveOutputs (c : Context) : Outcome Context (List Shape) :=
  match c.deriveOutputs with
  | .ok c => (c.resolvedShapes, c)
  | .error e => (.error e, c)

/-- Records that buffers for the resolved shapes exist. -/
def markAllocated (c : Context) : Outcome Context Unit :=
  c.commit do
    c.expect [.shapesResolved] "mark buffers allocated"
    return { c with phase := .ready }

/-- Forgets all shapes, so that inputs can be set again. -/
def resetShapes (c : Context) : Outcome Context Unit :=
  c.commit do
    c.expect [.configuring, .shapesResolved, .ready] "reset shapes"
    return c.cleared

/-- The configuration to return to. -/
def snapshot (c : Context) : Snapshot := ⟨c.phase, c.shapes⟩

/-- Returns to a configuration. A poisoned context stays poisoned. -/
def restore (c : Context) (s : Snapshot) : Context :=
  if c.isPoisoned then c else { c with phase := s.phase, shapes := s.shapes, bindings := [] }

/-! ## Bindings and launches -/

/-- The binding of a tensor to its buffer. -/
def bindingOf (d : Descriptor) (slot : Option Shape) (b : Buffer) :
    Except EngineError Binding :=
  match slot with
  | none => .error (.invalidState s!"tensor '{d.name}' has no resolved shape")
  | some s => do
    let bytes ← d.requiredBytes s
    if b.capacity < bytes then
      throw (.invalidState s!"buffer for '{d.name}' holds {b.capacity} bytes, {bytes} needed")
    return ⟨d.name, b.address, bytes, d.direction, b.dtype, s⟩

/-- The bindings of tensors to their buffers, in order. -/
def bindingsOf : List Descriptor → List (Option Shape) → List Buffer →
    Except EngineError (List Binding)
  | d :: tensors, slot :: slots, b :: buffers => do
    let first ← bindingOf d slot b
    return first :: (← bindingsOf tensors slots buffers)
  | _, _, _ => .ok []

/-- Binds every tensor to its buffer. Buffers come in binding order. -/
def bind (c : Context) (buffers : List Buffer) : Outcome Context Unit :=
  c.commit do
    c.expect [.ready] "bind buffers"
    let registry := c.graph.registry
    if buffers.length ≠ registry.size then
      throw (.invalidState s!"{buffers.length} buffers for {registry.size} tensors")
    let bindings ← bindingsOf registry.all c.shapes buffers
    return { c with phase := .bound, bindings }

/-- Drops the bindings without launching. -/
def clearBindings (c : Context) : Context :=
  if c.phase = .bound then { c with phase := .ready, bindings := [] } else c

/-- Ends the context's use. -/
def poison (c : Context) : Context := { c with phase := .poisoned, bindings := [] }

/-- Launches the graph's kernel on the bindings and waits for it. The bindings are used up either
way; a device failure poisons the context. -/
def enqueue (c : Context) (d : Device) : Outcome (Context × Device) Unit :=
  match c.expect [.bound] "enqueue" with
  | .error e => (.error e, c, d)
  | .ok () =>
    let (launched, d) := d.launch c.stream c.graph.kernel c.graph.payload c.bindings
    match launched.bind fun () => d.synchronize c.stream with
    | .ok () => (.ok (), { c with phase := .ready, bindings := [] }, d)
    | .error e =>
      -- a missing kernel, for one, says nothing about the device
      if e.isDeviceError then (.error e, c.poison, d)
      else (.error e, { c with phase := .ready, bindings := [] }, d)

end Context

end GraphServe
