import GraphServe.Device.Arena
import GraphServe.Tensor.Descriptor

/-!
# Launches

A launch runs a kernel on views of bound regions. It is refused without running anything if a
fault is armed, the kernel or the stream is unknown, or a binding does not name a region of its
own that is large enough. Of each bound region the kernel sees the bound bytes only, and only
regions bound as outputs are written.
-/

namespace GraphServe

/-- A tensor bound to a region for one launch. -/
structure Binding where
  name : String
  address : Address
  /-- The bytes of the region that the kernel may touch. -/
  bytes : Nat
  direction : Direction
  dtype : ElementType
  shape : Shape
deriving DecidableEq, Repr

namespace Device

/-- Checks the bindings in order; `seen` holds the addresses bound so far. -/
def checkBindings (d : Device) (seen : List Address) : List Binding → Except EngineError Unit
  | [] => .ok ()
  | b :: rest =>
    if b.address ∈ seen then
      .error (.execution s!"address {b.address.render} bound to more than one tensor")
    else
      match d.region? b.address with
      | none =>
        .error (.execution s!"tensor '{b.name}' bound to unknown address {b.address.render}")
      | some region =>
        if region.data.length < b.bytes then
          .error (.execution
            s!"tensor '{b.name}' binding of {b.bytes} bytes exceeds region of {region.data.length} bytes")
        else checkBindings d (b.address :: seen) rest

/-- What a kernel sees of a binding. -/
def view? (d : Device) (b : Binding) : Option TensorView :=
  (d.region? b.address).map fun region =>
    ⟨b.name, b.dtype, b.shape, region.data.take b.bytes⟩

/-- The views of the bindings with a direction, in binding order. -/
def views (d : Device) (direction : Direction) (bindings : List Binding) : List TensorView :=
  (bindings.filter (·.direction == direction)).filterMap d.view?

/-- Writes the bytes of each output to the start of its region. -/
def writeOutputs (d : Device) : List Binding → List Bytes → Device
  | b :: bindings, bytes :: outputs =>
    (d.updateRegion b.address (overlay bytes)).writeOutputs bindings outputs
  | _, _ => d

/-- How a kernel's failure surfaces. -/
def launchError (kernel : String) : EngineError → EngineError
  | .execution reason => .execution reason
  | e => .execution s!"kernel '{kernel}': {e.message}"

/-- Runs a kernel on checked bindings. -/
def runKernel (d : Device) (kernel : String) (body : Kernel) (payload : Bytes)
    (bindings : List Binding) : Outcome Device Unit :=
  let outputs := d.views .output bindings
  let run := body.run payload (d.views .input bindings) outputs
  let after := d.writeOutputs (bindings.filter (·.direction == .output))
    (writtenOutputs run.written outputs)
  (run.result.mapError (launchError kernel),
    if run.armsTransferFault then after.armTransferFault else after)

/-- Launches a kernel on a stream. -/
def launch (d : Device) (stream : Stream) (kernel : String) (payload : Bytes)
    (bindings : List Binding) : Outcome Device Unit :=
  -- an armed fault is used up before anything else is looked at
  if d.launchFault then
    (.error (.execution s!"kernel '{kernel}': injected fault"), { d with launchFault := false })
  else
    match d.kernels.get? kernel with
    | none => (.error (.kernelNotFound kernel), d)
    | some body =>
      if stream ∉ d.streams then
        (.error (.execution s!"launch on unknown stream {stream.handle}"), d)
      else
        match d.checkBindings [] bindings with
        | .error e => (.error e, d)
        | .ok () => d.runKernel kernel body payload bindings

end Device

end GraphServe
