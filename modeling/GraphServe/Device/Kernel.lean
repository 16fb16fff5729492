import GraphServe.Error
import GraphServe.Tensor.DataType
import GraphServe.Tensor.Shape
import GraphServe.Text.Quoted

/-!
# Kernels

A kernel is the executable body of a graph. It is given the payload, views of the inputs and views
of the outputs, each in binding order, and says how it ended and what it wrote. A device knows its
kernels by name.
-/

namespace GraphServe

/-- What a kernel sees of a bound tensor. -/
structure TensorView where
  name : String
  dtype : ElementType
  shape : Shape
  data : Bytes
deriving DecidableEq, Repr

/-- The end of a kernel's run. Output `i` is written over the start of the `i`-th output view; what
was written stays even if the run failed. -/
structure KernelRun where
  result : Except EngineError Unit
  written : List Bytes
  /-- Whether the run makes the device's next transfer fail. -/
  armsTransferFault : Bool

/-- The executable body of a graph. -/
structure Kernel where
  run : (payload : Bytes) → (inputs outputs : List TensorView) → KernelRun

namespace KernelRun

/-- A run that succeeded. -/
def success (written : List Bytes) : KernelRun := ⟨.ok (), written, false⟩

/-- A run that failed before it wrote anything. -/
def failure (e : EngineError) : KernelRun := ⟨.error e, [], false⟩

end KernelRun

/-- The bytes of the outputs after a run: each view overlaid with what was written to it. -/
def writtenOutputs : (written : List Bytes) → (outputs : List TensorView) → List Bytes
  | _, [] => []
  | [], v :: views => v.data :: writtenOutputs [] views
  | bytes :: written, v :: views => overlay bytes v.data :: writtenOutputs written views

/-- Kernels by name. -/
structure KernelTable where
  entries : List (String × Kernel)

namespace KernelTable

/-- No kernels. -/
def empty : KernelTable := ⟨[]⟩

/-- The kernel with a name. -/
def get? (t : KernelTable) (name : String) : Option Kernel := t.entries.lookup name

/-- Whether there is a kernel with a name. -/
def contains (t : KernelTable) (name : String) : Bool := (t.get? name).isSome

/-- Adds a kernel; one of the same name is replaced. -/
def insert (t : KernelTable) (name : String) (kernel : Kernel) : KernelTable :=
  ⟨(name, kernel) :: t.entries.filter (·.1 != name)⟩

/-- The names in ascending order. -/
def names (t : KernelTable) : List String :=
  (t.entries.map Prod.fst).mergeSort (fun a b => !decide (b < a))

/-- A table as it appears in reports. -/
def render (t : KernelTable) : String :=
  s!"KernelRegistry \x7b kernels: {Text.bracketed (t.names.map Text.quoted)} \x7d"

end KernelTable

namespace Kernel

/-- Copies input `i` to output `i`, cut off or filled up with zero bytes to the output's length. -/
def identity : Kernel where
  run _ inputs outputs :=
    .success (outputs.mapIdx fun i out =>
      fitted out.data.length ((inputs[i]?.map TensorView.data).getD []))

/-- Clears every output. -/
def zeros : Kernel where
  run _ _ outputs := .success (outputs.map fun out => List.replicate out.data.length 0)

end Kernel

/-- The kernels every device starts with. -/
def KernelTable.builtin : KernelTable :=
  (KernelTable.empty.insert "identity" .identity).insert "zeros" .zeros

end GraphServe
