import GraphServe.Error
import GraphServe.Tensor.DataType
import GraphServe.Tensor.Declared

/-!
# Tensor descriptors

What a graph says about one of its tensors: its name, whether the graph reads or writes it, its
declared type and its declared shape.
-/

namespace GraphServe

/-- Whether the graph reads or writes a tensor. -/
inductive Direction where
  | input
  | output
deriving DecidableEq, Repr

/-- The static description of one graph tensor. -/
structure Descriptor where
  name : String
  direction : Direction
  dtype : DataType
  shape : DeclaredShape
deriving DecidableEq

namespace Descriptor

/-- Whether the graph reads the tensor. -/
def isInput (d : Descriptor) : Bool := d.direction == .input

/-- The element type that serves the tensor. -/
def elementType (d : Descriptor) : Except EngineError ElementType :=
  match d.dtype.elementType? with
  | some e => .ok e
  | none => .error (.unsupportedDType d.name d.dtype.name)

end Descriptor

end GraphServe
