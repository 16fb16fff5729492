import GraphServe.Tensor.Descriptor

/-!
# Byte sizes of tensors

The bytes that hold a tensor at a concrete shape: the element count times the element size, for a
served type, no axis of size zero and a product that fits in 64 bits at every step.
-/

namespace GraphServe

/-- The bytes needed for a tensor at a shape. -/
def Descriptor.requiredBytes (d : Descriptor) (s : Shape) : Except EngineError Nat := do
  let e ← d.elementType
  match s.zeroAxis? with
  | some axis => throw (.invalidShape d.name s!"axis {axis} of {s.render} is zero-sized")
  | none =>
    match s.elementCount?.bind (checkedMul · e.size) with
    | some bytes => return bytes
    | none => throw (.invalidShape d.name s!"byte size of {s.render} x {e.name} overflows")

end GraphServe
