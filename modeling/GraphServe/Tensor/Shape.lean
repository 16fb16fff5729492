import GraphServe.Tensor.Error

/-!
# Concrete shapes

A shape is a list of 64-bit dimension sizes. Sizes supplied by a caller are signed and must be
positive (`Shape.ofSizes`). The element count is the product of the sizes, multiplied up from the
left, and is given up as soon as a partial product leaves 64 bits (`Shape.elementCount?`).
-/

namespace GraphServe

/-- Numbers of 64 bits lie below this bound. -/
def wordBound : Nat := UInt64.size

/-- A concrete tensor shape. -/
structure Shape where
  dims : List UInt64
deriving DecidableEq, Repr

/-- The product of two numbers, if it fits in 64 bits. -/
def checkedMul (a b : Nat) : Option Nat := if a * b < wordBound then some (a * b) else none

namespace Shape

/-- The number of axes. -/
def rank (s : Shape) : Nat := s.dims.length

/-- The number of elements, if every partial product fits in 64 bits. -/
def elementCount? (s : Shape) : Option Nat :=
  s.dims.foldlM (fun count d => checkedMul count d.toNat) 1

/-- The sizes as signed numbers; the upper half of the range wraps to negative ones. -/
def sizes (s : Shape) : List Int64 := s.dims.map UInt64.toInt64

/-- The size of an axis. -/
def dim? (s : Shape) (axis : Nat) : Option UInt64 := s.dims[axis]?

/-- The first axis of size zero. -/
def zeroAxis? (s : Shape) : Option Nat := s.dims.findIdx? (· == 0)

/-- A shape as it appears in messages. -/
def render (s : Shape) : String := Text.bracketed (s.dims.map toString)

/-- The dimensions for caller sizes, the first of which belongs to `axis`. -/
def dimsOfSizes (axis : Nat) : List Int64 → Except TensorError (List UInt64)
  | [] => .ok []
  | value :: rest =>
    if value ≤ 0 then .error (.invalidDimension axis value)
    else do return value.toUInt64 :: (← dimsOfSizes (axis + 1) rest)

/-- The shape with the sizes a caller supplied, all of which must be positive. -/
def ofSizes (sizes : List Int64) : Except TensorError Shape := do
  return ⟨← dimsOfSizes 0 sizes⟩

end Shape

end GraphServe
