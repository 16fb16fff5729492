import GraphServe.Tensor.Descriptor

/-!
# Sizes of named axes

The inputs of a graph settle the sizes of the named axes: a name takes the size of the first input
axis that carries it, and every later one must agree. A declared shape then becomes concrete by
looking its names up.
-/

namespace GraphServe

/-- The size of a named axis, with the tensor that settled it. -/
structure AxisSize where
  symbol : String
  size : UInt64
  source : String
deriving DecidableEq, Repr

/-- The sizes of named axes, each name once. -/
abbrev AxisSizes : Type := List AxisSize

namespace AxisSizes

/-- The entry for a name. -/
def get? (sizes : AxisSizes) (symbol : String) : Option AxisSize :=
  sizes.find? (·.symbol == symbol)

/-- Settles the named axes of a tensor, given with their sizes. -/
def unifyAxes (tensor : String) : AxisSizes → List (Axis × UInt64) → Except EngineError AxisSizes
  | sizes, [] => .ok sizes
  | sizes, (.fixed _, _) :: rest => unifyAxes tensor sizes rest
  | sizes, (.dynamic symbol, size) :: rest =>
    match get? sizes symbol with
    | none => unifyAxes tensor (sizes ++ [⟨symbol, size, tensor⟩]) rest
    | some known =>
      if known.size = size then unifyAxes tensor sizes rest
      else
        .error (.invalidShape tensor
          s!"axis '{symbol}' is {size} here but {known.size} in '{known.source}'")

/-- Settles the named axes of the inputs, in order. Every input must have a shape. -/
def unifyInputs : AxisSizes → List Descriptor → List (Option Shape) →
    Except EngineError AxisSizes
  | sizes, d :: inputs, slot :: slots =>
    match slot with
    | none => .error (.shapeUnresolved d.name "input shape was never set")
    | some s => do unifyInputs (← unifyAxes d.name sizes (d.shape.axes.zip s.dims)) inputs slots
  | sizes, _, _ => .ok sizes

/-- The size of a declared axis of the named tensor. -/
def axisSize (sizes : AxisSizes) (tensor : String) : Axis → Except EngineError UInt64
  | .fixed size => .ok size
  | .dynamic symbol =>
    match get? sizes symbol with
    | some known => .ok known.size
    | none =>
      .error (.shapeUnresolved tensor s!"axis '{symbol}' is not determined by any input")

/-- The concrete shape of a tensor. -/
def evaluate (sizes : AxisSizes) (d : Descriptor) : Except EngineError Shape := do
  return ⟨← d.shape.axes.mapM (axisSize sizes d.name)⟩

end AxisSizes

end GraphServe
