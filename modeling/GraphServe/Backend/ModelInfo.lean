import GraphServe.Registry

/-!
# Model descriptions

What a backend tells about its model: for each input and output its name, its shape without the
leading batch axis, the batch size and the declared type.
-/

namespace GraphServe

/-- One input or output of a model, per sample. -/
structure LayerInfo where
  name : String
  shape : List Int64
  batchSize : UInt64
  dtype : DataType
deriving DecidableEq, Repr

/-- The inputs and outputs of a model. -/
structure ModelInfo where
  inputs : List LayerInfo
  outputs : List LayerInfo
deriving DecidableEq, Repr

namespace ModelInfo

/-- A tensor at a shape, without its leading axis. -/
def layer (batchSize : UInt64) (d : Descriptor) (s : Shape) : LayerInfo :=
  ⟨d.name, s.sizes.drop 1, batchSize, d.dtype⟩

/-- Describes the tensors of a registry at their shapes, given in binding order. -/
def ofRegistry (r : Registry) (shapes : List Shape) (batchSize : UInt64) : ModelInfo where
  inputs := List.zipWith (layer batchSize) r.inputs shapes
  outputs := List.zipWith (layer batchSize) r.outputs (shapes.drop r.inputCount)

/-- Adds an input at the end. -/
def addInput (m : ModelInfo) (l : LayerInfo) : ModelInfo := { m with inputs := m.inputs ++ [l] }

/-- Adds an output at the end. -/
def addOutput (m : ModelInfo) (l : LayerInfo) : ModelInfo := { m with outputs := m.outputs ++ [l] }

end ModelInfo

end GraphServe
