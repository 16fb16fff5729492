import GraphServe.Text.Listing

/-!
# Tensor errors

What can be wrong with a shape, an element type or a string of element bytes, and how it is told.
-/

namespace GraphServe

/-- The causes of failures on tensor values. -/
inductive TensorError where
  /-- A concrete shape does not fit a declared one; a named axis counts as `-1`. -/
  | shapeMismatch (expected got : List Int64)
  | invalidDimension (axis : Nat) (value : Int64)
  | unsupportedDType (reason : String)
  /-- A byte string is not a whole number of elements. -/
  | byteLength (length elementSize : Nat) (dtype : String)
  | other (text : String)
deriving DecidableEq, Repr

/-- The sizes as they appear in messages. -/
def renderSizes (sizes : List Int64) : String := Text.bracketed (sizes.map toString)

/-- The wording of a tensor error. -/
def TensorError.message : TensorError → String
  | .shapeMismatch expected got =>
    s!"shape mismatch: expected {renderSizes expected}, got {renderSizes got}"
  | .invalidDimension axis value => s!"invalid dimension {value} at axis {axis}"
  | .unsupportedDType reason => s!"unsupported dtype: {reason}"
  | .byteLength length elementSize dtype =>
    s!"{length} bytes is not a whole number of {dtype} elements ({elementSize} bytes each)"
  | .other text => text

/-- The name of a tensor error's cause. -/
def TensorError.label : TensorError → String
  | .shapeMismatch _ _ => "ShapeMismatch"
  | .invalidDimension _ _ => "InvalidDimension"
  | .unsupportedDType _ => "UnsupportedDType"
  | .byteLength _ _ _ => "ByteLength"
  | .other _ => "Other"

end GraphServe
