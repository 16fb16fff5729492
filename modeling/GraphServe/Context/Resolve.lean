import GraphServe.Context.Basic
import GraphServe.SizeFit

/-!
# Resolving the shapes of a context

All shapes of a context are settled from the size vectors a caller gives, one per input. An input
without a vector takes its declared shape, which must then have fixed axes only; vectors past the
last input are ignored.
-/

namespace GraphServe

/-- The shape of an input with the caller's sizes, if there are any. -/
def inputShape (batchSize : UInt64) (d : Descriptor) (sizes : Option (List Int64)) :
    Except EngineError Shape :=
  match sizes with
  | some sizes => Prod.fst <$> fitInput batchSize d sizes
  | none =>
    match d.shape.static? with
    | some s => .ok s
    | none =>
      .error (.shapeUnresolved d.name
        s!"declared {d.shape.render} but no input sizes were supplied")

namespace Context

/-- Sets the shapes of inputs in order, the first of which has the given ordinal. -/
def setInputs (batchSize : UInt64) (c : Context) (ordinal : Nat) :
    List Descriptor → List (List Int64) → Outcome Context Unit
  | [], _ => (.ok (), c)
  | d :: inputs, sizes =>
    match inputShape batchSize d sizes.head? with
    | .error e => (.error e, c)
    | .ok s =>
      match c.setInputShape ordinal s with
      | (.error e, c) => (.error e, c)
      | (.ok (), c) => setInputs batchSize c (ordinal + 1) inputs sizes.tail

/-- Sets every input's shape from the caller's sizes and derives the outputs' shapes. -/
def resolve (batchSize : UInt64) (c : Context) (sizes : List (List Int64)) :
    Outcome Context (List Shape) :=
  match setInputs batchSize c 0 c.graph.registry.inputs sizes with
  | (.error e, c) => (.error e, c)
  | (.ok (), c) => c.resolveOutputs

end Context

end GraphServe
