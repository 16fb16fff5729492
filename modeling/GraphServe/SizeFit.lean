import GraphServe.EngineFile.Table
import GraphServe.Tensor.Descriptor

/-!
# Fitting caller sizes to a declared rank

A caller gives the sizes of an input with or without the batch axis. A vector of the declared
length is taken as it is, one that is one short gets the batch size in front, and any other is
taken as given, cut off at the largest rank, and left for the context to refuse.
-/

namespace GraphServe

/-- How a size vector was matched to a declared rank. -/
inductive RankFit where
  | exact
  | batchPrepended
  | degraded
deriving DecidableEq, Repr

namespace RankFit

/-- The name of a fit. -/
def name : RankFit → String
  | .exact => "Exact"
  | .batchPrepended => "BatchPrepended"
  | .degraded => "Degraded"

/-- How a vector of the given length matches a rank. -/
def ofLength (length rank : Nat) : RankFit :=
  if length = rank then .exact
  else if length + 1 = rank then .batchPrepended
  else .degraded

/-- The sizes a vector stands for under a fit. -/
def apply (fit : RankFit) (batchSize : UInt64) (sizes : List Int64) : List Int64 :=
  match fit with
  | .exact => sizes
  | .batchPrepended => batchSize.toInt64 :: sizes
  | .degraded => sizes.take EngineFile.maxRank

end RankFit

/-- The shape that a size vector gives an input, and how it was matched. -/
def fitInput (batchSize : UInt64) (d : Descriptor) (sizes : List Int64) :
    Except EngineError (Shape × RankFit) :=
  let fit := RankFit.ofLength sizes.length d.shape.rank
  match Shape.ofSizes (fit.apply batchSize sizes) with
  | .ok shape => .ok (shape, fit)
  | .error fault => .error (.invalidShape d.name fault.message)

end GraphServe
