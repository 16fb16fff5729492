import GraphServe.Backend.ModelInfo
import GraphServe.Backend.Stats
import GraphServe.Transfer

/-!
# The mock backend

A stand-in for a classifier: one input, one output with a thousand fixed scores, and a constant
latency that is reported without being spent.
-/

namespace GraphServe

open Numeric (Format)

/-- A backend with fixed outputs. -/
structure MockBackend where
  batchSize : UInt64
  stats : Stats
  memoryUsage : Nat
deriving DecidableEq, Repr

namespace MockBackend

/-- The number of scores in the output. -/
def classCount : Nat := 1000

/-- The time that every call reports. -/
def latency : Duration := .ofMilliseconds 5

/-- The memory that a fresh instance reports. -/
def initialMemory : Nat := 50 * 1024 * 1024

/-- The memory that an instance reports once its cache is cleared. -/
def clearedMemory : Nat := 10 * 1024 * 1024

/-- The path that the backend reports. -/
def modelPath : String := "mock_model"

/-- A fresh instance. -/
def new (batchSize : UInt64) : MockBackend := ⟨batchSize, .zero, initialMemory⟩

/-- The score of a class: `0.001` plus `0.0001` for each unit of its last decimal digit, each step
rounded to 32 bits. -/
def classScore (i : Nat) : UInt32 :=
  let scaled := Format.binary32.mul (Format.binary32.ofInt (i % 10 : Nat))
    (Format.binary32.ofRatio false 1 10000)
  UInt32.ofNat (Format.binary32.add (Format.binary32.ofRatio false 1 1000) scaled)

/-- The one output of every successful call. -/
def output : InferenceOutput where
  outputs := [(List.range classCount).map fun i => .f32 (classScore i)]
  shapes := [[1, Int64.ofNat classCount]]

/-- Runs one call, which must have exactly one input. -/
def infer (b : MockBackend) (inputs : List Bytes) : Outcome MockBackend InferenceOutput :=
  if inputs.length ≠ 1 then
    (.error (.inputCount 1 inputs.length), { b with stats := b.stats.recordFailure })
  else (.ok output, { b with stats := b.stats.recordSuccess latency })

/-- The description of the stand-in's model. -/
def modelInfo (b : MockBackend) : ModelInfo where
  inputs := [⟨"input", [3, 224, 224], b.batchSize, .f32⟩]
  outputs := [⟨"output", [Int64.ofNat classCount], b.batchSize, .f32⟩]

/-- Gives the cache back. -/
def clearCache (b : MockBackend) : MockBackend := { b with memoryUsage := clearedMemory }

end MockBackend

end GraphServe
