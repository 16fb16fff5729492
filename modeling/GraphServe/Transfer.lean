import GraphServe.Buffer
import GraphServe.Tensor.Element

/-!
# Transfers between host and device

Inputs are checked against the resolved shapes before the device is touched. A strict policy
accepts exact lengths only; a lenient one uploads what fits and clears the rest. Outputs are copied
back and decoded by their element type.
-/

namespace GraphServe

/-- What to do with an input whose length is not the tensor's byte size. -/
inductive SizePolicy where
  /-- Refuse the call. -/
  | strict
  /-- Upload what fits and clear the rest. -/
  | lenient
deriving DecidableEq, Repr

/-- The decoded outputs of one call, with their shapes, batch axis included. -/
structure InferenceOutput where
  outputs : List (List Element)
  shapes : List (List Int64)
deriving DecidableEq, Repr

namespace Transfer

/-- The byte sizes of inputs at their shapes, for data that the policy accepts. -/
def expectedSizes (policy : SizePolicy) : List Descriptor → List Shape → List Bytes →
    Except EngineError (List Nat)
  | d :: inputs, s :: shapes, data :: rest => do
    let bytes ← d.requiredBytes s
    if data.length ≠ bytes ∧ policy = .strict then
      throw (.inputSize d.name bytes data.length)
    return bytes :: (← expectedSizes policy inputs shapes rest)
  | _, _, _ => .ok []

/-- Checks the number of inputs and their lengths, and returns the byte size of each. -/
def validate (policy : SizePolicy) (r : Registry) (shapes : List Shape) (inputs : List Bytes) :
    Except EngineError (List Nat) :=
  if inputs.length ≠ r.inputCount then .error (.inputCount r.inputCount inputs.length)
  else expectedSizes policy r.inputs shapes inputs

/-- Copies one input to its buffer. Data that are too short leave cleared bytes behind them. -/
def uploadInput (d : Device) (a : Address) (data : Bytes) (bytes : Nat) : Outcome Device Unit :=
  if data.length = bytes then d.copyIn a data
  else if data.length < bytes then
    match d.fill a 0 bytes with
    | (.error e, d) => (.error e, d)
    | (.ok (), d) => d.copyIn a data
  else d.copyIn a (data.take bytes)

/-- Copies inputs to their buffers in order and stops at the first failure. -/
def uploadEach (d : Device) : List Buffer → List Bytes → List Nat → Outcome Device Unit
  | b :: buffers, data :: inputs, bytes :: expected =>
    match uploadInput d b.address data bytes with
    | (.error e, d) => (.error e, d)
    | (.ok (), d) => uploadEach d buffers inputs expected
  | _, _, _ => (.ok (), d)

/-- Copies every input to its buffer. Buffers come in binding order. -/
def upload (d : Device) (r : Registry) (buffers : List Buffer) (inputs : List Bytes)
    (expected : List Nat) : Outcome Device Unit :=
  uploadEach d (buffers.take r.inputCount) inputs expected

/-- Copies one output back and decodes it. -/
def downloadOutput (d : Device) (t : Descriptor) (b : Buffer) (s : Shape) :
    Outcome Device (List Element) :=
  match t.elementType with
  | .error e => (.error e, d)
  | .ok dtype =>
    match t.requiredBytes s with
    | .error e => (.error e, d)
    | .ok bytes =>
      match d.copyOut b.address bytes with
      | (.error e, d) => (.error e, d)
      | (.ok data, d) => ((Element.decode dtype data).mapError .tensor, d)

/-- Copies outputs back in order and stops at the first failure. -/
def downloadEach (d : Device) : List Descriptor → List Buffer → List Shape →
    Outcome Device InferenceOutput
  | t :: outputs, b :: buffers, s :: shapes =>
    match downloadOutput d t b s with
    | (.error e, d) => (.error e, d)
    | (.ok values, d) =>
      match downloadEach d outputs buffers shapes with
      | (.error e, d) => (.error e, d)
      | (.ok rest, d) => (.ok ⟨values :: rest.outputs, s.sizes :: rest.shapes⟩, d)
  | _, _, _ => (.ok ⟨[], []⟩, d)

/-- Copies every output back. Buffers and shapes come in binding order. -/
def download (d : Device) (r : Registry) (buffers : List Buffer) (shapes : List Shape) :
    Outcome Device InferenceOutput :=
  downloadEach d r.outputs (buffers.drop r.inputCount) (shapes.drop r.inputCount)

end Transfer

end GraphServe
