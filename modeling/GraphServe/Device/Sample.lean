import GraphServe.Device.Kernel
import GraphServe.Tensor.Element

/-!
# Sample kernels

Small kernels that exercise a device: arithmetic on decoded inputs, an echo of the payload, a
report of the views, failures of every kind, and one that leaves a transfer fault behind.
-/

namespace GraphServe.Kernel

open Numeric (Format)

/-- Writes computed bytes to each output in turn. It stops at the first output whose length
differs, and what was written before stays. -/
def fillOutputs : (computed : List Bytes) → (outputs : List TensorView) → KernelRun
  | [], _ => .success []
  | _ :: _, [] => .failure (.other "output is missing")
  | bytes :: computed, out :: outputs =>
    if bytes.length = out.data.length then
      let rest := fillOutputs computed outputs
      { rest with written := bytes :: rest.written }
    else
      .failure (.other s!"output holds {out.data.length} bytes, {bytes.length} computed")

/-- Half of a floating-point pattern, rounded. -/
def halve (bits : UInt32) : UInt32 :=
  UInt32.ofNat (Format.binary32.mul bits.toNat (Format.binary32.ofRatio false 1 2))

/-- Halves the values of the first input and writes them in half precision. -/
def halfHead : Kernel where
  run _ inputs outputs :=
    match inputs with
    | [] => .failure (.other "input is missing")
    | x :: _ => fillOutputs [encodeF16 ((f32Values x.data).map halve)] outputs

/-- The first index of the greatest value of a row, where a value that is not a number never
displaces another. -/
def greatestIndex (row : List UInt32) : Nat :=
  let step := fun (best : Nat × UInt32) (next : UInt32 × Nat) =>
    if Format.binary32.lt best.2.toNat next.1.toNat then (next.2, next.1) else best
  (row.zipIdx.foldl step (0, row.headD 0)).1

/-- Splits the values of the first input into one row per leading index; writes the index of the
greatest value of each row, and the row length as often as there are rows. -/
def argmax : Kernel where
  run _ inputs outputs :=
    match inputs with
    | [] => .failure (.other "input is missing")
    | x :: _ =>
      match x.shape.dim? 0 with
      | none => .failure (.other "input has no leading axis")
      | some batch =>
        let values := f32Values x.data
        let row := values.length / batch.toNat
        let indices := (List.range batch.toNat).map fun k =>
          Int32.ofNat (greatestIndex ((values.drop (k * row)).take row))
        let lengths := List.replicate batch.toNat (Int64.ofNat row)
        fillOutputs [encodeI32 indices, encodeI64 lengths] outputs

/-- Adds the values of the first two inputs. -/
def pairSum : Kernel where
  run _ inputs outputs :=
    match inputs with
    | x :: y :: _ =>
      let a := f32Values x.data
      let b := f32Values y.data
      if a.length = b.length then
        let sums := List.zipWith
          (fun x y => UInt32.ofNat (Format.binary32.add x.toNat y.toNat)) a b
        fillOutputs [encodeF32 sums] outputs
      else .failure (.execution "operand lengths differ")
    | _ => .failure (.other "input is missing")

/-- Repeats the payload over every output; an empty payload stands for the number of inputs. -/
def echoPayload : Kernel where
  run payload inputs outputs :=
    let at_ := fun (k : Nat) =>
      if payload.isEmpty then UInt8.ofNat inputs.length else payload.getD (k % payload.length) 0
    .success (outputs.map fun out => (List.range out.data.length).map at_)

/-- One view as a line of a report. -/
def reportView (role : String) (v : TensorView) : String :=
  s!"{role} {v.name} {v.dtype.name} {v.shape.render} {v.data.length}"

/-- Fails with a report of the payload and the views. -/
def describe : Kernel where
  run payload inputs outputs :=
    let lines := s!"payload {payload.length}" :: inputs.map (reportView "in") ++
      outputs.map (reportView "out")
    .failure (.other ("; ".intercalate lines))

/-- Always fails in the same way. -/
def failing (e : EngineError) : Kernel where
  run _ _ _ := .failure e

/-- Sets every output byte and makes the next transfer fail. -/
def armTransfer : Kernel where
  run _ _ outputs := ⟨.ok (), outputs.map fun out => List.replicate out.data.length 0xFF, true⟩

/-- Fills every output with the length of the payload, modulo 256. -/
def fillLength : Kernel where
  run payload _ outputs :=
    .success (outputs.map fun out => List.replicate out.data.length (UInt8.ofNat payload.length))

end GraphServe.Kernel

namespace GraphServe.KernelTable

/-- The builtin kernels together with the sample kernels. -/
def samples : KernelTable :=
  builtin
    |>.insert "half_head" .halfHead
    |>.insert "argmax" .argmax
    |>.insert "pair_sum" .pairSum
    |>.insert "payload" .echoPayload
    |>.insert "describe" .describe
    |>.insert "fail_other" (.failing (.other "bad payload"))
    |>.insert "fail_exec" (.failing (.execution "stopped"))
    |>.insert "fail_transfer" (.failing (.transfer "lost"))
    |>.insert "arm_transfer" .armTransfer

end GraphServe.KernelTable
