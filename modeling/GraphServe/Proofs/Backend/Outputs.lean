import GraphServe.Backend.Basic
import GraphServe.Proofs.Tensor.Codec
import GraphServe.Proofs.Tensor.Size
import GraphServe.Proofs.Transfer
import Mathlib.Algebra.Order.Ring.Int

/-!
# Outputs and declared tensors

Each output of a call that ends well belongs to a declared tensor: its values are decoded from bytes
of the declared type, there is at least one of them, and its sizes are positive and multiply to
their number (`Rendered`). This holds output by output (`Agree`) for whatever a backend answers, in
whichever state the backend and the device are (`Backend.agree_of_infer`).
-/

namespace GraphServe

/-! ## Outputs of a declared type -/

/-- An output as its declared type and its sizes promise it. -/
structure Rendered (type : DataType) (values : List Element) (sizes : List Int64) : Prop where
  positive : ∀ n ∈ sizes, 0 < n.toInt
  prod_eq : (sizes.map Int64.toInt).prod = values.length
  decoded : ∃ dtype data, type.elementType? = some dtype ∧ Element.decode dtype data = .ok values

/-- The outputs of a call and their sizes, for the first of the declared types. -/
inductive Agree : List DataType → List (List Element) → List (List Int64) → Prop
  | nil (types : List DataType) : Agree types [] []
  | cons {type : DataType} {types : List DataType} {values : List Element} {sizes : List Int64}
    {outputs : List (List Element)} {shapes : List (List Int64)}
    (first : Rendered type values sizes) (rest : Agree types outputs shapes) :
    Agree (type :: types) (values :: outputs) (sizes :: shapes)

namespace Agree

variable {types : List DataType} {outputs : List (List Element)} {shapes : List (List Int64)}

theorem length_eq (h : Agree types outputs shapes) : shapes.length = outputs.length := by
  induction h with
  | nil types => rfl
  | cons first rest ih => rw [List.length_cons, List.length_cons, ih]

end Agree

/-! ## Downloads -/

namespace Transfer

/-- What was downloaded for a tensor is of its declared type, at its shape. -/
theorem rendered_of_downloadOutput {d d' : Device} {t : Descriptor} {u : Buffer} {s : Shape}
    {values : List Element} (h : downloadOutput d t u s = (.ok values, d')) :
    Rendered t.dtype values s.sizes := by
  rw [downloadOutput] at h
  cases hdtype : t.elementType with
  | error e =>
    rw [hdtype] at h
    cases h
  | ok dtype =>
    simp only [hdtype] at h
    cases hbytes : t.requiredBytes s with
    | error e =>
      rw [hbytes] at h
      cases h
    | ok bytes =>
      simp only [hbytes] at h
      rcases copyOut_cases d u.address bytes with
        ⟨reason, d₁, hcopy⟩ | ⟨data, d₁, hlength, hcopy⟩
      · rw [hcopy] at h
        cases h
      · simp only [hcopy] at h
        obtain ⟨hpositive, hprod, -⟩ := Descriptor.sizes_of_requiredBytes hbytes hdtype
        have hserved : t.dtype.elementType? = some dtype := by
          rw [Descriptor.elementType] at hdtype
          split at hdtype
          · next hsome =>
            cases hdtype
            exact hsome
          · cases hdtype
        cases hdecode : Element.decode dtype data with
        | error e =>
          rw [hdecode] at h
          cases h
        | ok decoded =>
          rw [hdecode] at h
          cases h
          refine ⟨hpositive, ?_, dtype, data, hserved, hdecode⟩
          rw [hprod, Element.length_of_decode hdecode, hlength]

/-- What was downloaded for tensors agrees with them, one by one. -/
theorem agree_of_downloadEach {d d' : Device} {tensors : List Descriptor} {buffers : List Buffer}
    {shapes : List Shape} {output : InferenceOutput}
    (h : downloadEach d tensors buffers shapes = (.ok output, d')) :
    Agree (tensors.map Descriptor.dtype) output.outputs output.shapes := by
  -- on the tensors, in whose order the outputs are downloaded
  induction tensors generalizing d buffers shapes output with
  | nil =>
    cases h
    exact .nil _
  | cons t tensors ih =>
    cases buffers with
    | nil =>
      cases h
      exact .nil _
    | cons u buffers =>
      cases shapes with
      | nil =>
        cases h
        exact .nil _
      | cons s shapes =>
        rw [downloadEach] at h
        rcases hfirst : downloadOutput d t u s with ⟨e | values, d₁⟩
        · rw [hfirst] at h
          cases h
        · simp only [hfirst] at h
          rcases hrest : downloadEach d₁ tensors buffers shapes with ⟨e | rest, d₂⟩
          · rw [hrest] at h
            cases h
          · rw [hrest] at h
            cases h
            exact .cons (rendered_of_downloadOutput hfirst) (ih hrest)

end Transfer

/-! ## Calls -/

namespace EngineBackend

variable {b : EngineBackend} {d : Device} {inputs : List Bytes} {elapsed : Duration}
  {output : InferenceOutput}

/-- The answer of a call that ends well is what the last of its stages downloads, at the shapes that
were looked up when the call began. -/
theorem exists_download_of_infer (h : (b.infer d inputs elapsed).1 = .ok output) :
    ∃ passed d₁ d₂, b.screen inputs = .ok passed ∧
      Transfer.download d₁ b.graph.registry b.buffers passed.1 = (.ok output, d₂) := by
  rw [infer] at h
  split at h
  · cases h
  · next shapes expected hscreen =>
    split at h
    · next result context d' hrun =>
      cases h
      rw [execute] at hrun
      split at hrun
      · cases hrun
      · split at hrun
        · cases hrun
        · split at hrun
          · cases hrun
          · next d₁ _ context' d₂ _ =>
            rcases hdown : Transfer.download d₂ b.graph.registry b.buffers shapes with ⟨result, d₃⟩
            rw [hdown] at hrun
            cases hrun
            exact ⟨(shapes, expected), d₂, d', hscreen, hdown⟩
    · cases h

/-- What an engine backend answers agrees with the outputs of its graph. -/
theorem agree_of_infer (h : (b.infer d inputs elapsed).1 = .ok output) :
    Agree (b.graph.registry.outputs.map Descriptor.dtype) output.outputs output.shapes := by
  obtain ⟨passed, d₁, d₂, -, hdown⟩ := exists_download_of_infer h
  exact Transfer.agree_of_downloadEach hdown

end EngineBackend

/-- The one output of the stand-in agrees with its declaration. -/
theorem MockBackend.agree_output :
    Agree [.f32] MockBackend.output.outputs MockBackend.output.shapes := by
  have hcount : (Int64.ofNat classCount).toInt = classCount := rfl
  refine .cons ⟨?_, ?_, .f32, encodeF32 ((List.range classCount).map classScore), rfl, ?_⟩ (.nil _)
  · intro n hn
    obtain rfl | rfl := List.mem_pair.1 hn
    · decide
    · rw [hcount]
      exact Int.natCast_pos.2 (Nat.succ_pos 999)
  · rw [List.length_map, List.length_range, List.map_cons, List.map_cons, hcount]
    decide
  · rw [Element.decode_encodeF32, List.map_map]
    rfl

/-- The stand-in has one answer. -/
theorem MockBackend.output_of_infer {m : MockBackend} {inputs : List Bytes}
    {output : InferenceOutput} (h : (m.infer inputs).1 = .ok output) :
    output = MockBackend.output := by
  rw [infer] at h
  split at h
  · cases h
  · cases h
    rfl

namespace Backend

/-- The declared types of a backend's outputs. -/
def outputTypes : Backend → List DataType
  | .shared e => e.graph.registry.outputs.map Descriptor.dtype
  | .alone e _ => e.graph.registry.outputs.map Descriptor.dtype
  | .mock _ => [.f32]

/-- What a backend answers agrees with its declared outputs. -/
theorem agree_of_infer {b : Backend} {d : Device} {inputs : List Bytes} {elapsed : Duration}
    {output : InferenceOutput} (h : (b.infer d inputs elapsed).1 = .ok output) :
    Agree b.outputTypes output.outputs output.shapes := by
  cases b with
  | shared e => exact EngineBackend.agree_of_infer h
  | alone e own => exact EngineBackend.agree_of_infer h
  | mock m =>
    obtain rfl := MockBackend.output_of_infer h
    exact MockBackend.agree_output

end Backend

end GraphServe
