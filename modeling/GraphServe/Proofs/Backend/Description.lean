import GraphServe.Proofs.Backend.Afresh
import GraphServe.Proofs.Backend.Outputs
import GraphServe.Proofs.Context.Fitting

/-!
# Descriptions of models

What a backend tells about its model is held against the sizes that its calls answer. A layer tells
the sizes of its tensor behind the leading one, together with the configured batch size, which is
the leading size of some tensors and not of others (`LayerInfo.Describes`). Through all uses an
engine backend has the shapes that its current sizes resolve to (`Resolved.use`). So the batch size
leads wherever a caller leaves the leading size out, and tensors that declare the same leading axis
have the same leading size (`description_agrees`).
-/

namespace GraphServe

/-! ## Layers and sizes -/

namespace LayerInfo

/-- The sizes of a batch: the batch size, and then those of a sample. -/
def batched (l : LayerInfo) : List Int := (l.batchSize.toNat : Int) :: l.shape.map Int64.toInt

/-- A layer describes a tensor of some sizes: it tells all but the leading one, so that the sizes
are those of a batch exactly if the leading one is the batch size. -/
structure Describes (l : LayerInfo) (sizes : List Int) : Prop where
  shape_eq : l.shape.map Int64.toInt = sizes.drop 1
  batched_iff : ∀ leading, sizes.head? = some leading →
    (sizes = l.batched ↔ leading = l.batchSize.toNat)
  prod_eq : ∀ leading, sizes.head? = some leading →
    sizes.prod = leading * (l.shape.map Int64.toInt).prod

variable {l : LayerInfo} {sizes : List Int}

theorem describes_of_shape_eq (h : l.shape.map Int64.toInt = sizes.drop 1) :
    l.Describes sizes := by
  cases sizes with
  | nil =>
    refine ⟨h, ?_, ?_⟩
    · intro leading hleading
      cases hleading
    · intro leading hleading
      cases hleading
  | cons first rest =>
    rw [List.drop_succ_cons, List.drop_zero] at h
    refine ⟨h, ?_, ?_⟩
    · intro leading hleading
      cases hleading
      rw [batched, h, List.cons.injEq, and_iff_left rfl]
    · intro leading hleading
      cases hleading
      rw [List.prod_cons, h]

end LayerInfo

namespace Slot

/-- How a slot is described. -/
def layer (batchSize : UInt64) (p : Slot) : LayerInfo := ModelInfo.layer batchSize p.tensor p.shape

/-- The sizes of a slot are the same as signed numbers. -/
theorem toInt_sizes (p : Slot) : p.shape.sizes.map Int64.toInt = p.shape.lengths := by
  obtain ⟨hpositive, -⟩ := Descriptor.sizes_of_requiredBytes p.bytes_eq p.dtype_eq
  rw [Shape.sizes, Shape.lengths, List.map_map]
  apply List.map_congr_left
  intro size hsize
  -- a size that reaches the sign bit would read as a negative number
  have hsigned := toInt_toInt64 size
  have hsize := hpositive _ (List.mem_map_of_mem hsize)
  have hbound := size.toNat_lt
  rw [Function.comp_apply]
  split at hsigned <;> omega

theorem describes (batchSize : UInt64) (p : Slot) :
    (p.layer batchSize).Describes p.shape.lengths := by
  apply LayerInfo.describes_of_shape_eq
  rw [← p.toInt_sizes, ← List.map_drop]
  rfl

end Slot

namespace Transfer

/-- What is downloaded for slots comes with their sizes. -/
theorem shapes_of_downloadEach {d d' : Device} {slots : List Slot} {output : InferenceOutput}
    (h : downloadEach d (slots.map Slot.tensor) (slots.map Slot.buffer) (slots.map Slot.shape) =
      (.ok output, d')) : output.shapes = slots.map fun p => p.shape.sizes := by
  induction slots generalizing d output with
  | nil =>
    cases h
    rfl
  | cons p slots ih =>
    rw [List.map_cons, List.map_cons, List.map_cons, downloadEach] at h
    rcases hfirst : downloadOutput d p.tensor p.buffer p.shape with ⟨e | values, d₁⟩
    · rw [hfirst] at h
      cases h
    · simp only [hfirst] at h
      rcases hrest : downloadEach d₁ (slots.map Slot.tensor) (slots.map Slot.buffer)
        (slots.map Slot.shape) with ⟨e | rest, d₂⟩
      · rw [hrest] at h
        cases h
      · rw [hrest] at h
        cases h
        rw [ih hrest, List.map_cons]

end Transfer

/-- There are as many values as the sizes multiply to. -/
theorem Agree.forall₂_length {types : List DataType} {outputs : List (List Element)}
    {shapes : List (List Int64)} (h : Agree types outputs shapes) :
    List.Forall₂ (fun values sizes => (values.length : Int) = (sizes.map Int64.toInt).prod) outputs
      shapes := by
  induction h with
  | nil types => exact .nil
  | cons first rest ih => exact .cons first.prod_eq.symm ih

namespace EngineBackend

variable {files : Files} {config : BackendConfig} {b : EngineBackend} {slots ins outs : List Slot}
  {d d' : Device}

/-! ## What slots tell -/

/-- Tensors with shapes are described slot by slot, whatever shapes come after theirs. -/
theorem zipWith_layer (batchSize : UInt64) (slots more : List Slot) :
    List.zipWith (ModelInfo.layer batchSize) (slots.map Slot.tensor)
      ((slots ++ more).map Slot.shape) = slots.map (Slot.layer batchSize) := by
  induction slots with
  | nil => rfl
  | cons p slots ih =>
    rw [List.map_cons, List.cons_append, List.map_cons, List.zipWith_cons_cons, ih]
    rfl

/-- The description of a backend is that of its slots. -/
theorem modelInfo_slots (hb : b.Serves (ins ++ outs))
    (hins : b.graph.registry.inputs = ins.map Slot.tensor)
    (houts : b.graph.registry.outputs = outs.map Slot.tensor) :
    b.modelInfo = ⟨ins.map (Slot.layer b.batchSize), outs.map (Slot.layer b.batchSize)⟩ := by
  -- the shapes of the outputs come last
  have houtputs := zipWith_layer b.batchSize outs []
  rw [List.append_nil] at houtputs
  rw [hb.modelInfo_eq, ModelInfo.ofRegistry, Registry.inputCount, hins, houts,
    zipWith_layer b.batchSize ins outs, List.map_append, List.length_map,
    List.drop_left' (List.length_map _), houtputs]

/-- The shape under the name of a slot's tensor is that of the slot. -/
theorem resolvedShape?_of_slot (hb : b.Serves slots) {p : Slot} (hp : p ∈ slots) :
    b.resolvedShape? p.tensor.name = some p.shape := by
  obtain ⟨ordinal, hordinal⟩ := List.mem_iff_getElem?.1 hp
  have htensor : b.graph.registry.get? ordinal = some p.tensor := by
    rw [Registry.get?, hb.tensors_eq, List.getElem?_map, hordinal]
    rfl
  rw [resolvedShape?, Registry.ordinal?_of_get? htensor, Option.bind_some, Context.shape?,
    hb.shapes_eq, List.getElem?_map, List.getElem?_map, hordinal]
  rfl

/-- A call that ends well answers the sizes of the outputs' slots. -/
theorem shapes_of_infer (hb : b.Serves (ins ++ outs))
    (hins : b.graph.registry.inputs = ins.map Slot.tensor)
    (houts : b.graph.registry.outputs = outs.map Slot.tensor) {inputs : List Bytes}
    {elapsed : Duration} {output : InferenceOutput}
    (h : (b.infer d inputs elapsed).1 = .ok output) :
    output.shapes = outs.map fun p => p.shape.sizes := by
  obtain ⟨passed, d₁, d₂, hscreen, hdown⟩ := exists_download_of_infer h
  rw [shapes_of_screen hb hscreen, download_slots hb hins houts] at hdown
  exact Transfer.shapes_of_downloadEach hdown

/-! ## Shapes and current sizes -/

/-- The slots have the shapes that the current sizes resolve to. -/
structure Resolved (b : EngineBackend) (slots : List Slot) : Prop where
  serves : b.Serves slots
  resolve_eq : ((blankContext b.graph ⟨0⟩).resolve b.batchSize b.inputSizes).1 =
    .ok (slots.map Slot.shape)

theorem exists_resolved_of_build (h : build files config d = (.ok b, d')) :
    ∃ slots, b.Resolved slots := by
  obtain ⟨slots, hb⟩ := (Reached.built h).exists_serves
  obtain ⟨hresolve, -⟩ := slots_of_build h hb
  obtain ⟨context, buffers, shapes, hassembled⟩ := exists_eq_assemble h
  have hbatch : b.batchSize = config.batchSize := by rw [hassembled]; rfl
  have hsizes : b.inputSizes = config.inputSizes := by rw [hassembled]; rfl
  have hunplaced : (blankContext b.graph ⟨0⟩).unplaced =
      (blankContext b.graph d.createStream.1).unplaced := rfl
  refine ⟨slots, hb, ?_⟩
  rw [hbatch, hsizes, Context.resolve_fst_eq hunplaced, hresolve]

/-- Whatever is done with a backend, its slots have the shapes that its current sizes resolve to. -/
theorem Resolved.use (h : b.Resolved slots) (u : Use) : ∃ filled, (b.use u).Resolved filled := by
  have hb := h.serves
  cases u with
  | infer d inputs elapsed =>
    have hverdict := infer_verdict hb d inputs elapsed
    refine ⟨slots, hverdict.serves hb, ?_⟩
    rw [EngineBackend.use]
    rcases hrun : b.infer d inputs elapsed with ⟨result, after⟩
    rw [hrun] at hverdict
    -- however the call ends, it leaves the sizes and the graph alone
    cases hverdict with
    | answered => exact h.resolve_eq
    | refused => exact h.resolve_eq
    | broken => exact h.resolve_eq
  | reconfigure d sizes =>
    have hstep := reconfigure_eq hb d sizes
    rw [EngineBackend.use]
    cases hasked : b.asked sizes with
    | error e =>
      simp only [hasked] at hstep
      rw [hstep]
      exact ⟨slots, h⟩
    | ok shapes =>
      rcases hrun : replacements d b.graph.registry.all shapes b.buffers with ⟨⟨new, _ | e⟩, d'⟩
      · simp only [hasked, hrun] at hstep
        rw [hstep]
        -- the shapes that were asked for are those of a blank context
        have husable := usable_of_asked hasked
        have hresolve := asked_eq_resolve hb husable sizes ⟨0⟩
        rw [hasked] at hresolve
        rw [hb.tensors_eq, hb.buffers_eq] at hrun
        obtain ⟨filled, hrenewed, rfl, hbuffers⟩ :=
          exists_renewed_of_replacements (length_of_asked hb hasked) hrun
        rw [hb.buffers_eq, ← hbuffers]
        exact ⟨filled, serves_resized hb husable hrenewed sizes, hresolve.symm⟩
      · simp only [hasked, hrun] at hstep
        rw [hstep]
        exact ⟨slots, h⟩

/-- One assignment of sizes to names makes the declarations of all slots evaluate to their shapes. -/
theorem Resolved.exists_assigned (h : b.Resolved slots) :
    ∃ assigned, ∀ p ∈ slots, p.shape = p.tensor.shape.under assigned := by
  have hpartly : Context.PartlyShaped b.graph (List.replicate b.graph.registry.size none) := by
    apply Context.partlyShaped_of_forall_none List.length_replicate
    intro slot hslot
    exact List.eq_of_mem_replicate hslot
  obtain ⟨assigned, hassigned⟩ := Context.fullyShaped_of_resolve (Prod.ext h.resolve_eq rfl)
    (List.length_replicate (n := b.graph.registry.size)) hpartly
  refine ⟨assigned, ?_⟩
  have htable : (slots.map Slot.shape).map some =
      b.graph.registry.all.map fun t => some (t.shape.under assigned) := hassigned
  rw [h.serves.tensors_eq, List.map_map, List.map_map, List.map_inj_left] at htable
  intro p hp
  exact Option.some.inj (htable p hp)

/-- Slots whose tensors declare the same leading axis have the same leading size. -/
theorem Resolved.head?_lengths_eq (h : b.Resolved slots) {p q : Slot} (hp : p ∈ slots)
    (hq : q ∈ slots) (htied : q.tensor.shape.axes.head? = p.tensor.shape.axes.head?) :
    q.shape.lengths.head? = p.shape.lengths.head? := by
  obtain ⟨assigned, hassigned⟩ := h.exists_assigned
  rw [hassigned p hp, hassigned q hq, Shape.lengths, Shape.lengths, DeclaredShape.under,
    DeclaredShape.under, List.head?_map, List.head?_map, List.head?_map, List.head?_map, htied]

/-- The batch size leads where a caller leaves the leading size of an input out. -/
theorem Resolved.lengths_eq_batched (h : b.Resolved slots) {ordinal : Nat} {p : Slot}
    {vector : List Int64} (hp : slots[ordinal]? = some p)
    (hinput : b.graph.registry.inputs[ordinal]? = some p.tensor)
    (hvector : b.inputSizes[ordinal]? = some vector)
    (hshort : vector.length + 1 = p.tensor.shape.rank) :
    p.shape.lengths = (p.layer b.batchSize).batched := by
  have hlength : (blankContext b.graph ⟨0⟩).shapes.length = b.graph.registry.size :=
    List.length_replicate
  obtain ⟨s, hs, hshape, haccepts⟩ :=
    Context.inputShape_of_resolve (Prod.ext h.resolve_eq rfl) hlength hinput
  rw [List.getElem?_map, hp] at hs
  cases hs
  rw [hvector] at hshape
  -- a vector that is one short is never cut off
  cases Context.fits_of_inputShape hshape haccepts (by omega) with
  | whole hwhole => omega
  | batched _ hsizes =>
    have hleading : p.shape.lengths.head? = some (b.batchSize.toNat : Int) := by
      rw [hsizes, List.head?_cons]
    exact ((p.describes b.batchSize).batched_iff _ hleading).2 rfl

/-! ## Descriptions and answers -/

/-- Every layer tells the batch size. -/
theorem batchSize_of_mem_layers (hb : b.Serves slots) {l : LayerInfo}
    (hl : l ∈ b.modelInfo.inputs ++ b.modelInfo.outputs) : l.batchSize = b.batchSize := by
  obtain ⟨ins, outs, rfl, hins, houts⟩ := hb.split
  rw [modelInfo_slots hb hins houts, ← List.map_append] at hl
  obtain ⟨p, -, rfl⟩ := List.mem_map.1 hl
  rfl

/-- The layers of the outputs describe what a call that ends well answers. -/
theorem Resolved.describes_outputs (h : b.Resolved slots) {inputs : List Bytes}
    {elapsed : Duration} {output : InferenceOutput}
    (hinfer : (b.infer d inputs elapsed).1 = .ok output) :
    List.Forall₂ (fun l sizes => l.Describes (sizes.map Int64.toInt)) b.modelInfo.outputs
      output.shapes := by
  obtain ⟨ins, outs, rfl, hins, houts⟩ := h.serves.split
  rw [modelInfo_slots h.serves hins houts, shapes_of_infer h.serves hins houts hinfer,
    List.forall₂_map_left_iff, List.forall₂_map_right_iff, List.forall₂_same]
  intro p _
  rw [p.toInt_sizes]
  exact p.describes b.batchSize

/-- The layers of the inputs describe the resolved shapes. -/
theorem Resolved.describes_inputs (h : b.Resolved slots) :
    List.Forall₂ (fun l t => l.name = t.name ∧
        ∃ s, b.resolvedShape? t.name = some s ∧ l.Describes s.lengths)
      b.modelInfo.inputs b.graph.registry.inputs := by
  obtain ⟨ins, outs, rfl, hins, houts⟩ := h.serves.split
  rw [modelInfo_slots h.serves hins houts, hins, List.forall₂_map_left_iff,
    List.forall₂_map_right_iff, List.forall₂_same]
  intro p hp
  exact ⟨rfl, p.shape, resolvedShape?_of_slot h.serves (List.mem_append_left _ hp),
    p.describes b.batchSize⟩

/-- An output that declares the leading axis of an input has the leading size of that input. -/
theorem Resolved.head?_eq_of_tied (h : b.Resolved slots) {inputs : List Bytes} {elapsed : Duration}
    {output : InferenceOutput} (hinfer : (b.infer d inputs elapsed).1 = .ok output)
    {t u : Descriptor} {index : Nat} (ht : t ∈ b.graph.registry.inputs)
    (hu : b.graph.registry.outputs[index]? = some u)
    (htied : u.shape.axes.head? = t.shape.axes.head?) :
    ∃ sizes s, output.shapes[index]? = some sizes ∧ b.resolvedShape? t.name = some s ∧
      (sizes.map Int64.toInt).head? = s.lengths.head? := by
  obtain ⟨ins, outs, rfl, hins, houts⟩ := h.serves.split
  rw [hins] at ht
  obtain ⟨p, hp, rfl⟩ := List.mem_map.1 ht
  rw [houts, List.getElem?_map, Option.map_eq_some_iff] at hu
  obtain ⟨q, hq, rfl⟩ := hu
  have hp' : p ∈ ins ++ outs := List.mem_append_left _ hp
  have hq' : q ∈ ins ++ outs := List.mem_append_right _ (List.mem_of_getElem? hq)
  refine ⟨q.shape.sizes, p.shape, ?_, resolvedShape?_of_slot h.serves hp', ?_⟩
  · rw [shapes_of_infer h.serves hins houts hinfer, List.getElem?_map, hq]
    rfl
  · rw [q.toInt_sizes]
    exact h.head?_lengths_eq hp' hq' htied

/-- An input whose current sizes leave the leading one out is described as a batch. -/
theorem Resolved.exists_batched (h : b.Resolved slots) {t : Descriptor} {vector : List Int64}
    {ordinal : Nat} (ht : b.graph.registry.inputs[ordinal]? = some t)
    (hvector : b.inputSizes[ordinal]? = some vector)
    (hshort : vector.length + 1 = t.shape.rank) :
    ∃ l s, b.modelInfo.inputs[ordinal]? = some l ∧ b.resolvedShape? t.name = some s ∧
      s.lengths = l.batched := by
  obtain ⟨ins, outs, rfl, hins, houts⟩ := h.serves.split
  have hplace := ht
  rw [hins, List.getElem?_map, Option.map_eq_some_iff] at hplace
  obtain ⟨p, hp, rfl⟩ := hplace
  have hp' : (ins ++ outs)[ordinal]? = some p := by
    rw [List.getElem?_append_left (List.getElem?_eq_some_iff.1 hp).1, hp]
  refine ⟨p.layer b.batchSize, p.shape, ?_,
    resolvedShape?_of_slot h.serves (List.mem_of_getElem? hp'),
    h.lengths_eq_batched hp' ht hvector hshort⟩
  rw [modelInfo_slots h.serves hins houts, List.getElem?_map, hp]
  rfl

/-- A backend has the batch size of its configuration, and the shapes that its current sizes resolve
to. -/
structure Standing (config : BackendConfig) (b : EngineBackend) : Prop where
  batchSize_eq : b.batchSize = config.batchSize
  resolved : ∃ slots, b.Resolved slots

theorem standing_of_build (h : build files config d = (.ok b, d')) : b.Standing config :=
  ⟨(heritage_of_build h).batchSize_eq, exists_resolved_of_build h⟩

theorem Standing.use (h : b.Standing config) (u : Use) : (b.use u).Standing config := by
  obtain ⟨slots, hresolved⟩ := h.resolved
  obtain ⟨-, hbatch, -⟩ := frame_use hresolved.serves u
  exact ⟨hbatch.trans h.batchSize_eq, hresolved.use u⟩

end EngineBackend

namespace Backend

variable {files : Files} {config : BackendConfig} {b : Backend}

/-! ## Backends of either kind -/

/-- A configuration can be set up as this backend, on a shared device or on one of its own. -/
def Made (files : Files) (config : BackendConfig) (b : Backend) : Prop :=
  (∃ d d', setupOn files config d = (.ok b, d')) ∨ ∃ host, setup files host config = .ok b

/-- One use of a backend. A shared device, and a device of the backend's own, may be in any state by
then. -/
inductive Use where
  | infer (d : Device) (inputs : List Bytes) (elapsed : Duration)
  | reconfigure (d : Device) (sizes : List (List Int64))
  | clearCache
  | meanwhile (own : Device)

/-- The backend after one use. -/
def use (b : Backend) : Use → Backend
  | .infer d inputs elapsed => (b.infer d inputs elapsed).2.1
  | .reconfigure d sizes => ((b.reconfigure? d sizes).map fun run => run.2.1).getD b
  | .clearCache => b.clearCache
  | .meanwhile own =>
    match b with
    | .alone e _ => .alone e own
    | b => b

/-- The backend after a row of uses. -/
def useEach (b : Backend) (uses : List Use) : Backend := uses.foldl use b

/-- A backend has the batch size of its configuration, and if it is an engine backend the shapes
that its current sizes resolve to. -/
inductive Standing (config : BackendConfig) : Backend → Prop
  | shared {e : EngineBackend} (h : e.Standing config) : Standing config (.shared e)
  | alone {e : EngineBackend} (own : Device) (h : e.Standing config) : Standing config (.alone e own)
  | mock {m : MockBackend} (h : m.batchSize = config.batchSize) : Standing config (.mock m)

theorem Made.standing (h : Made files config b) : b.Standing config := by
  rcases h with ⟨d, d', h⟩ | ⟨host, h⟩
  · rcases setupOn_eq_ok h with ⟨-, e, rfl, hbuild⟩ | ⟨-, rfl⟩
    · exact .shared (EngineBackend.standing_of_build hbuild)
    · exact .mock rfl
  · rcases setup_eq_ok h with ⟨-, e, own, rfl, hbuild⟩ | ⟨-, rfl⟩
    · exact .alone own (EngineBackend.standing_of_build hbuild)
    · exact .mock rfl

theorem Standing.use (h : b.Standing config) (u : Use) : (b.use u).Standing config := by
  cases h with
  | shared h =>
    cases u with
    | infer d inputs elapsed => exact .shared (h.use (.infer d inputs elapsed))
    | reconfigure d sizes => exact .shared (h.use (.reconfigure d sizes))
    | clearCache => exact .shared h
    | meanwhile own => exact .shared h
  | @alone e own h =>
    cases u with
    | infer d inputs elapsed => exact .alone _ (h.use (.infer own inputs elapsed))
    | reconfigure d sizes => exact .alone _ (h.use (.reconfigure own sizes))
    | clearCache => exact .alone own h
    | meanwhile own => exact .alone own h
  | @mock m h =>
    cases u with
    | infer d inputs elapsed =>
      show Standing config (.mock (m.infer inputs).2)
      rw [MockBackend.infer]
      split
      · exact .mock h
      · exact .mock h
    | reconfigure d sizes => exact .mock h
    | clearCache => exact .mock h
    | meanwhile own => exact .mock h

theorem Standing.useEach (h : b.Standing config) (uses : List Use) :
    (b.useEach uses).Standing config := by
  induction uses generalizing b with
  | nil => exact h
  | cons u rest ih => exact ih (h.use u)

theorem Standing.of_engine? {e : EngineBackend} (h : b.Standing config)
    (he : b.engine? = some e) : e.Standing config := by
  cases h with
  | shared h =>
    cases he
    exact h
  | alone own h =>
    cases he
    exact h
  | mock h => cases he

/-- An engine backend tells and answers what its engine does. -/
theorem of_engine? {e : EngineBackend} (he : b.engine? = some e) :
    b.modelInfo = e.modelInfo ∧
      ∀ d inputs elapsed, ∃ d', (b.infer d inputs elapsed).1 = (e.infer d' inputs elapsed).1 := by
  cases b with
  | shared e' =>
    cases he
    exact ⟨rfl, fun d _ _ => ⟨d, rfl⟩⟩
  | alone e' own =>
    cases he
    exact ⟨rfl, fun _ _ _ => ⟨own, rfl⟩⟩
  | mock m => cases he

/-! ## What is told and what is answered -/

/-- Every layer tells the batch size of the configuration. -/
theorem Standing.batchSize_of_mem_layers (h : b.Standing config) {l : LayerInfo}
    (hl : l ∈ b.modelInfo.inputs ++ b.modelInfo.outputs) : l.batchSize = config.batchSize := by
  have hengine : ∀ {e : EngineBackend}, e.Standing config →
      l ∈ e.modelInfo.inputs ++ e.modelInfo.outputs → l.batchSize = config.batchSize := by
    intro e h hl
    obtain ⟨slots, hresolved⟩ := h.resolved
    rw [← h.batchSize_eq]
    exact EngineBackend.batchSize_of_mem_layers hresolved.serves hl
  cases h with
  | shared h => exact hengine h hl
  | alone own h => exact hengine h hl
  | mock h =>
    rcases List.mem_pair.1 hl with rfl | rfl
    · exact h
    · exact h

/-- The layers of the outputs describe what a call that ends well answers. -/
theorem Standing.describes_outputs (h : b.Standing config) {d : Device} {inputs : List Bytes}
    {elapsed : Duration} {output : InferenceOutput}
    (hinfer : (b.infer d inputs elapsed).1 = .ok output) :
    List.Forall₂ (fun l sizes => l.Describes (sizes.map Int64.toInt)) b.modelInfo.outputs
      output.shapes := by
  cases h with
  | shared h =>
    obtain ⟨slots, hresolved⟩ := h.resolved
    exact hresolved.describes_outputs hinfer
  | alone own h =>
    obtain ⟨slots, hresolved⟩ := h.resolved
    exact hresolved.describes_outputs hinfer
  | mock h =>
    obtain rfl := MockBackend.output_of_infer hinfer
    refine .cons ?_ .nil
    apply LayerInfo.describes_of_shape_eq
    rfl

/-- A backend of either kind, after any uses. Every layer tells the configured batch size. For each
output of a call that ends well there is a layer that tells its sizes behind the leading one, and
the sizes multiply to the number of its values; the sizes are those of a batch exactly if the batch
size leads. For each input of an engine backend there is a layer that tells its resolved shape in
the same way. The batch size leads in inputs whose current sizes leave the leading one out, and what
leads in an input also leads in each output that declares the same leading axis. -/
theorem description_agrees (h : Made files config b) (uses : List Use) :
    let last := b.useEach uses
    let info := last.modelInfo
    (∀ l ∈ info.inputs ++ info.outputs, l.batchSize = config.batchSize) ∧
    (∀ d inputs elapsed output, (last.infer d inputs elapsed).1 = .ok output →
      List.Forall₂ (fun l sizes => l.Describes (sizes.map Int64.toInt)) info.outputs
        output.shapes ∧
      List.Forall₂ (fun values sizes => (values.length : Int) = (sizes.map Int64.toInt).prod)
        output.outputs output.shapes) ∧
    ∀ e, last.engine? = some e →
      List.Forall₂ (fun l t => l.name = t.name ∧
          ∃ s, e.resolvedShape? t.name = some s ∧ l.Describes s.lengths)
        info.inputs e.graph.registry.inputs ∧
      (∀ (ordinal : Nat) (t : Descriptor) (vector : List Int64),
        e.graph.registry.inputs[ordinal]? = some t → e.inputSizes[ordinal]? = some vector →
        vector.length + 1 = t.shape.rank →
        ∃ l s, info.inputs[ordinal]? = some l ∧ e.resolvedShape? t.name = some s ∧
          s.lengths = l.batched) ∧
      ∀ d inputs elapsed output, (last.infer d inputs elapsed).1 = .ok output →
        ∀ t ∈ e.graph.registry.inputs, ∀ (index : Nat) (u : Descriptor),
          e.graph.registry.outputs[index]? = some u →
          u.shape.axes.head? = t.shape.axes.head? →
          ∃ sizes s, output.shapes[index]? = some sizes ∧ e.resolvedShape? t.name = some s ∧
            (sizes.map Int64.toInt).head? = s.lengths.head? := by
  intro last info
  have hstanding : last.Standing config := h.standing.useEach uses
  refine ⟨fun l hl => hstanding.batchSize_of_mem_layers hl, ?_, ?_⟩
  · intro d inputs elapsed output hinfer
    exact ⟨hstanding.describes_outputs hinfer, (agree_of_infer hinfer).forall₂_length⟩
  · intro e he
    obtain ⟨slots, hresolved⟩ := (hstanding.of_engine? he).resolved
    obtain ⟨hinfo, hcalls⟩ := of_engine? he
    rw [show info = e.modelInfo from hinfo]
    refine ⟨hresolved.describes_inputs, ?_, ?_⟩
    · intro ordinal t vector ht hvector hshort
      exact hresolved.exists_batched ht hvector hshort
    · intro d inputs elapsed output hinfer t ht index u hu htied
      obtain ⟨d', hsame⟩ := hcalls d inputs elapsed
      rw [hsame] at hinfer
      exact hresolved.head?_eq_of_tied hinfer ht hu htied

/-- The backend that copies, built for three values and then given sizes that leave the leading one
out: it takes and answers batches. -/
theorem description_agrees_copy :
    let config := { Fleet.copyConfig with batchSize := 2, inputSizes := [[3]] }
    let d := Device.new .builtin none (.upTo 4096)
    ∃ b output, setup Fleet.copyFiles (.upTo 4096) config = .ok b ∧
      let last := b.useEach [.reconfigure d [[]]]
      (last.infer d [[1, 2, 3, 4, 5, 6, 7, 8]] ⟨0⟩).1 = .ok output ∧ output.shapes = [[2]] ∧
      List.Forall₂ (fun l sizes => sizes.map Int64.toInt = l.batched) last.modelInfo.outputs
        output.shapes := by
  intro config d
  let uses : List Use := [.reconfigure d [[]]]
  have hrun : ((setup Fleet.copyFiles (.upTo 4096) config).bind fun b =>
      ((b.useEach uses).infer d [[1, 2, 3, 4, 5, 6, 7, 8]] ⟨0⟩).1.map InferenceOutput.shapes) =
        .ok [[2]] := by decide +kernel
  cases hsetup : setup Fleet.copyFiles (.upTo 4096) config with
  | error e =>
    rw [hsetup] at hrun
    cases hrun
  | ok b =>
    rw [hsetup] at hrun
    obtain ⟨htold, hcalls, -⟩ := description_agrees (Or.inr ⟨_, hsetup⟩) uses
    obtain ⟨output, hinfer, hshapes⟩ := map_eq_ok_iff.1 hrun
    refine ⟨b, output, rfl, hinfer, hshapes, ?_⟩
    obtain ⟨hdescribes, -⟩ := hcalls _ _ _ _ hinfer
    rw [hshapes] at hdescribes ⊢
    obtain ⟨l, rest, hfirst, hrest, hlayers⟩ := List.forall₂_cons_right_iff.1 hdescribes
    rw [List.forall₂_nil_right_iff] at hrest
    subst hrest
    have hbatch : l.batchSize = 2 := by
      apply htold
      rw [hlayers]
      exact List.mem_append_right _ List.mem_cons_self
    rw [hlayers]
    refine .cons ?_ .nil
    apply (hfirst.batched_iff 2 rfl).2
    rw [hbatch]
    rfl

/-- The batch size does not always lead. The backend that copies, built for a batch of one, answers
two values for a vector of two; and the stand-in answers one row of scores whatever its batch
size. -/
theorem batch_size_not_leading :
    (∃ b output, Made Fleet.copyFiles Fleet.copyConfig b ∧
      (b.infer (Device.new .builtin none (.upTo 4096)) [[1, 2, 3, 4, 5, 6, 7, 8]] ⟨0⟩).1 =
        .ok output ∧
      output.shapes = [[2]] ∧ b.modelInfo.outputs.map LayerInfo.batched = [[1]]) ∧
    ∃ b output, Made Fleet.copyFiles { Fleet.copyConfig with kind := .mock, batchSize := 2 } b ∧
      (b.infer (Device.new .builtin none (.upTo 4096)) [[]] ⟨0⟩).1 = .ok output ∧
      output.shapes = [[1, 1000]] ∧ b.modelInfo.outputs.map LayerInfo.batched = [[2, 1000]] := by
  refine ⟨?_, _, _, Or.inr ⟨.upTo 4096, rfl⟩, rfl, rfl, rfl⟩
  have hrun : ((setup Fleet.copyFiles (.upTo 4096) Fleet.copyConfig).bind fun b =>
      (b.infer (Device.new .builtin none (.upTo 4096)) [[1, 2, 3, 4, 5, 6, 7, 8]] ⟨0⟩).1.map
        fun output => (output.shapes, b.modelInfo.outputs.map LayerInfo.batched)) =
      .ok ([[2]], [[1]]) := by
    decide +kernel
  cases hsetup : setup Fleet.copyFiles (.upTo 4096) Fleet.copyConfig with
  | error e =>
    rw [hsetup] at hrun
    cases hrun
  | ok b =>
    rw [hsetup] at hrun
    obtain ⟨output, hinfer, hanswer⟩ := map_eq_ok_iff.1 hrun
    obtain ⟨hshapes, hlayers⟩ := Prod.mk.inj hanswer
    exact ⟨b, output, Or.inr ⟨_, hsetup⟩, hinfer, hshapes, hlayers⟩

end Backend

end GraphServe
