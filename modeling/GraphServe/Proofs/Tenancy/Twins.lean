import GraphServe.Proofs.Backend.Reference
import GraphServe.Proofs.Device.Quiet
import GraphServe.Proofs.Lists

/-!
# Twins

Twins are two backends, each on a device of its own, that differ only in where they lie: in their
stream and in the addresses of their buffers. What they hold is the same, byte by byte. A call of
one goes as the same call of the other, and leaves them twins (`Twins.infer`): the slots of the two
are paired, and each step of a call does the same to both slots of a pair (`Mirror`).
-/

namespace GraphServe

/-! ## What does not tell where a backend lies -/

/-- The buffer, whatever its address. -/
def Buffer.unplaced (u : Buffer) : Buffer := { u with address := ⟨0⟩ }

/-- The context, whatever its stream. -/
def Context.unplaced (c : Context) : Context := { c with stream := ⟨0⟩ }

namespace EngineBackend

/-- The backend, wherever it lies. -/
def face (b : EngineBackend) : EngineBackend :=
  { b with context := b.context.unplaced, buffers := b.buffers.map Buffer.unplaced }

/-- What the backend holds on a device. -/
def contents (b : EngineBackend) (d : Device) : List (Option Bytes) :=
  b.buffers.map fun u => d.bytes? u.address

/-- Two backends that differ only in where they lie, and that hold the same. -/
structure Twins (b b' : EngineBackend) (d d' : Device) : Prop where
  face_eq : b'.face = b.face
  contents_eq : b'.contents d' = b.contents d

theorem Twins.refl (b : EngineBackend) (d : Device) : Twins b b d d := ⟨rfl, rfl⟩

variable {b b' : EngineBackend} {d d' : Device} {kernels : KernelTable}

namespace Twins

theorem graph_eq (h : Twins b b' d d') : b'.graph = b.graph :=
  congrArg (fun b => b.context.graph) h.face_eq

theorem shapes_eq (h : Twins b b' d d') : b'.context.shapes = b.context.shapes :=
  congrArg (fun b => b.context.shapes) h.face_eq

theorem failure_eq (h : Twins b b' d d') : b'.failure = b.failure :=
  (congrArg EngineBackend.failure h.face_eq :)

theorem buffers_eq (h : Twins b b' d d') :
    b'.buffers.map Buffer.unplaced = b.buffers.map Buffer.unplaced :=
  (congrArg EngineBackend.buffers h.face_eq :)

/-- The checks before a call do not look where the backend lies. -/
theorem screen_eq (h : Twins b b' d d') (inputs : List Bytes) :
    b'.screen inputs = b.screen inputs := by
  have hface : b'.face.screen inputs = b.face.screen inputs := by rw [h.face_eq]
  exact hface

end Twins

end EngineBackend

/-! ## Pairs of slots -/

/-- Two slots for the same tensor at the same shape. -/
structure Slot.Alike (p p' : Slot) : Prop where
  tensor_eq : p'.tensor = p.tensor
  shape_eq : p'.shape = p.shape
  dtype_eq : p'.buffer.dtype = p.buffer.dtype

theorem Slot.Alike.bytes_eq {p p' : Slot} (h : p.Alike p') : p'.bytes = p.bytes := by
  have hbytes := p'.bytes_eq
  rw [h.tensor_eq, h.shape_eq, p.bytes_eq] at hbytes
  exact (Except.ok.inj hbytes).symm

/-- Slots in pairs, one of each pair on either device: alike, and holding the same. -/
structure Mirror (pairs : List (Slot × Slot)) (d d' : Device) : Prop where
  alike : ∀ q ∈ pairs, q.1.Alike q.2
  bytes_eq : ∀ q ∈ pairs, d'.bytes? q.2.address = d.bytes? q.1.address
  distinct : (pairs.map fun q => q.1.address).Nodup
  distinct' : (pairs.map fun q => q.2.address).Nodup

theorem Device.view?_eq (d : Device) (p : Slot) :
    d.view? p.binding = (d.bytes? p.address).map fun data =>
      ⟨p.tensor.name, p.buffer.dtype, p.shape, data.take p.bytes⟩ := by
  rw [view?, bytes?, Option.map_map]
  rfl

namespace Mirror

variable {pairs part : List (Slot × Slot)} {d d' : Device}

/-- Both slots of a pair are changed in the same way. -/
theorem update (h : Mirror pairs d d') {q : Slot × Slot} (hq : q ∈ pairs) (f : Bytes → Bytes) :
    Mirror pairs (d.updateRegion q.1.address f) (d'.updateRegion q.2.address f) := by
  refine ⟨h.alike, ?_, h.distinct, h.distinct'⟩
  intro r hr
  rw [Device.bytes?_updateRegion, Device.bytes?_updateRegion, h.bytes_eq r hr]
  -- another pair differs from this one on either side
  by_cases hsame : r = q
  · subst hsame
    rw [if_pos rfl, if_pos rfl]
  · have hleft : r.1.address ≠ q.1.address := by
      intro haddress
      exact hsame (List.inj_on_of_nodup_map h.distinct hr hq haddress)
    have hright : r.2.address ≠ q.2.address := by
      intro haddress
      exact hsame (List.inj_on_of_nodup_map h.distinct' hr hq haddress)
    rw [if_neg hleft, if_neg hright]

/-- The same bytes are written to both slots of each pair. -/
theorem writeOutputs (h : Mirror pairs d d') (hpart : part ⊆ pairs) (outputs : List Bytes) :
    Mirror pairs (d.writeOutputs ((part.map Prod.fst).map Slot.binding) outputs)
      (d'.writeOutputs ((part.map Prod.snd).map Slot.binding) outputs) := by
  induction part generalizing d d' outputs with
  | nil => exact h
  | cons q rest ih =>
    obtain ⟨hq, hrest⟩ := List.cons_subset.1 hpart
    cases outputs with
    | nil => exact h
    | cons bytes outputs => exact ih (h.update hq (overlay bytes)) hrest outputs

/-- Both slots of each pair have the same size. -/
theorem bytes_map_eq (h : Mirror pairs d d') (hpart : part ⊆ pairs) :
    (part.map Prod.snd).map Slot.bytes = (part.map Prod.fst).map Slot.bytes := by
  rw [List.map_map, List.map_map]
  refine List.map_congr_left ?_
  intro q hq
  exact (h.alike q (hpart hq)).bytes_eq

/-- A kernel sees the same of both slots of each pair. -/
theorem views_eq (h : Mirror pairs d d') (hpart : part ⊆ pairs) :
    ((part.map Prod.snd).map Slot.binding).filterMap d'.view? =
      ((part.map Prod.fst).map Slot.binding).filterMap d.view? := by
  rw [List.map_map, List.map_map, List.filterMap_map, List.filterMap_map]
  refine List.filterMap_congr ?_
  intro q hq
  have halike := h.alike q (hpart hq)
  simp only [Function.comp_apply]
  rw [Device.view?_eq, Device.view?_eq, h.bytes_eq q (hpart hq), halike.bytes_eq,
    halike.tensor_eq, halike.shape_eq, halike.dtype_eq]

end Mirror

end GraphServe
