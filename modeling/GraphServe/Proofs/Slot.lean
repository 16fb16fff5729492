import GraphServe.Backend.Engine
import GraphServe.Proofs.Buffer
import GraphServe.Proofs.Except
import GraphServe.Proofs.Tensor.Size

/-!
# Slots

A slot is a tensor at its shape together with a buffer that holds it. The lists that run in
parallel through a backend, its tensors, their shapes and its buffers, are the columns of one list
of slots. Allocating buffers fills slots (`allocateEach_spec`), and so does replacing the buffers
that have become too small (`replacements_spec`); whatever the replacements are, the buffers in
place and those displaced are together the replacements and the buffers before
(`install_append_displaced_perm`).
-/

namespace GraphServe

/-- A tensor at its shape, in a buffer that bears its name and type and is large enough. -/
structure Slot where
  tensor : Descriptor
  shape : Shape
  buffer : Buffer
  bytes : Nat
  name_eq : buffer.name = tensor.name
  dtype_eq : tensor.elementType = .ok buffer.dtype
  bytes_eq : tensor.requiredBytes shape = .ok bytes
  fits : bytes ≤ buffer.capacity

/-! ## Byte sizes -/

namespace Descriptor

/-- A served tensor has no byte size only because of its shape. -/
theorem exists_of_requiredBytes_eq_error {t : Descriptor} {s : Shape} {dtype : ElementType}
    {e : EngineError} (hdtype : t.elementType = .ok dtype) (h : t.requiredBytes s = .error e) :
    ∃ tensor reason, e = .invalidShape tensor reason := by
  rcases cause_of_requiredBytes_eq_error h with hcause | ⟨_, reason, -, rfl⟩
  · rw [hdtype] at hcause
    cases hcause
  · exact ⟨t.name, reason, rfl⟩

end Descriptor

namespace Buffer

/-- Allocating buffers for tensors makes the device grow by them. If nothing stops it, each tensor
has a slot. -/
theorem allocateEach_spec (d : Device) {tensors : List Descriptor} {shapes : List Shape}
    (hlength : shapes.length = tensors.length) :
    Growth d (allocateEach d tensors shapes).1.made (allocateEach d tensors shapes).2 ∧
      ((allocateEach d tensors shapes).1.failure = none →
        ∃ slots : List Slot, tensors = slots.map Slot.tensor ∧ shapes = slots.map Slot.shape ∧
          (allocateEach d tensors shapes).1.made = slots.map Slot.buffer) := by
  induction tensors generalizing d shapes with
  | nil =>
    rw [List.length_nil, List.length_eq_zero_iff] at hlength
    subst hlength
    exact ⟨.refl d, fun _ => ⟨[], rfl, rfl, rfl⟩⟩
  | cons t tensors ih =>
    obtain ⟨s, shapes, rfl⟩ := List.exists_cons_of_length_eq_add_one hlength
    rcases allocate_cases d t s with ⟨e, hfirst, -⟩ | ⟨dtype, bytes, hdtype, hbytes, hfirst⟩
    · simp only [allocateEach, hfirst]
      refine ⟨.refl d, ?_⟩
      intro hdone
      cases hdone
    · obtain ⟨hgrowth, hslots⟩ := ih (d.withRegion bytes) (by simpa using hlength)
      simp only [allocateEach, hfirst, Progress.after]
      refine ⟨.step _ rfl hgrowth, fun hdone => ?_⟩
      obtain ⟨slots, rfl, rfl, hmade⟩ := hslots hdone
      exact ⟨⟨t, s, ⟨t.name, dtype, ⟨d.nextAddress⟩, bytes⟩, bytes, rfl, hdtype, hbytes,
        Nat.le_refl _⟩ :: slots, rfl, rfl, by rw [hmade]; rfl⟩

end Buffer

namespace EngineBackend

/-! ## Replacements -/

/-- The buffers in place and those displaced are the replacements and the buffers before. -/
theorem install_append_displaced_perm {new : List (Option Buffer)} {buffers : List Buffer}
    (h : new.length ≤ buffers.length) :
    (install new buffers ++ displaced new buffers).Perm (new.filterMap id ++ buffers) := by
  induction new generalizing buffers with
  | nil => simp [install, displaced]
  | cons item rest ih =>
    cases buffers with
    | nil => simp at h
    | cons old buffers =>
      have hrest := ih (by simpa using h)
      -- an old buffer stays in place, or moves to the displaced ones when another takes its place
      cases item with
      | none =>
        simp only [install, displaced, Option.getD_none, List.cons_append, List.filterMap_cons_none,
          id_eq]
        exact (hrest.cons old).trans List.perm_middle.symm
      | some u =>
        simp only [install, displaced, Option.getD_some, List.cons_append, id_eq]
        refine List.Perm.cons u (List.perm_middle.trans ?_)
        exact (hrest.cons old).trans List.perm_middle.symm

/-- One replacement: the buffer is kept if it is large enough, and else the device grows by one. -/
theorem replacement_cases (d : Device) (p : Slot) (s : Shape) :
    (∃ e, replacement d p.tensor s p.buffer = (.error e, d) ∧
        ((∃ tensor reason, e = .invalidShape tensor reason) ∨
          ∃ requested available, e = .outOfMemory requested available)) ∨
      (∃ q : Slot, q.tensor = p.tensor ∧ q.shape = s ∧ q.buffer = p.buffer ∧
        replacement d p.tensor s p.buffer = (.ok none, d)) ∨
      ∃ q : Slot, q.tensor = p.tensor ∧ q.shape = s ∧ q.buffer.address = ⟨d.nextAddress⟩ ∧
        replacement d p.tensor s p.buffer = (.ok (some q.buffer), d.withRegion q.buffer.capacity) := by
  unfold replacement
  cases hbytes : p.tensor.requiredBytes s with
  | error e =>
    exact Or.inl ⟨e, rfl, Or.inl (Descriptor.exists_of_requiredBytes_eq_error p.dtype_eq hbytes)⟩
  | ok bytes =>
    by_cases hfits : bytes ≤ p.buffer.capacity
    · refine Or.inr (Or.inl ⟨⟨p.tensor, s, p.buffer, bytes, p.name_eq, p.dtype_eq, hbytes, hfits⟩,
        rfl, rfl, rfl, ?_⟩)
      simp only [if_pos hfits]
    · simp only [if_neg hfits]
      rcases Buffer.allocate_cases d p.tensor s with
        ⟨e, hnew, hcause⟩ | ⟨dtype, size, hdtype, hsize, hnew⟩
      · refine Or.inl ⟨e, by simp only [hnew], ?_⟩
        rcases hcause with hcause | hcause | hcause
        · rw [p.dtype_eq] at hcause
          cases hcause
        · rw [hbytes] at hcause
          cases hcause
        · exact Or.inr hcause
      · exact Or.inr (Or.inr ⟨⟨p.tensor, s, ⟨p.tensor.name, dtype, ⟨d.nextAddress⟩, size⟩, size, rfl,
          hdtype, hsize, Nat.le_refl _⟩, rfl, rfl, rfl, by simp only [hnew]⟩)

/-- Making replacements lets the device grow by them. If nothing stops it, the slots are filled
again at the new shapes. -/
theorem replacements_spec (d : Device) {slots : List Slot} {shapes : List Shape}
    (hlength : shapes.length = slots.length) :
    let run := replacements d (slots.map Slot.tensor) shapes (slots.map Slot.buffer)
    Buffer.Growth d (run.1.made.filterMap id) run.2 ∧
      run.1.made.length ≤ slots.length ∧
      (∀ e, run.1.failure = some e → (∃ tensor reason, e = .invalidShape tensor reason) ∨
        ∃ requested available, e = .outOfMemory requested available) ∧
      (run.1.failure = none →
        ∃ filled : List Slot, filled.map Slot.tensor = slots.map Slot.tensor ∧
          filled.map Slot.shape = shapes ∧
          filled.map Slot.buffer = install run.1.made (slots.map Slot.buffer)) := by
  induction slots generalizing d shapes with
  | nil =>
    rw [List.length_nil, List.length_eq_zero_iff] at hlength
    subst hlength
    refine ⟨.refl d, Nat.le_refl _, ?_, fun _ => ⟨[], rfl, rfl, rfl⟩⟩
    intro e he
    cases he
  | cons p slots ih =>
    obtain ⟨s, shapes, rfl⟩ := List.exists_cons_of_length_eq_add_one hlength
    replace hlength : shapes.length = slots.length := by simpa using hlength
    simp only [List.map_cons, replacements]
    rcases replacement_cases d p s with
      ⟨e, hfirst, hcause⟩ | ⟨q, htensor, hshape, hkept, hfirst⟩ | ⟨q, htensor, hshape, haddress, hfirst⟩
    · simp only [hfirst]
      refine ⟨.refl d, Nat.zero_le _, fun e' he => Option.some.inj he ▸ hcause, ?_⟩
      intro hdone
      cases hdone
    · -- the buffer stays, and the device with it
      obtain ⟨hgrowth, hcount, hcause, hfilled⟩ := ih d hlength
      simp only [hfirst]
      refine ⟨by simpa [Progress.after] using hgrowth, by simpa [Progress.after] using hcount,
        hcause, fun hdone => ?_⟩
      obtain ⟨filled, htensors, hshapes, hbuffers⟩ := hfilled hdone
      exact ⟨q :: filled, by simp [htensor, htensors], by simp [hshape, hshapes],
        by simp [Progress.after, install, hkept, hbuffers]⟩
    · -- the rest is made on the device that has grown by this buffer
      obtain ⟨hgrowth, hcount, hcause, hfilled⟩ := ih (d.withRegion q.buffer.capacity) hlength
      simp only [hfirst]
      refine ⟨by simpa [Progress.after] using Buffer.Growth.step q.buffer haddress hgrowth,
        by simpa [Progress.after] using hcount, hcause, fun hdone => ?_⟩
      obtain ⟨filled, htensors, hshapes, hbuffers⟩ := hfilled hdone
      exact ⟨q :: filled, by simp [htensor, htensors], by simp [hshape, hshapes],
        by simp [Progress.after, install, hbuffers]⟩

end EngineBackend

end GraphServe
