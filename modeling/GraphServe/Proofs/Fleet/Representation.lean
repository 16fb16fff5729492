import GraphServe.Proofs.Fleet.Basic

/-!
# What a usable member holds

In every fleet that a run can lead to, a usable member is represented on the device: its context is
ready with nothing bound, every tensor has a shape, and for every tensor there is one buffer of its
name and type, in a live region of its own that is large enough for the shape
(`member_represented`). So a call can fail in few ways only, and so can new sizes.
-/

namespace GraphServe

namespace EngineBackend

/-- The tensors, shapes, buffers and regions of a backend fit each other. -/
structure Represented (b : EngineBackend) (d : Device) : Prop where
  ready : b.context.phase = .ready
  unbound : b.context.bindings = []
  length_buffers : b.buffers.length = b.graph.registry.size
  distinct : (b.buffers.map Buffer.address).Nodup
  live : ∀ u ∈ b.buffers, ∃ region, d.region? u.address = some region ∧
    region.data.length = u.capacity
  shaped : ∃ shapes : List Shape, b.context.shapes = shapes.map some ∧
    shapes.length = b.graph.registry.size ∧
    b.modelInfo = ModelInfo.ofRegistry b.graph.registry shapes b.batchSize ∧
    ∀ ordinal t s u, b.graph.registry.get? ordinal = some t → shapes[ordinal]? = some s →
      b.buffers[ordinal]? = some u →
        u.name = t.name ∧ t.elementType = .ok u.dtype ∧
          ∃ bytes, t.requiredBytes s = .ok bytes ∧ bytes ≤ u.capacity

/-- A usable backend that serves slots on a device is represented there. -/
theorem Serves.represented {b : EngineBackend} {slots : List Slot} {d : Device}
    (hb : b.Serves slots) (hr : b.Resides d) (hd : d.Orderly) (husable : b.failure = none) :
    b.Represented d where
  ready := hb.phase_of_usable husable
  unbound := hb.bindings_eq
  length_buffers := hb.length_buffers
  distinct := hr.distinct
  live u hu := by
    obtain ⟨region, hregion, -, hlength⟩ := Device.exists_region_of_mem_extents (hr.owned u hu) hd
    exact ⟨region, hregion, hlength⟩
  shaped := by
    refine ⟨slots.map Slot.shape, hb.shapes_eq, ?_, hb.modelInfo_eq, ?_⟩
    · rw [List.length_map, hb.length_slots]
    · intro ordinal t s u ht hs hu
      rw [Registry.get?, hb.tensors_eq, List.getElem?_map, Option.map_eq_some_iff] at ht
      rw [List.getElem?_map, Option.map_eq_some_iff] at hs
      rw [hb.buffers_eq, List.getElem?_map, Option.map_eq_some_iff] at hu
      -- the three columns are read off one and the same slot
      obtain ⟨p, hp, rfl⟩ := ht
      obtain ⟨q, hq, rfl⟩ := hs
      obtain ⟨r, hr', rfl⟩ := hu
      rw [hp] at hq hr'
      cases hq
      cases hr'
      exact ⟨p.name_eq, p.dtype_eq, p.bytes, p.bytes_eq, p.fits⟩

end EngineBackend

namespace Fleet

/-- A usable member is represented on the device. Calls of a member fail in the ways of
`CallFailure` only, and new sizes in those of `ReconfigureFailure`. -/
theorem member_represented (kernels : KernelTable) (limit : Option Nat) (host : Host)
    (calls : List Call) {b : EngineBackend}
    (hb : b ∈ ((start kernels limit host).run calls).members) :
    let d := ((start kernels limit host).run calls).device
    (b.isUsable = true → b.Represented d) ∧
    (∀ inputs elapsed e, (b.infer d inputs elapsed).1 = .error e →
      b.CallFailure d inputs e) ∧
    (∀ sizes e, (b.reconfigure d sizes).1 = .error e → b.ReconfigureFailure e) := by
  intro d
  have hf := consistent_run_start kernels limit host calls
  obtain ⟨slots, hserves⟩ := hf.serves b hb
  refine ⟨?_, ?_, ?_⟩
  · intro husable
    exact hserves.represented (hf.resides hb) hf.orderly (Option.isNone_iff_eq_none.1 husable)
  · intro inputs elapsed e he
    exact (EngineBackend.infer_spec hserves (hf.resides hb) hf.orderly inputs elapsed).cause e he
  · intro sizes e he
    exact (EngineBackend.reconfigure_cases hserves d sizes).cause he

/-- A member is still represented after it was refused larger buffers and given a longer input. -/
theorem member_represented_copy :
    let f := (start .builtin (some 40) (.upTo 4096)).run [.build copyFiles copyConfig,
      .reconfigure 0 [[4]], .infer 0 [[1, 2, 3, 4, 5, 6, 7, 8, 9]] ⟨0⟩]
    ∃ b ∈ f.members, b.isUsable = true ∧ b.Represented f.device := by
  intro f
  have hone : f.members.length = 1 := by decide +kernel
  obtain ⟨b, hmembers⟩ := List.length_eq_one_iff.1 hone
  have hb : b ∈ f.members := hmembers ▸ List.mem_cons_self
  have husable : ∀ b ∈ f.members, b.isUsable = true := by decide +kernel
  have hrepresented := member_represented .builtin (some 40) (.upTo 4096) _ hb
  exact ⟨b, hb, husable b hb, hrepresented.1 (husable b hb)⟩

end Fleet

end GraphServe
