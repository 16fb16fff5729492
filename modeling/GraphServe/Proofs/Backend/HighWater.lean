import GraphServe.Proofs.Backend.Poisoning
import GraphServe.Proofs.Tenancy.Making
import Mathlib.Algebra.Order.BigOperators.Group.List
import Mathlib.Algebra.Order.Ring.Nat

/-!
# High-water marks

A backend is built and used in any way, on devices in any state. Its configurations are the one it
was built with and those that reconfigurations settled (`settledBy`); calls, and reconfigurations
that fail, settle none. Each buffer is then exactly as large as its tensor ever needed at one of
these configurations, so that the memory in use is the sum of these peaks, and a buffer moves only
when a reconfiguration raises the peak of its tensor (`capacity_eq_peak`).
-/

namespace GraphServe

/-! ## What tensors need -/

namespace Registry

/-- The bytes that a tensor needs at a configuration of shapes, if it has a byte size there. -/
def needed? (r : Registry) (ordinal : Nat) (shapes : List (Option Shape)) : Option Nat := do
  let t ← r.get? ordinal
  let s ← (shapes[ordinal]?).join
  (t.requiredBytes s).toOption

/-- The most bytes that a tensor needs at any of the configurations. There is no such number if the
tensor has no byte size at one of them. -/
def peak? (r : Registry) (ordinal : Nat) (configurations : List (List (Option Shape))) :
    Option Nat :=
  (configurations.mapM (r.needed? ordinal)).bind List.max?

variable {r : Registry}

/-- Slots know what their tensors need. -/
theorem needed?_of_slots {slots : List Slot} (htensors : r.all = slots.map Slot.tensor)
    (ordinal : Nat) :
    r.needed? ordinal ((slots.map Slot.shape).map some) = slots[ordinal]?.map Slot.bytes := by
  rw [needed?, get?, htensors, List.getElem?_map, List.getElem?_map, List.getElem?_map]
  cases slots[ordinal]? with
  | none => rfl
  | some p =>
    simp only [Option.map_some, Option.bind_eq_bind, Option.bind_some, Option.join_some]
    rw [p.bytes_eq]
    rfl

/-- The peak over configurations, counted up from the first of them. -/
theorem peak?_cons {ordinal first : Nat} {shapes : List (Option Shape)}
    {later : List (List (Option Shape))} {needs : List Nat}
    (hfirst : r.needed? ordinal shapes = some first)
    (hlater : later.mapM (r.needed? ordinal) = some needs) :
    r.peak? ordinal (shapes :: later) = some (needs.foldl max first) := by
  rw [peak?, List.mapM_cons, hfirst, hlater]
  rfl

end Registry

/-! ## Renewing slots -/

/-- A slot after its tensor took a new shape: its buffer stays if it is large enough, and else a
buffer of exactly the bytes needed takes its place. -/
inductive Slot.Renewed (p q : Slot) : Prop
  | kept (tensor_eq : q.tensor = p.tensor) (buffer_eq : q.buffer = p.buffer)
  | replaced (tensor_eq : q.tensor = p.tensor) (small : p.buffer.capacity < q.bytes)
    (exact_fit : q.buffer.capacity = q.bytes)

namespace Slot.Renewed

variable {p q : Slot}

theorem tensor_eq (h : p.Renewed q) : q.tensor = p.tensor := by
  cases h with
  | kept tensor_eq => exact tensor_eq
  | replaced tensor_eq => exact tensor_eq

/-- The capacity goes up to what the tensor needs, and never down. -/
theorem capacity_eq (h : p.Renewed q) :
    q.buffer.capacity = max p.buffer.capacity q.bytes := by
  cases h with
  | kept tensor_eq buffer_eq =>
    have hfits := q.fits
    rw [buffer_eq] at hfits ⊢
    exact (Nat.max_eq_left hfits).symm
  | replaced tensor_eq small exact_fit =>
    rw [exact_fit]
    exact (Nat.max_eq_right (Nat.le_of_lt small)).symm

end Slot.Renewed

namespace EngineBackend

variable {b : EngineBackend} {slots : List Slot}

/-- A slot is renewed by its replacement, if there is one. -/
theorem exists_renewed_of_replacement {d d' : Device} (p : Slot) {s : Shape} {new : Option Buffer}
    (h : replacement d p.tensor s p.buffer = (.ok new, d')) :
    ∃ q, p.Renewed q ∧ q.shape = s ∧ q.buffer = new.getD p.buffer := by
  rw [replacement] at h
  cases hbytes : p.tensor.requiredBytes s with
  | error e =>
    rw [hbytes] at h
    cases h
  | ok bytes =>
    simp only [hbytes] at h
    -- the buffer is kept exactly if the new shape fits into it
    by_cases hfits : bytes ≤ p.buffer.capacity
    · rw [if_pos hfits] at h
      cases h
      exact ⟨⟨p.tensor, s, p.buffer, bytes, p.name_eq, p.dtype_eq, hbytes, hfits⟩, .kept rfl rfl,
        rfl, rfl⟩
    · rw [if_neg hfits] at h
      rcases hnew : Buffer.allocate d p.tensor s with ⟨e | u, d₁⟩
      · rw [hnew] at h
        cases h
      · simp only [hnew] at h
        cases h
        have hexact := Buffer.exact_of_allocate hnew
        obtain rfl : u.capacity = bytes := Except.ok.inj (hexact.bytes_eq.symm.trans hbytes)
        exact ⟨⟨p.tensor, s, u, u.capacity, hexact.name_eq, hexact.dtype_eq, hbytes,
          Nat.le_refl _⟩, .replaced rfl (Nat.lt_of_not_le hfits) rfl, rfl, rfl⟩

/-- If all replacements are made, every slot is renewed at its new shape. -/
theorem exists_renewed_of_replacements {d d' : Device} {shapes : List Shape}
    {new : List (Option Buffer)} (hlength : shapes.length = slots.length)
    (h : replacements d (slots.map Slot.tensor) shapes (slots.map Slot.buffer) =
      (⟨new, none⟩, d')) :
    ∃ filled, List.Forall₂ Slot.Renewed slots filled ∧ filled.map Slot.shape = shapes ∧
      filled.map Slot.buffer = install new (slots.map Slot.buffer) := by
  induction slots generalizing d shapes new with
  | nil =>
    rw [List.length_nil, List.length_eq_zero_iff] at hlength
    subst hlength
    cases h
    exact ⟨[], .nil, rfl, rfl⟩
  | cons p slots ih =>
    obtain ⟨s, shapes, rfl⟩ := List.exists_cons_of_length_eq_add_one hlength
    simp only [List.map_cons, replacements] at h
    rcases hfirst : replacement d p.tensor s p.buffer with ⟨e | item, d₁⟩
    · rw [hfirst] at h
      cases h
    · simp only [hfirst] at h
      rcases hrest : replacements d₁ (slots.map Slot.tensor) shapes (slots.map Slot.buffer) with
        ⟨⟨rest, failure⟩, d₂⟩
      rw [hrest] at h
      cases h
      obtain ⟨q, hrenewed, rfl, hbuffer⟩ := exists_renewed_of_replacement p hfirst
      obtain ⟨filled, hfilled, rfl, hbuffers⟩ := ih (by simpa using hlength) hrest
      refine ⟨q :: filled, .cons hrenewed hfilled, rfl, ?_⟩
      rw [List.map_cons, hbuffer, hbuffers]
      rfl

/-- The slots of a backend that was built have the shapes that its sizes resolve to, and buffers
that were allocated at them. -/
theorem slots_of_build {files : Files} {config : BackendConfig} {d d' : Device}
    (h : build files config d = (.ok b, d')) (hb : b.Serves slots) :
    ((blankContext b.graph d.createStream.1).resolve config.batchSize config.inputSizes).1 =
        .ok (slots.map Slot.shape) ∧
      Buffer.allocateEach d.createStream.2 (slots.map Slot.tensor) (slots.map Slot.shape) =
        (⟨slots.map Slot.buffer, none⟩, d') := by
  obtain ⟨graph, shapes, -, -, hresolve, hrun, hassembled⟩ := exists_of_build_eq_ok h
  have hgraph : b.graph = graph := by rw [hassembled]; rfl
  have hshapes : shapes = slots.map Slot.shape := by
    have hboth : shapes.map some = (slots.map Slot.shape).map some := by
      rw [← hb.shapes_eq, hassembled]
      rfl
    exact List.map_injective_iff.2 (Option.some_injective Shape) hboth
  rw [← hgraph, hb.tensors_eq, hshapes, hb.buffers_eq] at hrun
  rw [← hgraph, hshapes] at hresolve
  exact ⟨hresolve, hrun⟩

/-- A backend that was built has buffers of exactly the bytes that its tensors need. -/
theorem capacity_eq_bytes {files : Files} {config : BackendConfig} {d d' : Device}
    (h : build files config d = (.ok b, d')) (hb : b.Serves slots) :
    ∀ p ∈ slots, p.buffer.capacity = p.bytes := by
  have hexact := Buffer.exact_of_allocateEach (slots_of_build h hb).2
  rw [List.zip_map', List.forall₂_map_left_iff, List.forall₂_map_right_iff,
    List.forall₂_same] at hexact
  intro p hp
  exact Except.ok.inj ((hexact p hp).bytes_eq.symm.trans p.bytes_eq)

/-! ## Configurations -/

/-- The configuration that a use settles. A reconfiguration that succeeds settles one, and no other
use does. -/
def settled? (b : EngineBackend) : Use → Option (List (Option Shape))
  | .infer _ _ _ => none
  | .reconfigure d sizes =>
    match b.reconfigure d sizes with
    | (.ok (), b', _) => some b'.context.shapes
    | (.error _, _, _) => none

/-- The configurations that a row of uses settles, in order. -/
def settledBy (b : EngineBackend) : List Use → List (List (Option Shape))
  | [] => []
  | u :: rest => (b.settled? u).toList ++ settledBy (b.use u) rest

/-- All configurations of a backend: the one it has, and those that a row of uses settles. -/
def configurations (b : EngineBackend) (uses : List Use) : List (List (Option Shape)) :=
  b.context.shapes :: b.settledBy uses

/-- What one use does to the slots: none but a reconfiguration that succeeds does anything. -/
inductive Used (b : EngineBackend) (slots : List Slot) (u : Use) : Prop
  | spared (settled_eq : b.settled? u = none) (serves : (b.use u).Serves slots)
  | resized (d : Device) (sizes : List (List Int64)) (filled : List Slot)
    (use_eq : u = .reconfigure d sizes) (accepted : (b.reconfigure d sizes).1 = .ok ())
    (settled_eq : b.settled? u = some ((filled.map Slot.shape).map some))
    (serves : (b.use u).Serves filled) (renewed : List.Forall₂ Slot.Renewed slots filled)

/-- Only a usable backend asks for shapes. -/
theorem usable_of_asked {sizes : List (List Int64)} {shapes : List Shape}
    (h : b.asked sizes = .ok shapes) : b.failure = none := by
  rw [asked, ensureUsable] at h
  split at h
  · cases h
  · next husable =>
    split at husable
    · cases husable
    · assumption

/-- A backend whose slots were renewed serves the new slots. -/
theorem serves_resized (hb : b.Serves slots) (husable : b.failure = none)
    {filled : List Slot} (hrenewed : List.Forall₂ Slot.Renewed slots filled)
    (sizes : List (List Int64)) :
    (b.resized sizes (filled.map Slot.shape) (filled.map Slot.buffer)).Serves filled := by
  have htensors : b.graph.registry.all = filled.map Slot.tensor := by
    rw [hb.tensors_eq, eq_comm, ← List.forall₂_eq_eq_eq, List.forall₂_map_left_iff,
      List.forall₂_map_right_iff]
    exact hrenewed.flip.imp fun _ _ h => h.tensor_eq
  refine ⟨htensors, rfl, rfl, rfl, rfl, ?_⟩
  rw [resized, husable]
  rfl

/-- A use spares the slots, or renews all of them. -/
theorem use_cases (hb : b.Serves slots) (u : Use) : b.Used slots u := by
  cases u with
  | infer d inputs elapsed => exact .spared rfl ((infer_verdict hb d inputs elapsed).serves hb)
  | reconfigure d sizes =>
    have hstep := reconfigure_eq hb d sizes
    cases hasked : b.asked sizes with
    | error e =>
      simp only [hasked] at hstep
      refine .spared ?_ ?_
      · simp only [settled?, hstep]
      · simp only [use, hstep]
        exact hb
    | ok shapes =>
      rcases hrun : replacements d b.graph.registry.all shapes b.buffers with ⟨⟨new, _ | e⟩, d'⟩
      · -- nothing failed, so that the renewed slots are taken over
        simp only [hasked, hrun] at hstep
        rw [hb.tensors_eq, hb.buffers_eq] at hrun
        obtain ⟨filled, hrenewed, rfl, hbuffers⟩ :=
          exists_renewed_of_replacements (length_of_asked hb hasked) hrun
        rw [hb.buffers_eq, ← hbuffers] at hstep
        refine .resized d sizes filled rfl ?_ ?_ ?_ hrenewed
        · rw [hstep]
        · simp only [settled?, hstep]
          rfl
        · rw [use, hstep]
          exact serves_resized hb (usable_of_asked hasked) hrenewed sizes
      · -- a replacement failed, and what was made before it is given back
        simp only [hasked, hrun] at hstep
        refine .spared ?_ ?_
        · simp only [settled?, hstep]
        · simp only [use, hstep]
          exact hb

/-! ## Rows of uses -/

theorem useEach_cons (b : EngineBackend) (u : Use) (rest : List Use) :
    b.useEach (u :: rest) = (b.use u).useEach rest :=
  rfl

theorem useEach_append (b : EngineBackend) (uses more : List Use) :
    b.useEach (uses ++ more) = (b.useEach uses).useEach more :=
  List.foldl_append

/-- A use leaves the graph and the settings alone. -/
theorem frame_use (hb : b.Serves slots) (u : Use) :
    (b.use u).graph = b.graph ∧ (b.use u).batchSize = b.batchSize ∧
      (b.use u).policy = b.policy := by
  cases u with
  | infer d inputs elapsed =>
    have hverdict := infer_verdict hb d inputs elapsed
    rw [use]
    cases hrun : b.infer d inputs elapsed with
    | mk result after =>
      rw [hrun] at hverdict
      cases hverdict with
      | answered => exact ⟨rfl, rfl, rfl⟩
      | refused => exact ⟨rfl, rfl, rfl⟩
      | broken => exact ⟨rfl, rfl, rfl⟩
  | reconfigure d sizes =>
    rw [use, reconfigure_eq hb]
    split
    · exact ⟨rfl, rfl, rfl⟩
    · split
      · exact ⟨rfl, rfl, rfl⟩
      · exact ⟨rfl, rfl, rfl⟩

/-- Along a row of uses each buffer grows to the most that its tensor needs, and no further. -/
theorem exists_serves_useEach (hb : b.Serves slots) (uses : List Use) :
    ∃ filled, (b.useEach uses).Serves filled ∧ (b.useEach uses).graph = b.graph ∧
      filled.length = slots.length ∧
      ∀ (ordinal : Nat) (p q : Slot), slots[ordinal]? = some p → filled[ordinal]? = some q →
        ∃ needs, (b.settledBy uses).mapM (b.graph.registry.needed? ordinal) = some needs ∧
          q.buffer.capacity = needs.foldl max p.buffer.capacity := by
  -- on the uses still to come, as the peak is counted up from the capacities at hand
  induction uses generalizing b slots with
  | nil =>
    refine ⟨slots, hb, rfl, rfl, ?_⟩
    intro ordinal p q hp hq
    obtain rfl : p = q := Option.some.inj (hp.symm.trans hq)
    exact ⟨[], rfl, rfl⟩
  | cons u rest ih =>
    have hgraph := (frame_use hb u).1
    rw [useEach_cons, settledBy]
    cases use_cases hb u with
    | spared settled_eq serves =>
      obtain ⟨filled, hserves, hsame, hlength, hcapacity⟩ := ih serves
      -- no configuration was settled, and the capacities are what they were
      rw [settled_eq]
      rw [hgraph] at hsame hcapacity
      exact ⟨filled, hserves, hsame, hlength, hcapacity⟩
    | resized d sizes renewed use_eq accepted settled_eq serves hrenewed =>
      obtain ⟨filled, hserves, hsame, hlength, hcapacity⟩ := ih serves
      rw [hgraph] at hsame hcapacity
      refine ⟨filled, hserves, hsame, hlength.trans hrenewed.length_eq.symm, ?_⟩
      intro ordinal p q hp hq
      -- the slot between the first use and the rest
      obtain ⟨hlt, rfl⟩ := List.getElem?_eq_some_iff.1 hp
      have hlt' : ordinal < renewed.length := hrenewed.length_eq ▸ hlt
      have hfirst := hrenewed.get hlt hlt'
      obtain ⟨needs, hneeds, hq'⟩ :=
        hcapacity ordinal renewed[ordinal] q (List.getElem?_eq_getElem hlt') hq
      have htensors : b.graph.registry.all = renewed.map Slot.tensor := by
        rw [← hgraph]
        exact serves.tensors_eq
      have hneeded : b.graph.registry.needed? ordinal ((renewed.map Slot.shape).map some) =
          some renewed[ordinal].bytes := by
        rw [Registry.needed?_of_slots htensors, List.getElem?_eq_getElem hlt', Option.map_some]
      refine ⟨renewed[ordinal].bytes :: needs, ?_, ?_⟩
      · rw [settled_eq, Option.toList_some, List.singleton_append, List.mapM_cons, hneeded, hneeds]
        rfl
      · rw [hq', List.foldl_cons]
        exact congrArg (needs.foldl max) hfirst.capacity_eq

/-! ## Backends that were built -/

section Built

variable {files : Files} {config : BackendConfig} {d d' : Device}

/-- The peak of a tensor is the capacity of its buffer. -/
theorem capacity_of_built (h : build files config d = (.ok b, d')) (uses : List Use)
    (ordinal : Nat) :
    (b.useEach uses).buffers[ordinal]?.map Buffer.capacity =
      b.graph.registry.peak? ordinal (b.configurations uses) := by
  obtain ⟨slots, hb⟩ := (Reached.built h).exists_serves
  obtain ⟨filled, hserves, -, hlength, hcapacity⟩ := exists_serves_useEach hb uses
  have hfirst := Registry.needed?_of_slots hb.tensors_eq ordinal
  rw [← hb.shapes_eq] at hfirst
  rw [hserves.buffers_eq, List.getElem?_map]
  cases hp : slots[ordinal]? with
  | none =>
    -- past the last tensor there is neither a buffer nor a need
    have hq : filled[ordinal]? = none := by
      rw [List.getElem?_eq_none_iff] at hp ⊢
      exact hlength ▸ hp
    rw [hp] at hfirst
    rw [hq, configurations, Registry.peak?, List.mapM_cons, hfirst]
    rfl
  | some p =>
    have hlt : ordinal < filled.length := hlength ▸ (List.getElem?_eq_some_iff.1 hp).1
    have hq := List.getElem?_eq_getElem hlt
    obtain ⟨needs, hneeds, hcapacity⟩ := hcapacity ordinal p filled[ordinal] hp hq
    rw [hp] at hfirst
    rw [configurations, Registry.peak?_cons hfirst hneeds, hq, Option.map_some, Option.map_some,
      hcapacity, capacity_eq_bytes h hb p (List.mem_of_getElem? hp)]

theorem length_buffers_of_built (h : build files config d = (.ok b, d')) (uses : List Use) :
    (b.useEach uses).buffers.length = b.graph.registry.size := by
  obtain ⟨slots, hb⟩ := (Reached.built h).exists_serves
  obtain ⟨filled, hserves, -, hlength, -⟩ := exists_serves_useEach hb uses
  rw [hserves.buffers_eq, List.length_map, hlength, hb.length_slots]

/-- The memory in use is the sum of the peaks. -/
theorem memoryUsage_of_built (h : build files config d = (.ok b, d')) (uses : List Use) :
    (b.useEach uses).memoryUsage = ((List.range b.graph.registry.size).map fun ordinal =>
      (b.graph.registry.peak? ordinal (b.configurations uses)).getD 0).sum := by
  have hcount := length_buffers_of_built h uses
  rw [memoryUsage, Buffer.totalCapacity_eq_sum]
  apply congrArg List.sum
  apply List.ext_getElem
  · rw [List.length_map, List.length_map, List.length_range, hcount]
  · intro ordinal hlt hlt'
    rw [List.length_map] at hlt
    rw [List.getElem_map, List.getElem_map, List.getElem_range, ← capacity_of_built h uses ordinal,
      List.getElem?_eq_getElem hlt]
    rfl

end Built

/-! ## What a use does to memory -/

/-- No use gives memory up. -/
theorem memoryUsage_le_use (hb : b.Serves slots) (u : Use) :
    b.memoryUsage ≤ (b.use u).memoryUsage := by
  rw [memoryUsage, memoryUsage, Buffer.totalCapacity_eq_sum, Buffer.totalCapacity_eq_sum,
    hb.buffers_eq]
  cases use_cases hb u with
  | spared settled_eq serves =>
    rw [serves.buffers_eq]
  | resized d sizes filled use_eq accepted settled_eq serves renewed =>
    rw [serves.buffers_eq, List.map_map, List.map_map]
    apply List.Forall₂.sum_le_sum
    rw [List.forall₂_map_left_iff, List.forall₂_map_right_iff]
    apply renewed.imp
    intro p q hpq
    exact Nat.le_trans (Nat.le_max_left _ _) (Nat.le_of_eq hpq.capacity_eq.symm)

theorem memoryUsage_le_useEach (hb : b.Serves slots) (uses : List Use) :
    b.memoryUsage ≤ (b.useEach uses).memoryUsage := by
  induction uses generalizing b slots with
  | nil => exact Nat.le_refl _
  | cons u rest ih =>
    have hfirst := memoryUsage_le_use hb u
    have hserves : ∃ slots', (b.use u).Serves slots' := by
      cases use_cases hb u with
      | spared settled_eq serves => exact ⟨slots, serves⟩
      | resized d sizes filled use_eq accepted settled_eq serves => exact ⟨filled, serves⟩
    obtain ⟨slots', hserves⟩ := hserves
    exact Nat.le_trans hfirst (ih hserves)

/-- A buffer stays in place, unless a reconfiguration succeeds that needs a larger one. -/
theorem buffer_use_cases (hb : b.Serves slots) (u : Use) (ordinal : Nat) :
    (b.use u).buffers[ordinal]? = b.buffers[ordinal]? ∨
      ∃ d sizes old new, u = .reconfigure d sizes ∧ (b.reconfigure d sizes).1 = .ok () ∧
        b.buffers[ordinal]? = some old ∧ (b.use u).buffers[ordinal]? = some new ∧
        old.capacity < new.capacity := by
  cases use_cases hb u with
  | spared settled_eq serves =>
    rw [serves.buffers_eq, hb.buffers_eq]
    exact Or.inl rfl
  | resized d sizes filled use_eq accepted settled_eq serves renewed =>
    rw [serves.buffers_eq, hb.buffers_eq, List.getElem?_map, List.getElem?_map]
    by_cases hlt : ordinal < slots.length
    · have hlt' : ordinal < filled.length := renewed.length_eq ▸ hlt
      rw [List.getElem?_eq_getElem hlt, List.getElem?_eq_getElem hlt']
      cases renewed.get hlt hlt' with
      | kept tensor_eq buffer_eq => exact Or.inl (congrArg some buffer_eq)
      | replaced tensor_eq small exact_fit =>
        refine Or.inr ⟨d, sizes, _, _, use_eq, accepted, rfl, rfl, ?_⟩
        exact Nat.lt_of_lt_of_eq small exact_fit.symm
    · have hlt' : ¬ ordinal < filled.length := renewed.length_eq ▸ hlt
      rw [List.getElem?_eq_none (Nat.le_of_not_lt hlt),
        List.getElem?_eq_none (Nat.le_of_not_lt hlt')]
      exact Or.inl rfl

/-- After any row of uses, successful or not, the buffer of each tensor has exactly the bytes that
the tensor needs at the most demanding of the backend's configurations, the first one and those that
reconfigurations settled. So the memory in use is the sum of these peaks; it never goes down; and a
buffer is another one only after a reconfiguration that raised the peak of its tensor. -/
theorem capacity_eq_peak {files : Files} {config : BackendConfig} {d d' : Device}
    (h : build files config d = (.ok b, d')) (uses : List Use) :
    let b' := b.useEach uses
    let r := b.graph.registry
    (∀ ordinal, b'.buffers[ordinal]?.map Buffer.capacity =
      r.peak? ordinal (b.configurations uses)) ∧
    b'.buffers.map Buffer.name = r.all.map Descriptor.name ∧
    b'.memoryUsage = ((List.range r.size).map fun ordinal =>
      (r.peak? ordinal (b.configurations uses)).getD 0).sum ∧
    (∀ later : List Use, b'.memoryUsage ≤ (b'.useEach later).memoryUsage) ∧
    ∀ (u : Use) (ordinal : Nat),
      (b'.use u).buffers[ordinal]? = b'.buffers[ordinal]? ∨
        ∃ e sizes before after, u = .reconfigure e sizes ∧ (b'.reconfigure e sizes).1 = .ok () ∧
          r.peak? ordinal (b.configurations uses) = some before ∧
          r.peak? ordinal (b.configurations (uses ++ [u])) = some after ∧ before < after := by
  intro b' r
  obtain ⟨slots, hb⟩ := (Reached.built h).exists_serves
  obtain ⟨filled, hserves, hgraph, -, -⟩ := exists_serves_useEach hb uses
  refine ⟨capacity_of_built h uses, ?_, memoryUsage_of_built h uses,
    memoryUsage_le_useEach hserves, ?_⟩
  · have htensors : r.all = filled.map Slot.tensor := by
      rw [← hserves.tensors_eq, hgraph]
    rw [hserves.buffers_eq, htensors, List.map_map, List.map_map]
    apply List.map_congr_left
    intro p _
    exact p.name_eq
  · intro u ordinal
    have hbefore := capacity_of_built h uses ordinal
    have hafter := capacity_of_built h (uses ++ [u]) ordinal
    rw [useEach_append] at hafter
    rcases buffer_use_cases hserves u ordinal with
      hkept | ⟨e, sizes, old, new, huse, haccepted, hold, hnew, hlarger⟩
    · exact Or.inl hkept
    · -- the peaks are the capacities before and after
      rw [hold] at hbefore
      rw [useEach, List.foldl_cons, List.foldl_nil, hnew] at hafter
      exact Or.inr ⟨e, sizes, old.capacity, new.capacity, huse, haccepted, hbefore.symm,
        hafter.symm, hlarger⟩

/-- Two vectors of two values, then of four, then of one: the peaks are at four. -/
theorem capacity_eq_peak_copy :
    ∃ b d,
      build Fleet.copyFiles Fleet.copyConfig (Device.new .builtin none (.upTo 4096)) = (.ok b, d) ∧
      let d' := (b.reconfigure d [[4]]).2.2
      let uses : List Use := [.reconfigure d [[4]], .reconfigure d' [[1]]]
      b.configurations uses = [[some ⟨[2]⟩, some ⟨[2]⟩], [some ⟨[4]⟩, some ⟨[4]⟩],
        [some ⟨[1]⟩, some ⟨[1]⟩]] ∧
      (b.useEach uses).memoryUsage = 32 := by
  let start := build Fleet.copyFiles Fleet.copyConfig (Device.new .builtin none (.upTo 4096))
  let row : EngineBackend → Device → List Use := fun b d =>
    [.reconfigure d [[4]], .reconfigure (b.reconfigure d [[4]]).2.2 [[1]]]
  have hrow : (start.1.map fun b => (b.configurations (row b start.2),
      (List.range b.graph.registry.size).map fun ordinal =>
        b.graph.registry.peak? ordinal (b.configurations (row b start.2)))) =
      .ok ([[some ⟨[2]⟩, some ⟨[2]⟩], [some ⟨[4]⟩, some ⟨[4]⟩], [some ⟨[1]⟩, some ⟨[1]⟩]],
        [some 16, some 16]) := by
    decide +kernel
  rcases hbuild : start with ⟨e | b, d⟩
  · rw [hbuild] at hrow
    cases hrow
  · rw [hbuild] at hrow
    obtain ⟨hconfigurations, hpeaks⟩ := Prod.mk.inj (Except.ok.inj hrow)
    refine ⟨b, d, hbuild, hconfigurations, ?_⟩
    have husage := (capacity_eq_peak hbuild (row b d)).2.2.1
    have hsum := congrArg (fun peaks => (peaks.map fun n => n.getD 0).sum) hpeaks
    rw [List.map_map] at hsum
    exact husage.trans hsum

end EngineBackend

end GraphServe
