import GraphServe.Proofs.Context
import GraphServe.Proofs.Device.Confinement
import GraphServe.Proofs.Transfer

/-!
# Serving backends

An engine backend serves a list of slots if its tensors, shapes and buffers are the columns of that
list, its description is that of the shapes, and its context is ready, or poisoned once the device
failed. It resides on a device that holds its stream, its kernel and an extent of its own for each
buffer. A ready context then binds every slot (`bind_eq`), and launching it runs the kernel or fails
in execution (`enqueue_cases`).
-/

namespace GraphServe

/-- The binding of a slot for a launch. -/
def Slot.binding (p : Slot) : Binding :=
  ⟨p.tensor.name, p.address, p.bytes, p.tensor.direction, p.buffer.dtype, p.shape⟩

/-- The slots as the kernel sees them, if their regions begin with the given bytes. -/
theorem filterMap_view?_binding {d : Device} {slots : List Slot} {contents : List Bytes}
    (h : List.Forall₂ (fun p data => data.length = p.bytes ∧ d.Begins p.address data) slots
      contents) :
    (slots.map Slot.binding).filterMap d.view? = List.zipWith Slot.view slots contents := by
  induction h with
  | nil => rfl
  | @cons p data slots contents hfirst _ ih =>
    have hview : d.view? p.binding = some (p.view data) :=
      Device.view?_of_begins hfirst.1 hfirst.2
    rw [List.map_cons, List.filterMap_cons_some hview, ih, List.zipWith_cons_cons]

/-- Bytes written to placed slots are what their regions then begin with. -/
theorem begins_writeOutputs {d : Device} {slots : List Slot} {written : List Bytes}
    (hd : d.Orderly) (hplaced : Slot.Placed slots d)
    (h : List.Forall₂ (fun p bytes => bytes.length = p.bytes) slots written) :
    List.Forall₂ (fun p bytes => bytes.length = p.bytes ∧
      (d.writeOutputs (slots.map Slot.binding) written).Begins p.address bytes) slots written := by
  have hfits : List.Forall₂ (fun bound left => left.length = bound.bytes ∧ d.Covers bound)
      (slots.map Slot.binding) written := by
    have hcovers : ∀ p ∈ slots, d.Covers p.binding := fun p hp => hplaced.exists_region hd hp
    rw [List.forall₂_map_left_iff]
    exact ((List.forall₂_and_left _ _).2 ⟨hcovers, h⟩).imp fun _ _ => And.symm
  have hdistinct : ((slots.map Slot.binding).map Binding.address).Nodup := by
    rw [List.map_map]
    exact hplaced.distinct
  have hholds := Device.forall₂_writeOutputs hdistinct hfits
  rw [List.forall₂_map_left_iff] at hholds
  exact hholds.imp fun _ _ hleft => ⟨hleft.1, hleft.begins⟩

namespace EngineBackend

/-- The parallel lists of a backend are the columns of a list of slots. -/
structure Serves (b : EngineBackend) (slots : List Slot) : Prop where
  tensors_eq : b.graph.registry.all = slots.map Slot.tensor
  shapes_eq : b.context.shapes = (slots.map Slot.shape).map some
  buffers_eq : b.buffers = slots.map Slot.buffer
  modelInfo_eq : b.modelInfo =
    ModelInfo.ofRegistry b.graph.registry (slots.map Slot.shape) b.batchSize
  bindings_eq : b.context.bindings = []
  phase_eq : b.context.phase = if b.failure.isNone then .ready else .poisoned

/-- The device holds what the backend owns. -/
structure Resides (b : EngineBackend) (d : Device) : Prop where
  owned : ∀ u ∈ b.buffers, u.extent ∈ d.extents
  distinct : (b.buffers.map Buffer.address).Nodup
  stream_mem : b.context.stream ∈ d.streams
  kernel_mem : d.hasKernel b.graph.kernel = true

/-- The addresses of the backend's buffers. -/
abbrev addresses (b : EngineBackend) : List Address := b.buffers.map Buffer.address

variable {b : EngineBackend} {slots : List Slot} {d : Device}

namespace Serves

/-- The slots of the inputs and those of the outputs. -/
theorem split (hb : b.Serves slots) :
    ∃ ins outs, slots = ins ++ outs ∧ b.graph.registry.inputs = ins.map Slot.tensor ∧
      b.graph.registry.outputs = outs.map Slot.tensor := by
  have hall := hb.tensors_eq
  rw [Registry.all, eq_comm, List.map_eq_append_iff] at hall
  obtain ⟨ins, outs, hslots, hins, houts⟩ := hall
  exact ⟨ins, outs, hslots, hins.symm, houts.symm⟩

/-- There is a slot for every tensor. -/
theorem length_slots (hb : b.Serves slots) : slots.length = b.graph.registry.size := by
  rw [Registry.size, hb.tensors_eq, List.length_map]

/-- There is a shape for every tensor. -/
theorem length_shapes (hb : b.Serves slots) : b.context.shapes.length = b.graph.registry.size := by
  rw [hb.shapes_eq, List.length_map, List.length_map, hb.length_slots]

/-- There is a buffer for every tensor. -/
theorem length_buffers (hb : b.Serves slots) : b.buffers.length = b.graph.registry.size := by
  rw [hb.buffers_eq, List.length_map, hb.length_slots]

theorem phase_of_usable (hb : b.Serves slots) (husable : b.failure = none) :
    b.context.phase = .ready := by
  simp [hb.phase_eq, husable]

theorem placed (hb : b.Serves slots) (hr : b.Resides d) : Slot.Placed slots d := by
  constructor
  · intro p hp
    exact hr.owned _ (hb.buffers_eq ▸ List.mem_map_of_mem hp)
  · have hdistinct := hr.distinct
    rwa [hb.buffers_eq, List.map_map] at hdistinct

theorem addresses_eq (hb : b.Serves slots) : b.addresses = slots.map Slot.address := by
  rw [addresses, hb.buffers_eq, List.map_map]
  rfl

/-- While the context is ready its shapes can be read. -/
theorem resolvedShapes_eq (hb : b.Serves slots) (husable : b.failure = none) :
    b.context.resolvedShapes = .ok (slots.map Slot.shape) := by
  rw [Context.resolvedShapes, Context.expect_eq_ok (by simp [hb.phase_of_usable husable]), ok_bind]
  exact (Context.requireShapes_eq_ok_iff hb.length_shapes).2 hb.shapes_eq

end Serves

/-! ## Binding and launching -/

theorem bindingsOf_slots (slots : List Slot) :
    Context.bindingsOf (slots.map Slot.tensor) ((slots.map Slot.shape).map some)
      (slots.map Slot.buffer) = .ok (slots.map Slot.binding) := by
  induction slots with
  | nil => rfl
  | cons p slots ih =>
    simp only [List.map_cons, Context.bindingsOf, Context.bindingOf, p.bytes_eq, ok_bind,
      if_neg (Nat.not_lt.2 p.fits), ih]
    rfl

/-- A ready context binds every slot. -/
theorem bind_eq (hb : b.Serves slots) (husable : b.failure = none) :
    b.context.bind b.buffers =
      (.ok (), { b.context with phase := .bound, bindings := slots.map Slot.binding }) := by
  have hcount : ¬ b.buffers.length ≠ b.context.graph.registry.size := not_not_intro hb.length_buffers
  have hbound : Context.bindingsOf b.context.graph.registry.all b.context.shapes b.buffers =
      .ok (slots.map Slot.binding) := by
    rw [hb.shapes_eq, hb.buffers_eq, show b.context.graph.registry.all = _ from hb.tensors_eq]
    exact bindingsOf_slots slots
  rw [Context.bind, Context.expect_eq_ok (by simp [hb.phase_of_usable husable]), ok_bind]
  simp only [if_neg hcount, hbound]
  rfl

/-- The bindings of placed slots pass the checks of a launch. -/
theorem checkBindings_slots (hplaced : Slot.Placed slots d) (hd : d.Orderly) :
    d.checkBindings [] (slots.map Slot.binding) = .ok () := by
  refine Device.checkBindings_eq_ok_iff.2 ⟨?_, ?_⟩
  · rw [List.map_map]
    exact hplaced.distinct
  · intro bound hbound
    obtain ⟨p, hp, rfl⟩ := List.mem_map.1 hbound
    exact hplaced.exists_region hd hp

/-- A launch of placed slots fails in execution, or it runs the kernel and ends well. -/
theorem launch_slots_cases {stream : Stream} {kernel : String} {body : Kernel}
    (hd : d.Orderly) (hplaced : Slot.Placed slots d) (hstream : stream ∈ d.streams)
    (hkernel : d.kernels.get? kernel = some body) (payload : Bytes) :
    (∃ reason d', d.launch stream kernel payload (slots.map Slot.binding) =
        (.error (.execution reason), d')) ∨
      ∃ d', d.launch stream kernel payload (slots.map Slot.binding) = (.ok (), d') ∧
        d.runKernel kernel body payload (slots.map Slot.binding) = (.ok (), d') := by
  cases hfault : d.launchFault with
  | true =>
    exact Or.inl ⟨_, _, by rw [Device.launch, if_pos hfault]⟩
  | false =>
    rw [Device.launch_of_bound hfault hkernel hstream (checkBindings_slots hplaced hd)]
    simp only [Device.runKernel]
    cases (body.run payload _ _).result with
    | error e =>
      obtain ⟨reason, hreason⟩ := Device.exists_launchError_eq kernel e
      exact Or.inl ⟨reason, _, by rw [Except.mapError, hreason]⟩
    | ok u => exact Or.inr ⟨_, rfl, rfl⟩

/-- A launch that the device does not survive poisons the context. -/
theorem enqueue_of_failed {c : Context} (hphase : c.phase = .bound) {e : EngineError} {d' : Device}
    (he : e.isDeviceError = true)
    (hlaunch : d.launch c.stream c.graph.kernel c.graph.payload c.bindings = (.error e, d')) :
    c.enqueue d = (.error e, c.poison, d') := by
  have hexpect : c.expect [.bound] "enqueue" = .ok () := Context.expect_eq_ok (by simp [hphase]) _
  simp only [Context.enqueue, hexpect, hlaunch, Except.bind, he, if_true]

/-- A launch that ends well makes the context ready again. -/
theorem enqueue_of_launched {c : Context} (hphase : c.phase = .bound) {d' : Device}
    (hstream : c.stream ∈ d'.streams)
    (hlaunch : d.launch c.stream c.graph.kernel c.graph.payload c.bindings = (.ok (), d')) :
    c.enqueue d = (.ok (), { c with phase := .ready, bindings := [] }, d') := by
  have hexpect : c.expect [.bound] "enqueue" = .ok () := Context.expect_eq_ok (by simp [hphase]) _
  have hwaited : d'.synchronize c.stream = .ok () := if_pos hstream
  simp only [Context.enqueue, hexpect, hlaunch, Except.bind, hwaited]

/-- Launching a bound context fails in execution and poisons it, or makes it ready again. -/
theorem enqueue_cases {c : Context} {body : Kernel} (hphase : c.phase = .bound)
    (hbindings : c.bindings = slots.map Slot.binding) (hd : d.Orderly)
    (hplaced : Slot.Placed slots d) (hstream : c.stream ∈ d.streams)
    (hkernel : d.kernels.get? c.graph.kernel = some body) :
    (∃ reason d', c.enqueue d = (.error (.execution reason), c.poison, d') ∧
        Device.Keeps (slots.map Slot.address) d d') ∨
      ∃ d', c.enqueue d = (.ok (), { c with phase := .ready, bindings := [] }, d') ∧
        Device.Keeps (slots.map Slot.address) d d' ∧
        d.runKernel c.graph.kernel body c.graph.payload (slots.map Slot.binding) = (.ok (), d') := by
  have hkeeps : Device.Keeps (slots.map Slot.address) d
      (d.launch c.stream c.graph.kernel c.graph.payload (slots.map Slot.binding)).2 := by
    refine (d.keeps_launch _ _ _ _).mono fun a ha => ?_
    obtain ⟨bound, hbound, rfl⟩ := List.mem_map.1 ha
    obtain ⟨p, hp, rfl⟩ := List.mem_map.1 (List.mem_filter.1 hbound).1
    exact List.mem_map_of_mem hp
  rcases launch_slots_cases hd hplaced hstream hkernel c.graph.payload with
    ⟨reason, d', hlaunch⟩ | ⟨d', hlaunch, hrun⟩
  · rw [hlaunch] at hkeeps
    rw [← hbindings] at hlaunch
    exact Or.inl ⟨reason, d', enqueue_of_failed hphase rfl hlaunch, hkeeps⟩
  · rw [hlaunch] at hkeeps
    rw [← hbindings] at hlaunch
    exact Or.inr ⟨d', enqueue_of_launched hphase (hkeeps.streams_eq ▸ hstream) hlaunch, hkeeps, hrun⟩

end EngineBackend

end GraphServe
