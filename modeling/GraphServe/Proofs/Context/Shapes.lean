import GraphServe.Proofs.Context.Axes
import GraphServe.Proofs.Context.Bindings
import GraphServe.Proofs.Device.Launch

/-!
# Shape tables of contexts

Whatever is done with a context, its shape table fits its phase (`Sound.run`). While it is
configuring, no output has a shape and each input has none or one that its declaration accepts. In
the phases after that, one assignment of sizes to names makes the declarations of all tensors, inputs
and outputs alike, evaluate to the table. A refused operation changes nothing, unless a launch
failed, and a poisoned context stays as it is for good (`shapes_fit_phase`).
-/

namespace GraphServe.Context

/-! ## Tables -/

/-- No output has a shape, and an input only one that its declaration accepts. -/
structure PartlyShaped (graph : Graph) (slots : List (Option Shape)) : Prop where
  outputs_none : ∀ (ordinal : Nat) (t : Descriptor), graph.registry.get? ordinal = some t →
    t.isInput = false → slots[ordinal]? = some none
  inputs_accept : ∀ (ordinal : Nat) (t : Descriptor) (s : Shape),
    graph.registry.get? ordinal = some t → slots[ordinal]? = some (some s) → t.Accepts s

/-- One assignment of sizes to names makes the declaration of every tensor evaluate to the shape
in its slot. -/
def FullyShaped (graph : Graph) (slots : List (Option Shape)) : Prop :=
  ∃ assigned : String → UInt64,
    slots = graph.registry.all.map fun t => some (t.shape.under assigned)

/-- A table is as its phase wants it. -/
def FitsPhase (graph : Graph) (slots : List (Option Shape)) : Phase → Prop
  | .configuring => PartlyShaped graph slots
  | .shapesResolved | .ready | .bound => FullyShaped graph slots
  | .poisoned => True

variable {c c' : Context} {graph : Graph} {slots : List (Option Shape)}

/-- A table without any shape. -/
theorem partlyShaped_of_forall_none (hlength : slots.length = graph.registry.size)
    (hnone : ∀ slot ∈ slots, slot = none) : PartlyShaped graph slots := by
  constructor
  · intro ordinal t ht _
    have hlt : ordinal < slots.length := hlength ▸ (List.getElem?_eq_some_iff.1 ht).1
    rw [List.getElem?_eq_getElem hlt, hnone _ (List.getElem_mem hlt)]
  · intro ordinal t s _ hs
    cases hnone _ (List.mem_of_getElem? hs)

/-- An input takes a shape that it accepts. -/
theorem PartlyShaped.set (h : PartlyShaped graph slots) {ordinal : Nat} {t : Descriptor}
    {s : Shape} (ht : graph.registry.get? ordinal = some t) (hinput : t.isInput = true)
    (haccepts : t.Accepts s) : PartlyShaped graph (slots.set ordinal (some s)) := by
  constructor
  · intro other t' ht' houtput
    have hne : ordinal ≠ other := by
      rintro rfl
      rw [ht] at ht'
      cases ht'
      rw [hinput] at houtput
      cases houtput
    rw [List.getElem?_set_ne hne]
    exact h.outputs_none other t' ht' houtput
  · intro other t' s' ht' hs'
    by_cases hsame : ordinal = other
    · subst hsame
      rw [ht] at ht'
      cases ht'
      have hlt := (List.getElem?_eq_some_iff.1 hs').1
      rw [List.length_set] at hlt
      rw [List.getElem?_set_self hlt] at hs'
      cases hs'
      exact haccepts
    · rw [List.getElem?_set_ne hsame] at hs'
      exact h.inputs_accept other t' s' ht' hs'

/-! ## Setting inputs and deriving outputs -/

/-- A shape that was set is one that the input's declaration accepts. -/
theorem accepts_of_acceptShape {ordinal : Nat} {s : Shape}
    (h : c.acceptShape ordinal s = .ok c') : ∃ t, c.graph.registry.get? ordinal = some t ∧
      t.isInput = true ∧ t.Accepts s := by
  obtain ⟨⟨⟩, -, h⟩ := bind_eq_ok_iff.1 h
  split at h
  · cases h
  · next t ht =>
    rw [Option.filter_eq_some_iff] at ht
    by_cases hzero : (0 : UInt64) ∈ s.dims
    · rw [if_pos hzero] at h
      cases h
    · rw [if_neg hzero] at h
      cases hcheck : t.shape.check s with
      | error fault =>
        simp only [hcheck] at h
        cases h
      | ok u => exact ⟨t, ht.1, ht.2, .of_check hcheck hzero⟩

/-- The outputs' shapes are made under the sizes that the inputs settle. -/
theorem fullyShaped_of_deriveOutputs (hlength : c.shapes.length = c.graph.registry.size)
    (hpartly : PartlyShaped c.graph c.shapes) (h : c.deriveOutputs = .ok c') :
    FullyShaped c.graph c'.shapes := by
  obtain ⟨⟨⟩, -, h⟩ := bind_eq_ok_iff.1 h
  obtain ⟨sizes, hsizes, h⟩ := bind_eq_ok_iff.1 h
  obtain ⟨outputs, houtputs, h⟩ := bind_eq_ok_iff.1 h
  cases h
  refine ⟨AxisSizes.assignment sizes, ?_⟩
  have hroom : c.graph.registry.inputs.length ≤ c.shapes.length := by
    rw [hlength]
    exact Registry.inputCount_le_size _
  have hinputs := AxisSizes.take_eq_of_unifyInputs hsizes hroom (by
    intro ordinal t s ht hs
    exact hpartly.inputs_accept ordinal t s (Registry.get?_of_inputs ht) hs)
  have heach : ∀ t s, AxisSizes.evaluate sizes t = .ok s →
      s = t.shape.under (AxisSizes.assignment sizes) := fun t s => AxisSizes.eq_under_of_evaluate
  rw [eq_map_of_mapM_eq_ok heach houtputs, List.map_map, Registry.inputCount, hinputs, Registry.all,
    List.map_append]
  rfl

/-- A full table can be read. -/
theorem FullyShaped.exists_resolvedShapes (h : FullyShaped c.graph c.shapes)
    (hphase : c.phase ∈ [Phase.shapesResolved, .ready, .bound]) :
    ∃ shapes, c.resolvedShapes = .ok shapes := by
  obtain ⟨assigned, hslots⟩ := h
  refine ⟨c.graph.registry.all.map fun t => t.shape.under assigned, ?_⟩
  rw [resolvedShapes, expect_eq_ok hphase, ok_bind, requireShapes_eq_ok_iff (by rw [hslots]; simp),
    hslots, List.map_map]
  rfl

/-! ## Refusals -/

theorem commit_eq_self {next : Except EngineError Context} (h : ∀ c', next ≠ .ok c') :
    (c.commit next).2 = c := by
  cases next with
  | error e => rfl
  | ok c' => exact (h c' rfl).elim

theorem commit_of_error {next : Except EngineError Context} {e : EngineError}
    (h : (c.commit next).1 = .error e) : (c.commit next).2 = c := by
  cases next with
  | error e' => rfl
  | ok c' => cases h

/-- A launch that ends well was made on a stream that exists, and still exists then. -/
theorem synchronize_of_launch {d d' : Device} {stream : Stream} {kernel : String}
    {payload : Bytes} {bindings : List Binding}
    (h : d.launch stream kernel payload bindings = (.ok (), d')) :
    d'.synchronize stream = .ok () := by
  have hkept := (d.keeps_launch stream kernel payload bindings).streams_eq
  rw [h] at hkept
  have hstream : stream ∈ d.streams := by
    by_contra hunknown
    rw [Device.launch] at h
    split at h
    · cases h
    · split at h
      · cases h
      · cases h
  rw [Device.synchronize, if_pos (hkept ▸ hstream)]

/-- A refused launch leaves the context as it was, unless the device refused it. -/
theorem enqueue_eq_error {d : Device} {e : EngineError} (h : (c.enqueue d).1 = .error e) :
    (c.enqueue d).2.1 = c ∨
      (d.launch c.stream c.graph.kernel c.graph.payload c.bindings).1 = .error e := by
  by_cases hphase : c.phase = .bound
  · right
    have hlaunches := (enqueue_launches hphase d).1
    rw [h] at hlaunches
    rcases hlaunch : d.launch c.stream c.graph.kernel c.graph.payload c.bindings with
      ⟨e' | _, d'⟩
    · rw [hlaunch] at hlaunches
      exact hlaunches.symm
    · -- waiting for a stream cannot fail after a launch on it
      rw [hlaunch] at hlaunches
      simp only [Except.bind, synchronize_of_launch hlaunch] at hlaunches
      cases hlaunches
  · left
    obtain ⟨e', hrefused⟩ := enqueue_refused hphase d
    rw [hrefused]

namespace History

/-- What an operation answers. -/
def answer (h : History) : Operation → Except EngineError Unit
  | .setInputShape ordinal s => (h.context.setInputShape ordinal s).1
  | .resolveOutputs => h.context.resolveOutputs.1.map fun _ => ()
  | .markAllocated => h.context.markAllocated.1
  | .resetShapes => h.context.resetShapes.1
  | .bind buffers => (h.context.bind buffers).1
  | .enqueue d => (h.context.enqueue d).1
  | .snapshot | .restore _ | .clearBindings | .poison => .ok ()

variable {h : History}

/-! ## What each operation keeps -/

/-- The context's table and those of its snapshots fit their phases. -/
structure Sound (h : History) : Prop where
  regular : h.Regular
  table : FitsPhase h.context.graph h.context.shapes h.context.phase
  saved : ∀ s ∈ h.snapshots, FitsPhase h.context.graph s.shapes s.phase

theorem Sound.partlyShaped (hs : h.Sound) (hphase : h.context.phase = .configuring) :
    PartlyShaped h.context.graph h.context.shapes := by
  have htable := hs.table
  rwa [hphase] at htable

/-- After the outputs were derived the table is full. -/
theorem Sound.fullyShaped (hs : h.Sound)
    (hphase : h.context.phase ∈ [Phase.shapesResolved, .ready, .bound]) :
    FullyShaped h.context.graph h.context.shapes := by
  have htable := hs.table
  simp only [List.mem_cons, List.not_mem_nil, or_false] at hphase
  rcases hphase with hphase | hphase | hphase <;> rwa [hphase] at htable

theorem Sound.table_resolveOutputs (hs : h.Sound) :
    FitsPhase h.context.graph h.context.resolveOutputs.2.shapes
      h.context.resolveOutputs.2.phase := by
  rw [resolveOutputs]
  cases hderive : h.context.deriveOutputs with
  | error e => exact hs.table
  | ok c =>
    obtain ⟨hphase, outputs, -, hform⟩ := deriveOutputs_eq_ok hderive
    have hfull := fullyShaped_of_deriveOutputs hs.regular.length_shapes (hs.partlyShaped hphase)
      hderive
    have hresolved : c.phase = .shapesResolved := by rw [hform]
    simp only [hresolved]
    exact hfull

/-- Only what is carried out matters for a table. -/
theorem Sound.table_commit (hs : h.Sound) {next : Except EngineError Context}
    (hnext : ∀ {c}, next = .ok c → FitsPhase h.context.graph c.shapes c.phase) :
    FitsPhase h.context.graph (h.context.commit next).2.shapes
      (h.context.commit next).2.phase := by
  cases next with
  | error e => exact hs.table
  | ok c => exact hnext rfl

theorem Sound.table_step (hs : h.Sound) (operation : Operation) :
    FitsPhase h.context.graph (h.step operation).context.shapes
      (h.step operation).context.phase := by
  cases operation with
  | setInputShape ordinal s =>
    apply hs.table_commit
    intro c hok
    obtain ⟨hphase, rfl⟩ := acceptShape_eq_ok hok
    obtain ⟨t, ht, hinput, haccepts⟩ := accepts_of_acceptShape hok
    simp only [hphase]
    exact (hs.partlyShaped hphase).set ht hinput haccepts
  | resolveOutputs => exact hs.table_resolveOutputs
  | markAllocated =>
    apply hs.table_commit
    intro c hok
    obtain ⟨⟨⟩, hexpect, hok⟩ := bind_eq_ok_iff.1 hok
    cases hok
    have hphase := List.mem_singleton.1 (phase_mem_of_expect hexpect)
    exact hs.fullyShaped (by simp [hphase])
  | resetShapes =>
    apply hs.table_commit
    intro c hok
    obtain ⟨⟨⟩, -, hok⟩ := bind_eq_ok_iff.1 hok
    cases hok
    apply partlyShaped_of_forall_none
    · exact (List.length_map _).trans hs.regular.length_shapes
    · intro slot hslot
      obtain ⟨-, -, rfl⟩ := List.mem_map.1 hslot
      rfl
  | snapshot => exact hs.table
  | restore place =>
    rw [step]
    cases hsaved : h.snapshots[place]? with
    | none => exact hs.table
    | some s =>
      simp only [restore]
      split
      · exact hs.table
      · exact hs.saved s (List.mem_of_getElem? hsaved)
  | bind buffers =>
    apply hs.table_commit
    intro c hok
    obtain ⟨⟨⟩, hexpect, hok⟩ := bind_eq_ok_iff.1 hok
    dsimp only at hok
    split at hok
    · cases hok
    · obtain ⟨bindings, -, hok⟩ := bind_eq_ok_iff.1 hok
      cases hok
      have hphase := List.mem_singleton.1 (phase_mem_of_expect hexpect)
      exact hs.fullyShaped (by simp [hphase])
  | clearBindings =>
    rw [step, clearBindings]
    split
    · next hphase => exact hs.fullyShaped (by simp [hphase])
    · exact hs.table
  | enqueue d =>
    rw [step]
    by_cases hphase : h.context.phase = .bound
    · have hfull := hs.fullyShaped (by simp [hphase])
      rcases h.context.enqueue_context_cases d with hkept | hready | hpoisoned
      · rw [hkept]
        exact hs.table
      · rw [hready]
        exact hfull
      · rw [hpoisoned]
        exact trivial
    · obtain ⟨e, hrefused⟩ := enqueue_refused hphase d
      rw [hrefused]
      exact hs.table
  | poison => exact trivial

/-- Every operation keeps the tables fitting their phases. -/
theorem Sound.step (hs : h.Sound) (operation : Operation) : (h.step operation).Sound where
  regular := hs.regular.step operation
  table := by
    rw [(hs.regular.change operation).graph_eq]
    exact hs.table_step operation
  saved := by
    intro s hmem
    rw [(hs.regular.change operation).graph_eq]
    rcases mem_snapshots_step hmem with hmem | rfl
    · exact hs.saved s hmem
    · exact hs.table

/-- After any row of operations the tables fit their phases. -/
theorem Sound.run (hs : h.Sound) (operations : List Operation) : (h.run operations).Sound := by
  induction operations generalizing h with
  | nil => exact hs
  | cons operation rest ih => exact ih (hs.step operation)

theorem sound_start {d d' : Device} (hcreate : create d graph = (.ok c, d')) :
    (start c).Sound := by
  obtain ⟨hregular, -⟩ := regular_start hcreate
  refine ⟨hregular, ?_, by simp [start]⟩
  rw [create] at hcreate
  split at hcreate
  · cases hcreate
    apply partlyShaped_of_forall_none hregular.length_shapes
    intro slot hslot
    exact List.eq_of_mem_replicate hslot
  · cases hcreate

theorem graph_of_create {d d' : Device} (hcreate : create d graph = (.ok c, d')) :
    c.graph = graph := by
  rw [create] at hcreate
  split at hcreate
  · cases hcreate
    rfl
  · cases hcreate

/-- No operation changes the graph. -/
theorem Regular.graph_run (hr : h.Regular) (operations : List Operation) :
    (h.run operations).context.graph = h.context.graph := by
  induction operations generalizing h with
  | nil => rfl
  | cons operation rest ih =>
    rw [← (hr.change operation).graph_eq]
    exact ih (hr.step operation)

/-! ## The end of a context -/

/-- A poisoned context refuses every operation, or takes it without a change. -/
theorem Regular.step_of_poisoned (hr : h.Regular) (hphase : h.context.phase = .poisoned)
    (operation : Operation) : (h.step operation).context = h.context := by
  have hnil : h.context.bindings = [] := hr.bindings_eq_nil (by simp [hphase])
  have hrefused : ∀ {allowed : List Phase} {name : String}, Phase.poisoned ∉ allowed →
      h.context.expect allowed name ≠ .ok () := by
    intro allowed name hnot hok
    exact hnot (hphase ▸ phase_mem_of_expect hok)
  cases operation with
  | setInputShape ordinal s =>
    apply commit_eq_self
    intro c hok
    obtain ⟨⟨⟩, hexpect, -⟩ := bind_eq_ok_iff.1 hok
    exact hrefused (by decide) hexpect
  | resolveOutputs =>
    rw [History.step, resolveOutputs]
    cases hderive : h.context.deriveOutputs with
    | error e => rfl
    | ok c =>
      obtain ⟨⟨⟩, hexpect, -⟩ := bind_eq_ok_iff.1 hderive
      exact (hrefused (by decide) hexpect).elim
  | markAllocated =>
    apply commit_eq_self
    intro c hok
    obtain ⟨⟨⟩, hexpect, -⟩ := bind_eq_ok_iff.1 hok
    exact hrefused (by decide) hexpect
  | resetShapes =>
    apply commit_eq_self
    intro c hok
    obtain ⟨⟨⟩, hexpect, -⟩ := bind_eq_ok_iff.1 hok
    exact hrefused (by decide) hexpect
  | snapshot => rfl
  | restore place =>
    rw [History.step]
    cases h.snapshots[place]? with
    | none => rfl
    | some s =>
      have hpoisoned : h.context.isPoisoned = true := by simp [isPoisoned, hphase]
      simp only [restore, hpoisoned, if_true]
  | bind buffers =>
    apply commit_eq_self
    intro c hok
    obtain ⟨⟨⟩, hexpect, -⟩ := bind_eq_ok_iff.1 hok
    exact hrefused (by decide) hexpect
  | clearBindings => rw [History.step, clearBindings, if_neg (by simp [hphase])]
  | enqueue d =>
    obtain ⟨e, hkept⟩ := enqueue_refused (c := h.context) (by simp [hphase]) d
    rw [History.step, hkept]
  | poison =>
    rw [History.step, poison, ← hphase, ← hnil]

/-- A poisoned context stays as it is, whatever is done with it. -/
theorem Regular.run_of_poisoned (hr : h.Regular) (hphase : h.context.phase = .poisoned)
    (operations : List Operation) : (h.run operations).context = h.context := by
  induction operations generalizing h with
  | nil => rfl
  | cons operation rest ih =>
    have hfirst := hr.step_of_poisoned hphase operation
    have hrest := ih (hr.step operation) (hfirst ▸ hphase)
    rw [History.run, List.foldl_cons, ← History.run, hrest, hfirst]

/-- A refused operation leaves the context as it was, unless it is a launch that the device
refused. -/
theorem Sound.kept_of_error (hs : h.Sound) {operation : Operation} {e : EngineError}
    (he : h.answer operation = .error e) : (h.step operation).context = h.context ∨
      ∃ d, operation = .enqueue d ∧ (d.launch h.context.stream h.context.graph.kernel
        h.context.graph.payload h.context.bindings).1 = .error e := by
  cases operation with
  | setInputShape ordinal s => exact Or.inl (commit_of_error he)
  | resolveOutputs =>
    rw [answer, resolveOutputs] at he
    rw [History.step, resolveOutputs]
    cases hderive : h.context.deriveOutputs with
    | error e' => exact Or.inl rfl
    | ok c =>
      -- once the outputs are derived, all shapes can be read
      obtain ⟨hphase, outputs, -, hform⟩ := deriveOutputs_eq_ok hderive
      have hfull := fullyShaped_of_deriveOutputs hs.regular.length_shapes (hs.partlyShaped hphase)
        hderive
      have hgraph : c.graph = h.context.graph := by rw [hform]
      obtain ⟨shapes, hshapes⟩ := FullyShaped.exists_resolvedShapes (hgraph ▸ hfull)
        (by simp [hform])
      simp only [hderive, hshapes] at he
      cases he
  | markAllocated => exact Or.inl (commit_of_error he)
  | resetShapes => exact Or.inl (commit_of_error he)
  | bind buffers => exact Or.inl (commit_of_error he)
  | enqueue d =>
    rcases enqueue_eq_error he with hkept | hlaunch
    · exact Or.inl hkept
    · exact Or.inr ⟨d, rfl, hlaunch⟩
  | snapshot => cases he
  | restore place => cases he
  | clearBindings => cases he
  | poison => cases he

/-- Whatever was done with a context, its shapes fit its phase. While it is configuring no output
has a shape, and an input only one that its declaration accepts; in the three phases after that all
declarations evaluate to the shapes under one assignment of sizes to names. A poisoned context
stays as it is, and a refused operation changes nothing, unless the device refused a launch. -/
theorem shapes_fit_phase {d d' : Device} (hcreate : create d graph = (.ok c, d'))
    (operations : List Operation) :
    let h := (start c).run operations
    h.context.graph = graph ∧
    (h.context.phase = .configuring → PartlyShaped graph h.context.shapes) ∧
    (h.context.phase = .shapesResolved ∨ h.context.phase = .ready ∨ h.context.phase = .bound →
      FullyShaped graph h.context.shapes) ∧
    (h.context.phase = .poisoned → ∀ more, (h.run more).context = h.context) ∧
    ∀ operation e, h.answer operation = .error e → (h.step operation).context = h.context ∨
      ∃ device, operation = .enqueue device ∧ (device.launch h.context.stream
        h.context.graph.kernel h.context.graph.payload h.context.bindings).1 = .error e := by
  intro h
  have hs : h.Sound := (sound_start hcreate).run operations
  have hgraph : h.context.graph = graph := by
    rw [(sound_start hcreate).regular.graph_run operations]
    exact graph_of_create hcreate
  refine ⟨hgraph, ?_, ?_, hs.regular.run_of_poisoned, fun operation e => hs.kept_of_error⟩
  · intro hphase
    rw [← hgraph]
    exact hs.partlyShaped hphase
  · intro hphase
    rw [← hgraph]
    exact hs.fullyShaped (by simpa using hphase)

/-- New sizes are tried and given up again: the snapshot brings the earlier shapes back. -/
theorem shapes_fit_phase_copy :
    let operations : List Operation := [.setInputShape 0 ⟨[2]⟩, .resolveOutputs, .markAllocated,
      .snapshot, .resetShapes, .setInputShape 0 ⟨[3]⟩, .setInputShape 1 ⟨[3]⟩, .restore 0]
    let last := ((start copyContext).run operations).context
    (∃ d, create (Device.new .builtin none (.upTo 4096)) copyGraph = (.ok copyContext, d)) ∧
      last.phase = .ready ∧ last.shapes = [some ⟨[2]⟩, some ⟨[2]⟩] ∧
      FullyShaped copyGraph last.shapes := by
  intro operations last
  have hcreate : create (Device.new .builtin none (.upTo 4096)) copyGraph =
      (.ok copyContext, ((Device.new .builtin none (.upTo 4096)).createStream).2) := rfl
  have hready : last.phase = .ready := by decide +kernel
  have hfit := shapes_fit_phase hcreate operations
  exact ⟨⟨_, hcreate⟩, hready, by decide +kernel, hfit.2.2.1 (Or.inr (Or.inl hready))⟩

end History

end GraphServe.Context
