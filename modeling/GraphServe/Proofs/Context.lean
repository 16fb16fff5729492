import GraphServe.Context.Resolve
import GraphServe.Proofs.Except
import GraphServe.Proofs.Registry
import Mathlib.Data.Option.Basic

/-!
# Resolving contexts

Resolving the shapes of a context that was reset ends in one of two ways (`resolve_cases`): it is
refused for a shape, with the graph and the stream kept and the context still usable, or every
tensor has a shape and nothing else changed. A snapshot taken before brings a refused context back
exactly (`restore_snapshot`).
-/

namespace GraphServe

/-- Refusals that speak of a shape. -/
def EngineError.IsShapeError (e : EngineError) : Prop :=
  (∃ tensor reason, e = .shapeUnresolved tensor reason) ∨
    ∃ tensor reason, e = .invalidShape tensor reason

namespace Context

/-! ## Setting input shapes -/

theorem expect_eq_ok {c : Context} {allowed : List Phase} (h : c.phase ∈ allowed)
    (operation : String) : c.expect allowed operation = .ok () :=
  if_pos h

/-- An input's shape is refused for what it is, or set. -/
theorem setInputShape_cases {c : Context} (hphase : c.phase = .configuring) {ordinal : Nat}
    {t : Descriptor} (hget : c.graph.registry.get? ordinal = some t) (hinput : t.isInput = true)
    (s : Shape) :
    (∃ e, e.IsShapeError ∧ c.setInputShape ordinal s = (.error e, c)) ∨
      c.setInputShape ordinal s = (.ok (), { c with shapes := c.shapes.set ordinal (some s) }) := by
  have hexpect : c.expect [.configuring] "set an input shape" = .ok () :=
    expect_eq_ok (by simp [hphase]) _
  simp only [setInputShape, acceptShape, hexpect, hget, Option.filter_some, hinput, if_true, ok_bind]
  by_cases hzero : (0 : UInt64) ∈ s.dims
  · rw [if_pos hzero]
    exact Or.inl ⟨_, Or.inr ⟨_, _, rfl⟩, rfl⟩
  · rw [if_neg hzero]
    cases t.shape.check s with
    | error fault => exact Or.inl ⟨_, Or.inr ⟨_, _, rfl⟩, rfl⟩
    | ok u => exact Or.inr rfl

theorem isShapeError_of_inputShape {batchSize : UInt64} {t : Descriptor}
    {sizes : Option (List Int64)} {e : EngineError}
    (h : inputShape batchSize t sizes = .error e) : e.IsShapeError := by
  cases sizes with
  | none =>
    simp only [inputShape] at h
    split at h <;> cases h
    exact Or.inl ⟨_, _, rfl⟩
  | some sizes =>
    simp only [inputShape, fitInput] at h
    split at h <;> cases h
    exact Or.inr ⟨_, _, rfl⟩

/-- Setting the inputs' shapes changes nothing but shapes. -/
theorem setInputs_cases (batchSize : UInt64) {inputs : List Descriptor} {ordinal : Nat}
    {c : Context} (sizes : List (List Int64)) (hphase : c.phase = .configuring)
    (hinputs : c.graph.registry.inputs.drop ordinal = inputs) :
    ∃ shapes, shapes.length = c.shapes.length ∧
      ((∃ e, e.IsShapeError ∧
          setInputs batchSize c ordinal inputs sizes = (.error e, { c with shapes })) ∨
        setInputs batchSize c ordinal inputs sizes = (.ok (), { c with shapes })) := by
  -- the ordinal counts the inputs that are already set
  induction inputs generalizing ordinal c sizes with
  | nil => exact ⟨c.shapes, rfl, Or.inr rfl⟩
  | cons t rest ih =>
    have hget : c.graph.registry.inputs[ordinal]? = some t := by
      rw [← List.head?_drop, hinputs]
      rfl
    have hall : c.graph.registry.get? ordinal = some t := Registry.get?_of_inputs hget
    have hinput : t.isInput = true := by
      have := c.graph.registry.read_of_mem_inputs t (List.mem_of_getElem? hget)
      simp [Descriptor.isInput, this]
    rw [setInputs]
    cases hshape : inputShape batchSize t sizes.head? with
    | error e =>
      exact ⟨c.shapes, rfl, Or.inl ⟨e, isShapeError_of_inputShape hshape, rfl⟩⟩
    | ok s =>
      rcases setInputShape_cases hphase hall hinput s with ⟨e, he, hset⟩ | hset
      · exact ⟨c.shapes, rfl, Or.inl ⟨e, he, by simp only [hset]⟩⟩
      · have hdrop : c.graph.registry.inputs.drop (ordinal + 1) = rest := by
          rw [← List.drop_drop, hinputs]
          rfl
        obtain ⟨shapes, hlength, hrest⟩ :=
          ih (c := { c with shapes := c.shapes.set ordinal (some s) }) sizes.tail hphase hdrop
        refine ⟨shapes, by simpa using hlength, ?_⟩
        simp only [hset]
        exact hrest

/-! ## Deriving the outputs -/

theorem isShapeError_of_unifyAxes {tensor : String} {axes : List (Axis × UInt64)}
    {sizes : AxisSizes} {e : EngineError} (h : AxisSizes.unifyAxes tensor sizes axes = .error e) :
    e.IsShapeError := by
  induction axes generalizing sizes with
  | nil => cases h
  | cons axis rest ih =>
    obtain ⟨a, size⟩ := axis
    cases a with
    | fixed n => exact ih h
    | dynamic symbol =>
      rw [AxisSizes.unifyAxes] at h
      split at h
      · exact ih h
      · split at h
        · exact ih h
        · cases h
          exact Or.inr ⟨_, _, rfl⟩

theorem isShapeError_of_unifyInputs {inputs : List Descriptor} {slots : List (Option Shape)}
    {sizes : AxisSizes} {e : EngineError}
    (h : AxisSizes.unifyInputs sizes inputs slots = .error e) : e.IsShapeError := by
  induction inputs generalizing sizes slots with
  | nil => cases h
  | cons t rest ih =>
    cases slots with
    | nil => cases h
    | cons slot slots =>
      cases slot with
      | none =>
        cases h
        exact Or.inl ⟨_, _, rfl⟩
      | some s =>
        rcases bind_eq_error_iff.1 h with hunify | ⟨sizes', -, hrest⟩
        · exact isShapeError_of_unifyAxes hunify
        · exact ih hrest

/-- The shapes of all tensors are told exactly when each has one. -/
theorem requireShapes_eq_ok_iff {tensors : List Descriptor} {slots : List (Option Shape)}
    (h : slots.length = tensors.length) {shapes : List Shape} :
    requireShapes tensors slots = .ok shapes ↔ slots = shapes.map some := by
  induction tensors generalizing slots shapes with
  | nil =>
    rw [List.length_nil, List.length_eq_zero_iff] at h
    subst h
    cases shapes <;> simp [requireShapes]
  | cons t rest ih =>
    obtain ⟨slot, slots, rfl⟩ := List.exists_cons_of_length_eq_add_one h
    replace h : slots.length = rest.length := by simpa using h
    cases slot with
    | none =>
      constructor
      · intro hshapes
        cases hshapes
      · intro hslots
        cases shapes <;> simp at hslots
    | some s =>
      constructor
      · intro hshapes
        obtain ⟨others, hothers, hshapes⟩ := bind_eq_ok_iff.1 hshapes
        cases hshapes
        rw [List.map_cons, ← (ih h).1 hothers]
      · intro hslots
        cases shapes with
        | nil => simp at hslots
        | cons s' others =>
          obtain ⟨hs, hrest⟩ := List.cons.inj hslots
          rw [requireShapes, (ih h).2 hrest, Option.some.inj hs]
          rfl

/-- Inputs whose axes were settled all have a shape. -/
theorem exists_shapes_of_unifyInputs {inputs : List Descriptor} {slots : List (Option Shape)}
    {sizes sizes' : AxisSizes} (h : AxisSizes.unifyInputs sizes inputs slots = .ok sizes')
    (hroom : inputs.length ≤ slots.length) :
    ∃ shapes : List Shape, slots.take inputs.length = shapes.map some := by
  induction inputs generalizing sizes slots with
  | nil => exact ⟨[], by simp⟩
  | cons t rest ih =>
    cases slots with
    | nil => simp at hroom
    | cons slot slots =>
      cases slot with
      | none => cases h
      | some s =>
        obtain ⟨known, -, h⟩ := bind_eq_ok_iff.1 h
        obtain ⟨shapes, hshapes⟩ := ih h (by simpa using hroom)
        exact ⟨s :: shapes, by simp [hshapes]⟩

theorem isShapeError_of_evaluate {sizes : AxisSizes} {t : Descriptor} {e : EngineError}
    (h : AxisSizes.evaluate sizes t = .error e) : e.IsShapeError := by
  rcases bind_eq_error_iff.1 h with h | ⟨dims, -, h⟩
  · obtain ⟨axis, -, haxis⟩ := exists_of_mapM_eq_error h
    cases axis with
    | fixed n => cases haxis
    | dynamic symbol =>
      simp only [AxisSizes.axisSize] at haxis
      split at haxis <;> cases haxis
      exact Or.inl ⟨_, _, rfl⟩
  · cases h

/-- A context that is configuring, with a slot for every tensor and nothing bound. -/
structure Blank (c : Context) : Prop where
  phase_eq : c.phase = .configuring
  length_shapes : c.shapes.length = c.graph.registry.size
  bindings_eq : c.bindings = []

/-- Once the outputs are derived the shapes of all tensors are told. -/
theorem resolveOutputs_of_deriveOutputs {c : Context} {shapes : List Shape}
    (hlength : shapes.length = c.graph.registry.size)
    (h : c.deriveOutputs = .ok { c with phase := .shapesResolved, shapes := shapes.map some }) :
    c.resolveOutputs =
      (.ok shapes, { c with phase := .shapesResolved, shapes := shapes.map some }) := by
  have hread : requireShapes c.graph.registry.all (shapes.map some) = .ok shapes :=
    (requireShapes_eq_ok_iff (by rw [List.length_map, hlength, Registry.size])).2 rfl
  simp only [resolveOutputs, h, resolvedShapes]
  rw [expect_eq_ok (by simp), ok_bind, hread]

/-- The outputs' shapes are refused for what they are, or every tensor has a shape. -/
theorem resolveOutputs_cases {c : Context} (hc : c.Blank) :
    (∃ e, e.IsShapeError ∧ c.resolveOutputs = (.error e, c)) ∨
      ∃ shapes : List Shape, shapes.length = c.graph.registry.size ∧
        c.resolveOutputs =
          (.ok shapes, { c with phase := .shapesResolved, shapes := shapes.map some }) := by
  have hexpect : c.expect [.configuring] "resolve output shapes" = .ok () :=
    expect_eq_ok (by simp [hc.phase_eq]) _
  cases hderive : c.deriveOutputs with
  | error e =>
    refine Or.inl ⟨e, ?_, by simp only [resolveOutputs, hderive]⟩
    rw [deriveOutputs, hexpect, ok_bind] at hderive
    rcases bind_eq_error_iff.1 hderive with hunify | ⟨sizes, -, hderive⟩
    · exact isShapeError_of_unifyInputs hunify
    · rcases bind_eq_error_iff.1 hderive with hevaluate | ⟨outputs, -, hderive⟩
      · obtain ⟨t, -, ht⟩ := exists_of_mapM_eq_error hevaluate
        exact isShapeError_of_evaluate ht
      · cases hderive
  | ok c' =>
    refine Or.inr ?_
    have hsteps := hderive
    rw [deriveOutputs, hexpect, ok_bind] at hsteps
    obtain ⟨sizes, hunify, hsteps⟩ := bind_eq_ok_iff.1 hsteps
    obtain ⟨outputs, hevaluate, hsteps⟩ := bind_eq_ok_iff.1 hsteps
    have hroom : c.graph.registry.inputs.length ≤ c.shapes.length := by
      rw [hc.length_shapes]
      exact Registry.inputCount_le_size _
    -- unifying the axes has looked at every input, so that each has a shape
    obtain ⟨inputs, hinputs⟩ := exists_shapes_of_unifyInputs hunify hroom
    have hlength : (inputs ++ outputs).length = c.graph.registry.size := by
      have hcount := congrArg List.length hinputs
      rw [List.length_take, List.length_map, Nat.min_eq_left hroom] at hcount
      rw [List.length_append, length_of_mapM_eq_ok hevaluate, ← hcount, Registry.size_eq,
        Registry.inputCount]
    have hslots : c.shapes.take c.graph.registry.inputCount ++ outputs.map some =
        (inputs ++ outputs).map some := by
      rw [List.map_append, ← hinputs]
      rfl
    rw [hslots] at hsteps
    cases hsteps
    exact ⟨inputs ++ outputs, hlength, resolveOutputs_of_deriveOutputs hlength hderive⟩

/-- Resolving a blank context is refused for a shape, and the graph, the stream and the bindings
stay; or every tensor has a shape. -/
theorem resolve_cases {c : Context} (hc : c.Blank) (batchSize : UInt64)
    (sizes : List (List Int64)) :
    (∃ e shapes, e.IsShapeError ∧ c.resolve batchSize sizes = (.error e, { c with shapes })) ∨
      ∃ shapes : List Shape, shapes.length = c.graph.registry.size ∧
        c.resolve batchSize sizes =
          (.ok shapes, { c with phase := .shapesResolved, shapes := shapes.map some }) := by
  obtain ⟨slots, hlength, ⟨e, he, hset⟩ | hset⟩ :=
    setInputs_cases batchSize sizes hc.phase_eq c.graph.registry.inputs.drop_zero
  · exact Or.inl ⟨e, slots, he, by simp only [resolve]; rw [hset]⟩
  · have hblank : Blank { c with shapes := slots } :=
      ⟨hc.phase_eq, hlength.trans hc.length_shapes, hc.bindings_eq⟩
    rcases resolveOutputs_cases hblank with ⟨e, he, hout⟩ | ⟨shapes, hshapes, hout⟩
    · exact Or.inl ⟨e, slots, he, by simp only [resolve]; rw [hset]; exact hout⟩
    · exact Or.inr ⟨shapes, hshapes, by simp only [resolve]; rw [hset]; exact hout⟩

/-- A snapshot brings a context back whose graph and stream were kept. -/
theorem restore_snapshot {c c' : Context} (hgraph : c'.graph = c.graph)
    (hstream : c'.stream = c.stream) (hphase : c'.phase ≠ .poisoned) (hbindings : c.bindings = []) :
    c'.restore c.snapshot = c := by
  have husable : c'.isPoisoned = false := by simpa [isPoisoned] using hphase
  cases c
  cases c'
  simp_all [restore, snapshot]

end Context

end GraphServe
