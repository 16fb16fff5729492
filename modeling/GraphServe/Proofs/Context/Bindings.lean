import GraphServe.Proofs.Context

/-!
# Bindings of contexts

A context is followed through any row of operations, together with the snapshots taken of it
(`History`). At every moment its bindings are complete and it is bound, or it has none
(`regular_run`). Returning to a snapshot of a bound context brings the phase back and not the
bindings (`launch_of_nothing`). As long as this is not done, a context is bound exactly if its
bindings are complete, and every launch is one of complete bindings (`bound_iff_fullyBound`).
-/

namespace GraphServe

/-! ## Complete bindings -/

/-- A binding is of a tensor at the shape in its slot, with the bytes it needs there. -/
structure Binding.Carries (b : Binding) (t : Descriptor) (slot : Option Shape) : Prop where
  name_eq : b.name = t.name
  direction_eq : b.direction = t.direction
  shape_eq : slot = some b.shape
  bytes_eq : t.requiredBytes b.shape = .ok b.bytes

namespace Context

variable {c c' : Context}

/-- There is one binding for each tensor, in binding order, at its current shape. -/
structure FullyBound (c : Context) : Prop where
  length_eq : c.bindings.length = c.graph.registry.size
  carries : ∀ (ordinal : Nat) (b : Binding), c.bindings[ordinal]? = some b →
    ∃ t, c.graph.registry.get? ordinal = some t ∧ b.Carries t (c.shape? ordinal)

/-- A graph has a tensor, so that complete bindings are some. -/
theorem FullyBound.bindings_ne_nil (h : c.FullyBound) : c.bindings ≠ [] := by
  intro hnil
  have hempty := h.length_eq
  have houtputs := List.length_pos_iff.2 c.graph.registry.outputs_ne_nil
  rw [hnil, List.length_nil, Registry.size_eq] at hempty
  omega

theorem bindingOf_carries {t : Descriptor} {slot : Option Shape} {buffer : Buffer} {b : Binding}
    (h : bindingOf t slot buffer = .ok b) : b.Carries t slot := by
  cases slot with
  | none => cases h
  | some s =>
    obtain ⟨bytes, hbytes, h⟩ := bind_eq_ok_iff.1 h
    split at h
    · cases h
    · cases h
      exact ⟨rfl, rfl, rfl, hbytes⟩

theorem bindingsOf_carries {tensors : List Descriptor} {slots : List (Option Shape)}
    {buffers : List Buffer} {bindings : List Binding} (hslots : slots.length = tensors.length)
    (hbuffers : buffers.length = tensors.length)
    (h : bindingsOf tensors slots buffers = .ok bindings) :
    bindings.length = tensors.length ∧ ∀ (ordinal : Nat) (b : Binding),
      bindings[ordinal]? = some b →
      ∃ t, tensors[ordinal]? = some t ∧ b.Carries t (slots[ordinal]?).join := by
  induction tensors generalizing slots buffers bindings with
  | nil =>
    cases h
    exact ⟨rfl, fun ordinal b hb => by simp at hb⟩
  | cons t rest ih =>
    obtain ⟨slot, slots, rfl⟩ := List.exists_cons_of_length_eq_add_one hslots
    obtain ⟨buffer, buffers, rfl⟩ := List.exists_cons_of_length_eq_add_one hbuffers
    obtain ⟨first, hfirst, h⟩ := bind_eq_ok_iff.1 h
    obtain ⟨others, hothers, h⟩ := bind_eq_ok_iff.1 h
    cases h
    obtain ⟨hlength, hcarries⟩ := ih (Nat.succ.inj hslots) (Nat.succ.inj hbuffers) hothers
    refine ⟨congrArg Nat.succ hlength, ?_⟩
    intro ordinal b hb
    cases ordinal with
    | zero =>
      cases hb
      exact ⟨t, rfl, bindingOf_carries hfirst⟩
    | succ ordinal => exact hcarries ordinal b hb

/-! ## What one operation does -/

theorem phase_mem_of_expect {allowed : List Phase} {operation : String}
    (h : c.expect allowed operation = .ok ()) : c.phase ∈ allowed := by
  rw [expect] at h
  split at h
  · assumption
  · cases h

theorem acceptShape_eq_ok {ordinal : Nat} {s : Shape} (h : c.acceptShape ordinal s = .ok c') :
    c.phase = .configuring ∧ c' = { c with shapes := c.shapes.set ordinal (some s) } := by
  obtain ⟨⟨⟩, hexpect, h⟩ := bind_eq_ok_iff.1 h
  refine ⟨List.mem_singleton.1 (phase_mem_of_expect hexpect), ?_⟩
  split at h
  · cases h
  · next t _ =>
    by_cases hzero : (0 : UInt64) ∈ s.dims
    · rw [if_pos hzero] at h
      cases h
    · rw [if_neg hzero] at h
      cases hcheck : t.shape.check s with
      | error fault =>
        simp only [hcheck] at h
        cases h
      | ok u =>
        simp only [hcheck] at h
        cases h
        rfl

theorem deriveOutputs_eq_ok (h : c.deriveOutputs = .ok c') :
    c.phase = .configuring ∧ ∃ outputs : List Shape,
      outputs.length = c.graph.registry.outputs.length ∧
      c' = { c with
        phase := .shapesResolved
        shapes := c.shapes.take c.graph.registry.inputCount ++ outputs.map some } := by
  obtain ⟨⟨⟩, hexpect, h⟩ := bind_eq_ok_iff.1 h
  obtain ⟨sizes, -, h⟩ := bind_eq_ok_iff.1 h
  obtain ⟨outputs, houtputs, h⟩ := bind_eq_ok_iff.1 h
  cases h
  exact ⟨List.mem_singleton.1 (phase_mem_of_expect hexpect), outputs,
    length_of_mapM_eq_ok houtputs, rfl⟩

theorem enqueue_refused (hphase : c.phase ≠ .bound) (d : Device) :
    ∃ e, c.enqueue d = (.error e, c, d) := by
  have hexpect : c.expect [.bound] "enqueue" = .error _ := if_neg (by simpa using hphase)
  exact ⟨_, by rw [enqueue, hexpect]⟩

/-- A bound context launches its graph's kernel on its bindings and waits for it. -/
theorem enqueue_launches (hphase : c.phase = .bound) (d : Device) :
    let launch := d.launch c.stream c.graph.kernel c.graph.payload c.bindings
    (c.enqueue d).1 = launch.1.bind (fun () => launch.2.synchronize c.stream) ∧
      (c.enqueue d).2.2 = launch.2 := by
  intro launch
  have hexpect : c.expect [.bound] "enqueue" = .ok () := expect_eq_ok (by simp [hphase]) _
  rw [enqueue, hexpect]
  dsimp only
  split
  · next h => exact ⟨h.symm, rfl⟩
  · next h => split <;> exact ⟨h.symm, rfl⟩

theorem enqueue_context_cases (c : Context) (d : Device) :
    (c.enqueue d).2.1 = c ∨ (c.enqueue d).2.1 = { c with phase := .ready, bindings := [] } ∨
      (c.enqueue d).2.1 = c.poison := by
  rw [enqueue]
  split
  · exact Or.inl rfl
  · dsimp only
    split
    · exact Or.inr (Or.inl rfl)
    · split
      · exact Or.inr (Or.inr rfl)
      · exact Or.inr (Or.inl rfl)

/-! ## Histories -/

/-- What can be done with a context. A launch meets the device in whatever state it is in by
then. -/
inductive Operation where
  | setInputShape (ordinal : Nat) (s : Shape)
  | resolveOutputs
  | markAllocated
  | resetShapes
  | snapshot
  | restore (place : Nat)
  | bind (buffers : List Buffer)
  | clearBindings
  | enqueue (d : Device)
  | poison

/-- A context with the snapshots that were taken of it, in order. -/
structure History where
  context : Context
  snapshots : List Snapshot

namespace History

/-- The history after one operation. A snapshot that was not taken cannot be returned to. -/
def step (h : History) : Operation → History
  | .setInputShape ordinal s => { h with context := (h.context.setInputShape ordinal s).2 }
  | .resolveOutputs => { h with context := h.context.resolveOutputs.2 }
  | .markAllocated => { h with context := h.context.markAllocated.2 }
  | .resetShapes => { h with context := h.context.resetShapes.2 }
  | .snapshot => { h with snapshots := h.snapshots ++ [h.context.snapshot] }
  | .restore place =>
    match h.snapshots[place]? with
    | none => h
    | some s => { h with context := h.context.restore s }
  | .bind buffers => { h with context := (h.context.bind buffers).2 }
  | .clearBindings => { h with context := h.context.clearBindings }
  | .enqueue d => { h with context := (h.context.enqueue d).2.1 }
  | .poison => { h with context := h.context.poison }

/-- The history after a row of operations. -/
def run (h : History) (operations : List Operation) : History := operations.foldl step h

/-- Whether an operation returns to a snapshot of a bound context. -/
def restoresBound (h : History) : Operation → Bool
  | .restore place =>
    !h.context.isPoisoned && h.snapshots[place]?.any (fun s => s.phase == .bound)
  | _ => false

/-- No operation of a row returns to a snapshot of a bound context. -/
def NeverRestoresBound (h : History) : List Operation → Prop
  | [] => True
  | operation :: rest =>
    h.restoresBound operation = false ∧ (h.step operation).NeverRestoresBound rest

/-- What holds of every history: each shape has its slot, and there are complete bindings or
none. -/
structure Regular (h : History) : Prop where
  length_shapes : h.context.shapes.length = h.context.graph.registry.size
  length_saved : ∀ s ∈ h.snapshots, s.shapes.length = h.context.graph.registry.size
  bindings : h.context.bindings = [] ∨ h.context.phase = .bound ∧ h.context.FullyBound

/-- The ways in which an operation can leave the context. -/
inductive Change (h : History) (operation : Operation) : Context → Prop
  | kept : Change h operation h.context
  | vacated (phase : Phase) (shapes : List (Option Shape)) (hphase : phase ≠ .bound)
      (hlength : shapes.length = h.context.graph.registry.size) :
      Change h operation { h.context with phase, shapes, bindings := [] }
  | bound (bindings : List Binding)
      (hfull : FullyBound { h.context with phase := .bound, bindings }) :
      Change h operation { h.context with phase := .bound, bindings }
  | restored (s : Snapshot) (hsaved : s ∈ h.snapshots)
      (hrestores : h.restoresBound operation = (s.phase == .bound)) :
      Change h operation { h.context with phase := s.phase, shapes := s.shapes, bindings := [] }

variable {h : History}

/-- Outside the bound phase nothing is bound. -/
theorem Regular.bindings_eq_nil (hr : h.Regular) (hphase : h.context.phase ≠ .bound) :
    h.context.bindings = [] := by
  rcases hr.bindings with hnil | ⟨hbound, -⟩
  · exact hnil
  · exact (hphase hbound).elim

/-- Outside the bound phase, a new phase and new shapes leave nothing bound. -/
theorem Regular.moved (hr : h.Regular) {operation : Operation} {phase : Phase}
    {shapes : List (Option Shape)} (hfree : h.context.phase ≠ .bound) (hphase : phase ≠ .bound)
    (hlength : shapes.length = h.context.graph.registry.size) :
    Change h operation { h.context with phase, shapes } := by
  have hvacated : Change h operation { h.context with phase, shapes, bindings := [] } :=
    .vacated phase shapes hphase hlength
  rwa [← hr.bindings_eq_nil hfree] at hvacated

/-- A refusal keeps the context, so that only what is carried out matters. -/
theorem Change.commit {operation : Operation} {next : Except EngineError Context}
    (hnext : ∀ {c}, next = .ok c → Change h operation c) :
    Change h operation (h.context.commit next).2 := by
  cases next with
  | error e => exact .kept
  | ok c => exact hnext rfl

theorem change_restore {place : Nat} {s : Snapshot} (hsaved : h.snapshots[place]? = some s) :
    Change h (.restore place) (h.context.restore s) := by
  cases hpoisoned : h.context.isPoisoned with
  | true =>
    simp only [restore, hpoisoned, if_true]
    exact .kept
  | false =>
    simp only [restore, hpoisoned]
    refine .restored s (List.mem_of_getElem? hsaved) ?_
    simp [restoresBound, hpoisoned, hsaved]

theorem Regular.change_bind (hr : h.Regular) (buffers : List Buffer) :
    Change h (.bind buffers) (h.context.bind buffers).2 := by
  refine .commit fun hok => ?_
  obtain ⟨⟨⟩, -, hok⟩ := bind_eq_ok_iff.1 hok
  dsimp only at hok
  split at hok
  · cases hok
  · next hcount =>
    obtain ⟨bindings, hbindings, hok⟩ := bind_eq_ok_iff.1 hok
    cases hok
    obtain ⟨hlength, hcarries⟩ :=
      bindingsOf_carries hr.length_shapes (Decidable.not_not.1 hcount) hbindings
    exact .bound bindings ⟨hlength, hcarries⟩

theorem Regular.change_resolveOutputs (hr : h.Regular) :
    Change h .resolveOutputs h.context.resolveOutputs.2 := by
  rw [resolveOutputs]
  cases hderive : h.context.deriveOutputs with
  | error e => exact .kept
  | ok c =>
    obtain ⟨hphase, outputs, houtputs, rfl⟩ := deriveOutputs_eq_ok hderive
    refine hr.moved (by simp [hphase]) (by decide) ?_
    rw [List.length_append, List.length_take, List.length_map, houtputs, hr.length_shapes,
      Nat.min_eq_left (Registry.inputCount_le_size _), Registry.size_eq]

/-- Each operation leaves the context in one of these ways. -/
theorem Regular.change (hr : h.Regular) (operation : Operation) :
    Change h operation (h.step operation).context := by
  cases operation with
  | setInputShape ordinal s =>
    refine .commit fun hok => ?_
    obtain ⟨hphase, rfl⟩ := acceptShape_eq_ok hok
    have hfree : h.context.phase ≠ .bound := by simp [hphase]
    exact hr.moved hfree hfree (List.length_set.trans hr.length_shapes)
  | resolveOutputs => exact hr.change_resolveOutputs
  | markAllocated =>
    refine .commit fun hok => ?_
    obtain ⟨⟨⟩, hexpect, hok⟩ := bind_eq_ok_iff.1 hok
    have hphase := List.mem_singleton.1 (phase_mem_of_expect hexpect)
    cases hok
    exact hr.moved (by simp [hphase]) (by decide) hr.length_shapes
  | resetShapes =>
    refine .commit fun hok => ?_
    obtain ⟨⟨⟩, -, hok⟩ := bind_eq_ok_iff.1 hok
    cases hok
    exact .vacated .configuring _ (by decide) ((List.length_map _).trans hr.length_shapes)
  | snapshot => exact .kept
  | restore place =>
    rw [step]
    cases hsaved : h.snapshots[place]? with
    | none => exact .kept
    | some s => exact change_restore hsaved
  | bind buffers => exact hr.change_bind buffers
  | clearBindings =>
    rw [step, clearBindings]
    split
    · exact .vacated .ready _ (by decide) hr.length_shapes
    · exact .kept
  | enqueue d =>
    rw [step]
    rcases h.context.enqueue_context_cases d with hkept | hready | hpoisoned
    · rw [hkept]
      exact .kept
    · rw [hready]
      exact .vacated .ready _ (by decide) hr.length_shapes
    · rw [hpoisoned]
      exact .vacated .poisoned _ (by decide) hr.length_shapes
  | poison => exact .vacated .poisoned _ (by decide) hr.length_shapes

/-! ## What changes keep -/

section Change

variable {operation : Operation}

theorem Change.graph_eq (hchange : Change h operation c) : c.graph = h.context.graph := by
  cases hchange <;> rfl

theorem Change.length_shapes (hchange : Change h operation c) (hr : h.Regular) :
    c.shapes.length = h.context.graph.registry.size := by
  cases hchange with
  | kept => exact hr.length_shapes
  | vacated phase shapes hphase hlength => exact hlength
  | bound bindings hfull => exact hr.length_shapes
  | restored s hsaved hrestores => exact hr.length_saved s hsaved

theorem Change.bindings (hchange : Change h operation c) (hr : h.Regular) :
    c.bindings = [] ∨ c.phase = .bound ∧ c.FullyBound := by
  cases hchange with
  | kept => exact hr.bindings
  | vacated phase shapes hphase hlength => exact Or.inl rfl
  | bound bindings hfull => exact Or.inr ⟨rfl, hfull⟩
  | restored s hsaved hrestores => exact Or.inl rfl

/-- Only the return to a snapshot of a bound context binds without bindings. -/
theorem Change.fullyBound (hchange : Change h operation c)
    (hnever : h.restoresBound operation = false)
    (hfull : h.context.phase = .bound → h.context.FullyBound) (hphase : c.phase = .bound) :
    c.FullyBound := by
  -- a snapshot that brings the bound phase back is the one case that `hnever` excludes
  cases hchange with
  | kept => exact hfull hphase
  | vacated phase shapes hother hlength => exact (hother hphase).elim
  | bound bindings hfull => exact hfull
  | restored s hsaved hrestores =>
    rw [hnever] at hrestores
    simp [show s.phase = .bound from hphase] at hrestores

end Change

theorem mem_snapshots_step {operation : Operation} {s : Snapshot}
    (hs : s ∈ (h.step operation).snapshots) : s ∈ h.snapshots ∨ s = h.context.snapshot := by
  cases operation with
  | snapshot => simpa [step] using hs
  | restore place =>
    rw [step] at hs
    split at hs <;> exact Or.inl hs
  | _ => exact Or.inl hs

/-! ## Whole histories -/

/-- Every operation keeps what holds of every history. -/
theorem Regular.step (hr : h.Regular) (operation : Operation) : (h.step operation).Regular where
  length_shapes := by
    rw [(hr.change operation).graph_eq, (hr.change operation).length_shapes hr]
  length_saved := by
    intro s hs
    rw [(hr.change operation).graph_eq]
    rcases mem_snapshots_step hs with hs | rfl
    · exact hr.length_saved s hs
    · exact hr.length_shapes
  bindings := (hr.change operation).bindings hr

theorem Regular.run (hr : h.Regular) (operations : List Operation) :
    (h.run operations).Regular := by
  -- the invariant is carried by each operation, so the induction is on the operations alone
  induction operations generalizing h with
  | nil => exact hr
  | cons operation rest ih => exact ih (hr.step operation)

/-- Bindings stay complete along a row that returns to no snapshot of a bound context. -/
theorem Regular.fullyBound_run (hr : h.Regular) {operations : List Operation}
    (hnever : h.NeverRestoresBound operations)
    (hfull : h.context.phase = .bound → h.context.FullyBound) :
    (h.run operations).context.phase = .bound → (h.run operations).context.FullyBound := by
  induction operations generalizing h with
  | nil => exact hfull
  | cons operation rest ih =>
    obtain ⟨hfirst, hrest⟩ := hnever
    exact ih (hr.step operation) hrest ((hr.change operation).fullyBound hfirst hfull)

/-- The history of a context that no operation has met. -/
def start (c : Context) : History := ⟨c, []⟩

theorem regular_start {d d' : Device} {graph : Graph} (hcreate : create d graph = (.ok c, d')) :
    (start c).Regular ∧ c.phase = .configuring := by
  rw [create] at hcreate
  split at hcreate
  · cases hcreate
    exact ⟨⟨List.length_replicate, by simp [start], Or.inl rfl⟩, rfl⟩
  · cases hcreate

/-- Whatever is done with a context, it is bound with complete bindings or has none. -/
theorem regular_run {d d' : Device} {graph : Graph} (hcreate : create d graph = (.ok c, d'))
    (operations : List Operation) : ((start c).run operations).Regular :=
  (regular_start hcreate).1.run operations

/-- As long as no snapshot of a bound context is returned to, a context is bound exactly if its
bindings are complete, nothing is bound in any other phase, and each launch is refused untried or
made with complete bindings. -/
theorem bound_iff_fullyBound {d d' : Device} {graph : Graph}
    (hcreate : create d graph = (.ok c, d')) {operations : List Operation}
    (hnever : (start c).NeverRestoresBound operations) :
    let last := ((start c).run operations).context
    (last.phase = .bound ↔ last.FullyBound) ∧ (last.phase ≠ .bound → last.bindings = []) ∧
      ∀ device : Device, (∃ e, last.enqueue device = (.error e, last, device)) ∨
        last.FullyBound ∧
          let launch := device.launch last.stream last.graph.kernel last.graph.payload last.bindings
          (last.enqueue device).1 = launch.1.bind (fun () => launch.2.synchronize last.stream) ∧
            (last.enqueue device).2.2 = launch.2 := by
  intro last
  obtain ⟨hstart, hphase⟩ := regular_start hcreate
  have hregular : Regular ((start c).run operations) := hstart.run operations
  have hfull : last.phase = .bound → last.FullyBound :=
    hstart.fullyBound_run hnever fun hbound => by simp [start, hphase] at hbound
  refine ⟨⟨hfull, ?_⟩, hregular.bindings_eq_nil, ?_⟩
  · intro hcomplete
    rcases hregular.bindings with hnil | ⟨hbound, -⟩
    · exact (hcomplete.bindings_ne_nil hnil).elim
    · exact hbound
  · intro device
    by_cases hbound : last.phase = .bound
    · exact Or.inr ⟨hfull hbound, enqueue_launches hbound device⟩
    · exact Or.inl (enqueue_refused hbound device)

/-- A graph that copies one tensor to another. -/
def copyGraph : Graph where
  path := "copy.engine"
  kernel := "identity"
  payload := []
  registry := ⟨[⟨"x", .input, .f32, ⟨[.dynamic "n"], by decide⟩⟩],
    [⟨"y", .output, .f32, ⟨[.dynamic "n"], by decide⟩⟩], by decide, by decide, by decide, by decide⟩

/-- A context of `copyGraph` that no operation has met. -/
def copyContext : Context := ⟨copyGraph, ⟨1⟩, .configuring, [none, none], []⟩

/-- Operations that bind both tensors at two elements. -/
def bindBoth : List Operation :=
  [.setInputShape 0 ⟨[2]⟩, .resolveOutputs, .markAllocated,
    .bind [⟨"x", .f32, ⟨0x10000000⟩, 8⟩, ⟨"y", .f32, ⟨0x10000100⟩, 8⟩]]

theorem bound_iff_fullyBound_copy :
    let operations := bindBoth ++ [.clearBindings, .snapshot, .resetShapes, .restore 0,
      .bind [⟨"x", .f32, ⟨0x10000000⟩, 8⟩, ⟨"y", .f32, ⟨0x10000100⟩, 16⟩]]
    let last := ((start copyContext).run operations).context
    (∃ d, create (Device.new .builtin none (.upTo 4096)) copyGraph = (.ok copyContext, d)) ∧
      (start copyContext).NeverRestoresBound operations ∧ last.phase = .bound ∧ last.FullyBound := by
  intro operations last
  have hcreate : create (Device.new .builtin none (.upTo 4096)) copyGraph =
      (.ok copyContext, ((Device.new .builtin none (.upTo 4096)).createStream).2) := rfl
  have hnever : (start copyContext).NeverRestoresBound operations := by
    simp only [NeverRestoresBound, operations, bindBoth, List.cons_append, List.nil_append]
    decide +kernel
  have hbound : last.phase = .bound := by decide +kernel
  exact ⟨⟨_, hcreate⟩, hnever, hbound, (bound_iff_fullyBound hcreate hnever).1.1 hbound⟩

/-- Returning to the snapshot of a bound context leaves it bound with nothing, and a launch on a
device with the context's stream then ends well without any tensor. -/
theorem launch_of_nothing :
    let last := ((start copyContext).run (bindBoth ++ [.snapshot, .restore 0])).context
    let device := ((Device.new .builtin none (.upTo 4096)).createStream).2
    create (Device.new .builtin none (.upTo 4096)) copyGraph = (.ok copyContext, device) ∧
      last.phase = .bound ∧ last.bindings = [] ∧ ¬ last.FullyBound ∧
      (last.enqueue device).1 = .ok () := by
  intro last device
  have hnil : last.bindings = [] := by decide +kernel
  exact ⟨rfl, by decide +kernel, hnil, fun hfull => hfull.bindings_ne_nil hnil, rfl⟩

end History
end Context
end GraphServe
