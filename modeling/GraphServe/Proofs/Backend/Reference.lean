import GraphServe.Proofs.Backend.Inference

/-!
# Calls as a function of their inputs

What a call gives is a function of the graph, the shapes, the policy and the inputs
(`EngineBackend.infer_eq_reference`), as long as no fault is armed and the kernel does not look at
what its outputs held before. The function knows no device: it hands the kernel the inputs as the
policy presents them, with cleared outputs, and decodes what the kernel wrote.
-/

namespace GraphServe

/-! ## The reference -/

namespace Reference

/-- What the kernel is given for the caller's bytes, at the byte size of the tensor. -/
def present (policy : SizePolicy) (bytes : Nat) (data : Bytes) : Bytes :=
  match policy with
  | .strict => data
  | .lenient => fitted bytes data

/-- The view of a tensor at a shape, with data for its byte size. -/
def view (t : Descriptor) (s : Shape) (data : Nat → Bytes) : Except EngineError TensorView := do
  return ⟨t.name, ← t.elementType, s, data (← t.requiredBytes s)⟩

/-- The views of the inputs. -/
def inputViews (policy : SizePolicy) : List Descriptor → List Shape → List Bytes →
    Except EngineError (List TensorView)
  | t :: inputs, s :: shapes, data :: rest => do
    let first ← view t s fun bytes => present policy bytes data
    return first :: (← inputViews policy inputs shapes rest)
  | _, _, _ => return []

/-- The views of the outputs, cleared. -/
def outputViews : List Descriptor → List Shape → Except EngineError (List TensorView)
  | t :: outputs, s :: shapes => do
    let first ← view t s fun bytes => List.replicate bytes 0
    return first :: (← outputViews outputs shapes)
  | _, _ => return []

/-- The values of what the kernel wrote to views. -/
def results (views : List TensorView) (written : List Bytes) :
    Except EngineError (List (List Element)) :=
  (List.zipWith (fun v bytes => { v with data := bytes }) views
    (writtenOutputs written views)).mapM TensorView.elements

/-- What a call gives. -/
def infer (graph : Graph) (body : Kernel) (policy : SizePolicy) (shapes : List Shape)
    (inputs : List Bytes) : Except EngineError InferenceOutput := do
  let given ← inputViews policy graph.registry.inputs shapes inputs
  let outputShapes := shapes.drop graph.registry.inputCount
  let cleared ← outputViews graph.registry.outputs outputShapes
  let run := body.run graph.payload given cleared
  run.result.mapError (Device.launchError graph.kernel)
  return ⟨← results cleared run.written, outputShapes.map Shape.sizes⟩

end Reference

/-! ## Kernels that do not look at their outputs -/

/-- Two views show the same tensor, maybe with other bytes. -/
structure TensorView.Alike (v w : TensorView) : Prop where
  name_eq : v.name = w.name
  dtype_eq : v.dtype = w.dtype
  shape_eq : v.shape = w.shape
  length_eq : v.data.length = w.data.length

namespace Kernel

/-- How a run ends, and what the outputs hold if it ends well, does not depend on what the outputs
held before. -/
def IgnoresOutputs (body : Kernel) : Prop :=
  ∀ payload inputs outputs outputs', List.Forall₂ TensorView.Alike outputs outputs' →
    (body.run payload inputs outputs).result = (body.run payload inputs outputs').result ∧
    ((body.run payload inputs outputs).result = .ok () →
      writtenOutputs (body.run payload inputs outputs).written outputs =
        writtenOutputs (body.run payload inputs outputs').written outputs')

/-- Bytes written over as many others replace them. -/
theorem overlay_of_length_eq {bytes data : Bytes} (h : bytes.length = data.length) :
    overlay bytes data = bytes := by
  rw [overlay_of_fits (Nat.le_of_eq h), h, List.drop_length, List.append_nil]

/-- A kernel that fills each output with a function of its place and length. -/
theorem writtenOutputs_mapIdx (content : Nat → Nat → Bytes)
    (hlength : ∀ i n, (content i n).length = n) (outputs : List TensorView) :
    writtenOutputs (outputs.mapIdx fun i out => content i out.data.length) outputs =
      outputs.mapIdx fun i out => content i out.data.length := by
  induction outputs generalizing content with
  | nil => rfl
  | cons out rest ih =>
    rw [List.mapIdx_cons, writtenOutputs, overlay_of_length_eq (hlength 0 _),
      ih (fun i => content (i + 1)) fun i => hlength (i + 1)]

theorem mapIdx_of_alike (content : Nat → Nat → Bytes) {outputs outputs' : List TensorView}
    (h : List.Forall₂ TensorView.Alike outputs outputs') :
    (outputs.mapIdx fun i out => content i out.data.length) =
      outputs'.mapIdx fun i out => content i out.data.length := by
  induction h generalizing content with
  | nil => rfl
  | cons hfirst _ ih =>
    rw [List.mapIdx_cons, List.mapIdx_cons, hfirst.length_eq, ih fun i => content (i + 1)]

theorem identity_ignoresOutputs : identity.IgnoresOutputs := by
  intro payload inputs outputs outputs' halike
  refine ⟨rfl, fun _ => ?_⟩
  let content := fun (i n : Nat) => fitted n ((inputs[i]?.map TensorView.data).getD [])
  have hlength : ∀ i n, (content i n).length = n := fun i n => length_fitted n _
  show writtenOutputs (outputs.mapIdx fun i out => content i out.data.length) outputs =
    writtenOutputs (outputs'.mapIdx fun i out => content i out.data.length) outputs'
  rw [writtenOutputs_mapIdx content hlength, writtenOutputs_mapIdx content hlength,
    mapIdx_of_alike content halike]

theorem zeros_ignoresOutputs : zeros.IgnoresOutputs := by
  intro payload inputs outputs outputs' halike
  refine ⟨rfl, fun _ => ?_⟩
  let content := fun (_ n : Nat) => List.replicate n (0 : UInt8)
  have hlength : ∀ i n, (content i n).length = n := fun i n => List.length_replicate
  have hmap : ∀ views : List TensorView, (views.map fun out => List.replicate out.data.length 0) =
      views.mapIdx fun i out => content i out.data.length := by
    intro views
    induction views with
    | nil => rfl
    | cons out rest ih => rw [List.map_cons, List.mapIdx_cons, ih]
  show writtenOutputs (outputs.map fun out => List.replicate out.data.length 0) outputs =
    writtenOutputs (outputs'.map fun out => List.replicate out.data.length 0) outputs'
  rw [hmap, hmap, writtenOutputs_mapIdx content hlength, writtenOutputs_mapIdx content hlength,
    mapIdx_of_alike content halike]

end Kernel

/-! ## What the device computes -/

namespace EngineBackend

variable {b : EngineBackend} {ins outs : List Slot} {d : Device} {body : Kernel}

/-- What the kernel is given for the inputs. -/
def given (ins : List Slot) (inputs : List Bytes) : List TensorView :=
  List.zipWith Slot.view ins (List.zipWith (fun p data => fitted p.bytes data) ins inputs)

theorem filter_binding_of_forall {slots : List Slot} {direction : Direction}
    (h : ∀ p ∈ slots, p.tensor.direction = direction) :
    (slots.map Slot.binding).filter (·.direction == direction) = slots.map Slot.binding := by
  apply List.filter_eq_self.2
  intro bound hbound
  obtain ⟨p, hp, rfl⟩ := List.mem_map.1 hbound
  exact beq_iff_eq.2 (h p hp)

theorem filter_binding_eq_nil {slots : List Slot} {direction : Direction}
    (h : ∀ p ∈ slots, p.tensor.direction ≠ direction) :
    (slots.map Slot.binding).filter (·.direction == direction) = [] := by
  apply List.filter_eq_nil_iff.2
  intro bound hbound
  obtain ⟨p, hp, rfl⟩ := List.mem_map.1 hbound
  exact fun hsame => h p hp (beq_iff_eq.1 hsame)

/-- The inputs of a launch and its outputs are told apart by their direction. -/
theorem filter_binding (hins : b.graph.registry.inputs = ins.map Slot.tensor)
    (houts : b.graph.registry.outputs = outs.map Slot.tensor) :
    ((ins ++ outs).map Slot.binding).filter (·.direction == .input) = ins.map Slot.binding ∧
      ((ins ++ outs).map Slot.binding).filter (·.direction == .output) = outs.map Slot.binding := by
  have hread : ∀ p ∈ ins, p.tensor.direction = .input := by
    intro p hp
    exact b.graph.registry.read_of_mem_inputs _ (hins ▸ List.mem_map_of_mem hp)
  have hwritten : ∀ p ∈ outs, p.tensor.direction = .output := by
    intro p hp
    exact b.graph.registry.written_of_mem_outputs _ (houts ▸ List.mem_map_of_mem hp)
  rw [List.map_append, List.filter_append, List.filter_append]
  constructor
  · rw [filter_binding_of_forall hread, filter_binding_eq_nil, List.append_nil]
    intro p hp
    simp [hwritten p hp]
  · rw [filter_binding_of_forall hwritten, filter_binding_eq_nil, List.nil_append]
    intro p hp
    simp [hread p hp]

/-- What the uploads leave behind is what the kernel is given. -/
theorem forall₂_fitted {inputs : List Bytes}
    (h : List.Forall₂ (fun p data => d.Begins p.address (fitted p.bytes data)) ins inputs) :
    List.Forall₂ (fun p data => data.length = p.bytes ∧ d.Begins p.address data) ins
      (List.zipWith (fun p data => fitted p.bytes data) ins inputs) := by
  induction h with
  | nil => exact .nil
  | cons hfirst _ ih => exact .cons ⟨length_fitted _ _, hfirst⟩ ih

/-- Outputs that are written over keep their lengths. -/
theorem forall₂_writtenOutputs {contents : List Bytes}
    (h : List.Forall₂ (fun p data => data.length = p.bytes) outs contents) (written : List Bytes) :
    List.Forall₂ (fun p bytes => bytes.length = p.bytes) outs
      (writtenOutputs written (List.zipWith Slot.view outs contents)) := by
  induction h generalizing written with
  | nil => exact .nil
  | @cons p data outs contents hlength _ ih =>
    cases written with
    | nil => exact .cons hlength (ih [])
    | cons bytes written => exact .cons ((length_overlay bytes data).trans hlength) (ih written)

/-- Without faults, a call gives what the kernel makes of the fitted inputs, on outputs that hold
something. -/
theorem execute_of_quiet (hb : b.Serves (ins ++ outs)) (hr : b.Resides d) (hd : d.Orderly)
    (husable : b.failure = none) (hins : b.graph.registry.inputs = ins.map Slot.tensor)
    (houts : b.graph.registry.outputs = outs.map Slot.tensor)
    (hkernel : d.kernels.get? b.graph.kernel = some body) (hlaunch : d.launchFault = false)
    {inputs : List Bytes} (hcount : inputs.length = ins.length)
    (hscreen : b.screen inputs = .ok ((ins ++ outs).map Slot.shape, ins.map Slot.bytes))
    (hunarmed : ¬ b.Armed d inputs) :
    ∃ contents, List.Forall₂ (fun p data => data.length = p.bytes) outs contents ∧
      let views := List.zipWith Slot.view outs contents
      let run := body.run b.graph.payload (given ins inputs) views
      (b.execute d inputs (ins.map Slot.bytes) ((ins ++ outs).map Slot.shape)).1 =
        (do
          run.result.mapError (Device.launchError b.graph.kernel)
          return ⟨← (List.zipWith Slot.view outs (writtenOutputs run.written views)).mapM
            TensorView.elements, outs.map fun p => p.shape.sizes⟩) := by
  have hplaced := hb.placed hr
  -- the upload writes inputs only, so that the outputs hold what they held before the call
  obtain ⟨d₁, hup, htransfer₁, hlaunch₁, hbegins⟩ :=
    Transfer.uploadEach_of_quiet hd (transferFault_of_not_armed hunarmed) hplaced.left hcount
  have hkeeps := Transfer.keeps_uploadEach d (ins.map Slot.buffer) inputs (ins.map Slot.bytes)
  rw [hup] at hkeeps
  have hd₁ := hkeeps.orderly hd
  have hplaced₁ := hplaced.of_extents_eq hkeeps.extents_eq
  obtain ⟨contents, hcontents⟩ := hplaced₁.right.exists_contents hd₁
  have hlengths : List.Forall₂ (fun p data => data.length = p.bytes) outs contents :=
    hcontents.imp fun _ _ h => h.1
  refine ⟨contents, hlengths, ?_⟩
  intro views run
  -- the launch hands the kernel exactly these views
  obtain ⟨hread, hwritten⟩ := filter_binding hins houts
  have hinputs : d₁.views .input ((ins ++ outs).map Slot.binding) = given ins inputs := by
    rw [Device.views, hread, filterMap_view?_binding (forall₂_fitted hbegins), given]
  have houtputs : d₁.views .output ((ins ++ outs).map Slot.binding) = views := by
    rw [Device.views, hwritten, filterMap_view?_binding hcontents]
  have harmless : run.armsTransferFault = false := by
    have hlaunches := launches_of_upload hb husable hins hkernel hscreen hup
    rw [hinputs, houtputs] at hlaunches
    exact armsTransferFault_of_not_armed hunarmed hlaunches
  have hrun : d₁.launch b.context.stream b.graph.kernel b.graph.payload
      ((ins ++ outs).map Slot.binding) =
      (run.result.mapError (Device.launchError b.graph.kernel),
        d₁.writeOutputs (outs.map Slot.binding) (writtenOutputs run.written views)) := by
    rw [Device.launch_of_bound (hlaunch₁.trans hlaunch) (hkeeps.kernels_eq ▸ hkernel)
      (hkeeps.streams_eq ▸ hr.stream_mem) (checkBindings_slots hplaced₁ hd₁)]
    simp only [Device.runKernel, hinputs, houtputs, hwritten, run] at harmless ⊢
    rw [harmless, if_neg Bool.false_ne_true]
  simp only [execute, upload_slots hb hins, hup, bind_eq hb husable]
  cases hresult : run.result with
  | error e =>
    obtain ⟨reason, hreason⟩ := Device.exists_launchError_eq b.graph.kernel e
    have hdevice : (Device.launchError b.graph.kernel e).isDeviceError = true := by
      rw [hreason]
      rfl
    rw [hresult] at hrun
    rw [enqueue_of_failed rfl hdevice hrun]
    rfl
  | ok u =>
    rw [hresult] at hrun
    have hstream : b.context.stream ∈
        (d₁.writeOutputs (outs.map Slot.binding) (writtenOutputs run.written views)).streams := by
      rw [(Device.keeps_writeOutputs _ _ _).streams_eq, hkeeps.streams_eq]
      exact hr.stream_mem
    have hsettled := enqueue_of_launched (c := { b.context with
      phase := .bound, bindings := (ins ++ outs).map Slot.binding }) rfl hstream hrun
    simp only [hsettled, download_slots hb hins houts]
    -- what comes back are the values of what the kernel left in the outputs
    have hfinal := begins_writeOutputs hd₁ hplaced₁.right
      (forall₂_writtenOutputs hlengths run.written)
    have hquiet := (Device.faults_writeOutputs d₁ (outs.map Slot.binding)
      (writtenOutputs run.written views)).2.trans htransfer₁
    obtain ⟨values, hvalues, hdownload⟩ := Transfer.downloadEach_of_begins hquiet hfinal
    rw [hdownload, hvalues]
    rfl

/-! ## The reference on slots -/

theorem inputViews_slots {policy : SizePolicy} (more : List Shape) {inputs : List Bytes}
    (hcount : inputs.length = ins.length)
    (hlengths : policy = .strict → inputs.map List.length = ins.map Slot.bytes) :
    Reference.inputViews policy (ins.map Slot.tensor) (ins.map Slot.shape ++ more) inputs =
      .ok (given ins inputs) := by
  induction ins generalizing inputs with
  | nil => rfl
  | cons p ins ih =>
    obtain ⟨data, inputs, rfl⟩ := List.exists_cons_of_length_eq_add_one hcount
    have hpresent : Reference.present policy p.bytes data = fitted p.bytes data := by
      cases policy with
      | lenient => rfl
      | strict =>
        have hlength : data.length = p.bytes := (List.cons.inj (hlengths rfl)).1
        rw [Reference.present, fitted_of_le_length (Nat.le_of_eq hlength.symm),
          List.take_of_length_le (Nat.le_of_eq hlength)]
    have hrest := ih (by simpa using hcount) fun hstrict => (List.cons.inj (hlengths hstrict)).2
    simp only [List.map_cons, List.cons_append, Reference.inputViews, Reference.view, p.dtype_eq,
      p.bytes_eq, ok_bind, hpresent, hrest]
    rfl

theorem outputViews_slots (outs : List Slot) :
    Reference.outputViews (outs.map Slot.tensor) (outs.map Slot.shape) =
      .ok (List.zipWith Slot.view outs (outs.map fun p => List.replicate p.bytes 0)) := by
  induction outs with
  | nil => rfl
  | cons p outs ih =>
    simp only [List.map_cons, Reference.outputViews, Reference.view, p.dtype_eq, p.bytes_eq, ok_bind,
      ih]
    rfl

theorem zipWith_view_zipWith_view {contents : List Bytes}
    (h : List.Forall₂ (fun p data => data.length = p.bytes) outs contents) (written : List Bytes) :
    List.zipWith (fun v bytes => { v with data := bytes }) (List.zipWith Slot.view outs contents)
      written = List.zipWith Slot.view outs written := by
  induction h generalizing written with
  | nil => rfl
  | cons _ _ ih =>
    cases written with
    | nil => rfl
    | cons bytes written =>
      rw [List.zipWith_cons_cons, List.zipWith_cons_cons, List.zipWith_cons_cons, ih]
      rfl

/-- Slots show the same tensors whatever they hold. -/
theorem alike_of_lengths {contents contents' : List Bytes}
    (h : List.Forall₂ (fun p data => data.length = p.bytes) outs contents)
    (h' : List.Forall₂ (fun p data => data.length = p.bytes) outs contents') :
    List.Forall₂ TensorView.Alike (List.zipWith Slot.view outs contents)
      (List.zipWith Slot.view outs contents') := by
  induction h generalizing contents' with
  | nil =>
    cases h'
    exact .nil
  | cons hfirst _ ih =>
    cases h' with
    | cons hfirst' hrest' =>
      exact .cons ⟨rfl, rfl, rfl, hfirst.trans hfirst'.symm⟩ (ih hrest')

/-- The outputs of slots, cleared. -/
def cleared (outs : List Slot) : List TensorView :=
  List.zipWith Slot.view outs (outs.map fun p => List.replicate p.bytes 0)

theorem forall₂_replicate (outs : List Slot) :
    List.Forall₂ (fun (p : Slot) (data : Bytes) => data.length = p.bytes) outs
      (outs.map fun p => List.replicate p.bytes 0) := by
  rw [List.forall₂_map_right_iff, List.forall₂_same]
  exact fun p _ => List.length_replicate

theorem zipWith_cleared (outs : List Slot) (written : List Bytes) :
    List.zipWith (fun v bytes => { v with data := bytes }) (cleared outs) written =
      List.zipWith Slot.view outs written :=
  zipWith_view_zipWith_view (forall₂_replicate outs) written

/-- A call passes its checks, and the reference has views for it. -/
structure Screened (b : EngineBackend) (ins outs : List Slot) (inputs : List Bytes)
    (shapes : List Shape) (expected : List Nat) : Prop where
  serves : b.Serves (ins ++ outs)
  inputs_eq : b.graph.registry.inputs = ins.map Slot.tensor
  outputs_eq : b.graph.registry.outputs = outs.map Slot.tensor
  usable : b.failure = none
  count : inputs.length = ins.length
  shapes_eq : shapes = (ins ++ outs).map Slot.shape
  expected_eq : expected = ins.map Slot.bytes
  given_eq : Reference.inputViews b.policy b.graph.registry.inputs shapes inputs =
    .ok (given ins inputs)
  outputShapes_eq : shapes.drop b.graph.registry.inputCount = outs.map Slot.shape

theorem exists_screened {slots : List Slot} (hb : b.Serves slots) {inputs : List Bytes}
    {shapes : List Shape} {expected : List Nat}
    (hscreen : b.screen inputs = .ok (shapes, expected)) :
    ∃ ins outs, Screened b ins outs inputs shapes expected := by
  obtain ⟨ins, outs, rfl, hins, houts⟩ := hb.split
  -- the device plays no part in the checks
  rcases screen_cases hb hins (Device.new .empty none (.upTo 4096)) inputs with
    ⟨e, hrefused, -⟩ | ⟨husable, hcount, hlengths, haccepted⟩
  · rw [hrefused] at hscreen
    cases hscreen
  · rw [haccepted] at hscreen
    cases hscreen
    refine ⟨ins, outs, hb, hins, houts, husable, hcount, rfl, rfl, ?_, ?_⟩
    · rw [hins, List.map_append]
      exact inputViews_slots _ hcount hlengths
    · rw [Registry.inputCount, hins, List.map_append, List.length_map]
      exact List.drop_left' (List.length_map _)

namespace Screened

variable {inputs : List Bytes} {shapes : List Shape} {expected : List Nat}

theorem cleared_eq (h : Screened b ins outs inputs shapes expected) :
    Reference.outputViews b.graph.registry.outputs (shapes.drop b.graph.registry.inputCount) =
      .ok (cleared outs) := by
  rw [h.outputs_eq, h.outputShapes_eq]
  exact outputViews_slots outs

/-- What the reference makes of slots. -/
theorem reference_eq (h : Screened b ins outs inputs shapes expected) (body : Kernel) :
    let run := body.run b.graph.payload (given ins inputs) (cleared outs)
    Reference.infer b.graph body b.policy shapes inputs =
      (do
        run.result.mapError (Device.launchError b.graph.kernel)
        return ⟨← (List.zipWith Slot.view outs
          (writtenOutputs run.written (cleared outs))).mapM TensorView.elements,
          outs.map fun p => p.shape.sizes⟩) := by
  intro run
  have hcleared := h.cleared_eq
  rw [h.outputShapes_eq] at hcleared
  simp only [Reference.infer, h.given_eq, h.outputShapes_eq, hcleared, ok_bind, Reference.results,
    zipWith_cleared, List.map_map]
  rfl

/-- The reference fails only as the kernel does. -/
theorem exists_reference_eq_ok (h : Screened b ins outs inputs shapes expected)
    (hrun : (body.run b.graph.payload (given ins inputs) (cleared outs)).result = .ok ()) :
    ∃ output, Reference.infer b.graph body b.policy shapes inputs = .ok output := by
  obtain ⟨values, hvalues⟩ := Transfer.exists_elements
    (forall₂_writtenOutputs (forall₂_replicate outs)
      (body.run b.graph.payload (given ins inputs) (cleared outs)).written)
  refine ⟨⟨values, outs.map fun p => p.shape.sizes⟩, ?_⟩
  rw [h.reference_eq body, hrun]
  simp only [cleared] at hvalues ⊢
  rw [hvalues]
  rfl

end Screened

/-! ## Calls and the reference -/

/-- A call that passes its checks gives what it gives on the way through the device. -/
theorem infer_fst {inputs : List Bytes} {shapes : List Shape} {expected : List Nat}
    (hscreen : b.screen inputs = .ok (shapes, expected)) (d : Device) (elapsed : Duration) :
    (b.infer d inputs elapsed).1 = (b.execute d inputs expected shapes).1 := by
  simp only [infer, hscreen]
  rcases b.execute d inputs expected shapes with ⟨_ | _, _, _⟩
  · rfl
  · rfl

/-- Without faults, a call that passes its checks gives what the reference gives, if the kernel does
not look at what its outputs held. -/
theorem infer_eq_reference {slots : List Slot} (hb : b.Serves slots) (hr : b.Resides d)
    (hd : d.Orderly) (hkernel : d.kernels.get? b.graph.kernel = some body)
    (hblind : body.IgnoresOutputs) (hlaunch : d.launchFault = false) {inputs : List Bytes}
    (hunarmed : ¬ b.Armed d inputs) {shapes : List Shape} {expected : List Nat}
    (hscreen : b.screen inputs = .ok (shapes, expected)) (elapsed : Duration) :
    (b.infer d inputs elapsed).1 = Reference.infer b.graph body b.policy shapes inputs := by
  obtain ⟨ins, outs, h⟩ := exists_screened hb hscreen
  have hserves := h.serves
  have hchecked := hscreen
  rw [h.shapes_eq, h.expected_eq] at hchecked
  obtain ⟨contents, hcontents, hexecute⟩ := execute_of_quiet hserves hr hd h.usable h.inputs_eq
    h.outputs_eq hkernel hlaunch h.count hchecked hunarmed
  -- the kernel runs on stale outputs here and on cleared ones there
  obtain ⟨hresult, hwritten⟩ := hblind b.graph.payload (given ins inputs) _ _
    (alike_of_lengths hcontents (forall₂_replicate outs))
  rw [infer_fst hscreen, h.expected_eq, h.shapes_eq, hexecute, ← h.shapes_eq, h.reference_eq body]
  cases hrun : (body.run b.graph.payload (given ins inputs)
      (List.zipWith Slot.view outs contents)).result with
  | error e =>
    rw [cleared, ← hresult, hrun]
    rfl
  | ok u => rw [cleared, ← hresult, hrun, ← hwritten hrun]

end EngineBackend

end GraphServe
