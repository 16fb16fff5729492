import GraphServe.Proofs.Tenancy.Twins

/-!
# Calls of twins

On a quiet device a call is two rows of writes with a run of the kernel between them
(`execute_eq_of_quiet`): the fitted inputs go to the inputs' regions, and what the kernel wrote goes
to the outputs' regions. Twins therefore answer a call alike, and stay twins (`Twins.infer`).
-/

namespace GraphServe

open Device (Quiet)
open Slot (Placed)

variable {kernels : KernelTable} {host : Host} {d d' : Device}

theorem Device.Quiet.writeOutputs (hd : d.Quiet kernels host) (bindings : List Binding)
    (outputs : List Bytes) : (d.writeOutputs bindings outputs).Quiet kernels host := by
  obtain ⟨hlaunch, htransfer⟩ := d.faults_writeOutputs bindings outputs
  exact hd.keeps (d.keeps_writeOutputs bindings outputs) (hlaunch.trans hd.launchFault_eq)
    (htransfer.trans hd.transferFault_eq)

theorem Slot.Placed.writeOutputs {slots : List Slot} (h : Placed slots d) (bindings : List Binding)
    (outputs : List Bytes) : Placed slots (d.writeOutputs bindings outputs) :=
  h.of_extents_eq (d.keeps_writeOutputs bindings outputs).extents_eq

namespace Transfer

/-- What arrives at slots of the callers' inputs. -/
def arriving (slots : List Slot) (inputs : List Bytes) : List Bytes :=
  List.zipWith (fun p data => fitted p.bytes data) slots inputs

theorem arriving_eq (slots : List Slot) (inputs : List Bytes) :
    arriving slots inputs = List.zipWith fitted (slots.map Slot.bytes) inputs := by
  rw [arriving, List.zipWith_map_left]

/-- Without a fault, an upload is a row of writes. -/
theorem uploadEach_eq_writeOutputs (hd : d.Orderly) (hfault : d.transferFault = false)
    {slots : List Slot} (hplaced : Placed slots d) {inputs : List Bytes}
    (hcount : inputs.length = slots.length) :
    uploadEach d (slots.map Slot.buffer) inputs (slots.map Slot.bytes) =
      (.ok (), d.writeOutputs (slots.map Slot.binding) (arriving slots inputs)) := by
  induction slots generalizing d inputs with
  | nil => rfl
  | cons p slots ih =>
    obtain ⟨data, inputs, rfl⟩ := List.exists_cons_of_length_eq_add_one hcount
    obtain ⟨r, hr, hfits⟩ := hplaced.exists_region hd List.mem_cons_self
    have hkeeps := d.keeps_updateRegion p.address (length_overlay (fitted p.bytes data))
    have hrest := ih (d := d.updateRegion p.address (overlay (fitted p.bytes data)))
      (hkeeps.orderly hd) hfault (hplaced.tail.of_extents_eq hkeeps.extents_eq)
      (by simpa using hcount)
    rw [List.map_cons, List.map_cons, uploadEach]
    rw [show p.buffer.address = p.address from rfl, uploadInput_of_quiet hd hfault hr hfits]
    exact hrest

end Transfer

/-- Without faults, slots that hold the same give the same results. -/
theorem Mirror.download {pairs part : List (Slot × Slot)} (h : Mirror pairs d d')
    (hpart : part ⊆ pairs) (hd : d.Orderly) (hd' : d'.Orderly) (hfault : d.transferFault = false)
    (hfault' : d'.transferFault = false) (hplaced : Placed (part.map Prod.fst) d)
    (hplaced' : Placed (part.map Prod.snd) d') :
    ∃ result,
      Transfer.downloadEach d ((part.map Prod.fst).map Slot.tensor)
        ((part.map Prod.fst).map Slot.buffer) ((part.map Prod.fst).map Slot.shape) =
          (result, d) ∧
      Transfer.downloadEach d' ((part.map Prod.snd).map Slot.tensor)
        ((part.map Prod.snd).map Slot.buffer) ((part.map Prod.snd).map Slot.shape) =
          (result, d') := by
  induction part with
  | nil => exact ⟨_, rfl, rfl⟩
  | cons q rest ih =>
    obtain ⟨hq, hrest⟩ := List.cons_subset.1 hpart
    have halike := h.alike q hq
    obtain ⟨r, hr, hfits⟩ := hplaced.exists_region hd List.mem_cons_self
    obtain ⟨r', hr', hfits'⟩ := hplaced'.exists_region hd' List.mem_cons_self
    have hdata : r'.data = r.data := by
      have hbytes := h.bytes_eq q hq
      rw [Device.bytes?, Device.bytes?, hr, hr'] at hbytes
      exact Option.some.inj hbytes
    have hcopy : d.copyOut q.1.buffer.address q.1.bytes = (.ok (r.data.take q.1.bytes), d) :=
      Device.copyOut_of_fits hfault hr hfits
    have hcopy' : d'.copyOut q.2.buffer.address q.2.bytes = (.ok (r.data.take q.1.bytes), d') := by
      rw [← halike.bytes_eq, ← hdata]
      exact Device.copyOut_of_fits hfault' hr' hfits'
    obtain ⟨result, hleft, hright⟩ := ih hrest hplaced.tail hplaced'.tail
    simp only [List.map_cons, Transfer.downloadEach, Transfer.downloadOutput, q.1.dtype_eq,
      q.1.bytes_eq, q.2.dtype_eq, q.2.bytes_eq, hcopy, hcopy']
    rw [halike.dtype_eq, halike.shape_eq]
    cases (Element.decode q.1.buffer.dtype (r.data.take q.1.bytes)).mapError EngineError.tensor with
    | error e => exact ⟨_, rfl, rfl⟩
    | ok values =>
      simp only [hleft, hright]
      cases result with
      | error e => exact ⟨_, rfl, rfl⟩
      | ok output => exact ⟨_, rfl, rfl⟩

namespace EngineBackend

variable {b b' : EngineBackend} {ins outs : List Slot} {body : Kernel}

/-- The device once the inputs of a call have arrived. -/
def supplied (d : Device) (ins : List Slot) (inputs : List Bytes) : Device :=
  d.writeOutputs (ins.map Slot.binding) (Transfer.arriving ins inputs)

/-- The run of the kernel on slots. -/
def ran (d : Device) (body : Kernel) (payload : Bytes) (ins outs : List Slot) : KernelRun :=
  body.run payload ((ins.map Slot.binding).filterMap d.view?)
    ((outs.map Slot.binding).filterMap d.view?)

/-- The device once a run has written its outputs. -/
def written (d : Device) (run : KernelRun) (outs : List Slot) : Device :=
  d.writeOutputs (outs.map Slot.binding)
    (writtenOutputs run.written ((outs.map Slot.binding).filterMap d.view?))

/-- On a quiet device a call that passes its checks runs the kernel on what arrived, and decodes what
the kernel wrote unless it failed. -/
theorem execute_eq_of_quiet (hb : b.Serves (ins ++ outs)) (hr : b.Resides d)
    (hd : d.Quiet kernels host) (hunarmed : kernels.Unarmed) (husable : b.failure = none)
    (hins : b.graph.registry.inputs = ins.map Slot.tensor)
    (houts : b.graph.registry.outputs = outs.map Slot.tensor)
    (hkernel : kernels.get? b.graph.kernel = some body) {inputs : List Bytes}
    (hcount : inputs.length = ins.length) :
    let d₁ := supplied d ins inputs
    let run := ran d₁ body b.graph.payload ins outs
    let d₂ := written d₁ run outs
    b.execute d inputs (ins.map Slot.bytes) ((ins ++ outs).map Slot.shape) =
      match run.result with
      | .error e =>
        (.error (Device.launchError b.graph.kernel e), { b.context with phase := .poisoned }, d₂)
      | .ok () =>
        ((Transfer.downloadEach d₂ (outs.map Slot.tensor) (outs.map Slot.buffer)
          (outs.map Slot.shape)).1, b.context,
          (Transfer.downloadEach d₂ (outs.map Slot.tensor) (outs.map Slot.buffer)
            (outs.map Slot.shape)).2) := by
  intro d₁ run d₂
  have hplaced := hb.placed hr
  have hup := Transfer.uploadEach_eq_writeOutputs hd.orderly hd.transferFault_eq hplaced.left hcount
  have hd₁ : d₁.Quiet kernels host := hd.writeOutputs _ _
  -- what arrives moves no region and no stream, so that the launch finds what it needs
  have hplaced₁ : Placed (ins ++ outs) d₁ := hplaced.writeOutputs _ _
  have hstreams₁ : d₁.streams = d.streams := (d.keeps_writeOutputs _ _).streams_eq
  have hstreams₂ : d₂.streams = d₁.streams := (d₁.keeps_writeOutputs _ _).streams_eq
  obtain ⟨hread, hwritten⟩ := filter_binding hins houts
  have hlaunch : d₁.launch b.context.stream b.graph.kernel b.graph.payload
      ((ins ++ outs).map Slot.binding) =
      (run.result.mapError (Device.launchError b.graph.kernel), d₂) := by
    have hstream : b.context.stream ∈ d₁.streams := by
      rw [hstreams₁]
      exact hr.stream_mem
    rw [Device.launch_of_bound hd₁.launchFault_eq (hd₁.kernels_eq ▸ hkernel) hstream
      (checkBindings_slots hplaced₁ hd₁.orderly)]
    have harmless := hunarmed b.graph.kernel body hkernel b.graph.payload
      ((ins.map Slot.binding).filterMap d₁.view?) ((outs.map Slot.binding).filterMap d₁.view?)
    simp only [Device.runKernel, Device.views, hread, hwritten, harmless, Bool.false_eq_true,
      if_false]
    rfl
  simp only [execute, upload_slots hb hins, hup, bind_eq hb husable]
  rw [show d.writeOutputs (ins.map Slot.binding) (Transfer.arriving ins inputs) = d₁ from rfl]
  cases hresult : run.result with
  | error e =>
    -- whatever the kernel's own error is, the device tells it as one of its own
    obtain ⟨reason, hreason⟩ := Device.exists_launchError_eq b.graph.kernel e
    have hdevice : (Device.launchError b.graph.kernel e).isDeviceError = true := by
      rw [hreason]
      rfl
    rw [hresult] at hlaunch
    rw [enqueue_of_failed rfl hdevice hlaunch]
    simp only [Context.poison, hb.bindings_eq]
  | ok u =>
    rw [hresult] at hlaunch
    have hstream : b.context.stream ∈ d₂.streams := by
      rw [hstreams₂, hstreams₁]
      exact hr.stream_mem
    have hsettled := enqueue_of_launched (c := { b.context with
      phase := .bound, bindings := (ins ++ outs).map Slot.binding }) rfl hstream hlaunch
    -- ready without bindings is what the context was
    have hready : { b.context with phase := .ready, bindings := [] } = b.context := by
      rw [← hb.phase_of_usable husable, ← hb.bindings_eq]
    simp only [hsettled, download_slots hb hins houts, hready]

/-! ## Pairing the slots of twins -/

/-- The slots of two backends in pairs, those of the inputs first. -/
structure Paired (b b' : EngineBackend) (d d' : Device) (ins outs : List (Slot × Slot)) :
    Prop where
  serves : b.Serves (ins.map Prod.fst ++ outs.map Prod.fst)
  serves' : b'.Serves (ins.map Prod.snd ++ outs.map Prod.snd)
  inputs_eq : b.graph.registry.inputs = (ins.map Prod.fst).map Slot.tensor
  inputs_eq' : b'.graph.registry.inputs = (ins.map Prod.snd).map Slot.tensor
  outputs_eq : b.graph.registry.outputs = (outs.map Prod.fst).map Slot.tensor
  outputs_eq' : b'.graph.registry.outputs = (outs.map Prod.snd).map Slot.tensor
  mirror : Mirror (ins ++ outs) d d'

/-- What a serving backend holds is what its slots hold. -/
theorem Serves.contents_eq {slots : List Slot} (hb : b.Serves slots) (d : Device) :
    b.contents d = slots.map fun p => d.bytes? p.address := by
  rw [contents, hb.buffers_eq, List.map_map]
  rfl

/-- Slots that mirror each other hold the same. -/
theorem contents_eq_of_mirror {ins outs : List (Slot × Slot)}
    (hb : b.Serves (ins.map Prod.fst ++ outs.map Prod.fst))
    (hb' : b'.Serves (ins.map Prod.snd ++ outs.map Prod.snd)) (h : Mirror (ins ++ outs) d d') :
    b'.contents d' = b.contents d := by
  rw [hb.contents_eq, hb'.contents_eq, ← List.map_append, ← List.map_append, List.map_map,
    List.map_map]
  refine List.map_congr_left ?_
  intro q hq
  exact h.bytes_eq q hq

/-- The slots of twins mirror each other, one by one. -/
theorem Twins.mirror (h : Twins b b' d d') {slots slots' : List Slot} (hb : b.Serves slots)
    (hb' : b'.Serves slots') (hr : b.Resides d) (hr' : b'.Resides d') :
    Mirror (slots.zip slots') d d' := by
  -- the columns of the two are the same, so that each pair agrees in every column
  have htensors : slots.map Slot.tensor = slots'.map Slot.tensor := by
    rw [← hb.tensors_eq, ← hb'.tensors_eq, h.graph_eq]
  have hshapes : slots.map Slot.shape = slots'.map Slot.shape := by
    have hsome := h.shapes_eq
    rw [hb.shapes_eq, hb'.shapes_eq] at hsome
    exact (List.map_injective_iff.2 (Option.some_injective _) hsome).symm
  have hdtypes : slots.map (fun p => p.buffer.dtype) = slots'.map fun p => p.buffer.dtype := by
    have hbuffers := congrArg (List.map Buffer.dtype) h.buffers_eq
    rw [hb.buffers_eq, hb'.buffers_eq, List.map_map, List.map_map, List.map_map,
      List.map_map] at hbuffers
    exact hbuffers.symm
  have hcontents := h.contents_eq
  rw [hb.contents_eq, hb'.contents_eq] at hcontents
  have hlength : slots.length = slots'.length := by simpa using congrArg List.length htensors
  refine ⟨?_, ?_, ?_, ?_⟩
  · intro q hq
    exact ⟨(eq_of_mem_zip htensors hq).symm, (eq_of_mem_zip hshapes hq).symm,
      (eq_of_mem_zip hdtypes hq).symm⟩
  · intro q hq
    exact (eq_of_mem_zip hcontents.symm hq).symm
  · have hdistinct := (hb.placed hr).distinct
    rw [← List.map_fst_zip (Nat.le_of_eq hlength), List.map_map] at hdistinct
    exact hdistinct
  · have hdistinct := (hb'.placed hr').distinct
    rw [← List.map_snd_zip (Nat.le_of_eq hlength.symm), List.map_map] at hdistinct
    exact hdistinct

/-- Twins that serve slots have them in pairs. -/
theorem Twins.exists_paired (h : Twins b b' d d') {slots slots' : List Slot} (hb : b.Serves slots)
    (hb' : b'.Serves slots') (hr : b.Resides d) (hr' : b'.Resides d') :
    ∃ ins outs, Paired b b' d d' ins outs := by
  obtain ⟨ins, outs, rfl, hins, houts⟩ := hb.split
  obtain ⟨ins', outs', rfl, hins', houts'⟩ := hb'.split
  have hinputs : ins.map Slot.tensor = ins'.map Slot.tensor := by
    rw [← hins, ← hins', h.graph_eq]
  have houtputs : outs.map Slot.tensor = outs'.map Slot.tensor := by
    rw [← houts, ← houts', h.graph_eq]
  have hlength : ins.length = ins'.length := by simpa using congrArg List.length hinputs
  have hlength' : outs.length = outs'.length := by simpa using congrArg List.length houtputs
  have hfst : (ins.zip ins').map Prod.fst = ins := List.map_fst_zip (Nat.le_of_eq hlength)
  have hsnd : (ins.zip ins').map Prod.snd = ins' := List.map_snd_zip (Nat.le_of_eq hlength.symm)
  have hfst' : (outs.zip outs').map Prod.fst = outs := List.map_fst_zip (Nat.le_of_eq hlength')
  have hsnd' : (outs.zip outs').map Prod.snd = outs' :=
    List.map_snd_zip (Nat.le_of_eq hlength'.symm)
  have hall : ins.zip ins' ++ outs.zip outs' = (ins ++ outs).zip (ins' ++ outs') :=
    (List.zip_append hlength).symm
  refine ⟨ins.zip ins', outs.zip outs', ?_, ?_, ?_, ?_, ?_, ?_, ?_⟩
  · rw [hfst, hfst']
    exact hb
  · rw [hsnd, hsnd']
    exact hb'
  · rw [hfst]
    exact hins
  · rw [hsnd]
    exact hins'
  · rw [hfst']
    exact houts
  · rw [hsnd']
    exact houts'
  · rw [hall]
    exact h.mirror hb hb' hr hr'

/-! ## Calls in parallel -/

/-- Two runs give the same, leave twins, and leave the first device quiet. -/
structure Concur {Result : Type} (kernels : KernelTable) (host : Host)
    (run run' : Outcome (EngineBackend × Device) Result) : Prop where
  result_eq : run'.1 = run.1
  twins : Twins run.2.1 run'.2.1 run.2.2 run'.2.2
  quiet : run.2.2.Quiet kernels host

/-- The way through the device is the same for twins. -/
theorem execute_paired {ins outs : List (Slot × Slot)} (h : Paired b b' d d' ins outs)
    (hgraph : b'.graph = b.graph) (hr : b.Resides d) (hr' : b'.Resides d')
    (hd : d.Quiet kernels host) (hd' : d'.Quiet kernels host) (hunarmed : kernels.Unarmed)
    (husable : b.failure = none) (husable' : b'.failure = none) {inputs : List Bytes} (hcount : inputs.length = ins.length) :
    ∃ result phase d₂ d₂',
      b.execute d inputs ((ins.map Prod.fst).map Slot.bytes)
        ((ins.map Prod.fst ++ outs.map Prod.fst).map Slot.shape) =
          (result, { b.context with phase }, d₂) ∧
      b'.execute d' inputs ((ins.map Prod.snd).map Slot.bytes)
        ((ins.map Prod.snd ++ outs.map Prod.snd).map Slot.shape) =
          (result, { b'.context with phase }, d₂') ∧
      Mirror (ins ++ outs) d₂ d₂' ∧ d₂.Quiet kernels host := by
  obtain ⟨body, hkernel⟩ := Option.isSome_iff_exists.1 hr.kernel_mem
  rw [hd.kernels_eq] at hkernel
  have hkernel' : kernels.get? b'.graph.kernel = some body := by rw [hgraph, hkernel]
  have hexecute := execute_eq_of_quiet h.serves hr hd hunarmed husable h.inputs_eq h.outputs_eq
    hkernel (by rw [hcount, List.length_map])
  have hexecute' := execute_eq_of_quiet h.serves' hr' hd' hunarmed husable' h.inputs_eq'
    h.outputs_eq' hkernel' (by rw [hcount, List.length_map])
  have hins : ins ⊆ ins ++ outs := List.subset_append_left _ _
  have houts : outs ⊆ ins ++ outs := List.subset_append_right _ _
  -- the same bytes arrive, the kernel sees the same, and what it writes goes to both alike
  have harriving : Transfer.arriving (ins.map Prod.snd) inputs =
      Transfer.arriving (ins.map Prod.fst) inputs := by
    rw [Transfer.arriving_eq, Transfer.arriving_eq, h.mirror.bytes_map_eq hins]
  have hmirror₁ : Mirror (ins ++ outs) (supplied d (ins.map Prod.fst) inputs)
      (supplied d' (ins.map Prod.snd) inputs) := by
    rw [supplied, supplied, harriving]
    exact h.mirror.writeOutputs hins _
  have hrun : ran (supplied d' (ins.map Prod.snd) inputs) body b'.graph.payload
      (ins.map Prod.snd) (outs.map Prod.snd) =
      ran (supplied d (ins.map Prod.fst) inputs) body b.graph.payload
        (ins.map Prod.fst) (outs.map Prod.fst) := by
    rw [ran, ran, hmirror₁.views_eq hins, hmirror₁.views_eq houts, hgraph]
  dsimp only at hexecute hexecute'
  rw [hrun] at hexecute'
  generalize ran (supplied d (ins.map Prod.fst) inputs) body b.graph.payload
    (ins.map Prod.fst) (outs.map Prod.fst) = run at hexecute hexecute'
  have hmirror₂ : Mirror (ins ++ outs)
      (written (supplied d (ins.map Prod.fst) inputs) run (outs.map Prod.fst))
      (written (supplied d' (ins.map Prod.snd) inputs) run (outs.map Prod.snd)) := by
    rw [written, written, hmirror₁.views_eq houts]
    exact hmirror₁.writeOutputs houts _
  have hquiet₂ : (written (supplied d (ins.map Prod.fst) inputs) run
      (outs.map Prod.fst)).Quiet kernels host := (hd.writeOutputs _ _).writeOutputs _ _
  have hquiet₂' : (written (supplied d' (ins.map Prod.snd) inputs) run
      (outs.map Prod.snd)).Quiet kernels host := (hd'.writeOutputs _ _).writeOutputs _ _
  cases hresult : run.result with
  | error e =>
    simp only [hresult, hgraph] at hexecute hexecute'
    exact ⟨_, .poisoned, _, _, hexecute, hexecute', hmirror₂, hquiet₂⟩
  | ok u =>
    simp only [hresult] at hexecute hexecute'
    have hplaced := ((h.serves.placed hr).writeOutputs ((ins.map Prod.fst).map Slot.binding)
      (Transfer.arriving (ins.map Prod.fst) inputs)).right
    have hplaced' := ((h.serves'.placed hr').writeOutputs ((ins.map Prod.snd).map Slot.binding)
      (Transfer.arriving (ins.map Prod.snd) inputs)).right
    obtain ⟨result, hdown, hdown'⟩ := hmirror₂.download houts hquiet₂.orderly hquiet₂'.orderly
      hquiet₂.transferFault_eq hquiet₂'.transferFault_eq (hplaced.writeOutputs _ _)
      (hplaced'.writeOutputs _ _)
    rw [hdown] at hexecute
    rw [hdown'] at hexecute'
    refine ⟨result, .ready, _, _, hexecute.trans ?_, hexecute'.trans ?_, hmirror₂, hquiet₂⟩
    · rw [← h.serves.phase_of_usable husable]
    · rw [← h.serves'.phase_of_usable husable']

theorem face_afterFailure (b : EngineBackend) (c : Context) (e : EngineError) :
    (b.afterFailure c e).face = b.face.afterFailure c.unplaced e := by
  have hclear : c.clearBindings.unplaced = c.unplaced.clearBindings := by
    rw [Context.clearBindings, Context.clearBindings]
    split_ifs with hbound hbound' hbound'
    · rfl
    · exact absurd hbound hbound'
    · exact absurd hbound' hbound
    · rfl
  rw [afterFailure, afterFailure, ← hclear]
  split_ifs
  · rfl
  · rfl

theorem buffers_afterFailure (b : EngineBackend) (c : Context) (e : EngineError) :
    (b.afterFailure c e).buffers = b.buffers := by
  rw [afterFailure]
  split_ifs
  · rfl
  · rfl

/-- Twins answer a call alike, and it leaves them twins. -/
theorem Twins.infer (h : Twins b b' d d') {slots slots' : List Slot} (hb : b.Serves slots)
    (hb' : b'.Serves slots') (hr : b.Resides d) (hr' : b'.Resides d') (hd : d.Quiet kernels host)
    (hd' : d'.Quiet kernels host) (hunarmed : kernels.Unarmed) (inputs : List Bytes)
    (elapsed : Duration) :
    Concur kernels host (b.infer d inputs elapsed) (b'.infer d' inputs elapsed) := by
  obtain ⟨ins, outs, hpaired⟩ := h.exists_paired hb hb' hr hr'
  have hscreens := h.screen_eq inputs
  rcases screen_cases hpaired.serves hpaired.inputs_eq d inputs with
    ⟨e, hscreen, -⟩ | ⟨husable, hcount, -, hscreen⟩
  · have hscreen' : b'.screen inputs = .error e := hscreens.trans hscreen
    have hface := congrArg (fun f => { f with stats := f.stats.recordFailure }) h.face_eq
    simp only [EngineBackend.infer, hscreen, hscreen']
    exact ⟨rfl, ⟨hface, h.contents_eq⟩, hd⟩
  · rw [List.length_map] at hcount
    -- the twin passes the same checks, with its own slots for the same shapes and sizes
    have hscreen' : b'.screen inputs = .ok ((ins.map Prod.snd ++ outs.map Prod.snd).map Slot.shape,
        (ins.map Prod.snd).map Slot.bytes) := by
      rcases screen_cases hpaired.serves' hpaired.inputs_eq' d' inputs with
        ⟨e, hrefused, -⟩ | ⟨-, -, -, haccepted⟩
      · rw [hscreens, hscreen] at hrefused
        cases hrefused
      · exact haccepted
    obtain ⟨result, phase, d₂, d₂', hexecute, hexecute', hmirror, hquiet⟩ :=
      execute_paired hpaired h.graph_eq hr hr' hd hd' hunarmed husable
        (h.failure_eq.trans husable) hcount
    have hcontents : b'.contents d₂' = b.contents d₂ :=
      contents_eq_of_mirror hpaired.serves hpaired.serves' hmirror
    simp only [EngineBackend.infer, hscreen, hscreen', hexecute, hexecute']
    cases result with
    | error e =>
      refine ⟨rfl, ⟨?_, ?_⟩, hquiet⟩
      · -- the reaction to the error does not look where the backend lies
        have hcontext := congrArg (fun f => { f.context with phase }) h.face_eq
        rw [face_afterFailure, face_afterFailure, h.face_eq]
        exact congrArg (b.face.afterFailure · e) hcontext
      · simp only [contents, buffers_afterFailure]
        exact hcontents
    | ok output =>
      have hface := congrArg (fun f => { f with
        context := { f.context with phase }
        stats := f.stats.recordSuccess elapsed }) h.face_eq
      exact ⟨rfl, ⟨hface, hcontents⟩, hquiet⟩

end EngineBackend

end GraphServe
