import GraphServe.Proofs.Backend.Serving

/-!
# Calls of a backend

A call of a serving backend is refused, runs, or fails on its way through the device. Whatever
happens, the backend serves the same slots afterwards and no region but its own is written
(`infer_spec`). On the way through the device a call can fail only by an armed transfer fault or in
execution (`execute_cases`).
-/

namespace GraphServe.EngineBackend

variable {b : EngineBackend} {slots ins outs : List Slot} {d : Device}

/-! ## Through the device -/

/-- The run of the kernel in a call, if the call gets that far. -/
def Launches (b : EngineBackend) (d : Device) (inputs : List Bytes) (run : KernelRun) : Prop :=
  ∃ shapes expected d' body, b.screen inputs = .ok (shapes, expected) ∧
    Transfer.upload d b.graph.registry b.buffers inputs expected = (.ok (), d') ∧
    d.kernels.get? b.graph.kernel = some body ∧
    run = body.run b.graph.payload (d'.views .input (b.context.bind b.buffers).2.bindings)
      (d'.views .output (b.context.bind b.buffers).2.bindings)

/-- A transfer fault is armed before a call, or the kernel arms it in the call. -/
def Armed (b : EngineBackend) (d : Device) (inputs : List Bytes) : Prop :=
  d.transferFault = true ∨ ∃ run, b.Launches d inputs run ∧ run.armsTransferFault = true

theorem transferFault_of_not_armed {inputs : List Bytes} (h : ¬ b.Armed d inputs) :
    d.transferFault = false := by
  rw [Armed, not_or] at h
  simpa using h.1

theorem armsTransferFault_of_not_armed {inputs : List Bytes} {run : KernelRun}
    (h : ¬ b.Armed d inputs) (hrun : b.Launches d inputs run) : run.armsTransferFault = false := by
  by_contra harms
  exact h (Or.inr ⟨run, hrun, by simpa using harms⟩)

/-- How a run through the device ends: well, by a transfer fault that was armed, or in execution.
Only the last leaves the context poisoned. -/
inductive Ending (b : EngineBackend) (d : Device) (inputs : List Bytes) :
    Except EngineError InferenceOutput → Phase → Prop
  | done (output : InferenceOutput) : Ending b d inputs (.ok output) .ready
  | lost (reason : String) (harmed : b.Armed d inputs) :
    Ending b d inputs (.error (.transfer reason)) .ready
  | broken (reason : String) : Ending b d inputs (.error (.execution reason)) .poisoned

theorem upload_slots (hb : b.Serves (ins ++ outs))
    (hins : b.graph.registry.inputs = ins.map Slot.tensor) (d : Device) (inputs : List Bytes) :
    Transfer.upload d b.graph.registry b.buffers inputs (ins.map Slot.bytes) =
      Transfer.uploadEach d (ins.map Slot.buffer) inputs (ins.map Slot.bytes) := by
  rw [Transfer.upload, hb.buffers_eq, Registry.inputCount, hins]
  simp

theorem download_slots (hb : b.Serves (ins ++ outs))
    (hins : b.graph.registry.inputs = ins.map Slot.tensor)
    (houts : b.graph.registry.outputs = outs.map Slot.tensor) (d : Device) :
    Transfer.download d b.graph.registry b.buffers ((ins ++ outs).map Slot.shape) =
      Transfer.downloadEach d (outs.map Slot.tensor) (outs.map Slot.buffer)
        (outs.map Slot.shape) := by
  rw [Transfer.download, houts, hb.buffers_eq, Registry.inputCount, hins]
  simp

/-- An upload that fails was struck by a fault that was armed before. -/
theorem armed_of_uploadEach_eq_error {d' : Device} {inputs : List Bytes} {e : EngineError}
    (hd : d.Orderly) (hplaced : Slot.Placed ins d) (hcount : inputs.length = ins.length)
    (h : Transfer.uploadEach d (ins.map Slot.buffer) inputs (ins.map Slot.bytes) = (.error e, d')) :
    d.transferFault = true := by
  by_contra hquiet
  obtain ⟨d₁, hok, -⟩ := Transfer.uploadEach_of_quiet hd (by simpa using hquiet) hplaced hcount
  rw [hok] at h
  cases h

/-- A download that fails was struck by a fault that was armed before. -/
theorem armed_of_downloadEach_eq_error {d' : Device} {e : EngineError} (hd : d.Orderly)
    (hplaced : Slot.Placed outs d)
    (h : Transfer.downloadEach d (outs.map Slot.tensor) (outs.map Slot.buffer)
      (outs.map Slot.shape) = (.error e, d')) : d.transferFault = true := by
  by_contra hquiet
  obtain ⟨output, hok⟩ := Transfer.exists_downloadEach_eq_ok hd (by simpa using hquiet) hplaced
  rw [hok] at h
  cases h

/-- After a run that arms nothing, on a device without a fault, there is still no fault. -/
theorem transferFault_of_runKernel {d d' : Device} {kernel : String} {body : Kernel}
    {payload : Bytes} {bindings : List Binding} {result : Except EngineError Unit}
    (hquiet : d.transferFault = false)
    (hunarmed : (body.run payload (d.views .input bindings)
      (d.views .output bindings)).armsTransferFault = false)
    (h : d.runKernel kernel body payload bindings = (result, d')) : d'.transferFault = false := by
  simp only [Device.runKernel, hunarmed, Bool.false_eq_true, if_false, Prod.mk.injEq] at h
  rw [← h.2, (Device.faults_writeOutputs _ _ _).2, hquiet]

/-- After the upload the kernel runs on the slots. -/
theorem launches_of_upload (hb : b.Serves (ins ++ outs)) (husable : b.failure = none)
    (hins : b.graph.registry.inputs = ins.map Slot.tensor) {body : Kernel}
    (hkernel : d.kernels.get? b.graph.kernel = some body) {inputs : List Bytes}
    {shapes : List Shape} (hscreen : b.screen inputs = .ok (shapes, ins.map Slot.bytes))
    {d' : Device} (hup : Transfer.uploadEach d (ins.map Slot.buffer) inputs (ins.map Slot.bytes) =
      (.ok (), d')) :
    b.Launches d inputs (body.run b.graph.payload
      (d'.views .input ((ins ++ outs).map Slot.binding))
      (d'.views .output ((ins ++ outs).map Slot.binding))) := by
  refine ⟨shapes, _, d', body, hscreen, ?_, hkernel, ?_⟩
  · rw [upload_slots hb hins, hup]
  · rw [bind_eq hb husable]

/-- A fault that strikes the download was there before the upload, or the kernel armed it. -/
theorem armed_of_download (hb : b.Serves (ins ++ outs)) (hplaced : Slot.Placed ins d)
    (hd : d.Orderly) (husable : b.failure = none)
    (hins : b.graph.registry.inputs = ins.map Slot.tensor) {body : Kernel}
    (hkernel : d.kernels.get? b.graph.kernel = some body) {inputs : List Bytes}
    (hcount : inputs.length = ins.length) {shapes : List Shape}
    (hscreen : b.screen inputs = .ok (shapes, ins.map Slot.bytes)) {d₁ d₂ d₃ : Device}
    (hup : Transfer.uploadEach d (ins.map Slot.buffer) inputs (ins.map Slot.bytes) = (.ok (), d₁))
    (hrun : d₁.runKernel b.graph.kernel body b.graph.payload ((ins ++ outs).map Slot.binding) =
      (.ok (), d₂)) (hd₂ : d₂.Orderly) (hplaced₂ : Slot.Placed outs d₂) {e : EngineError}
    (hdown : Transfer.downloadEach d₂ (outs.map Slot.tensor) (outs.map Slot.buffer)
      (outs.map Slot.shape) = (.error e, d₃)) : b.Armed d inputs := by
  by_contra hunarmed
  obtain ⟨d', hok, hquiet, -⟩ := Transfer.uploadEach_of_quiet hd
    (transferFault_of_not_armed hunarmed) hplaced hcount
  rw [hup, Prod.mk.injEq] at hok
  rw [← hok.2] at hquiet
  have hlaunches := launches_of_upload hb husable hins hkernel hscreen hup
  have hstill := transferFault_of_runKernel hquiet
    (armsTransferFault_of_not_armed hunarmed hlaunches) hrun
  have harmed := armed_of_downloadEach_eq_error hd₂ hplaced₂ hdown
  rw [hstill] at harmed
  cases harmed

/-- A checked call of a usable backend ends in one of these ways, and writes no region but the
backend's own. -/
theorem execute_cases (hb : b.Serves (ins ++ outs)) (hr : b.Resides d) (hd : d.Orderly)
    (husable : b.failure = none) (hins : b.graph.registry.inputs = ins.map Slot.tensor)
    (houts : b.graph.registry.outputs = outs.map Slot.tensor) {inputs : List Bytes}
    (hcount : inputs.length = ins.length)
    (hscreen : b.screen inputs = .ok ((ins ++ outs).map Slot.shape, ins.map Slot.bytes)) :
    ∃ result phase d',
      b.execute d inputs (ins.map Slot.bytes) ((ins ++ outs).map Slot.shape) =
        (result, { b.context with phase }, d') ∧
      Ending b d inputs result phase ∧ Device.Keeps b.addresses d d' := by
  have hplaced := hb.placed hr
  have hready : { b.context with phase := Phase.ready } = b.context := by
    rw [← hb.phase_of_usable husable]
  obtain ⟨body, hkernel⟩ := Option.isSome_iff_exists.1 hr.kernel_mem
  have hkeeps : Device.Keeps b.addresses d
      (Transfer.uploadEach d (ins.map Slot.buffer) inputs (ins.map Slot.bytes)).2 := by
    refine (Transfer.keeps_uploadEach d _ inputs _).mono ?_
    rw [addresses, hb.buffers_eq, List.map_append, List.map_append]
    exact List.subset_append_left _ _
  simp only [execute, upload_slots hb hins]
  -- each stage either ends the call or hands on a device that kept what the next one needs
  rcases hup : Transfer.uploadEach d (ins.map Slot.buffer) inputs (ins.map Slot.bytes) with
    ⟨e | _, d₁⟩
  · obtain ⟨reason, rfl⟩ := Transfer.exists_of_uploadEach_eq_error hup
    have harmed := armed_of_uploadEach_eq_error hd hplaced.left hcount hup
    rw [hup] at hkeeps
    exact ⟨_, .ready, d₁, by rw [hready], .lost reason (Or.inl harmed), hkeeps⟩
  · rw [hup] at hkeeps
    have hplaced₁ := hplaced.of_extents_eq hkeeps.extents_eq
    simp only [bind_eq hb husable]
    rcases enqueue_cases (c := { b.context with
          phase := .bound, bindings := (ins ++ outs).map Slot.binding }) rfl rfl
        (hkeeps.orderly hd) hplaced₁ (hkeeps.streams_eq ▸ hr.stream_mem)
        (hkeeps.kernels_eq ▸ hkernel) with
      ⟨reason, d₂, hlaunch, hkeeps₂⟩ | ⟨d₂, hlaunch, hkeeps₂, hrun⟩
    · refine ⟨.error (.execution reason), .poisoned, d₂, ?_, .broken reason,
        hkeeps.trans (hb.addresses_eq ▸ hkeeps₂)⟩
      simp only [hlaunch, Context.poison, hb.bindings_eq]
    · have hkeeps₃ := hkeeps.trans (hb.addresses_eq ▸ hkeeps₂)
      have hback := Transfer.keeps_downloadEach b.addresses d₂ (outs.map Slot.tensor)
        (outs.map Slot.buffer) (outs.map Slot.shape)
      simp only [hlaunch, download_slots hb hins houts]
      rcases hdown : Transfer.downloadEach d₂ (outs.map Slot.tensor) (outs.map Slot.buffer)
        (outs.map Slot.shape) with ⟨e | output, d₃⟩
      · obtain ⟨reason, rfl⟩ := Transfer.exists_of_downloadEach_eq_error hdown
        rw [hdown] at hback
        have harmed := armed_of_download hb hplaced.left hd husable hins hkernel hcount hscreen hup
          hrun (hkeeps₃.orderly hd) (hplaced.right.of_extents_eq hkeeps₃.extents_eq) hdown
        exact ⟨.error (.transfer reason), .ready, d₃, by rw [hb.bindings_eq], .lost reason harmed,
          hkeeps₃.trans hback⟩
      · rw [hdown] at hback
        exact ⟨.ok output, .ready, d₃, by rw [hb.bindings_eq], .done output, hkeeps₃.trans hback⟩

/-! ## Refusals -/

/-- The ways a call fails: refused before the device is touched, by an armed transfer fault, or in
execution. -/
inductive CallFailure (b : EngineBackend) (d : Device) (inputs : List Bytes) : EngineError → Prop
  | unusable (reason : String) (spoiled : b.failure = some reason) :
    CallFailure b d inputs (.unusable reason)
  | inputCount (miscounted : inputs.length ≠ b.graph.registry.inputCount) :
    CallFailure b d inputs (.inputCount b.graph.registry.inputCount inputs.length)
  | inputSize (tensor : String) (expected got : Nat) (checked : b.policy = .strict) :
    CallFailure b d inputs (.inputSize tensor expected got)
  | transfer (reason : String) (harmed : b.Armed d inputs) :
    CallFailure b d inputs (.transfer reason)
  | execution (reason : String) : CallFailure b d inputs (.execution reason)

/-- A call is refused, or the backend is usable and the inputs are as its policy wants them. -/
theorem screen_cases (hb : b.Serves (ins ++ outs))
    (hins : b.graph.registry.inputs = ins.map Slot.tensor) (d : Device) (inputs : List Bytes) :
    (∃ e, b.screen inputs = .error e ∧ b.CallFailure d inputs e) ∨
      (b.failure = none ∧ inputs.length = ins.length ∧
        (b.policy = .strict → inputs.map List.length = ins.map Slot.bytes) ∧
        b.screen inputs = .ok ((ins ++ outs).map Slot.shape, ins.map Slot.bytes)) := by
  cases hfailure : b.failure with
  | some reason =>
    refine Or.inl ⟨.unusable reason, ?_, .unusable reason hfailure⟩
    simp only [screen, ensureUsable, hfailure, error_bind]
  | none =>
    have hshapes := hb.resolvedShapes_eq hfailure
    have hcountEq : b.graph.registry.inputCount = ins.length := by
      rw [Registry.inputCount, hins, List.length_map]
    simp only [screen, ensureUsable, hfailure, hshapes, ok_bind, Transfer.validate]
    by_cases hcount : inputs.length = b.graph.registry.inputCount
    · rw [if_neg (not_not_intro hcount), hins, List.map_append]
      rcases Transfer.expectedSizes_cases b.policy (outs.map Slot.shape) (hcount.trans hcountEq) with
        ⟨hok, hlengths⟩ | ⟨hstrict, tensor, expected, got, herror⟩
      · exact Or.inr ⟨trivial, hcount.trans hcountEq, hlengths, by rw [hok]; rfl⟩
      · exact Or.inl ⟨_, by rw [herror]; rfl, .inputSize tensor expected got hstrict⟩
    · rw [if_pos hcount]
      exact Or.inl ⟨_, rfl, .inputCount hcount⟩

/-! ## Calls -/

/-- What a call gives and leaves. -/
structure Called (b : EngineBackend) (slots : List Slot) (d : Device) (inputs : List Bytes)
    (run : Outcome (EngineBackend × Device) InferenceOutput) : Prop where
  frame : run.2.1 = { b with
    context := { b.context with phase := run.2.1.context.phase }
    stats := run.2.1.stats
    failure := run.2.1.failure }
  serves : run.2.1.Serves slots
  keeps : Device.Keeps b.addresses d run.2.2
  cause : ∀ e, run.1 = .error e → b.CallFailure d inputs e

/-- A device failure leaves the context poisoned and the rest as it was, up to the record of it. -/
theorem afterFailure_of_isDeviceError {e : EngineError} (h : e.isDeviceError = true)
    (hbindings : b.context.bindings = []) (phase : Phase) :
    b.afterFailure { b.context with phase } e =
      { b with
        context := { b.context with phase := .poisoned }
        stats := b.stats.recordFailure
        failure := some e.message } := by
  simp only [afterFailure, h, if_true, poison, Context.poison, Context.clearBindings]
  by_cases hbound : phase = .bound
  · rw [if_pos hbound, hbindings]
  · rw [if_neg hbound, hbindings]

/-- A call keeps the backend serving the same slots and writes no region but its own. -/
theorem infer_spec (hb : b.Serves slots) (hr : b.Resides d) (hd : d.Orderly) (inputs : List Bytes)
    (elapsed : Duration) : Called b slots d inputs (b.infer d inputs elapsed) := by
  obtain ⟨ins, outs, rfl, hins, houts⟩ := hb.split
  -- a call that is refused changes nothing but a counter
  rcases screen_cases hb hins d inputs with
    ⟨e, hscreen, hcause⟩ | ⟨husable, hcount, -, hscreen⟩
  · simp only [infer, hscreen]
    refine ⟨rfl, ⟨hb.1, hb.2, hb.3, hb.4, hb.5, hb.6⟩, .refl _ _, ?_⟩
    rintro e' ⟨⟩
    exact hcause
  · obtain ⟨result, phase, d', hrun, hending, hkeeps⟩ :=
      execute_cases hb hr hd husable hins houts hcount hscreen
    cases hending with
    | done output =>
      simp only [infer, hscreen, hrun]
      refine ⟨rfl, ⟨hb.1, hb.2, hb.3, hb.4, hb.5, ?_⟩, hkeeps, ?_⟩
      · rw [husable]
        rfl
      · rintro e ⟨⟩
    | lost reason harmed =>
      have hdevice : (EngineError.transfer reason).isDeviceError = true := rfl
      simp only [infer, hscreen, hrun, afterFailure_of_isDeviceError hdevice hb.bindings_eq]
      refine ⟨rfl, ⟨hb.1, hb.2, hb.3, hb.4, hb.5, rfl⟩, hkeeps, ?_⟩
      rintro e ⟨⟩
      exact .transfer reason harmed
    | broken reason =>
      have hdevice : (EngineError.execution reason).isDeviceError = true := rfl
      simp only [infer, hscreen, hrun, afterFailure_of_isDeviceError hdevice hb.bindings_eq]
      refine ⟨rfl, ⟨hb.1, hb.2, hb.3, hb.4, hb.5, rfl⟩, hkeeps, ?_⟩
      rintro e ⟨⟩
      exact .execution reason

end GraphServe.EngineBackend
