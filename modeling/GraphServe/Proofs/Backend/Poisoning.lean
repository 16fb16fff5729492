import GraphServe.Proofs.Backend.Inference
import GraphServe.Proofs.Backend.Lifetime
import GraphServe.Proofs.Backend.Reconfiguration
import GraphServe.Proofs.Context.Bindings
import GraphServe.Proofs.Fleet.Basic

/-!
# The end of a backend's use

A backend is followed through any row of uses (`Reached`), each of which meets the device in
whatever state it is in by then: other users may have given regions back, armed faults or added
kernels. A call is answered, refused, or broken by a device error (`infer_verdict`), and exactly the
last makes the backend unusable and its context poisoned. From then on nothing is done any more,
neither to the backend nor to a device (`poisoned_for_good`).
-/

namespace GraphServe

/-! ## Errors before the device is touched -/

theorem Descriptor.not_isDeviceError_of_requiredBytes {t : Descriptor} {s : Shape}
    {e : EngineError} (h : t.requiredBytes s = .error e) : e.isDeviceError = false := by
  rcases cause_of_requiredBytes_eq_error h with hdtype | ⟨_, _, -, rfl⟩
  · rw [elementType] at hdtype
    split at hdtype
    · cases hdtype
    · cases hdtype
      rfl
  · rfl

theorem Context.not_isDeviceError_of_requireShapes {tensors : List Descriptor}
    {slots : List (Option Shape)} {e : EngineError}
    (h : requireShapes tensors slots = .error e) : e.isDeviceError = false := by
  induction tensors generalizing slots with
  | nil => cases h
  | cons t rest ih =>
    cases slots with
    | nil => cases h
    | cons slot slots =>
      cases slot with
      | none =>
        cases h
        rfl
      | some s =>
        rcases bind_eq_error_iff.1 h with hrest | ⟨others, -, h⟩
        · exact ih hrest
        · cases h

theorem Transfer.not_isDeviceError_of_expectedSizes {policy : SizePolicy}
    {tensors : List Descriptor} {shapes : List Shape} {inputs : List Bytes} {e : EngineError}
    (h : expectedSizes policy tensors shapes inputs = .error e) : e.isDeviceError = false := by
  induction tensors generalizing shapes inputs with
  | nil => cases h
  | cons t tensors ih =>
    cases shapes with
    | nil => cases h
    | cons s shapes =>
      cases inputs with
      | nil => cases h
      | cons data inputs =>
        rcases bind_eq_error_iff.1 h with hbytes | ⟨bytes, -, h⟩
        · exact Descriptor.not_isDeviceError_of_requiredBytes hbytes
        · dsimp only at h
          split at h
          · cases h
            rfl
          · rcases bind_eq_error_iff.1 h with hrest | ⟨others, -, h⟩
            · exact ih hrest
            · cases h

namespace EngineBackend

variable {b : EngineBackend} {slots : List Slot} {d : Device}

/-- What refuses a call before the device is touched is no device error. -/
theorem not_isDeviceError_of_screen {inputs : List Bytes} {e : EngineError}
    (h : b.screen inputs = .error e) : e.isDeviceError = false := by
  rcases bind_eq_error_iff.1 h with husable | ⟨⟨⟩, -, h⟩
  · rw [ensureUsable] at husable
    split at husable
    · cases husable
      rfl
    · cases husable
  · rcases bind_eq_error_iff.1 h with hshapes | ⟨shapes, -, h⟩
    · rcases bind_eq_error_iff.1 hshapes with hphase | ⟨⟨⟩, -, hshapes⟩
      · rw [Context.expect] at hphase
        split at hphase
        · cases hphase
        · cases hphase
          rfl
      · exact Context.not_isDeviceError_of_requireShapes hshapes
    · rcases bind_eq_error_iff.1 h with hsizes | ⟨expected, -, h⟩
      · rw [Transfer.validate] at hsizes
        split at hsizes
        · cases hsizes
          rfl
        · exact Transfer.not_isDeviceError_of_expectedSizes hsizes
      · cases h

theorem usable_of_screen {inputs : List Bytes} {passed : List Shape × List Nat}
    (h : b.screen inputs = .ok passed) : b.failure = none := by
  obtain ⟨⟨⟩, husable, -⟩ := bind_eq_ok_iff.1 h
  rw [ensureUsable] at husable
  split at husable
  · cases husable
  · assumption

/-- A call that passes its checks is made at the shapes of the slots. -/
theorem shapes_of_screen (hb : b.Serves slots) {inputs : List Bytes}
    {passed : List Shape × List Nat} (h : b.screen inputs = .ok passed) :
    passed.1 = slots.map Slot.shape := by
  have hshapes := hb.resolvedShapes_eq (usable_of_screen h)
  obtain ⟨⟨⟩, -, h⟩ := bind_eq_ok_iff.1 h
  rw [hshapes, ok_bind] at h
  obtain ⟨expected, -, h⟩ := bind_eq_ok_iff.1 h
  cases h
  rfl

/-! ## Through any device -/

/-- A bound context is ready after a launch, or poisoned by a device error. -/
theorem enqueue_bound_cases {c : Context} (hphase : c.phase = .bound) (d : Device) :
    (c.enqueue d).2.1 = { c with phase := .ready, bindings := [] } ∨
      (c.enqueue d).2.1 = c.poison ∧
        ∃ e, (c.enqueue d).1 = .error e ∧ e.isDeviceError = true := by
  rw [Context.enqueue, Context.expect_eq_ok (by simp [hphase])]
  dsimp only
  split
  · exact Or.inl rfl
  · next e _ =>
    by_cases hdevice : e.isDeviceError = true
    · rw [if_pos hdevice]
      exact Or.inr ⟨rfl, e, rfl, hdevice⟩
    · rw [if_neg hdevice]
      exact Or.inl rfl

/-- The way through the device leaves the context as it was, or poisoned by a device error. -/
theorem execute_context_cases (hb : b.Serves slots) (husable : b.failure = none) (d : Device)
    (inputs : List Bytes) (expected : List Nat) (shapes : List Shape) :
    (b.execute d inputs expected shapes).2.1 = b.context ∨
      (b.execute d inputs expected shapes).2.1 = { b.context with phase := .poisoned } ∧
        ∃ e, (b.execute d inputs expected shapes).1 = .error e ∧ e.isDeviceError = true := by
  rw [execute]
  rcases Transfer.upload d b.graph.registry b.buffers inputs expected with ⟨e | _, d₁⟩
  · exact Or.inl rfl
  · simp only [bind_eq hb husable]
    have hcases := enqueue_bound_cases (c := { b.context with
      phase := .bound, bindings := slots.map Slot.binding }) rfl d₁
    -- ready without bindings is what the context was, as the backend is usable
    have hready : { b.context with phase := .ready, bindings := [] } = b.context := by
      rw [← hb.phase_of_usable husable, ← hb.bindings_eq]
    rcases hlaunch : Context.enqueue { b.context with
        phase := .bound, bindings := slots.map Slot.binding } d₁ with ⟨e | _, context, d₂⟩
    · rw [hlaunch] at hcases
      rcases hcases with rfl | ⟨rfl, e', he', hdevice⟩
      · exact Or.inl hready
      · cases he'
        refine Or.inr ⟨?_, e, rfl, hdevice⟩
        simp only [Context.poison, hb.bindings_eq]
    · rw [hlaunch] at hcases
      rcases hcases with rfl | ⟨-, e, he, -⟩
      · exact Or.inl hready
      · cases he

/-- A launch of a known kernel fails by a device error. -/
theorem isDeviceError_of_enqueue {c : Context} (hphase : c.phase = .bound)
    (hkernel : d.hasKernel c.graph.kernel = true) {e : EngineError}
    (h : (c.enqueue d).1 = .error e) : e.isDeviceError = true := by
  rw [(Context.enqueue_launches hphase d).1] at h
  rcases hlaunch : d.launch c.stream c.graph.kernel c.graph.payload c.bindings with ⟨e' | _, d'⟩
  · rw [hlaunch] at h
    cases h
    rcases Device.launch_error_cases hlaunch with hunknown | ⟨reason, rfl⟩
    · rw [hkernel] at hunknown
      cases hunknown
    · rfl
  · rw [hlaunch] at h
    simp only [Except.bind, Device.synchronize] at h
    split at h
    · cases h
    · cases h
      rfl

/-- If the device knows the kernel, then only device errors strike on the way through it. -/
theorem isDeviceError_of_execute (hb : b.Serves slots) (husable : b.failure = none)
    (hkernel : d.hasKernel b.graph.kernel = true) {inputs : List Bytes} {expected : List Nat}
    {e : EngineError}
    (h : (b.execute d inputs expected (slots.map Slot.shape)).1 = .error e) :
    e.isDeviceError = true := by
  obtain ⟨ins, outs, rfl, hins, houts⟩ := hb.split
  rw [execute] at h
  rcases hup : Transfer.upload d b.graph.registry b.buffers inputs expected with ⟨e' | _, d₁⟩
  · rw [hup] at h
    cases h
    obtain ⟨reason, rfl⟩ := Transfer.exists_of_uploadEach_eq_error hup
    rfl
  · simp only [hup, bind_eq hb husable] at h
    rcases hlaunch : Context.enqueue { b.context with
        phase := .bound, bindings := (ins ++ outs).map Slot.binding } d₁ with ⟨e' | _, context, d₂⟩
    · simp only [hlaunch] at h
      cases h
      have hknown : d₁.hasKernel b.graph.kernel = true := by
        have hkept := (Transfer.keeps_uploadEach d (b.buffers.take b.graph.registry.inputCount) inputs
          expected).kernels_eq
        rw [Transfer.upload] at hup
        rw [hup] at hkept
        rw [Device.hasKernel, hkept]
        exact hkernel
      have hrefused : (Context.enqueue { b.context with
          phase := .bound, bindings := (ins ++ outs).map Slot.binding } d₁).1 = .error e := by
        rw [hlaunch]
      exact isDeviceError_of_enqueue (c := { b.context with
        phase := .bound, bindings := (ins ++ outs).map Slot.binding }) rfl hknown hrefused
    · simp only [hlaunch, download_slots hb hins houts] at h
      rcases hdown : Transfer.downloadEach d₂ (outs.map Slot.tensor) (outs.map Slot.buffer)
        (outs.map Slot.shape) with ⟨e' | output, d₃⟩
      · rw [hdown] at h
        cases h
        obtain ⟨reason, rfl⟩ := Transfer.exists_of_downloadEach_eq_error hdown
        rfl
      · rw [hdown] at h
        cases h

/-! ## Calls -/

/-- How a call of a backend ends on any device: it is answered, refused, or broken by a device
error. Only the last touches more of the backend than its counters. -/
inductive Verdict (b : EngineBackend) : Outcome (EngineBackend × Device) InferenceOutput → Prop
  | answered (output : InferenceOutput) (stats : Stats) (d : Device) :
    Verdict b (.ok output, { b with stats }, d)
  | refused (e : EngineError) (spared : e.isDeviceError = false) (d : Device) :
    Verdict b (.error e, { b with stats := b.stats.recordFailure }, d)
  | broken (e : EngineError) (spoiled : e.isDeviceError = true) (d : Device) :
    Verdict b (.error e, { b with
      context := { b.context with phase := .poisoned }
      stats := b.stats.recordFailure
      failure := some e.message }, d)

/-- A call is answered, refused or broken, whatever the device is like. -/
theorem infer_verdict (hb : b.Serves slots) (d : Device) (inputs : List Bytes)
    (elapsed : Duration) : b.Verdict (b.infer d inputs elapsed) := by
  rw [infer]
  cases hscreen : b.screen inputs with
  | error e => exact .refused e (not_isDeviceError_of_screen hscreen) d
  | ok passed =>
    rcases passed with ⟨shapes, expected⟩
    have husable := usable_of_screen hscreen
    have hcases := execute_context_cases hb husable d inputs expected shapes
    dsimp only
    rcases hrun : b.execute d inputs expected shapes with ⟨e | output, context, d'⟩
    · rw [hrun] at hcases
      cases hdevice : e.isDeviceError with
      | true =>
        -- the phase does not matter, as the backend poisons the context once more
        have hform : ∃ phase, context = { b.context with phase } := by
          rcases hcases with rfl | ⟨rfl, -⟩
          · exact ⟨b.context.phase, rfl⟩
          · exact ⟨.poisoned, rfl⟩
        obtain ⟨phase, rfl⟩ := hform
        simp only [afterFailure_of_isDeviceError hdevice hb.bindings_eq]
        exact .broken e hdevice d'
      | false =>
        rcases hcases with rfl | ⟨-, e', he', hdevice'⟩
        · have hfree : b.context.clearBindings = b.context := by
            rw [Context.clearBindings, if_neg (by simp [hb.phase_of_usable husable])]
          simp only [afterFailure, hdevice, Bool.false_eq_true, if_false, hfree]
          exact .refused e hdevice d'
        · cases he'
          rw [hdevice] at hdevice'
          cases hdevice'
    · rw [hrun] at hcases
      rcases hcases with rfl | ⟨-, e, he, -⟩
      · exact .answered output _ d'
      · cases he

namespace Verdict

variable {run : Outcome (EngineBackend × Device) InferenceOutput}

/-- Whatever the verdict, the backend serves what it served. -/
theorem serves (h : b.Verdict run) (hb : b.Serves slots) : run.2.1.Serves slots := by
  cases h with
  | answered => exact ⟨hb.1, hb.2, hb.3, hb.4, hb.5, hb.6⟩
  | refused => exact ⟨hb.1, hb.2, hb.3, hb.4, hb.5, hb.6⟩
  | broken => exact ⟨hb.1, hb.2, hb.3, hb.4, hb.5, rfl⟩

/-- A call makes a backend unusable exactly by a device error. -/
theorem isUsable_eq_false_iff (h : b.Verdict run) :
    run.2.1.isUsable = false ↔
      b.isUsable = false ∨ ∃ e, run.1 = .error e ∧ e.isDeviceError = true := by
  cases h with
  | answered output stats d =>
    constructor
    · exact Or.inl
    · rintro (hunusable | ⟨e, he, -⟩)
      · exact hunusable
      · cases he
  | refused e spared d =>
    constructor
    · exact Or.inl
    · rintro (hunusable | ⟨e', he', hdevice⟩)
      · exact hunusable
      · cases he'
        rw [spared] at hdevice
        cases hdevice
  | broken e spoiled d =>
    constructor
    · intro _
      exact Or.inr ⟨e, rfl, spoiled⟩
    · intro _
      rfl

/-- A device error is recorded, and of the backend nothing else is lost. -/
theorem of_isDeviceError (h : b.Verdict run) {e : EngineError} (he : run.1 = .error e)
    (hdevice : e.isDeviceError = true) : run.2.1.failure = some e.message ∧
      run.2.1.context.shapes = b.context.shapes ∧ run.2.1.buffers = b.buffers ∧
      run.2.1.modelInfo = b.modelInfo := by
  cases h with
  | answered => cases he
  | refused e' spared d =>
    cases he
    rw [spared] at hdevice
    cases hdevice
  | broken e' spoiled d =>
    cases he
    exact ⟨rfl, rfl, rfl, rfl⟩

end Verdict

/-! ## After a device error -/

/-- An unusable backend refuses every call before it touches a device. -/
theorem infer_of_failure {reason : String} (h : b.failure = some reason) (d : Device)
    (inputs : List Bytes) (elapsed : Duration) :
    b.infer d inputs elapsed =
      (.error (.unusable reason), { b with stats := b.stats.recordFailure }, d) := by
  have hscreen : b.screen inputs = .error (.unusable reason) := by
    rw [screen, ensureUsable, h]
    rfl
  rw [infer, hscreen]

/-- An unusable backend refuses new sizes. -/
theorem reconfigure_of_failure {reason : String} (h : b.failure = some reason) (d : Device)
    (sizes : List (List Int64)) : b.reconfigure d sizes = (.error (.unusable reason), b, d) := by
  rw [reconfigure, ensureUsable, h]

/-! ## Rows of uses -/

/-- One use of a backend, which meets the device in whatever state it is in by then. -/
inductive Use where
  | infer (d : Device) (inputs : List Bytes) (elapsed : Duration)
  | reconfigure (d : Device) (sizes : List (List Int64))

/-- The backend after one use. -/
def use (b : EngineBackend) : Use → EngineBackend
  | .infer d inputs elapsed => (b.infer d inputs elapsed).2.1
  | .reconfigure d sizes => (b.reconfigure d sizes).2.1

/-- The backend after a row of uses. -/
def useEach (b : EngineBackend) (uses : List Use) : EngineBackend := uses.foldl use b

/-- A backend was built, and then used in some way. -/
inductive Reached : EngineBackend → Prop
  | built {files : Files} {config : BackendConfig} {d d' : Device} {b : EngineBackend}
    (h : build files config d = (.ok b, d')) : Reached b
  | used {b : EngineBackend} (h : Reached b) (u : Use) : Reached (b.use u)

/-- A backend that was built and used serves slots. -/
theorem Reached.exists_serves (h : b.Reached) : ∃ slots, b.Serves slots := by
  induction h with
  | @built files config d d' b h =>
    have hcases := build_cases files config d
    rw [h] at hcases
    cases hcases with
    | done slots serves => exact ⟨slots, serves⟩
  | @used b _ u ih =>
    obtain ⟨slots, hb⟩ := ih
    cases u with
    | infer d inputs elapsed => exact ⟨slots, (infer_verdict hb d inputs elapsed).serves hb⟩
    | reconfigure d sizes => exact (reconfigure_cases hb d sizes).exists_serves hb

/-- One use of an unusable backend counts a call at most. -/
theorem use_of_failure {reason : String} (h : b.failure = some reason) (u : Use) :
    ∃ stats, b.use u = { b with stats } := by
  cases u with
  | infer d inputs elapsed =>
    rw [use, infer_of_failure h]
    exact ⟨_, rfl⟩
  | reconfigure d sizes =>
    rw [use, reconfigure_of_failure h]
    exact ⟨b.stats, rfl⟩

/-- No row of uses changes more of an unusable backend than its counters. -/
theorem useEach_of_failure {reason : String} (h : b.failure = some reason) (uses : List Use) :
    ∃ stats, b.useEach uses = { b with stats } := by
  -- the reason stays what it is, which is what lets the next use be refused
  induction uses generalizing b with
  | nil => exact ⟨b.stats, rfl⟩
  | cons u rest ih =>
    obtain ⟨stats, hfirst⟩ := use_of_failure h u
    obtain ⟨stats', hrest⟩ := ih (b := b.use u) (by rw [hfirst]; exact h)
    refine ⟨stats', ?_⟩
    rw [useEach, List.foldl_cons, ← useEach, hrest, hfirst]

/-- A backend is unusable exactly if its context is poisoned. A call makes it so exactly by a device
error, and past the checks it can fail in no other way on a device that knows the kernel. After a
device error every use fails with the text of that error, leaves every device as it is, and changes
nothing of the backend but its counters. -/
theorem poisoned_for_good (hb : b.Reached) (d : Device) (inputs : List Bytes)
    (elapsed : Duration) :
    let run := b.infer d inputs elapsed
    (b.isUsable = false ↔ b.context.phase = .poisoned) ∧ b.context.bindings = [] ∧
    (run.2.1.isUsable = false ↔
      b.isUsable = false ∨ ∃ e, run.1 = .error e ∧ e.isDeviceError = true) ∧
    (∀ passed, b.screen inputs = .ok passed → d.hasKernel b.graph.kernel = true →
      ∀ e, run.1 = .error e → e.isDeviceError = true) ∧
    ∀ e, run.1 = .error e → e.isDeviceError = true → ∀ later : List Use,
      let b' := run.2.1.useEach later
      b'.isUsable = false ∧ b'.context.phase = .poisoned ∧ b'.context.shapes = b.context.shapes ∧
      b'.buffers = b.buffers ∧ b'.modelInfo = b.modelInfo ∧
      (∀ d' inputs' elapsed', b'.infer d' inputs' elapsed' =
        (.error (.unusable e.message), { b' with stats := b'.stats.recordFailure }, d')) ∧
      ∀ d' sizes, b'.reconfigure d' sizes = (.error (.unusable e.message), b', d') := by
  intro run
  obtain ⟨slots, hserves⟩ := hb.exists_serves
  have hverdict : b.Verdict run := infer_verdict hserves d inputs elapsed
  refine ⟨?_, hserves.bindings_eq, hverdict.isUsable_eq_false_iff, ?_, ?_⟩
  · rw [hserves.phase_eq, isUsable]
    cases b.failure with
    | none => simp
    | some reason => simp
  · intro passed hscreen hkernel e he
    have husable := usable_of_screen hscreen
    have hshapes := shapes_of_screen hserves hscreen
    simp only [run, infer, hscreen, hshapes] at he
    rcases hrun : b.execute d inputs passed.2 (slots.map Slot.shape) with ⟨e' | output, context, d'⟩
    · simp only [hrun] at he
      cases he
      exact isDeviceError_of_execute hserves husable hkernel (by rw [hrun])
    · simp only [hrun] at he
      cases he
  · intro e he hdevice later
    obtain ⟨hfailure, hshapes, hbuffers, hinfo⟩ := hverdict.of_isDeviceError he hdevice
    have hphase := (hverdict.serves hserves).phase_eq
    obtain ⟨stats, hlater⟩ := useEach_of_failure hfailure later
    rw [hfailure] at hphase
    intro b'
    have hb' : b' = { run.2.1 with stats } := hlater
    have hreason : b'.failure = some e.message := by rw [hb', hfailure]
    refine ⟨?_, ?_, ?_, ?_, ?_, infer_of_failure hreason, reconfigure_of_failure hreason⟩
    · rw [isUsable, hreason]
      rfl
    · rw [hb']
      exact hphase
    · rw [hb']
      exact hshapes
    · rw [hb']
      exact hbuffers
    · rw [hb']
      exact hinfo

/-- A call that meets an armed launch fault is the last that does anything. -/
theorem poisoned_for_good_copy :
    ∃ b d,
      build Fleet.copyFiles Fleet.copyConfig (Device.new .builtin none (.upTo 4096)) = (.ok b, d) ∧
      let run := b.infer d.armLaunchFault [[1, 2, 3, 4]] ⟨0⟩
      run.1 = .error (.execution "kernel 'identity': injected fault") ∧
      ∀ later d' inputs elapsed, ((run.2.1.useEach later).infer d' inputs elapsed).1 =
        .error (.unusable "inference execution failed: kernel 'identity': injected fault") := by
  let start := build Fleet.copyFiles Fleet.copyConfig (Device.new .builtin none (.upTo 4096))
  have hok : start.1.isOk = true := by decide +kernel
  have hfault : (start.1.bind fun b =>
      (b.infer start.2.armLaunchFault [[1, 2, 3, 4]] ⟨0⟩).1) =
        .error (.execution "kernel 'identity': injected fault") := by decide +kernel
  rcases hbuild : start with ⟨e | b, d⟩
  · rw [hbuild] at hok
    cases hok
  · rw [hbuild] at hfault
    have hgood := poisoned_for_good (.built hbuild) d.armLaunchFault [[1, 2, 3, 4]] ⟨0⟩
    refine ⟨b, d, hbuild, hfault, ?_⟩
    intro later d' inputs elapsed
    have hlater := (hgood.2.2.2.2 _ hfault rfl later).2.2.2.2.2.1 d' inputs elapsed
    rw [hlater]
    rfl

end EngineBackend

end GraphServe
