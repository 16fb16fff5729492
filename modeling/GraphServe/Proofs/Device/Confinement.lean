import GraphServe.Proofs.Device.Launch

/-!
# What a launch touches

A launch that something stands in the way of (`Device.Hindered`) fails without running its kernel
and changes no region. Any other launch shows the kernel the start of each bound region, inputs and
outputs each in binding order (`Device.Shows`), and writes back to the outputs what the kernel left
in their views, whether it succeeded or not; nothing else on the device changes
(`Device.Confined`). `Device.launch_confined` puts the two together for every state of a device.
-/

namespace GraphServe.Device

variable {d : Device} {bindings : List Binding}

/-- The bindings of the inputs, in binding order. -/
abbrev inputBindings (bindings : List Binding) : List Binding :=
  bindings.filter (·.direction == .input)

/-! ## Checked bindings -/

/-- The bound bytes of a binding lie in a live region. -/
def Covers (d : Device) (b : Binding) : Prop :=
  ∃ r, d.region? b.address = some r ∧ b.bytes ≤ r.data.length

/-- Bindings that pass their check have addresses of their own, which were not bound before, and
live regions that are large enough. -/
theorem of_checkBindings_eq_ok {seen : List Address}
    (h : d.checkBindings seen bindings = .ok ()) :
    (bindings.map Binding.address).Nodup ∧ (∀ b ∈ bindings, b.address ∉ seen) ∧
      ∀ b ∈ bindings, d.Covers b := by
  induction bindings generalizing seen with
  | nil => simp
  | cons b rest ih =>
    rw [checkBindings] at h
    split at h
    · cases h
    next hunseen =>
    split at h
    · cases h
    next r hr =>
    split at h
    · cases h
    next hfits =>
    obtain ⟨hdistinct, hothers, hcovers⟩ := ih h
    have hown : b.address ∉ rest.map Binding.address := by
      rw [List.mem_map]
      rintro ⟨b', hb', hsame⟩
      exact hothers b' hb' (hsame ▸ List.mem_cons_self)
    refine ⟨List.nodup_cons.2 ⟨hown, hdistinct⟩, ?_, ?_⟩
    · exact List.forall_mem_cons.2 ⟨hunseen, fun b' hb' hmem =>
        hothers b' hb' (List.mem_cons_of_mem _ hmem)⟩
    · exact List.forall_mem_cons.2 ⟨⟨r, hr, Nat.le_of_not_lt hfits⟩, hcovers⟩

theorem checkBindings_eq_ok_iff :
    d.checkBindings [] bindings = .ok () ↔
      (bindings.map Binding.address).Nodup ∧ ∀ b ∈ bindings, d.Covers b := by
  constructor
  · intro h
    obtain ⟨hdistinct, -, hcovers⟩ := of_checkBindings_eq_ok h
    exact ⟨hdistinct, hcovers⟩
  · rintro ⟨hdistinct, hcovers⟩
    exact checkBindings_eq_ok hdistinct (fun _ _ => List.not_mem_nil) hcovers

/-- The check looks at the regions only. -/
theorem checkBindings_withKernels (others : KernelTable) (seen : List Address) :
    checkBindings { d with kernels := others } seen bindings = d.checkBindings seen bindings := by
  induction bindings generalizing seen with
  | nil => rfl
  | cons b rest ih =>
    have hregion : region? { d with kernels := others } b.address = d.region? b.address := rfl
    simp only [checkBindings, hregion, ih]

/-! ## Launches that do not run -/

/-- Something stands in the way of a launch: an armed fault, a kernel or a stream that the device
does not know, two bindings of one address, or a binding of an address that is not live or of more
bytes than its region has. -/
inductive Hindered (d : Device) (stream : Stream) (kernel : String) (bindings : List Binding) : Prop
  | fault (harmed : d.launchFault = true)
  | kernel (hmissing : d.hasKernel kernel = false)
  | stream (hunknown : stream ∉ d.streams)
  | shared (hshared : ¬ (bindings.map Binding.address).Nodup)
  | dead (b : Binding) (hb : b ∈ bindings) (hdead : d.region? b.address = none)
  | exceeding (b : Binding) (hb : b ∈ bindings) (r : Region) (hr : d.region? b.address = some r)
    (hexceeds : r.data.length < b.bytes)

/-- A binding whose bytes lie in no live region hinders a launch. -/
theorem hindered_of_not_covers {stream : Stream} {kernel : String} {b : Binding}
    (hb : b ∈ bindings) (h : ¬ d.Covers b) : d.Hindered stream kernel bindings := by
  cases hr : d.region? b.address with
  | none => exact .dead b hb hr
  | some r => exact .exceeding b hb r hr (Nat.lt_of_not_le fun hle => h ⟨r, hr, hle⟩)

theorem Hindered.not_checked {stream : Stream} {kernel : String}
    (h : d.Hindered stream kernel bindings) (hfault : d.launchFault = false)
    (hkernel : d.hasKernel kernel = true) (hstream : stream ∈ d.streams) :
    d.checkBindings [] bindings ≠ .ok () := by
  rw [Ne, checkBindings_eq_ok_iff]
  rintro ⟨hdistinct, hcovers⟩
  cases h with
  | fault harmed => exact Bool.false_ne_true (hfault.symm.trans harmed)
  | kernel hmissing => exact Bool.false_ne_true (hmissing.symm.trans hkernel)
  | stream hunknown => exact hunknown hstream
  | shared hshared => exact hshared hdistinct
  | dead b hb hdead =>
    obtain ⟨r, hr, -⟩ := hcovers b hb
    rw [hdead] at hr
    cases hr
  | exceeding b hb r hr hexceeds =>
    obtain ⟨r', hr', hfits⟩ := hcovers b hb
    rw [hr] at hr'
    cases hr'
    omega

/-- A launch that is hindered fails in one way, whatever its kernel and the others would do, and
uses up a fault at most. -/
theorem launch_of_hindered {stream : Stream} {kernel : String}
    (h : d.Hindered stream kernel bindings) (payload : Bytes) :
    ∃ e, (e = .kernelNotFound kernel ∨ ∃ reason, e = .execution reason) ∧
      ∀ others : KernelTable, others.contains kernel = d.kernels.contains kernel →
        launch { d with kernels := others } stream kernel payload bindings =
          (.error e, { d with kernels := others, launchFault := false }) := by
  by_cases hfault : d.launchFault = true
  · refine ⟨.execution s!"kernel '{kernel}': injected fault", Or.inr ⟨_, rfl⟩, fun others _ => ?_⟩
    simp only [launch, hfault, if_true]
  rw [Bool.not_eq_true] at hfault
  -- with no fault armed the device stays as it is
  have hkept (others : KernelTable) : { d with kernels := others, launchFault := false } =
      { d with kernels := others } := by rw [← hfault]
  cases hkernel : d.hasKernel kernel with
  | false =>
    refine ⟨.kernelNotFound kernel, Or.inl rfl, fun others hothers => ?_⟩
    have hunknown : (others.get? kernel).isSome = false := hothers.trans hkernel
    have hnone : others.get? kernel = none :=
      Option.isNone_iff_eq_none.1 (Option.isSome_eq_false_iff.1 hunknown)
    simp only [launch, hfault, Bool.false_eq_true, if_false, hnone, hkept]
  | true =>
    have hbody (others : KernelTable) (hothers : others.contains kernel = d.kernels.contains kernel) :
        ∃ body, others.get? kernel = some body :=
      Option.isSome_iff_exists.1 (hothers.trans hkernel)
    by_cases hstream : stream ∈ d.streams
    · cases hchecked : d.checkBindings [] bindings with
      | ok u => exact (h.not_checked hfault hkernel hstream hchecked).elim
      | error e =>
        refine ⟨e, Or.inr (exists_of_checkBindings_eq_error hchecked), fun others hothers => ?_⟩
        obtain ⟨body, hbody⟩ := hbody others hothers
        simp only [launch, hfault, Bool.false_eq_true, if_false, hbody, hstream, not_true_eq_false,
          checkBindings_withKernels, hchecked, hkept]
    · refine ⟨.execution s!"launch on unknown stream {stream.handle}", Or.inr ⟨_, rfl⟩,
        fun others hothers => ?_⟩
      obtain ⟨body, hbody⟩ := hbody others hothers
      simp only [launch, hfault, Bool.false_eq_true, if_false, hbody, hstream, not_false_eq_true,
        if_true, hkept]

/-! ## What the kernel sees -/

/-- A view shows a binding: its name, type and shape, and as many bytes from the start of its region
as are bound. -/
structure Shows (d : Device) (b : Binding) (view : TensorView) : Prop where
  name_eq : view.name = b.name
  dtype_eq : view.dtype = b.dtype
  shape_eq : view.shape = b.shape
  data_eq : ∃ r, d.region? b.address = some r ∧ b.bytes ≤ r.data.length ∧
    view.data = r.data.take b.bytes

theorem Shows.length_eq {b : Binding} {view : TensorView} (h : d.Shows b view) :
    view.data.length = b.bytes := by
  obtain ⟨r, -, hfits, hdata⟩ := h.data_eq
  rw [hdata, List.length_take, Nat.min_eq_left hfits]

/-- Bindings that are covered are shown, each by its own view. -/
theorem forall₂_view? (hcovers : ∀ b ∈ bindings, d.Covers b) :
    List.Forall₂ d.Shows bindings (bindings.filterMap d.view?) := by
  induction bindings with
  | nil => exact .nil
  | cons b rest ih =>
    obtain ⟨⟨r, hr, hfits⟩, hrest⟩ := List.forall_mem_cons.1 hcovers
    have hview : d.view? b = some ⟨b.name, b.dtype, b.shape, r.data.take b.bytes⟩ := by
      rw [view?, hr, Option.map_some]
    rw [List.filterMap_cons_some hview]
    exact .cons ⟨rfl, rfl, rfl, r, hr, hfits, rfl⟩ (ih hrest)

/-! ## What the kernel leaves -/

/-- A device on which an output holds what a kernel left in its view, and behind it what its region
held there. -/
def Holds (d after : Device) (b : Binding) (left : Bytes) : Prop :=
  left.length = b.bytes ∧ ∃ r, d.region? b.address = some r ∧
    after.region? b.address = some { r with data := left ++ r.data.drop b.bytes }

theorem Holds.begins {after : Device} {b : Binding} {left : Bytes} (h : d.Holds after b left) :
    after.Begins b.address left := by
  obtain ⟨-, r, -, hafter⟩ := h
  exact ⟨_, hafter, List.prefix_append _ _⟩

/-- What a kernel leaves in a view is as long as the view, and so fits the region. -/
theorem forall₂_writtenOutputs_length {views : List TensorView}
    (h : List.Forall₂ d.Shows bindings views) (written : List Bytes) :
    List.Forall₂ (fun b left => left.length = b.bytes ∧ d.Covers b) bindings
      (writtenOutputs written views) := by
  induction h generalizing written with
  | nil => exact .nil
  | @cons b view rest views hshows _ ih =>
    have hcovers : d.Covers b := by
      obtain ⟨r, hr, hfits, -⟩ := hshows.data_eq
      exact ⟨r, hr, hfits⟩
    cases written with
    | nil => exact .cons ⟨hshows.length_eq, hcovers⟩ (ih [])
    | cons bytes written =>
      exact .cons ⟨(length_overlay bytes view.data).trans hshows.length_eq, hcovers⟩ (ih written)

/-- Writing the outputs gives each region its own bytes. As no two are at one address, no write
disturbs another. -/
theorem forall₂_writeOutputs {outputs : List Bytes}
    (hdistinct : (bindings.map Binding.address).Nodup)
    (h : List.Forall₂ (fun b left => left.length = b.bytes ∧ d.Covers b) bindings outputs) :
    List.Forall₂ (Holds d (d.writeOutputs bindings outputs)) bindings outputs := by
  induction bindings generalizing d outputs with
  | nil =>
    cases h
    exact .nil
  | cons b rest ih =>
    obtain ⟨left, outputs, ⟨hlength, r, hr, hfits⟩, hrest, rfl⟩ := List.forall₂_cons_left_iff.1 h
    obtain ⟨hown, hdistinct⟩ := List.nodup_cons.1 hdistinct
    have hkeeps := keeps_updateRegion d b.address (length_overlay left)
    have helsewhere : ∀ b' ∈ rest,
        (d.updateRegion b.address (overlay left)).region? b'.address = d.region? b'.address := by
      intro b' hb'
      refine hkeeps.elsewhere _ fun hsame => hown ?_
      exact List.mem_singleton.1 hsame ▸ List.mem_map_of_mem hb'
    refine .cons ⟨hlength, r, hr, ?_⟩ ?_
    · -- the first output is written first, and the others lie elsewhere
      rw [writeOutputs, (keeps_writeOutputs _ rest outputs).elsewhere _ hown, region?_updateRegion,
        if_pos rfl, hr, Option.map_some, overlay_of_fits (by omega), hlength]
    · have hrest' := (List.forall₂_and_left _ _).2 ⟨helsewhere, hrest⟩
      have hleft := ih hdistinct (d := d.updateRegion b.address (overlay left))
        (hrest'.imp fun b' left' ⟨hsame, hlength', r', hr', hfits'⟩ =>
          ⟨hlength', r', hsame.trans hr', hfits'⟩)
      refine ((List.forall₂_and_left _ _).2 ⟨helsewhere, hleft⟩).imp ?_
      rintro b' left' ⟨hsame, hlength', r', hr', hafter⟩
      exact ⟨hlength', r', hsame.symm.trans hr', hafter⟩

/-- How a device compares with the one before a launch that ran its kernel: no region moved, came,
went or changed its length, those that are not outputs hold what they held, and each output holds
what the kernel left in its view and is else as it was. The kernel itself may have armed a transfer
fault; nothing else, the bytes in use among it, has changed. -/
structure Confined (d after : Device) (outputs : List Binding) (left : List Bytes) (arms : Bool) :
    Prop where
  frame : after = { d with regions := after.regions, transferFault := d.transferFault || arms }
  inUse_eq : after.inUse = d.inUse
  extents_eq : after.extents = d.extents
  elsewhere : ∀ a, a ∉ outputs.map Binding.address → after.region? a = d.region? a
  written : List.Forall₂ (Holds d after) outputs left

theorem confined_runKernel {views : List TensorView}
    (hdistinct : (bindings.map Binding.address).Nodup)
    (hviews : List.Forall₂ d.Shows (outputBindings bindings) views) (run : KernelRun) :
    d.Confined
      (let after := d.writeOutputs (outputBindings bindings) (writtenOutputs run.written views)
        if run.armsTransferFault then after.armTransferFault else after)
      (outputBindings bindings) (writtenOutputs run.written views) run.armsTransferFault := by
  have hkeeps := keeps_writeOutputs d (outputBindings bindings) (writtenOutputs run.written views)
  have hfaults := faults_writeOutputs d (outputBindings bindings) (writtenOutputs run.written views)
  have hwritten := forall₂_writeOutputs
    (hdistinct.sublist (List.filter_sublist.map Binding.address))
    (forall₂_writtenOutputs_length hviews run.written)
  have hframe := hkeeps.frame
  rw [hfaults.1, hfaults.2] at hframe
  cases harms : run.armsTransferFault with
  | false =>
    refine ⟨?_, hkeeps.inUse_eq, hkeeps.extents_eq, hkeeps.elsewhere, hwritten⟩
    rw [Bool.or_false]
    exact hframe
  | true =>
    refine ⟨?_, hkeeps.inUse_eq, hkeeps.extents_eq, hkeeps.elsewhere, hwritten⟩
    rw [Bool.or_true]
    exact congrArg armTransferFault hframe

/-! ## Every launch -/

/-- Whatever the device, the kernel and the bindings: either something stands in the way, and the
launch fails in the same way whatever the kernels would do, with no region changed; or the kernel
sees the first bytes of the inputs and of the outputs in binding order, its failures surface as
failures of execution, and its writes are confined to what it was shown of the outputs. -/
theorem launch_confined (d : Device) (stream : Stream) (kernel : String) (payload : Bytes)
    (bindings : List Binding) :
    (d.Hindered stream kernel bindings ∧
      ∃ e, (e = .kernelNotFound kernel ∨ ∃ reason, e = .execution reason) ∧
        d.launch stream kernel payload bindings = (.error e, { d with launchFault := false }) ∧
        ∀ others : KernelTable, others.contains kernel = d.kernels.contains kernel →
          launch { d with kernels := others } stream kernel payload bindings =
            (.error e, { d with kernels := others, launchFault := false })) ∨
    (¬ d.Hindered stream kernel bindings ∧
      ∃ body inputs outputs after, d.kernels.get? kernel = some body ∧
        List.Forall₂ d.Shows (inputBindings bindings) inputs ∧
        List.Forall₂ d.Shows (outputBindings bindings) outputs ∧
        let run := body.run payload inputs outputs
        d.launch stream kernel payload bindings =
          (run.result.mapError (launchError kernel), after) ∧
        (∀ e, run.result = .error e →
          ∃ reason, (d.launch stream kernel payload bindings).1 = .error (.execution reason)) ∧
        d.Confined after (outputBindings bindings) (writtenOutputs run.written outputs)
          run.armsTransferFault) := by
  by_cases hhindered : d.Hindered stream kernel bindings
  · left
    obtain ⟨e, hkind, hothers⟩ := launch_of_hindered hhindered payload
    exact ⟨hhindered, e, hkind, hothers d.kernels rfl, hothers⟩
  right
  -- nothing in the way means that every check is passed
  have hfault : d.launchFault = false := by
    rw [← Bool.not_eq_true]
    exact fun harmed => hhindered (.fault harmed)
  have hstream : stream ∈ d.streams := by
    by_contra hunknown
    exact hhindered (.stream hunknown)
  have hdistinct : (bindings.map Binding.address).Nodup := by
    by_contra hshared
    exact hhindered (.shared hshared)
  have hcovers : ∀ b ∈ bindings, d.Covers b := by
    intro b hb
    by_contra hnot
    exact hhindered (hindered_of_not_covers hb hnot)
  have hknown : ¬ d.hasKernel kernel = false := fun hmissing => hhindered (.kernel hmissing)
  rw [Bool.not_eq_false] at hknown
  obtain ⟨body, hbody⟩ := Option.isSome_iff_exists.1 hknown
  have hchecked : d.checkBindings [] bindings = .ok () :=
    checkBindings_eq_ok_iff.2 ⟨hdistinct, hcovers⟩
  have hinputs : List.Forall₂ d.Shows (inputBindings bindings) (d.views .input bindings) :=
    forall₂_view? fun b hb => hcovers b (List.mem_of_mem_filter hb)
  have houtputs : List.Forall₂ d.Shows (outputBindings bindings) (d.views .output bindings) :=
    forall₂_view? fun b hb => hcovers b (List.mem_of_mem_filter hb)
  have hlaunch := launch_of_bound hfault hbody hstream hchecked payload
  refine ⟨hhindered, body, _, _, _, hbody, hinputs, houtputs, hlaunch, fun e hfails => ?_,
    confined_runKernel hdistinct houtputs _⟩
  obtain ⟨reason, hreason⟩ := exists_launchError_eq kernel e
  refine ⟨reason, ?_⟩
  rw [hlaunch, runKernel, hfails, ← hreason]
  rfl

/-- Of a region of four bytes two are bound. The kernel writes one of them and fails. -/
example :
    let body : Kernel := ⟨fun _ _ _ => ⟨.error (.transfer "stopped"), [[0xFF]], false⟩⟩
    let d := ((Device.new ⟨[("half", body)]⟩ none (.upTo 4096)).malloc 4).2.createStream.2
    let output : Binding := ⟨"y", ⟨baseAddress⟩, 2, .output, .f32, ⟨[2]⟩⟩
    let after := (d.launch ⟨1⟩ "half" [] [output]).2
    after.regions = [⟨⟨baseAddress⟩, [0xFF, 0, 0, 0]⟩] ∧ after.inUse = 4 := by
  decide

end GraphServe.Device
