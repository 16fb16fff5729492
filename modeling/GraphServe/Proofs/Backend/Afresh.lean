import GraphServe.Proofs.Backend.HighWater
import GraphServe.Proofs.Backend.Reference

/-!
# New sizes and new backends

A backend of a configuration is followed through any history: calls and reconfigurations of its own
that end well or not, and whatever others do with the device in between as long as they leave it
what is its own (`Aged`). The members of a fleet have such histories (`Fleet.aged_of_member`).
However old the backend is, taking new sizes is as good as building a backend for these sizes:
without a limit on memory, on a host that could back what the backend holds, the one is refused
exactly as the other is, and if they are not then both have the same shapes and the same
description, and answer calls alike (`reconfigure_agrees_with_build`).
-/

namespace GraphServe

namespace EngineBackend

variable {files : Files} {config : BackendConfig} {b : EngineBackend} {slots : List Slot}
  {d d' : Device}

/-! ## Histories -/

/-- A backend of a configuration, and its device, after any history. -/
inductive Aged (files : Files) (config : BackendConfig) : EngineBackend → Device → Prop
  | built {d d' : Device} {b : EngineBackend} (hd : d.Orderly)
    (h : build files config d = (.ok b, d')) : Aged files config b d'
  | inferred {b : EngineBackend} {d : Device} (h : Aged files config b d) (inputs : List Bytes)
    (elapsed : Duration) :
    Aged files config (b.infer d inputs elapsed).2.1 (b.infer d inputs elapsed).2.2
  | reconfigured {b : EngineBackend} {d : Device} (h : Aged files config b d)
    (sizes : List (List Int64)) :
    Aged files config (b.reconfigure d sizes).2.1 (b.reconfigure d sizes).2.2
  | elsewhere {b : EngineBackend} {d d' : Device} (h : Aged files config b d) (hd' : d'.Orderly)
    (hr : b.Resides d') : Aged files config b d'

/-- What no history changes. -/
structure Heritage (files : Files) (config : BackendConfig) (b : EngineBackend) : Prop where
  graph_eq : loadGraph files config = .ok b.graph
  batchSize_eq : b.batchSize = config.batchSize
  policy_eq : b.policy = config.policy
  serves : ∃ slots, b.Serves slots

theorem Heritage.use (h : Heritage files config b) (u : Use) : Heritage files config (b.use u) := by
  obtain ⟨slots, hb⟩ := h.serves
  obtain ⟨hgraph, hbatch, hpolicy⟩ := frame_use hb u
  refine ⟨?_, hbatch.trans h.batchSize_eq, hpolicy.trans h.policy_eq, ?_⟩
  · rw [hgraph]
    exact h.graph_eq
  · cases use_cases hb u with
    | spared settled_eq serves => exact ⟨slots, serves⟩
    | resized e sizes filled use_eq accepted settled_eq serves => exact ⟨filled, serves⟩

theorem heritage_of_build (h : build files config d = (.ok b, d')) : Heritage files config b := by
  obtain ⟨graph, shapes, hgraph, -, -, -, hassembled⟩ := exists_of_build_eq_ok h
  refine ⟨?_, ?_, ?_, (Reached.built h).exists_serves⟩
  · rw [hgraph, hassembled]
    rfl
  · rw [hassembled]
    rfl
  · rw [hassembled]
    rfl

namespace Aged

/-- However old a backend is, it has its heritage and resides on its device. -/
theorem spec (h : Aged files config b d) :
    Heritage files config b ∧ b.Resides d ∧ d.Orderly := by
  induction h with
  | built hd h => exact ⟨heritage_of_build h, resides_of_build hd h⟩
  | @inferred b d h inputs elapsed ih =>
    obtain ⟨hheritage, hr, hd⟩ := ih
    obtain ⟨slots, hb⟩ := hheritage.serves
    exact ⟨hheritage.use (.infer d inputs elapsed), hr.infer hb hd inputs elapsed⟩
  | @reconfigured b d h sizes ih =>
    obtain ⟨hheritage, hr, hd⟩ := ih
    obtain ⟨slots, hb⟩ := hheritage.serves
    exact ⟨hheritage.use (.reconfigure d sizes), hr.reconfigure hb hd sizes⟩
  | elsewhere h hd' hr ih => exact ⟨ih.1, hr, hd'⟩

end Aged

end EngineBackend

/-- Each member of a fleet has a history, which began when it was built. -/
theorem Fleet.aged_of_member {f : Fleet} (hf : f.Consistent) {past : List Call}
    (haged : ∀ b ∈ f.members, ∃ files config, Call.build files config ∈ past ∧
      EngineBackend.Aged files config b f.device) (calls : List Call) :
    ∀ b ∈ (f.run calls).members, ∃ files config, Call.build files config ∈ past ++ calls ∧
      EngineBackend.Aged files config b (f.run calls).device := by
  -- on the calls still to come, with those that were made in the past
  induction calls generalizing f past with
  | nil =>
    rw [List.append_nil]
    exact haged
  | cons call calls ih =>
    have hstep := (step_spec hf call).1
    have hpast : past ++ call :: calls = (past ++ [call]) ++ calls := by simp
    rw [hpast]
    apply ih hstep
    intro b hb
    -- a member that the call does not concern meets a device that others have used
    have hold : b ∈ f.members → ∃ files config, Call.build files config ∈ past ++ [call] ∧
        EngineBackend.Aged files config b (f.step call).device := by
      intro hmem
      obtain ⟨files, config, hbuilt, h⟩ := haged b hmem
      exact ⟨files, config, List.mem_append_left _ hbuilt,
        .elsewhere h hstep.orderly (hstep.resides hb)⟩
    -- and a member that the call was made on has one more use behind it
    have hset : ∀ {place c c'}, f.members[place]? = some c →
        (∀ {files config}, EngineBackend.Aged files config c f.device →
          EngineBackend.Aged files config c' (f.step call).device) →
        b ∈ f.members.set place c' → ∃ files config, Call.build files config ∈ past ++ [call] ∧
          EngineBackend.Aged files config b (f.step call).device := by
      intro place c c' hplace hused hmem
      rcases List.mem_or_eq_of_mem_set hmem with hmem | rfl
      · exact hold hmem
      · obtain ⟨files, config, hbuilt, h⟩ := haged c (List.mem_of_getElem? hplace)
        exact ⟨files, config, List.mem_append_left _ hbuilt, hused h⟩
    cases call with
    | build files config =>
      simp only [step] at hb hold ⊢
      rcases hbuild : EngineBackend.build files config f.device with ⟨e | new, d⟩
      · rw [hbuild] at hb hold
        exact hold hb
      · rw [hbuild] at hb hold
        rcases List.mem_cons.1 hb with rfl | hb
        · exact ⟨files, config, List.mem_append_right _ List.mem_cons_self,
            .built hf.orderly hbuild⟩
        · exact hold hb
    | infer place inputs elapsed =>
      simp only [step] at hb hold hset ⊢
      cases hplace : f.members[place]? with
      | none =>
        rw [hplace] at hb hold
        exact hold hb
      | some c =>
        rw [hplace] at hb hset
        exact hset hplace (fun h => h.inferred inputs elapsed) hb
    | reconfigure place sizes =>
      simp only [step] at hb hold hset ⊢
      cases hplace : f.members[place]? with
      | none =>
        rw [hplace] at hb hold
        exact hold hb
      | some c =>
        rw [hplace] at hb hset
        exact hset hplace (fun h => h.reconfigured sizes) hb
    | close place =>
      simp only [step] at hb hold ⊢
      cases hplace : f.members[place]? with
      | none =>
        rw [hplace] at hb hold
        exact hold hb
      | some c =>
        rw [hplace] at hb hold
        exact hold (List.mem_of_mem_eraseIdx hb)
    | armLaunchFault => exact hold hb
    | armTransferFault => exact hold hb
    | registerKernel name body => exact hold hb
    | rehost host => exact hold hb

namespace EngineBackend

variable {files : Files} {config : BackendConfig} {b : EngineBackend} {slots : List Slot}
  {host : Host} {d d' : Device}

/-! ## The same requests -/

/-- A configuration with other sizes loads the same graph, if these are positive. -/
theorem loadGraph_withSizes {graph : Graph} (h : loadGraph files config = .ok graph)
    {sizes : List (List Int64)} (hpositive : ∀ row ∈ sizes, ∀ n ∈ row, 0 < n) :
    loadGraph files { config with inputSizes := sizes } = .ok graph := by
  have hgood : BackendConfig.badSizes? { config with inputSizes := sizes } = none := by
    rw [BackendConfig.badSizes?, List.find?_eq_none]
    intro row hrow hbad
    obtain ⟨n, hn, hle⟩ := List.any_eq_true.1 hbad
    exact Int64.not_lt.2 (of_decide_eq_true hle) (hpositive row hrow n hn)
  obtain ⟨⟨⟩, hvalid, hload⟩ := bind_eq_ok_iff.1 h
  have hvalid' : BackendConfig.validate { config with inputSizes := sizes } = .ok () := by
    rw [BackendConfig.validate] at hvalid ⊢
    split_ifs at hvalid with hbatch hpool hmodel
    rw [if_neg hbatch, if_neg hpool, if_neg hmodel, hgood]
  rw [loadGraph, hvalid', ok_bind]
  exact hload

/-- The host backs what the backend holds, and any smaller request. -/
def BackedBy (b : EngineBackend) (host : Host) : Prop :=
  ∀ u ∈ b.buffers, ∀ bytes ≤ u.capacity, ∀ next, host.backs next bytes = true

/-- Without a limit a slot takes a new shape exactly if a buffer can be allocated for that shape:
what fits into the buffer it has could be backed. -/
theorem replacement_cases_of_unlimited (hhost : host.Uniform) (hd : d.Unlimited host)
    (hd' : d'.Unlimited host) (p : Slot)
    (hbacked : ∀ bytes ≤ p.buffer.capacity, ∀ next, host.backs next bytes = true) (s : Shape) :
    (∃ e, replacement d p.tensor s p.buffer = (.error e, d) ∧
        Buffer.allocate d' p.tensor s = (.error e, d')) ∨
      ∃ new d₁ u, replacement d p.tensor s p.buffer = (.ok new, d₁) ∧ d₁.Unlimited host ∧
        Buffer.allocate d' p.tensor s = (.ok u, d'.withRegion u.capacity) := by
  rw [replacement]
  cases hbytes : p.tensor.requiredBytes s with
  | error e =>
    refine Or.inl ⟨e, rfl, ?_⟩
    simp only [Buffer.allocate, p.dtype_eq, hbytes]
  | ok bytes =>
    by_cases hfits : bytes ≤ p.buffer.capacity
    · -- the old buffer serves here, while the new backend needs one of its own
      refine Or.inr ⟨none, d, ⟨p.tensor.name, p.buffer.dtype, ⟨d'.nextAddress⟩, bytes⟩, ?_, hd, ?_⟩
      · simp only [if_pos hfits]
      · simp only [Buffer.allocate, p.dtype_eq, hbytes, Device.malloc_of_unlimited hhost hd',
          hbacked bytes hfits, if_true]
    · simp only [if_neg hfits]
      rcases Buffer.allocate_alike hhost hd hd' p.tensor s with
        ⟨e, hnew, hnew'⟩ | ⟨u, u', -, hnew, hnew'⟩
      · exact Or.inl ⟨e, by simp only [hnew], hnew'⟩
      · exact Or.inr ⟨some u, d.withRegion u.capacity, u', by simp only [hnew],
          hd.withRegion u.capacity, hnew'⟩

/-- Without a limit the replacements fail exactly as allocating all buffers afresh does. -/
theorem failure_replacements_eq (hhost : host.Uniform) (hd : d.Unlimited host)
    (hd' : d'.Unlimited host) {slots : List Slot}
    (hbacked : ∀ p ∈ slots, ∀ bytes ≤ p.buffer.capacity, ∀ next, host.backs next bytes = true)
    {shapes : List Shape} (hlength : shapes.length = slots.length) :
    (replacements d (slots.map Slot.tensor) shapes (slots.map Slot.buffer)).1.failure =
      (Buffer.allocateEach d' (slots.map Slot.tensor) shapes).1.failure := by
  induction slots generalizing d d' shapes with
  | nil => rfl
  | cons p slots ih =>
    obtain ⟨s, shapes, rfl⟩ := List.exists_cons_of_length_eq_add_one hlength
    replace hlength : shapes.length = slots.length := by simpa using hlength
    simp only [List.map_cons, replacements, Buffer.allocateEach]
    rcases replacement_cases_of_unlimited hhost hd hd' p (hbacked p List.mem_cons_self) s with
      ⟨e, hfirst, hfirst'⟩ | ⟨new, d₁, u, hfirst, hd₁, hfirst'⟩
    · simp only [hfirst, hfirst']
      rfl
    · have hrest := ih hd₁ (hd'.withRegion u.capacity)
        (fun q hq => hbacked q (List.mem_cons_of_mem _ hq)) hlength
      simp only [hfirst, hfirst', Progress.after]
      exact hrest

/-! ## Configured alike -/

/-- Two usable backends have the same graph, settings and shapes. They may lie elsewhere and have
served other calls. -/
structure Likeness (b c : EngineBackend) : Prop where
  graph_eq : b.graph = c.graph
  shapes_eq : b.context.shapes = c.context.shapes
  modelInfo_eq : b.modelInfo = c.modelInfo
  batchSize_eq : b.batchSize = c.batchSize
  inputSizes_eq : b.inputSizes = c.inputSizes
  policy_eq : b.policy = c.policy
  usable : b.failure = none
  usable' : c.failure = none
  phase_eq : b.context.phase = c.context.phase

namespace Likeness

variable {c : EngineBackend}

/-- The checks before a call do not tell them apart. -/
theorem screen_eq (h : Likeness b c) (inputs : List Bytes) : b.screen inputs = c.screen inputs := by
  have hregistry : b.context.graph = c.context.graph := h.graph_eq
  have hresolved : b.context.resolvedShapes = c.context.resolvedShapes := by
    rw [Context.resolvedShapes, Context.resolvedShapes, Context.expect, Context.expect,
      h.phase_eq, h.shapes_eq, hregistry]
  rw [screen, screen, ensureUsable, ensureUsable, h.usable, h.usable', hresolved, h.policy_eq,
    h.graph_eq]

theorem resolvedShape?_eq (h : Likeness b c) (name : String) :
    b.resolvedShape? name = c.resolvedShape? name := by
  rw [resolvedShape?, resolvedShape?, h.graph_eq]
  congr 1
  funext ordinal
  rw [Context.shape?, Context.shape?, h.shapes_eq]

/-- Without faults calls do not tell them apart either, wherever the two lie. -/
theorem infer_eq (h : Likeness b c) {slots slots' : List Slot} (hb : b.Serves slots)
    (hc : c.Serves slots') {e e' : Device} (hr : b.Resides e) (hr' : c.Resides e')
    (he : e.Orderly) (he' : e'.Orderly) {body : Kernel}
    (hkernel : e.kernels.get? b.graph.kernel = some body)
    (hkernel' : e'.kernels.get? c.graph.kernel = some body) (hblind : body.IgnoresOutputs)
    (hlaunch : e.launchFault = false) (hlaunch' : e'.launchFault = false) {inputs : List Bytes}
    (hunarmed : ¬ b.Armed e inputs) (hunarmed' : ¬ c.Armed e' inputs)
    (elapsed elapsed' : Duration) :
    (b.infer e inputs elapsed).1 = (c.infer e' inputs elapsed').1 := by
  have hsame := h.screen_eq inputs
  cases hscreen : b.screen inputs with
  | error reason =>
    rw [hscreen] at hsame
    rw [infer, infer, hscreen, ← hsame]
  | ok passed =>
    rcases passed with ⟨shapes, expected⟩
    rw [hscreen] at hsame
    rw [infer_eq_reference hb hr he hkernel hblind hlaunch hunarmed hscreen elapsed,
      infer_eq_reference hc hr' he' hkernel' hblind hlaunch' hunarmed' hsame.symm elapsed',
      h.graph_eq, h.policy_eq]

end Likeness

/-- A usable backend asks for the shapes that a blank context resolves. -/
theorem asked_eq_resolve (hb : b.Serves slots) (husable : b.failure = none)
    (sizes : List (List Int64)) (stream : Stream) :
    b.asked sizes = ((blankContext b.graph stream).resolve b.batchSize sizes).1 := by
  have hcleared : b.context.cleared.unplaced = (blankContext b.graph stream).unplaced := by
    rw [Context.cleared, List.map_const', hb.length_shapes]
    rfl
  rw [asked, ensureUsable, husable]
  exact Context.resolve_fst_eq hcleared b.batchSize sizes

/-- A reconfiguration and a new backend were refused alike, or both were done. -/
inductive Agreement (again : Outcome (EngineBackend × Device) Unit)
    (afresh : Outcome Device EngineBackend) : Prop
  | refused (e : EngineError) (again_eq : again.1 = .error e) (afresh_eq : afresh.1 = .error e)
  | done (fresh : EngineBackend) (again_eq : again.1 = .ok ()) (afresh_eq : afresh.1 = .ok fresh)
    (alike : Likeness again.2.1 fresh)

/-- New sizes for a usable backend and a new backend for these sizes agree. -/
theorem reconfigure_agreement (h : Heritage files config b) (husable : b.failure = none)
    (hhost : host.Uniform) (hbacked : b.BackedBy host) (hd : d.Unlimited host)
    {sizes : List (List Int64)} (hpositive : ∀ row ∈ sizes, ∀ n ∈ row, 0 < n)
    (hd' : d'.Unlimited host) (hkernel : d'.hasKernel b.graph.kernel = true) :
    Agreement (b.reconfigure d sizes) (build files { config with inputSizes := sizes } d') := by
  obtain ⟨slots, hb⟩ := h.serves
  have hasked := asked_eq_resolve hb husable sizes d'.createStream.1
  rw [h.batchSize_eq] at hasked
  rw [build, loadGraph_withSizes h.graph_eq hpositive]
  dsimp only
  rw [ofGraph_eq hkernel, reconfigure_eq hb, ← hasked]
  cases hshapes : b.asked sizes with
  | error e => exact .refused e rfl rfl
  | ok shapes =>
    -- the shapes are the same, and so is the first of them that cannot be had, if any
    have hslots : ∀ p ∈ slots, ∀ bytes ≤ p.buffer.capacity, ∀ next,
        host.backs next bytes = true := by
      intro p hp
      exact hbacked _ (hb.buffers_eq ▸ List.mem_map_of_mem hp)
    have hd₁ : d'.createStream.2.Unlimited host := ⟨hd'.limit_eq, hd'.host_eq⟩
    have hfailure := failure_replacements_eq hhost hd hd₁ hslots (length_of_asked hb hshapes)
    rw [← hb.tensors_eq, ← hb.buffers_eq] at hfailure
    dsimp only
    rcases hrun : replacements d b.graph.registry.all shapes b.buffers with ⟨⟨new, failure⟩, d₁⟩
    rcases hrun' : Buffer.allocateEach d'.createStream.2 b.graph.registry.all shapes with
      ⟨⟨buffers, failure'⟩, d₁'⟩
    rw [hrun, hrun'] at hfailure
    obtain rfl : failure = failure' := hfailure
    cases failure with
    | some e => exact .refused e rfl rfl
    | none =>
      refine .done _ rfl rfl ⟨rfl, rfl, ?_, h.batchSize_eq, rfl, h.policy_eq, husable, rfl, rfl⟩
      show ModelInfo.ofRegistry b.graph.registry shapes b.batchSize =
        ModelInfo.ofRegistry b.graph.registry shapes config.batchSize
      rw [h.batchSize_eq]

/-- However old a usable backend is, it takes new sizes exactly if a backend of the same
configuration with these sizes can be built, and is refused for the same reason. Neither device has
a limit on memory, and their host answers equal requests alike and backs what the backend holds. If
the sizes are taken, the two have the same shapes and the same description, and reside on the
devices they leave. As long as no fault is armed and the kernel does not look at what its outputs
held, they then give the same results for the same inputs. -/
theorem reconfigure_agrees_with_build (h : Aged files config b d) (husable : b.isUsable = true)
    (hhost : host.Uniform) (hbacked : b.BackedBy host) (hunlimited : d.Unlimited host)
    {sizes : List (List Int64)} (hpositive : ∀ row ∈ sizes, ∀ n ∈ row, 0 < n) (hd' : d'.Orderly)
    (hunlimited' : d'.Unlimited host) (hkernels : d'.kernels = d.kernels) :
    let again := b.reconfigure d sizes
    let afresh := build files { config with inputSizes := sizes } d'
    again.1 = afresh.1.map (fun _ => ()) ∧
    ∀ fresh, afresh.1 = .ok fresh →
      again.2.1.context.shapes = fresh.context.shapes ∧
      (∀ name, again.2.1.resolvedShape? name = fresh.resolvedShape? name) ∧
      again.2.1.modelInfo = fresh.modelInfo ∧ again.2.1.batchSize = fresh.batchSize ∧
      again.2.1.inputSizes = fresh.inputSizes ∧
      again.2.1.Resides again.2.2 ∧ again.2.2.Orderly ∧ fresh.Resides afresh.2 ∧
      afresh.2.Orderly ∧
      ∀ (e e' : Device) (body : Kernel) (inputs : List Bytes) (elapsed elapsed' : Duration),
        again.2.1.Resides e → e.Orderly → fresh.Resides e' → e'.Orderly →
        e.kernels.get? fresh.graph.kernel = some body →
        e'.kernels.get? fresh.graph.kernel = some body → body.IgnoresOutputs →
        e.launchFault = false → e'.launchFault = false →
        ¬ again.2.1.Armed e inputs → ¬ fresh.Armed e' inputs →
        (again.2.1.infer e inputs elapsed).1 = (fresh.infer e' inputs elapsed').1 := by
  intro again afresh
  obtain ⟨hheritage, hr, hd⟩ := h.spec
  obtain ⟨slots, hb⟩ := hheritage.serves
  have hnone : b.failure = none := Option.isNone_iff_eq_none.1 husable
  have hkernel : d'.hasKernel b.graph.kernel = true := by
    rw [Device.hasKernel, hkernels]
    exact hr.kernel_mem
  have hagree : Agreement again afresh :=
    reconfigure_agreement hheritage hnone hhost hbacked hunlimited hpositive hunlimited' hkernel
  have hresides : again.2.1.Resides again.2.2 ∧ again.2.2.Orderly := hr.reconfigure hb hd sizes
  obtain ⟨slots₁, hserves⟩ := (hheritage.use (.reconfigure d sizes)).serves
  cases hagree with
  | refused e again_eq afresh_eq =>
    refine ⟨by rw [again_eq, afresh_eq]; rfl, ?_⟩
    intro fresh hfresh
    rw [afresh_eq] at hfresh
    cases hfresh
  | done fresh again_eq afresh_eq alike =>
    refine ⟨by rw [again_eq, afresh_eq]; rfl, ?_⟩
    intro fresh' hfresh
    obtain rfl : fresh = fresh' := Except.ok.inj (afresh_eq.symm.trans hfresh)
    have hbuilt : build files { config with inputSizes := sizes } d' = (.ok fresh, afresh.2) :=
      Prod.ext hfresh rfl
    obtain ⟨hresides', horderly'⟩ := resides_of_build hd' hbuilt
    obtain ⟨slots₂, hserves'⟩ := (Reached.built hbuilt).exists_serves
    refine ⟨alike.shapes_eq, alike.resolvedShape?_eq, alike.modelInfo_eq, alike.batchSize_eq,
      alike.inputSizes_eq, hresides.1, hresides.2, hresides', horderly', ?_⟩
    intro e e' body inputs elapsed elapsed' he heorderly he' heorderly' hbody hbody' hblind hlaunch
      hlaunch' hunarmed hunarmed'
    rw [← alike.graph_eq] at hbody
    exact alike.infer_eq hserves hserves' he he' heorderly heorderly' hbody hbody' hblind hlaunch
      hlaunch' hunarmed hunarmed' elapsed elapsed'

/-- On a quiet device nothing is armed. -/
theorem not_armed_of_quiet {kernels : KernelTable} (hd : d.Quiet kernels host)
    (hunarmed : kernels.Unarmed) (inputs : List Bytes) : ¬ b.Armed d inputs := by
  rintro (hfault | ⟨run, ⟨shapes, expected, d₁, body, -, -, hbody, rfl⟩, harms⟩)
  · rw [hd.transferFault_eq] at hfault
    cases hfault
  · rw [hd.kernels_eq] at hbody
    rw [hunarmed _ body hbody] at harms
    cases harms

/-- The backend that copies vectors of two values, and then of four, takes vectors of one as a
backend does that is built for them. -/
theorem reconfigure_agrees_with_build_copy :
    ∃ b d fresh d', Aged Fleet.copyFiles Fleet.copyConfig b d ∧
      b.context.shapes = [some ⟨[4]⟩, some ⟨[4]⟩] ∧
      build Fleet.copyFiles { Fleet.copyConfig with inputSizes := [[1]] } d = (.ok fresh, d') ∧
      let again := b.reconfigure d [[1]]
      again.1 = .ok () ∧ again.2.1.context.shapes = fresh.context.shapes ∧
        (again.2.1.infer again.2.2 [[9]] ⟨0⟩).1 = (fresh.infer d' [[9]] ⟨0⟩).1 := by
  let start := build Fleet.copyFiles Fleet.copyConfig (Device.new .builtin none (.upTo 4096))
  have hquiet₀ : (Device.new .builtin none (.upTo 4096)).Quiet .builtin (.upTo 4096) :=
    Device.quiet_new .builtin (.upTo 4096)
  have hshapes : (start.1.map fun b => (b.reconfigure start.2 [[4]]).2.1.context.shapes) =
      .ok [some ⟨[4]⟩, some ⟨[4]⟩] := by decide +kernel
  have hchecks : (start.1.map fun b =>
      let grown := b.reconfigure start.2 [[4]]
      (grown.2.1.isUsable, (build Fleet.copyFiles { Fleet.copyConfig with inputSizes := [[1]] }
        grown.2.2).1.map fun fresh => fresh.graph.kernel, grown.2.1.buffers.map Buffer.capacity)) =
      .ok (true, .ok "identity", [16, 16]) := by
    decide +kernel
  rcases hbuild : start with ⟨e | b, d⟩
  · rw [hbuild] at hshapes
    cases hshapes
  · rw [hbuild] at hshapes hchecks
    obtain ⟨husable, hrest⟩ := Prod.mk.inj (Except.ok.inj hchecks)
    obtain ⟨hname, hcapacities⟩ := Prod.mk.inj hrest
    -- along the way the device stays quiet
    have hquiet₁ : d.Quiet .builtin (.upTo 4096) := by
      have hbuilt := (build_footprint Fleet.copyFiles Fleet.copyConfig hquiet₀).1
      rwa [show build Fleet.copyFiles Fleet.copyConfig _ = (.ok b, d) from hbuild] at hbuilt
    have hstart : Aged Fleet.copyFiles Fleet.copyConfig b d := .built hquiet₀.orderly hbuild
    obtain ⟨hheritage, hr, -⟩ := hstart.spec
    obtain ⟨slots, hb⟩ := hheritage.serves
    let grown := b.reconfigure d [[4]]
    have hquiet₂ : grown.2.2.Quiet .builtin (.upTo 4096) :=
      (acted_reconfigure hb hr hquiet₁ [[4]]).quiet
    have hgrown : Aged Fleet.copyFiles Fleet.copyConfig grown.2.1 grown.2.2 :=
      hstart.reconfigured [[4]]
    obtain ⟨hheritage', hr', -⟩ := hgrown.spec
    obtain ⟨slots', hb'⟩ := hheritage'.serves
    have hquiet₃ := (acted_reconfigure hb' hr' hquiet₂ [[1]]).quiet
    have hquiet₄ := (build_footprint Fleet.copyFiles
      { Fleet.copyConfig with inputSizes := [[1]] } hquiet₂).1
    have hpositive : ∀ row ∈ ([[1]] : List (List Int64)), ∀ n ∈ row, 0 < n := by
      intro row hrow n hn
      rw [List.mem_singleton.1 hrow] at hn
      rw [List.mem_singleton.1 hn]
      decide
    have hbacked : grown.2.1.BackedBy (.upTo 4096) := by
      intro u hu bytes hbytes next
      have hcapacity : u.capacity ∈ ([16, 16] : List Nat) := hcapacities ▸ List.mem_map_of_mem hu
      simp only [List.mem_cons, List.not_mem_nil, or_false, or_self] at hcapacity
      exact decide_eq_true (by omega)
    have hagree := reconfigure_agrees_with_build hgrown husable (Host.uniform_upTo 4096) hbacked
      hquiet₂.unlimited hpositive hquiet₂.orderly hquiet₂.unlimited rfl
    rcases hafresh : build Fleet.copyFiles { Fleet.copyConfig with inputSizes := [[1]] } grown.2.2
      with ⟨e | fresh, d'⟩
    · rw [hafresh] at hname
      cases hname
    · rw [hafresh] at hagree hquiet₄ hname
      obtain ⟨hok, hfresh⟩ := hagree
      obtain ⟨hsame, -, -, -, -, hresides, horderly, hresides', horderly', hresults⟩ :=
        hfresh fresh rfl
      replace hname : fresh.graph.kernel = "identity" := Except.ok.inj hname
      have hidentity : KernelTable.builtin.get? fresh.graph.kernel = some .identity := by
        rw [hname]
        rfl
      refine ⟨grown.2.1, grown.2.2, fresh, d', hgrown, Except.ok.inj hshapes, hafresh, hok, hsame,
        ?_⟩
      apply hresults _ _ .identity _ _ _ hresides horderly hresides' horderly'
      · rw [hquiet₃.kernels_eq]
        exact hidentity
      · rw [hquiet₄.kernels_eq]
        exact hidentity
      · exact Kernel.identity_ignoresOutputs
      · exact hquiet₃.launchFault_eq
      · exact hquiet₄.launchFault_eq
      · exact not_armed_of_quiet hquiet₃ KernelTable.unarmed_builtin _
      · exact not_armed_of_quiet hquiet₄ KernelTable.unarmed_builtin _

end EngineBackend

end GraphServe
