import GraphServe.Proofs.Backend.Inference
import GraphServe.Proofs.Backend.Lifetime
import GraphServe.Proofs.Backend.Reconfiguration
import GraphServe.Proofs.Device.Ledger

/-!
# Fleets of backends

A fleet is a device together with the engine backends that live on it. Its device is used through
the backends only, apart from faults and kernels, which anyone may add at any time, and the host may
come to back other requests. Every call of a run keeps a fleet consistent (`step_spec`): the live
regions are exactly the buffers of its members, the streams are exactly theirs, and each member
serves slots with a kernel that is known. What the device took back meanwhile it took back once
(`Device.Ledger`).
-/

namespace GraphServe

open Buffer (extent)

/-- A device and the backends that live on it. -/
structure Fleet where
  device : Device
  members : List EngineBackend

namespace Fleet

/-- What can happen to a fleet. Members are named by their place; a call of no member does
nothing. -/
inductive Call where
  | build (files : Files) (config : BackendConfig)
  | infer (place : Nat) (inputs : List Bytes) (elapsed : Duration)
  | reconfigure (place : Nat) (sizes : List (List Int64))
  | close (place : Nat)
  | armLaunchFault
  | armTransferFault
  | registerKernel (name : String) (body : Kernel)
  /-- The host comes to back other requests. -/
  | rehost (host : Host)

/-- A fresh device without backends. -/
def start (kernels : KernelTable) (limit : Option Nat) (host : Host) : Fleet :=
  ⟨Device.new kernels limit host, []⟩

/-- The fleet after a backend was built, or could not be. -/
def joined (members : List EngineBackend) : Outcome Device EngineBackend → Fleet
  | (.ok b, d) => ⟨d, b :: members⟩
  | (.error _, d) => ⟨d, members⟩

/-- The fleet after one call. -/
def step (f : Fleet) : Call → Fleet
  | .build files config => joined f.members (EngineBackend.build files config f.device)
  | .infer place inputs elapsed =>
    match f.members[place]? with
    | none => f
    | some b =>
      let run := b.infer f.device inputs elapsed
      ⟨run.2.2, f.members.set place run.2.1⟩
  | .reconfigure place sizes =>
    match f.members[place]? with
    | none => f
    | some b =>
      let run := b.reconfigure f.device sizes
      ⟨run.2.2, f.members.set place run.2.1⟩
  | .close place =>
    match f.members[place]? with
    | none => f
    | some b => ⟨b.close f.device, f.members.eraseIdx place⟩
  | .armLaunchFault => { f with device := f.device.armLaunchFault }
  | .armTransferFault => { f with device := f.device.armTransferFault }
  | .registerKernel name body => { f with device := f.device.registerKernel name body }
  | .rehost host => { f with device := f.device.rehost host }

/-- The fleet after a row of calls. -/
def run (f : Fleet) (calls : List Call) : Fleet := calls.foldl step f

/-- The extents of the members' buffers. -/
def extents (members : List EngineBackend) : List (Address × Nat) :=
  members.flatMap fun b => b.buffers.map extent

/-- What the device and the members of a fleet keep true of each other. -/
structure Consistent (f : Fleet) : Prop where
  orderly : f.device.Orderly
  extents_perm : f.device.extents.Perm (extents f.members)
  streams_perm : f.device.streams.Perm (f.members.map fun b => b.context.stream)
  serves : ∀ b ∈ f.members, ∃ slots, b.Serves slots
  kernels : ∀ b ∈ f.members, f.device.hasKernel b.graph.kernel = true

theorem consistent_start (kernels : KernelTable) (limit : Option Nat) (host : Host) :
    (start kernels limit host).Consistent :=
  ⟨Device.orderly_new kernels limit host, .nil, .nil, by simp [start], by simp [start]⟩

namespace Consistent

variable {f : Fleet} {d : Device} {b : EngineBackend} {others : List EngineBackend}

/-- The order of the members does not matter. -/
theorem perm {members : List EngineBackend} (h : f.Consistent) (hperm : f.members.Perm members) :
    Consistent ⟨f.device, members⟩ where
  orderly := h.orderly
  extents_perm := h.extents_perm.trans (hperm.flatMap_right _)
  streams_perm := h.streams_perm.trans (hperm.map _)
  serves c hc := h.serves c (hperm.mem_iff.2 hc)
  kernels c hc := h.kernels c (hperm.mem_iff.2 hc)

/-- The device holds what each member owns. -/
theorem resides (h : f.Consistent) (hb : b ∈ f.members) : b.Resides f.device where
  owned u hu := h.extents_perm.mem_iff.2
    (List.mem_flatMap.2 ⟨b, hb, List.mem_map_of_mem hu⟩)
  distinct := by
    have hall := (h.extents_perm.map Prod.fst).nodup_iff.1 h.orderly.distinct
    rw [extents, List.map_flatMap, List.nodup_flatMap] at hall
    have hown := hall.1 b hb
    rwa [Buffer.map_fst_map_extent] at hown
  stream_mem := h.streams_perm.mem_iff.2 (List.mem_map_of_mem hb)
  kernel_mem := h.kernels b hb

/-! ## Calls of one member -/

/-- A member that keeps its graph and its stream may change its buffers, as long as the live regions
are still those of the members. -/
theorem changed {b' : EngineBackend} {d' : Device} (h : Consistent ⟨d, b :: others⟩)
    (horderly : d'.Orderly)
    (hextents : d'.extents.Perm (b'.buffers.map extent ++ extents others))
    (hstreams : d'.streams = d.streams) (hkernels : d'.kernels = d.kernels)
    (hserves : ∃ slots, b'.Serves slots) (hgraph : b'.graph = b.graph)
    (hstream : b'.context.stream = b.context.stream) : Consistent ⟨d', b' :: others⟩ where
  orderly := horderly
  extents_perm := hextents
  streams_perm := by
    have hperm := h.streams_perm
    rw [List.map_cons] at hperm ⊢
    rwa [hstream, show (⟨d', b' :: others⟩ : Fleet).device.streams = d.streams from hstreams]
  serves c hc := by
    rcases List.mem_cons.1 hc with rfl | hc
    · exact hserves
    · exact h.serves c (List.mem_cons_of_mem _ hc)
  kernels c hc := by
    show d'.kernels.contains c.graph.kernel = true
    rw [hkernels]
    rcases List.mem_cons.1 hc with rfl | hc
    · rw [hgraph]
      exact h.kernels b List.mem_cons_self
    · exact h.kernels c (List.mem_cons_of_mem _ hc)

/-- The live regions are the buffers of the first member and those of the others. -/
theorem extents_perm_cons (h : Consistent ⟨d, b :: others⟩) :
    d.extents.Perm (b.buffers.map extent ++ extents others) := by
  have hextents := h.extents_perm
  rwa [extents, List.flatMap_cons, ← extents] at hextents

theorem infer (h : Consistent ⟨d, b :: others⟩) (inputs : List Bytes) (elapsed : Duration) :
    let run := b.infer d inputs elapsed
    Consistent ⟨run.2.2, run.2.1 :: others⟩ ∧ Device.Ledger d [] run.2.2 := by
  intro run
  obtain ⟨slots, hb⟩ := h.serves b List.mem_cons_self
  have hcalled := EngineBackend.infer_spec hb (h.resides List.mem_cons_self) h.orderly inputs elapsed
  have hkeeps : Device.Keeps b.addresses d run.2.2 := hcalled.keeps
  constructor
  · refine h.changed (hkeeps.orderly h.orderly) ?_ hkeeps.streams_eq hkeeps.kernels_eq
      ⟨slots, hcalled.serves⟩ (by rw [hcalled.frame]; rfl) (by rw [hcalled.frame])
    rw [hkeeps.extents_eq, hcalled.frame]
    exact h.extents_perm_cons
  · exact .idle hkeeps.frees_eq hkeeps.extents_eq (Nat.le_of_eq hkeeps.nextAddress_eq.symm)

theorem reconfigure (h : Consistent ⟨d, b :: others⟩) (sizes : List (List Int64)) :
    let run := b.reconfigure d sizes
    Consistent ⟨run.2.2, run.2.1 :: others⟩ ∧ ∃ freed, Device.Ledger d freed run.2.2 := by
  intro run
  obtain ⟨slots, hb⟩ := h.serves b List.mem_cons_self
  have hcases : b.Reconfiguring d sizes run := EngineBackend.reconfigure_cases hb d sizes
  have hserves := hcases.exists_serves hb
  have hextents := h.extents_perm_cons
  -- from here on only the way it ended counts
  generalize run = run at hcases hserves
  cases hcases with
  | @undone e fresh d' cause growth =>
    obtain ⟨hreturned, hledger⟩ := growth.returned h.orderly List.perm_append_comm
    refine ⟨h.changed hreturned.orderly (hreturned.extents_perm.trans hextents) ?_ ?_ hserves rfl rfl,
      _, hledger⟩
    · exact hreturned.streams_eq.trans growth.streams_eq
    · exact hreturned.kernels_eq.trans growth.kernels_eq
  | @done filled fresh old d' usable accepted tensors_eq growth perm =>
    -- the buffers in place and the old ones are the fresh ones and those from before
    have hplaces : (d.extents ++ fresh.map extent).Perm
        (old.map extent ++ ((filled.map Slot.buffer).map extent ++ extents others)) := by
      have hmoved := perm.map extent
      rw [List.map_append, List.map_append] at hmoved
      calc (d.extents ++ fresh.map extent).Perm
            (fresh.map extent ++ (b.buffers.map extent ++ extents others)) :=
              (hextents.append_right _).trans List.perm_append_comm
        _ = (fresh.map extent ++ b.buffers.map extent) ++ extents others :=
              (List.append_assoc _ _ _).symm
        List.Perm _ ((old.map extent ++ (filled.map Slot.buffer).map extent) ++ extents others) :=
              (hmoved.symm.trans List.perm_append_comm).append_right _
        _ = old.map extent ++ ((filled.map Slot.buffer).map extent ++ extents others) :=
              List.append_assoc _ _ _
    obtain ⟨hreturned, hledger⟩ := growth.returned h.orderly hplaces
    refine ⟨h.changed hreturned.orderly hreturned.extents_perm ?_ ?_ hserves rfl rfl, _, hledger⟩
    · exact hreturned.streams_eq.trans growth.streams_eq
    · exact hreturned.kernels_eq.trans growth.kernels_eq

theorem close (h : Consistent ⟨d, b :: others⟩) :
    Consistent ⟨b.close d, others⟩ ∧
      Device.Ledger d (b.buffers.map Buffer.address) (b.close d) := by
  have hplaces : (d.extents ++ ([] : List Buffer).map extent).Perm
      (b.buffers.map extent ++ extents others) := by
    rw [List.map_nil, List.append_nil]
    exact h.extents_perm_cons
  obtain ⟨hreturned, hledger⟩ := (Buffer.Growth.refl d).returned h.orderly hplaces
  have hstream : b.context.stream ∈ (Buffer.discardAll d b.buffers).streams := by
    rw [hreturned.streams_eq]
    exact (h.resides List.mem_cons_self).stream_mem
  have hclosed : b.close d = { Buffer.discardAll d b.buffers with
      streams := (Buffer.discardAll d b.buffers).streams.erase b.context.stream } := by
    rw [EngineBackend.close, Buffer.releaseAll_snd, Context.close,
      Device.destroyStream_of_mem hstream]
  rw [hclosed]
  refine ⟨⟨hreturned.orderly.eraseStream _, hreturned.extents_perm, ?_, ?_, ?_⟩, ?_⟩
  · show ((Buffer.discardAll d b.buffers).streams.erase b.context.stream).Perm _
    rw [hreturned.streams_eq]
    have hstreams := h.streams_perm.erase b.context.stream
    rwa [List.map_cons, List.erase_cons_head] at hstreams
  · exact fun c hc => h.serves c (List.mem_cons_of_mem _ hc)
  · intro c hc
    show (Buffer.discardAll d b.buffers).kernels.contains _ = true
    rw [hreturned.kernels_eq]
    exact h.kernels c (List.mem_cons_of_mem _ hc)
  · exact ⟨hledger.frees_eq, hledger.balance, hledger.nextAddress_le⟩

/-! ## A new member -/

theorem join {members : List EngineBackend} (h : Consistent ⟨d, members⟩)
    {result : Outcome Device EngineBackend} (hcases : EngineBackend.Building d result) :
    Consistent (joined members result) ∧
      ∃ freed, Device.Ledger d freed (joined members result).device := by
  cases hcases with
  -- nothing was made
  | refused e => exact ⟨h, _, .refl d⟩
  | @undone e fresh d' growth =>
    have hnext : d.nextAddress ≤ d'.nextAddress := growth.nextAddress_le
    obtain ⟨-, hledger⟩ := growth.returned h.orderly.createStream List.perm_append_comm
    have hback := growth.discardAll_eq h.orderly.createStream
    rw [hback] at hledger
    simp only [joined, EngineBackend.device_of_undone h.orderly growth]
    -- the books do not tell of streams, so the ledger is that of the device with its stream
    exact ⟨⟨h.orderly.advance hnext (Nat.le_succ _) _, h.extents_perm, h.streams_perm, h.serves,
      h.kernels⟩, _, hledger.frees_eq, hledger.balance, hnext⟩
  | @done b d' slots serves stream_eq kernel growth =>
    have hextents : d'.extents = d.extents ++ b.buffers.map extent := growth.extents_eq
    have hnothing : (d.createStream.2.extents ++ b.buffers.map extent).Perm
        (([] : List Buffer).map extent ++ d'.extents) := by
      rw [List.map_nil, List.nil_append, hextents]
      exact .refl _
    obtain ⟨-, hledger⟩ := growth.returned h.orderly.createStream hnothing
    refine ⟨⟨growth.orderly h.orderly.createStream, ?_, ?_, ?_, ?_⟩, _, hledger.frees_eq,
      hledger.balance, hledger.nextAddress_le⟩
    · show d'.extents.Perm (b.buffers.map extent ++ extents members)
      rw [hextents]
      exact List.perm_append_comm.trans (h.extents_perm.append_left _)
    · show d'.streams.Perm (b.context.stream :: members.map fun b => b.context.stream)
      rw [growth.streams_eq, stream_eq]
      exact List.perm_append_comm.trans (h.streams_perm.cons _)
    · intro c hc
      rcases List.mem_cons.1 hc with rfl | hc
      · exact ⟨slots, serves⟩
      · exact h.serves c hc
    · intro c hc
      show d'.kernels.contains c.graph.kernel = true
      rw [growth.kernels_eq]
      rcases List.mem_cons.1 hc with rfl | hc
      · exact kernel
      · exact h.kernels c hc

/-! ## Steps and runs -/

/-- A member can be looked at as the first one. -/
theorem isolate (h : f.Consistent) {place : Nat} (hplace : f.members[place]? = some b) :
    Consistent ⟨f.device, b :: f.members.eraseIdx place⟩ := by
  obtain ⟨hlt, rfl⟩ := List.getElem?_eq_some_iff.1 hplace
  exact h.perm (List.getElem_cons_eraseIdx_perm hlt).symm

/-- The first member can be put in a place. -/
theorem putBack {place : Nat} {members : List EngineBackend} (hlt : place < members.length)
    (h : Consistent ⟨d, b :: members.eraseIdx place⟩) : Consistent ⟨d, members.set place b⟩ :=
  h.perm (List.set_perm_cons_eraseIdx hlt b).symm

/-- Faults may be armed, kernels be added, and the host may come to back other requests. -/
theorem rigged (h : f.Consistent) {kernels : KernelTable} (host : Host)
    (launchFault transferFault : Bool)
    (hkernels : ∀ name, f.device.hasKernel name = true → kernels.contains name = true) :
    let d := { f.device with kernels, host, launchFault, transferFault }
    Consistent ⟨d, f.members⟩ ∧ Device.Ledger f.device [] d := by
  refine ⟨⟨?_, h.extents_perm, h.streams_perm, h.serves, fun b hb => hkernels _ (h.kernels b hb)⟩,
    .idle rfl rfl (Nat.le_refl _)⟩
  exact ⟨h.orderly.distinct, h.orderly.issued, h.orderly.inUse_eq, h.orderly.streams_distinct,
    h.orderly.streams_issued⟩

end Consistent

/-- A call keeps a fleet consistent, and the device enters it into its ledger. -/
theorem step_spec {f : Fleet} (h : f.Consistent) (call : Call) :
    (f.step call).Consistent ∧ ∃ freed, f.device.Ledger freed (f.step call).device := by
  cases call with
  | build files config => exact h.join (EngineBackend.build_cases files config f.device)
  | infer place inputs elapsed =>
    simp only [step]
    cases hplace : f.members[place]? with
    | none => exact ⟨h, _, .refl f.device⟩
    | some b =>
      obtain ⟨hkept, hledger⟩ := (h.isolate hplace).infer inputs elapsed
      exact ⟨hkept.putBack (List.getElem?_eq_some_iff.1 hplace).1, _, hledger⟩
  | reconfigure place sizes =>
    simp only [step]
    cases hplace : f.members[place]? with
    | none => exact ⟨h, _, .refl f.device⟩
    | some b =>
      obtain ⟨hkept, hledger⟩ := (h.isolate hplace).reconfigure sizes
      exact ⟨hkept.putBack (List.getElem?_eq_some_iff.1 hplace).1, hledger⟩
  | close place =>
    simp only [step]
    cases hplace : f.members[place]? with
    | none => exact ⟨h, _, .refl f.device⟩
    | some b =>
      obtain ⟨hkept, hledger⟩ := (h.isolate hplace).close
      exact ⟨hkept, _, hledger⟩
  | armLaunchFault =>
    obtain ⟨hkept, hledger⟩ :=
      h.rigged f.device.host true f.device.transferFault fun _ hknown => hknown
    exact ⟨hkept, _, hledger⟩
  | armTransferFault =>
    obtain ⟨hkept, hledger⟩ :=
      h.rigged f.device.host f.device.launchFault true fun _ hknown => hknown
    exact ⟨hkept, _, hledger⟩
  | registerKernel name body =>
    obtain ⟨hkept, hledger⟩ := h.rigged f.device.host f.device.launchFault f.device.transferFault
      fun kernel hknown => KernelTable.contains_insert hknown name body
    exact ⟨hkept, _, hledger⟩
  | rehost host =>
    obtain ⟨hkept, hledger⟩ :=
      h.rigged host f.device.launchFault f.device.transferFault fun _ hknown => hknown
    exact ⟨hkept, _, hledger⟩

/-- A run keeps a fleet consistent. -/
theorem Consistent.run {f : Fleet} (h : f.Consistent) (calls : List Call) :
    (f.run calls).Consistent := by
  induction calls generalizing f with
  | nil => exact h
  | cons call calls ih => exact ih (step_spec h call).1

/-- Every run of a fresh device ends in a consistent fleet. -/
theorem consistent_run_start (kernels : KernelTable) (limit : Option Nat) (host : Host)
    (calls : List Call) : ((start kernels limit host).run calls).Consistent :=
  (consistent_start kernels limit host).run calls

/-! ## A small graph -/

/-- An engine file whose graph copies a vector of 32-bit values, of any length. -/
def copyFiles : Files :=
  let tensor := fun (name : String) (direction : Direction) =>
    Descriptor.mk name direction .f32 ⟨[.dynamic "N"], by decide⟩
  ⟨fun _ => .ok (EngineFile.Contents.toBytes
    ⟨"identity", [tensor "x" .input, tensor "y" .output], []⟩)⟩

/-- Serves the graph that copies, for vectors of two values at first. -/
def copyConfig : BackendConfig :=
  { BackendConfig.new "copy" with inputSizes := [[2]], policy := .lenient }

end Fleet

end GraphServe
