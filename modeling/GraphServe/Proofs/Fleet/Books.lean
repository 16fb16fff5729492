import GraphServe.Proofs.Fleet.Basic

/-!
# The books of a device

After every run the bytes in use, the live regions and the streams of the device are those of the
members added up. The device records every request to take a region back: each was granted, no
region was given back twice or while it is still in use, and one that is not live any more was given
back once (`books_balance`).
-/

namespace GraphServe

namespace Fleet

/-- A run is entered into the ledger. -/
theorem ledger_run {f : Fleet} (h : f.Consistent) (calls : List Call) :
    ∃ freed, f.device.Ledger freed (f.run calls).device := by
  induction calls generalizing f with
  | nil => exact ⟨_, .refl _⟩
  | cons call calls ih =>
    obtain ⟨hstep, freed, hledger⟩ := step_spec h call
    obtain ⟨later, hrest⟩ := ih hstep
    exact ⟨_, hledger.trans hrest⟩

/-! ## Sums over the members -/

/-- The device's figures are those of the members added up, and each member has one stream. -/
structure Balanced (f : Fleet) : Prop where
  inUse_eq : f.device.inUse = (f.members.map EngineBackend.memoryUsage).sum
  liveRegions_eq : f.device.liveRegions = (f.members.map fun b => b.graph.registry.size).sum
  streams_perm : f.device.streams.Perm (f.members.map fun b => b.context.stream)
  streams_nodup : f.device.streams.Nodup

theorem sum_map_snd_extents (members : List EngineBackend) :
    ((extents members).map Prod.snd).sum = (members.map EngineBackend.memoryUsage).sum := by
  induction members with
  | nil => rfl
  | cons b rest ih =>
    rw [extents, List.flatMap_cons, ← extents, List.map_append, List.sum_append, ih,
      Buffer.map_snd_map_extent, List.map_cons, List.sum_cons, EngineBackend.memoryUsage,
      Buffer.totalCapacity_eq_sum]

theorem length_extents {members : List EngineBackend}
    (h : ∀ b ∈ members, ∃ slots, b.Serves slots) :
    (extents members).length = (members.map fun b => b.graph.registry.size).sum := by
  induction members with
  | nil => rfl
  | cons b rest ih =>
    obtain ⟨slots, hb⟩ := h b List.mem_cons_self
    rw [extents, List.flatMap_cons, ← extents, List.length_append, List.length_map,
      hb.length_buffers, ih fun c hc => h c (List.mem_cons_of_mem _ hc), List.map_cons, List.sum_cons]

/-- The books of a consistent fleet are balanced. -/
theorem Consistent.balanced {f : Fleet} (h : f.Consistent) : f.Balanced where
  inUse_eq := by
    rw [h.orderly.inUse_eq, (h.extents_perm.map Prod.snd).sum_eq, sum_map_snd_extents]
  liveRegions_eq := by
    have hcount := h.extents_perm.length_eq
    rw [Device.extents, List.length_map, length_extents h.serves] at hcount
    exact hcount
  streams_perm := h.streams_perm
  streams_nodup := h.orderly.streams_distinct

/-- A fleet without members holds nothing on its device. -/
theorem Balanced.nothing_of_no_member {f : Fleet} (h : f.Balanced) (hnone : f.members = []) :
    f.device.inUse = 0 ∧ f.device.liveRegions = 0 ∧ f.device.streams = [] := by
  have hinUse := h.inUse_eq
  have hlive := h.liveRegions_eq
  have hstreams := h.streams_perm
  rw [hnone] at hinUse hlive hstreams
  exact ⟨hinUse, hlive, hstreams.eq_nil⟩

/-- A construction that fails changes nothing but counters and the record. -/
theorem unchanged_of_build_eq_error {files : Files} {config : BackendConfig} {d d' : Device}
    {e : EngineError} (hd : d.Orderly)
    (h : EngineBackend.build files config d = (.error e, d')) :
    ∃ address stream frees,
      d' = { d with nextAddress := address, nextStream := stream, frees } := by
  have hcases := EngineBackend.build_cases files config d
  rw [h] at hcases
  cases hcases with
  | refused => exact ⟨d.nextAddress, d.nextStream, d.frees, rfl⟩
  | @undone _ fresh grown growth => exact ⟨_, _, _, EngineBackend.device_of_undone hd growth⟩

/-! ## The books after any run -/

/-- After any run, whatever the host backs at any time, the books are balanced. Every request to
take a region back that the device has met was granted. No region was given back twice, and none
that is live was given back; by the end of any further run one that is live now was given back once
if it is not live any more, and else not at all. A construction that fails changes only counters and
the record, and without members nothing is left. -/
theorem books_balance (kernels : KernelTable) (limit : Option Nat) (host : Host)
    (calls : List Call) :
    let f := (start kernels limit host).run calls
    f.Balanced ∧
    (∀ request ∈ f.device.frees, request.granted = true) ∧
    (f.device.addresses ++ f.device.frees.map FreeRecord.address).Nodup ∧
    (∀ more, ∃ requests, (f.run more).device.frees = f.device.frees ++ requests ∧
      ∀ a ∈ f.device.addresses,
        requests.count (.grant a) = if a ∈ (f.run more).device.addresses then 0 else 1) ∧
    (∀ files config e d', EngineBackend.build files config f.device = (.error e, d') →
      ∃ address stream frees,
        d' = { f.device with nextAddress := address, nextStream := stream, frees }) ∧
    (f.members = [] → f.device.inUse = 0 ∧ f.device.liveRegions = 0 ∧ f.device.streams = []) := by
  intro f
  have hf : f.Consistent := consistent_run_start kernels limit host calls
  obtain ⟨freed, hledger⟩ := ledger_run (consistent_start kernels limit host) calls
  -- a fresh device has an empty record, so all that it holds was entered by the run
  have hfrees : f.device.frees = freed.map .grant := hledger.frees_eq
  refine ⟨hf.balanced, ?_, ?_, ?_, ?_, hf.balanced.nothing_of_no_member⟩
  · intro request hrequest
    rw [hfrees] at hrequest
    obtain ⟨a, -, rfl⟩ := List.mem_map.1 hrequest
    rfl
  · have haddresses : f.device.frees.map FreeRecord.address = freed := by
      rw [hfrees, List.map_map]
      exact List.map_id freed
    rw [haddresses]
    exact hledger.nodup (Device.orderly_new kernels limit host)
  · intro more
    obtain ⟨later, hmore⟩ := ledger_run hf more
    exact ⟨_, hmore.frees_eq, fun a ha => hmore.count_eq hf.orderly ha⟩
  · intro files config e d' hbuild
    exact unchanged_of_build_eq_error hf.orderly hbuild

/-- Two members, of which one takes larger buffers and the other finds no memory for its own, leave
nothing behind once both are closed. -/
theorem books_balance_two_members :
    let calls : List Call := [.build copyFiles copyConfig, .build copyFiles copyConfig,
      .reconfigure 0 [[4]], .reconfigure 1 [[4]], .armTransferFault, .infer 1 [[1]] ⟨0⟩, .close 1,
      .close 0]
    let f := (start .builtin (some 64) (.upTo 4096)).run calls
    f.members = [] ∧ f.device.inUse = 0 ∧ f.device.liveRegions = 0 ∧ f.device.streams = [] := by
  intro calls f
  have hlength : f.members.length = 0 := by decide +kernel
  have hnone : f.members = [] := List.length_eq_zero_iff.1 hlength
  have hbalance := books_balance .builtin (some 64) (.upTo 4096) calls
  rw [show (start .builtin (some 64) (.upTo 4096)).run calls = f from rfl] at hbalance
  exact ⟨hnone, hbalance.2.2.2.2.2 hnone⟩

end Fleet

end GraphServe
