import GraphServe.Proofs.Backend.Lifetime
import GraphServe.Proofs.Backend.Reconfiguration
import GraphServe.Proofs.Tenancy.Calls

/-!
# Footprints of backends

What a backend does to a quiet device leaves its mark on its own buffers and its own stream only,
and the buffers it takes lie at addresses that were never issued before (`Acted`). A backend that
shares neither a buffer nor the stream with it stays where it is and keeps what it holds
(`EngineBackend.Resides.spared`).
-/

namespace GraphServe

open Device (Quiet Footprint)

variable {kernels : KernelTable} {host : Host} {d d' : Device}

/-! ## Bystanders -/

namespace EngineBackend

variable {b : EngineBackend} {slots : List Slot}

theorem Resides.held (h : b.Resides d) : Buffer.Held b.buffers d := ⟨h.owned, h.distinct⟩

/-- A backend out of the footprint stays where it is and keeps what it holds. -/
theorem Resides.spared (hr : b.Resides d) {own : List Address} {streams : List Stream}
    (h : Footprint own streams d d') (hd : d.Orderly) (hkernels : d'.kernels = d.kernels)
    (hapart : ∀ a ∈ b.addresses, a ∉ own) (hstream : b.context.stream ∉ streams) :
    b.Resides d' ∧ b.contents d' = b.contents d := by
  have hregion : ∀ u ∈ b.buffers, d'.region? u.address = d.region? u.address := by
    intro u hu
    have hmem : u.address ∈ b.addresses := List.mem_map_of_mem hu
    exact h.region_eq _ (hr.held.issued hd hmem) (hapart _ hmem)
  refine ⟨⟨?_, hr.distinct, h.stream_mem _ hr.stream_mem hstream, ?_⟩, ?_⟩
  · intro u hu
    exact Device.mem_extents_of_region?_eq hd (hr.owned u hu) (hregion u hu)
  · rw [Device.hasKernel, hkernels]
    exact hr.kernel_mem
  · refine List.map_congr_left ?_
    intro u hu
    rw [Device.bytes?, Device.bytes?, hregion u hu]

/-! ## Where a backend resides -/

/-- A call leaves the backend where it is. -/
theorem Resides.infer (hr : b.Resides d) (hb : b.Serves slots) (hd : d.Orderly)
    (inputs : List Bytes) (elapsed : Duration) :
    (b.infer d inputs elapsed).2.1.Resides (b.infer d inputs elapsed).2.2 ∧
      (b.infer d inputs elapsed).2.2.Orderly := by
  have hcalled := infer_spec hb hr hd inputs elapsed
  generalize b.infer d inputs elapsed = run at hcalled
  have hkeeps : Device.Keeps b.addresses d run.2.2 := hcalled.keeps
  have hbuffers : run.2.1.buffers = b.buffers := by rw [hcalled.frame]
  have hgraph : run.2.1.graph = b.graph := by
    rw [hcalled.frame]
    rfl
  refine ⟨⟨?_, ?_, ?_, ?_⟩, hkeeps.orderly hd⟩
  · rw [hbuffers, hkeeps.extents_eq]
    exact hr.owned
  · rw [hbuffers]
    exact hr.distinct
  · rw [hcalled.frame, hkeeps.streams_eq]
    exact hr.stream_mem
  · rw [Device.hasKernel, hkeeps.kernels_eq, hgraph]
    exact hr.kernel_mem

/-- With new sizes a backend resides in its new buffers, and if it takes none in its old ones. -/
theorem Resides.reconfigure (hr : b.Resides d) (hb : b.Serves slots) (hd : d.Orderly)
    (sizes : List (List Int64)) :
    (b.reconfigure d sizes).2.1.Resides (b.reconfigure d sizes).2.2 ∧
      (b.reconfigure d sizes).2.2.Orderly := by
  have hcases := reconfigure_cases hb d sizes
  generalize b.reconfigure d sizes = run at hcases
  cases hcases with
  | @undone e fresh d₁ cause growth =>
    simp only [growth.discardAll_eq hd]
    exact ⟨⟨hr.owned, hr.distinct, hr.stream_mem, hr.kernel_mem⟩,
      hd.advance growth.nextAddress_le (Nat.le_refl _) _⟩
  | @done filled fresh old d₁ usable accepted tensors_eq growth perm =>
    have hheld := (hr.held.grow hd growth).perm perm.symm
    obtain ⟨others, hreturned⟩ := hheld.right.exists_returned (growth.orderly hd)
    have hkept := hheld.discardAll (growth.orderly hd)
    refine ⟨⟨hkept.owned, hkept.distinct, ?_, ?_⟩, hreturned.orderly⟩
    · show b.context.stream ∈ (Buffer.discardAll d₁ old).streams
      rw [hreturned.streams_eq, growth.streams_eq]
      exact hr.stream_mem
    · show (Buffer.discardAll d₁ old).kernels.contains b.graph.kernel = true
      rw [hreturned.kernels_eq, growth.kernels_eq]
      exact hr.kernel_mem

/-- A backend resides where it was built. -/
theorem resides_of_build {files : Files} {config : BackendConfig} (hd : d.Orderly)
    (h : build files config d = (.ok b, d')) : b.Resides d' ∧ d'.Orderly := by
  have hcases := build_cases files config d
  rw [h] at hcases
  cases hcases with
  | done slots serves stream_eq kernel growth =>
    have hnothing : Buffer.Held [] d.createStream.2 := ⟨by simp, List.nodup_nil⟩
    have hheld := hnothing.grow hd.createStream growth
    rw [List.append_nil] at hheld
    refine ⟨⟨hheld.owned, hheld.distinct, ?_, ?_⟩, growth.orderly hd.createStream⟩
    · rw [growth.streams_eq, stream_eq]
      exact List.mem_append_right _ List.mem_cons_self
    · rw [Device.hasKernel, growth.kernels_eq]
      exact kernel

/-! ## What a backend leaves -/

/-- After an operation a backend serves slots on a quiet device, lies at addresses it had or at such
as were never issued, has the stream it had, and left its mark on what it owned only. -/
structure Acted (kernels : KernelTable) (host : Host) (b : EngineBackend) (d : Device)
    (b' : EngineBackend) (d' : Device) : Prop where
  serves : ∃ slots, b'.Serves slots
  resides : b'.Resides d'
  quiet : d'.Quiet kernels host
  footprint : Footprint b.addresses [] d d'
  addresses : ∀ a ∈ b'.addresses, a ∈ b.addresses ∨ d.nextAddress ≤ a.value
  stream_eq : b'.context.stream = b.context.stream

/-- A call leaves its mark on the buffers of the backend only. -/
theorem acted_infer (hb : b.Serves slots) (hr : b.Resides d) (hd : d.Quiet kernels host)
    (hunarmed : kernels.Unarmed) (inputs : List Bytes) (elapsed : Duration) :
    Acted kernels host b d (b.infer d inputs elapsed).2.1 (b.infer d inputs elapsed).2.2 := by
  have hcalled := infer_spec hb hr hd.orderly inputs elapsed
  have hresides := (hr.infer hb hd.orderly inputs elapsed).1
  -- every backend is its own twin
  have hquiet := ((Twins.refl b d).infer hb hb hr hr hd hd hunarmed inputs elapsed).quiet
  generalize b.infer d inputs elapsed = run at hcalled hresides hquiet
  have hkeeps : Device.Keeps b.addresses d run.2.2 := hcalled.keeps
  have hbuffers : run.2.1.buffers = b.buffers := by rw [hcalled.frame]
  have hstream : run.2.1.context.stream = b.context.stream := by rw [hcalled.frame]
  refine ⟨⟨slots, hcalled.serves⟩, hresides, hquiet, .ofKeeps hkeeps, ?_, hstream⟩
  intro a ha
  rw [addresses, hbuffers] at ha
  exact Or.inl ha

/-- Taking new sizes, or failing to, leaves its mark on the buffers of the backend only. -/
theorem acted_reconfigure (hb : b.Serves slots) (hr : b.Resides d) (hd : d.Quiet kernels host)
    (sizes : List (List Int64)) :
    Acted kernels host b d (b.reconfigure d sizes).2.1 (b.reconfigure d sizes).2.2 := by
  have hcases := reconfigure_cases hb d sizes
  have hserves := hcases.exists_serves hb
  have hresides := (hr.reconfigure hb hd.orderly sizes).1
  generalize b.reconfigure d sizes = run at hcases hserves hresides
  cases hcases with
  | @undone e fresh d₁ cause growth =>
    have hback := growth.discardAll_eq hd.orderly
    have hle := growth.nextAddress_le
    simp only [hback] at hresides ⊢
    exact ⟨⟨slots, hb⟩, hresides, hd.advance hle (Nat.le_refl _) _,
      .advance _ _ hle (Nat.le_refl _) _, fun a ha => Or.inl ha, rfl⟩
  | @done filled fresh old d₁ usable accepted tensors_eq growth perm =>
    have hheld := (hr.held.grow hd.orderly growth).perm perm.symm
    have hd₁ := growth.quiet hd
    obtain ⟨others, hreturned⟩ := hheld.right.exists_returned hd₁.orderly
    refine ⟨hserves, hresides, hreturned.quiet hd₁, ?_, ?_, rfl⟩
    · apply ((Footprint.ofGrowth growth).mono (List.nil_subset _) (List.Subset.refl _)).trans
        (.ofReturned hreturned) _ (List.Subset.refl _)
      -- what is given back is fresh, or was a buffer of the backend
      intro a ha hissued
      obtain ⟨u, hu, rfl⟩ := List.mem_map.1 ha
      rcases List.mem_append.1 (perm.mem_iff.1 (List.mem_append_right _ hu)) with hfresh | hown
      · exact absurd (growth.unissued u hfresh) (Nat.not_le_of_lt hissued)
      · exact List.mem_map_of_mem hown
    · intro a ha
      obtain ⟨u, hu, rfl⟩ := List.mem_map.1 ha
      rcases List.mem_append.1 (perm.mem_iff.1 (List.mem_append_left _ hu)) with hfresh | hown
      · exact Or.inr (growth.unissued u hfresh)
      · exact Or.inl (List.mem_map_of_mem hown)

/-- Building a backend takes new addresses and a new stream, or leaves nothing behind. -/
theorem build_footprint (files : Files) (config : BackendConfig) (hd : d.Quiet kernels host) :
    (build files config d).2.Quiet kernels host ∧ Footprint [] [] d (build files config d).2 ∧
      ∀ b, (build files config d).1 = .ok b →
        (∃ slots, b.Serves slots) ∧ b.Resides (build files config d).2 ∧
        (∀ a ∈ b.addresses, d.nextAddress ≤ a.value) ∧ d.nextStream ≤ b.context.stream.handle := by
  have hcases := build_cases files config d
  have hresides : ∀ b, (build files config d).1 = .ok b → b.Resides (build files config d).2 := by
    intro b hok
    exact (resides_of_build hd.orderly (Prod.ext hok rfl)).1
  generalize build files config d = run at hcases hresides
  cases hcases with
  | refused e =>
    refine ⟨hd, .refl _ _ d, ?_⟩
    intro b hok
    cases hok
  | @undone e fresh d₁ growth =>
    have hback := device_of_undone hd.orderly growth
    have hle : d.nextAddress ≤ d₁.nextAddress := growth.nextAddress_le
    simp only [hback]
    refine ⟨hd.advance hle (Nat.le_succ _) _, .advance _ _ hle (Nat.le_succ _) _, ?_⟩
    intro b hok
    cases hok
  | @done b d₁ slots serves stream_eq kernel growth =>
    refine ⟨growth.quiet hd.createStream,
      (Footprint.createStream d).trans (.ofGrowth growth) (by simp) (List.nil_subset _), ?_⟩
    intro b' hok
    cases hok
    refine ⟨⟨slots, serves⟩, hresides b rfl, ?_, ?_⟩
    · intro a ha
      obtain ⟨u, hu, rfl⟩ := List.mem_map.1 ha
      exact growth.unissued u hu
    · rw [stream_eq]
      exact Nat.le_refl _

/-- Closing a backend takes away its buffers and its stream only. -/
theorem close_footprint (hr : b.Resides d) (hd : d.Quiet kernels host) :
    (b.close d).Quiet kernels host ∧ Footprint b.addresses [b.context.stream] d (b.close d) := by
  obtain ⟨others, hreturned⟩ := hr.held.exists_returned hd.orderly
  have hquiet := hreturned.quiet hd
  have hstream : b.context.stream ∈ (Buffer.discardAll d b.buffers).streams := by
    rw [hreturned.streams_eq]
    exact hr.stream_mem
  have hclosed : b.close d = { Buffer.discardAll d b.buffers with
      streams := (Buffer.discardAll d b.buffers).streams.erase b.context.stream } := by
    rw [close, Buffer.releaseAll_snd, Context.close, Device.destroyStream_of_mem hstream]
  rw [hclosed]
  have hunlimited := hquiet.unlimited
  refine ⟨⟨hquiet.orderly.eraseStream _, hquiet.kernels_eq, ⟨hunlimited.limit_eq,
    hunlimited.host_eq⟩, hquiet.launchFault_eq, hquiet.transferFault_eq⟩, ⟨?_, ?_, ?_, ?_⟩⟩
  · intro a _ ha
    exact hreturned.elsewhere a ha
  · intro s hs hother
    show s ∈ (Buffer.discardAll d b.buffers).streams.erase b.context.stream
    rw [List.mem_erase_of_ne (by simpa using hother), hreturned.streams_eq]
    exact hs
  · exact Nat.le_of_eq hreturned.nextAddress_eq.symm
  · have hnext : (Buffer.discardAll d b.buffers).nextStream = d.nextStream := by
      rw [hreturned.frame]
    exact Nat.le_of_eq hnext.symm

end EngineBackend

end GraphServe
