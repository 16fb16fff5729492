import GraphServe.Proofs.Backend.Serving
import GraphServe.Setup

/-!
# Building and closing backends

Building a backend is refused, undone, or done (`build_cases`). If it is undone the device made a
stream and buffers and gave them back again; if it is done the backend serves slots in buffers that
the device grew by, and owns a stream that was never issued. Closing gives buffers and stream back.
A backend that was set up was built so, or is the stand-in (`setupOn_eq_ok`, `setup_eq_ok`).
-/

namespace GraphServe.EngineBackend

open Buffer (Growth)

variable {b : EngineBackend} {slots : List Slot} {d : Device}

/-- What building a backend gives and leaves. -/
inductive Building (d : Device) : Outcome Device EngineBackend → Prop
  | refused (e : EngineError) : Building d (.error e, d)
  | undone (e : EngineError) {fresh : List Buffer} {d' : Device}
    (growth : Growth d.createStream.2 fresh d') :
    Building d (.error e, ((Buffer.discardAll d' fresh).destroyStream d.createStream.1).2)
  | done {b : EngineBackend} {d' : Device} (slots : List Slot) (serves : b.Serves slots)
    (stream_eq : b.context.stream = d.createStream.1)
    (kernel : d.hasKernel b.graph.kernel = true) (growth : Growth d.createStream.2 b.buffers d') :
    Building d (.ok b, d')

/-- The backend of a graph is refused, undone, or done. -/
theorem ofGraph_cases (d : Device) (config : BackendConfig) (graph : Graph) :
    Building d (ofGraph d config graph) := by
  unfold ofGraph Context.create
  by_cases hkernel : d.hasKernel graph.kernel
  · simp only [hkernel, if_true]
    -- a new context has no shapes, so that it is resolved like one that was reset
    have hblank : Context.Blank ⟨graph, d.createStream.1, .configuring,
        List.replicate graph.registry.size none, []⟩ := ⟨rfl, List.length_replicate, rfl⟩
    rcases Context.resolve_cases hblank config.batchSize config.inputSizes with
      ⟨e, slots', -, hresolve⟩ | ⟨shapes, hlength, hresolve⟩
    · simp only [hresolve]
      exact .undone e (.refl _)
    · simp only [hresolve, prepare, Buffer.allocateAll, if_neg (not_not_intro hlength)]
      obtain ⟨hgrowth, hslots⟩ := Buffer.allocateEach_spec d.createStream.2 hlength
      rcases hrun : Buffer.allocateEach d.createStream.2 graph.registry.all shapes with
        ⟨⟨buffers, _ | e⟩, d'⟩
      · rw [hrun] at hgrowth hslots
        obtain ⟨slots, htensors, rfl, hbuffers⟩ := hslots rfl
        exact .done slots ⟨htensors, rfl, hbuffers, rfl, rfl, rfl⟩ rfl hkernel hgrowth
      · rw [hrun] at hgrowth
        exact .undone e hgrowth
  · simp only [hkernel, Bool.false_eq_true, if_false]
    exact .refused _

/-- Building a backend is refused, undone, or done. -/
theorem build_cases (files : Files) (config : BackendConfig) (d : Device) :
    Building d (build files config d) := by
  unfold build
  cases loadGraph files config with
  | error e => exact .refused e
  | ok graph => exact ofGraph_cases d config graph

/-- A backend that was built is new: it served no call, and nothing failed yet. -/
theorem exists_eq_assemble {files : Files} {config : BackendConfig} {d' : Device}
    (h : build files config d = (.ok b, d')) :
    ∃ context buffers shapes, b = assemble config context buffers shapes := by
  rw [build] at h
  cases hgraph : loadGraph files config with
  | error e =>
    rw [hgraph] at h
    cases h
  | ok graph =>
    simp only [hgraph] at h
    rw [ofGraph] at h
    split at h
    · cases h
    · split at h
      · cases h
      · rw [prepare] at h
        split at h
        · cases h
        · split at h
          · cases h
          · cases h
            exact ⟨_, _, _, rfl⟩

/-- A device on which a backend was built has the same host as before. -/
theorem host_of_build {files : Files} {config : BackendConfig} {d' : Device}
    (h : build files config d = (.ok b, d')) : d'.host = d.host := by
  have hcases := build_cases files config d
  rw [h] at hcases
  cases hcases with
  | done slots serves stream_eq kernel growth => exact growth.host_eq

/-- A backend that could not be built leaves nothing behind but counters that have advanced and its
requests in the record. -/
theorem device_of_undone {d' : Device} {fresh : List Buffer} (hd : d.Orderly)
    (growth : Growth d.createStream.2 fresh d') :
    ((Buffer.discardAll d' fresh).destroyStream d.createStream.1).2 =
      { d with
        nextAddress := d'.nextAddress
        nextStream := d.nextStream + 1
        frees := d.frees ++ Buffer.grants fresh } := by
  -- the stream was not among those before, so that erasing it leaves exactly these
  have herased : (d.streams ++ [d.createStream.1]).erase d.createStream.1 = d.streams := by
    rw [List.erase_append_right _ hd.nextStream_not_mem, List.erase_cons_head, List.append_nil]
  have hstream : d.createStream.1 ∈ (Buffer.discardAll d' fresh).streams := by
    rw [growth.discardAll_eq hd.createStream]
    exact List.mem_append_right _ List.mem_cons_self
  rw [Device.destroyStream_of_mem hstream, growth.discardAll_eq hd.createStream]
  exact congrArg (fun streams => { d with
    streams
    nextAddress := d'.nextAddress
    nextStream := d.nextStream + 1
    frees := d.frees ++ Buffer.grants fresh }) herased

end GraphServe.EngineBackend

namespace GraphServe.Backend

/-! ## Setting up -/

variable {files : Files} {host : Host} {config : BackendConfig} {b : Backend} {d d' : Device}

/-- What is set up on the shared device was built there, or is the stand-in. -/
theorem setupOn_eq_ok (h : setupOn files config d = (.ok b, d')) :
    (config.kind = .engine ∧ ∃ e, b = .shared e ∧
        EngineBackend.build files config d = (.ok e, d')) ∨
      (config.kind = .mock ∧ b = .mock (.new config.batchSize)) := by
  rw [setupOn] at h
  split at h
  · cases h
  · cases hkind : config.kind with
    | engine =>
      simp only [hkind, buildShared] at h
      split at h
      · next e d₁ hbuild =>
        cases h
        exact Or.inl ⟨rfl, e, rfl, hbuild⟩
      · cases h
    | mock =>
      rw [hkind] at h
      cases h
      exact Or.inr ⟨rfl, rfl⟩

/-- What is set up on a device of its own was built there, or is the stand-in. -/
theorem setup_eq_ok (h : setup files host config = .ok b) :
    (config.kind = .engine ∧ ∃ e own, b = .alone e own ∧
        EngineBackend.build files config (ownDevice host config) = (.ok e, own)) ∨
      (config.kind = .mock ∧ b = .mock (.new config.batchSize)) := by
  obtain ⟨⟨⟩, -, h⟩ := bind_eq_ok_iff.1 h
  cases hkind : config.kind with
  | engine =>
    simp only [hkind, buildAlone] at h
    split at h
    · next e own hbuild =>
      cases h
      exact Or.inl ⟨rfl, e, own, rfl, hbuild⟩
    · cases h
  | mock =>
    rw [hkind] at h
    cases h
    exact Or.inr ⟨rfl, rfl⟩

end GraphServe.Backend
