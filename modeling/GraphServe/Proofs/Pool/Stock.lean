import GraphServe.Proofs.Context.Bindings
import GraphServe.Proofs.Pool.Stages

/-!
# The stock of a device

A device is used by the instances of one engine configuration and by nothing else. Each of them is
in service, or is being replaced and has come to some stage of that; a `Blueprint` tells what the
configuration demands for one. The device then holds the buffers of these instances and no others
(`Stocked`), and no instance ever holds more than one needs, so that their number bounds the memory
in use (`Stocked.inUse_le`). If the limit leaves room for so many, and the host backs what one
demands, then the next request of any stage is met (`Stocked.advance`): an instance that is being
made still asks for no more than what is missing to the bytes that one needs.
-/

namespace GraphServe

open Buffer (totalCapacity)

/-! ## Steps that keep the books -/

namespace Device

/-- A step that takes nothing from the device, gives nothing back and drops no kernel. It may write
regions, arm or use up faults, and add or replace kernels. -/
structure Touched (d d' : Device) : Prop where
  extents_eq : d'.extents = d.extents
  inUse_eq : d'.inUse = d.inUse
  nextAddress_eq : d'.nextAddress = d.nextAddress
  streams_eq : d'.streams = d.streams
  nextStream_eq : d'.nextStream = d.nextStream
  limit_eq : d'.limit = d.limit
  host_eq : d'.host = d.host
  hasKernel : ∀ kernel, d.hasKernel kernel = true → d'.hasKernel kernel = true

variable {d d' d'' : Device}

theorem Touched.refl (d : Device) : d.Touched d := ⟨rfl, rfl, rfl, rfl, rfl, rfl, rfl, fun _ h => h⟩

theorem Touched.trans (h : d.Touched d') (h' : d'.Touched d'') : d.Touched d'' where
  extents_eq := h'.extents_eq.trans h.extents_eq
  inUse_eq := h'.inUse_eq.trans h.inUse_eq
  nextAddress_eq := h'.nextAddress_eq.trans h.nextAddress_eq
  streams_eq := h'.streams_eq.trans h.streams_eq
  nextStream_eq := h'.nextStream_eq.trans h.nextStream_eq
  limit_eq := h'.limit_eq.trans h.limit_eq
  host_eq := h'.host_eq.trans h.host_eq
  hasKernel kernel hkernel := h'.hasKernel kernel (h.hasKernel kernel hkernel)

theorem Touched.orderly (h : d.Touched d') (hd : d.Orderly) : d'.Orderly where
  distinct := h.extents_eq ▸ hd.distinct
  issued := by
    rw [h.extents_eq, h.nextAddress_eq]
    exact hd.issued
  inUse_eq := by
    rw [h.extents_eq, h.inUse_eq]
    exact hd.inUse_eq
  streams_distinct := h.streams_eq ▸ hd.streams_distinct
  streams_issued := by
    rw [h.streams_eq, h.nextStream_eq]
    exact hd.streams_issued

theorem touched_armLaunchFault (d : Device) : d.Touched d.armLaunchFault :=
  ⟨rfl, rfl, rfl, rfl, rfl, rfl, rfl, fun _ h => h⟩

theorem touched_armTransferFault (d : Device) : d.Touched d.armTransferFault :=
  ⟨rfl, rfl, rfl, rfl, rfl, rfl, rfl, fun _ h => h⟩

theorem touched_registerKernel (d : Device) (name : String) (body : Kernel) :
    d.Touched (d.registerKernel name body) :=
  ⟨rfl, rfl, rfl, rfl, rfl, rfl, rfl, fun _ h => KernelTable.contains_insert h name body⟩

/-- A step that writes regions and may arm faults keeps the books. -/
theorem Keeps.touched {own : List Address} (h : Keeps own d d') : d.Touched d' where
  extents_eq := h.extents_eq
  inUse_eq := h.inUse_eq
  nextAddress_eq := h.nextAddress_eq
  streams_eq := h.streams_eq
  nextStream_eq := h.nextStream_eq
  limit_eq := h.limit_eq
  host_eq := h.host_eq
  hasKernel kernel hkernel := by
    rw [Device.hasKernel, h.kernels_eq]
    exact hkernel

end Device

namespace EngineBackend

theorem touched_enqueue (c : Context) (d : Device) : d.Touched (c.enqueue d).2.2 := by
  by_cases hphase : c.phase = .bound
  · rw [(Context.enqueue_launches hphase d).2]
    exact (d.keeps_launch c.stream c.graph.kernel c.graph.payload c.bindings).touched
  · obtain ⟨e, hrefused⟩ := Context.enqueue_refused hphase d
    rw [hrefused]
    exact .refl d

/-- The way through the device keeps its books, wherever it ends. -/
theorem touched_execute (b : EngineBackend) (d : Device) (inputs : List Bytes)
    (expected : List Nat) (shapes : List Shape) :
    d.Touched (b.execute d inputs expected shapes).2.2 := by
  have hup : d.Touched (Transfer.upload d b.graph.registry b.buffers inputs expected).2 :=
    (Transfer.keeps_uploadEach d _ inputs expected).touched
  rw [execute]
  rcases hupload : Transfer.upload d b.graph.registry b.buffers inputs expected with ⟨e | u, d₁⟩
  · rw [hupload] at hup
    exact hup
  · rw [hupload] at hup
    dsimp only
    rcases b.context.bind b.buffers with ⟨e | u, context⟩
    · exact hup
    · have hlaunch := touched_enqueue context d₁
      dsimp only
      rcases henqueue : context.enqueue d₁ with ⟨e | u, context', d₂⟩
      · rw [henqueue] at hlaunch
        exact hup.trans hlaunch
      · rw [henqueue] at hlaunch
        have hdown := (Transfer.keeps_downloadEach [] d₂ b.graph.registry.outputs
          (b.buffers.drop b.graph.registry.inputCount)
          (shapes.drop b.graph.registry.inputCount)).touched
        exact (hup.trans hlaunch).trans hdown

/-- A call keeps the buffers of the backend and the books of the device, whatever they are like. -/
theorem infer_touches (b : EngineBackend) (d : Device) (inputs : List Bytes) (elapsed : Duration) :
    (b.infer d inputs elapsed).2.1.buffers = b.buffers ∧
      d.Touched (b.infer d inputs elapsed).2.2 := by
  rw [infer]
  cases b.screen inputs with
  | error e => exact ⟨rfl, .refl d⟩
  | ok passed =>
    obtain ⟨shapes, expected⟩ := passed
    have hexecute := b.touched_execute d inputs expected shapes
    dsimp only
    rcases hrun : b.execute d inputs expected shapes with ⟨e | output, context, d'⟩
    · rw [hrun] at hexecute
      exact ⟨b.buffers_afterFailure context e, hexecute⟩
    · rw [hrun] at hexecute
      exact ⟨rfl, hexecute⟩

end EngineBackend

namespace Pool

/-! ## What a configuration demands -/

/-- What one tensor of a graph demands of a device: so many bytes. -/
structure Demand where
  tensor : Descriptor
  shape : Shape
  dtype : ElementType
  bytes : Nat
  dtype_eq : tensor.elementType = .ok dtype
  bytes_eq : tensor.requiredBytes shape = .ok bytes

namespace Demand

/-- The tensor with its shape. -/
def request (q : Demand) : Descriptor × Shape := (q.tensor, q.shape)

/-- A tensor has one type, and one byte size at its shape. -/
theorem request_injective : Function.Injective request := by
  rintro ⟨t, s, dtype, bytes, hdtype, hbytes⟩ ⟨t', s', dtype', bytes', hdtype', hbytes'⟩ h
  obtain ⟨rfl, rfl⟩ := Prod.mk.inj h
  obtain rfl : dtype = dtype' := Except.ok.inj (hdtype.symm.trans hdtype')
  obtain rfl : bytes = bytes' := Except.ok.inj (hbytes.symm.trans hbytes')
  rfl

/-- If the limit leaves room and the host backs it, a buffer is allocated. -/
theorem allocate_of_room (q : Demand) {d : Device}
    (hroom : ∀ limit, d.limit = some limit → d.inUse + q.bytes ≤ limit)
    (hbacked : d.backs q.bytes = true) :
    Buffer.allocate d q.tensor q.shape =
      (.ok ⟨q.tensor.name, q.dtype, ⟨d.nextAddress⟩, q.bytes⟩, d.withRegion q.bytes) := by
  rw [Buffer.allocate, q.dtype_eq]
  dsimp only
  rw [q.bytes_eq]
  dsimp only
  rw [Device.malloc_of_room hroom hbacked]

end Demand

/-- Buffers that were allocated for tensors show what these demand. -/
theorem exists_demands_of_allocateEach {d d' : Device} {tensors : List Descriptor}
    {shapes : List Shape} {made : List Buffer}
    (h : Buffer.allocateEach d tensors shapes = (⟨made, none⟩, d')) :
    ∃ demands : List Demand, tensors.zip shapes = demands.map Demand.request ∧
      made.map Buffer.capacity = demands.map Demand.bytes := by
  have hexact := Buffer.exact_of_allocateEach h
  clear h
  generalize tensors.zip shapes = rows at hexact ⊢
  induction hexact with
  | nil => exact ⟨[], rfl, rfl⟩
  | @cons row u rows made first rest ih =>
    obtain ⟨demands, hrequests, hcapacities⟩ := ih
    refine ⟨⟨row.1, row.2, u.dtype, u.capacity, first.dtype_eq, first.bytes_eq⟩ :: demands,
      ?_, ?_⟩
    · rw [List.map_cons, ← hrequests]
      rfl
    · rw [List.map_cons, List.map_cons, hcapacities]

open EngineBackend (blankContext blank_blankContext loadGraph)

/-- What every instance of a configuration is made by: the graph in its file, the shapes that its
sizes resolve to on any stream, and what the tensors demand at them. -/
structure Blueprint (files : Files) (config : BackendConfig) where
  graph : Graph
  shapes : List Shape
  demands : List Demand
  kind_eq : config.kind = .engine
  loaded : loadGraph files config = .ok graph
  resolved : ∀ stream,
    (blankContext graph stream).resolve config.batchSize config.inputSizes =
      (.ok shapes, { blankContext graph stream with
        phase := .shapesResolved, shapes := shapes.map some })
  requests_eq : graph.registry.all.zip shapes = demands.map Demand.request

variable {files : Files} {config : BackendConfig}

/-- Only a valid configuration has a graph. -/
theorem valid_of_loadGraph {graph : Graph} (h : loadGraph files config = .ok graph) :
    config.validate = .ok () := by
  obtain ⟨⟨⟩, hvalid, -⟩ := bind_eq_ok_iff.1 h
  exact hvalid

namespace Blueprint

/-- The bytes that one instance needs. -/
def need (plan : Blueprint files config) : Nat := (plan.demands.map Demand.bytes).sum

/-- An engine configuration that was set up on a shared device was built there. -/
theorem exists_build_of_setupOn {d d' : Device} {b : Backend} (hkind : config.kind = .engine)
    (h : Backend.setupOn files config d = (.ok b, d')) :
    ∃ e, b = .shared e ∧ EngineBackend.build files config d = (.ok e, d') := by
  rcases Backend.setupOn_eq_ok h with ⟨-, hbuilt⟩ | ⟨hmock, -⟩
  · exact hbuilt
  · rw [hkind] at hmock
    cases hmock

/-- An instance that was set up shows by what all are made. -/
theorem exists_of_setupOn {d d' : Device} {b : Backend} (hkind : config.kind = .engine)
    (h : Backend.setupOn files config d = (.ok b, d')) :
    ∃ plan : Blueprint files config, d.hasKernel plan.graph.kernel = true := by
  obtain ⟨e, -, hbuild⟩ := exists_build_of_setupOn hkind h
  obtain ⟨graph, shapes, hgraph, hkernel, hshapes, hrun, -⟩ :=
    EngineBackend.exists_of_build_eq_ok hbuild
  obtain ⟨demands, hrequests, -⟩ := exists_demands_of_allocateEach hrun
  refine ⟨⟨graph, shapes, demands, hkind, hgraph, ?_, hrequests⟩, hkernel⟩
  intro stream
  -- resolving does not look at the stream, so it gives the same shapes on every one
  have hunplaced : (blankContext graph stream).unplaced =
      (blankContext graph d.createStream.1).unplaced := rfl
  have hsame := (Context.resolve_fst_eq hunplaced config.batchSize config.inputSizes).trans hshapes
  rcases Context.resolve_cases (blank_blankContext graph stream) config.batchSize
    config.inputSizes with ⟨e, slots, -, hresolve⟩ | ⟨shapes', -, hresolve⟩
  · rw [hresolve] at hsame
    cases hsame
  · rw [hresolve] at hsame
    cases hsame
    exact hresolve

/-- The buffers of an instance that was set up are what the device grew by, and they hold the bytes
that the tensors demand. -/
theorem growth_of_setupOn (plan : Blueprint files config) {d d' : Device} {b : Backend}
    (h : Backend.setupOn files config d = (.ok b, d')) :
    ∃ e, b = .shared e ∧ Buffer.Growth d.createStream.2 e.buffers d' ∧
      e.buffers.map Buffer.capacity = plan.demands.map Demand.bytes := by
  obtain ⟨e, rfl, hbuild⟩ := exists_build_of_setupOn plan.kind_eq h
  obtain ⟨graph, shapes, hgraph, -, hshapes, hrun, -⟩ := EngineBackend.exists_of_build_eq_ok hbuild
  -- the graph and the shapes are those of the blueprint
  obtain rfl : graph = plan.graph := Except.ok.inj (hgraph.symm.trans plan.loaded)
  rw [plan.resolved] at hshapes
  cases hshapes
  obtain ⟨demands, hrequests, hcapacities⟩ := exists_demands_of_allocateEach hrun
  -- a demand is determined by its tensor and shape, so these are the demands of the blueprint too
  have hdemands : demands = plan.demands :=
    List.map_injective_iff.2 Demand.request_injective (hrequests.symm.trans plan.requests_eq)
  have hlength : plan.shapes.length = plan.graph.registry.all.length := by
    rcases Context.resolve_cases (blank_blankContext plan.graph d.createStream.1) config.batchSize
      config.inputSizes with ⟨e, slots, -, hresolve⟩ | ⟨shapes', hlength, hresolve⟩
    · rw [plan.resolved] at hresolve
      cases hresolve
    · rw [plan.resolved] at hresolve
      cases hresolve
      exact hlength
  have hgrowth := (Buffer.allocateEach_spec d.createStream.2 hlength).1
  rw [hrun] at hgrowth
  exact ⟨e, rfl, hgrowth, hdemands ▸ hcapacities⟩

/-- Buffers of the bytes that the tensors demand are a whole instance. -/
theorem need_eq (plan : Blueprint files config) {buffers : List Buffer}
    (h : buffers.map Buffer.capacity = plan.demands.map Demand.bytes) :
    totalCapacity buffers = plan.need := by
  rw [Buffer.totalCapacity_eq_sum, h, need]

/-- So does the first of a row of calls of the factory, whose buffers are as its tensors demand. -/
theorem exists_of_buildEach {d d' : Device} {call count : Nat} {backends : List Backend}
    (hkind : config.kind = .engine)
    (h : buildEach (sharedFactory files config) d call (count + 1) = (.ok backends, d')) :
    ∃ plan : Blueprint files config, d.hasKernel plan.graph.kernel = true ∧
      ∃ e, .shared e ∈ backends ∧
        e.buffers.map Buffer.capacity = plan.demands.map Demand.bytes := by
  rw [buildEach] at h
  rcases hfirst : (sharedFactory files config).build call d with ⟨e | first, d₁⟩
  · rw [hfirst] at h
    cases h
  · obtain ⟨plan, hkernel⟩ := exists_of_setupOn hkind hfirst
    obtain ⟨e, rfl, -, hcapacities⟩ := plan.growth_of_setupOn hfirst
    simp only [hfirst] at h
    rcases hrest : buildEach (sharedFactory files config) d₁ (call + 1) count with ⟨e' | rest, d₂⟩
    · rw [hrest] at h
      cases h
    · rw [hrest] at h
      cases h
      exact ⟨plan, hkernel, e, List.mem_cons_self, hcapacities⟩

end Blueprint

/-! ## What instances hold -/

namespace Stage

/-- The buffers that an instance holds. One in service is one that was answered. -/
def held : Stage → List Buffer
  | .closing _ left => left
  | .closed => []
  | .making _ _ made _ => made
  | .answered (some (.shared e)) => e.buffers
  | .answered _ => []

/-- An instance fits a blueprint: it is a whole one, or holds no more than one needs, and then what
it still has to allocate is exactly what is missing. -/
inductive Fit (plan : Blueprint files config) : Stage → Prop
  | closing (context : Context) (left : List Buffer) (within : totalCapacity left ≤ plan.need) :
    Fit plan (.closing context left)
  | closed : Fit plan .closed
  | making (context : Context) (shapes : List Shape) (made : List Buffer) (rest : List Demand)
    (phase_eq : context.phase = .shapesResolved) (known : rest ⊆ plan.demands)
    (whole : totalCapacity made + (rest.map Demand.bytes).sum = plan.need) :
    Fit plan (.making context shapes made (rest.map Demand.request))
  | answered (e : EngineBackend) (whole : totalCapacity e.buffers = plan.need) :
    Fit plan (.answered (some (.shared e)))

variable {plan : Blueprint files config}

theorem Fit.held_le {s : Stage} (h : s.Fit plan) : totalCapacity s.held ≤ plan.need := by
  cases h with
  | closing context left within => exact within
  | closed => exact Nat.zero_le _
  | making context shapes made rest phase_eq known whole => exact Nat.le.intro whole
  | answered e whole => exact Nat.le_of_eq whole

/-- What fits a blueprint was not given up. -/
theorem Fit.ne_answered_none {s : Stage} (h : s.Fit plan) : s ≠ .answered none := by
  rintro rfl
  cases h

end Stage

/-- The bytes that instances hold together. -/
theorem totalCapacity_held_le {plan : Blueprint files config} {holders : List Stage}
    (h : ∀ s ∈ holders, s.Fit plan) :
    totalCapacity (holders.flatMap Stage.held) ≤ holders.length * plan.need := by
  induction holders with
  | nil => exact Nat.zero_le _
  | cons s others ih =>
    have hfirst := (h s List.mem_cons_self).held_le
    have hrest := ih fun s' hs' => h s' (List.mem_cons_of_mem s hs')
    rw [Buffer.totalCapacity_eq_sum] at hfirst hrest ⊢
    rw [List.flatMap_cons, List.map_append, List.sum_append, List.length_cons, Nat.succ_mul]
    omega

/-- A device that holds the buffers of instances and no others, on a host that backs whatever one of
them demands. -/
structure Stocked (plan : Blueprint files config) (limit : Option Nat) (holders : List Stage)
    (d : Device) : Prop where
  orderly : d.Orderly
  limit_eq : d.limit = limit
  backed : ∀ q ∈ plan.demands, ∀ next, d.host.backs next q.bytes = true
  hasKernel : d.hasKernel plan.graph.kernel = true
  extents_perm : d.extents.Perm ((holders.flatMap Stage.held).map Buffer.extent)
  fit : ∀ s ∈ holders, s.Fit plan

namespace Stocked

variable {plan : Blueprint files config} {limit : Option Nat} {holders holders' others : List Stage}
  {s s' : Stage} {d d' : Device}

/-- The order of the instances does not matter. -/
theorem perm (h : Stocked plan limit holders d) (hperm : holders.Perm holders') :
    Stocked plan limit holders' d where
  orderly := h.orderly
  limit_eq := h.limit_eq
  backed := h.backed
  hasKernel := h.hasKernel
  extents_perm := h.extents_perm.trans ((hperm.flatMap_right Stage.held).map Buffer.extent)
  fit s hs := h.fit s (hperm.mem_iff.2 hs)

/-- The memory in use is what the instances hold. -/
theorem inUse_eq (h : Stocked plan limit holders d) :
    d.inUse = totalCapacity (holders.flatMap Stage.held) := by
  rw [h.orderly.inUse_eq, (h.extents_perm.map Prod.snd).sum_eq, Buffer.map_snd_map_extent,
    Buffer.totalCapacity_eq_sum]

/-- The number of instances bounds the memory in use. -/
theorem inUse_le (h : Stocked plan limit holders d) : d.inUse ≤ holders.length * plan.need := by
  rw [h.inUse_eq]
  exact totalCapacity_held_le h.fit

/-- Steps that keep the books take nothing from the stock. -/
theorem touched (h : Stocked plan limit holders d) (htouched : d.Touched d') :
    Stocked plan limit holders d' where
  orderly := htouched.orderly h.orderly
  limit_eq := htouched.limit_eq.trans h.limit_eq
  backed := htouched.host_eq ▸ h.backed
  hasKernel := htouched.hasKernel _ h.hasKernel
  extents_perm := htouched.extents_eq ▸ h.extents_perm
  fit := h.fit

/-- An instance becomes another that holds the same buffers. -/
theorem exchange (h : Stocked plan limit (s :: others) d) (hheld : s'.held = s.held)
    (hfit : s'.Fit plan) : Stocked plan limit (s' :: others) d where
  orderly := h.orderly
  limit_eq := h.limit_eq
  backed := h.backed
  hasKernel := h.hasKernel
  extents_perm := by
    rw [List.flatMap_cons, hheld]
    exact h.extents_perm
  fit s₁ hs₁ := by
    rcases List.mem_cons.1 hs₁ with rfl | hother
    · exact hfit
    · exact h.fit s₁ (List.mem_cons_of_mem s hother)

/-- A new stream changes nothing of the stock. -/
theorem createStream (h : Stocked plan limit holders d) :
    Stocked plan limit holders d.createStream.2 :=
  ⟨h.orderly.createStream, h.limit_eq, h.backed, h.hasKernel, h.extents_perm,
    h.fit⟩

/-- Neither does giving one back. -/
theorem close (h : Stocked plan limit holders d) (context : Context) :
    Stocked plan limit holders (context.close d) := by
  rw [Context.close, Device.destroyStream]
  split_ifs
  · exact ⟨h.orderly.eraseStream context.stream, h.limit_eq, h.backed, h.hasKernel, h.extents_perm,
    h.fit⟩
  · exact h

/-- An instance that was set up joins the others. -/
theorem join (h : Stocked plan limit holders d) {b : Backend}
    (hsetup : Backend.setupOn files config d = (.ok b, d')) :
    Stocked plan limit (.answered (some b) :: holders) d' := by
  obtain ⟨e, rfl, hgrowth, hcapacities⟩ := plan.growth_of_setupOn hsetup
  refine ⟨hgrowth.orderly h.orderly.createStream, ?_, ?_, ?_, ?_, ?_⟩
  · rw [hgrowth.frame]
    exact h.limit_eq
  · rw [hgrowth.host_eq]
    exact h.backed
  · rw [Device.hasKernel, hgrowth.kernels_eq]
    exact h.hasKernel
  · rw [hgrowth.extents_eq, List.flatMap_cons, List.map_append]
    exact (h.extents_perm.append_right _).trans List.perm_append_comm
  · intro s hs
    rcases List.mem_cons.1 hs with rfl | hs
    · exact .answered e (plan.need_eq hcapacities)
    · exact h.fit s hs

/-- So do the instances of a row of calls of the factory. -/
theorem joinEach (h : Stocked plan limit holders d) {call count : Nat} {backends : List Backend}
    (hbuild : buildEach (sharedFactory files config) d call count = (.ok backends, d')) :
    Stocked plan limit (backends.map (fun b => .answered (some b)) ++ holders) d' ∧
      backends.length = count := by
  induction count generalizing d call backends holders with
  | zero =>
    cases hbuild
    exact ⟨h, rfl⟩
  | succ count ih =>
    rw [buildEach] at hbuild
    rcases hfirst : (sharedFactory files config).build call d with ⟨e | first, d₁⟩
    · rw [hfirst] at hbuild
      cases hbuild
    · simp only [hfirst] at hbuild
      rcases hrest : buildEach (sharedFactory files config) d₁ (call + 1) count with ⟨e | rest, d₂⟩
      · rw [hrest] at hbuild
        cases hbuild
      · rw [hrest] at hbuild
        cases hbuild
        obtain ⟨hstocked, hlength⟩ := ih (h.join hfirst) hrest
        exact ⟨hstocked.perm List.perm_middle, congrArg (· + 1) hlength⟩

/-! ## One request further -/

/-- A buffer that is given back leaves the stock. -/
theorem release {context : Context} {u : Buffer} {left : List Buffer}
    (h : Stocked plan limit (.closing context (u :: left) :: others) d) :
    Stocked plan limit (.closing context left :: others) (Buffer.release d u).2 := by
  have hperm : d.extents.Perm ([u].map Buffer.extent ++
      ((left ++ others.flatMap Stage.held).map Buffer.extent)) := h.extents_perm
  have hreturned := Buffer.discardAll_spec h.orderly hperm
  change Buffer.Returned d [u] _ (Buffer.release d u).2 at hreturned
  -- with one buffer less the instance holds no more than before
  refine ⟨hreturned.orderly, ?_, ?_, ?_, hreturned.extents_perm, ?_⟩
  · rw [hreturned.frame]
    exact h.limit_eq
  · rw [hreturned.frame]
    exact h.backed
  · rw [Device.hasKernel, hreturned.kernels_eq]
    exact h.hasKernel
  · intro s hs
    rcases List.mem_cons.1 hs with rfl | hother
    · have hwithin := (h.fit _ List.mem_cons_self).held_le
      rw [Stage.held, totalCapacity] at hwithin
      exact .closing context left (Nat.le_trans (Nat.le_add_left _ _) hwithin)
    · exact h.fit s (List.mem_cons_of_mem _ hother)

/-- What an instance still has to allocate the limit leaves room for. -/
theorem room {context : Context} {shapes : List Shape} {made : List Buffer}
    {left : List (Descriptor × Shape)} {rest : List Demand} {q : Demand}
    (h : Stocked plan limit (.making context shapes made left :: others) d)
    (hwhole : totalCapacity made + ((q :: rest).map Demand.bytes).sum = plan.need)
    (hroom : ∀ bytes, limit = some bytes → (others.length + 1) * plan.need ≤ bytes) :
    ∀ bytes, d.limit = some bytes → d.inUse + q.bytes ≤ bytes := by
  intro bytes hbytes
  have hothers := totalCapacity_held_le fun s hs => h.fit s (List.mem_cons_of_mem _ hs)
  have hall := hroom bytes (h.limit_eq ▸ hbytes)
  -- the others hold at most what they need, and this one has so much left
  calc d.inUse + q.bytes
      = totalCapacity (others.flatMap Stage.held) + (totalCapacity made + q.bytes) := by
        rw [h.inUse_eq]
        simp only [Buffer.totalCapacity_eq_sum, List.flatMap_cons, Stage.held, List.map_append,
          List.sum_append]
        omega
    _ ≤ others.length * plan.need + plan.need := by
        refine Nat.add_le_add hothers ?_
        rw [← hwhole, List.map_cons, List.sum_cons]
        omega
    _ = (others.length + 1) * plan.need := (Nat.succ_mul _ _).symm
    _ ≤ bytes := hall

/-- A buffer for the first of the missing tensors comes into the stock. -/
theorem allocate {context : Context} {shapes : List Shape} {made : List Buffer}
    {rest : List Demand} {q : Demand}
    (h : Stocked plan limit
      (.making context shapes made ((q :: rest).map Demand.request) :: others) d)
    (hphase : context.phase = .shapesResolved) (hknown : q :: rest ⊆ plan.demands)
    (hwhole : totalCapacity made + ((q :: rest).map Demand.bytes).sum = plan.need) :
    Stocked plan limit
      (.making context shapes (made ++ [⟨q.tensor.name, q.dtype, ⟨d.nextAddress⟩, q.bytes⟩])
        (rest.map Demand.request) :: others) (d.withRegion q.bytes) := by
  refine ⟨h.orderly.withRegion q.bytes, h.limit_eq, h.backed, h.hasKernel, ?_, ?_⟩
  · rw [Device.extents_withRegion]
    refine (h.extents_perm.append_right _).trans ?_
    -- the new extent moves from the end to the other buffers of its instance
    simp only [List.flatMap_cons, Stage.held, List.map_append, List.map_cons, List.map_nil,
      List.append_assoc]
    exact List.perm_append_comm.append_left _
  · intro s hs
    rcases List.mem_cons.1 hs with rfl | hother
    · refine .making context shapes _ rest hphase (List.cons_subset.1 hknown).2 ?_
      rw [← hwhole]
      simp only [Buffer.totalCapacity_eq_sum, List.map_append, List.map_cons, List.map_nil,
        List.sum_append, List.sum_cons, List.sum_nil]
      omega
    · exact h.fit s (List.mem_cons_of_mem _ hother)

/-- With room for all, the next request of a retirement is met and keeps the stock in order. -/
theorem advance (h : Stocked plan limit (s :: others) d)
    (hroom : ∀ bytes, limit = some bytes → (others.length + 1) * plan.need ≤ bytes) (p : Pool) :
    Stocked plan limit ((Stage.advance files config (s, p, d)).1 :: others)
      (Stage.advance files config (s, p, d)).2.2 := by
  cases h.fit s List.mem_cons_self with
  | closing context left within =>
    cases left with
    | nil =>
      have hclosed : Stocked plan limit (.closed :: others) d := h.exchange rfl .closed
      exact hclosed.close context
    | cons u left => exact h.release
  | closed =>
    -- the order is accepted, as everything it looks at is as it was for the first instance
    have hordered : Stage.ordered files config d =
        (.making { blankContext plan.graph d.createStream.1 with
          phase := .shapesResolved, shapes := plan.shapes.map some } plan.shapes []
          (plan.demands.map Demand.request), d.createStream.2) := by
      have hresolved := plan.resolved d.createStream.1
      rw [blankContext] at hresolved
      rw [Stage.ordered, valid_of_loadGraph plan.loaded, plan.kind_eq]
      simp only [plan.loaded, Context.create, if_pos h.hasKernel, hresolved, plan.requests_eq]
      rfl
    simp only [Stage.advance, hordered]
    refine h.createStream.exchange rfl (.making _ _ [] plan.demands rfl (List.Subset.refl _) ?_)
    exact Nat.zero_add _
  | making context shapes made rest phase_eq known whole =>
    cases rest with
    | nil =>
      have hmark : context.markAllocated = (.ok (), { context with phase := .ready }) := by
        rw [Context.markAllocated, Context.expect_eq_ok (by simp [phase_eq]), ok_bind]
        rfl
      simp only [List.map_nil, Stage.advance, Stage.completed, hmark]
      exact h.exchange rfl (.answered _ whole)
    | cons q rest =>
      have hbacked := h.backed q (known List.mem_cons_self) d.nextAddress
      have hallocate := q.allocate_of_room (h.room whole hroom) hbacked
      simp only [List.map_cons, Demand.request, Stage.advance, hallocate]
      exact h.allocate phase_eq known whole
  | answered e whole => exact h

end Stocked

end Pool

end GraphServe
