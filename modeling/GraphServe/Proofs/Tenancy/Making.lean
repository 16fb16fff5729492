import GraphServe.Proofs.Tenancy.Footprints

/-!
# Making buffers alike

Shapes are resolved without a look at the stream, and on devices without a limit the same requests
for memory are met if their host answers equal requests alike. So a backend is built on two such
devices alike, up to where it lies (`build_alike`), and twins take new sizes alike
(`Twins.reconfigure`): fresh buffers are clear on either device, and the buffers that are kept hold
what they held.
-/

namespace GraphServe

/-! ## Resolving shapes -/

namespace Context

theorem acceptShape_unplaced (c : Context) (ordinal : Nat) (s : Shape) :
    c.unplaced.acceptShape ordinal s = (c.acceptShape ordinal s).map unplaced := by
  rw [acceptShape, acceptShape]
  rw [show c.unplaced.expect [.configuring] "set an input shape" =
    c.expect [.configuring] "set an input shape" from rfl]
  cases c.expect [.configuring] "set an input shape" with
  | error e => rfl
  | ok u =>
    simp only [ok_bind]
    rw [show c.unplaced.graph = c.graph from rfl]
    split
    · rfl
    · split_ifs
      · rfl
      · split
        · rfl
        · rfl

theorem setInputShape_unplaced (c : Context) (ordinal : Nat) (s : Shape) :
    c.unplaced.setInputShape ordinal s =
      ((c.setInputShape ordinal s).1, (c.setInputShape ordinal s).2.unplaced) := by
  rw [setInputShape, setInputShape, acceptShape_unplaced]
  cases c.acceptShape ordinal s with
  | error e => rfl
  | ok c' => rfl

theorem setInputs_unplaced (batchSize : UInt64) (c : Context) (ordinal : Nat)
    (inputs : List Descriptor) (sizes : List (List Int64)) :
    setInputs batchSize c.unplaced ordinal inputs sizes =
      ((setInputs batchSize c ordinal inputs sizes).1,
        (setInputs batchSize c ordinal inputs sizes).2.unplaced) := by
  induction inputs generalizing c ordinal sizes with
  | nil => rfl
  | cons t rest ih =>
    rw [setInputs, setInputs]
    cases inputShape batchSize t sizes.head? with
    | error e => rfl
    | ok s =>
      simp only [setInputShape_unplaced]
      rcases c.setInputShape ordinal s with ⟨e | u, c'⟩
      · rfl
      · exact ih c' (ordinal + 1) sizes.tail

theorem deriveOutputs_unplaced (c : Context) :
    c.unplaced.deriveOutputs = c.deriveOutputs.map unplaced := by
  rw [deriveOutputs, deriveOutputs]
  rw [show c.unplaced.expect [.configuring] "resolve output shapes" =
    c.expect [.configuring] "resolve output shapes" from rfl]
  cases c.expect [.configuring] "resolve output shapes" with
  | error e => rfl
  | ok u =>
    simp only [ok_bind]
    rw [show c.unplaced.graph = c.graph from rfl, show c.unplaced.shapes = c.shapes from rfl]
    cases AxisSizes.unifyInputs [] c.graph.registry.inputs c.shapes with
    | error e => rfl
    | ok axisSizes =>
      simp only [ok_bind]
      cases c.graph.registry.outputs.mapM (AxisSizes.evaluate axisSizes) with
      | error e => rfl
      | ok outputs => rfl

/-- Resolving a context does not look at its stream. -/
theorem resolve_unplaced (batchSize : UInt64) (c : Context) (sizes : List (List Int64)) :
    c.unplaced.resolve batchSize sizes =
      ((c.resolve batchSize sizes).1, (c.resolve batchSize sizes).2.unplaced) := by
  rw [resolve, resolve]
  rw [show c.unplaced.graph = c.graph from rfl, setInputs_unplaced]
  rcases setInputs batchSize c 0 c.graph.registry.inputs sizes with ⟨e | u, c'⟩
  · rfl
  · dsimp only
    rw [resolveOutputs, resolveOutputs, deriveOutputs_unplaced]
    cases c'.deriveOutputs with
    | error e => rfl
    | ok c'' => rfl

/-- Contexts that differ in their stream only are resolved alike. -/
theorem resolve_fst_eq {c c' : Context} (h : c'.unplaced = c.unplaced) (batchSize : UInt64)
    (sizes : List (List Int64)) :
    (c'.resolve batchSize sizes).1 = (c.resolve batchSize sizes).1 := by
  have hleft := congrArg Prod.fst (c.resolve_unplaced batchSize sizes)
  have hright := congrArg Prod.fst (c'.resolve_unplaced batchSize sizes)
  rw [h] at hright
  exact hright.symm.trans hleft

end Context

/-! ## Allocating -/

variable {d d' : Device} {host : Host}

/-- Without a limit, on a host that answers equal requests alike, whether a request is met depends
on the request alone. -/
theorem Device.malloc_of_unlimited (hhost : host.Uniform) (hd : d.Unlimited host) (bytes : Nat) :
    d.malloc bytes =
      if host.backs 0 bytes = true then (.ok ⟨d.nextAddress⟩, d.withRegion bytes)
      else (.error (.outOfMemory bytes 0), d) := by
  have hbacks : d.backs bytes = host.backs 0 bytes := by
    rw [backs, hd.host_eq, hhost d.nextAddress 0]
  have hrefusal : d.refusal? bytes =
      if host.backs 0 bytes = true then none else some (.outOfMemory bytes 0) := by
    rw [refusal?, available?, hd.limit_eq, hbacks]
    cases host.backs 0 bytes <;> rfl
  rw [malloc, hrefusal]
  cases host.backs 0 bytes <;> rfl

theorem Device.Unlimited.withRegion (hd : d.Unlimited host) (bytes : Nat) :
    (d.withRegion bytes).Unlimited host :=
  ⟨hd.limit_eq, hd.host_eq⟩

namespace Buffer

/-- On devices without a limit a buffer is made alike, or is refused alike. -/
theorem allocate_alike (hhost : host.Uniform) (hd : d.Unlimited host) (hd' : d'.Unlimited host)
    (t : Descriptor) (s : Shape) :
    (∃ e, allocate d t s = (.error e, d) ∧ allocate d' t s = (.error e, d')) ∨
      ∃ u u' : Buffer, u'.unplaced = u.unplaced ∧
        allocate d t s = (.ok u, d.withRegion u.capacity) ∧
        allocate d' t s = (.ok u', d'.withRegion u'.capacity) := by
  rw [allocate, allocate]
  cases t.elementType with
  | error e => exact Or.inl ⟨e, rfl, rfl⟩
  | ok dtype =>
    cases t.requiredBytes s with
    | error e => exact Or.inl ⟨e, rfl, rfl⟩
    | ok bytes =>
      dsimp only
      rw [Device.malloc_of_unlimited hhost hd, Device.malloc_of_unlimited hhost hd']
      split_ifs
      · exact Or.inr ⟨⟨t.name, dtype, ⟨d.nextAddress⟩, bytes⟩,
          ⟨t.name, dtype, ⟨d'.nextAddress⟩, bytes⟩, rfl, rfl, rfl⟩
      · exact Or.inl ⟨_, rfl, rfl⟩

/-- Buffers for the same tensors are made alike. -/
theorem allocateEach_alike (hhost : host.Uniform) (hd : d.Unlimited host)
    (hd' : d'.Unlimited host) (tensors : List Descriptor) (shapes : List Shape) :
    (allocateEach d' tensors shapes).1.failure = (allocateEach d tensors shapes).1.failure ∧
      (allocateEach d' tensors shapes).1.made.map unplaced =
        (allocateEach d tensors shapes).1.made.map unplaced := by
  induction tensors generalizing d d' shapes with
  | nil => exact ⟨rfl, rfl⟩
  | cons t tensors ih =>
    cases shapes with
    | nil => exact ⟨rfl, rfl⟩
    | cons s shapes =>
      rw [allocateEach, allocateEach]
      rcases allocate_alike hhost hd hd' t s with
        ⟨e, hfirst, hfirst'⟩ | ⟨u, u', hsame, hfirst, hfirst'⟩
      · simp only [hfirst, hfirst']
        exact ⟨trivial, trivial⟩
      · obtain ⟨hfailure, hmade⟩ :=
          ih (hd.withRegion u.capacity) (hd'.withRegion u'.capacity) shapes
        simp only [hfirst, hfirst', Progress.after, List.map_cons, hsame, hmade]
        exact ⟨hfailure, trivial⟩

end Buffer

namespace EngineBackend

/-- Replacements for buffers that are alike are made alike. -/
theorem replacements_alike (hhost : host.Uniform) (hd : d.Unlimited host)
    (hd' : d'.Unlimited host) (tensors : List Descriptor) (shapes : List Shape)
    {buffers buffers' : List Buffer}
    (h : buffers'.map Buffer.unplaced = buffers.map Buffer.unplaced) :
    (replacements d' tensors shapes buffers').1.failure =
        (replacements d tensors shapes buffers).1.failure ∧
      (replacements d' tensors shapes buffers').1.made.map (Option.map Buffer.unplaced) =
        (replacements d tensors shapes buffers).1.made.map (Option.map Buffer.unplaced) := by
  induction tensors generalizing d d' shapes buffers buffers' with
  | nil => exact ⟨rfl, rfl⟩
  | cons t tensors ih =>
    rcases shapes with _ | ⟨s, shapes⟩
    · exact ⟨rfl, rfl⟩
    · rcases buffers with _ | ⟨u, buffers⟩
      · rw [List.map_nil, List.map_eq_nil_iff] at h
        subst h
        exact ⟨rfl, rfl⟩
      · rcases buffers' with _ | ⟨u', buffers'⟩
        · cases h
        · rw [List.map_cons, List.map_cons, List.cons.injEq] at h
          obtain ⟨hfirst, hrest⟩ := h
          have hcapacity : u'.capacity = u.capacity := (congrArg Buffer.capacity hfirst :)
          rw [replacements, replacements, replacement, replacement, hcapacity]
          cases t.requiredBytes s with
          | error e => exact ⟨rfl, rfl⟩
          | ok bytes =>
            dsimp only
            by_cases hfits : bytes ≤ u.capacity
            · -- both are kept
              obtain ⟨hfailure, hmade⟩ := ih hd hd' shapes hrest
              simp only [if_pos hfits, Progress.after, List.map_cons, Option.map_none, hmade]
              exact ⟨hfailure, trivial⟩
            · simp only [if_neg hfits]
              rcases Buffer.allocate_alike hhost hd hd' t s with
                ⟨e, hnew, hnew'⟩ | ⟨v, v', hsame, hnew, hnew'⟩
              · simp only [hnew, hnew']
                exact ⟨trivial, trivial⟩
              · obtain ⟨hfailure, hmade⟩ :=
                  ih (hd.withRegion v.capacity) (hd'.withRegion v'.capacity) shapes hrest
                simp only [hnew, hnew', Progress.after, List.map_cons, Option.map_some, hsame, hmade]
                exact ⟨hfailure, trivial⟩

/-! ## What buffers hold once replacements are in place -/

/-- What buffers hold once replacements are in place: the replacements are clear. -/
def renewed : List (Option Buffer) → List (Option Bytes) → List (Option Bytes)
  | new :: rest, old :: contents =>
    (new.elim old fun u => some (List.replicate u.capacity 0)) :: renewed rest contents
  | _, contents => contents

/-- It does not matter where the replacements lie. -/
theorem renewed_map_unplaced (new : List (Option Buffer)) (contents : List (Option Bytes)) :
    renewed (new.map (Option.map Buffer.unplaced)) contents = renewed new contents := by
  induction new generalizing contents with
  | nil => rfl
  | cons item rest ih =>
    cases contents with
    | nil => rfl
    | cons old contents =>
      rw [List.map_cons, renewed, renewed, ih]
      cases item with
      | none => rfl
      | some u => rfl

theorem map_unplaced_install (new : List (Option Buffer)) (buffers : List Buffer) :
    (install new buffers).map Buffer.unplaced =
      install (new.map (Option.map Buffer.unplaced)) (buffers.map Buffer.unplaced) := by
  induction new generalizing buffers with
  | nil => rfl
  | cons item rest ih =>
    cases buffers with
    | nil => rfl
    | cons old buffers =>
      rw [List.map_cons, List.map_cons, install, install, List.map_cons, ih]
      cases item with
      | none => rfl
      | some u => rfl

/-- What the buffers in place hold, if the kept ones hold what they held and the others are
clear. -/
theorem map_install {hold hold' : Buffer → Option Bytes} {new : List (Option Buffer)}
    {buffers : List Buffer}
    (hfresh : ∀ u ∈ new.filterMap id, hold' u = some (List.replicate u.capacity 0))
    (hkept : ∀ u ∈ buffers, hold' u = hold u) :
    (install new buffers).map hold' = renewed new (buffers.map hold) := by
  induction new generalizing buffers with
  | nil =>
    rw [install, renewed]
    · exact List.map_congr_left hkept
    · simp
    · simp
  | cons item rest ih =>
    cases buffers with
    | nil => rfl
    | cons old buffers =>
      have hfresh' : ∀ u ∈ rest.filterMap id, hold' u = some (List.replicate u.capacity 0) := by
        intro u hu
        apply hfresh u
        cases item with
        | none => exact hu
        | some v => exact List.mem_cons_of_mem v hu
      have hkept' : ∀ u ∈ buffers, hold' u = hold u := by
        intro u hu
        exact hkept u (List.mem_cons_of_mem old hu)
      rw [install, List.map_cons, List.map_cons, renewed, ih hfresh' hkept']
      cases item with
      | none => rw [Option.getD_none, Option.elim_none, hkept old List.mem_cons_self]
      | some u => rw [Option.getD_some, Option.elim_some, hfresh u List.mem_cons_self]

/-! ## New sizes in parallel -/

variable {b b' : EngineBackend} {slots slots' : List Slot} {kernels : KernelTable}

/-- The shapes that new sizes ask for, or why they are refused before memory is asked for. -/
def asked (b : EngineBackend) (sizes : List (List Int64)) : Except EngineError (List Shape) :=
  match b.ensureUsable with
  | .error e => .error e
  | .ok () => (b.context.cleared.resolve b.batchSize sizes).1

/-- The backend once it has taken new sizes. -/
def resized (b : EngineBackend) (sizes : List (List Int64)) (shapes : List Shape)
    (buffers : List Buffer) : EngineBackend :=
  { b with
    context := { b.context with phase := .ready, shapes := shapes.map some, bindings := [] }
    buffers
    modelInfo := ModelInfo.ofRegistry b.graph.registry shapes b.batchSize
    inputSizes := sizes }

/-- Taking new sizes, step by step. -/
theorem reconfigure_eq (hb : b.Serves slots) (d : Device) (sizes : List (List Int64)) :
    b.reconfigure d sizes =
      match b.asked sizes with
      | .error e => (.error e, b, d)
      | .ok shapes =>
        match replacements d b.graph.registry.all shapes b.buffers with
        | (⟨new, some e⟩, d) => (.error e, b, Buffer.discardAll d (new.filterMap id))
        | (⟨new, none⟩, d) =>
          (.ok (), b.resized sizes shapes (install new b.buffers),
            Buffer.discardAll d (displaced new b.buffers)) := by
  cases hfailure : b.failure with
  | some reason => simp only [reconfigure, asked, ensureUsable, hfailure]
  | none =>
    have husable : b.ensureUsable = .ok () := by rw [ensureUsable, hfailure]
    simp only [reconfigure, asked, husable, resetShapes_eq hb hfailure]
    rcases Context.resolve_cases (blank_cleared hb) b.batchSize sizes with
      ⟨e, slots', -, hresolve⟩ | ⟨shapes, -, hresolve⟩
    · -- a refusal brings back the context from before it was cleared
      simp only [hresolve]
      rw [restore_cleared hb Phase.noConfusion]
    · simp only [hresolve]
      rcases replacements d b.graph.registry.all shapes b.buffers with ⟨⟨new, _ | e⟩, d'⟩
      · simp only [Buffer.releaseAll_snd]
        rfl
      · simp only
        rw [restore_cleared hb Phase.noConfusion]

/-- Twins ask for the same shapes. -/
theorem Twins.asked_eq (h : Twins b b' d d') (sizes : List (List Int64)) :
    b'.asked sizes = b.asked sizes := by
  have hbatch : b'.batchSize = b.batchSize := (congrArg EngineBackend.batchSize h.face_eq :)
  have hcontext : b'.context.cleared.unplaced = b.context.cleared.unplaced :=
    (congrArg (fun f => f.context.cleared) h.face_eq :)
  rw [asked, asked, ensureUsable, ensureUsable, h.failure_eq, hbatch,
    Context.resolve_fst_eq hcontext]

/-- There is one shape for each slot. -/
theorem length_of_asked (hb : b.Serves slots) {sizes : List (List Int64)} {shapes : List Shape}
    (h : b.asked sizes = .ok shapes) : shapes.length = slots.length := by
  rw [asked] at h
  split at h
  · cases h
  · rcases Context.resolve_cases (blank_cleared hb) b.batchSize sizes with
      ⟨e, slots', -, hresolve⟩ | ⟨shapes', hlength, hresolve⟩
    · rw [hresolve] at h
      cases h
    · rw [hresolve] at h
      cases h
      exact hlength.trans hb.length_slots.symm

/-- Of the replacements for the buffers of a backend, those in place hold what they held, or are
clear. -/
theorem contents_resized (hb : b.Serves slots) (hr : b.Resides d) (hd : d.Orderly)
    {sizes : List (List Int64)} {shapes : List Shape} (hasked : b.asked sizes = .ok shapes)
    {new : List (Option Buffer)} {d₁ : Device}
    (hrun : replacements d b.graph.registry.all shapes b.buffers = (⟨new, none⟩, d₁)) :
    (b.resized sizes shapes (install new b.buffers)).contents
        (Buffer.discardAll d₁ (displaced new b.buffers)) =
      renewed new (b.contents d) := by
  obtain ⟨hgrowth, hmade, -, -⟩ := replacements_spec d (length_of_asked hb hasked)
  rw [← hb.tensors_eq, ← hb.buffers_eq, hrun] at hgrowth hmade
  have hlength : new.length ≤ b.buffers.length := by
    rw [hb.buffers_eq, List.length_map]
    exact hmade
  have hheld : Buffer.Held (install new b.buffers ++ displaced new b.buffers) d₁ :=
    (hr.held.grow hd hgrowth).perm (install_append_displaced_perm hlength).symm
  obtain ⟨others, hreturned⟩ := hheld.right.exists_returned (hgrowth.orderly hd)
  -- giving back the displaced ones leaves what the others hold
  have hback : (install new b.buffers).map (fun u =>
        (Buffer.discardAll d₁ (displaced new b.buffers)).bytes? u.address) =
      (install new b.buffers).map fun u => d₁.bytes? u.address := by
    refine List.map_congr_left ?_
    intro u hu
    rw [Device.bytes?, Device.bytes?, hreturned.elsewhere _ (hheld.address_not_mem hu)]
  rw [contents, resized, hback]
  refine map_install ?_ ?_
  · intro u hu
    exact hgrowth.bytes?_eq hd hu
  · intro u hu
    rw [Device.bytes?, Device.bytes?,
      hgrowth.region?_eq (hr.held.issued hd (List.mem_map_of_mem hu))]

/-- On a host that answers equal requests alike, twins take new sizes alike, or refuse them alike,
and stay twins. -/
theorem Twins.reconfigure (hhost : host.Uniform) (h : Twins b b' d d') (hb : b.Serves slots)
    (hb' : b'.Serves slots') (hr : b.Resides d) (hr' : b'.Resides d') (hd : d.Quiet kernels host)
    (hd' : d'.Quiet kernels host) (sizes : List (List Int64)) :
    Concur kernels host (b.reconfigure d sizes) (b'.reconfigure d' sizes) := by
  have hquiet := (acted_reconfigure hb hr hd sizes).quiet
  rw [reconfigure_eq hb] at hquiet ⊢
  rw [reconfigure_eq hb', h.asked_eq]
  cases hasked : b.asked sizes with
  | error e =>
    exact ⟨rfl, h, hd⟩
  | ok shapes =>
    have hasked' : b'.asked sizes = .ok shapes := (h.asked_eq sizes).trans hasked
    obtain ⟨hfailure, hmade⟩ := replacements_alike hhost hd.unlimited hd'.unlimited
      b.graph.registry.all shapes h.buffers_eq
    -- each backend grows its own device
    have hgrowth := (replacements_spec d (length_of_asked hb hasked)).1
    have hgrowth' := (replacements_spec d' (length_of_asked hb' hasked')).1
    rw [← hb.tensors_eq, ← hb.buffers_eq] at hgrowth
    rw [← hb'.tensors_eq, ← hb'.buffers_eq, h.graph_eq] at hgrowth'
    simp only [hasked, h.graph_eq] at hquiet ⊢
    rcases hrun : replacements d b.graph.registry.all shapes b.buffers with ⟨⟨new, failure⟩, d₁⟩
    rcases hrun' : replacements d' b.graph.registry.all shapes b'.buffers with
      ⟨⟨new', failure'⟩, d₁'⟩
    rw [hrun, hrun'] at hfailure hmade
    rw [hrun] at hgrowth hquiet
    rw [hrun'] at hgrowth'
    obtain rfl : failure' = failure := hfailure
    cases failure' with
    | some e =>
      refine ⟨rfl, ⟨h.face_eq, ?_⟩, hquiet⟩
      -- what was made is given back, so that the buffers hold what they held
      simp only [hgrowth.discardAll_eq hd.orderly, hgrowth'.discardAll_eq hd'.orderly]
      exact h.contents_eq
    | none =>
      refine ⟨rfl, ⟨?_, ?_⟩, hquiet⟩
      · have hinstalled : (install new' b'.buffers).map Buffer.unplaced =
            (install new b.buffers).map Buffer.unplaced := by
          rw [map_unplaced_install, map_unplaced_install, hmade, h.buffers_eq]
        have hface : ∀ c : EngineBackend, ∀ buffers, (c.resized sizes shapes buffers).face =
            c.face.resized sizes shapes (buffers.map Buffer.unplaced) := fun c buffers => rfl
        rw [hface, hface, hinstalled, h.face_eq]
      · rw [← h.graph_eq] at hrun'
        rw [contents_resized hb hr hd.orderly hasked hrun,
          contents_resized hb' hr' hd'.orderly hasked' hrun', ← renewed_map_unplaced, hmade,
          renewed_map_unplaced, h.contents_eq]

/-! ## Building in parallel -/

/-- The context of a graph before anything is set. -/
def blankContext (graph : Graph) (stream : Stream) : Context :=
  ⟨graph, stream, .configuring, List.replicate graph.registry.size none, []⟩

theorem blank_blankContext (graph : Graph) (stream : Stream) :
    (blankContext graph stream).Blank :=
  ⟨rfl, List.length_replicate, rfl⟩

/-- Building the backend of a graph whose kernel is known, step by step. -/
theorem ofGraph_eq {graph : Graph} (hkernel : d.hasKernel graph.kernel = true)
    (config : BackendConfig) :
    ofGraph d config graph =
      match ((blankContext graph d.createStream.1).resolve config.batchSize
        config.inputSizes).1 with
      | .error e => (.error e, (d.createStream.2.destroyStream d.createStream.1).2)
      | .ok shapes =>
        match Buffer.allocateEach d.createStream.2 graph.registry.all shapes with
        | (⟨buffers, some e⟩, d₁) =>
          (.error e, ((Buffer.discardAll d₁ buffers).destroyStream d.createStream.1).2)
        | (⟨buffers, none⟩, d₁) =>
          (.ok (assemble config { blankContext graph d.createStream.1 with
            phase := .ready, shapes := shapes.map some } buffers shapes), d₁) := by
  rw [ofGraph, Context.create, if_pos hkernel]
  rcases Context.resolve_cases (blank_blankContext graph d.createStream.1) config.batchSize
    config.inputSizes with ⟨e, slots', -, hresolve⟩ | ⟨shapes, hlength, hresolve⟩
  · rw [hresolve]
    rw [blankContext] at hresolve
    simp only [hresolve]
    rfl
  · rw [hresolve]
    have hcount : shapes.length = graph.registry.size := hlength
    rw [blankContext] at hresolve
    simp only [hresolve, prepare, Buffer.allocateAll, if_neg (not_not_intro hcount)]
    rcases Buffer.allocateEach d.createStream.2 graph.registry.all shapes with
      ⟨⟨buffers, _ | e⟩, d₁⟩
    · rfl
    · rfl

/-- A backend that was built has the shapes that its sizes resolve to, and buffers allocated at
them. -/
theorem exists_of_build_eq_ok {files : Files} {config : BackendConfig} {b : EngineBackend}
    (h : build files config d = (.ok b, d')) :
    ∃ graph shapes, loadGraph files config = .ok graph ∧ d.hasKernel graph.kernel = true ∧
      ((blankContext graph d.createStream.1).resolve config.batchSize config.inputSizes).1 =
        .ok shapes ∧
      Buffer.allocateEach d.createStream.2 graph.registry.all shapes = (⟨b.buffers, none⟩, d') ∧
      b = assemble config { blankContext graph d.createStream.1 with
        phase := .ready, shapes := shapes.map some } b.buffers shapes := by
  rw [build] at h
  cases hgraph : loadGraph files config with
  | error e =>
    rw [hgraph] at h
    cases h
  | ok graph =>
    simp only [hgraph] at h
    have hkernel : d.hasKernel graph.kernel = true := by
      by_contra hunknown
      rw [ofGraph, Context.create, if_neg hunknown] at h
      cases h
    rw [ofGraph_eq hkernel] at h
    split at h
    · cases h
    · next shapes hshapes =>
      split at h
      · cases h
      · next buffers d₁ hrun =>
        cases h
        exact ⟨graph, shapes, rfl, hkernel, hshapes, hrun, rfl⟩

/-- New buffers are clear. -/
theorem map_bytes?_of_growth {d₁ : Device} {buffers : List Buffer}
    (growth : Buffer.Growth d buffers d₁) (hd : d.Orderly) :
    (buffers.map fun u => d₁.bytes? u.address) =
      (buffers.map Buffer.unplaced).map fun u => some (List.replicate u.capacity 0) := by
  rw [List.map_map]
  refine List.map_congr_left ?_
  intro u hu
  exact growth.bytes?_eq hd hu

/-- New backends of one configuration with buffers that are alike are twins. -/
theorem twins_assemble (config : BackendConfig) (graph : Graph) (stream stream' : Stream)
    (shapes : List Shape) {d₁ d₁' : Device} {buffers buffers' : List Buffer}
    (growth : Buffer.Growth d buffers d₁) (growth' : Buffer.Growth d' buffers' d₁')
    (hd : d.Orderly) (hd' : d'.Orderly)
    (hmade : buffers'.map Buffer.unplaced = buffers.map Buffer.unplaced) :
    Twins
      (assemble config { blankContext graph stream with
        phase := .ready, shapes := shapes.map some } buffers shapes)
      (assemble config { blankContext graph stream' with
        phase := .ready, shapes := shapes.map some } buffers' shapes) d₁ d₁' := by
  refine ⟨?_, ?_⟩
  · have hface : ∀ stream buffers, (assemble config { blankContext graph stream with
        phase := .ready, shapes := shapes.map some } buffers shapes).face =
        assemble config { blankContext graph ⟨0⟩ with
          phase := .ready, shapes := shapes.map some }
          (buffers.map Buffer.unplaced) shapes := fun stream buffers => rfl
    rw [hface, hface, hmade]
  · have hleft := map_bytes?_of_growth growth hd
    have hright := map_bytes?_of_growth growth' hd'
    rw [hmade] at hright
    exact hright.trans hleft.symm

/-- Two attempts to build a backend failed alike, or gave twins. -/
def BuiltAlike (run run' : Outcome Device EngineBackend) : Prop :=
  (∃ e, run.1 = .error e ∧ run'.1 = .error e) ∨
    ∃ b b', run.1 = .ok b ∧ run'.1 = .ok b' ∧ Twins b b' run.2 run'.2

/-- On quiet devices with the same kernels, whose host answers equal requests alike, the backend of
a graph is built alike. -/
theorem ofGraph_alike (hhost : host.Uniform) (config : BackendConfig) (graph : Graph)
    (hd : d.Quiet kernels host) (hd' : d'.Quiet kernels host) :
    BuiltAlike (ofGraph d config graph) (ofGraph d' config graph) := by
  have hsame : d'.hasKernel graph.kernel = d.hasKernel graph.kernel := by
    rw [Device.hasKernel, Device.hasKernel, hd.kernels_eq, hd'.kernels_eq]
  cases hkernel : d.hasKernel graph.kernel with
  | false =>
    rw [hkernel] at hsame
    rw [ofGraph, ofGraph, Context.create, Context.create, if_neg (by simp [hkernel]),
      if_neg (by simp [hsame])]
    exact Or.inl ⟨_, rfl, rfl⟩
  | true =>
    rw [hkernel] at hsame
    have hblank : (blankContext graph d'.createStream.1).unplaced =
        (blankContext graph d.createStream.1).unplaced := rfl
    have hresolve := Context.resolve_fst_eq hblank config.batchSize config.inputSizes
    rw [ofGraph_eq hkernel, ofGraph_eq hsame, hresolve]
    rcases Context.resolve_cases (blank_blankContext graph d.createStream.1) config.batchSize
      config.inputSizes with ⟨e, slots', -, hshapes⟩ | ⟨shapes, hlength, hshapes⟩
    · rw [hshapes]
      exact Or.inl ⟨e, rfl, rfl⟩
    · have hcount : shapes.length = graph.registry.all.length := hlength
      have hgrowth := (Buffer.allocateEach_spec d.createStream.2 hcount).1
      have hgrowth' := (Buffer.allocateEach_spec d'.createStream.2 hcount).1
      obtain ⟨hfailure, hmade⟩ := Buffer.allocateEach_alike hhost
        hd.createStream.unlimited hd'.createStream.unlimited graph.registry.all shapes
      rw [hshapes]
      dsimp only
      rcases hrun : Buffer.allocateEach d.createStream.2 graph.registry.all shapes with
        ⟨⟨buffers, failure⟩, d₁⟩
      rcases hrun' : Buffer.allocateEach d'.createStream.2 graph.registry.all shapes with
        ⟨⟨buffers', failure'⟩, d₁'⟩
      rw [hrun, hrun'] at hfailure hmade
      rw [hrun] at hgrowth
      rw [hrun'] at hgrowth'
      obtain rfl : failure' = failure := hfailure
      cases failure' with
      | some e => exact Or.inl ⟨e, rfl, rfl⟩
      | none =>
        exact Or.inr ⟨_, _, rfl, rfl, twins_assemble config graph _ _ shapes hgrowth hgrowth'
          hd.createStream.orderly hd'.createStream.orderly hmade⟩

/-- On quiet devices with the same kernels, whose host answers equal requests alike, the backend of
a configuration is built alike. -/
theorem build_alike (hhost : host.Uniform) (files : Files) (config : BackendConfig)
    (hd : d.Quiet kernels host) (hd' : d'.Quiet kernels host) :
    BuiltAlike (build files config d) (build files config d') := by
  rw [build, build]
  cases loadGraph files config with
  | error e => exact Or.inl ⟨e, rfl, rfl⟩
  | ok graph => exact ofGraph_alike hhost config graph hd hd'

end EngineBackend

end GraphServe
