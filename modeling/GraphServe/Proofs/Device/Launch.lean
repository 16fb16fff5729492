import GraphServe.Device.Launch
import GraphServe.Proofs.Device.Arena

/-!
# Launches on a device

Whatever a launch ends in, it keeps every region that is not bound as an output and the extents of
all (`keeps_launch`). On distinct live regions that are large enough, with a known kernel and
stream and no fault armed, the kernel is run (`launch_of_bound`), and any failure of a run is one
of execution.
-/

namespace GraphServe

/-! ## Kernel tables -/

namespace KernelTable

/-- A table without one name still knows every other. -/
theorem lookup_filter_ne {name kernel : String} (h : kernel ≠ name)
    (entries : List (String × Kernel)) :
    (entries.filter (·.1 != name)).lookup kernel = entries.lookup kernel := by
  induction entries with
  | nil => rfl
  | cons entry rest ih =>
    obtain ⟨key, body⟩ := entry
    by_cases hkey : key = name
    · subst hkey
      have hne : (kernel == key) = false := by simpa using h
      rw [List.filter_cons_of_neg (by simp), ih, List.lookup_cons, hne]
    · rw [List.filter_cons_of_pos (by simpa using hkey), List.lookup_cons, List.lookup_cons, ih]

/-- Adding a kernel takes none away. -/
theorem contains_insert {t : KernelTable} {kernel : String} (h : t.contains kernel = true)
    (name : String) (body : Kernel) : (t.insert name body).contains kernel = true := by
  by_cases hname : kernel = name
  · simp [contains, get?, insert, hname]
  · have hne : (kernel == name) = false := by simpa using hname
    rw [contains, get?, insert, List.lookup_cons, hne, lookup_filter_ne hname]
    exact h

end KernelTable

namespace Device

/-! ## Writing outputs -/

/-- The bindings of the outputs, in binding order. -/
abbrev outputBindings (bindings : List Binding) : List Binding :=
  bindings.filter (·.direction == .output)

theorem keeps_writeOutputs (d : Device) (bindings : List Binding) (outputs : List Bytes) :
    Keeps (bindings.map Binding.address) d (d.writeOutputs bindings outputs) := by
  induction bindings generalizing d outputs with
  | nil => exact .refl _ _
  | cons b rest ih =>
    cases outputs with
    | nil => exact .refl _ _
    | cons bytes outputs =>
      have hfirst := keeps_updateRegion d b.address (length_overlay bytes)
      have hrest := ih (d.updateRegion b.address (overlay bytes)) outputs
      exact (hfirst.mono (by simp)).trans (hrest.mono (by simp))

/-- Writing outputs arms no fault and uses none up. -/
theorem faults_writeOutputs (d : Device) (bindings : List Binding) (outputs : List Bytes) :
    (d.writeOutputs bindings outputs).launchFault = d.launchFault ∧
      (d.writeOutputs bindings outputs).transferFault = d.transferFault := by
  induction bindings generalizing d outputs with
  | nil => exact ⟨rfl, rfl⟩
  | cons b rest ih =>
    cases outputs with
    | nil => exact ⟨rfl, rfl⟩
    | cons bytes outputs => exact ih (d.updateRegion b.address (overlay bytes)) outputs

theorem keeps_runKernel (d : Device) (kernel : String) (body : Kernel) (payload : Bytes)
    (bindings : List Binding) :
    Keeps ((outputBindings bindings).map Binding.address) d
      (d.runKernel kernel body payload bindings).2 := by
  simp only [runKernel]
  split
  · exact (keeps_writeOutputs d _ _).trans (keeps_armTransferFault _ _)
  · exact keeps_writeOutputs d _ _

theorem keeps_launch (d : Device) (stream : Stream) (kernel : String) (payload : Bytes)
    (bindings : List Binding) :
    Keeps ((outputBindings bindings).map Binding.address) d
      (d.launch stream kernel payload bindings).2 := by
  unfold launch
  split
  · exact ⟨rfl, rfl, fun _ _ => rfl⟩
  · split
    · exact .refl _ _
    · split
      · exact .refl _ _
      · split
        · exact .refl _ _
        · exact keeps_runKernel d kernel _ payload bindings

/-- A kernel's failure surfaces as a failure of execution. -/
theorem exists_launchError_eq (kernel : String) (e : EngineError) :
    ∃ reason, launchError kernel e = .execution reason := by
  cases e <;> exact ⟨_, rfl⟩

/-- Bindings are refused as a failure of execution. -/
theorem exists_of_checkBindings_eq_error {d : Device} {bindings : List Binding}
    {seen : List Address} {e : EngineError} (h : d.checkBindings seen bindings = .error e) :
    ∃ reason, e = .execution reason := by
  induction bindings generalizing seen with
  | nil => cases h
  | cons b rest ih =>
    rw [checkBindings] at h
    split at h
    · cases h
      exact ⟨_, rfl⟩
    · split at h
      · cases h
        exact ⟨_, rfl⟩
      · split at h
        · cases h
          exact ⟨_, rfl⟩
        · exact ih h

/-- A launch fails in execution, or as it knows no such kernel. -/
theorem launch_error_cases {d d' : Device} {stream : Stream} {kernel : String} {payload : Bytes}
    {bindings : List Binding} {e : EngineError}
    (h : d.launch stream kernel payload bindings = (.error e, d')) :
    d.hasKernel kernel = false ∨ ∃ reason, e = .execution reason := by
  rw [launch] at h
  split at h
  · cases h
    exact Or.inr ⟨_, rfl⟩
  · split at h
    · next hnone => exact Or.inl (by rw [hasKernel, KernelTable.contains, hnone]; rfl)
    · right
      split at h
      · cases h
        exact ⟨_, rfl⟩
      · split at h
        · next hchecked =>
          cases h
          exact exists_of_checkBindings_eq_error hchecked
        · next body _ _ _ _ =>
          -- what a kernel fails with is told as a failure of execution
          rw [runKernel, Prod.mk.injEq] at h
          cases hresult : (body.run payload (d.views .input bindings)
            (d.views .output bindings)).result with
          | ok u =>
            rw [hresult] at h
            cases h.1
          | error e' =>
            rw [hresult] at h
            cases h.1
            exact exists_launchError_eq kernel e'

/-- Bindings to distinct live regions that are large enough are accepted. -/
theorem checkBindings_eq_ok {d : Device} {bindings : List Binding} {seen : List Address}
    (hdistinct : (bindings.map Binding.address).Nodup)
    (hunseen : ∀ b ∈ bindings, b.address ∉ seen)
    (hlive : ∀ b ∈ bindings, ∃ r, d.region? b.address = some r ∧ b.bytes ≤ r.data.length) :
    d.checkBindings seen bindings = .ok () := by
  induction bindings generalizing seen with
  | nil => rfl
  | cons b rest ih =>
    obtain ⟨hb, hdistinct⟩ := List.nodup_cons.1 hdistinct
    obtain ⟨r, hr, hfits⟩ := hlive b List.mem_cons_self
    rw [checkBindings, if_neg (hunseen b List.mem_cons_self)]
    simp only [hr, if_neg (Nat.not_lt.2 hfits)]
    -- what was seen grows by this address, which no later binding has
    refine ih hdistinct (fun b' hb' => ?_) fun b' hb' => hlive b' (List.mem_cons_of_mem _ hb')
    rw [List.mem_cons, not_or]
    refine ⟨fun hsame => hb ?_, hunseen b' (List.mem_cons_of_mem _ hb')⟩
    exact hsame ▸ List.mem_map_of_mem hb'

/-- With nothing in its way a launch runs the kernel. -/
theorem launch_of_bound {d : Device} {stream : Stream} {kernel : String} {body : Kernel}
    {bindings : List Binding} (hfault : d.launchFault = false)
    (hkernel : d.kernels.get? kernel = some body) (hstream : stream ∈ d.streams)
    (hchecked : d.checkBindings [] bindings = .ok ()) (payload : Bytes) :
    d.launch stream kernel payload bindings = d.runKernel kernel body payload bindings := by
  simp [launch, hfault, hkernel, hstream, hchecked]

/-! ## What a region begins with -/

/-- The region at an address is live and begins with the given bytes. -/
def Begins (d : Device) (a : Address) (bytes : Bytes) : Prop :=
  ∃ r, d.region? a = some r ∧ bytes <+: r.data

theorem Begins.keeps {d d' : Device} {own : List Address} {a : Address} {bytes : Bytes}
    (h : d.Begins a bytes) (hkeeps : Keeps own d d') (ha : a ∉ own) : d'.Begins a bytes := by
  obtain ⟨r, hr, hprefix⟩ := h
  exact ⟨r, (hkeeps.elsewhere a ha).trans hr, hprefix⟩

theorem prefix_overlay {bytes data : Bytes} (h : bytes.length ≤ data.length) :
    bytes <+: overlay bytes data := by
  rw [overlay, List.take_of_length_le h]
  exact List.prefix_append _ _

theorem begins_updateRegion {d : Device} {a : Address} {r : Region} {bytes : Bytes}
    (hr : d.region? a = some r) (h : bytes.length ≤ r.data.length) :
    (d.updateRegion a (overlay bytes)).Begins a bytes := by
  refine ⟨{ r with data := overlay bytes r.data }, ?_, prefix_overlay h⟩
  rw [region?_updateRegion, if_pos rfl, hr]
  rfl

/-- Without a fault, the bytes a region begins with can be copied out. -/
theorem copyOut_of_begins {d : Device} {a : Address} {bytes : Bytes}
    (hfault : d.transferFault = false) (h : d.Begins a bytes) :
    d.copyOut a bytes.length = (.ok bytes, d) := by
  obtain ⟨r, hr, hprefix⟩ := h
  rw [copyOut_of_fits hfault hr hprefix.length_le, ← List.prefix_iff_eq_take.1 hprefix]

/-- A binding shows the bytes its region begins with. -/
theorem view?_of_begins {d : Device} {b : Binding} {bytes : Bytes} (hbytes : bytes.length = b.bytes)
    (h : d.Begins b.address bytes) : d.view? b = some ⟨b.name, b.dtype, b.shape, bytes⟩ := by
  obtain ⟨r, hr, hprefix⟩ := h
  rw [view?, hr, ← hbytes, Option.map_some, ← List.prefix_iff_eq_take.1 hprefix]

end Device

end GraphServe
