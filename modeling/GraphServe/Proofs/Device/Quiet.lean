import GraphServe.Proofs.Buffer
import GraphServe.Proofs.Device.Launch
import Mathlib.Data.List.Perm.Subperm

/-!
# Quiet devices and footprints

A device is quiet if its books are in order, it has no limit, no fault is armed, it knows given
kernels and lives on a given host. The books are in order after any operations (`Reached.orderly`).
The footprint of a step are the addresses it may write or give back and the streams it may destroy;
whatever lies elsewhere, at an address that was issued before, is as it was (`Footprint`).
-/

namespace GraphServe

variable {kernels : KernelTable} {host : Host} {d d' : Device}

/-! ## Kernels that arm nothing -/

/-- No run of the kernel makes a transfer fail. -/
def Kernel.Unarmed (body : Kernel) : Prop :=
  ∀ payload inputs outputs, (body.run payload inputs outputs).armsTransferFault = false

/-- No kernel of the table makes a transfer fail. -/
def KernelTable.Unarmed (kernels : KernelTable) : Prop :=
  ∀ name body, kernels.get? name = some body → body.Unarmed

namespace KernelTable

theorem unarmed_empty : empty.Unarmed := by
  intro name body h
  cases h

theorem Unarmed.insert (h : kernels.Unarmed) (name : String) {body : Kernel}
    (hbody : body.Unarmed) : (kernels.insert name body).Unarmed := by
  intro kernel body' hget
  by_cases hname : kernel = name
  · subst hname
    rw [get?, KernelTable.insert, List.lookup_cons_self] at hget
    cases hget
    exact hbody
  · have hne : (kernel == name) = false := by simpa using hname
    rw [get?, KernelTable.insert, List.lookup_cons, hne, lookup_filter_ne hname] at hget
    exact h kernel body' hget

/-- The kernels that every device starts with arm nothing. -/
theorem unarmed_builtin : builtin.Unarmed :=
  (unarmed_empty.insert "identity" fun _ _ _ => rfl).insert "zeros" fun _ _ _ => rfl

end KernelTable

/-! ## Quiet devices -/

namespace Device

/-- The device has no limit, so that only its host, the given one, may refuse it memory. -/
structure Unlimited (host : Host) (d : Device) : Prop where
  limit_eq : d.limit = none
  host_eq : d.host = host

/-- The device has no limit, no fault is armed, and its kernels and its host are the given ones. -/
structure Quiet (kernels : KernelTable) (host : Host) (d : Device) : Prop where
  orderly : d.Orderly
  kernels_eq : d.kernels = kernels
  unlimited : d.Unlimited host
  launchFault_eq : d.launchFault = false
  transferFault_eq : d.transferFault = false

/-- A device after any operations that it offers, whoever made them. -/
inductive Reached : Device → Prop
  | new (kernels : KernelTable) (limit : Option Nat) (host : Host) :
    Reached (Device.new kernels limit host)
  | malloc {d : Device} (h : Reached d) (bytes : Nat) : Reached (d.malloc bytes).2
  | free {d : Device} (h : Reached d) (a : Address) : Reached (d.free a).2
  | copyIn {d : Device} (h : Reached d) (a : Address) (bytes : Bytes) :
    Reached (d.copyIn a bytes).2
  | copyOut {d : Device} (h : Reached d) (a : Address) (count : Nat) :
    Reached (d.copyOut a count).2
  | fill {d : Device} (h : Reached d) (a : Address) (value : UInt8) (count : Nat) :
    Reached (d.fill a value count).2
  | createStream {d : Device} (h : Reached d) : Reached d.createStream.2
  | destroyStream {d : Device} (h : Reached d) (s : Stream) : Reached (d.destroyStream s).2
  | launch {d : Device} (h : Reached d) (s : Stream) (kernel : String) (payload : Bytes)
    (bindings : List Binding) : Reached (d.launch s kernel payload bindings).2
  | armLaunchFault {d : Device} (h : Reached d) : Reached d.armLaunchFault
  | armTransferFault {d : Device} (h : Reached d) : Reached d.armTransferFault
  | registerKernel {d : Device} (h : Reached d) (name : String) (body : Kernel) :
    Reached (d.registerKernel name body)
  | rehost {d : Device} (h : Reached d) (host : Host) : Reached (d.rehost host)

/-- Every operation keeps the books of a device in order. -/
theorem Reached.orderly (h : d.Reached) : d.Orderly := by
  induction h with
  | new kernels limit host => exact orderly_new kernels limit host
  | @malloc d _ bytes ih =>
    rcases d.malloc_cases bytes with ⟨available, hrefused⟩ | hmade
    · rw [hrefused]
      exact ih
    · rw [hmade]
      exact ih.withRegion bytes
  | @free d _ a ih =>
    cases hr : d.region? a with
    | none =>
      rw [Device.free, hr]
      exact ih.advance (Nat.le_refl _) (Nat.le_refl _) _
    | some r =>
      have hmem := mem_extents_of_region? hr
      rw [free_of_mem ih hmem]
      exact ih.withoutRegion hmem
  | copyIn _ a bytes ih => exact (keeps_copyIn _ a bytes).orderly ih
  | copyOut _ a count ih => exact (keeps_copyOut [] _ a count).orderly ih
  | fill _ a value count ih => exact (keeps_fill _ a value count).orderly ih
  | createStream _ ih => exact ih.createStream
  | @destroyStream d _ s ih =>
    rw [Device.destroyStream]
    split_ifs
    · exact ih.eraseStream s
    · exact ih
  | launch _ s kernel payload bindings ih =>
    exact (keeps_launch _ s kernel payload bindings).orderly ih
  | armLaunchFault _ ih =>
    exact ⟨ih.distinct, ih.issued, ih.inUse_eq, ih.streams_distinct, ih.streams_issued⟩
  | armTransferFault _ ih =>
    exact ⟨ih.distinct, ih.issued, ih.inUse_eq, ih.streams_distinct, ih.streams_issued⟩
  | registerKernel _ name body ih =>
    exact ⟨ih.distinct, ih.issued, ih.inUse_eq, ih.streams_distinct, ih.streams_issued⟩
  | rehost _ host ih =>
    exact ⟨ih.distinct, ih.issued, ih.inUse_eq, ih.streams_distinct, ih.streams_issued⟩

/-- The bytes of the region at an address. -/
def bytes? (d : Device) (a : Address) : Option Bytes := (d.region? a).map Region.data

theorem Keeps.limit_eq {own : List Address} (h : Keeps own d d') : d'.limit = d.limit := by
  rw [h.frame]

theorem quiet_new (kernels : KernelTable) (host : Host) :
    (Device.new kernels none host).Quiet kernels host :=
  ⟨orderly_new kernels none host, rfl, ⟨rfl, rfl⟩, rfl, rfl⟩

/-- A step that keeps the books and arms nothing keeps a device quiet. -/
theorem Quiet.keeps (hd : d.Quiet kernels host) {own : List Address} (h : Keeps own d d')
    (hlaunch : d'.launchFault = false) (htransfer : d'.transferFault = false) :
    d'.Quiet kernels host :=
  ⟨h.orderly hd.orderly, h.kernels_eq.trans hd.kernels_eq,
    ⟨h.limit_eq.trans hd.unlimited.limit_eq, h.host_eq.trans hd.unlimited.host_eq⟩, hlaunch,
    htransfer⟩

theorem Quiet.createStream (hd : d.Quiet kernels host) : d.createStream.2.Quiet kernels host :=
  ⟨hd.orderly.createStream, hd.kernels_eq, ⟨hd.unlimited.limit_eq, hd.unlimited.host_eq⟩,
    hd.launchFault_eq, hd.transferFault_eq⟩

/-- A device may skip addresses and streams, and record requests. -/
theorem Quiet.advance (hd : d.Quiet kernels host) {address stream : Nat}
    (haddress : d.nextAddress ≤ address) (hstream : d.nextStream ≤ stream)
    (frees : List FreeRecord) :
    Quiet kernels host { d with nextAddress := address, nextStream := stream, frees } :=
  ⟨hd.orderly.advance haddress hstream frees, hd.kernels_eq,
    ⟨hd.unlimited.limit_eq, hd.unlimited.host_eq⟩, hd.launchFault_eq, hd.transferFault_eq⟩

theorem bytes?_updateRegion (d : Device) (a b : Address) (f : Bytes → Bytes) :
    (d.updateRegion a f).bytes? b = if b = a then (d.bytes? b).map f else d.bytes? b := by
  rw [bytes?, region?_updateRegion]
  split_ifs
  · rw [bytes?, Option.map_map, Option.map_map]
    rfl
  · rfl

/-! ## Growth of a quiet device -/

/-- The region that an allocation adds lies at no address that was issued before. -/
theorem region?_withRegion (d : Device) (bytes : Nat) {a : Address} (ha : a.value < d.nextAddress) :
    (d.withRegion bytes).region? a = d.region? a := by
  have hnew : ((⟨d.nextAddress⟩ : Address) == a) = false := by
    rw [beq_eq_false_iff_ne]
    rintro rfl
    exact Nat.lt_irrefl _ ha
  simp [withRegion, region?, List.find?_append, hnew]

end Device

namespace Buffer

variable {fresh : List Buffer}

namespace Growth

/-- What lies at an address that was issued before is as it was. -/
theorem region?_eq (h : Growth d fresh d') {a : Address} (ha : a.value < d.nextAddress) :
    d'.region? a = d.region? a := by
  induction h with
  | refl => rfl
  | @step d d' fresh u haddress _ ih =>
    have hlater : a.value < (d.withRegion u.capacity).nextAddress :=
      Nat.lt_of_lt_of_le ha (Nat.le_add_right _ _)
    rw [ih hlater, d.region?_withRegion u.capacity ha]

/-- A new buffer is clear. -/
theorem bytes?_eq (h : Growth d fresh d') (hd : d.Orderly) {u : Buffer} (hu : u ∈ fresh) :
    d'.bytes? u.address = some (List.replicate u.capacity 0) := by
  have hnodup : (d'.regions.map Region.address).Nodup :=
    Device.map_fst_extents d' ▸ (h.orderly hd).distinct
  have hblank : u.blank ∈ d'.regions := by
    rw [h.regions_eq]
    exact List.mem_append_right _ (List.mem_map_of_mem hu)
  have hextent : (u.address, u.capacity) ∈ d'.extents := by
    rw [h.extents_eq]
    exact List.mem_append_right _ (List.mem_map_of_mem hu)
  obtain ⟨r, hr, haddress, -⟩ := Device.exists_region_of_mem_extents hextent (h.orderly hd)
  -- there is one region of the address, which is the one that was added
  have hsame : r = u.blank :=
    List.inj_on_of_nodup_map hnodup (Device.mem_of_region? hr) hblank haddress
  rw [Device.bytes?, hr, hsame]
  rfl

theorem quiet (h : Growth d fresh d') (hd : d.Quiet kernels host) : d'.Quiet kernels host := by
  have hlimit : d'.limit = d.limit := by rw [h.frame]
  have hhost : d'.host = d.host := by rw [h.frame]
  have hlaunch : d'.launchFault = d.launchFault := by rw [h.frame]
  have htransfer : d'.transferFault = d.transferFault := by rw [h.frame]
  exact ⟨h.orderly hd.orderly, h.kernels_eq.trans hd.kernels_eq,
    ⟨hlimit.trans hd.unlimited.limit_eq, hhost.trans hd.unlimited.host_eq⟩,
    hlaunch.trans hd.launchFault_eq, htransfer.trans hd.transferFault_eq⟩

end Growth

theorem Returned.quiet {buffers : List Buffer} {others : List (Address × Nat)}
    (h : Returned d buffers others d') (hd : d.Quiet kernels host) : d'.Quiet kernels host := by
  have hlimit : d'.limit = d.limit := by rw [h.frame]
  have hhost : d'.host = d.host := by rw [h.frame]
  have hlaunch : d'.launchFault = d.launchFault := by rw [h.frame]
  have htransfer : d'.transferFault = d.transferFault := by rw [h.frame]
  exact ⟨h.orderly, h.kernels_eq.trans hd.kernels_eq,
    ⟨hlimit.trans hd.unlimited.limit_eq, hhost.trans hd.unlimited.host_eq⟩,
    hlaunch.trans hd.launchFault_eq, htransfer.trans hd.transferFault_eq⟩

end Buffer

/-! ## Buffers that a device holds -/

namespace Device

/-- An extent stays where its region stays. -/
theorem mem_extents_of_region?_eq (hd : d.Orderly) {e : Address × Nat} (he : e ∈ d.extents)
    (hregion : d'.region? e.1 = d.region? e.1) : e ∈ d'.extents := by
  obtain ⟨r, hr, -, hlength⟩ := exists_region_of_mem_extents he hd
  have hmem := mem_extents_of_region? (hregion.trans hr)
  rw [hlength] at hmem
  exact hmem

end Device

namespace Buffer

/-- The device holds an extent for each of the buffers, no two the same one. -/
structure Held (buffers : List Buffer) (d : Device) : Prop where
  owned : ∀ u ∈ buffers, u.extent ∈ d.extents
  distinct : (buffers.map Buffer.address).Nodup

namespace Held

variable {buffers buffers' kept old : List Buffer}

theorem perm (h : Held buffers d) (hperm : buffers.Perm buffers') : Held buffers' d :=
  ⟨fun u hu => h.owned u (hperm.mem_iff.2 hu), (hperm.map _).nodup_iff.1 h.distinct⟩

theorem left (h : Held (kept ++ old) d) : Held kept d :=
  ⟨fun u hu => h.owned u (List.mem_append_left _ hu),
    (List.nodup_append.1 (List.map_append ▸ h.distinct)).1⟩

theorem right (h : Held (kept ++ old) d) : Held old d :=
  ⟨fun u hu => h.owned u (List.mem_append_right _ hu),
    (List.nodup_append.1 (List.map_append ▸ h.distinct)).2.1⟩

/-- No buffer lies where one of the other buffers lies. -/
theorem address_not_mem (h : Held (kept ++ old) d) {u : Buffer} (hu : u ∈ kept) :
    u.address ∉ old.map Buffer.address := by
  intro hmem
  exact (List.nodup_append.1 (List.map_append ▸ h.distinct)).2.2 u.address
    (List.mem_map_of_mem hu) u.address hmem rfl

/-- The address of a buffer was issued. -/
theorem issued (h : Held buffers d) (hd : d.Orderly) {a : Address}
    (ha : a ∈ buffers.map Buffer.address) : a.value < d.nextAddress := by
  obtain ⟨u, hu, rfl⟩ := List.mem_map.1 ha
  exact hd.issued u.extent (h.owned u hu)

/-- The extents are those of the buffers and some others. -/
theorem exists_others (h : Held buffers d) :
    ∃ others, d.extents.Perm (buffers.map extent ++ others) := by
  have hnodup : (buffers.map extent).Nodup := by
    refine List.Nodup.of_map Prod.fst ?_
    rw [map_fst_map_extent]
    exact h.distinct
  have hsubset : buffers.map extent ⊆ d.extents := by
    intro e he
    obtain ⟨u, hu, rfl⟩ := List.mem_map.1 he
    exact h.owned u hu
  obtain ⟨extents, hperm, hsublist⟩ := List.subperm_of_subset hnodup hsubset
  obtain ⟨others, hothers⟩ := hsublist.exists_perm_append
  exact ⟨others, hothers.trans (hperm.append_right others)⟩

/-- Buffers that are held can be given back. -/
theorem exists_returned (h : Held buffers d) (hd : d.Orderly) :
    ∃ others, Returned d buffers others (discardAll d buffers) := by
  obtain ⟨others, hothers⟩ := h.exists_others
  exact ⟨others, discardAll_spec hd hothers⟩

/-- When buffers are given back the rest is still held. -/
theorem discardAll (h : Held (kept ++ old) d) (hd : d.Orderly) :
    Held kept (discardAll d old) := by
  obtain ⟨others, hreturned⟩ := h.right.exists_returned hd
  refine ⟨?_, h.left.distinct⟩
  intro u hu
  exact Device.mem_extents_of_region?_eq hd (h.left.owned u hu)
    (hreturned.elsewhere _ (h.address_not_mem hu))

/-- A device that grows holds the new buffers beside those it held. -/
theorem grow {fresh : List Buffer} (h : Held buffers d) (hd : d.Orderly)
    (hgrowth : Growth d fresh d') : Held (fresh ++ buffers) d' := by
  have hextents := hgrowth.extents_eq
  refine ⟨?_, ?_⟩
  · intro u hu
    rw [hextents, List.mem_append]
    rcases List.mem_append.1 hu with hfresh | hold
    · exact Or.inr (List.mem_map_of_mem hfresh)
    · exact Or.inl (h.owned u hold)
  · have hall := (hgrowth.orderly hd).distinct
    rw [hextents, List.map_append, List.nodup_append, map_fst_map_extent] at hall
    rw [List.map_append, List.nodup_append]
    refine ⟨hall.2.1, h.distinct, ?_⟩
    -- a new buffer lies at no address that was issued before
    rintro a hfresh b hold rfl
    obtain ⟨u, hu, rfl⟩ := List.mem_map.1 hfresh
    exact Nat.lt_irrefl _ (Nat.lt_of_lt_of_le (h.issued hd hold) (hgrowth.unissued u hu))

end Held

end Buffer

/-! ## Footprints -/

/-- A step that writes and gives back regions at the own addresses only, and destroys own streams
only, among all that were issued before. -/
structure Device.Footprint (own : List Address) (streams : List Stream) (d d' : Device) : Prop where
  region_eq : ∀ a, a.value < d.nextAddress → a ∉ own → d'.region? a = d.region? a
  stream_mem : ∀ s ∈ d.streams, s ∉ streams → s ∈ d'.streams
  nextAddress_le : d.nextAddress ≤ d'.nextAddress
  nextStream_le : d.nextStream ≤ d'.nextStream

namespace Device.Footprint

variable {own own' : List Address} {streams streams' : List Stream}

/-- A device that skips addresses and streams and records requests is otherwise as it was. -/
theorem advance (own : List Address) (streams : List Stream) {address stream : Nat}
    (haddress : d.nextAddress ≤ address) (hstream : d.nextStream ≤ stream)
    (frees : List FreeRecord) :
    Footprint own streams d { d with nextAddress := address, nextStream := stream, frees } :=
  ⟨fun _ _ _ => rfl, fun _ hs _ => hs, haddress, hstream⟩

theorem refl (own : List Address) (streams : List Stream) (d : Device) :
    Footprint own streams d d :=
  advance own streams (Nat.le_refl _) (Nat.le_refl _) d.frees

theorem mono (h : Footprint own streams d d') (hown : own ⊆ own') (hstreams : streams ⊆ streams') :
    Footprint own' streams' d d' :=
  ⟨fun a hissued ha => h.region_eq a hissued fun hmem => ha (hown hmem),
    fun s hs hother => h.stream_mem s hs fun hmem => hother (hstreams hmem),
    h.nextAddress_le, h.nextStream_le⟩

/-- A step that keeps the books leaves its mark on the regions it writes. -/
theorem ofKeeps (h : Keeps own d d') : Footprint own [] d d' where
  region_eq a _ ha := h.elsewhere a ha
  stream_mem s hs _ := by
    rw [h.streams_eq]
    exact hs
  nextAddress_le := Nat.le_of_eq h.nextAddress_eq.symm
  nextStream_le := Nat.le_of_eq h.nextStream_eq.symm

/-- A device that grows leaves what was issued before as it was. -/
theorem ofGrowth {fresh : List Buffer} (h : Buffer.Growth d fresh d') : Footprint [] [] d d' where
  region_eq a ha _ := h.region?_eq ha
  stream_mem s hs _ := by
    rw [h.streams_eq]
    exact hs
  nextAddress_le := h.nextAddress_le
  nextStream_le := Nat.le_of_eq h.nextStream_eq.symm

/-- Giving back buffers leaves its mark at their addresses. -/
theorem ofReturned {buffers : List Buffer} {others : List (Address × Nat)}
    (h : Buffer.Returned d buffers others d') :
    Footprint (buffers.map Buffer.address) [] d d' where
  region_eq a _ ha := h.elsewhere a ha
  stream_mem s hs _ := by
    rw [h.streams_eq]
    exact hs
  nextAddress_le := Nat.le_of_eq h.nextAddress_eq.symm
  nextStream_le := by
    have hnext : d'.nextStream = d.nextStream := by rw [h.frame]
    exact Nat.le_of_eq hnext.symm

/-- Making a stream touches nothing. -/
theorem createStream (d : Device) : Footprint [] [] d d.createStream.2 where
  region_eq _ _ _ := rfl
  stream_mem _ hs _ := List.mem_append_left _ hs
  nextAddress_le := Nat.le_refl _
  nextStream_le := Nat.le_succ _

/-- Of two steps, what the second touches need only be known where it was issued before the
first. -/
theorem trans {d₁ : Device} (h : Footprint own streams d d₁) (h₁ : Footprint own' streams' d₁ d')
    (hown : ∀ a ∈ own', a.value < d.nextAddress → a ∈ own) (hstreams : streams' ⊆ streams) :
    Footprint own streams d d' where
  region_eq a hissued ha :=
    (h₁.region_eq a (Nat.lt_of_lt_of_le hissued h.nextAddress_le)
      fun hmem => ha (hown a hmem hissued)).trans (h.region_eq a hissued ha)
  stream_mem s hs hother :=
    h₁.stream_mem s (h.stream_mem s hs hother) fun hmem => hother (hstreams hmem)
  nextAddress_le := Nat.le_trans h.nextAddress_le h₁.nextAddress_le
  nextStream_le := Nat.le_trans h.nextStream_le h₁.nextStream_le

end Device.Footprint

end GraphServe
