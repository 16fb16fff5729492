import GraphServe.Buffer
import GraphServe.Proofs.Device.Arena

/-!
# Buffers on a device

Allocating buffers makes a device grow by their regions (`Growth`). Ending the new buffers of a
growth restores the device up to its next address and its record (`Growth.discardAll_eq`), and
ending buffers that own part of the extents leaves exactly the other extents (`discardAll_spec`):
each request is granted, as it names a region that is live when it is made. Buffers that are
released leave the device that buffers leave which just end (`releaseAll_snd`).
-/

namespace GraphServe

namespace Buffer

/-- The extent that belongs to a buffer. -/
def extent (u : Buffer) : Address × Nat := (u.address, u.capacity)

/-- The region of a buffer that was just allocated. -/
def blank (u : Buffer) : Region := ⟨u.address, List.replicate u.capacity 0⟩

@[simp] theorem totalCapacity_eq_sum (buffers : List Buffer) :
    totalCapacity buffers = (buffers.map Buffer.capacity).sum := by
  induction buffers with
  | nil => rfl
  | cons u rest ih => simp [totalCapacity, ih]

@[simp] theorem map_fst_map_extent (buffers : List Buffer) :
    (buffers.map extent).map Prod.fst = buffers.map Buffer.address := by
  simp [extent, Function.comp_def]

@[simp] theorem map_snd_map_extent (buffers : List Buffer) :
    (buffers.map extent).map Prod.snd = buffers.map Buffer.capacity := by
  simp [extent, Function.comp_def]

/-! ## Growth -/

/-- A device grows by buffers, each allocated at the next address. -/
inductive Growth : Device → List Buffer → Device → Prop where
  | refl (d : Device) : Growth d [] d
  | step {d d' : Device} {fresh : List Buffer} (u : Buffer) (haddress : u.address = ⟨d.nextAddress⟩)
      (hrest : Growth (d.withRegion u.capacity) fresh d') : Growth d (u :: fresh) d'

namespace Growth

variable {d d' : Device} {fresh : List Buffer}

theorem frame (h : Growth d fresh d') :
    d' = { d with regions := d'.regions, inUse := d'.inUse, nextAddress := d'.nextAddress } := by
  induction h with
  | refl => rfl
  | step u haddress _ ih => rw [ih]; rfl

/-- The new regions come behind the old ones. -/
theorem regions_eq (h : Growth d fresh d') : d'.regions = d.regions ++ fresh.map blank := by
  induction h with
  | refl => simp
  | step u haddress _ ih => simp [ih, Device.withRegion, blank, haddress]

theorem inUse_eq (h : Growth d fresh d') :
    d'.inUse = d.inUse + (fresh.map Buffer.capacity).sum := by
  induction h with
  | refl => simp
  | step u haddress _ ih => simp [ih, Device.withRegion, Nat.add_assoc]

theorem nextAddress_le (h : Growth d fresh d') : d.nextAddress ≤ d'.nextAddress := by
  induction h with
  | refl => exact Nat.le_refl _
  | step u haddress _ ih => exact Nat.le_trans (Nat.le_add_right _ _) ih

theorem orderly (h : Growth d fresh d') (hd : d.Orderly) : d'.Orderly := by
  induction h with
  | refl => exact hd
  | step u haddress _ ih => exact ih (hd.withRegion u.capacity)

theorem extents_eq (h : Growth d fresh d') : d'.extents = d.extents ++ fresh.map extent := by
  simp [Device.extents, h.regions_eq, extent, blank, Function.comp_def]

/-- No address of a new buffer was issued before. -/
theorem unissued (h : Growth d fresh d') : ∀ u ∈ fresh, d.nextAddress ≤ u.address.value := by
  induction h with
  | refl => simp
  | step u haddress _ ih =>
    intro v hv
    rcases List.mem_cons.1 hv with rfl | hv
    · exact Nat.le_of_eq (congrArg Address.value haddress).symm
    · exact Nat.le_trans (Nat.le_add_right _ _) (ih v hv)

theorem streams_eq (h : Growth d fresh d') : d'.streams = d.streams := by rw [h.frame]

theorem nextStream_eq (h : Growth d fresh d') : d'.nextStream = d.nextStream := by rw [h.frame]

theorem kernels_eq (h : Growth d fresh d') : d'.kernels = d.kernels := by rw [h.frame]

theorem host_eq (h : Growth d fresh d') : d'.host = d.host := by rw [h.frame]

theorem frees_eq (h : Growth d fresh d') : d'.frees = d.frees := by rw [h.frame]

end Growth

/-- An allocation fails and leaves the device as it was, or makes it grow by one buffer of the
tensor's byte size. -/
theorem allocate_cases (d : Device) (t : Descriptor) (s : Shape) :
    (∃ e, allocate d t s = (.error e, d) ∧
        (t.elementType = .error e ∨ t.requiredBytes s = .error e ∨
          ∃ requested available, e = .outOfMemory requested available)) ∨
      ∃ dtype bytes, t.elementType = .ok dtype ∧ t.requiredBytes s = .ok bytes ∧
        allocate d t s = (.ok ⟨t.name, dtype, ⟨d.nextAddress⟩, bytes⟩, d.withRegion bytes) := by
  unfold allocate
  cases hdtype : t.elementType with
  | error e => exact Or.inl ⟨e, rfl, Or.inl rfl⟩
  | ok dtype =>
    cases hbytes : t.requiredBytes s with
    | error e => exact Or.inl ⟨e, rfl, Or.inr (Or.inl rfl)⟩
    | ok bytes =>
      rcases d.malloc_cases bytes with ⟨available, h⟩ | h
      · exact Or.inl ⟨_, by simp only [h], Or.inr (Or.inr ⟨bytes, available, rfl⟩)⟩
      · exact Or.inr ⟨dtype, bytes, rfl, rfl, by simp only [h]⟩

/-- A buffer of the type and of exactly the byte size of a tensor at a shape. -/
structure Exact (t : Descriptor) (s : Shape) (u : Buffer) : Prop where
  name_eq : u.name = t.name
  dtype_eq : t.elementType = .ok u.dtype
  bytes_eq : t.requiredBytes s = .ok u.capacity

theorem exact_of_allocate {d d' : Device} {t : Descriptor} {s : Shape} {u : Buffer}
    (h : allocate d t s = (.ok u, d')) : Exact t s u := by
  rw [allocate] at h
  split at h
  · cases h
  · next dtype hdtype =>
    split at h
    · cases h
    · next bytes hbytes =>
      split at h
      · cases h
      · cases h
        exact ⟨rfl, hdtype, hbytes⟩

/-- If the buffers of tensors are all allocated, each is exact for its tensor. -/
theorem exact_of_allocateEach {d d' : Device} {tensors : List Descriptor} {shapes : List Shape}
    {made : List Buffer} (h : allocateEach d tensors shapes = (⟨made, none⟩, d')) :
    List.Forall₂ (fun ts u => Exact ts.1 ts.2 u) (tensors.zip shapes) made := by
  induction tensors generalizing d shapes made with
  | nil =>
    cases h
    exact .nil
  | cons t tensors ih =>
    cases shapes with
    | nil =>
      cases h
      exact .nil
    | cons s shapes =>
      rw [allocateEach] at h
      rcases hfirst : allocate d t s with ⟨e | u, d₁⟩
      · rw [hfirst] at h
        cases h
      · simp only [hfirst] at h
        rcases hrest : allocateEach d₁ tensors shapes with ⟨⟨rest, failure⟩, d₂⟩
        rw [hrest] at h
        cases h
        exact .cons (exact_of_allocate hfirst) (ih hrest)

/-! ## Giving back -/

/-- What a device records when it takes buffers back, each of which it held. -/
def grants (buffers : List Buffer) : List FreeRecord := buffers.map fun u => ⟨u.address, true⟩

/-- Buffers that are released leave the device as buffers do that just end. -/
theorem releaseAll_snd (d : Device) (buffers : List Buffer) :
    (releaseAll d buffers).2 = discardAll d buffers := by
  induction buffers generalizing d with
  | nil => rfl
  | cons u rest ih =>
    have hfirst : (release d u).2 = drop false d u := rfl
    rw [releaseAll, discardAll, List.foldl_cons, ← discardAll, ← hfirst]
    rcases release d u with ⟨e | answer, d'⟩
    · exact ih d'
    · exact ih d'

/-- Ending the last regions of a device, first one first. -/
theorem discardAll_of_regions_eq {d : Device} {regions : List Region} {fresh : List Buffer}
    (hregions : d.regions = regions ++ fresh.map blank)
    (hdistinct : (d.extents.map Prod.fst).Nodup) :
    discardAll d fresh =
      { d with
        regions := regions
        inUse := d.inUse - (fresh.map Buffer.capacity).sum
        frees := d.frees ++ grants fresh } := by
  induction fresh generalizing d with
  | nil =>
    rw [List.map_nil, List.append_nil] at hregions
    simp [discardAll, grants, ← hregions]
  | cons u rest ih =>
    rw [Device.map_fst_extents, hregions, List.map_append, List.map_cons, List.map_cons] at hdistinct
    -- no old region has the address of a new one, so that the first new one is found and erased
    have hu : ∀ r ∈ regions, ¬ (r.address == u.address) := by
      intro r hr hsame
      refine (List.nodup_append.1 hdistinct).2.2 r.address (List.mem_map_of_mem hr) _
        List.mem_cons_self ?_
      exact eq_of_beq hsame
    have hfound : d.region? u.address = some u.blank := by
      rw [Device.region?, hregions, List.find?_append, List.find?_eq_none.2 hu]
      simp [blank]
    have herased : d.regions.eraseP (·.address == u.address) = regions ++ rest.map blank := by
      rw [hregions, List.eraseP_append_right _ fun r hr => by simpa using hu r hr]
      simp [blank]
    have hfirst : drop false d u =
        { d with
          regions := regions ++ rest.map blank
          inUse := d.inUse - u.capacity
          frees := d.frees ++ [⟨u.address, true⟩] } := by
      simp only [drop, Device.free, Device.recordFree, hfound, herased]
      simp [blank]
    rw [discardAll, List.foldl_cons, hfirst, ← discardAll, ih rfl]
    · simp [Nat.sub_sub, grants]
    · rw [Device.map_fst_extents, List.map_append]
      exact hdistinct.sublist ((List.Sublist.refl _).append (List.sublist_cons_self _ _))

/-- Ending the new buffers of a growth leaves only the next address and the record changed. -/
theorem Growth.discardAll_eq {d d' : Device} {fresh : List Buffer} (h : Growth d fresh d')
    (hd : d.Orderly) : discardAll d' fresh =
      { d with nextAddress := d'.nextAddress, frees := d.frees ++ grants fresh } := by
  rw [discardAll_of_regions_eq h.regions_eq (h.orderly hd).distinct, h.inUse_eq,
    Nat.add_sub_cancel]
  conv_lhs => rw [h.frame]

/-- What is left of a device after buffers that own part of its extents have ended. -/
structure Returned (d : Device) (buffers : List Buffer) (others : List (Address × Nat))
    (d' : Device) : Prop where
  frame : d' = { d with
    regions := d'.regions, inUse := d'.inUse, frees := d.frees ++ grants buffers }
  orderly : d'.Orderly
  extents_perm : d'.extents.Perm others
  elsewhere : ∀ a, a ∉ buffers.map Buffer.address → d'.region? a = d.region? a

/-- Buffers that own part of the extents are all taken back, and the other extents stay. -/
theorem discardAll_spec {d : Device} (hd : d.Orderly) {buffers : List Buffer}
    {others : List (Address × Nat)} (h : d.extents.Perm (buffers.map extent ++ others)) :
    Returned d buffers others (discardAll d buffers) := by
  induction buffers generalizing d with
  | nil =>
    refine ⟨?_, hd, by simpa [discardAll] using h, fun _ _ => rfl⟩
    rw [grants, List.map_nil, List.append_nil]
    rfl
  | cons u rest ih =>
    -- the first request is granted as its buffer is live, and the rest are met by what is left
    have hu : (u.address, u.capacity) ∈ d.extents := h.mem_iff.2 (by simp [extent])
    have hfree := Device.free_of_mem hd hu
    have hfirst : drop false d u = d.withoutRegion u.address u.capacity := by
      simp only [drop, hfree, Bool.false_eq_true, if_false]
    have hperm : (drop false d u).extents.Perm (rest.map extent ++ others) := by
      rw [hfirst]
      exact ((Device.perm_extents_withoutRegion hd hu).symm.trans h).cons_inv
    have hrest := ih (hfirst ▸ hd.withoutRegion hu) hperm
    refine ⟨?_, hrest.orderly, hrest.extents_perm, ?_⟩
    · rw [discardAll, List.foldl_cons, ← discardAll, hrest.frame, hfirst]
      simp [Device.withoutRegion, grants]
    · intro a ha
      rw [List.map_cons, List.mem_cons, not_or] at ha
      rw [discardAll, List.foldl_cons, ← discardAll, hrest.elsewhere a ha.2, hfirst,
        Device.region?_withoutRegion d _ ha.1]

namespace Returned

variable {d d' : Device} {buffers : List Buffer} {others : List (Address × Nat)}

theorem streams_eq (h : Returned d buffers others d') : d'.streams = d.streams := by rw [h.frame]

theorem kernels_eq (h : Returned d buffers others d') : d'.kernels = d.kernels := by rw [h.frame]

theorem nextAddress_eq (h : Returned d buffers others d') : d'.nextAddress = d.nextAddress := by
  rw [h.frame]

theorem frees_eq (h : Returned d buffers others d') : d'.frees = d.frees ++ grants buffers := by
  rw [h.frame]

end Returned

end Buffer

end GraphServe
