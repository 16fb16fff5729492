import GraphServe.Device.Arena
import Mathlib.Algebra.BigOperators.Group.List.Basic
import Mathlib.Algebra.GroupWithZero.Nat
import Mathlib.Data.List.Nodup

/-!
# The arena of a device

The extents of a device are the addresses of its live regions with their lengths. A device is
orderly if no two extents share an address, every address and every stream was issued before the
next one, and the bytes in use are the lengths added up. Allocation appends one extent that was
never issued (`malloc_cases`), giving a live region back removes its extent and nothing else
(`free_of_mem`), and a copy keeps every extent and every region but its own (`Keeps`).
-/

namespace GraphServe

/-- The host answers equal requests alike, whenever they come. -/
def Host.Uniform (host : Host) : Prop :=
  ∀ next next' bytes, host.backs next bytes = host.backs next' bytes

theorem Host.uniform_upTo (bound : Nat) : (Host.upTo bound).Uniform := fun _ _ _ => rfl

namespace Device

/-- The addresses of the live regions with their lengths. -/
def extents (d : Device) : List (Address × Nat) :=
  d.regions.map fun r => (r.address, r.data.length)

/-- What a device keeps true of its books. -/
structure Orderly (d : Device) : Prop where
  distinct : (d.extents.map Prod.fst).Nodup
  issued : ∀ e ∈ d.extents, e.1.value < d.nextAddress
  inUse_eq : d.inUse = (d.extents.map Prod.snd).sum
  streams_distinct : d.streams.Nodup
  streams_issued : ∀ s ∈ d.streams, s.handle < d.nextStream

theorem orderly_new (kernels : KernelTable) (limit : Option Nat) (host : Host) :
    (Device.new kernels limit host).Orderly := by
  constructor <;> simp [Device.new, extents]

theorem map_fst_extents (d : Device) :
    d.extents.map Prod.fst = d.regions.map Region.address := by
  simp [extents, Function.comp_def]

/-! ## Looking regions up -/

theorem address_of_region? {d : Device} {a : Address} {r : Region} (h : d.region? a = some r) :
    r.address = a := by
  simpa using List.find?_some h

theorem mem_of_region? {d : Device} {a : Address} {r : Region} (h : d.region? a = some r) :
    r ∈ d.regions :=
  List.mem_of_find?_eq_some h

/-- Every extent belongs to a live region. -/
theorem exists_region_of_mem_extents {d : Device} {a : Address} {n : Nat}
    (h : (a, n) ∈ d.extents) (hd : d.Orderly) :
    ∃ r, d.region? a = some r ∧ r.address = a ∧ r.data.length = n := by
  simp only [extents, List.mem_map, Prod.mk.injEq] at h
  obtain ⟨r, hr, hra, hrn⟩ := h
  refine ⟨r, ?_, hra, hrn⟩
  have hnodup : (d.regions.map Region.address).Nodup := map_fst_extents d ▸ hd.distinct
  -- the look-up stops at the first region of the address, and there is only one
  cases hfound : d.region? a with
  | none =>
    exact absurd hra (by simpa using List.find?_eq_none.1 hfound r hr)
  | some r' =>
    have hsame : r'.address = r.address := (address_of_region? hfound).trans hra.symm
    rw [List.inj_on_of_nodup_map hnodup (mem_of_region? hfound) hr hsame]

theorem mem_extents_of_region? {d : Device} {a : Address} {r : Region}
    (h : d.region? a = some r) : (a, r.data.length) ∈ d.extents :=
  List.mem_map.2 ⟨r, mem_of_region? h, by rw [address_of_region? h]⟩

/-! ## Allocation -/

/-- The device after an allocation that succeeds. -/
def withRegion (d : Device) (bytes : Nat) : Device :=
  { d with
    regions := d.regions ++ [⟨⟨d.nextAddress⟩, List.replicate bytes 0⟩]
    inUse := d.inUse + bytes
    nextAddress := d.nextAddress + span bytes }

/-- An allocation is refused for want of memory and leaves the device as it was, or it appends one
region at the next address. -/
theorem malloc_cases (d : Device) (bytes : Nat) :
    (∃ available, d.malloc bytes = (.error (.outOfMemory bytes available), d)) ∨
      d.malloc bytes = (.ok ⟨d.nextAddress⟩, d.withRegion bytes) := by
  unfold malloc
  cases hrefused : d.refusal? bytes with
  | none => exact Or.inr rfl
  | some e =>
    left
    unfold refusal? at hrefused
    split at hrefused <;> split at hrefused <;> cases hrefused
    · exact ⟨_, rfl⟩
    · exact ⟨_, rfl⟩

/-- A request that the host backs and that the limit leaves room for is met. -/
theorem malloc_of_room {d : Device} {bytes : Nat}
    (hroom : ∀ limit, d.limit = some limit → d.inUse + bytes ≤ limit)
    (hbacked : d.backs bytes = true) :
    d.malloc bytes = (.ok ⟨d.nextAddress⟩, d.withRegion bytes) := by
  have hunmet : ¬ d.backs bytes = false := by simp [hbacked]
  have hgranted : d.refusal? bytes = none := by
    rw [refusal?, available?]
    cases hlimit : d.limit with
    | none => simp only [Option.map_none, if_neg hunmet]
    | some limit =>
      have hfits : ¬ limit - d.inUse < bytes := by
        have := hroom limit hlimit
        omega
      simp only [Option.map_some, if_neg (not_or.2 ⟨hfits, hunmet⟩)]
  rw [malloc, hgranted]
  rfl

theorem span_pos (bytes : Nat) : 0 < span bytes := by
  have hblock : alignment ≤ max bytes 1 + (alignment - 1) := by
    have : 1 ≤ max bytes 1 := Nat.le_max_right ..
    simp only [alignment]
    omega
  exact Nat.mul_pos (Nat.div_pos hblock (by decide)) (by decide)

@[simp] theorem extents_withRegion (d : Device) (bytes : Nat) :
    (d.withRegion bytes).extents = d.extents ++ [(⟨d.nextAddress⟩, bytes)] := by
  simp [withRegion, extents]

theorem Orderly.withRegion {d : Device} (hd : d.Orderly) (bytes : Nat) :
    (d.withRegion bytes).Orderly := by
  have hspan := span_pos bytes
  refine ⟨?_, ?_, ?_, hd.streams_distinct, hd.streams_issued⟩
  · rw [extents_withRegion, List.map_append, List.nodup_append]
    refine ⟨hd.distinct, by simp, ?_⟩
    -- an address that is live was issued, and the next one was not
    rintro a ha b hb rfl
    obtain ⟨e, he, rfl⟩ := List.mem_map.1 ha
    have hissued := hd.issued e he
    simp only [List.map_cons, List.map_nil, List.mem_singleton] at hb
    rw [hb] at hissued
    exact Nat.lt_irrefl _ hissued
  · intro e he
    rw [extents_withRegion, List.mem_append, List.mem_singleton] at he
    show e.1.value < d.nextAddress + span bytes
    rcases he with he | rfl
    · have := hd.issued e he
      omega
    · show d.nextAddress < d.nextAddress + span bytes
      omega
  · show d.inUse + bytes = _
    rw [extents_withRegion, List.map_append, List.sum_append, ← hd.inUse_eq]
    simp

/-! ## Giving regions back -/

/-- The device once the region at an address was taken back. -/
def withoutRegion (d : Device) (a : Address) (bytes : Nat) : Device :=
  { d with
    regions := d.regions.eraseP (·.address == a)
    inUse := d.inUse - bytes
    frees := d.frees ++ [⟨a, true⟩] }

/-- A live region can be given back, which removes its extent and no other. -/
theorem free_of_mem {d : Device} (hd : d.Orderly) {a : Address} {n : Nat}
    (h : (a, n) ∈ d.extents) : d.free a = (.ok (), d.withoutRegion a n) := by
  obtain ⟨r, hr, -, rfl⟩ := exists_region_of_mem_extents h hd
  simp only [free, hr, withoutRegion, recordFree]

theorem extents_withoutRegion (d : Device) (a : Address) (n : Nat) :
    (d.withoutRegion a n).extents = d.extents.eraseP (·.1 == a) := by
  simp only [withoutRegion, extents, List.eraseP_map]
  rfl

/-- The extents are the one given back and those that are left. -/
theorem perm_extents_withoutRegion {d : Device} (hd : d.Orderly) {a : Address} {n : Nat}
    (h : (a, n) ∈ d.extents) : d.extents.Perm ((a, n) :: (d.withoutRegion a n).extents) := by
  rw [extents_withoutRegion]
  obtain ⟨e, l₁, l₂, hbefore, hea, hsplit, herase⟩ :=
    List.exists_of_eraseP h (p := (·.1 == a)) (by simp)
  -- the extent that was erased is the one that was looked for, as addresses are distinct
  have he : e = (a, n) := by
    refine List.inj_on_of_nodup_map hd.distinct (hsplit ▸ by simp) h ?_
    simpa using hea
  rw [herase, hsplit, he]
  exact List.perm_middle

theorem Orderly.withoutRegion {d : Device} (hd : d.Orderly) {a : Address} {n : Nat}
    (h : (a, n) ∈ d.extents) : (d.withoutRegion a n).Orderly := by
  have hperm := perm_extents_withoutRegion hd h
  have hdistinct := (hperm.map Prod.fst).nodup_iff.1 hd.distinct
  have hsum := (hperm.map Prod.snd).sum_eq
  refine ⟨?_, ?_, ?_, hd.streams_distinct, hd.streams_issued⟩
  · exact (List.nodup_cons.1 hdistinct).2
  · intro e he
    exact hd.issued e (hperm.mem_iff.2 (List.mem_cons_of_mem _ he))
  · rw [← hd.inUse_eq, List.map_cons, List.sum_cons] at hsum
    show d.inUse - n = _
    omega

/-- Giving a region back leaves every other region as it is. -/
theorem region?_withoutRegion (d : Device) {a b : Address} (n : Nat) (h : b ≠ a) :
    (d.withoutRegion a n).region? b = d.region? b := by
  simp only [withoutRegion, region?]
  induction d.regions with
  | nil => rfl
  | cons r rest ih =>
    by_cases hra : r.address = a
    · simp [hra, Ne.symm h]
    · rw [List.eraseP_cons_of_neg (by simpa using hra), List.find?_cons, List.find?_cons, ih]

/-! ## Counters and streams -/

/-- Counters may advance, and requests be recorded. -/
theorem Orderly.advance {d : Device} (hd : d.Orderly) {address stream : Nat}
    (haddress : d.nextAddress ≤ address) (hstream : d.nextStream ≤ stream)
    (frees : List FreeRecord) :
    Orderly { d with nextAddress := address, nextStream := stream, frees } where
  distinct := hd.distinct
  issued e he := Nat.lt_of_lt_of_le (hd.issued e he) haddress
  inUse_eq := hd.inUse_eq
  streams_distinct := hd.streams_distinct
  streams_issued s hs := Nat.lt_of_lt_of_le (hd.streams_issued s hs) hstream

/-- The next stream is not among those that exist. -/
theorem Orderly.nextStream_not_mem {d : Device} (hd : d.Orderly) : d.createStream.1 ∉ d.streams := by
  intro hmem
  exact Nat.lt_irrefl _ (hd.streams_issued _ hmem)

theorem Orderly.createStream {d : Device} (hd : d.Orderly) : d.createStream.2.Orderly where
  distinct := hd.distinct
  issued := hd.issued
  inUse_eq := hd.inUse_eq
  streams_distinct := by
    show (d.streams ++ [d.createStream.1]).Nodup
    rw [List.nodup_append]
    refine ⟨hd.streams_distinct, by simp, ?_⟩
    rintro s hs t ht rfl
    rw [List.mem_singleton] at ht
    exact hd.nextStream_not_mem (ht ▸ hs)
  streams_issued s hs := by
    show s.handle < d.nextStream + 1
    rcases List.mem_append.1 hs with hs | hs
    · exact Nat.lt_succ_of_lt (hd.streams_issued s hs)
    · rw [List.mem_singleton.1 hs]
      exact Nat.lt_succ_self _

/-- A live stream can be destroyed, which takes it from the list and changes nothing else. -/
theorem destroyStream_of_mem {d : Device} {s : Stream} (h : s ∈ d.streams) :
    d.destroyStream s = (.ok (), { d with streams := d.streams.erase s }) :=
  if_pos h

theorem Orderly.eraseStream {d : Device} (hd : d.Orderly) (s : Stream) :
    Orderly { d with streams := d.streams.erase s } where
  distinct := hd.distinct
  issued := hd.issued
  inUse_eq := hd.inUse_eq
  streams_distinct := hd.streams_distinct.erase s
  streams_issued t ht := hd.streams_issued t (List.mem_of_mem_erase ht)

/-! ## Writing regions -/

/-- A step that writes no region but those at the given addresses, keeps all lengths, and else
changes nothing but the armed faults. -/
structure Keeps (own : List Address) (d d' : Device) : Prop where
  frame : d' = { d with
    regions := d'.regions, launchFault := d'.launchFault, transferFault := d'.transferFault }
  extents_eq : d'.extents = d.extents
  elsewhere : ∀ a, a ∉ own → d'.region? a = d.region? a

namespace Keeps

variable {own : List Address} {d d' d'' : Device}

theorem refl (own : List Address) (d : Device) : Keeps own d d := ⟨rfl, rfl, fun _ _ => rfl⟩

theorem trans (h : Keeps own d d') (h' : Keeps own d' d'') : Keeps own d d'' where
  frame := by rw [h'.frame, h.frame]
  extents_eq := h'.extents_eq.trans h.extents_eq
  elsewhere a ha := (h'.elsewhere a ha).trans (h.elsewhere a ha)

theorem mono {own' : List Address} (h : Keeps own d d') (hsub : own ⊆ own') : Keeps own' d d' :=
  ⟨h.frame, h.extents_eq, fun a ha => h.elsewhere a fun hown => ha (hsub hown)⟩

theorem inUse_eq (h : Keeps own d d') : d'.inUse = d.inUse := by rw [h.frame]

theorem nextAddress_eq (h : Keeps own d d') : d'.nextAddress = d.nextAddress := by rw [h.frame]

theorem streams_eq (h : Keeps own d d') : d'.streams = d.streams := by rw [h.frame]

theorem nextStream_eq (h : Keeps own d d') : d'.nextStream = d.nextStream := by rw [h.frame]

theorem kernels_eq (h : Keeps own d d') : d'.kernels = d.kernels := by rw [h.frame]

theorem host_eq (h : Keeps own d d') : d'.host = d.host := by rw [h.frame]

theorem frees_eq (h : Keeps own d d') : d'.frees = d.frees := by rw [h.frame]

theorem orderly (h : Keeps own d d') (hd : d.Orderly) : d'.Orderly where
  distinct := h.extents_eq ▸ hd.distinct
  issued := by rw [h.extents_eq, h.nextAddress_eq]; exact hd.issued
  inUse_eq := by rw [h.extents_eq, h.inUse_eq]; exact hd.inUse_eq
  streams_distinct := h.streams_eq ▸ hd.streams_distinct
  streams_issued := by rw [h.streams_eq, h.nextStream_eq]; exact hd.streams_issued

end Keeps

theorem keeps_disarmTransfer (own : List Address) (d : Device) : Keeps own d d.disarmTransfer :=
  ⟨rfl, rfl, fun _ _ => rfl⟩

theorem keeps_armTransferFault (own : List Address) (d : Device) :
    Keeps own d d.armTransferFault :=
  ⟨rfl, rfl, fun _ _ => rfl⟩

/-- What lies at an address after one region was changed. -/
theorem region?_updateRegion (d : Device) (a b : Address) (f : Bytes → Bytes) :
    (d.updateRegion a f).region? b =
      if b = a then (d.region? b).map fun r => { r with data := f r.data } else d.region? b := by
  have hcomp : ((fun r : Region => r.address == b) ∘ fun r : Region =>
      if r.address = a then { r with data := f r.data } else r) = fun r => r.address == b := by
    funext r
    simp only [Function.comp]
    split <;> rfl
  -- the change keeps addresses, so that the look-up goes through it
  simp only [updateRegion, region?, List.find?_map, hcomp]
  cases hfound : d.regions.find? (·.address == b) with
  | none => simp
  | some r =>
    have hrb : r.address = b := address_of_region? hfound
    by_cases hba : b = a
    · simp [hba, hrb]
    · simp [hba, hrb]

theorem keeps_updateRegion (d : Device) (a : Address) {f : Bytes → Bytes}
    (hf : ∀ data, (f data).length = data.length) : Keeps [a] d (d.updateRegion a f) where
  frame := rfl
  extents_eq := by
    simp only [updateRegion, extents, List.map_map]
    refine List.map_congr_left fun r _ => ?_
    simp only [Function.comp]
    split
    · simp [hf]
    · rfl
  elsewhere b hb := by
    rw [region?_updateRegion, if_neg (by simpa using hb)]

/-- Changing a region twice is changing it once by both changes. -/
theorem updateRegion_updateRegion (d : Device) (a : Address) (f g : Bytes → Bytes) :
    (d.updateRegion a f).updateRegion a g = d.updateRegion a (g ∘ f) := by
  simp only [updateRegion, List.map_map]
  congr 1
  refine List.map_congr_left fun r _ => ?_
  simp only [Function.comp]
  by_cases hra : r.address = a <;> simp [hra]

/-- Two changes that agree on the bytes of the region give the same device. -/
theorem updateRegion_congr {d : Device} (hd : d.Orderly) {a : Address} {r : Region}
    {f g : Bytes → Bytes} (hr : d.region? a = some r) (h : f r.data = g r.data) :
    d.updateRegion a f = d.updateRegion a g := by
  have hnodup : (d.regions.map Region.address).Nodup := map_fst_extents d ▸ hd.distinct
  simp only [updateRegion]
  congr 1
  refine List.map_congr_left fun r' hr' => ?_
  by_cases hra : r'.address = a
  · have hsame : r' = r := List.inj_on_of_nodup_map hnodup hr' (mem_of_region? hr)
      (hra.trans (address_of_region? hr).symm)
    rw [if_pos hra, if_pos hra, hsame, h]
  · rw [if_neg hra, if_neg hra]

/-! ## Copies -/

theorem keeps_copyIn (d : Device) (a : Address) (bytes : Bytes) :
    Keeps [a] d (d.copyIn a bytes).2 := by
  unfold copyIn
  split
  · exact keeps_disarmTransfer _ _
  · split
    · exact .refl _ _
    · split
      · exact .refl _ _
      · exact keeps_updateRegion d a (length_overlay bytes)

theorem keeps_copyOut (own : List Address) (d : Device) (a : Address) (count : Nat) :
    Keeps own d (d.copyOut a count).2 := by
  unfold copyOut
  split
  · exact keeps_disarmTransfer _ _
  · split
    · exact .refl _ _
    · split <;> exact .refl _ _

theorem keeps_fill (d : Device) (a : Address) (value : UInt8) (count : Nat) :
    Keeps [a] d (d.fill a value count).2 := by
  unfold fill
  split
  · exact keeps_disarmTransfer _ _
  · split
    · exact .refl _ _
    · exact keeps_updateRegion d a (length_overlay _)

/-- Without a fault, bytes that fit are copied. -/
theorem copyIn_of_fits {d : Device} (h : d.transferFault = false) {a : Address} {r : Region}
    (hr : d.region? a = some r) {bytes : Bytes} (hfits : bytes.length ≤ r.data.length) :
    d.copyIn a bytes = (.ok (), d.updateRegion a (overlay bytes)) := by
  simp [copyIn, h, hr, Nat.not_lt.2 hfits]

theorem copyOut_of_fits {d : Device} (h : d.transferFault = false) {a : Address} {r : Region}
    (hr : d.region? a = some r) {count : Nat} (hfits : count ≤ r.data.length) :
    d.copyOut a count = (.ok (r.data.take count), d) := by
  simp [copyOut, h, hr, Nat.not_lt.2 hfits]

theorem fill_of_fits {d : Device} (h : d.transferFault = false) {a : Address} {r : Region}
    (hr : d.region? a = some r) (value : UInt8) {count : Nat} (hfits : count ≤ r.data.length) :
    d.fill a value count = (.ok (), d.updateRegion a (overlay (List.replicate count value))) := by
  simp [fill, h, hr, Nat.min_eq_left hfits]

end Device

end GraphServe
