import GraphServe.Proofs.Device.Launch
import GraphServe.Proofs.Slot
import Mathlib.Data.List.Forall2

/-!
# Transfers of slots

Slots are placed on a device if each buffer owns an extent of the device, no two the same one. On
placed slots a transfer fails only by an armed fault: an upload leaves every input's region
beginning with the caller's bytes fitted to the slot (`uploadEach_of_quiet`), and a download
decodes what the outputs' regions begin with (`downloadEach_of_begins`).
-/

namespace GraphServe

/-- The values of a view's bytes. -/
def TensorView.elements (v : TensorView) : Except EngineError (List Element) :=
  (Element.decode v.dtype v.data).mapError .tensor

namespace Slot

/-- Where the slot's buffer lies. -/
def address (p : Slot) : Address := p.buffer.address

/-- What a kernel sees of the slot's tensor. -/
def view (p : Slot) (data : Bytes) : TensorView := ⟨p.tensor.name, p.buffer.dtype, p.shape, data⟩

/-- The buffers of the slots own distinct extents of a device. -/
structure Placed (slots : List Slot) (d : Device) : Prop where
  owned : ∀ p ∈ slots, p.buffer.extent ∈ d.extents
  distinct : (slots.map address).Nodup

namespace Placed

variable {slots : List Slot} {d d' : Device}

theorem of_extents_eq (h : Placed slots d) (hextents : d'.extents = d.extents) :
    Placed slots d' :=
  ⟨hextents ▸ h.owned, h.distinct⟩

theorem tail {p : Slot} (h : Placed (p :: slots) d) : Placed slots d :=
  ⟨fun q hq => h.owned q (List.mem_cons_of_mem _ hq), (List.nodup_cons.1 h.distinct).2⟩

theorem left {more : List Slot} (h : Placed (slots ++ more) d) : Placed slots d :=
  ⟨fun q hq => h.owned q (List.mem_append_left _ hq),
    (List.nodup_append.1 (List.map_append ▸ h.distinct)).1⟩

theorem right {before : List Slot} (h : Placed (before ++ slots) d) : Placed slots d :=
  ⟨fun q hq => h.owned q (List.mem_append_right _ hq),
    (List.nodup_append.1 (List.map_append ▸ h.distinct)).2.1⟩

/-- The region of a slot is live and large enough. -/
theorem exists_region (h : Placed slots d) (hd : d.Orderly) {p : Slot} (hp : p ∈ slots) :
    ∃ r, d.region? p.address = some r ∧ p.bytes ≤ r.data.length := by
  obtain ⟨r, hr, -, hlength⟩ := Device.exists_region_of_mem_extents (h.owned p hp) hd
  exact ⟨r, hr, hlength ▸ p.fits⟩

/-- Every slot holds something: its region begins with bytes of the slot's size. -/
theorem exists_contents (h : Placed slots d) (hd : d.Orderly) :
    ∃ contents, List.Forall₂ (fun p data => data.length = p.bytes ∧ d.Begins p.address data) slots
      contents := by
  let content := fun p : Slot => ((d.region? p.address).elim [] Region.data).take p.bytes
  refine ⟨slots.map content, ?_⟩
  rw [List.forall₂_map_right_iff, List.forall₂_same]
  intro p hp
  obtain ⟨r, hr, hfits⟩ := h.exists_region hd hp
  simp only [content, hr, Option.elim_some]
  exact ⟨List.length_take_of_le hfits, r, hr, List.take_prefix _ _⟩

end Placed

end Slot

namespace Transfer

open Slot (Placed)

/-! ## Checks -/

/-- Only a strict check refuses an input for its length, and then every accepted input has the
length of its slot. -/
theorem expectedSizes_cases (policy : SizePolicy) {slots : List Slot} (more : List Shape)
    {inputs : List Bytes} (hcount : inputs.length = slots.length) :
    (expectedSizes policy (slots.map Slot.tensor) (slots.map Slot.shape ++ more) inputs =
        .ok (slots.map Slot.bytes) ∧
      (policy = .strict → inputs.map List.length = slots.map Slot.bytes)) ∨
    (policy = .strict ∧ ∃ tensor expected got,
      expectedSizes policy (slots.map Slot.tensor) (slots.map Slot.shape ++ more) inputs =
        .error (.inputSize tensor expected got)) := by
  induction slots generalizing inputs with
  | nil =>
    rw [List.length_nil, List.length_eq_zero_iff] at hcount
    subst hcount
    exact Or.inl ⟨rfl, fun _ => rfl⟩
  | cons p slots ih =>
    obtain ⟨data, inputs, rfl⟩ := List.exists_cons_of_length_eq_add_one hcount
    simp only [List.map_cons, List.cons_append, expectedSizes, p.bytes_eq, ok_bind]
    by_cases hrefused : data.length ≠ p.bytes ∧ policy = .strict
    · rw [if_pos hrefused]
      exact Or.inr ⟨hrefused.2, _, _, _, rfl⟩
    · rw [if_neg hrefused]
      rcases ih (by simpa using hcount) with ⟨hrest, hlengths⟩ | ⟨hstrict, name, a, b, hrest⟩
      · refine Or.inl ⟨by rw [hrest]; rfl, fun hstrict => ?_⟩
        have hlength : data.length = p.bytes := by
          by_contra hne
          exact hrefused ⟨hne, hstrict⟩
        rw [hlength, hlengths hstrict]
      · exact Or.inr ⟨hstrict, name, a, b, by rw [hrest]; rfl⟩

/-! ## Uploads -/

theorem keeps_uploadInput (d : Device) (a : Address) (data : Bytes) (bytes : Nat) :
    Device.Keeps [a] d (uploadInput d a data bytes).2 := by
  unfold uploadInput
  split
  · exact d.keeps_copyIn a data
  · split
    · have hfill := d.keeps_fill a 0 bytes
      split
      · rename_i hfailed
        rwa [hfailed] at hfill
      · rename_i d' hfilled
        rw [hfilled] at hfill
        exact hfill.trans (d'.keeps_copyIn a data)
    · exact d.keeps_copyIn a (data.take bytes)

theorem keeps_uploadEach (d : Device) (buffers : List Buffer) (inputs : List Bytes)
    (expected : List Nat) :
    Device.Keeps (buffers.map Buffer.address) d (uploadEach d buffers inputs expected).2 := by
  induction buffers generalizing d inputs expected with
  | nil => exact .refl _ _
  | cons u rest ih =>
    cases inputs with
    | nil => exact .refl _ _
    | cons data inputs =>
      cases expected with
      | nil => exact .refl _ _
      | cons bytes expected =>
        have hfirst : Device.Keeps ((u :: rest).map Buffer.address) d
            (uploadInput d u.address data bytes).2 :=
          (keeps_uploadInput d u.address data bytes).mono (by simp)
        rw [uploadEach]
        split
        · rename_i hfailed
          rwa [hfailed] at hfirst
        · rename_i d' hdone
          rw [hdone] at hfirst
          exact hfirst.trans ((ih d' inputs expected).mono (by simp))

/-- Without a fault, an upload writes the fitted bytes over the start of the region. -/
theorem uploadInput_of_quiet {d : Device} (hd : d.Orderly) (hfault : d.transferFault = false)
    {a : Address} {r : Region} (hr : d.region? a = some r) {bytes : Nat}
    (hfits : bytes ≤ r.data.length) (data : Bytes) :
    uploadInput d a data bytes = (.ok (), d.updateRegion a (overlay (fitted bytes data))) := by
  unfold uploadInput
  rcases Nat.lt_trichotomy data.length bytes with hshort | hexact | hlong
  · -- the region is cleared first, and the data then take the start of the cleared part
    rw [if_neg (Nat.ne_of_lt hshort), if_pos hshort, Device.fill_of_fits hfault hr 0 hfits]
    have hcleared : (d.updateRegion a (overlay (List.replicate bytes 0))).region? a =
        some { r with data := overlay (List.replicate bytes 0) r.data } := by
      rw [Device.region?_updateRegion, if_pos rfl, hr]
      rfl
    have hroom : data.length ≤ (overlay (List.replicate bytes 0) r.data).length := by
      rw [length_overlay]
      omega
    have hquiet : (d.updateRegion a (overlay (List.replicate bytes 0))).transferFault = false :=
      hfault
    simp only
    rw [Device.copyIn_of_fits hquiet hcleared hroom, Device.updateRegion_updateRegion]
    exact congrArg (Prod.mk _)
      (Device.updateRegion_congr hd hr (overlay_overlay_replicate (Nat.le_of_lt hshort) hfits))
  · rw [if_pos hexact, Device.copyIn_of_fits hfault hr (by omega),
      fitted_of_le_length (Nat.le_of_eq hexact.symm), List.take_of_length_le (by omega)]
  · rw [if_neg (Nat.ne_of_gt hlong), if_neg (by omega),
      Device.copyIn_of_fits hfault hr (by rw [List.length_take]; omega),
      fitted_of_le_length (Nat.le_of_lt hlong)]

/-- Without a fault, every input arrives: its region begins with the caller's bytes fitted to the
slot. -/
theorem uploadEach_of_quiet {d : Device} (hd : d.Orderly) (hfault : d.transferFault = false)
    {slots : List Slot} (hplaced : Placed slots d) {inputs : List Bytes}
    (hcount : inputs.length = slots.length) :
    ∃ d', uploadEach d (slots.map Slot.buffer) inputs (slots.map Slot.bytes) = (.ok (), d') ∧
      d'.transferFault = false ∧ d'.launchFault = d.launchFault ∧
      List.Forall₂ (fun p data => d'.Begins p.address (fitted p.bytes data)) slots inputs := by
  induction slots generalizing d inputs with
  | nil =>
    rw [List.length_nil, List.length_eq_zero_iff] at hcount
    subst hcount
    exact ⟨d, rfl, hfault, rfl, .nil⟩
  | cons p slots ih =>
    obtain ⟨data, inputs, rfl⟩ := List.exists_cons_of_length_eq_add_one hcount
    obtain ⟨r, hr, hfits⟩ := hplaced.exists_region hd List.mem_cons_self
    have hkeeps := d.keeps_updateRegion p.address (length_overlay (fitted p.bytes data))
    obtain ⟨d', hrest, hquiet, hlaunch, hbegins⟩ := ih (hkeeps.orderly hd) hfault
      (hplaced.tail.of_extents_eq hkeeps.extents_eq) (by simpa using hcount)
    refine ⟨d', ?_, hquiet, hlaunch, .cons ?_ hbegins⟩
    · rw [List.map_cons, List.map_cons, uploadEach]
      rw [show p.buffer.address = p.address from rfl, uploadInput_of_quiet hd hfault hr hfits]
      exact hrest
    · -- the later uploads leave the first region alone, as its address is none of theirs
      have hlater := keeps_uploadEach (d.updateRegion p.address (overlay (fitted p.bytes data)))
        (slots.map Slot.buffer) inputs (slots.map Slot.bytes)
      rw [hrest] at hlater
      refine Device.Begins.keeps (Device.begins_updateRegion hr (by simpa using hfits)) hlater ?_
      simpa [Slot.address] using (List.nodup_cons.1 hplaced.distinct).1

theorem exists_of_copyIn_eq_error {d d' : Device} {a : Address} {bytes : Bytes} {e : EngineError}
    (h : d.copyIn a bytes = (.error e, d')) : ∃ reason, e = .transfer reason := by
  unfold Device.copyIn at h
  split at h
  · cases h
    exact ⟨_, rfl⟩
  · split at h
    · cases h
      exact ⟨_, rfl⟩
    · split at h
      · cases h
        exact ⟨_, rfl⟩
      · cases h

theorem exists_of_fill_eq_error {d d' : Device} {a : Address} {value : UInt8} {count : Nat}
    {e : EngineError} (h : d.fill a value count = (.error e, d')) :
    ∃ reason, e = .transfer reason := by
  unfold Device.fill at h
  split at h
  · cases h
    exact ⟨_, rfl⟩
  · split at h
    · cases h
      exact ⟨_, rfl⟩
    · cases h

/-- An upload fails only as a transfer. -/
theorem exists_of_uploadEach_eq_error {d d' : Device} {buffers : List Buffer} {inputs : List Bytes}
    {expected : List Nat} {e : EngineError}
    (h : uploadEach d buffers inputs expected = (.error e, d')) : ∃ reason, e = .transfer reason := by
  induction buffers generalizing d inputs expected with
  | nil => cases h
  | cons u rest ih =>
    cases inputs with
    | nil => cases h
    | cons data inputs =>
      cases expected with
      | nil => cases h
      | cons bytes expected =>
        rw [uploadEach] at h
        split at h
        · rename_i hfailed
          cases h
          unfold uploadInput at hfailed
          split at hfailed
          · exact exists_of_copyIn_eq_error hfailed
          · split at hfailed
            · split at hfailed
              · rename_i hfill
                cases hfailed
                exact exists_of_fill_eq_error hfill
              · exact exists_of_copyIn_eq_error hfailed
            · exact exists_of_copyIn_eq_error hfailed
        · exact ih h

/-! ## Downloads -/

theorem keeps_downloadOutput (own : List Address) (d : Device) (t : Descriptor) (u : Buffer)
    (s : Shape) : Device.Keeps own d (downloadOutput d t u s).2 := by
  unfold downloadOutput
  split
  · exact .refl _ _
  · split
    · exact .refl _ _
    · rename_i bytes _
      have hcopy := Device.keeps_copyOut own d u.address bytes
      split
      · rename_i hfailed
        rwa [hfailed] at hcopy
      · rename_i hdone
        rwa [hdone] at hcopy

theorem keeps_downloadEach (own : List Address) (d : Device) (tensors : List Descriptor)
    (buffers : List Buffer) (shapes : List Shape) :
    Device.Keeps own d (downloadEach d tensors buffers shapes).2 := by
  induction tensors generalizing d buffers shapes with
  | nil => exact .refl _ _
  | cons t tensors ih =>
    cases buffers with
    | nil => exact .refl _ _
    | cons u buffers =>
      cases shapes with
      | nil => exact .refl _ _
      | cons s shapes =>
        have hfirst := keeps_downloadOutput own d t u s
        rw [downloadEach]
        split
        · rename_i hfailed
          rwa [hfailed] at hfirst
        · rename_i values d' hdone
          rw [hdone] at hfirst
          have hrest := ih d' buffers shapes
          split
          · rename_i hfailed
            rw [hfailed] at hrest
            exact hfirst.trans hrest
          · rename_i hdone'
            rw [hdone'] at hrest
            exact hfirst.trans hrest

/-- What is copied out of a device has the length that was asked for, or the copy fails as a
transfer. -/
theorem copyOut_cases (d : Device) (a : Address) (count : Nat) :
    (∃ reason d', d.copyOut a count = (.error (.transfer reason), d')) ∨
      ∃ data d', data.length = count ∧ d.copyOut a count = (.ok data, d') := by
  unfold Device.copyOut
  split
  · exact Or.inl ⟨_, _, rfl⟩
  · split
    · exact Or.inl ⟨_, _, rfl⟩
    · split
      · exact Or.inl ⟨_, _, rfl⟩
      · rename_i hfits
        exact Or.inr ⟨_, _, List.length_take_of_le (Nat.le_of_not_lt hfits), rfl⟩

/-- The bytes of whole elements have values. -/
theorem exists_decode_eq_ok (p : Slot) {data : Bytes} (h : data.length = p.bytes) :
    ∃ values, Element.decode p.buffer.dtype data = .ok values :=
  ⟨_, if_pos (h ▸ Descriptor.mod_size_of_requiredBytes p.dtype_eq p.bytes_eq)⟩

/-- What slots can hold has values. -/
theorem exists_elements {slots : List Slot} {contents : List Bytes}
    (h : List.Forall₂ (fun p data => data.length = p.bytes) slots contents) :
    ∃ values, (List.zipWith Slot.view slots contents).mapM TensorView.elements = .ok values := by
  induction h with
  | nil => exact ⟨[], rfl⟩
  | @cons p data slots contents hlength _ ih =>
    obtain ⟨rest, hrest⟩ := ih
    obtain ⟨values, hvalues⟩ := exists_decode_eq_ok p hlength
    have helements : (p.view data).elements = .ok values := by
      simp only [TensorView.elements, Slot.view, hvalues]
      rfl
    refine ⟨values :: rest, ?_⟩
    rw [List.zipWith_cons_cons, List.mapM_cons, helements, ok_bind, hrest, ok_bind]
    rfl

/-- A download of slots fails only as a transfer. -/
theorem exists_of_downloadEach_eq_error {d d' : Device} {slots : List Slot} {e : EngineError}
    (h : downloadEach d (slots.map Slot.tensor) (slots.map Slot.buffer) (slots.map Slot.shape) =
      (.error e, d')) : ∃ reason, e = .transfer reason := by
  induction slots generalizing d d' with
  | nil => cases h
  | cons p slots ih =>
    simp only [List.map_cons, downloadEach, downloadOutput, p.dtype_eq, p.bytes_eq] at h
    rcases copyOut_cases d p.buffer.address p.bytes with
      ⟨reason, d₁, hcopy⟩ | ⟨data, d₁, hlength, hcopy⟩
    · simp only [hcopy] at h
      cases h
      exact ⟨reason, rfl⟩
    · obtain ⟨values, hvalues⟩ := exists_decode_eq_ok p hlength
      simp only [hcopy, hvalues, Except.mapError] at h
      split at h
      · rename_i hrest
        cases h
        exact ih hrest
      · cases h

/-- Without a fault, a download gives the values of what the regions begin with. -/
theorem downloadEach_of_begins {d : Device} (hfault : d.transferFault = false) {slots : List Slot}
    {contents : List Bytes}
    (h : List.Forall₂ (fun p data => data.length = p.bytes ∧ d.Begins p.address data) slots
      contents) :
    ∃ values, (List.zipWith Slot.view slots contents).mapM TensorView.elements = .ok values ∧
      downloadEach d (slots.map Slot.tensor) (slots.map Slot.buffer) (slots.map Slot.shape) =
        (.ok ⟨values, slots.map fun p => p.shape.sizes⟩, d) := by
  obtain ⟨values, hvalues⟩ := exists_elements (h.imp fun _ _ hfirst => hfirst.1)
  refine ⟨values, hvalues, ?_⟩
  induction h generalizing values with
  | nil =>
    cases hvalues
    rfl
  | @cons p data slots contents hfirst _ ih =>
    obtain ⟨hlength, hbegins⟩ := hfirst
    rw [List.zipWith_cons_cons, List.mapM_cons] at hvalues
    obtain ⟨first, helements, hvalues⟩ := bind_eq_ok_iff.1 hvalues
    obtain ⟨rest, hrest, hvalues⟩ := bind_eq_ok_iff.1 hvalues
    cases hvalues
    have hcopy : d.copyOut p.buffer.address p.bytes = (.ok data, d) :=
      hlength ▸ Device.copyOut_of_begins hfault hbegins
    have hdecode : (Element.decode p.buffer.dtype data).mapError EngineError.tensor = .ok first :=
      helements
    simp only [List.map_cons, downloadEach, downloadOutput, p.dtype_eq, p.bytes_eq, hcopy, hdecode,
      ih rest hrest]

/-- Without a fault, a download of placed slots succeeds. -/
theorem exists_downloadEach_eq_ok {d : Device} (hd : d.Orderly) (hfault : d.transferFault = false)
    {slots : List Slot} (hplaced : Placed slots d) :
    ∃ output, downloadEach d (slots.map Slot.tensor) (slots.map Slot.buffer)
      (slots.map Slot.shape) = (.ok output, d) := by
  obtain ⟨contents, hcontents⟩ := hplaced.exists_contents hd
  obtain ⟨values, -, hdownload⟩ := downloadEach_of_begins hfault hcontents
  exact ⟨_, hdownload⟩

end Transfer

end GraphServe
