import GraphServe.Proofs.EngineFile.Table

/-!
# Which byte strings open

A byte string opens exactly if it holds contents within the limits of the format
(`openBytes_eq_ok_iff`): the bytes of their table, as many bytes as it takes to reach the payload's
place, the payload, and anything behind it.
-/

namespace GraphServe.EngineFile

/-! ## Header and layout -/

theorem toNat_ofNat {n : Nat} (h : n < Nat.pow 256 4) : (UInt32.ofNat n).toNat = n := by
  rw [UInt32.toNat_ofNat', Nat.mod_eq_of_lt h]

theorem recognizes_readHeader :
    Recognizes readHeader
      (Written Header.toBytes fun h => h.version = version ∧ Nameable h.kernel) := by
  refine ((recognizes_readBytes 4).bind fun found _ _ => .guard (.magic found)
    ((recognizes_readNat 4).bind fun fileVersion _ _ => .guard (.version _)
      ((recognizes_readNat 4).bind fun count _ _ =>
        recognizes_readText.bind fun kernel _ _ => .guard (.content _)
          (recognizes_pure (Header.mk (UInt32.ofNat fileVersion) (UInt32.ofNat count)
            kernel))))).congr fun bytes h => ?_
  constructor
  · rintro ⟨_, found, _, ⟨-, rfl⟩, ⟨hmagic, fileVersion, _, _, ⟨rfl, hfileVersion⟩,
      ⟨hversion, count, _, _, ⟨rfl, hcount⟩, ⟨kernel, _, _, ⟨rfl, hlength⟩, ⟨hempty, rfl, rfl⟩,
        rfl⟩, rfl⟩, rfl⟩, rfl⟩
    refine ⟨?_, Decidable.not_not.1 hversion, isEmpty_ne_true_iff.1 hempty, hlength⟩
    rw [Header.toBytes, toNat_ofNat hfileVersion, toNat_ofNat hcount, Decidable.not_not.1 hmagic]
    simp only [List.append_nil, List.append_assoc]
  · rintro ⟨rfl, hversion, hempty, hlength⟩
    have hcount : h.tensorCount.toNat < Nat.pow 256 4 := h.tensorCount.toNat_lt
    have hfile : h.version.toNat < Nat.pow 256 4 := h.version.toNat_lt
    refine ⟨magic, magic, _, ⟨rfl, rfl⟩, ⟨fun hne => hne rfl, h.version.toNat, _, _, ⟨rfl, hfile⟩,
      ⟨?_, h.tensorCount.toNat, _, _, ⟨rfl, hcount⟩, ⟨h.kernel, _, [], ⟨rfl, hlength⟩,
        ⟨isEmpty_ne_true_iff.2 hempty, rfl, ?_⟩, rfl⟩, rfl⟩, rfl⟩, ?_⟩
    · rw [UInt32.ofNat_toNat, hversion]
      exact fun hne => hne rfl
    · rw [UInt32.ofNat_toNat, UInt32.ofNat_toNat]
    · simp only [Header.toBytes, List.append_nil, List.append_assoc]

/-- What the fields in front of the payload say, and in which bytes. -/
structure Layout (bytes : Bytes) (layout : Header × List Descriptor × Nat) : Prop where
  bytes_eq : bytes = layout.1.toBytes ++ layout.2.1.flatMap entryBytes ++ littleEndian 8 layout.2.2
  version_eq : layout.1.version = version
  kernel : Nameable layout.1.kernel
  count_eq : layout.2.1.length = layout.1.tensorCount.toNat
  tensors : ∀ t ∈ layout.2.1, t.WithinLimits
  payload_lt : layout.2.2 < Nat.pow 256 8

theorem recognizes_readLayout : Recognizes readLayout Layout := by
  refine (recognizes_readHeader.bind fun header _ _ =>
    (recognizes_readTable header.tensorCount.toNat).bind fun tensors _ _ =>
      (recognizes_readNat 8).bind fun length _ _ => recognizes_pure (header, tensors, length)).congr
    fun bytes layout => ?_
  constructor
  · rintro ⟨header, _, _, ⟨rfl, hversion, hkernel⟩, ⟨tensors, _, _, ⟨hcount, rfl, htensors⟩,
      ⟨length, _, _, ⟨rfl, hlength⟩, ⟨rfl, rfl⟩, rfl⟩, rfl⟩, rfl⟩
    exact ⟨by simp, hversion, hkernel, hcount, htensors, hlength⟩
  · rintro ⟨rfl, hversion, hkernel, hcount, htensors, hlength⟩
    exact ⟨layout.1, _, _, ⟨rfl, hversion, hkernel⟩, ⟨layout.2.1, _, _, ⟨hcount, rfl, htensors⟩,
      ⟨layout.2.2, _, [], ⟨rfl, hlength⟩, ⟨rfl, rfl⟩, rfl⟩, rfl⟩, by simp⟩

/-! ## Contents in a byte string -/

theorem le_alignUp (position : Nat) : position ≤ alignUp position := by
  rw [alignUp, payloadAlignment]
  omega

theorem alignUp_lt (position : Nat) : alignUp position < position + payloadAlignment := by
  rw [alignUp, payloadAlignment]
  omega

/-- Contents that a file can hold. The last limit is that of any byte string in memory. -/
structure Contents.WithinLimits (c : Contents) : Prop where
  kernel : Nameable c.kernel
  count_lt : c.tensors.length < UInt32.size
  tensors : ∀ t ∈ c.tensors, t.WithinLimits
  payload_lt : c.payload.length < UInt64.size

instance (c : Contents) : Decidable c.WithinLimits :=
  decidable_of_iff (Nameable c.kernel ∧ c.tensors.length < UInt32.size ∧
    (∀ t ∈ c.tensors, t.WithinLimits) ∧ c.payload.length < UInt64.size)
    ⟨fun h => ⟨h.1, h.2.1, h.2.2.1, h.2.2.2⟩, fun h => ⟨h.1, h.2, h.3, h.4⟩⟩

/-- A byte string holds contents: their table, any bytes up to the payload's place, the payload, and
anything behind it. -/
structure Contents.HeldBy (c : Contents) (bytes padding tail : Bytes) : Prop where
  bytes_eq : bytes = c.tableBytes ++ padding ++ c.payload ++ tail
  length_padding : padding.length = alignUp c.tableBytes.length - c.tableBytes.length

namespace Contents.HeldBy

variable {c : Contents} {bytes padding tail : Bytes}

/-- The payload follows its table and the padding. -/
theorem length_front (h : c.HeldBy bytes padding tail) :
    (c.tableBytes ++ padding).length = alignUp c.tableBytes.length := by
  have halign := le_alignUp c.tableBytes.length
  rw [List.length_append, h.length_padding]
  omega

theorem length_eq (h : c.HeldBy bytes padding tail) :
    bytes.length = alignUp c.tableBytes.length + c.payload.length + tail.length := by
  rw [h.bytes_eq, List.length_append, List.length_append, h.length_front]

theorem drop_payloadOffset (h : c.HeldBy bytes padding tail) :
    bytes.drop (alignUp c.tableBytes.length) = c.payload ++ tail := by
  rw [h.bytes_eq, ← h.length_front, List.append_assoc, List.drop_left]

end Contents.HeldBy

/-- The file that opens where contents are held. -/
def Contents.opened (c : Contents) (length : Nat) : Opened :=
  ⟨⟨version, UInt32.ofNat c.tensors.length, c.kernel⟩, c.tensors, alignUp c.tableBytes.length,
    c.payload, length⟩

@[simp] theorem Contents.contents_opened (c : Contents) (length : Nat) :
    (c.opened length).contents = c :=
  rfl

@[simp] theorem Contents.payload_opened (c : Contents) (length : Nat) :
    (c.opened length).payload = c.payload :=
  rfl

@[simp] theorem Contents.payloadOffset_opened (c : Contents) (length : Nat) :
    (c.opened length).payloadOffset = alignUp c.tableBytes.length :=
  rfl

theorem Contents.WithinLimits.layout {c : Contents} (h : c.WithinLimits) :
    Layout c.tableBytes (⟨version, UInt32.ofNat c.tensors.length, c.kernel⟩, c.tensors,
      c.payload.length) where
  bytes_eq := rfl
  version_eq := rfl
  kernel := h.kernel
  count_eq := (toNat_ofNat h.count_lt).symm
  tensors := h.tensors
  payload_lt := h.payload_lt

/-- What a layout says, with a payload of the length it announces, are contents within the limits,
and the bytes are those of their table. -/
theorem Layout.contents {bytes payload : Bytes} {header : Header} {tensors : List Descriptor}
    (h : Layout bytes (header, tensors, payload.length)) :
    Contents.WithinLimits ⟨header.kernel, tensors, payload⟩ ∧
      bytes = Contents.tableBytes ⟨header.kernel, tensors, payload⟩ ∧
      header = ⟨version, UInt32.ofNat tensors.length, header.kernel⟩ := by
  obtain ⟨found, count, kernel⟩ := header
  obtain ⟨rfl, rfl, hkernel, hcount, htensors, hpayload⟩ := h
  have hcount' : UInt32.ofNat tensors.length = count := by
    rw [hcount]
    exact UInt32.ofNat_toNat
  refine ⟨⟨hkernel, ?_, htensors, hpayload⟩, ?_, ?_⟩
  · exact hcount ▸ count.toNat_lt
  · rw [Contents.tableBytes, hcount']
  · rw [hcount']

theorem Contents.four_le_length_tableBytes (c : Contents) : 4 ≤ c.tableBytes.length := by
  rw [Contents.tableBytes, Header.toBytes, List.append_assoc, List.append_assoc, List.append_assoc,
    List.append_assoc, List.length_append]
  exact Nat.le_add_right 4 _

/-- Contents within the limits open wherever they are held. -/
theorem openBytes_of_heldBy {c : Contents} {bytes padding tail : Bytes} (hc : c.WithinLimits)
    (hheld : c.HeldBy bytes padding tail) : openBytes bytes = .ok (c.opened bytes.length) := by
  have hbytes : bytes = c.tableBytes ++ (padding ++ c.payload ++ tail) := by
    rw [hheld.bytes_eq, List.append_assoc, List.append_assoc, List.append_assoc]
  have hlong : ¬ bytes.length < 4 := by
    have hfour := c.four_le_length_tableBytes
    rw [hbytes, List.length_append]
    omega
  have hread := recognizes_readLayout.takes hc.layout (padding ++ c.payload ++ tail) 0
  rw [← hbytes, Nat.zero_add] at hread
  have hfits : alignUp c.tableBytes.length + c.payload.length ≤ bytes.length := by
    rw [hheld.length_eq]
    omega
  rw [openBytes, if_neg hlong, Cursor.start, hread]
  simp only
  rw [if_pos hfits, hheld.drop_payloadOffset, List.take_left]
  rfl

/-- A byte string is what stands before a first place, from there to a second, in a stretch from
there, and behind it. -/
theorem eq_cut {first second : Nat} (h : first ≤ second) (length : Nat) (bytes : Bytes) :
    bytes = bytes.take first ++ (bytes.drop first).take (second - first) ++
      (bytes.drop second).take length ++ bytes.drop (second + length) := by
  have hsecond :
      bytes.take first ++ (bytes.drop first).take (second - first) = bytes.take second := by
    rw [← List.take_add, Nat.add_sub_cancel' h]
  rw [hsecond, ← List.take_add, List.take_append_drop]

/-- What opens holds contents within the limits. -/
theorem exists_heldBy_of_openBytes {bytes : Bytes} {o : Opened} (h : openBytes bytes = .ok o) :
    ∃ c padding tail, Contents.WithinLimits c ∧ c.HeldBy bytes padding tail ∧
      o = c.opened bytes.length := by
  rw [openBytes] at h
  split at h
  · cases h
  split at h
  · cases h
  next header tensors length stop hread =>
  obtain ⟨taken, hlayout, hrest, hposition⟩ := recognizes_readLayout.taken hread
  rw [Cursor.start] at hrest hposition
  simp only [Nat.zero_add] at hrest hposition
  dsimp only at h
  split at h
  · next hfits =>
    cases h
    rw [hposition] at hfits ⊢
    have halign := le_alignUp taken.length
    have hlength : ((bytes.drop (alignUp taken.length)).take length).length = length := by
      rw [List.length_take, List.length_drop]
      omega
    -- the announced length is that of the payload that was cut out
    rw [← hlength] at hlayout
    obtain ⟨hlimits, htable, hheader⟩ := hlayout.contents
    refine ⟨⟨header.kernel, tensors, _⟩,
      (bytes.drop taken.length).take (alignUp taken.length - taken.length),
      bytes.drop (alignUp taken.length + length), hlimits, ⟨?_, ?_⟩, ?_⟩
    · have htaken : bytes.take taken.length = taken := by rw [hrest, List.take_left]
      calc bytes = bytes.take taken.length ++
              (bytes.drop taken.length).take (alignUp taken.length - taken.length) ++
              (bytes.drop (alignUp taken.length)).take length ++
              bytes.drop (alignUp taken.length + length) := eq_cut halign length bytes
        _ = _ := by rw [htaken, ← htable]
    · rw [← htable, List.length_take, List.length_drop]
      omega
    · rw [Contents.opened, ← htable, ← hheader]
  · cases h

theorem openBytes_eq_ok_iff {bytes : Bytes} {o : Opened} :
    openBytes bytes = .ok o ↔ ∃ c padding tail, Contents.WithinLimits c ∧
      c.HeldBy bytes padding tail ∧ o = c.opened bytes.length := by
  constructor
  · exact exists_heldBy_of_openBytes
  · rintro ⟨c, padding, tail, hc, hheld, rfl⟩
    exact openBytes_of_heldBy hc hheld

/-- What does not open is refused for its magic, its version, or as no graph that can be loaded. -/
theorem cause_of_openBytes_eq_error {bytes : Bytes} {e : EngineError}
    (h : openBytes bytes = .error e) :
    (∃ found, e = .invalidMagic found) ∨ (∃ found, e = .unsupportedVersion found) ∨
      ∃ reason, e = .graphLoad reason := by
  rw [openBytes] at h
  split at h
  · cases h
    exact Or.inr (Or.inr ⟨_, rfl⟩)
  · split at h
    · next e' stop hread =>
      cases h
      cases recognizes_readLayout.fails hread with
      | endOfData => exact Or.inr (Or.inr ⟨_, rfl⟩)
      | magic found => exact Or.inl ⟨found, rfl⟩
      | version found => exact Or.inr (Or.inl ⟨found, rfl⟩)
      | content reason => exact Or.inr (Or.inr ⟨reason, rfl⟩)
    · dsimp only at h
      split at h <;> cases h
      exact Or.inr (Or.inr ⟨_, rfl⟩)

end GraphServe.EngineFile
