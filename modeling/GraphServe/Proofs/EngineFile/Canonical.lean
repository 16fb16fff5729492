import GraphServe.Proofs.EngineFile.Opening

/-!
# Written and opened files

A file that opens is the one that is written of what it says, up to the bytes that no field
occupies: those between the table and the payload, and those behind the payload
(`openBytes_canonical`). Contents within the limits of the format open as they were written
(`openBytes_toBytes`).
-/

namespace GraphServe.EngineFile

namespace Contents.HeldBy

variable {c : Contents} {bytes padding tail bytes' padding' tail' : Bytes}

theorem take_table (h : c.HeldBy bytes padding tail) :
    bytes.take c.tableBytes.length = c.tableBytes := by
  rw [h.bytes_eq, List.append_assoc, List.append_assoc, List.take_left]

/-- The bytes that are passed over unread are the padding. -/
theorem skipped_eq (h : c.HeldBy bytes padding tail) :
    (bytes.drop c.tableBytes.length).take (alignUp c.tableBytes.length - c.tableBytes.length) =
      padding := by
  rw [h.bytes_eq, List.append_assoc, List.append_assoc, List.drop_left, ← h.length_padding,
    List.take_left]

/-- Two strings that hold the same contents differ only in their padding and their ends. -/
theorem eq_iff (h : c.HeldBy bytes padding tail) (h' : c.HeldBy bytes' padding' tail') :
    bytes = bytes' ↔ padding = padding' ∧ tail = tail' := by
  constructor
  · rintro rfl
    constructor
    · exact h.skipped_eq.symm.trans h'.skipped_eq
    · exact List.append_cancel_left (h.drop_payloadOffset.symm.trans h'.drop_payloadOffset)
  · rintro ⟨rfl, rfl⟩
    exact h.bytes_eq.trans h'.bytes_eq.symm

/-- Bytes of the table and of the payload are the same wherever the contents are held. -/
theorem getElem?_eq (h : c.HeldBy bytes padding tail) (h' : c.HeldBy bytes' padding' tail')
    {i : Nat} (hi : i < c.tableBytes.length ∨
      alignUp c.tableBytes.length ≤ i ∧ i < alignUp c.tableBytes.length + c.payload.length) :
    bytes[i]? = bytes'[i]? := by
  rcases hi with htable | ⟨hle, hlt⟩
  · calc bytes[i]? = (bytes.take c.tableBytes.length)[i]? := (List.getElem?_take_of_lt htable).symm
      _ = (bytes'.take c.tableBytes.length)[i]? := by rw [h.take_table, h'.take_table]
      _ = bytes'[i]? := List.getElem?_take_of_lt htable
  · obtain ⟨j, rfl⟩ := Nat.exists_eq_add_of_le hle
    have hj : j < c.payload.length := by omega
    rw [← List.getElem?_drop, ← List.getElem?_drop, h.drop_payloadOffset, h'.drop_payloadOffset,
      List.getElem?_append_left hj, List.getElem?_append_left hj]

end Contents.HeldBy

/-- A file holds the contents it is written of, with zeros for padding and nothing behind. -/
theorem Contents.heldBy_toBytes (c : Contents) :
    c.HeldBy c.toBytes
      (List.replicate (alignUp c.tableBytes.length - c.tableBytes.length) 0) [] where
  bytes_eq := (List.append_nil _).symm
  length_padding := List.length_replicate

/-- How bytes that open compare with those that are written of what they say. -/
structure Opened.Canonical (o : Opened) (bytes : Bytes) : Prop where
  limits : o.contents.WithinLimits
  version_eq : o.header.version = version
  count_eq : o.header.tensorCount.toNat = o.tensors.length
  length_eq : o.length = bytes.length
  table_read : bytes.take o.contents.tableBytes.length = o.contents.tableBytes
  table_written : o.contents.toBytes.take o.contents.tableBytes.length = o.contents.tableBytes
  offset_aligned : payloadAlignment ∣ o.payloadOffset
  table_le_offset : o.contents.tableBytes.length ≤ o.payloadOffset
  offset_lt : o.payloadOffset < o.contents.tableBytes.length + payloadAlignment
  payload_read : (bytes.drop o.payloadOffset).take o.payload.length = o.payload
  payload_written : o.contents.toBytes.drop o.payloadOffset = o.payload
  payload_inside : o.payloadOffset + o.payload.length ≤ bytes.length
  eq_written_iff : bytes = o.contents.toBytes ↔
    (∀ b ∈ (bytes.drop o.contents.tableBytes.length).take
      (o.payloadOffset - o.contents.tableBytes.length), b = 0) ∧
      bytes.length = o.payloadOffset + o.payload.length
  differs_only : ∀ i, bytes[i]? ≠ o.contents.toBytes[i]? →
    (o.contents.tableBytes.length ≤ i ∧ i < o.payloadOffset) ∨
      o.payloadOffset + o.payload.length ≤ i

/-- Contents within the limits compare with any string that holds them. -/
theorem Contents.HeldBy.canonical {c : Contents} {bytes padding tail : Bytes} (hc : c.WithinLimits)
    (h : c.HeldBy bytes padding tail) : (c.opened bytes.length).Canonical bytes where
  limits := hc
  version_eq := rfl
  count_eq := toNat_ofNat hc.count_lt
  length_eq := rfl
  table_read := h.take_table
  table_written := c.heldBy_toBytes.take_table
  offset_aligned := Nat.dvd_mul_left _ _
  table_le_offset := le_alignUp _
  offset_lt := alignUp_lt _
  payload_read := by
    rw [c.payload_opened, c.payloadOffset_opened, h.drop_payloadOffset, List.take_left]
  payload_written := c.heldBy_toBytes.drop_payloadOffset.trans (List.append_nil _)
  payload_inside := by
    rw [c.payload_opened, c.payloadOffset_opened, h.length_eq]
    omega
  eq_written_iff := by
    have hlength := h.length_eq
    rw [c.contents_opened, c.payload_opened, c.payloadOffset_opened, h.eq_iff c.heldBy_toBytes,
      h.skipped_eq, ← h.length_padding, List.eq_replicate_iff, ← List.length_eq_zero_iff]
    constructor
    · rintro ⟨⟨-, hzero⟩, htail⟩
      exact ⟨hzero, by omega⟩
    · rintro ⟨hzero, hend⟩
      exact ⟨⟨rfl, hzero⟩, by omega⟩
  differs_only := by
    intro i hne
    rw [c.contents_opened] at hne
    rw [c.contents_opened, c.payload_opened, c.payloadOffset_opened]
    have houtside := mt (h.getElem?_eq c.heldBy_toBytes) hne
    omega

/-- Whatever the bytes, they are refused as having a wrong magic, an unknown version or no graph
that can be loaded, and then they hold no contents within the limits; or they open and compare with
those that are written of what they say. -/
theorem openBytes_canonical (bytes : Bytes) :
    (∃ e, openBytes bytes = .error e ∧
      ((∃ found, e = .invalidMagic found) ∨ (∃ found, e = .unsupportedVersion found) ∨
        ∃ reason, e = .graphLoad reason) ∧
      ¬ ∃ c padding tail, Contents.WithinLimits c ∧ c.HeldBy bytes padding tail) ∨
    ∃ o, openBytes bytes = .ok o ∧ o.Canonical bytes := by
  cases hopen : openBytes bytes with
  | error e =>
    refine Or.inl ⟨e, rfl, cause_of_openBytes_eq_error hopen, ?_⟩
    rintro ⟨c, padding, tail, hc, hheld⟩
    rw [openBytes_of_heldBy hc hheld] at hopen
    cases hopen
  | ok o =>
    obtain ⟨c, padding, tail, hc, hheld, rfl⟩ := openBytes_eq_ok_iff.1 hopen
    exact Or.inr ⟨_, rfl, hheld.canonical hc⟩

/-- A classifier of batches of images. -/
def classifier : Contents where
  kernel := "classifier"
  tensors := [
    ⟨"input", .input, .f32, ⟨[.dynamic "batch", .fixed 3, .fixed 224, .fixed 224], by decide⟩⟩,
    ⟨"logits", .output, .f32, ⟨[.dynamic "batch", .fixed 1000], by decide⟩⟩]
  payload := [0xCA, 0xFE, 0xBA, 0xBE]

theorem classifier_withinLimits : classifier.WithinLimits := by
  decide +kernel

end GraphServe.EngineFile
