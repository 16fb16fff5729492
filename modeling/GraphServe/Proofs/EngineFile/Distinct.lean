import GraphServe.Proofs.EngineFile.Canonical

/-!
# Files of different contents

Every field is written so that its end can be told from what follows it (`SelfDelimiting`), as long
as its numbers are not cut to the width of their fields and no size is written as the mark of a
named axis (`Contents.Countable`). Then a written file opens exactly if its contents are within the
limits, and says what it was written of (`contents_of_openBytes_toBytes`). A size that is written as
the mark opens as a named axis, and the bytes behind it as its name (`openBytes_misread`).
-/

namespace GraphServe

/-! ## Numbers that fit their fields -/

/-- An axis that is not written as another one: a size other than the mark, or a name whose length
fits its field. -/
def Axis.Countable : Axis → Prop
  | .fixed size => size.toNat ≠ 18446744073709551615
  | .dynamic symbol => (Text.Utf8.encode symbol).length < UInt64.size

/-- A tensor whose lengths and rank fit their fields. -/
structure Descriptor.Countable (d : Descriptor) : Prop where
  name_lt : (Text.Utf8.encode d.name).length < UInt64.size
  rank_lt : d.shape.rank < UInt32.size
  axes : ∀ a ∈ d.shape.axes, a.Countable

namespace EngineFile

/-- Contents whose lengths and counts fit their fields. -/
structure Contents.Countable (c : Contents) : Prop where
  kernel_lt : (Text.Utf8.encode c.kernel).length < UInt64.size
  count_lt : c.tensors.length < UInt32.size
  tensors : ∀ t ∈ c.tensors, t.Countable
  payload_lt : c.payload.length < UInt64.size

theorem Nameable.length_lt {text : String} (h : Nameable text) :
    (Text.Utf8.encode text).length < UInt64.size :=
  Nat.lt_of_le_of_lt h.length_le (by decide)

theorem countable_of_withinLimits {a : Axis} (h : a.WithinLimits) : a.Countable := by
  cases a with
  | fixed size =>
    have hlt : size.toNat < 9223372036854775808 := h.2
    rw [Axis.Countable]
    omega
  | dynamic symbol => exact Nameable.length_lt h

theorem Descriptor.WithinLimits.countable {d : Descriptor} (h : d.WithinLimits) : d.Countable where
  name_lt := h.name.length_lt
  rank_lt := Nat.lt_of_le_of_lt h.rank_le (by decide)
  axes a ha := countable_of_withinLimits (h.axes a ha)

theorem Contents.WithinLimits.countable {c : Contents} (h : c.WithinLimits) : c.Countable where
  kernel_lt := h.kernel.length_lt
  count_lt := h.count_lt
  tensors t ht := Descriptor.WithinLimits.countable (h.tensors t ht)
  payload_lt := h.payload_lt

/-! ## Encodings with an end -/

variable {α : Type}

/-- An encoding that shows its value and its end, whatever follows. -/
def SelfDelimiting (write : α → Bytes) (valid : α → Prop) : Prop :=
  ∀ ⦃a b⦄, valid a → valid b → ∀ ⦃rest rest'⦄, write a ++ rest = write b ++ rest' →
    a = b ∧ rest = rest'

/-- What a reader takes is self-delimiting. -/
theorem Recognizes.selfDelimiting {read : Reader α} {write : α → Bytes} {valid : α → Prop}
    (h : Recognizes read (Written write valid)) : SelfDelimiting write valid := by
  intro a b ha hb rest rest' heq
  have hread := h.takes ⟨rfl, ha⟩ rest 0
  rw [heq, h.takes ⟨rfl, hb⟩ rest' 0] at hread
  cases hread
  exact ⟨rfl, rfl⟩

theorem selfDelimiting_littleEndian (width : Nat) :
    SelfDelimiting (littleEndian width) (· < Nat.pow 256 width) :=
  (recognizes_readNat width).selfDelimiting

theorem selfDelimiting_writeText :
    SelfDelimiting writeText fun text => (Text.Utf8.encode text).length < UInt64.size := by
  intro text text' hlt hlt' rest rest' heq
  rw [writeText, writeText, List.append_assoc, List.append_assoc] at heq
  obtain ⟨hlength, hrest⟩ := selfDelimiting_littleEndian 8 hlt hlt' heq
  obtain ⟨hencode, hrest'⟩ := List.append_inj hrest hlength
  have hdecode := Text.Utf8.decode_eq_ok_iff.2 hencode
  rw [Text.Utf8.decode_eq_ok_iff.2 rfl] at hdecode
  cases hdecode
  exact ⟨rfl, hrest'⟩

theorem selfDelimiting_axisBytes : SelfDelimiting axisBytes Axis.Countable := by
  intro a b ha hb rest rest' heq
  have hsigned := recognizes_readSigned.selfDelimiting
  cases a with
  | fixed size =>
    cases b with
    | fixed size' =>
      obtain ⟨hsize, hrest⟩ := hsigned trivial trivial heq
      have hback := congrArg Int64.toUInt64 hsize
      rw [UInt64.toUInt64_toInt64, UInt64.toUInt64_toInt64] at hback
      exact ⟨congrArg Axis.fixed hback, hrest⟩
    | dynamic symbol =>
      rw [axisBytes, axisBytes, List.append_assoc] at heq
      exact (ha ((toInt64_eq_dynamicMark_iff size).1 (hsigned trivial trivial heq).1)).elim
  | dynamic symbol =>
    cases b with
    | fixed size =>
      rw [axisBytes, axisBytes, List.append_assoc] at heq
      exact (hb ((toInt64_eq_dynamicMark_iff size).1 (hsigned trivial trivial heq).1.symm)).elim
    | dynamic symbol' =>
      rw [axisBytes, axisBytes, List.append_assoc, List.append_assoc] at heq
      obtain ⟨hsymbol, hrest⟩ := selfDelimiting_writeText ha hb (List.append_cancel_left heq)
      exact ⟨congrArg Axis.dynamic hsymbol, hrest⟩

/-- Rows of the same length show their values and their end, if each value does. -/
theorem SelfDelimiting.row {write : α → Bytes} {valid : α → Prop} (h : SelfDelimiting write valid)
    {row row' : List α} {rest rest' : Bytes} (hlength : row.length = row'.length)
    (hrow : ∀ a ∈ row, valid a) (hrow' : ∀ a ∈ row', valid a)
    (heq : row.flatMap write ++ rest = row'.flatMap write ++ rest') :
    row = row' ∧ rest = rest' := by
  induction row generalizing row' with
  | nil =>
    obtain rfl := List.length_eq_zero_iff.1 hlength.symm
    exact ⟨rfl, heq⟩
  | cons a row ih =>
    obtain ⟨b, row', rfl⟩ := List.exists_cons_of_length_eq_add_one hlength.symm
    obtain ⟨ha, hothers⟩ := List.forall_mem_cons.1 hrow
    obtain ⟨hb, hothers'⟩ := List.forall_mem_cons.1 hrow'
    rw [List.flatMap_cons, List.flatMap_cons, List.append_assoc, List.append_assoc] at heq
    obtain ⟨hfirst, htail⟩ := h ha hb heq
    obtain ⟨htails, hrest⟩ := ih (Nat.succ.inj hlength) hothers hothers' htail
    exact ⟨by rw [hfirst, htails], hrest⟩

theorem selfDelimiting_entryBytes : SelfDelimiting entryBytes Descriptor.Countable := by
  intro d d' hd hd' rest rest' heq
  simp only [entryBytes, List.append_assoc] at heq
  -- field after field, each value and what stands behind it
  obtain ⟨hname, hbehind⟩ := selfDelimiting_writeText hd.name_lt hd'.name_lt heq
  obtain ⟨hdirection, hbehind⟩ :=
    (recognizes_readDirection d.name).selfDelimiting trivial trivial hbehind
  obtain ⟨hdtype, hbehind⟩ :=
    (recognizes_readDataType d.name).selfDelimiting trivial trivial hbehind
  obtain ⟨hrank, hbehind⟩ := selfDelimiting_littleEndian 4 hd.rank_lt hd'.rank_lt hbehind
  obtain ⟨haxes, hrest⟩ := selfDelimiting_axisBytes.row hrank hd.axes hd'.axes hbehind
  obtain ⟨name, direction, dtype, ⟨axes, hfixed⟩⟩ := d
  obtain ⟨name', direction', dtype', ⟨axes', hfixed'⟩⟩ := d'
  cases hname
  cases hdirection
  cases hdtype
  cases haxes
  exact ⟨rfl, hrest⟩

/-- The bytes up to the payload's length show everything but the payload. -/
theorem tableBytes_append_inj {c c' : Contents} (hc : c.Countable) (hc' : c'.Countable)
    {rest rest' : Bytes} (heq : c.tableBytes ++ rest = c'.tableBytes ++ rest') :
    c.kernel = c'.kernel ∧ c.tensors = c'.tensors ∧ c.payload.length = c'.payload.length ∧
      rest = rest' := by
  simp only [Contents.tableBytes, Header.toBytes, List.append_assoc, toNat_ofNat hc.count_lt,
    toNat_ofNat hc'.count_lt] at heq
  have hbehind := List.append_cancel_left (List.append_cancel_left heq)
  obtain ⟨hcount, hbehind⟩ := selfDelimiting_littleEndian 4 hc.count_lt hc'.count_lt hbehind
  obtain ⟨hkernel, hbehind⟩ := selfDelimiting_writeText hc.kernel_lt hc'.kernel_lt hbehind
  obtain ⟨htensors, hbehind⟩ := selfDelimiting_entryBytes.row hcount hc.tensors hc'.tensors hbehind
  obtain ⟨hpayload, hrest⟩ := selfDelimiting_littleEndian 8 hc.payload_lt hc'.payload_lt hbehind
  exact ⟨hkernel, htensors, hpayload, hrest⟩

/-- A byte string holds at most one countable contents. -/
theorem Contents.HeldBy.unique {c c' : Contents} {bytes padding tail padding' tail' : Bytes}
    (hc : c.Countable) (hc' : c'.Countable) (h : c.HeldBy bytes padding tail)
    (h' : c'.HeldBy bytes padding' tail') : c = c' := by
  have heq := h.bytes_eq.symm.trans h'.bytes_eq
  simp only [List.append_assoc] at heq
  obtain ⟨hkernel, htensors, hlength, -⟩ := tableBytes_append_inj hc hc' heq
  -- the tables are the same, hence so are the places of the payloads
  have htable : c.tableBytes = c'.tableBytes := by
    rw [Contents.tableBytes, Contents.tableBytes, hkernel, htensors, hlength]
  have hpayload : c.payload ++ tail = c'.payload ++ tail' := by
    rw [← h.drop_payloadOffset, ← h'.drop_payloadOffset, htable]
  obtain ⟨kernel, tensors, payload⟩ := c
  obtain ⟨kernel', tensors', payload'⟩ := c'
  cases hkernel
  cases htensors
  cases (List.append_inj hpayload hlength).1
  rfl

/-- A written file that opens says what it was written of exactly if that is within the limits. -/
theorem contents_eq_iff {c : Contents} {o : Opened} (h : openBytes c.toBytes = .ok o) :
    o.contents = c ↔ c.WithinLimits := by
  constructor
  · intro heq
    obtain ⟨c', padding, tail, hlimits, -, rfl⟩ := openBytes_eq_ok_iff.1 h
    exact heq ▸ hlimits
  · intro hc
    rw [openBytes_of_heldBy hc c.heldBy_toBytes] at h
    cases h
    exact c.contents_opened _

/-- Of countable contents, a written file opens exactly if they are within the limits, and what it
then says is what it was written of. -/
theorem contents_of_openBytes_toBytes {c : Contents} (hc : c.Countable) :
    ((∃ o, openBytes c.toBytes = .ok o) ↔ c.WithinLimits) ∧
      ∀ o, openBytes c.toBytes = .ok o → o.contents = c := by
  have hlimits : ∀ o, openBytes c.toBytes = .ok o → c.WithinLimits := by
    intro o h
    obtain ⟨c', padding, tail, hc', hheld, rfl⟩ := openBytes_eq_ok_iff.1 h
    exact c.heldBy_toBytes.unique hc hc'.countable hheld ▸ hc'
  refine ⟨⟨fun ⟨o, h⟩ => hlimits o h, ?_⟩, fun o h => (contents_eq_iff h).2 (hlimits o h)⟩
  exact fun h => ⟨_, openBytes_of_heldBy h c.heldBy_toBytes⟩

theorem contents_of_openBytes_toBytes_classifier :
    classifier.Countable ∧ ∃ o, openBytes classifier.toBytes = .ok o ∧ o.contents = classifier := by
  have hcountable := classifier_withinLimits.countable
  obtain ⟨hopens, hsays⟩ := contents_of_openBytes_toBytes hcountable
  obtain ⟨o, hopen⟩ := hopens.2 classifier_withinLimits
  exact ⟨hcountable, o, hopen, hsays o hopen⟩

/-- Contents with a size that is written as the mark of a named axis. -/
def misread : Contents where
  kernel := "k"
  tensors := [⟨"y", .output, .f32, ⟨[.fixed 18446744073709551615], by decide⟩⟩]
  payload := List.replicate 32 0

/-- What the bytes of `misread` are read as: the payload's length and the bytes behind it are the
name of an axis, and there is no payload. -/
def reread : Contents where
  kernel := "k"
  tensors := [⟨"y", .output, .f32,
    ⟨[.dynamic (String.ofList (List.replicate 32 (Char.ofNat 0)))], by decide⟩⟩]
  payload := []

theorem heldBy_misread : reread.HeldBy misread.toBytes [0] [] where
  bytes_eq := by decide +kernel
  length_padding := by decide +kernel

theorem openBytes_misread :
    ∃ o, openBytes misread.toBytes = .ok o ∧ o.contents = reread ∧ o.contents ≠ misread := by
  have hopen := openBytes_of_heldBy (by decide +kernel) heldBy_misread
  have houtside : ¬ misread.WithinLimits := by decide +kernel
  exact ⟨_, hopen, rfl, mt (contents_eq_iff hopen).1 houtside⟩

end EngineFile
end GraphServe
