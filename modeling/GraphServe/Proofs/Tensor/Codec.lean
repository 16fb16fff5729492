import GraphServe.Tensor.Element
import Mathlib.Data.List.Basic

/-!
# Encoded values

Values of a type take a fixed number of bytes each, and the numbers of so many bytes stand for one
value each (`Word`). Rows of such values are therefore written and read back without loss, in either
direction, and long rows are read part by part. Device bytes are read in this way for every element
type, and what was written in a type that is exchanged without conversion is the bytes it was read
from (`codec_inverse`).
-/

namespace GraphServe

/-! ## Groups of bytes -/

section groups

variable {size : Nat}

/-- Groups of equal length are found again once they are joined. -/
theorem groupsOf_flatten {rows : List Bytes} (h : ∀ row ∈ rows, row.length = size) :
    groupsOf size rows.length rows.flatten = rows := by
  induction rows with
  | nil => rfl
  | cons row rows ih =>
    have hrow : row.length = size := h row List.mem_cons_self
    have hrest : ∀ row ∈ rows, row.length = size := by
      intro other hother
      exact h other (List.mem_cons_of_mem _ hother)
    rw [List.length_cons, groupsOf, List.flatten_cons, List.take_left' hrow, List.drop_left' hrow,
      ih hrest]

/-- Bytes that are all in groups are what the groups join to. -/
theorem flatten_groupsOf {count : Nat} {bytes : Bytes} (h : bytes.length = count * size) :
    (groupsOf size count bytes).flatten = bytes := by
  induction count generalizing bytes with
  | zero =>
    rw [Nat.zero_mul] at h
    rw [groupsOf, List.flatten_nil, List.eq_nil_of_length_eq_zero h]
  | succ count ih =>
    rw [Nat.succ_mul] at h
    have hrest : (bytes.drop size).length = count * size := by
      rw [List.length_drop]
      omega
    rw [groupsOf, List.flatten_cons, ih hrest, List.take_append_drop]

/-- Each group is full. -/
theorem length_of_mem_groupsOf {count : Nat} {bytes group : Bytes}
    (h : count * size ≤ bytes.length) (hgroup : group ∈ groupsOf size count bytes) :
    group.length = size := by
  induction count generalizing bytes with
  | zero => cases hgroup
  | succ count ih =>
    rw [Nat.succ_mul] at h
    rcases List.mem_cons.1 hgroup with rfl | hgroup
    · rw [List.length_take]
      omega
    · apply ih _ hgroup
      rw [List.length_drop]
      omega

/-- The groups of full groups with more behind them are the groups of both parts. -/
theorem groupsOf_append {m n : Nat} {first second : Bytes} (h : first.length = m * size) :
    groupsOf size (m + n) (first ++ second) = groupsOf size m first ++ groupsOf size n second := by
  induction m generalizing first with
  | zero =>
    rw [Nat.zero_mul] at h
    rw [List.eq_nil_of_length_eq_zero h, Nat.zero_add, groupsOf, List.nil_append, List.nil_append]
  | succ m ih =>
    rw [Nat.succ_mul] at h
    have hfits : size ≤ first.length := by omega
    have hrest : (first.drop size).length = m * size := by
      rw [List.length_drop]
      omega
    rw [Nat.succ_add_eq_add_succ, Nat.add_succ, groupsOf, groupsOf,
      List.take_append_of_le_length hfits, List.drop_append_of_le_length hfits, ih hrest,
      List.cons_append]

/-- Groups do not depend on what lies behind them. -/
theorem groupsOf_take {count : Nat} {bytes : Bytes} (h : count * size ≤ bytes.length) :
    groupsOf size count (bytes.take (count * size)) = groupsOf size count bytes := by
  have hprefix : (bytes.take (count * size)).length = count * size := by
    rw [List.length_take, Nat.min_eq_left h]
  calc groupsOf size count (bytes.take (count * size))
    _ = groupsOf size (count + 0) (bytes.take (count * size) ++ bytes.drop (count * size)) := by
      rw [groupsOf_append hprefix, groupsOf, List.append_nil]
    _ = groupsOf size count bytes := by rw [List.take_append_drop, Nat.add_zero]

end groups

/-! ## Words -/

/-- How values are told by numbers of a width: the numbers of so many bytes stand for one value
each, and each value has its number. -/
structure Word (α : Type) where
  width : Nat
  toNat : α → Nat
  ofNat : Nat → α
  width_pos : 0 < width
  toNat_lt : ∀ v, toNat v < Nat.pow 256 width
  ofNat_toNat : ∀ v, ofNat (toNat v) = v
  toNat_ofNat : ∀ n, n < Nat.pow 256 width → toNat (ofNat n) = n

namespace Word

variable {α : Type} (w : Word α)

/-- The bytes of values. -/
def write (values : List α) : Bytes := values.flatMap fun v => littleEndian w.width (w.toNat v)

/-- The values in bytes; a last partial value is left out. -/
def read (bytes : Bytes) : List α :=
  (groupsOf w.width (bytes.length / w.width) bytes).map fun group => w.ofNat (ofLittleEndian group)

theorem length_write (values : List α) : (w.write values).length = values.length * w.width := by
  induction values with
  | nil => rw [write, List.flatMap_nil, List.length_nil, List.length_nil, Nat.zero_mul]
  | cons v values ih =>
    rw [write] at ih ⊢
    rw [List.flatMap_cons, List.length_append, ih, length_littleEndian, List.length_cons,
      Nat.succ_mul, Nat.add_comm]

/-- Values that were written are read as they were. -/
theorem read_write (values : List α) : w.read (w.write values) = values := by
  let rows := values.map fun v => littleEndian w.width (w.toNat v)
  have hrows : ∀ row ∈ rows, row.length = w.width := by
    intro row hrow
    obtain ⟨v, -, rfl⟩ := List.mem_map.1 hrow
    exact length_littleEndian w.width (w.toNat v)
  have hbytes : w.write values = rows.flatten := List.flatMap_def
  have hcount : (w.write values).length / w.width = rows.length := by
    rw [length_write, Nat.mul_div_cancel _ w.width_pos, List.length_map]
  rw [read, hcount, hbytes, groupsOf_flatten hrows, List.map_map]
  calc values.map _
    _ = values.map id := by
      apply List.map_congr_left
      intro v _
      rw [Function.comp_apply, ofLittleEndian_littleEndian, Nat.mod_eq_of_lt (w.toNat_lt v),
        w.ofNat_toNat, id_eq]
    _ = values := List.map_id values

/-- Bytes that hold whole values are what is written for the values that are read. -/
theorem write_read {bytes : Bytes} (h : w.width ∣ bytes.length) :
    w.write (w.read bytes) = bytes := by
  have hwhole : bytes.length = bytes.length / w.width * w.width := (Nat.div_mul_cancel h).symm
  have hgroup : ∀ group ∈ groupsOf w.width (bytes.length / w.width) bytes,
      littleEndian w.width (w.toNat (w.ofNat (ofLittleEndian group))) = group := by
    intro group hmem
    have hlength : group.length = w.width := length_of_mem_groupsOf (Nat.le_of_eq hwhole.symm) hmem
    have hbound : ofLittleEndian group < Nat.pow 256 w.width := hlength ▸ ofLittleEndian_lt group
    rw [w.toNat_ofNat _ hbound, ← hlength]
    exact littleEndian_ofLittleEndian group
  rw [write, read, List.flatMap_def, List.map_map]
  calc (List.map _ _).flatten
    _ = ((groupsOf w.width (bytes.length / w.width) bytes).map id).flatten := by
      apply congrArg List.flatten
      apply List.map_congr_left
      exact hgroup
    _ = bytes := by rw [List.map_id, flatten_groupsOf hwhole]

/-- The patterns of 32-bit floating-point values. -/
def binary32 : Word UInt32 where
  width := 4
  toNat := UInt32.toNat
  ofNat := UInt32.ofNat
  width_pos := by decide
  toNat_lt := UInt32.toNat_lt
  ofNat_toNat v := UInt32.ofNat_toNat
  toNat_ofNat _ hn := UInt32.toNat_ofNat_of_lt' hn

/-- Signed values of 32 bits. -/
def int32 : Word Int32 where
  width := 4
  toNat v := v.toUInt32.toNat
  ofNat n := (UInt32.ofNat n).toInt32
  width_pos := by decide
  toNat_lt v := v.toUInt32.toNat_lt
  ofNat_toNat v := by rw [UInt32.ofNat_toNat, Int32.toInt32_toUInt32]
  toNat_ofNat n hn := by rw [UInt32.toUInt32_toInt32, UInt32.toNat_ofNat_of_lt' hn]

/-- Signed values of 64 bits. -/
def int64 : Word Int64 where
  width := 8
  toNat v := v.toUInt64.toNat
  ofNat n := (UInt64.ofNat n).toInt64
  width_pos := by decide
  toNat_lt v := v.toUInt64.toNat_lt
  ofNat_toNat v := by rw [UInt64.ofNat_toNat, Int64.toInt64_toUInt64]
  toNat_ofNat n hn := by rw [UInt64.toUInt64_toInt64, UInt64.toNat_ofNat_of_lt' hn]

end Word

/-! ## Elements -/

namespace Element

variable {α : Type} {type : ElementType} {bytes : Bytes} {elements : List Element}

theorem decode_of_dvd (h : type.size ∣ bytes.length) : decode type bytes =
    .ok ((groupsOf type.size (bytes.length / type.size) bytes).map (ofBytes type)) :=
  if_pos (Nat.mod_eq_zero_of_dvd h)

theorem decode_of_not_dvd (h : ¬ type.size ∣ bytes.length) :
    decode type bytes = .error (.byteLength bytes.length type.size type.name) := by
  apply if_neg
  intro hmod
  exact h (Nat.dvd_of_mod_eq_zero hmod)

/-- Bytes are decoded exactly if they hold whole elements, group by group. -/
theorem decode_eq_ok_iff : decode type bytes = .ok elements ↔ type.size ∣ bytes.length ∧
    elements = (groupsOf type.size (bytes.length / type.size) bytes).map (ofBytes type) := by
  by_cases h : type.size ∣ bytes.length
  · rw [decode_of_dvd h, Except.ok.injEq]
    simp [h, eq_comm]
  · rw [decode_of_not_dvd h]
    simp [h]

/-- Decoding gives one value for each element that the bytes hold. -/
theorem length_of_decode (h : decode type bytes = .ok elements) :
    elements.length = bytes.length / type.size := by
  obtain ⟨-, rfl⟩ := decode_eq_ok_iff.1 h
  rw [List.length_map, length_groupsOf]

/-- Whether a value has the form in which values of a type are seen. Half precision is widened. -/
def IsOf (e : Element) : ElementType → Prop
  | .f32 => ∃ bits, e = .f32 bits
  | .f16 => ∃ bits, e = .f32 bits
  | .i32 => ∃ value, e = .i32 value
  | .i64 => ∃ value, e = .i64 value

theorem isOf_ofBytes (type : ElementType) (group : Bytes) : (ofBytes type group).IsOf type := by
  cases type with
  | f32 => exact ⟨_, rfl⟩
  | f16 => exact ⟨_, rfl⟩
  | i32 => exact ⟨_, rfl⟩
  | i64 => exact ⟨_, rfl⟩

/-! ## Types that are exchanged as they stand -/

/-- The elements of a type are words of its size, without any conversion. -/
structure Plain (type : ElementType) (w : Word α) (element : α → Element) : Prop where
  width_eq : w.width = type.size
  ofBytes_eq : ∀ group, ofBytes type group = element (w.ofNat (ofLittleEndian group))

theorem plain_f32 : Plain .f32 Word.binary32 .f32 := ⟨rfl, fun _ => rfl⟩

theorem plain_i32 : Plain .i32 Word.int32 .i32 := ⟨rfl, fun _ => rfl⟩

theorem plain_i64 : Plain .i64 Word.int64 .i64 := ⟨rfl, fun _ => rfl⟩

namespace Plain

variable {w : Word α} {element : α → Element}

/-- Whole elements are decoded as the words that are read. -/
theorem decode_eq (hplain : Plain type w element) (h : type.size ∣ bytes.length) :
    decode type bytes = .ok ((w.read bytes).map element) := by
  rw [decode_of_dvd h, Word.read, hplain.width_eq, List.map_map]
  apply congrArg Except.ok
  apply List.map_congr_left
  intro group _
  exact hplain.ofBytes_eq group

theorem dvd_length_write (hplain : Plain type w element) (values : List α) :
    type.size ∣ (w.write values).length := by
  rw [w.length_write, hplain.width_eq]
  exact Nat.dvd_mul_left _ _

end Plain

/-- Encoding and decoding undo each other, for elements of a type and for bytes that hold some. -/
structure Inverse (type : ElementType) (element : α → Element) (encode : List α → Bytes) :
    Prop where
  decode_encode : ∀ values, decode type (encode values) = .ok (values.map element)
  encode_decode : ∀ bytes elements, decode type bytes = .ok elements →
    ∃ values, elements = values.map element ∧ encode values = bytes

theorem Plain.inverse {w : Word α} {element : α → Element} (hplain : Plain type w element) :
    Inverse type element w.write where
  decode_encode := by
    intro values
    rw [hplain.decode_eq (hplain.dvd_length_write values), w.read_write]
  encode_decode := by
    intro bytes elements h
    have hwhole := (decode_eq_ok_iff.1 h).1
    rw [hplain.decode_eq hwhole, Except.ok.injEq] at h
    refine ⟨w.read bytes, h.symm, ?_⟩
    apply w.write_read
    rwa [hplain.width_eq]

/-- Floating-point patterns that were encoded are decoded to what they were. -/
theorem decode_encodeF32 (values : List UInt32) :
    decode .f32 (encodeF32 values) = .ok (values.map .f32) :=
  plain_f32.inverse.decode_encode values

/-! ## Strings of whole elements -/

/-- What decoding a type means for every string: one that holds whole elements gives as many values
of the type's form, any other is refused with its length and the size of an element, and strings
that were joined are decoded one behind the other. -/
structure ReadsWhole (type : ElementType) : Prop where
  decodes : ∀ bytes, type.size ∣ bytes.length → ∃ elements, decode type bytes = .ok elements ∧
    elements.length = bytes.length / type.size ∧ ∀ e ∈ elements, e.IsOf type
  refuses : ∀ bytes, ¬ type.size ∣ bytes.length →
    decode type bytes = .error (.byteLength bytes.length type.size type.name)
  decode_append : ∀ first second elements others, decode type first = .ok elements →
    decode type second = .ok others → decode type (first ++ second) = .ok (elements ++ others)

theorem readsWhole (type : ElementType) : ReadsWhole type where
  decodes := by
    intro bytes h
    have hdecode := decode_of_dvd h
    refine ⟨_, hdecode, length_of_decode hdecode, ?_⟩
    intro e he
    obtain ⟨group, -, rfl⟩ := List.mem_map.1 he
    exact isOf_ofBytes type group
  refuses := by
    intro bytes h
    exact decode_of_not_dvd h
  decode_append := by
    intro first second elements others hfirst hsecond
    obtain ⟨hwhole, rfl⟩ := decode_eq_ok_iff.1 hfirst
    obtain ⟨hwhole', rfl⟩ := decode_eq_ok_iff.1 hsecond
    have hgroups : first.length = first.length / type.size * type.size :=
      (Nat.div_mul_cancel hwhole).symm
    rw [decode_eq_ok_iff, List.length_append]
    refine ⟨Nat.dvd_add hwhole hwhole', ?_⟩
    have hcount : (first.length + second.length) / type.size =
        first.length / type.size + second.length / type.size := by
      rw [Nat.add_comm, hgroups, Nat.add_mul_div_right _ _ type.size_pos,
        Nat.mul_div_cancel _ type.size_pos, Nat.add_comm]
    rw [hcount, groupsOf_append hgroups, List.map_append]

/-- The patterns that are looked at without a check are those of the longest start that holds whole
elements. -/
theorem decode_take (bytes : Bytes) :
    decode .f32 (bytes.take (bytes.length / 4 * 4)) = .ok ((f32Values bytes).map .f32) := by
  have hfits : bytes.length / 4 * 4 ≤ bytes.length := Nat.div_mul_le_self bytes.length 4
  have hlength : (bytes.take (bytes.length / 4 * 4)).length = bytes.length / 4 * 4 := by
    rw [List.length_take, Nat.min_eq_left hfits]
  have hwhole : ElementType.f32.size ∣ (bytes.take (bytes.length / 4 * 4)).length := by
    rw [hlength]
    exact Nat.dvd_mul_left _ _
  have hread : Word.binary32.read (bytes.take (bytes.length / 4 * 4)) = f32Values bytes := by
    have hcount : (bytes.take (bytes.length / 4 * 4)).length / 4 = bytes.length / 4 := by
      rw [hlength, Nat.mul_div_cancel _ (by decide)]
    change (groupsOf 4 ((bytes.take (bytes.length / 4 * 4)).length / 4) _).map _ = _
    rw [hcount, groupsOf_take hfits]
    rfl
  rw [plain_f32.decode_eq hwhole, hread]

/-- Encoding and decoding undo each other in the types that are exchanged as they stand, bit for
bit. For every type, bytes are decoded exactly if they hold whole elements, to that many values of
the type's form, and joined strings to joined values. The patterns that are looked at without a
check are those that decoding the longest whole start gives. -/
theorem codec_inverse :
    Inverse .f32 .f32 encodeF32 ∧ Inverse .i32 .i32 encodeI32 ∧ Inverse .i64 .i64 encodeI64 ∧
      (∀ type, ReadsWhole type) ∧
      ∀ bytes, decode .f32 (bytes.take (bytes.length / 4 * 4)) =
        .ok ((f32Values bytes).map .f32) := by
  refine ⟨?_, ?_, ?_, readsWhole, decode_take⟩
  · exact plain_f32.inverse
  · exact plain_i32.inverse
  · exact plain_i64.inverse

/-- The payload of a number that is none and the sign of a zero survive. -/
example : decode .f32 (encodeF32 [0xFFC00001, 0x80000000]) =
    .ok [.f32 0xFFC00001, .f32 0x80000000] := by
  decide

end Element

end GraphServe
