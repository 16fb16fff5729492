import GraphServe.Proofs.Except
import GraphServe.Tensor.ByteSize
import Mathlib.Algebra.BigOperators.Ring.Finset
import Mathlib.Algebra.Order.BigOperators.GroupWithZero.List
import Mathlib.Algebra.Order.Ring.Nat

/-!
# Sizes of tensors

The element count of a shape is the product of its sizes (`eq_prod_of_elementCount?`), and the byte
size of a tensor is this count times the size of one element, which is at least two bytes. So the
sizes of a tensor that has a byte size lie below the sign bit: they are positive as signed numbers
too, and multiply to the element count (`sizes_of_requiredBytes`).
-/

namespace GraphServe

/-- An unsigned size as a signed number. -/
theorem toInt_toInt64 (size : UInt64) :
    size.toInt64.toInt =
      if size.toNat < 9223372036854775808 then (size.toNat : Int)
      else size.toNat - 18446744073709551616 := by
  have hint : size.toInt64.toInt = size.toBitVec.toInt := rfl
  have hnat : size.toBitVec.toNat = size.toNat := rfl
  rw [hint, BitVec.toInt_eq_toNat_cond, hnat]
  grind

namespace Shape

theorem toNat_pos {d : UInt64} (h : d ≠ 0) : 0 < d.toNat :=
  Nat.pos_of_ne_zero fun hzero => h (UInt64.toNat_inj.1 hzero)

theorem zeroAxis?_eq_none_iff {s : Shape} : s.zeroAxis? = none ↔ 0 ∉ s.dims := by
  rw [zeroAxis?, List.findIdx?_eq_none_iff]
  constructor
  · intro h hzero
    exact absurd (h 0 hzero) (by decide)
  · intro h d hd
    exact beq_eq_false_iff_ne.2 fun hd0 => h (hd0 ▸ hd)

/-- Multiplying sizes up to a number gives their product times that number. -/
theorem eq_mul_prod_of_foldlM {dims : List UInt64} {start count : Nat}
    (h : dims.foldlM (fun count d => checkedMul count d.toNat) start = some count) :
    count = start * (dims.map UInt64.toNat).prod := by
  induction dims generalizing start with
  | nil =>
    cases h
    rw [List.map_nil, List.prod_nil, Nat.mul_one]
  | cons d dims ih =>
    rw [List.foldlM_cons] at h
    obtain ⟨first, hfirst, hrest⟩ := Option.bind_eq_some_iff.1 h
    have hstep : first = start * d.toNat := by
      rw [checkedMul] at hfirst
      split at hfirst
      · exact (Option.some.inj hfirst).symm
      · cases hfirst
    rw [ih hrest, hstep, List.map_cons, List.prod_cons, Nat.mul_assoc]

/-- The element count is the product of the sizes. -/
theorem eq_prod_of_elementCount? {s : Shape} {count : Nat} (h : s.elementCount? = some count) :
    count = (s.dims.map UInt64.toNat).prod := by
  have hfold := eq_mul_prod_of_foldlM h
  rwa [Nat.one_mul] at hfold

/-- Sizes whose product lies below the sign bit are the same as signed numbers. -/
theorem toInt_of_prod_lt {s : Shape} (hpositive : ∀ d ∈ s.dims, 0 < d.toNat)
    (hprod : (s.dims.map UInt64.toNat).prod < 9223372036854775808) :
    ∀ d ∈ s.dims, d.toInt64.toInt = d.toNat := by
  have hprod_pos : 0 < (s.dims.map UInt64.toNat).prod := by
    apply List.prod_pos
    intro n hn
    obtain ⟨d, hd, rfl⟩ := List.mem_map.1 hn
    exact hpositive d hd
  intro d hd
  have hdvd : d.toNat ∣ (s.dims.map UInt64.toNat).prod := List.dvd_prod (List.mem_map_of_mem hd)
  have hle := Nat.le_of_dvd hprod_pos hdvd
  rw [toInt_toInt64, if_pos (Nat.lt_of_le_of_lt hle hprod)]

end Shape

theorem ElementType.two_le_size (e : ElementType) : 2 ≤ e.size := by
  cases e <;> decide

namespace Descriptor

/-- A tensor that has a byte size is of a served type and has no axis of size zero; the byte size is
the product of the sizes times the size of one element. -/
theorem requiredBytes_spec {t : Descriptor} {s : Shape} {bytes : Nat}
    (h : t.requiredBytes s = .ok bytes) :
    ∃ dtype, t.elementType = .ok dtype ∧ (∀ d ∈ s.dims, 0 < d.toNat) ∧
      bytes = (s.dims.map UInt64.toNat).prod * dtype.size ∧ bytes < wordBound := by
  rw [requiredBytes] at h
  obtain ⟨dtype, hdtype, h⟩ := bind_eq_ok_iff.1 h
  refine ⟨dtype, hdtype, ?_⟩
  split at h
  · cases h
  · next hzero =>
    split at h
    · next product hproduct =>
      cases h
      obtain ⟨count, hcount, hmul⟩ := Option.bind_eq_some_iff.1 hproduct
      rw [checkedMul] at hmul
      split at hmul
      · next hbound =>
        cases hmul
        refine ⟨?_, by rw [Shape.eq_prod_of_elementCount? hcount], hbound⟩
        intro d hd
        apply Shape.toNat_pos
        rintro rfl
        exact Shape.zeroAxis?_eq_none_iff.1 hzero hd
      · cases hmul
    · cases h

/-- A tensor without a byte size is refused for its type or, if this is served, for its shape. -/
theorem cause_of_requiredBytes_eq_error {t : Descriptor} {s : Shape} {e : EngineError}
    (h : t.requiredBytes s = .error e) :
    t.elementType = .error e ∨ ∃ dtype reason, t.elementType = .ok dtype ∧
      e = .invalidShape t.name reason := by
  rw [requiredBytes] at h
  rcases bind_eq_error_iff.1 h with hdtype | ⟨dtype, hdtype, h⟩
  · exact Or.inl hdtype
  · refine Or.inr ⟨dtype, ?_⟩
    split at h
    · cases h
      exact ⟨_, hdtype, rfl⟩
    · split at h
      · cases h
      · cases h
        exact ⟨_, hdtype, rfl⟩

/-- The byte size of a tensor is a multiple of its element size. -/
theorem mod_size_of_requiredBytes {t : Descriptor} {s : Shape} {dtype : ElementType} {bytes : Nat}
    (hdtype : t.elementType = .ok dtype) (h : t.requiredBytes s = .ok bytes) :
    bytes % dtype.size = 0 := by
  obtain ⟨dtype', hdtype', -, rfl, -⟩ := requiredBytes_spec h
  obtain rfl : dtype' = dtype := Except.ok.inj (hdtype'.symm.trans hdtype)
  exact Nat.mul_mod_left _ _

/-- The sizes of a tensor that has a byte size multiply to a number below the sign bit. -/
theorem prod_lt_of_requiredBytes {t : Descriptor} {s : Shape} {bytes : Nat}
    (h : t.requiredBytes s = .ok bytes) :
    (s.dims.map UInt64.toNat).prod < 9223372036854775808 := by
  obtain ⟨dtype, -, -, hbytes, hbound⟩ := requiredBytes_spec h
  -- the byte size is a word, and half of it leaves the sign bit free
  have hdouble : (s.dims.map UInt64.toNat).prod * 2 ≤ bytes := by
    rw [hbytes]
    exact Nat.mul_le_mul_left _ dtype.two_le_size
  have hword : wordBound = 18446744073709551616 := rfl
  omega

/-- The sizes of a tensor that has a byte size are positive as signed numbers, and their product is
the number of elements that the bytes hold. -/
theorem sizes_of_requiredBytes {t : Descriptor} {s : Shape} {bytes : Nat} {dtype : ElementType}
    (h : t.requiredBytes s = .ok bytes) (hdtype : t.elementType = .ok dtype) :
    (∀ n ∈ s.sizes, 0 < n.toInt) ∧
      (s.sizes.map Int64.toInt).prod = (bytes / dtype.size : Nat) ∧ bytes % dtype.size = 0 := by
  have hprod := prod_lt_of_requiredBytes h
  obtain ⟨dtype', hdtype', hpositive, hbytes, -⟩ := requiredBytes_spec h
  obtain rfl : dtype' = dtype := Except.ok.inj (hdtype'.symm.trans hdtype)
  have hsize := dtype'.two_le_size
  have hsigned := Shape.toInt_of_prod_lt hpositive hprod
  refine ⟨?_, ?_, mod_size_of_requiredBytes hdtype h⟩
  · intro n hn
    obtain ⟨d, hd, rfl⟩ := List.mem_map.1 hn
    rw [hsigned d hd]
    exact Int.natCast_pos.2 (hpositive d hd)
  · have hmap : s.sizes.map Int64.toInt = (s.dims.map UInt64.toNat).map Nat.cast := by
      rw [Shape.sizes, List.map_map, List.map_map]
      exact List.map_congr_left hsigned
    rw [hmap, hbytes, Nat.mul_div_cancel _ (Nat.lt_of_lt_of_le Nat.two_pos hsize),
      Nat.cast_list_prod]

end Descriptor

end GraphServe
