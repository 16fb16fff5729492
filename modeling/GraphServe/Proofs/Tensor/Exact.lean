import GraphServe.Proofs.Tensor.Size

/-!
# Exact element counts and byte sizes

The element count is found by multiplying sizes from the left, so what decides whether there is one
is the product of the sizes up to the first axis of size zero (`elementCount?_eq_none_iff`). Without
such an axis this is the product of all sizes, whose order does not matter; with one the product of
all sizes is zero, but the sizes in front of that axis may leave 64 bits all the same. The count is
exact if and only if they do not (`elementCount?_exact`, `elementCount?_late_zero`).

Byte sizes are asked for only where no axis has size zero, so they are exact without exception
(`requiredBytes_exact`).
-/

namespace GraphServe

theorem checkedMul_eq_none_iff {a b : Nat} : checkedMul a b = none ↔ wordBound ≤ a * b := by
  rw [checkedMul]
  split <;> simp_all

namespace Shape

/-- The product of all sizes, as an exact number. -/
def product (s : Shape) : Nat := (s.dims.map UInt64.toNat).prod

/-- The product of sizes up to the first that is zero. -/
def leadingProduct : List UInt64 → Nat
  | [] => 1
  | d :: dims => if d = 0 then 1 else d.toNat * leadingProduct dims

/-- The product of the sizes in front of the first axis of size zero. -/
def leading (s : Shape) : Nat := leadingProduct s.dims

/-- The sizes in front of an axis of size zero, if there is one, multiply up within 64 bits. -/
def LeadingFits (s : Shape) : Prop := 0 ∈ s.dims → s.leading < wordBound

instance (s : Shape) : Decidable s.LeadingFits :=
  inferInstanceAs (Decidable (0 ∈ s.dims → s.leading < wordBound))

/-! ## The product of sizes -/

theorem leadingProduct_pos (dims : List UInt64) : 0 < leadingProduct dims := by
  induction dims with
  | nil => exact Nat.one_pos
  | cons d dims ih =>
    rw [leadingProduct]
    split
    · exact Nat.one_pos
    · next hd => exact Nat.mul_pos (toNat_pos hd) ih

theorem leading_eq_product {s : Shape} (h : 0 ∉ s.dims) : s.leading = s.product := by
  obtain ⟨dims⟩ := s
  rw [leading, product]
  induction dims with
  | nil => rfl
  | cons d dims ih =>
    obtain ⟨hd, hdims⟩ := not_or.1 (List.mem_cons.not.1 h)
    rw [leadingProduct, if_neg (Ne.symm hd), ih hdims, List.map_cons, List.prod_cons]

theorem product_eq_zero {s : Shape} (h : 0 ∈ s.dims) : s.product = 0 :=
  List.prod_eq_zero (List.mem_map.2 ⟨0, h, rfl⟩)

theorem product_pos {s : Shape} (h : 0 ∉ s.dims) : 0 < s.product :=
  leading_eq_product h ▸ leadingProduct_pos s.dims

theorem product_perm {s t : Shape} (h : t.dims.Perm s.dims) : t.product = s.product :=
  (h.map UInt64.toNat).prod_eq

/-! ## Multiplying up -/

/-- Once a product is zero it stays so. -/
theorem foldlM_zero (dims : List UInt64) :
    dims.foldlM (fun count d => checkedMul count d.toNat) 0 = some 0 := by
  induction dims with
  | nil => rfl
  | cons d dims ih =>
    have hstep : checkedMul 0 d.toNat = some 0 := by
      rw [checkedMul, Nat.zero_mul]
      exact if_pos (by decide)
    rw [List.foldlM_cons, hstep]
    exact ih

/-- Multiplying sizes up to a number that is not zero is given up exactly if the product of the
number and the sizes in front of the first zero does not fit. -/
theorem foldlM_eq_none_iff {dims : List UInt64} {start : Nat} (hpos : 0 < start)
    (hfits : start < wordBound) :
    dims.foldlM (fun count d => checkedMul count d.toNat) start = none ↔
      wordBound ≤ start * leadingProduct dims := by
  induction dims generalizing start with
  | nil => simpa [leadingProduct] using hfits
  | cons d dims ih =>
    rw [List.foldlM_cons, leadingProduct]
    -- from the first zero on nothing overflows, and in front of it the product never shrinks
    by_cases hd : d = 0
    · have hstep : checkedMul start d.toNat = some 0 := by
        rw [hd, checkedMul, UInt64.toNat_zero, Nat.mul_zero]
        exact if_pos (by decide)
      rw [hstep, if_pos hd, Nat.mul_one]
      simpa [foldlM_zero] using hfits
    · rw [if_neg hd, ← Nat.mul_assoc]
      have hmore : start * d.toNat ≤ start * d.toNat * leadingProduct dims :=
        Nat.le_mul_of_pos_right _ (leadingProduct_pos dims)
      cases hstep : checkedMul start d.toNat with
      | none =>
        have hover := checkedMul_eq_none_iff.1 hstep
        simpa using Nat.le_trans hover hmore
      | some next =>
        rw [checkedMul] at hstep
        split at hstep
        · next hbound =>
          cases hstep
          exact ih (Nat.mul_pos hpos (toNat_pos hd)) hbound
        · cases hstep

/-- There is no element count exactly if the sizes in front of the first zero leave 64 bits. -/
theorem elementCount?_eq_none_iff {s : Shape} :
    s.elementCount? = none ↔ wordBound ≤ s.leading := by
  rw [elementCount?, foldlM_eq_none_iff Nat.one_pos (by decide), Nat.one_mul, leading]

/-- An element count is the product of all sizes. -/
theorem elementCount?_eq_some_iff {s : Shape} {n : Nat} :
    s.elementCount? = some n ↔ s.product = n ∧ s.leading < wordBound := by
  constructor
  · intro h
    refine ⟨(eq_prod_of_elementCount? h).symm, ?_⟩
    apply Nat.lt_of_not_le
    intro hover
    rw [elementCount?_eq_none_iff.2 hover] at h
    cases h
  · rintro ⟨rfl, hfits⟩
    cases h : s.elementCount? with
    | none => exact absurd (elementCount?_eq_none_iff.1 h) (Nat.not_le_of_lt hfits)
    | some n => rw [eq_prod_of_elementCount? h, product]

theorem leading_lt_iff {s : Shape} (h : s.LeadingFits) :
    s.leading < wordBound ↔ s.product < wordBound := by
  by_cases hzero : 0 ∈ s.dims
  · rw [product_eq_zero hzero]
    exact iff_of_true (h hzero) (by decide)
  · rw [leading_eq_product hzero]

/-- The element count is exact if and only if the sizes in front of an axis of size zero fit in 64
bits, as they do where there is no such axis: then it is the product of all sizes if this fits, there
is none if it does not, and the order of the axes does not matter. -/
theorem elementCount?_exact (s : Shape) :
    (s.LeadingFits ↔ ∀ n, s.elementCount? = some n ↔ s.product = n ∧ n < wordBound) ∧
      (s.LeadingFits → (s.elementCount? = none ↔ wordBound ≤ s.product)) ∧
      ∀ t : Shape, t.dims.Perm s.dims → s.LeadingFits → t.LeadingFits →
        t.elementCount? = s.elementCount? := by
  have hexact : ∀ {u : Shape}, u.LeadingFits →
      ∀ n, u.elementCount? = some n ↔ u.product = n ∧ n < wordBound := by
    intro u hu n
    rw [elementCount?_eq_some_iff, leading_lt_iff hu]
    constructor
    · rintro ⟨rfl, hfits⟩
      exact ⟨rfl, hfits⟩
    · rintro ⟨rfl, hfits⟩
      exact ⟨rfl, hfits⟩
  refine ⟨⟨hexact, ?_⟩, ?_, ?_⟩
  · intro hcount hzero
    -- the product is zero, which fits
    have hsome := (hcount 0).2 ⟨product_eq_zero hzero, by decide⟩
    exact (elementCount?_eq_some_iff.1 hsome).2
  · intro hs
    rw [elementCount?_eq_none_iff, ← Nat.not_lt, ← Nat.not_lt, leading_lt_iff hs]
  · intro t hperm hs ht
    apply Option.ext
    intro n
    rw [hexact hs, hexact ht, product_perm hperm]

/-- A zero behind sizes whose product fits makes the count zero, and so it is in any other order. -/
theorem elementCount?_exact_zero :
    let s : Shape := ⟨[4294967296, 4294967295, 0, 9223372036854775808, 2]⟩
    let t : Shape := ⟨[0, 2, 4294967295, 9223372036854775808, 4294967296]⟩
    t.dims.Perm s.dims ∧ s.LeadingFits ∧ t.LeadingFits ∧ s.elementCount? = some 0 ∧
      s.elementCount? ≠ none ∧ t.elementCount? = s.elementCount? := by
  intro s t
  have hperm : t.dims.Perm s.dims := by decide
  have hs : s.LeadingFits := by decide
  have ht : t.LeadingFits := by decide
  obtain ⟨hexact, hnone, horder⟩ := elementCount?_exact s
  refine ⟨hperm, hs, ht, ?_, ?_, horder t hperm hs ht⟩
  · exact (hexact.1 hs 0).2 ⟨by decide, by decide⟩
  · exact fun h => absurd ((hnone hs).1 h) (by decide)

/-- A zero behind sizes whose product leaves 64 bits comes too late: there is no count, although the
product of all sizes is zero, and with the zero in front there is one. -/
theorem elementCount?_late_zero :
    let late : Shape := ⟨[9223372036854775808, 2, 0]⟩
    let early : Shape := ⟨[0, 9223372036854775808, 2]⟩
    early.dims.Perm late.dims ∧ late.product = 0 ∧ late.elementCount? = none ∧
      early.elementCount? = some 0 := by
  decide

end Shape

/-! ## Byte sizes -/

namespace DataType

/-- The declared types that are served. -/
theorem elementType?_isSome_iff (t : DataType) :
    t.elementType?.isSome ↔ t ∈ [.f32, .f16, .i32, .i64] := by
  cases t <;> decide

end DataType

namespace Descriptor

variable {t : Descriptor} {s : Shape} {e : ElementType} {b : Nat}

theorem requiredBytes_of_unserved (h : t.dtype.elementType? = none) :
    t.requiredBytes s = .error (.unsupportedDType t.name t.dtype.name) := by
  rw [requiredBytes, elementType, h]
  rfl

theorem elementType_of_served (h : t.dtype.elementType? = some e) : t.elementType = .ok e := by
  rw [elementType, h]

/-- A served tensor with no axis of size zero has a byte size if its exact byte size fits. -/
theorem requiredBytes_of_fits (he : t.dtype.elementType? = some e) (hzero : 0 ∉ s.dims)
    (hfits : s.product * e.size < wordBound) : t.requiredBytes s = .ok (s.product * e.size) := by
  have hnone : s.zeroAxis? = none := Shape.zeroAxis?_eq_none_iff.2 hzero
  have hcount : s.elementCount? = some s.product := by
    refine Shape.elementCount?_eq_some_iff.2 ⟨rfl, ?_⟩
    rw [Shape.leading_eq_product hzero]
    exact Nat.lt_of_le_of_lt (Nat.le_mul_of_pos_right _ e.size_pos) hfits
  have hproduct : s.elementCount?.bind (checkedMul · e.size) = some (s.product * e.size) := by
    rw [hcount]
    exact if_pos hfits
  rw [requiredBytes, elementType_of_served he, ok_bind, hnone]
  simp only [hproduct]
  rfl

/-- The byte size of a served tensor is its exact byte size, if no axis has size zero and it fits. -/
theorem requiredBytes_eq_ok_iff (he : t.dtype.elementType? = some e) :
    t.requiredBytes s = .ok b ↔
      0 ∉ s.dims ∧ s.product * e.size = b ∧ b < wordBound := by
  constructor
  · intro h
    obtain ⟨dtype, hdtype, hpositive, hbytes, hfits⟩ := requiredBytes_spec h
    obtain rfl : e = dtype := Except.ok.inj ((elementType_of_served he).symm.trans hdtype)
    refine ⟨fun hzero => ?_, hbytes.symm, hfits⟩
    exact absurd (hpositive 0 hzero) (by decide)
  · rintro ⟨hzero, rfl, hfits⟩
    exact requiredBytes_of_fits he hzero hfits

/-- A served tensor without a byte size is refused for its shape, by its name. -/
theorem requiredBytes_cases (he : t.dtype.elementType? = some e) (s : Shape) :
    (∃ b, t.requiredBytes s = .ok b) ∨
      ∃ reason, t.requiredBytes s = .error (.invalidShape t.name reason) := by
  cases h : t.requiredBytes s with
  | ok b => exact Or.inl ⟨b, rfl⟩
  | error error =>
    rcases cause_of_requiredBytes_eq_error h with hdtype | ⟨_, reason, -, rfl⟩
    · rw [elementType_of_served he] at hdtype
      cases hdtype
    · exact Or.inr ⟨reason, rfl⟩

/-- The sizes of a tensor that has a byte size are the same as signed numbers, and positive. -/
theorem signed_of_requiredBytes (h : t.requiredBytes s = .ok b) {d : UInt64} (hd : d ∈ s.dims) :
    d.toNat < wordBound / 2 ∧ d.toInt64.toInt = d.toNat ∧ 0 < d.toInt64.toInt := by
  obtain ⟨-, -, hpositive, -, -⟩ := requiredBytes_spec h
  have hsigned := Shape.toInt_of_prod_lt hpositive (prod_lt_of_requiredBytes h) d hd
  have hbelow : d.toInt64.toInt < 9223372036854775808 := d.toInt64.toInt_lt
  have hhalf : wordBound / 2 = 9223372036854775808 := by decide
  have hd0 := hpositive d hd
  omega

/-- Byte sizes in any order of the axes: the same number, or a refusal of the same kind. -/
theorem requiredBytes_perm {s' : Shape} (h : s'.dims.Perm s.dims) :
    (t.requiredBytes s').mapError EngineError.label =
      (t.requiredBytes s).mapError EngineError.label := by
  cases he : t.dtype.elementType? with
  | none => rw [requiredBytes_of_unserved he, requiredBytes_of_unserved he]
  | some e =>
    have hsame : ∀ b, t.requiredBytes s' = .ok b ↔ t.requiredBytes s = .ok b := by
      intro b
      rw [requiredBytes_eq_ok_iff he, requiredBytes_eq_ok_iff he, h.mem_iff, Shape.product_perm h]
    rcases requiredBytes_cases he s with ⟨b, hs⟩ | ⟨reason, hs⟩
    · rw [hs, (hsame b).2 hs]
    · rcases requiredBytes_cases he s' with ⟨b, hs'⟩ | ⟨reason', hs'⟩
      · rw [(hsame b).1 hs'] at hs
        cases hs
      · rw [hs, hs']
        rfl

/-- A tensor has a byte size if and only if its type is served, no axis has size zero and the product
of all sizes and the element size fits in 64 bits, and then it is that product: a whole number of
elements, at least one, whose sizes are positive as signed numbers too. Else the tensor is refused,
for its type first and for its shape then; the order of the axes does not matter. -/
theorem requiredBytes_exact (t : Descriptor) (s : Shape) :
    (∀ b, t.requiredBytes s = .ok b ↔ t.dtype ∈ [.f32, .f16, .i32, .i64] ∧ 0 ∉ s.dims ∧
        s.product * t.dtype.size = b ∧ b < wordBound) ∧
      (∀ b, t.requiredBytes s = .ok b → t.dtype.size ≤ b ∧ t.dtype.size ∣ b ∧
        ∀ d ∈ s.dims, d.toNat < wordBound / 2 ∧ d.toInt64.toInt = d.toNat ∧ 0 < d.toInt64.toInt) ∧
      (t.dtype ∉ [.f32, .f16, .i32, .i64] →
        t.requiredBytes s = .error (.unsupportedDType t.name t.dtype.name)) ∧
      (t.dtype ∈ [.f32, .f16, .i32, .i64] →
        0 ∈ s.dims ∨ wordBound ≤ s.product * t.dtype.size →
        ∃ reason, t.requiredBytes s = .error (.invalidShape t.name reason)) ∧
      ∀ s' : Shape, s'.dims.Perm s.dims →
        (t.requiredBytes s').mapError EngineError.label =
          (t.requiredBytes s).mapError EngineError.label := by
  rw [← DataType.elementType?_isSome_iff]
  cases he : t.dtype.elementType? with
  | none =>
    have hrefused := requiredBytes_of_unserved (s := s) he
    refine ⟨?_, ?_, fun _ => hrefused, ?_, fun _ => requiredBytes_perm⟩
    · simp [hrefused]
    · simp [hrefused]
    · simp
  | some e =>
    have hok := fun b => requiredBytes_eq_ok_iff (s := s) (b := b) he
    rw [DataType.size_of_elementType? he] at hok
    refine ⟨?_, ?_, ?_, ?_, fun _ => requiredBytes_perm⟩
    · simpa using hok
    · intro b hb
      obtain ⟨hzero, hproduct, -⟩ := (hok b).1 hb
      refine ⟨?_, ?_, fun d hd => signed_of_requiredBytes hb hd⟩
      · rw [← hproduct]
        exact Nat.le_mul_of_pos_left _ (Shape.product_pos hzero)
      · exact hproduct ▸ Nat.dvd_mul_left _ _
    · simp
    · intro _ hbad
      rcases requiredBytes_cases he s with ⟨b, hb⟩ | hrefused
      · obtain ⟨hzero, hproduct, hfits⟩ := (hok b).1 hb
        rcases hbad with hbad | hbad
        · exact absurd hbad hzero
        · exact absurd hfits (Nat.not_lt_of_le (hproduct ▸ hbad))
      · exact hrefused

/-- Half precision over sizes whose product is just below the sign bit: the largest byte size of
all, in either order of the axes, and none for one more in an axis. -/
theorem requiredBytes_exact_largest :
    let t : Descriptor := ⟨"x", .input, .f16, ⟨[.dynamic "n", .dynamic "m"], by decide⟩⟩
    let s : Shape := ⟨[9223372036854775807, 1]⟩
    t.requiredBytes s = .ok 18446744073709551614 ∧
      (∀ d ∈ s.dims, 0 < d.toInt64.toInt) ∧
      (t.requiredBytes ⟨[1, 9223372036854775807]⟩).mapError EngineError.label =
        .ok 18446744073709551614 ∧
      ∃ reason, t.requiredBytes ⟨[9223372036854775807, 2]⟩ = .error (.invalidShape "x" reason) := by
  intro t s
  obtain ⟨hok, hsigned, -, -, horder⟩ := requiredBytes_exact t s
  have hbytes : t.requiredBytes s = .ok 18446744073709551614 :=
    (hok _).2 ⟨by decide, by decide, by decide, by decide⟩
  refine ⟨hbytes, fun d hd => ((hsigned _ hbytes).2.2 d hd).2.2, ?_, ?_⟩
  · rw [horder ⟨[1, 9223372036854775807]⟩ (by decide), hbytes]
    rfl
  · obtain ⟨-, -, -, hrefused, -⟩ := requiredBytes_exact t ⟨[9223372036854775807, 2]⟩
    exact hrefused (by decide) (Or.inr (by decide))

end Descriptor

end GraphServe
