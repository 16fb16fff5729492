/-!
# Byte strings

Byte strings are lists of bytes. Unsigned numbers are written least significant byte first
(`littleEndian`), and reading back what was written gives the number modulo the width
(`ofLittleEndian_littleEndian`).
-/

namespace GraphServe

/-- A string of bytes. -/
abbrev Bytes := List UInt8

/-- The `width` low bytes of a number, least significant first. -/
def littleEndian : (width : Nat) → Nat → Bytes
  | 0, _ => []
  | width + 1, n => UInt8.ofNat n :: littleEndian width (n / 256)

/-- The number whose bytes, least significant first, are given. -/
def ofLittleEndian : Bytes → Nat
  | [] => 0
  | b :: rest => b.toNat + 256 * ofLittleEndian rest

@[simp] theorem length_littleEndian (width n : Nat) : (littleEndian width n).length = width := by
  induction width generalizing n with
  | zero => rfl
  | succ width ih => simp [littleEndian, ih]

/-- Reading a written number gives it back modulo the width. -/
theorem ofLittleEndian_littleEndian (width n : Nat) :
    ofLittleEndian (littleEndian width n) = n % Nat.pow 256 width := by
  induction width generalizing n with
  | zero => simp [littleEndian, ofLittleEndian, Nat.mod_one]
  | succ width ih =>
    have low : (UInt8.ofNat n).toNat = n % 256 := rfl
    rw [littleEndian, ofLittleEndian, ih, low]
    rw [show Nat.pow 256 (width + 1) = 256 * Nat.pow 256 width from Nat.mul_comm _ _, Nat.mod_mul]

/-- A number that was read fits in the width of its bytes. -/
theorem ofLittleEndian_lt (bytes : Bytes) : ofLittleEndian bytes < Nat.pow 256 bytes.length := by
  induction bytes with
  | nil => decide
  | cons b rest ih =>
    have hb := b.toNat_lt
    have hpow : Nat.pow 256 (rest.length + 1) = Nat.pow 256 rest.length * 256 := rfl
    rw [ofLittleEndian, List.length_cons, hpow]
    omega

/-- Writing a number that was read gives its bytes back. -/
theorem littleEndian_ofLittleEndian (bytes : Bytes) :
    littleEndian bytes.length (ofLittleEndian bytes) = bytes := by
  induction bytes with
  | nil => rfl
  | cons b rest ih =>
    have bound := b.toNat_lt
    -- the first byte is what the division by 256 leaves over
    have low : UInt8.ofNat (b.toNat + 256 * ofLittleEndian rest) = b := by
      apply UInt8.toNat_inj.1
      rw [UInt8.toNat_ofNat']
      omega
    have high : (b.toNat + 256 * ofLittleEndian rest) / 256 = ofLittleEndian rest := by omega
    rw [ofLittleEndian, List.length_cons, littleEndian, low, high, ih]

/-- The first `count` groups of `size` bytes. -/
def groupsOf (size : Nat) : (count : Nat) → Bytes → List Bytes
  | 0, _ => []
  | count + 1, bytes => bytes.take size :: groupsOf size count (bytes.drop size)

@[simp] theorem length_groupsOf (size count : Nat) (bytes : Bytes) :
    (groupsOf size count bytes).length = count := by
  induction count generalizing bytes with
  | zero => rfl
  | succ count ih => simp [groupsOf, ih]

/-- Writes a string over the start of a region and keeps what lies behind it. What does not fit
is dropped, so the region keeps its length. -/
def overlay (written region : Bytes) : Bytes :=
  written.take region.length ++ region.drop written.length

@[simp] theorem length_overlay (written region : Bytes) :
    (overlay written region).length = region.length := by
  simp only [overlay, List.length_append, List.length_take, List.length_drop]
  omega

/-- What lies behind the written bytes stays. -/
theorem drop_overlay (written region : Bytes) :
    (overlay written region).drop written.length = region.drop written.length := by
  rw [overlay, List.drop_append, List.drop_eq_nil_of_le (List.length_take_le' ..),
    List.nil_append, List.length_take]
  rcases Nat.le_total written.length region.length with fits | cut
  · -- the whole string was written, and the rest begins right behind it
    rw [Nat.min_eq_right fits, Nat.sub_self, List.drop_zero]
  · -- the string was cut off, and nothing lies behind it
    rw [List.drop_eq_nil_of_le cut, List.drop_nil]

/-- Fits a string to a length: cuts it off or fills it up with zero bytes. -/
def fitted (length : Nat) (bytes : Bytes) : Bytes :=
  overlay bytes (List.replicate length 0)

/-- A string that fits takes the place of as many bytes. -/
theorem overlay_of_fits {written region : Bytes} (h : written.length ≤ region.length) :
    overlay written region = written ++ region.drop written.length := by
  rw [overlay, List.take_of_length_le h]

/-- A string that is not too long is filled up with zero bytes. -/
theorem fitted_of_length_le {length : Nat} {bytes : Bytes} (h : bytes.length ≤ length) :
    fitted length bytes = bytes ++ List.replicate (length - bytes.length) 0 := by
  rw [fitted, overlay_of_fits (by rwa [List.length_replicate]), List.drop_replicate]

/-- A string that is too long is cut off. -/
theorem fitted_of_le_length {length : Nat} {bytes : Bytes} (h : length ≤ bytes.length) :
    fitted length bytes = bytes.take length := by
  rw [fitted, overlay, List.length_replicate, List.drop_replicate, Nat.sub_eq_zero_of_le h,
    List.replicate_zero, List.append_nil]

/-- A string over the start of a cleared part is the string filled up to that part. -/
theorem overlay_overlay_replicate {length : Nat} {bytes region : Bytes}
    (hshort : bytes.length ≤ length) (hfits : length ≤ region.length) :
    overlay bytes (overlay (List.replicate length 0) region) =
      overlay (fitted length bytes) region := by
  have hcleared : overlay (List.replicate length 0) region =
      List.replicate length 0 ++ region.drop length := by
    rw [overlay_of_fits (by rwa [List.length_replicate]), List.length_replicate]
  have hfilled : (fitted length bytes).length = length := by
    rw [fitted, length_overlay, List.length_replicate]
  have hroom : bytes.length ≤ (overlay (List.replicate length 0) region).length := by
    rw [length_overlay]
    omega
  have hroom' : (fitted length bytes).length ≤ region.length := by omega
  rw [overlay_of_fits hroom, hcleared, overlay_of_fits hroom', hfilled,
    fitted_of_length_le hshort, List.append_assoc,
    List.drop_append_of_le_length (by rwa [List.length_replicate]), List.drop_replicate]

@[simp] theorem length_fitted (length : Nat) (bytes : Bytes) :
    (fitted length bytes).length = length := by
  simp [fitted]

end GraphServe
