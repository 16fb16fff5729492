import GraphServe.Text.Utf8
import GraphServe.Proofs.Except

/-!
# UTF-8 texts

Decoding accepts exactly the encodings of texts (`decode_eq_ok_iff`): what was written is read back,
and what was read is written back byte for byte, so that each text has one stored form.
-/

namespace GraphServe.Text.Utf8

theorem toNat_ofNat_of_isValidChar {n : Nat} (h : n.isValidChar) : (Char.ofNat n).toNat = n := by
  rw [Char.ofNat, dif_pos h]
  rfl

theorem ofNat_eq {n : Nat} {b : UInt8} (h : n % 256 = b.toNat) : UInt8.ofNat n = b := by
  rw [← UInt8.toNat_inj, UInt8.toNat_ofNat', h]

theorem toNat_ofNat_of_lt {n : Nat} (h : n < 256) : (UInt8.ofNat n).toNat = n := by
  rw [UInt8.toNat_ofNat', Nat.mod_eq_of_lt h]

theorem not_lt_of_le {a : UInt8} (h : 0x80 ≤ a.toNat) : ¬ a < 0x80 := by
  simpa [UInt8.lt_iff_toNat_lt] using h

/-! ## First and second bytes -/

/-- The first bytes of longer characters, as numbers. -/
theorem following_eq (a : UInt8) :
    following a =
      if a.toNat < 0xC2 then none
      else if a.toNat < 0xE0 then some (1, 0x80, 0xBF)
      else if a.toNat = 0xE0 then some (2, 0xA0, 0xBF)
      else if a.toNat = 0xED then some (2, 0x80, 0x9F)
      else if a.toNat < 0xF0 then some (2, 0x80, 0xBF)
      else if a.toNat = 0xF0 then some (3, 0x90, 0xBF)
      else if a.toNat < 0xF4 then some (3, 0x80, 0xBF)
      else if a.toNat = 0xF4 then some (3, 0x80, 0x8F)
      else none := by
  simp only [following, UInt8.lt_iff_toNat_lt, ← UInt8.toNat_inj]
  rfl

/-- How many bytes follow the first byte of a longer character. -/
def tailLength (a : UInt8) : Nat := if a.toNat < 0xE0 then 1 else if a.toNat < 0xF0 then 2 else 3

/-- The least second byte: smaller ones would make an overlong form. -/
def leastSecond (a : UInt8) : UInt8 :=
  if a.toNat = 0xE0 then 0xA0 else if a.toNat = 0xF0 then 0x90 else 0x80

/-- The greatest second byte: greater ones would make a surrogate or leave the last plane. -/
def greatestSecond (a : UInt8) : UInt8 :=
  if a.toNat = 0xED then 0x9F else if a.toNat = 0xF4 then 0x8F else 0xBF

/-- A longer character begins with a byte from 0xC2 to 0xF4. -/
theorem following_eq_ite (a : UInt8) :
    following a = if 0xC2 ≤ a.toNat ∧ a.toNat ≤ 0xF4 then
      some (tailLength a, leastSecond a, greatestSecond a) else none := by
  rw [following_eq, tailLength, leastSecond, greatestSecond]
  grind

theorem of_following {a low high : UInt8} {count : Nat}
    (h : following a = some (count, low, high)) :
    (0xC2 ≤ a.toNat ∧ a.toNat ≤ 0xF4) ∧
      tailLength a = count ∧ leastSecond a = low ∧ greatestSecond a = high := by
  rw [following_eq_ite] at h
  split at h
  · next hrange =>
    cases h
    exact ⟨hrange, rfl, rfl, rfl⟩
  · cases h

/-- The bytes that may stand right behind the first byte of a longer character. -/
structure Second (a b : UInt8) : Prop where
  low : 0x80 ≤ b.toNat
  high : b.toNat ≤ 0xBF
  three_not_overlong : a.toNat = 0xE0 → 0xA0 ≤ b.toNat
  not_surrogate : a.toNat = 0xED → b.toNat ≤ 0x9F
  four_not_overlong : a.toNat = 0xF0 → 0x90 ≤ b.toNat
  in_last_plane : a.toNat = 0xF4 → b.toNat ≤ 0x8F

theorem second_iff (a b : UInt8) :
    Second a b ↔ ¬ (b < leastSecond a || greatestSecond a < b) = true := by
  have hleast : (leastSecond a).toNat =
      if a.toNat = 0xE0 then 0xA0 else if a.toNat = 0xF0 then 0x90 else 0x80 := by
    simp only [leastSecond, apply_ite UInt8.toNat]
    rfl
  have hgreatest : (greatestSecond a).toNat =
      if a.toNat = 0xED then 0x9F else if a.toNat = 0xF4 then 0x8F else 0xBF := by
    simp only [greatestSecond, apply_ite UInt8.toNat]
    rfl
  have hbounds : (¬ (b < leastSecond a || greatestSecond a < b) = true) ↔
      (leastSecond a).toNat ≤ b.toNat ∧ b.toNat ≤ (greatestSecond a).toNat := by
    simp [UInt8.le_iff_toNat_le]
  rw [hbounds, hleast, hgreatest]
  constructor
  · rintro ⟨hlow, hhigh, hthree, hsurrogate, hfour, hplane⟩
    grind
  · rintro ⟨hleast, hgreatest⟩
    constructor <;> grind

theorem isContinuation_iff (b : UInt8) :
    isContinuation b = true ↔ 0x80 ≤ b.toNat ∧ b.toNat ≤ 0xBF := by
  simp [isContinuation, UInt8.le_iff_toNat_le]

theorem isContinuation_tail (n : Nat) : isContinuation (UInt8.ofNat (0x80 + n % 64)) = true := by
  rw [isContinuation_iff, toNat_ofNat_of_lt (by omega)]
  omega

theorem payload_tail (n : Nat) : payload (UInt8.ofNat (0x80 + n % 64)) = n % 64 := by
  rw [payload, toNat_ofNat_of_lt (by omega)]
  omega

theorem payload_eq {b : UInt8} (hleast : 0x80 ≤ b.toNat) (hgreatest : b.toNat ≤ 0xBF) :
    payload b = b.toNat - 0x80 := by
  rw [payload]
  omega

/-! ## Characters -/

/-- The stored forms of characters, each with the number of its character. -/
inductive Form : Bytes → Nat → Prop
  | one {a : UInt8} : a.toNat < 0x80 → Form [a] a.toNat
  | two {a b : UInt8} : 0xC2 ≤ a.toNat → a.toNat < 0xE0 → Second a b →
      Form [a, b] (a.toNat % 32 * 64 + payload b)
  | three {a b c : UInt8} : 0xE0 ≤ a.toNat → a.toNat < 0xF0 → Second a b →
      isContinuation c = true → Form [a, b, c] (a.toNat % 16 * 4096 + payload b * 64 + payload c)
  | four {a b c d : UInt8} : 0xF0 ≤ a.toNat → a.toNat ≤ 0xF4 → Second a b →
      isContinuation c = true → isContinuation d = true →
      Form [a, b, c, d] (a.toNat % 8 * 262144 + payload b * 4096 + payload c * 64 + payload d)

/-- A stored form is what is written for its character. -/
theorem Form.encodeChar_eq {bytes : Bytes} {n : Nat} (h : Form bytes n) :
    encodeChar (Char.ofNat n) = bytes := by
  cases h with
  | @one a ha =>
    have hvalid : a.toNat.isValidChar := Or.inl (by omega)
    rw [encodeChar, toNat_ofNat_of_isValidChar hvalid, if_pos ha, UInt8.ofNat_toNat]
  | @two a b hlow hhigh hb =>
    obtain ⟨hleast, hgreatest, -, -, -, -⟩ := hb
    have hpayload := payload_eq hleast hgreatest
    -- every byte that is written is a quotient or a remainder of the number, which is one unknown
    generalize hn : a.toNat % 32 * 64 + payload b = n
    have hvalid : n.isValidChar := Or.inl (by omega)
    have ha : UInt8.ofNat (0xC0 + n / 64) = a := ofNat_eq (by omega)
    have hb : UInt8.ofNat (0x80 + n % 64) = b := ofNat_eq (by omega)
    rw [encodeChar, toNat_ofNat_of_isValidChar hvalid, if_neg (by omega), if_pos (by omega), ha, hb]
  | @three a b c hlow hhigh hb hc =>
    obtain ⟨hleast, hgreatest, hoverlong, hsurrogate, -, -⟩ := hb
    rw [isContinuation_iff] at hc
    have hpayload := payload_eq hleast hgreatest
    have hpayload' := payload_eq hc.1 hc.2
    generalize hn : a.toNat % 16 * 4096 + payload b * 64 + payload c = n
    have hvalid : n.isValidChar := by
      simp only [Nat.isValidChar]
      omega
    have ha : UInt8.ofNat (0xE0 + n / 4096) = a := ofNat_eq (by omega)
    have hb : UInt8.ofNat (0x80 + n / 64 % 64) = b := ofNat_eq (by omega)
    have hc : UInt8.ofNat (0x80 + n % 64) = c := ofNat_eq (by omega)
    rw [encodeChar, toNat_ofNat_of_isValidChar hvalid, if_neg (by omega), if_neg (by omega),
      if_pos (by omega), ha, hb, hc]
  | @four a b c d hlow hhigh hb hc hd =>
    obtain ⟨hleast, hgreatest, -, -, hoverlong, hplane⟩ := hb
    rw [isContinuation_iff] at hc hd
    have hpayload := payload_eq hleast hgreatest
    have hpayload' := payload_eq hc.1 hc.2
    have hpayload'' := payload_eq hd.1 hd.2
    generalize hn : a.toNat % 8 * 262144 + payload b * 4096 + payload c * 64 + payload d = n
    have hvalid : n.isValidChar := by
      simp only [Nat.isValidChar]
      omega
    have ha : UInt8.ofNat (0xF0 + n / 262144) = a := ofNat_eq (by omega)
    have hb : UInt8.ofNat (0x80 + n / 4096 % 64) = b := ofNat_eq (by omega)
    have hc : UInt8.ofNat (0x80 + n / 64 % 64) = c := ofNat_eq (by omega)
    have hd : UInt8.ofNat (0x80 + n % 64) = d := ofNat_eq (by omega)
    rw [encodeChar, toNat_ofNat_of_isValidChar hvalid, if_neg (by omega), if_neg (by omega),
      if_neg (by omega), ha, hb, hc, hd]

/-- What is written for a character is its stored form. -/
theorem form_encodeChar (c : Char) : Form (encodeChar c) c.toNat := by
  have hvalid : c.toNat < 0xD800 ∨ 0xDFFF < c.toNat ∧ c.toNat < 0x110000 := c.valid
  generalize hn : c.toNat = n at hvalid
  have htail (m : Nat) := toNat_ofNat_of_lt (n := 0x80 + m % 64) (by omega)
  rw [encodeChar, hn]
  -- the bounds are those at which a character takes one more byte
  rcases (by omega : n < 0x80 ∨ (0x80 ≤ n ∧ n < 0x800) ∨ (0x800 ≤ n ∧ n < 0x10000) ∨
    0x10000 ≤ n) with hone | ⟨hlow, htwo⟩ | ⟨hlow, hthree⟩ | hfour
  · have ha := toNat_ofNat_of_lt (n := n) (by omega)
    have hform : Form [UInt8.ofNat n] _ := .one (by omega)
    rw [if_pos hone]
    rwa [ha] at hform
  · have ha := toNat_ofNat_of_lt (n := 0xC0 + n / 64) (by omega)
    have hb := htail n
    have hform : Form [UInt8.ofNat (0xC0 + n / 64), UInt8.ofNat (0x80 + n % 64)] _ :=
      .two (by omega) (by omega) ⟨by omega, by omega, by omega, by omega, by omega, by omega⟩
    rw [if_neg (by omega), if_pos htwo]
    rwa [payload_tail, ha, show (0xC0 + n / 64) % 32 * 64 + n % 64 = n by omega] at hform
  · have ha := toNat_ofNat_of_lt (n := 0xE0 + n / 4096) (by omega)
    have hb := htail (n / 64)
    have hform : Form [UInt8.ofNat (0xE0 + n / 4096), UInt8.ofNat (0x80 + n / 64 % 64),
        UInt8.ofNat (0x80 + n % 64)] _ :=
      .three (by omega) (by omega) ⟨by omega, by omega, by omega, by omega, by omega, by omega⟩
        (isContinuation_tail n)
    rw [if_neg (by omega), if_neg (by omega), if_pos hthree]
    rwa [payload_tail, payload_tail, ha,
      show (0xE0 + n / 4096) % 16 * 4096 + n / 64 % 64 * 64 + n % 64 = n by omega] at hform
  · have ha := toNat_ofNat_of_lt (n := 0xF0 + n / 262144) (by omega)
    have hb := htail (n / 4096)
    have hform : Form [UInt8.ofNat (0xF0 + n / 262144), UInt8.ofNat (0x80 + n / 4096 % 64),
        UInt8.ofNat (0x80 + n / 64 % 64), UInt8.ofNat (0x80 + n % 64)] _ :=
      .four (by omega) (by omega) ⟨by omega, by omega, by omega, by omega, by omega, by omega⟩
        (isContinuation_tail (n / 64)) (isContinuation_tail n)
    rw [if_neg (by omega), if_neg (by omega), if_neg (by omega)]
    rwa [payload_tail, payload_tail, payload_tail, ha,
      show (0xF0 + n / 262144) % 8 * 262144 + n / 4096 % 64 * 4096 + n / 64 % 64 * 64 + n % 64 = n
        by omega] at hform

/-- A stored form is read as its character. -/
theorem Form.decodeFrom_append {bytes : Bytes} {n : Nat} (h : Form bytes n) (index : Nat)
    (rest : Bytes) :
    decodeFrom index (bytes ++ rest) =
      (Char.ofNat n :: ·) <$> decodeFrom (index + bytes.length) rest := by
  cases h with
  | @one a ha =>
    have hascii : a < 0x80 := UInt8.lt_iff_toNat_lt.2 ha
    show decodeFrom index (a :: rest) = _
    rw [decodeFrom, if_pos hascii]
    rfl
  | @two a b hlow hhigh hb =>
    have hcount : tailLength a = 1 := if_pos hhigh
    show decodeFrom index (a :: b :: rest) = _
    rw [decodeFrom, if_neg (not_lt_of_le (by omega)), following_eq_ite, if_pos (by omega), hcount]
    simp only [(second_iff a b).1 hb, if_true]
    rfl
  | @three a b c hlow hhigh hb hc =>
    have hcount : tailLength a = 2 := by rw [tailLength, if_neg (by omega), if_pos hhigh]
    show decodeFrom index (a :: b :: c :: rest) = _
    rw [decodeFrom, if_neg (not_lt_of_le (by omega)), following_eq_ite, if_pos (by omega), hcount]
    simp [(second_iff a b).1 hb, hc]
  | @four a b c d hlow hhigh hb hc hd =>
    have hcount : tailLength a = 3 := by rw [tailLength, if_neg (by omega), if_neg (by omega)]
    show decodeFrom index (a :: b :: c :: d :: rest) = _
    rw [decodeFrom, if_neg (not_lt_of_le (by omega)), following_eq_ite, if_pos (by omega), hcount]
    simp [(second_iff a b).1 hb, hc, hd]

/-! ## Texts -/

/-- What was written for characters is read as them. -/
theorem decodeFrom_flatMap_encodeChar (index : Nat) (cs : List Char) :
    decodeFrom index (cs.flatMap encodeChar) = .ok cs := by
  induction cs generalizing index with
  | nil => rfl
  | cons c rest ih =>
    rw [List.flatMap_cons, (form_encodeChar c).decodeFrom_append, ih, Char.ofNat_toNat]
    rfl

/-- What was read as characters is what is written for them. -/
theorem flatMap_encodeChar_of_decodeFrom {index : Nat} {bytes : Bytes} {cs : List Char}
    (h : decodeFrom index bytes = .ok cs) : cs.flatMap encodeChar = bytes := by
  -- the cases that read on are the forms of one to four bytes; in every other one reading fails
  fun_induction decodeFrom index bytes generalizing cs with
  | case1 index =>
    cases h
    rfl
  | case2 index a rest hascii ih =>
    obtain ⟨others, hothers, rfl⟩ := map_eq_ok_iff.1 h
    have hform := Form.one (a := a) (UInt8.lt_iff_toNat_lt.1 hascii)
    rw [List.flatMap_cons, ih hothers, hform.encodeChar_eq]
    rfl
  | case6 index a hlong low high b rest hb hfollowing ih =>
    obtain ⟨⟨hlow, -⟩, hcount, rfl, rfl⟩ := of_following hfollowing
    obtain ⟨others, hothers, rfl⟩ := map_eq_ok_iff.1 h
    have hform := Form.two hlow (by grind [tailLength]) ((second_iff a b).2 hb)
    rw [List.flatMap_cons, ih hothers, hform.encodeChar_eq]
    rfl
  | case9 index a hlong low high b hb c rest hc hfollowing hne ih =>
    obtain ⟨-, hcount, rfl, rfl⟩ := of_following hfollowing
    obtain ⟨others, hothers, rfl⟩ := map_eq_ok_iff.1 h
    have hform := Form.three (by grind [tailLength]) (by grind [tailLength])
      ((second_iff a b).2 hb) (by simpa using hc)
    rw [List.flatMap_cons, ih hothers, hform.encodeChar_eq]
    rfl
  | case12 index a hlong count low high hfollowing b hb hone c hc htwo d rest hd ih =>
    obtain ⟨⟨-, hhigh⟩, hcount, rfl, rfl⟩ := of_following hfollowing
    obtain ⟨others, hothers, rfl⟩ := map_eq_ok_iff.1 h
    have hform := Form.four (by grind [tailLength]) hhigh ((second_iff a b).2 hb)
      (by simpa using hc) (by simpa using hd)
    rw [List.flatMap_cons, ih hothers, hform.encodeChar_eq]
    rfl
  | _ => cases h

/-- A byte string is read as a text exactly if it is what is written for the text. -/
theorem decode_eq_ok_iff {bytes : Bytes} {s : String} :
    decode bytes = .ok s ↔ bytes = encode s := by
  rw [decode, encode, map_eq_ok_iff]
  constructor
  · rintro ⟨cs, hcs, rfl⟩
    rw [String.toList_ofList, flatMap_encodeChar_of_decodeFrom hcs]
  · rintro rfl
    exact ⟨s.toList, decodeFrom_flatMap_encodeChar 0 _, String.ofList_toList⟩

/-! ## Zero bytes -/

/-- Only the character zero is stored with a zero byte. -/
theorem Form.eq_zero_of_mem {bytes : Bytes} {n : Nat} (h : Form bytes n) (hmem : 0 ∈ bytes) :
    n = 0 := by
  -- no byte of a longer form is below 0x80
  have hcontinuation : ∀ {b : UInt8}, isContinuation b = true → b ≠ 0 := by
    rintro b hb rfl
    exact absurd hb (by decide)
  have hsecond : ∀ {a b : UInt8}, Second a b → b ≠ 0 := by
    rintro a b hb rfl
    exact absurd hb.low (by decide)
  have hlead : ∀ {a : UInt8}, 0xC2 ≤ a.toNat → a ≠ 0 := by
    rintro a ha rfl
    exact absurd ha (by decide)
  cases h with
  | @one a ha =>
    obtain rfl := List.mem_singleton.1 hmem
    rfl
  | two hlow _ hb => simp [(hlead hlow).symm, (hsecond hb).symm] at hmem
  | three hlow _ hb hc =>
    simp [(hlead (Nat.le_trans (by decide) hlow)).symm, (hsecond hb).symm,
      (hcontinuation hc).symm] at hmem
  | four hlow _ hb hc hd =>
    simp [(hlead (Nat.le_trans (by decide) hlow)).symm, (hsecond hb).symm,
      (hcontinuation hc).symm, (hcontinuation hd).symm] at hmem

/-- A text without the character zero is stored without zero bytes. -/
theorem zero_not_mem_encode {s : String} (h : Char.ofNat 0 ∉ s.toList) : 0 ∉ encode s := by
  intro hmem
  obtain ⟨c, hc, hzero⟩ := List.mem_flatMap.1 hmem
  have hnumber := (form_encodeChar c).eq_zero_of_mem hzero
  rw [← hnumber, Char.ofNat_toNat] at h
  exact h hc

end GraphServe.Text.Utf8
